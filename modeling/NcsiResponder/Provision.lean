import NcsiResponder.InitialState
import NcsiResponder.Isolation
import NcsiResponder.Retries

/-!
# Configuring a channel over the wire

What a management controller does after power-on: Clear Initial State, then one command
for each setting. An `Instruction` is such a command with its value, and `frame` lays it
out. The commands may come in any order: every one completes, and the channel ends up with
exactly the configuration that was asked for (`provision`). So a configuration can be
reached if and only if its address types are 3-bit values and nothing is switched on in
the Initial State (`reachable_configuration_iff`), on a board whose straps requests can name
(`enabled_reachable_iff`).
-/

namespace NcsiResponder

open BigEndian

/-! ## Requests to an instance -/

/-- The `ChannelID` of a request to this package and channel. -/
def requestID (package channel : UInt8) : UInt8 := package <<< packageIdShift ||| channel

/-- An identity that `ChannelID` has room for. -/
structure Addressable (package channel : UInt8) : Prop where
  package : package.toNat < 8
  channel : channel.toNat < 32

theorem requestID_bits {package channel : UInt8} (h : Addressable package channel) :
    requestID package channel >>> packageIdShift = package ∧
      requestID package channel &&& channelIdMask = channel := by
  have hbits : ∀ (p : Fin 8) (c : Fin 32),
      requestID (UInt8.ofNat p) (UInt8.ofNat c) >>> packageIdShift = UInt8.ofNat p ∧
        requestID (UInt8.ofNat p) (UInt8.ofNat c) &&& channelIdMask = UInt8.ofNat c := by
    decide +kernel
  have hboth := hbits ⟨package.toNat, h.package⟩ ⟨channel.toNat, h.channel⟩
  simpa only [UInt8.ofNat_toNat] using hboth

section Request

variable (channelID opcode : UInt8) (payload : List UInt8)

theorem request_package :
    Request.package (request channelID opcode payload) = channelID >>> packageIdShift := rfl

theorem request_channel :
    Request.channel (request channelID opcode payload) = channelID &&& channelIdMask := rfl

theorem request_opcode : Request.opcode (request channelID opcode payload) = opcode := rfl

theorem request_payloadLength (hlen : payload.length < 256) :
    (Request.payloadLength (request channelID opcode payload)).toNat = payload.length := by
  have hbytes : be16 (request channelID opcode payload Header.payloadLength)
      (request channelID opcode payload (Header.payloadLength + 1)) =
        be16 0 payload.length.toUInt8 := rfl
  rw [Request.payloadLength, hbytes, UInt16.toNat_and, be16_toNat]
  rw [show UInt16.toNat 0x0FFF = 2 ^ 12 - 1 from rfl, Nat.and_two_pow_sub_one_eq_mod]
  simp only [Nat.toUInt8, UInt8.toNat_zero, UInt8.toNat_ofNat']
  omega

end Request

section Run

variable {hal : Hal} {m : Machine} {package channel : UInt8}

/-- An addressable instance runs the command it is asked for, once its channel is ready. -/
theorem runs_request (haddressable : Addressable package channel)
    (hid : Identified package channel m) {c : Command} {payload : List UInt8}
    (hlookup : lookup c.opcode = some (c, payload.length)) (hlen : payload.length < 256)
    (hready : c.ignoreInit = true ∨ m.engine.state.ready = true) :
    m.engine.runs (request (requestID package channel) c.opcode payload) = some c := by
  obtain ⟨hpackage, hchannel⟩ := requestID_bits haddressable
  obtain ⟨-, rfl, rfl⟩ := hid
  rw [Engine.runs_eq_some, verdict_eq_run]
  refine ⟨?_, ?_, ?_⟩
  · simp [Engine.addressed, request_package, request_channel, hpackage, hchannel]
  · rw [request_opcode, request_payloadLength _ _ _ hlen, hlookup]
  · rcases hready with hignore | hready
    · exact .inr (.inl hignore)
    · refine .inr (.inr ⟨?_, hready⟩)
      rw [request_channel, hchannel]

/-- What a command leaves of the configuration. -/
theorem step_configuration_of_runs {mem : Nat → UInt8} {c : Command}
    (hruns : m.engine.runs mem = some c) :
    (m.step hal (.rxFrame mem)).engine.state.configuration =
      (c.newState hal mem m.calls m.engine.state).configuration := by
  obtain ⟨haddressed, hverdict⟩ := Engine.runs_eq_some.mp hruns
  rw [step_configuration haddressed, hverdict]
  rfl

theorem completed_of_runs (hlaid : m.engine.Laid) {mem : Nat → UInt8} {c : Command}
    (hruns : m.engine.runs mem = some c) (hsupported : c ≠ .unsupported)
    (hvlan : c ≠ .setVLANFilter) :
    Completed ⟨m, .rxFrame mem, m.step hal (.rxFrame mem)⟩ := by
  obtain ⟨haddressed, hverdict⟩ := Engine.runs_eq_some.mp hruns
  refine (completed_iff hlaid).mpr ⟨haddressed, ?_⟩
  rw [Machine.answer, hverdict]
  exact c.reply_responseCode _ hsupported hvlan

theorem step_identified (mem : Nat → UInt8) (hid : Identified package channel m) :
    Identified package channel (m.step hal (.rxFrame mem)) := by
  have hengine : (m.step hal (.rxFrame mem)).engine = (m.handle hal mem).engine :=
    m.step_engine (.rxFrame mem)
  unfold Identified
  rw [hengine]
  exact handle_identified mem hid

end Run

/-! ## Instructions -/

/-- A setting of a channel, with the value it is to have. -/
inductive Instruction where
  | channel (on : Bool)
  | networkTX (on : Bool)
  | aen (mcId : UInt8) (control : UInt32)
  | link (linkSettings oemLinkSettings : UInt32)
  | vlan (on : Bool)
  | broadcastFilter (settings : UInt32)
  | macFilter (slot : Fin maxMacFilters) (filter : MacFilter)

namespace Instruction

/-- The command for a setting. -/
def command : Instruction → Command
  | channel on => if on then .enableChannel else .disableChannel
  | networkTX on => if on then .enableChannelNetworkTX else .disableChannelNetworkTX
  | aen _ _ => .aenEnable
  | link _ _ => .setLink
  | vlan on => if on then .enableVLAN else .disableVLAN
  | broadcastFilter _ => .enableBroadcastFilter
  | macFilter _ _ => .setMACAddress

/-- `MACInfo`: the enable bit is the highest one, the address type the lowest three. -/
def macInfo (filter : MacFilter) : UInt8 :=
  (if filter.enabled then 0x80 else 0) ||| filter.addressType

/-- The payload of the command, as Ethernet.h lays it out. -/
def payload : Instruction → List UInt8
  | channel on => if on then [] else List.replicate 4 0
  | networkTX _ => []
  | aen mcId control => [0, 0, 0, mcId] ++ bytes32 control
  | link linkSettings oemLinkSettings => bytes32 linkSettings ++ bytes32 oemLinkSettings
  | vlan on => if on then [0, 0, 0, 1] else []
  | broadcastFilter settings => bytes32 settings
  | macFilter slot filter =>
    filter.mac.toList ++ [UInt8.ofNat (slot + 1), macInfo filter]

/-- What the setting is, after the command. -/
def effect (s : ChannelState) : Instruction → ChannelState
  | channel on => { s with enabled := on }
  | networkTX on => { s with txPassthroughEn := on }
  | aen mcId control => { s with aenMcId := mcId, aenControl := control }
  | link linkSettings oemLinkSettings =>
    { s with linkSettings := linkSettings, oemLinkSettings := oemLinkSettings }
  | vlan on => { s with vlanEnabled := on }
  | broadcastFilter settings => { s with broadcastFilterSettings := settings }
  | macFilter slot filter => { s with macFilters := s.macFilters.setIfInBounds slot filter }

/-- The part of the configuration that an instruction sets. -/
def part : Instruction → Fin 6 ⊕ Fin maxMacFilters
  | channel _ => .inl 0
  | networkTX _ => .inl 1
  | aen _ _ => .inl 2
  | link _ _ => .inl 3
  | vlan _ => .inl 4
  | broadcastFilter _ => .inl 5
  | macFilter slot _ => .inr slot

/-- The value is one that the command has room for. -/
def Encodable : Instruction → Prop
  | macFilter _ filter => filter.addressType.toNat < 8
  | _ => True

theorem lookup_command (i : Instruction) :
    lookup i.command.opcode = some (i.command, i.payload.length) := by
  cases i with
  | channel on | networkTX on | vlan on => cases on <;> rfl
  | aen _ _ | link _ _ | broadcastFilter _ => rfl
  | macFilter slot filter =>
    have hlength : (macFilter slot filter).payload.length = 8 := by simp [payload]
    rw [hlength]
    rfl

theorem length_payload (i : Instruction) : i.payload.length < 256 := by
  cases i with
  | channel on | networkTX on | vlan on => cases on <;> simp [payload]
  | aen _ _ | link _ _ | broadcastFilter _ | macFilter _ _ => simp [payload, bytes32]

/-- Instructions for different parts of the configuration do not interfere. -/
theorem effect_comm (s : ChannelState) (i j : Instruction) (h : i.part ≠ j.part) :
    j.effect (i.effect s) = i.effect (j.effect s) := by
  cases i <;> cases j <;> first
    | rfl
    | exact absurd rfl h
    | skip
  -- two filters are in different slots
  next slot filter slot' filter' =>
    have hne : (slot : Nat) ≠ slot' := fun hslot => h (congrArg Sum.inr (Fin.ext hslot))
    rw [effect, effect, effect, effect, Vector.setIfInBound_comm _ _ hne]

/-- `SETMAC_ENABLE` and `SETMAC_AT` read back what `macInfo` holds. -/
theorem setmac_macInfo {filter : MacFilter} (h : filter.addressType.toNat < 8) :
    (setmacEnable (macInfo filter) != 0) = filter.enabled ∧
      setmacAT (macInfo filter) = filter.addressType := by
  have hbits : ∀ (enabled : Bool) (at_ : Fin 8),
      (setmacEnable ((if enabled then 0x80 else 0) ||| UInt8.ofNat at_) != 0) = enabled ∧
        setmacAT ((if enabled then 0x80 else 0) ||| UInt8.ofNat at_) = UInt8.ofNat at_ := by
    decide +kernel
  have hboth := hbits filter.enabled ⟨filter.addressType.toNat, h⟩
  rwa [UInt8.ofNat_toNat] at hboth

/-- The filter and the slot that the handler finds in the payload. -/
theorem macFilter_request (channelID opcode : UInt8) {slot : Fin maxMacFilters} {filter : MacFilter}
    (h : filter.addressType.toNat < 8) :
    Request.macFilter (request channelID opcode (macFilter slot filter).payload) = filter ∧
      (Request.slot (request channelID opcode (macFilter slot filter).payload)).toNat = slot := by
  obtain ⟨henable, hat⟩ := setmac_macInfo h
  obtain ⟨enabled, addressType, ⟨⟨bytes⟩, hsize⟩⟩ := filter
  match bytes, hsize with
  | [b₀, b₁, b₂, b₃, b₄, b₅], _ =>
    let filter : MacFilter := ⟨enabled, addressType, #v[b₀, b₁, b₂, b₃, b₄, b₅]⟩
    let mem := request channelID opcode (macFilter slot filter).payload
    have hinfo : mem SetMACAddr.macInfo = macInfo filter := rfl
    have hnumber : mem SetMACAddr.macNumber = UInt8.ofNat (slot + 1) := rfl
    have hmac : Request.macAddress mem = #v[b₀, b₁, b₂, b₃, b₄, b₅] := rfl
    constructor
    · change Request.macFilter mem = filter
      rw [Request.macFilter, Request.macEnable, hinfo, hmac, henable, hat]
    · have hslot : (slot : Nat) < 8 := slot.isLt
      change (Request.slot mem).toNat = slot
      rw [Request.slot_toNat, hnumber, UInt8.toNat_ofNat']
      omega

/-- **The handlers read what the controller wrote**: a command does to the channel state what
    its instruction says. -/
theorem newState_request (hal : Hal) (channelID opcode : UInt8) (calls : List HalCall)
    (s : ChannelState) (i : Instruction) (h : i.Encodable) :
    i.command.newState hal (request channelID opcode i.payload) calls s = i.effect s := by
  cases i with
  | channel on | networkTX on | vlan on => cases on <;> rfl
  | aen mcId control =>
    have hword : Request.word (request channelID opcode (aen mcId control).payload)
        AENEnable.aenControl = control := be32_split control
    exact congrArg (fun word => { s with aenMcId := mcId, aenControl := word }) hword
  | link linkSettings oemLinkSettings =>
    have hlink : Request.word (request channelID opcode (link linkSettings oemLinkSettings).payload)
        SetLink.linkSettings = linkSettings := be32_split linkSettings
    have hoem : Request.word (request channelID opcode (link linkSettings oemLinkSettings).payload)
        SetLink.oemLinkSettings = oemLinkSettings := be32_split oemLinkSettings
    simp only [command, Command.newState, effect, hlink, hoem]
  | broadcastFilter settings =>
    have hword : Request.word (request channelID opcode (broadcastFilter settings).payload)
        EnableBroadcastFilter.broadcastPacketFilterSettings = settings := be32_split settings
    simp only [command, Command.newState, effect, hword]
  | macFilter slot filter =>
    obtain ⟨hfilter, hslot⟩ := @macFilter_request channelID opcode slot filter h
    simp only [command, Command.newState, effect, ChannelState.trackMac, hfilter, hslot]

theorem effect_configuration (i : Instruction) (s : ChannelState) :
    (i.effect s).configuration = i.effect s.configuration := by
  cases i <;> rfl

theorem effect_ready (i : Instruction) (s : ChannelState) : (i.effect s).ready = s.ready := by
  cases i <;> rfl

theorem get_eq_getElem (filters : Vector MacFilter maxMacFilters) {i : Nat}
    (hi : i < maxMacFilters) : filters.get ⟨i, hi⟩ = filters[i] := rfl

theorem ofFn_get (filters : Vector MacFilter maxMacFilters) :
    (Vector.ofFn fun slot => filters.get slot) = filters := by
  ext i hi
  rw [Vector.getElem_ofFn, get_eq_getElem]

/-- The filters, one slot after another. -/
theorem foldl_macFilters (filters : Vector MacFilter maxMacFilters)
    (slots : List (Fin maxMacFilters)) : ∀ s : ChannelState,
      (slots.map fun slot => macFilter slot (filters.get slot)).foldl effect s =
        { s with macFilters := Vector.ofFn fun slot =>
            if slots.any (· = slot) then filters.get slot else s.macFilters.get slot } := by
  -- on the slots still to be set, for the filters so far
  induction slots with
  | nil =>
    intro s
    simp [ofFn_get]
  | cons slot slots ih =>
    intro s
    obtain ⟨j, hj⟩ := slot
    rw [List.map_cons, List.foldl_cons, ih, effect]
    congr 1
    ext i hi
    simp only [Vector.getElem_ofFn, get_eq_getElem, Vector.getElem_setIfInBounds, List.any_cons,
      Fin.mk.injEq]
    cases hlater : slots.any (· = (⟨i, hi⟩ : Fin maxMacFilters)) with
    | true => simp
    | false =>
      by_cases hslot : j = i
      · subst hslot
        simp
      · simp [hslot]

theorem command_completes (i : Instruction) :
    i.command ≠ .unsupported ∧ i.command ≠ .setVLANFilter := by
  cases i with
  | channel on | networkTX on | vlan on => cases on <;> decide
  | _ => exact ⟨by rintro ⟨⟩, by rintro ⟨⟩⟩

/-- The frame that gives an instruction to an instance. -/
def frame (package channel : UInt8) (i : Instruction) : Nat → UInt8 :=
  request (requestID package channel) i.command.opcode i.payload

end Instruction

/-- Clear Initial State, to an instance. -/
def clearInitialStateFrame (package channel : UInt8) : Nat → UInt8 :=
  request (requestID package channel) ControlPacketType.clearInitialState []

/-! ## Configurations -/

/-- A configuration that the commands can express. -/
structure Configuration where
  enabled : Bool
  txPassthroughEn : Bool
  vlanEnabled : Bool
  aenMcId : UInt8
  aenControl : UInt32
  linkSettings : UInt32
  oemLinkSettings : UInt32
  broadcastFilterSettings : UInt32
  macFilters : Vector MacFilter maxMacFilters
  addressType_lt : ∀ filter ∈ macFilters, filter.addressType.toNat < 8

namespace Configuration

variable (cfg : Configuration)

/-- One instruction for each setting. -/
def instructions : List Instruction :=
  [.channel cfg.enabled, .networkTX cfg.txPassthroughEn, .aen cfg.aenMcId cfg.aenControl,
    .link cfg.linkSettings cfg.oemLinkSettings, .vlan cfg.vlanEnabled,
    .broadcastFilter cfg.broadcastFilterSettings] ++
    (List.finRange maxMacFilters).map fun slot => .macFilter slot (cfg.macFilters.get slot)

/-- The configuration of a channel that is ready. -/
def state : ChannelState :=
  { ChannelState.zero with
    ready := true
    enabled := cfg.enabled
    txPassthroughEn := cfg.txPassthroughEn
    vlanEnabled := cfg.vlanEnabled
    aenMcId := cfg.aenMcId
    aenControl := cfg.aenControl
    linkSettings := cfg.linkSettings
    oemLinkSettings := cfg.oemLinkSettings
    broadcastFilterSettings := cfg.broadcastFilterSettings
    macFilters := cfg.macFilters }

theorem encodable : ∀ i ∈ cfg.instructions, i.Encodable := by
  intro i hi
  rcases List.mem_append.mp hi with hi | hi
  · simp only [List.mem_cons, List.not_mem_nil, or_false] at hi
    rcases hi with rfl | rfl | rfl | rfl | rfl | rfl <;> trivial
  · obtain ⟨slot, -, rfl⟩ := List.mem_map.mp hi
    exact cfg.addressType_lt _ (Vector.getElem_mem slot.isLt)

theorem nodup_part : (cfg.instructions.map Instruction.part).Nodup := by
  have hparts : cfg.instructions.map Instruction.part =
      [.inl 0, .inl 1, .inl 2, .inl 3, .inl 4, .inl 5] ++ (List.finRange maxMacFilters).map .inr := by
    simp [instructions, Instruction.part, Function.comp_def]
  rw [hparts]
  decide

/-- Every instruction carried out leaves the configuration. -/
theorem foldl_instructions {s : ChannelState} (hready : s.ready = true) :
    cfg.instructions.foldl Instruction.effect s.configuration = cfg.state := by
  have hany (slot : Fin maxMacFilters) : (List.finRange maxMacFilters).any (· = slot) = true := by
    simp
  rw [instructions, List.foldl_append, Instruction.foldl_macFilters]
  simp only [hany, if_true, Instruction.ofFn_get, List.foldl_cons, List.foldl_nil, Instruction.effect,
    ChannelState.configuration, ChannelState.settings, state, hready]
  rfl

end Configuration

/-! ## Provisioning -/

section Run

variable {hal : Hal} {m : Machine} {package channel : UInt8} {hist : List Call}

/-- Instructions to a channel that is ready are carried out one after another. -/
theorem exists_instructed (haddressable : Addressable package channel)
    (instructions : List Instruction) : ∀ {hist : List Call} {m : Machine}, FwRun hal hist m →
      Identified package channel m → m.engine.state.ready = true →
      (∀ i ∈ instructions, i.Encodable) →
      ∃ newer m', FwRun hal (newer ++ hist) m' ∧
        newer.map Runs.Step.op =
          (instructions.map fun i => Op.rxFrame (i.frame package channel)).reverse ∧
        (∀ st ∈ newer, Completed st) ∧
        m'.engine.state.configuration =
          instructions.foldl Instruction.effect m.engine.state.configuration := by
  induction instructions with
  | nil => exact fun hrun _ _ _ => ⟨[], _, hrun, rfl, by simp, rfl⟩
  | cons i instructions ih =>
    intro hist m hrun hid hready hencodable
    rw [List.forall_mem_cons] at hencodable
    have hruns := runs_request haddressable hid i.lookup_command i.length_payload (.inr hready)
    obtain ⟨hsupported, hvlan⟩ := i.command_completes
    have hconfiguration := @step_configuration_of_runs hal m _ _ hruns
    rw [i.newState_request hal _ _ _ _ hencodable.1, i.effect_configuration] at hconfiguration
    have hready' := congrArg ChannelState.ready hconfiguration
    rw [i.effect_ready, ChannelState.configuration_ready, ChannelState.configuration_ready,
      hready] at hready'
    have hrun' : FwRun hal _ (m.step hal (.rxFrame (i.frame package channel))) :=
      hrun.next ((takes_iff hal (FwRun.port0 hal hrun) _).mpr rfl)
    obtain ⟨newer, m', hrun'', hops, hcompleted, hfinal⟩ :=
      ih hrun' (step_identified _ hid) hready' hencodable.2
    refine ⟨newer ++ [_], m', by rwa [List.append_assoc], ?_, ?_, ?_⟩
    · simp only [List.map_append, hops, List.map_cons, List.map_nil, List.reverse_cons]
    · intro st hst
      rcases List.mem_append.mp hst with hst | hst
      · exact hcompleted st hst
      · rw [List.mem_singleton.mp hst]
        exact completed_of_runs hrun.laid hruns hsupported hvlan
    · rw [hfinal, List.foldl_cons]
      exact congrArg (fun s => instructions.foldl Instruction.effect s) hconfiguration

/-- Clear Initial State, with the channel ready after it. -/
theorem step_clear (haddressable : Addressable package channel) (hrun : FwRun hal hist m)
    (hid : Identified package channel m) :
    let clear := clearInitialStateFrame package channel
    (m.step hal (.rxFrame clear)).engine.state.configuration =
        { m.engine.state with ready := true }.configuration ∧
      Completed ⟨m, .rxFrame clear, m.step hal (.rxFrame clear)⟩ := by
  have hruns : m.engine.runs (clearInitialStateFrame package channel) = some .clearInitialState :=
    @runs_request m _ _ haddressable hid .clearInitialState [] rfl (by decide) (.inl rfl)
  exact ⟨step_configuration_of_runs hruns,
    completed_of_runs hrun.laid hruns (by decide) (by decide)⟩

/-- What an instance with this identity has been given instructions for, it is configured as.
    The order does not matter: no two of the instructions are for the same setting. -/
theorem exists_provisioned (haddressable : Addressable package channel) (hrun : FwRun hal hist m)
    (hid : Identified package channel m) (cfg : Configuration) {instructions : List Instruction}
    (hperm : instructions.Perm cfg.instructions) :
    ∃ newer m', FwRun hal (newer ++ hist) m' ∧
      newer.map Runs.Step.op = (Op.rxFrame (clearInitialStateFrame package channel) ::
        instructions.map fun i => Op.rxFrame (i.frame package channel)).reverse ∧
      (∀ st ∈ newer, Completed st) ∧ m'.engine.state.configuration = cfg.state := by
  obtain ⟨hclear, hcompleted⟩ := step_clear haddressable hrun hid
  have hrun' : FwRun hal _ (m.step hal (.rxFrame (clearInitialStateFrame package channel))) :=
    hrun.next ((takes_iff hal (FwRun.port0 hal hrun) _).mpr rfl)
  have hencodable : ∀ i ∈ instructions, i.Encodable :=
    fun i hi => cfg.encodable i (hperm.mem_iff.mp hi)
  obtain ⟨newer, m', hrun'', hops, hcompleted', hfinal⟩ :=
    exists_instructed haddressable instructions hrun' (step_identified _ hid)
      (congrArg ChannelState.ready hclear) hencodable
  refine ⟨newer ++ [_], m', by rwa [List.append_assoc], ?_, ?_, ?_⟩
  · simp only [List.map_append, hops, List.map_cons, List.map_nil, List.reverse_cons]
  · intro st hst
    rcases List.mem_append.mp hst with hst | hst
    · exact hcompleted' st hst
    · rw [List.mem_singleton.mp hst]
      exact hcompleted
  · rw [hfinal, hclear, Runs.foldl_perm_of_nodup Instruction.effect Instruction.part
      Instruction.effect_comm hperm cfg.nodup_part, cfg.foldl_instructions rfl]

theorem booted_identified (hstraps : Strapped hal package channel) (hrun : FwRun hal hist m)
    (hbooted : Booted hist) : Identified package channel m :=
  ⟨FwRun.port0 hal hrun, identity_eq hstraps hrun hbooted⟩

/-- **Provisioning**: after `NCSI_init`, in whatever state the channel is, Clear Initial State
    and the commands for a configuration, in any order, all complete and leave exactly that
    configuration. -/
theorem provision (hstraps : Strapped hal package channel)
    (haddressable : Addressable package channel) (hrun : FwRun hal hist m) (hbooted : Booted hist)
    (cfg : Configuration) {instructions : List Instruction}
    (hperm : instructions.Perm cfg.instructions) :
    ∃ newer m', FwRun hal (newer ++ hist) m' ∧
      newer.map Runs.Step.op = (Op.rxFrame (clearInitialStateFrame package channel) ::
        instructions.map fun i => Op.rxFrame (i.frame package channel)).reverse ∧
      (∀ st ∈ newer, Completed st) ∧ m'.engine.state.configuration = cfg.state :=
  exists_provisioned haddressable hrun (booted_identified hstraps hrun hbooted) cfg hperm

/-- Every configuration is the one of some run. -/
theorem exists_configured (hstraps : Strapped hal package channel)
    (haddressable : Addressable package channel) (cfg : Configuration) :
    ∃ hist m, FwRun hal hist m ∧ Booted hist ∧ m.engine.state.configuration = cfg.state := by
  have hstart : FwRun hal [⟨Machine.registered, .init, Machine.registered.step hal .init⟩]
      (Machine.registered.step hal .init) :=
    Runs.Run.start.next ((takes_iff hal rfl .init).mpr rfl)
  obtain ⟨newer, m, hrun, -, -, hfinal⟩ := exists_provisioned haddressable hstart
    (booted_identified hstraps hstart ⟨_, List.mem_cons_self, rfl⟩) cfg (List.Perm.refl _)
  exact ⟨_, m, hrun, ⟨_, List.mem_append_right _ List.mem_cons_self, rfl⟩, hfinal⟩

/-! ## Reachable configurations -/

/-- The address types of the filters are 3-bit values. -/
def ChannelState.TypesFit (s : ChannelState) : Prop :=
  ∀ filter ∈ s.macFilters, filter.addressType.toNat < 8

theorem setmacAT_lt (info : UInt8) : (setmacAT info).toNat < 8 := by
  rw [setmacAT, UInt8.toNat_and]
  exact Nat.lt_succ_of_le Nat.and_le_right

theorem ChannelState.typesFit_zero : ChannelState.zero.TypesFit := by
  simp [ChannelState.TypesFit, ChannelState.zero, MacFilter.zero]

theorem ChannelState.TypesFit.reset {s : ChannelState} (h : s.TypesFit) : s.reset.TypesFit := by
  intro filter hfilter
  obtain ⟨before, hbefore, rfl⟩ := Vector.mem_map.mp hfilter
  exact h before hbefore

theorem ChannelState.TypesFit.trackMac {s : ChannelState} (h : s.TypesFit) (mem : Nat → UInt8) :
    (s.trackMac mem).TypesFit := by
  intro filter hfilter
  obtain ⟨i, hi, rfl⟩ := Vector.mem_iff_getElem.mp hfilter
  simp only [ChannelState.trackMac, Vector.getElem_setIfInBounds]
  split
  · exact setmacAT_lt _
  · exact h _ (Vector.getElem_mem hi)

/-- Only Set MAC Address writes address types. -/
theorem FwRun.typesFit (hrun : FwRun hal hist m) : m.engine.state.TypesFit := by
  refine hrun.engine_invariant (fun e => e.state.TypesFit) ChannelState.typesFit_zero fun m a h => ?_
  change (m.act hal a).engine.state.settings.TypesFit
  rw [Machine.act_settings]
  cases a with
  | control mem =>
    rw [Machine.newSettings]
    cases m.engine.runs mem with
    | none => exact h
    | some c =>
      cases c with
      | resetChannel => exact h.reset
      | setMACAddress => exact h.trackMac mem
      | _ => exact h
  | init => exact h.reset
  | _ => exact h

/-- The configuration that instructions for these settings leave. -/
def ChannelState.asConfiguration (s : ChannelState) (h : s.TypesFit) : Configuration where
  enabled := s.enabled
  txPassthroughEn := s.txPassthroughEn
  vlanEnabled := s.vlanEnabled
  aenMcId := s.aenMcId
  aenControl := s.aenControl
  linkSettings := s.linkSettings
  oemLinkSettings := s.oemLinkSettings
  broadcastFilterSettings := s.broadcastFilterSettings
  macFilters := s.macFilters
  addressType_lt := h

/-- What a reset leaves of an inert channel. -/
theorem ChannelState.Inert.reset_eq {s : ChannelState} (h : s.Inert) :
    ({ s with ready := true } : ChannelState).configuration.reset.configuration =
      { s with ready := false }.configuration := by
  have hfilters : (s.macFilters.map fun filter => { filter with enabled := false }) =
      s.macFilters := by
    ext i hi
    rw [Vector.getElem_map, ← h.macFilters _ (Vector.getElem_mem hi)]
  simp only [ChannelState.configuration, ChannelState.settings, ChannelState.reset, hfilters,
    h.enabled, h.txPassthroughEn, h.vlanEnabled, h.broadcastFilterSettings]

/-- **Which configurations can be reached**: those in which the address types of the filters
    are 3-bit values and, while the channel is in its Initial State, nothing is switched on. -/
theorem reachable_configuration_iff (hstraps : Strapped hal package channel)
    (haddressable : Addressable package channel) (s : ChannelState) :
    (∃ hist m, FwRun hal hist m ∧ Booted hist ∧ m.engine.state.configuration = s) ↔
      s.configuration = s ∧ s.Quiet ∧ s.TypesFit := by
  constructor
  · rintro ⟨hist, m, hrun, -, rfl⟩
    refine ⟨rfl, fun hready => ?_, hrun.typesFit⟩
    have hinert := FwRun.quiet hrun hready
    exact ⟨hinert.1, hinert.2, hinert.3, hinert.4, hinert.5⟩
  · rintro ⟨hself, hquiet, htypes⟩
    obtain ⟨hist, m, hrun, hbooted, hfinal⟩ :=
      exists_configured hstraps haddressable (s.asConfiguration htypes)
    have hready : { s with ready := true }.configuration = (s.asConfiguration htypes).state := rfl
    cases hwas : s.ready with
    | true =>
      refine ⟨hist, m, hrun, hbooted, ?_⟩
      rw [hfinal, ← hready, ← hwas]
      exact hself
    | false =>
      -- one Reset Channel more goes back to the Initial State
      have hid := booted_identified hstraps hrun hbooted
      let reset := request (requestID package channel) ControlPacketType.resetChannel
        (List.replicate 4 0)
      have hruns : m.engine.runs reset = some .resetChannel :=
        @runs_request m _ _ haddressable hid .resetChannel (List.replicate 4 0) rfl (by decide)
          (.inr (congrArg ChannelState.ready hfinal))
      refine ⟨_, _, hrun.next ((takes_iff hal (FwRun.port0 hal hrun) (.rxFrame reset)).mpr rfl),
        hbooted.imp fun _ h => ⟨List.mem_cons_of_mem _ h.1, h.2⟩, ?_⟩
      have hreset := @newState_configuration hal reset m.engine.state m.calls m.calls .resetChannel
      rw [step_configuration_of_runs hruns, hreset, hfinal, ← hready]
      refine ((hquiet hwas).reset_eq).trans ?_
      rw [← hwas]
      exact hself

/-! ## Strapping -/

/-- A frame that the handler of a channel command gets names the instance's own channel. -/
theorem addressable_of_runs (hid : Identified package channel m) {mem : Nat → UInt8} {c : Command}
    (hruns : m.engine.runs mem = some c) (hwide : c.packageCommand = false)
    (hinit : c.ignoreInit = false) : Addressable package channel := by
  obtain ⟨-, rfl, rfl⟩ := hid
  obtain ⟨haddressed, hverdict⟩ := Engine.runs_eq_some.mp hruns
  simp only [Engine.addressed, Bool.and_eq_true, beq_iff_eq] at haddressed
  obtain ⟨-, ⟨hpackage, -⟩ | hignore | ⟨hchannel, -⟩⟩ := verdict_eq_run.mp hverdict
  · cases hwide.symm.trans hpackage
  · cases hinit.symm.trans hignore
  · refine ⟨?_, ?_⟩
    · have hlt := (mem Header.channelID).toNat_lt
      rw [← haddressed.1, Request.package, UInt8.toNat_shiftRight, Nat.shiftRight_eq_div_pow,
        show packageIdShift.toNat % 8 = 5 from rfl]
      omega
    · rw [← hchannel, Request.channel, UInt8.toNat_and]
      exact Nat.lt_succ_of_le Nat.and_le_right

/-- An instance that requests cannot name: what other commands there are set no more than
    `ready`. -/
theorem configuration_of_not_addressable (hid : Identified package channel m)
    (hnone : ¬ Addressable package channel) (mem : Nat → UInt8) :
    { (m.step hal (.rxFrame mem)).engine.state.configuration with
      ready := m.engine.state.ready } = m.engine.state.configuration := by
  cases haddressed : m.engine.addressed mem with
  | false =>
    rw [step_other haddressed]
    rfl
  | true =>
    rw [step_configuration haddressed]
    cases hverdict : verdict m.engine mem with
    | refuse _ _ | uninitialized => rfl
    | run c =>
      have hruns : m.engine.runs mem = some c := Engine.runs_eq_some.mpr ⟨haddressed, hverdict⟩
      cases c with
      | clearInitialState | selectPackage | deselectPackage => rfl
      | _ => exact absurd (addressable_of_runs hid hruns rfl rfl) hnone

/-- Once booted, an enabled channel has an identity that requests can name. -/
theorem addressable_of_enabled (hstraps : Strapped hal package channel) (hrun : FwRun hal hist m) :
    Booted hist → m.engine.state.enabled = true → Addressable package channel := by
  induction hrun with
  | start =>
    rintro ⟨st, hst, -⟩
    cases hst
  | @next hist m m' op hrun htakes ih =>
    obtain rfl := (takes_iff hal (FwRun.port0 hal hrun) op).mp htakes
    intro hbooted henabled
    have hsettings := congrArg ChannelState.enabled (m.step_settings hal op)
    rw [show (m.step hal op).engine.state.settings.enabled = true from henabled] at hsettings
    have hbefore : op.action ≠ .init → Booted hist := by
      intro hop
      obtain ⟨st, hst, hinit⟩ := hbooted
      rcases List.mem_cons.mp hst with rfl | hst
      · subst hinit
        exact absurd rfl hop
      · exact ⟨st, hst, hinit⟩
    -- the channel was enabled before, or is enabled by a frame that names it
    cases haction : op.action with
    | control mem =>
      have hbooted' := hbefore (by simp [haction])
      rw [haction, Machine.newSettings] at hsettings
      cases hruns : m.engine.runs mem with
      | none =>
        rw [hruns] at hsettings
        exact ih hbooted' hsettings.symm
      | some c =>
        rw [hruns] at hsettings
        cases c with
        | enableChannel =>
          exact addressable_of_runs (booted_identified hstraps hrun hbooted') hruns rfl rfl
        | disableChannel | resetChannel => cases hsettings
        | _ => exact ih hbooted' hsettings.symm
    | init =>
      rw [haction] at hsettings
      cases hsettings
    | _ =>
      have hbooted' := hbefore (by simp [haction])
      rw [haction] at hsettings
      exact ih hbooted' hsettings.symm

/-- **Which straps work**: an instance can ever be enabled after `NCSI_init` if and only if its
    package ID has three bits and its channel ID five; with other straps no frame changes
    anything of the configuration but `ready`. -/
theorem enabled_reachable_iff (hstraps : Strapped hal package channel) :
    ((∃ hist m, FwRun hal hist m ∧ Booted hist ∧ m.engine.state.enabled = true) ↔
      Addressable package channel) ∧
    (¬ Addressable package channel → ∀ hist m, FwRun hal hist m → Booted hist → ∀ mem,
      { (m.step hal (.rxFrame mem)).engine.state.configuration with
        ready := m.engine.state.ready } = m.engine.state.configuration) := by
  refine ⟨⟨?_, fun haddressable => ?_⟩, fun hnone hist m hrun hbooted mem => ?_⟩
  · rintro ⟨hist, m, hrun, hbooted, henabled⟩
    exact addressable_of_enabled hstraps hrun hbooted henabled
  · let s : ChannelState := { ChannelState.zero with ready := true, enabled := true }
    obtain ⟨hist, m, hrun, hbooted, hfinal⟩ := exists_configured hstraps haddressable
      (s.asConfiguration ChannelState.typesFit_zero)
    exact ⟨hist, m, hrun, hbooted, congrArg ChannelState.enabled hfinal⟩
  · exact configuration_of_not_addressable (booted_identified hstraps hrun hbooted) hnone mem

end Run

/-! ## On the sample board -/

theorem strapped_sampleHal : Strapped sampleHal 0 0 := ⟨fun _ => rfl, fun _ => rfl⟩

/-- A channel that forwards what comes from one address, and nothing else. -/
def forwardingState : ChannelState :=
  { ChannelState.zero with
    ready := true
    txPassthroughEn := true
    macFilters := ChannelState.zero.macFilters.setIfInBounds 2
      { enabled := true, addressType := 0, mac := #v[2, 0, 0, 0, 0, 1] } }

theorem typesFit_forwardingState : forwardingState.TypesFit := by
  intro filter hfilter
  obtain ⟨i, hi, rfl⟩ := Vector.mem_iff_getElem.mp hfilter
  simp only [forwardingState, Vector.getElem_setIfInBounds]
  split
  · decide
  · exact ChannelState.typesFit_zero _ (Vector.getElem_mem hi)

/-- The commands in reverse. -/
theorem provision_reversed : ∃ hist m, FwRun sampleHal hist m ∧
    m.engine.state.configuration = forwardingState := by
  have hinit : FwRun sampleHal (play sampleHal [.init]).1 (play sampleHal [.init]).2 :=
    fwRun_play sampleHal [.init]
  obtain ⟨newer, m, hrun, -, -, hfinal⟩ := provision strapped_sampleHal ⟨by decide, by decide⟩ hinit
    ⟨_, List.mem_cons_self, rfl⟩ (forwardingState.asConfiguration typesFit_forwardingState)
    (List.reverse_perm _)
  exact ⟨_, m, hrun, hfinal⟩

theorem reachable_configuration_iff_forwarding : ∃ hist m, FwRun sampleHal hist m ∧ Booted hist ∧
    m.engine.state.configuration = forwardingState :=
  (reachable_configuration_iff strapped_sampleHal ⟨by decide, by decide⟩ forwardingState).mpr
    ⟨rfl, nofun, typesFit_forwardingState⟩

/-- A board whose channel pin gives a number that has no room in `ChannelID`. -/
def wideHal : Hal := { sampleHal with readChannelID := fun _ => 32 }

/-- The sample board can be enabled. On the other one Clear Initial State to the whole package
    completes, and leaves the rest of the configuration as it was. -/
theorem enabled_reachable_iff_sampleHal :
    (∃ hist m, FwRun sampleHal hist m ∧ Booted hist ∧ m.engine.state.enabled = true) ∧
      let m := (play wideHal [.init]).2
      let m' := m.step wideHal (.rxFrame (request channelIdPackage
        ControlPacketType.clearInitialState []))
      m'.engine.state.ready = true ∧
        { m'.engine.state.configuration with ready := m.engine.state.ready } =
          m.engine.state.configuration := by
  have hwide : Strapped wideHal 0 32 := ⟨fun _ => rfl, fun _ => rfl⟩
  refine ⟨(enabled_reachable_iff strapped_sampleHal).1.mpr ⟨by decide, by decide⟩,
    by decide +kernel, ?_⟩
  exact (enabled_reachable_iff hwide).2 (fun h => absurd h.channel (by decide)) _ _
    (fwRun_play wideHal [.init]) ⟨_, List.mem_cons_self, rfl⟩ _

end NcsiResponder
