import Mathlib.Tactic.IntervalCases
import NcsiResponder.Settings

/-!
# Pass-through from the BMC to the network

`ncsi_passthrough_tx_from_mc` forwards a frame according to two settings: the Channel
Network TX switch and the MAC filter table. Both are last writers over the history
of accepted commands, so the decision can be read off the history.

- `ncsiPassthroughTxFromMc_iff`: what is forwarded, in any run.
- `onlyNcsiSent_iff`: which runs of `ncsi_on_rx_frame` hand only NC-SI frames to
  `Network_TxFrame`.
-/

namespace NcsiResponder

open Runs.Run (since)

/-! ## The two settings, by history -/

/-- A call that sets the Channel Network TX switch. -/
def setsTx (st : Call) : Bool :=
  accepted ControlPacketType.enableChannelNetworkTX st ||
    accepted ControlPacketType.disableChannelNetworkTX st || isReset st

/-- The last one among the accepted Enable and Disable Channel Network TX and the
    resets was an Enable. -/
def TxEnabled (hist : List Call) : Prop :=
  ∃ st, hist.find? setsTx = some st ∧ accepted ControlPacketType.enableChannelNetworkTX st

/-- An accepted Set MAC Address frame naming slot `k`: MACNumber `k + 1`, or 0 for slot 0. -/
def setsSlot (k : Nat) (st : Call) : Bool :=
  match st.op.action with
  | .control mem =>
    accepted ControlPacketType.setMACAddress st &&
      ((mem SetMACAddr.macNumber).toNat == k + 1 || (mem SetMACAddr.macNumber == 0 && k == 0))
  | _ => false

/-- The frame of this call asks for an enabled unicast filter for the source address. -/
def AdmitsSource (src : RxPtr) (st : Call) : Prop :=
  ∃ mem, st.op.action = .control mem ∧ setmacEnable (mem SetMACAddr.macInfo) ≠ 0 ∧
    setmacAT (mem SetMACAddr.macInfo) = 0 ∧
    ∀ b < 6, mem (SetMACAddr.macAddress + b) = src.byte b

/-- For some slot, the last accepted Set MAC Address naming it since the last reset was
    an enabled unicast filter for the source address. -/
def SourceConfigured (hist : List Call) (src : RxPtr) : Prop :=
  ∃ k < maxMacFilters, ∃ st, (since isReset hist).find? (setsSlot k) = some st ∧
    AdmitsSource src st

section Hal

variable {hal : Hal} {m : Machine}

/-! ## The Channel Network TX switch -/

theorem txPassthroughEn_iff {hist : List Call} (hrun : FwRun hal hist m) :
    m.engine.state.txPassthroughEn = true ↔ TxEnabled hist :=
  switched_txPassthroughEn.iff_accepted hrun

/-! ## The MAC filter table -/

/-- What a slot lets pass while it is enabled: address type and address. -/
def ChannelState.liveFilter (s : ChannelState) (k : Fin maxMacFilters) :
    Option (UInt8 × Vector UInt8 6) :=
  if s.macFilters[k].enabled then some (s.macFilters[k].addressType, s.macFilters[k].mac) else none

/-- What a Set MAC Address frame asks a slot to let pass. -/
def Request.liveFilter (mem : Nat → UInt8) : Option (UInt8 × Vector UInt8 6) :=
  if Request.macEnable mem then
    some (setmacAT (mem SetMACAddr.macInfo), Request.macAddress mem)
  else none

theorem liveFilter_trackMac (s : ChannelState) (mem : Nat → UInt8) (k : Fin maxMacFilters) :
    (s.trackMac mem).liveFilter k =
      if (Request.slot mem).toNat = k then Request.liveFilter mem else s.liveFilter k := by
  simp only [ChannelState.trackMac, ChannelState.liveFilter, Fin.getElem_fin,
    Vector.getElem_setIfInBounds]
  split <;> rfl

theorem liveFilter_reset (s : ChannelState) (k : Fin maxMacFilters) :
    s.reset.liveFilter k = none := by
  simp [ChannelState.reset, ChannelState.liveFilter]

/-- MACNumber names the slot the frame is written to. -/
theorem namesSlot_eq (mem : Nat → UInt8) (k : Nat) :
    ((mem SetMACAddr.macNumber).toNat == k + 1 || (mem SetMACAddr.macNumber == 0 && k == 0)) =
      decide ((Request.slot mem).toNat = k) := by
  have hzero : mem SetMACAddr.macNumber = 0 ↔ (mem SetMACAddr.macNumber).toNat = 0 := by
    rw [← UInt8.toNat_inj]
    rfl
  rw [Bool.eq_iff_iff]
  simp only [Request.slot_toNat, Bool.or_eq_true, Bool.and_eq_true, beq_iff_eq,
    decide_eq_true_eq, hzero]
  omega

/-- What a call writes to a slot. -/
def slotWrite (k : Fin maxMacFilters) (st : Call) : Option (Option (UInt8 × Vector UInt8 6)) :=
  match st.op.action with
  | .control mem =>
    if setsSlot k st then some (Request.liveFilter mem) else none
  | _ => none

theorem step_liveFilter (hlaid : m.engine.Laid) (k : Fin maxMacFilters) (op : Op) :
    (m.step hal op).engine.state.liveFilter k =
      if isReset ⟨m, op, m.step hal op⟩ then none
      else (slotWrite k ⟨m, op, m.step hal op⟩).getD (m.engine.state.liveFilter k) := by
  have hsettings := congrArg (ChannelState.liveFilter · k) (m.step_settings hal op)
  have hset := accepted_eq hal hlaid op .setMACAddress (by decide) (by decide)
  simp only [Command.opcode] at hset
  rw [isReset_eq hal hlaid, slotWrite]
  refine hsettings.trans ?_
  cases haction : op.action with
  | control mem =>
    simp only [setsSlot, haction, hset, namesSlot_eq]
    rw [Machine.newSettings, Machine.resets, Machine.ran_control]
    cases m.engine.runs mem with
    | none => rfl
    | some c =>
      -- a slot is written by Set MAC Address and emptied by Reset Channel
      cases c with
      | setMACAddress =>
        refine (liveFilter_trackMac m.engine.state mem k).trans ?_
        by_cases hslot : (Request.slot mem).toNat = k <;> simp [hslot]
      | resetChannel => exact liveFilter_reset m.engine.state k
      | _ => rfl
  | init => exact liveFilter_reset m.engine.state k
  | _ => rfl

theorem liveFilter_eq {hist : List Call} (hrun : FwRun hal hist m) (k : Fin maxMacFilters) :
    m.engine.state.liveFilter k = ((since isReset hist).findSome? (slotWrite k)).join := by
  have hzero : Machine.registered.engine.state.liveFilter k = none := by
    simp [Machine.registered, Engine.powerOn, ChannelState.zero, ChannelState.liveFilter,
      MacFilter.zero]
  have hlast := hrun.lastWriter_since (fun m => m.engine.state.liveFilter k)
    isReset (slotWrite k) fun hbefore op => by
      rw [step_liveFilter hbefore.laid, hzero]
  rw [hlast, hzero]
  cases (since isReset hist).findSome? (slotWrite k) <;> rfl

/-! ## The decision -/

theorem admits_iff (src : RxPtr) (filter : MacFilter) :
    filter.admits src = true ↔
      filter.enabled = true ∧ filter.addressType = 0 ∧ filter.mac = src.mac := by
  simp [MacFilter.admits, sameMac_iff, and_assoc]

theorem forwards_iff (s : ChannelState) (src : RxPtr) :
    s.forwards src = true ↔
      s.txPassthroughEn = true ∧ ∃ k, s.liveFilter k = some (0, src.mac) := by
  rw [ChannelState.forwards, Bool.and_eq_true, Vector.any_eq_true]
  -- a filter that admits the address is a live slot of type 0
  refine and_congr_right fun _ => ⟨?_, ?_⟩
  · rintro ⟨k, hk, hadmits⟩
    obtain ⟨henabled, htype, hmac⟩ := (admits_iff src _).mp hadmits
    exact ⟨⟨k, hk⟩, by simp [ChannelState.liveFilter, henabled, htype, hmac]⟩
  · rintro ⟨k, hlive⟩
    refine ⟨k, k.isLt, (admits_iff src _).mpr ?_⟩
    simpa [ChannelState.liveFilter] using hlive

theorem liveFilter_admits_iff (src : RxPtr) (mem : Nat → UInt8) :
    Request.liveFilter mem = some (0, src.mac) ↔
      setmacEnable (mem SetMACAddr.macInfo) ≠ 0 ∧ setmacAT (mem SetMACAddr.macInfo) = 0 ∧
        ∀ b < 6, mem (SetMACAddr.macAddress + b) = src.byte b := by
  have hmac : Request.macAddress mem = src.mac ↔
      ∀ b < 6, mem (SetMACAddr.macAddress + b) = src.byte b := by
    simp only [Request.macAddress, RxPtr.mac, Vector.mk.injEq, Array.mk.injEq, List.cons.injEq,
      and_true]
    constructor
    · rintro ⟨h₀, h₁, h₂, h₃, h₄, h₅⟩ b hb
      interval_cases b <;> assumption
    · intro h
      exact ⟨h 0 (by decide), h 1 (by decide), h 2 (by decide), h 3 (by decide), h 4 (by decide),
        h 5 (by decide)⟩
  rw [← hmac]
  simp [Request.liveFilter, Request.macEnable]

theorem sourceConfigured_iff {hist : List Call} (hrun : FwRun hal hist m) (src : RxPtr) :
    (∃ k, m.engine.state.liveFilter k = some (0, src.mac)) ↔ SourceConfigured hist src := by
  -- slot by slot: what it holds is what the newest frame since the last reset asked for
  have hslot : ∀ k : Fin maxMacFilters, m.engine.state.liveFilter k = some (0, src.mac) ↔
      ∃ st, (since isReset hist).find? (setsSlot k) = some st ∧ AdmitsSource src st := by
    intro k
    have hwrites : (fun st => (slotWrite k st).isSome) = setsSlot k := by
      funext st
      rw [slotWrite]
      cases haction : st.op.action with
      | control mem => cases setsSlot k st <;> rfl
      | _ => simp [setsSlot, haction]
    rw [liveFilter_eq hrun, Runs.Run.findSome?_eq_bind_find?, hwrites]
    cases hfind : (since isReset hist).find? (setsSlot k) with
    | none => simp
    | some st =>
      -- the frame of the call that was found is the one that wrote the slot
      have hsets : setsSlot k st = true := List.find?_some hfind
      rw [Option.bind_some, slotWrite]
      cases haction : st.op.action with
      | control mem =>
        simp [hsets, AdmitsSource, haction, liveFilter_admits_iff]
      | _ => simp [setsSlot, haction] at hsets
  constructor
  · rintro ⟨k, hlive⟩
    exact ⟨k, k.isLt, (hslot k).mp hlive⟩
  · rintro ⟨k, hk, hfound⟩
    exact ⟨⟨k, hk⟩, (hslot ⟨k, hk⟩).mpr hfound⟩

/-- **What is forwarded**: in every run, `ncsi_passthrough_tx_from_mc` hands a frame to
    `Network_TxFrame`, unchanged, exactly when the switch was left on and some slot was
    left with an enabled unicast filter for the source address; otherwise it makes no
    HAL call and changes nothing. -/
theorem ncsiPassthroughTxFromMc_iff {hist : List Call} (hrun : FwRun hal hist m)
    (src frame : RxPtr) (frameLen : Nat) :
    ∃ ok m', ncsiPassthroughTxFromMc hal .gPort src frame frameLen m = .ok (ok, m') ∧
      (TxEnabled hist ∧ SourceConfigured hist src →
        m'.calls = .txFrame (frame.take frameLen) ok :: m.calls ∧
          ok = hal.txFrame m.calls (frame.take frameLen)) ∧
      (¬ (TxEnabled hist ∧ SourceConfigured hist src) →
        ok = false ∧ m'.calls = m.calls ∧ m'.engine.state = m.engine.state) := by
  have hport := FwRun.port0 hal hrun
  refine ⟨_, _, ncsiPassthroughTxFromMc_run hal hport src frame frameLen, ?_⟩
  rw [← txPassthroughEn_iff hrun, ← sourceConfigured_iff hrun, ← forwards_iff]
  constructor
  · intro hforwards
    simp [hforwards]
  · intro hforwards
    rw [Bool.not_eq_true] at hforwards
    simp [hforwards]

end Hal

theorem ncsiPassthroughTxFromMc_iff_forwarding :
    ∃ m', ncsiPassthroughTxFromMc sampleHal .gPort ⟨bmcFrame, Header.sourceAddress⟩
      (.ofFrame bmcFrame) 60 (play sampleHal forwardingOps).2 = .ok (true, m') ∧
      m'.calls = .txFrame ((RxPtr.ofFrame bmcFrame).take 60) true ::
        (play sampleHal forwardingOps).2.calls := by
  have hrun := fwRun_play sampleHal forwardingOps
  obtain ⟨ok, m', hresult, hforwards, -⟩ := ncsiPassthroughTxFromMc_iff hrun
    ⟨bmcFrame, Header.sourceAddress⟩ (.ofFrame bmcFrame) 60
  have htx := (txPassthroughEn_iff hrun).mp (by decide +kernel)
  have hsource := (sourceConfigured_iff hrun ⟨bmcFrame, Header.sourceAddress⟩).mp
    ⟨0, by decide +kernel⟩
  obtain ⟨hcalls, hok⟩ := hforwards ⟨htx, hsource⟩
  obtain rfl : ok = true := hok
  exact ⟨m', hresult, hcalls⟩

/-! ## Which frames leave on the sideband link -/

/-- In these calls `ncsi_on_rx_frame` handed only NC-SI frames to `Network_TxFrame`. -/
def OnlyNcsiSent (hist : List Call) : Prop :=
  ∀ st ∈ hist, ∀ mem frameLen, st.op = .onRxFrame mem frameLen →
    ∀ frame ∈ sentFrames st, ncsiRd16 frame Header.etherType = etherTypeNcsi

/-- A frame that is not NC-SI was received while Channel Network TX was on and an enabled
    unicast filter had its source address. -/
def Echoed (st : Call) : Prop :=
  ∃ mem frameLen, st.op = .onRxFrame mem frameLen ∧ sizeofControlPacketHeader ≤ frameLen ∧
    BigEndian.be16 (mem Header.etherType) (mem (Header.etherType + 1)) ≠ etherTypeNcsi ∧
    st.before.engine.state.txPassthroughEn = true ∧
    ∃ filter ∈ st.before.engine.state.macFilters, filter.enabled = true ∧
      filter.addressType = 0 ∧ filter.mac = (RxPtr.mk mem Header.sourceAddress).mac

section Hal

variable {hal : Hal} {m : Machine}

theorem forwards_iff_mem (s : ChannelState) (src : RxPtr) :
    s.forwards src = true ↔
      s.txPassthroughEn = true ∧ ∃ filter ∈ s.macFilters, filter.enabled = true ∧
        filter.addressType = 0 ∧ filter.mac = src.mac := by
  rw [ChannelState.forwards, Bool.and_eq_true, Vector.any_eq_true']
  simp only [admits_iff]

/-- A buffer long enough for a header is handed on with its EtherType. -/
theorem etherType_take (mem : Nat → UInt8) {frameLen : Nat}
    (hlen : sizeofControlPacketHeader ≤ frameLen) :
    ncsiRd16 ((RxPtr.ofFrame mem).take frameLen) Header.etherType =
      BigEndian.be16 (mem Header.etherType) (mem (Header.etherType + 1)) := by
  have hlen' : 30 ≤ frameLen := hlen
  simp [ncsiRd16, RxPtr.take, RxPtr.byte, RxPtr.ofFrame, show 12 < frameLen by omega,
    show 13 < frameLen by omega]

/-- One call of `ncsi_on_rx_frame` sends only NC-SI frames unless it echoes. -/
theorem step_onlyNcsiSent (hlaid : m.engine.Laid) (mem : Nat → UInt8) (frameLen : Nat) :
    (∀ frame ∈ sentFrames ⟨m, .onRxFrame mem frameLen, m.step hal (.onRxFrame mem frameLen)⟩,
      ncsiRd16 frame Header.etherType = etherTypeNcsi) ↔
      ¬ Echoed ⟨m, .onRxFrame mem frameLen, m.step hal (.onRxFrame mem frameLen)⟩ := by
  rw [sentFrames, callsMade_step, Op.action]
  by_cases hshort : frameLen < sizeofControlPacketHeader
  · rw [if_pos hshort]
    refine iff_of_true (by simp [Machine.newCalls]) ?_
    rintro ⟨_, _, ⟨⟩, hlen, -⟩
    omega
  have hlen : sizeofControlPacketHeader ≤ frameLen := Nat.not_lt.mp hshort
  rw [if_neg hshort]
  by_cases hcontrol : BigEndian.be16 (mem Header.etherType) (mem (Header.etherType + 1)) =
      etherTypeNcsi
  · -- a control frame: the answer, if any, is an NC-SI frame
    rw [if_pos hcontrol, newCalls_control_sentFrame]
    refine iff_of_true ?_ ?_
    · split
      · rintro frame hframe
        rw [List.mem_singleton.mp hframe, Machine.answerBytes_eq hlaid]
        exact ncsiRd16_etherType_wire _ _
      · simp
    · rintro ⟨_, _, ⟨⟩, -, hother, -⟩
      exact hother hcontrol
  · -- a pass-through frame: sent as it is, if the port forwards it
    rw [if_neg hcontrol, Machine.newCalls]
    have hforwards := forwards_iff_mem m.engine.state ⟨mem, Header.sourceAddress⟩
    split
    · next hyes =>
      obtain ⟨htx, hfilter⟩ := hforwards.mp hyes
      refine iff_of_false ?_ (not_not_intro ⟨mem, frameLen, rfl, hlen, hcontrol, htx, hfilter⟩)
      intro hall
      have hsent := hall _ (List.mem_singleton_self _)
      rw [etherType_take mem hlen] at hsent
      exact hcontrol hsent
    · next hno =>
      refine iff_of_true (by simp) ?_
      rintro ⟨_, _, ⟨⟩, -, -, htx, hfilter⟩
      exact hno (hforwards.mpr ⟨htx, hfilter⟩)

/-- **What leaves on the sideband link**: a run of `ncsi_on_rx_frame` hands only NC-SI
    frames to `Network_TxFrame` exactly when it never received a pass-through frame that
    the port was configured to forward. -/
theorem onlyNcsiSent_iff {hist : List Call} (hrun : FwRun hal hist m) :
    OnlyNcsiSent hist ↔ ∀ st ∈ hist, ¬ Echoed st := by
  refine forall₂_congr fun st hst => ?_
  obtain ⟨older, before, op, -, hbefore, rfl⟩ := hrun.of_mem hst
  cases op with
  | onRxFrame mem frameLen =>
    refine Iff.trans ?_ (step_onlyNcsiSent hbefore.laid mem frameLen)
    exact ⟨fun h => h mem frameLen rfl, by rintro h _ _ ⟨⟩; exact h⟩
  | _ =>
    refine iff_of_true ?_ ?_
    · rintro _ _ ⟨⟩
    · rintro ⟨_, _, ⟨⟩, -⟩

end Hal

/-- The configured run, and then a frame from the BMC: it goes back to the BMC. -/
def echoOps : List Op := forwardingOps ++ [.onRxFrame bmcFrame 60]

theorem not_onlyNcsiSent_echo :
    FwRun sampleHal (play sampleHal echoOps).1 (play sampleHal echoOps).2 ∧
      ¬ OnlyNcsiSent (play sampleHal echoOps).1 := by
  refine ⟨fwRun_play _ _, fun h => ?_⟩
  rw [echoOps, play_snoc] at h
  have hsent := h _ List.mem_cons_self bmcFrame 60 rfl ((RxPtr.ofFrame bmcFrame).take 60)
    (by decide +kernel)
  exact absurd hsent (by decide +kernel)

/-- A frame of the BMC from an address that no filter has. -/
def strangerFrame : Nat → UInt8 := buffer [9, 9, 9, 9, 9, 9, 2, 0, 0, 0, 0, 2, 0x08, 0x00]

/-- The configured run, then an NC-SI frame and such a frame. -/
def sidebandOps : List Op := forwardingOps ++
  [.onRxFrame strangerFrame 60, .onRxFrame (request 0 ControlPacketType.getVersionID []) 60]

/-- The NC-SI frame is answered, and nothing else is sent. -/
theorem onlyNcsiSent_iff_sideband : OnlyNcsiSent (play sampleHal sidebandOps).1 ∧
    ∃ st ∈ (play sampleHal sidebandOps).1, ∃ mem, st.op = .onRxFrame mem 60 ∧
      sentFrames st ≠ [] := by
  constructor
  · refine (onlyNcsiSent_iff (fwRun_play sampleHal sidebandOps)).mpr fun st hst hechoed => ?_
    obtain ⟨n, op, hop, rfl⟩ := exists_of_mem_play hst
    obtain ⟨mem, frameLen, rfl, -, hother, htx, hfilter⟩ := hechoed
    have hforwards := (forwards_iff_mem _ ⟨mem, Header.sourceAddress⟩).mpr ⟨htx, hfilter⟩
    have hn : n < 6 := (List.getElem?_eq_some_iff.mp hop).1
    interval_cases n <;> cases hop
    -- the frame that matches no filter, and the NC-SI frame
    · revert hforwards
      decide +kernel
    · exact hother rfl
  · have hsplit : sidebandOps = (forwardingOps ++ [.onRxFrame strangerFrame 60]) ++
        [.onRxFrame (request 0 ControlPacketType.getVersionID []) 60] := rfl
    rw [hsplit, play_snoc]
    refine ⟨_, List.mem_cons_self, _, rfl, ?_⟩
    rw [sentFrames_control rfl, if_pos (by decide +kernel)]
    exact List.cons_ne_nil _ _

end NcsiResponder
