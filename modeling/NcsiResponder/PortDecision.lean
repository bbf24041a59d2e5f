import NcsiResponder.Checksums
import NcsiResponder.Isolation
import NcsiResponder.Retries
import NcsiResponder.UpstreamExecution

/-!
# One frame, two engines

The port and upstream on the same chip, which replies to both alike (`Replies`). The output of
the port, too, is what it decides about a frame (`decision_output`). Two outputs are compared
with every byte that is sent, whether the transmitter took the packet, the driver calls with
their replies, and the settings, the package selection and VLAN among them. Not compared are
the identity pins, which only the port reads, the PHY register behind Get Link Status, which is
another one, and the counters. For one frame the two show the same unless it is a `Difference`
(`agrees_iff`).
-/

namespace NcsiResponder

open BoundedWait

/-! ## One chip under both -/

/-- What the chip replies during one call: it is asked for each at most once, the FIFO apart. -/
structure Replies where
  /-- `MII_getPhy` -/
  phy : UInt8
  /-- `MII_readRegister` -/
  register : UInt8 → Int32
  /-- `MII_reset` -/
  phyReset : Bool
  /-- `Network_isLinkUp` -/
  linkUp : Bool
  /-- `Network_PassthroughRxPacket` -/
  moved : Bool
  /-- the room in the transmit FIFO, in words, at the `i`-th read -/
  inFifo : ℕ → ℕ

/-- The FIFO gets room for a packet of this length before the wait for it is over. -/
def Replies.takes (r : Replies) (packetLen : ℕ) : Bool :=
  (spin (fun i => (packetLen + 3) / 4 ≤ r.inFifo i) 0 Upstream.maxLoops).2 != 0

/-- The chip under the port, which it straps to package 0 and channel 0. `Network_TxFrame` sends
    through the FIFO. -/
def Replies.hal (r : Replies) : Hal where
  readPackageID _ := 0
  readChannelID _ := 0
  isLinkUp _ := r.linkUp
  passthroughRxPacket _ := r.moved
  txFrame _ frame := r.takes frame.length
  getPhy _ := r.phy
  readRegister _ _ reg := r.register reg
  miiReset _ _ := r.phyReset

/-- The chip under upstream. -/
def Upstream.Board.replying (board : Upstream.Board) (r : Replies) : Upstream.Board :=
  { board with hal := r.hal, inFifo := fun _ => r.inFifo }

/-- The driver calls that are compared, with their arguments and replies. -/
def HalCall.compared : HalCall → Bool
  | readPackageID _ | readChannelID _ | readRegister _ _ _ => false
  | _ => true

/-- What an output shows. -/
def compared (o : Output) : Output := (o.1.filter HalCall.compared, o.2)

/-- Run code from a state and look at what it shows; `none` is a fault. -/
def observe {μ : Type} (calls : μ → List HalCall) (shared : μ → Settings)
    (code : StateT μ (Except Fault) Unit) (s : μ) : Option (Output × μ) :=
  match code.run s with
  | .ok ((), s') =>
    some (compared ((calls s').take ((calls s').length - (calls s).length), shared s'), s')
  | .error _ => none

theorem observe_ok {μ : Type} {calls : μ → List HalCall} {shared : μ → Settings}
    {code : StateT μ (Except Fault) Unit} {s s' : μ} {new : List HalCall}
    (h : code.run s = .ok ((), s')) (hnew : calls s' = new ++ calls s) :
    observe calls shared code s = some (compared (new, shared s'), s') := by
  simp [observe, h, hnew]

/-! ## The port -/

/-- The settings of the port. -/
def Engine.shared (e : Engine) : Settings := e.state.shared e.selected

/-- The calls by which Get Link Status asks the PHY, newest first. -/
def phyCalls (hal : Hal) (calls : List HalCall) : List HalCall :=
  [.readRegister (hal.getPhy calls) regMiiBasicStatus (bmsr hal calls), .getPhy (hal.getPhy calls)]

/-- The behaviour of the port, as long as the checksum fields are zero. -/
def Machine.behaviour (hal : Hal) (m : Machine) (mem : ℕ → UInt8) : Behaviour where
  payload := payload mem
  resetCalls := resetCalls hal m.calls
  phyCalls := phyCalls hal m.calls
  macLinkUp := hal.isLinkUp (phyCalls hal m.calls ++ m.calls)
  report :=
    ⟨(linkReading hal m.calls).getD m.engine.state.linkStatus.linkUp,
      (m.engine.state.reportLink (linkReading hal m.calls)).linkStatus.word⟩
  sends new r :=
    let bytes := (r.wire mem 0).take r.frameVar.packetSize
    .txFrame bytes (hal.txFrame (new ++ m.calls) bytes)

/-- What the port decides about a received frame. -/
def Engine.decision (e : Engine) (mem : ℕ → UInt8) : Decision :=
  if e.addressed mem then
    match verdict e mem with
    | .refuse responseCode reasonCode => .refuse responseCode reasonCode false
    | .uninitialized => .refuse ResponseCode.commandFailed ReasonCode.initializationRequired true
    | .run .unsupported =>
      .refuse ResponseCode.commandUnsupported ReasonCode.unknownUnsupported true
    | .run .setVLANFilter =>
      if Request.vlanTagInvalid mem then
        .refuse ResponseCode.commandFailed ReasonCode.vlanTagIsInvalid true
      else .complete .setVLANFilter
    | .run c => .complete c
  else .silent false

section Port

variable {hal : Hal} {m : Machine} {mem : ℕ → UInt8}

/-- A port that answers as the only channel of package 0, and computes no checksums. -/
structure Machine.Plain (m : Machine) : Prop where
  identified : Identified 0 0 m
  laid : m.engine.Laid
  computes : m.engine.gNcsiComputeChecksum = false
  checksum : ∀ v, m.engine.checksumField v = 0

theorem plain_registered : Machine.registered.Plain where
  identified := ⟨rfl, rfl, rfl⟩
  laid := Engine.laid_powerOn
  computes := rfl
  checksum v := by cases v <;> decide +kernel

theorem drives_behaviour (c : Command) :
    (m.behaviour hal mem).drives c = c.newCalls hal mem m.accept.engine.state m.calls := by
  cases c with
  | getLinkStatus =>
    -- the MAC is asked only when the link bit is down
    cases hup : (linkReading hal m.calls).getD m.engine.state.linkStatus.linkUp <;>
      simp [Behaviour.drives, Machine.behaviour, macCalls, Command.newCalls, linkCalls, phyCalls,
        Machine.accept, hup]
  | _ => rfl

/-- What the port sends for a reply. -/
theorem sends_behaviour (h : m.Plain) (haddressed : m.engine.addressed mem = true) :
    m.newCalls hal (.control mem) =
      let new := (verdict m.engine mem).newCalls hal mem m
      (m.behaviour hal mem).sends new (m.answer hal mem) :: new := by
  have hzero : m.engine.sentChecksum mem (m.answer hal mem) = 0 := by
    rw [Engine.sentChecksum, h.computes]
    exact h.checksum _
  have hbytes : m.answerBytes hal mem = _ := Machine.answerBytes_eq h.laid
  rw [hzero] at hbytes
  rw [Machine.newCalls, if_pos haddressed, hbytes, Machine.worked, Machine.work_calls]
  rfl

theorem step_shared (op : Op) : (m.step hal op).engine.shared =
    (m.newSettings hal op.action).shared (m.step hal op).engine.selected := by
  rw [← Machine.step_settings]
  rfl

/-- **The port in closed form**: its output is what it decides. -/
theorem decision_output (hal : Hal) (mem : ℕ → UInt8) (h : m.Plain) :
    (m.behaviour hal mem).output m.engine.shared (m.engine.decision mem) =
      some (m.newCalls hal (.control mem), (m.step hal (.rxFrame mem)).engine.shared) := by
  rw [Engine.decision]
  by_cases haddressed : m.engine.addressed mem = true
  swap
  · rw [Machine.newCalls, if_neg haddressed, if_neg haddressed,
      step_other (Bool.not_eq_true _ ▸ haddressed)]
    rfl
  rw [if_pos haddressed, sends_behaviour h haddressed, step_shared, Op.action,
    Machine.newSettings, Engine.runs, if_pos haddressed, step_selected haddressed,
    Machine.answer, Machine.worked]
  cases hverdict : verdict m.engine mem with
  | refuse _ _ | uninitialized => rfl
  | run c =>
    have hdrives : (m.behaviour hal mem).drives c = _ := drives_behaviour c
    -- all but two commands complete
    cases c with
    | unsupported => rfl
    | setVLANFilter =>
      simp only [Verdict.reply, Command.reply]
      cases hvlan : Request.vlanTagInvalid mem <;> rfl
    | _ =>
      simp only [Behaviour.output, Behaviour.completes, hdrives]
      rfl

end Port

/-! ## Where they differ -/

/-- A request for a command, with the payload length it takes. -/
def Asks (mem : ℕ → UInt8) (c : Command) : Prop :=
  lookup (Request.opcode mem) = some (c, (Request.payloadLength mem).toNat)

/-- A request that a ready channel 0 with these settings completes in another way upstream, where
    Get Link Status would report this there and that here. -/
def Command.Departs (mem : ℕ → UInt8) (s : Settings) (there here : LinkReport) : Command → Prop
  -- there is no handler upstream
  | disableBroadcastFilter => True
  -- frames of another length
  | getCapabilities | getVersionID => True
  -- upstream does not look at the tag, and switches VLAN off
  | setVLANFilter => Request.vlanTagInvalid mem = true ∨ s.vlan = true
  | enableVLAN => mem EnableVLAN.mode ≠ 0
  -- the two read these fields in different places
  | aenEnable => mem Upstream.aenMcIdOffset ≠ mem AENEnable.aenMcId
  | setMACAddress => Upstream.macEnable mem ≠ Request.macEnable mem
  | getLinkStatus => there ≠ here
  | _ => False

/-- A frame to package 0 that the engines do not treat alike. -/
inductive Difference (mem : ℕ → UInt8) (s : Settings) (there here : LinkReport) : Prop
  /-- past the end of the table: the port checks the opcode -/
  | unchecked (h : commandTable.length ≤ (Request.opcode mem).toNat)
  /-- another channel: the port leaves it to the other chip; upstream refuses it, or, for Clear
      Initial State, selects the package at least -/
  | otherChannel (hnone : Request.channel mem ≠ 0) (hwide : Request.channel mem ≠ channelIdPackage)
      (hnoisy : ¬ (Asks mem .clearInitialState ∧ s.selected = true))
  /-- Clear Initial State to the whole package: upstream says nothing -/
  | packageClear (hwide : Request.channel mem = channelIdPackage)
      (hclear : Asks mem .clearInitialState)
  | command (hchannel : Request.channel mem = 0) (hready : s.ready = true) (c : Command)
      (hasks : Asks mem c) (hdeparts : c.Departs mem s there here)

/-! ## One decision -/

/-- Two engines on one chip: upstream's behaviour on a request, and the port's. -/
structure Comparable (mem : ℕ → UInt8) (up own : Behaviour) : Prop where
  upPayload : up.payload = Upstream.payload mem
  ownPayload : own.payload = payload mem
  resetCalls : up.resetCalls = own.resetCalls
  phyCalls : up.phyCalls.filter HalCall.compared = own.phyCalls.filter HalCall.compared
  macLinkUp : up.macLinkUp = own.macLinkUp
  codes : ∀ new new' rc reason, up.sends new (.codes rc reason) = own.sends new' (.codes rc reason)
  codes_inj : ∀ new new' rc reason rc' reason',
    own.sends new (.codes rc reason) = own.sends new' (.codes rc' reason') → rc = rc'
  linkStatus : ∀ new new' word word',
    up.sends new (.linkStatus word) = own.sends new' (.linkStatus word') ↔ word = word'
  capabilities : ∀ new new', up.sends new .capabilities ≠ own.sends new' .capabilities
  version : ∀ new new', up.sends new .version ≠ own.sends new' .version
  upShows : ∀ new r, (up.sends new r).compared = true
  ownShows : ∀ new r, (own.sends new r).compared = true

section Chip

variable {board : Upstream.Board} {r : Replies} {m : Machine} {mem : ℕ → UInt8}
  {status : Upstream.ChannelStatus} {calls : List HalCall}

/-- **On one chip the two are comparable.** -/
theorem comparable_replying : Comparable mem
    (Upstream.behaviour (board.replying r) mem calls status) (m.behaviour r.hal mem) := by
  -- the bytes are compared first; the FIFO takes packets of one length alike
  have hup (new : List HalCall) (reply : Reply) :
      (Upstream.behaviour (board.replying r) mem calls status).sends new reply =
        .txFrame (Upstream.bytes (board.replying r) mem reply)
          (r.takes (Upstream.packetSize reply.frameVar)) := rfl
  have hown (new : List HalCall) (reply : Reply) :
      (m.behaviour r.hal mem).sends new reply =
        .txFrame ((reply.wire mem 0).take reply.frameVar.packetSize)
          (r.takes ((reply.wire mem 0).take reply.frameVar.packetSize).length) := rfl
  have hsame (reply : Reply) (hshort : reply.frameVar = .gResponseFrame ∧ reply.linkWord = 0 ∨
      reply.frameVar = .gLinkStatusResponseFrame) :
      Upstream.bytes (board.replying r) mem reply =
        (reply.wire mem 0).take reply.frameVar.packetSize :=
    Upstream.sentBytes_frameOf _ _ (reply.fields mem) rfl hshort
  have hlength (reply : Reply) :
      (Upstream.bytes (board.replying r) mem reply).length =
        Upstream.packetSize reply.frameVar := Upstream.length_sentBytes _ _ _
  have hwireLength (reply : Reply) :
      ((reply.wire mem 0).take reply.frameVar.packetSize).length = reply.frameVar.packetSize :=
    length_take_wire _ _
  refine ⟨rfl, rfl, rfl, rfl, rfl, fun new new' rc reason => ?_,
    fun new new' rc reason rc' reason' h => ?_, fun new new' word word' => ?_,
    fun new new' h => ?_, fun new new' h => ?_, fun _ _ => rfl, fun _ _ => rfl⟩
  · rw [hup, hown, ← hlength, hsame _ (.inl ⟨rfl, rfl⟩)]
  · rw [hown, hown] at h
    have hbytes := congrArg (ncsiRd16 · Response.responseCode) (HalCall.txFrame.inj h).1
    have hcode (rc reason : UInt16) : ncsiRd16
        (((Reply.codes rc reason).wire mem 0).take FrameVar.gResponseFrame.packetSize)
        Response.responseCode = rc := ncsiRd16_responseCode_wire _ _
    simpa only [Reply.frameVar, hcode] using hbytes
  · rw [hup, hown, ← hlength, hsame _ (.inr rfl)]
    constructor
    · intro h
      have hbytes := congrArg (ncsiRd32 · LinkStatusResponse.linkStatus) (HalCall.txFrame.inj h).1
      have hword (word : UInt32) : ncsiRd32 (((Reply.linkStatus word).wire mem 0).take
          FrameVar.gLinkStatusResponseFrame.packetSize) LinkStatusResponse.linkStatus = word :=
        ncsiRd32_linkStatus_wire _
      simpa only [Reply.frameVar, hword] using hbytes
    · rintro rfl
      rfl
  -- the other two frames are of other lengths
  · rw [hup, hown] at h
    have hbytes := congrArg List.length (HalCall.txFrame.inj h).1
    rw [hlength, hwireLength] at hbytes
    exact absurd hbytes (by decide)
  · rw [hup, hown] at h
    have hbytes := congrArg List.length (HalCall.txFrame.inj h).1
    rw [hlength, hwireLength] at hbytes
    exact absurd hbytes (by decide)

end Chip

section Decisions

variable {mem : ℕ → UInt8} {up own : Behaviour} {s : Settings} {e : Engine} {c : Command} {len : ℕ}

/-- Two decisions show the same. -/
def Agrees (up own : Behaviour) (s : Settings) (d d' : Decision) : Prop :=
  (up.output s d).map compared = (own.output s d').map compared

theorem macCalls_compared (linkUp macLinkUp : Bool) :
    (macCalls linkUp macLinkUp).filter HalCall.compared = macCalls linkUp macLinkUp := by
  cases linkUp <;> cases macLinkUp <;> rfl

theorem macCalls_inj {linkUp linkUp' macLinkUp : Bool} :
    macCalls linkUp macLinkUp = macCalls linkUp' macLinkUp ↔ linkUp = linkUp' := by
  cases linkUp <;> cases linkUp' <;> cases macLinkUp <;> decide

/-- A completed command shows its packet, the calls before it that are compared and its
    settings. -/
theorem shown_complete {b : Behaviour} (hshows : ∀ new r, (b.sends new r).compared = true)
    (s : Settings) (c : Command) :
    (b.output s (.complete c)).map compared =
      some (b.sends (b.drives c) (c.completion b.report.word) ::
          (b.drives c).filter HalCall.compared,
        c.stores b.payload (s.select true)) := by
  rw [Behaviour.output, Option.map_some, compared, Behaviour.completes,
    List.filter_cons_of_pos (hshows _ _)]

theorem shown_refuse {b : Behaviour} (hshows : ∀ new r, (b.sends new r).compared = true)
    (s : Settings) (rc reason : UInt16) (selects : Bool) :
    (b.output s (.refuse rc reason selects)).map compared =
      some ([b.sends [] (.codes rc reason)], s.select selects) := by
  rw [Behaviour.output, Option.map_some, compared, Behaviour.refuses,
    List.filter_cons_of_pos (hshows _ _), List.filter_nil]

theorem agrees_refuse (h : Comparable mem up own) (rc reason : UInt16) (selects : Bool) :
    Agrees up own s (.refuse rc reason selects) (.refuse rc reason selects) := by
  rw [Agrees, shown_refuse h.upShows, shown_refuse h.ownShows, h.codes [] []]

theorem not_agrees_answered (h : Comparable mem up own) (rc reason : UInt16)
    (selects selects' : Bool) :
    ¬ Agrees up own s (.refuse rc reason selects) (.silent selects') := by
  rw [Agrees, shown_refuse h.upShows]
  rintro ⟨⟩

theorem not_agrees_unanswered (h : Comparable mem up own) (c : Command) (selects : Bool) :
    ¬ Agrees up own s (.silent selects) (.complete c) := by
  rw [Agrees, shown_complete h.ownShows]
  rintro ⟨⟩

/-- A refusal shows another code than a completed command. -/
theorem not_agrees_refuse (h : Comparable mem up own) {rc reason : UInt16} (selects : Bool)
    (hplain : ∀ word, c.completion word = .codes ResponseCode.commandComplete ReasonCode.none)
    (hrc : rc ≠ ResponseCode.commandComplete) :
    ¬ Agrees up own s (.refuse rc reason selects) (.complete c) := by
  rw [Agrees, shown_refuse h.upShows, shown_complete h.ownShows, hplain, h.codes [] []]
  intro hsame
  injection hsame with hpair
  injection hpair with hcalls
  injection hcalls with hsends
  exact hrc (h.codes_inj _ _ _ _ _ _ hsends)

theorem not_agrees_complete (h : Comparable mem up own) {rc reason : UInt16} (selects : Bool)
    (hplain : ∀ word, c.completion word = .codes ResponseCode.commandComplete ReasonCode.none)
    (hrc : rc ≠ ResponseCode.commandComplete) :
    ¬ Agrees up own s (.complete c) (.refuse rc reason selects) := by
  rw [Agrees, shown_refuse h.ownShows, shown_complete h.upShows, hplain, h.codes _ []]
  intro hsame
  injection hsame with hpair
  injection hpair with hcalls
  injection hcalls with hsends
  exact hrc (h.codes_inj _ _ _ _ _ _ hsends).symm

/-- A command both complete shows the packet, the calls and the settings. -/
theorem agrees_completed_iff (h : Comparable mem up own) :
    Agrees up own s (.complete c) (.complete c) ↔
      (up.sends (up.drives c) (c.completion up.report.word) =
          own.sends (own.drives c) (c.completion own.report.word) ∧
        (up.drives c).filter HalCall.compared = (own.drives c).filter HalCall.compared) ∧
        c.stores (Upstream.payload mem) (s.select true) =
          c.stores (payload mem) (s.select true) := by
  rw [Agrees, shown_complete h.upShows, shown_complete h.ownShows, Option.some.injEq,
    Prod.mk.injEq, List.cons.injEq, h.upPayload, h.ownPayload]

/-- A plain answer to a completed command is the same, so the rest decides. -/
theorem agrees_plain_iff (h : Comparable mem up own)
    (hplain : ∀ word, c.completion word = .codes ResponseCode.commandComplete ReasonCode.none) :
    Agrees up own s (.complete c) (.complete c) ↔
      (up.drives c).filter HalCall.compared = (own.drives c).filter HalCall.compared ∧
        c.stores (Upstream.payload mem) (s.select true) =
          c.stores (payload mem) (s.select true) := by
  rw [agrees_completed_iff h, hplain, hplain, h.codes _ (own.drives c), eq_self_iff_true,
    true_and]

/-- **A command both complete**: what they show differs where the payload, the VLAN setting, the
    link or the preset frames make it. -/
theorem agrees_complete_iff (h : Comparable mem up own) (hfilter : c ≠ .disableBroadcastFilter)
    (hvlan : c = .setVLANFilter → Request.vlanTagInvalid mem = false) :
    Agrees up own s (.complete c) (.complete c) ↔
      ¬ c.Departs mem s up.report own.report := by
  cases c with
  | disableBroadcastFilter => exact absurd rfl hfilter
  | getCapabilities =>
    rw [agrees_completed_iff h]
    exact iff_of_false (fun hboth => h.capabilities _ _ hboth.1.1) (not_not.mpr trivial)
  | getVersionID =>
    rw [agrees_completed_iff h]
    exact iff_of_false (fun hboth => h.version _ _ hboth.1.1) (not_not.mpr trivial)
  | getLinkStatus =>
    -- the word is in the response, the link of the PHY in the calls to the MAC
    have hreport : up.report = own.report ↔
        up.report.word = own.report.word ∧ up.report.up = own.report.up := by
      rw [LinkReport.ext_iff, and_comm]
    rw [agrees_completed_iff h, Command.Departs, not_not, hreport]
    simp only [Command.completion, h.linkStatus, Behaviour.drives, List.filter_append,
      macCalls_compared, h.phyCalls, h.macLinkUp, List.append_cancel_right_eq, macCalls_inj,
      Command.stores, and_true]
  | setVLANFilter =>
    have hvalid := hvlan rfl
    rw [agrees_plain_iff h fun _ => rfl, payload_eq]
    cases hon : s.vlan <;>
      simp [Behaviour.drives, Command.stores, Command.Departs, payload, Settings.select, hvalid,
        hon]
  | enableVLAN =>
    rw [agrees_plain_iff h fun _ => rfl, payload_eq]
    simp [Behaviour.drives, Command.stores, Command.Departs, payload]
  | aenEnable =>
    have hinj : (mem Upstream.aenMcIdOffset).toUInt32 = (mem AENEnable.aenMcId).toUInt32 ↔
        mem Upstream.aenMcIdOffset = mem AENEnable.aenMcId :=
      ⟨fun heq => by simpa using congrArg UInt32.toUInt8 heq, congrArg UInt8.toUInt32⟩
    rw [agrees_plain_iff h fun _ => rfl, payload_eq]
    simp [Behaviour.drives, Command.stores, Command.Departs, payload, hinj]
  | setMACAddress =>
    rw [agrees_plain_iff h fun _ => rfl, Behaviour.drives, Behaviour.drives, h.upPayload,
      h.ownPayload, payload_eq]
    simp [List.filter_cons, HalCall.compared, Command.stores, Command.Departs, payload]
  | resetChannel =>
    rw [agrees_plain_iff h fun _ => rfl, Behaviour.drives, Behaviour.drives, h.resetCalls]
    exact iff_of_true ⟨rfl, rfl⟩ not_false
  | setLink =>
    rw [agrees_plain_iff h fun _ => rfl, payload_eq]
    exact iff_of_true ⟨rfl, rfl⟩ not_false
  | _ =>
    rw [agrees_plain_iff h fun _ => rfl]
    exact iff_of_true ⟨rfl, rfl⟩ not_false

theorem agrees_silent_iff : Agrees up own s (.silent true) (.silent false) ↔ s.selected = true := by
  obtain ⟨selected, ready, enabled, tx, vlan, aenMcId, aenControl, link, oemLink⟩ := s
  simp [Agrees, Behaviour.output, Settings.select, compared]

theorem addressed_zero (hpackage : e.gLocalPackageId = 0) (hchannel : e.gLocalChannelId = 0) :
    e.addressed mem = true ↔
      Request.package mem = 0 ∧
        (Request.channel mem = channelIdPackage ∨ Request.channel mem = 0) := by
  rw [Engine.addressed, hpackage, hchannel]
  simp

theorem asks_iff {c' : Command}
    (hentry : commandTable[(Request.opcode mem).toNat]? = some (some (c, len))) :
    Asks mem c' ↔ c = c' ∧ len = (Request.payloadLength mem).toNat := by
  rw [Asks, lookup, hentry]
  simp

/-- The port does not fault. -/
theorem decision_ne_fault : e.decision mem ≠ .fault := by
  unfold Engine.decision
  repeat' split
  all_goals rintro ⟨⟩

/-- An opcode the table has no entry for. -/
theorem not_agrees_unchecked {ready : Bool} (hours : Request.package mem = 0)
    (hentry : commandTable[(Request.opcode mem).toNat]? = none) :
    ¬ Agrees up own s (Upstream.decision ready mem) (e.decision mem) := by
  have hfault : Upstream.decision ready mem = .fault :=
    Upstream.decision_eq_fault_iff.mpr ⟨hours, hentry⟩
  rw [Agrees, hfault]
  intro hagrees
  have hnone : own.output s (e.decision mem) = none := Option.map_eq_none_iff.mp hagrees.symm
  exact decision_ne_fault (output_eq_none_iff.mp hnone)

/-- Another channel: upstream is as silent as the port for one request, if that selects nothing. -/
theorem agrees_other (h : Comparable mem up own) (hpackage : e.gLocalPackageId = 0)
    (hlocal : e.gLocalChannelId = 0) (hours : Request.package mem = 0)
    (hentry : commandTable[(Request.opcode mem).toNat]? = some (some (c, len)))
    (hnone : Request.channel mem ≠ 0) (hwide : Request.channel mem ≠ channelIdPackage)
    {ready : Bool} :
    Agrees up own s (Upstream.decision ready mem) (e.decision mem) ↔
      Asks mem .clearInitialState ∧ s.selected = true := by
  have hsilent : e.decision mem = .silent false := by
    refine if_neg fun haddressed => ?_
    have hchannel := ((addressed_zero hpackage hlocal).mp haddressed).2
    exact hchannel.elim hwide hnone
  rw [hsilent, asks_iff hentry, Upstream.decision, if_neg (not_not.mpr hours), hentry]
  by_cases hlen : len = (Request.payloadLength mem).toNat
  swap
  · simp [hlen, not_agrees_answered h]
  by_cases hignore : c = .clearInitialState
  · subst hignore
    simp [hlen, hnone, Command.packageCommand, Command.ignoreInit, agrees_silent_iff]
  · have hnotIgnored : c.ignoreInit = false := by cases c <;> first | rfl | exact absurd rfl hignore
    simp [hlen, hnone, hwide, hignore, hnotIgnored, not_agrees_answered h]

/-- The whole package: upstream does not answer one request that the port answers. -/
theorem agrees_wide (h : Comparable mem up own) (hpackage : e.gLocalPackageId = 0)
    (hlocal : e.gLocalChannelId = 0) (hours : Request.package mem = 0)
    (hentry : commandTable[(Request.opcode mem).toNat]? = some (some (c, len)))
    (hwide : Request.channel mem = channelIdPackage) {ready : Bool} :
    Agrees up own s (Upstream.decision ready mem) (e.decision mem) ↔
      ¬ Asks mem .clearInitialState := by
  have haddressed : e.addressed mem = true :=
    (addressed_zero hpackage hlocal).mpr ⟨hours, .inl hwide⟩
  have hchannel : channelIdPackage ≠ 0 := by decide
  rw [Engine.decision, if_pos haddressed, verdict, lookup, hentry, asks_iff hentry,
    Upstream.decision, if_neg (not_not.mpr hours), hentry, hlocal, hwide]
  by_cases hlen : len = (Request.payloadLength mem).toNat
  swap
  · simp [hlen, agrees_refuse h]
  cases c with
  | selectPackage | deselectPackage =>
    simp [hlen, Command.packageCommand, agrees_complete_iff h, Command.Departs]
  | clearInitialState =>
    simp [hlen, hchannel, Command.packageCommand, Command.ignoreInit, not_agrees_unanswered h]
  | _ => simp [hlen, hchannel, Command.packageCommand, Command.ignoreInit, agrees_refuse h]

/-- Channel 0: what the two make of a command differs once the channel is ready. -/
theorem agrees_own (h : Comparable mem up own) (hpackage : e.gLocalPackageId = 0)
    (hlocal : e.gLocalChannelId = 0) (hours : Request.package mem = 0)
    (hentry : commandTable[(Request.opcode mem).toNat]? = some (some (c, len)))
    (hchannel : Request.channel mem = 0) :
    Agrees up own s (Upstream.decision e.state.ready mem) (e.decision mem) ↔
      ¬ (e.state.ready = true ∧ len = (Request.payloadLength mem).toNat ∧
        c.Departs mem s up.report own.report) := by
  have haddressed : e.addressed mem = true :=
    (addressed_zero hpackage hlocal).mpr ⟨hours, .inr hchannel⟩
  have hwide : ((0 : UInt8) == channelIdPackage) = false := by decide
  rw [Engine.decision, if_pos haddressed, verdict, lookup, hentry,
    Upstream.decision, if_neg (not_not.mpr hours), hentry, hlocal, hchannel]
  simp only [Option.join_some, hwide, Bool.and_false, Bool.false_or, Bool.false_eq_true, if_false,
    ne_eq, not_true_eq_false]
  by_cases hlen : len = (Request.payloadLength mem).toNat
  swap
  · simp [hlen, agrees_refuse h]
  cases hready : e.state.ready with
  | false =>
    -- all but one command wait for it
    cases c with
    | clearInitialState =>
      simp [hlen, Command.ignoreInit, agrees_complete_iff h, Command.Departs]
    | _ => simp [hlen, Command.ignoreInit, agrees_refuse h]
  | true =>
    cases c with
    | unsupported => simp [hlen, Command.ignoreInit, agrees_refuse h, Command.Departs]
    | disableBroadcastFilter =>
      simp only [hlen, Command.ignoreInit]
      exact iff_of_false (not_agrees_refuse h _ (fun _ => rfl) (by decide))
        (not_not.mpr ⟨trivial, trivial, trivial⟩)
    | setVLANFilter =>
      simp only [hlen, Command.ignoreInit]
      cases hvlan : Request.vlanTagInvalid mem with
      | false => simp [agrees_complete_iff h, hvlan]
      | true =>
        exact iff_of_false (not_agrees_complete h _ (fun _ => rfl) (by decide))
          (not_not.mpr ⟨trivial, trivial, .inl hvlan⟩)
    | _ => simp [hlen, Command.ignoreInit, agrees_complete_iff h]

/-- The one opcode in the table that has no handler is refused by both. -/
theorem agrees_unassigned (h : Comparable mem up own) (hpackage : e.gLocalPackageId = 0)
    (hlocal : e.gLocalChannelId = 0) (hours : Request.package mem = 0)
    (hentry : commandTable[(Request.opcode mem).toNat]? = some none) {ready : Bool} :
    Agrees up own s (Upstream.decision ready mem) (e.decision mem) ↔
      Request.channel mem = channelIdPackage ∨ Request.channel mem = 0 := by
  rw [Upstream.decision, if_neg (not_not.mpr hours), hentry, Engine.decision, verdict, lookup,
    hentry]
  by_cases haddressed : e.addressed mem = true
  · rw [if_pos haddressed]
    exact iff_of_true (agrees_refuse h _ _ _) ((addressed_zero hpackage hlocal).mp haddressed).2
  · rw [if_neg haddressed]
    refine iff_of_false (not_agrees_answered h _ _ _ _) fun hchannel => ?_
    exact haddressed ((addressed_zero hpackage hlocal).mpr ⟨hours, hchannel⟩)

/-- The differences for an opcode in the table. -/
theorem difference_iff {there here : LinkReport} {entry : Option (Command × ℕ)}
    (hentry : commandTable[(Request.opcode mem).toNat]? = some entry) :
    Difference mem s there here ↔
      (Request.channel mem ≠ 0 ∧ Request.channel mem ≠ channelIdPackage ∧
          ¬ (Asks mem .clearInitialState ∧ s.selected = true)) ∨
        (Request.channel mem = channelIdPackage ∧ Asks mem .clearInitialState) ∨
        (Request.channel mem = 0 ∧ s.ready = true ∧
          ∃ c, Asks mem c ∧ c.Departs mem s there here) := by
  constructor
  · rintro (hlarge | ⟨hnone, hwide, hnoisy⟩ | ⟨hwide, hclear⟩ |
      ⟨hchannel, hready, c, hasks, hdeparts⟩)
    · rw [List.getElem?_eq_none_iff.mpr hlarge] at hentry
      cases hentry
    · exact .inl ⟨hnone, hwide, hnoisy⟩
    · exact .inr (.inl ⟨hwide, hclear⟩)
    · exact .inr (.inr ⟨hchannel, hready, c, hasks, hdeparts⟩)
  · rintro (⟨hnone, hwide, hnoisy⟩ | ⟨hwide, hclear⟩ | ⟨hchannel, hready, c, hasks, hdeparts⟩)
    · exact .otherChannel hnone hwide hnoisy
    · exact .packageClear hwide hclear
    · exact .command hchannel hready c hasks hdeparts

/-- **One frame**: what the two show differs where it is listed, and nowhere else. -/
theorem agrees_iff (h : Comparable mem up own) (hpackage : e.gLocalPackageId = 0)
    (hlocal : e.gLocalChannelId = 0) (hready : s.ready = e.state.ready) :
    Agrees up own s (Upstream.decision e.state.ready mem) (e.decision mem) ↔
      ¬ (Request.package mem = 0 ∧ Difference mem s up.report own.report) := by
  by_cases hours : Request.package mem = 0
  swap
  · have haddressed : ¬ e.addressed mem = true := fun h =>
      hours ((addressed_zero hpackage hlocal).mp h).1
    rw [Engine.decision, if_neg haddressed, Upstream.decision, if_pos hours]
    exact iff_of_true rfl fun h => hours h.1
  have hzero : (0 : UInt8) ≠ channelIdPackage := by decide
  rw [and_iff_right hours]
  cases hentry : commandTable[(Request.opcode mem).toNat]? with
  | none =>
    have hlarge : commandTable.length ≤ (Request.opcode mem).toNat :=
      List.getElem?_eq_none_iff.mp hentry
    exact iff_of_false (not_agrees_unchecked hours hentry) (not_not.mpr (.unchecked hlarge))
  | some entry =>
    rw [difference_iff hentry]
    cases entry with
    | none =>
      have hasks (c : Command) : ¬ Asks mem c := by
        rw [Asks, lookup, hentry]
        rintro ⟨⟩
      rw [agrees_unassigned h hpackage hlocal hours hentry]
      simp only [hasks]
      tauto
    | some entry =>
      obtain ⟨c, len⟩ := entry
      have hdeparts : (∃ c', Asks mem c' ∧ c'.Departs mem s up.report own.report) ↔
          len = (Request.payloadLength mem).toNat ∧ c.Departs mem s up.report own.report := by
        simp only [asks_iff hentry]
        constructor
        · rintro ⟨c', ⟨rfl, hlen⟩, h⟩
          exact ⟨hlen, h⟩
        · rintro ⟨hlen, h⟩
          exact ⟨c, ⟨rfl, hlen⟩, h⟩
      rw [hdeparts]
      by_cases hchannel : Request.channel mem = 0
      · rw [agrees_own h hpackage hlocal hours hentry hchannel, hchannel, hready]
        simp [hzero]
      by_cases hwide : Request.channel mem = channelIdPackage
      · rw [agrees_wide h hpackage hlocal hours hentry hwide, hwide]
        simp [hzero.symm]
      · rw [agrees_other h hpackage hlocal hours hentry hchannel hwide]
        simp [hchannel, hwide]

end Decisions

end NcsiResponder
