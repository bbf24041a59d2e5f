import NcsiResponder.Checksums
import NcsiResponder.Lib.Observation
import NcsiResponder.Provision

/-!
# What an instance lets one see

The engine keeps more than it acts on. A `View` is the part of its storage that ever shows
in a HAL call or in a frame; VLAN, AEN, link and broadcast settings, the package selection
and the counters are not in it. Two instances with the same view behave alike for ever, and
two with different views can be told apart (`indistinguishable_iff_view`). So what is
tracked and not enforced can have any value, and nobody will notice
(`indistinguishable_tracked`). Nobody but the board code: its functions get the port as an
argument, and a `Hal` is one that replies by the calls made alone.
-/

namespace NcsiResponder

open BigEndian

/-! ## Views -/

/-- The address that a filter lets pass, if any. -/
def MacFilter.live (filter : MacFilter) : Option (Vector UInt8 6) :=
  if filter.enabled && filter.addressType == 0 then some filter.mac else none

/-- The part of the channel state that shows. -/
structure ChannelView where
  ready : Bool
  enabled : Bool
  txPassthroughEn : Bool
  -- `autonegEnabled` is not among the link bits: it is set before they are reported
  linkUp : Bool
  autonegHcd : Bool
  autonegComplete : Bool
  /-- what the slots let pass -/
  live : Vector (Option (Vector UInt8 6)) maxMacFilters

def ChannelState.view (s : ChannelState) : ChannelView where
  ready := s.ready
  enabled := s.enabled
  txPassthroughEn := s.txPassthroughEn
  linkUp := s.linkStatus.linkUp
  autonegHcd := s.linkStatus.autonegHcd
  autonegComplete := s.linkStatus.autonegComplete
  live := s.macFilters.map MacFilter.live

/-- The part of static storage that shows. -/
structure View where
  package : UInt8
  channel : UInt8
  computesChecksum : Bool
  /-- the checksums that are left in the frames -/
  checksum : FrameVar → UInt32
  state : ChannelView

def Engine.view (e : Engine) : View where
  package := e.gLocalPackageId
  channel := e.gLocalChannelId
  computesChecksum := e.gNcsiComputeChecksum
  checksum := e.checksumField
  state := e.state.view

/-! ## The same view, the same behaviour -/

section Channel

variable {hal : Hal} {mem : Nat → UInt8} {s s' : ChannelState} {calls : List HalCall}

/-- No filter of a channel that was reset lets anything pass. -/
theorem view_reset (s : ChannelState) : s.reset.view =
    { s.view with
      ready := false, enabled := false, txPassthroughEn := false
      live := Vector.replicate maxMacFilters none } := by
  have hlive : s.reset.macFilters.map MacFilter.live = Vector.replicate maxMacFilters none := by
    ext i hi
    simp [ChannelState.reset, MacFilter.live]
  simp only [ChannelState.view, hlive]
  rfl

theorem view_trackMac (mem : Nat → UInt8) (s : ChannelState) : (s.trackMac mem).view =
    { s.view with
      live := s.view.live.setIfInBounds (Request.slot mem).toNat (Request.macFilter mem).live } := by
  simp only [ChannelState.view, ChannelState.trackMac, Vector.map_setIfInBounds]

/-- What a command does to the view depends on the view only. -/
theorem newState_view (h : s.view = s'.view) (c : Command) :
    (c.newState hal mem calls s).view = (c.newState hal mem calls s').view := by
  have hview := h
  simp only [ChannelState.view, ChannelView.mk.injEq] at hview
  obtain ⟨hready, henabled, htx, hlinkUp, hhcd, hcomplete, hlive⟩ := hview
  cases c with
  | resetChannel => rw [Command.newState, Command.newState, view_reset, view_reset, h]
  | setMACAddress => rw [Command.newState, Command.newState, view_trackMac, view_trackMac, h]
  | _ =>
    simp only [Command.newState, ChannelState.view, ChannelState.reportLink, hready, henabled, htx,
      hlinkUp, hhcd, hcomplete, hlive]

theorem newCalls_view (h : s.view = s'.view) (c : Command) :
    c.newCalls hal mem s calls = c.newCalls hal mem s' calls := by
  have hlinkUp : s.linkStatus.linkUp = s'.linkStatus.linkUp := congrArg ChannelView.linkUp h
  cases c <;> simp only [Command.newCalls, hlinkUp]

/-- Get Link Status sets the one link bit that is not in the view before it reports it. -/
theorem reply_view (h : s.view = s'.view) (c : Command) :
    c.reply mem (c.newState hal mem calls s) = c.reply mem (c.newState hal mem calls s') := by
  simp only [ChannelState.view, ChannelView.mk.injEq] at h
  obtain ⟨-, -, -, hlinkUp, hhcd, hcomplete, -⟩ := h
  cases c with
  | getLinkStatus =>
    simp only [Command.reply, Command.newState, ChannelState.reportLink, hlinkUp, hhcd, hcomplete]
  | _ => rfl

theorem admits_iff_live (sourceMac : RxPtr) (filter : MacFilter) :
    filter.admits sourceMac = true ↔ filter.live = some sourceMac.mac := by
  rw [MacFilter.admits, Bool.and_eq_true, sameMac_iff, MacFilter.live]
  split <;> simp_all

theorem forwards_iff_live (s : ChannelState) (sourceMac : RxPtr) : s.forwards sourceMac = true ↔
    s.view.txPassthroughEn = true ∧
      ∃ (i : ℕ) (hi : i < maxMacFilters), s.view.live[i] = some sourceMac.mac := by
  simp only [ChannelState.forwards, Bool.and_eq_true, Vector.any_eq_true, admits_iff_live,
    ChannelState.view, Vector.getElem_map]

theorem forwards_view (h : s.view = s'.view) (sourceMac : RxPtr) :
    s.forwards sourceMac = s'.forwards sourceMac := by
  rw [Bool.eq_iff_iff, forwards_iff_live, forwards_iff_live, h]

end Channel

section Machines

variable {hal : Hal} {m m' : Machine} {mem : Nat → UInt8}

/-- The machines look the same, and the board has seen the same calls. -/
structure SameView (m m' : Machine) : Prop where
  view : m.engine.view = m'.engine.view
  calls : m.calls = m'.calls
  laid : m.engine.Laid
  laid' : m'.engine.Laid

theorem Engine.addressed_view {e e' : Engine} (h : e.view = e'.view) :
    e.addressed mem = e'.addressed mem := by
  have hpackage : e.gLocalPackageId = e'.gLocalPackageId := congrArg View.package h
  have hchannel : e.gLocalChannelId = e'.gLocalChannelId := congrArg View.channel h
  rw [Engine.addressed, Engine.addressed, hpackage, hchannel]

theorem verdict_view {e e' : Engine} (h : e.view = e'.view) : verdict e mem = verdict e' mem :=
  verdict_congr (congrArg View.channel h) (congrArg (fun v => v.state.ready) h)

namespace SameView

variable (h : SameView m m')

include h

theorem state : m.engine.state.view = m'.engine.state.view := congrArg View.state h.view

/-- Counting a frame does not show. -/
theorem accept_view : m.accept.engine.state.view = m'.accept.engine.state.view := h.state

theorem worked_view :
    (m.worked hal mem).engine.state.view = (m'.worked hal mem).engine.state.view := by
  rw [Machine.worked, Machine.worked, verdict_view h.view]
  cases verdict m'.engine mem with
  | run c =>
    change (c.newState hal mem m.calls m.accept.engine.state).view =
      (c.newState hal mem m'.calls m'.accept.engine.state).view
    rw [h.calls, newState_view h.accept_view]
  | refuse _ _ | uninitialized => exact h.state

theorem verdict_newCalls (v : Verdict) : v.newCalls hal mem m = v.newCalls hal mem m' := by
  cases v with
  | run c => rw [Verdict.newCalls, Verdict.newCalls, h.calls, newCalls_view h.accept_view]
  | refuse _ _ | uninitialized => rfl

theorem worked_calls : (m.worked hal mem).calls = (m'.worked hal mem).calls := by
  rw [Machine.worked, Machine.worked, Machine.work_calls, Machine.work_calls,
    verdict_view h.view, h.verdict_newCalls, h.calls]

theorem answer_eq : m.answer hal mem = m'.answer hal mem := by
  rw [Machine.answer, Machine.answer, Machine.worked, Machine.worked, verdict_view h.view]
  cases verdict m'.engine mem with
  | run c =>
    change c.reply mem (c.newState hal mem m.calls m.accept.engine.state) =
      c.reply mem (c.newState hal mem m'.calls m'.accept.engine.state)
    rw [h.calls, reply_view h.accept_view]
  | refuse _ _ | uninitialized => rfl

theorem sentChecksum_eq (r : Reply) :
    m.engine.sentChecksum mem r = m'.engine.sentChecksum mem r := by
  have hcomputes : m.engine.gNcsiComputeChecksum = m'.engine.gNcsiComputeChecksum :=
    congrArg View.computesChecksum h.view
  have hfield : m.engine.checksumField = m'.engine.checksumField := congrArg View.checksum h.view
  rw [Engine.sentChecksum, Engine.sentChecksum, hcomputes, hfield]

/-- Both are answered with the same bytes. -/
theorem answerBytes_eq : m.answerBytes hal mem = m'.answerBytes hal mem := by
  rw [Machine.answerBytes_eq h.laid, Machine.answerBytes_eq h.laid', h.answer_eq,
    h.sentChecksum_eq]

/-- Both make the same HAL calls. -/
theorem newCalls_eq (a : Action) : m.newCalls hal a = m'.newCalls hal a := by
  cases a with
  | control mem =>
    rw [Machine.newCalls, Machine.newCalls, Engine.addressed_view h.view, h.answerBytes_eq,
      h.worked_calls, verdict_view h.view, h.verdict_newCalls]
  | forward sourceMac frame =>
    rw [Machine.newCalls, Machine.newCalls, forwards_view h.state, h.calls]
  | handlePassthrough =>
    have henabled : m.engine.state.enabled = m'.engine.state.enabled :=
      congrArg ChannelView.enabled h.state
    rw [Machine.newCalls, Machine.newCalls, henabled, h.calls]
  | init => simp only [Machine.newCalls, h.calls]
  | reload _ | setComputeChecksum _ | ignore => rfl

end SameView

/-- What an answered frame leaves to see. -/
theorem conclude_view (hlaid : m.engine.Laid) :
    (m.conclude hal mem (verdict m.engine mem)).engine.view =
      { m.engine.view with
        checksum := fun v =>
          if v = (m.answer hal mem).frameVar then m.engine.sentChecksum mem (m.answer hal mem)
          else m.engine.checksumField v
        state := (m.worked hal mem).engine.state.view } := by
  have hkept : ((m.conclude hal mem (verdict m.engine mem)).engine.gLocalPackageId,
      (m.conclude hal mem (verdict m.engine mem)).engine.gLocalChannelId,
      (m.conclude hal mem (verdict m.engine mem)).engine.gNcsiComputeChecksum) =
        (m.engine.gLocalPackageId, m.engine.gLocalChannelId, m.engine.gNcsiComputeChecksum) := by
    rw [Machine.conclude_engine, Machine.worked_fixed]
  simp only [Prod.mk.injEq] at hkept
  obtain ⟨hpackage, hchannel, hcomputes⟩ := hkept
  have hstate : (m.conclude hal mem (verdict m.engine mem)).engine.state.view =
      (m.worked hal mem).engine.state.view := by
    rw [Machine.conclude_state]
    rfl
  rw [Engine.view, hpackage, hchannel, hcomputes, hstate, funext (conclude_checksumField hlaid)]
  rfl

/-- Both look the same after every action. -/
theorem SameView.act (h : SameView m m') (a : Action) :
    (m.act hal a).engine.view = (m'.act hal a).engine.view := by
  cases a with
  | control mem =>
    rw [Machine.act, Machine.act, Machine.handle_engine, Machine.handle_engine,
      Engine.addressed_view h.view]
    split
    · have hfield : m.engine.checksumField = m'.engine.checksumField :=
        congrArg View.checksum h.view
      rw [conclude_view h.laid, conclude_view h.laid', h.view, h.worked_view, h.answer_eq,
        h.sentChecksum_eq, hfield]
    · exact h.view
  | init =>
    have hview (m : Machine) : (m.act hal .init).engine.view =
        { m.engine.view with
          package := hal.readPackageID m.calls
          channel := hal.readChannelID (.readPackageID (hal.readPackageID m.calls) :: m.calls)
          state := m.engine.state.reset.view } := rfl
    rw [hview, hview, view_reset, view_reset, h.view, h.calls, h.state]
  | setComputeChecksum enable =>
    have hview (m : Machine) : (m.act hal (.setComputeChecksum enable)).engine.view =
        { m.engine.view with computesChecksum := enable } := rfl
    rw [hview, hview, h.view]
  | forward _ _ | reload _ | handlePassthrough | ignore => exact h.view

theorem SameView.step (h : SameView m m') (op : Op) :
    SameView (m.step hal op) (m'.step hal op) where
  view := by rw [Machine.step_engine, Machine.step_engine, h.act]
  calls := by rw [Machine.step_calls, Machine.step_calls, h.newCalls_eq, h.calls]
  laid := by
    rw [Machine.step_engine]
    exact Machine.act_laid _ h.laid
  laid' := by
    rw [Machine.step_engine]
    exact Machine.act_laid _ h.laid'

end Machines

/-! ## Indistinguishable machines -/

/-- What a call shows: the HAL calls it makes, newest first. -/
def Machine.shows (hal : Hal) (m : Machine) (op : Op) : List HalCall :=
  callsMade ⟨m, op, m.step hal op⟩

/-- The machine, on a board that has not been called yet. -/
def Machine.fresh (m : Machine) : Machine := { m with calls := [] }

/-- No board and no sequence of calls tells the machines apart. -/
def Indistinguishable (m m' : Machine) : Prop :=
  ∀ hal, Observation.Indistinguishable (Machine.step hal) (Machine.shows hal) m.fresh m'.fresh

theorem indistinguishable_of_view {m m' : Machine} (hlaid : m.engine.Laid)
    (hlaid' : m'.engine.Laid) (h : m.engine.view = m'.engine.view) : Indistinguishable m m' := by
  intro hal
  refine Observation.indistinguishable_of_congr SameView ?_ (fun _ _ op h => h.step op)
    ⟨h, rfl, hlaid, hlaid'⟩
  intro m m' op h
  rw [Machine.shows, Machine.shows, callsMade_step, callsMade_step, h.newCalls_eq]

/-! ## Different views, different behaviour -/

section Machines

variable {hal : Hal} {m m' : Machine} {mem : Nat → UInt8} {package channel : UInt8}

/-- What a command leaves to see. -/
theorem view_of_runs (hlaid : m.engine.Laid) {c : Command}
    (hruns : m.engine.runs mem = some c) :
    (m.step hal (.rxFrame mem)).engine.view =
      { m.engine.view with
        checksum := fun v =>
          if v = (m.answer hal mem).frameVar then m.engine.sentChecksum mem (m.answer hal mem)
          else m.engine.checksumField v
        state := (c.newState hal mem m.calls m.engine.state).view } := by
  obtain ⟨haddressed, hverdict⟩ := Engine.runs_eq_some.mp hruns
  have hworked : (m.worked hal mem).engine.state.view =
      (c.newState hal mem m.calls m.engine.state).view := by
    rw [Machine.worked, hverdict]
    exact newState_view (show m.accept.engine.state.view = m.engine.state.view from rfl) c
  rw [Machine.step_engine, Op.action, Machine.act, Machine.handle_engine, if_pos haddressed,
    conclude_view hlaid, hworked]

/-- With the checksum setting off, no answer changes a checksum that is left in a frame. -/
theorem view_of_runs_plain (hlaid : m.engine.Laid) (hoff : m.engine.gNcsiComputeChecksum = false)
    {c : Command} (hruns : m.engine.runs mem = some c) :
    (m.step hal (.rxFrame mem)).engine.view =
      { m.engine.view with state := (c.newState hal mem m.calls m.engine.state).view } := by
  have hfield : (fun v => if v = (m.answer hal mem).frameVar then
      m.engine.sentChecksum mem (m.answer hal mem) else m.engine.checksumField v) =
        m.engine.checksumField := by
    funext v
    split
    · next hv =>
      rw [Engine.sentChecksum, hoff, hv]
      rfl
    · rfl
  rw [view_of_runs hlaid hruns, hfield]
  rfl

/-- The checksum field of an answer. -/
theorem ncsiRd32_answerBytes (hlaid : m.engine.Laid) :
    ncsiRd32 (m.answerBytes hal mem) (m.answer hal mem).frameVar.checksum.toNat =
      m.engine.sentChecksum mem (m.answer hal mem) := by
  rw [Machine.answerBytes_eq hlaid, Reply.wire, ncsiRd32_checksum_take]

/-! ### Experiments -/

/-- A board whose PHY cannot be read: Get Link Status reports the cached bits. -/
def probeHal : Hal := { sampleHal with readRegister := fun _ _ _ => -1 }

/-- Two instances of one identity that cannot be told apart on that board. -/
structure Twins (package channel : UInt8) (m m' : Machine) : Prop where
  alike : Observation.Indistinguishable (Machine.step probeHal) (Machine.shows probeHal) m m'
  laid : m.engine.Laid
  laid' : m'.engine.Laid
  identified : Identified package channel m
  identified' : Identified package channel m'

theorem shows_eq (op : Op) : m.shows hal op = m.newCalls hal op.action := callsMade_step op

theorem identified_addressed (haddressable : Addressable package channel)
    (hid : Identified package channel m) (opcode : UInt8) (payload : List UInt8) :
    m.engine.addressed (request (requestID package channel) opcode payload) = true := by
  obtain ⟨hpackage, hchannel⟩ := requestID_bits haddressable
  obtain ⟨-, rfl, rfl⟩ := hid
  simp [Engine.addressed, request_package, request_channel, hpackage, hchannel]

/-- How an opcode without a handler is answered. -/
theorem answer_of_lookup_none {channelID opcode : UInt8} (hlookup : lookup opcode = none) :
    m.answer hal (request channelID opcode []) =
      .codes ResponseCode.commandUnsupported ReasonCode.unknownUnsupported := by
  have hverdict : verdict m.engine (request channelID opcode []) =
      .refuse ResponseCode.commandUnsupported ReasonCode.unknownUnsupported := by
    simp only [verdict, request_opcode, hlookup]
  rw [Machine.answer, hverdict]
  rfl

/-- What the checksum of a plain response covers. -/
theorem region_gResponseFrame (w : ResponseFields) :
    region (FrameVar.gResponseFrame.wire w) Header.managmentControllerID
      (FrameVar.gResponseFrame.checksum.toNat - Header.managmentControllerID) =
    [0, 1, 0, w.instanceID, w.controlPacketType, w.channelID, 0, 4] ++ (List.replicate 8 0 ++
      (bytes16 w.responseCode ++ bytes16 w.reasonCode)) := rfl

/-- Two such answers with different checksums. -/
theorem sum_ne (channelID : UInt8) :
    (Reply.codes ResponseCode.commandUnsupported ReasonCode.unknownUnsupported).sum
        (request channelID 0x0F []) ≠
      (Reply.codes ResponseCode.commandUnsupported ReasonCode.unknownUnsupported).sum
        (request channelID 0x50 []) := by
  let r : Reply := .codes ResponseCode.commandUnsupported ReasonCode.unknownUnsupported
  -- the third word holds the packet type
  have hsum (opcode : UInt8) : r.sum (request channelID opcode []) =
      (be16 0 1).toUInt32 + ((be16 0 1).toUInt32 + ((be16 (opcode ||| 0x80) channelID).toUInt32 +
        ((be16 0 4).toUInt32 + wordSum (List.replicate 8 0 ++
          (bytes16 r.responseCode ++ bytes16 r.reasonCode))))) := by
    have hfields : r.fields (request channelID opcode []) =
        { instanceID := 1, controlPacketType := opcode ||| 0x80, channelID := channelID,
          responseCode := r.responseCode, reasonCode := r.reasonCode, linkStatus := r.linkWord,
          checksum := 0 } := rfl
    rw [Reply.sum, Reply.wire, hfields]
    exact congrArg wordSum (region_gResponseFrame _)
  change r.sum _ ≠ r.sum _
  rw [hsum, hsum]
  intro heq
  have htype : (be16 (0x0F ||| 0x80) channelID).toUInt32 = (be16 (0x50 ||| 0x80) channelID).toUInt32 := by
    grind
  have hnat := congrArg UInt32.toNat htype
  rw [UInt16.toNat_toUInt32, UInt16.toNat_toUInt32, be16_toNat, be16_toNat] at hnat
  simp at hnat

/-- The link bits of a status word. -/
theorem word_inj : ∀ linkUp hcd complete linkUp' hcd' complete' : Bool,
    (LinkStatus.mk linkUp hcd true complete).word = (LinkStatus.mk linkUp' hcd' true complete').word →
      linkUp = linkUp' ∧ hcd = hcd' ∧ complete = complete' := by
  decide

/-- What Get Link Status reports on a board whose PHY cannot be read. -/
theorem linkStatus_answerBytes (hlaid : m.engine.Laid)
    (hruns : m.engine.runs mem = some .getLinkStatus) :
    ncsiRd32 (m.answerBytes probeHal mem) LinkStatusResponse.linkStatus =
      { m.engine.state.linkStatus with autonegEnabled := true }.word := by
  obtain ⟨-, hverdict⟩ := Engine.runs_eq_some.mp hruns
  have hbmsr : bmsr probeHal m.calls = -1 := rfl
  have hreading : linkReading probeHal m.calls = none := by
    rw [linkReading, hbmsr]
    exact if_neg (by decide)
  have hanswer : m.answer probeHal mem =
      .linkStatus { m.engine.state.linkStatus with autonegEnabled := true }.word := by
    rw [Machine.answer, Machine.worked, hverdict]
    change Reply.linkStatus (m.accept.engine.state.reportLink
      (linkReading probeHal m.calls)).linkStatus.word = _
    rw [hreading]
    rfl
  rw [Machine.answerBytes_eq hlaid, hanswer]
  exact ncsiRd32_linkStatus_wire _

/-- What an instruction does to the view depends on the view only. -/
theorem effect_view {s s' : ChannelState} (h : s.view = s'.view) (i : Instruction)
    (hi : i.Encodable) : (i.effect s).view = (i.effect s').view := by
  rw [← i.newState_request probeHal 0 0 [] s hi, ← i.newState_request probeHal 0 0 [] s' hi,
    newState_view h]

theorem foldl_effect_view (instructions : List Instruction) :
    ∀ {s s' : ChannelState}, s.view = s'.view → (∀ i ∈ instructions, i.Encodable) →
      (instructions.foldl Instruction.effect s).view =
        (instructions.foldl Instruction.effect s').view := by
  induction instructions with
  | nil => exact fun h _ => h
  | cons i instructions ih =>
    intro s s' h hencodable
    rw [List.forall_mem_cons] at hencodable
    exact ih (effect_view h i hencodable.1) hencodable.2

/-- Instructions to an instance whose channel is ready, with the checksum setting off. -/
theorem play_instructions (haddressable : Addressable package channel)
    (instructions : List Instruction) : ∀ {m : Machine}, m.engine.Laid →
      Identified package channel m → m.engine.gNcsiComputeChecksum = false →
      m.engine.state.ready = true → (∀ i ∈ instructions, i.Encodable) →
      ((instructions.map fun i => Op.rxFrame (i.frame package channel)).foldl
        (Machine.step probeHal) m).engine.state.view =
        (instructions.foldl Instruction.effect m.engine.state).view := by
  induction instructions with
  | nil => exact fun _ _ _ _ _ => rfl
  | cons i instructions ih =>
    intro m hlaid hid hoff hready hencodable
    rw [List.forall_mem_cons] at hencodable
    have hruns := runs_request haddressable hid i.lookup_command i.length_payload (.inr hready)
    have hview := @view_of_runs_plain probeHal m _ hlaid hoff _ hruns
    rw [i.newState_request probeHal _ _ _ _ hencodable.1] at hview
    have hlaid' : (m.step probeHal (.rxFrame (i.frame package channel))).engine.Laid := by
      rw [Machine.step_engine]
      exact Machine.act_laid _ hlaid
    have hoff' := (congrArg View.computesChecksum hview).trans hoff
    have hready' := (congrArg (fun v => v.state.ready) hview).trans ((i.effect_ready _).trans hready)
    rw [List.map_cons, List.foldl_cons, List.foldl_cons]
    rw [← foldl_effect_view instructions (congrArg View.state hview) hencodable.2]
    exact ih hlaid' (step_identified _ hid) hoff' hready' hencodable.2

/-! ### Experiments on the filters -/

/-- A source address in memory. -/
def sourceOf (mac : Vector UInt8 6) : RxPtr := .ofFrame (buffer mac.toList)

theorem mac_sourceOf (mac : Vector UInt8 6) : (sourceOf mac).mac = mac := by
  obtain ⟨⟨bytes⟩, hsize⟩ := mac
  match bytes, hsize with
  | [b₀, b₁, b₂, b₃, b₄, b₅], _ => rfl

/-- Twins let the same source addresses through. -/
theorem forwards_of_alike
    (halike : Observation.Indistinguishable (Machine.step hal) (Machine.shows hal) m m')
    (mac : Vector UInt8 6) :
    m.engine.state.forwards (sourceOf mac) = m'.engine.state.forwards (sourceOf mac) := by
  have hshows := halike.output_eq (.passthroughTx (buffer mac.toList) (fun _ => 0) 0)
  rw [shows_eq, shows_eq, Op.action, Machine.newCalls, Machine.newCalls] at hshows
  change (if m.engine.state.forwards (sourceOf mac) then _ else []) =
    (if m'.engine.state.forwards (sourceOf mac) then _ else []) at hshows
  -- a call is made, or is not
  cases hforwards : m.engine.state.forwards (sourceOf mac) <;>
    cases hforwards' : m'.engine.state.forwards (sourceOf mac) <;>
    simp [hforwards, hforwards'] at hshows ⊢

/-- Lets one address pass in slot 0. -/
def admitOne : List Instruction := [.macFilter 0 ⟨true, 0, Vector.replicate 6 0⟩]

/-- With an address admitted, the switch decides. -/
theorem forwards_admitOne (s : ChannelState) :
    (admitOne.foldl Instruction.effect s).forwards (sourceOf (Vector.replicate 6 0)) =
      s.txPassthroughEn := by
  rw [Bool.eq_iff_iff, forwards_iff_live, mac_sourceOf]
  refine ⟨fun h => h.1, fun htx => ⟨htx, 0, by decide, ?_⟩⟩
  simp [admitOne, Instruction.effect, ChannelState.view, MacFilter.live]

/-- Disables all slots but one, and switches transmission on. -/
def isolate (k : Fin maxMacFilters) : List Instruction :=
  (((List.finRange maxMacFilters).filter (· ≠ k)).map fun slot =>
    .macFilter slot ((Vector.replicate maxMacFilters MacFilter.zero).get slot)) ++ [.networkTX true]

theorem encodable_isolate (k : Fin maxMacFilters) : ∀ i ∈ isolate k, i.Encodable := by
  intro i hi
  rcases List.mem_append.mp hi with hi | hi
  · obtain ⟨slot, -, rfl⟩ := List.mem_map.mp hi
    obtain ⟨j, hj⟩ := slot
    rw [Instruction.Encodable, Instruction.get_eq_getElem, Vector.getElem_replicate]
    decide
  · rw [List.mem_singleton.mp hi]
    trivial

/-- What is let through then is what that slot lets pass. -/
theorem forwards_isolate (s : ChannelState) {k : Nat} (hk : k < maxMacFilters)
    (mac : Vector UInt8 6) :
    ((isolate ⟨k, hk⟩).foldl Instruction.effect s).forwards (sourceOf mac) = true ↔
      s.view.live[k] = some mac := by
  rw [forwards_iff_live, mac_sourceOf, isolate, List.foldl_append, Instruction.foldl_macFilters]
  simp only [List.foldl_cons, List.foldl_nil, Instruction.effect, ChannelState.view,
    Vector.getElem_map, Vector.getElem_ofFn, Instruction.get_eq_getElem, true_and]
  -- the slots that are disabled
  have hany {i : Nat} (hi : i < maxMacFilters) :
      ((List.finRange maxMacFilters).filter (· ≠ (⟨k, hk⟩ : Fin maxMacFilters))).any
        (· = (⟨i, hi⟩ : Fin maxMacFilters)) = true ↔ i ≠ k := by
    simp
  simp only [hany]
  constructor
  · rintro ⟨i, hi, hlive⟩
    by_cases hik : i = k
    · subst hik
      simpa using hlive
    · simp [hik, MacFilter.live, MacFilter.zero] at hlive
  · intro hlive
    exact ⟨k, hk, by simpa using hlive⟩

namespace Twins

variable (h : Twins package channel m m')

include h

theorem rx (mem : Nat → UInt8) :
    Twins package channel (m.step probeHal (.rxFrame mem)) (m'.step probeHal (.rxFrame mem)) where
  alike := h.alike.step (.rxFrame mem)
  laid := by
    rw [Machine.step_engine]
    exact Machine.act_laid _ h.laid
  laid' := by
    rw [Machine.step_engine]
    exact Machine.act_laid _ h.laid'
  identified := step_identified mem h.identified
  identified' := step_identified mem h.identified'

theorem setComputeChecksum (enable : Bool) :
    Twins package channel (m.step probeHal (.setComputeChecksum enable))
      (m'.step probeHal (.setComputeChecksum enable)) where
  alike := h.alike.step (.setComputeChecksum enable)
  laid := h.laid
  laid' := h.laid'
  identified := h.identified
  identified' := h.identified'

/-- A request that names them is answered by both with the same bytes. -/
theorem answerBytes_eq (haddressed : m.engine.addressed mem = true)
    (haddressed' : m'.engine.addressed mem = true) :
    m.answerBytes probeHal mem = m'.answerBytes probeHal mem := by
  have hshows := h.alike.output_eq (.rxFrame mem)
  rw [shows_eq, shows_eq, Op.action, Machine.newCalls, Machine.newCalls, if_pos haddressed,
    if_pos haddressed'] at hshows
  exact (HalCall.txFrame.inj (List.cons_eq_cons.mp hshows).1).1

/-- Where they also answer in the same frame, the checksum field is the same. -/
theorem sentChecksum_eq (haddressed : m.engine.addressed mem = true)
    (haddressed' : m'.engine.addressed mem = true)
    (hframe : (m.answer probeHal mem).frameVar = (m'.answer probeHal mem).frameVar) :
    m.engine.sentChecksum mem (m.answer probeHal mem) =
      m'.engine.sentChecksum mem (m'.answer probeHal mem) := by
  rw [← ncsiRd32_answerBytes h.laid, ← ncsiRd32_answerBytes h.laid',
    h.answerBytes_eq haddressed haddressed', hframe]

theorem enabled_eq : m.engine.state.enabled = m'.engine.state.enabled := by
  have hshows := h.alike.output_eq .handlePassthrough
  rw [shows_eq, shows_eq, Op.action, Machine.newCalls, Machine.newCalls] at hshows
  cases henabled : m.engine.state.enabled <;> cases henabled' : m'.engine.state.enabled <;>
    simp [henabled, henabled'] at hshows ⊢

theorem symm : Twins package channel m' m where
  alike := fun ops => (h.alike ops).symm
  laid := h.laid'
  laid' := h.laid
  identified := h.identified'
  identified' := h.identified

/-- Get Capabilities completes on a channel that is ready only. -/
theorem ready_of (haddressable : Addressable package channel)
    (hready : m.engine.state.ready = true) : m'.engine.state.ready = true := by
  let mem := request (requestID package channel) Command.getCapabilities.opcode []
  have hruns : m.engine.runs mem = some .getCapabilities :=
    runs_request haddressable h.identified rfl (by decide) (.inr hready)
  obtain ⟨haddressed, hverdict⟩ := Engine.runs_eq_some.mp hruns
  have haddressed' := identified_addressed haddressable h.identified' Command.getCapabilities.opcode []
  -- both responses carry the same code
  have hcode := congrArg frameResponseCode (h.answerBytes_eq haddressed haddressed')
  have hcomplete : (m.answer probeHal mem).responseCode = ResponseCode.commandComplete := by
    rw [Machine.answer, hverdict]
    rfl
  rw [frameResponseCode_answerBytes h.laid, frameResponseCode_answerBytes h.laid', hcomplete] at hcode
  obtain ⟨c, hverdict', -⟩ := run_of_complete hcode.symm
  by_contra hnot
  have hlookup : lookup Command.getCapabilities.opcode = some (c, _) := (verdict_eq_run.mp hverdict').1
  obtain rfl | ⟨rfl | rfl, -⟩ := verdict_of_not_ready (Bool.eq_false_iff.mpr hnot) hverdict' <;>
    cases hlookup

theorem ready_eq (haddressable : Addressable package channel) :
    m.engine.state.ready = m'.engine.state.ready :=
  Bool.eq_iff_iff.mpr ⟨h.ready_of haddressable, h.symm.ready_of haddressable⟩

/-- With the checksum setting on, different answers go out with different checksums. -/
theorem computes_of (haddressable : Addressable package channel)
    (hon : m.engine.gNcsiComputeChecksum = true) : m'.engine.gNcsiComputeChecksum = true := by
  by_contra hoff
  have hfield (opcode : UInt8) (hlookup : lookup opcode = none) :
      0 - (Reply.codes ResponseCode.commandUnsupported ReasonCode.unknownUnsupported).sum
        (request (requestID package channel) opcode []) =
        m'.engine.checksumField .gResponseFrame := by
    have hanswer := @answer_of_lookup_none probeHal m (requestID package channel) opcode hlookup
    have hanswer' := @answer_of_lookup_none probeHal m' (requestID package channel) opcode hlookup
    have hchecksum := h.sentChecksum_eq
      (identified_addressed haddressable h.identified opcode [])
      (identified_addressed haddressable h.identified' opcode []) (by rw [hanswer, hanswer'])
    rw [hanswer, hanswer', Engine.sentChecksum, Engine.sentChecksum, if_pos hon, if_neg hoff]
      at hchecksum
    exact hchecksum
  have hsame := (hfield 0x0F rfl).trans (hfield 0x50 rfl).symm
  exact sum_ne (requestID package channel) (by grind)

theorem computes_eq (haddressable : Addressable package channel) :
    m.engine.gNcsiComputeChecksum = m'.engine.gNcsiComputeChecksum :=
  Bool.eq_iff_iff.mpr ⟨h.computes_of haddressable, h.symm.computes_of haddressable⟩

/-! ### With the channel ready and the checksum setting off -/

section Prepared

variable (haddressable : Addressable package channel)
  (hoff : m.engine.gNcsiComputeChecksum = false) (hoff' : m'.engine.gNcsiComputeChecksum = false)
  (hready : m.engine.state.ready = true) (hready' : m'.engine.state.ready = true)

include haddressable hready hready'

/-- Both answer a command without a payload, and so in the same frame. -/
theorem run_command {c : Command} (hlookup : lookup c.opcode = some (c, 0)) :
    let mem := request (requestID package channel) c.opcode []
    m.engine.runs mem = some c ∧ m'.engine.runs mem = some c :=
  ⟨runs_request haddressable h.identified hlookup (by decide) (.inr hready),
    runs_request haddressable h.identified' hlookup (by decide) (.inr hready')⟩

include hoff hoff' in
/-- A checksum that is left in a frame goes out with the next answer in it. -/
theorem checksumField_eq {c : Command} (hlookup : lookup c.opcode = some (c, 0)) {v : FrameVar}
    (hv : ∀ mem s, (c.reply mem s).frameVar = v) :
    m.engine.checksumField v = m'.engine.checksumField v := by
  obtain ⟨hruns, hruns'⟩ := h.run_command haddressable hready hready' hlookup
  obtain ⟨haddressed, hverdict⟩ := Engine.runs_eq_some.mp hruns
  obtain ⟨haddressed', hverdict'⟩ := Engine.runs_eq_some.mp hruns'
  have hframe : (m.answer probeHal (request (requestID package channel) c.opcode [])).frameVar = v := by
    rw [Machine.answer, hverdict]
    exact hv _ _
  have hframe' : (m'.answer probeHal (request (requestID package channel) c.opcode [])).frameVar =
      v := by
    rw [Machine.answer, hverdict']
    exact hv _ _
  have hchecksum := h.sentChecksum_eq haddressed haddressed' (hframe.trans hframe'.symm)
  rw [Engine.sentChecksum, Engine.sentChecksum, hoff, hoff', hframe, hframe'] at hchecksum
  exact hchecksum

/-- Get Link Status shows the cached link bits. -/
theorem linkStatus_eq : m.engine.state.linkStatus.linkUp = m'.engine.state.linkStatus.linkUp ∧
    m.engine.state.linkStatus.autonegHcd = m'.engine.state.linkStatus.autonegHcd ∧
    m.engine.state.linkStatus.autonegComplete = m'.engine.state.linkStatus.autonegComplete := by
  obtain ⟨hruns, hruns'⟩ := h.run_command haddressable hready hready'
    (show lookup Command.getLinkStatus.opcode = some (.getLinkStatus, 0) from rfl)
  have hbytes := h.answerBytes_eq (Engine.runs_eq_some.mp hruns).1 (Engine.runs_eq_some.mp hruns').1
  have hword := linkStatus_answerBytes h.laid hruns
  rw [hbytes, linkStatus_answerBytes h.laid' hruns'] at hword
  exact word_inj _ _ _ _ _ _ hword.symm

include hoff hoff' in
/-- After the same instructions, the same source addresses are let through. -/
theorem forwards_eq (instructions : List Instruction)
    (hencodable : ∀ i ∈ instructions, i.Encodable) (mac : Vector UInt8 6) :
    (instructions.foldl Instruction.effect m.engine.state).forwards (sourceOf mac) =
      (instructions.foldl Instruction.effect m'.engine.state).forwards (sourceOf mac) := by
  have hview := play_instructions haddressable instructions h.laid h.identified hoff hready hencodable
  have hview' :=
    play_instructions haddressable instructions h.laid' h.identified' hoff' hready' hencodable
  rw [← forwards_view hview, ← forwards_view hview']
  exact forwards_of_alike (h.alike.play _) mac

include hoff hoff' in
theorem txPassthroughEn_eq : m.engine.state.txPassthroughEn = m'.engine.state.txPassthroughEn := by
  have hforwards := h.forwards_eq haddressable hoff hoff' hready hready' admitOne
    (by simp [admitOne, Instruction.Encodable]) (Vector.replicate 6 0)
  rwa [forwards_admitOne, forwards_admitOne] at hforwards

include hoff hoff' in
theorem live_eq : m.engine.state.view.live = m'.engine.state.view.live := by
  ext k hk mac
  have hforwards := h.forwards_eq haddressable hoff hoff' hready hready' (isolate ⟨k, hk⟩)
    (encodable_isolate _) mac
  rw [Bool.eq_iff_iff, forwards_isolate, forwards_isolate] at hforwards
  exact hforwards

end Prepared

/-- With the checksum setting off and the channel ready, they still cannot be told apart. -/
theorem prepared (haddressable : Addressable package channel) : ∃ n n' : Machine,
    Twins package channel n n' ∧
      n.engine.view = { m.engine.view with
        computesChecksum := false, state := { m.engine.state.view with ready := true } } ∧
      n'.engine.view = { m'.engine.view with
        computesChecksum := false, state := { m'.engine.state.view with ready := true } } := by
  have hoff := h.setComputeChecksum false
  have hview {m : Machine} (hlaid : m.engine.Laid) (hid : Identified package channel m) :
      ((m.step probeHal (.setComputeChecksum false)).step probeHal
        (.rxFrame (clearInitialStateFrame package channel))).engine.view =
      { m.engine.view with
        computesChecksum := false, state := { m.engine.state.view with ready := true } } :=
    @view_of_runs_plain probeHal (m.step probeHal (.setComputeChecksum false)) _ hlaid rfl
      .clearInitialState (@runs_request (m.step probeHal (.setComputeChecksum false)) _ _
        haddressable hid .clearInitialState [] rfl (by decide) (.inl rfl))
  exact ⟨_, _, hoff.rx (clearInitialStateFrame package channel), hview h.laid h.identified,
    hview h.laid' h.identified'⟩

/-- What cannot be told apart looks the same. -/
theorem view_eq (haddressable : Addressable package channel) :
    m.engine.view = m'.engine.view := by
  obtain ⟨n, n', htwins, hn, hn'⟩ := h.prepared haddressable
  have hoff : n.engine.gNcsiComputeChecksum = false := congrArg View.computesChecksum hn
  have hoff' : n'.engine.gNcsiComputeChecksum = false := congrArg View.computesChecksum hn'
  have hready : n.engine.state.ready = true := congrArg (fun v => v.state.ready) hn
  have hready' : n'.engine.state.ready = true := congrArg (fun v => v.state.ready) hn'
  -- one experiment for each field
  have hleft (v : FrameVar) (c : Command) (hlookup : lookup c.opcode = some (c, 0))
      (hv : ∀ mem s, (c.reply mem s).frameVar = v) :
      m.engine.checksumField v = m'.engine.checksumField v := by
    have hfield : n.engine.checksumField v = m.engine.checksumField v :=
      congrFun (congrArg View.checksum hn) v
    have hfield' : n'.engine.checksumField v = m'.engine.checksumField v :=
      congrFun (congrArg View.checksum hn') v
    rw [← hfield, ← hfield']
    exact htwins.checksumField_eq haddressable hoff hoff' hready hready' hlookup hv
  have hchecksum : m.engine.checksumField = m'.engine.checksumField := by
    funext v
    cases v with
    | gResponseFrame => exact hleft _ .enableChannelNetworkTX rfl fun _ _ => rfl
    | gLinkStatusResponseFrame => exact hleft _ .getLinkStatus rfl fun _ _ => rfl
    | gCapabilitiesFrame => exact hleft _ .getCapabilities rfl fun _ _ => rfl
    | gVersionFrame => exact hleft _ .getVersionID rfl fun _ _ => rfl
  have htx := htwins.txPassthroughEn_eq haddressable hoff hoff' hready hready'
  have hlive := htwins.live_eq haddressable hoff hoff' hready hready'
  obtain ⟨hlinkUp, hhcd, hcomplete⟩ := htwins.linkStatus_eq haddressable hready hready'
  -- what was done to them beforehand has left these fields as they were
  have hstate := congrArg View.state hn
  have hstate' := congrArg View.state hn'
  simp only [Engine.view, ChannelState.view, ChannelView.mk.injEq] at hstate hstate'
  obtain ⟨-, -, htx₁, hlinkUp₁, hhcd₁, hcomplete₁, hlive₁⟩ := hstate
  obtain ⟨-, -, htx₂, hlinkUp₂, hhcd₂, hcomplete₂, hlive₂⟩ := hstate'
  obtain ⟨-, hpackage, hchannel⟩ := h.identified
  obtain ⟨-, hpackage', hchannel'⟩ := h.identified'
  simp only [Engine.view, ChannelState.view, View.mk.injEq, ChannelView.mk.injEq]
  exact ⟨hpackage.trans hpackage'.symm, hchannel.trans hchannel'.symm, h.computes_eq haddressable,
    hchecksum, h.ready_eq haddressable, h.enabled_eq, htx₁.symm.trans (htx.trans htx₂),
    hlinkUp₁.symm.trans (hlinkUp.trans hlinkUp₂), hhcd₁.symm.trans (hhcd.trans hhcd₂),
    hcomplete₁.symm.trans (hcomplete.trans hcomplete₂), hlive₁.symm.trans (hlive.trans hlive₂)⟩

end Twins

/-- Two instances that answer the same requests have the same identity. -/
theorem identity_eq_of_addressed (haddressable : Addressable package channel)
    {package' channel' : UInt8} (haddressable' : Addressable package' channel')
    (hid : Identified package channel m) (hid' : Identified package' channel' m')
    (hsame : ∀ mem, m.engine.addressed mem = m'.engine.addressed mem) :
    package' = package ∧ channel' = channel := by
  have hown := (hsame _).symm.trans (identified_addressed haddressable hid 0 [])
  have hown' := (hsame _).trans (identified_addressed haddressable' hid' 0 [])
  obtain ⟨-, rfl, rfl⟩ := hid
  obtain ⟨-, rfl, rfl⟩ := hid'
  simp only [Engine.addressed, request_package, request_channel, (requestID_bits haddressable).1,
    (requestID_bits haddressable).2, (requestID_bits haddressable').1,
    (requestID_bits haddressable').2, Bool.and_eq_true, Bool.or_eq_true, beq_iff_eq]
    at hown hown'
  -- one may have the channel ID of the whole package, but not only one
  obtain ⟨hpackage, hchannel | hchannel⟩ := hown
  · obtain ⟨-, hchannel' | hchannel'⟩ := hown'
    · exact ⟨hpackage.symm, hchannel'.trans hchannel.symm⟩
    · exact ⟨hpackage.symm, hchannel'⟩
  · exact ⟨hpackage.symm, hchannel.symm⟩

/-- **What an instance lets one see**: in any two runs, two instances whose identities requests
    can name behave alike for ever, on every board whose replies depend on the calls made only,
    and under every sequence of calls, if and only if they have the same view. -/
theorem indistinguishable_iff_view {hal' : Hal} {hist hist' : List Call} (hrun : FwRun hal hist m)
    (hrun' : FwRun hal' hist' m')
    (haddressable : Addressable m.engine.gLocalPackageId m.engine.gLocalChannelId)
    (haddressable' : Addressable m'.engine.gLocalPackageId m'.engine.gLocalChannelId) :
    Indistinguishable m m' ↔ m.engine.view = m'.engine.view := by
  refine ⟨fun halike => ?_, indistinguishable_of_view hrun.laid hrun'.laid⟩
  have hport : m.engine.port0 = .gPort := FwRun.port0 hal hrun
  have hport' : m'.engine.port0 = .gPort := FwRun.port0 hal' hrun'
  have hid : Identified m.engine.gLocalPackageId m.engine.gLocalChannelId m.fresh :=
    ⟨hport, rfl, rfl⟩
  have hid' : Identified m'.engine.gLocalPackageId m'.engine.gLocalChannelId m'.fresh :=
    ⟨hport', rfl, rfl⟩
  have hsame (mem : Nat → UInt8) : m.fresh.engine.addressed mem = m'.fresh.engine.addressed mem := by
    have hshows := (halike probeHal).output_eq (.rxFrame mem)
    rw [shows_eq, shows_eq, Op.action, Machine.newCalls, Machine.newCalls] at hshows
    cases haddressed : m.fresh.engine.addressed mem <;>
      cases haddressed' : m'.fresh.engine.addressed mem <;>
      simp [haddressed, haddressed'] at hshows ⊢
  obtain ⟨hpackage, hchannel⟩ := identity_eq_of_addressed haddressable haddressable' hid hid' hsame
  rw [hpackage, hchannel] at hid'
  have htwins : Twins m.engine.gLocalPackageId m.engine.gLocalChannelId m.fresh m'.fresh :=
    ⟨halike probeHal, hrun.laid, hrun'.laid, hid, hid'⟩
  exact htwins.view_eq haddressable

/-- **Tracked, not enforced**: in every run, the package selection, the VLAN, AEN, link and
    broadcast settings and the counters could have any other values, and no call of the engine
    would ever make a different HAL call or send a different frame, as long as the board's
    replies depend on the calls made only. -/
theorem indistinguishable_tracked {hist : List Call} (hrun : FwRun hal hist m)
    (selected vlanEnabled : Bool) (aenMcId : UInt8)
    (aenControl linkSettings oemLinkSettings broadcastFilterSettings : UInt32)
    (statNcsiRx statNcsiTx statNetRx statNetTx statNetDropped : UInt32) :
    Indistinguishable m { m with engine := { m.engine with
      selected := selected
      state := { m.engine.state with
        vlanEnabled := vlanEnabled
        aenMcId := aenMcId
        aenControl := aenControl
        linkSettings := linkSettings
        oemLinkSettings := oemLinkSettings
        broadcastFilterSettings := broadcastFilterSettings
        statNcsiRx := statNcsiRx
        statNcsiTx := statNcsiTx
        statNetRx := statNetRx
        statNetTx := statNetTx
        statNetDropped := statNetDropped } } } :=
  indistinguishable_of_view hrun.laid hrun.laid rfl

end Machines

/-! ## On the sample board -/

/-- Enable VLAN in the filtered mode. -/
def enableVLANRequest : Nat → UInt8 := request 0 ControlPacketType.enableVLAN [0, 0, 0, 1]

/-- A channel that filters VLANs, as far as it knows, and one that does not. -/
theorem indistinguishable_iff_view_vlan :
    let filtering := readyMachine.step sampleHal (.rxFrame enableVLANRequest)
    filtering.engine.state.vlanEnabled = true ∧ readyMachine.engine.state.vlanEnabled = false ∧
      Indistinguishable filtering readyMachine := by
  have hruns : readyMachine.engine.runs enableVLANRequest = some .enableVLAN := by decide +kernel
  have hoff : readyMachine.engine.gNcsiComputeChecksum = false := by decide +kernel
  have hidentity : readyMachine.engine.gLocalPackageId = 0 ∧
      readyMachine.engine.gLocalChannelId = 0 := by decide +kernel
  have hview := @view_of_runs_plain sampleHal readyMachine _ fwRun_readyMachine.laid hoff _ hruns
  have hrun : FwRun sampleHal _ (readyMachine.step sampleHal (.rxFrame enableVLANRequest)) :=
    fwRun_readyMachine.next ((takes_iff sampleHal (FwRun.port0 _ fwRun_readyMachine) _).mpr rfl)
  have haddressable : Addressable readyMachine.engine.gLocalPackageId
      readyMachine.engine.gLocalChannelId := by
    rw [hidentity.1, hidentity.2]
    exact ⟨by decide, by decide⟩
  refine ⟨by decide +kernel, by decide +kernel, ?_⟩
  refine (indistinguishable_iff_view hrun fwRun_readyMachine ?_ haddressable).mpr hview
  rw [show (readyMachine.step sampleHal (.rxFrame enableVLANRequest)).engine.gLocalPackageId = _ from
    congrArg View.package hview, show (readyMachine.step sampleHal
      (.rxFrame enableVLANRequest)).engine.gLocalChannelId = _ from congrArg View.channel hview]
  exact haddressable

theorem indistinguishable_tracked_aen : Indistinguishable readyMachine
    { readyMachine with engine := { readyMachine.engine with
      selected := false
      state := { readyMachine.engine.state with
        vlanEnabled := true
        aenMcId := 7
        aenControl := 0xFFFF
        linkSettings := 1
        oemLinkSettings := 2
        broadcastFilterSettings := 15
        statNcsiRx := 0
        statNcsiTx := 0
        statNetRx := 0
        statNetTx := 0
        statNetDropped := 3 } } } :=
  indistinguishable_tracked fwRun_readyMachine false true 7 0xFFFF 1 2 15 0 0 0 0 3

end NcsiResponder
