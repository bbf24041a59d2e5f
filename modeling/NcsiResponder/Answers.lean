import NcsiResponder.History

/-!
# What a request is answered with

A frame that is not addressed to this instance is not answered; every other frame is
answered once, with a well-formed response that shows nothing of earlier ones
(`handleNCSIFrame_answers`).
-/

namespace NcsiResponder

/-! ## What the controller receives -/

/-- The frame names this package, and its channel is this one or the whole package. -/
def ForInstance (e : Engine) (mem : Nat → UInt8) : Prop :=
  Request.package mem = e.gLocalPackageId ∧
    (Request.channel mem = channelIdPackage ∨ Request.channel mem = e.gLocalChannelId)

/-- The response struct of a packet type: three commands have one of their own, for when
    they complete. -/
def responseStruct (mem : Nat → UInt8) (responseCode : UInt16) : FrameVar :=
  if responseCode ≠ ResponseCode.commandComplete then .gResponseFrame
  else if Request.opcode mem = ControlPacketType.getLinkStatus then .gLinkStatusResponseFrame
  else if Request.opcode mem = ControlPacketType.getCapabilities then .gCapabilitiesFrame
  else if Request.opcode mem = ControlPacketType.getVersionID then .gVersionFrame
  else .gResponseFrame

/-- The response struct of the frame that answers a request. -/
def structOf (mem : Nat → UInt8) (frame : List UInt8) : FrameVar :=
  responseStruct mem (frameResponseCode frame)

/-- The reserved bytes of a response struct. -/
def FrameVar.reserved : FrameVar → List Nat
  | gResponseFrame | gLinkStatusResponseFrame => 16 :: List.range' 22 8
  | gCapabilitiesFrame => 16 :: List.range' 22 8 ++ [58, 59]
  | gVersionFrame => 16 :: List.range' 22 8 ++ [38, 39, 40]

/-- The bytes of the checksum field of a response struct. -/
def FrameVar.InChecksum (v : FrameVar) (i : Nat) : Prop :=
  v.checksum.toNat ≤ i ∧ i < v.checksum.toNat + 4

/-- A well-formed response to a request. -/
structure WellFormed (mem : Nat → UInt8) (frame : List UInt8) : Prop where
  length_ge : ethernetFrameMin ≤ frame.length
  length_le : frame.length ≤ sizeofNetworkFrame
  holdsChecksum : (structOf mem frame).checksum.toNat + 4 ≤ frame.length
  addresses : ∀ i < Header.etherType, frame[i]? = some 0xFF
  etherType : ncsiRd16 frame Header.etherType = etherTypeNcsi
  mcID : frame[Header.managmentControllerID]? = some 0
  revision : frame[Header.managmentControllerID + 1]? = some 1
  instanceID : frame[Header.instanceID]? = some (mem Header.instanceID)
  controlPacketType : frame[Header.controlPacketType]? =
    some (mem Header.controlPacketType ||| ControlPacketType.response)
  channelID : frame[Header.channelID]? = some (mem Header.channelID)
  payloadLength : sizeofControlPacketHeader + (ncsiRd16 frame Header.payloadLength).toNat =
    (structOf mem frame).checksum.toNat
  reserved : ∀ i ∈ (structOf mem frame).reserved, frame[i]? = some 0
  padding : ∀ i < frame.length, (structOf mem frame).checksum.toNat + 4 ≤ i → frame[i]? = some 0
  reasonCode : frameReasonCode frame = ReasonCode.none ↔
    frameResponseCode frame = ResponseCode.commandComplete

/-- The link status a frame reports, if it is a Get Link Status response. -/
def reportedLinkStatus (mem : Nat → UInt8) (frame : List UInt8) : Option UInt32 :=
  if structOf mem frame = .gLinkStatusResponseFrame then
    some (ncsiRd32 frame LinkStatusResponse.linkStatus)
  else none

/-- Two answers to a request carry the same codes and report the same link status. -/
structure SameReport (mem : Nat → UInt8) (frame frame' : List UInt8) : Prop where
  responseCode : frameResponseCode frame = frameResponseCode frame'
  reasonCode : frameReasonCode frame = frameReasonCode frame'
  linkStatus : reportedLinkStatus mem frame = reportedLinkStatus mem frame'

/-- Some delivery of the request makes the machine send this frame. -/
def Sends (hal : Hal) (m : Machine) (mem : Nat → UInt8) (frame : List UInt8) : Prop :=
  ∃ m', Takes hal m (.rxFrame mem) m' ∧ frame ∈ sentFrames ⟨m, .rxFrame mem, m'⟩

/-! ## The bytes of an answer -/

section Wire

variable (v : FrameVar) (w : ResponseFields)

theorem length_take_wire : ((v.wire w).take v.packetSize).length = v.packetSize := by
  have hlen : (v.wire w).length = sizeofNetworkFrame := by cases v <;> rfl
  rw [List.length_take, hlen]
  cases v <;> decide

theorem addresses_wire :
    ∀ i < Header.etherType, ((v.wire w).take v.packetSize)[i]? = some 0xFF := by
  intro i hi
  -- the twelve address bytes come first
  rw [getElem?_header v w (Nat.lt_trans hi (by decide))]
  simp only [FrameVar.header, List.append_assoc]
  rw [List.getElem?_append_left (by simpa using hi), List.getElem?_replicate, if_pos hi]

theorem header_wire : let frame := (v.wire w).take v.packetSize
    frame[Header.managmentControllerID]? = some 0 ∧
      frame[Header.managmentControllerID + 1]? = some 1 ∧
      frame[Header.instanceID]? = some w.instanceID ∧
      frame[Header.controlPacketType]? = some w.controlPacketType ∧
      frame[Header.channelID]? = some w.channelID := by
  refine ⟨?_, ?_, ?_, ?_, ?_⟩ <;> rw [getElem?_header v w (by decide)] <;> rfl

theorem reserved_header :
    ∀ i ∈ 16 :: List.range' 22 8, ((v.wire w).take v.packetSize)[i]? = some 0 := by
  intro i hi
  have hlt : i < 34 := by
    revert i
    decide
  rw [getElem?_header v w hlt]
  revert i
  simp [FrameVar.header, List.range', List.replicate_succ]

theorem reserved_wire : ∀ i ∈ v.reserved, ((v.wire w).take v.packetSize)[i]? = some 0 := by
  -- two of the preset payloads have reserved bytes of their own
  cases v with
  | gCapabilitiesFrame =>
    intro i hi
    rcases List.mem_append.mp hi with hi | hi
    · exact reserved_header _ w i hi
    · simp only [List.mem_cons, List.not_mem_nil, or_false] at hi
      rcases hi with rfl | rfl <;> rfl
  | gVersionFrame =>
    intro i hi
    rcases List.mem_append.mp hi with hi | hi
    · exact reserved_header _ w i hi
    · simp only [List.mem_cons, List.not_mem_nil, or_false] at hi
      rcases hi with rfl | rfl | rfl <;> rfl
  | gResponseFrame | gLinkStatusResponseFrame => exact reserved_header _ w

theorem ncsiRd32_linkStatus_wire :
    ncsiRd32 ((FrameVar.gLinkStatusResponseFrame.wire w).take
      FrameVar.gLinkStatusResponseFrame.packetSize) LinkStatusResponse.linkStatus =
        w.linkStatus := by
  rw [ncsiRd32_take (by decide), wire_linkPayload]
  exact ncsiRd32_append (length_header _ w) _

end Wire

/-- Outside the checksum field a frame does not depend on the checksum. -/
theorem getElem?_wire_checksum (v : FrameVar) (w : ResponseFields) (word word' : UInt32) {i : Nat}
    (hi : ¬ v.InChecksum i) :
    (v.wire { w with checksum := word })[i]? = (v.wire { w with checksum := word' })[i]? := by
  rw [FrameVar.InChecksum, ← length_front v w] at hi
  rw [wire_checksum, wire_checksum]
  -- in front of the field, or behind its four bytes
  by_cases hfront : i < (v.front w).length
  · rw [List.getElem?_append_left hfront, List.getElem?_append_left hfront]
  · have hpast : 4 ≤ i - (v.front w).length := by omega
    rw [List.getElem?_append_right (Nat.not_lt.mp hfront),
      List.getElem?_append_right (Nat.not_lt.mp hfront), List.getElem?_append_right hpast,
      List.getElem?_append_right hpast]
    rfl

/-- Behind the checksum field a frame is zero. -/
theorem padding_wire (v : FrameVar) (w : ResponseFields) {i : Nat}
    (hi : i < ((v.wire w).take v.packetSize).length) (hpast : v.checksum.toNat + 4 ≤ i) :
    ((v.wire w).take v.packetSize)[i]? = some 0 := by
  have hlength := length_front v w
  rw [List.length_take, wire_eq] at hi
  simp only [List.length_append, length_bytes32, List.length_replicate] at hi
  rw [List.getElem?_take_of_lt (by omega), wire_eq, List.getElem?_append_right (by omega),
    List.getElem?_append_right (by rw [length_bytes32]; omega), List.getElem?_replicate,
    if_pos (by rw [length_bytes32]; omega)]

/-! ## The answer of a reachable machine -/

section Hal

variable {hal : Hal} {m : Machine} {mem : Nat → UInt8}

theorem addressed_iff {e : Engine} : e.addressed mem = true ↔ ForInstance e mem := by
  simp [Engine.addressed, ForInstance]

/-- A reply names no reason exactly when it is a COMMAND_COMPLETE. -/
theorem answer_reasonCode :
    (m.answer hal mem).reasonCode = ReasonCode.none ↔
      (m.answer hal mem).responseCode = ResponseCode.commandComplete := by
  rw [Machine.answer]
  cases hverdict : verdict m.engine mem with
  | refuse rc reason =>
    obtain ⟨hrc, hreason⟩ := verdict_eq_refuse hverdict
    exact iff_of_false hreason hrc
  | uninitialized =>
    exact iff_of_false (show ReasonCode.initializationRequired ≠ _ by decide)
      (show ResponseCode.commandFailed ≠ _ by decide)
  | run c =>
    -- a command completes, but for these two
    cases c with
    | setVLANFilter =>
      simp only [Verdict.reply, Command.reply]
      split <;> decide
    | unsupported =>
      exact iff_of_false (show ReasonCode.unknownUnsupported ≠ _ by decide)
        (show ResponseCode.commandUnsupported ≠ _ by decide)
    | _ => exact iff_of_true rfl rfl

/-- The frame an answer is built in is the one its packet type and code call for. -/
theorem responseStruct_answer :
    responseStruct mem (m.answer hal mem).responseCode = (m.answer hal mem).frameVar := by
  rw [Machine.answer]
  cases hverdict : verdict m.engine mem with
  | refuse rc reason => exact if_pos (verdict_eq_refuse hverdict).1
  | uninitialized => exact if_pos (show ResponseCode.commandFailed ≠ _ by decide)
  | run c =>
    by_cases hsupported : c = .unsupported
    · subst hsupported
      exact if_pos (show ResponseCode.commandUnsupported ≠ _ by decide)
    · -- the opcode is the one of the command
      have hopcode := lookup_opcode (verdict_eq_run.mp hverdict).1 hsupported
      rw [responseStruct, hopcode]
      cases c with
      | setVLANFilter =>
        simp only [Verdict.reply, Command.reply]
        split <;> rfl
      | unsupported => exact absurd rfl hsupported
      | _ => rfl

theorem structOf_answerBytes (hlaid : m.engine.Laid) :
    structOf mem (m.answerBytes hal mem) = (m.answer hal mem).frameVar := by
  rw [structOf, frameResponseCode_answerBytes hlaid, responseStruct_answer]

theorem answerBytes_wellFormed (hlaid : m.engine.Laid) :
    WellFormed mem (m.answerBytes hal mem) := by
  have hstruct : structOf mem (m.answerBytes hal mem) = _ := structOf_answerBytes hlaid
  -- the codes first, while the frame is still the answer
  have hcodes := @answer_reasonCode hal m mem
  rw [← frameReasonCode_answerBytes hlaid, ← frameResponseCode_answerBytes hlaid] at hcodes
  rw [Machine.answerBytes_eq hlaid, Reply.wire] at hstruct hcodes ⊢
  obtain ⟨hmc, hrevision, hinstance, htype, hchannel⟩ := header_wire (m.answer hal mem).frameVar
    { (m.answer hal mem).fields mem with
      checksum := m.engine.sentChecksum mem (m.answer hal mem) }
  exact
    { length_ge := by rw [length_take_wire]; exact Nat.le_max_right _ _
      length_le := by rw [length_take_wire]; cases (m.answer hal mem).frameVar <;> decide
      holdsChecksum := by
        rw [hstruct, length_take_wire]
        cases (m.answer hal mem).frameVar <;> decide
      addresses := addresses_wire _ _
      etherType := ncsiRd16_etherType_wire _ _
      mcID := hmc
      revision := hrevision
      instanceID := hinstance
      controlPacketType := htype
      channelID := hchannel
      payloadLength := by
        rw [hstruct, ncsiRd16_payloadLength_wire]
        cases (m.answer hal mem).frameVar <;> rfl
      reserved := by rw [hstruct]; exact reserved_wire _ _
      padding := fun i hi hpast => padding_wire _ _ hi (by rwa [hstruct] at hpast)
      reasonCode := hcodes }

/-- What an answer reports is its link status word. -/
theorem reportedLinkStatus_answerBytes (hlaid : m.engine.Laid) :
    reportedLinkStatus mem (m.answerBytes hal mem) =
      match m.answer hal mem with
      | .linkStatus word => some word
      | _ => none := by
  rw [reportedLinkStatus, structOf_answerBytes hlaid, Machine.answerBytes_eq hlaid, Reply.wire]
  cases m.answer hal mem with
  | linkStatus word =>
    exact (if_pos rfl).trans (congrArg some (ncsiRd32_linkStatus_wire _))
  | _ => rfl

end Hal

section Pair

variable {hal hal' : Hal} {m m' : Machine} {mem : Nat → UInt8}

/-- The codes and the link status determine the answer. -/
theorem answer_eq_of_sameReport (hlaid : m.engine.Laid) (hlaid' : m'.engine.Laid)
    (hsame : SameReport mem (m.answerBytes hal mem) (m'.answerBytes hal' mem)) :
    m.answer hal mem = m'.answer hal' mem := by
  obtain ⟨hcode, hreason, hlink⟩ := hsame
  rw [frameResponseCode_answerBytes hlaid, frameResponseCode_answerBytes hlaid'] at hcode
  rw [frameReasonCode_answerBytes hlaid, frameReasonCode_answerBytes hlaid'] at hreason
  rw [reportedLinkStatus_answerBytes hlaid, reportedLinkStatus_answerBytes hlaid'] at hlink
  -- the code decides in which frame the answer is built
  have hframe : (m.answer hal mem).frameVar = (m'.answer hal' mem).frameVar := by
    rw [← responseStruct_answer, ← responseStruct_answer, hcode]
  cases hanswer : m.answer hal mem <;> cases hanswer' : m'.answer hal' mem <;>
    rw [hanswer, hanswer'] at hcode hreason hlink hframe <;>
    simp_all [Reply.frameVar, Reply.responseCode, Reply.reasonCode]

theorem answerBytes_agree (hlaid : m.engine.Laid) (hlaid' : m'.engine.Laid)
    (hsame : SameReport mem (m.answerBytes hal mem) (m'.answerBytes hal' mem)) {i : Nat}
    (hi : ¬ (structOf mem (m.answerBytes hal mem)).InChecksum i) :
    (m.answerBytes hal mem)[i]? = (m'.answerBytes hal' mem)[i]? := by
  have hanswer := answer_eq_of_sameReport hlaid hlaid' hsame
  rw [structOf_answerBytes hlaid] at hi
  -- so the two frames differ in nothing but the checksum
  rw [Machine.answerBytes_eq hlaid, Machine.answerBytes_eq hlaid', ← hanswer, Reply.wire,
    Reply.wire, List.getElem?_take, List.getElem?_take]
  split
  · exact getElem?_wire_checksum _ _ _ _ hi
  · rfl

end Pair

section Hal

variable {hal : Hal} {m : Machine}

/-- **How a frame is answered**: in every run, a frame for another package or channel is
    not answered; any other frame is answered exactly once, with a well-formed response.
    Outside its checksum field the response is the one that any machine of any run sends
    for the same request with the same codes and the same reported link status. -/
theorem handleNCSIFrame_answers {hist : List Call} (hrun : FwRun hal hist m)
    (mem : Nat → UInt8) :
    ∃ after, handleNCSIFrame hal (.ofFrame mem) m = .ok ((), after) ∧
      (¬ ForInstance m.engine mem → sentFrames ⟨m, .rxFrame mem, after⟩ = []) ∧
      (ForInstance m.engine mem → ∃ frame,
        sentFrames ⟨m, .rxFrame mem, after⟩ = [frame] ∧ WellFormed mem frame ∧
        ∀ hal' hist' m' frame', FwRun hal' hist' m' → Sends hal' m' mem frame' →
          SameReport mem frame frame' →
          ∀ i, ¬ (structOf mem frame).InChecksum i → frame[i]? = frame'[i]?) := by
  have hport := FwRun.port0 hal hrun
  refine ⟨m.step hal (.rxFrame mem), handleNCSIFrame_run hal mem hport, ?_, ?_⟩
  · intro hother
    rw [sentFrames_control rfl, if_neg (mt addressed_iff.mp hother)]
  · intro hours
    refine ⟨m.answerBytes hal mem, ?_, answerBytes_wellFormed hrun.laid, ?_⟩
    · rw [sentFrames_control rfl, if_pos (addressed_iff.mpr hours)]
    · -- another machine that sends `frame'` sends it as its answer
      intro hal' hist' m' frame' hrun' ⟨after', htakes, hsent⟩ hsame i hi
      obtain rfl := (takes_iff hal' (FwRun.port0 hal' hrun') _).mp htakes
      rw [sentFrames_control rfl] at hsent
      split at hsent
      · obtain rfl := List.mem_singleton.mp hsent
        exact answerBytes_agree hrun.laid hrun'.laid hsame hi
      · cases hsent

end Hal

/-- Get Link Status in the Initial State: an instance that has just started answers it as one
    that has answered another frame before. The one for the other chip is not answered. -/
theorem handleNCSIFrame_answers_getLinkStatus :
    let m := (play sampleHal [.init]).2
    let m' := (play sampleHal [.init, .rxFrame (request 0 ControlPacketType.getVersionID [])]).2
    let mem := request 0 ControlPacketType.getLinkStatus []
    let mem₁ := request 1 ControlPacketType.getLinkStatus []
    (∃ after, handleNCSIFrame sampleHal (.ofFrame mem₁) m = .ok ((), after) ∧
      sentFrames ⟨m, .rxFrame mem₁, after⟩ = []) ∧
    ∃ after frame, handleNCSIFrame sampleHal (.ofFrame mem) m = .ok ((), after) ∧
      sentFrames ⟨m, .rxFrame mem, after⟩ = [frame] ∧ WellFormed mem frame ∧
      ∀ i, ¬ (structOf mem frame).InChecksum i →
        frame[i]? = (m'.answerBytes sampleHal mem)[i]? := by
  intro m m' mem mem₁
  have hrun := fwRun_play sampleHal [.init]
  have hrun' := fwRun_play sampleHal
    [.init, .rxFrame (request 0 ControlPacketType.getVersionID [])]
  constructor
  · obtain ⟨after, hresult, hother, -⟩ := handleNCSIFrame_answers hrun mem₁
    exact ⟨after, hresult, hother (mt addressed_iff.mpr (by decide +kernel))⟩
  · obtain ⟨after, hresult, -, hours⟩ := handleNCSIFrame_answers hrun mem
    obtain ⟨frame, hsent, hwf, hsame⟩ := hours (addressed_iff.mp (by decide +kernel))
    have htakes : Takes sampleHal m (.rxFrame mem) after := hresult
    have hframe : frame = m.answerBytes sampleHal mem := by
      rw [(takes_iff sampleHal (FwRun.port0 _ hrun) _).mp htakes, sentFrames_control rfl,
        if_pos (by decide +kernel)] at hsent
      exact (List.cons.inj hsent).1.symm
    have hsends : Sends sampleHal m' mem (m'.answerBytes sampleHal mem) :=
      ⟨_, (takes_iff sampleHal (FwRun.port0 _ hrun') _).mpr rfl,
        answerBytes_mem_sentFrames rfl (by decide +kernel)⟩
    refine ⟨after, frame, hresult, hsent, hwf, hsame _ _ _ _ hrun' hsends ?_⟩
    rw [hframe]
    constructor
    · rw [frameResponseCode_answerBytes hrun.laid, frameResponseCode_answerBytes hrun'.laid]
      decide +kernel
    · rw [frameReasonCode_answerBytes hrun.laid, frameReasonCode_answerBytes hrun'.laid]
      decide +kernel
    · rw [reportedLinkStatus_answerBytes hrun.laid, reportedLinkStatus_answerBytes hrun'.laid]
      decide +kernel

end NcsiResponder
