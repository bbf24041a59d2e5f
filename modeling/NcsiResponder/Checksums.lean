import Mathlib.Tactic.IntervalCases
import NcsiResponder.History

/-!
# Response checksums

A builder writes the checksum field only while the setting is on, and the static
frames keep what was written. So a response sent with the setting off carries the
"not calculated" zeros exactly when no earlier response of the same builder was sent
with the setting on (`checksumsOk_iff`).
-/

namespace NcsiResponder

open BigEndian

/-! ## What a receiver sees -/

/-- Where a receiver finds the checksum: behind the payload. -/
def checksumOffset (frame : List UInt8) : Nat :=
  sizeofControlPacketHeader + (ncsiRd16 frame Header.payloadLength).toNat

/-- The checksum field says "not calculated". -/
def ChecksumZero (frame : List UInt8) : Prop := ncsiRd32 frame (checksumOffset frame) = 0

/-- The words from `ManagmentControllerID` on and the checksum add up to zero. -/
def ChecksumVerifies (frame : List UInt8) : Prop :=
  Verifies
    (region frame Header.managmentControllerID
      (checksumOffset frame - Header.managmentControllerID))
    (ncsiRd32 frame (checksumOffset frame))

instance (frame : List UInt8) : Decidable (ChecksumZero frame) :=
  inferInstanceAs (Decidable (_ = _))

instance (frame : List UInt8) : Decidable (ChecksumVerifies frame) :=
  inferInstanceAs (Decidable (Verifies _ _))

/-- In these calls every response carries a valid checksum field, and the zeros while
    the setting is off. -/
def ChecksumsOk (hist : List Call) : Prop :=
  ∀ st ∈ hist, ∀ mem, st.op.action = .control mem → ∀ frame ∈ sentFrames st,
    (ChecksumZero frame ∨ ChecksumVerifies frame) ∧
      (st.before.engine.gNcsiComputeChecksum = false → ChecksumZero frame)

/-! ## What the engine leaves behind -/

/-- The static frame a request is answered in. -/
def Engine.builder (e : Engine) (mem : Nat → UInt8) : FrameVar :=
  match e.runs mem with
  | some .getLinkStatus => .gLinkStatusResponseFrame
  | some .getCapabilities => .gCapabilitiesFrame
  | some .getVersionID => .gVersionFrame
  | _ => .gResponseFrame

/-- The call delivered a request that is answered in this static frame. -/
def Responds (v : FrameVar) (st : Call) : Prop :=
  ∃ mem, st.op.action = .control mem ∧ st.before.engine.addressed mem = true ∧
    st.before.engine.builder mem = v

/-- A response with the setting off, from a builder that was used with the setting on. -/
def Stale (older : List Call) (st : Call) : Prop :=
  st.before.engine.gNcsiComputeChecksum = false ∧
    ∃ v, Responds v st ∧
      ∃ st' ∈ older, Responds v st' ∧ st'.before.engine.gNcsiComputeChecksum = true

section Hal

variable {hal : Hal} {m : Machine} {mem : Nat → UInt8}

theorem answer_frameVar (haddressed : m.engine.addressed mem = true) :
    (m.answer hal mem).frameVar = m.engine.builder mem := by
  rw [Machine.answer, Engine.builder, Engine.runs, if_pos haddressed]
  cases verdict m.engine mem with
  | run c =>
    cases c with
    | setVLANFilter =>
      simp only [Verdict.reply, Command.reply]
      split <;> rfl
    | _ => rfl
  | _ => rfl

/-- The words a checksum covers never add up to zero: the header revision is among them. -/
theorem Reply.sum_ne_zero (mem : Nat → UInt8) (r : Reply) : r.sum mem ≠ 0 := by
  refine wordSum_ne_zero (b := 1) ?_ (one_mem_region_wire _ _) (by decide)
  refine Nat.lt_of_le_of_lt (List.length_take_le _ _) ?_
  cases r.frameVar <;> decide

theorem checksumOffset_wire (v : FrameVar) (w : ResponseFields) :
    checksumOffset ((v.wire w).take v.packetSize) = v.checksum.toNat := by
  rw [checksumOffset, ncsiRd16_payloadLength_wire]
  cases v <;> rfl

variable (hal) in
/-- The checksum field of an answer, as a receiver checks it. -/
theorem answerBytes_checksum (hlaid : m.engine.Laid) (mem : Nat → UInt8) :
    (ChecksumZero (m.answerBytes hal mem) ↔ m.engine.sentChecksum mem (m.answer hal mem) = 0) ∧
      (ChecksumVerifies (m.answerBytes hal mem) ↔
        m.engine.sentChecksum mem (m.answer hal mem) = 0 - (m.answer hal mem).sum mem) := by
  rw [Machine.answerBytes_eq hlaid]
  simp only [ChecksumZero, ChecksumVerifies, Reply.wire, checksumOffset_wire,
    ncsiRd32_checksum_take, region_take, region_wire, verifies_iff, Reply.sum, true_and]

variable (hal) in
/-- One response is in order unless the setting is off and its frame holds a checksum. -/
theorem answer_checksumOk_iff (hlaid : m.engine.Laid)
    (haddressed : m.engine.addressed mem = true) :
    ((ChecksumZero (m.answerBytes hal mem) ∨ ChecksumVerifies (m.answerBytes hal mem)) ∧
      (m.engine.gNcsiComputeChecksum = false → ChecksumZero (m.answerBytes hal mem))) ↔
      (m.engine.gNcsiComputeChecksum = false →
        m.engine.checksumField (m.engine.builder mem) = 0) := by
  obtain ⟨hzero, hverifies⟩ := answerBytes_checksum hal hlaid mem
  rw [hzero, hverifies, Engine.sentChecksum, answer_frameVar haddressed]
  -- with the setting on the sent word verifies; with it off it is what the frame holds
  cases m.engine.gNcsiComputeChecksum with
  | true => simp
  | false => simpa using fun hfield => Or.inl hfield

/-! ## The checksum fields, by history -/

/-- What a call writes to the checksum field of a static frame. -/
def checksumWrite (hal : Hal) (v : FrameVar) (st : Call) : Option UInt32 :=
  match st.op.action with
  | .control mem =>
    if st.before.engine.addressed mem = true ∧ st.before.engine.builder mem = v ∧
        st.before.engine.gNcsiComputeChecksum = true then
      some (0 - (st.before.answer hal mem).sum mem)
    else none
  | _ => none

variable (hal) in
theorem checksumWrite_isSome_iff (v : FrameVar) (st : Call) :
    (checksumWrite hal v st).isSome = true ↔
      Responds v st ∧ st.before.engine.gNcsiComputeChecksum = true := by
  rw [checksumWrite, Responds]
  cases st.op.action <;> simp [and_assoc]

theorem checksumWrite_ne_zero {v : FrameVar} {st : Call} {word : UInt32}
    (h : checksumWrite hal v st = some word) : word ≠ 0 := by
  rw [checksumWrite] at h
  split at h
  · next mem _ =>
    split at h
    · cases h
      -- the word is the negated sum
      have hsum := Reply.sum_ne_zero mem (st.before.answer hal mem)
      grind
    · cases h
  · cases h

theorem conclude_checksumField (hlaid : m.engine.Laid) (v : FrameVar) :
    (m.conclude hal mem (verdict m.engine mem)).engine.checksumField v =
      if v = (m.answer hal mem).frameVar then m.engine.sentChecksum mem (m.answer hal mem)
      else m.engine.checksumField v := by
  rw [Machine.conclude_engine, Engine.checksumField]
  -- only the frame that was sent
  by_cases hv : v = (m.answer hal mem).frameVar
  · subst hv
    rw [if_pos rfl]
    simp only [Function.update_self]
    rw [outFrame_wire (Machine.worked_laid hlaid) mem _ Machine.answer_matches,
      Machine.worked_fixed, Reply.wire, ncsiRd32_checksum_wire]
    rfl
  · rw [if_neg hv]
    simp only [Function.update_of_ne hv]
    rfl

theorem step_checksumField (hlaid : m.engine.Laid) (v : FrameVar) (op : Op) :
    (m.step hal op).engine.checksumField v =
      (checksumWrite hal v ⟨m, op, m.step hal op⟩).getD (m.engine.checksumField v) := by
  rw [Machine.step_engine, checksumWrite]
  cases op.action with
  | control mem =>
    simp only [Machine.act]
    rw [Machine.handle_engine]
    by_cases haddressed : m.engine.addressed mem = true
    · rw [if_pos haddressed, conclude_checksumField hlaid, answer_frameVar haddressed,
        Engine.sentChecksum, answer_frameVar haddressed]
      by_cases hv : v = m.engine.builder mem <;>
        cases hflag : m.engine.gNcsiComputeChecksum <;>
        simp [haddressed, hv, eq_comm]
    · simp [haddressed]
  | _ => rfl

/-- A checksum is left in a frame once its builder was used with the setting on. -/
theorem checksumField_eq_zero_iff {hist : List Call} (hrun : FwRun hal hist m) (v : FrameVar) :
    m.engine.checksumField v = 0 ↔
      ¬ ∃ st ∈ hist, Responds v st ∧ st.before.engine.gNcsiComputeChecksum = true := by
  -- the field is the newest write, and no write is zero
  have hstart : Machine.registered.engine.checksumField v = 0 := by
    cases v <;> decide +kernel
  have hlast := hrun.lastWriter (fun m => m.engine.checksumField v)
    (checksumWrite hal v) fun hbefore op => step_checksumField hbefore.laid v op
  rw [hlast, hstart]
  cases hfind : hist.findSome? (checksumWrite hal v) with
  | none =>
    refine iff_of_true rfl ?_
    rintro ⟨st, hst, hresponds⟩
    have hwrite := (checksumWrite_isSome_iff hal v st).mpr hresponds
    rw [List.findSome?_eq_none_iff.mp hfind st hst] at hwrite
    cases hwrite
  | some word =>
    obtain ⟨st, hst, hwrite⟩ := List.exists_of_findSome?_eq_some hfind
    refine iff_of_false (checksumWrite_ne_zero hwrite) (not_not_intro ⟨st, hst, ?_⟩)
    exact (checksumWrite_isSome_iff hal v st).mp (by rw [hwrite]; rfl)

/-- One call keeps its responses in order unless it is stale. -/
theorem step_checksumsOk_iff {older : List Call} (hbefore : FwRun hal older m) (op : Op) :
    (∀ mem, op.action = .control mem → ∀ frame ∈ sentFrames ⟨m, op, m.step hal op⟩,
      (ChecksumZero frame ∨ ChecksumVerifies frame) ∧
        (m.engine.gNcsiComputeChecksum = false → ChecksumZero frame)) ↔
      ¬ Stale older ⟨m, op, m.step hal op⟩ := by
  rw [sentFrames, callsMade_step]
  cases haction : op.action with
  | control mem =>
    rw [newCalls_control_sentFrame]
    by_cases haddressed : m.engine.addressed mem = true
    · have hresponds : ∀ v, Responds v ⟨m, op, m.step hal op⟩ ↔ m.engine.builder mem = v := by
        intro v
        simp [Responds, haction, haddressed]
      have hanswer := answer_checksumOk_iff hal hbefore.laid haddressed
      -- one answer, from one builder: what its frame holds is told by the calls before
      rw [checksumField_eq_zero_iff hbefore] at hanswer
      simp only [Stale, hresponds, exists_eq_left', not_and]
      rw [← hanswer, if_pos haddressed]
      simp
    · refine iff_of_true (by simp [haddressed]) ?_
      rintro ⟨-, v, ⟨_, hmem, haddressed', -⟩, -⟩
      rw [haction] at hmem
      cases hmem
      exact haddressed haddressed'
  | _ =>
    refine iff_of_true (by simp) ?_
    rintro ⟨-, v, ⟨_, hmem, -⟩, -⟩
    rw [haction] at hmem
    cases hmem

/-- **Which runs send valid checksums**: every response carries a valid checksum field,
    and zeros while the setting is off, exactly when no response is sent with the setting
    off from a builder that was used with the setting on before. -/
theorem checksumsOk_iff {hist : List Call} (hrun : FwRun hal hist m) :
    ChecksumsOk hist ↔ ∀ older st, st :: older <:+ hist → ¬ Stale older st := by
  constructor
  · intro hok older st hsuffix
    obtain ⟨before, op, hbefore, rfl⟩ := hrun.of_suffix hsuffix
    exact (step_checksumsOk_iff hbefore op).mp (hok _ (hsuffix.mem List.mem_cons_self))
  · intro hstale st hst
    obtain ⟨older, before, op, hsuffix, hbefore, rfl⟩ := hrun.of_mem hst
    exact (step_checksumsOk_iff hbefore op).mpr (hstale older _ hsuffix)

end Hal

/-- A run that sends a response with the setting on and then switches it off. -/
def switchedOffOps : List Op := [
  .init, .setComputeChecksum true,
  .rxFrame (request 0 ControlPacketType.clearInitialState []), .setComputeChecksum false]

/-- An Enable Channel request to channel 0. -/
def enableChannelRequest : Nat → UInt8 := request 0 ControlPacketType.enableChannel []

/-- The next response still carries the first one's checksum. -/
theorem not_checksumsOk_switchedOff :
    FwRun sampleHal (play sampleHal (switchedOffOps ++ [.rxFrame enableChannelRequest])).1
        (play sampleHal (switchedOffOps ++ [.rxFrame enableChannelRequest])).2 ∧
      ¬ ChecksumsOk (play sampleHal (switchedOffOps ++ [.rxFrame enableChannelRequest])).1 := by
  refine ⟨fwRun_play _ _, fun hok => ?_⟩
  rw [play_snoc] at hok
  have hlaid := (fwRun_play sampleHal switchedOffOps).laid
  have haddressed : (play sampleHal switchedOffOps).2.engine.addressed enableChannelRequest =
      true := by decide +kernel
  have hanswer := hok _ List.mem_cons_self enableChannelRequest rfl _
    (answerBytes_mem_sentFrames rfl haddressed)
  have hzero := (answer_checksumOk_iff sampleHal hlaid haddressed).mp hanswer (by decide +kernel)
  exact absurd hzero (by decide +kernel)

/-- The run that switched the setting off, then a request for another response frame. -/
def otherBuilderOps : List Op :=
  switchedOffOps ++ [.rxFrame (request 0 ControlPacketType.getVersionID [])]

/-- Its response carries zeros again. -/
theorem checksumsOk_iff_otherBuilder : ChecksumsOk (play sampleHal otherBuilderOps).1 := by
  have hrun := fwRun_play sampleHal otherBuilderOps
  refine (checksumsOk_iff hrun).mpr fun older st hsuffix hstale => ?_
  obtain ⟨hoff, v, ⟨mem, haction, -, hv⟩, hused⟩ := hstale
  obtain ⟨n, op, hop, rfl, rfl⟩ := exists_of_suffix_play hsuffix
  -- a builder that was used with the setting on has left a checksum
  have hleft := mt (checksumField_eq_zero_iff (fwRun_play sampleHal (otherBuilderOps.take n)) v).mp
    (not_not_intro hused)
  have hn : n < 5 := (List.getElem?_eq_some_iff.mp hop).1
  interval_cases n <;> cases hop <;> cases haction
  · revert hoff
    decide +kernel
  · subst hv
    revert hleft
    decide +kernel

end NcsiResponder
