import NcsiResponder.Bus

/-!
# Channel isolation

Frames for the other chip, or for another package, reach an instance but leave nothing
behind: to its own state, and to everything it asks of the board, they might as well not
have been on the bus (`deliver_isolated`).
-/

namespace NcsiResponder

/-! ## Frames on the bus -/

/-- The frame is for this channel of this package. -/
def ownFrame (package channel : UInt8) (mem : Nat → UInt8) : Bool :=
  Request.package mem == package && Request.channel mem == channel

/-- Two frames that name different channels or packages. -/
def OtherChannel (mem mem' : Nat → UInt8) : Prop :=
  (Request.package mem, Request.channel mem) ≠ (Request.package mem', Request.channel mem')

/-- Received frames, handed to `handleNCSIFrame` one after another. -/
def deliver (hal : Hal) : List (Nat → UInt8) → Fw Unit
  | [] => return ()
  | mem :: frames => do
    handleNCSIFrame hal (.ofFrame mem)
    deliver hal frames

/-- Two machines that differ in nothing but the bytes they have read: same storage, same
    HAL calls with the same replies. -/
def SameEffect (m m' : Machine) : Prop := m.engine = m'.engine ∧ m.calls = m'.calls

section Hal

variable {hal : Hal} {m : Machine} {package channel : UInt8}

/-- Registered, and with this identity. -/
def Identified (package channel : UInt8) (m : Machine) : Prop :=
  m.engine.port0 = .gPort ∧ m.engine.gLocalPackageId = package ∧
    m.engine.gLocalChannelId = channel

theorem handle_identified (mem : Nat → UInt8) (h : Identified package channel m) :
    Identified package channel (m.handle hal mem) := by
  obtain ⟨hport, hpackage, hchannel⟩ := h
  obtain ⟨hpackage', hchannel'⟩ := Prod.mk.inj (@handle_identity hal m mem)
  refine ⟨?_, hpackage'.trans hpackage, hchannel'.trans hchannel⟩
  have hkept := @Machine.step_port0 hal m (.rxFrame mem)
  exact hkept.trans hport

theorem deliver_run (frames : List (Nat → UInt8)) (h : Identified package channel m) :
    deliver hal frames m = .ok ((), frames.foldl (fun m mem => m.handle hal mem) m) := by
  induction frames generalizing m with
  | nil => rfl
  | cons mem frames ih =>
    unfold deliver
    rw [bind_run, handleNCSIFrame_run hal mem h.1, ok_bind]
    exact ih (handle_identified mem h)

/-- What a frame does depends only on the storage and on the calls so far. -/
theorem handle_congr (mem : Nat → UInt8) {m m' : Machine}
    (h : (m.engine, m.calls) = (m'.engine, m'.calls)) :
    ((m.handle hal mem).engine, (m.handle hal mem).calls) =
      ((m'.handle hal mem).engine, (m'.handle hal mem).calls) := by
  obtain ⟨e, calls, reads⟩ := m
  obtain ⟨e', calls', reads'⟩ := m'
  obtain ⟨rfl, rfl⟩ := Prod.mk.inj h
  rw [Machine.handle_engine, Machine.handle_engine, Machine.handle_calls, Machine.handle_calls]
  split
  · cases verdict e mem <;> rfl
  · rfl

/-- The frame is addressed to an instance with this identity. -/
def names (package channel : UInt8) (mem : Nat → UInt8) : Bool :=
  Request.package mem == package &&
    (Request.channel mem == channelIdPackage || Request.channel mem == channel)

/-- A frame that is not addressed to the instance has no effect. -/
theorem handle_other (mem : Nat → UInt8) (h : Identified package channel m)
    (hother : names package channel mem = false) :
    ((m.handle hal mem).engine, (m.handle hal mem).calls) = (m.engine, m.calls) := by
  obtain ⟨-, rfl, rfl⟩ := h
  have hother' : m.engine.addressed mem = false := hother
  rw [Machine.handle_engine, Machine.handle_calls, hother']
  rfl

/-- Of the frames that are not for the whole package, an instance takes its own. -/
theorem names_eq_ownFrame {mem : Nat → UInt8} (h : Request.channel mem ≠ channelIdPackage) :
    names package channel mem = ownFrame package channel mem := by
  unfold names ownFrame
  rw [beq_false_of_ne h, Bool.false_or]

/-- At most one of two such frames for different channels is taken. -/
theorem names_false_or {a b : Nat → UInt8} (ha : Request.channel a ≠ channelIdPackage)
    (hb : Request.channel b ≠ channelIdPackage) (hab : OtherChannel a b) :
    names package channel a = false ∨ names package channel b = false := by
  rw [names_eq_ownFrame ha, names_eq_ownFrame hb, ← Bool.not_eq_true, ← Bool.not_eq_true,
    ← not_and_or]
  intro h
  rcases h with ⟨hown, hown'⟩
  simp only [ownFrame, Bool.and_eq_true, beq_iff_eq] at hown hown'
  apply hab
  rw [hown.1, hown.2, hown'.1, hown'.2]

/-- **Channel isolation**: after any run of an instance, a sequence of frames with none to
    the whole package ends in the same storage, the same transmissions and the same HAL
    calls as its own frames among them. So two neighbouring frames for different channels
    or packages can change places. -/
theorem deliver_isolated {hist : List Call} (hstraps : Strapped hal package channel)
    (hrun : FwRun hal hist m) (hbooted : Booted hist) (frames : List (Nat → UInt8))
    (hframes : ∀ mem ∈ frames, Request.channel mem ≠ channelIdPackage) :
    (∃ after after', deliver hal frames m = .ok ((), after) ∧
      deliver hal (frames.filter (ownFrame package channel)) m = .ok ((), after') ∧
      SameEffect after after') ∧
    ∀ front a b back, frames = front ++ a :: b :: back → OtherChannel a b →
      ∃ after after', deliver hal frames m = .ok ((), after) ∧
        deliver hal (front ++ b :: a :: back) m = .ok ((), after') ∧
        SameEffect after after' := by
  have hidentified : Identified package channel m :=
    ⟨FwRun.port0 hal hrun, identity_eq hstraps hrun hbooted⟩
  -- what the rest of the board sees of an instance
  let observe (m : Machine) := (m.engine, m.calls)
  have hinv : ∀ (m : Machine) mem, Identified package channel m →
      Identified package channel (m.handle hal mem) := fun _ => handle_identified
  have hcongr : ∀ (m m' : Machine) mem, observe m = observe m' →
      observe (m.handle hal mem) = observe (m'.handle hal mem) :=
    fun _ _ mem h => handle_congr mem h
  have hother : ∀ (m : Machine) mem, Identified package channel m →
      names package channel mem = false → observe (m.handle hal mem) = observe m :=
    fun _ => handle_other
  constructor
  · refine ⟨_, _, deliver_run _ hidentified, deliver_run _ hidentified, Prod.mk.inj ?_⟩
    rw [← List.filter_congr fun mem hmem => names_eq_ownFrame (hframes mem hmem)]
    exact Runs.foldl_filter_visible _ observe _ _ hinv hcongr hother frames m m hidentified
      hidentified rfl
  · rintro front a b back rfl hab
    refine ⟨_, _, deliver_run _ hidentified, deliver_run _ hidentified, Prod.mk.inj ?_⟩
    exact Runs.foldl_swap_visible _ observe _ _ hinv hcongr hother
      (names_false_or (hframes a (by simp)) (hframes b (by simp)) hab) front back hidentified

end Hal

/-- A request for each chip, and another one for the first. -/
def mixedFrames : List (Nat → UInt8) := [
  request 1 ControlPacketType.clearInitialState [],
  request 0 ControlPacketType.clearInitialState [],
  request 0 ControlPacketType.enableChannel []]

/-- Of requests for both chips only its own count for the first, and the one for the other chip
    can come later. -/
theorem deliver_isolated_mixed :
    (∃ after after', deliver sampleHal mixedFrames (play sampleHal [.init]).2 = .ok ((), after) ∧
      deliver sampleHal (mixedFrames.filter (ownFrame 0 0)) (play sampleHal [.init]).2 =
        .ok ((), after') ∧ SameEffect after after') ∧
    ∃ after after', deliver sampleHal mixedFrames (play sampleHal [.init]).2 = .ok ((), after) ∧
      deliver sampleHal [request 0 ControlPacketType.clearInitialState [],
        request 1 ControlPacketType.clearInitialState [],
        request 0 ControlPacketType.enableChannel []] (play sampleHal [.init]).2 =
          .ok ((), after') ∧ SameEffect after after' := by
  obtain ⟨hown, hswap⟩ := deliver_isolated ⟨fun _ => rfl, fun _ => rfl⟩
    (fwRun_play sampleHal [.init]) ⟨_, List.mem_cons_self, rfl⟩ mixedFrames (by decide +kernel)
  refine ⟨hown, hswap [] _ _ _ rfl ?_⟩
  rw [OtherChannel]
  decide

end NcsiResponder
