import NcsiResponder.Bus

/-!
# Responses on the shared bus

A response echoes the ChannelID of its request, and `handleNCSIFrame` does not look at
the response bit. So a response is taken for a request by every instance that its
request was addressed to as well (`responseIgnored_iff`).
-/

namespace NcsiResponder

/-- The response bit of the packet type is set. -/
def IsResponse (mem : Nat → UInt8) : Prop :=
  Request.opcode mem &&& ControlPacketType.response ≠ 0

instance (mem : Nat → UInt8) : Decidable (IsResponse mem) := inferInstanceAs (Decidable (_ ≠ _))

/-- The received memory starts with this frame. -/
def Holds (mem : Nat → UInt8) (frame : List UInt8) : Prop :=
  ∀ i < frame.length, frame[i]? = some (mem i)

/-- The frame is not answered and does not change the channel state. -/
def Ignores (hal : Hal) (m : Machine) (mem : Nat → UInt8) : Prop :=
  ∃ after, Takes hal m (.rxFrame mem) after ∧ sentFrames ⟨m, .rxFrame mem, after⟩ = [] ∧
    after.engine.state = m.engine.state

section Hal

variable {hal : Hal} {m : Machine} {mem : Nat → UInt8}

/-- What an instance sends is its answer, to a frame that names the instance. -/
theorem sends_iff (hport : m.engine.port0 = .gPort) (frame : List UInt8) :
    Sends hal m mem frame ↔
      m.engine.addressed mem = true ∧ frame = m.answerBytes hal mem := by
  constructor
  · intro h
    rcases h with ⟨after, htakes, hframe⟩
    obtain rfl := (takes_iff hal hport _).mp htakes
    rw [sentFrames_control rfl] at hframe
    split at hframe
    · next haddressed => exact ⟨haddressed, List.mem_singleton.mp hframe⟩
    · cases hframe
  · intro h
    rcases h with ⟨haddressed, rfl⟩
    exact ⟨_, (takes_iff hal hport _).mpr rfl, answerBytes_mem_sentFrames rfl haddressed⟩

/-- A response carries the ChannelID of its request. -/
theorem channelID_of_sends {hist : List Call} (hrun : FwRun hal hist m) {frame : List UInt8}
    (hsends : Sends hal m mem frame) {mem' : Nat → UInt8} (hholds : Holds mem' frame) :
    mem' Header.channelID = mem Header.channelID := by
  obtain ⟨-, rfl⟩ := (sends_iff (FwRun.port0 hal hrun) frame).mp hsends
  have hwf : WellFormed mem (m.answerBytes hal mem) := answerBytes_wellFormed hrun.laid
  have hlength : Header.channelID < (m.answerBytes hal mem).length :=
    Nat.lt_of_lt_of_le (by decide) hwf.length_ge
  have hbyte := hholds Header.channelID hlength
  rw [hwf.channelID] at hbyte
  exact (Option.some.inj hbyte).symm

/-- Whether a frame names an instance is told by its ChannelID. -/
theorem forInstance_congr {e : Engine} {mem' : Nat → UInt8}
    (hchannel : mem' Header.channelID = mem Header.channelID) :
    ForInstance e mem' ↔ ForInstance e mem := by
  rw [ForInstance, ForInstance, Request.package, Request.package, Request.channel,
    Request.channel, hchannel]

theorem ignores_iff (hport : m.engine.port0 = .gPort) :
    Ignores hal m mem ↔ ¬ ForInstance m.engine mem := by
  rw [← addressed_iff]
  constructor
  · rintro ⟨after, htakes, hsilent, -⟩ haddressed
    obtain rfl := (takes_iff hal hport _).mp htakes
    rw [sentFrames_control rfl, if_pos haddressed] at hsilent
    cases hsilent
  · intro hother
    refine ⟨_, (takes_iff hal hport _).mpr rfl, ?_, ?_⟩
    · rw [sentFrames_control rfl, if_neg hother]
    · rw [Machine.step_engine, Op.action, Machine.act, Machine.handle_engine, if_neg hother]

end Hal

section Pair

variable {hal₀ hal₁ : Hal} {m₀ m₁ : Machine} {hist₀ hist₁ : List Call}

/-- **Which responses are ignored**: whatever two instances have been through, one of them
    stays silent on a response of the other exactly when the request of that response did
    not name it too; and in general it ignores a frame with the response bit exactly when
    the frame does not name it. -/
theorem responseIgnored_iff (hrun₀ : FwRun hal₀ hist₀ m₀) (hrun₁ : FwRun hal₁ hist₁ m₁) :
    (∀ mem frame mem', Sends hal₀ m₀ mem frame → Holds mem' frame →
      (¬ Transmits hal₁ m₁ mem' ↔ ¬ ForInstance m₁.engine mem)) ∧
    ∀ mem, IsResponse mem → (Ignores hal₁ m₁ mem ↔ ¬ ForInstance m₁.engine mem) := by
  have hport := FwRun.port0 hal₁ hrun₁
  constructor
  · intro mem frame mem' hsends hholds
    rw [transmits_iff hport, addressed_iff,
      forInstance_congr (channelID_of_sends hrun₀ hsends hholds)]
  · intro mem _
    exact ignores_iff hport

end Pair

theorem holds_buffer (frame : List UInt8) : Holds (buffer frame) frame := by
  intro i hi
  unfold buffer
  rw [List.getD_eq_getElem?_getD, List.getElem?_eq_getElem hi]
  rfl

/-- The card pair of the sample board after `NCSI_init`. -/
def cardPair : Machine × Machine := ((play sampleHal [.init]).2, (play sampleHal₁ [.init]).2)

/-- The first chip's response to Select Package. -/
def selectPackageResponse : List UInt8 := cardPair.1.answerBytes sampleHal selectPackageRequest

/-- The second chip answers the first one's response to Select Package. -/
theorem not_responseIgnored_selectPackage :
    FwRun sampleHal (play sampleHal [.init]).1 cardPair.1 ∧
      FwRun sampleHal₁ (play sampleHal₁ [.init]).1 cardPair.2 ∧
      Sends sampleHal cardPair.1 selectPackageRequest selectPackageResponse ∧
      Holds (buffer selectPackageResponse) selectPackageResponse ∧
      IsResponse (buffer selectPackageResponse) ∧
      Transmits sampleHal₁ cardPair.2 (buffer selectPackageResponse) := by
  have hrun₀ := fwRun_play sampleHal [.init]
  have hrun₁ := fwRun_play sampleHal₁ [.init]
  refine ⟨hrun₀, hrun₁, ?_, holds_buffer _, by decide +kernel, ?_⟩
  · exact (sends_iff (FwRun.port0 _ hrun₀) _).mpr ⟨by decide +kernel, rfl⟩
  · exact (transmits_iff (FwRun.port0 _ hrun₁) _).mpr (by decide +kernel)

/-- The second chip is silent on the first one's response to Enable Channel. -/
theorem responseIgnored_iff_enableChannel :
    ¬ Transmits sampleHal₁ cardPair.2
      (buffer (cardPair.1.answerBytes sampleHal
        (request 0 ControlPacketType.enableChannel []))) := by
  have hrun₀ := fwRun_play sampleHal [.init]
  have hrun₁ := fwRun_play sampleHal₁ [.init]
  have hsends : Sends sampleHal cardPair.1 (request 0 ControlPacketType.enableChannel [])
      (cardPair.1.answerBytes sampleHal (request 0 ControlPacketType.enableChannel [])) :=
    (sends_iff (FwRun.port0 _ hrun₀) _).mpr ⟨by decide +kernel, rfl⟩
  apply ((responseIgnored_iff hrun₀ hrun₁).1 _ _ _ hsends (holds_buffer _)).mpr
  rw [← addressed_iff]
  decide +kernel

end NcsiResponder
