import NcsiResponder.Answers

/-!
# Two firmware instances on one bus

An OCP NIC 3.0 card carries two chips with the same package ID and channel IDs 0 and
1, and every frame on the bus reaches both. `atMostOne_iff` says exactly which frames
both of them answer.
-/

namespace NcsiResponder

/-! ## Instances -/

/-- The board strap pins of an instance: they read the same every time. -/
structure Strapped (hal : Hal) (package channel : UInt8) : Prop where
  package : ∀ calls, hal.readPackageID calls = package
  channel : ∀ calls, hal.readChannelID calls = channel

/-- `NCSI_init` was called. -/
def Booted (hist : List Call) : Prop := ∃ st ∈ hist, st.op = .init

/-- The instance transmits when this frame is delivered to it. -/
def Transmits (hal : Hal) (m : Machine) (mem : Nat → UInt8) : Prop :=
  ∃ m', Takes hal m (.rxFrame mem) m' ∧ sentFrames ⟨m, .rxFrame mem, m'⟩ ≠ []

section Hal

variable {hal : Hal} {m : Machine} {package channel : UInt8}

/-- The instance answers what is addressed to it, whatever its state. -/
theorem transmits_iff (hport : m.engine.port0 = .gPort) (mem : Nat → UInt8) :
    Transmits hal m mem ↔ m.engine.addressed mem = true := by
  constructor
  · rintro ⟨m', htakes, hsent⟩
    obtain rfl := (takes_iff hal hport _).mp htakes
    rw [sentFrames_control rfl] at hsent
    by_contra haddressed
    exact hsent (if_neg haddressed)
  · intro haddressed
    refine ⟨_, (takes_iff hal hport _).mpr rfl, ?_⟩
    rw [sentFrames_control rfl, if_pos haddressed]
    exact List.cons_ne_nil _ _

/-- What a call writes to the identity. -/
def identityWrite (package channel : UInt8) (st : Call) : Option (UInt8 × UInt8) :=
  match st.op.action with
  | .init => some (package, channel)
  | _ => none

/-- No handler writes the identity. -/
theorem handle_identity (mem : Nat → UInt8) :
    ((m.handle hal mem).engine.gLocalPackageId, (m.handle hal mem).engine.gLocalChannelId) =
      (m.engine.gLocalPackageId, m.engine.gLocalChannelId) := by
  rw [Machine.handle_engine]
  split
  · rw [Machine.conclude_engine, Machine.worked_fixed]
  · rfl

theorem step_identity (hstraps : Strapped hal package channel) (op : Op) :
    ((m.step hal op).engine.gLocalPackageId, (m.step hal op).engine.gLocalChannelId) =
      (identityWrite package channel ⟨m, op, m.step hal op⟩).getD
        (m.engine.gLocalPackageId, m.engine.gLocalChannelId) := by
  rw [Machine.step_engine, identityWrite]
  cases op.action with
  | control mem => exact handle_identity mem
  | init =>
    simp only [Machine.act, Machine.boot, Option.getD_some, hstraps.package, hstraps.channel]
  | _ => rfl

/-- After `NCSI_init` an instance has the identity its pins say. -/
theorem identity_eq {hist : List Call} (hstraps : Strapped hal package channel)
    (hrun : FwRun hal hist m) (hbooted : Booted hist) :
    m.engine.gLocalPackageId = package ∧ m.engine.gLocalChannelId = channel := by
  have hlast := hrun.lastWriter
    (fun m => (m.engine.gLocalPackageId, m.engine.gLocalChannelId))
    (identityWrite package channel) fun _ op => step_identity hstraps op
  obtain ⟨st, hst, hinit⟩ := hbooted
  have hwrites : (hist.findSome? (identityWrite package channel)).isSome = true := by
    rw [List.findSome?_isSome_iff]
    exact ⟨st, hst, by rw [identityWrite, hinit, Op.action]; rfl⟩
  obtain ⟨identity, hfind⟩ := Option.isSome_iff_exists.mp hwrites
  -- whichever call it was, it wrote the strapped identity
  obtain ⟨st', -, hwrite⟩ := List.exists_of_findSome?_eq_some hfind
  have hidentity : identity = (package, channel) := by
    rw [identityWrite] at hwrite
    split at hwrite <;> cases hwrite
    rfl
  rw [hfind, hidentity] at hlast
  exact Prod.mk.inj hlast

end Hal

/-! ## Two instances -/

section Pair

variable {hal₀ hal₁ : Hal} {m₀ m₁ : Machine} {hist₀ hist₁ : List Call} {package : UInt8}

/-- In a card pair the requests that name both instances are those to the whole package. -/
theorem forInstance_both_iff (hstraps₀ : Strapped hal₀ package 0)
    (hstraps₁ : Strapped hal₁ package 1) (hrun₀ : FwRun hal₀ hist₀ m₀)
    (hrun₁ : FwRun hal₁ hist₁ m₁) (hbooted₀ : Booted hist₀) (hbooted₁ : Booted hist₁)
    (mem : Nat → UInt8) :
    ForInstance m₀.engine mem ∧ ForInstance m₁.engine mem ↔
      Request.package mem = package ∧ Request.channel mem = channelIdPackage := by
  obtain ⟨hpackage₀, hchannel₀⟩ := identity_eq hstraps₀ hrun₀ hbooted₀
  obtain ⟨hpackage₁, hchannel₁⟩ := identity_eq hstraps₁ hrun₁ hbooted₁
  rw [ForInstance, ForInstance, hpackage₀, hchannel₀, hpackage₁, hchannel₁]
  constructor
  · rintro ⟨⟨hpackage, hwhole | hzero⟩, -, hwhole' | hone⟩
    · exact ⟨hpackage, hwhole⟩
    · exact ⟨hpackage, hwhole⟩
    · exact ⟨hpackage, hwhole'⟩
    · exact absurd (hzero.symm.trans hone) (by decide)
  · rintro ⟨hpackage, hwhole⟩
    exact ⟨⟨hpackage, .inl hwhole⟩, hpackage, .inl hwhole⟩

/-- **Who answers on the shared bus**: whatever the two instances have been through, at
    most one of them transmits, except for the frames to the whole package: those both
    answer. -/
theorem atMostOne_iff (hstraps₀ : Strapped hal₀ package 0) (hstraps₁ : Strapped hal₁ package 1)
    (hrun₀ : FwRun hal₀ hist₀ m₀) (hrun₁ : FwRun hal₁ hist₁ m₁)
    (hbooted₀ : Booted hist₀) (hbooted₁ : Booted hist₁) (mem : Nat → UInt8) :
    ¬ (Transmits hal₀ m₀ mem ∧ Transmits hal₁ m₁ mem) ↔
      ¬ (Request.package mem = package ∧ Request.channel mem = channelIdPackage) := by
  rw [transmits_iff (FwRun.port0 _ hrun₀), transmits_iff (FwRun.port0 _ hrun₁), addressed_iff,
    addressed_iff, not_iff_not]
  exact forInstance_both_iff hstraps₀ hstraps₁ hrun₀ hrun₁ hbooted₀ hbooted₁ mem

end Pair

/-- The second chip of the sample board. -/
def sampleHal₁ : Hal := { sampleHal with readChannelID := fun _ => 1 }

/-- A Select Package request to the whole package. -/
def selectPackageRequest : Nat → UInt8 :=
  request channelIdPackage ControlPacketType.selectPackage [0, 0, 0, 1]

/-- Both chips answer Select Package. -/
theorem transmits_both_selectPackage :
    (Strapped sampleHal 0 0 ∧ Strapped sampleHal₁ 0 1) ∧
      (FwRun sampleHal (play sampleHal [.init]).1 (play sampleHal [.init]).2 ∧
        Booted (play sampleHal [.init]).1) ∧
      (FwRun sampleHal₁ (play sampleHal₁ [.init]).1 (play sampleHal₁ [.init]).2 ∧
        Booted (play sampleHal₁ [.init]).1) ∧
      Transmits sampleHal (play sampleHal [.init]).2 selectPackageRequest ∧
      Transmits sampleHal₁ (play sampleHal₁ [.init]).2 selectPackageRequest := by
  have hrun₀ := fwRun_play sampleHal [.init]
  have hrun₁ := fwRun_play sampleHal₁ [.init]
  refine ⟨⟨⟨fun _ => rfl, fun _ => rfl⟩, fun _ => rfl, fun _ => rfl⟩,
    ⟨hrun₀, _, List.mem_cons_self, rfl⟩, ⟨hrun₁, _, List.mem_cons_self, rfl⟩, ?_, ?_⟩
  · exact (transmits_iff (FwRun.port0 _ hrun₀) _).mpr (by decide +kernel)
  · exact (transmits_iff (FwRun.port0 _ hrun₁) _).mpr (by decide +kernel)

theorem atMostOne_iff_enableChannel :
    ¬ (Transmits sampleHal (play sampleHal [.init]).2
          (request 0 ControlPacketType.enableChannel []) ∧
        Transmits sampleHal₁ (play sampleHal₁ [.init]).2
          (request 0 ControlPacketType.enableChannel [])) := by
  have hstraps₀ : Strapped sampleHal 0 0 := ⟨fun _ => rfl, fun _ => rfl⟩
  have hstraps₁ : Strapped sampleHal₁ 0 1 := ⟨fun _ => rfl, fun _ => rfl⟩
  refine (atMostOne_iff hstraps₀ hstraps₁ (fwRun_play sampleHal [.init])
    (fwRun_play sampleHal₁ [.init]) ⟨_, List.mem_cons_self, rfl⟩ ⟨_, List.mem_cons_self, rfl⟩
    _).mpr ?_
  decide +kernel

end NcsiResponder
