import NcsiResponder.PassThrough

/-!
# Set MAC Address and the slot it names

MACNumber is 1-based. `setMACAddressHandler` writes the slot that a MACNumber from 1 to
8 names, but takes 0 for 1, and acknowledges what lies past the table after programming
it into the MAC driver (`macSlots_honoured_iff`).
-/

namespace NcsiResponder

/-- The 1-based MACNumber names this filter slot. -/
def NamesSlot (mem : Nat → UInt8) (k : Fin maxMacFilters) : Prop :=
  (mem SetMACAddr.macNumber).toNat = k + 1

/-- A Set MAC Address frame to the local channel, of the right length. -/
structure SetsMac (e : Engine) (mem : Nat → UInt8) : Prop where
  opcode : Request.opcode mem = ControlPacketType.setMACAddress
  package : Request.package mem = e.gLocalPackageId
  channel : Request.channel mem = e.gLocalChannelId
  payloadLength : Request.payloadLength mem = 8

/-- The call programs the MAC driver. -/
def HalCall.programsMac : HalCall → Bool
  | setMACAddr _ _ _ _ => true
  | _ => false

/-- The machine with these filters tracked instead. -/
def Machine.withFilters (filters : Vector MacFilter maxMacFilters) (m : Machine) : Machine :=
  { m with engine := { m.engine with state := { m.engine.state with macFilters := filters } } }

/-- A Set MAC Address frame is honoured: if it is acknowledged, the slot it names holds
    what it asks for and the others are unchanged; if it names no slot, it is not
    acknowledged and nothing is programmed. -/
def SlotHonoured (hal : Hal) (m : Machine) (mem : Nat → UInt8) : Prop :=
  ∃ after, Takes hal m (.rxFrame mem) after ∧
    (accepted ControlPacketType.setMACAddress ⟨m, .rxFrame mem, after⟩ = true →
      ∃ k, NamesSlot mem k ∧
        after.engine.state.macFilters.get k = Request.macFilter mem ∧
        ∀ j, j ≠ k → after.engine.state.macFilters.get j = m.engine.state.macFilters.get j) ∧
    ((∀ k, ¬ NamesSlot mem k) →
      accepted ControlPacketType.setMACAddress ⟨m, .rxFrame mem, after⟩ = false ∧
        ∀ call ∈ callsMade ⟨m, .rxFrame mem, after⟩, call.programsMac = false)

/-- The frame writes slot `k`: there is a filter table whose slot `k` it changes. -/
def WritesSlot (hal : Hal) (m : Machine) (mem : Nat → UInt8) (k : Fin maxMacFilters) : Prop :=
  ∃ filters after, Takes hal (m.withFilters filters) (.rxFrame mem) after ∧
    after.engine.state.macFilters.get k ≠ filters.get k

section Hal

variable {hal : Hal} {m : Machine} {mem mem' : Nat → UInt8}

/-- Such a frame is handed to its handler once the channel is ready. -/
theorem SetsMac.runs (hsets : SetsMac m.engine mem) (hready : m.engine.state.ready = true) :
    m.engine.runs mem = some .setMACAddress := by
  rw [Engine.runs_eq_some, verdict_eq_run]
  refine ⟨?_, ?_, .inr (.inr ⟨hsets.channel, hready⟩)⟩
  · simp [Engine.addressed, hsets.package, hsets.channel]
  · rw [hsets.opcode, hsets.payloadLength]
    rfl

/-- The frame writes what it asks for into the slot after re-indexing, and nothing else. -/
theorem step_macFilters (hran : m.engine.runs mem = some .setMACAddress) :
    (m.step hal (.rxFrame mem)).engine.state.macFilters =
      m.engine.state.macFilters.setIfInBounds ((mem SetMACAddr.macNumber).toNat - 1)
        (Request.macFilter mem) := by
  have hsettings := congrArg ChannelState.macFilters (m.step_settings hal (.rxFrame mem))
  unfold Op.action at hsettings
  rw [Machine.newSettings, hran] at hsettings
  rw [← Request.slot_toNat]
  exact hsettings

theorem get_setIfInBounds (filters : Vector MacFilter maxMacFilters) (i : Nat)
    (filter : MacFilter) (k : Fin maxMacFilters) :
    (filters.setIfInBounds i filter).get k = if i = k then filter else filters.get k :=
  Vector.getElem_setIfInBounds k.isLt

/-- The driver is programmed whatever the slot is. -/
theorem programCall_mem (hran : m.engine.runs mem = some .setMACAddress) :
    programCall mem ∈ callsMade ⟨m, .rxFrame mem, m.step hal (.rxFrame mem)⟩ := by
  obtain ⟨haddressed, hverdict⟩ := Engine.runs_eq_some.mp hran
  rw [callsMade_step, Op.action, Machine.newCalls, if_pos haddressed, hverdict]
  exact List.mem_cons_of_mem _ (List.mem_singleton_self _)

theorem exists_namesSlot_iff :
    (∃ k, NamesSlot mem k) ↔
      1 ≤ (mem SetMACAddr.macNumber).toNat ∧
        (mem SetMACAddr.macNumber).toNat ≤ maxMacFilters := by
  constructor
  · intro h
    rcases h with ⟨k, hk⟩
    unfold NamesSlot at hk
    omega
  · intro h
    rcases h with ⟨hpos, hle⟩
    exact ⟨⟨(mem SetMACAddr.macNumber).toNat - 1, by omega⟩, (Nat.sub_add_cancel hpos).symm⟩

/-- A frame is honoured exactly when its MACNumber names a slot: every frame is
    acknowledged. -/
theorem slotHonoured_iff (hlaid : m.engine.Laid) (hport : m.engine.port0 = .gPort)
    (hran : m.engine.runs mem = some .setMACAddress) :
    SlotHonoured hal m mem ↔ ∃ k, NamesSlot mem k := by
  have haccepted : accepted ControlPacketType.setMACAddress
      ⟨m, .rxFrame mem, m.step hal (.rxFrame mem)⟩ = true := by
    have heq := accepted_eq hal hlaid (.rxFrame mem) .setMACAddress (by decide) (by decide)
    exact heq.trans (beq_iff_eq.mpr hran)
  constructor
  · intro h
    rcases h with ⟨after, htakes, hacknowledged, -⟩
    obtain rfl := (takes_iff hal hport _).mp htakes
    obtain ⟨k, hk, -⟩ := hacknowledged haccepted
    exact ⟨k, hk⟩
  · intro h
    rcases h with ⟨k, hk⟩
    refine ⟨_, (takes_iff hal hport _).mpr rfl, fun _ => ⟨k, hk, ?_⟩,
      fun hnone => absurd hk (hnone k)⟩
    have hslot : (mem SetMACAddr.macNumber).toNat - 1 = k := by
      unfold NamesSlot at hk
      omega
    rw [step_macFilters hran, hslot]
    constructor
    · rw [get_setIfInBounds, if_pos rfl]
    · intro j hj
      rw [get_setIfInBounds, if_neg]
      exact fun heq => hj (Fin.ext heq.symm)

/-- The slot a frame writes is the one after re-indexing: 0 stands for 1 too. -/
theorem writesSlot_iff (hport : m.engine.port0 = .gPort)
    (hran : m.engine.runs mem = some .setMACAddress) (k : Fin maxMacFilters) :
    WritesSlot hal m mem k ↔ (mem SetMACAddr.macNumber).toNat - 1 = k := by
  -- the dispatcher does not look at the filters
  have hran' : ∀ filters, (m.withFilters filters).engine.runs mem = some .setMACAddress :=
    fun _ => hran
  have hport' : ∀ filters, (m.withFilters filters).engine.port0 = .gPort := fun _ => hport
  constructor
  · intro h
    rcases h with ⟨filters, after, htakes, hchanged⟩
    obtain rfl := (takes_iff hal (hport' filters) _).mp htakes
    rw [step_macFilters (hran' filters), get_setIfInBounds] at hchanged
    by_contra hother
    exact hchanged (if_neg hother)
  · intro hslot
    let filter := Request.macFilter mem
    let other := { filter with enabled := !filter.enabled }
    refine ⟨Vector.replicate _ other, _, (takes_iff hal (hport' _) _).mpr rfl, ?_⟩
    have hget : (Vector.replicate maxMacFilters other).get k = other :=
      Vector.getElem_replicate k.isLt
    rw [step_macFilters (hran' _), hslot, get_setIfInBounds, if_pos rfl, hget]
    intro hsame
    have henabled := congrArg MacFilter.enabled hsame
    simp [other, filter] at henabled

/-- Both frames are honoured, and if their MACNumbers differ there is no slot that both
    write. -/
structure SlotsHonoured (hal : Hal) (m : Machine) (mem mem' : Nat → UInt8) : Prop where
  first : SlotHonoured hal m mem
  second : SlotHonoured hal m mem'
  disjoint : mem SetMACAddr.macNumber ≠ mem' SetMACAddr.macNumber →
    ∀ k, ¬ (WritesSlot hal m mem k ∧ WritesSlot hal m mem' k)

/-- **When MACNumbers are honoured**: in every run that has left the Initial State, two Set
    MAC Address frames to the local channel are honoured, in separate slots unless they
    name the same one, exactly when both MACNumbers lie between 1 and 8. -/
theorem macSlots_honoured_iff {hist : List Call} (hrun : FwRun hal hist m)
    (hready : m.engine.state.ready = true) (hsets : SetsMac m.engine mem)
    (hsets' : SetsMac m.engine mem') :
    SlotsHonoured hal m mem mem' ↔
      (1 ≤ (mem SetMACAddr.macNumber).toNat ∧
          (mem SetMACAddr.macNumber).toNat ≤ maxMacFilters) ∧
        1 ≤ (mem' SetMACAddr.macNumber).toNat ∧
          (mem' SetMACAddr.macNumber).toNat ≤ maxMacFilters := by
  have hport := FwRun.port0 hal hrun
  have hran := hsets.runs hready
  have hran' := hsets'.runs hready
  rw [← exists_namesSlot_iff, ← exists_namesSlot_iff, ← slotHonoured_iff hrun.laid hport hran,
    ← slotHonoured_iff hrun.laid hport hran']
  constructor
  · intro h
    exact ⟨h.first, h.second⟩
  · intro h
    rcases h with ⟨hfirst, hsecond⟩
    refine ⟨hfirst, hsecond, fun hne k => ?_⟩
    obtain ⟨hpos, -⟩ := exists_namesSlot_iff.mp ((slotHonoured_iff hrun.laid hport hran).mp hfirst)
    obtain ⟨hpos', -⟩ :=
      exists_namesSlot_iff.mp ((slotHonoured_iff hrun.laid hport hran').mp hsecond)
    rw [writesSlot_iff hport hran, writesSlot_iff hport hran']
    intro h
    rcases h with ⟨hslot, hslot'⟩
    -- numbers from 1 on are re-indexed one to one
    exact hne (UInt8.toNat_inj.mp (by omega))

end Hal

/-- A Set MAC Address request with this MACNumber. -/
def macRequest (macNumber : UInt8) : Nat → UInt8 :=
  request 0 ControlPacketType.setMACAddress [2, 0, 0, 0, 0, 1, macNumber, 0x80]

/-- The sample requests are for the sample channel. -/
theorem setsMac_macRequest (macNumber : UInt8) :
    SetsMac readyMachine.engine (macRequest macNumber) := by
  have hchannelID : macRequest macNumber Header.channelID = 0 := rfl
  have hhigh : macRequest macNumber Header.payloadLength = 0 := rfl
  have hlow : macRequest macNumber (Header.payloadLength + 1) = 8 := rfl
  constructor
  · rfl
  · unfold Request.package
    rw [hchannelID]
    decide +kernel
  · unfold Request.channel
    rw [hchannelID]
    decide +kernel
  · unfold Request.payloadLength
    rw [hhigh, hlow]
    decide

/-- MACNumber 0 and MACNumber 9 name no slot and are acknowledged; 0 writes the slot of 1,
    and 9 is programmed into the driver. -/
theorem not_slotsHonoured_zero :
    FwRun sampleHal (play sampleHal readyOps).1 readyMachine ∧
      readyMachine.engine.state.ready = true ∧
      ¬ SlotHonoured sampleHal readyMachine (macRequest 0) ∧
      ¬ SlotHonoured sampleHal readyMachine (macRequest 9) ∧
      (∃ k, WritesSlot sampleHal readyMachine (macRequest 0) k ∧
        WritesSlot sampleHal readyMachine (macRequest 1) k) ∧
      programCall (macRequest 9) ∈ callsMade ⟨readyMachine, .rxFrame (macRequest 9),
        readyMachine.step sampleHal (.rxFrame (macRequest 9))⟩ := by
  have hrun := fwRun_readyMachine
  have hport := FwRun.port0 sampleHal hrun
  have hready : readyMachine.engine.state.ready = true := by decide +kernel
  have hran := fun n => (setsMac_macRequest n).runs hready
  refine ⟨hrun, hready, ?_, ?_, ⟨0, ?_, ?_⟩, programCall_mem (hran 9)⟩
  · rw [slotHonoured_iff hrun.laid hport (hran 0), exists_namesSlot_iff]
    decide
  · rw [slotHonoured_iff hrun.laid hport (hran 9), exists_namesSlot_iff]
    decide
  · exact (writesSlot_iff hport (hran 0) 0).mpr rfl
  · exact (writesSlot_iff hport (hran 1) 0).mpr rfl

/-- MACNumbers 1 and 8 are honoured. -/
theorem macSlots_honoured_iff_bounds :
    SlotsHonoured sampleHal readyMachine (macRequest 1) (macRequest 8) :=
  (macSlots_honoured_iff fwRun_readyMachine (by decide +kernel) (setsMac_macRequest 1)
    (setsMac_macRequest 8)).mpr (by decide)

end NcsiResponder
