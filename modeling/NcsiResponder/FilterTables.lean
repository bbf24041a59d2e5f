import NcsiResponder.InitialState
import NcsiResponder.PassThrough

/-!
# The two MAC filter tables

Set MAC Address programs the MAC driver and keeps a table of its own for the
pass-through check. A call acts on both as a `FilterEvent`, and the two actions differ
in two places: the driver is not told of resets, and it has no bound on its slots.
`tablesAgree_iff` says which runs keep the tables in agreement.
-/

namespace NcsiResponder

open BigEndian

/-! ## Filter tables -/

/-- The address each slot lets pass, for the slots that are enabled. -/
abbrev FilterTable := UInt32 → Option (Vector UInt8 6)

/-- What a call asks of a filter table. -/
inductive FilterEvent where
  | keep
  | reset
  /-- set a slot: an enabled filter for this address, or a disabled one -/
  | program (slot : UInt32) (entry : Option (Vector UInt8 6))

namespace FilterEvent

/-- What becomes of the driver's table. -/
def onDriver (table : FilterTable) : FilterEvent → FilterTable
  | program slot entry => Function.update table slot entry
  | keep | reset => table

/-- What becomes of the tracked table. -/
def onTracked (table : FilterTable) : FilterEvent → FilterTable
  | program slot entry =>
    if slot.toNat < maxMacFilters then Function.update table slot entry else table
  | reset => fun _ => none
  | keep => table

/-- The event has the same effect on both tables. -/
def Safe (table : FilterTable) : FilterEvent → Prop
  | program slot entry => maxMacFilters ≤ slot.toNat → entry = none
  | reset => ∀ i, table i = none
  | keep => True

/-- Two tables that agree still do after an event exactly when it is safe. -/
theorem onDriver_eq_iff {table : FilterTable}
    (hbound : ∀ i : UInt32, maxMacFilters ≤ i.toNat → table i = none) (event : FilterEvent) :
    event.onDriver table = event.onTracked table ↔ event.Safe table := by
  cases event with
  | keep => exact iff_of_true rfl trivial
  | reset => exact funext_iff
  | program slot entry =>
    simp only [onDriver, onTracked, Safe]
    -- past the tracked slots only the driver changes
    by_cases hslot : slot.toNat < maxMacFilters
    · rw [if_pos hslot]
      exact iff_of_true rfl fun hge => absurd hslot (Nat.not_lt.mpr hge)
    · have hge := Nat.not_lt.mp hslot
      rw [if_neg hslot, Function.update_eq_self_iff, hbound slot hge]
      exact ⟨fun h _ => h, fun h => h hge⟩

end FilterEvent

/-! ## The driver's table -/

/-- A slot of the driver's filter table. -/
structure DriverSlot where
  enabled : Bool
  mac : Vector UInt8 6

/-- The address a driver rebuilds from `mac_high16` and `mac_low32`. -/
def rebuildMac (macHigh16 : UInt16) (macLow32 : UInt32) : Vector UInt8 6 :=
  #v[(macHigh16 >>> 8).toUInt8, macHigh16.toUInt8, (macLow32 >>> 24).toUInt8,
    (macLow32 >>> 16).toUInt8, (macLow32 >>> 8).toUInt8, macLow32.toUInt8]

/-- What a HAL call makes of a slot. -/
def HalCall.programs (i : UInt32) : HalCall → Option DriverSlot
  | setMACAddr high16 low32 index enable =>
    if index = i then some ⟨enable, rebuildMac high16 low32⟩ else none
  | _ => none

/-- A slot holds what `Network_SetMACAddr` was last called with for it, and is disabled
    if it never was. -/
def driverSlot (calls : List HalCall) (i : UInt32) : DriverSlot :=
  (calls.findSome? (HalCall.programs i)).getD ⟨false, Vector.replicate 6 0⟩

/-- The driver's slots and the tracked ones are enabled alike, and then hold the same
    address. -/
structure TablesAgree (m : Machine) : Prop where
  enabled : ∀ i : UInt32, (driverSlot m.calls i).enabled = true ↔
    ∃ h : i.toNat < maxMacFilters, (m.engine.state.macFilters[i.toNat]).enabled = true
  mac : ∀ (i : UInt32) (h : i.toNat < maxMacFilters), (driverSlot m.calls i).enabled = true →
    (driverSlot m.calls i).mac = (m.engine.state.macFilters[i.toNat]).mac

/-- A step that the tables survive: a reset finds every tracked filter disabled, and an
    accepted Set MAC Address that enables a filter names one of the tracked slots. -/
structure KeepsAgreement (st : Call) : Prop where
  reset : isReset st = true → ∀ filter ∈ st.before.engine.state.macFilters, filter.enabled = false
  setMACAddress : ∀ mem, st.op.action = .control mem →
    accepted ControlPacketType.setMACAddress st = true →
    setmacEnable (mem SetMACAddr.macInfo) ≠ 0 → (mem SetMACAddr.macNumber).toNat ≤ maxMacFilters

/-! ## As filter tables -/

def DriverSlot.live (slot : DriverSlot) : Option (Vector UInt8 6) :=
  if slot.enabled then some slot.mac else none

/-- The driver's table. -/
def driverTable (calls : List HalCall) : FilterTable := fun i => (driverSlot calls i).live

/-- The tracked table. -/
def ChannelState.trackedTable (s : ChannelState) : FilterTable := fun i =>
  if h : i.toNat < maxMacFilters then (s.liveFilter ⟨i.toNat, h⟩).map Prod.snd else none

/-- What an action asks of the filter tables. -/
def Machine.filterEvent (m : Machine) : Action → FilterEvent
  | .control mem =>
    match m.engine.runs mem with
    | some .setMACAddress => .program (Request.slot mem) ((Request.liveFilter mem).map Prod.snd)
    | some .resetChannel => .reset
    | _ => .keep
  | .init => .reset
  | _ => .keep

theorem rebuildMac_macHigh16 (mac : Vector UInt8 6) :
    rebuildMac (macHigh16 mac) (macLow32 mac) = mac := by
  obtain ⟨h₀, h₁⟩ := be16_bytes mac[0] mac[1]
  obtain ⟨h₂, h₃, h₄, h₅⟩ := be32_bytes mac[2] mac[3] mac[4] mac[5]
  have hbytes : rebuildMac (macHigh16 mac) (macLow32 mac) =
      #v[mac[0], mac[1], mac[2], mac[3], mac[4], mac[5]] := by
    show #v[(be16 mac[0] mac[1] >>> 8).toUInt8, (be16 mac[0] mac[1]).toUInt8,
      (be32 mac[2] mac[3] mac[4] mac[5] >>> 24).toUInt8,
      (be32 mac[2] mac[3] mac[4] mac[5] >>> 16).toUInt8,
      (be32 mac[2] mac[3] mac[4] mac[5] >>> 8).toUInt8,
      (be32 mac[2] mac[3] mac[4] mac[5]).toUInt8] = _
    rw [h₀, h₁, h₂, h₃, h₄, h₅]
  -- a vector of six is the list of its entries
  rw [hbytes]
  ext i hi
  interval_cases i <;> rfl

theorem trackedTable_of_lt (s : ChannelState) {i : UInt32} (h : i.toNat < maxMacFilters) :
    s.trackedTable i =
      if s.macFilters[i.toNat].enabled then some s.macFilters[i.toNat].mac else none := by
  simp only [ChannelState.trackedTable, dif_pos h, ChannelState.liveFilter, Fin.getElem_fin]
  split <;> rfl

theorem trackedTable_of_ge (s : ChannelState) {i : UInt32} (h : maxMacFilters ≤ i.toNat) :
    s.trackedTable i = none := dif_neg (Nat.not_lt.mpr h)

theorem trackedTable_eq_none_iff (s : ChannelState) :
    (∀ i, s.trackedTable i = none) ↔ ∀ filter ∈ s.macFilters, filter.enabled = false := by
  refine Iff.trans ?_ Vector.forall_mem_iff_forall_getElem.symm
  constructor
  · intro hnone k hk
    have hk' : k < 8 := hk
    have hindex : (UInt32.ofNat k).toNat = k := Nat.mod_eq_of_lt (by omega)
    have hslot := hnone (UInt32.ofNat k)
    rw [trackedTable_of_lt s (by rwa [hindex])] at hslot
    simpa [hindex] using hslot
  · intro hdisabled i
    by_cases h : i.toNat < maxMacFilters
    · rw [trackedTable_of_lt s h, hdisabled _ h]
      rfl
    · exact trackedTable_of_ge s (Nat.not_lt.mp h)

theorem trackedTable_reset (s : ChannelState) : s.reset.trackedTable = fun _ => none :=
  funext ((trackedTable_eq_none_iff s.reset).mpr s.reset_inert.macFilters)

/-- Set MAC Address writes the one slot it names, if that is tracked. -/
theorem trackedTable_trackMac (s : ChannelState) (mem : Nat → UInt8) :
    (s.trackMac mem).trackedTable =
      (FilterEvent.program (Request.slot mem) ((Request.liveFilter mem).map Prod.snd)).onTracked
        s.trackedTable := by
  funext i
  rw [FilterEvent.onTracked]
  -- a slot past the table is never live, whatever is written
  by_cases h : i.toNat < maxMacFilters
  · have hlive : ∀ s : ChannelState, s.trackedTable i =
        (s.liveFilter ⟨i.toNat, h⟩).map Prod.snd := fun _ => dif_pos h
    rw [hlive, liveFilter_trackMac]
    by_cases hslot : Request.slot mem = i
    · rw [if_pos (congrArg UInt32.toNat hslot), if_pos (by rwa [hslot]), hslot,
        Function.update_self]
    · rw [if_neg (mt UInt32.toNat_inj.mp hslot), ← hlive]
      split
      · rw [Function.update_of_ne (Ne.symm hslot)]
      · rfl
  · have hge := Nat.not_lt.mp h
    rw [trackedTable_of_ge _ hge]
    split
    · next hslot =>
      have hne : i ≠ Request.slot mem := by
        rintro rfl
        exact h hslot
      rw [Function.update_of_ne hne, trackedTable_of_ge _ hge]
    · rw [trackedTable_of_ge _ hge]

section Hal

variable {hal : Hal} {m : Machine}

/-- Agreement of one slot. -/
theorem slot_agrees_iff (i : UInt32) :
    driverTable m.calls i = m.engine.state.trackedTable i ↔
      ((driverSlot m.calls i).enabled = true ↔
        ∃ h : i.toNat < maxMacFilters, (m.engine.state.macFilters[i.toNat]).enabled = true) ∧
      ∀ h : i.toNat < maxMacFilters, (driverSlot m.calls i).enabled = true →
        (driverSlot m.calls i).mac = (m.engine.state.macFilters[i.toNat]).mac := by
  rw [driverTable, DriverSlot.live]
  by_cases h : i.toNat < maxMacFilters
  · rw [trackedTable_of_lt _ h]
    simp only [h, exists_true_left, forall_true_left]
    cases (driverSlot m.calls i).enabled <;>
      cases m.engine.state.macFilters[i.toNat].enabled <;> simp
  · -- a slot that is not tracked has to be disabled
    rw [trackedTable_of_ge _ (Nat.not_lt.mp h)]
    simp only [h, IsEmpty.exists_iff, IsEmpty.forall_iff, and_true, iff_false]
    cases (driverSlot m.calls i).enabled <;> simp

theorem tablesAgree_iff_eq :
    TablesAgree m ↔ driverTable m.calls = m.engine.state.trackedTable := by
  rw [funext_iff]
  simp only [slot_agrees_iff, forall_and]
  exact ⟨fun ⟨henabled, hmac⟩ => ⟨henabled, hmac⟩, fun ⟨henabled, hmac⟩ => ⟨henabled, hmac⟩⟩

theorem driverSlot_append (calls calls' : List HalCall) (i : UInt32) :
    driverSlot (calls ++ calls') i =
      (calls.findSome? (HalCall.programs i)).getD (driverSlot calls' i) := by
  rw [driverSlot, List.findSome?_append]
  cases calls.findSome? (HalCall.programs i) <;> rfl

/-- Only Set MAC Address programs the driver. -/
theorem newCalls_programs (mem : Nat → UInt8) (i : UInt32) :
    (m.newCalls hal (.control mem)).findSome? (HalCall.programs i) =
      if m.engine.runs mem = some .setMACAddress ∧ Request.slot mem = i then
        some ⟨Request.macEnable mem, Request.macAddress mem⟩
      else none := by
  rw [Machine.newCalls, Engine.runs]
  by_cases haddressed : m.engine.addressed mem = true
  · rw [if_pos haddressed, if_pos haddressed]
    cases verdict m.engine mem with
    | run c =>
      -- Get Link Status is set apart only because its calls depend on the link
      cases c with
      | setMACAddress =>
        by_cases hslot : Request.slot mem = i <;>
          simp [List.findSome?_cons, HalCall.programs, Verdict.newCalls, Command.newCalls,
            programCall, rebuildMac_macHigh16, hslot]
      | getLinkStatus =>
        simp only [Verdict.newCalls, Command.newCalls, linkCalls]
        split
        · simp [HalCall.programs]
        · split <;> simp [HalCall.programs]
      | _ => simp [HalCall.programs, Verdict.newCalls, Command.newCalls, resetCalls]
    | _ => simp [HalCall.programs, Verdict.newCalls]
  · simp [haddressed]

theorem step_driverTable (op : Op) :
    driverTable (m.step hal op).calls =
      (m.filterEvent op.action).onDriver (driverTable m.calls) := by
  rw [Machine.step_calls]
  -- the newest programming call wins, and only Set MAC Address makes one
  cases op.action with
  | control mem =>
    funext i
    rw [driverTable, driverSlot_append, newCalls_programs, Machine.filterEvent]
    cases m.engine.runs mem with
    | none => rfl
    | some c =>
      cases c with
      | setMACAddress =>
        rw [FilterEvent.onDriver]
        by_cases hslot : Request.slot mem = i
        · rw [if_pos ⟨rfl, hslot⟩, hslot, Function.update_self, Request.liveFilter]
          cases henable : Request.macEnable mem <;> simp [DriverSlot.live]
        · rw [if_neg (mt And.right hslot), Function.update_of_ne (Ne.symm hslot)]
          rfl
      | _ => rfl
  | forward src frame =>
    rw [Machine.newCalls]
    split <;> rfl
  | handlePassthrough =>
    rw [Machine.newCalls]
    split <;> rfl
  | _ => rfl

theorem step_trackedTable (op : Op) :
    (m.step hal op).engine.state.trackedTable =
      (m.filterEvent op.action).onTracked m.engine.state.trackedTable := by
  have hsettings := congrArg ChannelState.trackedTable (m.step_settings hal op)
  refine hsettings.trans ?_
  -- a reset empties this table, which the driver is not told
  cases op.action with
  | control mem =>
    rw [Machine.newSettings, Machine.filterEvent]
    cases m.engine.runs mem with
    | none => rfl
    | some c =>
      cases c with
      | setMACAddress => exact trackedTable_trackMac m.engine.state mem
      | resetChannel => exact trackedTable_reset m.engine.state
      | _ => rfl
  | init => exact trackedTable_reset m.engine.state
  | _ => rfl

/-- A frame that enables no filter, or one for a tracked slot. -/
theorem program_safe_iff (table : FilterTable) (mem : Nat → UInt8) :
    (FilterEvent.program (Request.slot mem) ((Request.liveFilter mem).map Prod.snd)).Safe table ↔
      (setmacEnable (mem SetMACAddr.macInfo) ≠ 0 →
        (mem SetMACAddr.macNumber).toNat ≤ maxMacFilters) := by
  rw [FilterEvent.Safe, Request.slot_toNat, Request.liveFilter, Request.macEnable]
  have hmax : maxMacFilters = 8 := rfl
  by_cases henable : setmacEnable (mem SetMACAddr.macInfo) = 0
  · simp [henable]
  · simp only [henable, bne_iff_ne, ne_eq, not_false_eq_true, if_true, Option.map_some,
      reduceCtorEq, imp_false, true_imp_iff]
    omega

theorem keepsAgreement_iff (hlaid : m.engine.Laid) (op : Op) :
    KeepsAgreement ⟨m, op, m.step hal op⟩ ↔
      (m.resets op.action = true → ∀ filter ∈ m.engine.state.macFilters, filter.enabled = false) ∧
        ∀ mem, op.action = .control mem → m.engine.runs mem = some .setMACAddress →
          setmacEnable (mem SetMACAddr.macInfo) ≠ 0 →
            (mem SetMACAddr.macNumber).toNat ≤ maxMacFilters := by
  have hreset := isReset_eq hal hlaid op
  have hset : accepted ControlPacketType.setMACAddress ⟨m, op, m.step hal op⟩ = _ :=
    accepted_eq hal hlaid op .setMACAddress (by decide) (by decide)
  constructor
  · rintro ⟨h, h'⟩
    refine ⟨fun hresets => h (hreset.trans hresets), fun mem haction hruns => h' mem haction ?_⟩
    rw [hset, haction, beq_iff_eq]
    exact hruns
  · rintro ⟨h, h'⟩
    refine ⟨fun hresets => h (hreset.symm.trans hresets), fun mem haction haccepted => ?_⟩
    rw [hset, show op.action = _ from haction, beq_iff_eq] at haccepted
    exact h' mem haction haccepted

/-- The event of a call is safe exactly when the call keeps the tables in agreement. -/
theorem safe_iff_keepsAgreement (hlaid : m.engine.Laid) (op : Op) :
    (m.filterEvent op.action).Safe m.engine.state.trackedTable ↔
      KeepsAgreement ⟨m, op, m.step hal op⟩ := by
  rw [keepsAgreement_iff hlaid, ← trackedTable_eq_none_iff]
  cases op.action with
  | control mem =>
    rw [Machine.filterEvent, Machine.resets]
    cases hruns : m.engine.runs mem with
    | none => simp [FilterEvent.Safe, hruns]
    | some c =>
      cases c with
      | setMACAddress =>
        rw [program_safe_iff]
        simp [hruns]
      | _ => simp [FilterEvent.Safe, hruns]
  | init => simp [FilterEvent.Safe, Machine.filterEvent, Machine.resets]
  | _ => simp [FilterEvent.Safe, Machine.filterEvent, Machine.resets]

/-- One step keeps the tables in agreement exactly when it meets `KeepsAgreement`. -/
theorem step_tablesAgree_iff (hlaid : m.engine.Laid) (hagree : TablesAgree m) (op : Op) :
    TablesAgree (m.step hal op) ↔ KeepsAgreement ⟨m, op, m.step hal op⟩ := by
  rw [tablesAgree_iff_eq] at hagree
  rw [tablesAgree_iff_eq, step_driverTable, step_trackedTable, hagree,
    FilterEvent.onDriver_eq_iff fun _ => trackedTable_of_ge _, safe_iff_keepsAgreement hlaid]

/-- At power-on both tables are empty. -/
theorem tablesAgree_registered : TablesAgree Machine.registered := by
  have hnone := (trackedTable_eq_none_iff .zero).mpr ChannelState.zero_inert.macFilters
  exact tablesAgree_iff_eq.mpr (funext fun i => (hnone i).symm)

/-- **When the two filter tables agree**: they agree in every state of a run exactly when
    every reset of it found the tracked filters disabled, and every accepted Set MAC
    Address that enabled a filter named one of the tracked slots. -/
theorem tablesAgree_iff {hist : List Call} (hrun : FwRun hal hist m) :
    (∀ st ∈ hist, TablesAgree st.after) ↔ ∀ st ∈ hist, KeepsAgreement st :=
  hrun.along_iff TablesAgree KeepsAgreement tablesAgree_registered fun hbefore hagree op =>
    step_tablesAgree_iff hbefore.laid hagree op

end Hal

/-- The run that configures 02:00:00:00:00:01 in slot 0, and then Reset Channel. -/
def resetFilterOps : List Op :=
  forwardingOps ++
    [.rxFrame (request 0 ControlPacketType.resetChannel [0, 0, 0, 0])]

/-- After the reset the driver still has the filter enabled. -/
theorem not_tablesAgree_reset :
    FwRun sampleHal (play sampleHal resetFilterOps).1 (play sampleHal resetFilterOps).2 ∧
      ¬ TablesAgree (play sampleHal resetFilterOps).2 := by
  refine ⟨fwRun_play _ _, fun hagree => ?_⟩
  have hdisabled : (play sampleHal resetFilterOps).2.engine.state.macFilters[0].enabled = false := by
    decide +kernel
  obtain ⟨_, htracked⟩ := (hagree.enabled 0).mp (by decide +kernel)
  exact Bool.false_ne_true (hdisabled.symm.trans htracked)

/-- The configured run, then the filter is disabled before Reset Channel. -/
def disabledFilterOps : List Op := forwardingOps ++ [
  .rxFrame (request 0 ControlPacketType.setMACAddress [2, 0, 0, 0, 0, 1, 1, 0]),
  .rxFrame (request 0 ControlPacketType.resetChannel [0, 0, 0, 0])]

/-- The tables agree all along, also while the filter is on. -/
theorem tablesAgree_iff_disabled :
    (driverSlot (play sampleHal forwardingOps).2.calls 0).enabled = true ∧
      ∀ st ∈ (play sampleHal disabledFilterOps).1, TablesAgree st.after := by
  refine ⟨by decide +kernel, ?_⟩
  refine (tablesAgree_iff (fwRun_play sampleHal disabledFilterOps)).mpr fun st hst => ?_
  obtain ⟨n, op, hop, rfl⟩ := exists_of_mem_play hst
  rw [keepsAgreement_iff (fwRun_play sampleHal (disabledFilterOps.take n)).laid]
  have hn : n < 6 := (List.getElem?_eq_some_iff.mp hop).1
  interval_cases n <;> cases hop
  all_goals refine ⟨by decide +kernel, ?_⟩
  all_goals rintro mem ⟨⟩
  all_goals decide +kernel

end NcsiResponder
