import NcsiResponder.Lib.Lockstep
import NcsiResponder.PortDecision

/-!
# The port against upstream

The repository keeps the upstream engine to diff the port against. Here both run on the same
chip and are fed the same calls, each with what the chip replies during it (`Exchange`).
`Differs` lists the calls that the two do not treat alike. From start-up on their traces are
equal exactly as long as no such call comes (`trace_eq_iff_differs`).
-/

namespace NcsiResponder

/-! ## Calls -/

/-- A call that both engines have. -/
inductive Input where
  | rxFrame (mem : ℕ → UInt8)
  | init
  | reload (resetPhy : ReloadType)
  | handlePassthrough

/-- The call of the port. -/
def Input.op : Input → Op
  | rxFrame mem => .rxFrame mem
  | init => .init
  | reload resetPhy => .reload resetPhy
  | handlePassthrough => .handlePassthrough

/-- A call, with what the chip replies during it. -/
structure Exchange where
  input : Input
  replies : Replies

/-- The code of upstream behind a call. -/
def Upstream.exec (board : Upstream.Board) : Input → Upstream.Up Unit
  | .rxFrame mem => Upstream.handleNCSIFrame board mem
  | .init => Upstream.ncsiInit board
  | .reload resetPhy => Upstream.ncsiReload resetPhy
  | .handlePassthrough => Upstream.ncsiHandlePassthrough board

/-- A call into upstream, with what it shows. -/
def Upstream.step (board : Upstream.Board) (u : Upstream.Machine) (x : Exchange) :
    Option (Output × Upstream.Machine) :=
  observe Upstream.Machine.calls Upstream.Machine.shared
    (Upstream.exec (board.replying x.replies) x.input) u

/-- A call into the port, with what it shows. -/
def portStep (m : Machine) (x : Exchange) : Option (Output × Machine) :=
  observe Machine.calls (fun m => m.engine.shared) (exec x.replies.hal x.input.op) m

/-- A call that makes upstream read past the end of its table. -/
def Upstream.Faults : Input → Prop
  | .rxFrame mem => Request.package mem = 0 ∧ commandTable.length ≤ (Request.opcode mem).toNat
  | _ => False

/-- What upstream makes of a frame, on the chip that replies so. -/
def Upstream.Machine.behaviour (board : Upstream.Board) (u : Upstream.Machine) (r : Replies)
    (mem : ℕ → UInt8) : Behaviour :=
  Upstream.behaviour (board.replying r) mem u.calls u.shm.ncsiChannelStatus

/-- A call that the two engines do not treat alike, in these states of them. -/
def Differs (board : Upstream.Board) (u : Upstream.Machine) (m : Machine) (x : Exchange) : Prop :=
  match x.input with
  | .rxFrame mem =>
    Request.package mem = 0 ∧
      Difference mem m.engine.shared (u.behaviour board x.replies mem).report
        (m.behaviour x.replies.hal mem).report
  | .init => False
  -- upstream also programs the address it finds in shared memory
  | .reload _ => True
  -- upstream polls a channel that is ready, the port one that is enabled
  | .handlePassthrough => m.engine.state.ready ≠ m.engine.state.enabled

section Calls

variable {board : Upstream.Board} {u u' : Upstream.Machine} {m : Machine} {i : Input}
  {x : Exchange} {o : Output}

theorem Upstream.exec_error (hu : u.Sound) (h : Upstream.Faults i) :
    (Upstream.exec board i).run u = .error .outOfBounds := by
  cases i with
  | rxFrame mem =>
    have hentry := List.getElem?_eq_none_iff.mpr h.2
    have hfault : Upstream.decision u.shm.ready mem = .fault :=
      Upstream.decision_eq_fault_iff.mpr ⟨h.1, hentry⟩
    have hrun := Upstream.handleNCSIFrame_returns board mem hu
    rwa [hfault] at hrun
  | init | reload _ | handlePassthrough => exact h.elim

theorem Upstream.exists_returns (board : Upstream.Board) (hu : u.Sound)
    (h : ¬ Upstream.Faults i) :
    ∃ o, Upstream.Returns (Upstream.exec board i) u o := by
  cases i with
  | rxFrame mem =>
    have hrun := Upstream.handleNCSIFrame_returns board mem hu
    cases ho : (Upstream.behaviour board mem u.calls u.shm.ncsiChannelStatus).output u.shared
        (Upstream.decision u.shm.ready mem) with
    | none =>
      obtain ⟨hours, hentry⟩ := Upstream.decision_eq_fault_iff.mp (output_eq_none_iff.mp ho)
      exact absurd ⟨hours, List.getElem?_eq_none_iff.mp hentry⟩ h
    | some o =>
      rw [ho] at hrun
      exact ⟨o, hrun⟩
  | init => exact ⟨_, Upstream.ncsiInit_returns board hu⟩
  | reload resetPhy =>
    obtain ⟨_, _, hreturns⟩ := Upstream.ncsiReload_returns hu resetPhy
    exact ⟨_, hreturns⟩
  | handlePassthrough => exact ⟨_, Upstream.ncsiHandlePassthrough_returns board hu⟩

theorem Upstream.Returns.step (board : Upstream.Board) (x : Exchange)
    (h : Upstream.Returns (Upstream.exec (board.replying x.replies) x.input) u o) :
    ∃ u', Upstream.step board u x = some (compared o, u') ∧ u'.Sound ∧ u'.shared = o.2 := by
  obtain ⟨u', hrun, hsound, hcalls, hshared⟩ := h
  refine ⟨u', ?_, hsound, hshared⟩
  rw [← Prod.mk.eta (p := o), ← hshared]
  exact observe_ok hrun hcalls

theorem portStep_eq (h : m.Plain) (x : Exchange) :
    portStep m x =
      some (compared (m.newCalls x.replies.hal x.input.op.action,
        (m.step x.replies.hal x.input.op).engine.shared), m.step x.replies.hal x.input.op) :=
  observe_ok (exec_run x.replies.hal h.identified.1 x.input.op) (Machine.step_calls x.input.op)

/-- Where upstream does not fault, both come to the next call. -/
theorem visited_cons (board : Upstream.Board) (hu : u.Sound) (hm : m.Plain)
    (h : ¬ Upstream.Faults x.input) : ∃ u', u'.Sound ∧ ∀ xs,
      Lockstep.visited (Upstream.step board) portStep u m (x :: xs) =
        (u, m, x) :: Lockstep.visited (Upstream.step board) portStep u'
          (m.step x.replies.hal x.input.op) xs := by
  obtain ⟨o, hreturns⟩ := Upstream.exists_returns (board.replying x.replies) hu h
  obtain ⟨u', hstep, hsound, -⟩ := hreturns.step board x
  refine ⟨u', hsound, fun xs => ?_⟩
  rw [Lockstep.visited, hstep, portStep_eq hm]

/-- The port stays as it is: these calls do not switch the checksums on. -/
theorem Machine.Plain.step (h : m.Plain) (x : Exchange) :
    (m.step x.replies.hal x.input.op).Plain where
  identified := by
    obtain ⟨hport, hpackage, hchannel⟩ := h.identified
    have hstraps : Strapped x.replies.hal 0 0 := ⟨fun _ => rfl, fun _ => rfl⟩
    have hkept : (identityWrite 0 0
        ⟨m, x.input.op, m.step x.replies.hal x.input.op⟩).getD (0, 0) = (0, 0) := by
      cases x.input <;> rfl
    have hidentity : ((m.step x.replies.hal x.input.op).engine.gLocalPackageId,
        (m.step x.replies.hal x.input.op).engine.gLocalChannelId) = (0, 0) := by
      rw [step_identity hstraps, hpackage, hchannel, hkept]
    exact ⟨(Machine.step_port0 x.input.op).trans hport, Prod.mk.inj hidentity⟩
  laid := by
    rw [Machine.step_engine]
    exact Machine.act_laid _ h.laid
  computes := by
    rw [Machine.step_engine]
    cases x.input with
    | rxFrame mem =>
      have hkept : (m.handle x.replies.hal mem).engine.gNcsiComputeChecksum =
          m.engine.gNcsiComputeChecksum := by
        rw [Machine.handle_engine]
        split
        · rw [Machine.conclude_engine, Machine.worked_fixed]
        · rfl
      exact hkept.trans h.computes
    | init | reload _ | handlePassthrough => exact h.computes
  checksum v := by
    have hnone : checksumWrite x.replies.hal v
        ⟨m, x.input.op, m.step x.replies.hal x.input.op⟩ = none := by
      rw [← Option.not_isSome_iff_eq_none, checksumWrite_isSome_iff]
      exact fun hwrites => by simp [h.computes] at hwrites
    rw [step_checksumField h.laid, hnone]
    exact h.checksum v

/-! ## Side by side -/

/-- The two engines have come to the same settings. -/
structure Alike (u : Upstream.Machine) (m : Machine) : Prop where
  sound : u.Sound
  plain : m.Plain
  settings : u.shared = m.engine.shared

theorem Upstream.step_rxFrame (board : Upstream.Board) (hu : u.Sound) (r : Replies)
    (mem : ℕ → UInt8) :
    (Upstream.step board u ⟨.rxFrame mem, r⟩).map Prod.fst =
      ((u.behaviour board r mem).output u.shared (Upstream.decision u.shm.ready mem)).map
        compared := by
  have hrun := Upstream.handleNCSIFrame_returns (board.replying r) mem hu
  rw [Upstream.Machine.behaviour]
  cases ho : (Upstream.behaviour (board.replying r) mem u.calls u.shm.ncsiChannelStatus).output
      u.shared (Upstream.decision u.shm.ready mem) with
  | none =>
    rw [ho] at hrun
    have hexec : (Upstream.exec (board.replying r) (.rxFrame mem)).run u =
        .error .outOfBounds := hrun
    simp only [Upstream.step, observe, hexec, Option.map_none]
  | some o =>
    rw [ho] at hrun
    have hexec : Upstream.Returns (Upstream.exec (board.replying r) (.rxFrame mem)) u o := hrun
    obtain ⟨u', hstep, -⟩ := hexec.step board ⟨.rxFrame mem, r⟩
    rw [hstep]
    rfl

/-- **One call**: the two show the same unless it is listed. -/
theorem step_eq_iff (board : Upstream.Board) (h : Alike u m) (x : Exchange) :
    (Upstream.step board u x).map Prod.fst = (portStep m x).map Prod.fst ↔
      ¬ Differs board u m x := by
  obtain ⟨i, r⟩ := x
  rw [portStep_eq h.plain]
  have hready : u.shm.ready = m.engine.state.ready := congrArg Settings.ready h.settings
  cases i with
  | rxFrame mem =>
    obtain ⟨-, hpackage, hchannel⟩ := h.plain.identified
    have hcomparable : Comparable mem (u.behaviour board r mem) (m.behaviour r.hal mem) :=
      comparable_replying
    have hboth := agrees_iff hcomparable hpackage hchannel (s := m.engine.shared) rfl
    rw [Agrees, decision_output r.hal mem h.plain, ← hready] at hboth
    rw [Upstream.step_rxFrame board h.sound, h.settings]
    exact hboth
  | init =>
    have hreturns := Upstream.ncsiInit_returns (board.replying r) h.sound
    obtain ⟨u', hstep, -⟩ := hreturns.step board ⟨.init, r⟩
    rw [hstep, h.settings]
    exact iff_of_true rfl not_false
  | reload resetPhy =>
    obtain ⟨macHigh16, macLow32, hreturns⟩ := Upstream.ncsiReload_returns h.sound resetPhy
    obtain ⟨u', hstep, -⟩ := hreturns.step board ⟨.reload resetPhy, r⟩
    rw [hstep]
    exact iff_of_false (by rintro ⟨⟩) (not_not.mpr trivial)
  | handlePassthrough =>
    have hreturns := Upstream.ncsiHandlePassthrough_returns (board.replying r) h.sound
    obtain ⟨u', hstep, -⟩ := hreturns.step board ⟨.handlePassthrough, r⟩
    rw [hstep, h.settings, hready]
    have hcalls : m.newCalls r.hal .handlePassthrough =
        if m.engine.state.enabled then [.passthroughRxPacket r.moved] else [] := rfl
    have hshared : (m.step r.hal .handlePassthrough).engine.shared = m.engine.shared := by
      rw [step_shared]
      rfl
    have hmoved : (board.replying r).hal.passthroughRxPacket u.calls = r.moved := rfl
    simp only [Differs, Input.op, Op.action, hcalls, hshared, hmoved, Option.map_some]
    cases m.engine.state.ready <;> cases m.engine.state.enabled <;>
      simp [compared, HalCall.compared]

/-- Where the two are alike and show the same, they stay alike. -/
theorem Alike.step (h : Alike u m) {m' : Machine}
    (hup : Upstream.step board u x = some (o, u')) (hport : portStep m x = some (o, m')) :
    Alike u' m' := by
  have hfault : ¬ Upstream.Faults x.input := fun hfaults => by
    simp [Upstream.step, observe, Upstream.exec_error h.sound hfaults] at hup
  obtain ⟨o₁, hreturns⟩ := Upstream.exists_returns (board.replying x.replies) h.sound hfault
  obtain ⟨u₁, hup₁, hsound, hshared⟩ := hreturns.step board x
  rw [hup₁] at hup
  obtain ⟨rfl, rfl⟩ := Prod.mk.inj (Option.some.inj hup)
  rw [portStep_eq h.plain] at hport
  obtain ⟨hout, rfl⟩ := Prod.mk.inj (Option.some.inj hport)
  exact ⟨hsound, h.plain.step x, hshared.trans (congrArg Prod.snd hout).symm⟩

end Calls

/-- Upstream with a port registered, and its frames as they are initialised. -/
def Upstream.Machine.registered (shm : Upstream.ShmChannel) : Upstream.Machine where
  selected := false
  port0 := .gPort
  frame := Upstream.initialFrame
  shm := shm
  calls := []

theorem Upstream.sound_registered (shm : Upstream.ShmChannel) :
    (Upstream.Machine.registered shm).Sound := ⟨rfl, rfl⟩

/-- **The port against upstream**: from start-up with the same settings, on one chip, the
    engines show the same exactly as long as no listed call comes. -/
theorem trace_eq_iff_differs (board : Upstream.Board) {shm : Upstream.ShmChannel}
    (hshm : (Upstream.Machine.registered shm).shared = Machine.registered.engine.shared)
    (xs : List Exchange) :
    Lockstep.trace (Upstream.step board) (.registered shm) xs =
        Lockstep.trace portStep Machine.registered xs ↔
      ∀ p ∈ Lockstep.visited (Upstream.step board) portStep (.registered shm)
        Machine.registered xs, ¬ Differs board p.1 p.2.1 p.2.2 := by
  have hstart : Alike (.registered shm) Machine.registered :=
    ⟨Upstream.sound_registered shm, plain_registered, hshm⟩
  exact Lockstep.trace_eq_iff Alike (fun u m x => ¬ Differs board u m x)
    (fun _ _ x h => step_eq_iff board h x) (fun _ _ _ _ _ _ h => h.step) xs hstart

/-- **Upstream past the end of its table**: on any board and from any shared memory, a
    sequence of calls reads there exactly if a frame to package 0 has an opcode behind the
    table. The port returns from every sequence. -/
theorem forM_exec_faults_iff (board : Upstream.Board) (hal : Hal) (shm : Upstream.ShmChannel)
    (is : List Input) :
    (forM is (Upstream.exec board) (.registered shm) = .error .outOfBounds ↔
      ∃ i ∈ is, Upstream.Faults i) ∧
    ((∀ i ∈ is, ¬ Upstream.Faults i) →
      ∃ u', forM is (Upstream.exec board) (.registered shm) = .ok ((), u')) ∧
    ∃ m', forM is (fun i => exec hal i.op) Machine.registered = .ok ((), m') := by
  have hgood : ∀ (u : Upstream.Machine) i, u.Sound → ¬ Upstream.Faults i →
      ∃ u', Upstream.exec board i u = .ok ((), u') ∧ u'.Sound := fun u i hu h => by
    obtain ⟨o, u', hrun, hsound, -⟩ := Upstream.exists_returns board hu h
    exact ⟨u', hrun, hsound⟩
  have hbad : ∀ (u : Upstream.Machine) i, u.Sound → Upstream.Faults i →
      Upstream.exec board i u = .error .outOfBounds := fun u i => Upstream.exec_error
  have hstart := Upstream.sound_registered shm
  have hreturns : (∀ i ∈ is, ¬ Upstream.Faults i) →
      ∃ u', forM is (Upstream.exec board) (.registered shm) = .ok ((), u') := fun hnone => by
    obtain ⟨u', hrun, -⟩ := Runs.forM_ok hgood is hstart hnone
    exact ⟨u', hrun⟩
  refine ⟨⟨fun herror => ?_, Runs.forM_throws hgood hbad is hstart⟩, hreturns, ?_⟩
  · by_contra hnone
    push Not at hnone
    obtain ⟨u', hrun⟩ := hreturns hnone
    rw [hrun] at herror
    cases herror
  · have hport : ∀ (m : Machine) (i : Input), m.engine.port0 = .gPort → ¬ False →
        ∃ m', exec hal i.op m = .ok ((), m') ∧ m'.engine.port0 = .gPort := fun m i h _ =>
      ⟨m.step hal i.op, exec_run hal h i.op, (Machine.step_port0 i.op).trans h⟩
    have hregistered : Machine.registered.engine.port0 = .gPort := rfl
    obtain ⟨m', hrun, -⟩ := Runs.forM_ok hport is hregistered fun _ _ => not_false
    exact ⟨m', hrun⟩


/-! ## A sample chip -/

/-- An upstream board with the chip functions of the sample board. -/
def Upstream.sampleBoard : Upstream.Board where
  hal := sampleHal
  inFifo _ _ := 0
  auxiliaryStatusSummary := 0x19
  auxiliaryStatus _ := ⟨false, 0, false⟩
  statusWord _ := 0
  versionHigh := 0
  versionPatch := 0
  vendorID := 0
  deviceID := 0
  subsystemVendorID := 0
  subsystemID := 0

/-- Zeroed shared memory. -/
def Upstream.ShmChannel.zero : Upstream.ShmChannel where
  ready := false
  enabled := false
  txPassthrough := false
  vlan := false
  ncsiChannelMcid := 0
  ncsiChannelAen := 0
  ncsiChannelSetting1 := 0
  ncsiChannelSetting2 := 0
  ncsiChannelStatus := ⟨false, 0, false, false⟩
  ncsiChannelNcsiRx := 0
  ncsiChannelNcsiTx := 0
  ncsiChannelNetworkRx := 0
  ncsiChannelNetworkTx := 0
  ncsiChannelNetworkDropped := 0
  ncsiChannelMac0High := 0
  ncsiChannelMac0Mid := 0
  ncsiChannelMac0Low := 0

/-- A chip whose calls all succeed, with a link. -/
def sampleReplies : Replies where
  phy := 0
  register _ := 4
  phyReset := true
  linkUp := true
  moved := true
  inFifo _ := 32

/-- The two show the same for these calls on the sample chip. -/
def SameOnSample (is : List Input) : Prop :=
  let xs := is.map fun i => ⟨i, sampleReplies⟩
  Lockstep.trace (Upstream.step Upstream.sampleBoard) (.registered .zero) xs =
    Lockstep.trace portStep Machine.registered xs

/-- A request to channel 0 for a command that both complete alike, whatever the settings. -/
theorem not_differs_request {board : Upstream.Board} {u : Upstream.Machine} {m : Machine}
    {r : Replies} {mem : ℕ → UInt8} (c : Command) (len : ℕ)
    (hentry : commandTable[(Request.opcode mem).toNat]? = some (some (c, len)))
    (hchannel : Request.channel mem = 0) (hsame : ∀ s there here, ¬ c.Departs mem s there here) :
    ¬ Differs board u m ⟨.rxFrame mem, r⟩ := by
  rintro ⟨-, hdifference⟩
  rw [difference_iff hentry, hchannel] at hdifference
  rcases hdifference with ⟨hnone, -⟩ | ⟨hwide, -⟩ | ⟨-, -, c', hasks, hdeparts⟩
  · exact hnone rfl
  · cases hwide
  · obtain ⟨rfl, -⟩ := (asks_iff hentry).mp hasks
    exact hsame _ _ _ hdeparts

/-- Start-up, commands and a reset show the same; Enable VLAN leaves other settings. -/
theorem trace_eq_iff_differs_vlan :
    SameOnSample [.init, .rxFrame (request 0 ControlPacketType.clearInitialState []),
        .rxFrame enableChannelRequest,
        .rxFrame (request 0 ControlPacketType.resetChannel [0, 0, 0, 0])] ∧
      ¬ SameOnSample [.init, .rxFrame (request 0 ControlPacketType.clearInitialState []),
        .rxFrame (request 0 ControlPacketType.enableVLAN [0, 0, 0, 1])] := by
  have hzero : (Upstream.Machine.registered .zero).shared = Machine.registered.engine.shared := rfl
  constructor
  · refine (trace_eq_iff_differs Upstream.sampleBoard hzero _).mpr fun ⟨u, m, x⟩ hp => ?_
    have hx := Lockstep.mem_of_visited _ hp
    simp only [List.map_cons, List.map_nil, List.mem_cons, List.not_mem_nil, or_false] at hx
    rcases hx with rfl | rfl | rfl | rfl
    · exact not_false
    · exact not_differs_request .clearInitialState 0 (by decide) (by decide) fun _ _ _ => not_false
    · exact not_differs_request .enableChannel 0 (by decide) (by decide) fun _ _ _ => not_false
    · exact not_differs_request .resetChannel 4 (by decide) (by decide) fun _ _ _ => not_false
  · let clear : Exchange :=
      ⟨.rxFrame (request 0 ControlPacketType.clearInitialState []), sampleReplies⟩
    let start : Exchange := ⟨.init, sampleReplies⟩
    have hclear : ¬ Upstream.Faults clear.input := fun h => absurd h.2 (by decide)
    obtain ⟨u₁, hu₁, hvisited₁⟩ := visited_cons Upstream.sampleBoard (x := start)
      (Upstream.sound_registered .zero) plain_registered not_false
    obtain ⟨u₂, -, hvisited₂⟩ := visited_cons Upstream.sampleBoard (x := clear) hu₁
      (plain_registered.step start) hclear
    rw [SameOnSample, trace_eq_iff_differs Upstream.sampleBoard hzero, List.map_cons,
      List.map_cons, List.map_cons, hvisited₁, hvisited₂, Lockstep.visited]
    have hready : ((Machine.registered.step sampleReplies.hal start.input.op).step
        sampleReplies.hal clear.input.op).engine.state.ready = true := by decide +kernel
    let enableVLAN := request 0 ControlPacketType.enableVLAN [0, 0, 0, 1]
    have hmode : enableVLAN EnableVLAN.mode ≠ 0 := by decide
    have hentry : commandTable[(Request.opcode enableVLAN).toNat]? =
        some (some (.enableVLAN, 4)) := by decide
    have hasks : Asks enableVLAN .enableVLAN := (asks_iff hentry).mpr ⟨rfl, by decide⟩
    exact fun hsame => hsame _ (.tail _ (.tail _ (.head _)))
      ⟨by decide, .command (by decide) hready .enableVLAN hasks hmode⟩

end NcsiResponder
