import NcsiResponder.PassThrough

/-!
# Which received bytes are read

`ncsi_on_rx_frame` checks that a buffer holds a header, 30 bytes, and nothing behind
it is checked again. This file lists the bytes a call reads and says exactly when one
of them lies past the end of the buffer (`inBounds_iff`).
-/

namespace NcsiResponder

/-! ## The bytes a call reads -/

/-- The request bytes of a decision before the answer, in order. -/
def Verdict.reads (mem : Nat → UInt8) : Verdict → List Nat
  | .run c => c.reads mem
  | _ => []

/-- The received bytes of an action, in order. -/
def Machine.newReads (hal : Hal) (m : Machine) : Action → List Nat
  | .control mem =>
    headerReads m.engine mem ++
      if m.engine.addressed mem then
        (verdict m.engine mem).reads mem ++ (m.answer hal mem).reads
      else []
  | .forward sourceMac _ =>
    if m.engine.state.txPassthroughEn then
      filterReads sourceMac m.engine.state.macFilters.toList
    else []
  | _ => []

section Hal

variable {hal : Hal} {m : Machine}

theorem conclude_reads (mem : Nat → UInt8) (v : Verdict) :
    (m.conclude hal mem v).reads =
      (v.reads mem ++ (v.reply mem (m.work hal mem v).engine.state).reads).reverse ++ m.reads := by
  rw [List.reverse_append, List.append_assoc]
  cases v <;> rfl

theorem act_reads (a : Action) :
    (m.act hal a).reads = (m.newReads hal a).reverse ++ m.reads := by
  cases a with
  | control mem =>
    -- the log itself is not looked at
    have hreply : ∀ v : Verdict, v.reply mem
        ((m.readAll (Machine.headerReads m.engine mem)).work hal mem v).engine.state =
        v.reply mem (m.work hal mem v).engine.state := by
      intro v
      cases v <;> rfl
    by_cases haddressed : m.engine.addressed mem = true
    · simp [Machine.act, Machine.handle, Machine.newReads, haddressed, conclude_reads, hreply,
        Machine.answer, Machine.worked]
    · simp [Machine.act, Machine.handle, Machine.newReads, haddressed]
  | forward sourceMac frame =>
    by_cases htx : m.engine.state.txPassthroughEn = true <;>
      simp [Machine.act, Machine.forward, Machine.newReads, htx]
  | _ => rfl

/-- Every received byte a call reads. -/
theorem step_reads (op : Op) :
    (m.step hal op).reads = (op.ownReads ++ m.newReads hal op.action).reverse ++ m.reads := by
  have hreads : (m.readAll op.ownReads).newReads hal op.action = m.newReads hal op.action := by
    cases op.action with
    | control mem =>
      simp only [Machine.newReads, Machine.readAll_engine, Machine.answer, Machine.worked]
      cases verdict m.engine mem <;> rfl
    | _ => rfl
  rw [Machine.step, act_reads, hreads, Machine.readAll_reads, List.reverse_append,
    List.append_assoc]

end Hal

/-! ## How far they reach -/

/-- The buffer length at which every byte a command reads is inside. -/
def Command.frameLength : Command → Nat
  | aenEnable | setLink | setVLANFilter | setMACAddress => 38
  | disableChannel | enableVLAN | enableBroadcastFilter => 34
  | _ => sizeofControlPacketHeader

-- offsets as numbers
attribute [local simp] sizeofControlPacketHeader Header.instanceID Header.controlPacketType
  Header.channelID DisableChannel.ald AENEnable.aenMcId AENEnable.aenControl SetLink.linkSettings
  SetLink.oemLinkSettings SetVLANFilter.vlanID SetVLANFilter.filterSelector SetVLANFilter.enable
  EnableVLAN.mode SetMACAddr.macAddress SetMACAddr.macNumber SetMACAddr.macInfo
  EnableBroadcastFilter.broadcastPacketFilterSettings List.range'_succ

theorem Command.reads_lt_iff (c : Command) (mem : Nat → UInt8) {frameLen : Nat}
    (hlen : sizeofControlPacketHeader ≤ frameLen) :
    (∀ i ∈ c.reads mem, i < frameLen) ↔ c.frameLength ≤ frameLen := by
  have hlen' : 30 ≤ frameLen := hlen
  -- the last byte read decides; Set MAC Address may read the address twice
  cases c with
  | setMACAddress =>
    by_cases hslot : (Request.slot mem).toNat < maxMacFilters <;>
      simp [Command.reads, Command.frameLength, hslot] <;> omega
  | _ =>
    simp [Command.reads, Command.frameLength]
    omega

theorem headerReads_lt (e : Engine) (mem : Nat → UInt8) :
    ∀ i ∈ Machine.headerReads e mem, i < sizeofControlPacketHeader := by
  rw [Machine.headerReads]
  split
  · decide
  split <;> decide

theorem Reply.reads_lt (r : Reply) : ∀ i ∈ r.reads, i < sizeofControlPacketHeader := by
  cases r <;> simp [Reply.reads]

theorem macReads_lt (src : RxPtr) (mac : List UInt8) :
    ∀ b, ∀ i ∈ macReads src mac b, i < src.off + b + mac.length := by
  induction mac with
  | nil => simp [macReads]
  | cons first mac ih =>
    intro b i hi
    rw [macReads, List.mem_cons] at hi
    rcases hi with rfl | hi
    · simp
    · split at hi
      · have := ih (b + 1) i hi
        rw [List.length_cons]
        omega
      · simp at hi

/-- The filter loop stays inside the source address. -/
theorem filterReads_lt (src : RxPtr) (filters : List MacFilter) :
    ∀ i ∈ filterReads src filters, i < src.off + 6 := by
  -- filter by filter: each comparison starts over at the first byte
  induction filters with
  | nil => simp [filterReads]
  | cons filter filters ih =>
    intro i hi
    rw [filterReads] at hi
    split at hi
    · rcases List.mem_append.mp hi with hi | hi
      · simpa using macReads_lt src filter.mac.toList 0 i hi
      · split at hi
        · simp at hi
        · exact ih i hi
    · exact ih i hi

/-! ## The check that is missing -/

/-- A call of `ncsi_on_rx_frame` on this buffer returns, having read no byte past its end. -/
def InBounds (hal : Hal) (m : Machine) (mem : Nat → UInt8) (frameLen : Nat) : Prop :=
  ∃ m' read, ncsiOnRxFrame hal mem frameLen m = .ok ((), m') ∧ m'.reads = read ++ m.reads ∧
    ∀ i ∈ read, i < frameLen

/-- A buffer with a whole header, whose frame is a command to the local channel that the
    engine is ready to run and whose claimed payload length is right, but which ends before
    the fields the handler reads. -/
def Truncated (e : Engine) (mem : Nat → UInt8) (frameLen : Nat) : Prop :=
  sizeofControlPacketHeader ≤ frameLen ∧
    BigEndian.be16 (mem Header.etherType) (mem (Header.etherType + 1)) = etherTypeNcsi ∧
    Request.package mem = e.gLocalPackageId ∧ Request.channel mem = e.gLocalChannelId ∧
    e.state.ready = true ∧
    ∃ c, lookup (Request.opcode mem) = some (c, (Request.payloadLength mem).toNat) ∧
      frameLen < c.frameLength

/-- Only commands to the channel read past a header. -/
theorem Command.frameLength_package (c : Command) (h : c.packageCommand = true ∨ c.ignoreInit = true) :
    c.frameLength = sizeofControlPacketHeader := by
  cases c <;> first | rfl | simp [Command.packageCommand, Command.ignoreInit] at h

theorem verdict_reads_iff {e : Engine} {mem : Nat → UInt8} {frameLen : Nat}
    (haddressed : e.addressed mem = true) (hlen : sizeofControlPacketHeader ≤ frameLen)
    (hcontrol : BigEndian.be16 (mem Header.etherType) (mem (Header.etherType + 1)) =
      etherTypeNcsi) :
    (∀ i ∈ (verdict e mem).reads mem, i < frameLen) ↔ ¬ Truncated e mem frameLen := by
  have hpackage : Request.package mem = e.gLocalPackageId := by
    simp only [Engine.addressed, Bool.and_eq_true, beq_iff_eq] at haddressed
    exact haddressed.1
  cases hverdict : verdict e mem with
  | run c =>
    obtain ⟨hlookup, hbranch⟩ := verdict_eq_run.mp hverdict
    rw [Verdict.reads, c.reads_lt_iff mem hlen, ← Nat.not_lt, not_iff_not]
    -- a package command reads the header only, so a short frame is a channel command
    constructor
    · intro hshort
      rcases hbranch with ⟨hc, -⟩ | hc | ⟨hchannel, hready⟩
      · rw [c.frameLength_package (.inl hc)] at hshort
        omega
      · rw [c.frameLength_package (.inr hc)] at hshort
        omega
      · exact ⟨hlen, hcontrol, hpackage, hchannel, hready, c, hlookup, hshort⟩
    · rintro ⟨-, -, -, -, -, c', hlookup', hshort⟩
      rw [hlookup] at hlookup'
      cases hlookup'
      exact hshort
  | _ =>
    -- a refused frame: had it been truncated, it would have been run
    refine iff_of_true (by simp [Verdict.reads]) ?_
    rintro ⟨-, -, -, hchannel, hready, c, hlookup, -⟩
    have hrun := verdict_eq_run.mpr ⟨hlookup, .inr (.inr ⟨hchannel, hready⟩)⟩
    rw [hverdict] at hrun
    cases hrun

theorem inBounds_iff_reads {hal : Hal} {m : Machine} (hport : m.engine.port0 = .gPort)
    (mem : Nat → UInt8) (frameLen : Nat) :
    InBounds hal m mem frameLen ↔
      ∀ i ∈ (Op.onRxFrame mem frameLen).ownReads ++
        m.newReads hal (Op.onRxFrame mem frameLen).action, i < frameLen := by
  have hexec := exec_run hal hport (.onRxFrame mem frameLen)
  constructor
  · rintro ⟨m', read, hexec', hread, hall⟩
    rw [show ncsiOnRxFrame hal mem frameLen m = _ from hexec] at hexec'
    cases hexec'
    rw [step_reads, List.append_cancel_right_eq] at hread
    intro i hi
    exact hall i (by rw [← hread]; exact List.mem_reverse.mpr hi)
  · intro hall
    exact ⟨_, _, hexec, step_reads _, fun i hi => hall i (List.mem_reverse.mp hi)⟩

/-- **Which buffers are read past their end**: in every reachable state, a call of
    `ncsi_on_rx_frame` stays inside the buffer unless it is a truncated command. -/
theorem inBounds_iff {hal : Hal} {hist : List Call} {m : Machine} (hrun : FwRun hal hist m)
    (mem : Nat → UInt8) (frameLen : Nat) :
    InBounds hal m mem frameLen ↔ ¬ Truncated m.engine mem frameLen := by
  rw [inBounds_iff_reads (FwRun.port0 hal hrun), Op.ownReads, Op.action]
  by_cases hshort : frameLen < sizeofControlPacketHeader
  · rw [if_pos hshort, if_pos hshort]
    refine iff_of_true (by simp [Machine.newReads]) ?_
    rintro ⟨hlen, -⟩
    omega
  have hlen : sizeofControlPacketHeader ≤ frameLen := Nat.not_lt.mp hshort
  -- the header is inside, so only the handler's own reads are left
  have hinside : ∀ {is : List Nat}, (∀ i ∈ is, i < sizeofControlPacketHeader) →
      ∀ i ∈ is, i < frameLen := fun h i hi => Nat.lt_of_lt_of_le (h i hi) hlen
  have hown : ∀ i ∈ [Header.etherType, Header.etherType + 1], i < frameLen :=
    hinside (by decide)
  rw [if_neg hshort, if_neg hshort, List.forall_mem_append]
  refine (and_iff_right hown).trans ?_
  by_cases hcontrol : BigEndian.be16 (mem Header.etherType) (mem (Header.etherType + 1)) =
      etherTypeNcsi
  · rw [if_pos hcontrol, Machine.newReads, List.forall_mem_append]
    refine (and_iff_right (hinside (headerReads_lt _ _))).trans ?_
    by_cases haddressed : m.engine.addressed mem = true
    · rw [if_pos haddressed, List.forall_mem_append]
      refine (and_iff_left (hinside (Reply.reads_lt _))).trans ?_
      exact verdict_reads_iff haddressed hlen hcontrol
    · rw [if_neg haddressed]
      refine iff_of_true (by simp) ?_
      rintro ⟨-, -, hpackage, hchannel, -⟩
      exact haddressed (by simp [Engine.addressed, hpackage, hchannel])
  · rw [if_neg hcontrol, Machine.newReads]
    refine iff_of_true ?_ fun htruncated => hcontrol htruncated.2.1
    split
    · exact hinside fun i hi => Nat.lt_trans (filterReads_lt _ _ i hi)
        (show Header.sourceAddress + 6 < sizeofControlPacketHeader by decide)
    · simp

/-- A Set MAC Address request. -/
def setMACAddressRequest : Nat → UInt8 :=
  request 0 ControlPacketType.setMACAddress [2, 0, 0, 0, 0, 1, 1, 0x80]

/-- Cut off after its header, the request is read up to byte 37. -/
theorem not_inBounds_setMACAddress :
    FwRun sampleHal (play sampleHal readyOps).1 (play sampleHal readyOps).2 ∧
      ¬ InBounds sampleHal (play sampleHal readyOps).2 setMACAddressRequest 30 := by
  refine ⟨fwRun_play _ _, ?_⟩
  rw [inBounds_iff_reads (FwRun.port0 _ (fwRun_play _ _))]
  intro hall
  exact absurd (hall 37 (by decide +kernel)) (by decide)

theorem inBounds_iff_setMACAddress :
    InBounds sampleHal (play sampleHal readyOps).2 setMACAddressRequest 38 := by
  rw [inBounds_iff (fwRun_play sampleHal readyOps)]
  rintro ⟨-, -, -, -, -, c, -, hshort⟩
  cases c <;> exact absurd hshort (by decide)

end NcsiResponder
