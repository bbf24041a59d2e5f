import NcsiResponder.Execution

/-!
# The other entry points in closed form

Start-up, reload, the checksum switch and the two pass-through directions, each
with the lemma that the engine's code computes it, as `Execution.lean` has it for
received control frames.
-/

namespace NcsiResponder

open BigEndian

/-! ## Pass-through filters -/

/-- The loop over a filter's bytes: do they equal the source address from `b` on? -/
def sameMac (sourceMac : RxPtr) : List UInt8 → Nat → Bool
  | [], _ => true
  | m :: mac, b => m == sourceMac.byte b && sameMac sourceMac mac (b + 1)

/-- The bytes of the source address that loop reads, up to the first difference. -/
def macReads (sourceMac : RxPtr) : List UInt8 → Nat → List Nat
  | [], _ => []
  | m :: mac, b =>
    (sourceMac.off + b) :: if m == sourceMac.byte b then macReads sourceMac mac (b + 1) else []

/-- A filter lets frames of this source address pass: enabled, unicast, same address. -/
def MacFilter.admits (sourceMac : RxPtr) (filter : MacFilter) : Bool :=
  filter.enabled && filter.addressType == 0 && sameMac sourceMac filter.mac.toList 0

/-- The bytes of the source address the filter loop reads. -/
def filterReads (sourceMac : RxPtr) : List MacFilter → List Nat
  | [] => []
  | filter :: filters =>
    if filter.enabled && filter.addressType == 0 then
      macReads sourceMac filter.mac.toList 0 ++
        if sameMac sourceMac filter.mac.toList 0 then [] else filterReads sourceMac filters
    else filterReads sourceMac filters

/-- BMC-to-network traffic from this source address is forwarded. -/
def ChannelState.forwards (s : ChannelState) (sourceMac : RxPtr) : Bool :=
  s.txPassthroughEn && s.macFilters.any (·.admits sourceMac)

/-- The six bytes of the address at a pointer. -/
def RxPtr.mac (p : RxPtr) : Vector UInt8 6 :=
  #v[p.byte 0, p.byte 1, p.byte 2, p.byte 3, p.byte 4, p.byte 5]

/-- The byte loop compares all six bytes. -/
theorem sameMac_iff (sourceMac : RxPtr) (mac : Vector UInt8 6) :
    sameMac sourceMac mac.toList 0 = true ↔ mac = sourceMac.mac := by
  obtain ⟨⟨bytes⟩, hsize⟩ := mac
  -- six comparisons
  match bytes, hsize with
  | [b₀, b₁, b₂, b₃, b₄, b₅], _ => simp [sameMac, RxPtr.mac]

/-! ## Closed forms -/

namespace Machine

variable (hal : Hal)

/-- `NCSI_init` -/
def boot (m : Machine) : Machine :=
  let package := hal.readPackageID m.calls
  let calls := .readPackageID package :: m.calls
  let channel := hal.readChannelID calls
  let calls := .readChannelID channel :: calls
  { m with
    engine := { m.engine with
      gLocalPackageId := package
      gLocalChannelId := channel
      state := m.engine.state.reset }
    calls := resetCalls hal calls ++ calls }

/-- `NCSI_reload` -/
def reload (resetPhy : ReloadType) (m : Machine) : Machine :=
  { m with
    engine := { m.engine with
      state := { m.engine.state with
        statNcsiRx := 0, statNcsiTx := 0, statNetRx := 0, statNetTx := 0 } }
    calls := .initPort resetPhy :: m.calls }

/-- `NCSI_SetComputeChecksum` -/
def setComputeChecksum (enable : Bool) (m : Machine) : Machine :=
  { m with engine := { m.engine with gNcsiComputeChecksum := enable } }

/-- `NCSI_handlePassthrough` -/
def pollPassthrough (m : Machine) : Machine :=
  let s := m.engine.state
  let moved := hal.passthroughRxPacket m.calls
  { m with
    engine := { m.engine with
      state := { s with
        statNetDropped :=
          if s.enabled && !moved then s.statNetDropped + 1 else s.statNetDropped } }
    calls := if s.enabled then .passthroughRxPacket moved :: m.calls else m.calls }

/-- `ncsi_passthrough_tx_from_mc` on a registered port: the frame is handed to the
    HAL, or nothing is. -/
def forward (sourceMac : RxPtr) (frame : List UInt8) (m : Machine) : Bool × Machine :=
  let s := m.engine.state
  let sent := s.forwards sourceMac && hal.txFrame m.calls frame
  (sent,
    { engine := { m.engine with
        state := { s with statNetTx := if sent then s.statNetTx + 1 else s.statNetTx } }
      calls := if s.forwards sourceMac then .txFrame frame sent :: m.calls else m.calls
      reads :=
        if s.txPassthroughEn then
          (filterReads sourceMac s.macFilters.toList).reverse ++ m.reads
        else m.reads })

/-- `ncsi_on_rx_frame` -/
def receive (mem : Nat → UInt8) (frameLen : Nat) (m : Machine) : Machine :=
  if frameLen < sizeofControlPacketHeader then m
  else
    let m := m.readAll [Header.etherType, Header.etherType + 1]
    if be16 (mem Header.etherType) (mem (Header.etherType + 1)) = etherTypeNcsi then
      m.handle hal mem
    else
      (m.forward hal ⟨mem, Header.sourceAddress⟩ ((RxPtr.ofFrame mem).take frameLen)).2

end Machine

/-! ## The engine's code computes them -/

section Runs

variable (hal : Hal) {m : Machine}

theorem resetChannel_run (h : m.engine.port0 = .gPort) :
    resetChannel hal m =
      .ok ((), { m with
        engine := { m.engine with state := m.engine.state.reset }
        calls := resetCalls hal m.calls ++ m.calls }) := by
  simp [resetChannel, h, miiGetPhy, miiReset, resetCalls, ChannelState.reset]

theorem ncsiInit_run (h : m.engine.port0 = .gPort) :
    ncsiInit hal m = .ok ((), m.boot hal) := by
  simp [ncsiInit, boardConfigReadPackageID, boardConfigReadChannelID, resetChannel_run, h,
    Machine.boot]

theorem ncsiReload_run (h : m.engine.port0 = .gPort) (resetPhy : ReloadType) :
    ncsiReload resetPhy m = .ok ((), m.reload resetPhy) := by
  simp [ncsiReload, reloadChannel, networkInitPort, h, Machine.reload]

theorem ncsiSetComputeChecksum_run (enable : Bool) :
    ncsiSetComputeChecksum enable m = .ok ((), m.setComputeChecksum enable) := by
  simp [ncsiSetComputeChecksum, Machine.setComputeChecksum]

theorem ncsiHandlePassthrough_run (h : m.engine.port0 = .gPort) :
    ncsiHandlePassthrough hal m = .ok ((), m.pollPassthrough hal) := by
  obtain ⟨⟨pkg, chan, flag, frame, sel, port, s⟩, calls, reads⟩ := m
  obtain rfl : port = .gPort := h
  obtain ⟨ready, enabled, tx⟩ := s
  cases enabled
  · simp [ncsiHandlePassthrough, Machine.pollPassthrough]
  · cases hmoved : hal.passthroughRxPacket calls <;>
      simp [ncsiHandlePassthrough, networkPassthroughRxPacket, Machine.pollPassthrough, hmoved]

theorem rd_byte_run (p : RxPtr) (i : Nat) (m : Machine) :
    p.rd i m = .ok (p.byte i, m.readAll [p.off + i]) := by rfl

theorem macMatches_run (sourceMac : RxPtr) (mac : List UInt8) :
    ∀ (b : Nat) (m : Machine), macMatches sourceMac mac b m =
      .ok (sameMac sourceMac mac b, m.readAll (macReads sourceMac mac b)) := by
  -- the loop stops at the first difference, and so do `sameMac` and `macReads`
  induction mac with
  | nil => intro b m; rfl
  | cons first mac ih =>
    intro b m
    by_cases hsame : first = sourceMac.byte b
    · simp [macMatches, rd_byte_run, ih, sameMac, macReads, hsame]
    · simp [macMatches, rd_byte_run, sameMac, macReads, hsame]

theorem sourceMatches_run (sourceMac : RxPtr) (filters : List MacFilter) :
    ∀ m : Machine, sourceMatches sourceMac filters m =
      .ok (filters.any (·.admits sourceMac), m.readAll (filterReads sourceMac filters)) := by
  -- the loop stops at the first filter that admits the address
  induction filters with
  | nil => intro m; rfl
  | cons filter filters ih =>
    intro m
    by_cases hlive : filter.enabled && filter.addressType == 0
    · -- the filter's bytes are compared
      have hskip : (!filter.enabled || filter.addressType != 0) = false := by
        simpa using hlive
      cases hsame : sameMac sourceMac filter.mac.toList 0 <;>
        simp [sourceMatches, hskip, macMatches_run, ih, filterReads, MacFilter.admits, hlive, hsame]
    · have hskip : (!filter.enabled || filter.addressType != 0) = true := by
        simpa [← Bool.not_eq_true, imp_iff_not_or] using hlive
      simp [sourceMatches, hskip, ih, filterReads, MacFilter.admits, hlive]

theorem ncsiPassthroughTxFromMc_run (h : m.engine.port0 = .gPort) (sourceMac frame : RxPtr)
    (frameLen : Nat) :
    ncsiPassthroughTxFromMc hal .gPort sourceMac frame frameLen m =
      .ok (m.forward hal sourceMac (frame.take frameLen)) := by
  obtain ⟨⟨pkg, chan, flag, frames, sel, port, s⟩, calls, reads⟩ := m
  obtain rfl : port = .gPort := h
  obtain ⟨ready, enabled, tx, vlan, mcId, aen, link, oem, broadcast, filters⟩ := s
  -- the switch first, then the filters, then the HAL
  cases tx
  · simp [ncsiPassthroughTxFromMc, Machine.forward, ChannelState.forwards]
  · cases hsource : filters.any (·.admits sourceMac)
    · simp [ncsiPassthroughTxFromMc, sourceMatches_run, Machine.forward, ChannelState.forwards,
        Machine.readAll, hsource]
    · cases hsent : hal.txFrame calls (frame.take frameLen) <;>
        simp [ncsiPassthroughTxFromMc, networkTxFrame, sourceMatches_run, Machine.forward,
          ChannelState.forwards, hsource, hsent]

theorem ncsiOnRxFrame_run (h : m.engine.port0 = .gPort) (mem : Nat → UInt8) (frameLen : Nat) :
    ncsiOnRxFrame hal mem frameLen m = .ok ((), m.receive hal mem frameLen) := by
  simp only [ncsiOnRxFrame, ite_run, bind_run, rd16_run, ok_bind, Machine.receive, pure_run]
  -- too short, control, pass-through
  split
  · rfl
  split
  · exact handleNCSIFrame_run hal mem h
  · rw [ncsiPassthroughTxFromMc_run hal (by simpa using h)]
    rfl

end Runs

end NcsiResponder
