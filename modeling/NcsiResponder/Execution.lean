import NcsiResponder.Commands

/-!
# The engine's code computes the closed form

One lemma per primitive step, builder and handler says what it does when run from
a machine with a registered port; `handleNCSIFrame_run` puts them together.
-/

namespace NcsiResponder

open BigEndian

/-! ## Primitive steps -/

section Primitives

variable {α β : Type} (m : Machine)

-- `by rfl` keeps these from being definitional `simp` lemmas: each step is then its own
-- rewrite, and the kernel need not run a whole handler to check it

@[simp] theorem bind_run (x : Fw α) (f : α → Fw β) :
    (x >>= f) m = (x m >>= fun p => f p.1 p.2) := by rfl

@[simp] theorem map_run (f : α → β) (x : Fw α) :
    (f <$> x) m = (x m >>= fun p => .ok (f p.1, p.2)) := by rfl

@[simp] theorem ite_run (c : Prop) [Decidable c] (x y : Fw α) :
    (if c then x else y) m = if c then x m else y m := by
  split <;> rfl

@[simp] theorem pure_run (a : α) : (pure a : Fw α) m = .ok (a, m) := by rfl

@[simp] theorem ok_bind (a : α) (f : α → Except Fault β) : (Except.ok a >>= f) = f a := by rfl

@[simp] theorem getEngine_run : getEngine m = .ok (m.engine, m) := by rfl

@[simp] theorem modifyEngine_run (f : Engine → Engine) :
    modifyEngine f m = .ok ((), { m with engine := f m.engine }) := by rfl

@[simp] theorem deref_run : deref .gPort m = .ok (m.engine.state, m) := by rfl

@[simp] theorem assign_run (f : ChannelState → ChannelState) :
    assign .gPort f m =
      .ok ((), { m with engine := { m.engine with state := f m.engine.state } }) := by rfl

@[simp] theorem halCall_run (answer : List HalCall → α) (entry : α → HalCall) :
    halCall answer entry m =
      .ok (answer m.calls, { m with calls := entry (answer m.calls) :: m.calls }) := by rfl

variable (mem : Nat → UInt8)

@[simp] theorem rd_run (i : Nat) :
    (RxPtr.ofFrame mem).rd i m = .ok (mem i, m.readAll [i]) := by
  simp only [RxPtr.rd, modifyGet, MonadStateOf.modifyGet, StateT.modifyGet, RxPtr.byte,
    RxPtr.ofFrame, Nat.zero_add]
  rfl

end Primitives

namespace Machine

variable (m : Machine) (is js : List Nat)

@[simp] theorem readAll_engine : (m.readAll is).engine = m.engine := rfl

@[simp] theorem readAll_calls : (m.readAll is).calls = m.calls := rfl

@[simp] theorem readAll_reads : (m.readAll is).reads = is.reverse ++ m.reads := rfl

@[simp] theorem readAll_readAll : (m.readAll is).readAll js = m.readAll (is ++ js) := by
  simp [readAll]

end Machine

@[simp] theorem rd16_run (mem : Nat → UInt8) (m : Machine) (i : Nat) :
    (RxPtr.ofFrame mem).rd16 i m = .ok (be16 (mem i) (mem (i + 1)), m.readAll [i, i + 1]) := by
  simp [RxPtr.rd16]

@[simp] theorem rd32_run (mem : Nat → UInt8) (m : Machine) (i : Nat) :
    (RxPtr.ofFrame mem).rd32 i m = .ok (Request.word mem i, m.readAll (List.range' i 4)) := by
  simp [RxPtr.rd32, Request.word, List.range'_succ]

/-! ## Builders -/

section Builders

variable (hal : Hal) {m : Machine}

/-- The checksum macro's offsets never wrap, so its loop leaves with the sum. -/
theorem computeChecksum_eq (f : NetworkFrame) (v : FrameVar) :
    f.computeChecksum (UInt32.ofNat Header.managmentControllerID)
      (v.checksum - UInt32.ofNat Header.managmentControllerID) v.checksum =
      some (f.checksummed v) := by
  have hsize : f.bytes.length = 74 := f.size_eq
  -- by frame: each has its own region
  cases v <;>
  · rw [NetworkFrame.computeChecksum, checksumWord_eq _ (by decide) (by rw [hsize]; decide)]
    rfl

theorem applyChecksumIfEnabled_run (v : FrameVar) :
    applyChecksumIfEnabled v m =
      let f := m.engine.frame v
      let f' := if m.engine.gNcsiComputeChecksum then f.checksummed v else f
      .ok ((), { m with
        engine := { m.engine with frame := Function.update m.engine.frame v f' } }) := by
  simp only [applyChecksumIfEnabled, bind_run, getEngine_run, ok_bind]
  split
  -- switched on, the loop of the checksum leaves
  · simp [computeChecksum_eq, modifyFrame]
  · simp

theorem ncsiTxPacket_run (h : m.engine.port0 = .gPort) (packet : List UInt8) (packetLen : Nat) :
    ncsiTxPacket hal packet packetLen m =
      let sent := hal.txFrame m.calls (packet.take packetLen)
      let s := m.engine.state
      .ok ((), { m with
        engine := { m.engine with
          state := { s with statNcsiTx := if sent then s.statNcsiTx + 1 else s.statNcsiTx } }
        calls := .txFrame (packet.take packetLen) sent :: m.calls }) := by
  cases hsent : hal.txFrame m.calls (packet.take packetLen)
  · -- not sent, not counted
    simp only [ncsiTxPacket, ncsiTxPacketInternal, networkTxFrame, bind_run, getEngine_run, ite_run,
      pure_run, halCall_run, ok_bind, h, hsent, reduceCtorEq, Bool.not_false, Bool.false_eq_true,
      if_true, if_false]
    rw [← h]
  · simp [ncsiTxPacket, ncsiTxPacketInternal, networkTxFrame, h, hsent]

/-- Fill a static frame in and send it, once the echoed bytes have been read. -/
theorem fillAndSend_run (h : m.engine.port0 = .gPort) (mem : Nat → UInt8) (r : Reply) :
    (do modifyFrame r.frameVar (r.fill mem); sendFrame hal r.frameVar : Fw Unit)
      (m.readAll r.reads) = .ok ((), m.respond hal mem r) := by
  simp only [modifyFrame, sendFrame, bind_run, modifyEngine_run, getEngine_run, ok_bind,
    Machine.readAll_engine, Machine.readAll_calls, Machine.readAll_reads, h,
    applyChecksumIfEnabled_run, ncsiTxPacket_run, Function.update_self, Function.update_idem,
    Machine.respond, Engine.outFrame, Engine.outBytes]
  rfl

theorem answer_run (h : m.engine.port0 = .gPort) (mem : Nat → UInt8) (rc reason : UInt16) :
    answer hal (.ofFrame mem) rc reason m = .ok ((), m.respond hal mem (.codes rc reason)) := by
  simp only [answer, bind_run, rd_run, ok_bind, Machine.readAll_readAll]
  exact fillAndSend_run hal h mem (.codes rc reason)

theorem getCapabilities_run (h : m.engine.port0 = .gPort) (mem : Nat → UInt8) :
    getCapabilities hal (.ofFrame mem) m = .ok ((), m.respond hal mem .capabilities) := by
  simp only [getCapabilities, answerPreset, bind_run, rd_run, ok_bind, Machine.readAll_readAll]
  exact fillAndSend_run hal h mem .capabilities

theorem getVersionID_run (h : m.engine.port0 = .gPort) (mem : Nat → UInt8) :
    getVersionID hal (.ofFrame mem) m = .ok ((), m.respond hal mem .version) := by
  simp only [getVersionID, answerPreset, bind_run, rd_run, ok_bind, Machine.readAll_readAll]
  exact fillAndSend_run hal h mem .version

theorem sendNCSILinkStatusResponse_run (h : m.engine.port0 = .gPort) (mem : Nat → UInt8)
    (word : UInt32) :
    sendNCSILinkStatusResponse hal (mem Header.instanceID) (mem Header.channelID) word 0 0
      (m.readAll [Header.instanceID, Header.channelID]) = .ok ((), m.respond hal mem (.linkStatus word)) :=
  fillAndSend_run hal h mem (.linkStatus word)

end Builders

/-! ## Handlers -/

section Handlers

variable (hal : Hal) (mem : Nat → UInt8) {m : Machine}

@[simp] theorem readChannel_run (m : Machine) :
    readChannel (.ofFrame mem) m = .ok (Request.channel mem, m.readAll [Header.channelID]) := by
  simp [readChannel, Request.channel]

@[simp] theorem readMac_run (m : Machine) :
    readMac ((RxPtr.ofFrame mem).add SetMACAddr.macAddress) m =
      .ok (Request.macAddress mem, m.readAll (List.range' SetMACAddr.macAddress 6)) := by rfl

theorem answerComplete_run (h : m.engine.port0 = .gPort) :
    answerComplete hal (.ofFrame mem) m =
      .ok ((), m.respond hal mem (.codes ResponseCode.commandComplete ReasonCode.none)) :=
  answer_run hal h mem _ _

theorem settingHandler_run (h : m.engine.port0 = .gPort) (set : ChannelState → ChannelState) :
    settingHandler hal set (.ofFrame mem) m =
      .ok ((), Machine.respond hal mem (.codes ResponseCode.commandComplete ReasonCode.none)
        { engine := { m.engine with state := set m.engine.state }
          calls := m.calls
          reads := Header.channelID :: m.reads }) := by
  simp [settingHandler, h, answerComplete_run]

-- the closed form unfolds at a concrete command
attribute [local simp] Command.fn Command.newState Command.newCalls Command.reads Command.reply
  Command.selects Machine.execute Machine.perform answerComplete_run settingHandler_run

theorem setMACAddressHandler_run (h : m.engine.port0 = .gPort) :
    setMACAddressHandler hal (.ofFrame mem) m =
      .ok ((), Machine.respond hal mem (.codes ResponseCode.commandComplete ReasonCode.none)
        { engine := { m.engine with state := m.engine.state.trackMac mem }
          calls := programCall mem :: m.calls
          reads := (Command.setMACAddress.reads mem).reverse ++ m.reads }) := by
  obtain ⟨⟨pkg, chan, flag, frame, sel, port, s⟩, calls, reads⟩ := m
  obtain rfl : port = .gPort := h
  by_cases hslot : (Request.slot mem).toNat < maxMacFilters
  · have hslot' : (reindexMacNumber (mem SetMACAddr.macNumber).toUInt32).toNat < 8 := hslot
    simp only [setMACAddressHandler, networkSetMACAddr, bind_run, rd_run, readChannel_run,
      getEngine_run, readMac_run, halCall_run, ite_run, ok_bind, Machine.readAll_engine,
      Machine.readAll_calls, Machine.readAll_reads, hslot', if_true, assign_run,
      answerComplete_run, Command.reads, hslot]
    rfl
  · -- the driver has been called, but there is no slot to write
    have hslot' : ¬ (reindexMacNumber (mem SetMACAddr.macNumber).toUInt32).toNat < 8 := hslot
    have htrack : s.trackMac mem = s := by
      simp [ChannelState.trackMac, Vector.setIfInBounds_eq_of_size_le (Nat.not_lt.mp hslot)]
    simp only [setMACAddressHandler, networkSetMACAddr, bind_run, rd_run, readChannel_run,
      getEngine_run, readMac_run, halCall_run, ite_run, ok_bind, Machine.readAll_engine,
      Machine.readAll_calls, Machine.readAll_reads, hslot', if_false, answerComplete_run, htrack,
      Command.reads, hslot, List.append_nil]
    rfl

theorem getLinkStatusHandler_run (h : m.engine.port0 = .gPort) :
    getLinkStatusHandler hal (.ofFrame mem) m =
      let s := m.engine.state.reportLink (linkReading hal m.calls)
      .ok ((), Machine.respond hal mem (.linkStatus s.linkStatus.word)
        { engine := { m.engine with state := s }
          calls := linkCalls hal m.engine.state.linkStatus.linkUp m.calls ++ m.calls
          reads := m.reads }) := by
  obtain ⟨⟨pkg, chan, flag, frame, sel, port, s⟩, calls, reads⟩ := m
  obtain rfl : port = .gPort := h
  let phyCalls := HalCall.getPhy (hal.getPhy calls) :: calls
  let reg := hal.readRegister phyCalls (hal.getPhy calls) regMiiBasicStatus
  let macLinkUp := hal.isLinkUp (.readRegister (hal.getPhy calls) regMiiBasicStatus reg :: phyCalls)
  by_cases hreg : 0 ≤ reg
  · -- the register was read: its link bit is reported and cached
    cases hup : bmsrLinkUp reg <;> cases hmac : macLinkUp <;>
      simp [getLinkStatusHandler, miiGetPhy, miiReadRegister, networkIsLinkUp, networkResetLink,
        linkReading, linkCalls, bmsr, ChannelState.reportLink, sendNCSILinkStatusResponse_run,
        hreg, hup, hmac, macLinkUp, reg, phyCalls]
  · -- it could not be read: the cached link bit is reported
    cases hup : s.linkStatus.linkUp <;> cases hmac : macLinkUp <;>
      simp [getLinkStatusHandler, miiGetPhy, miiReadRegister, networkIsLinkUp, networkResetLink,
        linkReading, linkCalls, bmsr, ChannelState.reportLink, sendNCSILinkStatusResponse_run,
        hreg, hup, hmac, macLinkUp, reg, phyCalls]

theorem fn_run (h : m.engine.port0 = .gPort) (hs : m.engine.selected = true) (c : Command) :
    c.fn hal (.ofFrame mem) m =
      .ok ((), m.execute hal mem c) := by
  -- one case per handler; the hypotheses become fields of the record, so that both sides
  -- compute
  obtain ⟨⟨pkg, chan, flag, frame, sel, port, s⟩, calls, reads⟩ := m
  obtain rfl : port = .gPort := h
  obtain rfl : sel = true := hs
  cases c with
  | clearInitialState => simp [clearInitialStateHandler]
  | selectPackage => simp [selectPackageHandler]
  | deselectPackage =>
    -- the package is deselected after the answer
    simp only [Command.fn, deselectPackageHandler, bind_run, answerComplete_run, modifyEngine_run,
      ok_bind]
    rfl
  | enableChannel => simp [enableChannelHandler, networkInitPort]
  | disableChannel => simp [disableChannelHandler]
  | resetChannel =>
    simp [resetChannelHandler, resetChannel, miiGetPhy, miiReset, ChannelState.reset, resetCalls]
  | enableChannelNetworkTX => simp [enableChannelNetworkTXHandler]
  | disableChannelNetworkTX => simp [disableChannelNetworkTXHandler]
  | aenEnable => simp [aenEnableHandler]
  | setLink => simp [setLinkHandler]
  | getLinkStatus => simp [getLinkStatusHandler_run]
  | setVLANFilter =>
    simp only [Command.fn, setVLANFilter, Bool.and_eq_true, bne_iff_ne, ne_eq, beq_iff_eq, bind_run,
      readChannel_run, rd16_run, rd_run, ite_run, ok_bind, Machine.readAll_readAll,
      List.cons_append, List.nil_append, Machine.execute, Command.reply, Request.vlanTagInvalid,
      Request.vlanID]
    split
    · exact answer_run hal rfl mem _ _
    · exact answerComplete_run hal mem rfl
  | enableVLAN => simp [enableVLANHandler]
  | disableVLAN => simp [disableVLANHandler]
  | setMACAddress => simp [setMACAddressHandler_run]
  | enableBroadcastFilter => simp [enableBroadcastFilteringHandler]
  | disableBroadcastFilter => simp [disableBroadcastFilteringHandler]
  | unsupported => simp [unknownHandler, answer_run]
  | getVersionID => simp [getVersionID_run]
  | getCapabilities => simp [getCapabilities_run]

end Handlers

/-! ## Dispatcher -/

section Dispatcher

variable (hal : Hal) (mem : Nat → UInt8) {m : Machine}

/-- The dispatcher does what `verdict` says, once it has looked the command up. -/
theorem dispatch_run (h : m.engine.port0 = .gPort) (c : Command) (len : Nat)
    (hlookup : lookup (Request.opcode mem) = some (c, len)) :
    dispatch hal (.ofFrame mem) (Request.channel mem) (Request.payloadLength mem)
      (toHandler hal (some (c, len))) (c.fn hal) m =
      .ok ((), m.conclude hal mem (verdict m.engine mem)) := by
  obtain ⟨⟨pkg, chan, flag, frame, sel, port, s⟩, calls, reads⟩ := m
  obtain rfl : port = .gPort := h
  simp only [dispatch, bind_run, getEngine_run, ok_bind, toHandler, verdict, hlookup, ite_run]
  -- wrong payload length
  split
  · exact answer_run hal rfl mem _ _
  -- a package command or Clear Initial State
  split
  · simp only [ne_eq, reduceCtorEq, not_false_eq_true, if_true, assign_run, ok_bind,
      modifyEngine_run]
    exact fn_run hal mem rfl rfl c
  -- a channel command sent to the whole package
  split
  · exact answer_run hal rfl mem _ _
  simp only [modifyEngine_run, ok_bind, deref_run]
  -- Initial State
  split
  · exact answer_run hal rfl mem _ _
  · simp only [assign_run, ok_bind]
    exact fn_run hal mem rfl rfl c

/-- The part of `handleNCSIFrame` for addressed frames, over the table of commands. -/
def lookupAndDispatch : Fw Unit :=
  match lookup (Request.opcode mem) with
  | some (c, len) =>
    dispatch hal (.ofFrame mem) (Request.channel mem) (Request.payloadLength mem)
      (toHandler hal (some (c, len))) (c.fn hal)
  | none => answer hal (.ofFrame mem) ResponseCode.commandUnsupported ReasonCode.unknownUnsupported

/-- The table lookup of `handleNCSIFrame`, with the dispatch of what it finds. -/
theorem lookupAndDispatch_eq :
    (match (gNCSIHandlers hal)[(mem Header.controlPacketType).toNat]? with
    | some handler =>
      match handler.fn with
      | some fn =>
        dispatch hal (.ofFrame mem) (Request.channel mem) (Request.payloadLength mem) handler fn
      | none =>
        answer hal (.ofFrame mem) ResponseCode.commandUnsupported ReasonCode.unknownUnsupported
    | none =>
      answer hal (.ofFrame mem) ResponseCode.commandUnsupported ReasonCode.unknownUnsupported) =
      lookupAndDispatch hal mem := by
  rw [gNCSIHandlers_eq, List.getElem?_map, lookupAndDispatch, lookup, Request.opcode]
  -- an opcode beyond the table, one in it without a handler, one with a handler
  rcases commandTable[(mem Header.controlPacketType).toNat]? with _ | _ | ⟨c, len⟩ <;> rfl

/-- The header first: a frame for another package is left after one byte, one for another
    channel after two. -/
theorem handleNCSIFrame_eq :
    handleNCSIFrame hal (.ofFrame mem) m =
      let read := m.readAll (Machine.headerReads m.engine mem)
      if m.engine.addressed mem then lookupAndDispatch hal mem read else .ok ((), read) := by
  simp only [handleNCSIFrame, bind_run, getEngine_run, ok_bind, rd_run, ite_run, readChannel_run,
    rd16_run, Machine.readAll_readAll, pure_run]
  have hif : mem Header.channelID >>> packageIdShift = Request.package mem := rfl
  rw [hif]
  by_cases hpackage : Request.package mem = m.engine.gLocalPackageId
  · rw [if_neg (not_not_intro hpackage)]
    by_cases hours : (Request.channel mem == channelIdPackage ||
        Request.channel mem == m.engine.gLocalChannelId) = true
    · have haddressed : m.engine.addressed mem = true := by simp [Engine.addressed, hpackage, hours]
      rw [if_neg (by simp [hours])]
      simp only [Machine.headerReads, hpackage, haddressed, ne_eq, not_true_eq_false, if_true,
        if_false]
      rw [← lookupAndDispatch_eq]
      rfl
    · have haddressed : m.engine.addressed mem = false := by
        simpa [Engine.addressed, hpackage] using hours
      rw [if_pos (by simpa using hours)]
      simp [Machine.headerReads, hpackage, haddressed]
  · have haddressed : m.engine.addressed mem = false := by simp [Engine.addressed, hpackage]
    rw [if_pos hpackage]
    simp [Machine.headerReads, hpackage, haddressed]

theorem lookupAndDispatch_run (h : m.engine.port0 = .gPort) :
    lookupAndDispatch hal mem m = .ok ((), m.conclude hal mem (verdict m.engine mem)) := by
  unfold lookupAndDispatch
  cases hlookup : lookup (Request.opcode mem) with
  | none =>
    rw [show verdict m.engine mem = _ by simp only [verdict, hlookup]; rfl]
    exact answer_run hal h mem _ _
  | some entry => exact dispatch_run hal mem h entry.1 entry.2 hlookup

/-- **The engine refines its closed form**: with a port registered, `handleNCSIFrame`
    never faults and does what `Machine.handle` says. -/
theorem handleNCSIFrame_run (h : m.engine.port0 = .gPort) :
    handleNCSIFrame hal (.ofFrame mem) m = .ok ((), m.handle hal mem) := by
  rw [handleNCSIFrame_eq, Machine.handle]
  dsimp only
  split
  · exact lookupAndDispatch_run hal mem h
  · rfl

end Dispatcher

end NcsiResponder
