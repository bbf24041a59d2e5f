import NcsiResponder.Behaviour
import NcsiResponder.UpstreamPackets

/-!
# The upstream engine in closed form

One lemma per handler says which driver calls it makes and which settings it leaves
(`Returns`), in the words of upstream's `Behaviour`. `handleNCSIFrame_returns` puts them
together behind what upstream decides about a frame.
-/

namespace NcsiResponder

/-! ## Upstream, one lemma a handler -/

namespace Upstream

section Board

variable (board : Board) (mem : ℕ → UInt8) (calls : List HalCall)

/-- The packet of a reply, with whether there is room for it in the FIFO. -/
def send (r : Reply) : HalCall :=
  .txFrame (bytes board mem r) (fifoReady board calls ((packetSize r.frameVar + 3) / 4))

/-- The register read of Get Link Status. -/
def auxiliaryReading : Int32 :=
  board.hal.readRegister (.getPhy (board.hal.getPhy calls) :: calls) (board.hal.getPhy calls)
    board.auxiliaryStatusSummary

def phyCalls : List HalCall :=
  [.readRegister (board.hal.getPhy calls) board.auxiliaryStatusSummary
      (auxiliaryReading board calls),
    .getPhy (board.hal.getPhy calls)]

/-- The link status that Get Link Status stores. -/
def newStatus (status : ChannelStatus) : ChannelStatus :=
  let reg := auxiliaryReading board calls
  let stat : AuxiliaryStatus :=
    if 0 ≤ reg then board.auxiliaryStatus reg.toUInt32.toUInt16
    else ⟨status.linkup, status.linkStatus, status.autonegotiationComplete⟩
  ⟨stat.linkStatus, stat.autoNegotiationHCD, true, stat.autoNegotiationComplete⟩

/-- The behaviour of upstream, after these calls and with this link status stored. -/
def behaviour (status : ChannelStatus) : Behaviour where
  payload := payload mem
  resetCalls := resetCalls board.hal calls
  phyCalls := phyCalls board calls
  macLinkUp := board.hal.isLinkUp (phyCalls board calls ++ calls)
  report := ⟨(newStatus board calls status).linkup, board.statusWord (newStatus board calls status)⟩
  sends new := send board mem (new ++ calls)

end Board

variable {board : Board} {u u₁ : Machine} {mem : ℕ → UInt8}

/-- A registered port, and the packet type of the link status frame as preset. -/
structure Machine.Sound (u : Machine) : Prop where
  port0 : u.port0 = .gPort
  linkType : (u.frame .gLinkStatusResponseFrame).controlPacketType =
    ControlPacketType.response ||| ControlPacketType.getLinkStatus

/-- The code returns, and this is its output. -/
def Returns (code : Up Unit) (u : Machine) (o : Output) : Prop :=
  ∃ u', code.run u = .ok ((), u') ∧ u'.Sound ∧ u'.calls = o.1 ++ u.calls ∧ u'.shared = o.2

/-- Code that goes on as other code, after some driver calls. -/
theorem Returns.of_run {code code' : Up Unit} {new newer : List HalCall} {s : Settings}
    (h : Returns code' u₁ (newer, s)) (hrun : code.run u = code'.run u₁)
    (hcalls : u₁.calls = new ++ u.calls) : Returns code u (newer ++ new, s) := by
  obtain ⟨u', hcode, hsound, hnewer, hs⟩ := h
  refine ⟨u', hrun.trans hcode, hsound, ?_, hs⟩
  rw [hnewer, hcalls, List.append_assoc]

/-- Code that goes on as other code without a driver call. -/
theorem Returns.of_quiet {code code' : Up Unit} {o : Output} (h : Returns code' u₁ o)
    (hrun : code.run u = code'.run u₁) (hcalls : u₁.calls = u.calls) : Returns code u o := by
  obtain ⟨u', hcode, hsound, hnew, hs⟩ := h
  exact ⟨u', hrun.trans hcode, hsound, hcalls ▸ hnew, hs⟩

theorem port_run (hu : u.port0 = .gPort) {ch : UInt8} (hch : ch = 0) :
    (port ch).run u = .ok (.gPort, u) := by
  subst hch
  simp [port, numChannels, hu]
  rfl

@[simp] theorem driverCall_run {α : Type} (answer : List HalCall → α) (entry : α → HalCall) :
    (driverCall answer entry).run u =
      .ok (answer u.calls, { u with calls := entry (answer u.calls) :: u.calls }) := rfl

theorem assignPort_run (hu : u.port0 = .gPort) {ch : UInt8} (hch : ch = 0)
    (f : ShmChannel → ShmChannel) :
    (do assignShm (← port ch) f : Up Unit).run u = .ok ((), { u with shm := f u.shm }) := by
  rw [StateT.run_bind, port_run hu hch]
  rfl

theorem ncsiTxPacket_run (hu : u.port0 = .gPort) (packet : List UInt32) (packetLen : ℕ) :
    (ncsiTxPacket board packet packetLen).run u =
      let packetWords := (packetLen + 3) / 4
      let sent := fifoReady board u.calls packetWords
      let s := u.shm
      .ok ((), { u with
        shm := { s with
          ncsiChannelNcsiTx := if sent then s.ncsiChannelNcsiTx + 1 else s.ncsiChannelNcsiTx }
        calls := .txFrame ((wire (packet.take packetWords)).take packetLen) sent :: u.calls }) := by
  rw [ncsiTxPacket, ncsiTxPacketInternal, StateT.run_bind, driverCall_run]
  cases hsent : fifoReady board u.calls ((packetLen + 3) / 4) with
  | false =>
    simp only [hsent]
    rfl
  | true =>
    let written : Machine := { u with
      calls := .txFrame ((wire (packet.take ((packetLen + 3) / 4))).take packetLen) true :: u.calls }
    have hport : written.port0 = .gPort := hu
    simp only [hsent, if_true]
    exact assignPort_run hport rfl fun s => { s with ncsiChannelNcsiTx := s.ncsiChannelNcsiTx + 1 }

/-- A builder that fills its frame in for a reply sends it and counts it. -/
theorem sendFrame_returns (board : Board) (hu : u.Sound) (r : Reply)
    (fill : ResponseFrame → ResponseFrame)
    (hlink : r.frameVar = .gLinkStatusResponseFrame →
      ∀ f, (fill f).controlPacketType = f.controlPacketType)
    (hfill : words board r.frameVar (fill (u.frame r.frameVar)) =
      words board r.frameVar (frameOf board (r.fields mem))) :
    Returns (do modifyFrame r.frameVar fill; sendFrame board r.frameVar) u
      ([send board mem u.calls r], u.shared) := by
  let filled : Machine := { u with
    frame := Function.update u.frame r.frameVar (fill (u.frame r.frameVar)) }
  have hport : filled.port0 = .gPort := hu.port0
  have htype : (filled.frame .gLinkStatusResponseFrame).controlPacketType =
      ControlPacketType.response ||| ControlPacketType.getLinkStatus := by
    by_cases hv : r.frameVar = .gLinkStatusResponseFrame
    · rw [← hu.linkType, ← hlink hv (u.frame .gLinkStatusResponseFrame)]
      simp [filled, hv]
    · rw [← hu.linkType]
      simp [filled, Function.update_of_ne (Ne.symm hv)]
  have hself : filled.frame r.frameVar = fill (u.frame r.frameVar) := Function.update_self ..
  have hrun : (do modifyFrame r.frameVar fill; sendFrame board r.frameVar : Up Unit).run u =
      (ncsiTxPacket board (words board r.frameVar (filled.frame r.frameVar))
        (packetSize r.frameVar)).run filled := rfl
  rw [hself, hfill] at hrun
  exact ⟨_, hrun.trans (ncsiTxPacket_run hport _ _), ⟨hport, htype⟩, rfl, rfl⟩

/-- A response that says no more than its codes. -/
theorem answer_returns (board : Board) (mem : ℕ → UInt8) (hu : u.Sound)
    (responseCode reasonCode : UInt16) :
    Returns (answer board mem responseCode reasonCode) u
      ([send board mem u.calls (.codes responseCode reasonCode)], u.shared) := by
  obtain ⟨hchannel, htype, hinstance⟩ := header_eq mem
  have hor : ((mem NcsiResponder.Header.controlPacketType).toUInt16 |||
      ControlPacketType.response.toUInt16).toUInt8 =
        mem NcsiResponder.Header.controlPacketType ||| ControlPacketType.response := by
    simp
  refine sendFrame_returns board hu (.codes responseCode reasonCode) (fun f =>
    { f with
      channelID := Header.channelID mem
      controlPacketType :=
        ((Header.controlPacketType mem).toUInt16 ||| ControlPacketType.response.toUInt16).toUInt8
      instanceID := Header.instanceID mem
      responseCode := responseCode
      reasonCode := reasonCode }) (by rintro ⟨⟩) ?_
  simp only [hchannel, htype, hinstance, hor]
  rfl

/-- The upstream handler behind a command: Disable Broadcast Filter has none. -/
def commandFn (board : Board) : Command → (ℕ → UInt8) → Up Unit
  | .clearInitialState => clearInitialStateHandler board
  | .selectPackage => selectPackageHandler board
  | .deselectPackage => deselectPackageHandler board
  | .enableChannel => enableChannelHandler board
  | .disableChannel => disableChannelHandler board
  | .resetChannel => resetChannelHandler board
  | .enableChannelNetworkTX => enableChannelNetworkTXHandler board
  | .disableChannelNetworkTX => disableChannelNetworkTXHandler board
  | .aenEnable => aenEnableHandler board
  | .setLink => setLinkHandler board
  | .getLinkStatus => getLinkStatusHandler board
  | .setVLANFilter => setVLANFilter board
  | .enableVLAN => enableVLANHandler board
  | .disableVLAN => disableVLANHandler board
  | .setMACAddress => setMACAddressHandler board
  | .enableBroadcastFilter => enableBroadcastFilteringHandler board
  | .disableBroadcastFilter | .unsupported => unknownHandler board
  | .getVersionID => getVersionID board
  | .getCapabilities => getCapabilities board

/-- The table of upstream is the port's, but for that handler. -/
def toHandler (board : Board) : Option (Command × ℕ) → NcsiHandler
  | some (c, len) => ⟨c.ignoreInit, c.packageCommand, len, some (commandFn board c)⟩
  | none => ⟨false, false, 0, none⟩

theorem gNCSIHandlers_eq (board : Board) :
    gNCSIHandlers board = commandTable.map (toHandler board) := rfl

/-- A handler that stores something and accepts the command. -/
theorem settingHandler_returns (board : Board) (hu : u.Sound) (hch : channel mem = 0)
    (set : ShmChannel → ShmChannel) :
    Returns (settingHandler board set mem) u
      ([send board mem u.calls (.codes ResponseCode.commandComplete ReasonCode.none)],
        (set u.shm).shared u.selected) := by
  let stored : Machine := { u with shm := set u.shm }
  have hsound : stored.Sound := ⟨hu.port0, hu.linkType⟩
  have hrun : (settingHandler board set mem).run u = (answerComplete board mem).run stored := by
    rw [settingHandler, StateT.run_bind, port_run hu.port0 hch]
    rfl
  exact (answer_returns board mem hsound _ _).of_quiet hrun rfl

theorem restoreLink_run (board : Board) (u : Machine) (up : Bool) :
    (restoreLink board up).run u =
      .ok ((), { u with calls := macCalls up (board.hal.isLinkUp u.calls) ++ u.calls }) := by
  cases up with
  | true => rfl
  | false =>
    have hrun : (restoreLink board false).run u =
        (if !(board.hal.isLinkUp u.calls) then driverCall (fun _ => ()) fun _ => .resetLink
          else pure () : Up Unit).run
          { u with calls := .isLinkUp (board.hal.isLinkUp u.calls) :: u.calls } := rfl
    cases hmac : board.hal.isLinkUp u.calls with
    | true =>
      rw [hrun, hmac]
      rfl
    | false =>
      rw [hrun, hmac]
      rfl

/-- Get Link Status asks the PHY, and the MAC if that has no link. -/
theorem getLinkStatus_returns (board : Board) (hu : u.Sound) (hch : channel mem = 0)
    (hopcode : Request.opcode mem = ControlPacketType.getLinkStatus) :
    Returns (getLinkStatusHandler board mem) u
      ((behaviour board mem u.calls u.shm.ncsiChannelStatus).completes u.shared
        .getLinkStatus) := by
  obtain ⟨hchannel, -, hinstance⟩ := header_eq mem
  let status := newStatus board u.calls u.shm.ncsiChannelStatus
  let asked : Machine := { u with calls := phyCalls board u.calls ++ u.calls }
  let new := macCalls status.linkup (board.hal.isLinkUp asked.calls)
  let report : Up Unit := do
    assignShm .gPort fun s => { s with ncsiChannelStatus := status }
    sendNCSILinkStatusResponse board (Header.instanceID mem) (Header.channelID mem)
      (board.statusWord status) 0 0
  let fill : ResponseFrame → ResponseFrame := fun f =>
    { f with
      channelID := Header.channelID mem
      instanceID := Header.instanceID mem
      responseCode := ResponseCode.commandComplete
      reasonCode := ReasonCode.none
      linkStatus := board.statusWord status
      oemLinkStatus := 0
      otherIndications := 0 }
  have hsteps : (getLinkStatusHandler board mem).run u =
      ((restoreLink board status.linkup).run asked >>= fun p => report.run p.2) := by
    rw [getLinkStatusHandler, StateT.run_bind, port_run hu.port0 hch]
    rfl
  rw [restoreLink_run board asked status.linkup] at hsteps
  let reported : Machine := { asked with
    shm := { u.shm with ncsiChannelStatus := status }
    calls := new ++ asked.calls }
  have hsound : reported.Sound := ⟨hu.port0, hu.linkType⟩
  -- the packet type is the preset one, which is the right one
  have htype : mem NcsiResponder.Header.controlPacketType ||| ControlPacketType.response =
      (u.frame .gLinkStatusResponseFrame).controlPacketType := by
    rw [hu.linkType, show mem NcsiResponder.Header.controlPacketType = _ from hopcode]
    decide
  have hfill : words board .gLinkStatusResponseFrame (fill (u.frame .gLinkStatusResponseFrame)) =
      words board .gLinkStatusResponseFrame
        (frameOf board ((Reply.linkStatus (board.statusWord status)).fields mem)) := by
    simp only [fill, frameOf, Reply.fields, htype, hchannel, hinstance]
    rfl
  have hsent := sendFrame_returns board hsound (.linkStatus (board.statusWord status)) fill
    (fun _ _ => rfl) hfill
  have hcalls : reported.calls = (new ++ phyCalls board u.calls) ++ u.calls :=
    (List.append_assoc ..).symm
  have hreturns := hsent.of_run hsteps hcalls
  rwa [hcalls] at hreturns

/-- The presets of a frame, when the channel is echoed. -/
theorem preset_eq (hecho : channel mem = mem NcsiResponder.Header.channelID) (f : ResponseFrame) :
    f.preset mem =
      { f with
        channelID := mem NcsiResponder.Header.channelID
        controlPacketType :=
          mem NcsiResponder.Header.controlPacketType ||| ControlPacketType.response
        instanceID := mem NcsiResponder.Header.instanceID
        responseCode := ResponseCode.commandComplete
        reasonCode := ReasonCode.none } := by
  obtain ⟨-, htype, hinstance⟩ := header_eq mem
  rw [ResponseFrame.preset, htype, hinstance, hecho]

/-- A handler on channel 0 completes its command. -/
theorem commandFn_returns (board : Board) (hu : u.Sound) {c : Command}
    (hpackage : Request.package mem = 0) (hopcode : Request.opcode mem = c.opcode)
    (hch : channel mem = 0 ∨ c.packageCommand = true) (hc : c ≠ .disableBroadcastFilter)
    (hknown : c ≠ .unsupported) :
    Returns (commandFn board c mem) u
      ((behaviour board mem u.calls u.shm.ncsiChannelStatus).completes u.shared c) := by
  have hchannel : c.packageCommand = false → channel mem = 0 := fun h =>
    hch.resolve_right (by simp [h])
  have hecho : channel mem = mem NcsiResponder.Header.channelID := by
    rw [channel_eq, channel_of_package mem hpackage]
  cases c with
  | disableBroadcastFilter => exact absurd rfl hc
  | unsupported => exact absurd rfl hknown
  | clearInitialState =>
    have hexists : clearInitialStateHandler board mem =
        settingHandler board (fun s => { s with ready := true }) mem :=
      if_pos (by rw [hchannel rfl]; decide)
    rw [commandFn, hexists]
    exact settingHandler_returns board hu (hchannel rfl) _
  | selectPackage =>
    let selected : Machine := { u with selected := true }
    have hsound : selected.Sound := ⟨hu.port0, hu.linkType⟩
    exact (answer_returns board mem hsound _ _).of_quiet rfl rfl
  | deselectPackage =>
    obtain ⟨u', hrun, hsound, hcalls, hs⟩ := answer_returns board mem hu
      ResponseCode.commandComplete ReasonCode.none
    refine ⟨{ u' with selected := false }, ?_, ⟨hsound.port0, hsound.linkType⟩, hcalls, ?_⟩
    · rw [commandFn, deselectPackageHandler, answerComplete, StateT.run_bind, hrun]
      rfl
    · exact congrArg (fun s : Settings => { s with selected := false }) hs
  | enableChannel =>
    let enabled : Machine := { u with
      shm := { u.shm with enabled := true }
      calls := [.initPort .asNeeded] ++ u.calls }
    have hsound : enabled.Sound := ⟨hu.port0, hu.linkType⟩
    refine (answer_returns board mem hsound _ _).of_run ?_ rfl
    rw [commandFn, enableChannelHandler, StateT.run_bind, port_run hu.port0 (hchannel rfl)]
    rfl
  | resetChannel =>
    let reset : Machine := { u with
      shm := { u.shm with
        ready := false
        enabled := false
        txPassthrough := false
        vlan := false
        ncsiChannelNcsiRx := 0
        ncsiChannelNcsiTx := 0
        ncsiChannelNetworkRx := 0
        ncsiChannelNetworkTx := 0 }
      calls := resetCalls board.hal u.calls ++ u.calls }
    have hsound : reset.Sound := ⟨hu.port0, hu.linkType⟩
    refine (answer_returns board mem hsound _ _).of_run ?_ rfl
    rw [commandFn, resetChannelHandler, StateT.run_bind, resetChannel, StateT.run_bind,
      port_run hu.port0 (hchannel rfl)]
    rfl
  | setMACAddress =>
    let p := payload mem
    let programmed : Machine := { u with
      calls := [.setMACAddr p.macHigh16 p.macLow32 p.index p.enable] ++ u.calls }
    have hsound : programmed.Sound := ⟨hu.port0, hu.linkType⟩
    refine (answer_returns board mem hsound _ _).of_run ?_ rfl
    rw [commandFn, setMACAddressHandler, StateT.run_bind, port_run hu.port0 (hchannel rfl)]
    rfl
  | getLinkStatus => exact getLinkStatus_returns board hu (hchannel rfl) hopcode
  | getVersionID =>
    let fill : ResponseFrame → ResponseFrame := fun f =>
      { f.preset mem with
        pciVendor := board.vendorID
        pciDevice := board.deviceID
        pciSubsystemVendor := board.subsystemVendorID
        pciSubsystemDevice := board.subsystemID }
    have hrun : (getVersionID board mem).run u =
        (do modifyFrame .gVersionFrame fill; sendFrame board .gVersionFrame : Up Unit).run u := by
      rw [getVersionID, StateT.run_bind, port_run hu.port0 (hchannel rfl)]
      rfl
    have hfill : words board .gVersionFrame (fill (u.frame .gVersionFrame)) =
        words board .gVersionFrame (frameOf board (Reply.version.fields mem)) := by
      simp only [fill, preset_eq hecho]
      rfl
    exact (sendFrame_returns board hu .version fill (by rintro ⟨⟩) hfill).of_quiet hrun rfl
  | getCapabilities =>
    refine sendFrame_returns board hu .capabilities (fun f => f.preset mem) (by rintro ⟨⟩) ?_
    simp only [preset_eq hecho]
    rfl
  | enableBroadcastFilter => exact answer_returns board mem hu _ _
  | _ => exact settingHandler_returns board hu (hchannel rfl) _

end Upstream

/-! ## Decisions -/

/-- What upstream decides. -/
def Upstream.decision (ready : Bool) (mem : ℕ → UInt8) : Decision :=
  if Request.package mem ≠ 0 then .silent false
  else
    match commandTable[(Request.opcode mem).toNat]? with
    | none => .fault
    | some none => .refuse ResponseCode.commandUnsupported ReasonCode.unknownUnsupported false
    | some (some (c, len)) =>
      if len ≠ (Request.payloadLength mem).toNat then
        .refuse ResponseCode.commandFailed ReasonCode.invalidPayloadLength false
      else if c.packageCommand && Request.channel mem == channelIdPackage then .complete c
      else if c.ignoreInit then
        if Request.channel mem = 0 then .complete c else .silent true
      else if Request.channel mem ≠ 0 then
        .refuse ResponseCode.commandFailed ReasonCode.invalidParam false
      else if ready = false then
        .refuse ResponseCode.commandFailed ReasonCode.initializationRequired true
      else if c = .unsupported ∨ c = .disableBroadcastFilter then
        .refuse ResponseCode.commandUnsupported ReasonCode.unknownUnsupported true
      else .complete c

namespace Upstream

variable {board : Board} {u u₁ : Machine} {mem : ℕ → UInt8}

theorem channel_lt_iff : numChannels ≤ (channel mem).toNat ↔ Request.channel mem ≠ 0 := by
  rw [channel_eq, numChannels, Nat.one_le_iff_ne_zero, ne_eq, ne_eq, ← UInt8.toNat_inj]
  rfl

/-- A machine between two steps of the dispatcher: nothing was called or stored yet, but the
    package may have been selected. -/
structure Machine.Dispatching (u : Machine) (s : Settings) (u₁ : Machine) : Prop where
  sound : u₁.Sound
  calls : u₁.calls = u.calls
  status : u₁.shm.ncsiChannelStatus = u.shm.ncsiChannelStatus
  shared : u₁.shared = s

theorem Machine.Dispatching.start (hu : u.Sound) : u.Dispatching u.shared u := ⟨hu, rfl, rfl, rfl⟩

/-- A frame is counted where there is a port to count it at. -/
theorem countRx_run {s : Settings} (h : u.Dispatching s u₁) (port₀ : PortPtr) :
    ∃ u₂, (countRx port₀).run u₁ = .ok ((), u₂) ∧ u.Dispatching s u₂ := by
  cases port₀ with
  | null => exact ⟨u₁, rfl, h⟩
  | gPort =>
    let counted : Machine := { u₁ with
      shm := { u₁.shm with ncsiChannelNcsiRx := u₁.shm.ncsiChannelNcsiRx + 1 } }
    exact ⟨counted, rfl, ⟨h.sound.port0, h.sound.linkType⟩, h.calls, h.status, h.shared⟩

/-- A frame that is counted, and then handed on. -/
theorem counted_returns {s : Settings} (h : u.Dispatching s u₁) (port₀ : PortPtr)
    {code : Up Unit} {o : Output} (hcode : ∀ u₂, u.Dispatching s u₂ → Returns code u₂ o) :
    Returns (do countRx port₀; code) u₁ o := by
  obtain ⟨u₂, hcount, h₂⟩ := countRx_run h port₀
  refine (hcode u₂ h₂).of_quiet ?_ (h₂.calls.trans h.calls.symm)
  rw [StateT.run_bind, hcount]
  rfl

/-- Selecting the package. -/
theorem Machine.Dispatching.select {s : Settings} (h : u.Dispatching s u₁) :
    u.Dispatching (s.select true) { u₁ with selected := true } := by
  obtain ⟨hsound, hcalls, hstatus, rfl⟩ := h
  exact ⟨⟨hsound.port0, hsound.linkType⟩, hcalls, hstatus, rfl⟩

theorem selected_returns {s : Settings} (h : u.Dispatching s u₁) {code : Up Unit} {o : Output}
    (hcode : ∀ u₂, u.Dispatching (s.select true) u₂ → Returns code u₂ o) :
    Returns (do modify fun u => { u with selected := true }; code) u₁ o :=
  (hcode _ h.select).of_quiet rfl rfl

/-- A known command of upstream, on the channel that exists. -/
theorem dispatched_returns (board : Board) {s : Settings} (h : u.Dispatching s u₁) {c : Command}
    (hpackage : Request.package mem = 0) {len : ℕ}
    (hlookup : lookup (Request.opcode mem) = some (c, len))
    (hch : channel mem = 0 ∨ c.packageCommand = true) :
    Returns (commandFn board c mem) u₁
      (let b := behaviour board mem u.calls u.shm.ncsiChannelStatus
      if c = .unsupported ∨ c = .disableBroadcastFilter then
        b.refuses s ResponseCode.commandUnsupported ReasonCode.unknownUnsupported
      else b.completes s c) := by
  obtain ⟨hsound, hcalls, hstatus, rfl⟩ := h
  rw [← hcalls, ← hstatus]
  dsimp only
  split
  · next hunknown =>
    rcases hunknown with rfl | rfl <;> exact answer_returns board mem hsound _ _
  · next hknown =>
    rw [not_or] at hknown
    exact commandFn_returns board hsound hpackage (lookup_opcode hlookup hknown.1) hch hknown.2
      hknown.1

/-- The branches of the dispatcher, for a command of the table. -/
theorem dispatch_returns (board : Board) (hu : u.Sound) {c : Command}
    (hpackage : Request.package mem = 0) {len : ℕ}
    (hentry : commandTable[(Request.opcode mem).toNat]? = some (some (c, len))) {o : Output}
    (ho : (behaviour board mem u.calls u.shm.ncsiChannelStatus).output u.shared
      (decision u.shm.ready mem) = some o)
    (port₀ : PortPtr) :
    Returns (dispatch board mem (channel mem) (Header.payloadLength mem) port₀
      (toHandler board (some (c, len))) (commandFn board c)) u o := by
  have hlookup : lookup (Request.opcode mem) = some (c, len) := by rw [lookup, hentry]; rfl
  have hstart : u.Dispatching u.shared u := .start hu
  simp only [decision, hpackage, hentry, ne_eq, not_true_eq_false, if_false] at ho
  simp only [dispatch, toHandler, payloadLength_eq, channel_eq, ne_eq]
  by_cases hlen : len = (Request.payloadLength mem).toNat
  swap
  · rw [if_pos hlen] at ho
    cases ho
    rw [if_pos hlen]
    exact answer_returns board mem hu _ _
  rw [if_neg (not_not.mpr hlen)] at ho
  rw [if_neg (not_not.mpr hlen)]
  by_cases hwide : (c.packageCommand && Request.channel mem == channelIdPackage) = true
  · rw [if_pos hwide] at ho
    cases ho
    rw [hwide, Bool.true_or, if_pos rfl]
    have hpackageCommand : c.packageCommand = true := (Bool.and_eq_true _ _ ▸ hwide).1
    refine counted_returns hstart port₀ fun u₁ h₁ => selected_returns h₁ fun u₂ h₂ => ?_
    have hreturns := dispatched_returns board h₂ hpackage hlookup (.inr hpackageCommand)
    rwa [if_neg (by rintro (rfl | rfl) <;> cases hpackageCommand)] at hreturns
  rw [if_neg hwide] at ho
  rw [Bool.not_eq_true] at hwide
  rw [hwide, Bool.false_or]
  by_cases hignore : c.ignoreInit = true
  · rw [if_pos hignore] at ho
    rw [if_pos hignore]
    have hclear : c = .clearInitialState := by cases c <;> first | rfl | cases hignore
    subst hclear
    refine counted_returns hstart port₀ fun u₁ h₁ => selected_returns h₁ fun u₂ h₂ => ?_
    -- a channel that does not exist is not answered
    by_cases hch : Request.channel mem = 0
    · rw [if_pos hch] at ho
      cases ho
      exact dispatched_returns board h₂ hpackage hlookup (.inl ((channel_eq mem).trans hch))
    · rw [if_neg hch] at ho
      cases ho
      have hnone : clearInitialStateHandler board mem = pure () :=
        if_neg (by rw [Nat.not_lt]; exact channel_lt_iff.mpr hch)
      exact ⟨u₂, congrArg (fun code => code.run u₂) hnone, h₂.sound, rfl, h₂.shared⟩
  rw [if_neg hignore] at ho
  rw [if_neg hignore]
  by_cases hch : Request.channel mem = 0
  swap
  · rw [if_pos hch] at ho
    cases ho
    rw [if_pos (by rw [← channel_eq]; exact channel_lt_iff.mpr hch)]
    exact answer_returns board mem hu _ _
  rw [if_neg (not_not.mpr hch)] at ho
  rw [if_neg (by rw [← channel_eq]; exact fun h => channel_lt_iff.mp h hch)]
  refine selected_returns hstart fun u₁ h₁ => ?_
  have hready : u₁.shm.ready = u.shm.ready := congrArg Settings.ready h₁.shared
  have hcode : (do
      let s ← derefShm (← port (Request.channel mem))
      if s.ready = false then
        answer board mem ResponseCode.commandFailed ReasonCode.initializationRequired
      else do
        countRx port₀
        commandFn board c mem : Up Unit).run u₁ =
      (if u.shm.ready = false then
        answer board mem ResponseCode.commandFailed ReasonCode.initializationRequired
      else do
        countRx port₀
        commandFn board c mem : Up Unit).run u₁ := by
    rw [StateT.run_bind, port_run h₁.sound.port0 hch, ← hready]
    rfl
  refine Returns.of_quiet ?_ hcode rfl
  by_cases hinitial : u.shm.ready = false
  · rw [if_pos hinitial] at ho
    cases ho
    rw [if_pos hinitial]
    have hanswer := answer_returns board mem h₁.sound ResponseCode.commandFailed
      ReasonCode.initializationRequired
    rwa [h₁.calls, h₁.shared] at hanswer
  rw [if_neg hinitial] at ho
  rw [if_neg hinitial]
  refine counted_returns h₁ port₀ fun u₂ h₂ => ?_
  have hreturns := dispatched_returns board h₂ hpackage hlookup
    (.inl ((channel_eq mem).trans hch))
  by_cases hunknown : c = .unsupported ∨ c = .disableBroadcastFilter
  · rw [if_pos hunknown] at ho hreturns
    cases ho
    exact hreturns
  · rw [if_neg hunknown] at ho hreturns
    cases ho
    exact hreturns

/-- A frame is handed on with the port of its channel, or with none. -/
theorem ported_returns (hu : u.Sound) {code : PortPtr → Up Unit} {o : Output}
    (h : ∀ port₀, Returns (code port₀) u o) :
    Returns
      (if numChannels ≤ (channel mem).toNat then do
        let port₀ ← pure .null
        code port₀
      else do
        let port₀ ← port (channel mem)
        code port₀) u o := by
  split
  · exact h .null
  · next hch =>
    have hzero : channel mem = 0 := by
      rw [channel_eq]
      exact not_not.mp (channel_lt_iff.not.mp hch)
    refine (h .gPort).of_quiet ?_ rfl
    rw [StateT.run_bind, port_run hu.port0 hzero]
    rfl

/-- Upstream reads past the end of its table exactly for the opcodes it has no entry for. -/
theorem decision_eq_fault_iff {ready : Bool} : decision ready mem = .fault ↔
    Request.package mem = 0 ∧ commandTable[(Request.opcode mem).toNat]? = none := by
  unfold decision
  by_cases hpackage : Request.package mem = 0
  swap
  · simp [hpackage]
  rw [if_neg (not_not.mpr hpackage)]
  cases hentry : commandTable[(Request.opcode mem).toNat]? with
  | none => simp [hpackage]
  | some entry =>
    refine iff_of_false ?_ (by simp)
    cases entry with
    | none => rintro ⟨⟩
    | some p =>
      obtain ⟨c, len⟩ := p
      dsimp only
      repeat' split
      all_goals rintro ⟨⟩

/-- **Upstream in closed form**: it faults where the table is read past its end, and else its
    output is what it decides. -/
theorem handleNCSIFrame_returns (board : Board) (mem : ℕ → UInt8) (hu : u.Sound) :
    match (behaviour board mem u.calls u.shm.ncsiChannelStatus).output u.shared
      (decision u.shm.ready mem) with
    | none => (handleNCSIFrame board mem).run u = .error .outOfBounds
    | some o => Returns (handleNCSIFrame board mem) u o := by
  obtain ⟨hchannel, htype, -⟩ := header_eq mem
  have htable : (gNCSIHandlers board)[(mem NcsiResponder.Header.controlPacketType).toNat]? =
      commandTable[(Request.opcode mem).toNat]?.map (toHandler board) := by
    rw [gNCSIHandlers_eq, List.getElem?_map]
    rfl
  simp only [handleNCSIFrame, hchannel, htype, htable]
  by_cases hpackage : Request.package mem = 0
  swap
  · rw [decision, if_pos hpackage]
    have hignored : mem NcsiResponder.Header.channelID >>> packageIdShift ≠ 0 := hpackage
    rw [if_pos hignored]
    exact ⟨u, rfl, hu, rfl, rfl⟩
  have hours : ¬ mem NcsiResponder.Header.channelID >>> packageIdShift ≠ 0 := not_not.mpr hpackage
  rw [if_neg hours]
  cases ho : (behaviour board mem u.calls u.shm.ncsiChannelStatus).output u.shared
    (decision u.shm.ready mem) with
  | none =>
    obtain ⟨-, hentry⟩ := decision_eq_fault_iff.mp (output_eq_none_iff.mp ho)
    rw [hentry]
    rfl
  | some o =>
    cases hentry : commandTable[(Request.opcode mem).toNat]? with
    | none =>
      have hfault : decision u.shm.ready mem = .fault :=
        decision_eq_fault_iff.mpr ⟨hpackage, hentry⟩
      cases ho.symm.trans (output_eq_none_iff.mpr hfault)
    | some entry =>
      refine ported_returns hu fun port₀ => ?_
      cases entry with
      | some p => exact dispatch_returns board hu hpackage hentry ho port₀
      | none =>
        rw [decision, if_neg (not_not.mpr hpackage), hentry] at ho
        cases ho
        exact answer_returns board mem hu _ _

/-! ## The other entry points -/

theorem ncsiInit_returns (board : Board) (hu : u.Sound) :
    Returns (ncsiInit board) u (resetCalls board.hal u.calls, u.shared.reset) := by
  let reset : Machine := { u with
    shm := { u.shm with
      ready := false
      enabled := false
      txPassthrough := false
      vlan := false
      ncsiChannelNcsiRx := 0
      ncsiChannelNcsiTx := 0
      ncsiChannelNetworkRx := 0
      ncsiChannelNetworkTx := 0 }
    calls := resetCalls board.hal u.calls ++ u.calls }
  refine ⟨reset, ?_, ⟨hu.port0, hu.linkType⟩, rfl, rfl⟩
  rw [ncsiInit, resetChannel, StateT.run_bind, port_run hu.port0 rfl]
  rfl

/-- A reload programs the address that it finds in shared memory. -/
theorem ncsiReload_returns (hu : u.Sound) (resetPhy : ReloadType) : ∃ macHigh16 macLow32,
    Returns (ncsiReload resetPhy) u
      ([.initPort resetPhy, .setMACAddr macHigh16 macLow32 0 true], u.shared) := by
  let low := u.shm.ncsiChannelMac0Mid <<< 16 ||| u.shm.ncsiChannelMac0Low
  let high := u.shm.ncsiChannelMac0High.toUInt16
  let reloaded : Machine := { u with
    shm := { u.shm with
      ncsiChannelNcsiRx := 0
      ncsiChannelNcsiTx := 0
      ncsiChannelNetworkRx := 0
      ncsiChannelNetworkTx := 0 }
    calls := [.initPort resetPhy, .setMACAddr high low 0 true] ++ u.calls }
  refine ⟨high, low, reloaded, ?_, ⟨hu.port0, hu.linkType⟩, rfl, rfl⟩
  rw [ncsiReload, reloadChannel, StateT.run_bind, port_run hu.port0 rfl]
  rfl

/-- The part of `NCSI_handlePassthrough` behind its test. -/
def pollPassthrough (board : Board) : Up Unit := do
  if !(← driverCall board.hal.passthroughRxPacket .passthroughRxPacket) then
    assignShm .gPort fun s =>
      { s with ncsiChannelNetworkDropped := s.ncsiChannelNetworkDropped + 1 }

/-- Upstream polls once the channel is ready, enabled or not. -/
theorem ncsiHandlePassthrough_returns (board : Board) (hu : u.Sound) :
    Returns (ncsiHandlePassthrough board) u
      (if u.shm.ready then [.passthroughRxPacket (board.hal.passthroughRxPacket u.calls)] else [],
        u.shared) := by
  have hrun : (ncsiHandlePassthrough board).run u =
      (if u.shm.ready then pollPassthrough board else pure ()).run u := by
    rw [ncsiHandlePassthrough, StateT.run_bind, port_run hu.port0 rfl]
    rfl
  let polled (moved : Bool) : Machine := { u with calls := [.passthroughRxPacket moved] ++ u.calls }
  have hsound (moved : Bool) : (polled moved).Sound := ⟨hu.port0, hu.linkType⟩
  cases hready : u.shm.ready with
  | false => exact ⟨u, by rw [hrun, hready]; rfl, hu, rfl, rfl⟩
  | true =>
    rw [hready, if_pos rfl] at hrun
    cases hmoved : board.hal.passthroughRxPacket u.calls with
    | true =>
      refine ⟨polled true, ?_, hsound true, rfl, rfl⟩
      rw [hrun, pollPassthrough, StateT.run_bind, driverCall_run, hmoved]
      rfl
    | false =>
      let dropped : Machine := { polled false with
        shm := { u.shm with ncsiChannelNetworkDropped := u.shm.ncsiChannelNetworkDropped + 1 } }
      refine ⟨dropped, ?_, ⟨hu.port0, hu.linkType⟩, rfl, rfl⟩
      rw [hrun, pollPassthrough, StateT.run_bind, driverCall_run, hmoved]
      rfl

end Upstream

end NcsiResponder
