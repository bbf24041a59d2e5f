import NcsiResponder.System

/-!
# The static response frames

The four frames are shared by all responses, and each builder writes only some of
their bytes. `FrameVar.wire` lays a frame out from the fields that ever change; a
machine is `Laid` when its four frames are laid out so, which every call preserves.
A response is then known byte by byte.
-/

namespace NcsiResponder

open BigEndian

/-! ## Layout -/

/-- The two bytes `ncsi_wr16` stores. -/
def bytes16 (v : UInt16) : List UInt8 := [(v >>> 8).toUInt8, v.toUInt8]

/-- The four bytes `ncsi_wr32` stores. -/
def bytes32 (v : UInt32) : List UInt8 :=
  [(v >>> 24).toUInt8, (v >>> 16).toUInt8, (v >>> 8).toUInt8, v.toUInt8]

theorem length_bytes32 (word : UInt32) : (bytes32 word).length = 4 := rfl

section Fields

variable {front rest p : List UInt8} {off n : Nat}

/-- A 32-bit field read where it was laid out. -/
theorem ncsiRd32_append (width : front.length = off) (word : UInt32) :
    ncsiRd32 (front ++ (bytes32 word ++ rest)) off = word := by
  subst width
  simp [ncsiRd32, bytes32, be32_split]

/-- A 32-bit field written where it was laid out. -/
theorem ncsiWr32_append (width : front.length = off) (word word' : UInt32) :
    ncsiWr32 (front ++ (bytes32 word ++ rest)) off word' = front ++ (bytes32 word' ++ rest) := by
  subst width
  simp [ncsiWr32, bytes32]

theorem ncsiRd32_take (h : off + 3 < n) : ncsiRd32 (p.take n) off = ncsiRd32 p off := by
  simp only [ncsiRd32, List.getD_eq_getElem?_getD]
  rw [List.getElem?_take_of_lt (by omega), List.getElem?_take_of_lt (by omega),
    List.getElem?_take_of_lt (by omega), List.getElem?_take_of_lt h]

theorem region_append {start len : Nat} (h : start + len ≤ front.length) :
    region (front ++ rest) start len = region front start len := by
  unfold region
  rw [List.drop_append_of_le_length (by omega),
    List.take_append_of_le_length (by rw [List.length_drop]; omega)]

end Fields

/-- The fields of the static frames that ever change. -/
structure ResponseFields where
  instanceID : UInt8
  controlPacketType : UInt8
  channelID : UInt8
  responseCode : UInt16
  reasonCode : UInt16
  linkStatus : UInt32
  checksum : UInt32

/-- The payload of a static frame between the codes and the checksum. -/
def FrameVar.payload (w : ResponseFields) : FrameVar → List UInt8
  | gResponseFrame => []
  | gLinkStatusResponseFrame => bytes32 w.linkStatus ++ List.replicate 8 0
  | gCapabilitiesFrame => capabilitiesPayload
  | gVersionFrame => versionPayload

/-- `PayloadLength` as the frame presets it. -/
def FrameVar.payloadLength : FrameVar → UInt8
  | gResponseFrame => 4
  | gLinkStatusResponseFrame => 16
  | gCapabilitiesFrame => 32
  | gVersionFrame => 40

/-- A static frame with these fields. -/
def FrameVar.wire (v : FrameVar) (w : ResponseFields) : List UInt8 :=
  List.replicate 12 0xFF ++ [etherTypeNcsiHi, etherTypeNcsiLo, 0, 1, 0] ++
    [w.instanceID, w.controlPacketType, w.channelID, 0, v.payloadLength] ++ List.replicate 8 0 ++
    bytes16 w.responseCode ++ bytes16 w.reasonCode ++ v.payload w ++ bytes32 w.checksum ++
    List.replicate (sizeofNetworkFrame - v.structSize) 0

/-- The bytes of a static frame in front of its payload. -/
def FrameVar.header (v : FrameVar) (w : ResponseFields) : List UInt8 :=
  List.replicate 12 0xFF ++ [etherTypeNcsiHi, etherTypeNcsiLo, 0, 1, 0] ++
    [w.instanceID, w.controlPacketType, w.channelID, 0, v.payloadLength] ++ List.replicate 8 0 ++
    bytes16 w.responseCode ++ bytes16 w.reasonCode

/-- The bytes of a static frame from its payload on. -/
def FrameVar.trailer (v : FrameVar) (w : ResponseFields) : List UInt8 :=
  v.payload w ++ bytes32 w.checksum ++ List.replicate (sizeofNetworkFrame - v.structSize) 0

theorem length_header (v : FrameVar) (w : ResponseFields) : (v.header w).length = 34 := rfl

theorem wire_header (v : FrameVar) (w : ResponseFields) : v.wire w = v.header w ++ v.trailer w := by
  simp only [FrameVar.wire, FrameVar.header, FrameVar.trailer, List.append_assoc]

/-- The payload holds the link status at most. -/
theorem trailer_congr {v : FrameVar} {w w' : ResponseFields} (hlink : w'.linkStatus = w.linkStatus)
    (hchecksum : w'.checksum = w.checksum) : v.trailer w' = v.trailer w := by
  rw [FrameVar.trailer, FrameVar.trailer, hchecksum]
  cases v with
  | gLinkStatusResponseFrame => rw [FrameVar.payload, FrameVar.payload, hlink]
  | _ => rfl

/-- What a static frame holds in front of its checksum field. -/
def FrameVar.front (v : FrameVar) (w : ResponseFields) : List UInt8 := v.header w ++ v.payload w

theorem length_front (v : FrameVar) (w : ResponseFields) :
    (v.front w).length = v.checksum.toNat := by
  cases v <;> rfl

theorem front_checksum (v : FrameVar) (w : ResponseFields) (word : UInt32) :
    v.front { w with checksum := word } = v.front w := by
  cases v <;> rfl

/-- A frame around its checksum field. -/
theorem wire_eq (v : FrameVar) (w : ResponseFields) :
    v.wire w = v.front w ++
      (bytes32 w.checksum ++ List.replicate (sizeofNetworkFrame - v.structSize) 0) := by
  rw [wire_header, FrameVar.trailer, FrameVar.front, List.append_assoc, List.append_assoc]

theorem wire_checksum (v : FrameVar) (w : ResponseFields) (word : UInt32) :
    v.wire { w with checksum := word } = v.front w ++
      (bytes32 word ++ List.replicate (sizeofNetworkFrame - v.structSize) 0) := by
  rw [wire_eq, front_checksum]

/-- The fields the frames are initialised with. -/
def ResponseFields.preset (v : FrameVar) : ResponseFields where
  instanceID := 0
  controlPacketType :=
    match v with
    | .gResponseFrame => 0
    | .gLinkStatusResponseFrame => ControlPacketType.response ||| ControlPacketType.getLinkStatus
    | .gCapabilitiesFrame => ControlPacketType.response ||| ControlPacketType.getCapabilities
    | .gVersionFrame => ControlPacketType.response ||| ControlPacketType.getVersionID
  channelID := 0
  responseCode := 0
  reasonCode := 0
  linkStatus := 0
  checksum := 0

theorem initialFrame_wire (v : FrameVar) : (initialFrame v).bytes = v.wire (.preset v) := by
  -- the presets of ncsi.c, byte by byte
  cases v <;> decide +kernel

/-- The fields after a reply has been filled in. -/
def ResponseFields.filled (w : ResponseFields) (mem : Nat → UInt8) (r : Reply) : ResponseFields :=
  { w with
    instanceID := mem Header.instanceID
    controlPacketType :=
      match r with
      | .linkStatus _ => w.controlPacketType
      | _ => mem Header.controlPacketType ||| ControlPacketType.response
    channelID := mem Header.channelID
    responseCode := r.responseCode
    reasonCode := r.reasonCode
    linkStatus :=
      match r with
      | .linkStatus word => word
      | _ => w.linkStatus }

/-- Only the link status frame holds a link status. -/
theorem wire_linkStatus (v : FrameVar) (w : ResponseFields) (hv : v ≠ .gLinkStatusResponseFrame)
    (word : UInt32) : v.wire { w with linkStatus := word } = v.wire w := by
  cases v with
  | gLinkStatusResponseFrame => exact absurd rfl hv
  | _ => rfl

section Wire

variable (v : FrameVar) (w : ResponseFields)

/-- A 32-bit field is assigned where it is laid out. -/
theorem wr32_wire {v : FrameVar} {w w' : ResponseFields} {f : NetworkFrame}
    {front rest : List UInt8} {off : Nat} {word word' : UInt32} (hf : f.bytes = v.wire w)
    (hw : v.wire w = front ++ (bytes32 word ++ rest)) (width : front.length = off)
    (hw' : v.wire w' = front ++ (bytes32 word' ++ rest)) :
    (f.wr32 off word').bytes = v.wire w' := by
  have hbytes : (f.wr32 off word').bytes = ncsiWr32 f.bytes off word' := rfl
  rw [hbytes, hf, hw, ncsiWr32_append width, hw']

theorem wr32_checksum_wire (f : NetworkFrame) (hf : f.bytes = v.wire w) (word : UInt32) :
    (f.wr32 v.checksum.toNat word).bytes = v.wire { w with checksum := word } :=
  wr32_wire hf (wire_eq v w) (length_front v w) (wire_checksum v w word)

theorem ncsiRd32_checksum_wire : ncsiRd32 (v.wire w) v.checksum.toNat = w.checksum := by
  rw [wire_eq]
  exact ncsiRd32_append (length_front v w) _

theorem ncsiRd32_checksum_take :
    ncsiRd32 ((v.wire w).take v.packetSize) v.checksum.toNat = w.checksum := by
  rw [ncsiRd32_take (by cases v <;> decide), ncsiRd32_checksum_wire]

/-- What a checksum covers lies in front of it. -/
theorem region_front :
    region (v.wire w) Header.managmentControllerID
      (v.checksum.toNat - Header.managmentControllerID) =
    region (v.front w) Header.managmentControllerID
      (v.checksum.toNat - Header.managmentControllerID) := by
  rw [wire_eq, region_append]
  rw [length_front]
  cases v <;> decide

/-- The region a checksum is computed over does not hold the checksum. -/
theorem region_wire (word : UInt32) :
    region (v.wire { w with checksum := word }) Header.managmentControllerID
      (v.checksum.toNat - Header.managmentControllerID) =
    region (v.wire w) Header.managmentControllerID
      (v.checksum.toNat - Header.managmentControllerID) := by
  rw [region_front, region_front, front_checksum]

theorem region_take :
    region ((v.wire w).take v.packetSize) Header.managmentControllerID
      (v.checksum.toNat - Header.managmentControllerID) =
    region (v.wire w) Header.managmentControllerID
      (v.checksum.toNat - Header.managmentControllerID) := by
  unfold region
  rw [List.drop_take, List.take_take, Nat.min_eq_left (by cases v <;> decide)]

/-- The header revision is among the bytes a checksum covers. -/
theorem one_mem_region_wire :
    1 ∈ region (v.wire w) Header.managmentControllerID
      (v.checksum.toNat - Header.managmentControllerID) := by
  have hlen : v.checksum.toNat - Header.managmentControllerID =
      v.checksum.toNat - Header.managmentControllerID - 2 + 2 := by
    cases v <;> rfl
  rw [hlen]
  simp [region, Header.managmentControllerID, FrameVar.wire, List.replicate_succ]

/-- A frame that is sent has the whole header. -/
theorem getElem?_header {i : Nat} (hi : i < 34) :
    ((v.wire w).take v.packetSize)[i]? = (v.header w)[i]? := by
  have hpacket : i < v.packetSize := Nat.lt_of_lt_of_le hi (by cases v <;> decide)
  rw [List.getElem?_take_of_lt hpacket, wire_header, List.getElem?_append_left hi]

theorem ncsiRd16_header {off : Nat} (hoff : off + 1 < 34) :
    ncsiRd16 ((v.wire w).take v.packetSize) off = ncsiRd16 (v.header w) off := by
  simp only [ncsiRd16, List.getD_eq_getElem?_getD]
  rw [getElem?_header v w (by omega), getElem?_header v w hoff]

theorem ncsiRd16_etherType_wire :
    ncsiRd16 ((v.wire w).take v.packetSize) Header.etherType = etherTypeNcsi := by
  rw [ncsiRd16_header v w (by decide)]
  change be16 etherTypeNcsiHi etherTypeNcsiLo = etherTypeNcsi
  decide

theorem ncsiRd16_payloadLength_wire :
    ncsiRd16 ((v.wire w).take v.packetSize) Header.payloadLength = v.payloadLength.toUInt16 := by
  rw [ncsiRd16_header v w (by decide)]
  change be16 0 v.payloadLength = v.payloadLength.toUInt16
  cases v <;> decide

theorem ncsiRd16_responseCode_wire :
    ncsiRd16 ((v.wire w).take v.packetSize) Response.responseCode = w.responseCode := by
  rw [ncsiRd16_header v w (by decide)]
  exact be16_split w.responseCode

theorem ncsiRd16_reasonCode_wire :
    ncsiRd16 ((v.wire w).take v.packetSize) Response.reasonCode = w.reasonCode := by
  rw [ncsiRd16_header v w (by decide)]
  exact be16_split w.reasonCode

/-! ### Assignments -/

variable {v w} {w' : ResponseFields} {f : NetworkFrame} {off : Nat}

/-- An assignment to a byte of the header. -/
theorem set8_header_wire (hf : f.bytes = v.wire w) (b : UInt8) (hoff : off < 34)
    (hset : (v.header w).set off b = v.header w') (htrailer : v.trailer w' = v.trailer w) :
    (f.set8 off b).bytes = v.wire w' := by
  have hbytes : (f.set8 off b).bytes = f.bytes.set off b := rfl
  rw [hbytes, hf, wire_header, wire_header, List.set_append_left _ _ (by rwa [length_header]), hset,
    htrailer]

/-- An assignment to two bytes of the header. -/
theorem wr16_header_wire (hf : f.bytes = v.wire w) (code : UInt16) (hoff : off + 1 < 34)
    (hset : ncsiWr16 (v.header w) off code = v.header w') (htrailer : v.trailer w' = v.trailer w) :
    (f.wr16 off code).bytes = v.wire w' := by
  have hbytes : (f.wr16 off code).bytes = ncsiWr16 f.bytes off code := rfl
  have hlen := length_header v w
  rw [hbytes, hf, wire_header, wire_header, ← hset, htrailer, ncsiWr16, ncsiWr16,
    List.set_append_left _ _ (by omega), List.set_append_left _ _ (by rw [List.length_set]; omega)]

theorem set8_channelID_wire (hf : f.bytes = v.wire w) (b : UInt8) :
    (f.set8 Header.channelID b).bytes = v.wire { w with channelID := b } :=
  set8_header_wire hf b (by decide) rfl (trailer_congr rfl rfl)

theorem set8_controlPacketType_wire (hf : f.bytes = v.wire w) (b : UInt8) :
    (f.set8 Header.controlPacketType b).bytes = v.wire { w with controlPacketType := b } :=
  set8_header_wire hf b (by decide) rfl (trailer_congr rfl rfl)

theorem set8_instanceID_wire (hf : f.bytes = v.wire w) (b : UInt8) :
    (f.set8 Header.instanceID b).bytes = v.wire { w with instanceID := b } :=
  set8_header_wire hf b (by decide) rfl (trailer_congr rfl rfl)

theorem wr16_responseCode_wire (hf : f.bytes = v.wire w) (code : UInt16) :
    (f.wr16 Response.responseCode code).bytes = v.wire { w with responseCode := code } :=
  wr16_header_wire hf code (by decide) rfl (trailer_congr rfl rfl)

theorem wr16_reasonCode_wire (hf : f.bytes = v.wire w) (code : UInt16) :
    (f.wr16 Response.reasonCode code).bytes = v.wire { w with reasonCode := code } :=
  wr16_header_wire hf code (by decide) rfl (trailer_congr rfl rfl)

/-- The link status frame word by word from its payload on. -/
theorem wire_linkPayload (w : ResponseFields) :
    FrameVar.gLinkStatusResponseFrame.wire w =
      FrameVar.gLinkStatusResponseFrame.header w ++ (bytes32 w.linkStatus ++ (bytes32 0 ++
        (bytes32 0 ++ (bytes32 w.checksum ++ List.replicate (sizeofNetworkFrame -
          FrameVar.gLinkStatusResponseFrame.structSize) 0)))) := by
  have hzero : List.replicate 8 (0 : UInt8) = bytes32 0 ++ bytes32 0 := by decide
  simp only [wire_header, FrameVar.trailer, FrameVar.payload, hzero, List.append_assoc]

theorem wr32_linkStatus_wire (hf : f.bytes = FrameVar.gLinkStatusResponseFrame.wire w)
    (word : UInt32) :
    (f.wr32 LinkStatusResponse.linkStatus word).bytes =
      FrameVar.gLinkStatusResponseFrame.wire { w with linkStatus := word } :=
  wr32_wire hf (wire_linkPayload w) (length_header _ w) (wire_linkPayload _)

theorem wr32_otherIndications_wire (hf : f.bytes = FrameVar.gLinkStatusResponseFrame.wire w) :
    (f.wr32 LinkStatusResponse.otherIndications 0).bytes =
      FrameVar.gLinkStatusResponseFrame.wire w := by
  have hw := wire_linkPayload w
  rw [← List.append_assoc] at hw
  exact wr32_wire hf hw rfl hw

theorem wr32_oemLinkStatus_wire (hf : f.bytes = FrameVar.gLinkStatusResponseFrame.wire w) :
    (f.wr32 LinkStatusResponse.oemLinkStatus 0).bytes =
      FrameVar.gLinkStatusResponseFrame.wire w := by
  have hw := wire_linkPayload w
  rw [← List.append_assoc, ← List.append_assoc] at hw
  exact wr32_wire hf hw rfl hw

/-- The builders of a preset payload. -/
theorem fillPreset_wire (mem : Nat → UInt8) (hf : f.bytes = v.wire w) :
    (Reply.fillPreset mem f).bytes = v.wire
      { w with
        channelID := mem Header.channelID
        controlPacketType := mem Header.controlPacketType ||| ControlPacketType.response
        instanceID := mem Header.instanceID
        responseCode := ResponseCode.commandComplete
        reasonCode := ReasonCode.none } := by
  have htype := set8_controlPacketType_wire (set8_channelID_wire hf (mem Header.channelID))
    (mem Header.controlPacketType ||| ControlPacketType.response)
  have hinstance := set8_instanceID_wire htype (mem Header.instanceID)
  exact wr16_reasonCode_wire (wr16_responseCode_wire hinstance _) _

/-- A builder turns a laid-out frame into a laid-out frame. -/
theorem fill_wire (mem : Nat → UInt8) (r : Reply) (w : ResponseFields) (f : NetworkFrame)
    (hf : f.bytes = r.frameVar.wire w) :
    (r.fill mem f).bytes = r.frameVar.wire (w.filled mem r) := by
  cases r with
  | codes rc reason =>
    -- the packet type is widened and cut again
    have hor : ((mem Header.controlPacketType).toUInt16 |||
        ControlPacketType.response.toUInt16).toUInt8 =
          mem Header.controlPacketType ||| ControlPacketType.response := by
      simp
    have htype := set8_controlPacketType_wire (set8_channelID_wire hf (mem Header.channelID))
      (mem Header.controlPacketType ||| ControlPacketType.response)
    have hinstance := set8_instanceID_wire htype (mem Header.instanceID)
    rw [Reply.fill, hor]
    exact wr16_reasonCode_wire (wr16_responseCode_wire hinstance rc) reason
  | linkStatus word =>
    have hchannel := set8_channelID_wire hf (mem Header.channelID)
    have hinstance := set8_instanceID_wire hchannel (mem Header.instanceID)
    have hcodes := wr16_reasonCode_wire (wr16_responseCode_wire hinstance
      ResponseCode.commandComplete) ReasonCode.none
    have hword := wr32_linkStatus_wire hcodes word
    exact wr32_otherIndications_wire (wr32_oemLinkStatus_wire hword)
  | capabilities => exact fillPreset_wire mem hf
  | version => exact fillPreset_wire mem hf

end Wire

/-! ## Laid-out machines -/

/-- The static frames differ from their preset contents in the fields only; the packet
    type of the link status frame stays preset. -/
def Engine.Laid (e : Engine) : Prop :=
  ∀ v, ∃ w : ResponseFields, (e.frame v).bytes = v.wire w ∧
    (v = .gLinkStatusResponseFrame →
      w.controlPacketType = ControlPacketType.response ||| ControlPacketType.getLinkStatus)

theorem Engine.laid_powerOn : Machine.registered.engine.Laid :=
  fun v => ⟨.preset v, initialFrame_wire v, by rintro rfl; rfl⟩

/-- The link status word of a reply. -/
def Reply.linkWord : Reply → UInt32
  | .linkStatus word => word
  | _ => 0

/-- The fields a reply is sent with, but for the checksum. -/
def Reply.fields (mem : Nat → UInt8) (r : Reply) : ResponseFields where
  instanceID := mem Header.instanceID
  controlPacketType := mem Header.controlPacketType ||| ControlPacketType.response
  channelID := mem Header.channelID
  responseCode := r.responseCode
  reasonCode := r.reasonCode
  linkStatus := r.linkWord
  checksum := 0

/-- A reply that is sent with this checksum field. -/
def Reply.wire (mem : Nat → UInt8) (r : Reply) (checksum : UInt32) : List UInt8 :=
  r.frameVar.wire { r.fields mem with checksum := checksum }

/-- The words a reply's checksum covers, added up. -/
def Reply.sum (mem : Nat → UInt8) (r : Reply) : UInt32 :=
  wordSum (region (r.wire mem 0) Header.managmentControllerID
    (r.frameVar.checksum.toNat - Header.managmentControllerID))

/-- The checksum field of a static frame. -/
def Engine.checksumField (e : Engine) (v : FrameVar) : UInt32 :=
  ncsiRd32 (e.frame v).bytes v.checksum.toNat

/-- The checksum field a reply is sent with: the computed one, or the one that is
    left in the frame from earlier. -/
def Engine.sentChecksum (e : Engine) (mem : Nat → UInt8) (r : Reply) : UInt32 :=
  if e.gNcsiComputeChecksum then 0 - r.sum mem else e.checksumField r.frameVar

/-- A reply is a Get Link Status response only to Get Link Status. -/
def Reply.Matches (mem : Nat → UInt8) : Reply → Prop
  | .linkStatus _ => Request.opcode mem = ControlPacketType.getLinkStatus
  | _ => True

theorem filled_wire (mem : Nat → UInt8) (r : Reply) (hr : r.Matches mem) (w : ResponseFields)
    (hw : r.frameVar = .gLinkStatusResponseFrame →
      w.controlPacketType = ControlPacketType.response ||| ControlPacketType.getLinkStatus) :
    r.frameVar.wire (w.filled mem r) = r.wire mem w.checksum := by
  -- the link status frame keeps the preset packet type, which is the right one
  cases r with
  | linkStatus word =>
    have htype : mem Header.controlPacketType ||| ControlPacketType.response =
        ControlPacketType.response ||| ControlPacketType.getLinkStatus := by
      rw [show mem Header.controlPacketType = _ from hr]
      decide
    have hfields : w.filled mem (.linkStatus word) =
        { (Reply.linkStatus word).fields mem with checksum := w.checksum } := by
      simp only [ResponseFields.filled, Reply.fields, Reply.linkWord, hw rfl, htype]
    rw [hfields, Reply.wire]
  | _ =>
    rw [Reply.wire, ← wire_linkStatus _ (w.filled mem _) (fun h => by cases h) 0]
    rfl

/-- **A response byte by byte**: the frame a reply is sent in. -/
theorem outFrame_wire {e : Engine} (hlaid : e.Laid) (mem : Nat → UInt8) (r : Reply)
    (hr : r.Matches mem) :
    (e.outFrame mem r).bytes = r.wire mem (e.sentChecksum mem r) := by
  -- the fields left by earlier responses; the builder overwrites all but the checksum
  obtain ⟨w, hw, htype⟩ := hlaid r.frameVar
  have hfill : (r.fill mem (e.frame r.frameVar)).bytes = r.wire mem w.checksum := by
    rw [fill_wire mem r w _ hw, filled_wire mem r hr w htype]
  rw [Engine.outFrame, Engine.sentChecksum]
  -- with the setting on the field is computed, with it off it stays
  split
  · rw [NetworkFrame.checksummed, wr32_checksum_wire _ _ _ hfill, hfill, Reply.wire, region_wire]
    simp only [Reply.wire, Reply.sum, region_wire]
  · rw [hfill, Engine.checksumField, hw, ncsiRd32_checksum_wire]

/-! ## Every call keeps the layout -/

/-- The dispatcher answers with the link status frame only for Get Link Status. -/
theorem reply_matches (e : Engine) (mem : Nat → UInt8) (s : ChannelState) :
    ((verdict e mem).reply mem s).Matches mem := by
  cases hverdict : verdict e mem with
  | refuse rc reason => trivial
  | uninitialized => trivial
  | run c =>
    have hlookup := (verdict_eq_run.mp hverdict).1
    cases c with
    | getLinkStatus => exact lookup_opcode hlookup (by decide)
    | setVLANFilter =>
      simp only [Verdict.reply, Command.reply]
      split <;> trivial
    | _ => trivial

theorem Engine.Laid.update {e : Engine} (hlaid : e.Laid) {mem : Nat → UInt8} {r : Reply}
    (hr : r.Matches mem) (v : FrameVar) :
    ∃ w : ResponseFields,
      (Function.update e.frame r.frameVar (e.outFrame mem r) v).bytes = v.wire w ∧
      (v = .gLinkStatusResponseFrame →
        w.controlPacketType = ControlPacketType.response ||| ControlPacketType.getLinkStatus) := by
  -- the frame that was sent is laid out anew, the others are as they were
  by_cases hv : v = r.frameVar
  · subst hv
    refine ⟨{ r.fields mem with checksum := e.sentChecksum mem r }, ?_, ?_⟩
    · rw [Function.update_self, outFrame_wire hlaid mem r hr, Reply.wire]
    · intro hlink
      cases r with
      | linkStatus word =>
        show mem Header.controlPacketType ||| ControlPacketType.response = _
        rw [show mem Header.controlPacketType = _ from hr]
        decide
      | _ => cases hlink
  · rw [Function.update_of_ne hv]
    exact hlaid v

section Hal

variable {hal : Hal} {m : Machine} {mem : Nat → UInt8}

theorem Machine.worked_laid (hlaid : m.engine.Laid) : (m.worked hal mem).engine.Laid := by
  rw [worked_fixed]
  exact hlaid

theorem Machine.answer_matches : (m.answer hal mem).Matches mem := reply_matches m.engine mem _

theorem Machine.act_laid (a : Action) (hlaid : m.engine.Laid) : (m.act hal a).engine.Laid := by
  -- only an answered control frame writes a static frame
  cases a with
  | control mem =>
    rw [act, handle_engine]
    split
    · have hframe : (m.worked hal mem).engine.frame = m.engine.frame := by rw [worked_fixed]
      intro v
      rw [conclude_engine, ← hframe]
      exact (worked_laid hlaid).update (reply_matches m.engine mem _) v
    · exact hlaid
  | _ => exact hlaid

/-- **Laid out in every run.** -/
theorem FwRun.laid {hist : List Call} (hrun : FwRun hal hist m) : m.engine.Laid :=
  hrun.engine_invariant Engine.Laid Engine.laid_powerOn fun _ a => Machine.act_laid a

/-- The bytes an answer goes out as, known one by one. -/
theorem Machine.answerBytes_eq (hlaid : m.engine.Laid) :
    m.answerBytes hal mem =
      ((m.answer hal mem).wire mem (m.engine.sentChecksum mem (m.answer hal mem))).take
        (m.answer hal mem).frameVar.packetSize := by
  rw [answerBytes, Engine.outBytes, outFrame_wire (worked_laid hlaid) mem _ answer_matches,
    worked_fixed]
  rfl

end Hal

end NcsiResponder
