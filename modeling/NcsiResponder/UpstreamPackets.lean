import NcsiResponder.UpstreamEngine

/-!
# Upstream's packets, byte by byte

The bit-fields that upstream reads a request header through are the bytes the port reads
(`header_eq`). Its responses are words of two half-words or four bytes each, and go out as
`wire`. The words of a plain answer, and of a link status, are the bytes of the port's frame
(`sentBytes_frameOf`).
-/

namespace NcsiResponder

open BigEndian BitFields

namespace Upstream

/-! ## The request header -/

section Header

variable (mem : ℕ → UInt8)

theorem header_eq : Header.channelID mem = mem NcsiResponder.Header.channelID ∧
    Header.controlPacketType mem = mem NcsiResponder.Header.controlPacketType ∧
    Header.instanceID mem = mem NcsiResponder.Header.instanceID := by
  obtain ⟨h₀, h₁, h₂⟩ := bitField_bytes (mem 16) (mem 17) (mem 18) (mem 19)
  simp only [Header.channelID, Header.controlPacketType, Header.instanceID, field]
  exact ⟨(congrArg UInt8.ofNat h₀).trans UInt8.ofNat_toNat,
    (congrArg UInt8.ofNat h₁).trans UInt8.ofNat_toNat,
    (congrArg UInt8.ofNat h₂).trans UInt8.ofNat_toNat⟩

theorem payloadLength_eq : Header.payloadLength mem = Request.payloadLength mem := by
  have hmask : (Request.payloadLength mem).toNat =
      (be16 (mem 20) (mem 21)).toNat % 2 ^ 12 := by
    rw [Request.payloadLength, UInt16.toNat_and]
    exact Nat.and_two_pow_sub_one_eq_mod _ 12
  have hfield := bitField_high12 (mem 20) (mem 21) (mem 22) (mem 23)
  rw [← hmask] at hfield
  rw [Header.payloadLength, field]
  exact (congrArg UInt16.ofNat hfield).trans UInt16.ofNat_toNat

theorem channel_eq : channel mem = Request.channel mem := by
  rw [channel, (header_eq mem).1, Request.channel]

/-- Under package 0, `ChannelID` is the channel. -/
theorem channel_of_package (h : Request.package mem = 0) :
    Request.channel mem = mem NcsiResponder.Header.channelID := by
  have hshift := congrArg UInt8.toNat h
  rw [Request.package, UInt8.toNat_shiftRight] at hshift
  have hsmall : (mem NcsiResponder.Header.channelID).toNat < 32 := by
    by_contra hlarge
    have hdiv : (mem NcsiResponder.Header.channelID).toNat / 32 = 0 := by
      rw [← Nat.shiftRight_eq_div_pow _ 5]
      exact hshift
    omega
  apply UInt8.toNat_inj.mp
  rw [Request.channel, UInt8.toNat_and]
  exact (Nat.and_two_pow_sub_one_eq_mod _ 5).trans (Nat.mod_eq_of_lt hsmall)

end Header

/-! ## Response words -/

theorem bytes32_octets (b₀ b₁ b₂ b₃ : UInt8) : bytes32 (octets b₀ b₁ b₂ b₃) = [b₃, b₂, b₁, b₀] := by
  obtain ⟨h₀, h₁, h₂, h₃⟩ := be32_bytes b₃ b₂ b₁ b₀
  rw [bytes32, octets, h₀, h₁, h₂, h₃]

theorem bytes32_halves (low high : UInt16) :
    bytes32 (halves low high) = bytes16 high ++ bytes16 low := by
  have hword : halves low high =
      be32 (high >>> 8).toUInt8 high.toUInt8 (low >>> 8).toUInt8 low.toUInt8 := by
    rw [halves, ← joinHalves_be16, be16_split, be16_split]
  obtain ⟨h₀, h₁, h₂, h₃⟩ :=
    be32_bytes (high >>> 8).toUInt8 high.toUInt8 (low >>> 8).toUInt8 low.toUInt8
  rw [bytes32, hword, h₀, h₁, h₂, h₃]
  rfl

/-- A value that is assigned in halves goes out in four bytes. -/
theorem bytes16_halves (v : UInt32) : bytes16 (highHalf v) ++ bytes16 (lowHalf v) = bytes32 v := by
  have hhigh : (highHalf v >>> 8).toUInt8 = (v >>> 24).toUInt8 := by
    apply UInt8.toNat_inj.mp
    simp only [highHalf, UInt16.toNat_toUInt8, UInt16.toNat_shiftRight, UInt32.toNat_toUInt16,
      UInt32.toNat_toUInt8, UInt32.toNat_shiftRight, Nat.shiftRight_eq_div_pow, UInt32.reduceToNat,
      UInt16.reduceToNat, Nat.reduceMod, Nat.reducePow]
    omega
  have hlow : (lowHalf v >>> 8).toUInt8 = (v >>> 8).toUInt8 := by
    apply UInt8.toNat_inj.mp
    simp only [lowHalf, UInt16.toNat_toUInt8, UInt16.toNat_shiftRight, UInt32.toNat_toUInt16,
      UInt32.toNat_toUInt8, UInt32.toNat_shiftRight, Nat.shiftRight_eq_div_pow, UInt32.reduceToNat,
      UInt16.reduceToNat, Nat.reduceMod, Nat.reducePow]
    omega
  have hends : (highHalf v).toUInt8 = (v >>> 16).toUInt8 ∧ (lowHalf v).toUInt8 = v.toUInt8 := by
    simp [highHalf, lowHalf]
  rw [bytes16, bytes16, bytes32, hhigh, hlow, hends.1, hends.2]
  rfl

theorem wire_append (front back : List UInt32) : wire (front ++ back) = wire front ++ wire back :=
  List.flatMap_append

theorem wire_cons (word : UInt32) (ws : List UInt32) :
    wire (word :: ws) = bytes32 word ++ wire ws := rfl

theorem wire_take (ws : List UInt32) : ∀ n, wire (ws.take n) = (wire ws).take (4 * n) := by
  induction ws with
  | nil => simp [wire]
  | cons word ws ih =>
    intro n
    cases n with
    | zero => rfl
    | succ n =>
      have hword : (bytes32 word).length ≤ 4 * (n + 1) := by
        rw [length_bytes32]
        omega
      rw [List.take_succ_cons, wire_cons, wire_cons, ih, List.take_append,
        List.take_of_length_le hword, length_bytes32, Nat.mul_add, Nat.add_sub_cancel]

theorem length_wire (ws : List UInt32) : (wire ws).length = 4 * ws.length := by
  induction ws with
  | nil => rfl
  | cons word ws ih =>
    rw [wire_cons, List.length_append, length_bytes32, ih, List.length_cons]
    omega

/-! ## Packets -/

section Board

variable (board : Board)

/-- A static frame when a response with these fields is sent. -/
def frameOf (w : ResponseFields) : ResponseFrame where
  channelID := w.channelID
  controlPacketType := w.controlPacketType
  instanceID := w.instanceID
  responseCode := w.responseCode
  reasonCode := w.reasonCode
  linkStatus := w.linkStatus
  oemLinkStatus := 0
  otherIndications := 0
  pciVendor := board.vendorID
  pciDevice := board.deviceID
  pciSubsystemVendor := board.subsystemVendorID
  pciSubsystemDevice := board.subsystemID

/-- The bytes of a static frame on the wire. -/
def sentBytes (v : FrameVar) (f : ResponseFrame) : List UInt8 :=
  (wire ((words board v f).take ((packetSize v + 3) / 4))).take (packetSize v)

/-- The bytes a reply is sent as. -/
def bytes (mem : ℕ → UInt8) (r : Reply) : List UInt8 :=
  sentBytes board r.frameVar (frameOf board (r.fields mem))

theorem sentBytes_eq (v : FrameVar) (f : ResponseFrame) :
    sentBytes board v f = (wire (words board v f)).take (packetSize v) := by
  have hsize : packetSize v ≤ 4 * ((packetSize v + 3) / 4) := by omega
  rw [sentBytes, wire_take, List.take_take, Nat.min_eq_left hsize]

theorem length_sentBytes (v : FrameVar) (f : ResponseFrame) :
    (sentBytes board v f).length = packetSize v := by
  have hlength : (words board v f).length = 19 := by cases v <;> rfl
  rw [sentBytes_eq, List.length_take, length_wire, hlength, Nat.min_eq_left]
  cases v <;> decide

/-- The words of a plain answer, or of a link status, are its header, the link status if it
    has one, and zeros. -/
theorem wire_words (v : FrameVar) (w : ResponseFields)
    (hshort : v = .gResponseFrame ∧ w.linkStatus = 0 ∨ v = .gLinkStatusResponseFrame) :
    wire (words board v (frameOf board w)) =
      v.header w ++ (bytes32 w.linkStatus ++ List.replicate 38 0) := by
  have hheader : wire (headerWords v (frameOf board w)) ++ bytes16 w.reasonCode = v.header w := by
    simp only [wire, headerWords, frameOf, List.flatMap_cons, List.flatMap_nil, bytes32_halves,
      bytes32_octets]
    cases v <;> rfl
  rw [← hheader, words, wire_append, wire_append]
  rcases hshort with ⟨rfl, hzero⟩ | rfl
  · rw [payloadWords, wire_cons, bytes32_halves, hzero]
    simp only [List.append_assoc]
    rfl
  · have hzeros : bytes16 (highHalf 0) ++ (wire [halves (highHalf 0) (lowHalf 0),
        halves 0 (lowHalf 0), halves 0 0] ++ wire (List.replicate 6 0)) = List.replicate 38 0 := by
      decide +kernel
    rw [payloadWords, wire_cons, wire_cons, bytes32_halves, bytes32_halves, ← bytes16_halves,
      ← hzeros]
    simp only [List.append_assoc]
    rfl

/-- The port's frame, cut in the same way. -/
theorem take_wire (v : FrameVar) (w : ResponseFields) (hchecksum : w.checksum = 0)
    (hshort : v = .gResponseFrame ∧ w.linkStatus = 0 ∨ v = .gLinkStatusResponseFrame) :
    (v.wire w).take v.packetSize = v.header w ++ (bytes32 w.linkStatus ++ List.replicate 22 0) := by
  rw [wire_header, FrameVar.trailer, hchecksum]
  rcases hshort with ⟨rfl, hzero⟩ | rfl
  · rw [hzero]
    rfl
  · rfl

/-- **Both engines send the same bytes** for a plain answer, and for the same link status. -/
theorem sentBytes_frameOf (v : FrameVar) (w : ResponseFields) (hchecksum : w.checksum = 0)
    (hshort : v = .gResponseFrame ∧ w.linkStatus = 0 ∨ v = .gLinkStatusResponseFrame) :
    sentBytes board v (frameOf board w) = (v.wire w).take v.packetSize := by
  have hsize : packetSize v = 60 := by
    rcases hshort with ⟨rfl, -⟩ | rfl <;> rfl
  rw [sentBytes_eq, wire_words board v w hshort, take_wire v w hchecksum hshort, hsize]
  rfl

end Board

end Upstream

end NcsiResponder
