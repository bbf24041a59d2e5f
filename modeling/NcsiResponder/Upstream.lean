import NcsiResponder.Lib.BitFields
import NcsiResponder.System

/-!
# Payloads as the upstream engine reads them

The engine this one was ported from reads a request as big-endian 32-bit words with
bit-fields allocated from the least significant bit. Its layouts (Ethernet.h under
third_party) and the byte layouts of this port agree for Set Link and AEN Enable, but
mirror the `MACInfo` byte of Set MAC Address (`decode_eq_iff`).
-/

namespace NcsiResponder

open BigEndian BitFields

/-- What a request asks for. -/
inductive Decoding where
  | setMACAddr (mac : Vector UInt8 6) (macNumber enable addressType : Nat)
  | setLink (linkSettings oemLinkSettings : UInt32)
  | aenEnable (aenControl : UInt32)
  deriving DecidableEq

/-- What the handlers take from a payload, but for `AEN_MC_ID` of AEN Enable: the port reads that
    at byte 33, upstream at byte 31. -/
def decode (mem : Nat → UInt8) : Command → Option Decoding
  | .setMACAddress =>
    some (.setMACAddr (Request.macAddress mem) (mem SetMACAddr.macNumber).toNat
      (setmacEnable (mem SetMACAddr.macInfo)).toNat (setmacAT (mem SetMACAddr.macInfo)).toNat)
  | .setLink =>
    some (.setLink (Request.word mem SetLink.linkSettings)
      (Request.word mem SetLink.oemLinkSettings))
  | .aenEnable => some (.aenEnable (Request.word mem AENEnable.aenControl))
  | _ => none

/-- What a decoded request does to the channel state. -/
def Decoding.apply (s : ChannelState) : Decoding → ChannelState
  | setMACAddr mac macNumber enable addressType =>
    let filter := { enabled := enable != 0, addressType := UInt8.ofNat addressType, mac := mac }
    { s with macFilters := s.macFilters.setIfInBounds (macNumber - 1) filter }
  | setLink linkSettings oemLinkSettings =>
    { s with linkSettings := linkSettings, oemLinkSettings := oemLinkSettings }
  | aenEnable aenControl => { s with aenControl := aenControl }

/-- The driver calls of a decoded request. -/
def Decoding.calls : Decoding → List HalCall
  | setMACAddr mac macNumber enable _ =>
    [.setMACAddr (macHigh16 mac) (macLow32 mac) (UInt32.ofNat (macNumber - 1)) (enable != 0)]
  | _ => []

/-- The handlers do what the payload decodes to; AEN Enable stores its controller ID too. -/
theorem decode_handled {hal : Hal} {mem : Nat → UInt8} {c : Command} {d : Decoding}
    (hd : decode mem c = some d) (calls : List HalCall) (s : ChannelState) :
    { c.newState hal mem calls s with aenMcId := s.aenMcId } = d.apply s ∧
      c.newCalls hal mem s calls = d.calls := by
  cases c with
  | setMACAddress =>
    obtain rfl := Option.some.inj hd
    -- the handler tests the enable bit as a byte, the decoding has it as a number
    have henable : Request.macEnable mem =
        ((setmacEnable (mem SetMACAddr.macInfo)).toNat != 0) := by
      rw [Request.macEnable, Bool.eq_iff_iff, bne_iff_ne, bne_iff_ne, ne_eq, ne_eq,
        ← UInt8.toNat_inj]
      rfl
    have hslot : UInt32.ofNat ((mem SetMACAddr.macNumber).toNat - 1) = Request.slot mem := by
      rw [← Request.slot_toNat, UInt32.ofNat_toNat]
    constructor
    · simp only [Decoding.apply, Command.newState, ChannelState.trackMac, Request.macFilter,
        Request.slot_toNat, henable, UInt8.ofNat_toNat]
    · simp only [Decoding.calls, Command.newCalls, programCall, hslot, henable]
  | setLink | aenEnable =>
    obtain rfl := Option.some.inj hd
    exact ⟨rfl, rfl⟩
  | _ => cases hd

/-! ## Upstream -/

namespace Upstream

variable (mem : Nat → UInt8)

/-- Bit-field `k` of the word at byte `off`, of a word with these fields. -/
def field (off : Nat) (widths : List Nat) (k : Nat) : Nat :=
  bitField widths k (Request.word mem off).toNat

namespace SetMACAddr

-- Byte 28 - 31: MAC54:16, headerPadding:16
def mac54 : Nat := field mem 28 [16, 16] 0

-- Bytes 32 - 35: MAC10:16, MAC32:16
def mac10 : Nat := field mem 32 [16, 16] 0
def mac32 : Nat := field mem 32 [16, 16] 1

-- Bytes 36 - 39: pad:16, Enable:1, Rsvd:4, AT:3, MACNumber:8
def enable : Nat := field mem 36 [16, 1, 4, 3, 8] 1
def at_ : Nat := field mem 36 [16, 1, 4, 3, 8] 3
def macNumber : Nat := field mem 36 [16, 1, 4, 3, 8] 4

/-- The address bytes, most significant first. -/
def mac : Vector UInt8 6 :=
  #v[UInt8.ofNat (mac54 mem / 256), UInt8.ofNat (mac54 mem), UInt8.ofNat (mac32 mem / 256),
    UInt8.ofNat (mac32 mem), UInt8.ofNat (mac10 mem / 256), UInt8.ofNat (mac10 mem)]

end SetMACAddr

namespace SetLink

-- Byte 28 - 31: LinkSettings_High:16, headerPadding:16
def linkSettingsHigh : Nat := field mem 28 [16, 16] 0

-- Bytes 32 - 35: OEMLinkSettings_High:16, LinkSettings_Low:16
def oemLinkSettingsHigh : Nat := field mem 32 [16, 16] 0
def linkSettingsLow : Nat := field mem 32 [16, 16] 1

-- Bytes 36 - 39: pad:16, OEMLinkSettings_Low:16
def oemLinkSettingsLow : Nat := field mem 36 [16, 16] 1

end SetLink

namespace AENEnable

-- Bytes 32 - 35: AENControl_High:16, reserved_1:16
def aenControlHigh : Nat := field mem 32 [16, 16] 0

-- Bytes 36 - 39: pad:16, AENControl_Low:16
def aenControlLow : Nat := field mem 36 [16, 16] 1

end AENEnable

/-- What the upstream handlers take from a payload. -/
def decode : Command → Option Decoding
  | .setMACAddress =>
    some (.setMACAddr (SetMACAddr.mac mem) (SetMACAddr.macNumber mem) (SetMACAddr.enable mem)
      (SetMACAddr.at_ mem))
  | .setLink =>
    some (.setLink (joinHalves (SetLink.linkSettingsLow mem) (SetLink.linkSettingsHigh mem))
      (joinHalves (SetLink.oemLinkSettingsLow mem) (SetLink.oemLinkSettingsHigh mem)))
  | .aenEnable =>
    some (.aenEnable (joinHalves (AENEnable.aenControlLow mem) (AENEnable.aenControlHigh mem)))
  | _ => none

end Upstream

/-! ## Where they agree -/

/-- Upstream's fields are these bytes. -/
theorem field_low (mem : Nat → UInt8) (off : Nat) :
    Upstream.field mem off [16, 16] 0 = (be16 (mem (off + 2)) (mem (off + 3))).toNat :=
  bitField_low _ _ _ _

theorem field_high (mem : Nat → UInt8) (off : Nat) :
    Upstream.field mem off [16, 16] 1 = (be16 (mem off) (mem (off + 1))).toNat :=
  bitField_high _ _ _ _

theorem setLink_agrees (mem : Nat → UInt8) : decode mem .setLink = Upstream.decode mem .setLink := by
  simp only [decode, Upstream.decode, Upstream.SetLink.linkSettingsLow,
    Upstream.SetLink.linkSettingsHigh, Upstream.SetLink.oemLinkSettingsLow,
    Upstream.SetLink.oemLinkSettingsHigh, field_low, field_high, joinHalves_be16]
  rfl

theorem aenEnable_agrees (mem : Nat → UInt8) :
    decode mem .aenEnable = Upstream.decode mem .aenEnable := by
  simp only [decode, Upstream.decode, Upstream.AENEnable.aenControlLow,
    Upstream.AENEnable.aenControlHigh, field_low, field_high, joinHalves_be16]
  rfl

/-- The halves of a half-word are its bytes. -/
theorem ofNat_be16 (b₀ b₁ : UInt8) :
    UInt8.ofNat ((be16 b₀ b₁).toNat / 256) = b₀ ∧ UInt8.ofNat (be16 b₀ b₁).toNat = b₁ := by
  have h₀ := b₀.toNat_lt
  have h₁ := b₁.toNat_lt
  rw [be16_toNat]
  constructor <;> apply UInt8.toNat_inj.mp <;> rw [UInt8.toNat_ofNat'] <;> omega

theorem mac_agrees (mem : Nat → UInt8) : Upstream.SetMACAddr.mac mem = Request.macAddress mem := by
  simp only [Upstream.SetMACAddr.mac, Upstream.SetMACAddr.mac54, Upstream.SetMACAddr.mac32,
    Upstream.SetMACAddr.mac10, field_low, field_high, (ofNat_be16 _ _).1, (ofNat_be16 _ _).2]
  rfl

/-- The fields of the last word of Set MAC Address, from its bytes. -/
theorem lastWord_fields (mem : Nat → UInt8) :
    Upstream.SetMACAddr.enable mem = (mem SetMACAddr.macInfo).toNat % 2 ∧
      Upstream.SetMACAddr.at_ mem = (mem SetMACAddr.macInfo).toNat / 32 ∧
      Upstream.SetMACAddr.macNumber mem = (mem SetMACAddr.macNumber).toNat := by
  have h₀ := (mem SetMACAddr.macNumber).toNat_lt
  have h₁ := (mem SetMACAddr.macInfo).toNat_lt
  have h₂ := (mem 38).toNat_lt
  have h₃ := (mem 39).toNat_lt
  have hword : Request.word mem 36 =
      be32 (mem SetMACAddr.macNumber) (mem SetMACAddr.macInfo) (mem 38) (mem 39) := rfl
  -- from the least significant bit: two pad bytes, `MACInfo`, then `MACNumber`
  simp only [Upstream.SetMACAddr.enable, Upstream.SetMACAddr.at_, Upstream.SetMACAddr.macNumber,
    Upstream.field, hword, bitField, be32_toNat]
  omega

/-- Read from either end, the enable bit and the address type are the same. -/
def MirrorInvariant (info : UInt8) : Prop :=
  info.toNat.testBit 7 = info.toNat.testBit 0 ∧ info.toNat.testBit 5 = info.toNat.testBit 0 ∧
    info.toNat.testBit 2 = info.toNat.testBit 7 ∧ info.toNat.testBit 6 = info.toNat.testBit 1

theorem macInfo_agrees_iff (info : UInt8) :
    ((setmacEnable info).toNat = info.toNat % 2 ∧ (setmacAT info).toNat = info.toNat / 32) ↔
      MirrorInvariant info := by
  -- the port counts bits from the other end of the byte
  have henable : (setmacEnable info).toNat = info.toNat / 128 % 2 := by
    rw [setmacEnable, UInt8.toNat_and, UInt8.toNat_shiftRight]
    exact (Nat.and_two_pow_sub_one_eq_mod _ 1).trans (by rw [Nat.shiftRight_eq_div_pow]; rfl)
  have hat : (setmacAT info).toNat = info.toNat % 8 := by
    rw [setmacAT, UInt8.toNat_and]
    exact Nat.and_two_pow_sub_one_eq_mod _ 3
  -- both sides depend on one byte, so the 256 values are checked
  have hbytes : ∀ n : Fin 256, (n.val / 128 % 2 = n.val % 2 ∧ n.val % 8 = n.val / 32) ↔
      (n.val.testBit 7 = n.val.testBit 0 ∧ n.val.testBit 5 = n.val.testBit 0 ∧
        n.val.testBit 2 = n.val.testBit 7 ∧ n.val.testBit 6 = n.val.testBit 1) := by
    decide +kernel
  rw [henable, hat]
  exact hbytes ⟨info.toNat, info.toNat_lt⟩

/-- **Where the port decodes like upstream**: Set Link and AEN Enable always, Set MAC
    Address exactly when bits 0, 2, 5 and 7 of `MACInfo` are equal, and bits 1 and 6. -/
theorem decode_eq_iff (mem : Nat → UInt8) (c : Command) :
    decode mem c = Upstream.decode mem c ↔
      (c = .setMACAddress → MirrorInvariant (mem SetMACAddr.macInfo)) := by
  cases c with
  | setMACAddress =>
    obtain ⟨henable, hat, hnumber⟩ := lastWord_fields mem
    rw [← macInfo_agrees_iff]
    simp [decode, Upstream.decode, mac_agrees, henable, hat, hnumber]
  | setLink => exact iff_of_true (setLink_agrees mem) (by rintro ⟨⟩)
  | aenEnable => exact iff_of_true (aenEnable_agrees mem) (by rintro ⟨⟩)
  | _ => exact iff_of_true rfl (by rintro ⟨⟩)

/-- The captured Set MAC Address request of the test vectors: `MACInfo` is 0x01. -/
def setMacAddr : Nat → UInt8 :=
  buffer [0xff, 0xff, 0xff, 0xff, 0xff, 0xff, 0xff, 0xff, 0xff, 0xff, 0xff, 0xff, 0x88, 0xf8,
    0x00, 0x01, 0x00, 0xf0, 0x0e, 0x00, 0x00, 0x08, 0x00, 0x00, 0x00, 0x00, 0x00, 0x00, 0x00,
    0x00, 0x2c, 0x09, 0x4d, 0x00, 0x01, 0x4a, 0x01, 0x01, 0xff, 0xff, 0x75, 0xb3]

/-- Upstream enables a unicast filter, this port disables one of address type 1. -/
theorem decode_ne_setMacAddr :
    Upstream.decode setMacAddr .setMACAddress =
        some (.setMACAddr #v[0x2c, 0x09, 0x4d, 0x00, 0x01, 0x4a] 1 1 0) ∧
      decode setMacAddr .setMACAddress =
        some (.setMACAddr #v[0x2c, 0x09, 0x4d, 0x00, 0x01, 0x4a] 1 0 1) ∧
      decode setMacAddr .setMACAddress ≠ Upstream.decode setMacAddr .setMACAddress := by
  decide +kernel

end NcsiResponder
