import NcsiResponder.Lib.BigEndian

/-!
# Bit-fields of a word

A little-endian compiler allocates the bit-fields of a word from the least
significant bit up. `bitField widths k n` is field `k` of a word with value `n`
whose fields have these widths, in the order they are declared.
-/

namespace BitFields

open BigEndian

/-- Field `k` of a word, counted from the least significant one. -/
def bitField : List Nat → Nat → Nat → Nat
  | [], _, _ => 0
  | width :: _, 0, n => n % 2 ^ width
  | width :: widths, k + 1, n => bitField widths k (n / 2 ^ width)

/-! ## Half-words -/

/-- The low half of a big-endian word. -/
theorem bitField_low (b₀ b₁ b₂ b₃ : UInt8) :
    bitField [16, 16] 0 (be32 b₀ b₁ b₂ b₃).toNat = (be16 b₂ b₃).toNat := by
  have h₂ := b₂.toNat_lt
  have h₃ := b₃.toNat_lt
  rw [bitField, be32_toNat, be16_toNat]
  omega

/-- The high half of a big-endian word. -/
theorem bitField_high (b₀ b₁ b₂ b₃ : UInt8) :
    bitField [16, 16] 1 (be32 b₀ b₁ b₂ b₃).toNat = (be16 b₀ b₁).toNat := by
  have h₀ := b₀.toNat_lt
  have h₁ := b₁.toNat_lt
  have h₂ := b₂.toNat_lt
  have h₃ := b₃.toNat_lt
  rw [bitField, bitField, be32_toNat, be16_toNat]
  omega

/-! ## Bytes -/

/-- The bytes of a big-endian word, from the least significant one. -/
theorem bitField_bytes (b₀ b₁ b₂ b₃ : UInt8) :
    bitField [8, 8, 8, 8] 0 (be32 b₀ b₁ b₂ b₃).toNat = b₃.toNat ∧
      bitField [8, 8, 8, 8] 1 (be32 b₀ b₁ b₂ b₃).toNat = b₂.toNat ∧
      bitField [8, 8, 8, 8] 2 (be32 b₀ b₁ b₂ b₃).toNat = b₁.toNat := by
  have h₁ := b₁.toNat_lt
  have h₂ := b₂.toNat_lt
  have h₃ := b₃.toNat_lt
  simp only [bitField, be32_toNat]
  omega

/-- A field of 12 bits in the high half of a big-endian word. -/
theorem bitField_high12 (b₀ b₁ b₂ b₃ : UInt8) :
    bitField [16, 12, 4] 1 (be32 b₀ b₁ b₂ b₃).toNat = (be16 b₀ b₁).toNat % 2 ^ 12 := by
  have h₂ := b₂.toNat_lt
  have h₃ := b₃.toNat_lt
  rw [bitField, bitField, be32_toNat, be16_toNat]
  omega

/-! ## Joined half-words -/

/-- `low | (high << 16)` -/
def joinHalves (low high : Nat) : UInt32 := UInt32.ofNat low ||| UInt32.ofNat high <<< 16

/-- Half-words do not overlap. -/
theorem joinHalves_toNat {low high : Nat} (hlow : low < 2 ^ 16) (hhigh : high < 2 ^ 16) :
    (joinHalves low high).toNat = 2 ^ 16 * high + low := by
  have hlow' : (UInt32.ofNat low).toNat = low := Nat.mod_eq_of_lt (by omega)
  have hhigh' : (UInt32.ofNat high).toNat = high := Nat.mod_eq_of_lt (by omega)
  have hor := Nat.two_pow_add_eq_or_of_lt hlow high
  rw [joinHalves, UInt32.toNat_or, UInt32.toNat_shiftLeft, hlow', hhigh',
    show UInt32.toNat 16 % 32 = 16 from rfl, Nat.shiftLeft_eq, Nat.mod_eq_of_lt (by omega),
    Nat.mul_comm, Nat.or_comm, ← hor]

/-- Two big-endian half-words joined are the big-endian word. -/
theorem joinHalves_be16 (b₀ b₁ b₂ b₃ : UInt8) :
    joinHalves (be16 b₂ b₃).toNat (be16 b₀ b₁).toNat = be32 b₀ b₁ b₂ b₃ := by
  apply UInt32.toNat_inj.mp
  rw [joinHalves_toNat (be16 b₂ b₃).toNat_lt (be16 b₀ b₁).toNat_lt]
  simp only [be16_toNat, be32_toNat]
  omega

end BitFields
