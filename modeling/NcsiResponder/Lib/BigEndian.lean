import Mathlib.Algebra.Group.Nat.Defs
import Mathlib.Tactic.Common

/-!
# Big-endian words and 16-bit word sums

Wire formats send multi-byte fields most significant byte first, and a common
integrity check adds up a byte region as a series of big-endian 16-bit words in
a 32-bit accumulator. This file has the two ingredients, over byte lists:

- **Words**: `be16`, `be32` assemble a word from its bytes, and splitting a word
  into bytes and assembling it again gives the word back.
- **Word sums**: `wordSum` adds the words of a region modulo 2^32; a last odd
  byte counts as the high byte of a zero-padded word. Adding the two's complement
  of the sum gives zero, which is what a receiver checks. A short region that is
  not all zeros never sums to zero, and regions of any length that differ in one
  word have different sums.
-/

namespace BigEndian

/-! ## Words -/

/-- The 16-bit word with high byte `b₀` and low byte `b₁`. -/
def be16 (b₀ b₁ : UInt8) : UInt16 := b₀.toUInt16 <<< 8 ||| b₁.toUInt16

/-- The 32-bit word with bytes `b₀ b₁ b₂ b₃`, most significant first. -/
def be32 (b₀ b₁ b₂ b₃ : UInt8) : UInt32 :=
  b₀.toUInt32 <<< 24 ||| b₁.toUInt32 <<< 16 ||| b₂.toUInt32 <<< 8 ||| b₃.toUInt32

theorem be16_toNat (b₀ b₁ : UInt8) : (be16 b₀ b₁).toNat = b₀.toNat * 256 + b₁.toNat := by
  have h₀ := b₀.toNat_lt
  have h₁ := b₁.toNat_lt
  have hor := Nat.two_pow_add_eq_or_of_lt (i := 8) (b := b₁.toNat) (by omega) b₀.toNat
  simp only [be16, UInt16.toNat_or, UInt16.toNat_shiftLeft, UInt8.toNat_toUInt16,
    Nat.shiftLeft_eq]
  rw [Nat.mod_eq_of_lt (by simp; omega), Nat.mul_comm]
  simp only [Nat.reducePow, UInt16.reduceToNat, Nat.reduceMod] at hor ⊢
  omega

theorem be32_toNat (b₀ b₁ b₂ b₃ : UInt8) :
    (be32 b₀ b₁ b₂ b₃).toNat =
      b₀.toNat * 2 ^ 24 + b₁.toNat * 2 ^ 16 + b₂.toNat * 2 ^ 8 + b₃.toNat := by
  have h₀ := b₀.toNat_lt
  have h₁ := b₁.toNat_lt
  have h₂ := b₂.toNat_lt
  have h₃ := b₃.toNat_lt
  -- the fields do not overlap, so each `|||` is a sum
  have hor₀ := Nat.two_pow_add_eq_or_of_lt (i := 24)
    (b := b₁.toNat * 2 ^ 16 + (b₂.toNat * 2 ^ 8 + b₃.toNat)) (by omega) b₀.toNat
  have hor₁ := Nat.two_pow_add_eq_or_of_lt (i := 16)
    (b := b₂.toNat * 2 ^ 8 + b₃.toNat) (by omega) b₁.toNat
  have hor₂ := Nat.two_pow_add_eq_or_of_lt (i := 8) (b := b₃.toNat) (by omega) b₂.toNat
  rw [Nat.mul_comm] at hor₀ hor₁ hor₂
  simp only [be32, UInt32.toNat_or, UInt32.toNat_shiftLeft, UInt8.toNat_toUInt32,
    Nat.shiftLeft_eq, show UInt32.toNat 24 % 32 = 24 from rfl,
    show UInt32.toNat 16 % 32 = 16 from rfl, show UInt32.toNat 8 % 32 = 8 from rfl,
    Nat.or_assoc]
  rw [Nat.mod_eq_of_lt (by omega), Nat.mod_eq_of_lt (by omega), Nat.mod_eq_of_lt (by omega),
    ← hor₂, ← hor₁, ← hor₀]
  simp only [Nat.add_assoc]

/-- Storing a 16-bit word byte by byte and assembling it again gives it back. -/
theorem be16_split (v : UInt16) : be16 (v >>> 8).toUInt8 v.toUInt8 = v := by
  apply UInt16.toNat_inj.mp
  have hv := v.toNat_lt
  simp only [be16_toNat, UInt16.toNat_toUInt8, UInt16.toNat_shiftRight, UInt16.reduceToNat,
    Nat.reduceMod, Nat.shiftRight_eq_div_pow, Nat.reducePow]
  omega

/-- The bytes a 16-bit word was assembled from. -/
theorem be16_bytes (b₀ b₁ : UInt8) :
    (be16 b₀ b₁ >>> 8).toUInt8 = b₀ ∧ (be16 b₀ b₁).toUInt8 = b₁ := by
  have h₀ := b₀.toNat_lt
  have h₁ := b₁.toNat_lt
  constructor
  · apply UInt8.toNat_inj.mp
    simp only [UInt16.toNat_toUInt8, UInt16.toNat_shiftRight, be16_toNat, UInt16.reduceToNat,
      Nat.reduceMod, Nat.shiftRight_eq_div_pow, Nat.reducePow]
    omega
  · apply UInt8.toNat_inj.mp
    simp [be16_toNat]

/-- The bytes a 32-bit word was assembled from. -/
theorem be32_bytes (b₀ b₁ b₂ b₃ : UInt8) :
    (be32 b₀ b₁ b₂ b₃ >>> 24).toUInt8 = b₀ ∧ (be32 b₀ b₁ b₂ b₃ >>> 16).toUInt8 = b₁ ∧
      (be32 b₀ b₁ b₂ b₃ >>> 8).toUInt8 = b₂ ∧ (be32 b₀ b₁ b₂ b₃).toUInt8 = b₃ := by
  have h₀ := b₀.toNat_lt
  have h₁ := b₁.toNat_lt
  have h₂ := b₂.toNat_lt
  have h₃ := b₃.toNat_lt
  refine ⟨UInt8.toNat_inj.mp ?_, UInt8.toNat_inj.mp ?_, UInt8.toNat_inj.mp ?_,
    UInt8.toNat_inj.mp ?_⟩ <;>
    simp [be32_toNat, Nat.shiftRight_eq_div_pow] <;> omega

/-- Different bytes make different 16-bit words. -/
theorem be16_inj {b₀ b₁ c₀ c₁ : UInt8} (h : be16 b₀ b₁ = be16 c₀ c₁) : b₀ = c₀ ∧ b₁ = c₁ := by
  obtain ⟨hb₀, hb₁⟩ := be16_bytes b₀ b₁
  obtain ⟨hc₀, hc₁⟩ := be16_bytes c₀ c₁
  rw [h] at hb₀ hb₁
  exact ⟨hb₀.symm.trans hc₀, hb₁.symm.trans hc₁⟩

/-- Different bytes make different 32-bit words. -/
theorem be32_inj {b₀ b₁ b₂ b₃ c₀ c₁ c₂ c₃ : UInt8} (h : be32 b₀ b₁ b₂ b₃ = be32 c₀ c₁ c₂ c₃) :
    b₀ = c₀ ∧ b₁ = c₁ ∧ b₂ = c₂ ∧ b₃ = c₃ := by
  obtain ⟨hb₀, hb₁, hb₂, hb₃⟩ := be32_bytes b₀ b₁ b₂ b₃
  obtain ⟨hc₀, hc₁, hc₂, hc₃⟩ := be32_bytes c₀ c₁ c₂ c₃
  rw [h] at hb₀ hb₁ hb₂ hb₃
  exact ⟨hb₀.symm.trans hc₀, hb₁.symm.trans hc₁, hb₂.symm.trans hc₂, hb₃.symm.trans hc₃⟩

/-- Storing a 32-bit word byte by byte and assembling it again gives it back. -/
theorem be32_split (v : UInt32) :
    be32 (v >>> 24).toUInt8 (v >>> 16).toUInt8 (v >>> 8).toUInt8 v.toUInt8 = v := by
  apply UInt32.toNat_inj.mp
  have hv := v.toNat_lt
  simp only [be32_toNat, UInt32.toNat_toUInt8, UInt32.toNat_shiftRight, UInt32.reduceToNat,
    Nat.reduceMod, Nat.shiftRight_eq_div_pow, Nat.reducePow]
  omega

/-! ## Word sums -/

/-- The sum of a region's big-endian 16-bit words modulo 2^32. -/
def wordSum : List UInt8 → UInt32
  | [] => 0
  | [b] => b.toUInt32 <<< 8
  | b₀ :: b₁ :: bs => (be16 b₀ b₁).toUInt32 + wordSum bs

/-- What a receiver checks: the word sum plus the stored word is zero. -/
def Verifies (region : List UInt8) (stored : UInt32) : Prop :=
  wordSum region + stored = 0

instance (region : List UInt8) (stored : UInt32) : Decidable (Verifies region stored) :=
  inferInstanceAs (Decidable (_ = _))

/-- The two's complement of the word sum verifies, and it is the only word that does. -/
theorem verifies_iff (region : List UInt8) (stored : UInt32) :
    Verifies region stored ↔ stored = 0 - wordSum region := by
  constructor
  · intro h
    have hsum : wordSum region + stored = 0 := h
    grind
  · rintro rfl
    have hsum : wordSum region + (0 - wordSum region) = 0 := by grind
    exact hsum

/-- Regions that verify with the same word have the same sum. -/
theorem wordSum_eq_of_verifies {region region' : List UInt8} {stored : UInt32}
    (h : Verifies region stored) (h' : Verifies region' stored) :
    wordSum region = wordSum region' :=
  (UInt32.add_left_inj stored).mp (h.trans h'.symm)

/-- The word sum without the modulus. -/
def natSum : List UInt8 → Nat
  | [] => 0
  | [b] => b.toNat * 256
  | b₀ :: b₁ :: bs => b₀.toNat * 256 + b₁.toNat + natSum bs

theorem natSum_le : ∀ bs : List UInt8, natSum bs ≤ 65536 * bs.length
  | [] => Nat.le_refl 0
  | [b] => by
    have hb := b.toNat_lt
    simp only [natSum, List.length_singleton]
    omega
  | b₀ :: b₁ :: bs => by
    have h₀ := b₀.toNat_lt
    have h₁ := b₁.toNat_lt
    have hrest := natSum_le bs
    simp only [natSum, List.length_cons]
    omega

/-- A short region's sum does not wrap. -/
theorem wordSum_toNat : ∀ bs : List UInt8, bs.length < 65536 → (wordSum bs).toNat = natSum bs
  | [], _ => rfl
  | [b], _ => by
    have hb := b.toNat_lt
    simp only [wordSum, natSum, UInt32.toNat_shiftLeft, UInt8.toNat_toUInt32, UInt32.reduceToNat,
      Nat.reduceMod, Nat.shiftLeft_eq, Nat.reducePow]
    omega
  | b₀ :: b₁ :: bs, h => by
    have h₀ := b₀.toNat_lt
    have h₁ := b₁.toNat_lt
    -- the rest stays far enough below 2 ^ 32 for one more word
    have hbound := natSum_le bs
    rw [List.length_cons, List.length_cons] at h
    rw [wordSum, natSum, UInt32.toNat_add, wordSum_toNat bs (by omega), UInt16.toNat_toUInt32,
      be16_toNat]
    omega

theorem natSum_pos {bs : List UInt8} {b : UInt8} (hmem : b ∈ bs) (hb : b ≠ 0) : 0 < natSum bs := by
  have hpos : 0 < b.toNat := Nat.pos_of_ne_zero fun h => hb (UInt8.toNat_inj.mp h)
  -- the byte is in the first word, or in a later one
  induction bs using natSum.induct with
  | case1 => simp at hmem
  | case2 b' =>
    rw [List.mem_singleton.mp hmem] at hpos
    simp only [natSum]
    omega
  | case3 b₀ b₁ bs ih =>
    simp only [natSum]
    rcases List.mem_cons.mp hmem with rfl | hmem
    · omega
    rcases List.mem_cons.mp hmem with rfl | hmem
    · omega
    · have := ih hmem
      omega

/-- A short region that is not all zeros has a sum that is not zero. -/
theorem wordSum_ne_zero {bs : List UInt8} {b : UInt8} (hlen : bs.length < 65536) (hmem : b ∈ bs)
    (hb : b ≠ 0) : wordSum bs ≠ 0 := by
  intro hzero
  have hsum := wordSum_toNat bs hlen
  rw [hzero] at hsum
  have := natSum_pos hmem hb
  simp only [UInt32.toNat_zero] at hsum
  omega

/-- Regions of the same sum that differ inside one word at most are equal: a word is too
    short for a difference to vanish modulo 2^32, wherever it stands and whatever the
    others add up to. -/
theorem eq_of_wordSum_eq {bs cs : List UInt8} {k : Nat} (hlen : cs.length = bs.length)
    (hsame : ∀ i, i ≠ 2 * k → i ≠ 2 * k + 1 → cs[i]? = bs[i]?)
    (hsum : wordSum cs = wordSum bs) : cs = bs := by
  -- word by word: the difference is in the first word, or in a later one
  induction bs using wordSum.induct generalizing cs k with
  | case1 => exact List.length_eq_zero_iff.mp hlen
  | case2 b =>
    obtain ⟨c, rfl⟩ := List.length_eq_one_iff.mp hlen
    have hnat := congrArg UInt32.toNat hsum
    rw [wordSum_toNat [c] (by decide : 1 < 65536),
      wordSum_toNat [b] (by decide : 1 < 65536)] at hnat
    have hbyte : c.toNat = b.toNat := Nat.eq_of_mul_eq_mul_right (by decide : 0 < 256) hnat
    rw [UInt8.toNat_inj.mp hbyte]
  | case3 b₀ b₁ bs ih =>
    match cs, hlen with
    | c₀ :: c₁ :: cs, hlen =>
      have hlen' : cs.length = bs.length := by simpa using hlen
      cases k with
      | zero =>
        have hrest : cs = bs := by
          apply List.ext_getElem?
          intro i
          exact hsame (i + 2) (by omega) (by omega)
        subst hrest
        have hword := (UInt32.add_left_inj _).mp hsum
        obtain ⟨rfl, rfl⟩ := be16_inj (UInt16.toUInt32_inj.mp hword)
        rfl
      | succ k =>
        have h₀ : c₀ = b₀ := Option.some.inj (hsame 0 (by omega) (by omega))
        have h₁ : c₁ = b₁ := Option.some.inj (hsame 1 (by omega) (by omega))
        subst h₀ h₁
        have hsame' : ∀ i, i ≠ 2 * k → i ≠ 2 * k + 1 → cs[i]? = bs[i]? :=
          fun i _ _ => hsame (i + 2) (by omega) (by omega)
        rw [ih hlen' hsame' ((UInt32.add_right_inj _).mp hsum)]

end BigEndian
