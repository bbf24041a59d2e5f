import Mathlib.Tactic.IntervalCases
import NcsiResponder.Lib.BigEndian

/-!
# Base types and wire-field helpers (types.h)

The C buffers these helpers work on are byte lists; a pointer into a buffer is
the buffer with an offset. The offsets of `ncsiComputeChecksum` are 32-bit and
wrap as in C, so its word loop need not end: it runs on fuel, and `none` is a
loop that never leaves.
-/

namespace NcsiResponder

open BigEndian

/-- How hard `Network_InitPort` should re-touch the PHY (`reload_type_t`). -/
inductive ReloadType where
  | asNeeded
  | force
  deriving DecidableEq, Repr

/-! ## Byte swap -/

/-- `ncsi_be32toh` -/
def ncsiBe32toh (v : UInt32) : UInt32 :=
  (v &&& 0x000000FF) <<< 24 ||| (v &&& 0x0000FF00) <<< 8 |||
    (v &&& 0x00FF0000) >>> 8 ||| (v &&& 0xFF000000) >>> 24

/-- The four bytes change places. -/
theorem ncsiBe32toh_be32 (b₀ b₁ b₂ b₃ : UInt8) :
    ncsiBe32toh (be32 b₀ b₁ b₂ b₃) = be32 b₃ b₂ b₁ b₀ := by
  apply UInt32.eq_of_toBitVec_eq
  -- bit by bit: the masks and shifts are constants
  ext i hi
  interval_cases i <;> simp [ncsiBe32toh, be32]

/-! ## Big-endian wire-field helpers -/

/-- `ncsi_rd16(&p[off])` -/
def ncsiRd16 (p : List UInt8) (off : Nat) : UInt16 := be16 (p.getD off 0) (p.getD (off + 1) 0)

/-- `ncsi_rd32(&p[off])` -/
def ncsiRd32 (p : List UInt8) (off : Nat) : UInt32 :=
  be32 (p.getD off 0) (p.getD (off + 1) 0) (p.getD (off + 2) 0) (p.getD (off + 3) 0)

/-- `ncsi_wr16(&p[off], v)` -/
def ncsiWr16 (p : List UInt8) (off : Nat) (v : UInt16) : List UInt8 :=
  (p.set off (v >>> 8).toUInt8).set (off + 1) v.toUInt8

/-- `ncsi_wr32(&p[off], v)` -/
def ncsiWr32 (p : List UInt8) (off : Nat) (v : UInt32) : List UInt8 :=
  (((p.set off (v >>> 24).toUInt8).set (off + 1) (v >>> 16).toUInt8).set
    (off + 2) (v >>> 8).toUInt8).set (off + 3) v.toUInt8

@[simp] theorem length_ncsiWr16 (p : List UInt8) (off : Nat) (v : UInt16) :
    (ncsiWr16 p off v).length = p.length := by simp [ncsiWr16]

@[simp] theorem length_ncsiWr32 (p : List UInt8) (off : Nat) (v : UInt32) :
    (ncsiWr32 p off v).length = p.length := by simp [ncsiWr32]

/-- What `ncsi_wr32` stores, `ncsi_rd32` reads back. -/
theorem ncsiRd32_ncsiWr32 (p : List UInt8) (off : Nat) (v : UInt32) (h : off + 4 ≤ p.length) :
    ncsiRd32 (ncsiWr32 p off v) off = v := by
  have h₀ : off < p.length := by omega
  have h₁ : off + 1 < p.length := by omega
  have h₂ : off + 2 < p.length := by omega
  have h₃ : off + 3 < p.length := by omega
  -- the four stores go to four different bytes
  simp only [ncsiRd32, ncsiWr32, List.getD_eq_getElem?_getD, List.getElem?_set, List.length_set]
  simpa [h₀, h₁, h₂, h₃] using be32_split v

/-! ## Checksum -/

/-- The word loop `for (i = region_start; i + 2 <= end; i += 2)`, from index `i`
    with accumulator `sum`. -/
def checksumLoop (packet : List UInt8) (stop : UInt32) :
    Nat → UInt32 → UInt32 → Option (UInt32 × UInt32)
  | 0, _, _ => none
  | fuel + 1, i, sum =>
    if i + 2 ≤ stop then
      checksumLoop packet stop fuel (i + 2) (sum + (ncsiRd16 packet i.toNat).toUInt32)
    else
      some (i, sum)

/-- One iteration per 32-bit index: a loop that outlives this fuel has come back
    to an index it has seen, and never leaves. -/
def checksumFuel : Nat := 2 ^ 32

/-- The word `ncsi_compute_checksum` stores: the negated sum of the region's words. -/
def checksumWord (packet : List UInt8) (regionStart regionLen : UInt32) : Option UInt32 := do
  let stop := regionStart + regionLen
  let (i, sum) ← checksumLoop packet stop checksumFuel regionStart 0
  -- a last odd byte is the high byte of a zero-padded word
  let sum := if i < stop then sum + (packet.getD i.toNat 0).toUInt32 <<< 8 else sum
  return 0 - sum

/-- `ncsi_compute_checksum` -/
def ncsiComputeChecksum (packet : List UInt8) (regionStart regionLen checksumOffset : UInt32) :
    Option (List UInt8) := do
  return ncsiWr32 packet checksumOffset.toNat (← checksumWord packet regionStart regionLen)

/-- The `len` bytes of a buffer from offset `start` on. -/
def region (packet : List UInt8) (start len : Nat) : List UInt8 := (packet.drop start).take len

theorem region_cons {packet : List UInt8} {start len : Nat} (h : start < packet.length) :
    region packet start (len + 1) = packet.getD start 0 :: region packet (start + 1) len := by
  rw [region, List.drop_eq_getElem_cons h, List.take_succ_cons]
  simp [region, h]

/-- No 32-bit offset of the checksum overflows: neither the end of the region nor the
    `i + 2` of any test of its word loop. -/
def OffsetsFit (regionStart regionLen : UInt32) : Prop :=
  regionStart.toNat + 2 * (regionLen.toNat / 2) + 2 < 2 ^ 32

instance (regionStart regionLen : UInt32) : Decidable (OffsetsFit regionStart regionLen) :=
  inferInstanceAs (Decidable (_ < _))

theorem OffsetsFit.end_toNat {regionStart regionLen : UInt32}
    (hfit : OffsetsFit regionStart regionLen) :
    (regionStart + regionLen).toNat = regionStart.toNat + regionLen.toNat := by
  unfold OffsetsFit at hfit
  rw [UInt32.toNat_add]
  omega

/-- The word loop leaves, and with the odd byte it leaves over it has added up
    exactly the words between its index and the end. -/
theorem checksumLoop_spec (packet : List UInt8) (stop : UInt32)
    (hlen : stop.toNat ≤ packet.length) (fuel : Nat) :
    ∀ i sum : UInt32, i.toNat ≤ stop.toNat →
      i.toNat + 2 * ((stop.toNat - i.toNat) / 2) + 2 < 2 ^ 32 → stop.toNat - i.toNat < fuel →
      ∃ j s, checksumLoop packet stop fuel i sum = some (j, s) ∧
        (if j < stop then s + (packet.getD j.toNat 0).toUInt32 <<< 8 else s) =
          sum + wordSum (region packet i.toNat (stop.toNat - i.toNat)) := by
  -- by induction on the fuel, for every index and accumulator: the accumulator plus the
  -- words still ahead stays the same
  induction fuel with
  | zero => intro i sum _ _ h; omega
  | succ fuel ih =>
    intro i sum hi hfit hfuel
    have hi2 : (i + 2).toNat = i.toNat + 2 := by
      rw [UInt32.toNat_add, show UInt32.toNat 2 = 2 from rfl]; omega
    by_cases hle : i + 2 ≤ stop
    · -- a full word lies before the end: one more iteration
      have hle' : i.toNat + 2 ≤ stop.toNat := by
        have := UInt32.le_iff_toNat_le.mp hle
        omega
      obtain ⟨j, s, hloop, hsum⟩ := ih (i + 2)
        (sum + (ncsiRd16 packet i.toNat).toUInt32) (by omega) (by omega) (by omega)
      refine ⟨j, s, by simpa [checksumLoop, hle] using hloop, ?_⟩
      obtain ⟨n, hn⟩ : ∃ n, stop.toNat - i.toNat = n + 2 := ⟨stop.toNat - i.toNat - 2, by omega⟩
      have hn' : stop.toNat - (i + 2).toNat = n := by omega
      rw [hsum, hn, hn', hi2, region_cons (by omega), region_cons (by omega), wordSum, ncsiRd16,
        UInt32.add_assoc]
    · -- at most one odd byte is left
      refine ⟨i, sum, by simp [checksumLoop, hle], ?_⟩
      have hgt : stop.toNat < i.toNat + 2 := by
        by_contra hc
        exact hle (UInt32.le_iff_toNat_le.mpr (by omega))
      by_cases hodd : i < stop
      · have hlt : i.toNat < stop.toNat := UInt32.lt_iff_toNat_lt.mp hodd
        rw [if_pos hodd, show stop.toNat - i.toNat = 0 + 1 by omega, region_cons (by omega)]
        simp [region, wordSum]
      · have hge : ¬ i.toNat < stop.toNat := fun hc => hodd (UInt32.lt_iff_toNat_lt.mpr hc)
        rw [if_neg hodd, show stop.toNat - i.toNat = 0 by omega]
        simp [region, wordSum]

/-- The loop of a region whose offsets fit, from its start on: with the odd byte it has
    added up the words of the region. -/
theorem checksumLoop_region (packet : List UInt8) {regionStart regionLen : UInt32}
    (hfit : OffsetsFit regionStart regionLen)
    (hlen : regionStart.toNat + regionLen.toNat ≤ packet.length) :
    ∃ j s, checksumLoop packet (regionStart + regionLen) checksumFuel regionStart 0 = some (j, s) ∧
      (if j < regionStart + regionLen then s + (packet.getD j.toNat 0).toUInt32 <<< 8 else s) =
        wordSum (region packet regionStart.toNat regionLen.toNat) := by
  have hstop := hfit.end_toNat
  unfold OffsetsFit at hfit
  -- the fuel covers the whole region, which is shorter than 2 ^ 32
  obtain ⟨j, s, hloop, hsum⟩ := checksumLoop_spec packet (regionStart + regionLen) (by omega)
    checksumFuel regionStart 0 (by omega) (by rw [hstop, Nat.add_sub_cancel_left]; exact hfit)
    (by simp only [checksumFuel]; omega)
  rw [hstop, Nat.add_sub_cancel_left, UInt32.zero_add] at hsum
  exact ⟨j, s, hloop, hsum⟩

/-- The stored word is the two's complement of the region's word sum, whenever the
    offsets fit. -/
theorem checksumWord_eq (packet : List UInt8) {regionStart regionLen : UInt32}
    (hfit : OffsetsFit regionStart regionLen)
    (hlen : regionStart.toNat + regionLen.toNat ≤ packet.length) :
    checksumWord packet regionStart regionLen =
      some (0 - wordSum (region packet regionStart.toNat regionLen.toNat)) := by
  obtain ⟨j, s, hloop, hsum⟩ := checksumLoop_region packet hfit hlen
  simp only [checksumWord, hloop, Option.bind_eq_bind, Option.bind_some, hsum]
  rfl

end NcsiResponder
