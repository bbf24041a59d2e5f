import NcsiResponder.Types

/-!
# The checksum field and its receiver

`ncsi_compute_checksum` on any packet, and `verify_checksum`, the receiver of test_ncsi.c.
What is written verifies, whatever the field held before (`computeChecksum_verifies`), and
a packet that has been corrupted inside one word of the region, or in the checksum field
alone, does not verify any more (`corruption_detected`).
-/

namespace NcsiResponder

open BigEndian

/-! ## Receiver -/

/-- `verify_checksum` -/
def verifyChecksum (packet : List UInt8) (regionStart regionLen checksumOffset : UInt32) :
    Option UInt32 := do
  let stop := regionStart + regionLen
  let (i, sum) ← checksumLoop packet stop checksumFuel regionStart 0
  let sum := if i < stop then sum + (packet.getD i.toNat 0).toUInt32 <<< 8 else sum
  -- the field is added as one 32-bit word, not as two more words of the region
  return sum + ncsiRd32 packet checksumOffset.toNat

/-! ## Packets -/

/-- Buffers of the same length that differ, if at all, in bytes of this part. -/
structure SameOutside (part : Nat → Prop) (p q : List UInt8) : Prop where
  length : q.length = p.length
  byte : ∀ i, ¬ part i → q[i]? = p[i]?

/-- The packet has the region and the four checksum bytes behind it, at offsets that fit. -/
structure Framed (packet : List UInt8) (regionStart regionLen : UInt32) : Prop where
  fits : OffsetsFit regionStart regionLen
  room : regionStart.toNat + regionLen.toNat + 4 ≤ packet.length

/-- The bytes of the checksum field. -/
def InField (regionStart regionLen : UInt32) (i : Nat) : Prop :=
  regionStart.toNat + regionLen.toNat ≤ i ∧ i < regionStart.toNat + regionLen.toNat + 4

/-- The bytes of the region's word `k`; a last odd byte is a word of its own. -/
def InWord (regionStart regionLen : UInt32) (k i : Nat) : Prop :=
  (i = regionStart.toNat + 2 * k ∨ i = regionStart.toNat + 2 * k + 1) ∧
    i < regionStart.toNat + regionLen.toNat

theorem getElem?_region (packet : List UInt8) (start len i : Nat) :
    (region packet start len)[i]? = if i < len then packet[start + i]? else none := by
  unfold region
  rw [List.getElem?_take, List.getElem?_drop]

theorem length_region {packet : List UInt8} {start len : Nat} (h : start + len ≤ packet.length) :
    (region packet start len).length = len := by
  unfold region
  rw [List.length_take, List.length_drop]
  omega

/-- A region that a change leaves out is unchanged. -/
theorem region_congr {part : Nat → Prop} {p q : List UInt8} (hsame : SameOutside part p q)
    {start len : Nat} (houtside : ∀ i, start ≤ i → i < start + len → ¬ part i) :
    region q start len = region p start len := by
  apply List.ext_getElem?
  intro i
  rw [getElem?_region, getElem?_region]
  split
  · exact hsame.byte _ (houtside _ (by omega) (by omega))
  · rfl

section Packets

variable {packet packet' : List UInt8} {regionStart regionLen : UInt32}

theorem Framed.of_sameOutside {part : Nat → Prop} (hframed : Framed packet regionStart regionLen)
    (hsame : SameOutside part packet packet') : Framed packet' regionStart regionLen where
  fits := hframed.fits
  room := by
    rw [hsame.length]
    exact hframed.room

/-! ## The code on a packet -/

/-- What the receiver computes. -/
theorem verifyChecksum_eq (hframed : Framed packet regionStart regionLen) :
    verifyChecksum packet regionStart regionLen (regionStart + regionLen) =
      some (wordSum (region packet regionStart.toNat regionLen.toNat) +
        ncsiRd32 packet (regionStart.toNat + regionLen.toNat)) := by
  obtain ⟨j, s, hloop, hsum⟩ := checksumLoop_region packet hframed.fits
    (Nat.le_trans (Nat.le_add_right _ 4) hframed.room)
  simp only [verifyChecksum, hloop, Option.bind_eq_bind, Option.bind_some, hsum,
    hframed.fits.end_toNat]
  rfl

/-- The packet with the negated sum of its region in the field. -/
def withChecksum (packet : List UInt8) (regionStart regionLen : UInt32) : List UInt8 :=
  ncsiWr32 packet (regionStart.toNat + regionLen.toNat)
    (0 - wordSum (region packet regionStart.toNat regionLen.toNat))

/-- What `ncsi_compute_checksum` leaves. -/
theorem ncsiComputeChecksum_eq (hframed : Framed packet regionStart regionLen) :
    ncsiComputeChecksum packet regionStart regionLen (regionStart + regionLen) =
      some (withChecksum packet regionStart regionLen) := by
  unfold ncsiComputeChecksum
  rw [checksumWord_eq packet hframed.fits (Nat.le_trans (Nat.le_add_right _ 4) hframed.room),
    hframed.fits.end_toNat]
  rfl

/-- A store changes the bytes of the field only. -/
theorem sameOutside_ncsiWr32 (v : UInt32) :
    SameOutside (InField regionStart regionLen) packet
      (ncsiWr32 packet (regionStart.toNat + regionLen.toNat) v) where
  length := length_ncsiWr32 ..
  byte i hi := by
    unfold InField at hi
    unfold ncsiWr32
    rw [List.getElem?_set_ne (by omega), List.getElem?_set_ne (by omega),
      List.getElem?_set_ne (by omega), List.getElem?_set_ne (by omega)]

/-- A store forgets what the field held. -/
theorem ncsiWr32_congr (hsame : SameOutside (InField regionStart regionLen) packet packet')
    (v : UInt32) :
    ncsiWr32 packet' (regionStart.toNat + regionLen.toNat) v =
      ncsiWr32 packet (regionStart.toNat + regionLen.toNat) v := by
  apply List.ext_getElem?
  intro i
  by_cases hi : InField regionStart regionLen i
  · obtain ⟨hle, hlt⟩ := hi
    obtain ⟨j, rfl⟩ := Nat.exists_eq_add_of_le hle
    have hj : j = 0 ∨ j = 1 ∨ j = 2 ∨ j = 3 := by omega
    rcases hj with rfl | rfl | rfl | rfl <;>
      simp [ncsiWr32, List.getElem?_set, hsame.length]
  · rw [(sameOutside_ncsiWr32 v).byte i hi, (sameOutside_ncsiWr32 v).byte i hi, hsame.byte i hi]

/-- A packet that differs in the field carries another checksum. -/
theorem eq_of_ncsiRd32_eq (hframed : Framed packet regionStart regionLen)
    (hsame : SameOutside (InField regionStart regionLen) packet packet')
    (hstored : ncsiRd32 packet' (regionStart.toNat + regionLen.toNat) =
      ncsiRd32 packet (regionStart.toNat + regionLen.toNat)) : packet' = packet := by
  have hroom := hframed.room
  obtain ⟨h₀, h₁, h₂, h₃⟩ := be32_inj hstored
  have hbyte : ∀ i < packet.length, packet'.getD i 0 = packet.getD i 0 → packet'[i]? = packet[i]? := by
    intro i hi heq
    have hi' : i < packet'.length := hsame.length.symm ▸ hi
    rw [List.getD_eq_getElem?_getD, List.getD_eq_getElem?_getD, List.getElem?_eq_getElem hi,
      List.getElem?_eq_getElem hi'] at heq
    rw [List.getElem?_eq_getElem hi, List.getElem?_eq_getElem hi']
    exact congrArg some heq
  apply List.ext_getElem?
  intro i
  by_cases hi : InField regionStart regionLen i
  · obtain ⟨hle, hlt⟩ := hi
    obtain ⟨j, rfl⟩ := Nat.exists_eq_add_of_le hle
    have hj : j = 0 ∨ j = 1 ∨ j = 2 ∨ j = 3 := by omega
    rcases hj with rfl | rfl | rfl | rfl
    · exact hbyte _ (by omega) h₀
    · exact hbyte _ (by omega) h₁
    · exact hbyte _ (by omega) h₂
    · exact hbyte _ (by omega) h₃
  · exact hsame.byte i hi

/-- A change that leaves the field out keeps the checksum. -/
theorem ncsiRd32_congr {part : Nat → Prop} (hsame : SameOutside part packet packet') {off : Nat}
    (houtside : ∀ i, off ≤ i → i < off + 4 → ¬ part i) :
    ncsiRd32 packet' off = ncsiRd32 packet off := by
  have hbyte : ∀ i, off ≤ i → i < off + 4 → packet'.getD i 0 = packet.getD i 0 := by
    intro i hle hlt
    rw [List.getD_eq_getElem?_getD, List.getD_eq_getElem?_getD, hsame.byte i (houtside i hle hlt)]
  unfold ncsiRd32
  rw [hbyte off (by omega) (by omega), hbyte (off + 1) (by omega) (by omega),
    hbyte (off + 2) (by omega) (by omega), hbyte (off + 3) (by omega) (by omega)]

/-- The region ends where the field begins. -/
theorem region_congr_field (hsame : SameOutside (InField regionStart regionLen) packet packet') :
    region packet' regionStart.toNat regionLen.toNat =
      region packet regionStart.toNat regionLen.toNat := by
  refine region_congr hsame fun i _ hlt hfield => ?_
  exact absurd hfield.1 (Nat.not_le.mpr hlt)

/-! ## What is written verifies -/

/-- `packet'` is `packet` with its checksum computed: nothing else has changed, computing it
    again or over another field gives the same packet, and the receiver accepts it. -/
structure Checksummed (packet packet' : List UInt8) (regionStart regionLen : UInt32) : Prop where
  sameOutside : SameOutside (InField regionStart regionLen) packet packet'
  idempotent : ncsiComputeChecksum packet' regionStart regionLen (regionStart + regionLen) =
    some packet'
  independent : ∀ other, SameOutside (InField regionStart regionLen) packet other →
    ncsiComputeChecksum other regionStart regionLen (regionStart + regionLen) = some packet'
  verifies : Verifies (region packet' regionStart.toNat regionLen.toNat)
    (ncsiRd32 packet' (regionStart.toNat + regionLen.toNat))
  accepted : verifyChecksum packet' regionStart regionLen (regionStart + regionLen) = some 0

theorem withChecksum_congr (hsame : SameOutside (InField regionStart regionLen) packet packet') :
    withChecksum packet' regionStart regionLen = withChecksum packet regionStart regionLen := by
  unfold withChecksum
  rw [region_congr_field hsame, ncsiWr32_congr hsame]

/-- The written checksum is the one word that verifies. -/
theorem verifies_withChecksum (hframed : Framed packet regionStart regionLen) :
    Verifies (region (withChecksum packet regionStart regionLen) regionStart.toNat regionLen.toNat)
      (ncsiRd32 (withChecksum packet regionStart regionLen)
        (regionStart.toNat + regionLen.toNat)) := by
  unfold withChecksum
  rw [verifies_iff, region_congr_field (sameOutside_ncsiWr32 _),
    ncsiRd32_ncsiWr32 _ _ _ hframed.room]

/-- **What `ncsi_compute_checksum` writes**: for every packet and every region with its
    checksum field inside it, the code returns, changes the four bytes of the field only,
    forgets what they held, and what it writes there verifies. -/
theorem computeChecksum_verifies (hframed : Framed packet regionStart regionLen) :
    ∃ packet',
      ncsiComputeChecksum packet regionStart regionLen (regionStart + regionLen) = some packet' ∧
        Checksummed packet packet' regionStart regionLen := by
  have hsame : SameOutside (InField regionStart regionLen) packet
      (withChecksum packet regionStart regionLen) := sameOutside_ncsiWr32 _
  have hindependent : ∀ other, SameOutside (InField regionStart regionLen) packet other →
      ncsiComputeChecksum other regionStart regionLen (regionStart + regionLen) =
        some (withChecksum packet regionStart regionLen) := by
    intro other hother
    rw [ncsiComputeChecksum_eq (hframed.of_sameOutside hother), withChecksum_congr hother]
  refine ⟨_, ncsiComputeChecksum_eq hframed, hsame, hindependent _ hsame, hindependent,
    verifies_withChecksum hframed, ?_⟩
  rw [verifyChecksum_eq (hframed.of_sameOutside hsame)]
  exact congrArg some (verifies_withChecksum hframed)

/-- Where the end of the region fits but the last `i + 2` overflows, the word loop comes
    back to the start of the packet and never leaves. -/
theorem checksumWord_eq_none (packet : List UInt8)
    (hend : regionStart.toNat + regionLen.toNat < 2 ^ 32)
    (hwrap : ¬ OffsetsFit regionStart regionLen) :
    checksumWord packet regionStart regionLen = none := by
  unfold OffsetsFit at hwrap
  have hstop : (regionStart + regionLen).toNat = regionStart.toNat + regionLen.toNat := by
    rw [UInt32.toNat_add]
    omega
  have hloop : ∀ (fuel : Nat) (i sum : UInt32), i.toNat % 2 = regionStart.toNat % 2 →
      checksumLoop packet (regionStart + regionLen) fuel i sum = none := by
    intro fuel
    induction fuel with
    | zero => exact fun _ _ _ => rfl
    | succ fuel ih =>
      intro i sum hparity
      have hi2 : (i + 2).toNat = (i.toNat + 2) % 2 ^ 32 := UInt32.toNat_add i 2
      -- an index of this parity is never past the last full word
      have hle : i + 2 ≤ regionStart + regionLen := by
        rw [UInt32.le_iff_toNat_le]
        omega
      rw [checksumLoop, if_pos hle]
      exact ih _ _ (by omega)
  simp only [checksumWord, hloop checksumFuel regionStart 0 rfl]
  rfl

/-! ## Corruption -/

/-- A packet that differs inside one word of its region has another word sum. -/
theorem eq_of_wordSum_region_eq (hframed : Framed packet regionStart regionLen) {k : Nat}
    (hsame : SameOutside (InWord regionStart regionLen k) packet packet')
    (hsum : wordSum (region packet' regionStart.toNat regionLen.toNat) =
      wordSum (region packet regionStart.toNat regionLen.toNat)) : packet' = packet := by
  have hroom := hframed.room
  have hlen : (region packet' regionStart.toNat regionLen.toNat).length =
      (region packet regionStart.toNat regionLen.toNat).length := by
    rw [length_region (by rw [hsame.length]; omega), length_region (by omega)]
  have hsame' : ∀ i, i ≠ 2 * k → i ≠ 2 * k + 1 →
      (region packet' regionStart.toNat regionLen.toNat)[i]? =
        (region packet regionStart.toNat regionLen.toNat)[i]? := by
    intro i hi hi'
    rw [getElem?_region, getElem?_region]
    split
    · refine hsame.byte _ fun hword => ?_
      rcases hword.1 with h | h <;> omega
    · rfl
  have hregion := eq_of_wordSum_eq hlen hsame' hsum
  apply List.ext_getElem?
  intro i
  by_cases hi : InWord regionStart regionLen k i
  · -- a byte of the region is read off the regions
    obtain ⟨hword, hlt⟩ := hi
    have hbyte := congrArg (fun bytes : List UInt8 => bytes[i - regionStart.toNat]?) hregion
    simp only [getElem?_region] at hbyte
    rw [if_pos (by omega), if_pos (by omega),
      show regionStart.toNat + (i - regionStart.toNat) = i by omega] at hbyte
    exact hbyte
  · exact hsame.byte i hi

/-- The receiver's sum, where it is not the one of a good packet. -/
theorem verifyChecksum_ne_zero (hframed : Framed packet regionStart regionLen)
    (hbad : ¬ Verifies (region packet regionStart.toNat regionLen.toNat)
      (ncsiRd32 packet (regionStart.toNat + regionLen.toNat))) :
    ∃ sum, verifyChecksum packet regionStart regionLen (regionStart + regionLen) = some sum ∧
      sum ≠ 0 :=
  ⟨_, verifyChecksum_eq hframed, hbad⟩

theorem verifies_of_verifyChecksum (hframed : Framed packet regionStart regionLen)
    (haccepted : verifyChecksum packet regionStart regionLen (regionStart + regionLen) = some 0) :
    Verifies (region packet regionStart.toNat regionLen.toNat)
      (ncsiRd32 packet (regionStart.toNat + regionLen.toNat)) := by
  rw [verifyChecksum_eq hframed] at haccepted
  exact Option.some.inj haccepted

/-- A verifying packet that was changed inside one word of its region does not verify. -/
theorem not_verifies_of_word (hframed : Framed packet regionStart regionLen)
    (hverifies : Verifies (region packet regionStart.toNat regionLen.toNat)
      (ncsiRd32 packet (regionStart.toNat + regionLen.toNat)))
    {k : Nat} (hsame : SameOutside (InWord regionStart regionLen k) packet packet')
    (hchanged : packet' ≠ packet) :
    ¬ Verifies (region packet' regionStart.toNat regionLen.toNat)
      (ncsiRd32 packet' (regionStart.toNat + regionLen.toNat)) := by
  intro hverifies'
  have hstored : ncsiRd32 packet' (regionStart.toNat + regionLen.toNat) =
      ncsiRd32 packet (regionStart.toNat + regionLen.toNat) :=
    ncsiRd32_congr hsame fun i hle _ hword => absurd hword.2 (Nat.not_lt.mpr hle)
  rw [hstored] at hverifies'
  exact hchanged (eq_of_wordSum_region_eq hframed hsame (wordSum_eq_of_verifies hverifies' hverifies))

/-- A verifying packet with another checksum does not verify. -/
theorem not_verifies_of_field (hframed : Framed packet regionStart regionLen)
    (hverifies : Verifies (region packet regionStart.toNat regionLen.toNat)
      (ncsiRd32 packet (regionStart.toNat + regionLen.toNat)))
    (hsame : SameOutside (InField regionStart regionLen) packet packet')
    (hchanged : packet' ≠ packet) :
    ¬ Verifies (region packet' regionStart.toNat regionLen.toNat)
      (ncsiRd32 packet' (regionStart.toNat + regionLen.toNat)) := by
  intro hverifies'
  rw [region_congr_field hsame] at hverifies'
  have hstored := ((verifies_iff _ _).mp hverifies').trans ((verifies_iff _ _).mp hverifies).symm
  exact hchanged (eq_of_ncsiRd32_eq hframed hsame hstored)

/-- **What the checksum detects**: once `ncsi_compute_checksum` has written it, over a region
    of any length, any change inside one word of the region or of the checksum field alone
    gives the receiver a sum that is not zero; and two packets that both verify, with equal
    checksums, have regions with equal sums. -/
theorem corruption_detected {original : List UInt8}
    (hframed : Framed original regionStart regionLen)
    (hwritten : ncsiComputeChecksum original regionStart regionLen (regionStart + regionLen) =
      some packet) :
    (∀ k corrupted, SameOutside (InWord regionStart regionLen k) packet corrupted →
      corrupted ≠ packet →
      ∃ sum, verifyChecksum corrupted regionStart regionLen (regionStart + regionLen) = some sum ∧
        sum ≠ 0) ∧
    (∀ corrupted, SameOutside (InField regionStart regionLen) packet corrupted →
      corrupted ≠ packet →
      ∃ sum, verifyChecksum corrupted regionStart regionLen (regionStart + regionLen) = some sum ∧
        sum ≠ 0) ∧
    ∀ p pStart pLen q qStart qLen, Framed p pStart pLen → Framed q qStart qLen →
      verifyChecksum p pStart pLen (pStart + pLen) = some 0 →
      verifyChecksum q qStart qLen (qStart + qLen) = some 0 →
      ncsiRd32 p (pStart.toNat + pLen.toNat) = ncsiRd32 q (qStart.toNat + qLen.toNat) →
      wordSum (region p pStart.toNat pLen.toNat) = wordSum (region q qStart.toNat qLen.toNat) := by
  rw [ncsiComputeChecksum_eq hframed] at hwritten
  obtain rfl := Option.some.inj hwritten
  have hframed' : Framed (withChecksum original regionStart regionLen) regionStart regionLen :=
    hframed.of_sameOutside (sameOutside_ncsiWr32 _)
  have hverifies := verifies_withChecksum hframed
  refine ⟨?_, ?_, ?_⟩
  · intro k corrupted hsame hchanged
    apply verifyChecksum_ne_zero (hframed'.of_sameOutside hsame)
    exact not_verifies_of_word hframed' hverifies hsame hchanged
  · intro corrupted hsame hchanged
    apply verifyChecksum_ne_zero (hframed'.of_sameOutside hsame)
    exact not_verifies_of_field hframed' hverifies hsame hchanged
  · intro p pStart pLen q qStart qLen hp hq hacceptedp hacceptedq hstored
    have hverifiesp := verifies_of_verifyChecksum hp hacceptedp
    rw [hstored] at hverifiesp
    exact wordSum_eq_of_verifies hverifiesp (verifies_of_verifyChecksum hq hacceptedq)

end Packets

/-- A region of three bytes and its field. -/
def samplePacket : List UInt8 := [0x12, 0x34, 0x56, 0, 0, 0, 0]

theorem framed_samplePacket : Framed samplePacket 0 3 := ⟨by decide, by decide⟩

/-- The checksum of an odd region verifies. -/
theorem computeChecksum_verifies_sample :
    ∃ packet', ncsiComputeChecksum samplePacket 0 3 (0 + 3) = some packet' ∧
      verifyChecksum packet' 0 3 (0 + 3) = some 0 := by
  obtain ⟨packet', hcomputed, hchecksummed⟩ := computeChecksum_verifies framed_samplePacket
  exact ⟨packet', hcomputed, hchecksummed.accepted⟩

/-- Its last odd byte has been changed. -/
theorem corruption_detected_sample :
    ∃ sum, verifyChecksum [0x12, 0x34, 0x57, 0xFF, 0xFF, 0x97, 0xCC] 0 3 (0 + 3) = some sum ∧
      sum ≠ 0 := by
  have hwritten : ncsiComputeChecksum samplePacket 0 3 (0 + 3) =
      some [0x12, 0x34, 0x56, 0xFF, 0xFF, 0x97, 0xCC] := by
    rw [ncsiComputeChecksum_eq framed_samplePacket]
    decide
  refine (corruption_detected framed_samplePacket hwritten).1 1 _ ⟨rfl, fun i hi => ?_⟩ (by decide)
  match i with
  | 2 => exact absurd ⟨.inl rfl, by decide⟩ hi
  | 0 | 1 | 3 | 4 | 5 | 6 | _ + 7 => rfl

end NcsiResponder
