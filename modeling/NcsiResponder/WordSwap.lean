import NcsiResponder.Lib.Groups
import NcsiResponder.System

/-!
# The word-swapping transmit path

`NCSI_TxBePacket` copies a packet into a buffer of 256 bytes with every full 4-byte group
reversed, and sends that. Its two loops write every byte of the frame once, in order, and
stay inside the packet and the buffer (`swapPacket_moves`); what they leave is
`Groups.reverse`, so sending a frame the same way again gives the packet back
(`txBePacket_swaps`).
-/

namespace NcsiResponder

open BigEndian

/-! ## The loops as byte moves -/

/-- `swapped[to] = packet[from]` -/
def moveByte (packet swapped : List UInt8) (move : Nat × Nat) : Except Fault (List UInt8) := do
  writeAt swapped move.2 (← readAt packet move.1)

/-- The moves of the two loops, in order: where a byte is read, and where it is written. -/
def swapMoves (packetLen : Nat) : List (Nat × Nat) :=
  (List.range packetLen).map fun i => (Groups.index 4 packetLen i, i)

/-- The full-word loop makes the moves of the full words. -/
theorem foldlM_swapFullWord (packet buffer : List UInt8) {packetLen : Nat} (words : Nat)
    (hwords : words ≤ packetLen / 4) :
    (List.range words).foldlM (swapFullWord packet) buffer =
      ((List.range (words * 4)).map fun i => (Groups.index 4 packetLen i, i)).foldlM
        (moveByte packet) buffer := by
  induction words with
  | zero => rfl
  | succ words ih =>
    have hindex : ∀ j < 4, Groups.index 4 packetLen (words * 4 + j) = words * 4 + (3 - j) :=
      fun j hj => Groups.index_group hwords hj
    -- the four moves of one word
    have hword : (List.range 4).map (fun j =>
        (Groups.index 4 packetLen (words * 4 + j), words * 4 + j)) =
        [(words * 4 + 3, words * 4 + 0), (words * 4 + 2, words * 4 + 1),
          (words * 4 + 1, words * 4 + 2), (words * 4 + 0, words * 4 + 3)] := by
      rw [show List.range 4 = [0, 1, 2, 3] from rfl]
      simp only [List.map_cons, List.map_nil, hindex 0 (by decide), hindex 1 (by decide),
        hindex 2 (by decide), hindex 3 (by decide)]
    rw [List.range_succ, List.foldlM_append, ih (Nat.le_of_succ_le hwords), Nat.succ_mul,
      List.range_add, List.map_append, List.foldlM_append, List.map_map]
    congr 1
    funext swapped
    rw [show ((List.range 4).map ((fun i => (Groups.index 4 packetLen i, i)) ∘
      fun j => words * 4 + j)) = _ from hword]
    simp [swapFullWord, moveByte]

/-- The tail loop makes the moves of the bytes behind them. -/
theorem foldlM_copyTailByte (packet swapped : List UInt8) (packetLen : Nat) :
    (List.range' (packetLen / 4 * 4) (packetLen - packetLen / 4 * 4)).foldlM (copyTailByte packet)
        swapped =
      ((List.range' (packetLen / 4 * 4) (packetLen - packetLen / 4 * 4)).map fun i =>
        (Groups.index 4 packetLen i, i)).foldlM (moveByte packet) swapped := by
  have hmap : ((List.range' (packetLen / 4 * 4) (packetLen - packetLen / 4 * 4)).map fun i =>
        (Groups.index 4 packetLen i, i)) =
      (List.range' (packetLen / 4 * 4) (packetLen - packetLen / 4 * 4)).map fun i => (i, i) := by
    apply List.map_congr_left
    intro i hi
    rw [Groups.index_tail (List.mem_range'_1.mp hi).1]
  rw [hmap, List.foldlM_map]
  rfl

/-- **The two loops together**: on any packet they make one move for each index of the frame,
    in order. -/
theorem swapPacket_moves (packet : List UInt8) (packetLen : Nat) :
    swapPacket packet packetLen =
      (swapMoves packetLen).foldlM (moveByte packet) (List.replicate swapBufferSize 0) := by
  have hrange : List.range packetLen = List.range (packetLen / 4 * 4) ++
      List.range' (packetLen / 4 * 4) (packetLen - packetLen / 4 * 4) := by
    have happend := @List.range'_append_1 0 (packetLen / 4 * 4) (packetLen - packetLen / 4 * 4)
    rw [Nat.zero_add, Nat.add_sub_cancel' (Nat.div_mul_le_self packetLen 4)] at happend
    rw [List.range_eq_range', List.range_eq_range']
    exact happend.symm
  unfold swapPacket swapMoves
  dsimp only
  rw [foldlM_swapFullWord packet _ (packetLen / 4) (Nat.le_refl _), hrange, List.map_append,
    List.foldlM_append]
  congr 1
  funext swapped
  exact foldlM_copyTailByte packet swapped packetLen

/-! ## What the moves leave -/

/-- Moves to the first `n` bytes of a buffer, in order, from bytes that the packet has. -/
theorem foldlM_moveByte (packet : List UInt8) (source : Nat → Nat) (n : Nat)
    (buffer : List UInt8) (hbuffer : n ≤ buffer.length)
    (hsource : ∀ i < n, source i < packet.length) :
    ((List.range n).map fun i => (source i, i)).foldlM (moveByte packet) buffer =
      .ok (((List.range n).map fun i => packet.getD (source i) 0) ++ buffer.drop n) := by
  induction n with
  | zero => rfl
  | succ n ih =>
    have hread : readAt packet (source n) = .ok (packet.getD (source n) 0) := by
      have hlt := hsource n (Nat.lt_succ_self n)
      unfold readAt
      rw [List.getD_eq_getElem?_getD, List.getElem?_eq_getElem hlt]
      rfl
    have hwrite : ∀ front : List UInt8, front.length = n →
        ∀ b, writeAt (front ++ buffer.drop n) n b = .ok (front ++ b :: buffer.drop (n + 1)) := by
      intro front hfront b
      unfold writeAt
      rw [if_pos (by rw [List.length_append, List.length_drop]; omega),
        List.set_append_right _ _ (by omega), hfront, Nat.sub_self,
        List.drop_eq_getElem_cons hbuffer]
      rfl
    rw [List.range_succ, List.map_append, List.foldlM_append,
      ih (Nat.le_of_succ_le hbuffer) fun i hi => hsource i (Nat.lt_succ_of_lt hi)]
    simp [moveByte, hread, hwrite, ok_bind]

/-- The bytes those moves collect are the packet with its full words reversed. -/
theorem map_range_index (packet : List UInt8) {packetLen : Nat}
    (hpacket : packetLen ≤ packet.length) :
    ((List.range packetLen).map fun i => packet.getD (Groups.index 4 packetLen i) 0) =
      Groups.reverse 4 (packet.take packetLen) := by
  have hlen := List.length_take_of_le hpacket
  apply List.ext_getElem?
  intro i
  rcases Nat.lt_or_ge i packetLen with hlt | hge
  · have hsource : Groups.index 4 packetLen i < packetLen := Groups.index_lt hlt
    rw [Groups.getElem?_reverse (by rwa [hlen]), hlen, List.getElem?_take, if_pos hsource,
      List.getElem?_map, List.getElem?_range hlt, Option.map_some, List.getD_eq_getElem?_getD,
      List.getElem?_eq_getElem (Nat.lt_of_lt_of_le hsource hpacket)]
    rfl
  · rw [List.getElem?_eq_none (by simpa using hge),
      List.getElem?_eq_none (by rwa [Groups.length_reverse, hlen])]

/-- What the loops leave in the buffer. -/
theorem swapPacket_eq {packet : List UInt8} {packetLen : Nat} (hpacket : packetLen ≤ packet.length)
    (hfits : packetLen ≤ swapBufferSize) :
    swapPacket packet packetLen =
      .ok (Groups.reverse 4 (packet.take packetLen) ++
        List.replicate (swapBufferSize - packetLen) 0) := by
  rw [swapPacket_moves, swapMoves, foldlM_moveByte packet _ packetLen, map_range_index packet hpacket,
    List.drop_replicate]
  · rw [List.length_replicate]
    exact hfits
  · intro i hi
    exact Nat.lt_of_lt_of_le (Groups.index_lt hi) hpacket

/-! ## The frame -/

/-- The four bytes from `off` on as a little-endian word. -/
def littleEndian32 (p : List UInt8) (off : Nat) : UInt32 :=
  be32 (p.getD (off + 3) 0) (p.getD (off + 2) 0) (p.getD (off + 1) 0) (p.getD off 0)

/-- The frame is the packet with its full words reversed. -/
structure WordSwapped (packet frame : List UInt8) (packetLen : Nat) : Prop where
  length : frame.length = packetLen
  word : ∀ g < packetLen / 4, ∀ j < 4, frame[g * 4 + j]? = packet[g * 4 + (3 - j)]?
  be32toh : ∀ g < packetLen / 4,
    littleEndian32 frame (g * 4) = ncsiBe32toh (littleEndian32 packet (g * 4))
  tail : ∀ i < packetLen, packetLen / 4 * 4 ≤ i → frame[i]? = packet[i]?

/-- The loops are their moves, which read and write inside the packet and inside the buffer,
    and write every byte of the frame once. -/
structure MovesInBounds (packet : List UInt8) (packetLen : Nat) : Prop where
  moves : swapPacket packet packetLen =
    (swapMoves packetLen).foldlM (moveByte packet) (List.replicate swapBufferSize 0)
  read : ∀ move ∈ swapMoves packetLen, move.1 < packetLen ∧ move.1 < swapBufferSize
  written : ∀ move ∈ swapMoves packetLen, move.2 < packetLen ∧ move.2 < swapBufferSize
  once : (swapMoves packetLen).map Prod.snd = List.range packetLen

/-- The frame `NCSI_TxBePacket` sends. -/
def swappedFrame (packet : List UInt8) (packetLen : Nat) : List UInt8 :=
  Groups.reverse 4 (packet.take packetLen)

section Frame

variable {packet : List UInt8} {packetLen : Nat}

theorem length_swappedFrame (hpacket : packetLen ≤ packet.length) :
    (swappedFrame packet packetLen).length = packetLen := by
  rw [swappedFrame, Groups.length_reverse, List.length_take_of_le hpacket]

/-- The words of the frame, byte by byte. -/
theorem getElem?_swappedFrame_word (hpacket : packetLen ≤ packet.length) {g j : Nat}
    (hg : g < packetLen / 4) (hj : j < 4) :
    (swappedFrame packet packetLen)[g * 4 + j]? = packet[g * 4 + (3 - j)]? := by
  have hlen := List.length_take_of_le hpacket
  have hlt : g * 4 + (3 - j) < packetLen := by omega
  rw [swappedFrame, Groups.getElem?_reverse_group (by rwa [hlen]) hj, List.getElem?_take,
    if_pos hlt]

theorem wordSwapped_swappedFrame (hpacket : packetLen ≤ packet.length) :
    WordSwapped packet (swappedFrame packet packetLen) packetLen where
  length := length_swappedFrame hpacket
  word _ hg _ hj := getElem?_swappedFrame_word hpacket hg hj
  be32toh g hg := by
    have hbyte : ∀ j < 4, (swappedFrame packet packetLen).getD (g * 4 + j) 0 =
        packet.getD (g * 4 + (3 - j)) 0 := by
      intro j hj
      rw [List.getD_eq_getElem?_getD, List.getD_eq_getElem?_getD,
        getElem?_swappedFrame_word hpacket hg hj]
    unfold littleEndian32
    rw [ncsiBe32toh_be32, hbyte 3 (by decide), hbyte 2 (by decide), hbyte 1 (by decide),
      show g * 4 = g * 4 + 0 from rfl, hbyte 0 (by decide)]
  tail i hi htail := by
    have hlen := List.length_take_of_le hpacket
    rw [swappedFrame, Groups.getElem?_reverse_tail (by rwa [hlen]), List.getElem?_take, if_pos hi]

-- one full word and two bytes behind it
example : swappedFrame [1, 2, 3, 4, 5, 6] 6 = [4, 3, 2, 1, 5, 6] := by decide

/-- A frame that is swapped again is the packet. -/
theorem swappedFrame_swappedFrame (hpacket : packetLen ≤ packet.length) :
    swappedFrame (swappedFrame packet packetLen) packetLen = packet.take packetLen := by
  have htake : (swappedFrame packet packetLen).take packetLen = swappedFrame packet packetLen :=
    List.take_of_length_le (Nat.le_of_eq (length_swappedFrame hpacket))
  rw [swappedFrame, htake]
  exact Groups.reverse_reverse 4 _

theorem movesInBounds (packet : List UInt8) (hfits : packetLen ≤ swapBufferSize) :
    MovesInBounds packet packetLen where
  moves := swapPacket_moves packet packetLen
  read move hmove := by
    obtain ⟨i, hi, rfl⟩ := List.mem_map.mp hmove
    have hlt := @Groups.index_lt 4 packetLen i (List.mem_range.mp hi)
    exact ⟨hlt, Nat.lt_of_lt_of_le hlt hfits⟩
  written move hmove := by
    obtain ⟨i, hi, rfl⟩ := List.mem_map.mp hmove
    have hlt := List.mem_range.mp hi
    exact ⟨hlt, Nat.lt_of_lt_of_le hlt hfits⟩
  once := by
    rw [swapMoves, List.map_map]
    exact List.map_id _

end Frame

/-! ## NCSI_TxBePacket -/

section Hal

variable {hal : Hal} {m : Machine}

theorem liftM_run {α : Type} (x : Except Fault α) (m : Machine) :
    (liftM x : Fw α) m = (x >>= fun a => .ok (a, m)) := by rfl

/-- A packet that fits the buffer is sent once. -/
theorem ncsiTxBePacket_fits (hport : m.engine.port0 = .gPort) {packet : List UInt8}
    {packetLen : Nat} (hpacket : packetLen ≤ packet.length) (hfits : packetLen ≤ swapBufferSize) :
    ncsiTxBePacket hal packet packetLen m =
      .ok ((), { m with
        calls := .txFrame (swappedFrame packet packetLen)
          (hal.txFrame m.calls (swappedFrame packet packetLen)) :: m.calls }) := by
  have hframe : (Groups.reverse 4 (packet.take packetLen) ++
      List.replicate (swapBufferSize - packetLen) 0).take packetLen =
        swappedFrame packet packetLen :=
    List.take_left' (length_swappedFrame hpacket)
  simp [ncsiTxBePacket, ncsiTxPacketInternal, networkTxFrame, hport, Nat.not_lt.mpr hfits,
    liftM_run, swapPacket_eq hpacket hfits, hframe]

/-- A longer one is dropped. -/
theorem ncsiTxBePacket_drops (packet : List UInt8) {packetLen : Nat}
    (hlong : swapBufferSize < packetLen) :
    ncsiTxBePacket hal packet packetLen m = .ok ((), m) := by
  simp [ncsiTxBePacket, ncsiTxPacketInternal, hlong]

/-- **What `NCSI_TxBePacket` sends**: for every packet of at least `packetLen` bytes, one
    frame of that length with the full words reversed if it fits the buffer, from which a
    second call makes the packet again, and nothing if it does not. The engine's storage
    never changes. -/
theorem txBePacket_swaps (hport : m.engine.port0 = .gPort) (packet : List UInt8)
    (packetLen : Nat) (hpacket : packetLen ≤ packet.length) :
    ∃ after, ncsiTxBePacket hal packet packetLen m = .ok ((), after) ∧ after.engine = m.engine ∧
      (packetLen ≤ swapBufferSize →
        MovesInBounds packet packetLen ∧
        ∃ frame sent, after.calls = .txFrame frame sent :: m.calls ∧
          WordSwapped packet frame packetLen ∧
          ∃ again sent', ncsiTxBePacket hal frame packetLen after = .ok ((), again) ∧
            again.calls = .txFrame (packet.take packetLen) sent' :: after.calls) ∧
      (swapBufferSize < packetLen → after.calls = m.calls) := by
  rcases Nat.lt_or_ge swapBufferSize packetLen with hlong | hfits
  · refine ⟨m, ncsiTxBePacket_drops packet hlong, rfl, fun hfits => ?_, fun _ => rfl⟩
    exact absurd hlong (Nat.not_lt.mpr hfits)
  · refine ⟨_, ncsiTxBePacket_fits hport hpacket hfits, rfl, fun _ => ?_, fun hlong => ?_⟩
    · refine ⟨movesInBounds packet hfits, _, _, rfl, wordSwapped_swappedFrame hpacket, ?_⟩
      have hframe : packetLen ≤ (swappedFrame packet packetLen).length :=
        Nat.le_of_eq (length_swappedFrame hpacket).symm
      have hagain := @ncsiTxBePacket_fits hal { m with
        calls := .txFrame (swappedFrame packet packetLen)
          (hal.txFrame m.calls (swappedFrame packet packetLen)) :: m.calls }
        hport _ packetLen hframe hfits
      rw [swappedFrame_swappedFrame hpacket] at hagain
      exact ⟨_, _, hagain, rfl⟩
    · exact absurd hlong (Nat.not_lt.mpr hfits)

end Hal

/-- A packet with one full word and two more bytes. -/
theorem txBePacket_swaps_six :
    ∃ after,
      ncsiTxBePacket sampleHal [1, 2, 3, 4, 5, 6] 6 Machine.registered = .ok ((), after) ∧
      ∃ frame sent, after.calls = [.txFrame frame sent] ∧
        WordSwapped [1, 2, 3, 4, 5, 6] frame 6 := by
  obtain ⟨after, hrun, -, hsends, -⟩ :=
    @txBePacket_swaps sampleHal Machine.registered rfl [1, 2, 3, 4, 5, 6] 6 (by decide)
  obtain ⟨-, frame, sent, hcalls, hswapped, -⟩ := hsends (by decide)
  exact ⟨after, hrun, frame, sent, hcalls, hswapped⟩

end NcsiResponder
