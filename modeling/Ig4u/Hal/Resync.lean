import Ig4u.Hal.Receive
import Ig4u.Hal.Stream

/-!
# Resynchronisation

The receiver is to drop garbage before a frame and to receive the frame. Over the FIFO
driver, on which reads give all they ask for, it searches the sync header among
the `9` bytes it reads first.

* `resyncs_iff`: a garbage of up to `7` bytes is dropped, and the frame reaches the check of
  its length field with all its bytes; of a longer garbage, the search finds no sync header in
  the first read, which takes the first byte of the frame too if it has `8` bytes, and the frame
  is flushed away.
-/

namespace Ig4u.Hal

open Lib Proto

/-- The bytes contain no sync header. -/
def NoSync (g : List UInt8) : Prop := ∀ i, ¬IsSync (fun j => g.getD j 0) i

/-- With the garbage `g`, the frame `F` and then `rest` pending, the receiver reaches the check
    of the length field with the `9` first bytes of `F` at the start of the buffer, the
    bytes after them being still pending; the rest of the call is step 3. -/
def Resyncs (short : CfeStatus) (timeoutMs : ℕ) (buf : List UInt8) (l : List (ℕ × ℕ))
    (g : List UInt8) (F : Frame) (rest : List UInt8) : Prop :=
  ∃ b s, recvHeaderIn (fifo short) buf timeoutMs ⟨true, g ++ F.bytes ++ rest, l⟩ =
      some (.ok (b, headerReadSize, s)) ∧
    b.take headerReadSize = F.bytes.take headerReadSize ∧
    s.drv = (F.bytes ++ rest).drop headerReadSize ∧
    ∀ size, packetOverheadBytes ≤ size →
      recv (fifo short) (some buf) size timeoutMs ⟨true, g ++ F.bytes ++ rest, l⟩ =
        let q := recvPayload (fifo short) b headerReadSize size timeoutMs s
        (q.1, some q.2.1, q.2.2)

/-! ## The FIFO as a stream -/

/-- A read of pending bytes. -/
theorem fifo_apiRead (short : CfeStatus) {q : List UInt8} {len : ℕ} (h : len ≤ q.length)
    (timeoutMs : ℕ) :
    (fifo short).apiRead len timeoutMs q = (⟨.success, q.take len, len⟩, q.drop len) := by
  simp only [fifo, if_pos h, List.length_take, min_eq_left h]

/-- The FIFO gives the bytes it held at first in order. -/
theorem fifo_streams (short : CfeStatus) (w : List UInt8) :
    (fifo short).Streams (fun i => w.getD i 0) fun q p => q = w.drop p ∧ p ≤ w.length where
  count_le len _ q := by simp [fifo]
  stored len _ q p := by
    rintro ⟨rfl, hp⟩
    have hseg : ∀ n, p + n ≤ w.length → segment (fun i => w.getD i 0) p n = (w.drop p).take n := by
      intro n hn
      refine List.ext_getElem (by simp; omega) fun i hi hi' => ?_
      rw [length_segment] at hi
      rw [← List.getD_eq_getElem _ 0 (by simpa using hi), getD_segment _ hi, List.getElem_take,
        List.getElem_drop, List.getD_eq_getElem _ _ (by omega)]
    simp only [fifo, List.length_take, List.length_drop]
    rw [hseg _ (by omega), List.take_eq_take_iff]
    simp
  next len _ q p := by
    rintro ⟨rfl, hp⟩
    simp only [fifo, List.length_take, List.length_drop, List.drop_drop]
    refine ⟨?_, by omega⟩
    rcases Nat.lt_or_ge (w.length - p) len with h | h
    · rw [List.drop_of_length_le (by omega), List.drop_of_length_le (by omega)]
    · rw [min_eq_left h]

variable {short : CfeStatus} {timeoutMs : ℕ} {buf : List UInt8} {l : List (ℕ × ℕ)}
  {g : List UInt8} {F : Frame} {rest : List UInt8}

/-! ## Searching the sync header -/

theorem FirstSync.unique {f : ℕ → UInt8} {m n j k : ℕ} (hj : FirstSync f m j)
    (hk : FirstSync f n k) : j = k := by
  rcases lt_trichotomy j k with h | h | h
  · exact absurd hj.sync (hk.first j h)
  · exact h
  · exact absurd hk.sync (hj.first k h)

/-- There is no sync header before the frame, not even one that ends in it. -/
theorem NoSync.before (hg : NoSync g) {i : ℕ} (hi : i < g.length) :
    ¬IsSync (fun j => (g ++ F.bytes ++ rest).getD j 0) i := by
  rw [List.append_assoc]
  rintro ⟨h₀, h₁⟩
  rcases Nat.lt_or_ge (i + 1) g.length with h | h
  · simp only [List.getD_append _ _ _ _ hi, List.getD_append _ _ _ _ h] at h₀ h₁
    exact hg i ⟨h₀, h₁⟩
  · -- The byte after the garbage is the first one of the frame.
    have hnext : (g ++ (F.bytes ++ rest)).getD (i + 1) 0 = headerByte0 := by
      rw [List.getD_append_right _ _ _ _ h, show i + 1 - g.length = 0 by omega]
      rfl
    exact absurd (hnext.symm.trans h₁) (by decide)

/-- The first sync header is that of the frame. -/
theorem NoSync.firstSync (hg : NoSync g) {n : ℕ} (hn : g.length + 1 < n) :
    FirstSync (fun j => (g ++ F.bytes ++ rest).getD j 0) n g.length := by
  refine ⟨hn, ?_, fun j hj => hg.before hj⟩
  rw [List.append_assoc]
  refine ⟨?_, ?_⟩
  · dsimp only
    rw [List.getD_append_right _ _ _ _ le_rfl, Nat.sub_self]
    rfl
  · dsimp only
    rw [List.getD_append_right _ _ _ _ (Nat.le_add_right _ 1), Nat.add_sub_cancel_left]
    rfl

/-! ## The reads -/

/-- A read of pending bytes stores them, and leaves those after them pending. -/
theorem readInto_fifo {q : List UInt8} {len : ℕ} (h : len ≤ q.length) (off : ℕ) :
    readInto (fifo short) buf off len timeoutMs ⟨true, q, l⟩ =
      (⟨.success, q.take len, len⟩, overwrite buf off (q.take len),
        ⟨true, q.drop len, l ++ [(off, len)]⟩) := by
  simp only [readInto, fifo_apiRead short h]

/-- The header phase with enough bytes pending, after its first read. -/
theorem recvHeaderIn_fifo {w : List UInt8} (hw : headerReadSize ≤ w.length) :
    recvHeaderIn (fifo short) buf timeoutMs ⟨true, w, l⟩ =
      let b := overwrite buf 0 (w.take headerReadSize)
      let s := ⟨true, w.drop headerReadSize, l ++ [(0, headerReadSize)]⟩
      (findSyncHeaderIn (window b headerReadSize) headerReadSize).bind fun syncOffset =>
        if syncOffset < 0 then some (.error (halErrRecv, b, flushRx (fifo short) s))
        else if 0 < syncOffset then
          realignIn (fifo short) b headerReadSize syncOffset.toNat timeoutMs s
        else some (.ok (b, headerReadSize, s)) := by
  have h9 : ¬headerReadSize = 0 := by decide
  simp only [recvHeaderIn, readInto_fifo hw, ne_eq, not_true_eq_false, h9, or_self, if_false]

/-- What the first read receives. -/
theorem received_first {w : List UInt8} (hw : headerReadSize ≤ w.length)
    (hbuf : headerReadSize ≤ buf.length) :
    Received (fun i => w.getD i 0) (fun q p => q = w.drop p ∧ p ≤ w.length)
      (overwrite buf 0 (w.take headerReadSize)) headerReadSize 0
      (⟨true, w.drop headerReadSize, l ++ [(0, headerReadSize)]⟩ : State (List UInt8)) := by
  have h₀ : Received (fun i => w.getD i 0) (fun q p => q = w.drop p ∧ p ≤ w.length) buf 0 0
      (⟨true, w, l⟩ : State (List UInt8)) := ⟨Nat.zero_le _, rfl, rfl, Nat.zero_le _⟩
  have hfits : 0 + headerReadSize ≤ buf.length := by rwa [zero_add]
  obtain ⟨-, -, h⟩ := h₀.readInto (fifo_streams .success w) hfits 0
  rwa [readInto_fifo hw, zero_add] at h

/-- A realignment whose second read gives all it asks for completes the header. -/
theorem realignIn_full {δ : Type*} {d : Srl δ} {str : ℕ → UInt8} {pos : δ → ℕ → Prop}
    (hd : d.Streams str pos) {b : List UInt8} {p k : ℕ} {s : State δ}
    (h : Received str pos b headerReadSize p s) (hk : 0 < k) (hk9 : k < headerReadSize)
    (hstatus : (d.apiRead k timeoutMs s.drv).1.status = .success)
    (hcount : (d.apiRead k timeoutMs s.drv).1.count = k) :
    ∃ b' s', realignIn d b headerReadSize k timeoutMs s = some (.ok (b', headerReadSize, s')) ∧
      Received str pos b' headerReadSize (p + k) s' := by
  have hle : headerReadSize - k ≤ headerReadSize := Nat.sub_le _ _
  have h₁ : sub32In headerReadSize k = some (headerReadSize - k) :=
    sub32In_eq_some.2 ⟨hk9.le, sub32_eq hk9.le (by decide)⟩
  have h₂ : sub32In headerReadSize (headerReadSize - k) = some k :=
    sub32In_eq_some.2 ⟨hle, (sub32_eq hle (by decide)).trans (Nat.sub_sub_self hk9.le)⟩
  have hadd : headerReadSize - k + k = headerReadSize := Nat.sub_add_cancel hk9.le
  obtain ⟨hsize, hrec⟩ := h.drop hk9.le
  obtain ⟨-, -, hrec'⟩ := hrec.readInto hd (by rw [hsize, hadd]; exact h.le) timeoutMs
  set b₁ := overwrite b 0 ((b.drop k).take (headerReadSize - k))
  have hr : (readInto d b₁ (headerReadSize - k) k timeoutMs s).1.status = .success := hstatus
  have hn : (readInto d b₁ (headerReadSize - k) k timeoutMs s).1.count = k := hcount
  rw [hn, hadd] at hrec'
  refine ⟨_, _, ?_, hrec'⟩
  rw [realignIn, h₁, Option.bind_some]
  simp only [h₂, Option.bind_some, if_pos hk]
  rw [if_neg (not_not.2 hr), hn, add32_eq (hadd.trans_lt (by decide)), hadd]

/-! ## Resynchronisation -/

/-- The `9` bytes after a garbage are the first ones of the frame. -/
theorem segment_frame (n : ℕ) (hn : n ≤ F.bytes.length) :
    segment (fun i => (g ++ F.bytes ++ rest).getD i 0) g.length n = F.bytes.take n := by
  refine List.ext_getElem (by simpa using hn) fun i hi hi' => ?_
  rw [length_segment] at hi
  rw [← List.getD_eq_getElem _ 0 (by simpa using hi), getD_segment _ hi, List.getElem_take]
  rw [List.append_assoc, List.getD_append_right _ _ _ _ (Nat.le_add_right _ _),
    Nat.add_sub_cancel_left, List.getD_append _ _ _ _ (by omega), List.getD_eq_getElem]

/-- A first read and the garbage have so many bytes pending. -/
theorem pending_le : headerReadSize + g.length ≤ (g ++ F.bytes ++ rest).length := by
  have hF : headerReadSize ≤ F.bytes.length := F.overhead_le_length
  rw [List.length_append, List.length_append]
  omega

variable (g F rest) in
/-- What the search makes of the first bytes read. -/
theorem findSyncHeaderIn_first (hbuf : headerReadSize ≤ buf.length) :
    let w := g ++ F.bytes ++ rest
    let found := findSyncHeaderIn
      (window (overwrite buf 0 (w.take headerReadSize)) headerReadSize) headerReadSize
    (∃ k, FirstSync (fun j => w.getD j 0) headerReadSize k ∧ found = some (k : ℤ)) ∨
      (∀ j, j + 1 < headerReadSize → ¬IsSync (fun j => w.getD j 0) j) ∧ found = some (-1) := by
  intro w
  have hrec := received_first (l := []) (le_of_add_le_left (pending_le : _ ≤ w.length)) hbuf
  have hmem := findSyncHeaderIn_cases (by decide : headerReadSize < 2 ^ 32)
    fun i hi => hrec.window hi
  simpa only [zero_add] using hmem

section

variable (short timeoutMs l F rest)

/-- After a short garbage, the search finds the frame, and the second read completes its
    header. -/
theorem recvHeaderIn_short (hg : NoSync g) (h7 : g.length ≤ 7)
    (hbuf : headerReadSize ≤ buf.length) :
    let w := g ++ F.bytes ++ rest
    ∃ b s, recvHeaderIn (fifo short) buf timeoutMs ⟨true, w, l⟩ =
        some (.ok (b, headerReadSize, s)) ∧
      Received (fun i => w.getD i 0) (fun q p => q = w.drop p ∧ p ≤ w.length)
        b headerReadSize g.length s := by
  intro w
  have h9 : headerReadSize = 9 := rfl
  have hw : headerReadSize + g.length ≤ w.length := pending_le
  have hw9 : headerReadSize ≤ w.length := le_of_add_le_left hw
  have hrec := received_first (l := l) hw9 hbuf
  have hfirst : FirstSync (fun j => w.getD j 0) headerReadSize g.length :=
    hg.firstSync (by omega)
  rcases findSyncHeaderIn_first g F rest hbuf with ⟨k, hk, he⟩ | ⟨hnone, -⟩
  · obtain rfl := hk.unique hfirst
    rw [recvHeaderIn_fifo hw9]
    simp only [w, he, Option.bind_some, if_neg (Int.natCast_nonneg g.length).not_gt,
      Int.toNat_natCast]
    split_ifs with hpos
    · have hpending : g.length ≤ (w.drop headerReadSize).length := by
        rw [List.length_drop]
        omega
      have hread := fifo_apiRead short hpending timeoutMs
      have h := realignIn_full (fifo_streams short _) hrec (by omega) (by omega)
        (congrArg (fun r => r.1.status) hread) (congrArg (fun r => r.1.count) hread)
      rwa [zero_add] at h
    · rw [show g.length = 0 by omega]
      exact ⟨_, _, rfl, hrec⟩
  · exact absurd hfirst.sync (hnone _ hfirst.inside)

/-- The first read after a longer garbage takes at most the first byte of the frame, and the search
    finds no sync header. -/
theorem recvHeaderIn_long (hg : NoSync g) (h7 : ¬g.length ≤ 7)
    (hbuf : headerReadSize ≤ buf.length) :
    ∃ b s, recvHeaderIn (fifo short) buf timeoutMs ⟨true, g ++ F.bytes ++ rest, l⟩ =
      some (.error (halErrRecv, b, s)) := by
  have h9 : headerReadSize = 9 := rfl
  rw [recvHeaderIn_fifo (le_of_add_le_left pending_le)]
  rcases findSyncHeaderIn_first g F rest hbuf with ⟨k, hk, -⟩ | ⟨-, he⟩
  · have hk' := hk.inside
    exact absurd hk.sync (hg.before (by omega))
  · simp only [he, Option.bind_some, if_pos (show (-1 : ℤ) < 0 by decide)]
    exact ⟨_, _, rfl⟩

end

/-- A garbage without a sync header is dropped, and the frame after it kept, exactly if it has at
    most `7` bytes. -/
theorem resyncs_iff (hg : NoSync g) (hbuf : headerReadSize ≤ buf.length) :
    Resyncs short timeoutMs buf l g F rest ↔ g.length ≤ 7 := by
  by_cases h7 : g.length ≤ 7
  · refine iff_of_true ?_ h7
    obtain ⟨b, s, hh, hb⟩ := recvHeaderIn_short short timeoutMs l F rest hg h7 hbuf
    have hF : headerReadSize ≤ F.bytes.length := F.overhead_le_length
    refine ⟨b, s, hh, hb.bytes.trans (segment_frame _ hF), ?_, fun size hsize => ?_⟩
    · rw [hb.next.1, List.append_assoc, ← List.drop_drop, List.drop_left]
    · have hcount :=
        (fifo_streams short []).count_le headerReadSize timeoutMs (g ++ F.bytes ++ rest)
      exact recvHeaderIn_sound (hcount.trans_lt (by decide)) hh rfl hsize
  · refine iff_of_false ?_ h7
    rintro ⟨b, s, hh, -⟩
    obtain ⟨b', s', he⟩ := recvHeaderIn_long short timeoutMs l F rest hg h7 hbuf
    cases hh.symm.trans he

/-- Two bytes of garbage, the second of which looks like the start of a frame. -/
theorem resyncs_two :
    Resyncs .success 500 (List.replicate 265 0) [] [0x13, 0xAA] pingAck [] := by
  have hg : NoSync [0x13, 0xAA] := by
    intro i h
    rcases i with - | - | i
    · exact absurd h.1 (by decide)
    · exact absurd h.2 (by decide)
    · exact absurd (show (0 : UInt8) = headerByte0 from h.1) (by decide)
  have hbuf : headerReadSize ≤ (List.replicate 265 (0 : UInt8)).length := by
    rw [List.length_replicate]
    decide
  exact (resyncs_iff hg hbuf).2 (by decide)

/-- After eight bytes of garbage, the acknowledgement of a Ping is lost. -/
theorem not_resyncs_eight :
    NoSync (List.replicate 8 0x13) ∧
      ¬Resyncs .success 500 (List.replicate 265 0) [] (List.replicate 8 0x13) pingAck [] := by
  constructor
  · rintro i ⟨h, -⟩
    dsimp only at h
    rw [List.getD_eq_getElem?_getD, List.getElem?_replicate] at h
    split_ifs at h
    · exact absurd h (by decide)
    · exact absurd h (by decide)
  · rintro ⟨b, s, hh, -⟩
    have herror : (recvHeaderIn (fifo .success) (List.replicate 265 0) 500
        ⟨true, List.replicate 8 0x13 ++ pingAck.bytes ++ [], []⟩).map Except.toBool =
        some false := by decide +kernel
    rw [hh] at herror
    simp [Except.toBool] at herror

end Ig4u.Hal
