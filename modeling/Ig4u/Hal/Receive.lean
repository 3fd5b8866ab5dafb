import Ig4u.Hal.Basic

/-!
# The safety of the receiver

The receiver of the HAL over any driver that gives the bytes of a stream in order
(`Srl.Streams`): a read gives at most as many bytes as asked for, consecutive from
the stream, and reports their number, with any status.

* `recvIn`: the receiver with its unsigned subtractions checked, and the received bytes
  read from a memory that has no others; `recvIn_sound`: where it succeeds, it is
  the receiver.
* `Received`: what the receiver keeps from its first read on. The buffer starts with a run
  of the stream, which ends where the driver goes on.
* `recv_safe`: it always succeeds, its reads stay within the buffer, and what it returns is a
  run of the stream starting with the first sync header of the first chunk.
-/

namespace Ig4u

open Lib Proto

/-! ## Streams -/

/-- The `n` bytes of a stream from the position `p` on. -/
def segment (str : ℕ → UInt8) (p n : ℕ) : List UInt8 := (List.range' p n).map str

@[simp]
theorem length_segment (str : ℕ → UInt8) (p n : ℕ) : (segment str p n).length = n := by
  simp [segment]

theorem segment_append (str : ℕ → UInt8) (p m n : ℕ) :
    segment str p m ++ segment str (p + m) n = segment str p (m + n) := by
  rw [segment, segment, segment, ← List.map_append, List.range'_append_1]

theorem getD_segment (str : ℕ → UInt8) {p n i : ℕ} (h : i < n) :
    (segment str p n).getD i 0 = str (p + i) := by
  rw [List.getD_eq_getElem _ _ (by simpa using h)]
  simp [segment]

theorem drop_segment (str : ℕ → UInt8) {p n k : ℕ} (h : k ≤ n) :
    (segment str p n).drop k = segment str (p + k) (n - k) := by
  obtain ⟨m, rfl⟩ := Nat.exists_eq_add_of_le h
  rw [← segment_append, List.drop_left' (length_segment str p k), Nat.add_sub_cancel_left]

/-- The driver gives the bytes of the stream `str`; in a state `s` with `at s p`, from
    the position `p` on. -/
structure Srl.Streams {δ : Type*} (d : Srl δ) (str : ℕ → UInt8) (pos : δ → ℕ → Prop) : Prop where
  count_le : ∀ len timeout s, (d.apiRead len timeout s).1.count ≤ len
  stored : ∀ len timeout s p, pos s p →
    (d.apiRead len timeout s).1.stored = segment str p (d.apiRead len timeout s).1.count
  next : ∀ len timeout s p, pos s p →
    pos (d.apiRead len timeout s).2 (p + (d.apiRead len timeout s).1.count)

/-- The bytes `i` and `i + 1` of a function are the sync header. -/
def IsSync (f : ℕ → UInt8) (i : ℕ) : Prop := f i = headerByte0 ∧ f (i + 1) = headerByte1

instance (f : ℕ → UInt8) (i : ℕ) : Decidable (IsSync f i) :=
  inferInstanceAs (Decidable (f i = headerByte0 ∧ f (i + 1) = headerByte1))

namespace Hal

variable {δ : Type*} (d : Srl δ)

/-! ## The receiver with its checks made explicit -/

/-- An unsigned subtraction that does not wrap. -/
def sub32In (a b : ℕ) : Option ℕ := if b ≤ a then some (sub32 a b) else none

/-- The loop of `IG4U_Proto_FindSyncHeader`, on a memory that may fail. -/
def findSyncIn (mem : ℕ → Option UInt8) (i : ℕ) : ℕ → Option ℤ
  | 0 => some (-1)
  | n + 1 => do
    let b₀ ← mem i
    let b₁ ← mem (i + 1)
    if b₀ = headerByte0 ∧ b₁ = headerByte1 then some (i : ℤ) else findSyncIn mem (i + 1) n

/-- `IG4U_Proto_FindSyncHeader`, on a memory that may fail. -/
def findSyncHeaderIn (mem : ℕ → Option UInt8) (bufLen : ℕ) : Option ℤ :=
  if bufLen < 2 then some (-1) else (sub32In bufLen 1).bind (findSyncIn mem 0)

/-- Step 2 of `IG4U_HAL_Recv`, with the sync header at the offset `sync`. -/
def realignIn (buf : List UInt8) (bytesRead sync timeoutMs : ℕ) (s : State δ) :
    Option (Except (ℤ × List UInt8 × State δ) (List UInt8 × ℕ × State δ)) :=
  (sub32In bytesRead sync).bind fun bytesRead =>
    let buf := overwrite buf 0 ((buf.drop sync).take bytesRead)
    (sub32In headerReadSize bytesRead).bind fun remain =>
      if 0 < remain then
        let r := readInto d buf bytesRead remain timeoutMs s
        if r.1.status ≠ .success then some (.error (halErrTimeout, r.2))
        else some (.ok (r.2.1, add32 bytesRead r.1.count, r.2.2))
      else some (.ok (buf, bytesRead, s))

/-- Steps 1 and 2 of `IG4U_HAL_Recv`, up to the check of the number of bytes of the header:
    what the call returns, or the buffer and the number of bytes received. -/
def recvHeaderIn (buf : List UInt8) (timeoutMs : ℕ) (s : State δ) :
    Option (Except (ℤ × List UInt8 × State δ) (List UInt8 × ℕ × State δ)) :=
  let r := readInto d buf 0 headerReadSize timeoutMs s
  if r.1.status ≠ .success ∨ r.1.count = 0 then some (.error (halErrTimeout, r.2))
  else (findSyncHeaderIn (window r.2.1 r.1.count) r.1.count).bind fun syncOffset =>
    if syncOffset < 0 then some (.error (halErrRecv, r.2.1, flushRx d r.2.2))
    else if 0 < syncOffset then realignIn d r.2.1 r.1.count syncOffset.toNat timeoutMs r.2.2
    else some (.ok (r.2.1, r.1.count, r.2.2))

/-- Step 3 of `IG4U_HAL_Recv`. -/
def recvPayloadIn (buf : List UInt8) (bytesRead size timeoutMs : ℕ) (s : State δ) :
    Option (ℤ × List UInt8 × State δ) :=
  if bytesRead < headerReadSize then some (halErrRecv, buf, s)
  else (window buf bytesRead 5).bind fun b₅ => (window buf bytesRead 6).bind fun b₆ =>
    let payloadLen := (word16 b₅ b₆).toNat
    if packetMaxPayload < payloadLen then some (halErrRecv, buf, flushRx d s)
    else
      let remain := add32 payloadLen 2
      if size < add32 bytesRead remain then some (halErrRecv, buf, s)
      else if 0 < remain then
        let r := readInto d buf bytesRead remain timeoutMs s
        if r.1.status ≠ .success ∨ r.1.count ≠ remain then some (halErrTimeout, r.2)
        else some ((add32 bytesRead r.1.count : ℕ), r.2)
      else some (bytesRead, buf, s)

/-- `IG4U_HAL_Recv`. -/
def recvIn (buf : Option (List UInt8)) (size timeoutMs : ℕ) (s : State δ) :
    Option (ℤ × Option (List UInt8) × State δ) :=
  if ¬s.initialized then some (halErrNotInit, buf, s)
  else
    match buf with
    | none => some (halErrRecv, none, s)
    | some buf =>
      if size < packetOverheadBytes then some (halErrRecv, some buf, s)
      else (recvHeaderIn d buf timeoutMs s).bind fun
        | .error r => some (r.1, some r.2.1, r.2.2)
        | .ok h => (recvPayloadIn d h.1 h.2.1 size timeoutMs h.2.2).map fun r =>
          (r.1, some r.2.1, r.2.2)

/-! ## Where the checks succeed -/

theorem sub32_eq {a b : ℕ} (h : b ≤ a) (ha : a < 2 ^ 32) : sub32 a b = a - b := by
  rw [sub32]
  omega

theorem sub32In_eq_some {a b c : ℕ} : sub32In a b = some c ↔ b ≤ a ∧ sub32 a b = c := by
  rw [sub32In]
  split_ifs with h <;> simp [h]

theorem window_eq {buf : List UInt8} {n i : ℕ} {b : UInt8} (h : window buf n i = some b) :
    buf.getD i 0 = b := by
  rw [window, List.getElem?_take] at h
  split_ifs at h with hi
  rw [List.getD_eq_getElem?_getD, h, Option.getD_some]

theorem findSyncIn_sound {buf : List UInt8} {m n i : ℕ} {v : ℤ}
    (h : findSyncIn (window buf m) i n = some v) : findSyncFrom buf i n = v := by
  -- The induction is on the iterations left.
  induction n generalizing i with
  | zero => simpa [findSyncIn, findSyncFrom] using h
  | succ n ih =>
    simp only [findSyncIn, Option.bind_eq_bind, Option.bind_eq_some_iff] at h
    obtain ⟨b₀, h₀, b₁, h₁, h⟩ := h
    rw [findSyncFrom, window_eq h₀, window_eq h₁]
    split_ifs at h ⊢ with hs
    · exact Option.some.inj h
    · exact ih h

theorem findSyncHeaderIn_sound {buf : List UInt8} {n : ℕ} {v : ℤ} (hn : n < 2 ^ 32)
    (h : findSyncHeaderIn (window buf n) n = some v) : findSyncHeader (some buf) n = v := by
  simp only [findSyncHeaderIn, findSyncHeader] at h ⊢
  split_ifs at h ⊢ with h2
  · exact Option.some.inj h
  · obtain ⟨m, hm, h⟩ := Option.bind_eq_some_iff.1 h
    obtain ⟨hle, rfl⟩ := sub32In_eq_some.1 hm
    rw [sub32_eq hle hn] at h
    exact findSyncIn_sound h

variable {d}

/-- What follows the header phase of the receiver: it returns, or goes on to step 3. -/
def afterHeader (size timeoutMs : ℕ) :
    Except (ℤ × List UInt8 × State δ) (List UInt8 × ℕ × State δ) → ℤ × List UInt8 × State δ
  | .error r => r
  | .ok h => recvPayload d h.1 h.2.1 size timeoutMs h.2.2

theorem realignIn_sound {buf : List UInt8} {bytesRead sync timeoutMs : ℕ} {s : State δ}
    {h : Except (ℤ × List UInt8 × State δ) (List UInt8 × ℕ × State δ)}
    (hr : realignIn d buf bytesRead sync timeoutMs s = some h) (size : ℕ) :
    realign d buf bytesRead sync size timeoutMs s = afterHeader (d := d) size timeoutMs h := by
  obtain ⟨n, hn, hr⟩ := Option.bind_eq_some_iff.1 hr
  obtain ⟨remain, hremain, hr⟩ := Option.bind_eq_some_iff.1 hr
  obtain ⟨-, rfl⟩ := sub32In_eq_some.1 hn
  obtain ⟨-, rfl⟩ := sub32In_eq_some.1 hremain
  dsimp only at hr
  simp only [realign]
  split_ifs at hr ⊢ with h0 hs <;> obtain rfl := Option.some.inj hr <;> rfl

/-- The header phase, where it succeeds, is that of the receiver. -/
theorem recvHeaderIn_sound {buf : List UInt8} {timeoutMs : ℕ} {s : State δ}
    {h : Except (ℤ × List UInt8 × State δ) (List UInt8 × ℕ × State δ)}
    (hcount : (d.apiRead headerReadSize timeoutMs s.drv).1.count < 2 ^ 32)
    (hh : recvHeaderIn d buf timeoutMs s = some h) (hs : s.initialized) {size : ℕ}
    (hsize : packetOverheadBytes ≤ size) :
    recv d (some buf) size timeoutMs s =
      ((afterHeader (d := d) size timeoutMs h).1, some (afterHeader (d := d) size timeoutMs h).2.1,
        (afterHeader (d := d) size timeoutMs h).2.2) := by
  simp only [recvHeaderIn] at hh
  rw [recv, if_neg (not_not.2 hs)]
  simp only [if_neg (not_lt.2 hsize)]
  split_ifs at hh with hr
  · obtain rfl := Option.some.inj hh
    rw [if_pos hr]
    rfl
  · obtain ⟨v, hv, hh⟩ := Option.bind_eq_some_iff.1 hh
    have hv' : findSyncHeader (some (readInto d buf 0 headerReadSize timeoutMs s).2.1)
        (readInto d buf 0 headerReadSize timeoutMs s).1.count = v :=
      findSyncHeaderIn_sound hcount hv
    rw [if_neg hr, hv']
    split_ifs at hh ⊢ with hneg hpos
    · obtain rfl := Option.some.inj hh
      rfl
    · rw [realignIn_sound hh]
    · obtain rfl := Option.some.inj hh
      rfl

theorem recvPayloadIn_sound {buf : List UInt8} {bytesRead size timeoutMs : ℕ} {s : State δ}
    {r : ℤ × List UInt8 × State δ} (hr : recvPayloadIn d buf bytesRead size timeoutMs s = some r) :
    recvPayload d buf bytesRead size timeoutMs s = r := by
  simp only [recvPayloadIn] at hr
  rw [recvPayload]
  split_ifs at hr ⊢ with hn
  · exact Option.some.inj hr
  · obtain ⟨b₅, h₅, hr⟩ := Option.bind_eq_some_iff.1 hr
    obtain ⟨b₆, h₆, hr⟩ := Option.bind_eq_some_iff.1 hr
    rw [window_eq h₅, window_eq h₆]
    dsimp only at hr ⊢
    split_ifs at hr ⊢ <;> exact Option.some.inj hr

/-- Where the receiver succeeds with its checks, it does the same without them. -/
theorem recvIn_sound {buf : List UInt8} {size timeoutMs : ℕ} {s : State δ}
    {r : ℤ × Option (List UInt8) × State δ}
    (hcount : (d.apiRead headerReadSize timeoutMs s.drv).1.count < 2 ^ 32)
    (hr : recvIn d (some buf) size timeoutMs s = some r) :
    recv d (some buf) size timeoutMs s = r := by
  rw [recvIn] at hr
  split_ifs at hr with hs hsize
  · rw [recv, if_neg (not_not.2 hs)]
    simp only [if_pos hsize]
    exact Option.some.inj hr
  · obtain ⟨h, hh, hr⟩ := Option.bind_eq_some_iff.1 hr
    rw [recvHeaderIn_sound hcount hh hs (not_lt.1 hsize)]
    cases h with
    | error r => exact Option.some.inj hr
    | ok h =>
      obtain ⟨q, hq, rfl⟩ := Option.map_eq_some_iff.1 hr
      rw [afterHeader, recvPayloadIn_sound hq]
  · rw [recv, if_pos hs]
    exact Option.some.inj hr

/-! ## What is received -/

variable {str : ℕ → UInt8} {pos : δ → ℕ → Prop}

/-- The buffer starts with the `n` bytes of the stream from the position `p` on, and the
    driver goes on after them. -/
structure Received (str : ℕ → UInt8) (pos : δ → ℕ → Prop) (buf : List UInt8) (n p : ℕ)
    (s : State δ) : Prop where
  le : n ≤ buf.length
  bytes : buf.take n = segment str p n
  next : pos s.drv (p + n)

/-- A read stores the next bytes of the stream behind those received. -/
theorem Received.readInto (hd : d.Streams str pos) {buf : List UInt8} {n p : ℕ} {s : State δ}
    (h : Received str pos buf n p s) {len : ℕ} (hlen : n + len ≤ buf.length) (timeoutMs : ℕ) :
    let r := Hal.readInto d buf n len timeoutMs s
    r.2.1.length = buf.length ∧ r.1.count ≤ len ∧
      Received str pos r.2.1 (n + r.1.count) p r.2.2 := by
  intro r
  have hcount : r.1.count ≤ len := hd.count_le len timeoutMs s.drv
  have hstored : r.1.stored = segment str (p + n) r.1.count := hd.stored _ _ _ _ h.next
  have hlength : r.1.stored.length = r.1.count := by rw [hstored, length_segment]
  have hbuf : r.2.1 = overwrite buf n r.1.stored := rfl
  have hsize : r.2.1.length = buf.length := by
    rw [hbuf, length_overwrite (by omega)]
  refine ⟨hsize, hcount, by omega, ?_, ?_⟩
  · rw [hbuf, ← hlength, take_overwrite h.le, h.bytes, hstored, segment_append, length_segment]
  · rw [← add_assoc]
    exact hd.next _ _ _ _ h.next

/-- Dropping the first bytes received. -/
theorem Received.drop {buf : List UInt8} {n p : ℕ} {s : State δ} (h : Received str pos buf n p s)
    {k : ℕ} (hk : k ≤ n) :
    let b := overwrite buf 0 ((buf.drop k).take (n - k))
    b.length = buf.length ∧ Received str pos b (n - k) (p + k) s := by
  have hn := h.le
  have hdata : (buf.drop k).take (n - k) = segment str (p + k) (n - k) := by
    rw [← List.drop_take, h.bytes, drop_segment str hk]
  have hlength : (segment str (p + k) (n - k)).length = n - k := length_segment _ _ _
  have hsize : (overwrite buf 0 (segment str (p + k) (n - k))).length = buf.length :=
    length_overwrite (by omega)
  rw [hdata]
  refine ⟨hsize, by omega, ?_, ?_⟩
  · have htake : (overwrite buf 0 (segment str (p + k) (n - k))).take
        (0 + (segment str (p + k) (n - k)).length) = buf.take 0 ++ segment str (p + k) (n - k) :=
      take_overwrite buf.length.zero_le
    rwa [hlength, zero_add, List.take_zero, List.nil_append] at htake
  · rw [add_assoc, Nat.add_sub_cancel' hk]
    exact h.next

/-- The bytes received are in the memory of the received bytes. -/
theorem Received.window {buf : List UInt8} {n p : ℕ} {s : State δ}
    (h : Received str pos buf n p s) {i : ℕ} (hi : i < n) :
    Lib.window buf n i = some (str (p + i)) := by
  rw [Lib.window, h.bytes, List.getElem?_eq_getElem (by simpa using hi)]
  simp [segment]

/-- The first sync header among the bytes `0` to `n - 1` of a function is at `k`. -/
structure FirstSync (f : ℕ → UInt8) (n k : ℕ) : Prop where
  inside : k + 1 < n
  sync : IsSync f k
  first : ∀ j < k, ¬IsSync f j

/-- The loop of the search finds the first sync header from its index on. -/
theorem findSyncIn_cases {mem : ℕ → Option UInt8} {f : ℕ → UInt8} {m : ℕ}
    (hmem : ∀ i < m, mem i = some (f i)) (n i : ℕ) (h : i + n < m) :
    (∃ k, i ≤ k ∧ k < i + n ∧ IsSync f k ∧ (∀ j, i ≤ j → j < k → ¬IsSync f j) ∧
      findSyncIn mem i n = some (k : ℤ)) ∨
    (∀ j, i ≤ j → j < i + n → ¬IsSync f j) ∧ findSyncIn mem i n = some (-1) := by
  -- The induction is on the iterations left.
  induction n generalizing i with
  | zero => exact .inr ⟨fun j h₁ h₂ => absurd h₂ (by omega), rfl⟩
  | succ n ih =>
    have hfind : findSyncIn mem i (n + 1) =
        if IsSync f i then some (i : ℤ) else findSyncIn mem (i + 1) n := by
      simp only [findSyncIn, hmem i (by omega), hmem (i + 1) (by omega), Option.bind_eq_bind,
        Option.bind_some]
      rfl
    rw [hfind]
    by_cases hs : IsSync f i
    · exact .inl ⟨i, le_rfl, by omega, hs, fun j h₁ h₂ => absurd h₂ (by omega), if_pos hs⟩
    · have hnot : ∀ k, (∀ j, i + 1 ≤ j → j < k → ¬IsSync f j) → ∀ j, i ≤ j → j < k → ¬IsSync f j :=
        fun k hk j h₁ h₂ => by
          rcases h₁.eq_or_lt with rfl | hlt
          · exact hs
          · exact hk j hlt h₂
      rw [if_neg hs]
      rcases ih (i + 1) (by omega) with ⟨k, hik, hk, hsync, hfirst, he⟩ | ⟨hnone, he⟩
      · exact .inl ⟨k, by omega, by omega, hsync, hnot k hfirst, he⟩
      · exact .inr ⟨hnot (i + (n + 1)) fun j h₁ h₂ => hnone j h₁ (by omega), he⟩

/-- The search of the sync header among `n` bytes. -/
theorem findSyncHeaderIn_cases {mem : ℕ → Option UInt8} {f : ℕ → UInt8} {n : ℕ}
    (hn : n < 2 ^ 32) (hmem : ∀ i < n, mem i = some (f i)) :
    (∃ k, FirstSync f n k ∧ findSyncHeaderIn mem n = some (k : ℤ)) ∨
      (∀ j, j + 1 < n → ¬IsSync f j) ∧ findSyncHeaderIn mem n = some (-1) := by
  rw [findSyncHeaderIn]
  split_ifs with h2
  · exact .inr ⟨fun j hj => absurd hj (by omega), rfl⟩
  · have hsub : sub32In n 1 = some (n - 1) :=
      sub32In_eq_some.2 ⟨by omega, sub32_eq (by omega) hn⟩
    rw [hsub, Option.bind_some]
    rcases findSyncIn_cases hmem (n - 1) 0 (by omega) with ⟨k, -, hk, hs, hfirst, he⟩ | ⟨hnone, he⟩
    · exact .inl ⟨k, ⟨by omega, hs, fun j hj => hfirst j (by omega) hj⟩, he⟩
    · exact .inr ⟨fun j hj => hnone j (by omega) (by omega), he⟩

/-! ## The phases of the receiver -/

/-- Every read between the states `s` and `s'` stays within the first `size` bytes. -/
def Within (size : ℕ) (s s' : State δ) : Prop :=
  ∃ new, s'.reads = s.reads ++ new ∧ ∀ r ∈ new, r.1 + r.2 ≤ size

theorem Within.trans {m n : ℕ} {s s' s'' : State δ} (h : Within m s s') (h' : Within n s' s'')
    (hmn : m ≤ n) : Within n s s'' := by
  obtain ⟨new, hnew, hle⟩ := h
  obtain ⟨new', hnew', hle'⟩ := h'
  refine ⟨new ++ new', by rw [hnew', hnew, List.append_assoc], fun r hr => ?_⟩
  rcases List.mem_append.1 hr with hr | hr
  · exact (hle r hr).trans hmn
  · exact hle' r hr

/-- The flush reads into a buffer of its own. -/
theorem within_flushRx (n : ℕ) (s : State δ) : Within n s (flushRx d s) := by
  refine ⟨[], ?_, by simp⟩
  rw [flushRx]
  split_ifs <;> simp

theorem within_readInto (buf : List UInt8) {off len n : ℕ} (h : off + len ≤ n) (timeoutMs : ℕ)
    (s : State δ) : Within n s (readInto d buf off len timeoutMs s).2.2 :=
  ⟨[(off, len)], rfl, by simpa using h⟩

/-- What the header phase receives: `9` bytes at most, from the position `q` on. -/
structure HeaderReceived (str : ℕ → UInt8) (pos : δ → ℕ → Prop) (size q : ℕ) (s : State δ)
    (h : List UInt8 × ℕ × State δ) : Prop where
  length_eq : h.1.length = size
  le : h.2.1 ≤ headerReadSize
  received : Received str pos h.1 h.2.1 q h.2.2
  within : Within headerReadSize s h.2.2

/-- The realignment drops what precedes the sync header, and reads on. -/
theorem realignIn_spec (hd : d.Streams str pos) {buf : List UInt8} {n p k : ℕ} {s : State δ}
    (h : Received str pos buf n p s) (hk : k < n) (hn : n ≤ headerReadSize)
    (hbuf : headerReadSize ≤ buf.length) (timeoutMs : ℕ) :
    (∃ r, realignIn d buf n k timeoutMs s = some (.error r) ∧ r.1 < 0 ∧
      Within headerReadSize s r.2.2) ∨
    ∃ g, realignIn d buf n k timeoutMs s = some (.ok g) ∧
      HeaderReceived str pos buf.length (p + k) s g := by
  have h9 : headerReadSize = 9 := rfl
  have h₁ : sub32In n k = some (n - k) := sub32In_eq_some.2 ⟨hk.le, sub32_eq hk.le (by omega)⟩
  have h₂ : sub32In headerReadSize (n - k) = some (headerReadSize - (n - k)) :=
    sub32In_eq_some.2 ⟨by omega, sub32_eq (by omega) (by decide)⟩
  obtain ⟨hsize, hrec⟩ := h.drop hk.le
  rw [realignIn, h₁, Option.bind_some]
  simp only [h₂, Option.bind_some]
  have hfits : n - k + (headerReadSize - (n - k)) = headerReadSize := by omega
  obtain ⟨hsize', hcount, hrec'⟩ := hrec.readInto hd (hsize ▸ hfits.trans_le hbuf) timeoutMs
  have hwithin := within_readInto (d := d) (overwrite buf 0 ((buf.drop k).take (n - k)))
    hfits.le timeoutMs s
  split_ifs with hremain hstatus
  · exact .inl ⟨_, rfl, show halErrTimeout < 0 by decide, hwithin⟩
  · have hadd : ∀ m ≤ headerReadSize - (n - k), add32 (n - k) m = n - k + m := fun m hm =>
      add32_eq (by omega)
    rw [hadd _ hcount]
    exact .inr ⟨_, rfl, hsize'.trans hsize, (Nat.add_le_add_left hcount _).trans hfits.le, hrec',
      hwithin⟩
  · exact .inr ⟨_, rfl, hsize, (Nat.sub_le n k).trans hn, hrec, [], by simp, by simp⟩

/-- The header phase ends with an error, or has received the stream from the first sync
    header of the first chunk on. -/
theorem recvHeaderIn_spec (hd : d.Streams str pos) {buf : List UInt8} {p : ℕ} {s : State δ}
    (hp : pos s.drv p) (hbuf : headerReadSize ≤ buf.length) (timeoutMs : ℕ) :
    (∃ r, recvHeaderIn d buf timeoutMs s = some (.error r) ∧ r.1 < 0 ∧
      Within headerReadSize s r.2.2) ∨
    ∃ g k, recvHeaderIn d buf timeoutMs s = some (.ok g) ∧
      FirstSync (fun j => str (p + j)) (d.apiRead headerReadSize timeoutMs s.drv).1.count k ∧
      HeaderReceived str pos buf.length (p + k) s g := by
  have h9 : headerReadSize = 9 := rfl
  have h₀ : Received str pos buf 0 p s := ⟨Nat.zero_le _, rfl, hp⟩
  have hfits : 0 + headerReadSize ≤ buf.length := by rwa [zero_add]
  obtain ⟨hsize, hcount, hrec⟩ := h₀.readInto hd hfits timeoutMs
  have hwithin := within_readInto (d := d) buf (zero_add headerReadSize).le timeoutMs s
  rw [zero_add] at hrec
  rw [recvHeaderIn]
  split_ifs with hr
  · exact .inl ⟨_, rfl, show halErrTimeout < 0 by decide, hwithin⟩
  · rcases findSyncHeaderIn_cases (by omega) (fun i hi => hrec.window hi) with
      ⟨k, hk, he⟩ | ⟨-, he⟩ <;> rw [he, Option.bind_some]
    · rw [if_neg (by omega)]
      split_ifs with hpos
      · rcases realignIn_spec hd hrec (Nat.lt_of_succ_lt hk.inside) hcount (hsize ▸ hbuf)
          timeoutMs with ⟨r, hr, hneg, hw⟩ | ⟨g, hg, hgr⟩
        · exact .inl ⟨r, hr, hneg, hwithin.trans hw le_rfl⟩
        · exact .inr ⟨g, k, hg, hk, hgr.length_eq.trans hsize, hgr.le, hgr.received,
            hwithin.trans hgr.within le_rfl⟩
      · -- The sync header is at the start: nothing is dropped.
        obtain rfl : k = 0 := by omega
        exact .inr ⟨_, 0, rfl, hk, hsize, hcount, hrec, hwithin⟩
    · exact .inl ⟨_, by rw [if_pos (by decide)], show halErrRecv < 0 by decide,
        hwithin.trans (within_flushRx _ _) le_rfl⟩

/-- Step 3 fails, or has received as many bytes of the stream as it returns. -/
theorem recvPayloadIn_spec (hd : d.Streams str pos) {buf : List UInt8} {n q size : ℕ} {s : State δ}
    (h : Received str pos buf n q s) (hn : n ≤ headerReadSize) (hsize : size ≤ buf.length)
    (timeoutMs : ℕ) :
    ∃ r, recvPayloadIn d buf n size timeoutMs s = some r ∧ Within size s r.2.2 ∧
      (0 < r.1 → headerReadSize ≤ r.1.toNat ∧ r.1.toNat ≤ size ∧
        r.2.1.take r.1.toNat = segment str q r.1.toNat) := by
  have h9 : headerReadSize = 9 := rfl
  have hrecv : ¬0 < halErrRecv := by decide
  have htimeout : ¬0 < halErrTimeout := by decide
  rw [recvPayloadIn]
  split_ifs with hlt
  · exact ⟨_, rfl, ⟨[], by simp, by simp⟩, fun h => absurd h hrecv⟩
  rw [h.window (by omega), h.window (by omega), Option.bind_some, Option.bind_some]
  have hN := (word16 (str (q + 5)) (str (q + 6))).toNat_lt
  generalize (word16 (str (q + 5)) (str (q + 6))).toNat = N at hN ⊢
  dsimp only
  rw [add32_eq (a := N) (by omega), add32_eq (by omega), if_pos (Nat.succ_pos _)]
  split_ifs with hlen hfit hstatus
  · exact ⟨_, rfl, within_flushRx _ _, fun h => absurd h hrecv⟩
  · exact ⟨_, rfl, ⟨[], by simp, by simp⟩, fun h => absurd h hrecv⟩
  · exact ⟨_, rfl, within_readInto _ (not_lt.1 hfit) _ _, fun h => absurd h htimeout⟩
  · obtain ⟨hsize', -, hrec⟩ := h.readInto hd ((not_lt.1 hfit).trans hsize) timeoutMs
    rw [not_not.1 (not_or.1 hstatus).2] at hrec ⊢
    rw [add32_eq (by omega)]
    refine ⟨_, rfl, within_readInto _ (not_lt.1 hfit) _ _, fun _ => ?_⟩
    rw [Int.toNat_natCast]
    exact ⟨by omega, not_lt.1 hfit, hrec.bytes⟩

/-! ## The receiver -/

/-- The receiver over a stream. None of its subtractions wraps, and it looks at no byte it
    has not received (`recvIn`); every read stays within the buffer; and if it returns
    `r > 0`, then the first `r` bytes of the buffer are a run of the stream that starts with the
    first sync header of the first chunk read. -/
theorem recv_safe (hd : d.Streams str pos) {buf : List UInt8} {size : ℕ} (hsize : size ≤ buf.length)
    (timeoutMs : ℕ) {s : State δ} {p : ℕ} (hp : pos s.drv p) :
    let r := recv d (some buf) size timeoutMs s
    recvIn d (some buf) size timeoutMs s = some r ∧
    (∃ new, r.2.2.reads = s.reads ++ new ∧ ∀ q ∈ new, q.1 + q.2 ≤ size) ∧
    (0 < r.1 → r.1.toNat ≤ size ∧ ∃ b k, r.2.1 = some b ∧
      FirstSync (fun j => str (p + j)) (d.apiRead headerReadSize timeoutMs s.drv).1.count k ∧
      b.take r.1.toNat = segment str (p + k) r.1.toNat ∧
      b.getD 0 0 = headerByte0 ∧ b.getD 1 0 = headerByte1) := by
  have hcount : (d.apiRead headerReadSize timeoutMs s.drv).1.count < 2 ^ 32 :=
    (hd.count_le headerReadSize timeoutMs s.drv).trans_lt (by decide)
  suffices h : ∃ r, recvIn d (some buf) size timeoutMs s = some r ∧ Within size s r.2.2 ∧
      (0 < r.1 → r.1.toNat ≤ size ∧ ∃ b k, r.2.1 = some b ∧
        FirstSync (fun j => str (p + j)) (d.apiRead headerReadSize timeoutMs s.drv).1.count k ∧
        b.take r.1.toNat = segment str (p + k) r.1.toNat ∧
        b.getD 0 0 = headerByte0 ∧ b.getD 1 0 = headerByte1) by
    obtain ⟨r, hr, hspec⟩ := h
    rw [recvIn_sound hcount hr]
    exact ⟨hr, hspec⟩
  rw [recvIn]
  split_ifs with hs hover
  · exact ⟨_, rfl, ⟨[], by simp, by simp⟩, fun h => absurd h (show ¬0 < halErrRecv by decide)⟩
  · have hover9 : headerReadSize ≤ size := not_lt.1 hover
    rcases recvHeaderIn_spec hd hp (hover9.trans hsize) timeoutMs with
      ⟨r, hr, hneg, hw⟩ | ⟨g, k, hg, hk, hgr⟩
    · rw [hr, Option.bind_some]
      exact ⟨_, rfl, hw.trans ⟨[], by simp, by simp⟩ hover9, fun h => absurd h (by omega)⟩
    · rw [hg, Option.bind_some]
      obtain ⟨r, hr, hw, hpos⟩ := recvPayloadIn_spec hd hgr.received hgr.le
        (hsize.trans hgr.length_eq.ge) timeoutMs
      refine ⟨(r.1, some r.2.1, r.2.2), by simp only [hr, Option.map_some],
        hgr.within.trans hw hover9, fun h => ?_⟩
      obtain ⟨h9, hle, htake⟩ := hpos h
      have hget : ∀ i < headerReadSize, r.2.1.getD i 0 = str (p + k + i) := fun i hi => by
        rw [← getD_segment str (hi.trans_le h9), ← htake, List.getD_eq_getElem?_getD,
          List.getD_eq_getElem?_getD, List.getElem?_take_of_lt (hi.trans_le h9)]
      refine ⟨hle, r.2.1, k, rfl, hk, htake, ?_, ?_⟩
      · rw [hget 0 (by decide)]
        exact hk.sync.1
      · rw [hget 1 (by decide)]
        exact hk.sync.2
  · exact ⟨_, rfl, ⟨[], by simp, by simp⟩, fun h => absurd h (show ¬0 < halErrNotInit by decide)⟩

/-- The driver on which the stream `str` has arrived: every read gives all it asks for. -/
def arrived (str : ℕ → UInt8) : Srl ℕ where
  apiGetHandle p := (.success, p)
  apiConfigure _ p := (.success, p)
  apiWrite b _ p := ((.success, b.length), p)
  apiRead len _ p := (⟨.success, segment str p len, len⟩, p + len)
  pending _ := 0

theorem arrived_streams (str : ℕ → UInt8) : (arrived str).Streams str (· = ·) where
  count_le _ _ _ := le_rfl
  stored := by rintro len _ s _ rfl; rfl
  next := by rintro len _ s _ rfl; rfl

/-- A byte of garbage before a frame without payload. -/
theorem recv_safe_garbage :
    let str : ℕ → UInt8 := fun i => [0x13, 0xAA, 0x55, 0x10, 1, 1].getD i 0
    let r := recv (arrived str) (some (List.replicate 265 0)) 265 500 ⟨true, 0, []⟩
    r.1 = 11 ∧ ∃ b k, r.2.1 = some b ∧ FirstSync (fun j => str (0 + j)) 9 k ∧
      b.take 11 = segment str (0 + k) 11 := by
  intro str r
  have hr : r.1 = 11 := by decide +kernel
  have hsize : 265 ≤ (List.replicate 265 (0 : UInt8)).length := List.length_replicate.ge
  obtain ⟨-, -, h⟩ := recv_safe (arrived_streams str) hsize 500 (s := ⟨true, 0, []⟩) rfl
  obtain ⟨-, b, k, hb, hk, htake, -⟩ := h (hr ▸ by decide)
  exact ⟨hr, b, k, hb, hk, by rwa [show (recv (arrived str) _ 265 500 _).1 = 11 from hr] at htake⟩

end Hal

end Ig4u
