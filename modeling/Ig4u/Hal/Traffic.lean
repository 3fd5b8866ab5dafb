import Ig4u.Hal.Lifecycle
import Ig4u.Hal.Receive

/-!
# The traffic of the line

A driver with a tap on the line (`Srl.tapped`): it logs every write with the bytes it was given and
the count it reported, and the bytes of every read, both with the timeout. The driver may do
anything, as long as a read reports the number of bytes it stores, and stores no more than it is
asked for (`Srl.Counts`). A write may be cut short: only as many bytes as it reports are on the
line.

* `recv_tapped`, `send_tapped`, `init_tapped`: the tap changes nothing, and the log only grows.
* `recv_tail`: what the receiver returns is what the driver gave last, during this call.
-/

namespace Ig4u

/-- A write: the bytes it was given, and the number of them that it reported to be written. -/
structure Write where
  bytes : List UInt8
  count : ℕ
  deriving DecidableEq, Repr

/-- The bytes that a write put on the line. -/
def Write.onLine (w : Write) : List UInt8 := w.bytes.take w.count

/-- All the bytes were written. -/
def Write.Whole (w : Write) : Prop := w.bytes.length ≤ w.count

instance (w : Write) : Decidable w.Whole := inferInstanceAs (Decidable (_ ≤ _))

theorem Write.Whole.onLine {w : Write} (h : w.Whole) : w.onLine = w.bytes :=
  List.take_of_length_le h

/-- What writes put on the line of which none is cut short. -/
theorem Write.flatMap_onLine {ws : List Write} (h : ∀ w ∈ ws, w.Whole) :
    ws.flatMap Write.onLine = (ws.map Write.bytes).flatten := by
  rw [List.flatMap_def]
  congr 1
  exact List.map_congr_left fun w hw => (h w hw).onLine

/-- What passes on the line: a write, or the bytes read, and the timeout. -/
inductive Traffic
  | wrote (w : Write) (timeoutMs : ℕ)
  | read (bytes : List UInt8) (timeoutMs : ℕ)
  deriving DecidableEq, Repr

namespace Traffic

/-- The bytes read. -/
def bytesRead : Traffic → List UInt8
  | wrote _ _ => []
  | read bytes _ => bytes

/-- The write, if it is one. -/
def write? : Traffic → Option Write
  | wrote w _ => some w
  | read _ _ => none

/-- Everything read, oldest first. -/
def received (log : List Traffic) : List UInt8 := log.flatMap bytesRead

/-- The writes, oldest first. -/
def writes (log : List Traffic) : List Write := log.filterMap write?

/-- Everything that was put on the line, oldest first. -/
def written (log : List Traffic) : List UInt8 := (writes log).flatMap Write.onLine

@[simp]
theorem received_append (log log' : List Traffic) :
    received (log ++ log') = received log ++ received log' := List.flatMap_append

@[simp]
theorem writes_append (log log' : List Traffic) :
    writes (log ++ log') = writes log ++ writes log' := List.filterMap_append

end Traffic

/-- A driver with a tap on the line. -/
def Srl.tapped {δ : Type*} (d : Srl δ) : Srl (δ × List Traffic) where
  apiGetHandle s := ((d.apiGetHandle s.1).1, (d.apiGetHandle s.1).2, s.2)
  apiConfigure cfg s := ((d.apiConfigure cfg s.1).1, (d.apiConfigure cfg s.1).2, s.2)
  apiWrite bytes timeoutMs s :=
    let r := d.apiWrite bytes timeoutMs s.1
    (r.1, r.2, s.2 ++ [.wrote ⟨bytes, r.1.2⟩ timeoutMs])
  apiRead len timeoutMs s :=
    let r := d.apiRead len timeoutMs s.1
    (r.1, r.2, s.2 ++ [.read r.1.stored timeoutMs])
  pending s := d.pending s.1

/-- A read reports the number of bytes it stores, which is at most the number asked for. -/
structure Srl.Counts {δ : Type*} (d : Srl δ) : Prop where
  length_stored : ∀ len timeoutMs s,
    (d.apiRead len timeoutMs s).1.stored.length = (d.apiRead len timeoutMs s).1.count
  count_le : ∀ len timeoutMs s, (d.apiRead len timeoutMs s).1.count ≤ len

namespace Hal

open Lib Proto Traffic

variable {δ : Type*} (d : Srl δ)

/-! ## The tap -/

/-- The state of the HAL over the driver without the tap. -/
def State.untapped (s : State (δ × List Traffic)) : State δ := ⟨s.initialized, s.drv.1, s.reads⟩

/-- The log has grown by some reads. -/
def OnlyReads (log log' : List Traffic) : Prop :=
  ∃ new, log' = log ++ new ∧ ∀ t ∈ new, t.write? = none

theorem OnlyReads.writes {log log' : List Traffic} (h : OnlyReads log log') :
    Traffic.writes log' = Traffic.writes log := by
  obtain ⟨new, rfl, hnew⟩ := h
  have hnone : Traffic.writes new = [] := List.filterMap_eq_nil_iff.2 hnew
  rw [writes_append, hnone, List.append_nil]

/-- The driver with the tap reads as the driver does, and logs the reads. -/
theorem tapped_readsAlike (log : List Traffic) :
    ReadsAlike d.tapped d fun x y => x.1 = y ∧ OnlyReads log x.2 where
  read {x y} len timeoutMs h := by
    obtain ⟨rfl, new, hnew, hreads⟩ := h
    refine ⟨rfl, rfl, new ++ [.read (d.apiRead len timeoutMs x.1).1.stored timeoutMs], ?_, ?_⟩
    · rw [← List.append_assoc, ← hnew]
      rfl
    · intro t ht
      rcases List.mem_append.1 ht with ht | ht
      · exact hreads t ht
      · rw [List.mem_singleton.1 ht]
        rfl
  pending h := h.1 ▸ rfl

/-- The receiver over the driver with the tap, the log of which grows by some reads. -/
theorem recv_tapped (buf : Option (List UInt8)) (size timeoutMs : ℕ)
    (s : State (δ × List Traffic)) :
    let r := recv d.tapped buf size timeoutMs s
    let q := recv d buf size timeoutMs s.untapped
    r.1 = q.1 ∧ r.2.1 = q.2.1 ∧ r.2.2.untapped = q.2.2 ∧ OnlyReads s.drv.2 r.2.2.drv.2 := by
  obtain ⟨hcode, hbuf, hinit, ⟨hdrv, hlog⟩, hreads⟩ :=
    recv_related (tapped_readsAlike d s.drv.2) (s := s) (t := s.untapped)
      ⟨rfl, ⟨rfl, [], by simp, by simp⟩, rfl⟩ buf size timeoutMs
  exact ⟨hcode, hbuf, by rw [State.untapped, hinit, hdrv, hreads], hlog⟩

/-- Sending over the driver with the tap. Over an initialised HAL, the bytes sent are given to one
    write. -/
theorem send_tapped {b : List UInt8} {len : ℕ} (hlen : len ≠ 0) (s : State (δ × List Traffic)) :
    let r := send d.tapped (some b) len s
    r.1 = (send d (some b) len s.untapped).1 ∧
      r.2.untapped = (send d (some b) len s.untapped).2 ∧ r.2.initialized = s.initialized ∧
      r.2.drv.2 =
        if s.initialized then
          s.drv.2 ++ [.wrote ⟨b.take len, (d.apiWrite (b.take len) uartTimeoutMs s.drv.1).1.2⟩
            uartTimeoutMs]
        else s.drv.2 := by
  by_cases hs : s.initialized
  · by_cases hw : (d.apiWrite (b.take len) uartTimeoutMs s.drv.1).1.1 ≠ .success ∨
        (d.apiWrite (b.take len) uartTimeoutMs s.drv.1).1.2 ≠ len <;>
      simp [send, State.untapped, Srl.tapped, hs, hlen, hw]
  · simp [send, State.untapped, hs]

/-- Initialising the HAL over the driver with the tap, which sees nothing of it. -/
theorem init_tapped (s : State (δ × List Traffic)) :
    let r := init d.tapped s
    r.1 = (init d s.untapped).1 ∧ r.2.untapped = (init d s.untapped).2 ∧
      r.2.drv.2 = s.drv.2 := by
  by_cases hs : s.initialized
  · simp [init, State.untapped, hs]
  by_cases hget : (d.apiGetHandle s.drv.1).1 = .success
  · by_cases hconf : (d.apiConfigure ⟨uartBaudRate, uartDataBits, uartParity, uartStopBits⟩
        (d.apiGetHandle s.drv.1).2).1 = .success <;>
      simp [init, State.untapped, Srl.tapped, hs, hget, hconf]
  · simp [init, State.untapped, Srl.tapped, hs, hget]

/-! ## What the receiver returns -/

section

variable {d} (log : List Traffic) {buf : List UInt8} {n : ℕ} {s : State (δ × List Traffic)}

/-- The first `n` bytes of the buffer are the last ones read since the log was `log`. -/
structure Tail (log : List Traffic) (buf : List UInt8) (n : ℕ) (s : State (δ × List Traffic)) :
    Prop where
  le : n ≤ buf.length
  since : ∃ new, s.drv.2 = log ++ new ∧ buf.take n <:+ received new

/-- A read appends to what was read last. -/
theorem Tail.readInto (hd : d.Counts) (h : Tail log buf n s) {m : ℕ}
    (hm : n + m ≤ buf.length) (timeoutMs : ℕ) :
    let r := Hal.readInto d.tapped buf n m timeoutMs s
    r.2.1.length = buf.length ∧ r.1.count ≤ m ∧ Tail log r.2.1 (n + r.1.count) r.2.2 := by
  intro r
  have hcount : r.1.count ≤ m := hd.count_le m timeoutMs s.drv.1
  have hstored : r.1.stored.length = r.1.count := hd.length_stored m timeoutMs s.drv.1
  have hbuf : r.2.1 = overwrite buf n r.1.stored := rfl
  have hsize : r.2.1.length = buf.length := by
    rw [hbuf, length_overwrite (by omega)]
  obtain ⟨new, hnew, pre, hpre⟩ := h.since
  have hlog : r.2.2.drv.2 = s.drv.2 ++ [.read r.1.stored timeoutMs] := rfl
  refine ⟨hsize, hcount, by omega, new ++ [.read r.1.stored timeoutMs], ?_, pre, ?_⟩
  · rw [hlog, hnew, List.append_assoc]
  · rw [hbuf, ← hstored, take_overwrite h.le, ← List.append_assoc, hpre, received_append]
    simp [Traffic.received, bytesRead]

/-- Dropping the first bytes received. -/
theorem Tail.drop (h : Tail log buf n s) {k : ℕ} (hk : k ≤ n) :
    let b := overwrite buf 0 ((buf.drop k).take (n - k))
    b.length = buf.length ∧ Tail log b (n - k) s := by
  intro b
  have hle := h.le
  have hdata : (buf.drop k).take (n - k) = (buf.take n).drop k := List.drop_take.symm
  have hlength : ((buf.drop k).take (n - k)).length = n - k := by
    rw [List.length_take, List.length_drop]
    omega
  have hsize : b.length = buf.length := length_overwrite (by omega)
  obtain ⟨new, hnew, hsuffix⟩ := h.since
  refine ⟨hsize, by omega, new, hnew, ?_⟩
  have htake : b.take (0 + ((buf.drop k).take (n - k)).length) =
      buf.take 0 ++ (buf.drop k).take (n - k) := take_overwrite buf.length.zero_le
  rw [hlength, zero_add, List.take_zero, List.nil_append] at htake
  rw [htake, hdata]
  exact (List.drop_suffix k _).trans hsuffix

/-- Step 3 of the receiver returns what was read last. -/
theorem recvPayload_tail (hd : d.Counts) (h : Tail log buf n s) (hn : n ≤ headerReadSize)
    {size : ℕ} (hsize : size ≤ buf.length) (timeoutMs : ℕ) :
    let r := recvPayload d.tapped buf n size timeoutMs s
    0 < r.1 → Tail log r.2.1 r.1.toNat r.2.2 := by
  have h9 : headerReadSize = 9 := rfl
  intro r hpos
  have hlt := (word16 (buf.getD 5 0) (buf.getD 6 0)).toNat_lt
  obtain ⟨N, hN⟩ : ∃ N, N = (word16 (buf.getD 5 0) (buf.getD 6 0)).toNat := ⟨_, rfl⟩
  rw [← hN] at hlt
  -- The length field has 16 bits, so that no sum of 32 bits overflows.
  simp only [r, recvPayload, ← hN] at hpos ⊢
  rw [add32_eq (a := N) (by omega), add32_eq (a := n) (by omega)] at hpos ⊢
  split_ifs at hpos ⊢ with hheader hlong hfit hremain hstatus
  · exact absurd hpos (show ¬0 < halErrRecv by decide)
  · exact absurd hpos (show ¬0 < halErrRecv by decide)
  · exact absurd hpos (show ¬0 < halErrRecv by decide)
  · exact absurd hpos (show ¬0 < halErrTimeout by decide)
  · obtain ⟨-, hcount, htail⟩ := h.readInto log hd (m := N + 2)
      (not_lt.1 hfit |>.trans hsize) timeoutMs
    rw [add32_eq (by omega), Int.toNat_natCast]
    exact htail
  · exact absurd (Nat.succ_pos _) hremain

/-- So does the realignment. -/
theorem realign_tail (hd : d.Counts) (h : Tail log buf n s) {k : ℕ} (hk : k ≤ n)
    (hn : n ≤ headerReadSize) {size : ℕ} (hsize : size ≤ buf.length)
    (hover : headerReadSize ≤ size) (timeoutMs : ℕ) :
    let r := realign d.tapped buf n k size timeoutMs s
    0 < r.1 → Tail log r.2.1 r.1.toNat r.2.2 := by
  have h9 : headerReadSize = 9 := rfl
  intro r hpos
  obtain ⟨hlength, hdrop⟩ := h.drop log hk
  simp only [r, realign] at hpos ⊢
  rw [sub32_eq hk (by omega), sub32_eq (show n - k ≤ headerReadSize by omega) (by decide)]
    at hpos ⊢
  split_ifs at hpos ⊢ with hremain hstatus
  · exact absurd hpos (show ¬0 < halErrTimeout by decide)
  · obtain ⟨hlength', hcount, htail⟩ := hdrop.readInto log hd
      (m := headerReadSize - (n - k)) (by omega) timeoutMs
    rw [add32_eq (by omega)] at hpos ⊢
    exact recvPayload_tail log hd htail (by omega)
      (hsize.trans (hlength.symm.trans hlength'.symm).le) timeoutMs hpos
  · exact recvPayload_tail log hd hdrop (by omega) (hsize.trans hlength.ge) timeoutMs hpos

/-- The search finds the sync header among the bytes it looks at. -/
theorem findSyncFrom_lt (b : List UInt8) (n i : ℕ) : findSyncFrom b i n < (i + n : ℕ) := by
  induction n generalizing i with
  | zero => exact (by decide : (-1 : ℤ) < 0).trans_le (Int.natCast_nonneg i)
  | succ n ih =>
    rw [findSyncFrom]
    split_ifs
    · omega
    · exact (ih (i + 1)).trans_eq (by rw [Nat.add_right_comm, Nat.add_assoc])

theorem findSyncHeader_lt (b : List UInt8) (n : ℕ) : findSyncHeader (some b) n < n := by
  rw [findSyncHeader]
  split_ifs
  · omega
  · have h := findSyncFrom_lt b (n - 1) 0
    omega

/-- If the receiver returns `r > 0`, the first `r` bytes of the buffer are the last ones that the
    driver gave, and it gave them during this call. -/
theorem recv_tail (hd : d.Counts) {size : ℕ} (hsize : size ≤ buf.length) (timeoutMs : ℕ)
    (s : State (δ × List Traffic)) :
    let r := recv d.tapped (some buf) size timeoutMs s
    0 < r.1 → ∃ b, r.2.1 = some b ∧ Tail s.drv.2 b r.1.toNat r.2.2 := by
  have h9 : headerReadSize = 9 := rfl
  intro r hpos
  have h₀ : Tail s.drv.2 buf 0 s := ⟨Nat.zero_le _, [], by simp, by simp⟩
  have hheader (hover : headerReadSize ≤ size) :=
    h₀.readInto s.drv.2 hd (m := headerReadSize) (by omega) timeoutMs
  simp only [zero_add] at hheader
  simp only [r, recv] at hpos ⊢
  split_ifs at hpos ⊢ with hinit hover hread hsync hshift
  · exact absurd hpos (show ¬0 < halErrRecv by decide)
  · exact absurd hpos (show ¬0 < halErrTimeout by decide)
  · exact absurd hpos (show ¬0 < halErrRecv by decide)
  -- The sync header is not in front, and what is before it is dropped.
  · obtain ⟨hlength, hcount, htail⟩ := hheader (not_lt.1 hover)
    have hshift' := findSyncHeader_lt (readInto d.tapped buf 0 headerReadSize timeoutMs s).2.1
      (readInto d.tapped buf 0 headerReadSize timeoutMs s).1.count
    exact ⟨_, rfl, realign_tail s.drv.2 hd htail (by omega) hcount (hsize.trans hlength.ge)
      (not_lt.1 hover) timeoutMs hpos⟩
  · obtain ⟨hlength, hcount, htail⟩ := hheader (not_lt.1 hover)
    exact ⟨_, rfl, recvPayload_tail s.drv.2 hd htail hcount (hsize.trans hlength.ge) timeoutMs hpos⟩
  · exact absurd hpos (show ¬0 < halErrNotInit by decide)

end

/-- A FIFO counts its bytes. -/
theorem fifo_counts (short : CfeStatus) : (fifo short).Counts where
  length_stored _ _ _ := rfl
  count_le len _ s := (List.length_take_le len s)

end Hal

end Ig4u
