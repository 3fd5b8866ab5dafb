import Ig4u.Hal.Stream

/-!
# A payload behind the driver

The payload answers every telecommand written to the line at once, with some frames
(`Peer`). The driver is a FIFO of bytes as before, to which a write adds the bytes of the
answers (`Peer.srl`). Every frame may be followed by some bytes of filling: none for a
payload that keeps to the documented format.

* `recv_related`: the receiver over drivers that read alike (`ReadsAlike`).
* `Peer.send_eq`, `Peer.recv_eq`: sending to this driver, and receiving from it.
* `recv_exact`, `recv_empty`: receiving with a frame pending and nothing else, or with nothing.
* `Peer.Answering`: the payload gives at most one answer to a telecommand. On a line on which
  nothing is to be read (`Idle`), a telecommand leaves its answer to be read (`Pending`).
* `Pending.recv_exact`, `Pending.recv_filled`: the receiver then fails if nothing follows the
  answer, and takes it if two bytes do. The line is idle again in both cases.
-/

namespace Ig4u.Hal

open Lib Proto

/-! ## Drivers that read alike -/

section

variable {δ ε : Type*} {d₁ : Srl δ} {d₂ : Srl ε} {R : δ → ε → Prop}

/-- The reads of the drivers agree in related states, and keep them related. -/
structure ReadsAlike (d₁ : Srl δ) (d₂ : Srl ε) (R : δ → ε → Prop) : Prop where
  read : ∀ {x y} (len timeoutMs : ℕ), R x y →
    (d₁.apiRead len timeoutMs x).1 = (d₂.apiRead len timeoutMs y).1 ∧
      R (d₁.apiRead len timeoutMs x).2 (d₂.apiRead len timeoutMs y).2
  pending : ∀ {x y}, R x y → d₁.pending x = d₂.pending y

/-- Two states of the HAL with related drivers. -/
structure State.Related (R : δ → ε → Prop) (s : State δ) (t : State ε) : Prop where
  initialized : s.initialized = t.initialized
  drv : R s.drv t.drv
  reads : s.reads = t.reads

/-- Two outcomes of a receive. -/
def RecvAgree {β : Type*} (R : δ → ε → Prop) (r₁ : ℤ × β × State δ) (r₂ : ℤ × β × State ε) : Prop :=
  r₁.1 = r₂.1 ∧ r₁.2.1 = r₂.2.1 ∧ r₁.2.2.Related R r₂.2.2

variable (h : ReadsAlike d₁ d₂ R)

include h

theorem flushLoop_related {x : δ} {y : ε} (hxy : R x y) (n : ℕ) :
    R (flushLoop d₁ n x) (flushLoop d₂ n y) := by
  induction n generalizing x y with
  | zero => exact hxy
  | succ n ih =>
    obtain ⟨hread, hnext⟩ := h.read 64 10 hxy
    simp only [flushLoop, hread]
    split_ifs
    · exact ih hnext
    · exact hnext

variable {s : State δ} {t : State ε} (hs : s.Related R t)

include hs

theorem flushRx_related : (flushRx d₁ s).Related R (flushRx d₂ t) := by
  simp only [flushRx, hs.initialized, h.pending hs.drv]
  split_ifs
  · exact ⟨rfl, flushLoop_related h hs.drv _, hs.reads⟩
  · exact hs

theorem readInto_related (buf : List UInt8) (off len timeoutMs : ℕ) :
    (readInto d₁ buf off len timeoutMs s).1 = (readInto d₂ buf off len timeoutMs t).1 ∧
      (readInto d₁ buf off len timeoutMs s).2.1 = (readInto d₂ buf off len timeoutMs t).2.1 ∧
      (readInto d₁ buf off len timeoutMs s).2.2.Related R
        (readInto d₂ buf off len timeoutMs t).2.2 := by
  obtain ⟨hread, hnext⟩ := h.read len timeoutMs hs.drv
  simp only [readInto, hread]
  exact ⟨trivial, trivial, hs.initialized, hnext, congrArg (· ++ [_]) hs.reads⟩

theorem recvPayload_related (buf : List UInt8) (bytesRead size timeoutMs : ℕ) :
    RecvAgree R (recvPayload d₁ buf bytesRead size timeoutMs s)
      (recvPayload d₂ buf bytesRead size timeoutMs t) := by
  obtain ⟨hres, hbuf, hnext⟩ := readInto_related h hs buf bytesRead
    (add32 (word16 (buf.getD 5 0) (buf.getD 6 0)).toNat 2) timeoutMs
  simp only [recvPayload, hres, hbuf]
  split_ifs
  · exact ⟨rfl, rfl, hs⟩
  · exact ⟨rfl, rfl, flushRx_related h hs⟩
  · exact ⟨rfl, rfl, hs⟩
  · exact ⟨rfl, rfl, hnext⟩
  · exact ⟨rfl, rfl, hnext⟩
  · exact ⟨rfl, rfl, hs⟩

theorem realign_related (buf : List UInt8) (bytesRead sync size timeoutMs : ℕ) :
    RecvAgree R (realign d₁ buf bytesRead sync size timeoutMs s)
      (realign d₂ buf bytesRead sync size timeoutMs t) := by
  obtain ⟨hres, hbuf, hnext⟩ := readInto_related h hs
    (overwrite buf 0 ((buf.drop sync).take (sub32 bytesRead sync))) (sub32 bytesRead sync)
    (sub32 headerReadSize (sub32 bytesRead sync)) timeoutMs
  simp only [realign, hres, hbuf]
  split_ifs
  · exact ⟨rfl, rfl, hnext⟩
  · exact recvPayload_related h hnext _ _ _ _
  · exact recvPayload_related h hs _ _ _ _

/-- The receiver cannot tell drivers apart that read alike. -/
theorem recv_related (buf : Option (List UInt8)) (size timeoutMs : ℕ) :
    RecvAgree R (recv d₁ buf size timeoutMs s) (recv d₂ buf size timeoutMs t) := by
  rcases buf with - | buf
  · simp only [recv, hs.initialized]
    split_ifs <;> exact ⟨rfl, rfl, hs⟩
  obtain ⟨hres, hbuf, hnext⟩ := readInto_related h hs buf 0 headerReadSize timeoutMs
  simp only [recv, hs.initialized, hres, hbuf]
  split_ifs
  · exact ⟨rfl, rfl, hs⟩
  · exact ⟨rfl, rfl, hnext⟩
  · exact ⟨rfl, rfl, flushRx_related h hnext⟩
  · obtain ⟨hcode, hbuf, hstate⟩ := realign_related h hnext
      (readInto d₂ buf 0 headerReadSize timeoutMs t).2.1
      (readInto d₂ buf 0 headerReadSize timeoutMs t).1.count
      (findSyncHeader (some (readInto d₂ buf 0 headerReadSize timeoutMs t).2.1)
        (readInto d₂ buf 0 headerReadSize timeoutMs t).1.count).toNat size timeoutMs
    exact ⟨hcode, congrArg some hbuf, hstate⟩
  · obtain ⟨hcode, hbuf, hstate⟩ := recvPayload_related h hnext
      (readInto d₂ buf 0 headerReadSize timeoutMs t).2.1
      (readInto d₂ buf 0 headerReadSize timeoutMs t).1.count size timeoutMs
    exact ⟨hcode, congrArg some hbuf, hstate⟩
  · exact ⟨rfl, rfl, hs⟩

end

/-! ## The payload -/

/-- A payload, and the line to it, the writes being numbered. -/
structure Peer where
  /-- The status of a write. -/
  accepts : ℕ → CfeStatus
  /-- The answers to the telecommand written. -/
  answers : ℕ → List UInt8 → List Frame

/-- The state of the line: the number of writes, and the bytes to be read. -/
structure Wire where
  writes : ℕ
  rx : List UInt8

/-- The bytes of some frames, each followed by its filling. -/
def filled (fill : Frame → List UInt8) (frames : List Frame) : List UInt8 :=
  frames.flatMap fun F => F.bytes ++ fill F

namespace Peer

/-- The driver of the line to the payload. -/
def srl (short : CfeStatus) (fill : Frame → List UInt8) (p : Peer) : Srl Wire where
  apiGetHandle w := (.success, w)
  apiConfigure _ w := (.success, w)
  apiWrite b _ w :=
    ((p.accepts w.writes, b.length),
      { writes := w.writes + 1
        rx := w.rx ++
          if p.accepts w.writes = .success then filled fill (p.answers w.writes b) else [] })
  apiRead len timeoutMs w :=
    let r := (fifo short).apiRead len timeoutMs w.rx
    (r.1, { w with rx := r.2 })
  pending w := w.rx.length

variable (short : CfeStatus) (fill : Frame → List UInt8) (p : Peer)

theorem readsAlike (n : ℕ) :
    ReadsAlike (p.srl short fill) (fifo short) fun w q => w.rx = q ∧ w.writes = n where
  read len timeoutMs h := by
    obtain ⟨rfl, rfl⟩ := h
    exact ⟨rfl, rfl, rfl⟩
  pending h := congrArg List.length h.1

/-- The receiver over this driver is that over the FIFO of the bytes to be read. -/
theorem recv_eq (buf : Option (List UInt8)) (size timeoutMs writes : ℕ) (rx : List UInt8)
    (l : List (ℕ × ℕ)) :
    recv (p.srl short fill) buf size timeoutMs ⟨true, ⟨writes, rx⟩, l⟩ =
      let r := recv (fifo short) buf size timeoutMs ⟨true, rx, l⟩
      (r.1, r.2.1, ⟨r.2.2.initialized, ⟨writes, r.2.2.drv⟩, r.2.2.reads⟩) := by
  obtain ⟨hcode, hbuf, hinit, ⟨hrx, hwrites⟩, hreads⟩ :=
    recv_related (p.readsAlike short fill writes) (s := ⟨true, ⟨writes, rx⟩, l⟩)
      (t := ⟨true, rx, l⟩) ⟨rfl, ⟨rfl, rfl⟩, rfl⟩ buf size timeoutMs
  rcases hr : recv (p.srl short fill) buf size timeoutMs ⟨true, ⟨writes, rx⟩, l⟩ with
    ⟨code, buf', init, ⟨writes', rx'⟩, reads⟩
  rw [hr] at hcode hbuf hinit hrx hwrites hreads
  simp only at hcode hbuf hinit hrx hwrites hreads ⊢
  rw [hcode, hbuf, hinit, hrx, hwrites, hreads]

/-- A frame handed over is written to the line, and answered if the write succeeds. -/
theorem send_eq (F : Frame) (rest : List UInt8) (writes : ℕ) (rx : List UInt8) (l : List (ℕ × ℕ)) :
    send (p.srl short fill) (some (F.bytes ++ rest)) F.bytes.length ⟨true, ⟨writes, rx⟩, l⟩ =
      (if p.accepts writes = .success then halOk else halErrSend,
        ⟨true, ⟨writes + 1, rx ++
          if p.accepts writes = .success then filled fill (p.answers writes F.bytes) else []⟩,
          l⟩) := by
  have hlen : F.bytes.length ≠ 0 := by
    rw [F.length_bytes, packetOverheadBytes]
    omega
  by_cases hacc : p.accepts writes = .success <;>
    simp only [send, srl, List.take_left, hacc, hlen, not_true_eq_false, not_false_eq_true, if_true,
      if_false, ne_eq, or_self, true_or]

end Peer

/-! ## Receiving -/

section

variable (short : CfeStatus) (buf : List UInt8) {size : ℕ} (timeoutMs : ℕ) (l : List (ℕ × ℕ))

/-- With nothing pending, the receiver times out. -/
theorem recv_empty (hsize : packetOverheadBytes ≤ size) :
    recv (fifo short) (some buf) size timeoutMs ⟨true, [], l⟩ =
      (halErrTimeout, some buf, ⟨true, [], l ++ [(0, 9)]⟩) := by
  have hread : readInto (fifo short) buf 0 headerReadSize timeoutMs ⟨true, [], l⟩ =
      (⟨short, [], 0⟩, buf, ⟨true, [], l ++ [(0, 9)]⟩) := rfl
  rw [recv, if_neg (by simp)]
  simp only [if_neg (not_lt.2 hsize), hread, or_true, if_true]

/-- With exactly a frame pending, the receiver takes it from the line, but fails. -/
theorem recv_exact (F : Frame) (hsize : F.payload.length + 11 ≤ size) :
    (recv (fifo short) (some buf) size timeoutMs ⟨true, F.bytes, l⟩).1 ≤ 0 ∧
      ∃ l', (recv (fifo short) (some buf) size timeoutMs ⟨true, F.bytes, l⟩).2.2 =
        ⟨true, [], l'⟩ := by
  have hlen := F.length_bytes
  simp only [packetOverheadBytes] at hlen
  have hover : packetOverheadBytes ≤ size := by simp only [packetOverheadBytes]; omega
  have h := recv_header short F [] buf timeoutMs l hover
  rw [List.append_nil] at h
  rw [h, recvPayload_eq _ (by simpa using length_field_take F [] buf) F.length_le]
  -- The second read gives two bytes less than it should.
  have hcount : (F.bytes.drop 9).length = F.payload.length := by
    rw [List.length_drop]
    omega
  have hrest : (F.bytes.drop 9).drop (F.payload.length + 2) = [] :=
    List.drop_of_length_le (by omega)
  simp only [if_neg (not_lt.2 hsize), readInto, fifo, List.length_take, hcount]
  rw [if_pos (.inr (by omega))]
  exact ⟨show halErrTimeout ≤ 0 by decide, l ++ [(0, 9)] ++ [(9, F.payload.length + 2)],
    by rw [hrest]⟩

end

/-! ## One answer to a telecommand -/

/-- The answer to the `n`-th frame, if there is one. What cannot be written is not answered. -/
def Peer.answer (p : Peer) (n : ℕ) (F : Frame) : Option Frame :=
  if p.accepts n = .success then (p.answers n F.bytes).head? else none

/-- The payload answers a telecommand with at most one frame, of at most `254` bytes of payload. -/
structure Peer.Answering (p : Peer) : Prop where
  single : ∀ n tc, (p.answers n tc).length ≤ 1
  fits : ∀ n tc, ∀ F ∈ p.answers n tc, F.payload.length + 11 ≤ packetMaxTotal

/-- The HAL is initialised over the line to the payload, `n` frames have been written, and an
    answer is to be read, if there is one, with its filling. -/
structure Pending (fill : Frame → List UInt8) (n : ℕ) (A : Option Frame) (s : State Wire) :
    Prop where
  initialized : s.initialized = true
  writes : s.drv.writes = n
  rx : s.drv.rx = filled fill A.toList

/-- The same with nothing to be read. -/
structure Idle (n : ℕ) (s : State Wire) : Prop where
  initialized : s.initialized = true
  writes : s.drv.writes = n
  rx : s.drv.rx = []

section

variable {fill : Frame → List UInt8} {n : ℕ} {s : State Wire}

theorem Pending.idle (h : Pending fill n none s) : Idle n s := ⟨h.initialized, h.writes, h.rx⟩

namespace Peer.Answering

variable {p : Peer} (hp : p.Answering)

include hp

theorem answer_toList {n : ℕ} (h : p.accepts n = .success) (F : Frame) :
    (p.answer n F).toList = p.answers n F.bytes := by
  have hlen := hp.single n F.bytes
  rw [answer, if_pos h]
  rcases hframes : p.answers n F.bytes with - | ⟨G, _ | ⟨H, frames⟩⟩
  · rfl
  · rfl
  · simp [hframes] at hlen

theorem answer_fits {n : ℕ} {F G : Frame} (hG : G ∈ p.answer n F) :
    G.payload.length + 11 ≤ packetMaxTotal := by
  rw [answer] at hG
  split_ifs at hG
  · exact hp.fits n F.bytes G (List.mem_of_mem_head? hG)
  · cases hG

/-- Sending a frame on an idle line: its answer is to be read afterwards. -/
theorem pending_send (short : CfeStatus) (fill : Frame → List UInt8) (hs : Idle n s) (F : Frame)
    (rest : List UInt8) :
    let r := send (p.srl short fill) (some (F.bytes ++ rest)) F.bytes.length s
    (r.1 = halOk ↔ p.accepts n = .success) ∧ Pending fill (n + 1) (p.answer n F) r.2 := by
  rcases s with ⟨init, ⟨writes, rx⟩, l⟩
  obtain ⟨rfl, rfl, rfl⟩ := hs
  simp only [send_eq, List.nil_append]
  by_cases h : p.accepts writes = .success
  · rw [if_pos h, if_pos h, ← hp.answer_toList h]
    exact ⟨iff_of_true rfl h, rfl, rfl, rfl⟩
  · rw [if_neg h, if_neg h]
    refine ⟨iff_of_false (show halErrSend ≠ halOk by decide) h, rfl, rfl, ?_⟩
    rw [answer, if_neg h]
    rfl

end Peer.Answering

variable {A : Option Frame} (p : Peer) (short : CfeStatus) (buf : List UInt8) (timeoutMs : ℕ)

variable (fill) in
/-- With nothing to be read, the receiver times out. -/
theorem Idle.recv (hs : Idle n s) :
    let r := recv (p.srl short fill) (some buf) packetMaxTotal timeoutMs s
    r.1 ≤ 0 ∧ Idle n r.2.2 := by
  rcases s with ⟨init, ⟨writes, rx⟩, l⟩
  obtain ⟨rfl, rfl, rfl⟩ := hs
  simp only [Peer.recv_eq, recv_empty short buf timeoutMs l (by decide :
    packetOverheadBytes ≤ packetMaxTotal)]
  exact ⟨show halErrTimeout ≤ 0 by decide, rfl, rfl, rfl⟩

/-- With nothing after the answer, the receiver fails. -/
theorem Pending.recv_exact (hs : Pending (fun _ => []) n A s)
    (hfits : ∀ F ∈ A, F.payload.length + 11 ≤ packetMaxTotal) :
    let r := recv (p.srl short fun _ => []) (some buf) packetMaxTotal timeoutMs s
    r.1 ≤ 0 ∧ Idle n r.2.2 := by
  rcases A with - | F
  · exact hs.idle.recv _ p short buf timeoutMs
  rcases s with ⟨init, ⟨writes, rx⟩, l⟩
  obtain ⟨rfl, rfl, rfl⟩ := hs
  have hbytes : filled (fun _ => []) (some F).toList = F.bytes := by
    rw [filled, Option.toList_some, List.flatMap_singleton, List.append_nil]
  obtain ⟨hcode, l', hstate⟩ := Hal.recv_exact short buf timeoutMs l F (hfits F rfl)
  simp only [Peer.recv_eq, hbytes, hstate]
  exact ⟨hcode, rfl, rfl, rfl⟩

/-- With two bytes of filling after the answer, the receiver takes it with these. -/
theorem Pending.recv_filled (hfill : ∀ F, (fill F).length = 2) {F : Frame}
    (hs : Pending fill n (some F) s) (hfits : F.payload.length + 11 ≤ packetMaxTotal) :
    let r := recv (p.srl short fill) (some buf) packetMaxTotal timeoutMs s
    r.1 = F.payload.length + 11 ∧
      r.2.1 = some (F.bytes ++ fill F ++ buf.drop (F.payload.length + 11)) ∧ Idle n r.2.2 := by
  rcases s with ⟨init, ⟨writes, rx⟩, l⟩
  obtain ⟨rfl, rfl, rfl⟩ := hs
  have hbytes : filled fill (some F).toList = F.bytes ++ fill F := by
    rw [filled, Option.toList_some, List.flatMap_singleton]
  have htake : (fill F).take 2 = fill F := List.take_of_length_le (hfill F).le
  have hdrop : (fill F).drop 2 = [] := List.drop_of_length_le (hfill F).le
  simp only [Peer.recv_eq, hbytes, recv_frame short F (fill F) buf timeoutMs l hfits (hfill F).ge,
    htake, hdrop]
  exact ⟨Nat.cast_add _ _, trivial, rfl, rfl, rfl⟩

end

end Ig4u.Hal
