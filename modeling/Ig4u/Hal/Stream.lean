import Ig4u.Hal.Basic
import Ig4u.Protocol.Frame

/-!
# Receiving a stream of frames

The receiver of the HAL over the simplest driver, a FIFO of bytes (`fifo`): a
read gives as many bytes as asked for if that many are pending, and otherwise
those pending.

The overhead of `9` bytes the receiver reads first already contains the CRC, but
it then reads the payload *and two more bytes*: of a frame with `N` payload bytes
it takes `11 + N` from the line, two more than the frame has.

* `recv_frame`: with at least two bytes after it, and up to `254` payload bytes,
  a frame is received with the two bytes after it, which are lost to the next one.
* `recv_frame_fails`: otherwise the frame is not received.
* `receivesAll_iff`: no sequence of frames is received frame by frame, except the
  empty one.
-/

namespace Ig4u.Hal

open Lib Proto

/-- The driver with a FIFO of pending bytes. A read of more bytes than are pending
    gives those, with the status `short`. -/
def fifo (short : CfeStatus) : Srl (List UInt8) where
  apiGetHandle q := (.success, q)
  apiConfigure _ q := (.success, q)
  apiWrite b _ q := ((.success, b.length), q)
  apiRead len _ q :=
    (⟨if len ≤ q.length then .success else short, q.take len, (q.take len).length⟩, q.drop len)
  pending q := q.length

/-- Every read that gives bytes takes them from the FIFO. -/
theorem fifo_drains (short : CfeStatus) : (fifo short).Drains := by
  intro len _ q _ h
  simp only [fifo, List.length_take, List.length_drop] at h ⊢
  omega

/-- After a header of `9` bytes announcing `N` payload bytes, the receiver wants
    `N + 2` bytes more. -/
theorem recvPayload_eq {δ : Type*} (d : Srl δ) {buf : List UInt8} {N : ℕ}
    (hN : (word16 (buf.getD 5 0) (buf.getD 6 0)).toNat = N) (hle : N ≤ packetMaxPayload)
    (size timeoutMs : ℕ) (s : State δ) :
    recvPayload d buf 9 size timeoutMs s =
      if size < N + 11 then (halErrRecv, buf, s)
      else
        let r := readInto d buf 9 (N + 2) timeoutMs s
        if r.1.status ≠ .success ∨ r.1.count ≠ N + 2 then (halErrTimeout, r.2.1, r.2.2)
        else (((N + 11 : ℕ) : ℤ), r.2.1, r.2.2) := by
  simp only [packetMaxPayload] at hle
  have hremain : add32 N 2 = N + 2 := add32_eq (by omega)
  have htotal : add32 9 (N + 2) = N + 11 := by
    rw [add32_eq (by omega)]
    omega
  simp only [recvPayload, headerReadSize, packetOverheadBytes, lt_irrefl, if_false, hN,
    packetMaxPayload, if_neg (not_lt.2 hle), hremain, htotal, if_pos (Nat.succ_pos _)]
  split_ifs with hs hr
  · rfl
  · rfl
  · rw [not_not.1 (not_or.1 hr).2, htotal]

variable (short : CfeStatus) (F : Frame) (rest buf : List UInt8) {size : ℕ} (timeoutMs : ℕ)
  (l : List (ℕ × ℕ))

/-- The first read of a frame takes its first `9` bytes, among which the sync header
    is found at the start. -/
theorem recv_header (hsize : packetOverheadBytes ≤ size) :
    recv (fifo short) (some buf) size timeoutMs ⟨true, F.bytes ++ rest, l⟩ =
      let q := recvPayload (fifo short) ((F.bytes ++ rest).take 9 ++ buf.drop 9) 9 size timeoutMs
        ⟨true, (F.bytes ++ rest).drop 9, l ++ [(0, 9)]⟩
      (q.1, some q.2.1, q.2.2) := by
  have h9 : 9 ≤ (F.bytes ++ rest).length := by
    rw [List.length_append, F.length_bytes, packetOverheadBytes]
    omega
  have hread : readInto (fifo short) buf 0 headerReadSize timeoutMs ⟨true, F.bytes ++ rest, l⟩ =
      (⟨.success, (F.bytes ++ rest).take 9, 9⟩, (F.bytes ++ rest).take 9 ++ buf.drop 9,
        ⟨true, (F.bytes ++ rest).drop 9, l ++ [(0, 9)]⟩) := by
    simp only [readInto, fifo, headerReadSize, packetOverheadBytes, if_pos h9, List.length_take,
      min_eq_left h9, overwrite_zero]
  have hsync : findSyncHeader (some ((F.bytes ++ rest).take 9 ++ buf.drop 9)) 9 = 0 := rfl
  rw [recv, if_neg (by simp)]
  simp only [if_neg (not_lt.2 hsize), hread, hsync, ne_eq, not_true_eq_false, OfNat.ofNat_ne_zero,
    or_self, if_false, lt_irrefl]

/-- The length field is among the first `9` bytes. -/
theorem length_field_take :
    (word16 (((F.bytes ++ rest).take 9 ++ buf.drop 9).getD 5 0)
      (((F.bytes ++ rest).take 9 ++ buf.drop 9).getD 6 0)).toNat = F.payload.length :=
  F.length_field rest

/-- The bytes of a frame and two more, split where the second read starts. -/
theorem take_frame :
    (F.bytes ++ rest).take 9 ++ ((F.bytes ++ rest).drop 9).take (F.payload.length + 2) =
      F.bytes ++ rest.take 2 := by
  rw [← List.take_add, List.take_append, List.take_of_length_le (by simp)]
  congr 2
  rw [F.length_bytes, packetOverheadBytes]
  omega

/-- A frame is received with the two bytes after it, if they are there and all of
    it fits in the buffer. -/
theorem recv_frame (hsize : F.payload.length + 11 ≤ size) (hrest : 2 ≤ rest.length) :
    recv (fifo short) (some buf) size timeoutMs ⟨true, F.bytes ++ rest, l⟩ =
      (((F.payload.length + 11 : ℕ) : ℤ),
        some (F.bytes ++ rest.take 2 ++ buf.drop (F.payload.length + 11)),
        ⟨true, rest.drop 2, l ++ [(0, 9), (9, F.payload.length + 2)]⟩) := by
  have h9 : ((F.bytes ++ rest).take 9).length = 9 := by
    rw [List.length_take, List.length_append, F.length_bytes, packetOverheadBytes]
    omega
  have hlen : F.payload.length + 2 ≤ ((F.bytes ++ rest).drop 9).length := by simp; omega
  have hdrop : ((F.bytes ++ rest).drop 9).drop (F.payload.length + 2) = rest.drop 2 := by
    rw [List.drop_drop, List.drop_append, List.drop_of_length_le (by simp), List.nil_append]
    congr 1
    rw [F.length_bytes, packetOverheadBytes]
    omega
  -- The second read is stored just behind the first one.
  have hbuf : overwrite ((F.bytes ++ rest).take 9 ++ buf.drop 9) 9
      (((F.bytes ++ rest).drop 9).take (F.payload.length + 2)) =
      F.bytes ++ rest.take 2 ++ buf.drop (F.payload.length + 11) := by
    have h := overwrite_append ((F.bytes ++ rest).take 9) (buf.drop 9)
      (((F.bytes ++ rest).drop 9).take (F.payload.length + 2))
    rw [h9] at h
    rw [h, take_frame, List.length_take, min_eq_left hlen, List.drop_drop]
    congr 2
    omega
  have hread : readInto (fifo short) ((F.bytes ++ rest).take 9 ++ buf.drop 9) 9
      (F.payload.length + 2) timeoutMs ⟨true, (F.bytes ++ rest).drop 9, l ++ [(0, 9)]⟩ =
      (⟨.success, ((F.bytes ++ rest).drop 9).take (F.payload.length + 2), F.payload.length + 2⟩,
        F.bytes ++ rest.take 2 ++ buf.drop (F.payload.length + 11),
        ⟨true, rest.drop 2, l ++ [(0, 9), (9, F.payload.length + 2)]⟩) := by
    simp only [readInto, fifo, if_pos hlen, hbuf, hdrop, List.length_take, min_eq_left hlen,
      List.append_assoc, List.cons_append, List.nil_append]
  rw [recv_header _ _ _ _ _ _ (by simp only [packetOverheadBytes]; omega)]
  simp only [recvPayload_eq _ (length_field_take F rest buf) F.length_le, hread,
    if_neg (not_lt.2 hsize), ne_eq, not_true_eq_false, or_self, if_false]

/-- A frame is not received if it does not fit in the buffer with two more bytes, or
    if these do not come. -/
theorem recv_frame_fails (hsize : packetOverheadBytes ≤ size)
    (h : size < F.payload.length + 11 ∨ rest.length < 2) :
    (recv (fifo short) (some buf) size timeoutMs ⟨true, F.bytes ++ rest, l⟩).1 < 0 := by
  rw [recv_header _ _ _ _ _ _ hsize]
  simp only [recvPayload_eq _ (length_field_take F rest buf) F.length_le]
  split_ifs with hs hr
  · exact show halErrRecv < 0 by decide
  · exact show halErrTimeout < 0 by decide
  · -- The read was complete, so the two bytes were there.
    have hcount := not_not.1 (not_or.1 hr).2
    simp [readInto, fifo] at hcount
    omega

/-! ## Sequences of frames -/

/-- The bytes of a sequence of frames sent back to back. -/
def stream (frames : List Frame) : List UInt8 := frames.flatMap Frame.bytes

/-- One call of the receiver for each frame, from the state `s`, gives the frames:
    every call returns the length of its frame, has it at the start of the buffer, and leaves the
    following frames on the line. The buffer may hold anything before the call. -/
def ReceivesAll : List Frame → State (List UInt8) → Prop
  | [], _ => True
  | F :: frames, s => ∀ buf : List UInt8, buf.length = packetMaxTotal →
    let r := recv (fifo short) (some buf) packetMaxTotal timeoutMs s
    r.1 = F.bytes.length ∧ r.2.1.map (List.take F.bytes.length) = some F.bytes ∧
      r.2.2.drv = stream frames ∧ ReceivesAll frames r.2.2

/-- Only the empty sequence of frames is received frame by frame. -/
theorem receivesAll_iff (frames : List Frame) :
    ReceivesAll short timeoutMs frames ⟨true, stream frames, l⟩ ↔ frames = [] := by
  refine ⟨fun h => ?_, fun h => h ▸ trivial⟩
  cases frames with
  | nil => rfl
  | cons F frames =>
    exfalso
    have hcode := (h (List.replicate packetMaxTotal 0) List.length_replicate).1
    rw [stream, List.flatMap_cons, F.length_bytes] at hcode
    -- The first frame already fails, or is received with two bytes too many.
    by_cases hf : packetMaxTotal < F.payload.length + 11 ∨ (stream frames).length < 2
    · have hneg := recv_frame_fails short F (stream frames) (List.replicate packetMaxTotal 0)
        timeoutMs l (by decide) hf
      rw [stream, hcode] at hneg
      omega
    · rw [not_or, not_lt, not_lt] at hf
      rw [← stream, recv_frame short F _ _ timeoutMs l hf.1 hf.2] at hcode
      simp only [packetOverheadBytes] at hcode
      omega

/-- The acknowledgement of a Ping. -/
def pingAck : Frame :=
  .sealed packetVersion msgtypeResponse WireMsgid.ping [resultAck, 1, 0, 0] (by decide)

/-- A single acknowledgement on the line is not received. -/
theorem not_receivesAll_ack :
    ¬ReceivesAll .success 500 [pingAck] ⟨true, stream [pingAck], []⟩ := by
  intro h
  have hcode := (h (List.replicate packetMaxTotal 0) List.length_replicate).1
  exact absurd hcode (by decide +kernel)

end Ig4u.Hal
