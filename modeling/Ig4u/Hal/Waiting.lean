import Ig4u.Hal.Traffic

/-!
# How long the HAL waits

Every call of the driver has a timeout. What the HAL lets the driver wait in all (`Traffic.waited`)
is bounded by the calls of the HAL, but for the flushes: these go on as long as bytes come in, and
every byte pays for one more read of at most `10` ms (`Traffic.debt`).

* `flushLoop_debt`: so a flush costs `10` ms.
* `recv_debt`, `send_debt`: a receive costs three timeouts, a send one.
-/

namespace Ig4u

namespace Traffic

/-- The timeout of a call of the driver. -/
def timeout : Traffic → ℕ
  | wrote _ timeoutMs => timeoutMs
  | read _ timeoutMs => timeoutMs

/-- The time that the driver was let wait in all, in milliseconds. -/
def waited (log : List Traffic) : ℕ := (log.map timeout).sum

/-- The time waited, less `10` ms for every byte received. -/
def debt (log : List Traffic) : ℤ := (waited log : ℤ) - 10 * (received log).length

/-- A write costs its timeout. -/
theorem debt_wrote (log : List Traffic) (w : Write) (timeoutMs : ℕ) :
    debt (log ++ [.wrote w timeoutMs]) = debt log + timeoutMs := by
  simp [debt, waited, received, bytesRead, timeout]
  ring

/-- A read costs its timeout, less what its bytes pay for. -/
theorem debt_read (log : List Traffic) (bytes : List UInt8) (timeoutMs : ℕ) :
    debt (log ++ [.read bytes timeoutMs]) = debt log + timeoutMs - 10 * bytes.length := by
  simp [debt, waited, received, bytesRead, timeout]
  ring

end Traffic

namespace Hal

open Lib Proto Traffic

variable {δ : Type*} {d : Srl δ}

/-- A read of the receiver, of which the bytes are not needed to pay for anything. -/
theorem readInto_debt (buf : List UInt8) (off len timeoutMs : ℕ) (s : State (δ × List Traffic)) :
    debt (readInto d.tapped buf off len timeoutMs s).2.2.drv.2 ≤ debt s.drv.2 + timeoutMs := by
  have h := debt_read s.drv.2 (d.apiRead len timeoutMs s.drv.1).1.stored timeoutMs
  have hlog : (readInto d.tapped buf off len timeoutMs s).2.2.drv.2 =
      s.drv.2 ++ [.read (d.apiRead len timeoutMs s.drv.1).1.stored timeoutMs] := rfl
  rw [hlog]
  omega

/-- The reads of a flush are paid for by the bytes they discard, but for the last one. -/
theorem flushLoop_debt (hd : d.Counts) (n : ℕ) (x : δ × List Traffic) :
    debt (flushLoop d.tapped n x).2 ≤ debt x.2 + 10 := by
  induction n generalizing x with
  | zero =>
    simp only [flushLoop]
    omega
  | succ n ih =>
    have h := debt_read x.2 (d.apiRead 64 10 x.1).1.stored 10
    have hlog : (d.tapped.apiRead 64 10 x).2.2 = x.2 ++ [.read (d.apiRead 64 10 x.1).1.stored 10] :=
      rfl
    simp only [flushLoop]
    split_ifs with hr
    · -- At least one byte was read, which pays for this read; the induction pays for the others.
      have hcount : 0 < (d.apiRead 64 10 x.1).1.stored.length :=
        (hd.length_stored 64 10 x.1).symm ▸ hr.2
      have hnext := ih (d.tapped.apiRead 64 10 x).2
      rw [hlog] at hnext
      omega
    · -- The last read, which fails or gives nothing.
      rw [hlog]
      omega

/-- So a flush costs `10` ms. -/
theorem flushRx_debt (hd : d.Counts) (s : State (δ × List Traffic)) :
    debt (flushRx d.tapped s).drv.2 ≤ debt s.drv.2 + 10 := by
  simp only [flushRx]
  split_ifs
  · exact flushLoop_debt hd _ _
  · omega

section

variable (hd : d.Counts) {timeoutMs : ℕ} (ht : 10 ≤ timeoutMs)

include hd ht

/-- Step 3 of the receiver makes one read, or a flush in its place, or nothing. -/
theorem recvPayload_debt (buf : List UInt8) (bytesRead size : ℕ) (s : State (δ × List Traffic)) :
    debt (recvPayload d.tapped buf bytesRead size timeoutMs s).2.2.drv.2 ≤
      debt s.drv.2 + timeoutMs := by
  have hflush := flushRx_debt hd s
  have hread := readInto_debt (d := d) buf bytesRead
    (add32 (word16 (buf.getD 5 0) (buf.getD 6 0)).toNat 2) timeoutMs s
  simp only [recvPayload]
  split_ifs
  · simp only
    omega
  · simp only
    omega
  · simp only
    omega
  · exact hread
  · exact hread
  · simp only
    omega

/-- Step 2 makes at most one read more. -/
theorem realign_debt (buf : List UInt8) (bytesRead sync size : ℕ) (s : State (δ × List Traffic)) :
    debt (realign d.tapped buf bytesRead sync size timeoutMs s).2.2.drv.2 ≤
      debt s.drv.2 + 2 * timeoutMs := by
  have hread := readInto_debt (d := d)
    (overwrite buf 0 ((buf.drop sync).take (sub32 bytesRead sync))) (sub32 bytesRead sync)
    (sub32 headerReadSize (sub32 bytesRead sync)) timeoutMs s
  simp only [realign]
  split_ifs
  · -- The read failed, and step 3 is not reached.
    refine hread.trans ?_
    omega
  · refine (recvPayload_debt hd ht _ _ _ _).trans ?_
    omega
  · refine (recvPayload_debt hd ht _ _ _ _).trans ?_
    omega

/-- A receive makes at most three reads, and a flush in place of the last one. -/
theorem recv_debt (buf : List UInt8) (size : ℕ) (s : State (δ × List Traffic)) :
    debt (recv d.tapped (some buf) size timeoutMs s).2.2.drv.2 ≤
      debt s.drv.2 + 3 * timeoutMs := by
  have hread := readInto_debt (d := d) buf 0 headerReadSize timeoutMs s
  simp only [recv]
  split_ifs
  · -- The buffer is too small, or the HAL is not initialised (the last case): nothing is read.
    simp only
    omega
  · refine hread.trans ?_
    omega
  · -- Without a sync header, the flush is the last thing that happens.
    refine (flushRx_debt hd _).trans ?_
    omega
  · refine (realign_debt hd ht _ _ _ _ _).trans ?_
    omega
  · refine (recvPayload_debt hd ht _ _ _ _).trans ?_
    omega
  · simp only
    omega

end

/-- A send makes at most one write. -/
theorem send_debt {b : List UInt8} {len : ℕ} (hlen : len ≠ 0) (s : State (δ × List Traffic)) :
    debt (send d.tapped (some b) len s).2.drv.2 ≤ debt s.drv.2 + uartTimeoutMs := by
  rw [(send_tapped d hlen s).2.2.2]
  split_ifs
  · exact (debt_wrote _ _ _).le
  · -- The HAL is not initialised, and does not write.
    omega

end Hal

end Ig4u
