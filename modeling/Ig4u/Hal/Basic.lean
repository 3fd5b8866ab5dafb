import Ig4u.Protocol.Basic

/-!
# The hardware abstraction layer

The HAL of the RS-422 link (`ig4u_hal.c`), over the serial driver `CFE_SRL` of
the platform. The driver is not part of the repository: it is a parameter, a
`Srl δ` with states `δ`, whose calls may do anything.

The state of the HAL is its flag `s_initialized`, the driver behind its handle,
and the record of where the reads into the caller's buffer were directed.

Unsigned 32-bit arithmetic that could wrap is `add32` and `sub32`. The flush of
the receiver loops until the driver has nothing more to give, which need not
end. Here the loop is bounded: `pending` says how many of its reads may give
bytes, and any bound is allowed. If every successful read takes some of the
bytes pending (`Srl.Drains`), the bound is never what ends the loop, and no
receive depends on it (`recv_bounded`).
-/

namespace Ig4u

/-! ## The driver -/

/-- What a call of `CFE_SRL_ApiRead` gives: its status, the bytes it stored through
    the pointer, and the count it reported. -/
structure ReadResult where
  status : CfeStatus
  stored : List UInt8
  count : ℕ
  deriving DecidableEq, Repr

/-- `CFE_SRL_Config_t`. -/
structure SrlConfig where
  baudRate : ℕ
  dataBits : ℕ
  parity : ℕ
  stopBits : ℕ
  deriving DecidableEq, Repr

/-- A serial driver with the states `δ`. -/
structure Srl (δ : Type*) where
  /-- `CFE_SRL_ApiGetHandle`. -/
  apiGetHandle : δ → CfeStatus × δ
  /-- `CFE_SRL_ApiConfigure`. -/
  apiConfigure : SrlConfig → δ → CfeStatus × δ
  /-- `CFE_SRL_ApiWrite` of some bytes: the status and the count it reported. -/
  apiWrite : List UInt8 → ℕ → δ → (CfeStatus × ℕ) × δ
  /-- `CFE_SRL_ApiRead` of up to some number of bytes, with a timeout. -/
  apiRead : ℕ → ℕ → δ → ReadResult × δ
  /-- How many reads of a flush may give bytes: the number of bytes that the driver can still
      give without waiting, or any other bound. -/
  pending : δ → ℕ

/-- Every successful read that gives bytes takes them from the pending ones. -/
def Srl.Drains {δ : Type*} (d : Srl δ) : Prop :=
  ∀ len timeout s, (d.apiRead len timeout s).1.status = .success →
    0 < (d.apiRead len timeout s).1.count → d.pending (d.apiRead len timeout s).2 < d.pending s

/-- The driver with another bound on the flushes. -/
def Srl.bounded {δ : Type*} (d : Srl δ) (bound : δ → ℕ) : Srl δ := { d with pending := bound }

namespace Hal

open Lib Proto

variable {δ : Type*} (d : Srl δ)

/-- The state of the HAL. -/
structure State (δ : Type*) where
  /-- `s_initialized`. -/
  initialized : Bool
  /-- The driver behind `s_uart_handle`. -/
  drv : δ
  /-- The offset and the length of every read into the buffer of a caller, oldest first. -/
  reads : List (ℕ × ℕ)

/-! ## Unsigned arithmetic -/

def add32 (a b : ℕ) : ℕ := (a + b) % 2 ^ 32
def sub32 (a b : ℕ) : ℕ := (a + (2 ^ 32 - b % 2 ^ 32)) % 2 ^ 32

theorem add32_eq {a b : ℕ} (h : a + b < 2 ^ 32) : add32 a b = a + b := Nat.mod_eq_of_lt h

/-! ## Initialisation -/

/-- `IG4U_HAL_Init`. -/
def init (s : State δ) : ℤ × State δ :=
  if s.initialized then (halOk, s)
  else
    let r := d.apiGetHandle s.drv
    if r.1 ≠ .success then (halErrInit, { s with drv := r.2 })
    else
      let r := d.apiConfigure ⟨uartBaudRate, uartDataBits, uartParity, uartStopBits⟩ r.2
      if r.1 ≠ .success then (halErrInit, { s with drv := r.2 })
      else (halOk, { s with initialized := true, drv := r.2 })

/-! ## Sending -/

/-- `IG4U_HAL_Send`. -/
def send (buf : Option (List UInt8)) (len : ℕ) (s : State δ) : ℤ × State δ :=
  if ¬s.initialized then (halErrNotInit, s)
  else
    match buf with
    | none => (halErrSend, s)
    | some b =>
      if len = 0 then (halErrSend, s)
      else
        let r := d.apiWrite (b.take len) uartTimeoutMs s.drv
        if r.1.1 ≠ .success ∨ r.1.2 ≠ len then (halErrSend, { s with drv := r.2 })
        else (halOk, { s with drv := r.2 })

/-! ## Flushing -/

/-- The loop of `IG4U_HAL_FlushRx`, with at most `n` iterations. -/
def flushLoop : ℕ → δ → δ
  | 0, s => s
  | n + 1, s =>
    let r := d.apiRead 64 10 s
    if r.1.status = .success ∧ 0 < r.1.count then flushLoop n r.2 else r.2

/-- `IG4U_HAL_FlushRx`. -/
def flushRx (s : State δ) : State δ :=
  if ¬s.initialized then s
  else { s with drv := flushLoop d (d.pending s.drv + 1) s.drv }

variable {d} in
/-- The loop of the flush ends with a read that fails or gives nothing: more
    iterations would not be taken. -/
theorem flushLoop_done (hd : d.Drains) :
    ∀ (n : ℕ) (s : δ), d.pending s < n → ∀ m, n ≤ m → flushLoop d m s = flushLoop d n s
  | 0, _, h, _, _ => absurd h (Nat.not_lt_zero _)
  | n + 1, s, h, m, hm => by
    obtain ⟨m, rfl⟩ : ∃ k, m = k + 1 := ⟨m - 1, by omega⟩
    simp only [flushLoop]
    split_ifs with hr
    · exact flushLoop_done hd n _ (by have := hd 64 10 s hr.1 hr.2; omega) m (by omega)
    · rfl

/-! ## Receiving -/

/-- `HAL_HEADER_READ_SIZE`. -/
@[simp] def headerReadSize : ℕ := packetOverheadBytes

/-- A call of `CFE_SRL_ApiRead` for `len` bytes at the offset `off` of `buf`. -/
def readInto (buf : List UInt8) (off len timeoutMs : ℕ) (s : State δ) :
    ReadResult × List UInt8 × State δ :=
  let r := d.apiRead len timeoutMs s.drv
  (r.1, overwrite buf off r.1.stored, { s with drv := r.2, reads := s.reads ++ [(off, len)] })

/-- Step 3 of `IG4U_HAL_Recv`: the length field, then the payload and the CRC. -/
def recvPayload (buf : List UInt8) (bytesRead size timeoutMs : ℕ) (s : State δ) :
    ℤ × List UInt8 × State δ :=
  if bytesRead < headerReadSize then (halErrRecv, buf, s)
  else
    let payloadLen := (word16 (buf.getD 5 0) (buf.getD 6 0)).toNat
    if packetMaxPayload < payloadLen then (halErrRecv, buf, flushRx d s)
    else
      -- The two bytes of the CRC, which the size of the header read already counts.
      let remain := add32 payloadLen 2
      if size < add32 bytesRead remain then (halErrRecv, buf, s)
      else if 0 < remain then
        let r := readInto d buf bytesRead remain timeoutMs s
        if r.1.status ≠ .success ∨ r.1.count ≠ remain then (halErrTimeout, r.2.1, r.2.2)
        else ((add32 bytesRead r.1.count : ℕ), r.2.1, r.2.2)
      else (bytesRead, buf, s)

/-- Step 2 of `IG4U_HAL_Recv`, with the sync header at the offset `sync`: dropping
    what precedes it and reading what is missing of the header. -/
def realign (buf : List UInt8) (bytesRead sync size timeoutMs : ℕ) (s : State δ) :
    ℤ × List UInt8 × State δ :=
  let buf := overwrite buf 0 ((buf.drop sync).take (sub32 bytesRead sync))
  let bytesRead := sub32 bytesRead sync
  let remain := sub32 headerReadSize bytesRead
  if 0 < remain then
    let r := readInto d buf bytesRead remain timeoutMs s
    -- The number of bytes read is not compared with `remain`.
    if r.1.status ≠ .success then (halErrTimeout, r.2.1, r.2.2)
    else recvPayload d r.2.1 (add32 bytesRead r.1.count) size timeoutMs r.2.2
  else recvPayload d buf bytesRead size timeoutMs s

/-- `IG4U_HAL_Recv`: the return code, the buffer at `buf` and the state after the call. -/
def recv (buf : Option (List UInt8)) (size timeoutMs : ℕ) (s : State δ) :
    ℤ × Option (List UInt8) × State δ :=
  if ¬s.initialized then (halErrNotInit, buf, s)
  else
    match buf with
    | none => (halErrRecv, none, s)
    | some buf =>
      if size < packetOverheadBytes then (halErrRecv, some buf, s)
      else
        let r := readInto d buf 0 headerReadSize timeoutMs s
        if r.1.status ≠ .success ∨ r.1.count = 0 then (halErrTimeout, some r.2.1, r.2.2)
        else
          let syncOffset := findSyncHeader (some r.2.1) r.1.count
          if syncOffset < 0 then (halErrRecv, some r.2.1, flushRx d r.2.2)
          else
            let q := if 0 < syncOffset then
                realign d r.2.1 r.1.count syncOffset.toNat size timeoutMs r.2.2
              else recvPayload d r.2.1 r.1.count size timeoutMs r.2.2
            (q.1, some q.2.1, q.2.2)

/-! ## The bound on the flush -/

section

variable {d} (hd : d.Drains) {bound : δ → ℕ} (hb : ∀ x, d.pending x ≤ bound x)

include hd hb

/-- A flush of a driver that drains does not depend on the bound. -/
theorem flushRx_bounded (s : State δ) : flushRx (d.bounded bound) s = flushRx d s := by
  have hloop (n : ℕ) (x : δ) : flushLoop (d.bounded bound) n x = flushLoop d n x := by
    induction n generalizing x with
    | zero => rfl
    | succ n ih =>
      simp only [flushLoop, ih]
      rfl
  have hdone := flushLoop_done hd (d.pending s.drv + 1) s.drv (Nat.lt_succ_self _)
    (bound s.drv + 1) (Nat.succ_le_succ (hb s.drv))
  simp only [flushRx, hloop]
  split_ifs
  · exact congrArg (fun x => { s with drv := x }) hdone
  · rfl

theorem recvPayload_bounded (buf : List UInt8) (bytesRead size timeoutMs : ℕ) (s : State δ) :
    recvPayload (d.bounded bound) buf bytesRead size timeoutMs s =
      recvPayload d buf bytesRead size timeoutMs s := by
  simp only [recvPayload, flushRx_bounded hd hb]
  rfl

/-- Nor does a receive. -/
theorem recv_bounded (buf : Option (List UInt8)) (size timeoutMs : ℕ) (s : State δ) :
    recv (d.bounded bound) buf size timeoutMs s = recv d buf size timeoutMs s := by
  simp only [recv, realign, flushRx_bounded hd hb, recvPayload_bounded hd hb]
  rfl

end

end Hal

end Ig4u
