import Ig4u.Config
import Ig4u.Lib.Buffer
import Ig4u.Lib.Word

/-!
# The packet protocol

The packet layer of the RS-422 link (`ig4u_protocol.c`): the CRC, the encoder of
telecommands, the decoder of telemetry and the search for the sync header.

A pointer to bytes is an `Option (List UInt8)`, `none` being `NULL`; a read past
the end of the list gives `0`. The functions return the code of the C function
with what it writes through its pointers.
-/

namespace Ig4u.Proto

open Lib

/-! ## Layout -/

def headerByte0 : UInt8 := 0xAA
def headerByte1 : UInt8 := 0x55

@[simp] def offsetHeader : ℕ := 0
@[simp] def offsetVersion : ℕ := 2
@[simp] def offsetMsgtype : ℕ := 3
@[simp] def offsetMsgid : ℕ := 4
@[simp] def offsetLength : ℕ := 5
@[simp] def offsetPayload : ℕ := 7

/-! ## CRC -/

/-- An iteration of the inner loop of the CRC. -/
def crcShift (crc : UInt16) : UInt16 :=
  if crc &&& 0x8000 ≠ 0 then (crc <<< 1) ^^^ crc16Poly else crc <<< 1

/-- The remaining `j` iterations of the inner loop of the CRC. -/
def crcShifts : ℕ → UInt16 → UInt16
  | 0, crc => crc
  | j + 1, crc => crcShifts j (crcShift crc)

/-- An iteration of the outer loop of the CRC, on the byte `b`. -/
def crcByte (crc : UInt16) (b : UInt8) : UInt16 := crcShifts 8 (crc ^^^ (b.toUInt16 <<< 8))

/-- `IG4U_Proto_CalcCRC16`. -/
def calcCRC16 (data : Option (List UInt8)) (length : ℕ) : UInt16 :=
  match data with
  | none => 0
  | some d => (d.take length).foldl crcByte crc16Init

/-! ## Encoding telecommands -/

/-- The payload copy of `IG4U_Proto_EncodeTC`. -/
def copyPayload (buf : List UInt8) (payloadBuf : Option (List UInt8)) (payloadLen : ℕ) :
    List UInt8 :=
  match payloadBuf with
  | some p => if 0 < payloadLen then overwrite buf offsetPayload (p.take payloadLen) else buf
  | none => buf

/-- The packet assembly of `IG4U_Proto_EncodeTC`, in the buffer `buf`. -/
def assemble (buf : List UInt8) (msgId : UInt8) (payloadBuf : Option (List UInt8))
    (payloadLen : ℕ) : List UInt8 :=
  let buf := overwrite buf 0 (List.replicate (packetOverheadBytes + payloadLen) 0)
  let buf := buf.set offsetHeader headerByte0
  let buf := buf.set (offsetHeader + 1) headerByte1
  let buf := buf.set offsetVersion packetVersion
  let buf := buf.set offsetMsgtype msgtypeCommand
  let buf := buf.set offsetMsgid msgId
  let buf := buf.set offsetLength (UInt8.ofNat (payloadLen &&& 0xFF))
  let buf := buf.set (offsetLength + 1) (UInt8.ofNat ((payloadLen >>> 8) &&& 0xFF))
  let buf := copyPayload buf payloadBuf payloadLen
  let crc := calcCRC16 (some buf) (offsetPayload + payloadLen)
  let buf := buf.set (offsetPayload + payloadLen) (lowByte crc)
  buf.set (offsetPayload + payloadLen + 1) (highByte crc)

/-- `IG4U_Proto_EncodeTC`: the return code, and the buffer at `out_buf` after the call. -/
def encodeTC (outBuf : Option (List UInt8)) (outBufSize : ℕ) (msgId : UInt8)
    (payloadBuf : Option (List UInt8)) (payloadLen : ℕ) : ℤ × Option (List UInt8) :=
  match outBuf with
  | none => (protoErrNullPtr, none)
  | some buf =>
    if 0 < payloadLen ∧ payloadBuf = none then (protoErrNullPtr, some buf)
    else if packetMaxPayload < payloadLen then (protoErrBadLength, some buf)
    else if outBufSize < packetOverheadBytes + payloadLen then (protoErrBufSize, some buf)
    else ((packetOverheadBytes + payloadLen : ℕ), some (assemble buf msgId payloadBuf payloadLen))

/-! ## Decoding telemetry -/

/-- What `IG4U_Proto_DecodeTM` writes through its output pointers. The pointer to
    the payload is its offset in `in_buf`. -/
structure TmOut where
  msgType : UInt8
  msgId : UInt8
  payload : ℕ
  payloadLen : UInt16
  deriving DecidableEq, Repr, Inhabited

/-- `IG4U_Proto_DecodeTM`: the return code, and the outputs after the call (`none`
    if one of the four pointers is `NULL`). -/
def decodeTM (inBuf : Option (List UInt8)) (inBufLen : ℕ) (out : Option TmOut) :
    ℤ × Option TmOut :=
  match inBuf, out with
  | some b, some _ =>
    if inBufLen < packetOverheadBytes then (protoErrBadLength, out)
    else if b.getD offsetHeader 0 ≠ headerByte0 ∨ b.getD (offsetHeader + 1) 0 ≠ headerByte1 then
      (protoErrBadHeader, out)
    else
      let lengthField := word16 (b.getD offsetLength 0) (b.getD (offsetLength + 1) 0)
      if packetMaxPayload < lengthField.toNat then (protoErrBadLength, out)
      else if inBufLen < packetOverheadBytes + lengthField.toNat then (protoErrBadLength, out)
      else
        let crcReceived := word16 (b.getD (offsetPayload + lengthField.toNat) 0)
          (b.getD (offsetPayload + lengthField.toNat + 1) 0)
        let crcCalculated := calcCRC16 (some b) (offsetPayload + lengthField.toNat)
        if crcReceived ≠ crcCalculated then (protoErrCrcFail, out)
        else
          (protoOk,
            some ⟨b.getD offsetMsgtype 0, b.getD offsetMsgid 0, offsetPayload, lengthField⟩)
  | _, _ => (protoErrNullPtr, out)

/-! ## Searching the sync header -/

/-- The loop of `IG4U_Proto_FindSyncHeader`, from the index `i`, with `n` iterations left. -/
def findSyncFrom (buf : List UInt8) (i : ℕ) : ℕ → ℤ
  | 0 => -1
  | n + 1 =>
    if buf.getD i 0 = headerByte0 ∧ buf.getD (i + 1) 0 = headerByte1 then (i : ℤ)
    else findSyncFrom buf (i + 1) n

/-- `IG4U_Proto_FindSyncHeader`. -/
def findSyncHeader (buf : Option (List UInt8)) (bufLen : ℕ) : ℤ :=
  match buf with
  | none => -1
  | some b => if bufLen < 2 then -1 else findSyncFrom b 0 (bufLen - 1)

end Ig4u.Proto
