import Ig4u.Config
import Ig4u.Lib.Word

/-!
# Messages

The payloads exchanged with the propulsion unit and published to the ground
(`ig4u_msgdefs.h`), the fields of the ground commands, and the macros
serialising integers little-endian (`ig4u_endian.h`, with the default setting of
`IG4U_WIRE_BIG_ENDIAN`).

The `default` value of a record is the one `memset` to `0` gives. Spare bytes
that no function reads or writes are left out.
-/

namespace Ig4u

open Lib

/-! ## Byte serialisation -/

/-- `IG4U_RD_LE16`, at the offset `i` of the bytes at `p`. -/
def rdLE16 (p : List UInt8) (i : ℕ) : UInt16 := word16 (p.getD i 0) (p.getD (i + 1) 0)

/-- `IG4U_RD_LE16S`. -/
def rdLE16S (p : List UInt8) (i : ℕ) : Int16 := (rdLE16 p i).toInt16

/-- `IG4U_RD_LE32`. -/
def rdLE32 (p : List UInt8) (i : ℕ) : UInt32 :=
  word32 (p.getD i 0) (p.getD (i + 1) 0) (p.getD (i + 2) 0) (p.getD (i + 3) 0)

/-- The bytes `IG4U_WR_LE16` writes. -/
def wrLE16 (v : UInt16) : List UInt8 := [lowByte v, highByte v]

/-- The bytes `IG4U_WR_LE32` writes. -/
def wrLE32 (v : UInt32) : List UInt8 :=
  [(v &&& 0xFF).toUInt8, byteAt v 8, byteAt v 16, byteAt v 24]

/-- Reading back a 32-bit word. -/
theorem rdLE32_wrLE32 (v : UInt32) : rdLE32 (wrLE32 v) 0 = v := by
  have h : (v &&& 0xFF).toUInt8 = byteAt v 0 := by rw [byteAt, UInt32.shiftRight_zero]
  calc
    rdLE32 (wrLE32 v) 0
      = word32 (v &&& 0xFF).toUInt8 (byteAt v 8) (byteAt v 16) (byteAt v 24) := rfl
    _ = v := by rw [h, word32_bytes]

theorem wrLE32_ne_zero {v : UInt32} : wrLE32 v ≠ wrLE32 0 ↔ 0 < v := by
  rw [UInt32.pos_iff_ne_zero, not_iff_not]
  exact ⟨fun h => by rw [← rdLE32_wrLE32 v, h, rdLE32_wrLE32], fun h => by rw [h]⟩

/-! ## Telemetry from the payload -/

/-- `IG4U_DefaultResponse_Payload_t`. -/
structure DefaultResponsePayload where
  result : UInt8
  echoMsgID : UInt8
  errorCode : UInt8
  spare : UInt8
  deriving DecidableEq, Repr, Inhabited

/-- `IG4U_ReplyHKData_Payload_t`. -/
structure ReplyHKDataPayload where
  pressureKPaX10 : Vector UInt16 2
  temperatureX10 : Vector Int16 4
  mode : UInt8
  faultFlagsLo : UInt8
  faultFlagsHi : UInt8
  spare : UInt8
  deriving DecidableEq, Repr, Inhabited

/-- `IG4U_ReplyStatus_Payload_t`. -/
structure ReplyStatusPayload where
  mode : UInt8
  interlockStatus : UInt8
  faultFlags : UInt16
  armTimeoutRemain : UInt8
  deriving DecidableEq, Repr, Inhabited

/-- `IG4U_MainThrusterResult_Payload_t`. -/
structure MainThrusterResultPayload where
  result : UInt8
  spare : UInt8
  actualDurationMs : UInt16
  faultFlags : UInt16
  deriving DecidableEq, Repr, Inhabited

/-- `IG4U_CGThrusterResult_Payload_t`. -/
structure CGThrusterResultPayload where
  triggerMsgID : UInt8
  thrusterID : UInt8
  result : UInt8
  spare : UInt8
  executedPulseCount : UInt16
  faultFlags : UInt16
  deriving DecidableEq, Repr, Inhabited

/-- `IG4U_FaultEntry_t`. -/
structure FaultEntry where
  timestampSec : UInt32
  faultCode : UInt16
  stateAtFault : UInt8
  severity : UInt8
  deriving DecidableEq, Repr, Inhabited

/-- `IG4U_ReplyFaultLog_Payload_t`. -/
structure ReplyFaultLogPayload where
  entryCount : UInt8
  entries : Vector FaultEntry 32
  deriving DecidableEq, Repr, Inhabited

/-! ## Telemetry to the ground -/

/-- `IG4U_HkTlm_Payload_t`. -/
structure HkTlmPayload where
  cmdCounter : UInt8
  cmdErrCounter : UInt8
  mode : UInt8
  pressureKPaX10 : Vector UInt16 2
  temperatureX10 : Vector Int16 4
  faultFlags : UInt16
  mainFireCount : UInt16
  cgFireCount : UInt16
  armTimeoutRemain : UInt8
  deriving DecidableEq, Repr, Inhabited

/-! ## Ground commands -/

/-- The field of `IG4U_SetModeCmd_t` the handler reads. -/
structure SetModePayload where
  mode : UInt8
  deriving DecidableEq, Repr, Inhabited

/-- `IG4U_MainThrusterFire_Payload_t`. -/
structure MainThrusterFirePayload where
  durationMs : UInt32
  deriving DecidableEq, Repr, Inhabited

/-- `IG4U_CGThrusterPulse_Payload_t`. -/
structure CGThrusterPulsePayload where
  thrusterID : UInt8
  durationMs : UInt16
  deriving DecidableEq, Repr, Inhabited

/-- `IG4U_CGThrusterBurst_Payload_t`. -/
structure CGThrusterBurstPayload where
  thrusterID : UInt8
  pulseDurationMs : UInt16
  pulseCount : UInt16
  intervalMs : UInt16
  deriving DecidableEq, Repr, Inhabited

end Ig4u
