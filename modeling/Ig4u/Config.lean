import Mathlib.Tactic

/-!
# Configuration

The constants of the interface to the propulsion unit (`ig4u_interface_cfg.h`,
`ig4u_internal_cfg.h`), the return codes of the layers and the function codes of
the ground commands (`ig4u_fcncodes.h`), under the names of the headers without
their `IG4U_` prefix.

The state of the state machine (`State`) is the C enumeration `IG4U_State_t`
with everything a variable of that type can hold: a byte reported by the payload
is cast to it unchecked, so besides the six declared states there is one for
every byte from `IG4U_STATE_COUNT` on. `State.ofByte` is the cast, `State.toByte`
its inverse.
-/

namespace Ig4u

/-! ## Frames -/

def uartBaudRate : ℕ := 921600
def uartDataBits : ℕ := 8
def uartParity : ℕ := 0
def uartStopBits : ℕ := 1
def uartTimeoutMs : ℕ := 500

def packetVersion : UInt8 := 0x10

@[simp] def packetOverheadBytes : ℕ := 9
@[simp] def packetMaxPayload : ℕ := 256
@[simp] def packetMaxTotal : ℕ := packetOverheadBytes + packetMaxPayload

def msgtypeCommand : UInt8 := 0
def msgtypeResponse : UInt8 := 1
def msgtypeEvent : UInt8 := 2

def crc16Poly : UInt16 := 0x1021
def crc16Init : UInt16 := 0xFFFF

/-! ## Wire-level message identifiers (`IG4U_WIRE_MSGID_*`) -/

namespace WireMsgid

def ping : UInt8 := 1
def resetModule : UInt8 := 2
def setMode : UInt8 := 3
def armPropulsion : UInt8 := 4
def disarmPropulsion : UInt8 := 5
def requestHk : UInt8 := 10
def replyHk : UInt8 := 10
def requestStatus : UInt8 := 11
def replyStatus : UInt8 := 11
def mainFire : UInt8 := 20
def mainAbort : UInt8 := 21
def mainResult : UInt8 := 20
def cgPulse : UInt8 := 30
def cgBurst : UInt8 := 31
def cgAbort : UInt8 := 32
def cgResult : UInt8 := 30
def requestFaultLog : UInt8 := 40
def replyFaultLog : UInt8 := 40
def clearFault : UInt8 := 41

end WireMsgid

/-! ## Function codes of the ground commands (`IG4U_*_CC`) -/

namespace Cc

@[match_pattern] def noop : ℕ := 0
@[match_pattern] def resetCounter : ℕ := 1
@[match_pattern] def ping : ℕ := 10
@[match_pattern] def resetModule : ℕ := 11
@[match_pattern] def setMode : ℕ := 12
@[match_pattern] def armPropulsion : ℕ := 13
@[match_pattern] def disarmPropulsion : ℕ := 14
@[match_pattern] def requestHKData : ℕ := 20
@[match_pattern] def requestStatus : ℕ := 21
@[match_pattern] def mainThrusterFire : ℕ := 30
@[match_pattern] def mainThrusterAbort : ℕ := 31
@[match_pattern] def cgThrusterPulse : ℕ := 40
@[match_pattern] def cgThrusterBurst : ℕ := 41
@[match_pattern] def cgThrusterAbort : ℕ := 42
@[match_pattern] def requestFaultLog : ℕ := 50
@[match_pattern] def clearFault : ℕ := 51

end Cc

/-! ## Timeouts and limits -/

def armedTimeoutSec : ℕ := 30
def faultLogMaxEntries : UInt8 := 32

/-! ## Modes, results and faults -/

/-- The mode codes of Set Mode (`IG4U_ModeCmd_t`). -/
def modeStandby : UInt8 := 0
def modeArmed : UInt8 := 1
def modeSafe : UInt8 := 2

def resultAck : UInt8 := 0
def resultNack : UInt8 := 1
def fireResultFault : UInt8 := 2
def faultNone : UInt16 := 0

/-! ## The state machine -/

/-- The number of declared states (`IG4U_STATE_COUNT`). -/
def stateCount : UInt8 := 6

/-- What a variable of type `IG4U_State_t` holds: a declared state, or another
    byte cast to the type. -/
inductive State
  | boot
  | standby
  | armed
  | firing
  | safe
  | fault
  | undeclared (v : UInt8) (h : stateCount ≤ v)
  deriving DecidableEq, Repr

/-- The state `memset` to `0` gives. -/
instance : Inhabited State := ⟨.boot⟩

namespace State

/-- The cast of a byte to `IG4U_State_t`. -/
def ofByte (b : UInt8) : State :=
  if h : stateCount ≤ b then .undeclared b h
  else if b = 0 then .boot
  else if b = 1 then .standby
  else if b = 2 then .armed
  else if b = 3 then .firing
  else if b = 4 then .safe
  else .fault

/-- The numeric value of a state. -/
def toByte : State → UInt8
  | boot => 0
  | standby => 1
  | armed => 2
  | firing => 3
  | safe => 4
  | fault => 5
  | undeclared v _ => v

@[simp]
theorem toByte_ofByte (b : UInt8) : (ofByte b).toByte = b := by
  unfold ofByte
  split_ifs with h <;> simp only [toByte, *]
  -- Below the count, the byte that is none of the others is `5`.
  simp only [stateCount] at h
  grind

@[simp]
theorem ofByte_toByte (s : State) : ofByte s.toByte = s := by
  cases s with
  | undeclared v h => simp [toByte, ofByte, h]
  | _ => decide

/-- A byte is cast to the state it is the value of. -/
theorem ofByte_eq_iff {b : UInt8} {s : State} : ofByte b = s ↔ b = s.toByte :=
  ⟨fun h => by rw [← h, toByte_ofByte], fun h => by rw [h, ofByte_toByte]⟩

end State

/-! ## Return codes -/

/-- `CFE_Status_t`: the statuses the code names, or another one. -/
inductive CfeStatus
  | success
  | externalResourceFail
  | other (code : ℤ)
  deriving DecidableEq, Repr

/-- The numeric value of a status. -/
def CfeStatus.value : CfeStatus → ℤ
  | success => 0
  | externalResourceFail => 0xC8000005
  | other code => code

def protoOk : ℤ := 0
def protoErrNullPtr : ℤ := -1
def protoErrBufSize : ℤ := -2
def protoErrCrcFail : ℤ := -3
def protoErrBadHeader : ℤ := -4
def protoErrBadLength : ℤ := -5

def halOk : ℤ := 0
def halErrInit : ℤ := -1
def halErrSend : ℤ := -2
def halErrRecv : ℤ := -3
def halErrTimeout : ℤ := -4
def halErrNotInit : ℤ := -5

def cmdOk : ℤ := 0
def cmdErrEncode : ℤ := -1
def cmdErrSend : ℤ := -2
def cmdErrTimeout : ℤ := -3
def cmdErrNack : ℤ := -4
def cmdErrParse : ℤ := -5

end Ig4u
