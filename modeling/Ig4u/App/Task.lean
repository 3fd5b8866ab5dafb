import Ig4u.Commands.Basic

/-!
# The application

The global data of the cFS application (`ig4u_task.h`) and its initialisation
(`ig4u_task.c`). A `World` is that data, the line to the payload, and the record
of the telemetry published and of the events sent, both oldest first.

The cFE is not part of the repository. A `Cfe` has the constants of it the
application uses and `CFE_TIME_Subtract`, with its law; the clock is an input of
every step.
-/

namespace Ig4u

/-! ## The cFE -/

/-- `CFE_TIME_SysTime_t`: seconds and units of `2⁻³²` seconds. -/
structure SysTime where
  seconds : UInt32
  subseconds : UInt32
  deriving DecidableEq, Repr, Inhabited

/-- A time in units of `2⁻³²` seconds. -/
def SysTime.ticks (t : SysTime) : ℕ := t.seconds.toNat * 2 ^ 32 + t.subseconds.toNat

/-- What the application uses of the cFE. -/
structure Cfe where
  /-- `sizeof(CFE_MSG_CommandHeader_t)`. -/
  cmdHeaderSize : ℕ
  /-- `IG4U_CMD_MID`. -/
  cmdMid : ℕ
  /-- `IG4U_WAKEUP_MID`. -/
  wakeupMid : ℕ
  /-- `CFE_TIME_Subtract`. -/
  timeSubtract : SysTime → SysTime → SysTime
  /-- The difference of a time and an earlier one. -/
  ticks_timeSubtract : ∀ t₁ t₂, t₂.ticks ≤ t₁.ticks →
    (timeSubtract t₁ t₂).ticks = t₁.ticks - t₂.ticks

/-- The types of events. -/
inductive EventType
  | information
  | error
  deriving DecidableEq, Repr

/-- An event: its identifier, its type, its format and the arguments of this. -/
structure Event where
  eid : ℕ
  type : EventType
  format : String
  args : List ℤ
  deriving DecidableEq, Repr

/-- `CFE_ES_RunStatus`: the values the application uses. -/
inductive RunStatus
  | undefined
  | appRun
  | appError
  deriving DecidableEq, Repr, Inhabited

/-! ## Event identifiers -/

namespace Eid

def initInf : ℕ := 1
def ccErr : ℕ := 2
def midErr : ℕ := 3
def cmdLenErr : ℕ := 4
def pipeErr : ℕ := 5
def crPipeErr : ℕ := 6
def subCmdErr : ℕ := 7
def subWakeupErr : ℕ := 8
def uartSendErr : ℕ := 20
def uartRecvErr : ℕ := 21
def uartTimeoutErr : ℕ := 23
def uartNackErr : ℕ := 25
def stateStandbyInf : ℕ := 31
def stateArmedInf : ℕ := 32
def stateSafeErr : ℕ := 34
def stateFaultErr : ℕ := 35
def armedTimeoutErr : ℕ := 36
def mainFireInf : ℕ := 40
def mainFireDoneInf : ℕ := 41
def mainAbortInf : ℕ := 42
def cgFireInf : ℕ := 43
def cgFireDoneInf : ℕ := 44
def cgAbortInf : ℕ := 45
def interlockErr : ℕ := 46
def faultClearedInf : ℕ := 51
def faultClearFail : ℕ := 52
def pressureHighErr : ℕ := 53

end Eid

/-! ## The data -/

/-- `IG4U_Data_t`. -/
structure Data where
  cmdCounter : UInt8
  errCounter : UInt8
  runStatus : RunStatus
  hkTlm : HkTlmPayload
  statusTlm : ReplyStatusPayload
  fireResultTlm : MainThrusterResultPayload
  faultLogTlm : ReplyFaultLogPayload
  currentState : State
  faultFlags : UInt16
  powerApplied : Bool
  linkReady : Bool
  lastHK : ReplyHKDataPayload
  lastStatus : ReplyStatusPayload
  mainFireCount : UInt16
  cgFireCount : UInt16
  armedEntryTime : SysTime
  armedTimerActive : Bool
  deriving DecidableEq, Repr, Inhabited

/-- A telemetry message published on the software bus. -/
inductive Tlm
  | hk (payload : HkTlmPayload)
  | status (payload : ReplyStatusPayload)
  | fireResult (payload : MainThrusterResultPayload)
  | faultLog (payload : ReplyFaultLogPayload)
  deriving DecidableEq, Repr

/-- The application and what it has done so far. -/
structure World (σ : Type*) where
  data : Data
  line : Line σ
  tlm : List Tlm
  evs : List Event

namespace World

variable {σ : Type*} (w : World σ)

/-- Updating the data. -/
def update (f : Data → Data) : World σ := { w with data := f w.data }

/-- `CFE_EVS_SendEvent`. -/
def sendEvent (eid : ℕ) (type : EventType) (format : String) (args : List ℤ) : World σ :=
  { w with evs := w.evs ++ [⟨eid, type, format, args⟩] }

/-- `CFE_SB_TransmitMsg`. -/
def transmitMsg (t : Tlm) : World σ := { w with tlm := w.tlm ++ [t] }

@[simp] theorem update_data (f : Data → Data) : (w.update f).data = f w.data := rfl
@[simp] theorem update_line (f : Data → Data) : (w.update f).line = w.line := rfl
@[simp] theorem update_tlm (f : Data → Data) : (w.update f).tlm = w.tlm := rfl

@[simp]
theorem sendEvent_data (eid : ℕ) (type : EventType) (format : String) (args : List ℤ) :
    (w.sendEvent eid type format args).data = w.data := rfl

@[simp]
theorem sendEvent_line (eid : ℕ) (type : EventType) (format : String) (args : List ℤ) :
    (w.sendEvent eid type format args).line = w.line := rfl

@[simp]
theorem sendEvent_tlm (eid : ℕ) (type : EventType) (format : String) (args : List ℤ) :
    (w.sendEvent eid type format args).tlm = w.tlm := rfl

@[simp] theorem transmitMsg_data (t : Tlm) : (w.transmitMsg t).data = w.data := rfl
@[simp] theorem transmitMsg_line (t : Tlm) : (w.transmitMsg t).line = w.line := rfl
@[simp] theorem transmitMsg_tlm (t : Tlm) : (w.transmitMsg t).tlm = w.tlm ++ [t] := rfl

end World

namespace App

variable {σ : Type*} (L : Link σ)

/-! ## Initialisation -/

/-- The statuses of the calls of the cFE in `IG4U_Init`. -/
structure InitEnv where
  evsRegister : CfeStatus
  createPipe : CfeStatus
  subscribeCmd : CfeStatus
  subscribeWakeup : CfeStatus

/-- `IG4U_Init`. -/
def init (e : InitEnv) (w : World σ) : CfeStatus × World σ :=
  let w := w.update fun _ => { (default : Data) with runStatus := .appRun, currentState := .boot }
  if e.evsRegister ≠ .success then (e.evsRegister, w)
  else if e.createPipe ≠ .success then
    (e.createPipe,
      w.sendEvent Eid.crPipeErr .error "IG4U: Create Pipe failed. RC=0x%08lX"
        [e.createPipe.value])
  else if e.subscribeCmd ≠ .success then
    (e.subscribeCmd,
      w.sendEvent Eid.subCmdErr .error "IG4U: Subscribe CMD failed. RC=0x%08lX"
        [e.subscribeCmd.value])
  else if e.subscribeWakeup ≠ .success then
    (e.subscribeWakeup,
      w.sendEvent Eid.subWakeupErr .error "IG4U: Subscribe WAKEUP failed. RC=0x%08lX"
        [e.subscribeWakeup.value])
  else
    let r := L.init w.line.link
    let w := { w with line := { w.line with link := r.2 } }
    if r.1 ≠ halOk then
      (.externalResourceFail,
        w.sendEvent Eid.crPipeErr .error "IG4U: RS-422 HAL init failed. RC=%d" [r.1])
    else
      let w := w.update fun d =>
        { d with currentState := .standby, powerApplied := true, linkReady := true }
      (.success,
        w.sendEvent Eid.initInf .information "IG4U App Initialized. UART=%u bps, State=STANDBY."
          [uartBaudRate])

/-- The start of `IG4U_Main`, up to its loop. -/
def start (e : InitEnv) (w : World σ) : World σ :=
  let r := init L e w
  if r.1 ≠ .success then r.2.update fun d => { d with runStatus := .appError } else r.2

end App

end Ig4u
