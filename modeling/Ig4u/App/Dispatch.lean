import Ig4u.App.Cmds

/-!
# The dispatch

The routing of the software-bus messages to their handlers (`ig4u_dispatch.c`),
and the loop of the application around it (`IG4U_Main`).

The switch over the function codes is a function to the type `GroundCommand` of
the commands, with the fields their handlers read, followed by the check of the
length and the call of the handler, which are the same for all of them.

* `step_of_activity`, `step_of_none`: a step is the handler of the activity it
  takes up (`Activity`), or nothing but counting an error and sending an event.
-/

namespace Ig4u

/-- A software-bus message: its identifier, size and function code, and what is read
    from it through the pointer types of the handlers. -/
structure SbMsg where
  msgId : ℕ
  size : ℕ
  fcnCode : ℕ
  setMode : SetModePayload := default
  mainThrusterFire : MainThrusterFirePayload := default
  cgThrusterPulse : CGThrusterPulsePayload := default
  cgThrusterBurst : CGThrusterBurstPayload := default
  deriving DecidableEq, Repr

/-- The ground commands. -/
inductive GroundCommand
  | noop
  | resetCounter
  | ping
  | resetModule
  | setMode (p : SetModePayload)
  | armPropulsion
  | disarmPropulsion
  | requestHKData
  | requestStatus
  | mainThrusterFire (p : MainThrusterFirePayload)
  | mainThrusterAbort
  | cgThrusterPulse (p : CGThrusterPulsePayload)
  | cgThrusterBurst (p : CGThrusterBurstPayload)
  | cgThrusterAbort
  | requestFaultLog
  | clearFault
  deriving DecidableEq, Repr

namespace GroundCommand

/-- The command with the function code of a message, if there is one. -/
def ofMsg (m : SbMsg) : Option GroundCommand :=
  match m.fcnCode with
  | Cc.noop => some noop
  | Cc.resetCounter => some resetCounter
  | Cc.ping => some ping
  | Cc.resetModule => some resetModule
  | Cc.setMode => some (setMode m.setMode)
  | Cc.armPropulsion => some armPropulsion
  | Cc.disarmPropulsion => some disarmPropulsion
  | Cc.requestHKData => some requestHKData
  | Cc.requestStatus => some requestStatus
  | Cc.mainThrusterFire => some (mainThrusterFire m.mainThrusterFire)
  | Cc.mainThrusterAbort => some mainThrusterAbort
  | Cc.cgThrusterPulse => some (cgThrusterPulse m.cgThrusterPulse)
  | Cc.cgThrusterBurst => some (cgThrusterBurst m.cgThrusterBurst)
  | Cc.cgThrusterAbort => some cgThrusterAbort
  | Cc.requestFaultLog => some requestFaultLog
  | Cc.clearFault => some clearFault
  | _ => none

/-- The size of the message of a command, `sizeof(IG4U_*Cmd_t)`. -/
def size (cfe : Cfe) : GroundCommand → ℕ
  | setMode _ => cfe.cmdHeaderSize + 4
  | mainThrusterFire _ => cfe.cmdHeaderSize + 4
  | cgThrusterPulse _ => cfe.cmdHeaderSize + 4
  | cgThrusterBurst _ => cfe.cmdHeaderSize + 8
  | _ => cfe.cmdHeaderSize

end GroundCommand

namespace App

variable {σ : Type*} (cfe : Cfe) (L : Link σ)

/-- The call of the handler of a command. -/
def handle (now : SysTime) (w : World σ) : GroundCommand → CfeStatus × World σ
  | .noop => noopCmd w
  | .resetCounter => resetCounterCmd w
  | .ping => pingCmd L w
  | .resetModule => resetModuleCmd L w
  | .setMode p => setModeCmd L now p w
  | .armPropulsion => armPropulsionCmd L now w
  | .disarmPropulsion => disarmPropulsionCmd L w
  | .requestHKData => requestHKDataCmd L w
  | .requestStatus => requestStatusCmd L w
  | .mainThrusterFire p => mainThrusterFireCmd L p w
  | .mainThrusterAbort => mainThrusterAbortCmd L w
  | .cgThrusterPulse p => cgThrusterPulseCmd L p w
  | .cgThrusterBurst p => cgThrusterBurstCmd L p w
  | .cgThrusterAbort => cgThrusterAbortCmd L w
  | .requestFaultLog => requestFaultLogCmd L w
  | .clearFault => clearFaultCmd L w

/-- `IG4U_VerifyCmdLength`. -/
def verifyCmdLength (m : SbMsg) (expectedLength : ℕ) (w : World σ) : Bool × World σ :=
  if expectedLength ≠ m.size then
    let w := w.sendEvent Eid.cmdLenErr .error "IG4U: Invalid Msg len: ID=0x%X CC=%u Len=%u Exp=%u"
      [m.msgId, m.fcnCode, m.size, expectedLength]
    (false, w.update fun d => { d with errCounter := d.errCounter + 1 })
  else (true, w)

/-- `IG4U_ProcessGroundCommand`. -/
def processGroundCommand (now : SysTime) (m : SbMsg) (w : World σ) : World σ :=
  match GroundCommand.ofMsg m with
  | some c =>
    let r := verifyCmdLength m (c.size cfe) w
    if r.1 then (handle L now r.2 c).2 else r.2
  | none =>
    let w := w.update fun d => { d with errCounter := d.errCounter + 1 }
    w.sendEvent Eid.ccErr .error "IG4U: Invalid CC=%d" [m.fcnCode]

/-- `IG4U_TaskPipe`. -/
def taskPipe (now : SysTime) (m : SbMsg) (w : World σ) : World σ :=
  if m.msgId = cfe.cmdMid then processGroundCommand cfe L now m w
  else if m.msgId = cfe.wakeupMid then wakeupHandler cfe L now w
  else w.sendEvent Eid.midErr .error "IG4U: Invalid MID=0x%X" [m.msgId]

/-- The input of a step: the clock, and what `CFE_SB_ReceiveBuffer` gives. -/
structure Input where
  now : SysTime
  received : Except CfeStatus SbMsg

/-- An iteration of the loop of `IG4U_Main`, which ends with its run status. An end that is asked
    for from outside is not a step: it only ends the run (`iterate`). -/
def step (i : Input) (w : World σ) : World σ :=
  if w.data.runStatus ≠ .appRun then w
  else
    match i.received with
    | .ok m => taskPipe cfe L i.now m w
    | .error status =>
      let w := w.sendEvent Eid.pipeErr .error "IG4U: SB Pipe Read Error. RC=0x%08lX" [status.value]
      w.update fun d => { d with runStatus := .appError }

/-- The worlds in which the loop starts, whatever was there before the initialisation. -/
def initial : Set (World σ) := { w | ∃ e w₀, w = start L e w₀ }

/-! ## What a step takes up -/

/-- What a step calls a handler for. -/
inductive Activity
  | command (c : GroundCommand)
  | wakeup
  deriving DecidableEq, Repr

/-- The command of a message, if it has a function code and the length that goes with it. -/
def accepted (m : SbMsg) : Option GroundCommand :=
  (GroundCommand.ofMsg m).filter fun c => c.size cfe = m.size

/-- The activity a step takes up. -/
def activity (i : Input) (w : World σ) : Option Activity :=
  if w.data.runStatus ≠ .appRun then none
  else
    match i.received with
    | .ok m =>
      if m.msgId = cfe.cmdMid then (accepted cfe m).map .command
      else if m.msgId = cfe.wakeupMid then some .wakeup
      else none
    | .error _ => none

/-- The world after the handler of an activity. -/
def act (now : SysTime) (w : World σ) : Activity → World σ
  | .command c => (handle L now w c).2
  | .wakeup => wakeupHandler cfe L now w

/-- Only an error is counted, an event sent, or the loop ended. -/
structure Idles (w w' : World σ) : Prop where
  line : w'.line = w.line
  tlm : w'.tlm = w.tlm
  data : ∃ n r, w'.data = { w.data with errCounter := n, runStatus := r }

/-- A step is the handler of the activity it takes up. -/
theorem step_of_activity {i : Input} {w : World σ} {a : Activity} (h : activity cfe i w = some a) :
    step cfe L i w = act cfe L i.now w a := by
  rcases i with ⟨now, status | m⟩ <;> simp only [activity] at h
  · split_ifs at h
  split_ifs at h with hr hcmd hwake
  · obtain ⟨c, hc, rfl⟩ := Option.map_eq_some_iff.1 h
    obtain ⟨hof, hsize⟩ := Option.filter_eq_some_iff.1 hc
    simp [step, if_neg hr, taskPipe, hcmd, processGroundCommand, hof, verifyCmdLength,
      of_decide_eq_true hsize, act]
  · cases h
    simp only [step, if_neg hr, taskPipe, if_neg hcmd, if_pos hwake, act]

/-- Without an activity, nothing happens but the report of an error. -/
theorem step_of_none {i : Input} {w : World σ} (h : activity cfe i w = none) :
    Idles w (step cfe L i w) := by
  by_cases hr : w.data.runStatus = .appRun
  swap
  · rw [step, if_pos hr]
    exact ⟨rfl, rfl, _, _, rfl⟩
  rcases i with ⟨now, status | m⟩ <;> rw [step, if_neg (not_not.2 hr)]
  · exact ⟨rfl, rfl, _, _, rfl⟩
  simp only [activity, ne_eq, hr, not_true_eq_false, if_false] at h
  simp only [taskPipe]
  split_ifs at h ⊢ with hcmd hwake
  · rw [processGroundCommand]
    rcases hc : GroundCommand.ofMsg m with - | c
    · exact ⟨rfl, rfl, _, _, rfl⟩
    · -- A command of the wrong length is not accepted.
      have hs : c.size cfe ≠ m.size := fun hs => by simp [accepted, hc, Option.filter, hs] at h
      simp only [verifyCmdLength, if_pos hs, Bool.false_eq_true, if_false]
      exact ⟨rfl, rfl, _, _, rfl⟩
  · exact ⟨rfl, rfl, _, _, rfl⟩

end App

end Ig4u
