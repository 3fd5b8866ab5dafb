import Ig4u.App.Telemetry

/-!
# The control machine

What the application decides, without the data it passes on: an abstract machine with the state of
the state machine, the timer of ARMED, the flags and the counters (`Control`). Its inputs are
the clock and a `Signal`, that is what was received, with the outcome of the call to the payload.
Its outputs are the telecommands.

* `control_step`, `sent_step`: a step of the application is a step of the control machine.
* `refines_control`: so is a run.
* `noninterference`: the pressures, the temperatures, the fault flags and the fault log that the
  payload reports have no influence on the control, nor on what is sent to the payload.
-/

namespace Ig4u

open Lib

/-! ## The machine -/

/-- The state of the control machine. -/
@[ext]
structure Control where
  state : State
  timer : Bool
  entry : SysTime
  power : Bool
  link : Bool
  run : RunStatus
  cmd : UInt8
  err : UInt8
  main : UInt16
  cg : UInt16
  deriving DecidableEq, Repr

/-- What a step of the control machine is about. -/
inductive Signal
  /-- A ground command, and if its call succeeds. The mode is the one that a Request Status gets
      reported. -/
  | command (c : GroundCommand) (ok : Bool) (mode : UInt8)
  /-- A wakeup, and if its polling succeeds. -/
  | wakeup (ok : Bool)
  /-- A command message with an unknown function code or a wrong length. -/
  | malformed
  /-- A message with an unknown identifier. -/
  | stray
  /-- The pipe cannot be read. -/
  | pipeError
  deriving DecidableEq, Repr

/-- The frame that a ground command makes the application send. -/
def GroundCommand.frame (c : GroundCommand) : Option Frame :=
  (App.wireCommand default c).map Call.telecommand

instance (s : State) : DecidablePred (App.Permitted s)
  | .armPropulsion => inferInstanceAs (Decidable (s = .standby))
  | .mainThrusterFire _ | .cgThrusterPulse _ | .cgThrusterBurst _ =>
    inferInstanceAs (Decidable (s = .armed))
  | .noop | .resetCounter | .ping | .resetModule | .setMode _ | .disarmPropulsion
  | .requestHKData | .requestStatus | .mainThrusterAbort | .cgThrusterAbort | .requestFaultLog
  | .clearFault => isTrue trivial

namespace Control

variable (cfe : Cfe) (now : SysTime) (m : Control)

/-- After a successful initialisation, and after one that failed. -/
def ready : Control := ⟨.standby, false, default, true, true, .appRun, 0, 0, 0, 0⟩
def stopped : Control := ⟨.boot, false, default, false, false, .appError, 0, 0, 0, 0⟩

def executed : Control := { m with cmd := m.cmd + 1 }
def failed : Control := { m with err := m.err + 1 }

/-- Moving to a state with the timer left as it is, entering it with the timer stopped, and
    arming. -/
def move (s : State) : Control := { m with state := s }
def enter (s : State) : Control := { m with state := s, timer := false }
def arm : Control := { m with state := .armed, timer := true, entry := now }

/-- A mode that has been set with success. -/
def setMode (mode : UInt8) : Control :=
  if mode = modeStandby then m.enter .standby
  else if mode = modeArmed then m.arm now
  else if mode = modeSafe then m.enter .safe
  else m

/-- A ground command. -/
def command (ok : Bool) (mode : UInt8) : GroundCommand → Control
  | .noop => m.executed
  | .resetCounter => { m with cmd := 0, err := 0 }
  | .ping => if ok then { m.executed with link := true } else { m.failed with link := false }
  | .setMode p => if ok then m.executed.setMode now p.mode else m.failed
  | .armPropulsion => if m.state = .standby ∧ ok then m.executed.arm now else m.failed
  | .resetModule | .disarmPropulsion => if ok then m.executed.enter .standby else m.failed
  | .requestHKData | .requestFaultLog => if ok then m.executed else m.failed
  | .requestStatus => if ok then m.executed.move (.ofByte mode) else m.failed
  | .mainThrusterFire _ =>
    if m.state ≠ .armed then m.failed
    else if ok then { m.executed.enter .standby with main := m.main + 1 }
    else m.failed.enter .safe
  | .cgThrusterPulse _ | .cgThrusterBurst _ =>
    if m.state ≠ .armed then m.failed
    else if ok then { m.executed.move .standby with cg := m.cg + 1 }
    else m.failed.move .safe
  | .mainThrusterAbort => (if ok then m.executed else m.failed).move .standby
  | .cgThrusterAbort => m.executed.move .standby
  | .clearFault => if ok then m.executed.move .standby else m.failed

/-- A wakeup does something. -/
def awake : Bool := m.power ∧ m.link ∧ m.state ∈ [.standby, .armed, .firing, .safe]

/-- The time of ARMED is over. -/
def overdue : Bool :=
  m.timer ∧ m.state = .armed ∧ armedTimeoutSec ≤ (cfe.timeSubtract now m.entry).seconds.toNat

/-- A wakeup. -/
def wakeup (ok : Bool) : Control :=
  if m.awake then
    let m' := if ok then m else m.failed
    if m.overdue cfe now then m'.enter .standby else m'
  else m

/-- A step of the control machine. -/
def step (x : Signal) : Control :=
  if m.run ≠ .appRun then m
  else
    match x with
    | .command c ok mode => m.command now ok mode c
    | .wakeup ok => m.wakeup cfe now ok
    | .malformed => m.failed
    | .stray => m
    | .pipeError => { m with run := .appError }

/-- The frames sent by a step. -/
def frames (x : Signal) : List Frame :=
  if m.run ≠ .appRun then []
  else
    match x with
    | .command c _ _ => if App.Permitted m.state c then c.frame.toList else []
    | .wakeup _ =>
      if m.awake then
        (Call.requestHKData none).telecommand ::
          if m.overdue cfe now then [(Call.setMode modeStandby).telecommand] else []
      else []
    | _ => []

/-- A step on a clock and a signal. -/
def stepOn (x : SysTime × Signal) (m : Control) : Control := m.step cfe x.1 x.2

/-- What is sent along some states. -/
def sent (x : ℕ → SysTime × Signal) (μ : ℕ → Control) (n : ℕ) : List Frame :=
  (List.range n).flatMap fun k => (μ k).frames cfe (x k).1 (x k).2

theorem sent_succ (x : ℕ → SysTime × Signal) (μ : ℕ → Control) (n : ℕ) :
    sent cfe x μ (n + 1) = sent cfe x μ n ++ (μ n).frames cfe (x n).1 (x n).2 := by
  rw [sent, List.range_succ, List.flatMap_append, List.flatMap_singleton]
  rfl

end Control

/-! ## The application -/

variable {σ : Type*} (cfe : Cfe) (L : Link σ)

/-- The state of the control machine behind the application. -/
def World.control (w : World σ) : Control where
  state := w.data.currentState
  timer := w.data.armedTimerActive
  entry := w.data.armedEntryTime
  power := w.data.powerApplied
  link := w.data.linkReady
  run := w.data.runStatus
  cmd := w.data.cmdCounter
  err := w.data.errCounter
  main := w.data.mainFireCount
  cg := w.data.cgFireCount

namespace App

/-- What a step is about. -/
def signal (i : Input) (w : World σ) : Signal :=
  match i.received with
  | .error _ => .pipeError
  | .ok m =>
    if m.msgId = cfe.cmdMid then
      match accepted cfe m with
      | some c =>
        .command c (WireOk L w c) (if c = .requestStatus then reportedMode L w else 0)
      | none => .malformed
    else if m.msgId = cfe.wakeupMid then .wakeup (((pollCall w).run L w.line).1 = cmdOk)
    else .stray

/-! ## The handlers -/

theorem control_cgFireCmd {w : World σ}
    (fire : Option CGThrusterResultPayload → Line σ →
      ℤ × Option CGThrusterResultPayload × Line σ)
    {rejected start done failed : String} {startArgs : List ℤ}
    {doneArgs : CGThrusterResultPayload → List ℤ} :
    (cgFireCmd fire rejected start startArgs done doneArgs failed w).2.control =
      if w.data.currentState ≠ .armed then w.control.failed
      else if (fire (some default) w.line).1 = cmdOk then
        { w.control.executed.move .standby with cg := w.control.cg + 1 }
      else w.control.failed.move .safe := by
  by_cases hs : w.data.currentState = .armed
  · by_cases h : (fire (some default) w.line).1 = cmdOk <;> simp [cgFireCmd, isArmed, hs, h] <;> rfl
  · simp [cgFireCmd, isArmed, hs]
    rfl

theorem control_mainThrusterFireCmd (p : MainThrusterFirePayload) (w : World σ) :
    (mainThrusterFireCmd L p w).2.control =
      if w.data.currentState ≠ .armed then w.control.failed
      else if (Cmd.mainThrusterFire L p.durationMs (some default) w.line).1 = cmdOk then
        { w.control.executed.enter .standby with main := w.control.main + 1 }
      else w.control.failed.enter .safe := by
  by_cases hs : w.data.currentState = .armed
  · by_cases h : (Cmd.mainThrusterFire L p.durationMs (some default) w.line).1 = cmdOk <;>
      simp [mainThrusterFireCmd, isArmed, hs, h] <;>
      rfl
  · rw [mainThrusterFireCmd, if_pos (mt isArmed_iff.1 hs), if_pos hs]
    rfl

/-- The handler of a command whose call succeeds. -/
theorem control_handle_ok {now : SysTime} {w : World σ} {c : GroundCommand} (hok : WireOk L w c) :
    (handle L now w c).2.control =
      w.control.command now true (if c = .requestStatus then reportedMode L w else 0) c := by
  cases c with
  | noop => rfl
  | resetCounter => rfl
  | cgThrusterAbort => rfl
  | setMode p =>
    have hok' : (Cmd.setMode L p.mode w.line).1 = cmdOk := hok
    simp only [handle, setModeCmd, if_pos hok', Control.command, Control.setMode, if_true]
    split_ifs <;> rfl
  | armPropulsion =>
    have hok' : (Cmd.armPropulsion L w.line).1 = cmdOk := hok
    simp only [handle, armPropulsionCmd, if_pos hok', Control.command, and_true]
    split_ifs <;> first | rfl | contradiction
  | requestStatus =>
    have hok' : (Cmd.requestStatus L (some w.data.lastStatus) w.line).1 = cmdOk := hok
    simp only [handle, requestStatusCmd, if_pos hok', Control.command, if_true]
    split_ifs <;> rfl
  | mainThrusterFire p =>
    have hok' : (Cmd.mainThrusterFire L p.durationMs (some default) w.line).1 = cmdOk := hok
    refine (control_mainThrusterFireCmd L p w).trans ?_
    rw [if_pos hok']
    rfl
  | cgThrusterPulse p =>
    have hok' : (Cmd.cgThrusterPulse L p.thrusterID p.durationMs (some default) w.line).1 =
        cmdOk := hok
    refine (control_cgFireCmd (Cmd.cgThrusterPulse L p.thrusterID p.durationMs)).trans ?_
    rw [if_pos hok']
    rfl
  | cgThrusterBurst p =>
    have hok' : (Cmd.cgThrusterBurst L p.thrusterID p.pulseDurationMs p.pulseCount p.intervalMs
        (some default) w.line).1 = cmdOk := hok
    refine (control_cgFireCmd
      (Cmd.cgThrusterBurst L p.thrusterID p.pulseDurationMs p.pulseCount p.intervalMs)).trans ?_
    rw [if_pos hok']
    rfl
  | _ =>
    simp only [WireOk, wireCall, wireCommand, Call.run] at hok
    simp only [handle, pingCmd, resetModuleCmd, disarmPropulsionCmd, requestHKDataCmd,
      mainThrusterAbortCmd, requestFaultLogCmd, clearFaultCmd, hok, if_true]
    rfl

/-- The handler of a command whose call fails. -/
theorem control_handle_failed {now : SysTime} {w : World σ} {c : GroundCommand} {mode : UInt8}
    (hok : ¬WireOk L w c) :
    (handle L now w c).2.control = w.control.command now false mode c := by
  cases c with
  | noop | resetCounter => exact absurd rfl hok
  | cgThrusterAbort => rfl
  | armPropulsion =>
    have hok' : ¬(Cmd.armPropulsion L w.line).1 = cmdOk := hok
    simp only [handle, armPropulsionCmd, if_neg hok', Control.command, Bool.false_eq_true,
      and_false, if_false]
    split_ifs <;> rfl
  | mainThrusterFire p =>
    have hok' : ¬(Cmd.mainThrusterFire L p.durationMs (some default) w.line).1 = cmdOk := hok
    refine (control_mainThrusterFireCmd L p w).trans ?_
    rw [if_neg hok']
    rfl
  | cgThrusterPulse p =>
    have hok' : ¬(Cmd.cgThrusterPulse L p.thrusterID p.durationMs (some default) w.line).1 =
        cmdOk := hok
    refine (control_cgFireCmd (Cmd.cgThrusterPulse L p.thrusterID p.durationMs)).trans ?_
    rw [if_neg hok']
    rfl
  | cgThrusterBurst p =>
    have hok' : ¬(Cmd.cgThrusterBurst L p.thrusterID p.pulseDurationMs p.pulseCount p.intervalMs
        (some default) w.line).1 = cmdOk := hok
    refine (control_cgFireCmd
      (Cmd.cgThrusterBurst L p.thrusterID p.pulseDurationMs p.pulseCount p.intervalMs)).trans ?_
    rw [if_neg hok']
    rfl
  | _ =>
    simp only [WireOk, wireCall, wireCommand, Call.run] at hok
    simp only [handle, pingCmd, resetModuleCmd, setModeCmd, disarmPropulsionCmd, requestHKDataCmd,
      requestStatusCmd, mainThrusterAbortCmd, requestFaultLogCmd, clearFaultCmd, hok, if_false]
    rfl

/-- The handler of a command makes the step of the control machine. -/
theorem control_handle (now : SysTime) (w : World σ) (c : GroundCommand) :
    (handle L now w c).2.control =
      w.control.command now (WireOk L w c) (if c = .requestStatus then reportedMode L w else 0)
        c := by
  by_cases hok : WireOk L w c
  · rw [decide_eq_true hok]
    exact control_handle_ok L hok
  · rw [decide_eq_false hok]
    exact control_handle_failed L hok

/-- The polling counts an error if it fails. -/
theorem control_pollHK (w : World σ) :
    (pollHK L w).control =
      if ((pollCall w).run L w.line).1 = cmdOk then w.control else w.control.failed := by
  by_cases hok : (Cmd.requestHKData L (some w.data.lastHK) w.line).1 = cmdOk
  · have hok' : ((pollCall w).run L w.line).1 = cmdOk := hok
    simp only [pollHK, if_pos hok, if_pos hok']
    split_ifs <;> rfl
  · have hok' : ¬((pollCall w).run L w.line).1 = cmdOk := hok
    simp only [pollHK, if_neg hok, if_neg hok']
    rfl

theorem control_checkArmedTimeout (now : SysTime) (w : World σ) :
    (checkArmedTimeout cfe L now w).control =
      if w.control.overdue cfe now then w.control.enter .standby else w.control := by
  simp only [checkArmedTimeout, Control.overdue, decide_eq_true_eq]
  split_ifs with h₁ h₂ h₃ h₃ h₃
  · rfl
  · exact absurd ⟨h₁.1, h₁.2, h₂⟩ h₃
  · exact absurd h₃.2.2 h₂
  · rfl
  · exact absurd ⟨h₃.1, h₃.2.1⟩ h₁
  · rfl

theorem awake_iff {w : World σ} : w.control.awake = true ↔
    w.data.powerApplied ∧ w.data.linkReady ∧ PolledState w.data.currentState := by
  simp [Control.awake, World.control, PolledState]

/-- A wakeup makes the step of the control machine. -/
theorem control_wakeupHandler (now : SysTime) (w : World σ) :
    (wakeupHandler cfe L now w).control =
      w.control.wakeup cfe now (((pollCall w).run L w.line).1 = cmdOk) := by
  by_cases hawake : w.control.awake
  · obtain ⟨hpower, hready, hstate⟩ := awake_iff.1 hawake
    rw [wakeupHandler_polled cfe L now hpower hready hstate, control_checkArmedTimeout,
      control_pollHK, Control.wakeup, if_pos hawake]
    by_cases hok : ((pollCall w).run L w.line).1 = cmdOk
    · simp only [hok, if_true, decide_true]
    · -- The supervision of ARMED does not look at the error counter.
      simp only [hok, if_false, decide_false, Bool.false_eq_true]
      rfl
  · rw [wakeupHandler_idle cfe L now (mt awake_iff.2 hawake), Control.wakeup, if_neg hawake]

/-! ## The steps -/

theorem rejected_of_not_accepted {m : SbMsg} (h : accepted cfe m = none) {w : World σ} :
    Rejected cfe m w := by
  by_contra hrejected
  obtain ⟨c, hc, -⟩ := (not_rejected_iff cfe).1 hrejected
  cases h.symm.trans hc

/-- A step of the application is a step of the control machine. -/
theorem control_step (i : Input) (w : World σ) :
    (step cfe L i w).control = w.control.step cfe i.now (signal cfe L i w) := by
  by_cases hr : w.data.runStatus = .appRun
  swap
  · rw [step, if_pos hr]
    exact (if_pos hr).symm
  refine Eq.trans ?_ (if_neg (show ¬w.control.run ≠ .appRun from not_not.2 hr)).symm
  rcases i with ⟨now, status | m⟩ <;> rw [step, if_neg (not_not.2 hr)]
  · rfl
  simp only [signal, taskPipe]
  by_cases hcmd : m.msgId = cfe.cmdMid
  · simp only [if_pos hcmd]
    rcases hc : accepted cfe m with - | c
    · simp only [World.control,
        (processGroundCommand_rejected cfe L (rejected_of_not_accepted cfe hc)).1]
      rfl
    · rw [processGroundCommand_accepted cfe L hc]
      exact control_handle L now w c
  · simp only [if_neg hcmd]
    by_cases hwake : m.msgId = cfe.wakeupMid
    · simp only [if_pos hwake]
      exact control_wakeupHandler cfe L now w
    · simp only [if_neg hwake]
      rfl

/-- The telecommand of a ground command does not depend on the data. -/
theorem telecommand_eq (w : World σ) (c : GroundCommand) : telecommand w c = c.frame := by
  cases c <;> rfl

theorem sent_handle (now : SysTime) (w : World σ) (c : GroundCommand) :
    (handle L now w c).2.line.sent = w.line.sent ++
      (if Permitted w.data.currentState c then c.frame.toList else []).map Frame.bytes := by
  by_cases hp : Permitted w.data.currentState c
  · rw [handle_line L now hp, wireCall_sent, telecommand_eq, if_pos hp]
    cases c.frame <;> rfl
  · rw [handle_line_of_not_permitted L now hp, if_neg hp, List.map_nil, List.append_nil]

theorem sent_checkArmedTimeout (now : SysTime) (w : World σ) :
    (checkArmedTimeout cfe L now w).line.sent = w.line.sent ++
      (if w.control.overdue cfe now then [(Call.setMode modeStandby).telecommand]
        else []).map Frame.bytes := by
  have hset : (Cmd.setMode L modeStandby w.line).2.sent =
      w.line.sent ++ [(Call.setMode modeStandby).telecommand.bytes] :=
    (Call.setMode modeStandby).run_sent L id w.line
  simp only [checkArmedTimeout, Control.overdue, decide_eq_true_eq]
  split_ifs with h₁ h₂ h₃ h₃ h₃
  · exact hset
  · exact absurd ⟨h₁.1, h₁.2, h₂⟩ h₃
  · exact absurd h₃.2.2 h₂
  · exact (List.append_nil _).symm
  · exact absurd ⟨h₃.1, h₃.2.1⟩ h₁
  · exact (List.append_nil _).symm

theorem sent_wakeupHandler (now : SysTime) (w : World σ) (ok : Bool)
    (hr : w.data.runStatus = .appRun) :
    (wakeupHandler cfe L now w).line.sent =
      w.line.sent ++ (w.control.frames cfe now (.wakeup ok)).map Frame.bytes := by
  have hframes : w.control.frames cfe now (.wakeup ok) = if w.control.awake then
      (Call.requestHKData none).telecommand ::
        if w.control.overdue cfe now then [(Call.setMode modeStandby).telecommand] else []
      else [] := if_neg (not_not.2 hr)
  rw [hframes]
  by_cases hawake : w.control.awake
  · obtain ⟨hpower, hready, hstate⟩ := awake_iff.1 hawake
    have hoverdue : (pollHK L w).control.overdue cfe now = w.control.overdue cfe now := by
      rw [control_pollHK]
      split_ifs <;> rfl
    rw [wakeupHandler_polled cfe L now hpower hready hstate, sent_checkArmedTimeout, pollHK_sent,
      hoverdue, if_pos hawake, List.append_assoc]
    rfl
  · rw [wakeupHandler_idle cfe L now (mt awake_iff.2 hawake), if_neg hawake, List.map_nil,
      List.append_nil]

/-- What a step hands to the HAL are the frames of the control machine. -/
theorem sent_step (i : Input) (w : World σ) :
    (step cfe L i w).line.sent =
      w.line.sent ++ (w.control.frames cfe i.now (signal cfe L i w)).map Frame.bytes := by
  by_cases hr : w.data.runStatus = .appRun
  swap
  · have hframes : w.control.frames cfe i.now (signal cfe L i w) = [] := if_pos hr
    rw [step, if_pos hr, hframes, List.map_nil, List.append_nil]
  have hframes (x : Signal) : w.control.frames cfe i.now x = _ := if_neg (not_not.2 hr)
  rcases i with ⟨now, status | m⟩ <;> rw [step, if_neg (not_not.2 hr)]
  · rw [hframes]
    exact (List.append_nil _).symm
  simp only [signal, taskPipe]
  by_cases hcmd : m.msgId = cfe.cmdMid
  · simp only [if_pos hcmd]
    rcases hc : accepted cfe m with - | c
    · rw [(processGroundCommand_rejected cfe L (rejected_of_not_accepted cfe hc)).2.2, hframes]
      exact (List.append_nil _).symm
    · rw [processGroundCommand_accepted cfe L hc, hframes]
      exact sent_handle L now w c
  · simp only [if_neg hcmd]
    by_cases hwake : m.msgId = cfe.wakeupMid
    · simp only [if_pos hwake]
      exact sent_wakeupHandler cfe L now w _ hr
    · simp only [if_neg hwake]
      rw [hframes]
      exact (List.append_nil _).symm

/-! ## The runs -/

/-- The initialisation leaves the machine ready or stopped. -/
theorem control_initial {w : World σ} (h : w ∈ initial L) :
    w.control = .ready ∨ w.control = .stopped := by
  obtain ⟨e, w₀, rfl⟩ := h
  have hinit : (init L e w₀).1 = .success ∧ (init L e w₀).2.control = .ready ∨
      (init L e w₀).1 ≠ .success ∧
        { (init L e w₀).2.control with run := .appError } = Control.stopped := by
    simp only [init]
    split_ifs with hevs hpipe hcmd hwakeup hhal
    · exact .inr ⟨hevs, rfl⟩
    · exact .inr ⟨hpipe, rfl⟩
    · exact .inr ⟨hcmd, rfl⟩
    · exact .inr ⟨hwakeup, rfl⟩
    · exact .inr ⟨show CfeStatus.externalResourceFail ≠ .success by decide, rfl⟩
    · exact .inl ⟨rfl, rfl⟩
  rcases hinit with ⟨hs, hm⟩ | ⟨hs, hm⟩
  · left
    rw [start, if_neg (not_not.2 hs)]
    exact hm
  · right
    rw [start, if_pos hs]
    exact hm

/-- The inputs of the control machine in a run of the application. -/
def signals (a : ℕ → Input) (ρ : ℕ → World σ) (n : ℕ) : SysTime × Signal :=
  ((a n).now, signal cfe L (a n) (ρ n))

section

variable {a : ℕ → Input} {ρ : ℕ → World σ} (hρ : IsRun (initial L) (step cfe L) a ρ)

include hρ

theorem control_succ (n : ℕ) :
    (ρ (n + 1)).control = (ρ n).control.stepOn cfe (signals cfe L a ρ n) :=
  (congrArg World.control (hρ.step n)).trans (control_step cfe L (a n) (ρ n))

theorem sent_run (n : ℕ) :
    (ρ n).line.sent = (ρ 0).line.sent ++
      (Control.sent cfe (signals cfe L a ρ) (fun n => (ρ n).control) n).map Frame.bytes := by
  induction n with
  | zero => exact (List.append_nil _).symm
  | succ n ih =>
    rw [hρ.step n, sent_step, ih, Control.sent_succ, List.map_append, List.append_assoc]
    rfl

/-- A run of the application is a run of the control machine, and hands to the HAL what this
    sends. -/
theorem refines_control :
    IsRun {.ready, .stopped} (Control.stepOn cfe) (signals cfe L a ρ) (fun n => (ρ n).control) ∧
      ∀ n, (ρ n).line.sent = (ρ 0).line.sent ++
        (Control.sent cfe (signals cfe L a ρ) (fun n => (ρ n).control) n).map Frame.bytes :=
  ⟨⟨control_initial L hρ.init, control_succ cfe L hρ⟩, sent_run cfe L hρ⟩

end

/-- An Arm Propulsion and a pulse, by the control machine. -/
theorem refines_control_pulse :
    let line := answer WireMsgid.armPropulsion [0, 4, 0, 0] (by decide)
    let a := inputs [⟨seconds 0, .ok (command Cc.armPropulsion)⟩] ⟨seconds 1, .ok pulseCommand⟩
    let ρ := scenario line a
    (ρ 2).control = ((ρ 1).control).stepOn Cfe.standard (signals Cfe.standard fifoLink a ρ 1) ∧
      (ρ 2).line.sent = [Call.armPropulsion.telecommand.bytes,
        (Call.cgThrusterPulse 1 100 none).telecommand.bytes] := by
  intro line a ρ
  obtain ⟨hrun, hsent⟩ := refines_control Cfe.standard fifoLink (isRun_scenario line a)
  refine ⟨hrun.step 1, ?_⟩
  rw [hsent 2]
  decide +kernel

end App

end Ig4u
