import Ig4u.App.Dispatch
import Ig4u.Commands.Call

/-!
# The mode machine

The state machine of the application, its timer and the entry time make a `Mode`.
The handlers write them in one of four ways (`ModeAction`): not at all, arming
with the timer started, entering another state with the timer stopped, or moving
to another state with the timer left as it is.

* `mode_step`: the mode of the application makes the steps of this machine. The
  action of a step is computed from the activity it takes up, the mode before it
  and the answers of the link (`modeAction`).
* `armed_step_cases`: the steps that end in ARMED.
-/

namespace Ig4u

/-! ## The machine -/

/-- The state of the state machine, and the timer of ARMED. -/
@[ext]
structure Mode where
  state : State
  timer : Bool
  entry : SysTime
  deriving DecidableEq, Repr

/-- What a step does with the mode. -/
inductive ModeAction
  | keep
  | arm
  | enter (s : State)
  | move (s : State)
  deriving DecidableEq, Repr

namespace ModeAction

/-- The mode after an action at the time `now`. -/
def apply (now : SysTime) (m : Mode) : ModeAction → Mode
  | keep => m
  | arm => ⟨.armed, true, now⟩
  | enter s => ⟨s, false, m.entry⟩
  | move s => ⟨s, m.timer, m.entry⟩

variable (now : SysTime) (m : Mode) (s : State)

@[simp] theorem apply_keep : keep.apply now m = m := rfl
@[simp] theorem apply_arm : arm.apply now m = ⟨.armed, true, now⟩ := rfl
@[simp] theorem apply_enter : (enter s).apply now m = ⟨s, false, m.entry⟩ := rfl
@[simp] theorem apply_move : (move s).apply now m = ⟨s, m.timer, m.entry⟩ := rfl

end ModeAction

variable {σ : Type*} (cfe : Cfe) (L : Link σ)

/-- The mode of the application. -/
def World.mode (w : World σ) : Mode :=
  ⟨w.data.currentState, w.data.armedTimerActive, w.data.armedEntryTime⟩

@[simp] theorem World.mode_state (w : World σ) : w.mode.state = w.data.currentState := rfl
@[simp] theorem World.mode_timer (w : World σ) : w.mode.timer = w.data.armedTimerActive := rfl
@[simp] theorem World.mode_entry (w : World σ) : w.mode.entry = w.data.armedEntryTime := rfl

namespace App

/-! ## The actions of the steps -/

/-- The wire-level command behind a ground command, if there is one. -/
def wireCommand (d : Data) : GroundCommand → Option Call
  | .noop | .resetCounter => none
  | .ping => some .ping
  | .resetModule => some .resetModule
  | .setMode p => some (.setMode p.mode)
  | .armPropulsion => some .armPropulsion
  | .disarmPropulsion => some .disarmPropulsion
  | .requestHKData => some (.requestHKData (some d.lastHK))
  | .requestStatus => some (.requestStatus (some d.lastStatus))
  | .mainThrusterFire p => some (.mainThrusterFire p.durationMs (some default))
  | .mainThrusterAbort => some .mainThrusterAbort
  | .cgThrusterPulse p => some (.cgThrusterPulse p.thrusterID p.durationMs (some default))
  | .cgThrusterBurst p =>
    some (.cgThrusterBurst p.thrusterID p.pulseDurationMs p.pulseCount p.intervalMs (some default))
  | .cgThrusterAbort => some .cgThrusterAbort
  | .requestFaultLog => some (.requestFaultLog (some d.faultLogTlm))
  | .clearFault => some .clearFault

/-- The call of the wire-level command behind a ground command: its return code, and the
    line after it. -/
def wireCall (w : World σ) (c : GroundCommand) : ℤ × Line σ :=
  match wireCommand w.data c with
  | some call => call.run L w.line
  | none => (cmdOk, w.line)

/-- The wire-level command behind a ground command returns `IG4U_CMD_OK`. -/
abbrev WireOk (w : World σ) (c : GroundCommand) : Prop := (wireCall L w c).1 = cmdOk

/-- The mode in the Reply Status that the payload sends. -/
def reportedMode (w : World σ) : UInt8 :=
  ((Cmd.requestStatus L (some w.data.lastStatus) w.line).2.1.getD w.data.lastStatus).mode

/-- The action of a Set Mode that succeeds. -/
def setModeAction (mode : UInt8) : ModeAction :=
  if mode = modeStandby then .enter .standby
  else if mode = modeArmed then .arm
  else if mode = modeSafe then .enter .safe
  else .keep

@[simp]
theorem setModeAction_ne_move (mode : UInt8) (s : State) : setModeAction mode ≠ .move s := by
  rw [setModeAction]
  split_ifs <;> nofun

theorem setModeAction_eq_enter {mode : UInt8} {s : State} (h : setModeAction mode = .enter s) :
    s ≠ .armed := by
  rw [setModeAction] at h
  split_ifs at h <;> cases h <;> decide

/-- What a ground command does with the mode. -/
def commandAction (w : World σ) (c : GroundCommand) : ModeAction :=
  match c with
  | .resetModule => if WireOk L w c then .enter .standby else .keep
  | .setMode p => if WireOk L w c then setModeAction p.mode else .keep
  | .armPropulsion => if w.data.currentState = .standby ∧ WireOk L w c then .arm else .keep
  | .disarmPropulsion => if WireOk L w c then .enter .standby else .keep
  | .requestStatus => if WireOk L w c then .move (.ofByte (reportedMode L w)) else .keep
  | .mainThrusterFire _ =>
    if w.data.currentState = .armed then
      if WireOk L w c then .enter .standby else .enter .safe
    else .keep
  | .cgThrusterPulse _ | .cgThrusterBurst _ =>
    if w.data.currentState = .armed then
      if WireOk L w c then .move .standby else .move .safe
    else .keep
  | .mainThrusterAbort | .cgThrusterAbort => .move .standby
  | .clearFault => if WireOk L w c then .move .standby else .keep
  | .noop | .resetCounter | .ping | .requestHKData | .requestFaultLog => .keep

/-- A wakeup finds the time of ARMED to be over. -/
def TimesOut (now : SysTime) (w : World σ) : Prop :=
  w.data.powerApplied ∧ w.data.linkReady ∧ w.data.currentState = .armed ∧
    w.data.armedTimerActive ∧
    armedTimeoutSec ≤ (cfe.timeSubtract now w.data.armedEntryTime).seconds.toNat

instance (now : SysTime) (w : World σ) : Decidable (TimesOut cfe now w) :=
  inferInstanceAs (Decidable (_ ∧ _))

/-- What a step does with the mode. -/
def modeAction (i : Input) (w : World σ) : ModeAction :=
  match activity cfe i w with
  | some (.command c) => commandAction L w c
  | some .wakeup => if TimesOut cfe i.now w then .enter .standby else .keep
  | none => .keep

/-! ## The application makes the steps of the machine -/

/-- A firing of the cold gas thrusters leaves ARMED without touching the timer. -/
theorem mode_cgFireCmd {now : SysTime} {w : World σ}
    (fire : Option CGThrusterResultPayload → Line σ →
      ℤ × Option CGThrusterResultPayload × Line σ)
    {rejected start done failed : String} {startArgs : List ℤ}
    {doneArgs : CGThrusterResultPayload → List ℤ} :
    (cgFireCmd fire rejected start startArgs done doneArgs failed w).2.mode =
      (if w.data.currentState = .armed then
        if (fire (some default) w.line).1 = cmdOk then ModeAction.move .standby else .move .safe
      else .keep).apply now w.mode := by
  by_cases hs : w.data.currentState = .armed
  · by_cases h : (fire (some default) w.line).1 = cmdOk <;> simp [cgFireCmd, isArmed, hs, h] <;> rfl
  · simp [cgFireCmd, isArmed, hs]
    rfl

/-- The handler of a command makes its action. -/
theorem mode_handle (now : SysTime) (w : World σ) (c : GroundCommand) :
    (handle L now w c).2.mode = (commandAction L w c).apply now w.mode := by
  cases c with
  | noop => rfl
  | resetCounter => rfl
  | ping =>
    simp only [handle, pingCmd]
    split_ifs <;> rfl
  | resetModule =>
    by_cases h : (Cmd.resetModule L w.line).1 = cmdOk <;>
      simp only [handle, resetModuleCmd, commandAction, WireOk, wireCall, wireCommand, Call.run, h,
        if_true, if_false] <;>
      rfl
  | setMode p =>
    by_cases h : (Cmd.setMode L p.mode w.line).1 = cmdOk <;>
      simp only [handle, setModeCmd, commandAction, WireOk, wireCall, wireCommand, Call.run, h,
        if_true, if_false]
    · simp only [setModeAction]
      split_ifs <;> rfl
    · rfl
  | armPropulsion =>
    by_cases hs : w.data.currentState = .standby
    · by_cases h : (Cmd.armPropulsion L w.line).1 = cmdOk <;>
        simp only [handle, armPropulsionCmd, commandAction, WireOk, wireCall, wireCommand, Call.run,
          hs, h, ne_eq, not_true_eq_false, and_self, and_false, if_true, if_false] <;>
        rfl
    · simp only [handle, armPropulsionCmd, commandAction, ne_eq, hs, not_false_eq_true, false_and,
        if_true, if_false]
      rfl
  | disarmPropulsion =>
    by_cases h : (Cmd.disarmPropulsion L w.line).1 = cmdOk <;>
      simp only [handle, disarmPropulsionCmd, commandAction, WireOk, wireCall, wireCommand,
        Call.run, h, if_true, if_false] <;>
      rfl
  | requestHKData =>
    simp only [handle, requestHKDataCmd]
    split_ifs <;> rfl
  | requestStatus =>
    by_cases h : (Cmd.requestStatus L (some w.data.lastStatus) w.line).1 = cmdOk <;>
      simp only [handle, requestStatusCmd, commandAction, WireOk, wireCall, wireCommand,
        Call.run, h, if_true, if_false]
    · -- The state is synchronised or kept, and the timer is untouched in both cases.
      split_ifs <;> rfl
    · rfl
  | mainThrusterFire p =>
    by_cases hs : w.data.currentState = .armed
    · by_cases h : (Cmd.mainThrusterFire L p.durationMs (some default) w.line).1 = cmdOk <;>
        simp [handle, mainThrusterFireCmd, isArmed, commandAction, WireOk, wireCall, wireCommand,
          Call.run, hs, h] <;>
        rfl
    · simp [handle, mainThrusterFireCmd, isArmed, commandAction, hs]
      rfl
  | mainThrusterAbort =>
    simp only [handle, mainThrusterAbortCmd]
    split_ifs <;> rfl
  | cgThrusterPulse p =>
    exact mode_cgFireCmd (Cmd.cgThrusterPulse L p.thrusterID p.durationMs)
  | cgThrusterBurst p =>
    exact mode_cgFireCmd
      (Cmd.cgThrusterBurst L p.thrusterID p.pulseDurationMs p.pulseCount p.intervalMs)
  | cgThrusterAbort => rfl
  | requestFaultLog =>
    simp only [handle, requestFaultLogCmd]
    split_ifs <;> rfl
  | clearFault =>
    by_cases h : (Cmd.clearFault L w.line).1 = cmdOk <;>
      simp only [handle, clearFaultCmd, commandAction, WireOk, wireCall, wireCommand, Call.run, h,
        if_true, if_false] <;>
      rfl

/-- The polling only writes the housekeeping data and the error counter. -/
theorem pollHK_data (w : World σ) :
    ∃ hk tlm n, (pollHK L w).data =
      { w.data with lastHK := hk, hkTlm := tlm, errCounter := n } := by
  simp only [pollHK]
  split_ifs <;> exact ⟨_, _, _, rfl⟩

/-- A wakeup leaves ARMED if its time is over, and otherwise keeps the mode. -/
theorem mode_wakeupHandler (now : SysTime) (w : World σ) :
    (wakeupHandler cfe L now w).mode =
      (if TimesOut cfe now w then ModeAction.enter .standby else .keep).apply now w.mode := by
  obtain ⟨hk, tlm, n, hdata⟩ := pollHK_data L w
  have hmode : (pollHK L w).mode = w.mode := by rw [World.mode, hdata]; rfl
  have hcheck : (checkArmedTimeout cfe L now (pollHK L w)).mode =
      if w.data.armedTimerActive ∧ w.data.currentState = .armed ∧
        armedTimeoutSec ≤ (cfe.timeSubtract now w.data.armedEntryTime).seconds.toNat
      then ⟨.standby, false, w.mode.entry⟩ else w.mode := by
    rw [← hmode]
    simp only [checkArmedTimeout, hdata, ← and_assoc]
    split_ifs <;> first | rfl | tauto
  rw [wakeupHandler]
  by_cases hout : TimesOut cfe now w
  -- Without a link, or in a state that is not polled, the timer is not looked at.
  · obtain ⟨hpower, hready, harmed, htimer, helapsed⟩ := id hout
    rw [if_pos hout, if_neg (by simp [hpower, hready]), if_neg (by simp [isCommAllowed, harmed]),
      hcheck, if_pos ⟨htimer, harmed, helapsed⟩]
    rfl
  · rw [if_neg hout]
    split_ifs with hready hcomm
    · rfl
    · rfl
    · simp only [not_or, not_not] at hready
      rw [hcheck, if_neg fun h => hout ⟨hready.1, hready.2, h.2.1, h.1, h.2.2⟩]
      rfl

/-- The mode of the application makes the steps of the mode machine. -/
theorem mode_step (i : Input) (w : World σ) :
    (step cfe L i w).mode = (modeAction cfe L i w).apply i.now w.mode := by
  rw [modeAction]
  rcases ha : activity cfe i w with - | (c | -)
  · obtain ⟨n, r, hd⟩ := (step_of_none cfe L ha).data
    rw [World.mode, hd]
    rfl
  · rw [step_of_activity cfe L ha]
    exact mode_handle L i.now w c
  · rw [step_of_activity cfe L ha]
    exact mode_wakeupHandler cfe L i.now w

section

variable {cfe L} {i : Input} {w : World σ}

theorem mode_step_command {c : GroundCommand} (h : activity cfe i w = some (.command c)) :
    (step cfe L i w).mode = (commandAction L w c).apply i.now w.mode := by
  rw [mode_step, modeAction, h]

theorem mode_step_wakeup (h : activity cfe i w = some .wakeup) :
    (step cfe L i w).mode =
      (if TimesOut cfe i.now w then ModeAction.enter .standby else .keep).apply i.now w.mode := by
  rw [mode_step, modeAction, h]

theorem mode_step_none (h : activity cfe i w = none) : (step cfe L i w).mode = w.mode := by
  rw [mode_step, modeAction, h]
  rfl

end

/-! ## The steps to ARMED -/

/-- A step arms the propulsion and starts the timer: an Arm Propulsion in STANDBY, or
    a Set Mode(ARMED), that succeeds. -/
def Arms (i : Input) (w : World σ) : Prop :=
  activity cfe i w = some (.command .armPropulsion) ∧ w.data.currentState = .standby ∧
      WireOk L w .armPropulsion ∨
    ∃ p, activity cfe i w = some (.command (.setMode p)) ∧ p.mode = modeArmed ∧
      WireOk L w (.setMode p)

/-- A step synchronises the state to `s`, which the payload reports. -/
def Syncs (i : Input) (w : World σ) (s : State) : Prop :=
  activity cfe i w = some (.command .requestStatus) ∧ WireOk L w .requestStatus ∧
    reportedMode L w = s.toByte

section

variable {cfe L} {i : Input} {w : World σ}

theorem modeAction_of_arms (h : Arms cfe L i w) : modeAction cfe L i w = .arm := by
  rcases h with ⟨ha, hs, hok⟩ | ⟨p, ha, hm, hok⟩
  · simp only [modeAction, ha, commandAction, if_pos (And.intro hs hok)]
  · simp only [modeAction, ha, commandAction, if_pos hok, setModeAction, hm]
    rfl

theorem arms_of_modeAction (h : modeAction cfe L i w = .arm) : Arms cfe L i w := by
  rw [modeAction] at h
  rcases ha : activity cfe i w with - | (c | -) <;> simp only [ha] at h
  · cases h
  · cases c with
    | armPropulsion =>
      simp only [commandAction] at h
      split_ifs at h with hok
      exact .inl ⟨ha, hok⟩
    | setMode p =>
      simp only [commandAction, setModeAction] at h
      split_ifs at h with hok _ harmed
      exact .inr ⟨p, ha, harmed, hok⟩
    | _ =>
      simp only [commandAction] at h
      repeat' split_ifs at h
      all_goals cases h
  · split_ifs at h

theorem mode_step_of_arms (h : Arms cfe L i w) :
    (step cfe L i w).mode = ⟨.armed, true, i.now⟩ := by
  rw [mode_step, modeAction_of_arms h]
  rfl

/-- The timer is only stopped on the way to another state than ARMED. -/
theorem modeAction_eq_enter {s : State} (h : modeAction cfe L i w = .enter s) : s ≠ .armed := by
  rw [modeAction] at h
  rcases ha : activity cfe i w with - | (c | -) <;> simp only [ha] at h
  · cases h
  · cases c with
    | setMode p =>
      simp only [commandAction] at h
      split_ifs at h
      exact setModeAction_eq_enter h
    | _ =>
      simp only [commandAction] at h
      repeat' split_ifs at h
      all_goals cases h
      all_goals decide
  · split_ifs at h
    cases h
    decide

theorem mode_step_of_syncs {s : State} (h : Syncs cfe L i w s) :
    (step cfe L i w).mode = ⟨s, w.data.armedTimerActive, w.data.armedEntryTime⟩ := by
  obtain ⟨ha, hok, hs⟩ := h
  rw [mode_step_command ha, commandAction, if_pos hok, State.ofByte_eq_iff.2 hs]
  rfl

/-- A step that ends in ARMED arms, synchronises to ARMED, or keeps the mode. -/
theorem armed_step_cases (h : (step cfe L i w).data.currentState = .armed) :
    Arms cfe L i w ∨ Syncs cfe L i w .armed ∨ (step cfe L i w).mode = w.mode := by
  rw [← World.mode_state] at h
  rcases ha : activity cfe i w with - | (c | -)
  · exact .inr (.inr (mode_step_none ha))
  · rw [mode_step_command ha] at h ⊢
    cases c with
    | armPropulsion =>
      simp only [commandAction] at h ⊢
      split_ifs at h ⊢ with hok
      · exact .inl (.inl ⟨ha, hok⟩)
      · exact .inr (.inr rfl)
    | setMode p =>
      simp only [commandAction, setModeAction] at h ⊢
      split_ifs at h ⊢ with hok hstandby harmed hsafe
      · cases h
      · exact .inl (.inr ⟨p, ha, harmed, hok⟩)
      · cases h
      · exact .inr (.inr rfl)
      · exact .inr (.inr rfl)
    | requestStatus =>
      simp only [commandAction] at h ⊢
      split_ifs at h ⊢ with hok
      -- The state is whatever mode the payload reports, so that it can be ARMED here.
      · exact .inr (.inl ⟨ha, hok, State.ofByte_eq_iff.1 h⟩)
      · exact .inr (.inr rfl)
    | _ =>
      simp only [commandAction] at h ⊢
      repeat' split_ifs at h ⊢
      all_goals first | cases h | exact .inr (.inr rfl)
  · rw [mode_step_wakeup ha] at h ⊢
    split_ifs at h ⊢
    · cases h
    · exact .inr (.inr rfl)

end

/-! ## The initial modes -/

/-- The initialisation fails in BOOT, or succeeds in STANDBY with the payload powered. -/
theorem init_cases (e : InitEnv) (w : World σ) :
    (init L e w).1 ≠ .success ∧ (init L e w).2.mode = ⟨.boot, false, default⟩ ∨
      (init L e w).1 = .success ∧ (init L e w).2.mode = ⟨.standby, false, default⟩ ∧
        (init L e w).2.data.runStatus = .appRun ∧ (init L e w).2.data.powerApplied := by
  simp only [init]
  split_ifs with hevs hpipe hcmd hwakeup hhal
  · exact .inl ⟨hevs, rfl⟩
  · exact .inl ⟨hpipe, rfl⟩
  · exact .inl ⟨hcmd, rfl⟩
  · exact .inl ⟨hwakeup, rfl⟩
  · exact .inl ⟨nofun, rfl⟩
  · exact .inr ⟨rfl, rfl, rfl, rfl⟩

/-- The loop is over before it starts, in BOOT, or it starts in STANDBY with the payload
    powered. -/
theorem initial_cases {w : World σ} (h : w ∈ initial L) :
    w.mode = ⟨.boot, false, default⟩ ∧ w.data.runStatus = .appError ∨
      w.mode = ⟨.standby, false, default⟩ ∧ w.data.runStatus = .appRun ∧ w.data.powerApplied := by
  obtain ⟨e, w₀, rfl⟩ := h
  rcases init_cases L e w₀ with ⟨hs, hm⟩ | ⟨hs, hm, hr⟩
  · left
    simp only [start, if_pos hs]
    exact ⟨hm, rfl⟩
  · right
    simp only [start, if_neg (not_not.2 hs)]
    exact ⟨hm, hr⟩

theorem initial_not_armed {w : World σ} (h : w ∈ initial L) : w.data.currentState ≠ .armed := by
  rw [← World.mode_state]
  rcases initial_cases L h with ⟨hm, -⟩ | ⟨hm, -⟩ <;> rw [hm] <;> decide

end App

end Ig4u
