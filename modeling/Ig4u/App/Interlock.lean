import Ig4u.App.Mode
import Ig4u.App.Scenario
import Ig4u.Commands.Exchange

/-!
# Firing and arming

What the ground commands send, and how the firing commands are interlocked.

* `handle_line`, `step_sent`: a ground command hands exactly its telecommand to the HAL,
  if the state check of its handler lets it, and otherwise nothing.
* `wakeupHandler_sent`: a wakeup hands over its polling, and maybe a Set Mode(STANDBY).
* `fire_interlock`: a firing telecommand is sent in ARMED, once for every time the
  propulsion was armed.
* `armingGuarded_iff`: arming starts from STANDBY, except by a Set Mode(ARMED) that the
  payload acknowledges: its handler does not check the state.
-/

namespace Ig4u.App

open Lib Proto Cmd

variable {σ : Type*} (cfe : Cfe) (L : Link σ)

/-! ## What is sent -/

/-- The state check of the handler of a ground command. -/
def Permitted (s : State) : GroundCommand → Prop
  | .armPropulsion => s = .standby
  | .mainThrusterFire _ | .cgThrusterPulse _ | .cgThrusterBurst _ => s = .armed
  | _ => True

theorem cgFireCmd_line {w : World σ} (h : w.data.currentState = .armed)
    {fire : Option CGThrusterResultPayload → Line σ →
      ℤ × Option CGThrusterResultPayload × Line σ}
    {rejected start done failed : String} {startArgs : List ℤ}
    {doneArgs : CGThrusterResultPayload → List ℤ} :
    (cgFireCmd fire rejected start startArgs done doneArgs failed w).2.line =
      (fire (some default) w.line).2.2 := by
  rw [cgFireCmd, if_neg (not_not.2 (isArmed_iff.2 h))]
  simp only
  split_ifs <;> rfl

/-- The handler of a ground command makes its wire-level call if its state check lets it. -/
theorem handle_line (now : SysTime) {w : World σ} {c : GroundCommand}
    (h : Permitted w.data.currentState c) :
    (handle L now w c).2.line = (wireCall L w c).2 := by
  cases c with
  | armPropulsion =>
    have hs : w.data.currentState = .standby := h
    rw [handle, armPropulsionCmd, if_neg (not_not.2 hs)]
    simp only
    split_ifs <;> rfl
  | mainThrusterFire p =>
    rw [handle, mainThrusterFireCmd, if_neg (not_not.2 (isArmed_iff.2 h))]
    simp only
    split_ifs <;> rfl
  | cgThrusterPulse p => exact cgFireCmd_line h
  | cgThrusterBurst p => exact cgFireCmd_line h
  | _ =>
    simp only [handle, noopCmd, resetCounterCmd, pingCmd, resetModuleCmd, setModeCmd,
      disarmPropulsionCmd, requestHKDataCmd, requestStatusCmd, mainThrusterAbortCmd,
      cgThrusterAbortCmd, requestFaultLogCmd, clearFaultCmd]
    repeat' split_ifs
    all_goals rfl

/-- Otherwise the handler leaves the line alone. -/
theorem handle_line_of_not_permitted (now : SysTime) {w : World σ} {c : GroundCommand}
    (h : ¬Permitted w.data.currentState c) : (handle L now w c).2.line = w.line := by
  cases c <;> simp only [Permitted, not_true_eq_false] at h <;>
    simp [handle, armPropulsionCmd, mainThrusterFireCmd, cgThrusterPulseCmd, cgThrusterBurstCmd,
      cgFireCmd, isArmed, h]

/-- The telecommand of a ground command. -/
def telecommand (w : World σ) (c : GroundCommand) : Option Frame :=
  (wireCommand w.data c).map Call.telecommand

/-- The wire-level command behind a ground command sends its telecommand. -/
theorem wireCall_sent (w : World σ) (c : GroundCommand) :
    (wireCall L w c).2.sent = w.line.sent ++ ((telecommand w c).map Frame.bytes).toList := by
  rw [wireCall, telecommand]
  rcases hc : wireCommand w.data c with - | call
  · exact (List.append_nil _).symm
  · refine call.run_sent L ?_ w.line
    cases c <;> cases hc <;> simp [Call.IsNullRequest]

/-- A ground command that its state check lets pass hands its telecommand to the HAL. -/
theorem step_sent {i : Input} {w : World σ} {c : GroundCommand}
    (ha : activity cfe i w = some (.command c)) (hp : Permitted w.data.currentState c) :
    (step cfe L i w).line.sent = w.line.sent ++ ((telecommand w c).map Frame.bytes).toList := by
  rw [step_of_activity cfe L ha, act, handle_line L i.now hp, wireCall_sent]

/-- The Request HK Data of a wakeup. -/
def pollCall (w : World σ) : Call := .requestHKData (some w.data.lastHK)

theorem pollHK_sent (w : World σ) :
    (pollHK L w).line.sent = w.line.sent ++ [(pollCall w).telecommand.bytes] := by
  rw [← (pollCall w).run_sent L (Option.some_ne_none _)]
  simp only [pollHK]
  split_ifs <;> rfl

/-- The supervision of ARMED may set the mode of the payload to STANDBY. -/
theorem checkArmedTimeout_sent (now : SysTime) (w : World σ) :
    ∃ frames, (checkArmedTimeout cfe L now w).line.sent = w.line.sent ++ frames ∧
      ∀ b ∈ frames, b = (Call.setMode modeStandby).telecommand.bytes := by
  have hset : (Cmd.setMode L modeStandby w.line).2.sent =
      w.line.sent ++ [(Call.setMode modeStandby).telecommand.bytes] :=
    (Call.setMode modeStandby).run_sent L id w.line
  simp only [checkArmedTimeout]
  split_ifs
  · exact ⟨_, hset, fun b hb => List.mem_singleton.1 hb⟩
  · exact ⟨[], (List.append_nil _).symm, fun _ h => absurd h List.not_mem_nil⟩
  · exact ⟨[], (List.append_nil _).symm, fun _ h => absurd h List.not_mem_nil⟩

/-- A wakeup polls the housekeeping data, and may set the mode of the payload to STANDBY. -/
theorem wakeupHandler_sent (now : SysTime) (w : World σ) :
    ∃ frames, (wakeupHandler cfe L now w).line.sent = w.line.sent ++ frames ∧
      ∀ b ∈ frames, b = (Frame.tc WireMsgid.requestHk [] (by decide)).bytes ∨
        b = (Frame.tc WireMsgid.setMode [modeStandby, 0, 0, 0] (by decide)).bytes := by
  obtain ⟨frames, hsent, hframes⟩ := checkArmedTimeout_sent cfe L now (pollHK L w)
  rw [pollHK_sent, List.append_assoc] at hsent
  rw [wakeupHandler]
  split_ifs
  · exact ⟨[], (List.append_nil _).symm, fun _ h => absurd h List.not_mem_nil⟩
  · exact ⟨[], (List.append_nil _).symm, fun _ h => absurd h List.not_mem_nil⟩
  · exact ⟨_, hsent, fun b hb => (List.mem_cons.1 hb).imp_right (hframes b)⟩

/-! ## The firing interlock -/

/-- A frame is a firing telecommand. -/
def IsFireTC (b : List UInt8) : Prop :=
  b.getD offsetMsgid 0 ∈ [WireMsgid.mainFire, WireMsgid.cgPulse, WireMsgid.cgBurst]

instance : DecidablePred IsFireTC := fun b =>
  inferInstanceAs (Decidable (b.getD offsetMsgid 0 ∈ _))

/-- The firing telecommands handed to the HAL by a step. -/
def fireFrames (i : Input) (w : World σ) : List (List UInt8) :=
  ((step cfe L i w).line.sent.drop w.line.sent.length).filter fun b => IsFireTC b

/-- A ground command fires the thrusters. -/
def IsFireCommand : GroundCommand → Prop
  | .mainThrusterFire _ | .cgThrusterPulse _ | .cgThrusterBurst _ => True
  | _ => False

/-- What a step hands to the HAL, from the line after it. -/
theorem fireFrames_eq {i : Input} {w : World σ} {frames : List (List UInt8)}
    (h : (step cfe L i w).line.sent = w.line.sent ++ frames) :
    fireFrames cfe L i w = frames.filter fun b => IsFireTC b := by
  rw [fireFrames, h, List.drop_left]

/-- A step sends no firing telecommand, or it is a firing command in ARMED and sends one. -/
theorem fireFrames_cases (i : Input) (w : World σ) :
    fireFrames cfe L i w = [] ∨
      (∃ b, fireFrames cfe L i w = [b]) ∧ w.data.currentState = .armed ∧
        ∃ c, activity cfe i w = some (.command c) ∧ IsFireCommand c := by
  rcases ha : activity cfe i w with - | (c | -)
  · left
    rw [fireFrames, (step_of_none cfe L ha).line, List.drop_length, List.filter_nil]
  · by_cases hp : Permitted w.data.currentState c
    swap
    · -- The handler rejects the command.
      left
      rw [fireFrames, step_of_activity cfe L ha, act, handle_line_of_not_permitted L i.now hp,
        List.drop_length, List.filter_nil]
    rw [fireFrames_eq cfe L (step_sent cfe L ha hp)]
    cases c with
    | mainThrusterFire p => exact .inr ⟨⟨_, rfl⟩, hp, _, rfl, trivial⟩
    | cgThrusterPulse p => exact .inr ⟨⟨_, rfl⟩, hp, _, rfl, trivial⟩
    | cgThrusterBurst p => exact .inr ⟨⟨_, rfl⟩, hp, _, rfl, trivial⟩
    | _ => exact .inl rfl
  · -- A wakeup sends other telecommands.
    left
    obtain ⟨frames, hsent, hframes⟩ := wakeupHandler_sent cfe L i.now w
    rw [fireFrames_eq cfe L (by rw [step_of_activity cfe L ha, act, hsent]),
      List.filter_eq_nil_iff]
    intro b hb
    rcases hframes b hb with rfl | rfl <;> decide

/-- A step sets the state to ARMED: an Arm Propulsion or a Set Mode(ARMED) that
    succeeds, or a Request Status that reports ARMED. -/
def SetsArmed (i : Input) (w : World σ) : Prop :=
  activity cfe i w = some (.command .armPropulsion) ∧ WireOk L w .armPropulsion ∨
    (∃ p, activity cfe i w = some (.command (.setMode p)) ∧ p.mode = modeArmed ∧
      WireOk L w (.setMode p)) ∨
    activity cfe i w = some (.command .requestStatus) ∧ WireOk L w .requestStatus ∧
      reportedMode L w = State.armed.toByte

/-- ARMED is entered by the steps that set it, and by no other. -/
theorem setsArmed_of_enters {i : Input} {w : World σ} (hw : w.data.currentState ≠ .armed)
    (h : (step cfe L i w).data.currentState = .armed) : SetsArmed cfe L i w := by
  rcases armed_step_cases h with (⟨ha, -, hok⟩ | hset) | hsync | hkeep
  · exact .inl ⟨ha, hok⟩
  · exact .inr (.inl hset)
  · exact .inr (.inr hsync)
  · rw [← World.mode_state, hkeep] at h
    exact absurd h hw

/-- Whether the call of a firing command in ARMED succeeds is all that decides about the state. -/
theorem state_step_fire {i : Input} {w : World σ} {c : GroundCommand}
    (ha : activity cfe i w = some (.command c)) (hc : IsFireCommand c)
    (hw : w.data.currentState = .armed) :
    (step cfe L i w).data.currentState = if WireOk L w c then .standby else .safe := by
  rw [← World.mode_state, mode_step_command ha]
  cases c with
  | mainThrusterFire p | cgThrusterPulse p | cgThrusterBurst p =>
    simp only [commandAction, if_pos hw]
    split_ifs <;> rfl
  | _ => exact hc.elim

/-- A firing command in ARMED leaves it, whatever the link answers. -/
theorem leaves_armed {i : Input} {w : World σ} {c : GroundCommand}
    (ha : activity cfe i w = some (.command c)) (hc : IsFireCommand c)
    (hw : w.data.currentState = .armed) : (step cfe L i w).data.currentState ≠ .armed := by
  rw [state_step_fire cfe L ha hc hw]
  split_ifs <;> decide

/-- Firing interlock, one shot per arming: a step that hands a firing telecommand to the HAL
    starts in ARMED and hands it just one, after a step that set the state to ARMED with
    no firing telecommand since. -/
theorem fire_interlock {a : ℕ → Input} {ρ : ℕ → World σ}
    (hρ : IsRun (initial L) (step cfe L) a ρ) {n : ℕ}
    (hn : fireFrames cfe L (a n) (ρ n) ≠ []) :
    (∃ b, fireFrames cfe L (a n) (ρ n) = [b]) ∧ (ρ n).data.currentState = .armed ∧
      ∃ k < n, SetsArmed cfe L (a k) (ρ k) ∧ (ρ (k + 1)).data.currentState = .armed ∧
        ∀ j, k ≤ j → j < n → fireFrames cfe L (a j) (ρ j) = [] := by
  obtain ⟨hb, -⟩ := (fireFrames_cases cfe L (a n) (ρ n)).resolve_left hn
  -- ARMED is a permit: firing needs it and takes it away.
  obtain ⟨harmed, k, hk, hset, hk', hbetween⟩ := hρ.permit
    (P := fun w => w.data.currentState = .armed) (U := fun i w => fireFrames cfe L i w ≠ [])
    (fun w hw => initial_not_armed L hw)
    (fun i w hu => by
      obtain ⟨-, hw, c, ha, hc⟩ := (fireFrames_cases cfe L i w).resolve_left hu
      exact ⟨hw, leaves_armed cfe L ha hc hw⟩)
    (fun i w hw h => setsArmed_of_enters cfe L hw h) hn
  exact ⟨hb, harmed, k, hk, hset, hk', fun j hkj hj => not_not.1 (hbetween j hkj hj)⟩

/-- A pulse is fired after an acknowledged Arm Propulsion. -/
theorem fire_interlock_pulse :
    let line := answer WireMsgid.armPropulsion [0, 4, 0, 0] (by decide)
    let a := inputs [⟨seconds 0, .ok (command Cc.armPropulsion)⟩] ⟨seconds 1, .ok pulseCommand⟩
    fireFrames Cfe.standard fifoLink (a 1) (scenario line a 1) ≠ [] ∧
      ∃ k < 1, SetsArmed Cfe.standard fifoLink (a k) (scenario line a k) := by
  intro line a
  have hfire : fireFrames Cfe.standard fifoLink (a 1) (scenario line a 1) ≠ [] := by decide +kernel
  obtain ⟨-, -, k, hk, hset, -⟩ :=
    fire_interlock Cfe.standard fifoLink (isRun_scenario line a) hfire
  exact ⟨hfire, k, hk, hset⟩

/-! ## The arming guard -/

/-- A step from `w` to `w'` that arms, other than by synchronising to a reported status, starts in
    STANDBY. -/
def ArmingGuarded (i : Input) (w w' : World σ) : Prop :=
  w.data.currentState ≠ .armed → w'.data.currentState = .armed →
    activity cfe i w ≠ some (.command .requestStatus) → w.data.currentState = .standby

/-- A Set Mode(ARMED) succeeds outside of STANDBY and ARMED. -/
def ArmsUnguarded (i : Input) (w : World σ) : Prop :=
  ∃ p, activity cfe i w = some (.command (.setMode p)) ∧ p.mode = modeArmed ∧
    WireOk L w (.setMode p) ∧ w.data.currentState ≠ .standby ∧ w.data.currentState ≠ .armed

/-- Along every run, arming is guarded exactly at the steps that are no Set Mode(ARMED) succeeding
    outside of STANDBY and ARMED. -/
theorem armingGuarded_iff {a : ℕ → Input} {ρ : ℕ → World σ}
    (hρ : IsRun (initial L) (step cfe L) a ρ) (n : ℕ) :
    ArmingGuarded cfe (a n) (ρ n) (ρ (n + 1)) ↔ ¬ArmsUnguarded cfe L (a n) (ρ n) := by
  rw [hρ.step n]
  constructor
  · -- The handler of Set Mode does not look at the state.
    rintro hguard ⟨p, ha, hm, hok, hstandby, harmed⟩
    refine hstandby (hguard harmed ?_ (by rw [ha]; nofun))
    rw [← World.mode_state, mode_step_of_arms (.inr ⟨p, ha, hm, hok⟩)]
  · intro hn hw harmed hsync
    rcases armed_step_cases harmed with (⟨-, hs, -⟩ | ⟨p, ha, hm, hok⟩) | hstatus | hkeep
    · exact hs
    · by_contra hstandby
      exact hn ⟨p, ha, hm, hok, hstandby, hw⟩
    · exact absurd hstatus.1 hsync
    · rw [← World.mode_state, hkeep] at harmed
      exact absurd harmed hw

/-- In SAFE, a Set Mode(ARMED) that the payload acknowledges arms the propulsion. -/
theorem not_armingGuarded_safe :
    ∃ (a : ℕ → Input) (ρ : ℕ → World (Hal.State (List UInt8))),
      IsRun (initial fifoLink) (step Cfe.standard fifoLink) a ρ ∧
        (ρ 1).data.currentState = .safe ∧
        ¬ArmingGuarded Cfe.standard (a 1) (ρ 1) (ρ 2) := by
  let ack := answer WireMsgid.setMode [0, 3, 0, 0] (by decide)
  let a := inputs [⟨seconds 0, .ok (setModeCommand modeSafe)⟩]
    ⟨seconds 1, .ok (setModeCommand modeArmed)⟩
  refine ⟨a, scenario (ack ++ ack) a, isRun_scenario _ _, by decide +kernel, fun hguard => ?_⟩
  have hsafe := hguard (by decide +kernel) (by decide +kernel) (by decide +kernel)
  exact absurd hsafe (by decide +kernel)

/-- The guard holds at the arming of a scenario in STANDBY. -/
theorem armingGuarded_standby :
    let line := answer WireMsgid.armPropulsion [0, 4, 0, 0] (by decide)
    let a := inputs [] ⟨seconds 0, .ok (command Cc.armPropulsion)⟩
    (scenario line a 1).data.currentState = .armed ∧
      (ArmingGuarded Cfe.standard (a 0) (scenario line a 0) (scenario line a 1) ↔
        ¬ArmsUnguarded Cfe.standard fifoLink (a 0) (scenario line a 0)) := by
  intro line a
  exact ⟨by decide +kernel, armingGuarded_iff Cfe.standard fifoLink (isRun_scenario line a) 0⟩

end Ig4u.App
