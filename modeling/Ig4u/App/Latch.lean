import Ig4u.App.Mode
import Ig4u.App.Scenario

/-!
# Protective states

SAFE and FAULT are meant to latch: SAFE until a Clear Fault, a Set Mode(STANDBY) or a
reset, FAULT until a reset or a Clear Fault, unless the payload reports another
state. But the handlers of the aborts, of Disarm and of Set Mode write the state
without looking at it.

* `latched_iff`: the steps of a run that unlatch a protective state are exactly the
  aborts, the Disarm and Set Mode(ARMED) that succeed, and in FAULT the other
  modes that are set with success.
-/

namespace Ig4u.App

open Lib

variable {σ : Type*} (cfe : Cfe) (L : Link σ)

/-- A step takes up a command whose wire-level call returns `IG4U_CMD_OK`. -/
def Succeeds (c : GroundCommand) (i : Input) (w : World σ) : Prop :=
  activity cfe i w = some (.command c) ∧ WireOk L w c

/-- The steps allowed to leave FAULT. -/
def ReleasesFault (i : Input) (w : World σ) : Prop :=
  Succeeds cfe L .resetModule i w ∨ Succeeds cfe L .clearFault i w ∨
    Succeeds cfe L .requestStatus i w

/-- The steps allowed to leave SAFE for another state than FAULT. -/
def ReleasesSafe (i : Input) (w : World σ) : Prop :=
  Succeeds cfe L .clearFault i w ∨ Succeeds cfe L (.setMode ⟨modeStandby⟩) i w ∨
    Succeeds cfe L .resetModule i w ∨ Succeeds cfe L .requestStatus i w

/-- A step from `w` to `w'` respects the protective states. -/
structure Latched (i : Input) (w w' : World σ) : Prop where
  fault : w.data.currentState = .fault →
    w'.data.currentState = .fault ∨ ReleasesFault cfe L i w
  safe : w.data.currentState = .safe →
    w'.data.currentState = .safe ∨ w'.data.currentState = .fault ∨ ReleasesSafe cfe L i w

/-- A command takes the state out of SAFE or FAULT that should not. -/
def Unlatches (i : Input) (w : World σ) : Prop :=
  (w.data.currentState = .safe ∨ w.data.currentState = .fault) ∧
      (activity cfe i w = some (.command .mainThrusterAbort) ∨
        activity cfe i w = some (.command .cgThrusterAbort) ∨
        Succeeds cfe L .disarmPropulsion i w ∨ Succeeds cfe L (.setMode ⟨modeArmed⟩) i w) ∨
    w.data.currentState = .fault ∧
      (Succeeds cfe L (.setMode ⟨modeStandby⟩) i w ∨ Succeeds cfe L (.setMode ⟨modeSafe⟩) i w)

variable {cfe L} {i : Input} {w : World σ}

/-- Another step than a ground command keeps the state outside of ARMED. -/
theorem state_step_of_no_command (ha : ∀ c, activity cfe i w ≠ some (.command c))
    (hw : w.data.currentState ≠ .armed) :
    (step cfe L i w).data.currentState = w.data.currentState := by
  rw [← World.mode_state]
  rcases hact : activity cfe i w with - | (c | -)
  · rw [mode_step_none hact]
    rfl
  · exact absurd hact (ha c)
  · rw [mode_step_wakeup hact, if_neg fun hout => hw hout.2.2.1]
    rfl

/-- What a command does in a protective state. -/
theorem state_step_protective {c : GroundCommand} (ha : activity cfe i w = some (.command c))
    (hw : w.data.currentState = .safe ∨ w.data.currentState = .fault) :
    (step cfe L i w).data.currentState =
      match c with
      | .mainThrusterAbort | .cgThrusterAbort => .standby
      | .resetModule | .disarmPropulsion | .clearFault =>
        if WireOk L w c then .standby else w.data.currentState
      | .requestStatus =>
        if WireOk L w c then .ofByte (reportedMode L w) else w.data.currentState
      | .setMode p =>
        if WireOk L w c then ((setModeAction p.mode).apply i.now w.mode).state
        else w.data.currentState
      | _ => w.data.currentState := by
  have hstandby : w.data.currentState ≠ .standby := by rcases hw with h | h <;> rw [h] <;> decide
  have harmed : w.data.currentState ≠ .armed := by rcases hw with h | h <;> rw [h] <;> decide
  rw [← World.mode_state, mode_step_command ha]
  cases c with
  | armPropulsion => rw [commandAction, if_neg fun h => hstandby h.1]; rfl
  | mainThrusterFire p => rw [commandAction, if_neg harmed]; rfl
  | cgThrusterPulse p => rw [commandAction, if_neg harmed]; rfl
  | cgThrusterBurst p => rw [commandAction, if_neg harmed]; rfl
  | _ =>
    simp only [commandAction]
    repeat' split_ifs
    all_goals rfl

/-- A command that takes a protective state to STANDBY or ARMED, and is none of those
    allowed to, breaks the latch. -/
theorem not_latched {c : GroundCommand} (ha : activity cfe i w = some (.command c))
    (hw : w.data.currentState = .safe ∨ w.data.currentState = .fault)
    (hstep : (step cfe L i w).data.currentState = .standby ∨
      (step cfe L i w).data.currentState = .armed)
    (hc : c ∉ [.resetModule, .clearFault, .requestStatus])
    (hsafe : w.data.currentState = .safe → c ≠ .setMode ⟨modeStandby⟩) :
    ¬Latched cfe L i w (step cfe L i w) := by
  have hno : ∀ c', Succeeds cfe L c' i w → c' = c := fun c' h => by
    simpa using h.1.symm.trans ha
  rintro ⟨hf, hs⟩
  rcases hw with hw | hw
  · rcases hs hw with h | h | h | h | h | h
    · rcases hstep with hstep | hstep <;> rw [h] at hstep <;> cases hstep
    · rcases hstep with hstep | hstep <;> rw [h] at hstep <;> cases hstep
    · exact hc (by simp [← hno _ h])
    · exact hsafe hw (hno _ h).symm
    · exact hc (by simp [← hno _ h])
    · exact hc (by simp [← hno _ h])
  · rcases hf hw with h | h | h | h
    · rcases hstep with hstep | hstep <;> rw [h] at hstep <;> cases hstep
    · exact hc (by simp [← hno _ h])
    · exact hc (by simp [← hno _ h])
    · exact hc (by simp [← hno _ h])

/-- What unlatches a protective state breaks the latch. -/
theorem not_latched_of_unlatches (h : Unlatches cfe L i w) :
    ¬Latched cfe L i w (step cfe L i w) := by
  rcases h with ⟨hw, ha | ha | ⟨ha, hok⟩ | ⟨ha, hok⟩⟩ | ⟨hw, ⟨ha, hok⟩ | ⟨ha, hok⟩⟩
  · exact not_latched ha hw (.inl (state_step_protective ha hw)) (by decide) fun _ => nofun
  · exact not_latched ha hw (.inl (state_step_protective ha hw)) (by decide) fun _ => nofun
  · refine not_latched ha hw (.inl ?_) (by decide) fun _ => nofun
    rw [state_step_protective ha hw, if_pos hok]
  · refine not_latched ha hw (.inr ?_) (by decide) fun _ => by decide
    simp only [state_step_protective ha hw, if_pos hok]
    rfl
  · refine not_latched ha (.inr hw) (.inl ?_) (by decide) fun h => by rw [hw] at h; cases h
    simp only [state_step_protective ha (.inr hw), if_pos hok]
    rfl
  · -- A Set Mode(SAFE) takes FAULT to SAFE.
    rintro ⟨hf, -⟩
    have hsafe : (step cfe L i w).data.currentState = .safe := by
      simp only [state_step_protective ha (.inr hw), if_pos hok]
      rfl
    rcases hf hw with h | h | h | h
    · rw [hsafe] at h
      cases h
    all_goals cases h.1.symm.trans ha

/-- Nothing else does. -/
theorem latched_of_not_unlatches (h : ¬Unlatches cfe L i w) :
    Latched cfe L i w (step cfe L i w) := by
  by_cases hcommand : ∃ c, activity cfe i w = some (.command c)
  swap
  · have hkeep := state_step_of_no_command (L := L) (not_exists.1 hcommand) (w := w)
    exact ⟨fun hw => .inl (by rw [hkeep (by rw [hw]; decide), hw]),
      fun hw => .inl (by rw [hkeep (by rw [hw]; decide), hw])⟩
  obtain ⟨c, ha⟩ := hcommand
  by_cases hw : w.data.currentState = .safe ∨ w.data.currentState = .fault
  swap
  · exact ⟨fun hf => absurd (.inr hf) hw, fun hs => absurd (.inl hs) hw⟩
  have hstep := state_step_protective (L := L) ha hw
  have hsame : (step cfe L i w).data.currentState = w.data.currentState →
      Latched cfe L i w (step cfe L i w) := fun he =>
    ⟨fun hf => .inl (he.trans hf), fun hs => .inl (he.trans hs)⟩
  cases c with
  | mainThrusterAbort => exact absurd (.inl ⟨hw, .inl ha⟩) h
  | cgThrusterAbort => exact absurd (.inl ⟨hw, .inr (.inl ha)⟩) h
  | disarmPropulsion =>
    by_cases hok : WireOk L w .disarmPropulsion
    · exact absurd (.inl ⟨hw, .inr (.inr (.inl ⟨ha, hok⟩))⟩) h
    · exact hsame (hstep.trans (if_neg hok))
  | resetModule =>
    by_cases hok : WireOk L w .resetModule
    · exact ⟨fun _ => .inr (.inl ⟨ha, hok⟩), fun _ => .inr (.inr (.inr (.inr (.inl ⟨ha, hok⟩))))⟩
    · exact hsame (hstep.trans (if_neg hok))
  | clearFault =>
    by_cases hok : WireOk L w .clearFault
    · exact ⟨fun _ => .inr (.inr (.inl ⟨ha, hok⟩)), fun _ => .inr (.inr (.inl ⟨ha, hok⟩))⟩
    · exact hsame (hstep.trans (if_neg hok))
  | requestStatus =>
    by_cases hok : WireOk L w .requestStatus
    · exact ⟨fun _ => .inr (.inr (.inr ⟨ha, hok⟩)),
        fun _ => .inr (.inr (.inr (.inr (.inr ⟨ha, hok⟩))))⟩
    · exact hsame (hstep.trans (if_neg hok))
  | setMode p =>
    obtain ⟨mode⟩ := p
    by_cases hok : WireOk L w (.setMode ⟨mode⟩)
    swap
    · exact hsame (hstep.trans (if_neg hok))
    simp only [if_pos hok, setModeAction] at hstep
    split_ifs at hstep with hstandby harmed hsafe
    · subst hstandby
      exact ⟨fun hf => absurd (.inr ⟨hf, .inl ⟨ha, hok⟩⟩) h,
        fun _ => .inr (.inr (.inr (.inl ⟨ha, hok⟩)))⟩
    · subst harmed
      exact absurd (.inl ⟨hw, .inr (.inr (.inr ⟨ha, hok⟩))⟩) h
    · subst hsafe
      exact ⟨fun hf => absurd (.inr ⟨hf, .inr ⟨ha, hok⟩⟩) h, fun _ => .inl hstep⟩
    · exact hsame hstep
  | _ => exact hsame hstep

variable (cfe L)

/-- Along every run, the protective states latch exactly at the steps that are none of
    the unlatching ones. -/
theorem latched_iff {a : ℕ → Input} {ρ : ℕ → World σ}
    (hρ : IsRun (initial L) (step cfe L) a ρ) (n : ℕ) :
    Latched cfe L (a n) (ρ n) (ρ (n + 1)) ↔ ¬Unlatches cfe L (a n) (ρ n) := by
  rw [hρ.step n]
  exact ⟨fun hlatched h => not_latched_of_unlatches h hlatched, latched_of_not_unlatches⟩

/-- The latch holds at a wakeup in SAFE. -/
theorem latched_wakeup :
    let line := answer WireMsgid.setMode [0, 3, 0, 0] (by decide)
    let a := inputs [⟨seconds 0, .ok (setModeCommand modeSafe)⟩] ⟨seconds 1, .ok wakeupMsg⟩
    (scenario line a 1).data.currentState = .safe ∧
      (Latched Cfe.standard fifoLink (a 1) (scenario line a 1) (scenario line a 2) ↔
        ¬Unlatches Cfe.standard fifoLink (a 1) (scenario line a 1)) := by
  intro line a
  exact ⟨by decide +kernel, latched_iff Cfe.standard fifoLink (isRun_scenario line a) 1⟩

/-- In FAULT, a Main Thruster Abort goes to STANDBY. -/
theorem not_latched_abort :
    ∃ (a : ℕ → Input) (ρ : ℕ → World (Hal.State (List UInt8))),
      IsRun (initial fifoLink) (step Cfe.standard fifoLink) a ρ ∧
        (ρ 1).data.currentState = .fault ∧ (ρ 2).data.currentState = .standby ∧
        ¬Latched Cfe.standard fifoLink (a 1) (ρ 1) (ρ 2) := by
  let line := answer WireMsgid.replyStatus [State.fault.toByte, 0, 0, 0, 0] (by decide)
  let a := inputs [⟨seconds 0, .ok (command Cc.requestStatus)⟩]
    ⟨seconds 1, .ok (command Cc.mainThrusterAbort)⟩
  have hfault : (scenario line a 1).data.currentState = .fault := by decide +kernel
  have habort : activity Cfe.standard (a 1) (scenario line a 1) =
      some (.command .mainThrusterAbort) := by decide +kernel
  refine ⟨a, scenario line a, isRun_scenario _ _, hfault, by decide +kernel, ?_⟩
  rw [(isRun_scenario line a).step 1]
  exact not_latched_of_unlatches (.inl ⟨.inr hfault, .inl habort⟩)

end Ig4u.App
