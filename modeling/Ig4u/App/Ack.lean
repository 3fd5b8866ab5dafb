import Ig4u.App.Account

/-!
# Refused commands

Seven wire-level commands wait for a Default Response (`DefaultCommand`), and all of
them pass `NULL` for it, so that its result is never looked at: a negative
acknowledgement counts as a positive one.

* `checked_iff`: along a run, a command returns `IG4U_CMD_OK` without an
  acknowledgement exactly if the payload refuses it.
* `cmdCounter_of_issues`: its handler then counts it as it does an acknowledged
  command.
-/

namespace Ig4u.App

open Lib Proto Cmd

/-- The wire-level commands that wait for a Default Response. For a Main Thruster Fire this is
    its first phase. -/
inductive DefaultCommand
  | ping
  | resetModule
  | setMode (mode : UInt8)
  | armPropulsion
  | disarmPropulsion
  | clearFault
  | mainThrusterFire (durationMs : UInt32)
  deriving DecidableEq, Repr

namespace DefaultCommand

variable {σ : Type*} (L : Link σ)

/-- The call of the command. Without a place for the result, a Main Thruster Fire is over
    with its first phase. -/
def toCall : DefaultCommand → Call
  | ping => .ping
  | resetModule => .resetModule
  | setMode mode => .setMode mode
  | armPropulsion => .armPropulsion
  | disarmPropulsion => .disarmPropulsion
  | clearFault => .clearFault
  | mainThrusterFire durationMs => .mainThrusterFire durationMs none

/-- The payload of the telecommand. -/
def payload : DefaultCommand → Option (List UInt8)
  | setMode mode => some [mode, 0, 0, 0]
  | mainThrusterFire durationMs => some (wrLE32 durationMs)
  | _ => none

/-- The Default Response the command accepts, if there is one. -/
def response (d : DefaultCommand) (s : Line σ) : Option (List UInt8 × ℕ) :=
  defaultResponse L d.toCall.telecommand.msgId d.payload (d.payload.getD []).length s

/-- The payload refuses the command, with a Default Response that is negative or too short. -/
def Refused (d : DefaultCommand) (s : Line σ) : Prop := ∃ r ∈ d.response L s, ¬IsAck r

instance (d : DefaultCommand) (s : Line σ) : Decidable (d.Refused L s) :=
  inferInstanceAs (Decidable (∃ r ∈ d.response L s, ¬IsAck r))

/-- The command succeeds only with an acknowledgement. -/
def Checked (d : DefaultCommand) (s : Line σ) : Prop :=
  (d.toCall.run L s).1 = cmdOk → ∃ r ∈ d.response L s, IsAck r

/-- A command succeeds exactly if it accepts a Default Response. -/
theorem run_ok_iff (d : DefaultCommand) (s : Line σ) :
    (d.toCall.run L s).1 = cmdOk ↔ (d.response L s).isSome := by
  cases d with
  | mainThrusterFire durationMs =>
    rw [response, ← defaultCommand_ok_iff]
    simp only [toCall, Call.run, Cmd.mainThrusterFire]
    split_ifs with h
    · rfl
    · exact iff_of_true rfl (not_not.1 h)
  | _ => exact defaultCommand_ok_iff L _ _ _ s

/-- A command is checked exactly if it is not refused. -/
theorem checked_iff_not_refused (d : DefaultCommand) (s : Line σ) :
    d.Checked L s ↔ ¬d.Refused L s := by
  rw [Checked, Refused, run_ok_iff]
  rcases d.response L s with - | r
  · simp
  · simp

end DefaultCommand

variable {σ : Type*} (cfe : Cfe) (L : Link σ)

/-- The wire-level command with a Default Response behind a ground command. -/
def defaultOf : GroundCommand → Option DefaultCommand
  | .ping => some .ping
  | .resetModule => some .resetModule
  | .setMode p => some (.setMode p.mode)
  | .armPropulsion => some .armPropulsion
  | .disarmPropulsion => some .disarmPropulsion
  | .clearFault => some .clearFault
  | .mainThrusterFire p => some (.mainThrusterFire p.durationMs)
  | _ => none

/-- The handler called by a step issues a command with a Default Response. -/
def Issues (i : Input) (w : World σ) (d : DefaultCommand) : Prop :=
  ∃ c, activity cfe i w = some (.command c) ∧ Permitted w.data.currentState c ∧
    defaultOf c = some d

/-- A step from `w` to `w'` counts no command, confirms no link, clears no faults and goes
    neither to ARMED nor to STANDBY. -/
structure TakesNoEffect (w w' : World σ) : Prop where
  cmdCounter : w'.data.cmdCounter = w.data.cmdCounter
  linkReady : w'.data.linkReady → w.data.linkReady
  faultFlags : w'.data.faultFlags = w.data.faultFlags
  armed : w'.data.currentState = .armed → w.data.currentState = .armed
  standby : w'.data.currentState = .standby → w.data.currentState = .standby

/-- A step from `w` to `w'` respects the Default Response of the command it issues: success
    needs an acknowledgement, and without one the handler does not act on it. -/
structure RespectsResponse (i : Input) (w w' : World σ) : Prop where
  wire : ∀ d, Issues cfe i w d → d.Checked L w.line
  handler : ∀ d, Issues cfe i w d → d.Refused L w.line → TakesNoEffect w w'

/-- A step issues a command that the payload refuses. -/
def IssuesRefused (i : Input) (w : World σ) : Prop := ∃ d, Issues cfe i w d ∧ d.Refused L w.line

/-- The Default Response is all a command waits for: it is no Main Thruster Fire that ends by
    itself, whose result is still to come. -/
def DefaultCommand.IsComplete : DefaultCommand → Prop
  | mainThrusterFire durationMs => durationMs = 0
  | _ => True

/-- The handler of a command counts it whenever it accepts a Default Response, whatever this
    says, if it waits for nothing more. -/
theorem cmdCounter_of_issues {i : Input} {w : World σ} {d : DefaultCommand}
    (hd : Issues cfe i w d) (hcomplete : d.IsComplete) (hr : (d.response L w.line).isSome) :
    (step cfe L i w).data.cmdCounter = w.data.cmdCounter + 1 := by
  obtain ⟨c, ha, hp, hc⟩ := hd
  have hok := (d.run_ok_iff L w.line).2 hr
  have hwire : WireOk L w c := by
    cases c with
    | mainThrusterFire p =>
      cases hc
      obtain ⟨durationMs⟩ := p
      obtain rfl : durationMs = 0 := hcomplete
      -- Its handler has a place for the result, which is not waited for.
      have hphase : (Cmd.defaultCommand L WireMsgid.mainFire (some (wrLE32 0)) 4 w.line).1 =
          cmdOk := (defaultCommand_ok_iff L _ _ _ _).2 hr
      simp only [WireOk, wireCall, wireCommand, Call.run, Cmd.mainThrusterFire,
        if_neg (not_not.2 hphase)]
      rfl
    | _ => cases hc <;> exact hok
  have hne : c ≠ .resetCounter := by
    rintro rfl
    cases hc
  rw [step_of_activity cfe L ha, act]
  exact (handle_ok hp hne hwire).1

/-- A command that waits for nothing more takes effect although it is refused. -/
theorem takesEffect_of_refused {i : Input} {w : World σ} {d : DefaultCommand}
    (hd : Issues cfe i w d) (hcomplete : d.IsComplete) (href : d.Refused L w.line) :
    ¬TakesNoEffect w (step cfe L i w) := by
  intro h
  obtain ⟨r, hr, -⟩ := href
  have hcount := cmdCounter_of_issues cfe L hd hcomplete (Option.isSome_iff_exists.2 ⟨r, hr⟩)
  rw [h.cmdCounter] at hcount
  exact absurd hcount (by simp)

/-- Along every run, from every state of the line a command with a Default Response is checked
    exactly if it is not refused, a step respects the response exactly if it issues no
    command that is refused, and such a command takes effect if it waits for nothing more. -/
theorem checked_iff {a : ℕ → Input} {ρ : ℕ → World σ}
    (hρ : IsRun (initial L) (step cfe L) a ρ) :
    (∀ (d : DefaultCommand) (s : Line σ), d.Checked L s ↔ ¬d.Refused L s) ∧
      ∀ n, (RespectsResponse cfe L (a n) (ρ n) (ρ (n + 1)) ↔ ¬IssuesRefused cfe L (a n) (ρ n)) ∧
        ∀ d, Issues cfe (a n) (ρ n) d → d.IsComplete → d.Refused L (ρ n).line →
          ¬TakesNoEffect (ρ n) (ρ (n + 1)) := by
  refine ⟨fun d s => d.checked_iff_not_refused L s, fun n => ?_⟩
  rw [hρ.step n]
  refine ⟨?_, fun d hd hcomplete href => takesEffect_of_refused cfe L hd hcomplete href⟩
  constructor
  · rintro h ⟨d, hd, href⟩
    exact (d.checked_iff_not_refused L _).1 (h.wire d hd) href
  · intro h
    exact ⟨fun d hd => (d.checked_iff_not_refused L _).2 fun href => h ⟨d, hd, href⟩,
      fun d hd href => absurd ⟨d, hd, href⟩ h⟩

/-- An acknowledged Arm Propulsion respects its response. -/
theorem checked_arm :
    let line := answer WireMsgid.armPropulsion [resultAck, 4, 0, 0] (by decide)
    let a := inputs [] ⟨seconds 0, .ok (command Cc.armPropulsion)⟩
    (scenario line a 1).data.currentState = .armed ∧
      (RespectsResponse Cfe.standard fifoLink (a 0) (scenario line a 0) (scenario line a 1) ↔
        ¬IssuesRefused Cfe.standard fifoLink (a 0) (scenario line a 0)) := by
  intro line a
  exact ⟨by decide +kernel, ((checked_iff Cfe.standard fifoLink (isRun_scenario line a)).2 0).1⟩

/-- An Arm Propulsion that the payload refuses, as its interlock is not met, is counted and
    goes to ARMED. -/
theorem not_respectsResponse_arm :
    ∃ (a : ℕ → Input) (ρ : ℕ → World (Hal.State (List UInt8))),
      IsRun (initial fifoLink) (step Cfe.standard fifoLink) a ρ ∧
        Issues Cfe.standard (a 0) (ρ 0) .armPropulsion ∧
        DefaultCommand.armPropulsion.Refused fifoLink (ρ 0).line ∧
        (ρ 1).data.currentState = .armed ∧ (ρ 1).data.cmdCounter = 1 ∧
        ¬RespectsResponse Cfe.standard fifoLink (a 0) (ρ 0) (ρ 1) := by
  let line := answer WireMsgid.armPropulsion [1, 4, 4, 0] (by decide)
  let a := inputs [] ⟨seconds 0, .ok (command Cc.armPropulsion)⟩
  have hissues : Issues Cfe.standard (a 0) (scenario line a 0) .armPropulsion :=
    ⟨.armPropulsion, by decide +kernel, show (scenario line a 0).data.currentState = .standby by
      decide +kernel, rfl⟩
  have hrefused : DefaultCommand.armPropulsion.Refused fifoLink (scenario line a 0).line := by
    decide +kernel
  refine ⟨a, scenario line a, isRun_scenario _ _, hissues, hrefused, by decide +kernel,
    by decide +kernel, fun h => ?_⟩
  exact (DefaultCommand.armPropulsion.checked_iff_not_refused fifoLink _).1
    (h.wire _ hissues) hrefused

end Ig4u.App
