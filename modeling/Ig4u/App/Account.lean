import Ig4u.App.Interlock
import Ig4u.Commands.Reply

/-!
# Accounting

What the handlers of the ground commands do with the counters, with the rest of the
data and with the telemetry, in terms of the state check and the wire-level call.

* `handle_rejected`, `handle_failed`, `handle_ok`: a handler counts an error if its check
  rejects the command or its call fails, and a command otherwise.
* `atomic`: a command that is rejected, and a request or a change of the mode that fails,
  does nothing but count an error.
* `accounted_iff`: the counters tell what has failed, except for a CG Thruster Abort, whose
  handler drops the return code of its call.
-/

namespace Ig4u.App

open Lib Proto Cmd

variable {σ : Type*} (cfe : Cfe) (L : Link σ)

/-! ## The handlers -/

section

variable {L} {now : SysTime} {w : World σ} {c : GroundCommand}

/-- Counting an error. -/
def countError (d : Data) : Data := { d with errCounter := d.errCounter + 1 }

/-- A command that the state check rejects is an error, and nothing more. -/
theorem handle_rejected (h : ¬Permitted w.data.currentState c) :
    (handle L now w c).2.data = countError w.data ∧ (handle L now w c).2.tlm = w.tlm := by
  cases c <;> simp only [Permitted, not_true_eq_false] at h <;>
    simp [handle, armPropulsionCmd, mainThrusterFireCmd, cgThrusterPulseCmd, cgThrusterBurstCmd,
      cgFireCmd, isArmed, h, countError]

/-- A command whose call succeeds is counted. -/
theorem handle_ok (hp : Permitted w.data.currentState c) (hc : c ≠ .resetCounter)
    (hok : WireOk L w c) :
    (handle L now w c).2.data.cmdCounter = w.data.cmdCounter + 1 ∧
      (handle L now w c).2.data.errCounter = w.data.errCounter := by
  cases c with
  | resetCounter => exact absurd rfl hc
  | armPropulsion =>
    have hs : w.data.currentState = .standby := hp
    simp only [WireOk, wireCall, wireCommand, Call.run] at hok
    simp [handle, armPropulsionCmd, hs, hok]
  | mainThrusterFire p | cgThrusterPulse p | cgThrusterBurst p =>
    simp only [WireOk, wireCall, wireCommand, Call.run] at hok
    simp [handle, mainThrusterFireCmd, cgThrusterPulseCmd, cgThrusterBurstCmd, cgFireCmd,
      isArmed_iff.2 hp, hok]
  | _ =>
    simp only [WireOk, wireCall, wireCommand, Call.run] at hok
    simp only [handle, noopCmd, pingCmd, resetModuleCmd, setModeCmd, disarmPropulsionCmd,
      requestHKDataCmd, requestStatusCmd, mainThrusterAbortCmd, cgThrusterAbortCmd,
      requestFaultLogCmd, clearFaultCmd, hok, if_true]
    repeat' split_ifs
    all_goals exact ⟨rfl, rfl⟩

/-- The commands that leave everything as it is if their call fails. -/
def IsAtomic : GroundCommand → Prop
  | .resetModule | .setMode _ | .armPropulsion | .disarmPropulsion | .requestHKData
  | .requestStatus | .requestFaultLog | .clearFault => True
  | _ => False

/-- If the call of such a command fails, the handler counts an error, and does nothing more. -/
theorem handle_failed_atomic (hp : Permitted w.data.currentState c) (hc : IsAtomic c)
    (hok : ¬WireOk L w c) :
    (handle L now w c).2.data = countError w.data ∧ (handle L now w c).2.tlm = w.tlm := by
  cases c with
  | armPropulsion =>
    have hs : w.data.currentState = .standby := hp
    simp only [WireOk, wireCall, wireCommand, Call.run] at hok
    simp [handle, armPropulsionCmd, hs, hok, countError]
  | requestHKData =>
    -- The parser has not touched the cache.
    obtain ⟨_, -, -, h⟩ | ⟨-, hout, hfail⟩ := requestHKData_cases L w.data.lastHK w.line
    · exact absurd h hok
    · simp only [handle, requestHKDataCmd, if_neg hfail, hout]
      exact ⟨rfl, rfl⟩
  | requestStatus =>
    obtain ⟨_, -, -, h⟩ | ⟨-, hout, hfail⟩ := requestStatus_cases L w.data.lastStatus w.line
    · exact absurd h hok
    · simp only [handle, requestStatusCmd, if_neg hfail, hout]
      exact ⟨rfl, rfl⟩
  | requestFaultLog =>
    obtain ⟨_, -, -, h⟩ | ⟨-, hout, hfail⟩ := requestFaultLog_cases L w.data.faultLogTlm w.line
    · exact absurd h hok
    · simp only [handle, requestFaultLogCmd, if_neg hfail, hout]
      exact ⟨rfl, rfl⟩
  | resetModule | setMode | disarmPropulsion | clearFault =>
    simp only [WireOk, wireCall, wireCommand, Call.run] at hok
    simp only [handle, resetModuleCmd, setModeCmd, disarmPropulsionCmd, clearFaultCmd, hok,
      if_false]
    exact ⟨rfl, rfl⟩
  | _ => exact hc.elim

/-- A command whose call fails is an error, except for a CG Thruster Abort. -/
theorem handle_failed (hp : Permitted w.data.currentState c) (hc : c ≠ .cgThrusterAbort)
    (hok : ¬WireOk L w c) :
    (handle L now w c).2.data.cmdCounter = w.data.cmdCounter ∧
      (handle L now w c).2.data.errCounter = w.data.errCounter + 1 := by
  by_cases hatomic : IsAtomic c
  · rw [(handle_failed_atomic hp hatomic hok).1]
    exact ⟨rfl, rfl⟩
  cases c with
  | noop | resetCounter => exact absurd rfl hok
  | cgThrusterAbort => exact absurd rfl hc
  | mainThrusterFire p | cgThrusterPulse p | cgThrusterBurst p =>
    simp only [WireOk, wireCall, wireCommand, Call.run] at hok
    simp [handle, mainThrusterFireCmd, cgThrusterPulseCmd, cgThrusterBurstCmd, cgFireCmd,
      isArmed_iff.2 hp, hok]
  | ping | mainThrusterAbort =>
    simp only [WireOk, wireCall, wireCommand, Call.run] at hok
    simp only [handle, pingCmd, mainThrusterAbortCmd, hok, if_false]
    exact ⟨rfl, rfl⟩
  | _ => exact absurd trivial hatomic

end

/-! ## The messages -/

/-- A message has an unknown function code or not the size of its command, or the state check
    rejects it. -/
def Rejected (m : SbMsg) (w : World σ) : Prop :=
  GroundCommand.ofMsg m = none ∨
    ∃ c, GroundCommand.ofMsg m = some c ∧
      (c.size cfe ≠ m.size ∨ ¬Permitted w.data.currentState c)

/-- The wire-level call for the command of a message is made and fails. -/
def CallFails (m : SbMsg) (w : World σ) (c : GroundCommand) : Prop :=
  accepted cfe m = some c ∧ Permitted w.data.currentState c ∧ ¬WireOk L w c

variable {m : SbMsg} {now : SysTime} {w : World σ} {c : GroundCommand}

/-- A rejected message is an error, and nothing more. -/
theorem processGroundCommand_rejected (h : Rejected cfe m w) :
    (processGroundCommand cfe L now m w).data = countError w.data ∧
      (processGroundCommand cfe L now m w).tlm = w.tlm ∧
      (processGroundCommand cfe L now m w).line = w.line := by
  rcases h with hnone | ⟨c, hc, h⟩
  · simp only [processGroundCommand, hnone]
    exact ⟨rfl, rfl, rfl⟩
  · by_cases hsize : c.size cfe = m.size
    · have hp := h.resolve_left (not_not.2 hsize)
      simp only [processGroundCommand, hc, verifyCmdLength, if_neg (not_not.2 hsize), if_true]
      exact ⟨(handle_rejected hp).1, (handle_rejected hp).2, handle_line_of_not_permitted L now hp⟩
    · simp only [processGroundCommand, hc, verifyCmdLength, if_pos hsize, Bool.false_eq_true,
        if_false]
      exact ⟨rfl, rfl, rfl⟩

theorem processGroundCommand_accepted (h : accepted cfe m = some c) :
    processGroundCommand cfe L now m w = (handle L now w c).2 := by
  obtain ⟨hc, hsize⟩ := Option.filter_eq_some_iff.1 h
  simp [processGroundCommand, hc, verifyCmdLength, of_decide_eq_true hsize]

/-- A message is rejected, or its command is accepted and permitted. -/
theorem not_rejected_iff :
    ¬Rejected cfe m w ↔ ∃ c, accepted cfe m = some c ∧ Permitted w.data.currentState c := by
  rcases hc : GroundCommand.ofMsg m with - | c
  · simp [Rejected, accepted, hc]
  · simp [Rejected, accepted, hc, Option.filter_some, not_or]

/-! ## Atomicity -/

/-- Whatever the function code, the size and the fields of a command message, and whatever the link
    does: a rejected message hands nothing to the HAL; and if a message is rejected, or the
    call of an atomic command fails, an error is counted, the rest of the data is unchanged
    and nothing is published. -/
theorem atomic (hm : m.msgId = cfe.cmdMid) (now : SysTime) (w : World σ) :
    let w' := taskPipe cfe L now m w
    (Rejected cfe m w → w'.line.sent = w.line.sent) ∧
    ((Rejected cfe m w ∨ ∃ c, IsAtomic c ∧ CallFails cfe L m w c) →
      w'.data = { w.data with errCounter := w.data.errCounter + 1 } ∧ w'.tlm = w.tlm) := by
  simp only [taskPipe, if_pos hm]
  refine ⟨fun h => ?_, ?_⟩
  · rw [(processGroundCommand_rejected cfe L h).2.2]
  · rintro (h | ⟨c, hatomic, hc, hp, hok⟩)
    · exact ⟨(processGroundCommand_rejected cfe L h).1, (processGroundCommand_rejected cfe L h).2.1⟩
    · rw [processGroundCommand_accepted cfe L hc]
      exact handle_failed_atomic hp hatomic hok

/-- In STANDBY, with a payload that does not answer, a CG Thruster Pulse is rejected and an Arm
    Propulsion fails. -/
theorem atomic_standby :
    let w := poweredOn []
    let pulse := taskPipe Cfe.standard fifoLink (seconds 0) pulseCommand w
    let arm := taskPipe Cfe.standard fifoLink (seconds 0) (command Cc.armPropulsion) w
    pulse.line.sent = w.line.sent ∧ pulse.data.errCounter = 1 ∧ arm.data.errCounter = 1 ∧
      arm.data.currentState = .standby := by
  intro w pulse arm
  have hrejected : Rejected Cfe.standard pulseCommand w :=
    .inr ⟨_, rfl, .inr (show w.data.currentState ≠ .armed by decide +kernel)⟩
  have hfails : CallFails Cfe.standard fifoLink (command Cc.armPropulsion) w .armPropulsion :=
    ⟨by decide +kernel, show w.data.currentState = .standby by decide +kernel, by decide +kernel⟩
  obtain ⟨hsent, hpulse⟩ := atomic Cfe.standard fifoLink (m := pulseCommand) rfl (seconds 0) w
  obtain ⟨-, harm⟩ := atomic Cfe.standard fifoLink (m := command Cc.armPropulsion) rfl (seconds 0) w
  have hdata := (harm (.inr ⟨.armPropulsion, trivial, hfails⟩)).1
  refine ⟨hsent hrejected, ?_, ?_, ?_⟩
  · rw [(hpulse (.inl hrejected)).1]
    decide +kernel
  · rw [hdata]
    decide +kernel
  · rw [hdata]
    decide +kernel

/-! ## The counters -/

/-- A message is rejected, or its call fails. -/
def Errs (m : SbMsg) (w : World σ) : Prop := Rejected cfe m w ∨ ∃ c, CallFails cfe L m w c

/-- Handling a message, from `w` to `w'`, counts an error if it is rejected or its call fails, and
    a command otherwise. -/
structure Accounted (m : SbMsg) (w w' : World σ) : Prop where
  error : Errs cfe L m w →
    w'.data.errCounter = w.data.errCounter + 1 ∧ w'.data.cmdCounter = w.data.cmdCounter
  command : ¬Errs cfe L m w →
    w'.data.cmdCounter = w.data.cmdCounter + 1 ∧ w'.data.errCounter = w.data.errCounter

/-- The handler of a CG Thruster Abort counts it in any case. -/
theorem cmdCounter_cgThrusterAbort (hc : accepted cfe m = some .cgThrusterAbort) :
    (processGroundCommand cfe L now m w).data.cmdCounter = w.data.cmdCounter + 1 := by
  rw [processGroundCommand_accepted cfe L hc]
  rfl

/-- The call of a CG Thruster Abort fails if its telecommand cannot be sent. -/
theorem callFails_cgThrusterAbort :
    CallFails cfe L m w .cgThrusterAbort ↔ accepted cfe m = some .cgThrusterAbort ∧
      (handOver L Call.cgThrusterAbort.telecommand w.line).1 ≠ halOk := by
  have hsend : WireOk L w .cgThrusterAbort ↔
      (exchange L Call.cgThrusterAbort.telecommand [] w.line).isSome :=
    sendTC_ok_iff L WireMsgid.cgAbort .null (by decide) w.line
  rw [CallFails, hsend, exchange]
  simp [Permitted, replies]

/-- Whatever a command message is, other than a valid Reset Counter, and whatever the link does:
    the counters account for it exactly if it is no CG Thruster Abort whose telecommand cannot
    be sent. -/
theorem accounted_iff (hm : m.msgId = cfe.cmdMid) (hreset : accepted cfe m ≠ some .resetCounter)
    (now : SysTime) (w : World σ) :
    Accounted cfe L m w (taskPipe cfe L now m w) ↔
      ¬(accepted cfe m = some .cgThrusterAbort ∧
        (handOver L Call.cgThrusterAbort.telecommand w.line).1 ≠ halOk) := by
  rw [← callFails_cgThrusterAbort, taskPipe, if_pos hm]
  constructor
  · intro h habort
    have hcmd := (h.error (.inr ⟨_, habort⟩)).2
    rw [cmdCounter_cgThrusterAbort cfe L habort.1] at hcmd
    exact absurd hcmd (by simp)
  intro habort
  by_cases hrejected : Rejected cfe m w
  · refine ⟨fun _ => ?_, fun h => absurd (.inl hrejected) h⟩
    rw [(processGroundCommand_rejected cfe L hrejected).1]
    exact ⟨rfl, rfl⟩
  obtain ⟨c, hc, hp⟩ := (not_rejected_iff cfe).1 hrejected
  rw [processGroundCommand_accepted cfe L hc]
  by_cases hok : WireOk L w c
  · refine ⟨?_, fun _ => handle_ok hp (fun he => hreset (he ▸ hc)) hok⟩
    rintro (h | ⟨c', hc', -, hfail⟩)
    · exact absurd h hrejected
    · cases hc.symm.trans hc'
      exact absurd hok hfail
  · refine ⟨fun _ => ?_, fun h => absurd (.inr ⟨c, hc, hp, hok⟩) h⟩
    have hne : c ≠ .cgThrusterAbort := by
      rintro rfl
      exact habort ⟨hc, hp, hok⟩
    exact (handle_failed hp hne hok).symm

/-- The counters account for a Ping that is not answered. -/
theorem accounted_ping :
    let w := poweredOn []
    let w' := taskPipe Cfe.standard fifoLink (seconds 0) (command Cc.ping) w
    w'.data.errCounter = 1 ∧ w'.data.cmdCounter = 0 := by
  intro w w'
  have hfails : CallFails Cfe.standard fifoLink (command Cc.ping) w .ping :=
    ⟨by decide +kernel, trivial, by decide +kernel⟩
  have haccounted : Accounted Cfe.standard fifoLink (command Cc.ping) w w' :=
    (accounted_iff Cfe.standard fifoLink rfl (by decide +kernel) (seconds 0) w).2 fun h => by
      cases hfails.1.symm.trans h.1
  obtain ⟨herr, hcmd⟩ := haccounted.error (.inr ⟨_, hfails⟩)
  rw [herr, hcmd]
  exact ⟨by decide +kernel, by decide +kernel⟩

/-- With a driver that cannot write, a CG Thruster Abort is counted as a command. -/
theorem not_accounted_abort :
    let L := Hal.link { Hal.fifo .success with apiWrite := fun _ _ q => ((.other (-1), 0), q) }
    ∃ (a : ℕ → Input) (ρ : ℕ → World (Hal.State (List UInt8))),
      IsRun (initial L) (step Cfe.standard L) a ρ ∧
        a 0 = ⟨seconds 0, .ok (command Cc.cgThrusterAbort)⟩ ∧
        CallFails Cfe.standard L (command Cc.cgThrusterAbort) (ρ 0) .cgThrusterAbort ∧
        (ρ 1).data.cmdCounter = 1 ∧ (ρ 1).data.errCounter = 0 ∧
        ¬Accounted Cfe.standard L (command Cc.cgThrusterAbort) (ρ 0) (ρ 1) := by
  intro L
  let a := inputs [] ⟨seconds 0, .ok (command Cc.cgThrusterAbort)⟩
  let w := start L ⟨.success, .success, .success, .success⟩
    ⟨default, ⟨List.replicate packetMaxTotal 0, [], ⟨false, [], []⟩⟩, [], []⟩
  let ρ := along (step Cfe.standard L) a w
  have hfails : CallFails Cfe.standard L (command Cc.cgThrusterAbort) (ρ 0) .cgThrusterAbort :=
    ⟨by decide +kernel, trivial, by decide +kernel⟩
  have hcmd : (ρ 1).data.cmdCounter = 1 := by decide +kernel
  refine ⟨a, ρ, .of_along (show w ∈ initial L from ⟨_, _, rfl⟩) a, rfl, hfails, hcmd,
    by decide +kernel, fun h => ?_⟩
  have hkeep := (h.error (.inr ⟨_, hfails⟩)).2
  rw [hcmd] at hkeep
  exact absurd hkeep (by decide +kernel)

end Ig4u.App
