import Ig4u.App.Telemetry

/-!
# The unnoticed return

When the time of ARMED is over, a wakeup goes to STANDBY and then tells the payload to do
the same, whose answer it does not look at. If the telecommand is lost, the payload
stays armed, and neither the error counter nor a later wakeup makes up for it.

* `noticed_iff`: so the return of the application is no reason to believe that the payload is
  disarmed, exactly unless the telecommand of that wakeup is answered.
-/

namespace Ig4u.App

open Lib Proto Cmd

variable {σ : Type*} (cfe : Cfe) (L : Link σ)

/-- The Set Mode(STANDBY) by which a wakeup tells the payload. -/
def returnCall : Call := .setMode modeStandby

/-- The line on which a wakeup makes this call, after its polling. -/
def returnLine (w : World σ) : Line σ := (pollHK L w).line

/-- A step is a Set Mode(STANDBY), a Disarm or a Reset Module that succeeds, or a wakeup whose own
    Set Mode(STANDBY) does. -/
def Disarms (i : Input) (w : World σ) : Prop :=
  (∃ c ∈ [.setMode ⟨modeStandby⟩, .disarmPropulsion, .resetModule],
      activity cfe i w = some (.command c) ∧ WireOk L w c) ∨
    activity cfe i w = some .wakeup ∧ TimesOut cfe i.now w ∧
      (returnCall.run L (returnLine L w)).1 = cmdOk

/-- A wakeup from `w` to `w'` counts an error for its Set Mode(STANDBY), besides the one that its
    polling may count. -/
def Recorded (w w' : World σ) : Prop :=
  w'.data.errCounter = (pollHK L w).data.errCounter + 1

section

variable (a : ℕ → Input) (ρ : ℕ → World σ)

/-- From the time `n` on, every wakeup sends a Set Mode(STANDBY), until a step disarms the
    payload. -/
def Resends (n : ℕ) : Prop :=
  ∀ m, n < m → activity cfe (a m) (ρ m) = some .wakeup →
    (∀ k, n < k → k < m → ¬Disarms cfe L (a k) (ρ k)) →
      returnCall.telecommand.bytes ∈ (ρ (m + 1)).line.sent.drop (ρ m).line.sent.length

/-- The wakeup at the time `n` tells the payload with success, or its failure is recorded and the
    telecommand sent again. -/
def Noticed (n : ℕ) : Prop :=
  (returnCall.run L (returnLine L (ρ n))).1 = cmdOk ∨
    Recorded L (ρ n) (ρ (n + 1)) ∧ Resends cfe L a ρ n

end

variable {a : ℕ → Input} {ρ : ℕ → World σ} {n : ℕ}

/-- The call by which a wakeup tells the payload is the last thing it does with the line, and
    it counts no error for it. -/
theorem wakeup_return {now : SysTime} {w : World σ} (h : TimesOut cfe now w) :
    (wakeupHandler cfe L now w).line = (returnCall.run L (returnLine L w)).2 ∧
      (wakeupHandler cfe L now w).data.errCounter = (pollHK L w).data.errCounter := by
  obtain ⟨hpower, hready, harmed, htimer, helapsed⟩ := h
  obtain ⟨hk, tlm, e, hdata⟩ := pollHK_data L w
  rw [wakeupHandler, if_neg (by simp [hpower, hready]), if_neg (by simp [isCommAllowed, harmed])]
  refine ⟨?_, (checkArmedTimeout_quiet cfe L now _).2⟩
  rw [checkArmedTimeout, if_pos ⟨by rw [hdata]; exact htimer, by rw [hdata]; exact harmed⟩]
  simp only
  rw [if_pos (by rw [hdata]; exact helapsed)]
  rfl

/-- A wakeup takes ARMED to STANDBY only because of the timeout. -/
theorem timesOut_of_returns {i : Input} {w : World σ} (ha : activity cfe i w = some .wakeup)
    (hw : w.data.currentState = .armed) (hw' : (step cfe L i w).data.currentState = .standby) :
    TimesOut cfe i.now w := by
  by_contra hout
  rw [← World.mode_state, mode_step_wakeup ha, if_neg hout, ModeAction.apply_keep,
    World.mode_state, hw] at hw'
  cases hw'

/-- The failure of the call is never recorded. -/
theorem noticed_iff_exchange (hstep : ρ (n + 1) = step cfe L (a n) (ρ n))
    (ha : activity cfe (a n) (ρ n) = some .wakeup) (h : TimesOut cfe (a n).now (ρ n)) :
    Noticed cfe L a ρ n ↔ (returnCall.exchange L (returnLine L (ρ n))).isSome := by
  rw [Noticed, ← Call.run_ok_iff L (show ¬returnCall.IsNullRequest from id)]
  refine or_iff_left ?_
  rintro ⟨hrec, -⟩
  rw [Recorded, hstep, step_of_activity cfe L ha, act, (wakeup_return cfe L h).2] at hrec
  exact absurd hrec (by simp)

/-- Along every run, a wakeup that takes the state from ARMED to STANDBY ends with its Set
    Mode(STANDBY), and the payload does not stay armed unnoticed exactly if this telecommand is
    handed over and answered by a frame with its identifier. -/
theorem noticed_iff (hρ : IsRun (initial L) (step cfe L) a ρ)
    (ha : activity cfe (a n) (ρ n) = some .wakeup) (hw : (ρ n).data.currentState = .armed)
    (hw' : (ρ (n + 1)).data.currentState = .standby) :
    (ρ (n + 1)).line = (returnCall.run L (returnLine L (ρ n))).2 ∧
      (Noticed cfe L a ρ n ↔ (returnCall.exchange L (returnLine L (ρ n))).isSome) := by
  have hstep := hρ.step n
  rw [hstep] at hw'
  have hout := timesOut_of_returns cfe L ha hw hw'
  refine ⟨?_, noticed_iff_exchange cfe L hstep ha hout⟩
  rw [hstep, step_of_activity cfe L ha]
  exact (wakeup_return cfe L hout).1

/-- The answer to the Set Mode(STANDBY) is noticed. -/
theorem noticed_answered :
    let line := answer WireMsgid.armPropulsion [0, 4, 0, 0] (by decide) ++
      answer WireMsgid.replyHk (List.replicate 16 0) (by decide) ++
      answer WireMsgid.setMode [0, 3, 0, 0] (by decide)
    let a := inputs [⟨seconds 0, .ok (command Cc.armPropulsion)⟩] ⟨seconds 100, .ok wakeupMsg⟩
    Noticed Cfe.standard fifoLink a (scenario line a) 1 := by
  intro line a
  exact (noticed_iff Cfe.standard fifoLink (isRun_scenario line a) (n := 1) (by decide +kernel)
    (by decide +kernel) (by decide +kernel)).2.2 (by decide +kernel)

/-- A payload that does not answer stays armed: one error is counted, for the polling, and the next
    wakeup does not send the telecommand again. -/
theorem not_noticed_silent :
    ∃ (a : ℕ → Input) (ρ : ℕ → World (Hal.State (List UInt8))),
      IsRun (initial fifoLink) (step Cfe.standard fifoLink) a ρ ∧
        activity Cfe.standard (a 1) (ρ 1) = some .wakeup ∧
        (ρ 1).data.currentState = .armed ∧ (ρ 2).data.currentState = .standby ∧
        (ρ 2).data.errCounter = 1 ∧
        returnCall.telecommand.bytes ∉ (ρ 3).line.sent.drop (ρ 2).line.sent.length ∧
        ¬Noticed Cfe.standard fifoLink a ρ 1 := by
  let line := answer WireMsgid.armPropulsion [0, 4, 0, 0] (by decide)
  let a := inputs [⟨seconds 0, .ok (command Cc.armPropulsion)⟩] ⟨seconds 100, .ok wakeupMsg⟩
  have ha : activity Cfe.standard (a 1) (scenario line a 1) = some .wakeup := by decide +kernel
  have harmed : (scenario line a 1).data.currentState = .armed := by decide +kernel
  have hreturn : (scenario line a 2).data.currentState = .standby := by decide +kernel
  refine ⟨a, scenario line a, isRun_scenario _ _, ha, harmed, hreturn, by decide +kernel,
    by decide +kernel, ?_⟩
  have hout : TimesOut Cfe.standard (a 1).now (scenario line a 1) := by decide +kernel
  rw [noticed_iff_exchange Cfe.standard fifoLink ((isRun_scenario line a).step 1) ha hout]
  decide +kernel

end Ig4u.App
