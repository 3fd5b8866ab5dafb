import Ig4u.App.Latch

/-!
# The timer of ARMED

The flag `ArmedTimerActive` and the time `ArmedEntryTime` are meant to represent
since when the state has been ARMED. Most of the handlers that leave ARMED stop the timer, but
those of the cold gas thrusters, of the aborts, of Clear Fault and of Request
Status do not, and the latter enters ARMED without starting it.

* `timerInv_iff`: along a run, the timer represents ARMED exactly if no step is one of these
  (`BreaksTimer`).
-/

namespace Ig4u.App

open Lib

variable {σ : Type*} (cfe : Cfe) (L : Link σ)

/-! ## The steps that break the invariant -/

/-- A step leaves ARMED without stopping the timer, or enters it without starting it. -/
def BreaksTimer (i : Input) (w : World σ) : Prop :=
  w.data.currentState = .armed ∧
      ((∃ p, activity cfe i w = some (.command (.cgThrusterPulse p))) ∨
        (∃ p, activity cfe i w = some (.command (.cgThrusterBurst p))) ∨
        activity cfe i w = some (.command .mainThrusterAbort) ∨
        activity cfe i w = some (.command .cgThrusterAbort) ∨
        Succeeds cfe L .clearFault i w ∨
        Succeeds cfe L .requestStatus i w ∧ reportedMode L w ≠ State.armed.toByte) ∨
    w.data.currentState ≠ .armed ∧ Syncs cfe L i w .armed

variable {cfe L} {i : Input} {w : World σ}

/-- These are the steps that move into ARMED or out of it. -/
theorem breaksTimer_iff : BreaksTimer cfe L i w ↔
    ∃ s, modeAction cfe L i w = .move s ∧ ¬(w.data.currentState = .armed ↔ s = .armed) := by
  have hsync := State.ofByte_eq_iff (b := reportedMode L w) (s := .armed)
  rcases ha : activity cfe i w with - | (c | -)
  · simp [BreaksTimer, Succeeds, Syncs, modeAction, ha]
  · -- In ARMED and out of it, with the wire-level call succeeding or not.
    by_cases harmed : w.data.currentState = .armed <;> by_cases hok : WireOk L w c <;>
      cases c <;>
      simp [BreaksTimer, Succeeds, Syncs, modeAction, ha, commandAction, harmed, hok, WireOk,
        hsync]
    split_ifs <;> simp
  · by_cases hout : TimesOut cfe i.now w <;>
      simp [BreaksTimer, Succeeds, Syncs, modeAction, ha, hout]

/-! ## The invariant -/

section

variable (cfe L) (a : ℕ → Input) (ρ : ℕ → World σ)

/-- The step `k` takes the state to ARMED from another one, or is a Set Mode(ARMED) that
    succeeds. -/
def ArmsAt (k : ℕ) : Prop :=
  (ρ k).data.currentState ≠ .armed ∧ (ρ (k + 1)).data.currentState = .armed ∨
    ∃ p, activity cfe (a k) (ρ k) = some (.command (.setMode p)) ∧ p.mode = modeArmed ∧
      WireOk L (ρ k) (.setMode p)

/-- The timer is active exactly in ARMED, and then the entry time is that of the last step that
    armed. -/
structure TimerInv (n : ℕ) : Prop where
  active_iff : (ρ n).data.armedTimerActive ↔ (ρ n).data.currentState = .armed
  entry : (ρ n).data.armedTimerActive →
    ∃ k, LastBefore (ArmsAt cfe L a ρ) k n ∧ (ρ n).data.armedEntryTime = (a k).now

end

variable {a : ℕ → Input} {ρ : ℕ → World σ} {n : ℕ}

/-- A step that does not arm, and neither enters ARMED nor leaves it with the timer running, keeps
    the invariant. -/
theorem TimerInv.succ (h : TimerInv cfe L a ρ n)
    (hn : ¬ArmsAt cfe L a ρ n)
    (htimer : (ρ (n + 1)).data.armedTimerActive = (ρ n).data.armedTimerActive)
    (hentry : (ρ (n + 1)).data.armedEntryTime = (ρ n).data.armedEntryTime)
    (hstate : (ρ (n + 1)).data.currentState = .armed ↔ (ρ n).data.currentState = .armed) :
    TimerInv cfe L a ρ (n + 1) where
  active_iff := by rw [htimer, hstate, h.active_iff]
  entry ht := by
    obtain ⟨k, hk, he⟩ := h.entry (htimer ▸ ht)
    exact ⟨k, hk.succ hn, hentry.trans he⟩

/-- Where the invariant holds, a step keeps it exactly if it does not break the timer. -/
theorem timerInv_succ_iff (hstep : ρ (n + 1) = step cfe L (a n) (ρ n))
    (h : TimerInv cfe L a ρ n) :
    TimerInv cfe L a ρ (n + 1) ↔ ¬BreaksTimer cfe L (a n) (ρ n) := by
  have hmode : (ρ (n + 1)).mode = (modeAction cfe L (a n) (ρ n)).apply (a n).now (ρ n).mode := by
    rw [hstep, mode_step]
  have hset : ∀ p, activity cfe (a n) (ρ n) = some (.command (.setMode p)) → p.mode = modeArmed →
      WireOk L (ρ n) (.setMode p) → modeAction cfe L (a n) (ρ n) = .arm :=
    fun p ha hm hok => modeAction_of_arms (.inr ⟨p, ha, hm, hok⟩)
  rw [breaksTimer_iff]
  rcases hact : modeAction cfe L (a n) (ρ n) with - | - | s | s <;> rw [hact] at hmode
  · -- Nothing is written.
    have hstate := congrArg Mode.state hmode
    refine iff_of_true (h.succ ?_ (congrArg Mode.timer hmode) (congrArg Mode.entry hmode) ?_)
      (by simp)
    · rintro (⟨hw, harmed⟩ | ⟨p, ha, hm, hok⟩)
      · exact hw (hstate.symm.trans harmed)
      · cases hact.symm.trans (hset p ha hm hok)
    · exact Eq.congr hstate rfl
  · -- The step arms.
    have harmed : (ρ (n + 1)).data.currentState = .armed := congrArg Mode.state hmode
    refine iff_of_true ⟨iff_of_true (congrArg Mode.timer hmode) harmed, fun _ => ?_⟩ (by simp)
    refine ⟨n, .self ?_, congrArg Mode.entry hmode⟩
    rcases arms_of_modeAction hact with ⟨-, hs, -⟩ | hset
    · exact .inl ⟨by rw [hs]; decide, harmed⟩
    · exact .inr hset
  · -- The timer is stopped.
    have hstate : (ρ (n + 1)).data.currentState = s := congrArg Mode.state hmode
    have htimer : (ρ (n + 1)).data.armedTimerActive = false := congrArg Mode.timer hmode
    refine iff_of_true ⟨?_, fun ht => ?_⟩ (by simp)
    · rw [htimer, hstate]
      exact iff_of_false (by decide) (modeAction_eq_enter hact)
    · rw [htimer] at ht
      cases ht
  · -- The step moves, with the timer as it is.
    have hstate : (ρ (n + 1)).data.currentState = s := congrArg Mode.state hmode
    have htimer : (ρ (n + 1)).data.armedTimerActive = (ρ n).data.armedTimerActive :=
      congrArg Mode.timer hmode
    constructor
    · rintro h' ⟨s', hs', hne⟩
      cases hs'
      rw [← h.active_iff, ← hstate, ← h'.active_iff, htimer] at hne
      exact hne Iff.rfl
    · intro hn
      have hsame : (ρ n).data.currentState = .armed ↔ s = .armed :=
        not_not.1 fun hne => hn ⟨s, rfl, hne⟩
      refine h.succ ?_ htimer (congrArg Mode.entry hmode) (by rw [hstate, hsame])
      rintro (⟨hw, harmed⟩ | ⟨p, ha, hm, hok⟩)
      · exact hw (hsame.2 (hstate.symm.trans harmed))
      · cases hact.symm.trans (hset p ha hm hok)

variable (cfe L)

/-- Along a run, the timer represents ARMED in all the states exactly if no step breaks
    it. -/
theorem timerInv_iff (hρ : IsRun (initial L) (step cfe L) a ρ) :
    (∀ n, TimerInv cfe L a ρ n) ↔ ∀ n, ¬BreaksTimer cfe L (a n) (ρ n) := by
  refine hρ.invariant_iff ?_ fun n hn h => timerInv_succ_iff hn h
  obtain ⟨hs, ht⟩ : (ρ 0).data.currentState ≠ .armed ∧ (ρ 0).data.armedTimerActive = false := by
    refine ⟨initial_not_armed L hρ.init, ?_⟩
    rw [← World.mode_timer]
    rcases initial_cases L hρ.init with ⟨hm, -⟩ | ⟨hm, -⟩ <;> rw [hm]
  exact ⟨by simp [ht, hs], fun h => by rw [ht] at h; cases h⟩

/-- The timer represents ARMED along a scenario that arms and disarms. -/
theorem timerInv_disarm :
    let line := answer WireMsgid.armPropulsion [0, 4, 0, 0] (by decide) ++
      answer WireMsgid.disarmPropulsion [0, 5, 0, 0] (by decide)
    let a := inputs [⟨seconds 0, .ok (command Cc.armPropulsion)⟩]
      ⟨seconds 1, .ok (command Cc.disarmPropulsion)⟩
    (scenario line a 1).data.armedTimerActive ∧ (scenario line a 2).data.currentState = .standby ∧
      ((∀ n, TimerInv Cfe.standard fifoLink a (scenario line a) n) ↔
        ∀ n, ¬BreaksTimer Cfe.standard fifoLink (a n) (scenario line a n)) := by
  intro line a
  exact ⟨by decide +kernel, by decide +kernel,
    timerInv_iff Cfe.standard fifoLink (isRun_scenario line a)⟩

/-- A CG Thruster Pulse leaves ARMED with the timer running. -/
theorem not_timerInv_pulse :
    ∃ (a : ℕ → Input) (ρ : ℕ → World (Hal.State (List UInt8))),
      IsRun (initial fifoLink) (step Cfe.standard fifoLink) a ρ ∧
        (ρ 2).data.currentState = .standby ∧ (ρ 2).data.armedTimerActive ∧
        ¬TimerInv Cfe.standard fifoLink a ρ 2 := by
  let line := answer WireMsgid.armPropulsion [0, 4, 0, 0] (by decide) ++
    answer WireMsgid.cgResult [30, 1, 0, 0, 1, 0, 0, 0] (by decide)
  let a := inputs [⟨seconds 0, .ok (command Cc.armPropulsion)⟩] ⟨seconds 1, .ok pulseCommand⟩
  have hstandby : (scenario line a 2).data.currentState = .standby := by decide +kernel
  have hactive : (scenario line a 2).data.armedTimerActive := by decide +kernel
  refine ⟨a, scenario line a, isRun_scenario _ _, hstandby, hactive, fun h => ?_⟩
  have harmed := h.active_iff.1 hactive
  rw [hstandby] at harmed
  cases harmed

end Ig4u.App
