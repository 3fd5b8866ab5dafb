import Ig4u.App.Mode
import Ig4u.App.Scenario

/-!
# The return from ARMED

A wakeup that finds ARMED to have lasted for the timeout is meant to return to
STANDBY. The supervision is skipped if the link is not ready, it needs the timer,
which a synchronisation to ARMED does not start, and it counts from the last
Set Mode(ARMED) that succeeded.

* `autoReturn_iff`: these are the only ways for an overdue ARMED to stay.

The proof follows the timer through the steps since ARMED was entered
(`timer_since_entry`).
-/

namespace Ig4u.App

open Lib

variable {σ : Type*} {cfe : Cfe} {L : Link σ}

/-! ## Times -/

/-- The timeout of ARMED in units of `2⁻³²` seconds. -/
def armedTimeoutTicks : ℕ := armedTimeoutSec * 2 ^ 32

/-- Comparing the whole seconds `s` between two times with a number of seconds. -/
theorem le_seconds_iff {s f entry now c : ℕ} (hf : f < 2 ^ 32) (h : entry ≤ now)
    (hs : s * 2 ^ 32 + f = now - entry) : c ≤ s ↔ entry + c * 2 ^ 32 ≤ now := by
  omega

/-- The comparison of the elapsed seconds with the timeout, for an earlier entry. -/
theorem timeout_iff {now entry : SysTime} (h : entry.ticks ≤ now.ticks) :
    armedTimeoutSec ≤ (cfe.timeSubtract now entry).seconds.toNat ↔
      entry.ticks + armedTimeoutTicks ≤ now.ticks :=
  le_seconds_iff (cfe.timeSubtract now entry).subseconds.toNat_lt h
    (cfe.ticks_timeSubtract now entry h)

/-! ## The power flag -/

/-- The ground commands write neither the power flag, nor the run status, nor the remaining time
    of ARMED in the housekeeping packet. -/
theorem handle_static (now : SysTime) (w : World σ) (c : GroundCommand) :
    (handle L now w c).2.data.powerApplied = w.data.powerApplied ∧
      (handle L now w c).2.data.runStatus = w.data.runStatus ∧
      (handle L now w c).2.data.hkTlm.armTimeoutRemain = w.data.hkTlm.armTimeoutRemain := by
  cases c <;>
    simp only [handle, noopCmd, resetCounterCmd, pingCmd, resetModuleCmd, setModeCmd,
      armPropulsionCmd, disarmPropulsionCmd, requestHKDataCmd, requestStatusCmd,
      mainThrusterFireCmd, mainThrusterAbortCmd, cgThrusterPulseCmd, cgThrusterBurstCmd,
      cgFireCmd, cgThrusterAbortCmd, requestFaultLogCmd, clearFaultCmd]
  all_goals
    repeat' split_ifs
    all_goals exact ⟨rfl, rfl, rfl⟩

/-- The handlers write neither the power flag nor the run status. -/
theorem act_static (now : SysTime) (w : World σ) (x : Activity) :
    (act cfe L now w x).data.powerApplied = w.data.powerApplied ∧
      (act cfe L now w x).data.runStatus = w.data.runStatus := by
  cases x with
  | command c =>
    obtain ⟨hpower, hrun, -⟩ := handle_static now w c
    exact ⟨hpower, hrun⟩
  | wakeup =>
    obtain ⟨hk, tlm, n, hdata⟩ := pollHK_data L w
    simp only [act, wakeupHandler, checkArmedTimeout]
    split_ifs
    all_goals simp [hdata]

/-- The payload is powered as long as the loop runs. -/
theorem powerApplied_of_running {a : ℕ → Input} {ρ : ℕ → World σ}
    (hρ : IsRun (initial L) (step cfe L) a ρ) (n : ℕ) :
    (ρ n).data.runStatus = .appRun → (ρ n).data.powerApplied := by
  refine hρ.invariant (P := fun n => (ρ n).data.runStatus = .appRun → (ρ n).data.powerApplied)
    ?_ (fun n hn ih => ?_) n
  · rcases initial_cases L hρ.init with ⟨-, hr⟩ | ⟨-, -, hp⟩
    · rw [hr]
      nofun
    · exact fun _ => hp
  · rw [hn]
    rcases ha : activity cfe (a n) (ρ n) with - | x
    · intro hr
      by_cases hrun : (ρ n).data.runStatus = .appRun
      · obtain ⟨_, _, hd⟩ := (step_of_none cfe L ha).data
        rw [hd]
        exact ih hrun
      · rw [step, if_pos hrun] at hr
        exact absurd hr hrun
    · rw [step_of_activity cfe L ha, (act_static _ _ _).1, (act_static _ _ _).2]
      exact ih

/-! ## Since the entry into ARMED -/

section

variable (cfe L) (a : ℕ → Input) (ρ : ℕ → World σ)

/-- The step `k` was the last to enter ARMED, which has been the state from then to the time
    `n`. -/
structure LastEntry (k n : ℕ) : Prop where
  lt : k < n
  before : (ρ k).data.currentState ≠ .armed
  armed : ∀ j, k < j → j ≤ n → (ρ j).data.currentState = .armed

/-- The step `j` is a Set Mode(ARMED) that succeeds. -/
def SetsArmedAt (j : ℕ) : Prop :=
  ∃ p, activity cfe (a j) (ρ j) = some (.command (.setMode p)) ∧ p.mode = modeArmed ∧
    WireOk L (ρ j) (.setMode p)

/-- No step after `k` and before `n` is a Set Mode(ARMED) that succeeds. -/
def NotSetSince (k n : ℕ) : Prop := ∀ j, k < j → j < n → ¬SetsArmedAt cfe L a ρ j

end

variable {a : ℕ → Input} {ρ : ℕ → World σ} {k n : ℕ}

/-- In ARMED, another step than a Set Mode(ARMED) that succeeds leaves the timer as it is, if it
    stays in ARMED. -/
theorem mode_step_armed (hρ : IsRun (initial L) (step cfe L) a ρ)
    (hn : (ρ n).data.currentState = .armed) (hn' : (ρ (n + 1)).data.currentState = .armed)
    (hset : ¬SetsArmedAt cfe L a ρ n) : (ρ (n + 1)).mode = (ρ n).mode := by
  rw [hρ.step n] at hn' ⊢
  rcases armed_step_cases hn' with (⟨-, hs, -⟩ | harm) | hsync | hkeep
  · rw [hn] at hs
    cases hs
  · exact absurd harm hset
  · rw [mode_step_of_syncs hsync, World.mode, hn]
  · exact hkeep

/-- Since the entry into ARMED, the timer was last started by a Set Mode(ARMED) at some
    step `j`, or it is as the entry left it. -/
theorem timer_since_entry (hρ : IsRun (initial L) (step cfe L) a ρ) (h : LastEntry ρ k n) :
    (∃ j, k < j ∧ j < n ∧ SetsArmedAt cfe L a ρ j ∧ NotSetSince cfe L a ρ j n ∧
      (ρ n).mode = ⟨.armed, true, (a j).now⟩) ∨
    NotSetSince cfe L a ρ k n ∧ (ρ n).mode = (ρ (k + 1)).mode := by
  obtain ⟨n, rfl⟩ : ∃ m, n = k + 1 + m := ⟨n - (k + 1), by have := h.lt; omega⟩
  -- The induction is on the steps since the entry.
  induction n with
  | zero => exact .inr ⟨fun j hkj hj => absurd hj (by omega), rfl⟩
  | succ m ih =>
    have hm : LastEntry ρ k (k + 1 + m) :=
      ⟨by omega, h.before, fun j hkj hj => h.armed j hkj (by omega)⟩
    by_cases hset : SetsArmedAt cfe L a ρ (k + 1 + m)
    · refine .inl ⟨k + 1 + m, by omega, by omega, hset, fun j hj hj' => absurd hj' (by omega), ?_⟩
      rw [← Nat.add_assoc, hρ.step, mode_step_of_arms (.inr hset)]
    · have hkeep := mode_step_armed hρ (h.armed (k + 1 + m) (by omega) (by omega))
        (h.armed (k + 1 + m + 1) (by omega) (by omega)) hset
      have hextend : ∀ i, NotSetSince cfe L a ρ i (k + 1 + m) →
          NotSetSince cfe L a ρ i (k + 1 + (m + 1)) := fun i hi j hij hj => by
        rcases Nat.lt_succ_iff_lt_or_eq.1 (show j < k + 1 + m + 1 by omega) with hlt | rfl
        · exact hi j hij hlt
        · exact hset
      rw [← Nat.add_assoc, hkeep]
      rcases ih hm with ⟨j, hkj, hj, hsetj, hlast, hmode⟩ | ⟨hnone, hmode⟩
      · exact .inl ⟨j, hkj, by omega, hsetj, hextend j hlast, hmode⟩
      · exact .inr ⟨hextend k hnone, hmode⟩

/-- An active timer was started at the time of an earlier step. -/
theorem entry_eq_now (hρ : IsRun (initial L) (step cfe L) a ρ) (n : ℕ) :
    (ρ n).data.armedTimerActive → ∃ j < n, (ρ n).data.armedEntryTime = (a j).now := by
  refine hρ.invariant (P := fun n => (ρ n).data.armedTimerActive →
    ∃ j < n, (ρ n).data.armedEntryTime = (a j).now) ?_ (fun n hn ih => ?_) n
  · have htimer : (ρ 0).mode.timer = false := by
      rcases initial_cases L hρ.init with ⟨hm, -⟩ | ⟨hm, -⟩ <;> rw [hm]
    intro h
    rw [World.mode_timer, h] at htimer
    cases htimer
  · have hmode : (ρ (n + 1)).mode = (modeAction cfe L (a n) (ρ n)).apply (a n).now (ρ n).mode := by
      rw [hn, mode_step]
    rw [← World.mode_timer, ← World.mode_entry, hmode]
    have hold : (ρ n).data.armedTimerActive →
        ∃ j < n + 1, (ρ n).data.armedEntryTime = (a j).now := fun h => by
      obtain ⟨j, hj, he⟩ := ih h
      exact ⟨j, by omega, he⟩
    rcases modeAction cfe L (a n) (ρ n) with - | - | s | s
    · exact hold
    · exact fun _ => ⟨n, n.lt_succ_self, rfl⟩
    · nofun
    · exact hold

/-! ## The return -/

section

variable (cfe L) (a : ℕ → Input) (ρ : ℕ → World σ)

/-- The wakeup handled at the time `n` finds ARMED, last entered at the step `k`, to have
    lasted for the timeout. -/
structure Overdue (k n : ℕ) : Prop where
  entry : LastEntry ρ k n
  wakeup : activity cfe (a n) (ρ n) = some .wakeup
  late : (a k).now.ticks + armedTimeoutTicks ≤ (a n).now.ticks

/-- Wakeups do not leave an overdue ARMED as the state. -/
def AutoReturn : Prop := ∀ k n, Overdue cfe a ρ k n → (ρ (n + 1)).data.currentState ≠ .armed

/-- The wakeup at the time `n` supervises ARMED, entered at the step `k`: the link is ready;
    the timer runs, if ARMED was entered by a synchronisation; and a later Set Mode(ARMED) that
    succeeded has lasted for the timeout, too. -/
structure Supervised (k n : ℕ) : Prop where
  ready : (ρ n).data.linkReady
  started : Syncs cfe L (a k) (ρ k) .armed → (ρ k).data.armedTimerActive = false →
    ¬NotSetSince cfe L a ρ k n
  old : ∀ j, k < j → j < n → SetsArmedAt cfe L a ρ j →
    (a j).now.ticks + armedTimeoutTicks ≤ (a n).now.ticks

end

/-- A wakeup leaves an overdue ARMED exactly if the link is ready and the timer runs
    since a time that is over. -/
theorem overdue_leaves_iff (hρ : IsRun (initial L) (step cfe L) a ρ)
    (h : Overdue cfe a ρ k n) :
    (ρ (n + 1)).data.currentState ≠ .armed ↔
      (ρ n).data.linkReady ∧ (ρ n).data.armedTimerActive ∧
        armedTimeoutSec ≤
          (cfe.timeSubtract (a n).now (ρ n).data.armedEntryTime).seconds.toNat := by
  have harmed : (ρ n).data.currentState = .armed := h.entry.armed n h.entry.lt le_rfl
  have hrun : (ρ n).data.runStatus = .appRun := by
    by_contra hr
    have hw := h.wakeup
    rw [activity, if_pos hr] at hw
    cases hw
  have hout : TimesOut cfe (a n).now (ρ n) ↔ (ρ n).data.linkReady ∧
      (ρ n).data.armedTimerActive ∧
        armedTimeoutSec ≤
          (cfe.timeSubtract (a n).now (ρ n).data.armedEntryTime).seconds.toNat := by
    simp only [TimesOut, powerApplied_of_running hρ n hrun, harmed, true_and]
  rw [← hout, ← World.mode_state, hρ.step n, mode_step_wakeup h.wakeup]
  split_ifs with ht
  · exact iff_of_true (by simp) ht
  · exact iff_of_false (not_not.2 harmed) ht

/-- An overdue ARMED is left exactly by the wakeups that supervise it. -/
theorem overdue_leaves_iff_supervised (hρ : IsRun (initial L) (step cfe L) a ρ)
    (hclock : Monotone fun n => (a n).now.ticks) (h : Overdue cfe a ρ k n) :
    (ρ (n + 1)).data.currentState ≠ .armed ↔ Supervised cfe L a ρ k n := by
  rw [overdue_leaves_iff hρ h]
  rcases timer_since_entry hρ h.entry with ⟨j, hkj, hj, hset, hlast, hmode⟩ | ⟨hnone, hmode⟩
  · -- The timer was started again, at the step `j`.
    have htimer : (ρ n).data.armedTimerActive := congrArg Mode.timer hmode
    have hentry : (ρ n).data.armedEntryTime = (a j).now := congrArg Mode.entry hmode
    rw [hentry, timeout_iff (hclock hj.le)]
    constructor
    · rintro ⟨hready, -, hold⟩
      refine ⟨hready, fun _ _ hno => hno j hkj hj hset, fun i hki hi hseti => ?_⟩
      have hij : i ≤ j := not_lt.1 fun hlt => hlast i hlt hi hseti
      have := hclock hij
      simp only at this
      omega
    · exact fun hsup => ⟨hsup.ready, htimer, hsup.old j hkj hj hset⟩
  · have hold : ∀ j, k < j → j < n → SetsArmedAt cfe L a ρ j →
        (a j).now.ticks + armedTimeoutTicks ≤ (a n).now.ticks :=
      fun j hkj hj hset => absurd hset (hnone j hkj hj)
    have hafter := h.entry.armed (k + 1) k.lt_succ_self h.entry.lt
    have hstep := hρ.step k
    rw [hstep] at hafter hmode
    rcases armed_step_cases hafter with harm | hsync | hkeep
    · -- ARMED was entered with the timer started.
      rw [mode_step_of_arms harm] at hmode
      have htimer : (ρ n).data.armedTimerActive := congrArg Mode.timer hmode
      have hentry : (ρ n).data.armedEntryTime = (a k).now := congrArg Mode.entry hmode
      rw [hentry, timeout_iff (hclock h.entry.lt.le)]
      refine ⟨fun hl => ⟨hl.1, fun hsync => ?_, hold⟩, fun hsup => ⟨hsup.ready, htimer, h.late⟩⟩
      rcases harm with ⟨ha, -⟩ | ⟨p, ha, -⟩ <;> cases ha.symm.trans hsync.1
    · -- ARMED was entered by a synchronisation, with the timer as it was.
      rw [mode_step_of_syncs hsync] at hmode
      have htimer : (ρ n).data.armedTimerActive = (ρ k).data.armedTimerActive :=
        congrArg Mode.timer hmode
      have hentry : (ρ n).data.armedEntryTime = (ρ k).data.armedEntryTime :=
        congrArg Mode.entry hmode
      rw [htimer, hentry]
      constructor
      · rintro ⟨hready, hactive, -⟩
        exact ⟨hready, fun _ hoff => absurd (hoff.symm.trans hactive) (by decide), hold⟩
      · intro hsup
        have hactive : (ρ k).data.armedTimerActive := by
          by_contra hoff
          exact hsup.started hsync (Bool.eq_false_of_not_eq_true hoff) hnone
        obtain ⟨j, hj, he⟩ := entry_eq_now hρ k hactive
        have hjk := hclock hj.le
        have hlate := h.late
        simp only at hjk
        refine ⟨hsup.ready, hactive, ?_⟩
        rw [he, timeout_iff (hclock (hj.trans h.entry.lt).le)]
        omega
    · rw [← World.mode_state, hkeep] at hafter
      exact absurd hafter h.entry.before

/-- Along a run with a clock that does not go back, the automatic return works exactly if all
    the wakeups that find ARMED overdue supervise it. -/
theorem autoReturn_iff (hρ : IsRun (initial L) (step cfe L) a ρ)
    (hclock : Monotone fun n => (a n).now.ticks) :
    AutoReturn cfe a ρ ↔ ∀ k n, Overdue cfe a ρ k n → Supervised cfe L a ρ k n :=
  forall₂_congr fun _ _ => forall_congr' fun h => overdue_leaves_iff_supervised hρ hclock h

/-- The application returns from ARMED in a scenario with a wakeup after `100` seconds. -/
theorem autoReturn_wakeup :
    let line := answer WireMsgid.armPropulsion [0, 4, 0, 0] (by decide)
    let a := inputs [⟨seconds 0, .ok (command Cc.armPropulsion)⟩] ⟨seconds 100, .ok wakeupMsg⟩
    (scenario line a 1).data.currentState = .armed ∧
      (scenario line a 2).data.currentState = .standby ∧
      (AutoReturn Cfe.standard a (scenario line a) ↔
        ∀ k n, Overdue Cfe.standard a (scenario line a) k n →
          Supervised Cfe.standard fifoLink a (scenario line a) k n) := by
  intro line a
  exact ⟨by decide +kernel, by decide +kernel,
    autoReturn_iff (isRun_scenario line a) (monotone_inputs (by decide))⟩

/-- After a Ping without an answer, a wakeup leaves the state in ARMED after `100` seconds. -/
theorem not_autoReturn_ping :
    ∃ (a : ℕ → Input) (ρ : ℕ → World (Hal.State (List UInt8))),
      IsRun (initial fifoLink) (step Cfe.standard fifoLink) a ρ ∧
        (Monotone fun n => (a n).now.ticks) ∧ ¬AutoReturn Cfe.standard a ρ := by
  let line := answer WireMsgid.armPropulsion [0, 4, 0, 0] (by decide)
  let a := inputs [⟨seconds 0, .ok (command Cc.armPropulsion)⟩, ⟨seconds 1, .ok (command Cc.ping)⟩]
    ⟨seconds 100, .ok wakeupMsg⟩
  have h₁ : (scenario line a 1).data.currentState = .armed := by decide +kernel
  have h₂ : (scenario line a 2).data.currentState = .armed := by decide +kernel
  have h₃ : (scenario line a (2 + 1)).data.currentState = .armed := by decide +kernel
  have hentry : LastEntry (scenario line a) 0 2 := by
    refine ⟨by decide, by decide +kernel, fun j hj hj' => ?_⟩
    obtain rfl | rfl : j = 1 ∨ j = 2 := by omega
    · exact h₁
    · exact h₂
  have hoverdue : Overdue Cfe.standard a (scenario line a) 0 2 :=
    ⟨hentry, by decide +kernel, by decide +kernel⟩
  exact ⟨a, scenario line a, isRun_scenario _ _, monotone_inputs (by decide),
    fun h => h 0 2 hoverdue h₃⟩

end Ig4u.App
