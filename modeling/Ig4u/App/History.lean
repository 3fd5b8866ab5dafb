import Ig4u.App.Control
import Ig4u.Lib.Counter

/-!
# What the control remembers

Some data of the application at any time of a run, from the steps before.

* `linkReady_iff`: the link is ready exactly if no Ping has failed since the last one that
  succeeded; otherwise wakeups have no effect at all.
* `foreign_state`: between the steps, another state than STANDBY, ARMED and SAFE has been reported
  by the payload in a reply to a Request Status, and not been left since.
* `loop_iff`: a message is taken up exactly if the initialisation was successful, no end of the
  application has been asked for, and the pipe could be read before. Until its end, the loop of
  `IG4U_Main` makes the steps of a run.
* `counters_eq`: the counters are the numbers of the commands executed and of the errors since the
  last Reset Counter, and of the firings; every firing telecommand handed to the HAL is one of
  these, or its command has failed and left the application in SAFE.
-/

namespace Ig4u

open Lib

namespace Control

variable (cfe : Cfe) (now : SysTime) (m : Control)

/-! ## What a step counts -/

/-- The commands that are executed whether or not their call succeeds. -/
def unfailing (c : GroundCommand) : Bool := c = .noop ∨ c = .cgThrusterAbort

/-- A step resets the counters. -/
def resets : Signal → Bool
  | .command c _ _ => m.run = .appRun ∧ c = .resetCounter
  | _ => false

/-- A step executes a command. -/
def executes : Signal → Bool
  | .command c ok _ => m.run = .appRun ∧ App.Permitted m.state c ∧ (ok ∨ unfailing c)
  | _ => false

/-- A step is an error. -/
def errs : Signal → Bool
  | .command c ok _ => m.run = .appRun ∧ (¬App.Permitted m.state c ∨ ¬ok ∧ ¬unfailing c)
  | .wakeup ok => m.run = .appRun ∧ m.awake ∧ ¬ok
  | .malformed => m.run = .appRun
  | _ => false

/-- A step fires the main thruster, and its call ends with `done`. -/
def firesMain (done : Bool) : Signal → Bool
  | .command (.mainThrusterFire _) ok _ => m.run = .appRun ∧ m.state = .armed ∧ ok = done
  | _ => false

/-- A step fires the cold gas thrusters, and its call ends with `done`. -/
def firesCg (done : Bool) : Signal → Bool
  | .command (.cgThrusterPulse _) ok _ | .command (.cgThrusterBurst _) ok _ =>
    m.run = .appRun ∧ m.state = .armed ∧ ok = done
  | _ => false

/-- A step fires thrusters, and its call fails. -/
def firesFail (x : Signal) : Bool := m.firesMain false x || m.firesCg false x

variable {m}

theorem step_of_stopped (h : m.run ≠ .appRun) (x : Signal) : m.step cfe now x = m := if_pos h

theorem step_command (h : m.run = .appRun) (c : GroundCommand) (ok : Bool) (mode : UInt8) :
    m.step cfe now (.command c ok mode) = m.command now ok mode c := if_neg (not_not.2 h)

variable (m)

theorem setMode_counters (mode : UInt8) :
    (m.setMode now mode).cmd = m.cmd ∧ (m.setMode now mode).err = m.err ∧
      (m.setMode now mode).main = m.main ∧ (m.setMode now mode).cg = m.cg ∧
      (m.setMode now mode).link = m.link ∧ (m.setMode now mode).run = m.run := by
  rw [setMode]
  split_ifs <;> exact ⟨rfl, rfl, rfl, rfl, rfl, rfl⟩

theorem command_cmd (ok : Bool) (mode : UInt8) {c : GroundCommand} (hc : c ≠ .resetCounter) :
    (m.command now ok mode c).cmd =
      if App.Permitted m.state c ∧ (ok ∨ unfailing c) then m.cmd + 1 else m.cmd := by
  cases c with
  | resetCounter => exact absurd rfl hc
  | _ =>
    cases ok <;>
      simp [command, App.Permitted, unfailing, setMode_counters, executed, failed, enter, move, arm]
    all_goals split_ifs <;> rfl

theorem command_err (ok : Bool) (mode : UInt8) {c : GroundCommand} (hc : c ≠ .resetCounter) :
    (m.command now ok mode c).err =
      if ¬App.Permitted m.state c ∨ ¬ok ∧ ¬unfailing c then m.err + 1 else m.err := by
  cases c with
  | resetCounter => exact absurd rfl hc
  | _ =>
    cases ok <;>
      simp [command, App.Permitted, unfailing, setMode_counters, executed, failed, enter, move, arm]
    all_goals split_ifs <;> rfl

theorem command_link (ok : Bool) (mode : UInt8) (c : GroundCommand) :
    (m.command now ok mode c).link = if c = .ping then ok else m.link := by
  cases c <;> cases ok <;>
    simp [command, setMode_counters, executed, failed, enter, move, arm]
  all_goals split_ifs <;> rfl

theorem command_run (ok : Bool) (mode : UInt8) (c : GroundCommand) :
    (m.command now ok mode c).run = m.run := by
  cases c <;> cases ok <;>
    simp [command, setMode_counters, executed, failed, enter, move, arm]
  all_goals split_ifs <;> rfl

theorem wakeup_frame (ok : Bool) :
    (m.wakeup cfe now ok).cmd = m.cmd ∧ (m.wakeup cfe now ok).main = m.main ∧
      (m.wakeup cfe now ok).cg = m.cg ∧ (m.wakeup cfe now ok).link = m.link ∧
      (m.wakeup cfe now ok).run = m.run ∧
      (m.wakeup cfe now ok).err = if m.awake ∧ ¬ok then m.err + 1 else m.err := by
  cases ok <;> simp only [wakeup] <;> split_ifs with h <;>
    simp_all [failed, enter]

/-- A step of the loop that is not about a command only counts errors, and may end the loop. -/
theorem step_frame {x : Signal} (hx : ∀ c ok mode, x ≠ .command c ok mode) :
    (m.step cfe now x).cmd = m.cmd ∧ (m.step cfe now x).main = m.main ∧
      (m.step cfe now x).cg = m.cg ∧ (m.step cfe now x).link = m.link ∧
      (m.step cfe now x).err = if m.errs x then m.err + 1 else m.err := by
  by_cases hr : m.run = .appRun
  · have hstep : m.step cfe now x = _ := if_neg (not_not.2 hr)
    rw [hstep]
    cases x with
    | command c ok mode => exact absurd rfl (hx c ok mode)
    | wakeup ok =>
      obtain ⟨hcmd, hmain, hcg, hlink, -, herr⟩ := wakeup_frame cfe now m ok
      simp only [hcmd, hmain, hcg, hlink, herr, errs, hr, true_and, decide_eq_true_eq]
    | _ => simp [errs, hr, failed]
  · rw [step_of_stopped cfe now hr]
    cases x <;> simp [errs, hr]

/-- The counters of a step are those of the steps that reset, execute, err and fire. -/
theorem step_cmd (x : Signal) : (m.step cfe now x).cmd =
    if m.resets x then 0 else if m.executes x then m.cmd + 1 else m.cmd := by
  cases x with
  | command c ok mode =>
    by_cases hr : m.run = .appRun
    · rw [step_command cfe now hr]
      by_cases hc : c = .resetCounter
      · simp [hc, command, resets, hr]
      · rw [command_cmd now m ok mode hc]
        simp [resets, executes, hr, hc]
    · rw [step_of_stopped cfe now hr]
      simp [resets, executes, hr]
  | _ => exact (step_frame cfe now m (by simp)).1

theorem step_err (x : Signal) : (m.step cfe now x).err =
    if m.resets x then 0 else if m.errs x then m.err + 1 else m.err := by
  cases x with
  | command c ok mode =>
    by_cases hr : m.run = .appRun
    · rw [step_command cfe now hr]
      by_cases hc : c = .resetCounter
      · simp [hc, command, resets, hr]
      · rw [command_err now m ok mode hc]
        simp [resets, errs, hr, hc]
    · rw [step_of_stopped cfe now hr]
      simp [resets, errs, hr]
  | _ => exact (step_frame cfe now m (by simp)).2.2.2.2

theorem step_main (x : Signal) :
    (m.step cfe now x).main = if m.firesMain true x then m.main + 1 else m.main := by
  cases x with
  | command c ok mode =>
    by_cases hr : m.run = .appRun
    · rw [step_command cfe now hr]
      cases c <;> cases ok <;>
        simp [command, firesMain, hr, setMode_counters, executed, failed, enter, move, arm]
      all_goals split_ifs <;> rfl
    · rw [step_of_stopped cfe now hr]
      cases c <;> simp [firesMain, hr]
  | _ => exact (step_frame cfe now m (by simp)).2.1

theorem step_cg (x : Signal) :
    (m.step cfe now x).cg = if m.firesCg true x then m.cg + 1 else m.cg := by
  cases x with
  | command c ok mode =>
    by_cases hr : m.run = .appRun
    · rw [step_command cfe now hr]
      cases c <;> cases ok <;>
        simp [command, firesCg, hr, setMode_counters, executed, failed, enter, move, arm]
      all_goals split_ifs <;> rfl
    · rw [step_of_stopped cfe now hr]
      cases c <;> simp [firesCg, hr]
  | _ => exact (step_frame cfe now m (by simp)).2.2.1

/-- A list of frames, the firing telecommands of which are counted. -/
def fireCount (frames : List Frame) : ℕ :=
  ((frames.map Frame.bytes).filter fun b => App.IsFireTC b).length

theorem fireCount_append (l l' : List Frame) :
    fireCount (l ++ l') = fireCount l + fireCount l' := by
  rw [fireCount, List.map_append, List.filter_append, List.length_append]
  rfl

/-- The firing telecommands sent by a step are those of its firings. -/
theorem fireCount_frames (x : Signal) :
    fireCount (m.frames cfe now x) =
      (if m.firesMain true x then 1 else 0) + (if m.firesCg true x then 1 else 0) +
        if m.firesFail x then 1 else 0 := by
  by_cases hr : m.run = .appRun
  swap
  · have hframes : m.frames cfe now x = [] := if_pos hr
    rw [hframes]
    cases x with
    | command c => cases c <;> simp [firesFail, firesMain, firesCg, hr, fireCount]
    | _ => rfl
  have hframes : m.frames cfe now x = _ := if_neg (not_not.2 hr)
  rw [hframes]
  cases x with
  | command c ok mode =>
    cases c with
    | mainThrusterFire | cgThrusterPulse | cgThrusterBurst =>
      by_cases hs : m.state = .armed
      · cases ok <;> simp [firesFail, firesMain, firesCg, hr, hs, App.Permitted] <;> rfl
      · cases ok <;> simp [firesFail, firesMain, firesCg, hs, App.Permitted] <;> rfl
    | armPropulsion =>
      have h : fireCount (if m.state = .standby then GroundCommand.armPropulsion.frame.toList
          else []) = 0 := by
        split_ifs <;> rfl
      exact h
    | _ => rfl
  | wakeup ok =>
    have h : fireCount (if m.awake then (Call.requestHKData none).telecommand ::
        if m.overdue cfe now then [(Call.setMode modeStandby).telecommand] else [] else []) =
          0 := by
      split_ifs <;> rfl
    exact h
  | _ => rfl

/-! ## States and the loop -/

/-- A state that is none of STANDBY, ARMED and SAFE is only entered if it is reported. -/
theorem command_state {ok : Bool} {mode : UInt8} {c : GroundCommand} {s : State}
    (hs : s ∉ [.standby, .armed, .safe]) (h : (m.command now ok mode c).state = s) :
    m.state = s ∨ c = .requestStatus ∧ ok ∧ .ofByte mode = s := by
  simp only [List.mem_cons, List.not_mem_nil, or_false, not_or] at hs
  obtain ⟨hstandby, harmed, hsafe⟩ := hs
  cases c with
  | setMode p =>
    cases ok
    · exact .inl h
    simp only [command, setMode, if_true] at h
    split_ifs at h
    · exact absurd h.symm hstandby
    · exact absurd h.symm harmed
    · exact absurd h.symm hsafe
    · exact .inl h
  | requestStatus =>
    cases ok
    · exact .inl h
    · exact .inr ⟨rfl, rfl, h⟩
  | _ =>
    left
    simp only [command] at h
    repeat' split_ifs at h
    all_goals first
      | exact h
      | exact absurd h.symm hstandby
      | exact absurd h.symm harmed
      | exact absurd h.symm hsafe

theorem wakeup_state {ok : Bool} {s : State} (hs : s ≠ .standby)
    (h : (m.wakeup cfe now ok).state = s) : m.state = s := by
  simp only [wakeup] at h
  cases ok <;> split_ifs at h <;> first | exact h | exact absurd h.symm hs

theorem step_run {x : Signal} (hx : x ≠ .pipeError) : (m.step cfe now x).run = m.run := by
  by_cases hr : m.run = .appRun
  · have hstep : m.step cfe now x = _ := if_neg (not_not.2 hr)
    rw [hstep]
    cases x with
    | command c ok mode => exact command_run now m ok mode c
    | wakeup ok => exact (wakeup_frame cfe now m ok).2.2.2.2.1
    | pipeError => exact absurd rfl hx
    | _ => rfl
  · rw [step_of_stopped cfe now hr]

end Control

namespace App

variable {σ : Type*} (cfe : Cfe) (L : Link σ)

/-! ## The steps of the application -/

/-- A step pings the payload. -/
def Pings (i : Input) (w : World σ) : Prop := activity cfe i w = some (.command .ping)

instance (i : Input) (w : World σ) : Decidable (Pings cfe i w) :=
  inferInstanceAs (Decidable (_ = _))

/-- Only a Ping decides if the link is ready. -/
theorem linkReady_step (i : Input) (w : World σ) :
    (step cfe L i w).data.linkReady =
      if Pings cfe i w then decide (WireOk L w .ping) else w.data.linkReady := by
  by_cases hp : Pings cfe i w
  · rw [if_pos hp, step_of_activity cfe L hp]
    exact (congrArg Control.link (control_handle L i.now w .ping)).trans
      (Control.command_link i.now w.control _ _ .ping)
  rw [if_neg hp]
  rcases ha : activity cfe i w with - | (c | -)
  · obtain ⟨n, r, hdata⟩ := (step_of_none cfe L ha).data
    rw [hdata]
  · have hc : c ≠ .ping := by
      rintro rfl
      exact hp ha
    rw [step_of_activity cfe L ha]
    have h := congrArg Control.link (control_handle L i.now w c)
    rw [Control.command_link, if_neg hc] at h
    exact h
  · rw [step_of_activity cfe L ha]
    have h := congrArg Control.link (control_wakeupHandler cfe L i.now w)
    rw [(Control.wakeup_frame cfe i.now w.control _).2.2.2.1] at h
    exact h

/-- A state that is none of STANDBY, ARMED and SAFE is entered by synchronising to it. -/
theorem syncs_of_enters {i : Input} {w : World σ} {s : State} (hs : s ∉ [.standby, .armed, .safe])
    (hw : w.data.currentState ≠ s) (h : (step cfe L i w).data.currentState = s) :
    Syncs cfe L i w s := by
  rcases ha : activity cfe i w with - | (c | -)
  · obtain ⟨n, r, hdata⟩ := (step_of_none cfe L ha).data
    rw [hdata] at h
    exact absurd h hw
  · rw [step_of_activity cfe L ha] at h
    have hcontrol := congrArg Control.state (control_handle L i.now w c)
    rcases Control.command_state i.now w.control hs (hcontrol.symm.trans h) with
      hkeep | ⟨rfl, hok, hmode⟩
    · exact absurd hkeep hw
    · exact ⟨ha, of_decide_eq_true hok, State.ofByte_eq_iff.1 hmode⟩
  · rw [step_of_activity cfe L ha] at h
    have hcontrol := congrArg Control.state (control_wakeupHandler cfe L i.now w)
    have hstandby : s ≠ .standby := by
      rintro rfl
      exact hs (by simp)
    exact absurd (Control.wakeup_state cfe i.now w.control hstandby (hcontrol.symm.trans h)) hw

/-- The loop goes on after a step unless the pipe cannot be read. -/
theorem runStatus_step {i : Input} {w : World σ} (hr : w.data.runStatus = .appRun) :
    (step cfe L i w).data.runStatus = .appRun ↔ ∃ m, i.received = .ok m := by
  rcases i with ⟨now, status | m⟩
  · rw [step, if_neg (not_not.2 hr)]
    exact iff_of_false (by simp) (by simp)
  · refine iff_of_true ?_ ⟨m, rfl⟩
    have hsignal : signal cfe L ⟨now, .ok m⟩ w ≠ .pipeError := by
      simp only [signal]
      split_ifs
      · cases accepted cfe m <;> simp
      · simp
      · simp
    have h := congrArg Control.run (control_step cfe L ⟨now, .ok m⟩ w)
    rw [Control.step_run cfe now w.control hsignal] at h
    exact h.trans hr

/-- What the step of a run at the time `k` does. -/
def Does (f : Control → Signal → Bool) (a : ℕ → Input) (ρ : ℕ → World σ) (k : ℕ) : Prop :=
  f (ρ k).control (signal cfe L (a k) (ρ k))

instance (f : Control → Signal → Bool) (a : ℕ → Input) (ρ : ℕ → World σ) :
    DecidablePred (Does cfe L f a ρ) := fun _ => inferInstanceAs (Decidable (_ = true))

/-- The number of the steps of a run that do something, up to a time. -/
def total (f : Control → Signal → Bool) (a : ℕ → Input) (ρ : ℕ → World σ) (n : ℕ) : ℕ :=
  tally (fun _ => False) (Does cfe L f a ρ) n

theorem total_succ (f : Control → Signal → Bool) (a : ℕ → Input) (ρ : ℕ → World σ) (n : ℕ) :
    total cfe L f a ρ (n + 1) =
      total cfe L f a ρ n + if f (ρ n).control (signals cfe L a ρ n).2 then 1 else 0 :=
  tally_succ id

/-- A counter that only goes up is the number of the steps it counts. -/
theorem counter_total {a : ℕ → Input} {ρ : ℕ → World σ} {v : ℕ → UInt16}
    {f : Control → Signal → Bool} (h₀ : v 0 = 0)
    (hs : ∀ n, v (n + 1) = if Does cfe L f a ρ n then v n + 1 else v n) (n : ℕ) :
    v n = .ofNat (total cfe L f a ρ n) :=
  counter_eq (f := UInt16.ofNat) rfl (fun k => UInt16.ofNat_add k 1) h₀ (fun _ h => h.elim)
    (fun n _ h => by rw [hs, if_pos h]) (fun n _ h => by rw [hs, if_neg h]) n

/-- A counter that is reset is the number of the steps it counts since. -/
theorem counter_tally {a : ℕ → Input} {ρ : ℕ → World σ} {v : ℕ → UInt8}
    {f : Control → Signal → Bool} (h₀ : v 0 = 0)
    (hs : ∀ n, v (n + 1) = if Does cfe L Control.resets a ρ n then 0
      else if Does cfe L f a ρ n then v n + 1 else v n) (n : ℕ) :
    v n = .ofNat (tally (Does cfe L Control.resets a ρ) (Does cfe L f a ρ) n) :=
  counter_eq (f := UInt8.ofNat) rfl (fun k => UInt8.ofNat_add k 1) h₀
    (fun n h => by rw [hs, if_pos h]) (fun n hr h => by rw [hs, if_neg hr, if_pos h])
    (fun n hr h => by rw [hs, if_neg hr, if_neg h]) n

theorem fireCount_run (a : ℕ → Input) (ρ : ℕ → World σ) (n : ℕ) :
    Control.fireCount (Control.sent cfe (signals cfe L a ρ) (fun n => (ρ n).control) n) =
      total cfe L (Control.firesMain · true) a ρ n + total cfe L (Control.firesCg · true) a ρ n +
        total cfe L Control.firesFail a ρ n := by
  induction n with
  | zero => rfl
  | succ n ih =>
    rw [Control.sent_succ, Control.fireCount_append, ih, Control.fireCount_frames, total_succ,
      total_succ, total_succ]
    omega

/-! ## The runs -/

section

variable {a : ℕ → Input} {ρ : ℕ → World σ} (hρ : IsRun (initial L) (step cfe L) a ρ)

include hρ

/-- After a successful initialisation, the link is ready exactly if the last Ping, if there was
    one, has succeeded. While it is not, a wakeup does nothing: ARMED is not supervised, and no
    packet is published. -/
theorem linkReady_iff (h₀ : (ρ 0).control = .ready) (n : ℕ) :
    ((ρ n).data.linkReady ↔
      ∀ k, LastBefore (fun k => Pings cfe (a k) (ρ k)) k n → WireOk L (ρ k) .ping) ∧
    (¬(ρ n).data.linkReady → activity cfe (a n) (ρ n) = some .wakeup → ρ (n + 1) = ρ n) := by
  refine ⟨?_, fun hlink ha => ?_⟩
  · have hwrite (k : ℕ) (hk : Pings cfe (a k) (ρ k)) :
        (ρ (k + 1)).data.linkReady = decide (WireOk L (ρ k) .ping) := by
      rw [hρ.step k, linkReady_step, if_pos hk]
    have hkeep (k : ℕ) (hk : ¬Pings cfe (a k) (ρ k)) :
        (ρ (k + 1)).data.linkReady = (ρ k).data.linkReady := by
      rw [hρ.step k, linkReady_step, if_neg hk]
    rcases register_cases (v := fun k => (ρ k).data.linkReady) hwrite hkeep n with
      ⟨hnone, hn⟩ | ⟨k, hk, hn⟩
    · refine iff_of_true ?_ fun k hk => absurd hk.holds (hnone k hk.lt)
      exact hn.trans (congrArg Control.link h₀)
    · rw [hn, decide_eq_true_iff]
      exact ⟨fun h j hj => hj.unique hk ▸ h, fun h => h k hk⟩
  · rw [hρ.step n, step_of_activity cfe L ha]
    exact wakeupHandler_idle cfe L _ fun h => hlink h.2.1

/-- After a successful initialisation, a state that is none of STANDBY, ARMED and SAFE (such as
    FIRING, which the handlers of the firings pass through) has been reported by the payload in
    the reply to a Request Status, and has not been left since. -/
theorem foreign_state (h₀ : (ρ 0).control = .ready) {n : ℕ}
    (hn : (ρ n).data.currentState ∉ [.standby, .armed, .safe]) :
    ∃ k < n, Syncs cfe L (a k) (ρ k) (ρ n).data.currentState ∧
      ∀ j, k < j → j ≤ n → (ρ j).data.currentState = (ρ n).data.currentState := by
  have hstandby : (ρ 0).data.currentState = .standby := congrArg Control.state h₀
  have h₀' : (ρ 0).data.currentState ≠ (ρ n).data.currentState := by
    intro h
    exact hn (by simp [← h, hstandby])
  obtain ⟨k, hk, henter, hsince⟩ := exists_last_entry
    (P := fun m => (ρ m).data.currentState = (ρ n).data.currentState) h₀' rfl
  refine ⟨k, hk, syncs_of_enters cfe L hn henter ?_, hsince⟩
  rw [← hρ.step k]
  exact hsince (k + 1) k.lt_succ_self hk

/-- The counters are cleared by the initialisation, whether or not it is successful. -/
theorem control_zero : (ρ 0).control.cmd = 0 ∧ (ρ 0).control.err = 0 ∧ (ρ 0).control.main = 0 ∧
    (ρ 0).control.cg = 0 := by
  rcases control_initial L hρ.init with h | h <;> rw [h] <;> exact ⟨rfl, rfl, rfl, rfl⟩

/-- The counters are the numbers of the commands executed and of the errors since the last Reset
    Counter, and of the firings that succeeded, as far as they fit; and the firing telecommands
    handed to the HAL are those of the firings that succeeded or failed. -/
theorem counters_eq (n : ℕ) :
    (ρ n).data.cmdCounter =
      .ofNat (tally (Does cfe L Control.resets a ρ) (Does cfe L Control.executes a ρ) n) ∧
    (ρ n).data.errCounter =
      .ofNat (tally (Does cfe L Control.resets a ρ) (Does cfe L Control.errs a ρ) n) ∧
    (ρ n).data.mainFireCount = .ofNat (total cfe L (Control.firesMain · true) a ρ n) ∧
    (ρ n).data.cgFireCount = .ofNat (total cfe L (Control.firesCg · true) a ρ n) ∧
    (((ρ n).line.sent.drop (ρ 0).line.sent.length).filter fun b => IsFireTC b).length =
      total cfe L (Control.firesMain · true) a ρ n + total cfe L (Control.firesCg · true) a ρ n +
        total cfe L Control.firesFail a ρ n := by
  obtain ⟨hcmd, herr, hmain, hcg⟩ := control_zero cfe L hρ
  have hstep := control_succ cfe L hρ
  refine ⟨counter_tally cfe L (v := fun n => (ρ n).control.cmd) hcmd (fun n => ?_) n,
    counter_tally cfe L (v := fun n => (ρ n).control.err) herr (fun n => ?_) n,
    counter_total cfe L (v := fun n => (ρ n).control.main) hmain (fun n => ?_) n,
    counter_total cfe L (v := fun n => (ρ n).control.cg) hcg (fun n => ?_) n, ?_⟩
  · exact (congrArg Control.cmd (hstep n)).trans (Control.step_cmd cfe _ _ _)
  · exact (congrArg Control.err (hstep n)).trans (Control.step_err cfe _ _ _)
  · exact (congrArg Control.main (hstep n)).trans (Control.step_main cfe _ _ _)
  · exact (congrArg Control.cg (hstep n)).trans (Control.step_cg cfe _ _ _)
  · rw [sent_run cfe L hρ n, List.drop_left, ← fireCount_run]
    rfl

end

/-! ## The loop of the application -/

/-- `CFE_ES_RunLoop`: whether the loop goes on. The executive services end it if the application
    says so, or if an exit or a restart of it has been asked for (`exit`). What they may store in
    the run status then is only passed on to `CFE_ES_ExitApp`, and not modelled. -/
def runLoop (exit : Bool) (w : World σ) : Bool := !exit && w.data.runStatus = .appRun

/-- An iteration of the loop of `IG4U_Main`, as long as it goes on: the first component is set as
    long as it has not ended. -/
def iterate (x : Bool × Input) (s : Bool × World σ) : Bool × World σ :=
  if s.1 && runLoop x.1 s.2 then (true, step cfe L x.2 s.2) else (false, s.2)

/-- The message of the iteration is taken from the pipe. -/
def Takes (x : Bool × Input) (s : Bool × World σ) : Prop := s.1 ∧ runLoop x.1 s.2

variable {L}

theorem runLoop_iff {exit : Bool} {w : World σ} :
    runLoop exit w ↔ exit = false ∧ w.data.runStatus = .appRun := by
  simp [runLoop]

/-- An iteration that takes its message is a step. -/
theorem iterate_of_takes {x : Bool × Input} {s : Bool × World σ} (h : Takes x s) :
    iterate cfe L x s = (true, step cfe L x.2 s.2) :=
  if_pos (Bool.and_eq_true_iff.2 h)

/-- Any other iteration ends the loop, and does nothing. -/
theorem iterate_of_not_takes {x : Bool × Input} {s : Bool × World σ} (h : ¬Takes x s) :
    iterate cfe L x s = (false, s.2) :=
  if_neg (mt Bool.and_eq_true_iff.1 h)

theorem iterate_fst {x : Bool × Input} {s : Bool × World σ} :
    (iterate cfe L x s).1 ↔ Takes x s := by
  by_cases h : Takes x s
  · rw [iterate_of_takes cfe h]
    exact iff_of_true rfl h
  · rw [iterate_of_not_takes cfe h]
    exact iff_of_false Bool.false_ne_true h

/-- The loop is entered exactly if the initialisation is successful. -/
theorem start_runStatus (e : InitEnv) (w : World σ) :
    (start L e w).data.runStatus = .appRun ↔ (init L e w).1 = .success := by
  by_cases hsuccess : (init L e w).1 = .success
  · refine iff_of_true ?_ hsuccess
    rw [start, if_neg (not_not.2 hsuccess), init]
    simp only
    split_ifs <;> rfl
  · refine iff_of_false ?_ hsuccess
    rw [start, if_pos hsuccess]
    exact show RunStatus.appError ≠ .appRun by decide

section

variable {e : InitEnv} {w₀ : World σ} {x : ℕ → Bool × Input} {ρ : ℕ → Bool × World σ}
  (hρ : IsRun {(true, start L e w₀)} (iterate cfe L) x ρ)

include hρ

/-- At any time, the application is where a run on the same messages has come, at that time as long
    as the loop goes on. -/
theorem loop_along (n : ℕ) :
    (∃ m ≤ n, (ρ n).2 = along (step cfe L) (fun k => (x k).2) (start L e w₀) m) ∧
      ((ρ n).1 → (ρ n).2 = along (step cfe L) (fun k => (x k).2) (start L e w₀) n) := by
  induction n with
  | zero =>
    rw [Set.mem_singleton_iff.1 hρ.init]
    exact ⟨⟨0, le_rfl, rfl⟩, fun _ => rfl⟩
  | succ n ih =>
    obtain ⟨⟨m, hm, hbefore⟩, hgoes⟩ := ih
    rw [hρ.step n]
    by_cases htakes : Takes (x n) (ρ n)
    · have hstep : (iterate cfe L (x n) (ρ n)).2 =
          along (step cfe L) (fun k => (x k).2) (start L e w₀) (n + 1) := by
        rw [iterate_of_takes cfe htakes, along, hgoes htakes.1]
      exact ⟨⟨n + 1, le_rfl, hstep⟩, fun _ => hstep⟩
    · rw [iterate_of_not_takes cfe htakes]
      exact ⟨⟨m, Nat.le_succ_of_le hm, hbefore⟩, fun h => absurd h Bool.false_ne_true⟩

/-- `IG4U_Main` takes a message from its pipe exactly if the initialisation was successful, no exit
    or restart has been asked for up to then, and the pipe could be read at all times before. At any
    time, the application is where a run on the same messages has come, at that time as long as the
    loop goes on. -/
theorem loop_iff (n : ℕ) :
    (Takes (x n) (ρ n) ↔ (init L e w₀).1 = .success ∧ (∀ k ≤ n, (x k).1 = false) ∧
      ∀ k < n, ∃ m, (x k).2.received = .ok m) ∧
    (∃ m ≤ n, (ρ n).2 = along (step cfe L) (fun k => (x k).2) (start L e w₀) m) ∧
    ((ρ n).1 → (ρ n).2 = along (step cfe L) (fun k => (x k).2) (start L e w₀) n) := by
  refine ⟨?_, loop_along cfe hρ n⟩
  induction n with
  | zero =>
    rw [Takes, Set.mem_singleton_iff.1 hρ.init, runLoop_iff, start_runStatus]
    simp only [true_and, Nat.le_zero_eq, forall_eq, Nat.not_lt_zero, false_implies, implies_true,
      and_true]
    exact and_comm
  | succ n ih =>
    rw [Takes, hρ.step n, iterate_fst]
    by_cases htakes : Takes (x n) (ρ n)
    · obtain ⟨hsuccess, hexit, hread⟩ := ih.1 htakes
      have hrun : (ρ n).2.data.runStatus = .appRun := (runLoop_iff.1 htakes.2).2
      rw [iterate_of_takes cfe htakes, runLoop_iff, runStatus_step cfe L hrun]
      constructor
      · rintro ⟨-, hnext, hm⟩
        refine ⟨hsuccess, fun k hk => ?_, fun k hk => ?_⟩
        · rcases Nat.le_succ_iff.1 hk with hle | rfl
          · exact hexit k hle
          · exact hnext
        · rcases Nat.lt_succ_iff_lt_or_eq.1 hk with hlt | rfl
          · exact hread k hlt
          · exact hm
      · exact fun h => ⟨htakes, h.2.1 (n + 1) le_rfl, h.2.2 n n.lt_succ_self⟩
    · -- The loop has ended before, or ends with this iteration.
      refine iff_of_false (fun h => htakes h.1) fun h => htakes (ih.2 ⟨h.1, fun k hk => ?_,
        fun k hk => h.2.2 k (Nat.lt_succ_of_lt hk)⟩)
      exact h.2.1 k (Nat.le_succ_of_le hk)

end

/-! ## Scenarios -/

/-- A Ping that is not answered, and a wakeup that does nothing. -/
theorem linkReady_iff_ping :
    let a := inputs [⟨seconds 0, .ok (command Cc.ping)⟩] ⟨seconds 1, .ok wakeupMsg⟩
    ¬(scenario [] a 1).data.linkReady ∧ scenario [] a 2 = scenario [] a 1 := by
  intro a
  obtain ⟨hiff, hnothing⟩ := linkReady_iff Cfe.standard fifoLink (isRun_scenario [] a)
    (by decide +kernel) 1
  have hping : LastBefore (fun k => Pings Cfe.standard (a k) (scenario [] a k)) 0 1 :=
    .self (P := fun k => Pings Cfe.standard (a k) (scenario [] a k)) (by decide +kernel)
  have hlink : ¬(scenario [] a 1).data.linkReady := fun h =>
    absurd (hiff.1 h 0 hping) (by decide +kernel)
  exact ⟨hlink, hnothing hlink (by decide +kernel)⟩

/-- The payload reports FIRING. -/
theorem foreign_state_firing :
    let line := answer WireMsgid.replyStatus [State.firing.toByte, 0, 0, 0, 0] (by decide)
    let a := inputs [] ⟨seconds 0, .ok (command Cc.requestStatus)⟩
    (scenario line a 1).data.currentState = .firing ∧
      Syncs Cfe.standard fifoLink (a 0) (scenario line a 0) .firing := by
  intro line a
  have hfiring : (scenario line a 1).data.currentState = .firing := by decide +kernel
  obtain ⟨k, hk, hsync, -⟩ := foreign_state Cfe.standard fifoLink (isRun_scenario line a)
    (by decide +kernel) (n := 1) (by rw [hfiring]; decide)
  obtain rfl : k = 0 := Nat.lt_one_iff.1 hk
  exact ⟨hfiring, hfiring ▸ hsync⟩

/-- The loop ends with an error of the pipe, and no message is taken up any more. -/
theorem loop_iff_error :
    let a := inputs [⟨seconds 0, .error (.other (-1))⟩] ⟨seconds 1, .ok wakeupMsg⟩
    let x : ℕ → Bool × Input := fun n => (false, a n)
    let ρ := along (iterate Cfe.standard fifoLink) x (true, poweredOn [])
    Takes (x 0) (ρ 0) ∧ ∀ n > 0, ¬Takes (x n) (ρ n) := by
  intro a x ρ
  have hρ : IsRun {(true, poweredOn [])} (iterate Cfe.standard fifoLink) x ρ :=
    .of_along (Set.mem_singleton _) x
  have hsuccess : (init fifoLink ⟨.success, .success, .success, .success⟩
      ⟨default, ⟨List.replicate packetMaxTotal 0, [], ⟨false, [], []⟩⟩, [], []⟩).1 =
        .success := by decide +kernel
  refine ⟨(loop_iff Cfe.standard hρ 0).1.2 ⟨hsuccess, fun _ _ => rfl,
    fun k hk => absurd hk k.not_lt_zero⟩, fun n hn htakes => ?_⟩
  obtain ⟨m, hm⟩ := ((loop_iff Cfe.standard hρ n).1.1 htakes).2.2 0 hn
  cases hm

/-- An Arm Propulsion that is acknowledged, and a pulse that is not answered. -/
theorem counters_eq_pulse :
    let line := answer WireMsgid.armPropulsion [0, 4, 0, 0] (by decide)
    let a := inputs [⟨seconds 0, .ok (command Cc.armPropulsion)⟩] ⟨seconds 1, .ok pulseCommand⟩
    (scenario line a 2).data.cmdCounter = 1 ∧ (scenario line a 2).data.errCounter = 1 ∧
      (scenario line a 2).data.cgFireCount = 0 := by
  intro line a
  obtain ⟨hcmd, herr, -, hcg, -⟩ := counters_eq Cfe.standard fifoLink (isRun_scenario line a) 2
  rw [hcmd, herr, hcg]
  exact ⟨by decide +kernel, by decide +kernel, by decide +kernel⟩

end App

end Ig4u
