import Ig4u.App.Dispatch
import Ig4u.Commands.Simulation
import Ig4u.Lib.Run

/-!
# The application over bisimilar links

Over bisimilar links, the application does the same: it has the same data, publishes the same
telemetry, sends the same events and hands over the same frames (`World.Related`).

* `handle_related`, `wakeupHandler_related`, `step_related`: the handlers and the steps.
* `runs_related`: so do two runs on the same inputs, at all times.
-/

namespace Ig4u

variable {σ τ : Type*}

/-- Two worlds with related links that are otherwise equal. -/
structure World.Related (R : σ → τ → Prop) (w : World σ) (v : World τ) : Prop where
  data : w.data = v.data
  line : w.line.Related R v.line
  tlm : w.tlm = v.tlm
  evs : w.evs = v.evs

namespace World.Related

variable {R : σ → τ → Prop} {w : World σ} {v : World τ} (h : w.Related R v)

include h

/-- The same change of the data. -/
theorem update (f : Data → Data) : (w.update f).Related R (v.update f) :=
  ⟨congrArg f h.data, h.line, h.tlm, h.evs⟩

/-- The same event. -/
theorem sendEvent (eid : ℕ) (type : EventType) (format : String) (args : List ℤ) :
    (w.sendEvent eid type format args).Related R (v.sendEvent eid type format args) :=
  ⟨h.data, h.line, h.tlm, congrArg (· ++ [_]) h.evs⟩

end World.Related

namespace App

open Lib Proto Cmd

/-- The statuses if all the calls succeed. -/
def InitEnv.ok : InitEnv := ⟨.success, .success, .success, .success⟩

variable {L₁ : Link σ} {L₂ : Link τ} {R : σ → τ → Prop}

/-! ## The handlers -/

/-- The two firings of the cold gas thrusters, whose handlers differ only in the call and in the
    texts. -/
theorem cgFireCmd_related {d : Data} {l₁ : Line σ} {l₂ : Line τ} {tlm : List Tlm} {evs : List Event}
    {fire₁ : Option CGThrusterResultPayload → Line σ →
      ℤ × Option CGThrusterResultPayload × Line σ}
    {fire₂ : Option CGThrusterResultPayload → Line τ →
      ℤ × Option CGThrusterResultPayload × Line τ}
    (hfire : AgreeOut R (fire₁ (some default) l₁) (fire₂ (some default) l₂))
    (hline : l₁.Related R l₂) {rejected start done failed : String} {startArgs : List ℤ}
    {doneArgs : CGThrusterResultPayload → List ℤ} :
    (cgFireCmd fire₁ rejected start startArgs done doneArgs failed ⟨d, l₁, tlm, evs⟩).2.Related R
      (cgFireCmd fire₂ rejected start startArgs done doneArgs failed ⟨d, l₂, tlm, evs⟩).2 := by
  obtain ⟨hcode, hout, hline'⟩ := hfire
  by_cases harmed : isArmed d
  swap
  · -- Outside of ARMED, the line is not used.
    simp only [cgFireCmd, if_pos harmed]
    exact ⟨rfl, hline, rfl, rfl⟩
  by_cases hok : (fire₂ (some default) l₂).1 = cmdOk <;>
    simp only [cgFireCmd, if_neg (not_not.2 harmed), World.sendEvent_line, World.update_line, hcode,
      hout, hok, if_true, if_false] <;>
    exact ⟨rfl, hline', rfl, rfl⟩

variable (hL : Bisimulation L₁ L₂ R)

include hL

/-- The handler of a command does the same. -/
theorem handle_related (now : SysTime) {w : World σ} {v : World τ} (h : w.Related R v)
    (c : GroundCommand) : (handle L₁ now w c).2.Related R (handle L₂ now v c).2 := by
  rcases w with ⟨d, l₁, tlm, evs⟩
  rcases v with ⟨_, l₂, _, _⟩
  obtain ⟨rfl, h, rfl, rfl⟩ := h
  have hline : l₁.Related R l₂ := h
  -- In each case the calls agree, and what the handler does then depends on their outcome only.
  cases c with
  | noop => exact ⟨rfl, hline, rfl, rfl⟩
  | resetCounter => exact ⟨rfl, hline, rfl, rfl⟩
  | ping =>
    have hcall : Agree R (Cmd.ping L₁ l₁) (Cmd.ping L₂ l₂) := run_related hL hline .ping
    simp only [handle, pingCmd, hcall.1]
    split_ifs <;> exact ⟨rfl, hcall.2, rfl, rfl⟩
  | resetModule =>
    have hcall : Agree R (Cmd.resetModule L₁ l₁) (Cmd.resetModule L₂ l₂) :=
      run_related hL hline .resetModule
    simp only [handle, resetModuleCmd, hcall.1]
    split_ifs <;> exact ⟨rfl, hcall.2, rfl, rfl⟩
  | setMode p =>
    have hcall : Agree R (Cmd.setMode L₁ p.mode l₁) (Cmd.setMode L₂ p.mode l₂) :=
      run_related hL hline (.setMode p.mode)
    simp only [handle, setModeCmd, hcall.1]
    split_ifs <;> exact ⟨rfl, hcall.2, rfl, rfl⟩
  | armPropulsion =>
    have hcall : Agree R (Cmd.armPropulsion L₁ l₁) (Cmd.armPropulsion L₂ l₂) :=
      run_related hL hline .armPropulsion
    by_cases hs : d.currentState = .standby
    swap
    · simp only [handle, armPropulsionCmd, if_pos hs]
      exact ⟨rfl, hline, rfl, rfl⟩
    simp only [handle, armPropulsionCmd, if_neg (not_not.2 hs), hcall.1]
    split_ifs <;> exact ⟨rfl, hcall.2, rfl, rfl⟩
  | disarmPropulsion =>
    have hcall : Agree R (Cmd.disarmPropulsion L₁ l₁) (Cmd.disarmPropulsion L₂ l₂) :=
      run_related hL hline .disarmPropulsion
    simp only [handle, disarmPropulsionCmd, hcall.1]
    split_ifs <;> exact ⟨rfl, hcall.2, rfl, rfl⟩
  | requestHKData =>
    obtain ⟨hcode, hout, hline'⟩ := requestHKData_related hL hline d.lastHK
    simp only [handle, requestHKDataCmd, World.update_data, hcode, hout]
    split_ifs <;> exact ⟨rfl, hline', rfl, rfl⟩
  | requestStatus =>
    obtain ⟨hcode, hout, hline'⟩ := requestStatus_related hL hline d.lastStatus
    -- The output decides about the state, and about the event of a fault.
    by_cases hok : (Cmd.requestStatus L₂ (some d.lastStatus) l₂).1 = cmdOk <;>
      simp only [handle, requestStatusCmd, World.update_data, World.transmitMsg_data, hcode, hout,
        hok, if_true, if_false]
    · by_cases hfault : State.ofByte
          ((Cmd.requestStatus L₂ (some d.lastStatus) l₂).2.1.getD d.lastStatus).mode = .fault <;>
        simp only [hfault, if_true, if_false] <;>
        exact ⟨rfl, hline', rfl, rfl⟩
    · exact ⟨rfl, hline', rfl, rfl⟩
  | mainThrusterFire p =>
    obtain ⟨hcode, hout, hline'⟩ :=
      mainThrusterFire_related hL hline p.durationMs (some default)
    by_cases harmed : isArmed d
    swap
    · simp only [handle, mainThrusterFireCmd, if_pos harmed]
      exact ⟨rfl, hline, rfl, rfl⟩
    by_cases hok : (Cmd.mainThrusterFire L₂ p.durationMs (some default) l₂).1 = cmdOk <;>
      simp only [handle, mainThrusterFireCmd, if_neg (not_not.2 harmed), World.sendEvent_line,
        World.update_line, hcode, hout, hok, if_true, if_false] <;>
      exact ⟨rfl, hline', rfl, rfl⟩
  | mainThrusterAbort =>
    have hcall : Agree R (Cmd.mainThrusterAbort L₁ l₁) (Cmd.mainThrusterAbort L₂ l₂) :=
      run_related hL hline .mainThrusterAbort
    simp only [handle, mainThrusterAbortCmd, hcall.1]
    split_ifs <;> exact ⟨rfl, hcall.2, rfl, rfl⟩
  | cgThrusterPulse p =>
    exact cgFireCmd_related (cgFire_related hL hline _ _ (by simp [wrLE16]) (some default)) hline
  | cgThrusterBurst p =>
    exact cgFireCmd_related (cgFire_related hL hline _ _ (by simp [wrLE16]) (some default)) hline
  | cgThrusterAbort =>
    have hcall : Agree R (Cmd.cgThrusterAbort L₁ l₁) (Cmd.cgThrusterAbort L₂ l₂) :=
      run_related hL hline .cgThrusterAbort
    exact ⟨rfl, hcall.2, rfl, rfl⟩
  | requestFaultLog =>
    obtain ⟨hcode, hout, hline'⟩ := requestFaultLog_related hL hline d.faultLogTlm
    simp only [handle, requestFaultLogCmd, World.update_data, World.transmitMsg_data, hcode, hout]
    split_ifs <;> exact ⟨rfl, hline', rfl, rfl⟩
  | clearFault =>
    have hcall : Agree R (Cmd.clearFault L₁ l₁) (Cmd.clearFault L₂ l₂) :=
      run_related hL hline .clearFault
    simp only [handle, clearFaultCmd, hcall.1]
    split_ifs <;> exact ⟨rfl, hcall.2, rfl, rfl⟩

/-- The polling of the housekeeping data does the same. -/
theorem pollHK_related {w : World σ} {v : World τ} (h : w.Related R v) :
    (pollHK L₁ w).Related R (pollHK L₂ v) := by
  rcases w with ⟨d, l₁, tlm, evs⟩
  rcases v with ⟨_, l₂, _, _⟩
  obtain ⟨rfl, h, rfl, rfl⟩ := h
  have hline : l₁.Related R l₂ := h
  obtain ⟨hcode, hout, hline'⟩ := requestHKData_related hL hline d.lastHK
  by_cases hok : (Cmd.requestHKData L₂ (some d.lastHK) l₂).1 = cmdOk
  swap
  · simp only [pollHK, World.update_data, hcode, hout, hok, if_false]
    exact ⟨rfl, hline', rfl, rfl⟩
  simp only [pollHK, World.update_data, hcode, hout, hok, if_true]
  -- The packet received, from which the state of the tanks is judged, is the same.
  obtain ⟨hk, hhk⟩ : ∃ hk, hk = (Cmd.requestHKData L₂ (some d.lastHK) l₂).2.1.getD d.lastHK :=
    ⟨_, rfl⟩
  simp only [← hhk]
  by_cases hhigh : (5000 : UInt16) < hk.pressureKPaX10.get 0 ∨ 5000 < hk.pressureKPaX10.get 1 <;>
    simp only [hhigh, if_true, if_false] <;>
    exact ⟨rfl, hline', rfl, rfl⟩

/-- So does the supervision of ARMED, whose Set Mode returns a code that is not looked at. -/
theorem checkArmedTimeout_related (cfe : Cfe) (now : SysTime) {w : World σ} {v : World τ}
    (h : w.Related R v) :
    (checkArmedTimeout cfe L₁ now w).Related R (checkArmedTimeout cfe L₂ now v) := by
  rcases w with ⟨d, l₁, tlm, evs⟩
  rcases v with ⟨_, l₂, _, _⟩
  obtain ⟨rfl, h, rfl, rfl⟩ := h
  have hline : l₁.Related R l₂ := h
  have hcall : Agree R (Cmd.setMode L₁ modeStandby l₁) (Cmd.setMode L₂ modeStandby l₂) :=
    run_related hL hline (.setMode modeStandby)
  simp only [checkArmedTimeout]
  split_ifs
  · exact ⟨rfl, hcall.2, rfl, rfl⟩
  · exact ⟨rfl, hline, rfl, rfl⟩
  · exact ⟨rfl, hline, rfl, rfl⟩

/-- So does the handler of a wakeup. -/
theorem wakeupHandler_related (cfe : Cfe) (now : SysTime) {w : World σ} {v : World τ}
    (h : w.Related R v) :
    (wakeupHandler cfe L₁ now w).Related R (wakeupHandler cfe L₂ now v) := by
  -- What is done at all depends on the data alone.
  simp only [wakeupHandler, h.data]
  split_ifs
  · exact h
  · exact h
  · exact checkArmedTimeout_related hL cfe now (pollHK_related hL h)

/-! ## The steps -/

/-- So does the dispatch of a ground command, which only looks at the message. -/
theorem processGroundCommand_related (cfe : Cfe) (now : SysTime) (m : SbMsg) {w : World σ}
    {v : World τ} (h : w.Related R v) :
    (processGroundCommand cfe L₁ now m w).Related R (processGroundCommand cfe L₂ now m v) := by
  rcases hof : GroundCommand.ofMsg m with - | c
  · simp only [processGroundCommand, hof]
    exact (h.update _).sendEvent _ _ _ _
  by_cases hsize : c.size cfe = m.size
  · simp only [processGroundCommand, hof, verifyCmdLength, if_neg (not_not.2 hsize), if_true]
    exact handle_related hL now h c
  · simp only [processGroundCommand, hof, verifyCmdLength, if_pos hsize, Bool.false_eq_true,
      if_false]
    exact (h.sendEvent _ _ _ _).update _

/-- So does the dispatch of a message. -/
theorem taskPipe_related (cfe : Cfe) (now : SysTime) (m : SbMsg) {w : World σ} {v : World τ}
    (h : w.Related R v) : (taskPipe cfe L₁ now m w).Related R (taskPipe cfe L₂ now m v) := by
  simp only [taskPipe]
  split_ifs
  · exact processGroundCommand_related hL cfe now m h
  · exact wakeupHandler_related hL cfe now h
  · exact h.sendEvent _ _ _ _

/-- A step does the same. -/
theorem step_related (cfe : Cfe) (i : Input) {w : World σ} {v : World τ} (h : w.Related R v) :
    (step cfe L₁ i w).Related R (step cfe L₂ i v) := by
  simp only [step, h.data]
  split_ifs
  · exact h
  rcases i with ⟨now, status | m⟩
  · exact (h.sendEvent _ _ _ _).update _
  · exact taskPipe_related hL cfe now m h

omit hL in
/-- An initialisation in which the calls of the cFE succeed does the same, if that of the link
    does. -/
theorem start_related {w : World σ} {v : World τ}
    (h : w.Related (fun s t => (L₁.init s).1 = (L₂.init t).1 ∧ R (L₁.init s).2 (L₂.init t).2) v) :
    (start L₁ .ok w).Related R (start L₂ .ok v) := by
  obtain ⟨hcode, hlink⟩ := h.line.link
  have hline : Line.Related R { w.line with link := (L₁.init w.line.link).2 }
      { v.line with link := (L₂.init v.line.link).2 } := ⟨h.line.txBuf, h.line.sent, hlink⟩
  have hevs (e : Event) : w.evs ++ [e] = v.evs ++ [e] := congrArg (· ++ [e]) h.evs
  by_cases hhal : (L₂.init v.line.link).1 = halOk <;>
    simp only [start, init, InitEnv.ok, World.update_line, hcode, hhal, ne_eq, not_true_eq_false,
      not_false_eq_true, if_true, if_false]
  · exact ⟨rfl, hline, h.tlm, hevs _⟩
  · exact ⟨rfl, hline, h.tlm, hevs _⟩

/-- Two runs on the same inputs, after such an initialisation, do the same. -/
theorem runs_related (cfe : Cfe) {w₀ : World σ} {v₀ : World τ}
    (h₀ : w₀.Related (fun s t => (L₁.init s).1 = (L₂.init t).1 ∧ R (L₁.init s).2 (L₂.init t).2) v₀)
    {a : ℕ → Input} {ρ : ℕ → World σ} {ρ' : ℕ → World τ}
    (hρ : IsRun {start L₁ .ok w₀} (step cfe L₁) a ρ)
    (hρ' : IsRun {start L₂ .ok v₀} (step cfe L₂) a ρ') (n : ℕ) : (ρ n).Related R (ρ' n) := by
  refine hρ.related hρ' ?_ (fun k hk => step_related hL cfe (a k) hk) n
  rw [Set.mem_singleton_iff.1 hρ.init, Set.mem_singleton_iff.1 hρ'.init]
  exact start_related h₀

end App

end Ig4u
