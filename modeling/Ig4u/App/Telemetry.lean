import Ig4u.App.Account

/-!
# Telemetry and states

What the steps publish. A handler publishes a packet if its call succeeds (`handle_tlm`), a
wakeup if its polling does (`pollHK_cases`). The mode in a packet and the state it is
taken from may come from the payload, and the payload may report anything.

* `polls_iff`: a wakeup polls the housekeeping data exactly in STANDBY, ARMED, FIRING and
  SAFE. In FAULT, it was meant to.
* `declared_iff`: up to any time of a run, the states and the modes published are declared
  ones exactly if the payload reports no others.
-/

namespace Ig4u.App

open Lib Proto Cmd

variable {σ : Type*} (cfe : Cfe) (L : Link σ)

/-! ## What is published -/

/-- What the handler of a ground command publishes. -/
def commandTlm (now : SysTime) (w : World σ) (c : GroundCommand) : List Tlm :=
  let d := (handle L now w c).2.data
  match c with
  | .requestHKData => if WireOk L w c then [.hk d.hkTlm] else []
  | .requestStatus => if WireOk L w c then [.status d.statusTlm] else []
  | .mainThrusterFire _ =>
    if w.data.currentState = .armed ∧ WireOk L w c then [.fireResult d.fireResultTlm] else []
  | .requestFaultLog => if WireOk L w c then [.faultLog d.faultLogTlm] else []
  | _ => []

/-- A firing of the cold gas thrusters publishes nothing. -/
theorem cgFireCmd_tlm {w : World σ}
    {fire : Option CGThrusterResultPayload → Line σ →
      ℤ × Option CGThrusterResultPayload × Line σ}
    {rejected start done failed : String} {startArgs : List ℤ}
    {doneArgs : CGThrusterResultPayload → List ℤ} :
    (cgFireCmd fire rejected start startArgs done doneArgs failed w).2.tlm = w.tlm := by
  simp only [cgFireCmd]
  split_ifs <;> rfl

theorem handle_tlm (now : SysTime) (w : World σ) (c : GroundCommand) :
    (handle L now w c).2.tlm = w.tlm ++ commandTlm L now w c := by
  cases c with
  | requestHKData =>
    by_cases hok : (Cmd.requestHKData L (some w.data.lastHK) w.line).1 = cmdOk <;>
      simp only [handle, requestHKDataCmd, commandTlm, WireOk, wireCall, wireCommand, Call.run,
        hok, if_true, if_false]
    · rfl
    · exact (List.append_nil _).symm
  | requestStatus =>
    by_cases hok : (Cmd.requestStatus L (some w.data.lastStatus) w.line).1 = cmdOk <;>
      simp only [handle, requestStatusCmd, commandTlm, WireOk, wireCall, wireCommand, Call.run,
        hok, if_true, if_false]
    · split_ifs <;> rfl
    · exact (List.append_nil _).symm
  | requestFaultLog =>
    by_cases hok : (Cmd.requestFaultLog L (some w.data.faultLogTlm) w.line).1 = cmdOk <;>
      simp only [handle, requestFaultLogCmd, commandTlm, WireOk, wireCall, wireCommand, Call.run,
        hok, if_true, if_false]
    · rfl
    · exact (List.append_nil _).symm
  | mainThrusterFire p =>
    by_cases hs : w.data.currentState = .armed
    · by_cases hok : (Cmd.mainThrusterFire L p.durationMs (some default) w.line).1 = cmdOk <;>
        simp [handle, mainThrusterFireCmd, isArmed, commandTlm, WireOk, wireCall, wireCommand,
          Call.run, hs, hok]
    · simp [handle, mainThrusterFireCmd, isArmed, commandTlm, hs]
  | cgThrusterPulse p => exact cgFireCmd_tlm.trans (List.append_nil _).symm
  | cgThrusterBurst p => exact cgFireCmd_tlm.trans (List.append_nil _).symm
  | _ =>
    simp only [handle, noopCmd, resetCounterCmd, pingCmd, resetModuleCmd, setModeCmd,
      armPropulsionCmd, disarmPropulsionCmd, mainThrusterAbortCmd, cgThrusterAbortCmd,
      clearFaultCmd]
    repeat' split_ifs
    all_goals exact (List.append_nil _).symm

/-- The packets published by a step. -/
def published (i : Input) (w : World σ) : List Tlm := (step cfe L i w).tlm.drop w.tlm.length

/-! ## The polling -/

/-- The polling publishes a packet with the state as its mode, or it counts an error. -/
theorem pollHK_cases (w : World σ) :
    (∃ P t, (pollCall w).exchange L w.line = some [P] ∧ ((pollCall w).run L w.line).1 = cmdOk ∧
      (pollHK L w).tlm = w.tlm ++ [.hk t] ∧ t.mode = w.data.currentState.toByte ∧
      (pollHK L w).data.errCounter = w.data.errCounter) ∨
    (pollCall w).exchange L w.line = none ∧ ((pollCall w).run L w.line).1 ≠ cmdOk ∧
      (pollHK L w).tlm = w.tlm ∧ (pollHK L w).data.errCounter = w.data.errCounter + 1 := by
  rcases requestHKData_cases L w.data.lastHK w.line with ⟨P, hx, -, hok⟩ | ⟨hx, -, hfail⟩
  · refine .inl ⟨P, (pollHK L w).data.hkTlm, hx, hok, ?_⟩
    simp only [pollHK, if_pos hok]
    split_ifs <;> exact ⟨rfl, rfl, rfl⟩
  · simp only [pollHK, if_neg hfail]
    exact .inr ⟨hx, hfail, rfl, rfl⟩

/-- The supervision of ARMED publishes nothing and counts no error. -/
theorem checkArmedTimeout_quiet (now : SysTime) (w : World σ) :
    (checkArmedTimeout cfe L now w).tlm = w.tlm ∧
      (checkArmedTimeout cfe L now w).data.errCounter = w.data.errCounter := by
  simp only [checkArmedTimeout]
  split_ifs <;> exact ⟨rfl, rfl⟩

/-! ## No silent loss -/

/-- A wakeup, from `w` to `w'`, sends a Request HK Data and publishes one packet, or counts an
    error if the call fails. -/
def Polls (w w' : World σ) : Prop :=
  (∃ rest, w'.line.sent = w.line.sent ++ (pollCall w).telecommand.bytes :: rest) ∧
    (((pollCall w).run L w.line).1 = cmdOk ∧ (∃ t, w'.tlm = w.tlm ++ [.hk t]) ∧
        w'.data.errCounter = w.data.errCounter ∨
      ((pollCall w).run L w.line).1 ≠ cmdOk ∧ w'.tlm = w.tlm ∧
        w'.data.errCounter = w.data.errCounter + 1)

/-- The states in which a wakeup polls. -/
def PolledState (s : State) : Prop := s = .standby ∨ s = .armed ∨ s = .firing ∨ s = .safe

theorem polledState_iff {w : World σ} : PolledState w.data.currentState ↔
    ¬(¬isCommAllowed w.data ∧ w.data.currentState ≠ .firing) := by
  simp only [isCommAllowed, PolledState, decide_eq_true_eq]
  tauto

/-- In them, a wakeup polls and supervises ARMED. -/
theorem wakeupHandler_polled (now : SysTime) {w : World σ} (hpower : w.data.powerApplied)
    (hready : w.data.linkReady) (h : PolledState w.data.currentState) :
    wakeupHandler cfe L now w = checkArmedTimeout cfe L now (pollHK L w) := by
  rw [wakeupHandler, if_neg (by simp [hpower, hready]), if_neg (polledState_iff.1 h)]

/-- Otherwise it does nothing. -/
theorem wakeupHandler_idle (now : SysTime) {w : World σ}
    (h : ¬(w.data.powerApplied ∧ w.data.linkReady ∧ PolledState w.data.currentState)) :
    wakeupHandler cfe L now w = w := by
  rw [wakeupHandler]
  split_ifs with hoff hcomm
  · rfl
  · rfl
  · refine absurd ?_ h
    simpa only [← and_assoc, not_or, not_not, polledState_iff] using And.intro hoff hcomm

/-- A wakeup with the payload powered and the link ready polls exactly in these states. -/
theorem polls_wakeupHandler_iff (now : SysTime) {w : World σ} (hpower : w.data.powerApplied)
    (hready : w.data.linkReady) :
    Polls L w (wakeupHandler cfe L now w) ↔ PolledState w.data.currentState := by
  by_cases hstate : PolledState w.data.currentState
  · rw [wakeupHandler_polled cfe L now hpower hready hstate]
    obtain ⟨rest, hsent, -⟩ := checkArmedTimeout_sent cfe L now (pollHK L w)
    rw [pollHK_sent, List.append_assoc] at hsent
    refine iff_of_true ⟨⟨rest, hsent⟩, ?_⟩ hstate
    obtain ⟨htlm, herr⟩ := checkArmedTimeout_quiet cfe L now (pollHK L w)
    rw [htlm, herr]
    rcases pollHK_cases L w with ⟨P, t, -, hok, ht, -, he⟩ | ⟨-, hfail, ht, he⟩
    · exact .inl ⟨hok, ⟨t, ht⟩, he⟩
    · exact .inr ⟨hfail, ht, he⟩
  · rw [wakeupHandler_idle cfe L now fun h => hstate h.2.2]
    refine iff_of_false ?_ hstate
    rintro ⟨⟨rest, hsent⟩, -⟩
    exact absurd (congrArg List.length hsent) (by simp)

/-- Along every run, a wakeup with the payload powered and the link ready polls the housekeeping
    data exactly if the state is STANDBY, ARMED, FIRING or SAFE. -/
theorem polls_iff {a : ℕ → Input} {ρ : ℕ → World σ}
    (hρ : IsRun (initial L) (step cfe L) a ρ) {n : ℕ} (ha : activity cfe (a n) (ρ n) = some .wakeup)
    (hpower : (ρ n).data.powerApplied) (hready : (ρ n).data.linkReady) :
    Polls L (ρ n) (ρ (n + 1)) ↔ PolledState (ρ n).data.currentState := by
  rw [hρ.step n, step_of_activity cfe L ha]
  exact polls_wakeupHandler_iff cfe L (a n).now hpower hready

/-- A wakeup in STANDBY polls, although nothing answers. -/
theorem polls_standby :
    let a := inputs [] ⟨seconds 0, .ok wakeupMsg⟩
    Polls fifoLink (scenario [] a 0) (scenario [] a 1) := by
  intro a
  exact (polls_iff Cfe.standard fifoLink (isRun_scenario [] a) (n := 0) (by decide +kernel)
    (by decide +kernel) (by decide +kernel)).2 (.inl (by decide +kernel))

/-- After a Request Status that reports FAULT, wakeups are without any effect. -/
theorem not_polls_fault :
    ∃ (a : ℕ → Input) (ρ : ℕ → World (Hal.State (List UInt8))),
      IsRun (initial fifoLink) (step Cfe.standard fifoLink) a ρ ∧
        (ρ 1).data.currentState = .fault ∧ (ρ 1).data.powerApplied ∧ (ρ 1).data.linkReady ∧
        activity Cfe.standard (a 1) (ρ 1) = some .wakeup ∧ ¬Polls fifoLink (ρ 1) (ρ 2) := by
  let line := answer WireMsgid.replyStatus [State.fault.toByte, 0, 0, 0, 0] (by decide)
  let a := inputs [⟨seconds 0, .ok (command Cc.requestStatus)⟩] ⟨seconds 1, .ok wakeupMsg⟩
  have hfault : (scenario line a 1).data.currentState = .fault := by decide +kernel
  have hpower : (scenario line a 1).data.powerApplied := by decide +kernel
  have hready : (scenario line a 1).data.linkReady := by decide +kernel
  have ha : activity Cfe.standard (a 1) (scenario line a 1) = some .wakeup := by decide +kernel
  refine ⟨a, scenario line a, isRun_scenario _ _, hfault, hpower, hready, ha, ?_⟩
  rw [(isRun_scenario line a).step 1, step_of_activity _ _ ha, act,
    polls_wakeupHandler_iff _ _ _ hpower hready, hfault]
  rintro (h | h | h | h) <;> cases h

/-! ## Declared states -/

/-- A step is a request in whose reply the payload reports a mode that is none of the declared
    states. -/
def ReportsUndeclared (i : Input) (w : World σ) : Prop :=
  activity cfe i w = some (.command .requestStatus) ∧
      (∃ P, (Call.requestStatus (some w.data.lastStatus)).exchange L w.line = some [P] ∧
        stateCount ≤ P.payload.getD 0 0) ∨
    activity cfe i w = some (.command .requestHKData) ∧
      ∃ P, (Call.requestHKData (some w.data.lastHK)).exchange L w.line = some [P] ∧
        stateCount ≤ P.payload.getD 12 0

/-- The modes in the housekeeping packets are declared states. -/
def ModesDeclared (ts : List Tlm) : Prop := ∀ t, .hk t ∈ ts → t.mode < stateCount

variable {cfe L} {i : Input} {w : World σ}

/-- The mode that a Request Status takes over is the one in the packet it accepts. -/
theorem requestStatus_mode :
    (∃ P, (Call.requestStatus (some w.data.lastStatus)).exchange L w.line = some [P] ∧
      WireOk L w .requestStatus ∧ reportedMode L w = P.payload.getD 0 0) ∨
    (Call.requestStatus (some w.data.lastStatus)).exchange L w.line = none ∧
      ¬WireOk L w .requestStatus := by
  rcases requestStatus_cases L w.data.lastStatus w.line with ⟨P, hx, hparse, hok⟩ | ⟨hx, -, hfail⟩
  · refine .inl ⟨P, hx, hok, ?_⟩
    rw [reportedMode, ← hparse]
    simp only [parseStatus] at hparse ⊢
    split_ifs at hparse ⊢
    · cases hparse
    · rfl
  · exact .inr ⟨hx, hfail⟩

/-- The mode that the handler of Request HK Data publishes is the one in the packet it accepts. -/
theorem requestHKData_mode (now : SysTime) :
    (∃ P t, (Call.requestHKData (some w.data.lastHK)).exchange L w.line = some [P] ∧
      commandTlm L now w .requestHKData = [.hk t] ∧ t.mode = P.payload.getD 12 0) ∨
    (Call.requestHKData (some w.data.lastHK)).exchange L w.line = none ∧
      commandTlm L now w .requestHKData = [] := by
  rcases requestHKData_cases L w.data.lastHK w.line with ⟨P, hx, hparse, hok⟩ | ⟨hx, -, hfail⟩
  · have hwire : WireOk L w .requestHKData := hok
    refine .inl ⟨P, (handle L now w .requestHKData).2.data.hkTlm, hx, ?_, ?_⟩
    · simp only [commandTlm, if_pos hwire]
    · simp only [handle, requestHKDataCmd, if_pos hok, ← hparse]
      simp only [parseHK] at hparse ⊢
      split_ifs at hparse ⊢
      · cases hparse
      · rfl
  · have hwire : ¬WireOk L w .requestHKData := hfail
    refine .inr ⟨hx, ?_⟩
    simp only [commandTlm, if_neg hwire]

/-- A state that is not declared is taken over from the payload. -/
theorem declared_step_iff (hw : w.data.currentState.toByte < stateCount) :
    (step cfe L i w).data.currentState.toByte < stateCount ↔
      ¬(activity cfe i w = some (.command .requestStatus) ∧
        ∃ P, (Call.requestStatus (some w.data.lastStatus)).exchange L w.line = some [P] ∧
          stateCount ≤ P.payload.getD 0 0) := by
  rw [← World.mode_state]
  rcases ha : activity cfe i w with - | (c | -)
  · rw [mode_step_none ha]
    exact iff_of_true hw (by simp)
  · rw [mode_step_command ha]
    cases c with
    | requestStatus =>
      rcases requestStatus_mode (L := L) (w := w) with ⟨P, hx, hok, hmode⟩ | ⟨hx, hfail⟩
      · rw [commandAction, if_pos hok, ModeAction.apply_move, State.toByte_ofByte, hmode]
        simp [hx]
      · rw [commandAction, if_neg hfail]
        exact iff_of_true hw (by simp [hx])
    | setMode p =>
      refine iff_of_true ?_ (by simp)
      simp only [commandAction, setModeAction]
      split_ifs <;> first | exact hw | simp [State.toByte, stateCount]
    | _ =>
      refine iff_of_true ?_ (by simp)
      simp only [commandAction]
      repeat' split_ifs
      all_goals first | exact hw | simp [State.toByte, stateCount]
  · rw [mode_step_wakeup ha]
    refine iff_of_true ?_ (by simp)
    split_ifs
    · simp [State.toByte, stateCount]
    · exact hw

theorem published_eq {ts : List Tlm} (h : (step cfe L i w).tlm = w.tlm ++ ts) :
    published cfe L i w = ts := by
  rw [published, h, List.drop_left]

theorem published_nil (h : (step cfe L i w).tlm = w.tlm) : published cfe L i w = [] := by
  rw [published, h, List.drop_length]

/-- A step that takes up a command publishes what its handler does. -/
theorem published_command {c : GroundCommand} (ha : activity cfe i w = some (.command c)) :
    published cfe L i w = commandTlm L i.now w c :=
  published_eq (by rw [step_of_activity cfe L ha, act, handle_tlm])

/-- A wakeup that polls publishes what the polling does. -/
theorem step_tlm_wakeup (ha : activity cfe i w = some .wakeup) (hpower : w.data.powerApplied)
    (hready : w.data.linkReady) (hstate : PolledState w.data.currentState) :
    (step cfe L i w).tlm = (pollHK L w).tlm := by
  rw [step_of_activity cfe L ha, act, wakeupHandler_polled cfe L _ hpower hready hstate,
    (checkArmedTimeout_quiet cfe L i.now _).1]

/-- Only Request HK Data publishes housekeeping packets among the ground commands. -/
theorem hk_not_mem_commandTlm {now : SysTime} {c : GroundCommand} (hc : c ≠ .requestHKData)
    (t : HkTlmPayload) : .hk t ∉ commandTlm L now w c := by
  cases c with
  | requestHKData => exact absurd rfl hc
  | _ =>
    simp only [commandTlm]
    repeat' split_ifs
    all_goals simp

/-- A mode that is no declared state is published if the payload reports it. -/
theorem modesDeclared_step_iff (hw : w.data.currentState.toByte < stateCount) :
    ModesDeclared (published cfe L i w) ↔
      ¬(activity cfe i w = some (.command .requestHKData) ∧
        ∃ P, (Call.requestHKData (some w.data.lastHK)).exchange L w.line = some [P] ∧
          stateCount ≤ P.payload.getD 12 0) := by
  rcases ha : activity cfe i w with - | (c | -)
  · rw [published_nil (step_of_none cfe L ha).tlm]
    exact iff_of_true (by simp [ModesDeclared]) (by simp)
  · rw [published_command ha]
    by_cases hc : c = .requestHKData
    · subst hc
      rcases requestHKData_mode (L := L) (w := w) i.now with ⟨P, t, hx, ht, hmode⟩ | ⟨hx, ht⟩ <;>
        rw [ht]
      · simp [ModesDeclared, hx, hmode]
      · exact iff_of_true (by simp [ModesDeclared]) (by simp [hx])
    · exact iff_of_true (fun t ht => absurd ht (hk_not_mem_commandTlm hc t)) (by simp [hc])
  · -- The polling publishes the state.
    refine iff_of_true ?_ (by simp)
    by_cases hpolls : w.data.powerApplied ∧ w.data.linkReady ∧ PolledState w.data.currentState
    · have htlm := step_tlm_wakeup (L := L) ha hpolls.1 hpolls.2.1 hpolls.2.2
      rcases pollHK_cases L w with ⟨P, t, -, -, ht, hmode, -⟩ | ⟨-, -, ht, -⟩
      · rw [published_eq (htlm.trans ht)]
        intro t' ht'
        cases List.mem_singleton.1 ht'
        rw [hmode]
        exact hw
      · rw [published_nil (htlm.trans ht)]
        exact fun _ h => absurd h List.not_mem_nil
    · rw [published_nil (by rw [step_of_activity cfe L ha, act,
        wakeupHandler_idle cfe L _ hpolls])]
      exact fun _ h => absurd h List.not_mem_nil

section

variable (cfe L) (a : ℕ → Input) (ρ : ℕ → World σ)

/-- At the time `n`, the state is a declared one, and so are the modes published before. -/
structure Declared (n : ℕ) : Prop where
  state : (ρ n).data.currentState.toByte < stateCount
  modes : ∀ k < n, ModesDeclared (published cfe L (a k) (ρ k))

end

variable {a : ℕ → Input} {ρ : ℕ → World σ} {n : ℕ}

theorem declared_succ_iff (hstep : ρ (n + 1) = step cfe L (a n) (ρ n))
    (h : Declared cfe L a ρ n) :
    Declared cfe L a ρ (n + 1) ↔ ¬ReportsUndeclared cfe L (a n) (ρ n) := by
  rw [ReportsUndeclared, not_or, ← declared_step_iff h.state, ← modesDeclared_step_iff h.state,
    ← hstep]
  constructor
  · intro h'
    exact ⟨h'.state, h'.modes n n.lt_succ_self⟩
  · rintro ⟨hstate, hmodes⟩
    refine ⟨hstate, fun k hk => ?_⟩
    rcases Nat.lt_succ_iff_lt_or_eq.1 hk with hlt | rfl
    · exact h.modes k hlt
    · exact hmodes

variable (cfe L) in
/-- Along every run and up to any time, the state is a declared one, and so are the modes in the
    housekeeping packets published, exactly if the payload has reported no other mode in a
    reply to a Request Status or to a Request HK Data of the ground. -/
theorem declared_iff (hρ : IsRun (initial L) (step cfe L) a ρ) (n : ℕ) :
    (∀ k ≤ n, Declared cfe L a ρ k) ↔ ∀ k < n, ¬ReportsUndeclared cfe L (a k) (ρ k) := by
  have h₀ : (ρ 0).data.currentState.toByte < stateCount := by
    rw [← World.mode_state]
    rcases initial_cases L hρ.init with ⟨hm, -⟩ | ⟨hm, -⟩ <;> rw [hm] <;> decide
  exact hρ.invariant_iff_until ⟨h₀, fun _ hk => absurd hk (Nat.not_lt_zero _)⟩
    (fun _ => declared_succ_iff) n

/-- After a Request Status that reports SAFE, the state is a declared one. -/
theorem declared_safe :
    let line := answer WireMsgid.replyStatus [State.safe.toByte, 0, 0, 0, 0] (by decide)
    let a := inputs [] ⟨seconds 0, .ok (command Cc.requestStatus)⟩
    (scenario line a 1).data.currentState = .safe ∧
      Declared Cfe.standard fifoLink a (scenario line a) 1 := by
  intro line a
  have ha : activity Cfe.standard (a 0) (scenario line a 0) = some (.command .requestStatus) := by
    decide +kernel
  have hreported : ((Call.requestStatus (some (scenario line a 0).data.lastStatus)).exchange
      fifoLink (scenario line a 0).line).map (List.map fun P => P.payload.getD 0 0) =
        some [State.safe.toByte] := by
    decide +kernel
  refine ⟨by decide +kernel, ?_⟩
  refine (declared_iff Cfe.standard fifoLink (isRun_scenario line a) 1).2 (fun k hk => ?_) 1 le_rfl
  obtain rfl : k = 0 := Nat.lt_one_iff.1 hk
  rintro (⟨-, P, hx, hmode⟩ | ⟨ha', -⟩)
  · rw [hx] at hreported
    rw [show P.payload.getD 0 0 = State.safe.toByte by simpa using hreported] at hmode
    exact absurd hmode (by decide)
  · cases ha.symm.trans ha'

/-- The payload reports the modes `6` and `200`. -/
theorem not_declared_reported :
    ∃ (a : ℕ → Input) (ρ : ℕ → World (Hal.State (List UInt8))),
      IsRun (initial fifoLink) (step Cfe.standard fifoLink) a ρ ∧
        ¬(ρ 1).data.currentState.toByte < stateCount ∧
        ¬ModesDeclared (published Cfe.standard fifoLink (a 1) (ρ 1)) := by
  let line := answer WireMsgid.replyStatus [6, 0, 0, 0, 0] (by decide) ++
    answer WireMsgid.replyHk [0, 0, 0, 0, 0, 0, 0, 0, 0, 0, 0, 0, 200, 0, 0, 0] (by decide)
  let a := inputs [⟨seconds 0, .ok (command Cc.requestStatus)⟩]
    ⟨seconds 1, .ok (command Cc.requestHKData)⟩
  have hpublished : published Cfe.standard fifoLink (a 1) (scenario line a 1) =
      [.hk (scenario line a 2).data.hkTlm] := by decide +kernel
  refine ⟨a, scenario line a, isRun_scenario _ _, by decide +kernel, fun h => ?_⟩
  rw [hpublished] at h
  have hmode := h (scenario line a 2).data.hkTlm (List.mem_singleton_self _)
  exact absurd hmode (by decide +kernel)

end Ig4u.App
