import Ig4u.App.Simulation
import Ig4u.App.Telemetry

/-!
# What the ground can tell

The ground sees the events and the telemetry packets of the application, and keeps a `Ledger` of
them: the counters and the state as they follow from what was sent down.

* `Told`: what a handler sends down, and what it does to the ledger.
* `audited`: in every run, the ledger has the error counter, the counters of the firings and the
  state of the application at all times; `audited_iff`: it also has the command counter exactly
  if the call of no Set Mode with another mode than STANDBY, ARMED and SAFE returns
  `IG4U_CMD_OK`.
* `announced`: in every run, the firing telecommands handed to the HAL are those announced by the
  events, in the same order and with the same parameters.
-/

namespace Ig4u

open Lib

/-! ## The events -/

namespace Event

variable (e : Event)

/-- The event of a Reset Counter. -/
def IsReset : Prop := e.eid = Eid.initInf ∧ e.format = "IG4U: Counters reset."

/-- The event of a command that was executed. -/
def IsCommand : Prop :=
  e.eid ∈ [Eid.stateStandbyInf, Eid.stateArmedInf, Eid.mainFireDoneInf, Eid.mainAbortInf,
      Eid.cgFireDoneInf, Eid.cgAbortInf, Eid.faultClearedInf] ∨
    e.eid = Eid.stateSafeErr ∧ e.args = [] ∨
    e.eid = Eid.initInf ∧ e.format ∈ ["IG4U: NOOP command. Version 1.0. CmdCnt=%u",
      "IG4U: PING OK. Link confirmed.", "IG4U: Fault log received. Entries=%u."]

/-- The event of an error that is counted. The SAFE entered on command is no error, although its
    event has the type of one. -/
def IsError : Prop :=
  e.eid ∈ [Eid.ccErr, Eid.cmdLenErr, Eid.uartSendErr, Eid.uartRecvErr, Eid.uartTimeoutErr,
      Eid.uartNackErr, Eid.interlockErr, Eid.faultClearFail] ∨
    e.eid = Eid.stateSafeErr ∧ e.args ≠ []

instance : Decidable e.IsReset := inferInstanceAs (Decidable (_ ∧ _))
instance : Decidable e.IsCommand := inferInstanceAs (Decidable (_ ∨ _))
instance : Decidable e.IsError := inferInstanceAs (Decidable (_ ∨ _))

/-- The state that an event reports to be entered. -/
def state? : Option State :=
  if e.eid ∈ [Eid.stateStandbyInf, Eid.mainFireDoneInf, Eid.mainAbortInf, Eid.cgFireDoneInf,
      Eid.cgAbortInf, Eid.faultClearedInf, Eid.armedTimeoutErr] ∨
    e.eid = Eid.uartSendErr ∧ e.format = "IG4U: ABORT send failed. RC=%d" ∨
    e.eid = Eid.initInf ∧ e.format = "IG4U App Initialized. UART=%u bps, State=STANDBY."
  then some .standby
  else if e.eid = Eid.stateArmedInf then some .armed
  else if e.eid = Eid.stateSafeErr then some .safe
  else none

/-- The firing telecommand that an event announces. -/
def fires : Option (List UInt8) :=
  if e.eid = Eid.mainFireInf then
    match e.args with
    | [durationMs] => some (Call.mainThrusterFire (.ofNat durationMs.toNat) none).telecommand.bytes
    | _ => none
  else if e.eid = Eid.cgFireInf then
    match e.args with
    | [thrusterId, durationMs] =>
      some (Call.cgThrusterPulse (.ofNat thrusterId.toNat) (.ofNat durationMs.toNat)
        none).telecommand.bytes
    | [thrusterId, pulseDurationMs, pulseCount, intervalMs] =>
      some (Call.cgThrusterBurst (.ofNat thrusterId.toNat) (.ofNat pulseDurationMs.toNat)
        (.ofNat pulseCount.toNat) (.ofNat intervalMs.toNat) none).telecommand.bytes
    | _ => none
  else none

end Event

/-! ## The ledger -/

/-- What the ground knows of the application. -/
@[ext]
structure Ledger where
  cmdCounter : UInt8
  errCounter : UInt8
  mainFireCount : UInt16
  cgFireCount : UInt16
  state : State
  deriving DecidableEq, Repr

namespace Ledger

/-- The ledger before anything is sent down. -/
def boot : Ledger := ⟨0, 0, 0, 0, .boot⟩

variable (l : Ledger)

/-- The ledger after an event. -/
def event (e : Event) : Ledger where
  cmdCounter := if e.IsReset then 0 else if e.IsCommand then l.cmdCounter + 1 else l.cmdCounter
  errCounter := if e.IsReset then 0 else if e.IsError then l.errCounter + 1 else l.errCounter
  mainFireCount := if e.eid = Eid.mainFireDoneInf then l.mainFireCount + 1 else l.mainFireCount
  cgFireCount := if e.eid = Eid.cgFireDoneInf then l.cgFireCount + 1 else l.cgFireCount
  state := e.state?.getD l.state

/-- The ledger after a packet: a housekeeping packet carries the command counter, and a status
    packet answers a command and has the mode that the application takes over. -/
def packet : Tlm → Ledger
  | .hk p => { l with cmdCounter := p.cmdCounter }
  | .status p => { l with cmdCounter := l.cmdCounter + 1, state := .ofByte p.mode }
  | _ => l

/-- The ledger after what a step sends down. -/
def read (ts : List Tlm) (es : List Event) : Ledger := es.foldl event (ts.foldl packet l)

/-- Two ledgers that agree but for the command counter. -/
structure Alike (l l' : Ledger) : Prop where
  errCounter : l.errCounter = l'.errCounter
  mainFireCount : l.mainFireCount = l'.mainFireCount
  cgFireCount : l.cgFireCount = l'.cgFireCount
  state : l.state = l'.state

/-- What is read does not depend on the command counter, other than in itself. -/
theorem Alike.read {l l' : Ledger} (h : Alike l l') (ts : List Tlm) (es : List Event) :
    Alike (l.read ts es) (l'.read ts es) := by
  refine List.foldl_rel (List.foldl_rel h fun t _ l l' h => ?_) fun e _ l l' h => ?_
  · cases t with
    | status p => exact ⟨h.errCounter, h.mainFireCount, h.cgFireCount, rfl⟩
    | _ => exact ⟨h.errCounter, h.mainFireCount, h.cgFireCount, h.state⟩
  · simp only [event, h.errCounter, h.mainFireCount, h.cgFireCount, h.state]
    exact ⟨rfl, rfl, rfl, rfl⟩

end Ledger

variable {σ : Type*} (cfe : Cfe) (L : Link σ)

/-- What the ledger should say. -/
def World.ledger (w : World σ) : Ledger :=
  ⟨w.data.cmdCounter, w.data.errCounter, w.data.mainFireCount, w.data.cgFireCount,
    w.data.currentState⟩

namespace App

/-- From `w` to `w'`, the packets `ts` and the events `es` are sent down. The ledger follows, and
    the events announce the firing telecommands `fired`. -/
structure Tells (w w' : World σ) (ts : List Tlm) (es : List Event) (fired : List (List UInt8)) :
    Prop where
  tlm : w'.tlm = w.tlm ++ ts
  evs : w'.evs = w.evs ++ es
  ledger : w'.ledger = w.ledger.read ts es
  fires : es.filterMap Event.fires = fired

/-- So with some packets and events. -/
def Told (w w' : World σ) (fired : List (List UInt8)) : Prop := ∃ ts es, Tells w w' ts es fired

theorem Told.quiet {w w' : World σ} (htlm : w'.tlm = w.tlm) (hevs : w'.evs = w.evs)
    (hledger : w'.ledger = w.ledger) : Told w w' [] :=
  ⟨[], [], by rw [htlm, List.append_nil], by rw [hevs, List.append_nil], hledger, rfl⟩

theorem Told.event {w w' : World σ} {e : Event} (htlm : w'.tlm = w.tlm)
    (hevs : w'.evs = w.evs ++ [e]) (hledger : w'.ledger = w.ledger.event e)
    (hfires : e.fires = none) : Told w w' [] :=
  ⟨[], [e], by rw [htlm, List.append_nil], hevs, hledger, by simp [hfires]⟩

/-- A Set Mode with another mode than STANDBY, ARMED and SAFE, whose call returns `IG4U_CMD_OK`:
    it is counted, and nothing is said. The call also returns this for a NACK of the payload. -/
def Silent (w : World σ) (c : GroundCommand) : Prop :=
  ∃ p, c = .setMode p ∧ p.mode ∉ [modeStandby, modeArmed, modeSafe] ∧ WireOk L w c

/-- The firing telecommand of a command in a state. -/
def firing (w : World σ) (c : GroundCommand) : List (List UInt8) :=
  if w.data.currentState = .armed then
    ((telecommand w c).map Frame.bytes).toList.filter fun b => IsFireTC b
  else []

/-! ## The handlers -/

/-- The event that announces a firing, and the one that ends it. -/
theorem filterMap_pair {e e' : Event} {b : List UInt8} (he : e.fires = some b)
    (he' : e'.fires = none) : List.filterMap Event.fires [e, e'] = [b] := by
  simp [he, he']

/-- A firing of the cold gas thrusters, announced by its first event. -/
theorem told_cgFireCmd {w : World σ} {b : List UInt8}
    {fire : Option CGThrusterResultPayload → Line σ →
      ℤ × Option CGThrusterResultPayload × Line σ}
    {rejected start done failed : String} {startArgs : List ℤ}
    {doneArgs : CGThrusterResultPayload → List ℤ}
    (hstart : (⟨Eid.cgFireInf, .information, start, startArgs⟩ : Event).fires = some b) :
    Told w (cgFireCmd fire rejected start startArgs done doneArgs failed w).2
      (if w.data.currentState = .armed then [b] else []) := by
  by_cases hs : w.data.currentState = .armed
  · simp only [cgFireCmd, isArmed_iff.2 hs, not_true_eq_false, if_false, if_pos hs]
    split_ifs
    · exact ⟨[], [_, _], (List.append_nil _).symm, List.append_assoc _ _ _, rfl,
        filterMap_pair hstart rfl⟩
    · exact ⟨[], [_, _], (List.append_nil _).symm, List.append_assoc _ _ _, rfl,
        filterMap_pair hstart rfl⟩
  · rw [cgFireCmd, if_pos (mt isArmed_iff.1 hs), if_neg hs]
    exact .event rfl rfl rfl rfl

theorem told_mainThrusterFireCmd (p : MainThrusterFirePayload) (w : World σ) :
    Told w (mainThrusterFireCmd L p w).2
      (if w.data.currentState = .armed then
        [(Call.mainThrusterFire p.durationMs none).telecommand.bytes] else []) := by
  by_cases hs : w.data.currentState = .armed
  · simp only [mainThrusterFireCmd, isArmed_iff.2 hs, not_true_eq_false, if_false, if_pos hs]
    have hstart : (⟨Eid.mainFireInf, .information, "IG4U: MAIN THRUSTER FIRE. Duration=%u ms.",
        [p.durationMs.toNat]⟩ : Event).fires =
          some (Call.mainThrusterFire p.durationMs none).telecommand.bytes := by
      simp [Event.fires]
    split_ifs
    · exact ⟨[_], [_, _], rfl, List.append_assoc _ _ _, rfl, filterMap_pair hstart rfl⟩
    · exact ⟨[], [_, _], (List.append_nil _).symm, List.append_assoc _ _ _, rfl,
        filterMap_pair hstart rfl⟩
  · rw [mainThrusterFireCmd, if_pos (mt isArmed_iff.1 hs), if_neg hs]
    exact .event rfl rfl rfl rfl

theorem firing_of_not_fire {w : World σ} {c : GroundCommand} (hc : ¬IsFireCommand c) :
    firing w c = [] := by
  cases c with
  | mainThrusterFire | cgThrusterPulse | cgThrusterBurst => exact absurd trivial hc
  | _ =>
    rw [firing]
    split_ifs <;> rfl

/-- The handler of a command tells the ground what it does, unless it is silent. -/
theorem told_handle (now : SysTime) (w : World σ) (c : GroundCommand) (hc : ¬Silent L w c) :
    Told w (handle L now w c).2 (firing w c) := by
  cases c with
  | mainThrusterFire p => exact told_mainThrusterFireCmd L p w
  | cgThrusterPulse p =>
    refine told_cgFireCmd ?_
    simp [Event.fires, Eid.mainFireInf, Eid.cgFireInf]
    rfl
  | cgThrusterBurst p =>
    refine told_cgFireCmd ?_
    simp [Event.fires, Eid.mainFireInf, Eid.cgFireInf]
    rfl
  | requestHKData =>
    rw [firing_of_not_fire id, handle, requestHKDataCmd]
    simp only
    split_ifs
    · exact ⟨[_], [], rfl, (List.append_nil _).symm, rfl, rfl⟩
    · exact .event rfl rfl rfl rfl
  | requestStatus =>
    rw [firing_of_not_fire id, handle, requestStatusCmd]
    simp only
    split_ifs
    · exact ⟨[_], [_], rfl, rfl, rfl, rfl⟩
    · exact ⟨[_], [], rfl, (List.append_nil _).symm, rfl, rfl⟩
    · exact .event rfl rfl rfl rfl
  | requestFaultLog =>
    rw [firing_of_not_fire id, handle, requestFaultLogCmd]
    simp only
    split_ifs
    · exact ⟨[_], [_], rfl, rfl, rfl, rfl⟩
    · exact .event rfl rfl rfl rfl
  | setMode p =>
    rw [firing_of_not_fire id, handle, setModeCmd]
    simp only
    split_ifs with hok hstandby harmed hsafe
    · exact .event rfl rfl rfl rfl
    · exact .event rfl rfl rfl rfl
    · exact .event rfl rfl rfl rfl
    · -- The handler has no event for another mode, which is what a silent command is.
      exact absurd ⟨p, rfl, by simp [hstandby, harmed, hsafe], hok⟩ hc
    · exact .event rfl rfl rfl rfl
  | _ =>
    rw [firing_of_not_fire id]
    simp only [handle, noopCmd, resetCounterCmd, pingCmd, resetModuleCmd, armPropulsionCmd,
      disarmPropulsionCmd, mainThrusterAbortCmd, cgThrusterAbortCmd, clearFaultCmd]
    repeat' split_ifs
    all_goals exact .event rfl rfl rfl rfl

/-- A silent command is counted, and that is all. -/
theorem tells_silent (now : SysTime) {w : World σ} {c : GroundCommand} (hc : Silent L w c) :
    Tells { w with data := { w.data with cmdCounter := w.data.cmdCounter + 1 } }
      (handle L now w c).2 [] [] (firing w c) := by
  obtain ⟨p, rfl, hmode, hok⟩ := hc
  have hok' : (Cmd.setMode L p.mode w.line).1 = cmdOk := hok
  simp only [List.mem_cons, List.not_mem_nil, or_false, not_or] at hmode
  rw [firing_of_not_fire id, handle, setModeCmd]
  simp only [if_pos hok', if_neg hmode.1, if_neg hmode.2.1, if_neg hmode.2.2]
  exact ⟨(List.append_nil _).symm, (List.append_nil _).symm, rfl, rfl⟩

/-! ## The wakeup -/

theorem told_pollHK (w : World σ) : Told w (pollHK L w) [] := by
  simp only [pollHK]
  split_ifs
  · exact ⟨[_], [_], rfl, rfl, rfl, rfl⟩
  · exact ⟨[_], [], rfl, (List.append_nil _).symm, rfl, rfl⟩
  · exact .event rfl rfl rfl rfl

/-- The supervision of ARMED sends no packet. -/
theorem tells_checkArmedTimeout (now : SysTime) (w : World σ) :
    ∃ es, Tells w (checkArmedTimeout cfe L now w) [] es [] := by
  simp only [checkArmedTimeout]
  split_ifs
  · exact ⟨[_], (List.append_nil _).symm, rfl, rfl, rfl⟩
  · exact ⟨[], (List.append_nil _).symm, (List.append_nil _).symm, rfl, rfl⟩
  · exact ⟨[], (List.append_nil _).symm, (List.append_nil _).symm, rfl, rfl⟩

/-- What is told in two parts, with no packet in the second one. -/
theorem Told.trans {w w' w'' : World σ} {es : List Event} {fired fired' : List (List UInt8)}
    (h : Told w w' fired) (h' : Tells w' w'' [] es fired') : Told w w'' (fired ++ fired') := by
  obtain ⟨ts, es₁, htlm, hevs, hledger, hfires⟩ := h
  refine ⟨ts, es₁ ++ es, ?_, ?_, ?_, ?_⟩
  · rw [h'.tlm, htlm, List.append_nil]
  · rw [h'.evs, hevs, List.append_assoc]
  · rw [h'.ledger, hledger, Ledger.read, Ledger.read, Ledger.read, List.foldl_append]
    rfl
  · rw [List.filterMap_append, hfires, h'.fires]

theorem told_wakeupHandler (now : SysTime) (w : World σ) :
    Told w (wakeupHandler cfe L now w) [] := by
  obtain ⟨es, hcheck⟩ := tells_checkArmedTimeout cfe L now (pollHK L w)
  rw [wakeupHandler]
  split_ifs
  · exact .quiet rfl rfl rfl
  · exact .quiet rfl rfl rfl
  · exact (told_pollHK L w).trans hcheck

/-! ## The steps -/

theorem permitted_fire_iff {s : State} {c : GroundCommand} (hc : IsFireCommand c) :
    Permitted s c ↔ s = .armed := by
  cases c with
  | mainThrusterFire | cgThrusterPulse | cgThrusterBurst => exact Iff.rfl
  | _ => exact hc.elim

/-- The firing telecommands of a command are those it hands over. -/
theorem fireFrames_command {i : Input} {w : World σ} {c : GroundCommand}
    (ha : activity cfe i w = some (.command c)) : fireFrames cfe L i w = firing w c := by
  by_cases hc : IsFireCommand c
  · by_cases hp : Permitted w.data.currentState c
    · rw [fireFrames_eq cfe L (step_sent cfe L ha hp), firing,
        if_pos ((permitted_fire_iff hc).1 hp)]
    · rw [fireFrames, step_of_activity cfe L ha, act, handle_line_of_not_permitted L i.now hp,
        List.drop_length, firing, if_neg (mt (permitted_fire_iff hc).2 hp), List.filter_nil]
  · rw [firing_of_not_fire hc]
    rcases fireFrames_cases cfe L i w with h | ⟨-, -, c', ha', hc'⟩
    · exact h
    · cases ha.symm.trans ha'
      exact absurd hc' hc

/-- Without an activity, an error is reported at most. -/
theorem told_step_of_none {i : Input} {w : World σ} (ha : activity cfe i w = none) :
    Told w (step cfe L i w) [] := by
  by_cases hr : w.data.runStatus = .appRun
  swap
  · rw [step, if_pos hr]
    exact .quiet rfl rfl rfl
  rcases i with ⟨now, status | m⟩ <;> rw [step, if_neg (not_not.2 hr)]
  · exact .event rfl rfl rfl rfl
  simp only [activity, ne_eq, hr, not_true_eq_false, if_false] at ha
  simp only [taskPipe]
  split_ifs at ha ⊢ with hcmd hwake
  · rw [processGroundCommand]
    rcases hc : GroundCommand.ofMsg m with - | c
    · exact .event rfl rfl rfl rfl
    · have hs : c.size cfe ≠ m.size := fun hs => by simp [accepted, hc, Option.filter, hs] at ha
      simp only [verifyCmdLength, if_pos hs, Bool.false_eq_true, if_false]
      exact .event rfl rfl rfl rfl
  · exact .event rfl rfl rfl rfl

/-- A step is silent. -/
def SilentStep (i : Input) (w : World σ) : Prop :=
  ∃ c, activity cfe i w = some (.command c) ∧ Silent L w c

/-- A step tells the ground what it does, unless its command is silent. -/
theorem told_step (i : Input) (w : World σ) (hs : ¬SilentStep cfe L i w) :
    Told w (step cfe L i w) (fireFrames cfe L i w) := by
  rcases ha : activity cfe i w with - | (c | -)
  · rw [fireFrames, (step_of_none cfe L ha).line, List.drop_length, List.filter_nil]
    exact told_step_of_none cfe L ha
  · rw [fireFrames_command cfe L ha, step_of_activity cfe L ha]
    exact told_handle L i.now w c fun hc => hs ⟨c, ha, hc⟩
  · have hnone : fireFrames cfe L i w = [] := by
      rcases fireFrames_cases cfe L i w with h | ⟨-, -, c, hc, -⟩
      · exact h
      · cases ha.symm.trans hc
    rw [hnone, step_of_activity cfe L ha]
    exact told_wakeupHandler cfe L i.now w

/-- A silent step sends nothing down. -/
theorem tells_silentStep {i : Input} {w : World σ} (hs : SilentStep cfe L i w) :
    Tells { w with data := { w.data with cmdCounter := w.data.cmdCounter + 1 } }
      (step cfe L i w) [] [] (fireFrames cfe L i w) := by
  obtain ⟨c, ha, hc⟩ := hs
  rw [fireFrames_command cfe L ha, step_of_activity cfe L ha]
  exact tells_silent L i.now hc

/-- The events sent by a step. -/
def events (i : Input) (w : World σ) : List Event := (step cfe L i w).evs.drop w.evs.length

theorem events_fires (i : Input) (w : World σ) :
    (step cfe L i w).evs = w.evs ++ events cfe L i w ∧
      (events cfe L i w).filterMap Event.fires = fireFrames cfe L i w := by
  by_cases hs : SilentStep cfe L i w
  · have h := tells_silentStep cfe L hs
    have hevs : (step cfe L i w).evs = w.evs ++ [] := h.evs
    rw [events, hevs, List.drop_left]
    exact ⟨rfl, h.fires⟩
  · obtain ⟨ts, es, h⟩ := told_step cfe L i w hs
    rw [events, h.evs, List.drop_left]
    exact ⟨rfl, h.fires⟩

/-- What is handed to the HAL is never taken back. -/
theorem step_sent_append (i : Input) (w : World σ) :
    ∃ frames, (step cfe L i w).line.sent = w.line.sent ++ frames := by
  rcases ha : activity cfe i w with - | (c | -)
  · exact ⟨[], by rw [(step_of_none cfe L ha).line, List.append_nil]⟩
  · by_cases hp : Permitted w.data.currentState c
    · exact ⟨_, step_sent cfe L ha hp⟩
    · exact ⟨[], by rw [step_of_activity cfe L ha, act, handle_line_of_not_permitted L i.now hp,
        List.append_nil]⟩
  · obtain ⟨frames, h, -⟩ := wakeupHandler_sent cfe L i.now w
    exact ⟨frames, by rw [step_of_activity cfe L ha, act, h]⟩

/-! ## The runs -/

/-- Every firing telecommand that is handed to the HAL is announced by an event with its
    parameters, and every such event is followed by its telecommand: in every run, the two are the
    same, in the same order. -/
theorem announced {a : ℕ → Input} {ρ : ℕ → World σ} (hρ : IsRun (initial L) (step cfe L) a ρ)
    (n : ℕ) :
    (((ρ n).line.sent.drop (ρ 0).line.sent.length).filter fun b => IsFireTC b) =
      ((ρ n).evs.drop (ρ 0).evs.length).filterMap Event.fires := by
  have h : ∃ frames es, (ρ n).line.sent = (ρ 0).line.sent ++ frames ∧
      (ρ n).evs = (ρ 0).evs ++ es ∧
        (frames.filter fun b => IsFireTC b) = es.filterMap Event.fires := by
    refine hρ.invariant (P := fun n => ∃ frames es, (ρ n).line.sent = (ρ 0).line.sent ++ frames ∧
      (ρ n).evs = (ρ 0).evs ++ es ∧
        (frames.filter fun b => IsFireTC b) = es.filterMap Event.fires) ?_ ?_ n
    · exact ⟨[], [], (List.append_nil _).symm, (List.append_nil _).symm, rfl⟩
    · rintro k hk ⟨frames, es, hsent, hevs, heq⟩
      obtain ⟨frames', hsent'⟩ := step_sent_append cfe L (a k) (ρ k)
      obtain ⟨hevs', hfires⟩ := events_fires cfe L (a k) (ρ k)
      refine ⟨frames ++ frames', es ++ events cfe L (a k) (ρ k), ?_, ?_, ?_⟩
      · rw [hk, hsent', hsent, List.append_assoc]
      · rw [hk, hevs', hevs, List.append_assoc]
      · rw [List.filter_append, List.filterMap_append, heq, hfires, fireFrames_eq cfe L hsent']
  obtain ⟨frames, es, hsent, hevs, heq⟩ := h
  rw [hsent, hevs, List.drop_left, List.drop_left, heq]

/-- A pulse is fired as announced, although it is not answered. -/
theorem announced_pulse :
    let line := answer WireMsgid.armPropulsion [0, 4, 0, 0] (by decide)
    let a := inputs [⟨seconds 0, .ok (command Cc.armPropulsion)⟩] ⟨seconds 1, .ok pulseCommand⟩
    ((scenario line a 2).evs.drop (scenario line a 0).evs.length).filterMap Event.fires =
      [(Call.cgThrusterPulse 1 100 none).telecommand.bytes] := by
  intro line a
  rw [← announced Cfe.standard fifoLink (isRun_scenario line a) 2]
  decide +kernel

/-- The ledger of the ground at the time `n`, from what was sent down since the start. -/
def reading (w₀ : World σ) (a : ℕ → Input) (ρ : ℕ → World σ) : ℕ → Ledger
  | 0 => Ledger.boot.read [] ((ρ 0).evs.drop w₀.evs.length)
  | n + 1 => (reading w₀ a ρ n).read (published cfe L (a n) (ρ n)) (events cfe L (a n) (ρ n))

theorem ledger_init (e : InitEnv) (w₀ : World σ) :
    ∃ es, (init L e w₀).2.evs = w₀.evs ++ es ∧ (init L e w₀).2.ledger = Ledger.boot.read [] es := by
  simp only [init]
  split_ifs
  · exact ⟨[], (List.append_nil _).symm, rfl⟩
  all_goals exact ⟨[_], rfl, rfl⟩

theorem ledger_start (e : InitEnv) (w₀ : World σ) :
    (start L e w₀).ledger = Ledger.boot.read [] ((start L e w₀).evs.drop w₀.evs.length) := by
  obtain ⟨es, hevs, hledger⟩ := ledger_init L e w₀
  have h : (start L e w₀).evs = (init L e w₀).2.evs ∧
      (start L e w₀).ledger = (init L e w₀).2.ledger := by
    simp only [start]
    split_ifs <;> exact ⟨rfl, rfl⟩
  rw [h.1, h.2, hevs, List.drop_left, hledger]

theorem ledger_step {i : Input} {w : World σ} (hs : ¬SilentStep cfe L i w) :
    (step cfe L i w).ledger = w.ledger.read (published cfe L i w) (events cfe L i w) := by
  obtain ⟨ts, es, h⟩ := told_step cfe L i w hs
  rw [h.ledger, published_eq h.tlm, events, h.evs, List.drop_left]

theorem ledger_silentStep {i : Input} {w : World σ} (hs : SilentStep cfe L i w) :
    (step cfe L i w).ledger = { w.ledger with cmdCounter := w.ledger.cmdCounter + 1 } ∧
      published cfe L i w = [] ∧ events cfe L i w = [] := by
  have h := tells_silentStep cfe L hs
  have hevs : (step cfe L i w).evs = w.evs ++ [] := h.evs
  have htlm : (step cfe L i w).tlm = w.tlm ++ [] := h.tlm
  exact ⟨h.ledger, published_eq htlm, by rw [events, hevs, List.drop_left]⟩

/-- The world before a scenario. -/
def beforeStart (line : List UInt8) : World (Hal.State (List UInt8)) :=
  ⟨default, ⟨List.replicate packetMaxTotal 0, [], ⟨false, line, []⟩⟩, [], []⟩

theorem isRun_start (line : List UInt8) (a : ℕ → Input) :
    IsRun {start fifoLink .ok (beforeStart line)} (step Cfe.standard fifoLink) a
      (scenario line a) :=
  .of_along (Set.mem_singleton _) a

section

variable {e : InitEnv} {w₀ : World σ} {a : ℕ → Input} {ρ : ℕ → World σ}

/-- In every run, the error counter, the counters of the firings and the state can be told from
    what was sent down, at all times. -/
theorem audited (hρ : IsRun {start L e w₀} (step cfe L) a ρ) (n : ℕ) :
    (ρ n).ledger.Alike (reading cfe L w₀ a ρ n) := by
  induction n with
  | zero =>
    rw [hρ.init, reading, hρ.init, ← ledger_start]
    exact ⟨rfl, rfl, rfl, rfl⟩
  | succ n ih =>
    rw [hρ.step n, reading]
    by_cases hs : SilentStep cfe L (a n) (ρ n)
    · obtain ⟨hledger, htlm, hevs⟩ := ledger_silentStep cfe L hs
      rw [hledger, htlm, hevs]
      exact ⟨ih.errCounter, ih.mainFireCount, ih.cgFireCount, ih.state⟩
    · rw [ledger_step cfe L hs]
      exact ih.read _ _

/-- The ground can tell that the pulse has failed. -/
theorem audited_pulse :
    let line := answer WireMsgid.armPropulsion [0, 4, 0, 0] (by decide)
    let a := inputs [⟨seconds 0, .ok (command Cc.armPropulsion)⟩] ⟨seconds 1, .ok pulseCommand⟩
    let l := reading Cfe.standard fifoLink (beforeStart line) a (scenario line a) 2
    l.errCounter = 1 ∧ l.cgFireCount = 0 ∧ l.state = .safe := by
  intro line a l
  have h : (scenario line a 2).ledger.Alike l :=
    audited Cfe.standard fifoLink (isRun_start line a) 2
  rw [← h.errCounter, ← h.cgFireCount, ← h.state]
  decide +kernel

/-- The command counter can be told exactly up to the first Set Mode with another mode than
    STANDBY, ARMED and SAFE whose call returns `IG4U_CMD_OK`. -/
theorem audited_iff (hρ : IsRun {start L e w₀} (step cfe L) a ρ) (n : ℕ) :
    (∀ k ≤ n, (ρ k).ledger = reading cfe L w₀ a ρ k) ↔ ∀ k < n, ¬SilentStep cfe L (a k) (ρ k) := by
  refine hρ.invariant_iff_until (P := fun k => (ρ k).ledger = reading cfe L w₀ a ρ k) ?_ ?_ n
  · rw [hρ.init, reading, hρ.init, ← ledger_start]
  · intro k hk h
    rw [hk, reading, ← h]
    by_cases hs : SilentStep cfe L (a k) (ρ k)
    · obtain ⟨hledger, htlm, hevs⟩ := ledger_silentStep cfe L hs
      rw [hledger, htlm, hevs]
      -- The counter has moved, but nothing was sent down to tell.
      refine iff_of_false (fun he => ?_) (not_not.2 hs)
      have hcmd : (ρ k).ledger.cmdCounter + 1 = (ρ k).ledger.cmdCounter :=
        congrArg Ledger.cmdCounter he
      simp at hcmd
    · exact iff_of_true (ledger_step cfe L hs) hs

end

/-- With a Set Mode(7) whose call returns `IG4U_CMD_OK`, the ground loses count. -/
theorem audited_iff_setMode :
    let line := answer WireMsgid.setMode [0, 3, 0, 0] (by decide)
    let a := inputs [] ⟨seconds 0, .ok (setModeCommand 7)⟩
    ∃ k ≤ 1, (scenario line a k).ledger ≠
      reading Cfe.standard fifoLink (beforeStart line) a (scenario line a) k := by
  intro line a
  by_contra! h
  refine (audited_iff Cfe.standard fifoLink (isRun_start line a) 1).1 h 0 Nat.one_pos ?_
  exact ⟨.setMode ⟨7⟩, by decide +kernel, ⟨7⟩, rfl, by decide, by decide +kernel⟩

end App

end Ig4u
