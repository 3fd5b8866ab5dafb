import Ig4u.App.Telemetry

/-!
# The results of firings

A firing command in ARMED ends in STANDBY if its call succeeds, and in SAFE if it fails. The
call succeeds with any result of the payload that it can parse, and for a Main
Thruster Fire of duration `0` it does so without a result.

* `fault_iff`: a fault in the result is swallowed exactly if the call accepts the result.
* `evident_iff`: a Main Thruster Fire is declared finished without a result exactly if its
  duration is `0` and its Default Response is received.
-/

namespace Ig4u.App

open Lib Proto Cmd

variable {σ : Type*} (cfe : Cfe) (L : Link σ)

/-! ## Firings -/

/-- A firing that ends by itself. -/
inductive Firing
  | main (durationMs : UInt32) (pos : 0 < durationMs)
  | pulse (p : CGThrusterPulsePayload)
  | burst (p : CGThrusterBurstPayload)

namespace Firing

/-- The ground command. -/
def command : Firing → GroundCommand
  | main durationMs _ => .mainThrusterFire ⟨durationMs⟩
  | pulse p => .cgThrusterPulse p
  | burst p => .cgThrusterBurst p

/-- The call that its handler makes. -/
def call : Firing → Call
  | main durationMs _ => .mainThrusterFire durationMs (some default)
  | pulse p => .cgThrusterPulse p.thrusterID p.durationMs (some default)
  | burst p =>
    .cgThrusterBurst p.thrusterID p.pulseDurationMs p.pulseCount p.intervalMs (some default)

/-- The packets that the call waits for before the result. -/
def acks : Firing → List Expected
  | main .. => [.defaultResponse WireMsgid.mainFire]
  | _ => []

/-- The result that the call waits for. -/
def result : Firing → Expected
  | main .. => .mainResult
  | pulse p => .cgResult WireMsgid.cgPulse p.thrusterID
  | burst p => .cgResult WireMsgid.cgBurst p.thrusterID

/-- The offset of the field `Result`. -/
def resultOffset : Firing → ℕ
  | main .. => 0
  | _ => 2

/-- The offset of the field `FaultFlags`. -/
def flagsOffset : Firing → ℕ
  | main .. => 4
  | _ => 6

variable (f : Firing)

theorem expects_call : f.call.expects = f.acks ++ [f.result] := by
  cases f with
  | main durationMs pos => simp [call, Call.expects, acks, result, pos]
  | _ => rfl

/-- The packet that the payload returns as the result. -/
def resultPacket (w : World σ) : Option Packet :=
  nextPacket L f.call.telecommand f.acks w.line

/-- The packet reports a fault, in its field `Result` or with a flag. -/
def ReportsFault (P : Packet) : Prop :=
  f.result.minLen ≤ P.len ∧
    (P.payload.getD f.resultOffset 0 = fireResultFault ∨
      rdLE16 P.payload f.flagsOffset ≠ faultNone)

instance (P : Packet) : Decidable (f.ReportsFault P) := inferInstanceAs (Decidable (_ ∧ _))

variable {f} {w : World σ}

/-- The call succeeds exactly if it accepts the result that is returned. -/
theorem wireOk_iff {P : Packet} (hP : f.resultPacket L w = some P) :
    WireOk L w f.command ↔ f.result.Accepts P := by
  have hcall : wireCall L w f.command = f.call.run L w.line := by cases f <;> rfl
  have hnull : ¬f.call.IsNullRequest := by cases f <;> exact id
  rw [WireOk, hcall, Call.run_ok_iff L hnull, Call.exchange, expects_call]
  exact exchange_append_isSome hP

theorem isFireCommand (f : Firing) : IsFireCommand f.command := by cases f <;> exact trivial

end Firing

/-! ## Faults -/

/-- The states into which a fault is to take a firing. -/
def Protective (s : State) : Prop := s = .safe ∨ s = .fault

instance (s : State) : Decidable (Protective s) := inferInstanceAs (Decidable (_ ∨ _))

variable {cfe L} in
/-- The state after a firing protects from the fault its result reports exactly if the call
    does not accept the result. -/
theorem protective_step_iff {i : Input} {w : World σ} {f : Firing} {P : Packet}
    (ha : activity cfe i w = some (.command f.command)) (hw : w.data.currentState = .armed)
    (hP : f.resultPacket L w = some P) :
    (f.ReportsFault P → Protective (step cfe L i w).data.currentState) ↔
      ¬(f.ReportsFault P ∧ P.msgId = f.result.msgId) := by
  rw [state_step_fire cfe L ha f.isFireCommand hw]
  by_cases hfault : f.ReportsFault P
  · have hok : WireOk L w f.command ↔ P.msgId = f.result.msgId := by
      rw [Firing.wireOk_iff L hP, Expected.Accepts, and_iff_left hfault.1]
    by_cases hid : P.msgId = f.result.msgId
    · simp [hfault, hid, hok, Protective]
    · simp [hid, hok, Protective]
  · simp [hfault]

/-- Along every run, a fault that the result of a firing in ARMED reports is not swallowed exactly
    if it reports none, or has not the identifier that the call awaits. -/
theorem fault_iff {a : ℕ → Input} {ρ : ℕ → World σ}
    (hρ : IsRun (initial L) (step cfe L) a ρ) {n : ℕ} {f : Firing} {P : Packet}
    (ha : activity cfe (a n) (ρ n) = some (.command f.command))
    (hw : (ρ n).data.currentState = .armed) (hP : f.resultPacket L (ρ n) = some P) :
    (f.ReportsFault P → Protective (ρ (n + 1)).data.currentState) ↔
      ¬(f.ReportsFault P ∧ P.msgId = f.result.msgId) := by
  rw [hρ.step n]
  exact protective_step_iff ha hw hP

/-- A CG Thruster Burst with the documented result, which has the identifier of the telecommand,
    ends in SAFE. -/
theorem fault_burst :
    let p : CGThrusterBurstPayload := ⟨1, 100, 5, 50⟩
    let line := answer WireMsgid.armPropulsion [0, 4, 0, 0] (by decide) ++
      answer WireMsgid.cgBurst [31, 1, 2, 0, 3, 0, 1, 0] (by decide)
    let a := inputs [⟨seconds 0, .ok (command Cc.armPropulsion)⟩]
      ⟨seconds 1, .ok { command Cc.cgThrusterBurst with size := 16, cgThrusterBurst := p }⟩
    ∃ P, (Firing.burst p).resultPacket fifoLink (scenario line a 1) = some P ∧
      (Firing.burst p).ReportsFault P ∧ Protective (scenario line a 2).data.currentState := by
  intro p line a
  obtain ⟨P, hP, hfault, hid⟩ : ∃ P ∈ (Firing.burst p).resultPacket fifoLink (scenario line a 1),
      (Firing.burst p).ReportsFault P ∧ P.msgId ≠ WireMsgid.cgResult := by decide +kernel
  have ha : activity Cfe.standard (a 1) (scenario line a 1) =
      some (.command (Firing.burst p).command) := by decide +kernel
  have hw : (scenario line a 1).data.currentState = .armed := by decide +kernel
  have h := (fault_iff Cfe.standard fifoLink (isRun_scenario line a) ha hw hP).2
    (fun h => hid h.2) hfault
  rw [show scenario line a (1 + 1) = scenario line a 2 from rfl] at h
  exact ⟨P, hP, hfault, h⟩

/-- A Main Thruster Fire that the payload has stopped because of a fault ends in STANDBY. -/
theorem not_protective_main :
    ∃ (a : ℕ → Input) (ρ : ℕ → World (Hal.State (List UInt8))) (f : Firing) (P : Packet),
      IsRun (initial fifoLink) (step Cfe.standard fifoLink) a ρ ∧
        activity Cfe.standard (a 1) (ρ 1) = some (.command f.command) ∧
        (ρ 1).data.currentState = .armed ∧ f.resultPacket fifoLink (ρ 1) = some P ∧
        f.ReportsFault P ∧ (ρ 2).data.currentState = .standby ∧
        ¬Protective (ρ 2).data.currentState := by
  let f : Firing := .main 1000 (by decide)
  let line := answer WireMsgid.armPropulsion [0, 4, 0, 0] (by decide) ++
    answer WireMsgid.mainFire [0, 20, 0, 0] (by decide) ++
    answer WireMsgid.mainResult [fireResultFault, 0, 100, 0, 1, 0, 0, 0] (by decide)
  let a := inputs [⟨seconds 0, .ok (command Cc.armPropulsion)⟩]
    ⟨seconds 1, .ok { command Cc.mainThrusterFire with
      size := 12, mainThrusterFire := ⟨1000⟩ }⟩
  obtain ⟨P, hP, hfault⟩ : ∃ P ∈ f.resultPacket fifoLink (scenario line a 1), f.ReportsFault P := by
    decide +kernel
  have hstandby : (scenario line a 2).data.currentState = .standby := by decide +kernel
  refine ⟨a, scenario line a, f, P, isRun_scenario _ _, by decide +kernel, by decide +kernel, hP,
    hfault, hstandby, ?_⟩
  rw [hstandby]
  decide

/-! ## Evidence -/

/-- The call behind a Main Thruster Fire. -/
def mainFireCall (p : MainThrusterFirePayload) : Call :=
  .mainThrusterFire p.durationMs (some default)

/-- The telemetry is the content of a Main Thruster Result. -/
structure ResultOf (t : MainThrusterResultPayload) (P : Packet) : Prop where
  msgId : P.msgId = WireMsgid.mainResult
  len : 6 ≤ P.len
  result : t.result = P.payload.getD 0 0
  actualDurationMs : t.actualDurationMs = rdLE16 P.payload 2
  faultFlags : t.faultFlags = rdLE16 P.payload 4

/-- The commands allowed to end a continuous firing. -/
def EndsFiring : GroundCommand → Prop
  | .mainThrusterAbort | .cgThrusterAbort | .resetModule | .disarmPropulsion | .setMode _
  | .clearFault | .requestStatus => True
  | _ => False

section

variable (a : ℕ → Input) (ρ : ℕ → World σ)

/-- After the time `n`, the state is FIRING until a command that may end this is handled. -/
def StaysFiring (n : ℕ) : Prop :=
  ∀ m, n < m →
    (∀ k, n < k → k < m → ∀ c, activity cfe (a k) (ρ k) = some (.command c) → ¬EndsFiring c) →
      (ρ m).data.currentState = .firing

/-- The Main Thruster Fire handled at the time `n` is only declared finished on evidence. -/
structure Evident (p : MainThrusterFirePayload) (n : ℕ) : Prop where
  /-- STANDBY, or a packet, needs a result that was received after the acknowledgement. -/
  finished : (ρ (n + 1)).data.currentState = .standby ∨
      (∃ t, .fireResult t ∈ published cfe L (a n) (ρ n)) →
    ∃ A P t, (mainFireCall p).exchange L (ρ n).line = some [A, P] ∧ ResultOf t P ∧
      published cfe L (a n) (ρ n) = [.fireResult t]
  /-- A continuous firing goes on. -/
  continuous : p.durationMs = 0 → ((mainFireCall p).exchange L (ρ n).line).isSome →
    StaysFiring cfe a ρ n

end

variable {cfe L} {i : Input} {w : World σ} {p : MainThrusterFirePayload}

/-- What a Main Thruster Fire in ARMED publishes. -/
theorem published_mainThrusterFire
    (ha : activity cfe i w = some (.command (.mainThrusterFire p)))
    (hw : w.data.currentState = .armed) :
    published cfe L i w =
      if WireOk L w (.mainThrusterFire p) then
        [.fireResult ((Cmd.mainThrusterFire L p.durationMs (some default) w.line).2.1.getD default)]
      else [] := by
  rw [published_command ha]
  by_cases hok : WireOk L w (.mainThrusterFire p)
  · have hcall : (Cmd.mainThrusterFire L p.durationMs (some default) w.line).1 = cmdOk := hok
    simp only [commandTlm, if_pos (And.intro hw hok), if_pos hok]
    simp [handle, mainThrusterFireCmd, isArmed_iff.2 hw, hcall]
  · simp only [commandTlm, if_neg hok, if_neg fun h : _ ∧ _ => hok h.2]

/-- A firing that ends by itself succeeds with the result it publishes. -/
theorem resultOf_wireOk (hp : 0 < p.durationMs) (hok : WireOk L w (.mainThrusterFire p)) :
    ∃ A P, (mainFireCall p).exchange L w.line = some [A, P] ∧
      ResultOf
        ((Cmd.mainThrusterFire L p.durationMs (some default) w.line).2.1.getD default) P := by
  have hexchange : (mainFireCall p).exchange L w.line =
      exchange L (.tc WireMsgid.mainFire (wrLE32 p.durationMs) (by simp [wrLE32]))
        [.defaultResponse WireMsgid.mainFire, .mainResult] w.line := by
    simp [mainFireCall, Call.exchange, Call.expects, Call.telecommand, hp]
  rcases mainThrusterFire_cases L hp default w.line with ⟨A, P, t, hx, ht, hout, -⟩ | ⟨-, -, hfail⟩
  swap
  · exact absurd hok hfail
  -- The second packet is the one expected as the result.
  obtain ⟨-, hP⟩ := List.forall₂_cons.1 (accepts_of_exchange hx)
  have hid : P.msgId = WireMsgid.mainResult := (List.forall₂_cons.1 hP).1.1
  refine ⟨A, P, hexchange.trans hx, ?_⟩
  rw [hout, Option.getD_some]
  simp only [parseMainResult] at ht
  split_ifs at ht with hlen
  cases ht
  exact ⟨hid, not_lt.1 hlen, rfl, rfl, rfl⟩

/-- Without a duration, the call only waits for the acknowledgement. -/
theorem exchange_of_zero (hp : p.durationMs = 0) {Ps : List Packet}
    (h : (mainFireCall p).exchange L w.line = some Ps) : Ps.length = 1 := by
  have hexpects : (mainFireCall p).expects = [.defaultResponse WireMsgid.mainFire] := by
    simp [mainFireCall, Call.expects, hp]
  rw [Call.exchange, hexpects] at h
  exact (accepts_of_exchange h).length_eq.symm

variable (cfe L) in
/-- Along every run, a Main Thruster Fire in ARMED is only declared finished on evidence exactly if
    it is no continuous firing whose Default Response is received. -/
theorem evident_iff {a : ℕ → Input} {ρ : ℕ → World σ}
    (hρ : IsRun (initial L) (step cfe L) a ρ) {n : ℕ} {p : MainThrusterFirePayload}
    (ha : activity cfe (a n) (ρ n) = some (.command (.mainThrusterFire p)))
    (hw : (ρ n).data.currentState = .armed) :
    Evident cfe L a ρ p n ↔
      ¬(p.durationMs = 0 ∧ ((mainFireCall p).exchange L (ρ n).line).isSome) := by
  have hok : WireOk L (ρ n) (.mainThrusterFire p) ↔
      ((mainFireCall p).exchange L (ρ n).line).isSome :=
    Call.run_ok_iff L (c := mainFireCall p) id _
  have hstate := state_step_fire cfe L ha (show IsFireCommand (.mainThrusterFire p) from trivial) hw
  rw [← hρ.step n] at hstate
  constructor
  · rintro h ⟨hp, hsome⟩
    obtain ⟨A, P, t, hx, -⟩ := h.finished (.inl (by rw [hstate, if_pos (hok.2 hsome)]))
    exact absurd (exchange_of_zero hp hx) (by simp)
  · intro h
    refine ⟨fun hdone => ?_, fun hp hsome => absurd ⟨hp, hsome⟩ h⟩
    have hpub := published_mainThrusterFire (L := L) ha hw
    by_cases hwire : WireOk L (ρ n) (.mainThrusterFire p)
    · have hp : 0 < p.durationMs := UInt32.pos_iff_ne_zero.2 fun hp => h ⟨hp, hok.1 hwire⟩
      obtain ⟨A, P, hx, ht⟩ := resultOf_wireOk hp hwire
      exact ⟨A, P, _, hx, ht, by rw [hpub, if_pos hwire]⟩
    · -- The firing has failed.
      rw [hstate, hpub, if_neg hwire, if_neg hwire] at hdone
      rcases hdone with hdone | ⟨t, ht⟩
      · cases hdone
      · cases ht

/-- A Main Thruster Fire of `1000` ms is only declared finished with its result. -/
theorem evident_result :
    let line := answer WireMsgid.armPropulsion [0, 4, 0, 0] (by decide) ++
      answer WireMsgid.mainFire [0, 20, 0, 0] (by decide) ++
      answer WireMsgid.mainResult [0, 0, 0xE8, 3, 0, 0, 0, 0] (by decide)
    let a := inputs [⟨seconds 0, .ok (command Cc.armPropulsion)⟩]
      ⟨seconds 1, .ok { command Cc.mainThrusterFire with
        size := 12, mainThrusterFire := ⟨1000⟩ }⟩
    (scenario line a 2).data.currentState = .standby ∧
      Evident Cfe.standard fifoLink a (scenario line a) ⟨1000⟩ 1 := by
  intro line a
  refine ⟨by decide +kernel, ?_⟩
  exact (evident_iff Cfe.standard fifoLink (isRun_scenario line a) (n := 1) (by decide +kernel)
    (by decide +kernel)).2 fun h => absurd h.1 (by decide)

/-- A continuous firing whose Default Response is received is declared finished at once, with
    zeros for its result. -/
theorem not_evident_continuous :
    ∃ (a : ℕ → Input) (ρ : ℕ → World (Hal.State (List UInt8))),
      IsRun (initial fifoLink) (step Cfe.standard fifoLink) a ρ ∧
        activity Cfe.standard (a 1) (ρ 1) = some (.command (.mainThrusterFire ⟨0⟩)) ∧
        (ρ 1).data.currentState = .armed ∧ (ρ 2).data.currentState = .standby ∧
        published Cfe.standard fifoLink (a 1) (ρ 1) = [.fireResult default] ∧
        ¬Evident Cfe.standard fifoLink a ρ ⟨0⟩ 1 := by
  let line := answer WireMsgid.armPropulsion [0, 4, 0, 0] (by decide) ++
    answer WireMsgid.mainFire [0, 20, 0, 0] (by decide)
  let a := inputs [⟨seconds 0, .ok (command Cc.armPropulsion)⟩]
    ⟨seconds 1, .ok { command Cc.mainThrusterFire with size := 12 }⟩
  have hsome : ((mainFireCall ⟨0⟩).exchange fifoLink (scenario line a 1).line).isSome := by
    decide +kernel
  have hstandby : (scenario line a 2).data.currentState = .standby := by decide +kernel
  refine ⟨a, scenario line a, isRun_scenario _ _, by decide +kernel, by decide +kernel, hstandby,
    by decide +kernel, fun h => ?_⟩
  have hfinished := h.finished
  rw [show scenario line a (1 + 1) = scenario line a 2 from rfl] at hfinished
  obtain ⟨A, P, t, hx, -⟩ := hfinished (.inl hstandby)
  exact absurd (exchange_of_zero (p := ⟨0⟩) rfl hx) (by simp)

end Ig4u.App
