import Ig4u.App.Interlock
import Ig4u.Commands.Parsers

/-!
# The results of the cold gas thrusters

A CG Thruster Result has the identifier of the telecommand it answers. Both firings of the
cold gas thrusters wait for the one identifier that is that of a CG Pulse.

* `recognises_iff`: the documented result is recognised exactly if it answers a CG Pulse.
  After a CG Burst it is refused, and the application goes to SAFE.
-/

namespace Ig4u.App

open Lib Proto Cmd

variable {σ : Type*} (cfe : Cfe) (L : Link σ)

/-- A firing of the cold gas thrusters. -/
inductive CgFiring
  | pulse (p : CGThrusterPulsePayload)
  | burst (p : CGThrusterBurstPayload)

namespace CgFiring

/-- The identifier of the telecommand, and of its documented result. -/
def msgId : CgFiring → UInt8
  | pulse _ => WireMsgid.cgPulse
  | burst _ => WireMsgid.cgBurst

/-- The ground command. -/
def command : CgFiring → GroundCommand
  | pulse p => .cgThrusterPulse p
  | burst p => .cgThrusterBurst p

/-- The wire-level command with an output pointer. -/
def call (out : CGThrusterResultPayload) : CgFiring → Call
  | pulse p => .cgThrusterPulse p.thrusterID p.durationMs (some out)
  | burst p => .cgThrusterBurst p.thrusterID p.pulseDurationMs p.pulseCount p.intervalMs (some out)

/-- The call: its return code, the output after it, and the line after it. -/
def fire (out : CGThrusterResultPayload) (s : Line σ) :
    CgFiring → ℤ × Option CGThrusterResultPayload × Line σ
  | pulse p => cgThrusterPulse L p.thrusterID p.durationMs (some out) s
  | burst p =>
    cgThrusterBurst L p.thrusterID p.pulseDurationMs p.pulseCount p.intervalMs (some out) s

variable (f : CgFiring)

theorem isFireCommand : IsFireCommand f.command := by cases f <;> exact trivial

theorem wireCall_command (w : World σ) :
    wireCall L w f.command = ((f.fire L default w.line).1, (f.fire L default w.line).2.2) := by
  cases f <;> rfl

variable {L f} in
/-- The output has no part in the exchange. -/
theorem answered_call {out out' : CGThrusterResultPayload} {s : Line σ} {msgId : UInt8}
    {payload : List UInt8} (h : Answered L (f.call out) s msgId payload) :
    Answered L (f.call out') s msgId payload := by
  cases f <;> exact h

end CgFiring

/-- The content of a CG Thruster Result. -/
def cgResultOf (payload : List UInt8) : CGThrusterResultPayload :=
  ⟨payload.getD 0 0, payload.getD 1 0, payload.getD 2 0, 0, rdLE16 payload 4, rdLE16 payload 6⟩

/-- A CG Thruster Result reports a fault. -/
def CgFault (r : CGThrusterResultPayload) : Prop :=
  r.result = fireResultFault ∨ r.faultFlags ≠ faultNone

/-- The payload of the answer to a firing is recognised as its result: the call succeeds with it,
    and the handler does not go to SAFE, unless the result reports a fault. -/
structure Recognises (i : Input) (w : World σ) (f : CgFiring) (payload : List UInt8) : Prop where
  call : ∀ out, (f.fire L out w.line).1 = cmdOk ∧
    (f.fire L out w.line).2.1 = some (cgResultOf payload)
  handler : activity cfe i w = some (.command f.command) → w.data.currentState = .armed →
    ¬CgFault (cgResultOf payload) → (step cfe L i w).data.currentState ≠ .safe

variable {L} {w : World σ} {f : CgFiring} {payload : List UInt8}

/-- What the parser makes of a CG Thruster Result, whatever follows it. -/
theorem parseCGResult_append (out : CGThrusterResultPayload) (rest : List UInt8)
    (hlen : 8 ≤ payload.length) :
    parseCGResult out (payload ++ rest) payload.length = some (cgResultOf payload) := by
  have hget : ∀ i < 8, (payload ++ rest).getD i 0 = payload.getD i 0 := fun i hi =>
    List.getD_append _ _ _ _ (hi.trans_le hlen)
  have hword : ∀ i, i + 1 < 8 → rdLE16 (payload ++ rest) i = rdLE16 payload i := fun i hi => by
    rw [rdLE16, rdLE16, hget i (by omega), hget (i + 1) hi]
  rw [parseCGResult, if_neg (not_lt.2 hlen), hget 0 (by decide), hget 1 (by decide),
    hget 2 (by decide), hword 4 (by decide), hword 6 (by decide), cgResultOf]

/-- The result of a CG Pulse is accepted. -/
theorem fire_pulse {p : CGThrusterPulsePayload} (out : CGThrusterResultPayload)
    (h : Answered L ((CgFiring.pulse p).call out) w.line WireMsgid.cgPulse payload)
    (hlen : 8 ≤ payload.length) :
    ((CgFiring.pulse p).fire L out w.line).1 = cmdOk ∧
      ((CgFiring.pulse p).fire L out w.line).2.1 = some (cgResultOf payload) :=
  reply_of_answered (e := .cgResult WireMsgid.cgPulse p.thrusterID) h hlen
    (cgFire_cases L WireMsgid.cgPulse p.thrusterID _ _ out w.line)
    fun rest => parseCGResult_append out rest hlen

/-- The documented result of a CG Burst is not. -/
theorem fire_burst {p : CGThrusterBurstPayload} (out : CGThrusterResultPayload)
    (h : Answered L ((CgFiring.burst p).call out) w.line WireMsgid.cgBurst payload) :
    ((CgFiring.burst p).fire L out w.line).1 ≠ cmdOk := by
  obtain ⟨P, -, hP, -, hid, -⟩ := received_of_delivers h.2
  intro hok
  have hx : (exchange L ((CgFiring.burst p).call out).telecommand
      [.cgResult WireMsgid.cgBurst p.thrusterID] w.line).isSome := by
    have := (cgFire_ok_iff L WireMsgid.cgBurst p.thrusterID _ (by simp [wrLE16]) (some out)
      w.line).1 hok
    rwa [if_pos (Option.isSome_some)] at this
  rw [exchange_of_sent h.1, replies_cons_none fun P' hP' ha => ?_] at hx
  · cases hx
  · -- The identifier awaited is that of a CG Pulse.
    obtain rfl : P = P' := Option.some.inj (hP.symm.trans hP')
    have : WireMsgid.cgBurst = WireMsgid.cgResult := hid.symm.trans ha.1
    exact absurd this (by decide)

/-- The documented answer to a firing of the cold gas thrusters is recognised exactly if it is
    a CG Pulse. -/
theorem recognises_iff (i : Input)
    (h : Answered L (f.call default) w.line f.msgId payload) (hlen : 8 ≤ payload.length) :
    Recognises cfe L i w f payload ↔ ∃ p, f = .pulse p := by
  cases f with
  | pulse p =>
    refine iff_of_true ⟨fun out => ?_, fun ha hw _ => ?_⟩ ⟨p, rfl⟩
    · exact fire_pulse out (CgFiring.answered_call h) hlen
    have hok : WireOk L w (CgFiring.pulse p).command := by
      rw [WireOk, CgFiring.wireCall_command]
      exact (fire_pulse default h hlen).1
    rw [state_step_fire cfe L ha (CgFiring.isFireCommand _) hw, if_pos hok]
    decide
  | burst p =>
    refine iff_of_false (fun hr => fire_burst default h (hr.call default).1) ?_
    rintro ⟨q, hq⟩
    cases hq

/-- A CG Pulse in ARMED, and its result. -/
theorem recognises_pulse :
    let result : List UInt8 := [30, 1, 0, 0, 100, 0, 0, 0]
    let line := answer WireMsgid.armPropulsion [0, 4, 0, 0] (by decide) ++
      answer WireMsgid.cgPulse result (by decide)
    let a := inputs [⟨seconds 0, .ok (command Cc.armPropulsion)⟩] ⟨seconds 1, .ok pulseCommand⟩
    (scenario line a 1).data.currentState = .armed ∧
      Recognises Cfe.standard fifoLink (a 1) (scenario line a 1) (.pulse ⟨1, 100⟩) result := by
  intro result line a
  have hresult : Answered fifoLink ((CgFiring.pulse ⟨1, 100⟩).call default)
      (scenario line a 1).line WireMsgid.cgPulse result :=
    ⟨by decide +kernel, .sealed packetVersion msgtypeResponse _ _ (by decide), Frame.valid_sealed,
      rfl, rfl, rfl, by decide +kernel, by decide +kernel⟩
  exact ⟨by decide +kernel,
    (recognises_iff Cfe.standard (f := .pulse ⟨1, 100⟩) (a 1) hresult (by decide)).2 ⟨_, rfl⟩⟩

/-- A CG Burst in ARMED is answered by its result, without a fault: the call fails, and the
    application goes to SAFE. -/
theorem not_recognises_burst :
    let p : CGThrusterBurstPayload := ⟨1, 100, 2, 50⟩
    let result : List UInt8 := [31, 1, 0, 0, 100, 0, 0, 0]
    let line := answer WireMsgid.armPropulsion [0, 4, 0, 0] (by decide) ++
      answer WireMsgid.cgBurst result (by decide)
    let a := inputs [⟨seconds 0, .ok (command Cc.armPropulsion)⟩]
      ⟨seconds 1, .ok { command Cc.cgThrusterBurst with size := 16, cgThrusterBurst := p }⟩
    let w := scenario line a 1
    w.data.currentState = .armed ∧ ¬CgFault (cgResultOf result) ∧
      Answered fifoLink ((CgFiring.burst p).call default) w.line WireMsgid.cgBurst result ∧
      (step Cfe.standard fifoLink (a 1) w).data.currentState = .safe ∧
      ¬Recognises Cfe.standard fifoLink (a 1) w (.burst p) result := by
  intro p result line a w
  have hfault : ¬CgFault (cgResultOf result) := not_or.2 ⟨by decide, not_not.2 (by decide)⟩
  have harmed : w.data.currentState = .armed := by decide +kernel
  have hact : activity Cfe.standard (a 1) w = some (.command (.cgThrusterBurst p)) := by
    decide +kernel
  have hsafe : (step Cfe.standard fifoLink (a 1) w).data.currentState = .safe := by decide +kernel
  refine ⟨harmed, hfault, ?_, hsafe, fun hr => ?_⟩
  · exact ⟨by decide +kernel, .sealed packetVersion msgtypeResponse _ _ (by decide),
      Frame.valid_sealed, rfl, rfl, rfl, by decide +kernel, by decide +kernel⟩
  · exact hr.handler hact harmed hfault hsafe

end Ig4u.App
