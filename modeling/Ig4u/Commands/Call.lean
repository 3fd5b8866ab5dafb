import Ig4u.Commands.Exchange

/-!
# Calls of the wire-level commands

A `Call` is one of the wire-level commands with its arguments, `none` for an output
pointer being `NULL`.

* `Call.run_sent`: a call hands its telecommand to the HAL, once, unless it is a
  request without a place for the reply.
-/

namespace Ig4u

open Lib Proto Cmd

/-- A wire-level command with its arguments. -/
inductive Call
  | ping
  | resetModule
  | setMode (mode : UInt8)
  | armPropulsion
  | disarmPropulsion
  | requestHKData (out : Option ReplyHKDataPayload)
  | requestStatus (out : Option ReplyStatusPayload)
  | mainThrusterFire (durationMs : UInt32) (out : Option MainThrusterResultPayload)
  | mainThrusterAbort
  | cgThrusterPulse (thrusterId : UInt8) (durationMs : UInt16)
      (out : Option CGThrusterResultPayload)
  | cgThrusterBurst (thrusterId : UInt8) (pulseDurationMs pulseCount intervalMs : UInt16)
      (out : Option CGThrusterResultPayload)
  | cgThrusterAbort
  | requestFaultLog (out : Option ReplyFaultLogPayload)
  | clearFault
  deriving DecidableEq, Repr

namespace Call

variable {σ : Type*} (L : Link σ)

/-- The call: its return code, and the line after it. -/
def run (s : Line σ) : Call → ℤ × Line σ
  | ping => Cmd.ping L s
  | resetModule => Cmd.resetModule L s
  | setMode mode => Cmd.setMode L mode s
  | armPropulsion => Cmd.armPropulsion L s
  | disarmPropulsion => Cmd.disarmPropulsion L s
  | requestHKData out =>
    let r := Cmd.requestHKData L out s
    (r.1, r.2.2)
  | requestStatus out =>
    let r := Cmd.requestStatus L out s
    (r.1, r.2.2)
  | mainThrusterFire durationMs out =>
    let r := Cmd.mainThrusterFire L durationMs out s
    (r.1, r.2.2)
  | mainThrusterAbort => Cmd.mainThrusterAbort L s
  | cgThrusterPulse thrusterId durationMs out =>
    let r := Cmd.cgThrusterPulse L thrusterId durationMs out s
    (r.1, r.2.2)
  | cgThrusterBurst thrusterId pulseDurationMs pulseCount intervalMs out =>
    let r := Cmd.cgThrusterBurst L thrusterId pulseDurationMs pulseCount intervalMs out s
    (r.1, r.2.2)
  | cgThrusterAbort => Cmd.cgThrusterAbort L s
  | requestFaultLog out =>
    let r := Cmd.requestFaultLog L out s
    (r.1, r.2.2)
  | clearFault => Cmd.clearFault L s

/-- The telecommand of a call. -/
def telecommand : Call → Frame
  | ping => .tc WireMsgid.ping [] (by decide)
  | resetModule => .tc WireMsgid.resetModule [] (by decide)
  | setMode mode => .tc WireMsgid.setMode [mode, 0, 0, 0] (by simp)
  | armPropulsion => .tc WireMsgid.armPropulsion [] (by decide)
  | disarmPropulsion => .tc WireMsgid.disarmPropulsion [] (by decide)
  | requestHKData _ => .tc WireMsgid.requestHk [] (by decide)
  | requestStatus _ => .tc WireMsgid.requestStatus [] (by decide)
  | mainThrusterFire durationMs _ =>
    .tc WireMsgid.mainFire (wrLE32 durationMs) (by simp [wrLE32])
  | mainThrusterAbort => .tc WireMsgid.mainAbort [] (by decide)
  | cgThrusterPulse thrusterId durationMs _ =>
    .tc WireMsgid.cgPulse ([thrusterId, 0] ++ wrLE16 durationMs) (by simp [wrLE16])
  | cgThrusterBurst thrusterId pulseDurationMs pulseCount intervalMs _ =>
    .tc WireMsgid.cgBurst
      ([thrusterId, 0] ++ wrLE16 pulseDurationMs ++ wrLE16 pulseCount ++ wrLE16 intervalMs)
      (by simp [wrLE16])
  | cgThrusterAbort => .tc WireMsgid.cgAbort [] (by decide)
  | requestFaultLog _ => .tc WireMsgid.requestFaultLog [] (by decide)
  | clearFault => .tc WireMsgid.clearFault [] (by decide)

/-- A request without a place for the reply, which fails at once. -/
def IsNullRequest : Call → Prop
  | requestHKData out => out = none
  | requestStatus out => out = none
  | requestFaultLog out => out = none
  | _ => False

/-- A request without a place for the reply does nothing. -/
theorem run_of_isNullRequest {c : Call} (hc : c.IsNullRequest) (s : Line σ) :
    c.run L s = (cmdErrParse, s) := by
  cases c <;> first | cases hc; rfl | exact hc.elim

/-- A call hands its telecommand to the HAL, once, unless it is a request without a place
    for the reply. -/
theorem run_sent {c : Call} (hc : ¬c.IsNullRequest) (s : Line σ) :
    (c.run L s).2.sent = s.sent ++ [c.telecommand.bytes] := by
  cases c with
  | setMode mode => exact defaultCommand_sent L _ (.self [mode, 0, 0, 0]) (by simp) s
  | mainThrusterFire durationMs out => exact mainThrusterFire_sent L _ _ s
  | cgThrusterPulse => exact cgFire_sent L _ _ _ _ s
  | cgThrusterBurst => exact cgFire_sent L _ _ _ _ s
  | mainThrusterAbort => exact sendTC_sent L _ .null (by decide) s
  | cgThrusterAbort => exact sendTC_sent L _ .null (by decide) s
  | requestHKData out =>
    obtain ⟨_, rfl⟩ := Option.ne_none_iff_exists'.1 hc
    exact replyCommand_sent L _ .null (by decide) _ _ _ s
  | requestStatus out =>
    obtain ⟨_, rfl⟩ := Option.ne_none_iff_exists'.1 hc
    exact replyCommand_sent L _ .null (by decide) _ _ _ s
  | requestFaultLog out =>
    obtain ⟨_, rfl⟩ := Option.ne_none_iff_exists'.1 hc
    exact replyCommand_sent L _ .null (by decide) _ _ _ s
  | _ => exact defaultCommand_sent L _ .null (by decide) s

end Call

end Ig4u
