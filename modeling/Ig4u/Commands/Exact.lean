import Ig4u.Commands.Converse
import Ig4u.Hal.Peer

/-!
# The commands and the documented format

The commands over the HAL and the line to a payload that keeps to the documented format, in which
the frames follow each other with nothing between them, and that gives at most one answer to a
telecommand. The receiver then waits for two bytes that do not come. It gives up after it has taken
the whole answer from the line.

* `LineIdle`: nothing is to be read.
* `run_exact`: a call that waits for a packet fails, and leaves the line idle.
-/

namespace Ig4u.Hal

open Lib Proto Cmd

/-- The HAL over the line to the payload, with nothing between the frames. -/
def exactLink (short : CfeStatus) (p : Peer) : Link (State Wire) :=
  Hal.link (p.srl short fun _ => [])

/-- The HAL is initialised, and nothing is to be read. -/
def LineIdle (s : Line (State Wire)) : Prop := Idle s.link.drv.writes s.link

theorem Idle.self {n : ℕ} {w : State Wire} (h : Idle n w) : Idle w.drv.writes w :=
  ⟨h.initialized, rfl, h.rx⟩

variable (short : CfeStatus) {p : Peer} {n : ℕ} {s : Line (State Wire)}

/-- The line after handing over a telecommand. -/
theorem handOver_exact (hp : p.Answering) (hs : Idle n s.link) (F : Frame) :
    ((handOver (exactLink short p) F s).1 = halOk ↔ p.accepts n = .success) ∧
      Pending (fun _ => []) (n + 1) (p.answer n F) (handOver (exactLink short p) F s).2.link :=
  hp.pending_send short _ hs F (s.txBuf.drop F.bytes.length)

/-- A call that waits for a packet fails, and every call leaves the line idle, if the telecommand
    of a call that does not wait is not answered. -/
theorem run_exact (hp : p.Answering) {c : Call} (hc : ¬c.IsNullRequest) (hs : LineIdle s)
    (hquiet : c.expects = [] → p.answer s.link.drv.writes c.telecommand = none) :
    (c.expects ≠ [] → (c.run (exactLink short p) s).1 ≠ cmdOk) ∧
      LineIdle (c.run (exactLink short p) s).2 := by
  obtain ⟨hcode, hpending⟩ := handOver_exact short hp hs c.telecommand
  rw [c.run_converse _ hc, converse]
  by_cases hsend : (handOver (exactLink short p) c.telecommand s).1 = halOk
  · rw [if_pos hsend]
    rcases hes : c.expects with - | ⟨e, es⟩
    · rw [hquiet hes] at hpending
      exact ⟨fun h => absurd rfl h, hpending.idle.self⟩
    · -- The first packet expected is not received.
      obtain ⟨hrecv, hidle⟩ := hpending.recv_exact p short (List.replicate packetMaxTotal 0)
        uartTimeoutMs fun _ => hp.answer_fits
      have hv : verdict (exactLink short p) e (handOver (exactLink short p) c.telecommand s).2 =
          cmdErrTimeout := if_pos hrecv
      have hfail : verdict (exactLink short p) e (handOver (exactLink short p) c.telecommand s).2 ≠
          cmdOk := by
        rw [hv]
        decide
      rw [receiveAll_cons_fail hfail]
      exact ⟨fun _ => hfail, hidle.self⟩
  · -- What cannot be written is not answered.
    have hnone : p.answer s.link.drv.writes c.telecommand = none := if_neg (mt hcode.2 hsend)
    rw [hnone] at hpending
    rw [if_neg hsend]
    exact ⟨fun _ => show cmdErrSend ≠ cmdOk by decide, hpending.idle.self⟩

end Ig4u.Hal
