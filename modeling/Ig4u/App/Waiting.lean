import Ig4u.App.Provenance
import Ig4u.Hal.Waiting

/-!
# How long a message takes

The application handles one message after the other, and waits for the payload meanwhile. A link
*costs* at most `a` for a send and `b` for a receive, by some measure of its states (`Link.Costs`).

* `Call.run_debt`: a call costs one send and the receives it expects.
* `step_debt`: a message costs at most two sends and two receives.
* `waits`: so the driver is let wait at most `4` s for a message, and `10` ms more for every byte
  received meanwhile.
-/

namespace Ig4u

open Lib Proto Cmd

variable {σ : Type*} {L : Link σ} {debt : σ → ℤ} {a b : ℤ}

/-- A send costs at most `a`, and a receive at most `b`. -/
structure Link.Costs (L : Link σ) (debt : σ → ℤ) (a b : ℤ) : Prop where
  send_nonneg : 0 ≤ a
  recv_nonneg : 0 ≤ b
  send : ∀ (F : Frame) (rest : List UInt8) (s : σ),
    debt (L.send (F.bytes ++ rest) F.bytes.length s).2 ≤ debt s + a
  recv : ∀ s, debt (L.recv (List.replicate packetMaxTotal 0) packetMaxTotal uartTimeoutMs s).2.2 ≤
    debt s + b

section

variable (hL : L.Costs debt a b)

include hL

theorem Cmd.afterRecv_iterate_debt (k : ℕ) (s : Line σ) :
    debt ((afterRecv L)^[k] s).link ≤ debt s.link + k * b := by
  induction k generalizing s with
  | zero => simp
  | succ k ih =>
    have hrecv : debt (afterRecv L s).link ≤ debt s.link + b := hL.recv s.link
    have hrest := ih (afterRecv L s)
    rw [Function.iterate_succ_apply]
    push_cast
    linarith

/-- A call costs one send and the receives it expects. -/
theorem Call.run_debt (c : Call) (s : Line σ) :
    debt (c.run L s).2.link ≤ debt s.link + (a + c.expects.length * b) := by
  have ha := hL.send_nonneg
  have hb := hL.recv_nonneg
  by_cases hc : c.IsNullRequest
  · rw [run_of_isNullRequest L hc]
    have hmul : 0 ≤ (c.expects.length : ℤ) * b := by positivity
    simp only
    linarith
  · obtain ⟨k, hk, hline, -⟩ := c.run_line L hc s
    have hsend : debt (handOver L c.telecommand s).2.link ≤ debt s.link + a :=
      hL.send c.telecommand _ s.link
    have hrecv := afterRecv_iterate_debt hL k (handOver L c.telecommand s).2
    have hmul : (k : ℤ) * b ≤ c.expects.length * b :=
      mul_le_mul_of_nonneg_right (Nat.cast_le.2 hk) hb
    rw [hline]
    linarith

end

namespace App

variable (cfe : Cfe) (hL : L.Costs debt a b)

include hL

theorem handle_debt (now : SysTime) (w : World σ) (c : GroundCommand) :
    debt (handle L now w c).2.line.link ≤ debt w.line.link + (2 * a + 2 * b) := by
  have ha := hL.send_nonneg
  have hb := hL.recv_nonneg
  by_cases hp : Permitted w.data.currentState c
  swap
  · rw [handle_line_of_not_permitted L now hp]
    linarith
  rw [handle_line L now hp, wireCall]
  rcases wireCommand w.data c with - | call
  · simp only
    linarith
  · have hrun := call.run_debt hL w.line
    have hmul : (call.expects.length : ℤ) * b ≤ 2 * b :=
      mul_le_mul_of_nonneg_right (by exact_mod_cast call.length_expects_le) hb
    simp only
    linarith

theorem wakeupHandler_debt (now : SysTime) (w : World σ) :
    debt (wakeupHandler cfe L now w).line.link ≤ debt w.line.link + (2 * a + 2 * b) := by
  have ha := hL.send_nonneg
  have hb := hL.recv_nonneg
  have hpoll : debt (pollHK L w).line.link ≤ debt w.line.link + (a + b) := by
    have hline : (pollHK L w).line = ((pollCall w).run L w.line).2 := by
      simp only [pollHK]
      split_ifs <;> rfl
    rw [hline]
    exact ((pollCall w).run_debt hL w.line).trans_eq (by simp [pollCall, Call.expects])
  have hcheck (v : World σ) :
      debt (checkArmedTimeout cfe L now v).line.link ≤ debt v.line.link + (a + b) := by
    have hset : debt (Cmd.setMode L modeStandby v.line).2.link ≤ debt v.line.link + (a + b) :=
      ((Call.setMode modeStandby).run_debt hL v.line).trans_eq (by simp [Call.expects])
    simp only [checkArmedTimeout]
    split_ifs
    · exact hset
    · simp only [World.update_line]
      linarith
    · linarith
  rw [wakeupHandler]
  split_ifs
  · linarith
  · linarith
  · have hboth := hcheck (pollHK L w)
    linarith

/-- A message costs at most two sends and two receives. -/
theorem step_debt (i : Input) (w : World σ) :
    debt (step cfe L i w).line.link ≤ debt w.line.link + (2 * a + 2 * b) := by
  have ha := hL.send_nonneg
  have hb := hL.recv_nonneg
  rcases hact : activity cfe i w with - | (c | -)
  · rw [(step_of_none cfe L hact).line]
    linarith
  · rw [step_of_activity cfe L hact]
    exact handle_debt hL i.now w c
  · rw [step_of_activity cfe L hact]
    exact wakeupHandler_debt cfe hL i.now w

theorem run_debt {init : Set (World σ)} {x : ℕ → Input} {ρ : ℕ → World σ}
    (hρ : IsRun init (step cfe L) x ρ) (m n : ℕ) :
    debt (ρ (m + n)).line.link ≤ debt (ρ m).line.link + n * (2 * a + 2 * b) := by
  induction n with
  | zero => simp
  | succ n ih =>
    have hstep := step_debt cfe hL (x (m + n)) (ρ (m + n))
    rw [← Nat.add_assoc, hρ.step (m + n)]
    push_cast
    linarith

end App

/-! ## The HAL -/

/-- Over a driver that counts its bytes, the HAL waits half a second for a send, and one and a half
    for a receive. -/
theorem hal_costs {δ : Type*} {d : Srl δ} (hd : d.Counts) :
    (Hal.link d.tapped).Costs (fun s => Traffic.debt s.drv.2) 500 1500 where
  send_nonneg := by decide
  recv_nonneg := by decide
  send F rest s := by
    have hlen : F.bytes.length ≠ 0 := by
      rw [F.length_bytes, packetOverheadBytes]
      omega
    exact Hal.send_debt hlen s
  recv s := Hal.recv_debt hd (by decide) _ _ s

namespace App

variable {δ : Type*} (cfe : Cfe)

/-- In every run over any driver that counts its bytes, the driver is let wait at most `4` s for a
    message, and `10` ms more for every byte received meanwhile. -/
theorem waits {d : Srl δ} (hd : d.Counts) {x : ℕ → Input}
    {ρ : ℕ → World (Hal.State (δ × List Traffic))}
    (hρ : IsRun (initial (Hal.link d.tapped)) (step cfe (Hal.link d.tapped)) x ρ) (m n : ℕ) :
    Traffic.waited (ρ (m + n)).line.link.drv.2 +
        10 * (Traffic.received (ρ m).line.link.drv.2).length ≤
      Traffic.waited (ρ m).line.link.drv.2 + 4000 * n +
        10 * (Traffic.received (ρ (m + n)).line.link.drv.2).length := by
  have h := run_debt cfe (hal_costs hd) hρ m n
  simp only [Traffic.debt] at h
  omega

/-- Two wakeups on a silent line, the first of which ends ARMED. -/
theorem waits_timeout :
    let line := answer WireMsgid.armPropulsion [0, 4, 0, 0] (by decide)
    let x := inputs [⟨seconds 0, .ok (command Cc.armPropulsion)⟩] ⟨seconds 60, .ok wakeupMsg⟩
    let L := Hal.link (Hal.fifo .success).tapped
    let ρ := along (step Cfe.standard L) x (start L .ok (tappedWorld (beforeStart line)))
    Traffic.waited (ρ 3).line.link.drv.2 = 4500 ∧
      Traffic.waited (ρ 3).line.link.drv.2 ≤ Traffic.waited (ρ 1).line.link.drv.2 + 4000 * 2 := by
  intro line x L ρ
  have h₀ : start L .ok (tappedWorld (beforeStart line)) ∈ initial L := ⟨_, _, rfl⟩
  have hρ : IsRun (initial L) (step Cfe.standard L) x ρ := .of_along h₀ x
  have hreceived : (Traffic.received (ρ 1).line.link.drv.2).length =
      (Traffic.received (ρ 3).line.link.drv.2).length := by decide +kernel
  have h := waits Cfe.standard (Hal.fifo_counts .success) hρ 1 2
  rw [show 1 + 2 = 3 from rfl, hreceived] at h
  exact ⟨by decide +kernel, Nat.le_of_add_le_add_right h⟩

end App

end Ig4u
