import Ig4u.Lib.Run
import Ig4u.Channel.Basic

/-!
# Answers and calls

Answers carry no number, and the queue of answers is never emptied: the only thing
a command checks is the identifier. A late answer to a call that timed out is
accepted by the next call that awaits the same identifier.

* `correlation`: what a command that succeeds has accepted are answers to its own
  telecommand or to earlier ones, and only to its own exactly if no earlier answer was
  outstanding when it was called.
-/

namespace Ig4u.Channel

open Lib Proto Cmd

variable (P : Payload)

/-- The lines with a fresh channel. -/
def initial : Set (Line Channel) := { s | s.link = Channel.empty }

/-- The step of a sequence of calls. -/
def step (c : Call) (s : Line Channel) : Line Channel := (c.run (Channel.link P) s).2

/-- The answers received by the call `n` of a run. -/
def received (ρ : ℕ → Line Channel) (n : ℕ) : List Answer :=
  (ρ (n + 1)).link.taken.drop (ρ n).link.taken.length

/-- If the call `n` of a run waits for an answer and succeeds, it has accepted answers to
    its own telecommand only. -/
def Correlated (a : ℕ → Call) (ρ : ℕ → Line Channel) (n : ℕ) : Prop :=
  (a n).Waits → ((a n).run (Channel.link P) (ρ n)).1 = cmdOk →
    ∀ A ∈ received ρ n, A.tc = (ρ n).link.sends

variable {P} {a : ℕ → Call} {ρ : ℕ → Line Channel}

/-- The answers that are emitted for a telecommand carry its number. -/
theorem afterSend_queue (s : Channel) (tc : Frame) :
    ∃ new, (s.afterSend P tc).queue = s.queue ++ new ∧ ∀ A ∈ new, A.tc = s.sends := by
  refine ⟨_, rfl, fun A hA => ?_⟩
  split_ifs at hA
  · obtain ⟨F, -, rfl⟩ := List.mem_map.1 hA
    rfl
  · cases hA

/-- The outstanding answers are to earlier calls. -/
theorem tc_lt_sends (hρ : IsRun initial (step P) a ρ) (n : ℕ) :
    ∀ A ∈ (ρ n).link.queue, A.tc < (ρ n).link.sends := by
  refine hρ.invariant (P := fun n => ∀ A ∈ (ρ n).link.queue, A.tc < (ρ n).link.sends)
    ?_ (fun n hn ih => ?_) n
  · rw [show (ρ 0).link = Channel.empty from hρ.init]
    nofun
  · rw [hn, step]
    by_cases hnull : (a n).IsNullRequest
    · rw [Call.run_of_isNullRequest _ hnull]
      exact ih
    obtain ⟨acc, hacc, -⟩ := Call.run_received P hnull (ρ n)
    obtain ⟨new, hqueue, hnew⟩ := afterSend_queue (P := P) (ρ n).link (a n).telecommand
    intro A hA
    have hmem : A ∈ (ρ n).link.queue ++ new := by
      rw [← hqueue, hacc.queue]
      exact List.mem_append_right _ hA
    -- What is left was outstanding before, or answers the telecommand of the call.
    rw [hacc.sends]
    rcases List.mem_append.1 hmem with h | h
    · exact (ih A h).trans (Nat.lt_succ_self _)
    · rw [hnew A h]
      exact Nat.lt_succ_self _

/-- A call that waits for answers and succeeds has accepted at least one. They carry the identifier
    it awaits, and are answers to its own telecommand or to an earlier one; all of
    them are to its own exactly if no earlier answer was outstanding. -/
theorem correlation (hρ : IsRun initial (step P) a ρ) {n : ℕ} (hw : (a n).Waits)
    (hok : ((a n).run (Channel.link P) (ρ n)).1 = cmdOk) :
    received ρ n ≠ [] ∧
      (∀ A ∈ received ρ n, A.Accepted (a n).awaits ∧ A.tc ≤ (ρ n).link.sends) ∧
      ((∀ A ∈ received ρ n, A.tc = (ρ n).link.sends) ↔ (ρ n).link.queue = []) := by
  have hnull : ¬(a n).IsNullRequest := fun h => by
    rw [Call.run_of_isNullRequest _ h] at hok
    exact absurd hok (show cmdErrParse ≠ cmdOk by decide)
  obtain ⟨acc, hacc, haccepted⟩ := Call.run_received P hnull (ρ n)
  obtain ⟨hne, haccepted⟩ := haccepted hok
  have hreceived : received ρ n = acc := by
    rw [received, hρ.step n, step, hacc.taken]
    exact List.drop_left
  obtain ⟨new, hqueue, hnew⟩ := afterSend_queue (P := P) (ρ n).link (a n).telecommand
  rw [hacc.queue] at hqueue
  have htc : ∀ A ∈ acc, A ∈ (ρ n).link.queue ∨ A.tc = (ρ n).link.sends := fun A hA => by
    have hmem : A ∈ (ρ n).link.queue ++ new := hqueue ▸ List.mem_append_left _ hA
    exact (List.mem_append.1 hmem).imp_right (hnew A)
  rw [hreceived]
  refine ⟨hne hw, fun A hA => ⟨haccepted A hA, ?_⟩, fun hown => ?_, fun hempty A hA => ?_⟩
  · rcases htc A hA with h | h
    · exact (tc_lt_sends hρ n A h).le
    · exact h.le
  · -- The oldest of the outstanding answers would have been received first.
    rcases hq : (ρ n).link.queue with - | ⟨B, queue⟩
    · rfl
    obtain ⟨A, rest, rfl⟩ := List.exists_cons_of_ne_nil (hne hw)
    rw [hq] at hqueue
    obtain rfl : A = B := (List.cons.inj hqueue).1
    have hlt := tc_lt_sends hρ n A (hq ▸ List.mem_cons_self)
    exact absurd (hown A List.mem_cons_self) hlt.ne
  · exact (htc A hA).resolve_left (by rw [hempty]; nofun)

/-! ## A late answer -/

/-- A payload that acknowledges every telecommand, with the first answer late for the first
    receive. -/
def latePayload : Payload where
  sendCode _ := halOk
  answers _ tc :=
    [.sealed packetVersion msgtypeResponse (tc.getD offsetMsgid 0) [resultAck, 0, 0, 0] (by decide)]
  arrived k := k ≠ 0

/-- The states along the calls `a`. -/
def calls (P : Payload) (a : ℕ → Call) : ℕ → Line Channel := along (step P) a freshLine

theorem isRun_calls (P : Payload) (a : ℕ → Call) : IsRun initial (step P) a (calls P a) :=
  .of_along (show freshLine ∈ initial from rfl) a

/-- The second of two Pings has accepted the answer to the first one, which timed out. -/
theorem correlation_late :
    ((Call.ping).run (Channel.link latePayload) (calls latePayload (fun _ => .ping) 1)).1 = cmdOk ∧
      (calls latePayload (fun _ => .ping) 1).link.queue ≠ [] ∧
      ¬∀ A ∈ received (calls latePayload fun _ => .ping) 1,
        A.tc = (calls latePayload (fun _ => .ping) 1).link.sends := by
  have hok : ((Call.ping).run (Channel.link latePayload)
      (calls latePayload (fun _ => .ping) 1)).1 = cmdOk := by decide +kernel
  have hqueue : (calls latePayload (fun _ => .ping) 1).link.queue ≠ [] := by decide +kernel
  have h := correlation (isRun_calls latePayload fun _ => .ping) (n := 1) trivial hok
  exact ⟨hok, hqueue, fun hown => hqueue (h.2.2.1 hown)⟩

/-- Commands are not correlated with their answers. -/
theorem not_correlated :
    ∃ (P : Payload) (a : ℕ → Call) (ρ : ℕ → Line Channel),
      IsRun initial (step P) a ρ ∧ ¬Correlated P a ρ 1 := by
  refine ⟨latePayload, fun _ => .ping, calls latePayload fun _ => .ping, isRun_calls _ _, ?_⟩
  intro h
  have hown := h trivial (by decide +kernel)
  revert hown
  decide +kernel

end Ig4u.Channel
