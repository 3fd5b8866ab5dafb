import Ig4u.CommTest.Report
import Ig4u.Commands.Exact

/-!
# What the communication test tests

The test over the HAL and the line to a payload that gives at most one answer to a telecommand,
at once.

* `Conforms`: the answers the procedure wants in a repetition.
* `runAll_green_iff`: with two bytes of filling after every answer, the two bytes that the receiver
  takes too many, the test counts no failure exactly if the payload conforms in every repetition.
  The frame with the wrong CRC may be answered in any way.
* `runAll_exact`: without the filling, which the documented format does not have, the test counts
  the same as on a link on which nothing is received, whatever the payload answers.
-/

namespace Ig4u

open Lib Proto Cmd Hal

/-- A frame is taken for the packet expected. -/
def Cmd.Expected.Takes (e : Expected) (F : Frame) : Prop :=
  F.Valid ∧ F.msgId = e.msgId ∧ e.minLen ≤ F.payload.length

instance (e : Expected) (F : Frame) : Decidable (e.Takes F) :=
  inferInstanceAs (Decidable (_ ∧ _))

/-- The Reply Status in the payload of a frame. -/
def Frame.status (F : Frame) : ReplyStatusPayload :=
  ⟨F.payload.getD 0 0, F.payload.getD 1 0, rdLE16 F.payload 2, F.payload.getD 4 0⟩

namespace CommTest

/-- The answers wanted in a repetition, whose first telecommand has the number `n`. -/
structure Conforms (p : Peer) (n : ℕ) : Prop where
  ping : ∃ F ∈ p.answer n Call.ping.telecommand,
    (Expected.defaultResponse WireMsgid.ping).Takes F
  standby : ∃ F ∈ p.answer (n + 1) (Call.requestStatus none).telecommand,
    Expected.replyStatus.Takes F ∧ F.status.mode = State.standby.toByte
  noFault : ∃ F ∈ p.answer (n + 2) (Call.requestStatus none).telecommand,
    Expected.replyStatus.Takes F ∧ F.status.faultFlags = faultNone
  hk : ∃ F ∈ p.answer (n + 3) (Call.requestHKData none).telecommand, Expected.replyHk.Takes F
  setArmed : ∃ F ∈ p.answer (n + 4) (Call.setMode modeArmed).telecommand,
    (Expected.defaultResponse WireMsgid.setMode).Takes F
  armed : ∃ F ∈ p.answer (n + 5) (Call.requestStatus none).telecommand,
    Expected.replyStatus.Takes F ∧ F.status.mode = State.armed.toByte
  setStandby : ∃ F ∈ p.answer (n + 6) (Call.setMode modeStandby).telecommand,
    (Expected.defaultResponse WireMsgid.setMode).Takes F
  standbyAgain : ∃ F ∈ p.answer (n + 7) (Call.requestStatus none).telecommand,
    Expected.replyStatus.Takes F ∧ F.status.mode = State.standby.toByte
  unknown : ∀ F ∈ p.answer (n + 8) unknownTC, F.Valid ∧ 4 ≤ F.payload.length ∧
    F.payload.getD 0 0 = resultNack ∧ F.payload.getD 1 0 = unknownMsgId
  pingAgain : ∃ F ∈ p.answer (n + 10) Call.ping.telecommand,
    (Expected.defaultResponse WireMsgid.ping).Takes F

variable {short : CfeStatus} {fill : Frame → List UInt8} {p : Peer} {n : ℕ}
  {s : Line (Hal.State Wire)}

/-! ## An exchange on an idle line -/

/-- The bytes from the payload of a frame on. -/
theorem drop_bytes (F : Frame) (rest : List UInt8) :
    (F.bytes ++ rest).drop offsetPayload =
      F.payload ++ ([lowByte F.crc, highByte F.crc] ++ rest) := by
  rw [Frame.bytes, List.append_assoc, List.append_assoc, List.drop_left' (by simp)]

/-- What is received of an answer: the packet in it, if the frame is valid. The line is idle
    afterwards. -/
theorem recv_pending (short : CfeStatus) (p : Peer) (hfill : ∀ F, (fill F).length = 2)
    {A : Option Frame} {w : Hal.State Wire} (hs : Pending fill n A w)
    (hfits : ∀ F ∈ A, F.payload.length + 11 ≤ packetMaxTotal) (buf : List UInt8) :
    let r := (Hal.link (p.srl short fill)).recv buf packetMaxTotal uartTimeoutMs w
    Idle n r.2.2 ∧ (A = none → r.1 ≤ 0) ∧ ∀ F ∈ A, 0 < r.1 ∧ ∃ rest, packetIn (r.1, r.2.1) =
      if F.Valid then some ⟨F.msgType, F.msgId, F.payload ++ rest, F.payload.length⟩ else none := by
  intro r
  rcases A with - | F
  · obtain ⟨hcode, hidle⟩ := hs.idle.recv fill p short buf uartTimeoutMs
    exact ⟨hidle, fun _ => hcode, fun F hF => by cases hF⟩
  · obtain ⟨hcode, hbuf, hidle⟩ :=
      hs.recv_filled p short buf uartTimeoutMs hfill (hfits F rfl)
    refine ⟨hidle, fun h => absurd h (Option.some_ne_none _), fun G hG => ?_⟩
    obtain rfl := Option.some.inj hG
    have hlen := F.length_bytes
    simp only [packetOverheadBytes] at hlen
    have hr : r.1 = F.payload.length + 11 := hcode
    have hr' : r.2.1 = F.bytes ++ (fill F ++ buf.drop (F.payload.length + 11)) := by
      rw [← List.append_assoc]
      exact congrArg (Option.getD · buf) hbuf
    have hpacket := packetIn_frame F (fill F ++ buf.drop (F.payload.length + 11))
      (n := r.1) (by omega)
    rw [drop_bytes, ← hr'] at hpacket
    exact ⟨by omega, _, hpacket⟩

/-! ## The parts of the test -/

/-- Switching the power and the link leaves an idle line idle, as does waiting. -/
def Platform.Quiet (E : Platform (Hal.State Wire)) : Prop := ∀ n, E.Keeps (Idle n)

/-- From an idle line, a part of the test sends `k` telecommands and leaves the line idle, and all
    its verdicts are in favour exactly if `Q`. -/
structure Trace.Checks (t : Trace (Hal.State Wire)) (k : ℕ) (Q : ℕ → Prop) : Prop where
  idle : ∀ n s, Idle n s.link → Idle (n + k) (t s).1.link
  green : ∀ n s, Idle n s.link → (false ∉ (t s).2.1 ↔ Q n)

/-- One part after the other, with the number of the next telecommand handed on. -/
theorem Trace.Checks.andThen {t t' : Trace (Hal.State Wire)} {k k' : ℕ} {Q Q' : ℕ → Prop}
    (h : t.Checks k Q) (h' : t'.Checks k' Q') :
    (t.andThen t').Checks (k + k') fun n => Q n ∧ Q' (n + k) where
  idle n s hs := Nat.add_assoc n k k' ▸ h'.idle _ _ (h.idle n s hs)
  green n s hs := by
    rw [Trace.andThen, List.mem_append, not_or, h.green n s hs, h'.green _ _ (h.idle n s hs)]

theorem onPlatform_checks {f : Hal.State Wire → Hal.State Wire}
    (hf : ∀ n w, Idle n w → Idle n (f w)) : (onPlatform f).Checks 0 fun _ => True where
  idle n s hs := hf n s.link hs
  green _ _ _ := iff_of_true List.not_mem_nil trivial

theorem skip_checks : skip.Checks 0 fun _ => True where
  idle _ _ hs := hs
  green _ _ _ := iff_of_true List.not_mem_nil trivial

section

variable (short) (hfill : ∀ F, (fill F).length = 2) (hp : p.Answering)

include hfill hp

/-- What is received of the answer to a telecommand, with the line idle afterwards. -/
theorem received_answer (hs : Idle n s.link) (F : Frame) :
    let L := Hal.link (p.srl short fill)
    let s' := (handOver L F s).2
    Idle (n + 1) (afterRecv L s').link ∧
      ∃ rest : Frame → List UInt8, ∀ Q, received L s' = some Q ↔ ∃ G ∈ p.answer n F,
        G.Valid ∧ Q = ⟨G.msgType, G.msgId, G.payload ++ rest G, G.payload.length⟩ := by
  intro L s'
  obtain ⟨-, hpending⟩ := hp.pending_send short fill hs F (s.txBuf.drop F.bytes.length)
  obtain ⟨hidle, hnone, hsome⟩ := recv_pending short p hfill hpending
    (fun _ => hp.answer_fits) (List.replicate packetMaxTotal 0)
  refine ⟨hidle, ?_⟩
  rcases hA : p.answer n F with - | G
  · have hreceived : received L s' = none := if_neg fun h => not_lt.2 (hnone hA) h.1
    rw [hreceived]
    exact ⟨fun _ => [], fun Q => iff_of_false (Option.some_ne_none _).symm
      fun ⟨G, hG, _⟩ => by cases hG⟩
  · obtain ⟨-, rest, hpacket⟩ := hsome G hA
    have hreceived : received L s' = _ := hpacket
    rw [hreceived]
    refine ⟨fun _ => rest, fun Q => ⟨fun h => ?_, ?_⟩⟩
    · split_ifs at h with hv
      exact ⟨G, rfl, hv, (Option.some.inj h).symm⟩
    · rintro ⟨H, hH, hv, rfl⟩
      obtain rfl := Option.some.inj hH
      exact if_pos hv

/-- The verdict on the answer. -/
theorem verdict_answer (hs : Idle n s.link) (F : Frame) (e : Expected) :
    verdict (Hal.link (p.srl short fill)) e (handOver (Hal.link (p.srl short fill)) F s).2 =
      cmdOk ↔ ∃ G ∈ p.answer n F, e.Takes G := by
  obtain ⟨-, rest, hreceived⟩ := received_answer short hfill hp hs F
  rw [verdict_ok_iff]
  constructor
  · rintro ⟨Q, hQ, hid, hlen⟩
    obtain ⟨G, hG, hv, rfl⟩ := (hreceived Q).1 hQ
    exact ⟨G, hG, hv, hid, hlen⟩
  · rintro ⟨G, hG, hv, hid, hlen⟩
    exact ⟨_, (hreceived _).2 ⟨G, hG, hv, rfl⟩, hid, hlen⟩

/-- A call that waits for one packet, from an idle line. -/
theorem run_checks {c : Call} {e : Expected} (hc : ¬c.IsNullRequest) (he : c.expects = [e])
    (hs : Idle n s.link) :
    let r := c.run (Hal.link (p.srl short fill)) s
    Idle (n + 1) r.2.link ∧ (r.1 = cmdOk ↔ ∃ F ∈ p.answer n c.telecommand, e.Takes F) := by
  set L := Hal.link (p.srl short fill) with hL
  have hpending : ((handOver L c.telecommand s).1 = halOk ↔ p.accepts n = .success) ∧
      Pending fill (n + 1) (p.answer n c.telecommand) (handOver L c.telecommand s).2.link :=
    hp.pending_send short fill hs c.telecommand _
  obtain ⟨hcode, hpending⟩ := hpending
  rw [c.run_converse _ hc, he, converse]
  by_cases hsend : (handOver L c.telecommand s).1 = halOk
  · obtain ⟨hidle, -⟩ := received_answer short hfill hp hs c.telecommand
    rw [if_pos hsend, ← verdict_answer short hfill hp hs c.telecommand e]
    by_cases hv : verdict L e (handOver L c.telecommand s).2 = cmdOk
    · rw [receiveAll_cons hv]
      exact ⟨hidle, iff_of_true rfl hv⟩
    · rw [receiveAll_cons_fail hv]
      exact ⟨hidle, Iff.rfl⟩
  · -- What cannot be sent is not answered.
    have hnone : p.answer n c.telecommand = none := if_neg (mt hcode.2 hsend)
    rw [hnone] at hpending ⊢
    rw [if_neg hsend]
    refine ⟨hpending.idle, iff_of_false (show cmdErrSend ≠ cmdOk by decide) ?_⟩
    rintro ⟨F, hF, -⟩
    cases hF

/-- A call that should succeed. -/
theorem ask_checks {c : Call} {e : Expected} (hc : ¬c.IsNullRequest) (he : c.expects = [e]) :
    (ask (Hal.link (p.srl short fill)) c).Checks 1 fun n =>
      ∃ F ∈ p.answer n c.telecommand, e.Takes F where
  idle _ _ hs := (run_checks short hfill hp hc he hs).1
  green _ _ hs := by
    rw [← (run_checks short hfill hp hc he hs).2]
    simp [ask]

/-- The housekeeping data, whose values do not matter. -/
theorem askHK_checks : (askHK (Hal.link (p.srl short fill))).Checks 1 fun n =>
    ∃ F ∈ p.answer n (Call.requestHKData none).telecommand, Expected.replyHk.Takes F where
  idle _ _ hs := (run_checks short hfill hp (c := .requestHKData (some default))
    (Option.some_ne_none _) rfl hs).1
  green _ s hs :=
    (show _ ↔ (Call.run (Hal.link (p.srl short fill)) s (.requestHKData (some default))).1 =
      cmdOk by simp [askHK, Call.run]).trans
    (run_checks short hfill hp (c := .requestHKData (some default)) (Option.some_ne_none _) rfl
      hs).2

/-- What a Request Status that succeeds leaves in its output. -/
theorem requestStatus_output (hs : Idle n s.link) (out : ReplyStatusPayload)
    (hok : (Cmd.requestStatus (Hal.link (p.srl short fill)) (some out) s).1 = cmdOk) :
    ∃ F ∈ p.answer n (Call.requestStatus none).telecommand, Expected.replyStatus.Takes F ∧
      (Cmd.requestStatus (Hal.link (p.srl short fill)) (some out) s).2.1 = some F.status := by
  obtain ⟨Q, hx, hparse, -⟩ | ⟨-, -, hfail⟩ :=
    requestStatus_cases (Hal.link (p.srl short fill)) out s
  swap
  · exact absurd hok hfail
  obtain ⟨-, rest, hreceived⟩ :=
    received_answer short hfill hp hs (Call.requestStatus none).telecommand
  rw [exchange] at hx
  split_ifs at hx
  obtain ⟨Q', hQ', hx⟩ := Option.bind_eq_some_iff.1 hx
  obtain ⟨hQ', ha⟩ := Option.filter_eq_some_iff.1 hQ'
  obtain rfl : Q' = Q := List.head_eq_of_cons_eq (Option.some.inj hx)
  obtain ⟨F, hF, hv, rfl⟩ := (hreceived Q').1 hQ'
  obtain ⟨hid, hlen⟩ := of_decide_eq_true ha
  refine ⟨F, hF, ⟨hv, hid, hlen⟩, ?_⟩
  -- The fields are in the payload, and what follows it is not looked at.
  rw [← hparse]
  simp only [Expected.replyStatus] at hlen
  have hget (i : ℕ) (hi : i < 5) : (F.payload ++ rest F).getD i 0 = F.payload.getD i 0 :=
    List.getD_append _ _ _ _ (by omega)
  rw [parseStatus, if_neg (not_lt.2 hlen), rdLE16, hget 0 (by omega), hget 1 (by omega),
    hget 2 (by omega), hget 3 (by omega), hget 4 (by omega)]
  rfl

/-- A status that should be received and satisfy `Q`. What the stack holds does not matter, as it is
    only looked at after a call that has failed. -/
theorem askStatus_checks (out : ReplyStatusPayload) (Q : ReplyStatusPayload → Prop)
    [DecidablePred Q] : (askStatus (Hal.link (p.srl short fill)) out Q).Checks 1 fun n =>
      ∃ F ∈ p.answer n (Call.requestStatus none).telecommand,
        Expected.replyStatus.Takes F ∧ Q F.status where
  idle _ _ hs := (run_checks short hfill hp (c := .requestStatus (some out))
    (Option.some_ne_none _) rfl hs).1
  green n s hs := by
    have hrun : (Cmd.requestStatus (Hal.link (p.srl short fill)) (some out) s).1 = cmdOk ↔
        ∃ F ∈ p.answer n (Call.requestStatus none).telecommand, Expected.replyStatus.Takes F :=
      (run_checks short hfill hp (c := .requestStatus (some out)) (Option.some_ne_none _) rfl hs).2
    by_cases hok : (Cmd.requestStatus (Hal.link (p.srl short fill)) (some out) s).1 = cmdOk
    · obtain ⟨F, hF, htakes, hout⟩ := requestStatus_output short hfill hp hs out hok
      simp only [askStatus, hok, hout, Option.getD_some]
      constructor
      · intro h
        exact ⟨F, hF, htakes, by simpa using h⟩
      · rintro ⟨G, hG, -, hQ⟩
        obtain rfl := Option.some.inj (hF.symm.trans hG)
        simpa using hQ
    · -- Then the first of the two verdicts is against the payload.
      refine iff_of_false (by simp [askStatus, hok]) ?_
      rintro ⟨F, hF, htakes, -⟩
      exact hok (hrun.2 ⟨F, hF, htakes⟩)

/-- What is received of the answer to a frame of the test. -/
theorem deliver_idle (hs : Idle n s.link) (F : Frame) (txBuf rxBuf : List UInt8) :
    let r := deliver (Hal.link (p.srl short fill)) F txBuf rxBuf s
    Idle (n + 1) r.2.2 ∧ (p.answer n F = none → r.1 ≤ 0) ∧
      ∀ G ∈ p.answer n F, 0 < r.1 ∧ ∃ rest, packetIn (r.1, r.2.1) =
        if G.Valid then some ⟨G.msgType, G.msgId, G.payload ++ rest, G.payload.length⟩
        else none := by
  obtain ⟨-, hpending⟩ :=
    hp.pending_send short fill hs F (txBuf.drop F.bytes.length)
  exact recv_pending short p hfill hpending (fun _ => hp.answer_fits) rxBuf

/-- The verdicts on the answer to the unknown telecommand. -/
theorem askUnknown_checks (txBuf rxBuf : List UInt8) :
    (askUnknown (Hal.link (p.srl short fill)) txBuf rxBuf).Checks 1 fun n =>
      ∀ F ∈ p.answer n unknownTC, F.Valid ∧ 4 ≤ F.payload.length ∧
        F.payload.getD 0 0 = resultNack ∧ F.payload.getD 1 0 = unknownMsgId where
  idle _ _ hs := (deliver_idle short hfill hp hs unknownTC txBuf rxBuf).1
  green n s hs := by
    obtain ⟨-, hnone, hsome⟩ := deliver_idle short hfill hp hs unknownTC txBuf rxBuf
    simp only [askUnknown, List.mem_cons, Bool.false_eq_true, false_or]
    rcases hA : p.answer n unknownTC with - | F
    · rw [unknownVerdicts, if_neg (not_lt.2 (hnone hA))]
      exact iff_of_true List.not_mem_nil fun F hF => by cases hF
    obtain ⟨hpos, rest, hpacket⟩ := hsome F hA
    simp only [Option.mem_some_iff, forall_eq']
    rw [unknownVerdicts, if_pos hpos, hpacket]
    -- An answer that is no packet, or a short one, is a failure.
    by_cases hv : F.Valid
    swap
    · exact iff_of_false (by simp [hv]) fun h => hv h.1
    rw [if_pos hv]
    by_cases hlen : 4 ≤ F.payload.length
    · simp only [if_pos hlen, List.getD_append _ _ _ _ (show 0 < F.payload.length by omega),
        List.getD_append _ _ _ _ (show 1 < F.payload.length by omega)]
      simp [hv, hlen]
    · simp only [if_neg hlen]
      exact iff_of_false (by simp) fun h => hlen h.2.1

/-- The frame with the wrong CRC, with any answer. -/
theorem askWrongCrc_checks (txBuf rxBuf : List UInt8) :
    (askWrongCrc (Hal.link (p.srl short fill)) txBuf rxBuf).Checks 1 fun _ => True where
  idle _ _ hs := (deliver_idle short hfill hp hs wrongCrcTC txBuf rxBuf).1
  -- Its two verdicts are in favour whatever the answer is.
  green _ _ _ := iff_of_true (by simp [askWrongCrc]) trivial

/-! ## The verdict of the test -/

variable {E : Platform (Hal.State Wire)} (hE : E.Quiet)

include hE

/-- A repetition has no failure exactly if the payload conforms. -/
theorem traceOnce_checks (st : Stack) :
    (traceOnce (Hal.link (p.srl short fill)) E st).Checks 11 (Conforms p) := by
  have hping := ask_checks short hfill hp (c := .ping) id rfl
  have hmode (mode : UInt8) := ask_checks short hfill hp (c := .setMode mode) id rfl
  have h : (traceOnce (Hal.link (p.srl short fill)) E st).Checks 11 _ :=
    (onPlatform_checks fun n w h => (hE n).delayMs 2000 _ ((hE n).powerOn w h)).andThen <|
    (hping.andThen (askStatus_checks short hfill hp st.status02 _)).andThen <|
    (askStatus_checks short hfill hp default _).andThen <| (askHK_checks short hfill hp).andThen <|
    ((hmode modeArmed).andThen (askStatus_checks short hfill hp st.status05 _)).andThen <|
    (hmode modeStandby).andThen <| (askStatus_checks short hfill hp default _).andThen <|
    (askUnknown_checks short hfill hp st.txBuf08 st.rxBuf08).andThen <|
    (askWrongCrc_checks short hfill hp st.txBuf09 st.rxBuf09).andThen <|
    ((onPlatform_checks fun n => (hE n).reconnect).andThen hping).andThen
    (onPlatform_checks fun n w h => (hE n).delayMs 500 _ ((hE n).powerOff w h))
  -- What the parts want of the answers is what `Conforms` says of them.
  refine ⟨h.idle, fun n s hs => (h.green n s hs).trans ⟨?_, ?_⟩⟩
  · rintro ⟨-, ⟨h₀, h₁⟩, h₂, h₃, ⟨h₄, h₅⟩, h₆, h₇, h₈, -, ⟨-, h₁₀⟩, -⟩
    exact ⟨h₀, h₁, h₂, h₃, h₄, h₅, h₆, h₇, h₈, h₁₀⟩
  · rintro ⟨h₀, h₁, h₂, h₃, h₄, h₅, h₆, h₇, h₈, h₁₀⟩
    exact ⟨trivial, ⟨h₀, h₁⟩, h₂, h₃, ⟨h₄, h₅⟩, h₆, h₇, h₈, trivial, ⟨trivial, h₁₀⟩, trivial⟩

omit hfill hp in
theorem pause_checks (m i : ℕ) : (pause E m i).Checks 0 fun _ => True := by
  rw [pause]
  split_ifs
  · exact onPlatform_checks fun n => (hE n).delayMs 1000
  · exact skip_checks

/-- The repetitions left have no failure exactly if the payload conforms in each of them. -/
theorem traceAll_checks (m : ℕ) (stack : ℕ → Stack) (N i : ℕ) :
    (traceAll (Hal.link (p.srl short fill)) E m stack N i).Checks (11 * N) fun n =>
      ∀ j < N, Conforms p (n + 11 * j) := by
  -- The induction is on the number of repetitions left, of eleven telecommands each.
  induction N generalizing i with
  | zero =>
    refine ⟨skip_checks.idle, fun n s hs => (skip_checks.green n s hs).trans ?_⟩
    exact iff_of_true trivial fun j hj => absurd hj (Nat.not_lt_zero j)
  | succ N ih =>
    have h := (traceOnce_checks short hfill hp hE (stack i)).andThen
      ((pause_checks hE m i).andThen (ih (i + 1)))
    refine ⟨fun n s hs => ?_, fun n s hs => (h.green n s hs).trans ?_⟩
    · have hidle := h.idle n s hs
      rwa [show n + (11 + (0 + 11 * N)) = n + 11 * (N + 1) by ring] at hidle
    · have hshift (j : ℕ) : n + 11 + 0 + 11 * j = n + 11 * (j + 1) := by ring
      simp only [hshift, true_and]
      constructor
      · rintro ⟨h₀, hsucc⟩ (- | j) hj
        · exact h₀
        · exact hsucc j (Nat.lt_of_succ_lt_succ hj)
      · exact fun hall => ⟨hall 0 N.succ_pos, fun j hj => hall (j + 1) (Nat.succ_lt_succ hj)⟩

/-- With a payload that gives at most one answer to a telecommand, at once, of at most `254` bytes
    of payload and with two bytes of filling after it: the test counts no failure exactly if every
    answer in every repetition is as the procedure wants it. Neither what the stack holds nor how
    the frame with the wrong CRC is answered matters. The counter does not wrap around in fewer
    than `2^32 / 19` repetitions. -/
theorem runAll_green_iff {repeatCount : UInt32} (hcount : 19 * rounds repeatCount < 2 ^ 32)
    (stack : ℕ → Stack) {b : Bench (Hal.State Wire)} (hs : Idle n b.line.link) :
    (runAll (Hal.link (p.srl short fill)) E repeatCount stack b).fail = 0 ↔
      ∀ i < rounds repeatCount, Conforms p (n + 11 * i) := by
  have hgreen := (traceAll_checks short hfill hp hE (rounds repeatCount) stack
    (rounds repeatCount) 0).green n b.line hs
  set L := Hal.link (p.srl short fill)
  set N := rounds repeatCount
  obtain ⟨hreports, -⟩ := runAll_follows L E repeatCount stack b
  have hfail : (runAll L E repeatCount stack b).fail =
      UInt32.ofNat ((traceAll L E N stack N 0 b.line).2.1.count false) :=
    hreports.fail.trans (UInt32.zero_add _)
  -- There are too few verdicts for the counter to wrap around.
  have hlt := (traceAll_within L E stack N N 0).hi b.line
  have hle := List.count_le_length (a := false) (l := (traceAll L E N stack N 0 b.line).2.1)
  rw [← hgreen, hfail, ← UInt32.toNat_inj, UInt32.toNat_ofNat', Nat.mod_eq_of_lt (by omega),
    ← List.count_eq_zero]
  rfl

end

/-- What the procedure wants as the answer to the `i`-th frame of a repetition. -/
def wantedAnswer (i : ℕ) : Frame :=
  let reply (msgId : UInt8) (payload : List UInt8) (h : payload.length ≤ packetMaxPayload) :=
    Frame.sealed packetVersion msgtypeResponse msgId payload h
  match i with
  | 3 => reply WireMsgid.replyHk (List.replicate 16 0) (by decide)
  | 4 | 6 => reply WireMsgid.setMode [resultAck, WireMsgid.setMode, 0, 0] (by decide)
  | 5 => reply WireMsgid.replyStatus [State.armed.toByte, 0, 0, 0, 0] (by decide)
  | 1 | 2 | 7 => reply WireMsgid.replyStatus [State.standby.toByte, 0, 0, 0, 0] (by decide)
  | 8 => reply unknownMsgId [resultNack, unknownMsgId, 0, 0] (by decide)
  | _ => reply WireMsgid.ping [resultAck, WireMsgid.ping, 0, 0] (by decide)

/-- A payload that answers so, and also answers the frame with the wrong CRC. -/
def wantedPeer : Peer where
  accepts _ := .success
  answers n _ := [wantedAnswer (n % 11)]

theorem wantedPeer_answering : wantedPeer.Answering := by
  have hlen : ∀ i < 11, (wantedAnswer i).payload.length + 11 ≤ packetMaxTotal := by decide
  refine ⟨fun _ _ => le_rfl, fun n _ F hF => ?_⟩
  rw [List.mem_singleton.1 hF]
  exact hlen _ (Nat.mod_lt n (by decide))

/-- Two repetitions with this payload. -/
theorem runAll_green_wanted :
    let E : Platform (Hal.State Wire) := ⟨id, id, fun _ => id, id, id⟩
    let stack : ℕ → Stack := fun _ => ⟨default, default, [], [], [], []⟩
    let b : Bench (Hal.State Wire) :=
      ⟨⟨List.replicate packetMaxTotal 0, [], ⟨true, ⟨0, []⟩, []⟩⟩, 0, 0, []⟩
    (runAll (Hal.link (wantedPeer.srl .success fun _ => [0, 0])) E 2 stack b).fail = 0 := by
  intro E stack b
  have hE : E.Quiet := fun _ =>
    ⟨fun _ => id, fun _ => id, fun _ _ => id, fun _ => id, fun _ => id⟩
  refine (runAll_green_iff .success (fun _ => rfl) wantedPeer_answering hE (n := 0) (by decide)
    stack ⟨rfl, rfl, rfl⟩).2 fun i _ => ?_
  -- The telecommands of the repetition `i` are the eleven from `11 * i` on.
  have hmod (j : ℕ) : (0 + 11 * i + j) % 11 = j % 11 := by omega
  have hanswer (j : ℕ) (F : Frame) :
      wantedPeer.answer (0 + 11 * i + j) F = some (wantedAnswer (j % 11)) := by
    simp only [Peer.answer, wantedPeer, if_true, hmod, List.head?_cons]
  have h₀ (F : Frame) : wantedPeer.answer (0 + 11 * i) F = some (wantedAnswer 0) := hanswer 0 F
  refine ⟨⟨_, h₀ _, by decide +kernel⟩, ⟨_, hanswer 1 _, by decide +kernel⟩,
    ⟨_, hanswer 2 _, by decide +kernel⟩, ⟨_, hanswer 3 _, by decide +kernel⟩,
    ⟨_, hanswer 4 _, by decide +kernel⟩, ⟨_, hanswer 5 _, by decide +kernel⟩,
    ⟨_, hanswer 6 _, by decide +kernel⟩, ⟨_, hanswer 7 _, by decide +kernel⟩, fun F hF => ?_,
    ⟨_, hanswer 10 _, by decide +kernel⟩⟩
  obtain rfl := Option.some.inj ((hanswer 8 _).symm.trans hF)
  decide +kernel

/-! ## Without filling -/

theorem Platform.Quiet.keeps {E : Platform (Hal.State Wire)} (hE : E.Quiet) :
    E.Keeps fun w => Idle w.drv.writes w where
  powerOn w h := ((hE _).powerOn w h).self
  powerOff w h := ((hE _).powerOff w h).self
  delayMs ms w h := ((hE _).delayMs ms w h).self
  disconnectLink w h := ((hE _).disconnectLink w h).self
  reconnectLink w h := ((hE _).reconnectLink w h).self

/-- The HAL is deaf to a payload that keeps to the documented format, from an idle line on. -/
theorem exactLink_deaf (short : CfeStatus) (hp : p.Answering) :
    Deaf (exactLink short p) fun w => Idle w.drv.writes w where
  run {c s} hc he hs := by
    obtain ⟨hfail, hidle⟩ := run_exact short hp hc hs fun h => absurd h he
    exact ⟨hfail he, hidle⟩
  deliver F txBuf rxBuf {s} hs := by
    obtain ⟨-, hpending⟩ :=
      hp.pending_send short (fun _ => []) hs F (txBuf.drop F.bytes.length)
    obtain ⟨hcode, hidle⟩ := hpending.recv_exact p short rxBuf uartTimeoutMs fun _ => hp.answer_fits
    exact ⟨hcode, hidle.self⟩

/-- With a payload that gives at most one answer to a telecommand, at once, of at most `254` bytes
    of payload and with nothing after it: whatever the answers are, a repetition gives five passes,
    and one more for each of the two status outputs in which the stack happens to hold the mode
    asked for. The other verdicts, at least eleven of the 18, are against the payload. The counters
    are the sums over the repetitions, modulo `2^32`. -/
theorem runAll_exact (short : CfeStatus) (hp : p.Answering) {E : Platform (Hal.State Wire)}
    (hE : E.Quiet) (repeatCount : UInt32) (stack : ℕ → Stack) {b : Bench (Hal.State Wire)}
    (hs : Idle n b.line.link) :
    (runAll (exactLink short p) E repeatCount stack b).pass =
        UInt32.ofNat (∑ i ∈ Finset.range (rounds repeatCount), deadPasses (stack i)) ∧
      (runAll (exactLink short p) E repeatCount stack b).fail =
        UInt32.ofNat (∑ i ∈ Finset.range (rounds repeatCount), (18 - deadPasses (stack i))) :=
  runAll_deaf repeatCount stack b (exactLink_deaf short hp) hE.keeps hs.self

/-- A payload that conforms passes five of the 18 assertions of a repetition. -/
theorem runAll_exact_wanted :
    let E : Platform (Hal.State Wire) := ⟨id, id, fun _ => id, id, id⟩
    let stack : ℕ → Stack := fun _ => ⟨default, default, [], [], [], []⟩
    let b : Bench (Hal.State Wire) :=
      ⟨⟨List.replicate packetMaxTotal 0, [], ⟨true, ⟨0, []⟩, []⟩⟩, 0, 0, []⟩
    let b' := runAll (exactLink .success wantedPeer) E 2 stack b
    b'.pass = 10 ∧ b'.fail = 26 := by
  intro E stack b b'
  have hE : E.Quiet := fun _ =>
    ⟨fun _ => id, fun _ => id, fun _ _ => id, fun _ => id, fun _ => id⟩
  obtain ⟨hpass, hfail⟩ := runAll_exact .success wantedPeer_answering hE 2 stack
    (n := 0) (b := b) ⟨rfl, rfl, rfl⟩
  exact ⟨hpass.trans (by decide +kernel), hfail.trans (by decide +kernel)⟩

end CommTest

end Ig4u
