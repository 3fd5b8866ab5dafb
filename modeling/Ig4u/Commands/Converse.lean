import Ig4u.Commands.Reply

/-!
# How a call proceeds

The wire-level commands are written out one by one, but they all do the same: hand over a
telecommand, then receive the packets they wait for, until one is not taken. This is
`converse`, and `receives` is the number of packets it asks the HAL for.

The calls are those of `Call`: all the functions `IG4U_Cmd_*` that hand over a telecommand, which
leaves out `IG4U_Cmd_WaitDefaultResponse`, a part of some of them.

* `recvTMRaw_eq`, `recvReply_eq`: the return code of a receive is its `verdict`.
* `Call.run_converse`: every call is the conversation of its telecommand and the packets it
  waits for.
* `Call.run_outcome`: so its return code says where the conversation ended, and the line after it
  is that after one hand-over and at most two receives. `IG4U_CMD_ERR_ENCODE` and
  `IG4U_CMD_ERR_NACK` are never returned (`Call.run_code`).
-/

namespace Ig4u

open Lib Proto

namespace Cmd

variable {σ : Type*} (L : Link σ)

/-! ## The receives -/

/-- The return code of a receive of the packet expected. -/
def verdict (e : Expected) (s : Line σ) : ℤ :=
  if (delivery L s).1 ≤ 0 then cmdErrTimeout
  else if ((received L s).filter fun P => e.Accepts P).isSome then cmdOk
  else cmdErrParse

/-- Receiving the packets expected, until one is not taken. -/
def receiveAll : List Expected → Line σ → ℤ × Line σ
  | [], s => (cmdOk, s)
  | e :: es, s =>
    if verdict L e s = cmdOk then receiveAll es (afterRecv L s)
    else (verdict L e s, afterRecv L s)

/-- Handing over a telecommand, and receiving the packets expected. -/
def converse (F : Frame) (es : List Expected) (s : Line σ) : ℤ × Line σ :=
  let r := handOver L F s
  if r.1 = halOk then receiveAll L es r.2 else (cmdErrSend, r.2)

/-- The number of receives. -/
def receives : List Expected → Line σ → ℕ
  | [], _ => 0
  | e :: es, s => 1 + if verdict L e s = cmdOk then receives es (afterRecv L s) else 0

section

variable {L} {e : Expected} {es : List Expected} {s : Line σ}

/-- There is only a packet in what `IG4U_HAL_Recv` returns with a positive code. -/
theorem delivery_pos_of_received {P : Packet} (h : received L s = some P) :
    0 < (delivery L s).1 := by
  simp only [received] at h
  split_ifs at h with hr
  exact hr.1

/-- The packet expected is taken. -/
theorem verdict_of_accepts {P : Packet} (hP : received L s = some P) (ha : e.Accepts P) :
    verdict L e s = cmdOk := by
  rw [verdict, if_neg (not_le.2 (delivery_pos_of_received hP)), hP, Option.filter_some,
    if_pos (decide_eq_true ha)]
  rfl

/-- Any other outcome of the receive is an error: a timeout if the HAL returned no frame. -/
theorem verdict_of_not_accepts (h : ∀ P, received L s = some P → ¬e.Accepts P) :
    verdict L e s = if (delivery L s).1 ≤ 0 then cmdErrTimeout else cmdErrParse := by
  have hnone : (received L s).filter (fun P => e.Accepts P) = none := by
    rw [Option.filter_eq_none_iff]
    exact fun P hP ha => h P hP (of_decide_eq_true ha)
  rw [verdict, hnone]
  rfl

theorem verdict_ok_iff :
    verdict L e s = cmdOk ↔ ∃ P, received L s = some P ∧ e.Accepts P := by
  constructor
  · intro h
    by_contra hno
    -- Neither of the two error codes is `IG4U_CMD_OK`.
    rw [verdict_of_not_accepts fun P hP ha => hno ⟨P, hP, ha⟩] at h
    split_ifs at h <;> exact absurd h (by decide)
  · rintro ⟨P, hP, ha⟩
    exact verdict_of_accepts hP ha

theorem verdict_of_fails (h : verdict L e s ≠ cmdOk) :
    verdict L e s = if (delivery L s).1 ≤ 0 then cmdErrTimeout else cmdErrParse := by
  rw [verdict] at h ⊢
  split_ifs at h ⊢ <;> first | rfl | exact absurd rfl h

theorem receiveAll_cons (h : verdict L e s = cmdOk) :
    receiveAll L (e :: es) s = receiveAll L es (afterRecv L s) := if_pos h

theorem receiveAll_cons_fail (h : verdict L e s ≠ cmdOk) :
    receiveAll L (e :: es) s = (verdict L e s, afterRecv L s) := if_neg h

/-- More packets are only received if the first ones have all been taken. -/
theorem receiveAll_append (es es' : List Expected) (s : Line σ) :
    receiveAll L (es ++ es') s =
      let r := receiveAll L es s
      if r.1 = cmdOk then receiveAll L es' r.2 else r := by
  -- The induction is on the packets of the first part, the line being the one before each.
  induction es generalizing s with
  | nil => rfl
  | cons e es ih =>
    rw [List.cons_append]
    by_cases hv : verdict L e s = cmdOk
    · rw [receiveAll_cons hv, receiveAll_cons hv, ih]
    · rw [receiveAll_cons_fail hv, receiveAll_cons_fail hv]
      exact (if_neg hv).symm

/-- A longer conversation goes on where a shorter one has ended well. -/
theorem converse_append (F : Frame) (es es' : List Expected) (s : Line σ) :
    converse L F (es ++ es') s =
      let r := converse L F es s
      if r.1 = cmdOk then receiveAll L es' r.2 else r := by
  simp only [converse]
  split_ifs with hsend hok hne
  · rw [receiveAll_append]
    exact if_pos hok
  · rw [receiveAll_append]
    exact if_neg hok
  · exact absurd hne (show cmdErrSend ≠ cmdOk by decide)
  · -- What could not be sent has no answer to wait for, in either conversation.
    rfl

/-- The line after the receives is reached by receiving again and again. -/
theorem receiveAll_line (es : List Expected) (s : Line σ) :
    (receiveAll L es s).2 = (afterRecv L)^[receives L es s] s := by
  induction es generalizing s with
  | nil => rfl
  | cons e es ih =>
    by_cases hv : verdict L e s = cmdOk
    · rw [receiveAll_cons hv, ih, receives, if_pos hv, Nat.add_comm, Function.iterate_succ_apply]
    · rw [receiveAll_cons_fail hv, receives, if_neg hv]
      rfl

/-- There is at most one receive for each packet expected. -/
theorem receives_le (es : List Expected) (s : Line σ) : receives L es s ≤ es.length := by
  induction es generalizing s with
  | nil => exact le_rfl
  | cons e es ih =>
    rw [receives, List.length_cons]
    have := ih (afterRecv L s)
    split_ifs <;> omega

/-- All the packets expected are taken, one after the other. -/
def TakesAll (L : Link σ) (es : List Expected) (s : Line σ) : Prop :=
  ∀ k e, es[k]? = some e → verdict L e ((afterRecv L)^[k] s) = cmdOk

/-- The first `k` packets expected are taken, and the next one, `e`, is not. -/
structure StopsAt (L : Link σ) (es : List Expected) (s : Line σ) (k : ℕ) (e : Expected) :
    Prop where
  expected : es[k]? = some e
  before : ∀ j < k, ∀ e', es[j]? = some e' → verdict L e' ((afterRecv L)^[j] s) = cmdOk
  fails : verdict L e ((afterRecv L)^[k] s) ≠ cmdOk

/-- One more packet in front, which is taken. -/
theorem StopsAt.cons {e' : Expected} {k : ℕ} (hv : verdict L e' s = cmdOk)
    (h : StopsAt L es (afterRecv L s) k e) : StopsAt L (e' :: es) s (k + 1) e where
  expected := h.expected
  before j hj e'' he'' := by
    cases j with
    | zero =>
      cases he''
      exact hv
    | succ j => exact h.before j (Nat.lt_of_succ_lt_succ hj) e'' he''
  fails := h.fails

/-- The receives end after the last packet, or after the first that is not taken. -/
theorem receiveAll_cases (es : List Expected) (s : Line σ) :
    TakesAll L es s ∧ receiveAll L es s = (cmdOk, (afterRecv L)^[es.length] s) ∨
    ∃ k e, StopsAt L es s k e ∧
      receiveAll L es s = (verdict L e ((afterRecv L)^[k] s), (afterRecv L)^[k + 1] s) := by
  induction es generalizing s with
  | nil =>
    refine .inl ⟨fun k e h => ?_, rfl⟩
    cases h
  | cons e es ih =>
    by_cases hv : verdict L e s = cmdOk
    · rw [receiveAll_cons hv]
      rcases ih (afterRecv L s) with ⟨htakes, he⟩ | ⟨k, e', hstops, he⟩
      · refine .inl ⟨fun k e' hk => ?_, he⟩
        cases k with
        | zero =>
          cases hk
          exact hv
        | succ k => exact htakes k e' hk
      · exact .inr ⟨k + 1, e', hstops.cons hv, he⟩
    · -- The first packet is the one at which the receives stop.
      rw [receiveAll_cons_fail hv]
      exact .inr ⟨0, e, ⟨rfl, fun j hj => absurd hj j.not_lt_zero, hv⟩, rfl⟩

/-- A call that waits for a packet receives at least once. -/
theorem receives_pos (h : es ≠ []) : 0 < receives L es s := by
  cases es with
  | nil => exact absurd rfl h
  | cons e es =>
    rw [receives]
    omega

end

/-! ## The commands -/

/-! Each parser gives something exactly from the length on that its packet is expected to have. -/

theorem parseHK_isSome (out : ReplyHKDataPayload) (p : List UInt8) (n : ℕ) :
    (parseHK out p n).isSome ↔ Expected.replyHk.minLen ≤ n := by
  simp [parseHK, Expected.replyHk]

theorem parseStatus_isSome (out : ReplyStatusPayload) (p : List UInt8) (n : ℕ) :
    (parseStatus out p n).isSome ↔ Expected.replyStatus.minLen ≤ n := by
  simp [parseStatus, Expected.replyStatus]

theorem parseMainResult_isSome (out : MainThrusterResultPayload) (p : List UInt8) (n : ℕ) :
    (parseMainResult out p n).isSome ↔ Expected.mainResult.minLen ≤ n := by
  simp [parseMainResult, Expected.mainResult]

theorem parseCGResult_isSome (msgId thrusterId : UInt8) (out : CGThrusterResultPayload)
    (p : List UInt8) (n : ℕ) :
    (parseCGResult out p n).isSome ↔ (Expected.cgResult msgId thrusterId).minLen ≤ n := by
  simp [parseCGResult, Expected.cgResult]

theorem parseFaultLog_isSome (out : ReplyFaultLogPayload) (p : List UInt8) (n : ℕ) :
    (parseFaultLog out p n).isSome ↔ Expected.replyFaultLog.minLen ≤ n := by
  simp [parseFaultLog, Expected.replyFaultLog, Nat.one_le_iff_ne_zero]

/-- `RecvTMRaw` takes the packet received if it has the identifier, and otherwise tells a receive
    without a frame from one with another packet. -/
theorem recvTMRaw_eq (msgId : UInt8) (s : Line σ) :
    recvTMRaw L msgId s =
      (match (received L s).filter fun P => P.msgId = msgId with
        | some P => .ok (P.payload, P.len)
        | none => .error (if (delivery L s).1 ≤ 0 then cmdErrTimeout else cmdErrParse),
        afterRecv L s) := by
  rcases recvTMRaw_cases L msgId s with ⟨P, hP, hid, he⟩ | ⟨hno, code, -, he⟩
  · rw [he, hP, Option.filter_some, if_pos (decide_eq_true hid)]
  · have hnone : (received L s).filter (fun P => P.msgId = msgId) = none := by
      rw [Option.filter_eq_none_iff]
      exact fun P hP hid => hno P hP (of_decide_eq_true hid)
    rw [he, hnone]
    congr 2
    have hcode : (recvTMRaw L msgId s).1 = .error code := by rw [he]
    simp only [recvTMRaw] at hcode
    rw [← delivery] at hcode
    split_ifs at hcode ⊢ <;> first | rfl | (cases hcode; rfl)

/-- A reply is parsed if it is taken, and otherwise the output is left as it is. -/
theorem recvReply_eq {α : Type*} {e : Expected} {parse : α → List UInt8 → ℕ → Option α} {out : α}
    (hparse : ∀ p n, (parse out p n).isSome ↔ e.minLen ≤ n) (s : Line σ) :
    recvReply L e.msgId parse out s =
      (verdict L e s,
        (((received L s).filter fun P => e.Accepts P).bind fun P =>
          parse out P.payload P.len).getD out,
        afterRecv L s) := by
  by_cases ha : ∃ P, received L s = some P ∧ e.Accepts P
  · -- The packet is long enough for the parser.
    obtain ⟨P, hP, hid, hlen⟩ := ha
    obtain ⟨out', hout⟩ := Option.isSome_iff_exists.1 ((hparse P.payload P.len).2 hlen)
    rw [verdict_of_accepts hP ⟨hid, hlen⟩, hP, Option.filter_some,
      if_pos (decide_eq_true (show e.Accepts P from ⟨hid, hlen⟩)), Option.bind_some, hout]
    simp only [recvReply, recvTMRaw_eq, hP, Option.filter_some, if_pos (decide_eq_true hid), hout,
      Option.getD_some]
  · have hno : ∀ P, received L s = some P → ¬e.Accepts P := fun P hP hacc => ha ⟨P, hP, hacc⟩
    have hnone : (received L s).filter (fun P => e.Accepts P) = none := by
      rw [Option.filter_eq_none_iff]
      exact fun P hP hacc => hno P hP (of_decide_eq_true hacc)
    rw [verdict_of_not_accepts hno, hnone, Option.bind_none, Option.getD_none]
    rcases hP : received L s with - | P
    · simp only [recvReply, recvTMRaw_eq, hP, Option.filter_none]
    by_cases hid : P.msgId = e.msgId
    · -- The packet has the identifier awaited, but it is too short.
      have hout : parse out P.payload P.len = none :=
        Option.not_isSome_iff_eq_none.1 fun h => hno P hP ⟨hid, (hparse _ _).1 h⟩
      simp only [recvReply, recvTMRaw_eq, hP, Option.filter_some, if_pos (decide_eq_true hid), hout,
        if_neg (not_le.2 (delivery_pos_of_received hP))]
    · simp only [recvReply, recvTMRaw_eq, hP, Option.filter_some,
        if_neg (mt of_decide_eq_true hid)]

/-- Waiting for a Default Response without a place for it is receiving a packet with its
    identifier, of any length. -/
theorem waitDefaultResponse_eq (msgId : UInt8) (s : Line σ) :
    waitDefaultResponse L msgId none s =
      (verdict L (.defaultResponse msgId) s, none, afterRecv L s) := by
  have h : recvReply L msgId (fun _ _ _ => some ()) () s = _ :=
    recvReply_eq L (e := .defaultResponse msgId) (fun _ _ => iff_of_true rfl (Nat.zero_le _)) s
  rw [waitDefaultResponse_none, h]

/-! The builders are conversations: of no packet, of a Default Response, of a reply. -/

theorem sendTC_converse (msgId : UInt8) {p : List UInt8} {src : Option (List UInt8)}
    (hsrc : PointsTo src p) (hp : p.length ≤ packetMaxPayload) (s : Line σ) :
    sendTC L msgId src p.length s = converse L (.tc msgId p hp) [] s := by
  simp only [sendTC_handOver L msgId hsrc hp, converse, receiveAll]
  split_ifs <;> rfl

theorem defaultCommand_converse (msgId : UInt8) {p : List UInt8} {src : Option (List UInt8)}
    (hsrc : PointsTo src p) (hp : p.length ≤ packetMaxPayload) (s : Line σ) :
    defaultCommand L msgId src p.length s =
      converse L (.tc msgId p hp) [.defaultResponse msgId] s := by
  simp only [defaultCommand, sendTC_handOver L msgId hsrc hp, converse]
  by_cases hsend : (handOver L (.tc msgId p hp) s).1 = halOk
  · simp only [if_pos hsend, if_neg (not_not.2 rfl), waitDefaultResponse_eq, receiveAll]
    split_ifs with hv
    · exact congrArg (·, _) hv
    · rfl
  · simp only [if_neg hsend, if_pos (show cmdErrSend ≠ cmdOk by decide)]

theorem replyCommand_converse {α : Type*} (msgId : UInt8) {p : List UInt8}
    {src : Option (List UInt8)} (hsrc : PointsTo src p) (hp : p.length ≤ packetMaxPayload)
    (e : Expected) {parse : α → List UInt8 → ℕ → Option α} {out : α}
    (hparse : ∀ p n, (parse out p n).isSome ↔ e.minLen ≤ n) (s : Line σ) :
    let q := replyCommand L msgId src p.length e.msgId parse out s
    (q.1, q.2.2) = converse L (.tc msgId p hp) [e] s := by
  simp only [replyCommand, sendTC_handOver L msgId hsrc hp, converse]
  by_cases hsend : (handOver L (.tc msgId p hp) s).1 = halOk
  · simp only [if_pos hsend, if_neg (not_not.2 rfl), recvReply_eq L hparse, receiveAll]
    split_ifs with hv
    · exact congrArg (·, _) hv
    · rfl
  · simp only [if_neg hsend, if_pos (show cmdErrSend ≠ cmdOk by decide)]

/-- A Main Thruster Fire waits for its acknowledgement, and for the result if there will be one and
    there is a place for it. -/
theorem mainThrusterFire_converse (durationMs : UInt32) (out : Option MainThrusterResultPayload)
    (s : Line σ) :
    let q := mainThrusterFire L durationMs out s
    (q.1, q.2.2) =
      converse L (.tc WireMsgid.mainFire (wrLE32 durationMs) (by simp [wrLE32]))
        (.defaultResponse WireMsgid.mainFire ::
          if 0 < durationMs ∧ out.isSome then [.mainResult] else []) s := by
  have hack : defaultCommand L WireMsgid.mainFire (some (wrLE32 durationMs)) 4 s = _ :=
    defaultCommand_converse L WireMsgid.mainFire (.self (wrLE32 durationMs)) (by simp [wrLE32]) s
  have hgo (es : List Expected) := converse_append (L := L)
    (.tc WireMsgid.mainFire (wrLE32 durationMs) (by simp [wrLE32]))
    [.defaultResponse WireMsgid.mainFire] es s
  simp only [← hack, List.singleton_append] at hgo
  simp only [mainThrusterFire, hgo]
  -- From here on, the acknowledgement is any outcome `r`; the result is received after it.
  generalize defaultCommand L WireMsgid.mainFire (some (wrLE32 durationMs)) 4 s = r
  by_cases hok : r.1 = cmdOk
  swap
  · rw [if_pos hok, if_neg hok]
  rw [if_neg (not_not.2 hok), if_pos hok]
  rcases out with - | result
  · simp only [Option.isSome_none, Bool.false_eq_true, and_false, if_false, receiveAll]
  by_cases hd : 0 < durationMs
  · have hreply : recvReply L WireMsgid.mainResult parseMainResult result r.2 = _ :=
      recvReply_eq L (parseMainResult_isSome result) r.2
    simp only [hd, Option.isSome_some, and_self, if_true, receiveAll, hreply]
    split_ifs with hv
    · exact congrArg (·, _) hv
    · rfl
  · simp only [hd, false_and, if_false, receiveAll]

/-- A firing of the cold gas thrusters waits for its result if there is a place for it. -/
theorem cgFire_converse (msgId thrusterId : UInt8) (p : List UInt8)
    (hp : p.length ≤ packetMaxPayload) (out : Option CGThrusterResultPayload) (s : Line σ) :
    let q := cgFire L msgId p out s
    (q.1, q.2.2) =
      converse L (.tc msgId p hp)
        (if out.isSome then [.cgResult msgId thrusterId] else []) s := by
  cases out with
  | none => exact sendTC_converse L msgId (.self p) hp s
  | some result =>
    exact replyCommand_converse L msgId (.self p) hp (.cgResult msgId thrusterId)
      (parseCGResult_isSome msgId thrusterId result) s

end Cmd

/-! ## The calls -/

namespace Call

open Cmd

variable {σ : Type*} (L : Link σ)

/-- A call is the conversation of its telecommand and the packets it waits for. -/
theorem run_converse {c : Call} (hc : ¬c.IsNullRequest) (s : Line σ) :
    c.run L s = converse L c.telecommand c.expects s := by
  cases c with
  | setMode mode => exact defaultCommand_converse L _ (.self [mode, 0, 0, 0]) (by simp) s
  | mainThrusterFire durationMs out => exact mainThrusterFire_converse L durationMs out s
  | cgThrusterPulse thrusterId durationMs out => exact cgFire_converse L _ thrusterId _ _ out s
  | cgThrusterBurst thrusterId pulseDurationMs pulseCount intervalMs out =>
    exact cgFire_converse L _ thrusterId _ _ out s
  | mainThrusterAbort => exact sendTC_converse L _ .null (by decide) s
  | cgThrusterAbort => exact sendTC_converse L _ .null (by decide) s
  | requestHKData out =>
    obtain ⟨hk, rfl⟩ := Option.ne_none_iff_exists'.1 hc
    exact replyCommand_converse L _ .null (by decide) .replyHk
      (parseHK_isSome hk) s
  | requestStatus out =>
    obtain ⟨status, rfl⟩ := Option.ne_none_iff_exists'.1 hc
    exact replyCommand_converse L _ .null (by decide) .replyStatus
      (parseStatus_isSome status) s
  | requestFaultLog out =>
    obtain ⟨log, rfl⟩ := Option.ne_none_iff_exists'.1 hc
    exact replyCommand_converse L _ .null (by decide) .replyFaultLog
      (parseFaultLog_isSome log) s
  | _ => exact defaultCommand_converse L _ .null (by decide) s

/-- A call waits for at most two packets. -/
theorem length_expects_le (c : Call) : c.expects.length ≤ 2 := by
  cases c with
  | mainThrusterFire | cgThrusterPulse | cgThrusterBurst =>
    simp only [expects]
    split_ifs <;> simp
  | _ => exact Nat.le_of_ble_eq_true rfl

/-- Whatever the link does, a call ends in one of four ways. A request without a place for the
    reply does nothing. Otherwise the telecommand is handed over once, and if that succeeds, the
    packets expected are received, at most two of them, until one is not taken: because
    `IG4U_HAL_Recv` returned no frame (`IG4U_CMD_ERR_TIMEOUT`, whether or not bytes were received),
    or because the frame it returned is not valid or not the packet expected
    (`IG4U_CMD_ERR_PARSE`). -/
theorem run_outcome (c : Call) (s : Line σ) :
    let r := handOver L c.telecommand s
    c.IsNullRequest ∧ c.run L s = (cmdErrParse, s) ∨
    ¬c.IsNullRequest ∧
      (r.1 ≠ halOk ∧ c.run L s = (cmdErrSend, r.2) ∨
       r.1 = halOk ∧ TakesAll L c.expects r.2 ∧
          c.run L s = (cmdOk, (afterRecv L)^[c.expects.length] r.2) ∨
       r.1 = halOk ∧ ∃ k e, k < 2 ∧ StopsAt L c.expects r.2 k e ∧
          c.run L s =
            (if (delivery L ((afterRecv L)^[k] r.2)).1 ≤ 0 then cmdErrTimeout else cmdErrParse,
              (afterRecv L)^[k + 1] r.2)) := by
  intro r
  by_cases hc : c.IsNullRequest
  · exact .inl ⟨hc, run_of_isNullRequest L hc s⟩
  refine .inr ⟨hc, ?_⟩
  rw [run_converse L hc, converse]
  by_cases hsend : r.1 = halOk
  swap
  · exact .inl ⟨hsend, if_neg hsend⟩
  rw [if_pos hsend]
  rcases receiveAll_cases (L := L) c.expects r.2 with ⟨htakes, he⟩ | ⟨k, e, hstops, he⟩
  · exact .inr (.inl ⟨hsend, htakes, he⟩)
  · -- The packet not taken is one of those expected, of which there are at most two.
    have hk : k < c.expects.length := (List.getElem?_eq_some_iff.1 hstops.expected).1
    refine .inr (.inr ⟨hsend, k, e, hk.trans_le c.length_expects_le, hstops, he.trans ?_⟩)
    rw [verdict_of_fails hstops.fails]

/-- So it never returns `IG4U_CMD_ERR_ENCODE` or `IG4U_CMD_ERR_NACK`. -/
theorem run_code (c : Call) (s : Line σ) :
    (c.run L s).1 ∈ [cmdOk, cmdErrSend, cmdErrTimeout, cmdErrParse] := by
  rcases c.run_outcome L s with ⟨-, he⟩ | ⟨-, ⟨-, he⟩ | ⟨-, -, he⟩ | ⟨-, k, e, -, -, he⟩⟩ <;>
    rw [he]
  · simp
  · simp
  · simp
  · simp only
    split_ifs <;> simp

/-- The line after a call is that after handing over its telecommand and some receives. -/
theorem run_line {c : Call} (hc : ¬c.IsNullRequest) (s : Line σ) :
    ∃ k ≤ c.expects.length,
      (c.run L s).2 = (afterRecv L)^[k] (handOver L c.telecommand s).2 ∧
      ((handOver L c.telecommand s).1 = halOk → c.expects ≠ [] → 0 < k) := by
  rw [run_converse L hc, converse]
  by_cases hsend : (handOver L c.telecommand s).1 = halOk
  · refine ⟨receives L c.expects (handOver L c.telecommand s).2, receives_le _ _, ?_,
      fun _ => receives_pos⟩
    rw [if_pos hsend, receiveAll_line]
  · exact ⟨0, Nat.zero_le _, by rw [if_neg hsend]; rfl, fun h => absurd h hsend⟩

end Call

end Ig4u
