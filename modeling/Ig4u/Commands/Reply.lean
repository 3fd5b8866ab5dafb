import Ig4u.Commands.Call
import Ig4u.Hal.Stream
import Ig4u.Protocol.Grammar

/-!
# Replies

What a command accepts as the reply to its telecommand. A receive gives a `Packet`
if the bytes the link delivers start with a frame (`received`). Of a packet a command
looks at the identifier and at the length of the payload (`Expected.Accepts`); it is
a genuine reply if it is a response, and the fields that echo the telecommand do so
(`Expected.Genuine`).

* `recvTMRaw_cases`, `replyCommand_cases`: what the receiver and the commands do with a packet.
* `Call.run_ok_iff`: a call succeeds exactly if its telecommand is handed over and all the
  packets it waits for are accepted (`Call.exchange`).
* `validates_iff`: so a call takes a packet for its reply that is none exactly if it is
  deceived by one with the identifier it awaits. The type of the message and the echo
  fields are never looked at.
-/

namespace Ig4u

open Lib Proto

/-- What the receiver takes from a frame. -/
structure Packet where
  msgType : UInt8
  msgId : UInt8
  /-- The bytes from the payload pointer on. -/
  payload : List UInt8
  len : ℕ
  deriving DecidableEq, Repr

namespace Cmd

variable {σ : Type*} (L : Link σ)

/-! ## Receiving a packet -/

/-- The call of `IG4U_HAL_Recv` by `RecvTMRaw`. -/
def delivery (s : Line σ) : ℤ × List UInt8 × σ :=
  L.recv (List.replicate packetMaxTotal 0) packetMaxTotal uartTimeoutMs s.link

/-- The packet the link delivers, if what it delivers starts with a frame. -/
def received (s : Line σ) : Option Packet :=
  let r := delivery L s
  if 0 < r.1 ∧ WellFormed r.2.1 r.1.toNat then
    some ⟨r.2.1.getD offsetMsgtype 0, r.2.1.getD offsetMsgid 0, r.2.1.drop offsetPayload,
      lengthOf r.2.1⟩
  else none

/-- The line after a receive. -/
def afterRecv (s : Line σ) : Line σ := { s with link := (delivery L s).2.2 }

/-- The receiver succeeds with a packet that has the identifier awaited, and fails without one. -/
theorem recvTMRaw_cases (msgId : UInt8) (s : Line σ) :
    (∃ P, received L s = some P ∧ P.msgId = msgId ∧
      recvTMRaw L msgId s = (.ok (P.payload, P.len), afterRecv L s)) ∨
    (∀ P, received L s = some P → P.msgId ≠ msgId) ∧
      ∃ code, code ≠ cmdOk ∧ recvTMRaw L msgId s = (.error code, afterRecv L s) := by
  simp only [recvTMRaw]
  rw [← delivery]
  by_cases hpos : 0 < (delivery L s).1
  swap
  · have hnone : received L s = none := if_neg fun h => hpos h.1
    rw [hnone, if_pos (not_lt.1 hpos)]
    exact .inr ⟨by simp, _, by decide, rfl⟩
  rw [if_neg (not_le.2 hpos)]
  by_cases hwell : WellFormed (delivery L s).2.1 (delivery L s).1.toNat
  swap
  · have hnone : received L s = none := if_neg fun h => hwell h.2
    obtain ⟨code, hcode, he⟩ := decodeTM_not_wellFormed hwell default
    rw [hnone, he, if_pos (show code ≠ protoOk from hcode.ne)]
    exact .inr ⟨by simp, _, by decide, rfl⟩
  rw [decodeTM_wellFormed hwell, if_neg (not_not.2 rfl), Option.getD_some,
    tmOf_payloadLen hwell.range]
  have hsome : received L s = some ⟨_, _, _, _⟩ := if_pos ⟨hpos, hwell⟩
  by_cases hid : (delivery L s).2.1.getD offsetMsgid 0 = msgId
  · exact .inl ⟨_, hsome, hid, if_neg (not_not.2 hid)⟩
  · refine .inr ⟨fun P hP => ?_, _, by decide, if_pos hid⟩
    rw [hsome] at hP
    cases hP
    exact hid

/-- A reply is parsed if it has the identifier awaited. Otherwise, and if it cannot be
    parsed, the output is left as it is. -/
theorem recvReply_cases {α : Type*} (replyId : UInt8) (parse : α → List UInt8 → ℕ → Option α)
    (out : α) (s : Line σ) :
    (∃ P out', received L s = some P ∧ P.msgId = replyId ∧
      parse out P.payload P.len = some out' ∧
      recvReply L replyId parse out s = (cmdOk, out', afterRecv L s)) ∨
    (∀ P, received L s = some P → P.msgId = replyId → parse out P.payload P.len = none) ∧
      ∃ code, code ≠ cmdOk ∧ recvReply L replyId parse out s = (code, out, afterRecv L s) := by
  rcases recvTMRaw_cases L replyId s with ⟨P, hP, hid, he⟩ | ⟨hno, code, hcode, he⟩
  · simp only [recvReply, he]
    rcases hparse : parse out P.payload P.len with - | out'
    · refine .inr ⟨fun P' hP' _ => ?_, _, by decide, rfl⟩
      rw [← Option.some.inj (hP.symm.trans hP'), hparse]
    · exact .inl ⟨P, out', hP, hid, hparse, rfl⟩
  · simp only [recvReply, he]
    exact .inr ⟨fun P hP hid => absurd hid (hno P hP), code, hcode, rfl⟩

/-- Without an output pointer, the wait for a Default Response only looks at the identifier. -/
theorem waitDefaultResponse_none (msgId : UInt8) (s : Line σ) :
    waitDefaultResponse L msgId none s =
      ((recvReply L msgId (fun _ _ _ => some ()) () s).1, none, afterRecv L s) := by
  rcases recvTMRaw_cases L msgId s with ⟨P, -, -, he⟩ | ⟨-, code, -, he⟩ <;>
    simp only [waitDefaultResponse, recvReply, he]

/-! ## Expected packets -/

/-- What a command waits for: the identifier, the length of the payload it needs, and the
    bytes of the payload that echo the telecommand. -/
structure Expected where
  msgId : UInt8
  minLen : ℕ
  echoes : List (ℕ × UInt8)

namespace Expected

/-- A Default Response, of which not even the length is looked at. -/
def defaultResponse (tcMsgId : UInt8) : Expected := ⟨tcMsgId, 0, [(1, tcMsgId)]⟩

/-- A Reply HK Data. -/
def replyHk : Expected := ⟨WireMsgid.replyHk, 16, []⟩

/-- A Reply Status. -/
def replyStatus : Expected := ⟨WireMsgid.replyStatus, 5, []⟩

/-- A Reply Fault Log. -/
def replyFaultLog : Expected := ⟨WireMsgid.replyFaultLog, 1, []⟩

/-- A Main Thruster Result. -/
def mainResult : Expected := ⟨WireMsgid.mainResult, 6, []⟩

/-- A CG Thruster Result. -/
def cgResult (tcMsgId thrusterId : UInt8) : Expected :=
  ⟨WireMsgid.cgResult, 8, [(0, tcMsgId), (1, thrusterId)]⟩

/-- The packet is taken for the one expected. -/
def Accepts (e : Expected) (P : Packet) : Prop := P.msgId = e.msgId ∧ e.minLen ≤ P.len

/-- The packet is a response, and it echoes the telecommand. -/
def Genuine (e : Expected) (P : Packet) : Prop :=
  P.msgType = msgtypeResponse ∧ ∀ x ∈ e.echoes, x.1 < P.len ∧ P.payload.getD x.1 0 = x.2

instance (e : Expected) (P : Packet) : Decidable (e.Accepts P) :=
  inferInstanceAs (Decidable (_ ∧ _))

instance (e : Expected) (P : Packet) : Decidable (e.Genuine P) :=
  inferInstanceAs (Decidable (_ ∧ ∀ x ∈ e.echoes, x.1 < P.len ∧ P.payload.getD x.1 0 = x.2))

end Expected

/-- The packets received one after the other, if they are all taken for the ones expected. -/
def replies : List Expected → Line σ → Option (List Packet)
  | [], _ => some []
  | e :: es, s =>
    ((received L s).filter fun P => e.Accepts P).bind fun P =>
      (replies es (afterRecv L s)).map (P :: ·)

/-- Handing a telecommand to `IG4U_HAL_Send`: its return code, and the line after it. -/
def handOver (F : Frame) (s : Line σ) : ℤ × Line σ :=
  let txBuf := F.bytes ++ s.txBuf.drop F.bytes.length
  let r := L.send txBuf F.bytes.length s.link
  (r.1, ⟨txBuf, s.sent ++ [F.bytes], r.2⟩)

/-- The packets received after handing over a telecommand, if that succeeds and they are all
    taken for the ones expected. -/
def exchange (F : Frame) (es : List Expected) (s : Line σ) : Option (List Packet) :=
  if (handOver L F s).1 = halOk then replies L es (handOver L F s).2 else none

/-- The line after the packets expected have been received. -/
def afterReplies : List Expected → Line σ → Option (Line σ)
  | [], s => some s
  | e :: es, s =>
    ((received L s).filter fun P => e.Accepts P).bind fun _ => afterReplies es (afterRecv L s)

/-- The packet that is received next after handing over a telecommand and receiving the packets
    expected. -/
def nextPacket (F : Frame) (es : List Expected) (s : Line σ) : Option Packet :=
  if (handOver L F s).1 = halOk then
    (afterReplies L es (handOver L F s).2).bind fun s => received L s
  else none

theorem sendTC_handOver (msgId : UInt8) {p : List UInt8} {src : Option (List UInt8)}
    (hsrc : PointsTo src p) (hp : p.length ≤ packetMaxPayload) (s : Line σ) :
    sendTC L msgId src p.length s =
      (if (handOver L (.tc msgId p hp) s).1 = halOk then cmdOk else cmdErrSend,
        (handOver L (.tc msgId p hp) s).2) := by
  rw [sendTC_eq L msgId hsrc hp, handOver, Frame.length_bytes]
  rfl

/-! ## The commands -/

section

variable {L} {s : Line σ} {e : Expected} {es : List Expected}

/-- A packet that is taken is the first of the replies. -/
theorem replies_cons {P : Packet} (hP : received L s = some P) (ha : e.Accepts P) :
    replies L (e :: es) s = (replies L es (afterRecv L s)).map (P :: ·) := by
  rw [replies, hP, Option.filter_some, if_pos (decide_eq_true ha), Option.bind_some]

/-- Without one, there are no replies at all. -/
theorem replies_cons_none (h : ∀ P, received L s = some P → ¬e.Accepts P) :
    replies L (e :: es) s = none := by
  rw [replies, Option.bind_eq_none_iff]
  intro P hP
  obtain ⟨hrec, ha⟩ := Option.filter_eq_some_iff.1 hP
  exact absurd (of_decide_eq_true ha) (h P hrec)

/-- The packets of an exchange are the ones expected. -/
theorem accepts_of_exchange {F : Frame} {Ps : List Packet} (h : exchange L F es s = some Ps) :
    List.Forall₂ Expected.Accepts es Ps := by
  rw [exchange] at h
  split_ifs at h
  -- The line after handing over the telecommand is forgotten, for the induction.
  generalize (handOver L F s).2 = s' at h
  induction es generalizing s' Ps with
  | nil =>
    cases h
    exact .nil
  | cons e es ih =>
    obtain ⟨P, hP, hPs⟩ := Option.bind_eq_some_iff.1 h
    obtain ⟨Ps', hPs', rfl⟩ := Option.map_eq_some_iff.1 hPs
    exact .cons (of_decide_eq_true (Option.filter_eq_some_iff.1 hP).2) (ih _ hPs')

/-- With one more packet expected, the one that is received next decides. -/
theorem replies_append_isSome (es : List Expected) (s : Line σ) {P : Packet}
    (hP : (afterReplies L es s).bind (fun s => received L s) = some P) :
    (replies L (es ++ [e]) s).isSome ↔ e.Accepts P := by
  induction es generalizing s with
  | nil =>
    have hrec : received L s = some P := hP
    by_cases ha : e.Accepts P
    · rw [List.nil_append, replies_cons hrec ha]
      exact iff_of_true rfl ha
    · rw [List.nil_append, replies_cons_none fun P' hP' => by
        rwa [Option.some.inj (hP'.symm.trans hrec)]]
      exact iff_of_false (by simp) ha
  | cons e' es ih =>
    rw [afterReplies, Option.bind_assoc] at hP
    obtain ⟨P', hP', hnext⟩ := Option.bind_eq_some_iff.1 hP
    obtain ⟨hrec, ha⟩ := Option.filter_eq_some_iff.1 hP'
    rw [List.cons_append, replies_cons hrec (of_decide_eq_true ha), Option.isSome_map]
    exact ih _ hnext

/-- The same of an exchange. -/
theorem exchange_append_isSome {F : Frame} {P : Packet} (hP : nextPacket L F es s = some P) :
    (exchange L F (es ++ [e]) s).isSome ↔ e.Accepts P := by
  rw [nextPacket] at hP
  split_ifs at hP with hsend
  rw [exchange, if_pos hsend]
  exact replies_append_isSome es _ hP

theorem exchange_of_sent {F : Frame} (h : (handOver L F s).1 = halOk) :
    exchange L F es s = replies L es (handOver L F s).2 := if_pos h

theorem exchange_of_not_sent {F : Frame} (h : (handOver L F s).1 ≠ halOk) :
    exchange L F es s = none := if_neg h

end

/-- A reply is received and parsed, or the output is left as it is. -/
theorem recvReply_replies {α : Type*} {e : Expected} {parse : α → List UInt8 → ℕ → Option α}
    {out : α} (hparse : ∀ p n, (parse out p n).isSome ↔ e.minLen ≤ n) (s : Line σ) :
    (∃ P out', replies L [e] s = some [P] ∧ parse out P.payload P.len = some out' ∧
      recvReply L e.msgId parse out s = (cmdOk, out', afterRecv L s)) ∨
    replies L [e] s = none ∧
      ∃ code, code ≠ cmdOk ∧ recvReply L e.msgId parse out s = (code, out, afterRecv L s) := by
  rcases recvReply_cases L e.msgId parse out s with ⟨P, out', hP, hid, hout, he⟩ | ⟨hno, hfail⟩
  · have hlen : e.minLen ≤ P.len := (hparse P.payload P.len).1 (by rw [hout]; rfl)
    exact .inl ⟨P, out', replies_cons hP ⟨hid, hlen⟩, hout, he⟩
  · -- A packet that would be taken could also be parsed.
    refine .inr ⟨replies_cons_none fun P hP ha => ?_, hfail⟩
    have hsome := (hparse P.payload P.len).2 ha.2
    rw [hno P hP ha.1] at hsome
    cases hsome

/-- A command with a reply of its own succeeds with the packet it accepts, parsed into the
    output, or it fails and leaves the output as it is. -/
theorem replyCommand_cases {α : Type*} (msgId : UInt8) {p : List UInt8}
    {src : Option (List UInt8)} (hsrc : PointsTo src p) (hp : p.length ≤ packetMaxPayload)
    (e : Expected) {parse : α → List UInt8 → ℕ → Option α} {out : α}
    (hparse : ∀ p n, (parse out p n).isSome ↔ e.minLen ≤ n) (s : Line σ) :
    let q := replyCommand L msgId src p.length e.msgId parse out s
    let r := (q.1, some q.2.1, q.2.2)
    let x := exchange L (.tc msgId p hp) [e] s
    (∃ P, x = some [P] ∧ parse out P.payload P.len = r.2.1 ∧ r.1 = cmdOk) ∨
    x = none ∧ r.2.1 = some out ∧ r.1 ≠ cmdOk := by
  simp only [replyCommand, sendTC_handOver L msgId hsrc hp]
  by_cases hsend : (handOver L (.tc msgId p hp) s).1 = halOk
  · rw [exchange_of_sent hsend, if_pos hsend, if_neg (not_not.2 rfl)]
    rcases recvReply_replies L hparse (handOver L (.tc msgId p hp) s).2 with
      ⟨P, out', hP, hout, he⟩ | ⟨hnone, code, hcode, he⟩ <;> rw [he]
    · exact .inl ⟨P, hP, hout, rfl⟩
    · exact .inr ⟨hnone, rfl, hcode⟩
  · rw [exchange_of_not_sent hsend, if_neg hsend, if_pos (show cmdErrSend ≠ cmdOk by decide)]
    exact .inr ⟨rfl, rfl, show cmdErrSend ≠ cmdOk by decide⟩

/-- A command with a Default Response succeeds with the packet it accepts. The line is then
    the one after receiving it. -/
theorem defaultCommand_cases (msgId : UInt8) {p : List UInt8} {src : Option (List UInt8)}
    (hsrc : PointsTo src p) (hp : p.length ≤ packetMaxPayload) (es : List Expected)
    (s : Line σ) :
    let r := defaultCommand L msgId src p.length s
    (∃ P, exchange L (.tc msgId p hp) (.defaultResponse msgId :: es) s =
        (replies L es r.2).map (P :: ·) ∧ r.1 = cmdOk) ∨
    exchange L (.tc msgId p hp) (.defaultResponse msgId :: es) s = none ∧ r.1 ≠ cmdOk := by
  simp only [defaultCommand, sendTC_handOver L msgId hsrc hp]
  by_cases hsend : (handOver L (.tc msgId p hp) s).1 = halOk
  · rw [exchange_of_sent hsend, if_pos hsend, if_neg (not_not.2 rfl), waitDefaultResponse_none]
    rcases recvReply_cases L msgId (fun _ _ _ => some ()) () (handOver L (.tc msgId p hp) s).2
      with ⟨P, out', hP, hid, -, he⟩ | ⟨hno, code, hcode, he⟩ <;> rw [he]
    · exact .inl ⟨P, replies_cons hP ⟨hid, Nat.zero_le _⟩, rfl⟩
    · exact .inr ⟨replies_cons_none fun P hP ha => Option.some_ne_none _ (hno P hP ha.1), hcode⟩
  · rw [exchange_of_not_sent hsend, if_neg hsend, if_pos (show cmdErrSend ≠ cmdOk by decide)]
    exact .inr ⟨rfl, show cmdErrSend ≠ cmdOk by decide⟩

/-- The first phase of a Main Thruster Fire. -/
theorem mainFire_cases (durationMs : UInt32) (es : List Expected) (s : Line σ) :
    let r := defaultCommand L WireMsgid.mainFire (some (wrLE32 durationMs)) 4 s
    let x := exchange L (.tc WireMsgid.mainFire (wrLE32 durationMs) (by simp [wrLE32]))
      (.defaultResponse WireMsgid.mainFire :: es) s
    (∃ A, x = (replies L es r.2).map (A :: ·) ∧ r.1 = cmdOk) ∨ x = none ∧ r.1 ≠ cmdOk :=
  defaultCommand_cases L WireMsgid.mainFire (.self (wrLE32 durationMs)) (by simp [wrLE32]) es s

/-- A Main Thruster Fire that ends by itself waits for a Default Response and for the
    result. -/
theorem mainThrusterFire_cases {durationMs : UInt32} (hd : 0 < durationMs)
    (out : MainThrusterResultPayload) (s : Line σ) :
    let r := mainThrusterFire L durationMs (some out) s
    let x := exchange L (.tc WireMsgid.mainFire (wrLE32 durationMs) (by simp [wrLE32]))
      [.defaultResponse WireMsgid.mainFire, .mainResult] s
    (∃ A P result, x = some [A, P] ∧ parseMainResult out P.payload P.len = some result ∧
      r.2.1 = some result ∧ r.1 = cmdOk) ∨
    x = none ∧ r.2.1 = some out ∧ r.1 ≠ cmdOk := by
  have hparse : ∀ p n, (parseMainResult out p n).isSome ↔ Expected.mainResult.minLen ≤ n :=
    fun p n => by simp [parseMainResult, Expected.mainResult]
  simp only [mainThrusterFire]
  rcases mainFire_cases L durationMs [.mainResult] s with ⟨A, hA, hok⟩ | ⟨hnone, hfail⟩
  · -- Acknowledged: the result is received on the line after the acknowledgement.
    rw [if_neg (not_not.2 hok), hA, if_pos hd]
    rcases recvReply_replies L hparse
      (defaultCommand L WireMsgid.mainFire (some (wrLE32 durationMs)) 4 s).2 with
      ⟨P, out', hP, hout, he⟩ | ⟨hnone, code, hcode, he⟩
    · rw [hP]
      exact .inl ⟨A, P, out', rfl, hout, congrArg (fun r => some r.2.1) he, congrArg Prod.fst he⟩
    · rw [hnone]
      exact .inr ⟨rfl, congrArg (fun r => some r.2.1) he, (congrArg Prod.fst he).trans_ne hcode⟩
  · rw [if_pos hfail]
    exact .inr ⟨hnone, rfl, hfail⟩

/-- Otherwise it only waits for a Default Response, and the output is left as it is. -/
theorem mainThrusterFire_cases_of_no_result {durationMs : UInt32}
    {out : Option MainThrusterResultPayload} (h : ¬(0 < durationMs ∧ out.isSome)) (s : Line σ) :
    let r := mainThrusterFire L durationMs out s
    let x := exchange L (.tc WireMsgid.mainFire (wrLE32 durationMs) (by simp [wrLE32]))
      [.defaultResponse WireMsgid.mainFire] s
    ((∃ A, x = some [A] ∧ r.1 = cmdOk) ∨ x = none ∧ r.1 ≠ cmdOk) ∧ r.2.1 = out := by
  simp only [mainThrusterFire]
  rcases mainFire_cases L durationMs [] s with ⟨A, hA, hok⟩ | ⟨hnone, hfail⟩
  · rw [if_neg (not_not.2 hok)]
    rcases out with - | result
    · exact ⟨.inl ⟨A, hA, rfl⟩, rfl⟩
    · simp only [if_neg fun hd => h ⟨hd, rfl⟩]
      exact ⟨.inl ⟨A, hA, trivial⟩, trivial⟩
  · rw [if_pos hfail]
    exact ⟨.inr ⟨hnone, hfail⟩, rfl⟩

/-- A Request HK Data. -/
theorem requestHKData_cases (hk : ReplyHKDataPayload) (s : Line σ) :
    let r := requestHKData L (some hk) s
    let x := exchange L (.tc WireMsgid.requestHk [] (by decide)) [.replyHk] s
    (∃ P, x = some [P] ∧ parseHK hk P.payload P.len = r.2.1 ∧ r.1 = cmdOk) ∨
    x = none ∧ r.2.1 = some hk ∧ r.1 ≠ cmdOk :=
  replyCommand_cases L WireMsgid.requestHk .null (by decide) .replyHk
    (fun _ _ => by simp [parseHK, Expected.replyHk]) s

/-- A Request Status. -/
theorem requestStatus_cases (status : ReplyStatusPayload) (s : Line σ) :
    let r := requestStatus L (some status) s
    let x := exchange L (.tc WireMsgid.requestStatus [] (by decide)) [.replyStatus] s
    (∃ P, x = some [P] ∧ parseStatus status P.payload P.len = r.2.1 ∧ r.1 = cmdOk) ∨
    x = none ∧ r.2.1 = some status ∧ r.1 ≠ cmdOk :=
  replyCommand_cases L WireMsgid.requestStatus .null (by decide) .replyStatus
    (fun _ _ => by simp [parseStatus, Expected.replyStatus]) s

/-- A Request Fault Log, for which one byte of payload is enough. -/
theorem requestFaultLog_cases (log : ReplyFaultLogPayload) (s : Line σ) :
    let r := requestFaultLog L (some log) s
    let x := exchange L (.tc WireMsgid.requestFaultLog [] (by decide)) [.replyFaultLog] s
    (∃ P, x = some [P] ∧ parseFaultLog log P.payload P.len = r.2.1 ∧ r.1 = cmdOk) ∨
    x = none ∧ r.2.1 = some log ∧ r.1 ≠ cmdOk :=
  replyCommand_cases L WireMsgid.requestFaultLog .null (by decide) .replyFaultLog
    (fun _ _ => by simp [parseFaultLog, Expected.replyFaultLog, Nat.one_le_iff_ne_zero]) s

/-- A firing of the cold gas thrusters that has a place for its result. -/
theorem cgFire_cases (msgId thrusterId : UInt8) (p : List UInt8) (hp : p.length ≤ packetMaxPayload)
    (out : CGThrusterResultPayload) (s : Line σ) :
    let r := cgFire L msgId p (some out) s
    let x := exchange L (.tc msgId p hp) [.cgResult msgId thrusterId] s
    (∃ P, x = some [P] ∧ parseCGResult out P.payload P.len = r.2.1 ∧ r.1 = cmdOk) ∨
    x = none ∧ r.2.1 = some out ∧ r.1 ≠ cmdOk :=
  replyCommand_cases L msgId (.self p) hp (.cgResult msgId thrusterId)
    (fun _ _ => by simp [parseCGResult, Expected.cgResult]) s

/-! ## Success -/

/-- A command without an answer succeeds exactly if its telecommand is handed over. -/
theorem sendTC_ok_iff (msgId : UInt8) {p : List UInt8} {src : Option (List UInt8)}
    (hsrc : PointsTo src p) (hp : p.length ≤ packetMaxPayload) (s : Line σ) :
    (sendTC L msgId src p.length s).1 = cmdOk ↔ (exchange L (.tc msgId p hp) [] s).isSome := by
  rw [sendTC_handOver L msgId hsrc hp]
  by_cases hsend : (handOver L (.tc msgId p hp) s).1 = halOk
  · rw [exchange_of_sent hsend, if_pos hsend]
    exact iff_of_true rfl rfl
  · rw [exchange_of_not_sent hsend, if_neg hsend]
    exact iff_of_false (show cmdErrSend ≠ cmdOk by decide) (by simp)

/-- A command with a Default Response succeeds exactly if it accepts a packet for it. -/
theorem defaultCommand_exchange (msgId : UInt8) {p : List UInt8} {src : Option (List UInt8)}
    (hsrc : PointsTo src p) (hp : p.length ≤ packetMaxPayload) (s : Line σ) :
    (defaultCommand L msgId src p.length s).1 = cmdOk ↔
      (exchange L (.tc msgId p hp) [.defaultResponse msgId] s).isSome := by
  rcases defaultCommand_cases L msgId hsrc hp [] s with ⟨P, hx, hok⟩ | ⟨hx, hfail⟩ <;> rw [hx]
  · exact iff_of_true hok rfl
  · exact iff_of_false hfail (by simp)

/-- A request succeeds exactly if it accepts a packet for its reply. -/
theorem ok_iff_of_cases {r : ℤ} {x : Option (List Packet)} {q : Packet → Prop} {q' : Prop}
    (h : (∃ P, x = some [P] ∧ q P ∧ r = cmdOk) ∨ x = none ∧ q' ∧ r ≠ cmdOk) :
    r = cmdOk ↔ x.isSome := by
  rcases h with ⟨P, hx, -, hok⟩ | ⟨hx, -, hfail⟩ <;> rw [hx]
  · exact iff_of_true hok rfl
  · exact iff_of_false hfail (by simp)

/-- A Main Thruster Fire succeeds exactly if it accepts a packet for the Default Response and,
    if it waits for it, one for the result. -/
theorem mainThrusterFire_ok_iff (durationMs : UInt32) (out : Option MainThrusterResultPayload)
    (s : Line σ) :
    (mainThrusterFire L durationMs out s).1 = cmdOk ↔
      (exchange L (.tc WireMsgid.mainFire (wrLE32 durationMs) (by simp [wrLE32]))
        (.defaultResponse WireMsgid.mainFire ::
          if 0 < durationMs ∧ out.isSome then [.mainResult] else []) s).isSome := by
  by_cases h : 0 < durationMs ∧ out.isSome
  · obtain ⟨result, rfl⟩ := Option.isSome_iff_exists.1 h.2
    rw [if_pos h]
    rcases mainThrusterFire_cases L h.1 result s with ⟨A, P, _, hx, -, -, hok⟩ | ⟨hx, -, hfail⟩ <;>
      rw [hx]
    · exact iff_of_true hok rfl
    · exact iff_of_false hfail (by simp)
  · rw [if_neg h]
    rcases (mainThrusterFire_cases_of_no_result L h s).1 with ⟨A, hx, hok⟩ | ⟨hx, hfail⟩ <;> rw [hx]
    · exact iff_of_true hok rfl
    · exact iff_of_false hfail (by simp)

/-- A firing of the cold gas thrusters succeeds exactly if it accepts a packet for the result it
    wants. -/
theorem cgFire_ok_iff (msgId thrusterId : UInt8) (p : List UInt8) (hp : p.length ≤ packetMaxPayload)
    (out : Option CGThrusterResultPayload) (s : Line σ) :
    (cgFire L msgId p out s).1 = cmdOk ↔
      (exchange L (.tc msgId p hp)
        (if out.isSome then [.cgResult msgId thrusterId] else []) s).isSome := by
  cases out with
  | none => exact sendTC_ok_iff L msgId (.self p) hp s
  | some result =>
    rw [if_pos (show (some result).isSome from rfl)]
    exact ok_iff_of_cases (cgFire_cases L msgId thrusterId p hp result s)

end Cmd

/-! ## The calls -/

namespace Call

open Cmd

variable {σ : Type*} (L : Link σ)

/-- The packets a call waits for. -/
def expects : Call → List Expected
  | ping => [.defaultResponse WireMsgid.ping]
  | resetModule => [.defaultResponse WireMsgid.resetModule]
  | setMode _ => [.defaultResponse WireMsgid.setMode]
  | armPropulsion => [.defaultResponse WireMsgid.armPropulsion]
  | disarmPropulsion => [.defaultResponse WireMsgid.disarmPropulsion]
  | requestHKData _ => [.replyHk]
  | requestStatus _ => [.replyStatus]
  | mainThrusterFire durationMs out =>
    .defaultResponse WireMsgid.mainFire ::
      if 0 < durationMs ∧ out.isSome then [.mainResult] else []
  | mainThrusterAbort => []
  | cgThrusterPulse thrusterId _ out =>
    if out.isSome then [.cgResult WireMsgid.cgPulse thrusterId] else []
  | cgThrusterBurst thrusterId _ _ _ out =>
    if out.isSome then [.cgResult WireMsgid.cgBurst thrusterId] else []
  | cgThrusterAbort => []
  | requestFaultLog _ => [.replyFaultLog]
  | clearFault => [.defaultResponse WireMsgid.clearFault]

/-- The packets a call receives, if its telecommand is handed over and they are all taken for
    the ones it waits for. -/
def exchange (c : Call) (s : Line σ) : Option (List Packet) :=
  Cmd.exchange L c.telecommand c.expects s

/-- A call succeeds exactly if its telecommand is handed over, and the packets received are
    taken for the ones it waits for. -/
theorem run_ok_iff {c : Call} (hc : ¬c.IsNullRequest) (s : Line σ) :
    (c.run L s).1 = cmdOk ↔ (c.exchange L s).isSome := by
  cases c with
  | setMode mode => exact defaultCommand_exchange L _ (.self [mode, 0, 0, 0]) (by simp) s
  | mainThrusterFire durationMs out => exact mainThrusterFire_ok_iff L durationMs out s
  | cgThrusterPulse thrusterId durationMs out => exact cgFire_ok_iff L _ thrusterId _ _ out s
  | cgThrusterBurst thrusterId pulseDurationMs pulseCount intervalMs out =>
    exact cgFire_ok_iff L _ thrusterId _ _ out s
  | mainThrusterAbort => exact sendTC_ok_iff L _ .null (by decide) s
  | cgThrusterAbort => exact sendTC_ok_iff L _ .null (by decide) s
  | requestHKData out =>
    obtain ⟨_, rfl⟩ := Option.ne_none_iff_exists'.1 hc
    exact ok_iff_of_cases (requestHKData_cases L _ s)
  | requestStatus out =>
    obtain ⟨_, rfl⟩ := Option.ne_none_iff_exists'.1 hc
    exact ok_iff_of_cases (requestStatus_cases L _ s)
  | requestFaultLog out =>
    obtain ⟨_, rfl⟩ := Option.ne_none_iff_exists'.1 hc
    exact ok_iff_of_cases (requestFaultLog_cases L _ s)
  | _ => exact defaultCommand_exchange L _ .null (by decide) s

end Call

/-! ## Validation -/

section

open Cmd

variable {σ : Type*} (L : Link σ)

/-- The packets are genuine replies. -/
def AllGenuine (es : List Expected) (Ps : List Packet) : Prop := ∀ x ∈ es.zip Ps, x.1.Genuine x.2

instance (es : List Expected) (Ps : List Packet) : Decidable (AllGenuine es Ps) :=
  inferInstanceAs (Decidable (∀ x ∈ es.zip Ps, x.1.Genuine x.2))

/-- The receiver succeeds only with a response. -/
def RecvValidates (msgId : UInt8) (s : Line σ) : Prop :=
  ∀ r, (recvTMRaw L msgId s).1 = .ok r → ∃ P ∈ received L s, P.msgType = msgtypeResponse

/-- The wait for a Default Response succeeds only with one to the telecommand. -/
def WaitValidates (msgId : UInt8) (out : Option DefaultResponsePayload) (s : Line σ) : Prop :=
  (waitDefaultResponse L msgId out s).1 = cmdOk →
    ∃ P ∈ received L s, (Expected.defaultResponse msgId).Genuine P

namespace Call

/-- A call succeeds only with genuine replies. -/
def Validates (c : Call) (s : Line σ) : Prop :=
  (c.run L s).1 = cmdOk → ∃ Ps ∈ c.exchange L s, AllGenuine c.expects Ps

/-- A call receives packets with the identifiers it awaits and long enough, which are not all
    genuine replies. -/
def Deceived (c : Call) (s : Line σ) : Prop :=
  ¬c.IsNullRequest ∧ ∃ Ps ∈ c.exchange L s, ¬AllGenuine c.expects Ps

/-- These are the only ways to be deceived. -/
theorem validates_iff_not_deceived (c : Call) (s : Line σ) :
    c.Validates L s ↔ ¬c.Deceived L s := by
  by_cases hc : c.IsNullRequest
  · -- A request without a place for the reply does not succeed.
    refine iff_of_true (fun hok => ?_) fun h => h.1 hc
    rw [run_of_isNullRequest L hc] at hok
    exact absurd hok (show cmdErrParse ≠ cmdOk by decide)
  · rw [Validates, Deceived, run_ok_iff L hc]
    rcases c.exchange L s with - | Ps <;> simp [hc]

end Call

/-- Whatever the link delivers: the receiver, the wait for a Default Response and the calls
    succeed only with genuine replies exactly if no packet of another type, or with other echo
    fields, has the identifier awaited and the length needed. -/
theorem validates_iff (s : Line σ) :
    (∀ msgId, RecvValidates L msgId s ↔
      ¬∃ P ∈ received L s, P.msgId = msgId ∧ P.msgType ≠ msgtypeResponse) ∧
    (∀ msgId out, WaitValidates L msgId out s ↔
      ¬∃ P ∈ received L s, P.msgId = msgId ∧ (out.isSome → IsAck (P.payload, P.len)) ∧
        ¬(Expected.defaultResponse msgId).Genuine P) ∧
    ∀ c : Call, c.Validates L s ↔ ¬c.Deceived L s := by
  refine ⟨fun msgId => ?_, fun msgId out => ?_, fun c => c.validates_iff_not_deceived L s⟩
  · -- Of the type of a packet received nothing is known.
    rcases recvTMRaw_cases L msgId s with ⟨P, hP, hid, he⟩ | ⟨hno, code, -, he⟩
    · simp [RecvValidates, he, hP, hid]
    · refine iff_of_true (fun r hr => ?_) ?_
      · rw [he] at hr
        cases hr
      · rintro ⟨P, hP, hid, -⟩
        exact hno P hP hid
  · rw [WaitValidates]
    rcases recvTMRaw_cases L msgId s with ⟨P, hP, hid, he⟩ | ⟨hno, code, hcode, he⟩
    · -- Without an output nothing is checked, and with one only the result.
      cases out with
      | none => simp [waitDefaultResponse, he, hP, hid]
      | some out =>
        rw [waitDefaultResponse_ok_iff, he]
        simp [hP, hid]
    · refine iff_of_true (fun hok => ?_) ?_
      · simp only [waitDefaultResponse, he] at hok
        exact absurd hok hcode
      · rintro ⟨P, hP, hid, -⟩
        exact hno P hP hid

/-- A Ping succeeds with the echo of its own telecommand on the line, and with an event. -/
theorem not_validates_echo :
    let L := Hal.link (Hal.fifo .success)
    let line (F : Frame) : Line (Hal.State (List UInt8)) :=
      ⟨List.replicate packetMaxTotal 0, [], ⟨true, F.bytes ++ [0, 0], []⟩⟩
    let echo := Call.ping.telecommand
    let event := Frame.sealed packetVersion msgtypeEvent WireMsgid.ping [0, 1, 0, 0] (by decide)
    ((Call.ping.run L (line echo)).1 = cmdOk ∧ ¬Call.ping.Validates L (line echo)) ∧
      (Call.ping.run L (line event)).1 = cmdOk ∧ ¬Call.ping.Validates L (line event) := by
  intro L line echo event
  have hecho : ∃ Ps ∈ Call.ping.exchange L (line echo), ¬AllGenuine Call.ping.expects Ps := by
    decide +kernel
  have hevent : ∃ Ps ∈ Call.ping.exchange L (line event), ¬AllGenuine Call.ping.expects Ps := by
    decide +kernel
  refine ⟨⟨by decide +kernel, ?_⟩, by decide +kernel, ?_⟩ <;>
    rw [Call.validates_iff_not_deceived, not_not]
  · exact ⟨id, hecho⟩
  · exact ⟨id, hevent⟩

end

end Ig4u
