import Ig4u.CommTest.Basic
import Ig4u.Commands.Simulation

/-!
# The report of the communication test

What the test sends, and what its two counters say, for any link, platform and stack.

* `runAll_sent`: every repetition sends the same eleven frames (`script`).
* `runAll_report`: the counters are those of the verdicts, of which there are 18 to 19 times as
  many as repetitions.
* `runAll_deaf`: while no call that waits for a packet succeeds, at least eleven verdicts of a
  repetition are against the link, and five are not. `runAll_dead` is the case of a link on which
  nothing is ever received.
-/

namespace Ig4u.CommTest

open Lib Proto Cmd

variable {σ : Type*} (L : Link σ) (E : Platform σ)

/-! ## Verdicts -/

/-- From `b` to `b'` the verdicts `vs` are given, and `silent` passes counted without a line. -/
structure Reports (b b' : Bench σ) (vs : List Bool) (silent : ℕ) : Prop where
  pass : b'.pass = b.pass + UInt32.ofNat (vs.count true + silent)
  fail : b'.fail = b.fail + UInt32.ofNat (vs.count false)
  log : b'.log.map Prod.snd = b.log.map Prod.snd ++ vs

namespace Reports

variable {b b' b'' : Bench σ} {vs vs' : List Bool} {k k' : ℕ}

/-- Nothing is reported. -/
theorem refl (b : Bench σ) : Reports b b [] 0 :=
  ⟨(UInt32.add_zero _).symm, (UInt32.add_zero _).symm, (List.append_nil _).symm⟩

/-- One report after the other. -/
theorem trans (h : Reports b b' vs k) (h' : Reports b' b'' vs' k') :
    Reports b b'' (vs ++ vs') (k + k') where
  pass := by
    rw [h'.pass, h.pass, UInt32.add_assoc, ← UInt32.ofNat_add, List.count_append]
    congr 2
    omega
  fail := by rw [h'.fail, h.fail, UInt32.add_assoc, ← UInt32.ofNat_add, List.count_append]
  log := by rw [h'.log, h.log, List.append_assoc]

/-- The verdict of an assertion. -/
theorem testAssert (b : Bench σ) (cond : Prop) [Decidable cond] (name : String) :
    Reports b (b.testAssert cond name) [decide cond] 0 := by
  -- One of the two counters goes up, and the line printed says which one.
  by_cases h : cond <;>
    simp only [Bench.testAssert, h, if_true, if_false, decide_true, decide_false]
  · exact ⟨rfl, (UInt32.add_zero _).symm, List.map_append⟩
  · exact ⟨(UInt32.add_zero _).symm, rfl, List.map_append⟩

/-- A pass without a line. -/
theorem silent (b : Bench σ) : Reports b { b with pass := b.pass + 1 } [] 1 :=
  ⟨rfl, (UInt32.add_zero _).symm, (List.append_nil _).symm⟩

/-- What happens on the line before is not reported. -/
theorem of_line {line : Line σ} (h : Reports { b with line := line } b' vs k) :
    Reports b b' vs k := ⟨h.pass, h.fail, h.log⟩

/-- Nor is what happens on it after. -/
theorem to_line (h : Reports b b' vs k) (line : Line σ) :
    Reports b { b' with line := line } vs k := ⟨h.pass, h.fail, h.log⟩

end Reports

/-- An assertion does not touch the line to the payload. -/
@[simp]
theorem testAssert_line (b : Bench σ) (cond : Prop) [Decidable cond] (name : String) :
    (b.testAssert cond name).line = b.line := by
  rw [Bench.testAssert]
  split_ifs <;> rfl

/-! ## Traces -/

/-- What a part of the test does: the line after it, its verdicts, and the passes counted without
    a line. -/
abbrev Trace (σ : Type*) := Line σ → Line σ × List Bool × ℕ

/-- One part after the other. -/
def Trace.andThen (t t' : Trace σ) : Trace σ := fun s =>
  let r := t s
  let r' := t' r.1
  (r'.1, r.2.1 ++ r'.2.1, r.2.2 + r'.2.2)

/-- Nothing. -/
def skip : Trace σ := fun s => (s, [], 0)

/-- A part `f` of the test does what its trace says. -/
def Follows (f : Bench σ → Bench σ) (t : Trace σ) : Prop := ∀ b,
  Reports b (f b) (t b.line).2.1 (t b.line).2.2 ∧ (f b).line = (t b.line).1

/-- Parts that follow their traces do so one after the other. -/
theorem Follows.andThen {f f' : Bench σ → Bench σ} {t t' : Trace σ} (h : Follows f t)
    (h' : Follows f' t') : Follows (fun b => f' (f b)) (t.andThen t') := by
  intro b
  obtain ⟨hr, hline⟩ := h b
  obtain ⟨hr', hline'⟩ := h' (f b)
  rw [hline] at hr' hline'
  exact ⟨hr.trans hr', hline'⟩

/-- A call of the platform. -/
def onPlatform (f : σ → σ) : Trace σ := fun s => ({ s with link := f s.link }, [], 0)

/-- A call that should succeed. -/
def ask (c : Call) : Trace σ := fun s =>
  let r := c.run L s
  (r.2, [decide (r.1 = cmdOk)], 0)

/-- A Request Status that should succeed and leave what satisfies `P` in the output. -/
def askStatus (out : ReplyStatusPayload) (P : ReplyStatusPayload → Prop) [DecidablePred P] :
    Trace σ := fun s =>
  let r := Cmd.requestStatus L (some out) s
  (r.2.2, [decide (r.1 = cmdOk), decide (P (r.2.1.getD out))], 0)

/-- A Request HK Data that should succeed, which is asserted twice. -/
def askHK : Trace σ := fun s =>
  let r := Cmd.requestHKData L (some default) s
  (r.2.2, [decide (r.1 = cmdOk), decide (r.1 = cmdOk)], 0)

/-! ## The frames that no command sends -/

/-- The telecommand of `Test_Step08_UnknownTC`. -/
def unknownTC : Frame := .tc unknownMsgId [] (Nat.zero_le _)

/-- The frame of `Test_Step09_WrongCRC`. -/
def wrongCrcTC : Frame :=
  { Call.ping.telecommand with crc := Call.ping.telecommand.crc ^^^ 0xFF00 }

/-- The verdicts on the answer to the unknown telecommand, the code and the buffer of the receive,
    and the passes without a line. -/
def unknownVerdicts (r : ℤ × List UInt8) : List Bool × ℕ :=
  if 0 < r.1 then
    match packetIn r with
    | some P =>
      if 4 ≤ P.len then
        ([P.payload.getD 0 0 = resultNack, P.payload.getD 1 0 = unknownMsgId], 0)
      else ([false], 0)
    | none => ([false], 0)
  else ([], 1)

/-- Encoding a telecommand without a payload. -/
theorem encodeTC_null (txBuf : List UInt8) (msgId : UInt8) :
    let F := Frame.tc msgId [] (by decide)
    encodeTC (some txBuf) packetMaxTotal msgId none 0 =
      ((F.bytes.length : ℤ), some (F.bytes ++ txBuf.drop F.bytes.length)) := by
  obtain ⟨hp, -, he⟩ | ⟨hno, -⟩ := encodeTC_eq txBuf packetMaxTotal msgId PointsTo.null
  · exact he
  · exact absurd (by decide) hno

/-- The decoder finds the packet in a delivery, or fails without one. -/
theorem decodeTM_packetIn {r : ℤ × List UInt8} (hpos : 0 < r.1) :
    (∃ P tm, packetIn r = some P ∧
      decodeTM (some r.2) r.1.toNat (some default) = (protoOk, some tm) ∧
      tm.payloadLen.toNat = P.len ∧ r.2.drop tm.payload = P.payload) ∨
    packetIn r = none ∧ (decodeTM (some r.2) r.1.toNat (some default)).1 ≠ protoOk := by
  by_cases hwell : WellFormed r.2 r.1.toNat
  · exact .inl ⟨_, _, if_pos ⟨hpos, hwell⟩, decodeTM_wellFormed hwell default,
      tmOf_payloadLen hwell.range, rfl⟩
  · obtain ⟨code, hcode, he⟩ := decodeTM_not_wellFormed hwell default
    refine .inr ⟨if_neg fun h => hwell h.2, ?_⟩
    rw [he]
    exact hcode.ne

/-- Sending a frame from a buffer of the stack, and receiving into another one. -/
def deliver (F : Frame) (txBuf rxBuf : List UInt8) (s : Line σ) : ℤ × List UInt8 × σ :=
  L.recv rxBuf packetMaxTotal uartTimeoutMs
    (L.send (F.bytes ++ txBuf.drop F.bytes.length) F.bytes.length s.link).2

/-- The unknown telecommand. -/
def askUnknown (txBuf rxBuf : List UInt8) : Trace σ := fun s =>
  let r := deliver L unknownTC txBuf rxBuf s
  let v := unknownVerdicts (r.1, r.2.1)
  (⟨s.txBuf, s.sent ++ [unknownTC.bytes], r.2.2⟩, true :: v.1, v.2)

/-- The frame with the wrong CRC, whatever the answer to it is. -/
def askWrongCrc (txBuf rxBuf : List UInt8) : Trace σ := fun s =>
  (⟨s.txBuf, s.sent ++ [wrongCrcTC.bytes], (deliver L wrongCrcTC txBuf rxBuf s).2.2⟩,
    [true, true], 0)

/-- The step of the unknown telecommand. Its encoding always succeeds. Then comes nothing, an answer
    that cannot be decoded, a short one, or one to look at. -/
theorem step08UnknownTC_follows (txBuf rxBuf : List UInt8) :
    Follows (step08UnknownTC L txBuf rxBuf) (askUnknown L txBuf rxBuf) := by
  intro b
  simp only [askUnknown, deliver]
  set rest := txBuf.drop unknownTC.bytes.length
  set r := L.recv rxBuf packetMaxTotal uartTimeoutMs
    (L.send (unknownTC.bytes ++ rest) unknownTC.bytes.length b.line.link).2 with hr
  set v := unknownVerdicts (r.1, r.2.1) with hv'
  have he : encodeTC (some txBuf) packetMaxTotal unknownMsgId none 0 =
      ((unknownTC.bytes.length : ℤ), some (unknownTC.bytes ++ rest)) := encodeTC_null txBuf _
  have hlen : (0 : ℤ) < unknownTC.bytes.length := by rw [Frame.length_bytes]; decide
  -- The encoding and the delivery, with what happens on the line.
  have hencoded : Reports b (b.testAssert (0 < (unknownTC.bytes.length : ℤ)) "Unknown TC 패킷 인코딩")
      [true] 0 := by
    simpa only [hlen, decide_true] using Reports.testAssert b (0 < (unknownTC.bytes.length : ℤ)) _
  simp only [step08UnknownTC, he, if_pos hlen, Option.getD_some, Int.toNat_natCast,
    Bench.halSend, Bench.halRecv, testAssert_line, List.take_left]
  have hline := hencoded.to_line ⟨b.line.txBuf, b.line.sent ++ [unknownTC.bytes], r.2.2⟩
  by_cases hpos : 0 < r.1
  · rw [if_pos hpos]
    rcases decodeTM_packetIn (r := (r.1, r.2.1)) hpos with ⟨P, tm, hP, hdec, hl, hp⟩ | ⟨hP, hdec⟩
    · simp only at hdec hp
      rw [hdec, Option.getD_some, hl, hp]
      by_cases hP4 : 4 ≤ P.len
      · -- The answer has the fields of a Default Response.
        have hv : v = ([decide (P.payload.getD 0 0 = resultNack),
            decide (P.payload.getD 1 0 = unknownMsgId)], 0) := by
          simp only [v, unknownVerdicts, if_pos hpos, hP, if_pos hP4]
        rw [if_pos ⟨rfl, hP4⟩, hv]
        exact ⟨hline.trans ((Reports.testAssert _ _ _).trans (Reports.testAssert _ _ _)),
          by simp only [testAssert_line]; rfl⟩
      · have hv : v = ([false], 0) := by
          simp only [v, unknownVerdicts, if_pos hpos, hP, if_neg hP4]
        rw [if_neg fun h => hP4 h.2, hv]
        exact ⟨hline.trans (Reports.testAssert _ _ _), testAssert_line _ _ _⟩
    · have hv : v = ([false], 0) := by
        simp only [v, unknownVerdicts, if_pos hpos, hP]
      rw [if_neg fun h => hdec h.1, hv]
      exact ⟨hline.trans (Reports.testAssert _ _ _), testAssert_line _ _ _⟩
  · -- Nothing was received: a pass without a line.
    have hv : v = ([], 1) := if_neg hpos
    rw [if_neg hpos, hv]
    exact ⟨hline.trans (.silent _), rfl⟩

/-- The step of the frame with the wrong CRC. -/
theorem step09WrongCRC_follows (txBuf rxBuf : List UInt8) :
    Follows (step09WrongCRC L txBuf rxBuf) (askWrongCrc L txBuf rxBuf) := by
  intro b
  simp only [askWrongCrc, deliver]
  set rest := txBuf.drop wrongCrcTC.bytes.length
  set r := L.recv rxBuf packetMaxTotal uartTimeoutMs
    (L.send (wrongCrcTC.bytes ++ rest) wrongCrcTC.bytes.length b.line.link).2 with hr
  have he : encodeTC (some txBuf) packetMaxTotal WireMsgid.ping none 0 =
      ((wrongCrcTC.bytes.length : ℤ), some (Call.ping.telecommand.bytes ++ rest)) := by
    have hl : wrongCrcTC.bytes.length = Call.ping.telecommand.bytes.length := by
      rw [Frame.length_bytes, Frame.length_bytes]
      rfl
    simp only [rest, hl]
    exact encodeTC_null txBuf WireMsgid.ping
  -- The step inverts the last byte of the frame, the upper half of its CRC.
  have hbytes : Call.ping.telecommand.bytes.set 8
      (Call.ping.telecommand.bytes.getD 8 0 ^^^ 0xFF) = wrongCrcTC.bytes := by decide +kernel
  have hset : (Call.ping.telecommand.bytes ++ rest).set (wrongCrcTC.bytes.length - 1)
      ((Call.ping.telecommand.bytes ++ rest).getD (wrongCrcTC.bytes.length - 1) 0 ^^^ 0xFF) =
        wrongCrcTC.bytes ++ rest := by
    have h8 : wrongCrcTC.bytes.length - 1 = 8 := by rw [Frame.length_bytes]; rfl
    have hlt : 8 < Call.ping.telecommand.bytes.length := by rw [Frame.length_bytes]; decide
    rw [h8, List.getD_append _ _ _ _ hlt, List.set_append_left _ _ hlt, hbytes]
  have hlen : (0 : ℤ) < wrongCrcTC.bytes.length := by rw [Frame.length_bytes]; decide
  have hencoded : Reports b
      (b.testAssert (0 < (wrongCrcTC.bytes.length : ℤ)) "PING 패킷 인코딩 (CRC 변조 전)") [true] 0 := by
    simpa only [hlen, decide_true] using Reports.testAssert b (0 < (wrongCrcTC.bytes.length : ℤ)) _
  simp only [step09WrongCRC, he, if_pos hlen, Option.getD_some, Int.toNat_natCast, hset,
    Bench.halSend, Bench.halRecv, testAssert_line, List.take_left]
  -- With an answer or without one, the second assertion is of `True`.
  have hline := hencoded.to_line ⟨b.line.txBuf, b.line.sent ++ [wrongCrcTC.bytes], r.2.2⟩
  by_cases hpos : r.1 ≤ 0
  · rw [if_pos hpos]
    exact ⟨hline.trans (Reports.testAssert _ _ _), testAssert_line _ _ _⟩
  · rw [if_neg hpos]
    exact ⟨hline.trans (Reports.testAssert _ _ _), testAssert_line _ _ _⟩

/-! ## A repetition -/

/-- The trace of a repetition, without the switching on and off. -/
def traceOnce (st : Stack) : Trace σ :=
  (onPlatform fun s => E.delayMs 2000 (E.powerOn s)).andThen <|
  ((ask L .ping).andThen
    (askStatus L st.status02 fun status => status.mode = State.standby.toByte)).andThen <|
  (askStatus L default fun status => status.faultFlags = faultNone).andThen <|
  (askHK L).andThen <|
  ((ask L (.setMode modeArmed)).andThen
    (askStatus L st.status05 fun status => status.mode = State.armed.toByte)).andThen <|
  (ask L (.setMode modeStandby)).andThen <|
  (askStatus L default fun status => status.mode = State.standby.toByte).andThen <|
  (askUnknown L st.txBuf08 st.rxBuf08).andThen <|
  (askWrongCrc L st.txBuf09 st.rxBuf09).andThen <|
  ((onPlatform fun s =>
      E.delayMs 500 (E.reconnectLink (E.delayMs 1000 (E.disconnectLink s)))).andThen
    (ask L .ping)).andThen <|
  onPlatform fun s => E.delayMs 500 (E.powerOff s)

/-- The platform is called without a verdict. -/
theorem Reports.platform (b : Bench σ) (f : σ → σ) : Reports b (b.platform f) [] 0 :=
  (Reports.refl b).to_line _

/-- Switching on. -/
theorem step01PowerOn_follows :
    Follows (step01PowerOn E) (onPlatform fun s => E.delayMs 2000 (E.powerOn s)) :=
  fun b => ⟨(Reports.platform b _).trans (.platform _ _), rfl⟩

/-- The Ping, and the status after it. -/
theorem step02Ping_follows (status : ReplyStatusPayload) :
    Follows (step02Ping L status) ((ask L .ping).andThen
      (askStatus L status fun status => status.mode = State.standby.toByte)) := by
  intro b
  simp only [step02Ping, Trace.andThen, ask, askStatus, Call.run, testAssert_line]
  exact ⟨(Reports.testAssert _ _ _).of_line.trans
    ((Reports.testAssert _ _ _).of_line.trans (.testAssert _ _ _)), trivial⟩

/-- The fault flags. The output is cleared before. -/
theorem step03RequestStatus_follows :
    Follows (step03RequestStatus L)
      (askStatus L default fun status => status.faultFlags = faultNone) := by
  intro b
  simp only [step03RequestStatus, askStatus, testAssert_line]
  exact ⟨(Reports.testAssert _ _ _).of_line.trans (.testAssert _ _ _), trivial⟩

/-- The housekeeping data, whose return code is asserted twice. -/
theorem step04RequestHKData_follows : Follows (step04RequestHKData L) (askHK L) := by
  intro b
  simp only [step04RequestHKData, askHK, testAssert_line]
  exact ⟨(Reports.testAssert _ _ _).of_line.trans (.testAssert _ _ _), trivial⟩

/-- The mode ARMED, and the status after it. -/
theorem step05SetArmed_follows (status : ReplyStatusPayload) :
    Follows (step05SetArmed L status) ((ask L (.setMode modeArmed)).andThen
      (askStatus L status fun status => status.mode = State.armed.toByte)) := by
  intro b
  simp only [step05SetArmed, Trace.andThen, ask, askStatus, Call.run, testAssert_line]
  exact ⟨(Reports.testAssert _ _ _).of_line.trans
    ((Reports.testAssert _ _ _).of_line.trans (.testAssert _ _ _)), trivial⟩

/-- The way back to STANDBY. -/
theorem step06SetStandby_follows :
    Follows (step06SetStandby L) (ask L (.setMode modeStandby)) :=
  fun _ => ⟨(Reports.testAssert _ _ _).of_line, testAssert_line _ _ _⟩

/-- The status after that. -/
theorem step07VerifyStandby_follows :
    Follows (step07VerifyStandby L)
      (askStatus L default fun status => status.mode = State.standby.toByte) := by
  intro b
  simp only [step07VerifyStandby, askStatus, testAssert_line]
  exact ⟨(Reports.testAssert _ _ _).of_line.trans (.testAssert _ _ _), trivial⟩

/-- The Ping after the link was disconnected. -/
theorem step10Reconnect_follows :
    Follows (step10Reconnect L E) ((onPlatform fun s =>
      E.delayMs 500 (E.reconnectLink (E.delayMs 1000 (E.disconnectLink s)))).andThen
        (ask L .ping)) :=
  fun _ => ⟨(Reports.testAssert _ _ _).of_line, testAssert_line _ _ _⟩

/-- Switching off. -/
theorem step11PowerOff_follows :
    Follows (step11PowerOff E) (onPlatform fun s => E.delayMs 500 (E.powerOff s)) :=
  fun b => ⟨(Reports.platform b _).trans (.platform _ _), rfl⟩

/-- A repetition follows its trace. -/
theorem runOnce_follows (st : Stack) : Follows (runOnce L E st) (traceOnce L E st) :=
  (step01PowerOn_follows E).andThen <| (step02Ping_follows L st.status02).andThen <|
  (step03RequestStatus_follows L).andThen <| (step04RequestHKData_follows L).andThen <|
  (step05SetArmed_follows L st.status05).andThen <| (step06SetStandby_follows L).andThen <|
  (step07VerifyStandby_follows L).andThen <|
  (step08UnknownTC_follows L st.txBuf08 st.rxBuf08).andThen <|
  (step09WrongCRC_follows L st.txBuf09 st.rxBuf09).andThen <|
  (step10Reconnect_follows L E).andThen (step11PowerOff_follows E)

/-! ## The repetitions -/

/-- What happens after the repetition `i` of `m`: a delay, if it is not the last one. -/
def pause (m i : ℕ) : Trace σ := if i < m - 1 then onPlatform (E.delayMs 1000) else skip

/-- The trace of the loop, from the repetition `i` of `m` on, with `n` left. -/
def traceAll (m : ℕ) (stack : ℕ → Stack) : ℕ → ℕ → Trace σ
  | 0, _ => skip
  | n + 1, i =>
    (traceOnce L E (stack i)).andThen ((pause E m i).andThen (traceAll m stack n (i + 1)))

/-- The delay between two repetitions. -/
theorem pause_follows (m i : ℕ) :
    Follows (fun b => if i < m - 1 then b.platform (E.delayMs 1000) else b) (pause E m i) := by
  intro b
  by_cases h : i < m - 1 <;> simp only [pause, h, if_true, if_false]
  · exact ⟨.platform b _, rfl⟩
  · exact ⟨.refl b, rfl⟩

/-- The loop follows its trace. -/
theorem repetitions_follows (m : ℕ) (stack : ℕ → Stack) (n i : ℕ) :
    Follows (repetitions L E m stack n i) (traceAll L E m stack n i) := by
  -- The induction is on the number of repetitions left.
  induction n generalizing i with
  | zero => exact fun b => ⟨.refl b, rfl⟩
  | succ n ih =>
    exact (runOnce_follows L E (stack i)).andThen ((pause_follows E m i).andThen (ih _))

/-- The number of repetitions for an argument of the test. -/
def rounds (repeatCount : UInt32) : ℕ := if repeatCount = 0 then 1 else repeatCount.toNat

variable (repeatCount : UInt32) (stack : ℕ → Stack) (b : Bench σ)

/-- The test follows the trace of the loop, from cleared counters. -/
theorem runAll_follows :
    let n := rounds repeatCount
    let t := traceAll L E n stack n 0
    Reports { b with pass := 0, fail := 0 } (runAll L E repeatCount stack b) (t b.line).2.1
        (t b.line).2.2 ∧
      (runAll L E repeatCount stack b).line = (t b.line).1 := by
  intro n t
  -- At least one repetition is made.
  have hn : (if repeatCount = 0 then 1 else repeatCount).toNat = n := by
    simp only [n, rounds]
    split_ifs <;> rfl
  simp only [runAll, hn]
  exact repetitions_follows L E n stack n 0 { b with pass := 0, fail := 0 }

/-! ## What is sent -/

/-- The frames that are sent in a repetition. -/
def script : List Frame :=
  [Call.ping.telecommand, (Call.requestStatus none).telecommand,
    (Call.requestStatus none).telecommand, (Call.requestHKData none).telecommand,
    (Call.setMode modeArmed).telecommand, (Call.requestStatus none).telecommand,
    (Call.setMode modeStandby).telecommand, (Call.requestStatus none).telecommand,
    unknownTC, wrongCrcTC, Call.ping.telecommand]

/-- A part of the test sends the frames, whatever the line. -/
def Trace.Sends (t : Trace σ) (frames : List Frame) : Prop :=
  ∀ s, (t s).1.sent = s.sent ++ frames.map Frame.bytes

/-- One part after the other. -/
theorem Trace.Sends.andThen {t t' : Trace σ} {frames frames' : List Frame} (h : t.Sends frames)
    (h' : t'.Sends frames') : (t.andThen t').Sends (frames ++ frames') := by
  intro s
  rw [Trace.andThen, h', h, List.append_assoc, List.map_append]

theorem skip_sends : (skip : Trace σ).Sends [] := fun _ => (List.append_nil _).symm

theorem onPlatform_sends (f : σ → σ) : (onPlatform f).Sends [] := fun _ => (List.append_nil _).symm

/-- A call sends its telecommand whether or not it succeeds. -/
theorem ask_sends {c : Call} (hc : ¬c.IsNullRequest) : (ask L c).Sends [c.telecommand] :=
  fun s => c.run_sent L hc s

theorem askStatus_sends (out : ReplyStatusPayload) (P : ReplyStatusPayload → Prop)
    [DecidablePred P] : (askStatus L out P).Sends [(Call.requestStatus none).telecommand] :=
  fun s => (Call.requestStatus (some out)).run_sent L (Option.some_ne_none _) s

theorem askHK_sends : (askHK L).Sends [(Call.requestHKData none).telecommand] :=
  fun s => (Call.requestHKData (some default)).run_sent L (Option.some_ne_none _) s

theorem askUnknown_sends (txBuf rxBuf : List UInt8) :
    (askUnknown L txBuf rxBuf).Sends [unknownTC] := fun _ => rfl

theorem askWrongCrc_sends (txBuf rxBuf : List UInt8) :
    (askWrongCrc L txBuf rxBuf).Sends [wrongCrcTC] := fun _ => rfl

/-- So a repetition sends the frames of the script. -/
theorem traceOnce_sends (st : Stack) : (traceOnce L E st).Sends script :=
  (onPlatform_sends _).andThen <|
  ((ask_sends L id).andThen (askStatus_sends L _ _)).andThen <|
  (askStatus_sends L _ _).andThen <| (askHK_sends L).andThen <|
  ((ask_sends L id).andThen (askStatus_sends L _ _)).andThen <|
  (ask_sends L id).andThen <| (askStatus_sends L _ _).andThen <|
  (askUnknown_sends L _ _).andThen <| (askWrongCrc_sends L _ _).andThen <|
  ((onPlatform_sends _).andThen (ask_sends L id)).andThen (onPlatform_sends _)

theorem pause_sends (m i : ℕ) : (pause E m i).Sends [] := by
  rw [pause]
  split_ifs
  · exact onPlatform_sends _
  · exact skip_sends

theorem traceAll_sends (m : ℕ) (stack : ℕ → Stack) (n i : ℕ) :
    (traceAll L E m stack n i).Sends (List.replicate n script).flatten := by
  induction n generalizing i with
  | zero => exact skip_sends
  | succ n ih =>
    rw [List.replicate_succ, List.flatten_cons]
    exact (traceOnce_sends L E (stack i)).andThen ((pause_sends E m i).andThen (ih _))

/-- Whatever the link, the platform and the stack: the test sends the same eleven frames in every
    repetition, and at least one repetition is made. None of them fires a thruster, and all but
    the tenth are valid. -/
theorem runAll_sent :
    (runAll L E repeatCount stack b).line.sent = b.line.sent ++
        ((List.replicate (rounds repeatCount) script).flatten).map Frame.bytes ∧
      0 < rounds repeatCount ∧
      (∀ F ∈ script, F.msgId ∉ [WireMsgid.mainFire, WireMsgid.cgPulse, WireMsgid.cgBurst] ∧
        (F.Valid ↔ F ≠ wrongCrcTC)) := by
  refine ⟨?_, ?_, by decide +kernel⟩
  · rw [(runAll_follows L E repeatCount stack b).2]
    exact traceAll_sends L E _ stack _ 0 b.line
  · rw [rounds]
    split_ifs with h
    · exact Nat.one_pos
    · exact Nat.pos_of_ne_zero fun h0 => h (UInt32.toNat_inj.1 h0)

/-! ## How many verdicts there are -/

/-- The verdicts of a part of the test and the passes without a line are between `lo` and `hi`,
    and `passes` of them cannot fail. -/
structure Trace.Within (t : Trace σ) (passes lo hi : ℕ) : Prop where
  passes : ∀ s, passes ≤ (t s).2.1.count true + (t s).2.2
  lo : ∀ s, lo ≤ (t s).2.1.length + (t s).2.2
  hi : ∀ s, (t s).2.1.length + (t s).2.2 ≤ hi

/-- The bounds of two parts add up. -/
theorem Trace.Within.andThen {t t' : Trace σ} {passes passes' lo lo' hi hi' : ℕ}
    (h : t.Within passes lo hi) (h' : t'.Within passes' lo' hi') :
    (t.andThen t').Within (passes + passes') (lo + lo') (hi + hi') where
  passes s := by
    have h₁ := h.passes s
    have h₂ := h'.passes (t s).1
    simp only [Trace.andThen, List.count_append]
    omega
  lo s := by
    have h₁ := h.lo s
    have h₂ := h'.lo (t s).1
    simp only [Trace.andThen, List.length_append]
    omega
  hi s := by
    have h₁ := h.hi s
    have h₂ := h'.hi (t s).1
    simp only [Trace.andThen, List.length_append]
    omega

theorem skip_within : (skip : Trace σ).Within 0 0 0 :=
  ⟨fun _ => le_rfl, fun _ => le_rfl, fun _ => le_rfl⟩

theorem onPlatform_within (f : σ → σ) : (onPlatform f).Within 0 0 0 :=
  ⟨fun _ => le_rfl, fun _ => le_rfl, fun _ => le_rfl⟩

theorem ask_within (c : Call) : (ask L c).Within 0 1 1 :=
  ⟨fun _ => Nat.zero_le _, fun _ => le_rfl, fun _ => le_rfl⟩

theorem askStatus_within (out : ReplyStatusPayload) (P : ReplyStatusPayload → Prop)
    [DecidablePred P] : (askStatus L out P).Within 0 2 2 :=
  ⟨fun _ => Nat.zero_le _, fun _ => le_rfl, fun _ => le_rfl⟩

theorem askHK_within : (askHK L).Within 0 2 2 :=
  ⟨fun _ => Nat.zero_le _, fun _ => le_rfl, fun _ => le_rfl⟩

/-- The answer to the unknown telecommand takes one assertion or two, or none and a pass without a
    line. -/
theorem unknownVerdicts_length (r : ℤ × List UInt8) :
    1 ≤ (unknownVerdicts r).1.length + (unknownVerdicts r).2 ∧
      (unknownVerdicts r).1.length + (unknownVerdicts r).2 ≤ 2 := by
  rw [unknownVerdicts]
  split_ifs
  · rcases packetIn r with - | P
    · exact ⟨le_rfl, one_le_two⟩
    · simp only
      split_ifs
      · exact ⟨one_le_two, le_rfl⟩
      · exact ⟨le_rfl, one_le_two⟩
  · exact ⟨le_rfl, one_le_two⟩

theorem askUnknown_within (txBuf rxBuf : List UInt8) :
    (askUnknown L txBuf rxBuf).Within 1 2 3 := by
  have hlength s := unknownVerdicts_length
    ((deliver L unknownTC txBuf rxBuf s).1, (deliver L unknownTC txBuf rxBuf s).2.1)
  refine ⟨fun s => ?_, fun s => ?_, fun s => ?_⟩
  · simp only [askUnknown, List.count_cons_self]
    omega
  · have h := (hlength s).1
    simp only [askUnknown, List.length_cons]
    omega
  · have h := (hlength s).2
    simp only [askUnknown, List.length_cons]
    omega

theorem askWrongCrc_within (txBuf rxBuf : List UInt8) :
    (askWrongCrc L txBuf rxBuf).Within 2 2 2 :=
  ⟨fun _ => le_rfl, fun _ => le_rfl, fun _ => le_rfl⟩

/-- The verdicts of a repetition. Three of them are of a constant condition. -/
theorem traceOnce_within (st : Stack) : (traceOnce L E st).Within 3 18 19 :=
  (onPlatform_within _).andThen <|
  ((ask_within L _).andThen (askStatus_within L _ _)).andThen <|
  (askStatus_within L _ _).andThen <| (askHK_within L).andThen <|
  ((ask_within L _).andThen (askStatus_within L _ _)).andThen <|
  (ask_within L _).andThen <| (askStatus_within L _ _).andThen <|
  (askUnknown_within L _ _).andThen <| (askWrongCrc_within L _ _).andThen <|
  ((onPlatform_within _).andThen (ask_within L _)).andThen (onPlatform_within _)

theorem pause_within (m i : ℕ) : (pause E m i).Within 0 0 0 := by
  rw [pause]
  split_ifs
  · exact onPlatform_within _
  · exact skip_within

theorem traceAll_within (m n i : ℕ) :
    (traceAll L E m stack n i).Within (3 * n) (18 * n) (19 * n) := by
  induction n generalizing i with
  | zero => exact skip_within
  | succ n ih =>
    have h := (traceOnce_within L E (stack i)).andThen ((pause_within E m i).andThen (ih (i + 1)))
    rw [show 3 * (n + 1) = 3 + (0 + 3 * n) by ring, show 18 * (n + 1) = 18 + (0 + 18 * n) by ring,
      show 19 * (n + 1) = 19 + (0 + 19 * n) by ring]
    exact h

/-- Whatever the link, the platform and the stack: the counters are those of the verdicts printed,
    but for the passes counted without a line. In all the repetitions together there are 18 to 19
    times as many verdicts as repetitions, and at least three times as many passes. -/
theorem runAll_report :
    ∃ vs silent,
      (runAll L E repeatCount stack b).log.map Prod.snd = b.log.map Prod.snd ++ vs ∧
      (runAll L E repeatCount stack b).pass = UInt32.ofNat (vs.count true + silent) ∧
      (runAll L E repeatCount stack b).fail = UInt32.ofNat (vs.count false) ∧
      3 * rounds repeatCount ≤ vs.count true + silent ∧
      18 * rounds repeatCount ≤ vs.length + silent ∧
      vs.length + silent ≤ 19 * rounds repeatCount := by
  obtain ⟨hreports, -⟩ := runAll_follows L E repeatCount stack b
  obtain ⟨hpasses, hlo, hhi⟩ :=
    traceAll_within L E stack (rounds repeatCount) (rounds repeatCount) 0
  refine ⟨_, _, hreports.log, ?_, ?_, hpasses b.line, hlo b.line, hhi b.line⟩
  · exact hreports.pass.trans (UInt32.zero_add _)
  · exact hreports.fail.trans (UInt32.zero_add _)

/-! ## A link on which nothing is received -/

/-- The passes of a repetition in which nothing is received: that no fault is reported, that the
    payload does not answer the unknown telecommand and the one with the wrong CRC, the two
    encodings, and what the stack happens to say of the mode. -/
def deadPasses (st : Stack) : ℕ :=
  5 + (if st.status02.mode = State.standby.toByte then 1 else 0) +
    if st.status05.mode = State.armed.toByte then 1 else 0

/-- What the platform does keeps a property of the link. -/
structure Platform.Keeps (E : Platform σ) (I : σ → Prop) : Prop where
  powerOn : ∀ s, I s → I (E.powerOn s)
  powerOff : ∀ s, I s → I (E.powerOff s)
  delayMs : ∀ ms s, I s → I (E.delayMs ms s)
  disconnectLink : ∀ s, I s → I (E.disconnectLink s)
  reconnectLink : ∀ s, I s → I (E.reconnectLink s)

/-- The delays before and after the link is disconnected and connected again. -/
theorem Platform.Keeps.reconnect {E : Platform σ} {I : σ → Prop} (hE : E.Keeps I) (s : σ)
    (hs : I s) : I (E.delayMs 500 (E.reconnectLink (E.delayMs 1000 (E.disconnectLink s)))) :=
  hE.delayMs 500 _ <| hE.reconnectLink _ <| hE.delayMs 1000 _ <| hE.disconnectLink s hs

/-- While the link has the property, no call that waits for a packet succeeds, nor is anything
    received by the test itself; and it keeps the property. -/
structure Deaf (L : Link σ) (I : σ → Prop) : Prop where
  run : ∀ {c : Call} {s : Line σ}, ¬c.IsNullRequest → c.expects ≠ [] → I s.link →
    (c.run L s).1 ≠ cmdOk ∧ I (c.run L s).2.link
  deliver : ∀ (F : Frame) (txBuf rxBuf : List UInt8) {s : Line σ}, I s.link →
    (deliver L F txBuf rxBuf s).1 ≤ 0 ∧ I (deliver L F txBuf rxBuf s).2.2

/-- The verdicts of a part of the test while the link has a property, which it keeps. -/
def Trace.Gives (t : Trace σ) (I : σ → Prop) (vs : List Bool) (silent : ℕ) : Prop :=
  ∀ s, I s.link → (t s).2 = (vs, silent) ∧ I (t s).1.link

section

variable {L E} {I : σ → Prop}

theorem Trace.Gives.andThen {t t' : Trace σ} {vs vs' : List Bool} {k k' : ℕ} (h : t.Gives I vs k)
    (h' : t'.Gives I vs' k') : (t.andThen t').Gives I (vs ++ vs') (k + k') := by
  intro s hs
  obtain ⟨hvs, hnext⟩ := h s hs
  obtain ⟨hvs', hlast⟩ := h' _ hnext
  rw [Trace.andThen, hvs, hvs']
  exact ⟨rfl, hlast⟩

theorem onPlatform_gives {f : σ → σ} (hf : ∀ s, I s → I (f s)) : (onPlatform f).Gives I [] 0 :=
  fun s hs => ⟨rfl, hf s.link hs⟩

section

variable (hL : Deaf L I)

include hL

/-- The assertion that a call succeeds is against the link. -/
theorem ask_deaf {c : Call} (hc : ¬c.IsNullRequest) (he : c.expects ≠ []) :
    (ask L c).Gives I [false] 0 := by
  intro s hs
  obtain ⟨hfail, hnext⟩ := hL.run hc he hs
  simp only [ask, hfail, decide_false]
  exact ⟨trivial, hnext⟩

/-- So is that of a status, but the mode is looked for in the output all the same. -/
theorem askStatus_deaf (out : ReplyStatusPayload) (P : ReplyStatusPayload → Prop)
    [DecidablePred P] : (askStatus L out P).Gives I [false, decide (P out)] 0 := by
  intro s hs
  have h : (Cmd.requestStatus L (some out) s).1 ≠ cmdOk ∧
      I (Cmd.requestStatus L (some out) s).2.2.link :=
    hL.run (c := .requestStatus (some out)) (Option.some_ne_none _) (by simp [Call.expects]) hs
  obtain ⟨hfail, hnext⟩ := h
  -- The output is as the stack left it, and the mode is read there.
  obtain ⟨_, -, -, hok⟩ | ⟨-, hout, -⟩ := requestStatus_cases L out s
  · exact absurd hok hfail
  · simp only [askStatus, hfail, hout, decide_false, Option.getD_some]
    exact ⟨trivial, hnext⟩

/-- Both assertions on the housekeeping data are against the link. -/
theorem askHK_deaf : (askHK L).Gives I [false, false] 0 := by
  intro s hs
  have h : (Cmd.requestHKData L (some default) s).1 ≠ cmdOk ∧
      I (Cmd.requestHKData L (some default) s).2.2.link :=
    hL.run (c := .requestHKData (some default)) (Option.some_ne_none _) (by simp [Call.expects]) hs
  simp only [askHK, h.1, decide_false]
  exact ⟨trivial, h.2⟩

/-- That nothing is received is a pass. -/
theorem askUnknown_deaf (txBuf rxBuf : List UInt8) :
    (askUnknown L txBuf rxBuf).Gives I [true] 1 := by
  intro s hs
  obtain ⟨hcode, hnext⟩ := hL.deliver unknownTC txBuf rxBuf hs
  have hsilent : unknownVerdicts ((deliver L unknownTC txBuf rxBuf s).1,
      (deliver L unknownTC txBuf rxBuf s).2.1) = ([], 1) := if_neg (not_lt.2 hcode)
  simp only [askUnknown, hsilent]
  exact ⟨trivial, hnext⟩

/-- So it is after the frame with the wrong CRC. -/
theorem askWrongCrc_deaf (txBuf rxBuf : List UInt8) :
    (askWrongCrc L txBuf rxBuf).Gives I [true, true] 0 :=
  fun _ hs => ⟨rfl, (hL.deliver wrongCrcTC txBuf rxBuf hs).2⟩

variable (hE : E.Keeps I)

include hE

/-- The verdicts of a repetition. -/
theorem traceOnce_deaf (st : Stack) :
    ∃ vs, (traceOnce L E st).Gives I vs 1 ∧ vs.count true + 1 = deadPasses st ∧
      vs.count false = 18 - deadPasses st := by
  have hping := ask_deaf hL (c := .ping) id (by simp [Call.expects])
  have hmode (mode : UInt8) := ask_deaf hL (c := .setMode mode) id (by simp [Call.expects])
  refine ⟨_, (onPlatform_gives fun s hs => hE.delayMs 2000 _ (hE.powerOn s hs)).andThen <|
    (hping.andThen (askStatus_deaf hL _ _)).andThen <|
    (askStatus_deaf hL _ _).andThen <| (askHK_deaf hL).andThen <|
    ((hmode modeArmed).andThen (askStatus_deaf hL _ _)).andThen <|
    (hmode modeStandby).andThen <| (askStatus_deaf hL _ _).andThen <|
    (askUnknown_deaf hL _ _).andThen <| (askWrongCrc_deaf hL _ _).andThen <|
    ((onPlatform_gives hE.reconnect).andThen hping).andThen
    (onPlatform_gives fun s hs => hE.delayMs 500 _ (hE.powerOff s hs)), ?_, ?_⟩ <;>
  · -- Two verdicts depend on the stack.
    rw [deadPasses]
    by_cases h₂ : st.status02.mode = State.standby.toByte <;>
      by_cases h₅ : st.status05.mode = State.armed.toByte <;>
        simp only [h₂, h₅, decide_true, decide_false, if_true, if_false] <;> decide

/-- The verdicts of the loop, summed over the repetitions left. -/
theorem traceAll_deaf (m n i : ℕ) :
    ∃ vs, (traceAll L E m stack n i).Gives I vs n ∧
      vs.count true + n = ∑ j ∈ Finset.range n, deadPasses (stack (i + j)) ∧
      vs.count false = ∑ j ∈ Finset.range n, (18 - deadPasses (stack (i + j))) := by
  induction n generalizing i with
  | zero => exact ⟨[], fun _ hs => ⟨rfl, hs⟩, rfl, rfl⟩
  | succ n ih =>
    obtain ⟨vs, hvs, htrue, hfalse⟩ := traceOnce_deaf hL hE (stack i)
    obtain ⟨vs', hvs', htrue', hfalse'⟩ := ih (i + 1)
    have hpause : (pause E m i).Gives I [] 0 := by
      rw [pause]
      split_ifs
      · exact onPlatform_gives (hE.delayMs 1000)
      · exact fun _ hs => ⟨rfl, hs⟩
    have hshift (j : ℕ) : i + 1 + j = i + (j + 1) := by omega
    simp only [hshift] at htrue' hfalse'
    refine ⟨vs ++ vs', ?_, ?_, ?_⟩
    · have h := hvs.andThen (hpause.andThen hvs')
      rwa [List.nil_append, Nat.zero_add, Nat.add_comm 1] at h
    · rw [List.count_append, Finset.sum_range_succ', ← htrue', Nat.add_zero i, ← htrue]
      omega
    · rw [List.count_append, Finset.sum_range_succ', ← hfalse', Nat.add_zero i, ← hfalse,
        Nat.add_comm]

/-- The counters after the test on a link that is deaf throughout. -/
theorem runAll_deaf (hb : I b.line.link) :
    (runAll L E repeatCount stack b).pass =
        UInt32.ofNat (∑ i ∈ Finset.range (rounds repeatCount), deadPasses (stack i)) ∧
      (runAll L E repeatCount stack b).fail =
        UInt32.ofNat (∑ i ∈ Finset.range (rounds repeatCount), (18 - deadPasses (stack i))) := by
  obtain ⟨hreports, -⟩ := runAll_follows L E repeatCount stack b
  obtain ⟨vs, hvs, htrue, hfalse⟩ :=
    traceAll_deaf stack hL hE (rounds repeatCount) (rounds repeatCount) 0
  simp only [Nat.zero_add] at htrue hfalse
  have hpass := hreports.pass
  have hfail := hreports.fail
  rw [(hvs b.line hb).1] at hpass hfail
  refine ⟨?_, ?_⟩
  · rw [← htrue]
    exact hpass.trans (UInt32.zero_add _)
  · rw [← hfalse]
    exact hfail.trans (UInt32.zero_add _)

end

/-- Nothing is ever received. -/
def Dead (L : Link σ) : Prop := ∀ buf size timeoutMs s, (L.recv buf size timeoutMs s).1 ≤ 0

/-- Then a call that waits for a packet fails in any state of the link. -/
theorem deaf_of_dead (hL : Dead L) : Deaf L fun _ => True where
  run {c s} hc he _ := by
    refine ⟨?_, trivial⟩
    rw [c.run_converse L hc, converse]
    rcases hes : c.expects with - | ⟨e, es⟩
    · exact absurd hes he
    split_ifs
    · have hv : verdict L e (handOver L c.telecommand s).2 = cmdErrTimeout := if_pos (hL _ _ _ _)
      have hfail : verdict L e (handOver L c.telecommand s).2 ≠ cmdOk := by
        rw [hv]
        decide
      rw [receiveAll_cons_fail hfail]
      exact hfail
    · exact show cmdErrSend ≠ cmdOk by decide
  deliver _ _ _ _ _ := ⟨hL _ _ _ _, trivial⟩

end

/-- A driver that is initialised and never reads anything. -/
def deafDriver : Srl Unit where
  apiGetHandle s := (.success, s)
  apiConfigure _ s := (.success, s)
  apiWrite _ n s := ((.success, n), s)
  apiRead _ _ s := (⟨.other (-1), [], 0⟩, s)
  pending _ := 0

/-- On a link on which nothing is ever received, whatever the platform: a repetition gives five
    passes, and one more for each of the two status outputs in which the stack happens to hold the
    mode asked for. The other verdicts, at least eleven of the 18, are against the link. The
    counters are the sums over the repetitions, modulo `2^32`. -/
theorem runAll_dead (hL : Dead L) :
    (runAll L E repeatCount stack b).pass =
        UInt32.ofNat (∑ i ∈ Finset.range (rounds repeatCount), deadPasses (stack i)) ∧
      (runAll L E repeatCount stack b).fail =
        UInt32.ofNat (∑ i ∈ Finset.range (rounds repeatCount), (18 - deadPasses (stack i))) :=
  runAll_deaf repeatCount stack b (deaf_of_dead hL)
    ⟨fun _ => id, fun _ => id, fun _ _ => id, fun _ => id, fun _ => id⟩ trivial

/-- Two repetitions over a driver that never reads anything, with a cleared stack. -/
theorem runAll_dead_twice :
    let E : Platform (Hal.State Unit) := ⟨id, id, fun _ => id, id, id⟩
    let stack : ℕ → Stack := fun _ => ⟨default, default, [], [], [], []⟩
    let b : Bench (Hal.State Unit) := ⟨⟨[], [], ⟨true, (), []⟩⟩, 7, 7, []⟩
    let b' := runAll (Hal.link deafDriver) E 2 stack b
    b'.pass = 10 ∧ b'.fail = 26 := by
  intro E stack b b'
  have hdead : Dead (Hal.link deafDriver) := by
    intro buf size timeoutMs s
    have hread : (Hal.readInto deafDriver buf 0 Hal.headerReadSize timeoutMs s).1.count = 0 := rfl
    simp only [Hal.link, Hal.recv, hread, or_true, if_true]
    split_ifs
    · exact show halErrRecv ≤ 0 by decide
    · exact show halErrTimeout ≤ 0 by decide
    · exact show halErrNotInit ≤ 0 by decide
  obtain ⟨hpass, hfail⟩ := runAll_dead (Hal.link deafDriver) E 2 stack b hdead
  exact ⟨hpass.trans (by decide +kernel), hfail.trans (by decide +kernel)⟩

end Ig4u.CommTest
