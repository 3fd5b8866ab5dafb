import Ig4u.Commands.Basic
import Ig4u.Protocol.Frame

/-!
# What a command exchanges

Every command hands one telecommand to the HAL, whatever the link answers, and
its return code is `IG4U_CMD_OK` exactly if the telecommand was sent and all the
frames it waits for were received.

* `sendTC_eq`: the frame sent, and the return code.
* `defaultCommand_ok_iff`: a command answered by a Default Response succeeds
  exactly if one is accepted (`defaultResponse`), *whatever it says*.
* `waitDefaultResponse_ok_iff`: with an output pointer, the same function does
  check the response.
-/

namespace Ig4u.Cmd

open Lib Proto

variable {σ : Type*} (L : Link σ)

/-! ## Sending -/

/-- A telecommand hands its frame to the HAL, and succeeds exactly if that does. -/
theorem sendTC_eq (msgId : UInt8) {p : List UInt8} {src : Option (List UInt8)}
    (hsrc : PointsTo src p) (hp : p.length ≤ packetMaxPayload) (s : Line σ) :
    sendTC L msgId src p.length s =
      let txBuf := (Frame.tc msgId p hp).bytes ++ s.txBuf.drop (packetOverheadBytes + p.length)
      let r := L.send txBuf (packetOverheadBytes + p.length) s.link
      (if r.1 = halOk then cmdOk else cmdErrSend,
        ⟨txBuf, s.sent ++ [(Frame.tc msgId p hp).bytes], r.2⟩) := by
  have hs : packetOverheadBytes + p.length ≤ packetMaxTotal := Nat.add_le_add_left hp _
  -- The encoder cannot fail: the payload fits, and so does the frame in the buffer.
  obtain ⟨_, -, he⟩ | ⟨hn, -⟩ := encodeTC_eq s.txBuf packetMaxTotal msgId hsrc
  swap
  · exact absurd ⟨hp, hs⟩ hn
  have hlen : (Frame.tc msgId p hp).bytes.length = packetOverheadBytes + p.length :=
    Frame.length_bytes _
  simp only [sendTC, he, if_neg (not_lt.2 (Int.natCast_nonneg _)), Int.toNat_natCast,
    Option.getD_some, List.take_left' hlen]
  split_ifs <;> first | rfl | contradiction

/-- It hands over that frame, whatever the HAL makes of it. -/
theorem sendTC_sent (msgId : UInt8) {p : List UInt8} {src : Option (List UInt8)}
    (hsrc : PointsTo src p) (hp : p.length ≤ packetMaxPayload) (s : Line σ) :
    (sendTC L msgId src p.length s).2.sent = s.sent ++ [(Frame.tc msgId p hp).bytes] := by
  rw [sendTC_eq L msgId hsrc hp]

/-! ## Receiving -/

/-- A receive hands nothing over. -/
@[simp]
theorem recvTMRaw_sent (msgId : UInt8) (s : Line σ) : (recvTMRaw L msgId s).2.sent = s.sent := by
  simp only [recvTMRaw]
  split_ifs <;> rfl

/-- The error codes of the receiver are none of success. -/
theorem recvTMRaw_error {msgId : UInt8} {s : Line σ} {code : ℤ}
    (h : (recvTMRaw L msgId s).1 = .error code) : code ≠ cmdOk := by
  simp only [recvTMRaw] at h
  split_ifs at h <;> · cases h; decide

/-- Nor do the two functions that look at what is received. -/
@[simp]
theorem waitDefaultResponse_sent (msgId : UInt8) (out : Option DefaultResponsePayload)
    (s : Line σ) : (waitDefaultResponse L msgId out s).2.2.sent = s.sent := by
  simp only [waitDefaultResponse]
  split
  · exact recvTMRaw_sent L msgId s
  · cases out with
    | none => exact recvTMRaw_sent L msgId s
    | some _ =>
      simp only
      split_ifs <;> exact recvTMRaw_sent L msgId s

@[simp]
theorem recvReply_sent {α : Type*} (replyId : UInt8) (parse : α → List UInt8 → ℕ → Option α)
    (out : α) (s : Line σ) : (recvReply L replyId parse out s).2.2.sent = s.sent := by
  simp only [recvReply]
  split
  · exact recvTMRaw_sent L replyId s
  · split <;> exact recvTMRaw_sent L replyId s

/-! ## Commands answered by a Default Response -/

/-- A payload pointer and length acknowledge a command. -/
def IsAck (r : List UInt8 × ℕ) : Prop := 3 ≤ r.2 ∧ r.1.getD 0 0 = resultAck

instance (r : List UInt8 × ℕ) : Decidable (IsAck r) :=
  inferInstanceAs (Decidable (3 ≤ r.2 ∧ r.1.getD 0 0 = resultAck))

/-- The payload of the Default Response that a command accepts, if its telecommand is
    sent and a valid frame with its identifier is received. -/
def defaultResponse (msgId : UInt8) (payload : Option (List UInt8)) (payloadLen : ℕ)
    (s : Line σ) : Option (List UInt8 × ℕ) :=
  let r := sendTC L msgId payload payloadLen s
  if r.1 ≠ cmdOk then none else (recvTMRaw L msgId r.2).1.toOption

/-- A command answered by a Default Response succeeds exactly if it accepts one. -/
theorem defaultCommand_ok_iff (msgId : UInt8) (payload : Option (List UInt8)) (payloadLen : ℕ)
    (s : Line σ) :
    (defaultCommand L msgId payload payloadLen s).1 = cmdOk ↔
      (defaultResponse L msgId payload payloadLen s).isSome := by
  simp only [defaultCommand, defaultResponse, waitDefaultResponse]
  split_ifs with h
  · simp [h]
  · -- The command passes no output pointer, so the response is not looked at.
    rcases hr : (recvTMRaw L msgId (sendTC L msgId payload payloadLen s).2).1 with code | r
    · simpa [Except.toOption] using recvTMRaw_error L hr
    · simp [Except.toOption]

/-- With an output pointer, the wait for a Default Response checks that it is an
    acknowledgement. -/
theorem waitDefaultResponse_ok_iff (msgId : UInt8) (out : DefaultResponsePayload) (s : Line σ) :
    (waitDefaultResponse L msgId (some out) s).1 = cmdOk ↔
      ∃ r, (recvTMRaw L msgId s).1 = .ok r ∧ IsAck r := by
  simp only [waitDefaultResponse, IsAck]
  rcases hr : (recvTMRaw L msgId s).1 with code | r
  · simpa using recvTMRaw_error L hr
  · -- Two checks are left, of the length of the response and of its result.
    simp only [Except.ok.injEq, exists_eq_left']
    split_ifs with hlen hack
    · exact iff_of_false (show cmdErrParse ≠ cmdOk by decide) fun h => by omega
    · exact iff_of_false (show cmdErrNack ≠ cmdOk by decide) fun h => hack h.2
    · exact iff_of_true rfl ⟨not_lt.1 hlen, not_not.1 hack⟩

/-! ## The frames of the commands -/

/-- A command answered by a Default Response hands over its telecommand, and nothing else. -/
theorem defaultCommand_sent (msgId : UInt8) {p : List UInt8} {src : Option (List UInt8)}
    (hsrc : PointsTo src p) (hp : p.length ≤ packetMaxPayload) (s : Line σ) :
    (defaultCommand L msgId src p.length s).2.sent = s.sent ++ [(Frame.tc msgId p hp).bytes] := by
  simp only [defaultCommand]
  split_ifs
  · exact sendTC_sent L msgId hsrc hp s
  · rw [waitDefaultResponse_sent, sendTC_sent L msgId hsrc hp]

/-- So does one answered by another packet. -/
theorem replyCommand_sent {α : Type*} (msgId : UInt8) {p : List UInt8} {src : Option (List UInt8)}
    (hsrc : PointsTo src p) (hp : p.length ≤ packetMaxPayload) (replyId : UInt8)
    (parse : α → List UInt8 → ℕ → Option α) (out : α) (s : Line σ) :
    (replyCommand L msgId src p.length replyId parse out s).2.2.sent =
      s.sent ++ [(Frame.tc msgId p hp).bytes] := by
  simp only [replyCommand]
  split_ifs
  · exact sendTC_sent L msgId hsrc hp s
  · rw [recvReply_sent, sendTC_sent L msgId hsrc hp]

/-- The result of a firing is waited for, and not asked for. -/
theorem mainThrusterFire_sent (durationMs : UInt32) (out : Option MainThrusterResultPayload)
    (s : Line σ) :
    (mainThrusterFire L durationMs out s).2.2.sent =
      s.sent ++ [(Frame.tc WireMsgid.mainFire (wrLE32 durationMs) (by simp [wrLE32])).bytes] := by
  have h := defaultCommand_sent L WireMsgid.mainFire (p := wrLE32 durationMs)
    (.self _) (by simp [wrLE32]) s
  cases out with
  | none =>
    simp only [mainThrusterFire]
    split_ifs <;> exact h
  | some result =>
    -- Without an acknowledgement, with a result to be received, and with duration `0`.
    simp only [mainThrusterFire]
    split_ifs
    · exact h
    · rw [recvReply_sent]
      exact h
    · exact h

/-- The two firings of the cold gas thrusters. -/
theorem cgFire_sent (msgId : UInt8) (p : List UInt8) (hp : p.length ≤ packetMaxPayload)
    (out : Option CGThrusterResultPayload) (s : Line σ) :
    (cgFire L msgId p out s).2.2.sent = s.sent ++ [(Frame.tc msgId p hp).bytes] := by
  cases out with
  | none => exact sendTC_sent L msgId (.self p) hp s
  | some result => exact replyCommand_sent L msgId (.self p) hp _ _ _ s

end Ig4u.Cmd
