import Ig4u.Commands.Call

/-!
# A channel of frames

The link to the payload seen as a FIFO of whole frames. The payload answers every
telecommand that is sent with some frames, in order (`Payload.answers`); a receive
gives the oldest answer that has not been received yet, if it has arrived, and
times out otherwise. The answers carry the number of their telecommand, which the
commands do not see.

* `recvTMRaw_arrived`, `recvTMRaw_timeout`: what a command receives.
* `Call.run_received`: a call sends one telecommand and then receives the oldest
  answers; if it succeeds, they all carry the identifier it awaits.
-/

namespace Ig4u

open Lib Proto Cmd

/-- The behaviour of the payload and of the line to it. -/
structure Payload where
  /-- The return code of a call of `IG4U_HAL_Send`, the calls being numbered. -/
  sendCode : ℕ → ℤ
  /-- The answers to the telecommand of a call. -/
  answers : ℕ → List UInt8 → List Frame
  /-- The oldest answer has arrived at a call of `IG4U_HAL_Recv`, these being numbered. -/
  arrived : ℕ → Bool

/-- An answer, with the number of its telecommand. -/
structure Answer where
  tc : ℕ
  frame : Frame
  deriving DecidableEq, Repr

/-- The state of the channel. -/
structure Channel where
  /-- The number of calls of `IG4U_HAL_Send`. -/
  sends : ℕ
  /-- The number of calls of `IG4U_HAL_Recv`. -/
  recvs : ℕ
  /-- The answers not received yet, oldest first. -/
  queue : List Answer
  /-- The answers received, oldest first. -/
  taken : List Answer

namespace Channel

/-- The channel before any call. -/
def empty : Channel := ⟨0, 0, [], []⟩

/-- A line with a channel before any call. -/
def freshLine : Line Channel := ⟨List.replicate packetMaxTotal 0, [], empty⟩

/-- The channel as a link. -/
def link (P : Payload) : Link Channel where
  init s := (halOk, s)
  send buf len s :=
    (P.sendCode s.sends,
      { s with
        sends := s.sends + 1
        queue := s.queue ++ if P.sendCode s.sends = halOk then
            (P.answers s.sends (buf.take len)).map (Answer.mk s.sends)
          else [] })
  recv buf _ _ s :=
    match s.queue with
    | [] => (halErrTimeout, buf, { s with recvs := s.recvs + 1 })
    | A :: queue =>
      if P.arrived s.recvs then
        ((A.frame.bytes.length : ℤ), overwrite buf 0 A.frame.bytes,
          { s with recvs := s.recvs + 1, queue := queue, taken := s.taken ++ [A] })
      else (halErrTimeout, buf, { s with recvs := s.recvs + 1 })

end Channel

variable (P : Payload)

/-- The channel after a telecommand is sent. -/
def Channel.afterSend (s : Channel) (tc : Frame) : Channel :=
  { s with
    sends := s.sends + 1
    queue := s.queue ++ if P.sendCode s.sends = halOk then
        (P.answers s.sends tc.bytes).map (Answer.mk s.sends)
      else [] }

/-- Sending a telecommand. -/
theorem sendTC_channel (msgId : UInt8) {p : List UInt8} {src : Option (List UInt8)}
    (hsrc : PointsTo src p) (hp : p.length ≤ packetMaxPayload) (s : Line Channel) :
    (sendTC (Channel.link P) msgId src p.length s).1 =
        (if P.sendCode s.link.sends = halOk then cmdOk else cmdErrSend) ∧
      (sendTC (Channel.link P) msgId src p.length s).2.link =
        s.link.afterSend P (.tc msgId p hp) := by
  have hlen : (Frame.tc msgId p hp).bytes.length = packetOverheadBytes + p.length :=
    Frame.length_bytes _
  rw [sendTC_eq _ msgId hsrc hp]
  refine ⟨rfl, ?_⟩
  simp only [Channel.link, Channel.afterSend, List.take_left' hlen]

/-- A command accepts an answer: it is a valid frame with the identifier awaited. -/
def Answer.Accepted (A : Answer) (msgId : UInt8) : Prop := A.frame.Valid ∧ A.frame.msgId = msgId

instance (A : Answer) (msgId : UInt8) : Decidable (A.Accepted msgId) :=
  inferInstanceAs (Decidable (_ ∧ _))

variable {P} (msgId : UInt8) {s : Line Channel}

/-- A receive takes the oldest answer if that has arrived, and succeeds exactly if it accepts it. -/
theorem recvTMRaw_arrived {A : Answer} {queue : List Answer} (hq : s.link.queue = A :: queue)
    (ha : P.arrived s.link.recvs) :
    (recvTMRaw (Channel.link P) msgId s).2.link =
        { s.link with
          recvs := s.link.recvs + 1, queue := queue, taken := s.link.taken ++ [A] } ∧
      ((∃ r, (recvTMRaw (Channel.link P) msgId s).1 = .ok r) ↔ A.Accepted msgId) := by
  have hrecv : (Channel.link P).recv (List.replicate packetMaxTotal 0) packetMaxTotal uartTimeoutMs
      s.link = ((A.frame.bytes.length : ℤ),
        A.frame.bytes ++ (List.replicate packetMaxTotal 0).drop A.frame.bytes.length,
        { s.link with
          recvs := s.link.recvs + 1, queue := queue, taken := s.link.taken ++ [A] }) := by
    simp only [Channel.link, hq, ha, if_true, overwrite_zero]
  have hpos : ¬((A.frame.bytes.length : ℕ) : ℤ) ≤ 0 := by
    rw [A.frame.length_bytes, packetOverheadBytes]
    omega
  have hdecode := A.frame.decodeTM_bytes
    ((List.replicate packetMaxTotal 0).drop A.frame.bytes.length)
    (n := A.frame.bytes.length) (A.frame.length_bytes.ge) default
  simp only [recvTMRaw, hrecv, if_neg hpos, Int.toNat_natCast, hdecode, Answer.Accepted]
  by_cases hv : A.frame.Valid
  · simp only [if_pos hv, ne_eq, not_true_eq_false, if_false, Option.getD_some]
    by_cases hid : A.frame.msgId = msgId
    · simp only [if_neg (not_not.2 hid)]
      exact ⟨trivial, iff_of_true ⟨_, rfl⟩ ⟨hv, hid⟩⟩
    · simp only [if_pos hid]
      exact ⟨trivial, iff_of_false (by simp) fun h => hid h.2⟩
  · simp only [if_neg hv, if_pos (show protoErrCrcFail ≠ protoOk by decide)]
    exact ⟨trivial, iff_of_false (by simp) fun h => hv h.1⟩

/-- A receive without an answer that has arrived times out. -/
theorem recvTMRaw_timeout (h : s.link.queue = [] ∨ ¬P.arrived s.link.recvs) :
    recvTMRaw (Channel.link P) msgId s =
      (.error cmdErrTimeout, { s with link := { s.link with recvs := s.link.recvs + 1 } }) := by
  have hrecv : (Channel.link P).recv (List.replicate packetMaxTotal 0) packetMaxTotal uartTimeoutMs
      s.link = (halErrTimeout, List.replicate packetMaxTotal 0,
        { s.link with recvs := s.link.recvs + 1 }) := by
    simp only [Channel.link]
    rcases hq : s.link.queue with - | ⟨A, queue⟩
    · rfl
    · rw [hq] at h
      simp only [if_neg (h.resolve_left (List.cons_ne_nil _ _))]
  simp only [recvTMRaw, hrecv, if_pos (show halErrTimeout ≤ 0 by decide)]

/-! ## What a call receives -/

/-- From `s` to `s'`, the answers `acc` are received. -/
structure Channel.Receives (s : Channel) (acc : List Answer) (s' : Channel) : Prop where
  queue : s.queue = acc ++ s'.queue
  taken : s'.taken = s.taken ++ acc
  sends : s'.sends = s.sends

namespace Channel.Receives

theorem refl (s : Channel) : s.Receives [] s := ⟨rfl, (List.append_nil _).symm, rfl⟩

theorem trans {s₁ s₂ s₃ : Channel} {acc₁ acc₂ : List Answer} (h₁ : s₁.Receives acc₁ s₂)
    (h₂ : s₂.Receives acc₂ s₃) : s₁.Receives (acc₁ ++ acc₂) s₃ where
  queue := by rw [h₁.queue, h₂.queue, List.append_assoc]
  taken := by rw [h₂.taken, h₁.taken, List.append_assoc]
  sends := h₂.sends.trans h₁.sends

end Channel.Receives

/-- A receive takes one answer or none, and one it accepts if it succeeds. -/
theorem recvTMRaw_receives (P : Payload) (msgId : UInt8) (s : Line Channel) :
    ∃ acc, s.link.Receives acc (recvTMRaw (Channel.link P) msgId s).2.link ∧
      ∀ r, (recvTMRaw (Channel.link P) msgId s).1 = .ok r →
        acc ≠ [] ∧ ∀ A ∈ acc, A.Accepted msgId := by
  have htimeout : s.link.queue = [] ∨ ¬P.arrived s.link.recvs → _ := fun h =>
    recvTMRaw_timeout msgId h
  rcases hq : s.link.queue with - | ⟨A, queue⟩
  · rw [htimeout (.inl hq)]
    exact ⟨[], ⟨rfl, (List.append_nil _).symm, rfl⟩, nofun⟩
  by_cases ha : P.arrived s.link.recvs
  · obtain ⟨hlink, hok⟩ := recvTMRaw_arrived msgId hq ha
    refine ⟨[A], ?_, fun r hr => ⟨List.cons_ne_nil _ _, fun B hB => ?_⟩⟩
    · rw [hlink]
      exact ⟨hq, rfl, rfl⟩
    · rw [List.mem_singleton.1 hB]
      exact hok.1 ⟨r, hr⟩
  · rw [htimeout (.inr ha)]
    exact ⟨[], ⟨rfl, (List.append_nil _).symm, rfl⟩, nofun⟩

/-- The outcome `r` of receiving from the channel `s`: some answers are received, and if it
    succeeds, these are accepted, and at least one if it waits for any. -/
def Received (msgId : UInt8) (waits : Prop) (s : Channel) (r : ℤ × Line Channel) : Prop :=
  ∃ acc, s.Receives acc r.2.link ∧
    (r.1 = cmdOk → (waits → acc ≠ []) ∧ ∀ A ∈ acc, A.Accepted msgId)

theorem waitDefaultResponse_received (P : Payload) (msgId : UInt8) (s : Line Channel) :
    let r := waitDefaultResponse (Channel.link P) msgId none s
    Received msgId True s.link (r.1, r.2.2) := by
  obtain ⟨acc, hacc, hok⟩ := recvTMRaw_receives P msgId s
  simp only [waitDefaultResponse]
  rcases hr : (recvTMRaw (Channel.link P) msgId s).1 with code | r
  · exact ⟨acc, hacc, fun h => absurd h (recvTMRaw_error _ hr)⟩
  · exact ⟨acc, hacc, fun _ => ⟨fun _ => (hok r hr).1, (hok r hr).2⟩⟩

theorem recvReply_received {α : Type*} (P : Payload) (replyId : UInt8)
    (parse : α → List UInt8 → ℕ → Option α) (out : α) (s : Line Channel) :
    let r := recvReply (Channel.link P) replyId parse out s
    Received replyId True s.link (r.1, r.2.2) := by
  obtain ⟨acc, hacc, hok⟩ := recvTMRaw_receives P replyId s
  simp only [recvReply]
  rcases hr : (recvTMRaw (Channel.link P) replyId s).1 with code | r
  · exact ⟨acc, hacc, fun h => absurd h (recvTMRaw_error _ hr)⟩
  · simp only
    split
    · exact ⟨acc, hacc, fun h => absurd h (show cmdErrParse ≠ cmdOk by decide)⟩
    · exact ⟨acc, hacc, fun _ => ⟨fun _ => (hok r hr).1, (hok r hr).2⟩⟩

theorem sendTC_received (P : Payload) (msgId replyId : UInt8) {p : List UInt8}
    {src : Option (List UInt8)} (hsrc : PointsTo src p) (hp : p.length ≤ packetMaxPayload)
    (s : Line Channel) :
    Received replyId False (s.link.afterSend P (.tc msgId p hp))
      (sendTC (Channel.link P) msgId src p.length s) :=
  ⟨[], (sendTC_channel P msgId hsrc hp s).2 ▸ .refl _, fun _ => ⟨False.elim, nofun⟩⟩

theorem defaultCommand_received (P : Payload) (msgId : UInt8) {p : List UInt8}
    {src : Option (List UInt8)} (hsrc : PointsTo src p) (hp : p.length ≤ packetMaxPayload)
    (s : Line Channel) :
    Received msgId True (s.link.afterSend P (.tc msgId p hp))
      (defaultCommand (Channel.link P) msgId src p.length s) := by
  have hsend := (sendTC_channel P msgId hsrc hp s).2
  simp only [defaultCommand]
  split_ifs with h
  · exact ⟨[], hsend ▸ .refl _, fun hok => absurd hok h⟩
  · rw [← hsend]
    exact waitDefaultResponse_received P msgId _

theorem replyCommand_received {α : Type*} (P : Payload) (msgId : UInt8) {p : List UInt8}
    {src : Option (List UInt8)} (hsrc : PointsTo src p) (hp : p.length ≤ packetMaxPayload)
    (replyId : UInt8) (parse : α → List UInt8 → ℕ → Option α) (out : α) (s : Line Channel) :
    let r := replyCommand (Channel.link P) msgId src p.length replyId parse out s
    Received replyId True (s.link.afterSend P (.tc msgId p hp)) (r.1, r.2.2) := by
  have hsend := (sendTC_channel P msgId hsrc hp s).2
  simp only [replyCommand]
  split_ifs with h
  · exact ⟨[], hsend ▸ .refl _, fun hok => absurd hok h⟩
  · rw [← hsend]
    exact recvReply_received P replyId parse out _

theorem mainThrusterFire_received (P : Payload) (durationMs : UInt32)
    (out : Option MainThrusterResultPayload) (s : Line Channel) :
    let r := mainThrusterFire (Channel.link P) durationMs out s
    Received WireMsgid.mainFire True
      (s.link.afterSend P (.tc WireMsgid.mainFire (wrLE32 durationMs) (by simp [wrLE32])))
      (r.1, r.2.2) := by
  obtain ⟨acc, hacc, hok⟩ := defaultCommand_received P WireMsgid.mainFire
    (.self (wrLE32 durationMs)) (by simp [wrLE32]) s
  cases out with
  | none =>
    simp only [mainThrusterFire]
    split_ifs with h
    · exact ⟨acc, hacc, fun h' => absurd h' h⟩
    · exact ⟨acc, hacc, fun _ => hok (not_not.1 h)⟩
  | some result =>
    simp only [mainThrusterFire]
    split_ifs with h hduration
    · exact ⟨acc, hacc, fun h' => absurd h' h⟩
    · -- The result is received after the Default Response.
      obtain ⟨acc', hacc', hok'⟩ := recvReply_received P WireMsgid.mainResult parseMainResult result
        (defaultCommand (Channel.link P) WireMsgid.mainFire (some (wrLE32 durationMs)) 4 s).2
      refine ⟨acc ++ acc', hacc.trans hacc', fun h' => ⟨fun _ => ?_, fun A hA => ?_⟩⟩
      · exact List.append_ne_nil_of_left_ne_nil ((hok (not_not.1 h)).1 trivial) _
      · rcases List.mem_append.1 hA with hA | hA
        · exact (hok (not_not.1 h)).2 A hA
        · exact (hok' h').2 A hA
    · exact ⟨acc, hacc, fun _ => hok (not_not.1 h)⟩

theorem cgFire_received (P : Payload) (msgId : UInt8) (p : List UInt8)
    (hp : p.length ≤ packetMaxPayload) (out : Option CGThrusterResultPayload)
    (s : Line Channel) :
    let r := cgFire (Channel.link P) msgId p out s
    Received WireMsgid.cgResult (out ≠ none) (s.link.afterSend P (.tc msgId p hp))
      (r.1, r.2.2) := by
  cases out with
  | none =>
    obtain ⟨acc, hacc, hok⟩ := sendTC_received P msgId WireMsgid.cgResult (.self p) hp s
    exact ⟨acc, hacc, fun h => ⟨fun hw => absurd rfl hw, (hok h).2⟩⟩
  | some result =>
    obtain ⟨acc, hacc, hok⟩ := replyCommand_received P msgId (.self p) hp WireMsgid.cgResult
      parseCGResult result s
    exact ⟨acc, hacc, fun h => ⟨fun _ => (hok h).1 trivial, (hok h).2⟩⟩

namespace Call

/-- The identifier of the answers a call awaits. -/
def awaits : Call → UInt8
  | cgThrusterBurst .. => WireMsgid.cgResult
  | c => c.telecommand.msgId

/-- A call waits for an answer. -/
def Waits : Call → Prop
  | mainThrusterAbort | cgThrusterAbort => False
  | cgThrusterPulse _ _ out | cgThrusterBurst _ _ _ _ out => out ≠ none
  | _ => True

/-- A call sends its telecommand and then receives the oldest answers. If it succeeds,
    they are accepted, and at least one if it waits for any. -/
theorem run_received (P : Payload) {c : Call} (hc : ¬c.IsNullRequest) (s : Line Channel) :
    Received c.awaits c.Waits (s.link.afterSend P c.telecommand) (c.run (Channel.link P) s) := by
  cases c with
  | setMode mode => exact defaultCommand_received P _ (.self [mode, 0, 0, 0]) (by simp) s
  | mainThrusterFire durationMs out => exact mainThrusterFire_received P durationMs out s
  | cgThrusterPulse => exact cgFire_received P _ _ _ _ s
  | cgThrusterBurst => exact cgFire_received P _ _ _ _ s
  | mainThrusterAbort => exact sendTC_received P _ _ .null (by decide) s
  | cgThrusterAbort => exact sendTC_received P _ _ .null (by decide) s
  | requestHKData out =>
    obtain ⟨_, rfl⟩ := Option.ne_none_iff_exists'.1 hc
    exact replyCommand_received P _ .null (by decide) _ _ _ s
  | requestStatus out =>
    obtain ⟨_, rfl⟩ := Option.ne_none_iff_exists'.1 hc
    exact replyCommand_received P _ .null (by decide) _ _ _ s
  | requestFaultLog out =>
    obtain ⟨_, rfl⟩ := Option.ne_none_iff_exists'.1 hc
    exact replyCommand_received P _ .null (by decide) _ _ _ s
  | _ => exact defaultCommand_received P _ .null (by decide) s

end Call

end Ig4u
