import Ig4u.Channel.Basic

/-!
# Requests and replies

With a payload that answers promptly and as documented, every command should leave
the queue of answers as empty as it found it. The aborts do not: they wait for no
answer, and the payload gives a Default Response to them.

* `run_balanced`: any other call leaves the queue empty.
* `balanced_iff`: a sequence of calls keeps the queue empty exactly if there is no
  abort among them.
-/

namespace Ig4u

open Lib Proto Cmd

/-- The documented answers to a telecommand, whatever they say: a valid frame with its
    identifier, and for a Main Thruster Fire that ends by itself a second one, the result. -/
def Frame.Documented (tc : Frame) (answers : List Frame) : Prop :=
  if tc.msgId = WireMsgid.mainFire ∧ tc.payload ≠ wrLE32 0 then
    ∃ F G, answers = [F, G] ∧ F.Valid ∧ F.msgId = tc.msgId ∧ G.Valid ∧ G.msgId = tc.msgId
  else ∃ F, answers = [F] ∧ F.Valid ∧ F.msgId = tc.msgId

/-- All the telecommands are sent and the answers arrive at once, as documented. -/
structure Payload.Prompt (P : Payload) : Prop where
  sent : ∀ n, P.sendCode n = halOk
  arrived : ∀ n, P.arrived n
  documented : ∀ (c : Call) (n : ℕ), c.telecommand.Documented (P.answers n c.telecommand.bytes)

namespace Call

/-- The aborts. -/
def IsAbort (c : Call) : Prop := c = mainThrusterAbort ∨ c = cgThrusterAbort

instance : DecidablePred IsAbort := fun _ => inferInstanceAs (Decidable (_ ∨ _))

/-- No output pointer of a call is `NULL`. -/
def OutputsGiven : Call → Prop
  | requestHKData out => out ≠ none
  | requestStatus out => out ≠ none
  | mainThrusterFire _ out => out ≠ none
  | cgThrusterPulse _ _ out => out ≠ none
  | cgThrusterBurst _ _ _ _ out => out ≠ none
  | requestFaultLog out => out ≠ none
  | _ => True

end Call

namespace Channel

/-- Each call of a sequence leaves the queue of answers empty. -/
def Balanced (P : Payload) : List Call → Line Channel → Prop
  | [], _ => True
  | c :: cs, s => (c.run (link P) s).2.link.queue = [] ∧ Balanced P cs (c.run (link P) s).2

variable {P : Payload} (hP : P.Prompt) {s : Line Channel}

include hP

/-! ## What a call consumes -/

/-- With a prompt payload, sending succeeds. -/
theorem sendTC_prompt (msgId : UInt8) {p : List UInt8} {src : Option (List UInt8)}
    (hsrc : PointsTo src p) (hp : p.length ≤ packetMaxPayload) (s : Line Channel) :
    (sendTC (link P) msgId src p.length s).1 = cmdOk ∧
      (sendTC (link P) msgId src p.length s).2.link = s.link.afterSend P (.tc msgId p hp) := by
  obtain ⟨hcode, hlink⟩ := sendTC_channel P msgId hsrc hp s
  exact ⟨hcode.trans (if_pos (hP.sent _)), hlink⟩

/-- With a prompt payload, receiving takes the oldest answer. -/
theorem recvTMRaw_prompt (msgId : UInt8) {A : Answer} {queue : List Answer}
    (hq : s.link.queue = A :: queue) :
    (recvTMRaw (link P) msgId s).2.link.queue = queue ∧
      ((∃ r, (recvTMRaw (link P) msgId s).1 = .ok r) ↔ A.Accepted msgId) := by
  obtain ⟨hlink, hok⟩ := recvTMRaw_arrived msgId hq (hP.arrived _)
  exact ⟨by rw [hlink], hok⟩

/-- The wait for a Default Response takes the oldest answer, and fails if it is not
    accepted. -/
theorem waitDefaultResponse_prompt (msgId : UInt8) {A : Answer} {queue : List Answer}
    (hq : s.link.queue = A :: queue) :
    let r := waitDefaultResponse (link P) msgId none s
    r.2.2.link.queue = queue ∧ (A.Accepted msgId → r.1 = cmdOk) := by
  obtain ⟨hqueue, hok⟩ := recvTMRaw_prompt hP msgId hq
  simp only [waitDefaultResponse]
  rcases hr : (recvTMRaw (link P) msgId s).1 with code | r
  · refine ⟨hqueue, fun hA => ?_⟩
    obtain ⟨r, hr'⟩ := hok.2 hA
    rw [hr] at hr'
    cases hr'
  · exact ⟨hqueue, fun _ => rfl⟩

/-- The wait for a reply takes the oldest answer. -/
theorem recvReply_prompt {α : Type*} (replyId : UInt8) (parse : α → List UInt8 → ℕ → Option α)
    (out : α) {A : Answer} {queue : List Answer} (hq : s.link.queue = A :: queue) :
    (recvReply (link P) replyId parse out s).2.2.link.queue = queue := by
  have hqueue := (recvTMRaw_prompt hP replyId hq).1
  simp only [recvReply]
  split
  · exact hqueue
  · split <;> exact hqueue

theorem defaultCommand_prompt (msgId : UInt8) {p : List UInt8} {src : Option (List UInt8)}
    (hsrc : PointsTo src p) (hp : p.length ≤ packetMaxPayload) {A : Answer} {queue : List Answer}
    (hq : (s.link.afterSend P (.tc msgId p hp)).queue = A :: queue) :
    let r := defaultCommand (link P) msgId src p.length s
    r.2.link.queue = queue ∧ (A.Accepted msgId → r.1 = cmdOk) := by
  obtain ⟨hcode, hlink⟩ := sendTC_prompt hP msgId hsrc hp s
  simp only [defaultCommand, if_neg (not_not.2 hcode)]
  exact waitDefaultResponse_prompt hP msgId (by rw [hlink, hq])

theorem replyCommand_prompt {α : Type*} (msgId : UInt8) {p : List UInt8}
    {src : Option (List UInt8)} (hsrc : PointsTo src p) (hp : p.length ≤ packetMaxPayload)
    (replyId : UInt8) (parse : α → List UInt8 → ℕ → Option α) (out : α) {A : Answer}
    {queue : List Answer} (hq : (s.link.afterSend P (.tc msgId p hp)).queue = A :: queue) :
    (replyCommand (link P) msgId src p.length replyId parse out s).2.2.link.queue = queue := by
  obtain ⟨hcode, hlink⟩ := sendTC_prompt hP msgId hsrc hp s
  simp only [replyCommand, if_neg (not_not.2 hcode)]
  exact recvReply_prompt hP replyId parse out (by rw [hlink, hq])

/-! ## Calls -/

omit hP in
/-- The documented answers to the telecommand of a call. -/
theorem afterSend_queue_eq (hs : s.link.queue = []) (hP : P.Prompt) (tc : Frame) :
    (s.link.afterSend P tc).queue =
      (P.answers s.link.sends tc.bytes).map (Answer.mk s.link.sends) := by
  simp only [afterSend, hs, if_pos (hP.sent _), List.nil_append]

/-- To a telecommand other than a Main Thruster Fire that ends by itself there is one answer. -/
theorem queue_of_single (hs : s.link.queue = []) {c : Call}
    (hc : ¬(c.telecommand.msgId = WireMsgid.mainFire ∧ c.telecommand.payload ≠ wrLE32 0)) :
    ∃ A : Answer, A.Accepted c.telecommand.msgId ∧
      (s.link.afterSend P c.telecommand).queue = [A] := by
  have h := hP.documented c s.link.sends
  rw [Frame.Documented, if_neg hc] at h
  obtain ⟨F, hF, hvalid⟩ := h
  exact ⟨⟨_, F⟩, hvalid, by rw [afterSend_queue_eq hs hP, hF]; rfl⟩

/-- To a Main Thruster Fire that ends by itself there are two answers. -/
theorem queue_of_fire (hs : s.link.queue = []) {c : Call}
    (hc : c.telecommand.msgId = WireMsgid.mainFire ∧ c.telecommand.payload ≠ wrLE32 0) :
    ∃ A B : Answer, A.Accepted c.telecommand.msgId ∧
      (s.link.afterSend P c.telecommand).queue = [A, B] := by
  have h := hP.documented c s.link.sends
  rw [Frame.Documented, if_pos hc] at h
  obtain ⟨F, G, hFG, hF, hid, -⟩ := h
  exact ⟨⟨_, F⟩, ⟨_, G⟩, ⟨hF, hid⟩, by rw [afterSend_queue_eq hs hP, hFG]; rfl⟩

/-- Main Thruster Fire consumes the Default Response, and the result if there is going to be one. -/
theorem mainThrusterFire_balanced (hs : s.link.queue = []) (durationMs : UInt32)
    (result : MainThrusterResultPayload) :
    (mainThrusterFire (link P) durationMs (some result) s).2.2.link.queue = [] := by
  have hp : (wrLE32 durationMs).length ≤ packetMaxPayload := by simp [wrLE32]
  have hdefault : ∀ {A queue},
      (s.link.afterSend P (.tc WireMsgid.mainFire _ hp)).queue = A :: queue →
      let r := defaultCommand (link P) WireMsgid.mainFire (some (wrLE32 durationMs)) 4 s
      r.2.link.queue = queue ∧ (A.Accepted WireMsgid.mainFire → r.1 = cmdOk) :=
    defaultCommand_prompt hP WireMsgid.mainFire (.self _) hp
  by_cases hd : 0 < durationMs
  · obtain ⟨A, B, hA, hq⟩ := queue_of_fire hP hs (c := .mainThrusterFire durationMs (some result))
      ⟨rfl, wrLE32_ne_zero.2 hd⟩
    obtain ⟨hqueue, hok⟩ := hdefault hq
    simp only [mainThrusterFire, if_neg (not_not.2 (hok hA)), if_pos hd]
    exact recvReply_prompt hP _ _ _ hqueue
  · obtain ⟨A, hA, hq⟩ := queue_of_single hP hs (c := .mainThrusterFire durationMs (some result))
      fun h => hd (wrLE32_ne_zero.1 h.2)
    obtain ⟨hqueue, hok⟩ := hdefault hq
    simp only [mainThrusterFire, if_neg (not_not.2 (hok hA)), if_neg hd]
    exact hqueue

/-- Any call but an abort leaves the queue empty. -/
theorem run_balanced (hs : s.link.queue = []) {c : Call} (hout : c.OutputsGiven)
    (hc : ¬c.IsAbort) : (c.run (link P) s).2.link.queue = [] := by
  by_cases hfire : c.telecommand.msgId = WireMsgid.mainFire
  · cases c with
    | mainThrusterFire durationMs out =>
      obtain ⟨_, rfl⟩ := Option.ne_none_iff_exists'.1 hout
      exact mainThrusterFire_balanced hP hs _ _
    | _ => cases hfire
  -- The one answer is taken, accepted or not.
  obtain ⟨A, -, hq⟩ := queue_of_single hP hs fun h => hfire h.1
  cases c with
  | mainThrusterFire => exact absurd rfl hfire
  | mainThrusterAbort => exact absurd (.inl rfl) hc
  | cgThrusterAbort => exact absurd (.inr rfl) hc
  | setMode mode => exact (defaultCommand_prompt hP _ (.self [mode, 0, 0, 0]) (by simp) hq).1
  | requestHKData out =>
    obtain ⟨_, rfl⟩ := Option.ne_none_iff_exists'.1 hout
    exact replyCommand_prompt hP _ .null (by decide) _ _ _ hq
  | requestStatus out =>
    obtain ⟨_, rfl⟩ := Option.ne_none_iff_exists'.1 hout
    exact replyCommand_prompt hP _ .null (by decide) _ _ _ hq
  | requestFaultLog out =>
    obtain ⟨_, rfl⟩ := Option.ne_none_iff_exists'.1 hout
    exact replyCommand_prompt hP _ .null (by decide) _ _ _ hq
  | cgThrusterPulse _ _ out =>
    obtain ⟨_, rfl⟩ := Option.ne_none_iff_exists'.1 hout
    exact replyCommand_prompt hP _ (.self _) _ _ _ _ hq
  | cgThrusterBurst _ _ _ _ out =>
    obtain ⟨_, rfl⟩ := Option.ne_none_iff_exists'.1 hout
    exact replyCommand_prompt hP _ (.self _) _ _ _ _ hq
  | _ => exact (defaultCommand_prompt hP _ .null (by decide) hq).1

/-- An abort leaves its Default Response in the queue. -/
theorem run_abort (hs : s.link.queue = []) {c : Call} (hc : c.IsAbort) :
    (c.run (link P) s).2.link.queue ≠ [] := by
  have hfire : c.telecommand.msgId ≠ WireMsgid.mainFire := by
    rcases hc with rfl | rfl <;> decide
  obtain ⟨A, -, hq⟩ := queue_of_single hP hs fun h => hfire h.1
  have hlink : (c.run (link P) s).2.link = s.link.afterSend P c.telecommand := by
    rcases hc with rfl | rfl <;> exact (sendTC_prompt hP _ .null _ s).2
  rw [hlink, hq]
  exact List.cons_ne_nil _ _

/-- Every call of a sequence leaves the queue empty exactly if there is no abort among them. -/
theorem balanced_iff {cs : List Call} (hout : ∀ c ∈ cs, c.OutputsGiven)
    (hs : s.link.queue = []) : Balanced P cs s ↔ ∀ c ∈ cs, ¬c.IsAbort := by
  -- The induction is on the sequence, from any line with an empty queue.
  induction cs generalizing s with
  | nil => exact iff_of_true trivial nofun
  | cons c cs ih =>
    obtain ⟨hc, hcs⟩ := List.forall_mem_cons.1 hout
    rw [List.forall_mem_cons, Balanced]
    by_cases habort : c.IsAbort
    · exact iff_of_false (fun h => run_abort hP hs habort h.1) fun h => h.1 habort
    · have hqueue := run_balanced hP hs hc habort
      rw [ih hcs hqueue]
      exact and_congr (iff_of_true hqueue habort) .rfl

omit hP

/-! ## A prompt payload -/

/-- The payload of the answer to a telecommand: its own reply, or an acknowledgement. -/
def replyPayload (msgId : UInt8) : List UInt8 :=
  if msgId = WireMsgid.requestHk then List.replicate 16 0
  else if msgId = WireMsgid.requestStatus then List.replicate 8 0
  else if msgId = WireMsgid.requestFaultLog then [0, 0, 0, 0]
  else if msgId = WireMsgid.cgPulse ∨ msgId = WireMsgid.cgBurst then [msgId, 0, 0, 0, 1, 0, 0, 0]
  else [resultAck, msgId, 0, 0]

theorem length_replyPayload (msgId : UInt8) :
    (replyPayload msgId).length ≤ packetMaxPayload := by
  rw [replyPayload]
  split_ifs <;> simp

/-- A payload that answers at once and as documented. -/
def promptPayload : Payload where
  sendCode _ := halOk
  answers _ tc :=
    let msgId := tc.getD offsetMsgid 0
    let reply := .sealed packetVersion msgtypeResponse msgId _ (length_replyPayload msgId)
    if msgId = WireMsgid.mainFire ∧ (tc.drop offsetPayload).take 4 ≠ wrLE32 0 then
      [reply, .sealed packetVersion msgtypeResponse msgId (List.replicate 8 0) (by decide)]
    else [reply]
  arrived _ := true

theorem prompt_promptPayload : promptPayload.Prompt where
  sent _ := rfl
  arrived _ := rfl
  documented c n := by
    have hpayload : c.telecommand.msgId = WireMsgid.mainFire →
        (c.telecommand.bytes.drop offsetPayload).take 4 = c.telecommand.payload := fun h => by
      cases c with
      | mainThrusterFire => rfl
      | _ => cases h
    have hid : c.telecommand.bytes.getD offsetMsgid 0 = c.telecommand.msgId := rfl
    simp only [Frame.Documented, promptPayload, hid]
    by_cases h : c.telecommand.msgId = WireMsgid.mainFire ∧ c.telecommand.payload ≠ wrLE32 0
    · rw [if_pos h, if_pos (by rwa [hpayload h.1])]
      exact ⟨_, _, rfl, Frame.valid_sealed, rfl, Frame.valid_sealed, rfl⟩
    · have h' : ¬(c.telecommand.msgId = WireMsgid.mainFire ∧
          (c.telecommand.bytes.drop offsetPayload).take 4 ≠ wrLE32 0) :=
        fun h' => h ⟨h'.1, hpayload h'.1 ▸ h'.2⟩
      rw [if_neg h, if_neg h']
      exact ⟨_, rfl, Frame.valid_sealed, rfl⟩

/-- A Ping, a Main Thruster Fire of `1` s and a Request Status leave the queue empty. -/
theorem balanced_fire :
    Balanced promptPayload
      [.ping, .mainThrusterFire 1000 (some default), .requestStatus (some default)] freshLine :=
  (balanced_iff prompt_promptPayload (by simp [Call.OutputsGiven]) rfl).2 (by decide)

/-- The answer to an abort is left, and received by the Ping after it, which fails. -/
theorem not_balanced_abort :
    promptPayload.Prompt ∧ ¬Balanced promptPayload [.mainThrusterAbort, .ping] freshLine ∧
      (Call.ping.run (link promptPayload)
        (Call.mainThrusterAbort.run (link promptPayload) freshLine).2).1 = cmdErrParse :=
  ⟨prompt_promptPayload, fun h => absurd h.1 (by decide +kernel), by decide +kernel⟩

end Channel

end Ig4u
