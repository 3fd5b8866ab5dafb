import Ig4u.Commands.Converse
import Ig4u.Commands.Parsers

/-!
# Links that the commands cannot tell apart

The commands only see a link through the return codes of its functions, and of what it delivers
only the packet: its identifier and its payload, up to the length. Two links are bisimilar by
a relation of their states (`Bisimulation`) if, in related states, they agree on that and
stay related. The commands then cannot tell them apart: they return the same codes, fill
their outputs with the same data and hand over the same frames.

* `inWindow_of_reads`: the parsers look at the payload up to its length only.
* `verdict_related`, `converse_related`: the conversations over bisimilar links.
* `requestHKData_related` and so on: the commands over bisimilar links.
-/

namespace Ig4u

open Lib Proto

/-! ## What can be told of a delivery -/

/-- The packet in what a receive delivers, the code and the buffer. -/
def packetIn (r : ℤ × List UInt8) : Option Packet :=
  if 0 < r.1 ∧ WellFormed r.2 r.1.toNat then
    some ⟨r.2.getD offsetMsgtype 0, r.2.getD offsetMsgid 0, r.2.drop offsetPayload, lengthOf r.2⟩
  else none

/-- Two packets agree on what the commands look at. -/
structure Packet.Same (P Q : Packet) : Prop where
  msgId : P.msgId = Q.msgId
  len : P.len = Q.len
  payload : P.payload.take P.len = Q.payload.take P.len
  left : P.len ≤ P.payload.length
  right : P.len ≤ Q.payload.length

/-- Two deliveries agree on what the commands look at. -/
structure Alike (r₁ r₂ : ℤ × List UInt8) : Prop where
  timeout : r₁.1 ≤ 0 ↔ r₂.1 ≤ 0
  packet : Option.Rel Packet.Same (packetIn r₁) (packetIn r₂)

/-- Two receives without a delivery. -/
theorem Alike.of_timeout {r₁ r₂ : ℤ × List UInt8} (h₁ : r₁.1 ≤ 0) (h₂ : r₂.1 ≤ 0) :
    Alike r₁ r₂ where
  timeout := iff_of_true h₁ h₂
  packet := by
    rw [packetIn, packetIn, if_neg fun h => not_lt.2 h₁ h.1, if_neg fun h => not_lt.2 h₂ h.1]
    exact .none

/-- The packet in a delivery that starts with a frame. -/
theorem packetIn_frame (F : Frame) (rest : List UInt8) {n : ℤ} (hn : F.bytes.length ≤ n) :
    packetIn (n, F.bytes ++ rest) =
      if F.Valid then
        some ⟨F.msgType, F.msgId, (F.bytes ++ rest).drop offsetPayload, F.payload.length⟩
      else none := by
  have hlen := F.length_bytes
  simp only [packetOverheadBytes] at hlen
  -- The decoder accepts a frame exactly if its header and its CRC are right.
  have hwell : WellFormed (F.bytes ++ rest) n.toNat ↔ F.Valid := by
    rw [← decodeTM_ok_iff default, F.decodeTM_bytes rest (by rw [← F.length_bytes]; omega)]
    split_ifs with hv
    · exact iff_of_true rfl hv
    · exact iff_of_false (show protoErrCrcFail ≠ protoOk by decide) hv
  have hfield : lengthOf (F.bytes ++ rest) = F.payload.length := F.length_field rest
  simp only [packetIn, hwell, hfield, show 0 < n by omega, true_and]
  rfl

/-- A frame is received alike, whatever follows it in the buffers. -/
theorem Alike.of_frame (F : Frame) (rest₁ rest₂ : List UInt8) {n₁ n₂ : ℤ}
    (h₁ : F.bytes.length ≤ n₁) (h₂ : F.bytes.length ≤ n₂) :
    Alike (n₁, F.bytes ++ rest₁) (n₂, F.bytes ++ rest₂) where
  timeout := by
    have hlen := F.length_bytes
    simp only [packetOverheadBytes] at hlen
    omega
  packet := by
    have hlen (rest : List UInt8) :
        F.payload.length ≤ ((F.bytes ++ rest).drop offsetPayload).length := by
      rw [List.length_drop, List.length_append, F.length_bytes]
      simp only [packetOverheadBytes, offsetPayload]
      omega
    rw [packetIn_frame F rest₁ h₁, packetIn_frame F rest₂ h₂]
    split_ifs
    · exact .some ⟨rfl, rfl, (F.payload_bytes rest₁).trans (F.payload_bytes rest₂).symm, hlen _,
        hlen _⟩
    · exact .none

/-- A parser looks at the payload up to its length only. -/
def InWindow {α : Type*} (parse : α → List UInt8 → ℕ → Option α) : Prop :=
  ∀ out p q n, n ≤ p.length → n ≤ q.length → p.take n = q.take n → parse out p n = parse out q n

/-- It does if its reads are within the payload. -/
theorem inWindow_of_reads {α : Type*} {parse : α → List UInt8 → ℕ → Option α}
    {parseIn : α → (ℕ → Option UInt8) → ℕ → Option (Option α)}
    (h : ∀ out p n, n ≤ p.length → parseIn out (window p n) n = some (parse out p n)) :
    InWindow parse := by
  intro out p q n hp hq heq
  have hwindow : window p n = window q n := by
    funext i
    rw [window, window, heq]
  -- A parser that reads in the window only is a function of the window.
  rw [← Option.some.injEq, ← h out p n hp, ← h out q n hq, hwindow]

/-! ## Bisimilar links -/

variable {σ τ : Type*}

/-- The links agree, in related states, on what the commands see, and stay related. -/
structure Bisimulation (L₁ : Link σ) (L₂ : Link τ) (R : σ → τ → Prop) : Prop where
  send : ∀ {s t} (F : Frame) (rest : List UInt8), R s t →
    let r₁ := L₁.send (F.bytes ++ rest) F.bytes.length s
    let r₂ := L₂.send (F.bytes ++ rest) F.bytes.length t
    (r₁.1 = halOk ↔ r₂.1 = halOk) ∧ R r₁.2 r₂.2
  recv : ∀ {s t}, R s t →
    let r₁ := L₁.recv (List.replicate packetMaxTotal 0) packetMaxTotal uartTimeoutMs s
    let r₂ := L₂.recv (List.replicate packetMaxTotal 0) packetMaxTotal uartTimeoutMs t
    Alike (r₁.1, r₁.2.1) (r₂.1, r₂.2.1) ∧ R r₁.2.2 r₂.2.2

/-- Two lines with related links. -/
structure Line.Related (R : σ → τ → Prop) (s : Line σ) (t : Line τ) : Prop where
  txBuf : s.txBuf = t.txBuf
  sent : s.sent = t.sent
  link : R s.link t.link

namespace Cmd

variable {L₁ : Link σ} {L₂ : Link τ} {R : σ → τ → Prop} {s : Line σ} {t : Line τ}

/-- Two outcomes of a command without an output. -/
def Agree (R : σ → τ → Prop) (q₁ : ℤ × Line σ) (q₂ : ℤ × Line τ) : Prop :=
  q₁.1 = q₂.1 ∧ q₁.2.Related R q₂.2

/-- Two outcomes of a command with an output. -/
def AgreeOut {α : Type*} (R : σ → τ → Prop) (q₁ : ℤ × α × Line σ) (q₂ : ℤ × α × Line τ) : Prop :=
  q₁.1 = q₂.1 ∧ q₁.2.1 = q₂.2.1 ∧ q₁.2.2.Related R q₂.2.2

section

variable (hL : Bisimulation L₁ L₂ R) (h : s.Related R t)

include hL h

/-- A telecommand handed over is sent in both or in neither. -/
theorem handOver_related (F : Frame) :
    ((handOver L₁ F s).1 = halOk ↔ (handOver L₂ F t).1 = halOk) ∧
      (handOver L₁ F s).2.Related R (handOver L₂ F t).2 := by
  obtain ⟨hcode, hlink⟩ := hL.send F (t.txBuf.drop F.bytes.length) h.link
  simp only [handOver, h.txBuf, h.sent]
  exact ⟨hcode, rfl, rfl, hlink⟩

/-- The lines stay related by a receive. -/
theorem afterRecv_related : (afterRecv L₁ s).Related R (afterRecv L₂ t) :=
  ⟨h.txBuf, h.sent, (hL.recv h.link).2⟩

/-- What is received is the same, if anything is. -/
theorem received_related :
    ((delivery L₁ s).1 ≤ 0 ↔ (delivery L₂ t).1 ≤ 0) ∧
      Option.Rel Packet.Same (received L₁ s) (received L₂ t) :=
  ⟨(hL.recv h.link).1.timeout, (hL.recv h.link).1.packet⟩

/-- The packets taken are the same, as this depends on the identifier and the length only. -/
theorem filter_related (e : Expected) :
    Option.Rel Packet.Same ((received L₁ s).filter fun P => e.Accepts P)
      ((received L₂ t).filter fun P => e.Accepts P) := by
  obtain ⟨-, hrel⟩ := received_related hL h
  generalize received L₁ s = o₁ at hrel
  generalize received L₂ t = o₂ at hrel
  cases hrel with
  | none => exact .none
  | some hsame =>
    rename_i P Q
    have hiff : e.Accepts P ↔ e.Accepts Q := by
      rw [Expected.Accepts, Expected.Accepts, hsame.msgId, hsame.len]
    by_cases ha : e.Accepts P
    · rw [Option.filter_some, Option.filter_some, if_pos (decide_eq_true ha),
        if_pos (decide_eq_true (hiff.1 ha))]
      exact .some hsame
    · rw [Option.filter_some, Option.filter_some, if_neg (mt of_decide_eq_true ha),
        if_neg (mt of_decide_eq_true (mt hiff.2 ha))]
      exact .none

/-- So the verdict on what is received is the same. -/
theorem verdict_related (e : Expected) : verdict L₁ e s = verdict L₂ e t := by
  have hsome : ∀ {o₁ o₂ : Option Packet}, Option.Rel Packet.Same o₁ o₂ → o₁.isSome = o₂.isSome := by
    rintro _ _ (_ | _) <;> rfl
  simp only [verdict, (received_related hL h).1, hsome (filter_related hL h e)]

/-- So are the receives one after the other. -/
theorem receiveAll_related (es : List Expected) :
    Agree R (receiveAll L₁ es s) (receiveAll L₂ es t) := by
  -- The induction keeps the lines related, and the receives end at the same packet.
  induction es generalizing s t with
  | nil => exact ⟨rfl, h⟩
  | cons e es ih =>
    simp only [receiveAll, verdict_related hL h e]
    split_ifs
    · exact ih (afterRecv_related hL h)
    · exact ⟨rfl, afterRecv_related hL h⟩

/-- The same conversation over bisimilar links. -/
theorem converse_related (F : Frame) (es : List Expected) :
    Agree R (converse L₁ F es s) (converse L₂ F es t) := by
  obtain ⟨hcode, hline⟩ := handOver_related hL h F
  simp only [converse, hcode]
  split_ifs
  · exact receiveAll_related hL hline es
  · exact ⟨rfl, hline⟩

/-- Every call over bisimilar links returns the same. -/
theorem run_related (c : Call) : Agree R (c.run L₁ s) (c.run L₂ t) := by
  by_cases hc : c.IsNullRequest
  · -- The link is not used.
    rw [c.run_of_isNullRequest L₁ hc, c.run_of_isNullRequest L₂ hc]
    exact ⟨rfl, h⟩
  · rw [c.run_converse L₁ hc, c.run_converse L₂ hc]
    exact converse_related hL h _ _

/-! ## The outputs -/

/-- A command without an answer does the same. -/
theorem sendTC_related (msgId : UInt8) {p : List UInt8} {src : Option (List UInt8)}
    (hsrc : PointsTo src p) (hp : p.length ≤ packetMaxPayload) :
    Agree R (sendTC L₁ msgId src p.length s) (sendTC L₂ msgId src p.length t) := by
  rw [sendTC_converse L₁ msgId hsrc hp, sendTC_converse L₂ msgId hsrc hp]
  exact converse_related hL h _ _

/-- So does one answered by a Default Response. -/
theorem defaultCommand_related (msgId : UInt8) {p : List UInt8} {src : Option (List UInt8)}
    (hsrc : PointsTo src p) (hp : p.length ≤ packetMaxPayload) :
    Agree R (defaultCommand L₁ msgId src p.length s) (defaultCommand L₂ msgId src p.length t) := by
  rw [defaultCommand_converse L₁ msgId hsrc hp, defaultCommand_converse L₂ msgId hsrc hp]
  exact converse_related hL h _ _

section

variable {α : Type*} {e : Expected} {parse : α → List UInt8 → ℕ → Option α} {out : α}
  (hin : InWindow parse) (hparse : ∀ p n, (parse out p n).isSome ↔ e.minLen ≤ n)

include hin hparse

/-- The packet received is parsed to the same output. -/
theorem recvReply_related :
    AgreeOut R (recvReply L₁ e.msgId parse out s) (recvReply L₂ e.msgId parse out t) := by
  have hbind : ∀ {o₁ o₂ : Option Packet}, Option.Rel Packet.Same o₁ o₂ →
      (o₁.bind fun P => parse out P.payload P.len).getD out =
        (o₂.bind fun P => parse out P.payload P.len).getD out := by
    rintro _ _ (⟨hsame⟩ | _)
    · -- The payloads agree up to the length, and the parser does not look further.
      simp only [Option.bind_some, ← hsame.len]
      rw [hin out _ _ _ hsame.left hsame.right hsame.payload]
    · rfl
  rw [recvReply_eq L₁ hparse, recvReply_eq L₂ hparse]
  exact ⟨verdict_related hL h e, hbind (filter_related hL h e), afterRecv_related hL h⟩

/-- So does a command answered by a packet with data. -/
theorem replyCommand_related (msgId : UInt8) {p : List UInt8} {src : Option (List UInt8)}
    (hsrc : PointsTo src p) (hp : p.length ≤ packetMaxPayload) :
    AgreeOut R (replyCommand L₁ msgId src p.length e.msgId parse out s)
      (replyCommand L₂ msgId src p.length e.msgId parse out t) := by
  obtain ⟨hcode, hline⟩ := sendTC_related hL h msgId hsrc hp
  simp only [replyCommand, hcode]
  split_ifs
  · exact ⟨rfl, rfl, hline⟩
  · exact recvReply_related hL hline hin hparse

end

/-- The housekeeping data in the output is the same. -/
theorem requestHKData_related (hk : ReplyHKDataPayload) :
    AgreeOut R (requestHKData L₁ (some hk) s) (requestHKData L₂ (some hk) t) := by
  obtain ⟨hcode, hout, hline⟩ := replyCommand_related hL h
    (inWindow_of_reads fun out p n hn => parseHKIn_window hn out) (parseHK_isSome hk)
    WireMsgid.requestHk .null (by decide)
  exact ⟨hcode, congrArg some hout, hline⟩

/-- The status in the output is the same. -/
theorem requestStatus_related (status : ReplyStatusPayload) :
    AgreeOut R (requestStatus L₁ (some status) s) (requestStatus L₂ (some status) t) := by
  obtain ⟨hcode, hout, hline⟩ := replyCommand_related hL h
    (inWindow_of_reads fun out p n hn => parseStatusIn_window hn out) (parseStatus_isSome status)
    WireMsgid.requestStatus .null (by decide)
  exact ⟨hcode, congrArg some hout, hline⟩

/-- The fault log in the output is the same, and so is what is left of the old one in it. -/
theorem requestFaultLog_related (log : ReplyFaultLogPayload) :
    AgreeOut R (requestFaultLog L₁ (some log) s) (requestFaultLog L₂ (some log) t) := by
  obtain ⟨hcode, hout, hline⟩ := replyCommand_related hL h
    (inWindow_of_reads fun out p n hn => parseFaultLogIn_window hn out) (parseFaultLog_isSome log)
    WireMsgid.requestFaultLog .null (by decide)
  exact ⟨hcode, congrArg some hout, hline⟩

/-- The result of a Main Thruster Fire is the same. -/
theorem mainThrusterFire_related (durationMs : UInt32) (out : Option MainThrusterResultPayload) :
    AgreeOut R (mainThrusterFire L₁ durationMs out s) (mainThrusterFire L₂ durationMs out t) := by
  have hack : Agree R (defaultCommand L₁ WireMsgid.mainFire (some (wrLE32 durationMs)) 4 s)
      (defaultCommand L₂ WireMsgid.mainFire (some (wrLE32 durationMs)) 4 t) :=
    defaultCommand_related (p := wrLE32 durationMs) hL h WireMsgid.mainFire (.self _)
      (by simp [wrLE32])
  obtain ⟨hcode, hline⟩ := hack
  simp only [mainThrusterFire, hcode]
  generalize defaultCommand L₁ WireMsgid.mainFire (some (wrLE32 durationMs)) 4 s = q₁ at hline
  generalize defaultCommand L₂ WireMsgid.mainFire (some (wrLE32 durationMs)) 4 t = q₂ at hline
  by_cases hok : q₂.1 = cmdOk
  swap
  · rw [if_pos hok, if_pos hok]
    exact ⟨rfl, rfl, hline⟩
  -- Acknowledged: the result is received if it has a place and the firing has an end.
  rw [if_neg (not_not.2 hok), if_neg (not_not.2 hok)]
  rcases out with - | result
  · exact ⟨rfl, rfl, hline⟩
  by_cases hd : 0 < durationMs
  · obtain ⟨hcode, hout, hline⟩ := recvReply_related hL hline
      (inWindow_of_reads fun out p n hn => parseMainResultIn_window hn out)
      (parseMainResult_isSome result)
    simp only [if_pos hd]
    exact ⟨hcode, congrArg some hout, hline⟩
  · simp only [if_neg hd]
    exact ⟨rfl, rfl, hline⟩

/-- So is that of a firing of the cold gas thrusters. -/
theorem cgFire_related (msgId : UInt8) (p : List UInt8) (hp : p.length ≤ packetMaxPayload)
    (out : Option CGThrusterResultPayload) :
    AgreeOut R (cgFire L₁ msgId p out s) (cgFire L₂ msgId p out t) := by
  cases out with
  | none =>
    obtain ⟨hcode, hline⟩ := sendTC_related hL h msgId (.self p) hp
    exact ⟨hcode, rfl, hline⟩
  | some result =>
    obtain ⟨hcode, hout, hline⟩ := replyCommand_related hL h
      (inWindow_of_reads fun out p n hn => parseCGResultIn_window hn out)
      (parseCGResult_isSome msgId 0 result) msgId (.self p) hp
    exact ⟨hcode, congrArg some hout, hline⟩

end

end Cmd

end Ig4u
