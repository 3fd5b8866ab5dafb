import Ig4u.Commands.Reply

/-!
# The parsers of the replies

The parsers read the fields of a reply at fixed offsets, little-endian. The layouts are
only documented, in the comments over the parsers; here they are functions (`layoutHK`
and so on), which write the fields one after the other.

* `parseHK_layout` and so on: a parser reads back what the layout writes, whatever
  follows it.
* `Delivers`, `received_of_delivers`: a valid response on the link is the packet received.
* `parseHKIn_window` and so on: a parser reads no byte at or beyond the length of the payload.
  These are statements about the parsers with their reads made explicit (`parseHKIn`).
* `parsers_invert`: so the commands give back the fields of the replies.
-/

namespace Ig4u.Cmd

open Lib Proto

/-! ## The layouts -/

/-- The payload of a Reply HK Data. -/
def layoutHK (hk : ReplyHKDataPayload) : List UInt8 :=
  hk.pressureKPaX10.toList.flatMap wrLE16 ++
    hk.temperatureX10.toList.flatMap (fun t => wrLE16 t.toUInt16) ++
    [hk.mode, hk.faultFlagsLo, hk.faultFlagsHi, hk.spare]

/-- The payload of a Reply Status, without its spare bytes. -/
def layoutStatus (status : ReplyStatusPayload) : List UInt8 :=
  [status.mode, status.interlockStatus] ++ wrLE16 status.faultFlags ++ [status.armTimeoutRemain]

/-- The payload of a Main Thruster Result, without its spare bytes at the end. -/
def layoutMainResult (result : MainThrusterResultPayload) : List UInt8 :=
  [result.result, result.spare] ++ wrLE16 result.actualDurationMs ++ wrLE16 result.faultFlags

/-- The payload of a CG Thruster Result. -/
def layoutCGResult (result : CGThrusterResultPayload) : List UInt8 :=
  [result.triggerMsgID, result.thrusterID, result.result, result.spare] ++
    wrLE16 result.executedPulseCount ++ wrLE16 result.faultFlags

/-- A 16-bit word is read back from its two bytes. -/
theorem rdLE16_of_eq {p : List UInt8} {i : ℕ} {v : UInt16} (h₀ : p.getD i 0 = lowByte v)
    (h₁ : p.getD (i + 1) 0 = highByte v) : rdLE16 p i = v := by
  rw [rdLE16, h₀, h₁, word16_bytes]

/-- A signed word is read back, negative ones included. -/
theorem rdLE16S_of_eq {p : List UInt8} {i : ℕ} {v : Int16} (h₀ : p.getD i 0 = lowByte v.toUInt16)
    (h₁ : p.getD (i + 1) 0 = highByte v.toUInt16) : rdLE16S p i = v := by
  rw [rdLE16S, rdLE16_of_eq h₀ h₁, Int16.toInt16_toUInt16]

theorem length_layoutHK (hk : ReplyHKDataPayload) : (layoutHK hk).length = 16 := by
  simp [layoutHK, wrLE16, List.length_flatMap]

theorem parseHK_layout (hk out : ReplyHKDataPayload) (rest : List UInt8) {n : ℕ} (hn : 16 ≤ n) :
    parseHK out (layoutHK hk ++ rest) n = some { hk with spare := 0 } := by
  rcases hk with ⟨p, t, mode, lo, hi, spare⟩
  obtain ⟨p₀, p₁, rfl⟩ : ∃ p₀ p₁, p = #v[p₀, p₁] := ⟨p.get 0, p.get 1, by
    ext i hi
    interval_cases i <;> rfl⟩
  obtain ⟨t₀, t₁, t₂, t₃, rfl⟩ : ∃ t₀ t₁ t₂ t₃, t = #v[t₀, t₁, t₂, t₃] :=
    ⟨t.get 0, t.get 1, t.get 2, t.get 3, by
      ext i hi
      interval_cases i <;> rfl⟩
  rw [parseHK, if_neg (not_lt.2 hn), rdLE16_of_eq (v := p₀) rfl rfl,
    rdLE16_of_eq (v := p₁) rfl rfl, rdLE16S_of_eq (v := t₀) rfl rfl,
    rdLE16S_of_eq (v := t₁) rfl rfl, rdLE16S_of_eq (v := t₂) rfl rfl,
    rdLE16S_of_eq (v := t₃) rfl rfl]
  rfl

theorem parseStatus_layout (status out : ReplyStatusPayload) (rest : List UInt8) {n : ℕ}
    (hn : 5 ≤ n) : parseStatus out (layoutStatus status ++ rest) n = some status := by
  rw [parseStatus, if_neg (not_lt.2 hn), rdLE16_of_eq (v := status.faultFlags) rfl rfl]
  rfl

theorem parseMainResult_layout (result out : MainThrusterResultPayload) (rest : List UInt8) {n : ℕ}
    (hn : 6 ≤ n) :
    parseMainResult out (layoutMainResult result ++ rest) n = some { result with spare := 0 } := by
  rw [parseMainResult, if_neg (not_lt.2 hn), rdLE16_of_eq (v := result.actualDurationMs) rfl rfl,
    rdLE16_of_eq (v := result.faultFlags) rfl rfl]
  rfl

theorem parseCGResult_layout (result out : CGThrusterResultPayload) (rest : List UInt8) {n : ℕ}
    (hn : 8 ≤ n) :
    parseCGResult out (layoutCGResult result ++ rest) n = some { result with spare := 0 } := by
  rw [parseCGResult, if_neg (not_lt.2 hn), rdLE16_of_eq (v := result.executedPulseCount) rfl rfl,
    rdLE16_of_eq (v := result.faultFlags) rfl rfl]
  rfl

/-! ## The reads of the parsers -/

/-- `IG4U_RD_LE16`, on a memory that may fail. -/
def rdLE16In (mem : ℕ → Option UInt8) (i : ℕ) : Option UInt16 := do
  let lo ← mem i
  let hi ← mem (i + 1)
  some (word16 lo hi)

/-- `IG4U_RD_LE16S`, on a memory that may fail. -/
def rdLE16SIn (mem : ℕ → Option UInt8) (i : ℕ) : Option Int16 :=
  (rdLE16In mem i).map UInt16.toInt16

/-- `IG4U_RD_LE32`, on a memory that may fail. -/
def rdLE32In (mem : ℕ → Option UInt8) (i : ℕ) : Option UInt32 := do
  let b₀ ← mem i
  let b₁ ← mem (i + 1)
  let b₂ ← mem (i + 2)
  let b₃ ← mem (i + 3)
  some (word32 b₀ b₁ b₂ b₃)

/-- The parsing of a Default Response by `IG4U_Cmd_WaitDefaultResponse`. -/
def parseDefaultResponseIn (mem : ℕ → Option UInt8) (plen : ℕ) :
    Option (Option DefaultResponsePayload) :=
  if plen < 3 then some none
  else do
    let result ← mem 0
    let echoMsgID ← mem 1
    let errorCode ← mem 2
    some (some ⟨result, echoMsgID, errorCode, 0⟩)

/-- The parsing of a Reply HK Data. -/
def parseHKIn (mem : ℕ → Option UInt8) (plen : ℕ) : Option (Option ReplyHKDataPayload) :=
  if plen < 16 then some none
  else do
    let p₀ ← rdLE16In mem 0
    let p₁ ← rdLE16In mem 2
    let t₀ ← rdLE16SIn mem 4
    let t₁ ← rdLE16SIn mem 6
    let t₂ ← rdLE16SIn mem 8
    let t₃ ← rdLE16SIn mem 10
    let mode ← mem 12
    let lo ← mem 13
    let hi ← mem 14
    some (some ⟨#v[p₀, p₁], #v[t₀, t₁, t₂, t₃], mode, lo, hi, 0⟩)

/-- The parsing of a Reply Status. -/
def parseStatusIn (mem : ℕ → Option UInt8) (plen : ℕ) : Option (Option ReplyStatusPayload) :=
  if plen < 5 then some none
  else do
    let mode ← mem 0
    let interlockStatus ← mem 1
    let faultFlags ← rdLE16In mem 2
    let armTimeoutRemain ← mem 4
    some (some ⟨mode, interlockStatus, faultFlags, armTimeoutRemain⟩)

/-- The parsing of a Main Thruster Result. -/
def parseMainResultIn (mem : ℕ → Option UInt8) (plen : ℕ) :
    Option (Option MainThrusterResultPayload) :=
  if plen < 6 then some none
  else do
    let result ← mem 0
    let actualDurationMs ← rdLE16In mem 2
    let faultFlags ← rdLE16In mem 4
    some (some ⟨result, 0, actualDurationMs, faultFlags⟩)

/-- The parsing of a CG Thruster Result. -/
def parseCGResultIn (mem : ℕ → Option UInt8) (plen : ℕ) :
    Option (Option CGThrusterResultPayload) :=
  if plen < 8 then some none
  else do
    let triggerMsgID ← mem 0
    let thrusterID ← mem 1
    let result ← mem 2
    let executedPulseCount ← rdLE16In mem 4
    let faultFlags ← rdLE16In mem 6
    some (some ⟨triggerMsgID, thrusterID, result, 0, executedPulseCount, faultFlags⟩)

/-- The loop over the entries of a Reply Fault Log. -/
def parseEntriesIn (mem : ℕ → Option UInt8) (plen : ℕ) :
    ℕ → ℕ → ℕ → Vector FaultEntry 32 → Option (Vector FaultEntry 32)
  | 0, _, _, entries => some entries
  | n + 1, i, offset, entries =>
    if plen < offset + 8 then some entries
    else do
      let timestampSec ← rdLE32In mem offset
      let faultCode ← rdLE16In mem (offset + 4)
      let stateAtFault ← mem (offset + 6)
      let severity ← mem (offset + 7)
      parseEntriesIn mem plen n (i + 1) (offset + 8)
        (entries.setIfInBounds i ⟨timestampSec, faultCode, stateAtFault, severity⟩)

/-- The parsing of a Reply Fault Log. -/
def parseFaultLogIn (log : ReplyFaultLogPayload) (mem : ℕ → Option UInt8) (plen : ℕ) :
    Option (Option ReplyFaultLogPayload) :=
  if plen < 1 then some none
  else do
    let count ← mem 0
    let entryCount := if faultLogMaxEntries < count then faultLogMaxEntries else count
    let entries ← parseEntriesIn mem plen entryCount.toNat 0 4 log.entries
    some (some ⟨entryCount, entries⟩)

section

variable {p : List UInt8} {n : ℕ} (hn : n ≤ p.length)

include hn

theorem rdLE16In_window {i : ℕ} (hi : i + 2 ≤ n) : rdLE16In (window p n) i = some (rdLE16 p i) := by
  rw [rdLE16In, window_eq_some hn (by omega) 0, window_eq_some hn (by omega) 0]
  rfl

theorem rdLE16SIn_window {i : ℕ} (hi : i + 2 ≤ n) :
    rdLE16SIn (window p n) i = some (rdLE16S p i) := by
  rw [rdLE16SIn, rdLE16In_window hn hi]
  rfl

theorem rdLE32In_window {i : ℕ} (hi : i + 4 ≤ n) : rdLE32In (window p n) i = some (rdLE32 p i) := by
  rw [rdLE32In, window_eq_some hn (by omega) 0, window_eq_some hn (by omega) 0,
    window_eq_some hn (by omega) 0, window_eq_some hn (by omega) 0]
  rfl

theorem parseHKIn_window (out : ReplyHKDataPayload) :
    parseHKIn (window p n) n = some (parseHK out p n) := by
  rw [parseHKIn, parseHK]
  split_ifs with h
  · rfl
  · have hword : ∀ i, i + 2 ≤ 16 → rdLE16In (window p n) i = some (rdLE16 p i) := fun i hi =>
      rdLE16In_window hn (by omega)
    have hsigned : ∀ i, i + 2 ≤ 16 → rdLE16SIn (window p n) i = some (rdLE16S p i) := fun i hi =>
      rdLE16SIn_window hn (by omega)
    rw [hword 0 (by omega), hword 2 (by omega), hsigned 4 (by omega), hsigned 6 (by omega),
      hsigned 8 (by omega), hsigned 10 (by omega), window_eq_some hn (by omega) 0,
      window_eq_some hn (by omega) 0, window_eq_some hn (by omega) 0]
    rfl

theorem parseStatusIn_window (out : ReplyStatusPayload) :
    parseStatusIn (window p n) n = some (parseStatus out p n) := by
  rw [parseStatusIn, parseStatus]
  split_ifs with h
  · rfl
  · rw [rdLE16In_window hn (by omega), window_eq_some hn (by omega) 0,
      window_eq_some hn (by omega) 0, window_eq_some hn (by omega) 0]
    rfl

theorem parseMainResultIn_window (out : MainThrusterResultPayload) :
    parseMainResultIn (window p n) n = some (parseMainResult out p n) := by
  rw [parseMainResultIn, parseMainResult]
  split_ifs with h
  · rfl
  · rw [rdLE16In_window hn (by omega), rdLE16In_window hn (by omega),
      window_eq_some hn (by omega) 0]
    rfl

theorem parseCGResultIn_window (out : CGThrusterResultPayload) :
    parseCGResultIn (window p n) n = some (parseCGResult out p n) := by
  rw [parseCGResultIn, parseCGResult]
  split_ifs with h
  · rfl
  · rw [rdLE16In_window hn (by omega), rdLE16In_window hn (by omega),
      window_eq_some hn (by omega) 0, window_eq_some hn (by omega) 0,
      window_eq_some hn (by omega) 0]
    rfl

/-- The loop stops before an entry that does not fit into the payload. -/
theorem parseEntriesIn_window (k i offset : ℕ) (entries : Vector FaultEntry 32) :
    parseEntriesIn (window p n) n k i offset entries =
      some (parseEntries p n k i offset entries) := by
  -- The induction is on the entries left.
  induction k generalizing i offset entries with
  | zero => rfl
  | succ k ih =>
    rw [parseEntriesIn, parseEntries]
    split_ifs with h
    · rfl
    · rw [rdLE32In_window hn (by omega), rdLE16In_window hn (by omega),
        window_eq_some hn (by omega) 0, window_eq_some hn (by omega) 0]
      exact ih _ _ _

theorem parseFaultLogIn_window (log : ReplyFaultLogPayload) :
    parseFaultLogIn log (window p n) n = some (parseFaultLog log p n) := by
  rw [parseFaultLogIn, parseFaultLog]
  by_cases h : n < 1
  · rw [if_pos h, if_pos h]
  · rw [if_neg h, if_neg h, window_eq_some hn (by omega) 0]
    simp only [Option.bind_eq_bind, Option.bind_some, parseEntriesIn_window hn]

end

variable {σ : Type*} (L : Link σ)

/-- The wait for a Default Response parses it as the parser with its reads made explicit. -/
theorem waitDefaultResponse_reads {msgId : UInt8} {s : Line σ} {p : List UInt8} {n : ℕ}
    (h : (recvTMRaw L msgId s).1 = .ok (p, n)) (hn : n ≤ p.length) (out : DefaultResponsePayload) :
    ∃ resp, parseDefaultResponseIn (window p n) n = some resp ∧
      (waitDefaultResponse L msgId (some out) s).2.1 = some (resp.getD out) := by
  rw [parseDefaultResponseIn]
  simp only [waitDefaultResponse, h]
  split_ifs with hlen hack
  · exact ⟨none, rfl, rfl⟩
  all_goals
    rw [window_eq_some hn (by omega) 0, window_eq_some hn (by omega) 0,
      window_eq_some hn (by omega) 0]
    exact ⟨_, rfl, rfl⟩

/-! ## Delivered replies -/

/-- The link delivers a valid response with the given identifier and payload. -/
def Delivers (s : Line σ) (msgId : UInt8) (payload : List UInt8) : Prop :=
  ∃ F : Frame, F.Valid ∧ F.msgType = msgtypeResponse ∧ F.msgId = msgId ∧ F.payload = payload ∧
    (F.bytes.length : ℤ) ≤ (delivery L s).1 ∧ F.bytes <+: (delivery L s).2.1

variable {L} {s : Line σ} {msgId : UInt8} {payload : List UInt8}

/-- What is delivered is received, with the payload at the payload pointer. -/
theorem received_of_delivers (h : Delivers L s msgId payload) :
    ∃ P rest, received L s = some P ∧ P.msgType = msgtypeResponse ∧ P.msgId = msgId ∧
      P.payload = payload ++ rest ∧ P.len = payload.length := by
  obtain ⟨F, hvalid, htype, rfl, rfl, hlen, after, hbytes⟩ := h
  have hle : packetOverheadBytes + F.payload.length ≤ (delivery L s).1.toNat := by
    rw [← F.length_bytes]
    omega
  have hpos : 0 < (delivery L s).1 := by
    rw [F.length_bytes, packetOverheadBytes] at hlen
    omega
  have hwell : WellFormed (delivery L s).2.1 (delivery L s).1.toNat := by
    rw [← decodeTM_ok_iff default, ← hbytes, F.decodeTM_bytes after hle, if_pos hvalid]
  have hlength : lengthOf (delivery L s).2.1 = F.payload.length := by
    rw [← hbytes]
    exact F.length_field after
  refine ⟨⟨_, _, _, _⟩, [lowByte F.crc, highByte F.crc] ++ after, if_pos ⟨hpos, hwell⟩, ?_, ?_, ?_,
    hlength⟩
  · rw [← hbytes]
    exact htype
  · rw [← hbytes]
    rfl
  · dsimp only
    rw [← hbytes, Frame.bytes, List.append_assoc, List.append_assoc, List.drop_left' (by simp)]

/-- A reply that is delivered, has the identifier awaited and is long enough, is the packet of the
    exchange. -/
theorem exchange_of_delivers {T : Frame} {e : Expected} (es : List Expected)
    (hsend : (handOver L T s).1 = halOk) (h : Delivers L (handOver L T s).2 e.msgId payload)
    (hlen : e.minLen ≤ payload.length) :
    ∃ P rest, P.payload = payload ++ rest ∧ P.len = payload.length ∧
      exchange L T (e :: es) s =
        (replies L es (afterRecv L (handOver L T s).2)).map (P :: ·) := by
  obtain ⟨P, rest, hP, -, hid, hp, hn⟩ := received_of_delivers h
  exact ⟨P, rest, hp, hn, by
    rw [exchange_of_sent hsend, replies_cons hP ⟨hid, hlen.trans hn.ge⟩]⟩

variable (L) in
/-- The call hands over its telecommand, and the link delivers a valid response with the given
    identifier and payload. -/
def Answered (c : Call) (s : Line σ) (msgId : UInt8) (payload : List UInt8) : Prop :=
  (handOver L c.telecommand s).1 = halOk ∧ Delivers L (handOver L c.telecommand s).2 msgId payload

/-- A request that is answered succeeds, with what its parser makes of the payload. -/
theorem reply_of_answered {α : Type*} {c : Call} {e : Expected} {parse : List UInt8 → ℕ → Option α}
    {r : ℤ} {out' : Option α} {q : Prop} (h : Answered L c s e.msgId payload)
    (hlen : e.minLen ≤ payload.length)
    (hcases : (∃ P, exchange L c.telecommand [e] s = some [P] ∧ parse P.payload P.len = out' ∧
      r = cmdOk) ∨ exchange L c.telecommand [e] s = none ∧ q ∧ r ≠ cmdOk) {v : α}
    (hparse : ∀ rest, parse (payload ++ rest) payload.length = some v) :
    r = cmdOk ∧ out' = some v := by
  obtain ⟨P, rest, hp, hn, hx⟩ := exchange_of_delivers [] h.1 h.2 hlen
  rcases hcases with ⟨P', hx', hout, hok⟩ | ⟨hnone, -, -⟩
  · obtain rfl : P = P' := List.cons.inj (Option.some.inj (hx.symm.trans hx')) |>.1
    exact ⟨hok, by rw [← hout, hp, hn, hparse]⟩
  · rw [hx] at hnone
    cases hnone

/-- The result of a Main Thruster Fire that is acknowledged and answered. -/
theorem mainThrusterFire_of_answered {durationMs : UInt32} (hd : 0 < durationMs)
    {out result : MainThrusterResultPayload} {ack extra : List UInt8}
    (hack : Answered L (.mainThrusterFire durationMs (some out)) s WireMsgid.mainFire ack)
    (hresult : Delivers L
      (afterRecv L (handOver L (Call.mainThrusterFire durationMs (some out)).telecommand s).2)
      WireMsgid.mainResult (layoutMainResult result ++ extra)) :
    (mainThrusterFire L durationMs (some out) s).1 = cmdOk ∧
      (mainThrusterFire L durationMs (some out) s).2.1 = some { result with spare := 0 } := by
  obtain ⟨A, -, -, -, hA⟩ := exchange_of_delivers (e := .defaultResponse WireMsgid.mainFire)
    [.mainResult] hack.1 hack.2 (Nat.zero_le _)
  obtain ⟨P, rest, hP, -, hid, hp, hn⟩ := received_of_delivers hresult
  have hlen : 6 ≤ (layoutMainResult result ++ extra).length :=
    List.length_append ▸ Nat.le_add_right 6 _
  rw [replies_cons hP ⟨hid, hlen.trans hn.ge⟩] at hA
  rcases mainThrusterFire_cases L hd out s with ⟨A', P', v, hx, hv, hout, hok⟩ | ⟨hnone, -, -⟩
  · have hx' := Option.some.inj (hA.symm.trans hx)
    obtain rfl : P = P' := (List.cons.inj (List.cons.inj hx').2).1
    rw [hp, List.append_assoc, parseMainResult_layout result out _ (hlen.trans hn.ge)] at hv
    exact ⟨hok, hout.trans hv.symm⟩
  · exact absurd (hA.symm.trans hnone) (by simp [replies])

variable (L) in
/-- The commands give back the fields of a reply that is laid out as documented, whatever follows
    it in the payload, and no parser reads at or beyond the length of the payload. -/
theorem parsers_invert (s : Line σ) :
    (∀ (hk out : ReplyHKDataPayload) (extra : List UInt8),
      Answered L (.requestHKData (some out)) s WireMsgid.replyHk (layoutHK hk ++ extra) →
      (requestHKData L (some out) s).1 = cmdOk ∧
        (requestHKData L (some out) s).2.1 = some { hk with spare := 0 }) ∧
    (∀ (status out : ReplyStatusPayload) (extra : List UInt8),
      Answered L (.requestStatus (some out)) s WireMsgid.replyStatus
        (layoutStatus status ++ extra) →
      (requestStatus L (some out) s).1 = cmdOk ∧
        (requestStatus L (some out) s).2.1 = some status) ∧
    (∀ (durationMs : UInt32) (result out : MainThrusterResultPayload) (ack extra : List UInt8),
      0 < durationMs →
      Answered L (.mainThrusterFire durationMs (some out)) s WireMsgid.mainFire ack →
      Delivers L
        (afterRecv L (handOver L (Call.mainThrusterFire durationMs (some out)).telecommand s).2)
        WireMsgid.mainResult (layoutMainResult result ++ extra) →
      (mainThrusterFire L durationMs (some out) s).1 = cmdOk ∧
        (mainThrusterFire L durationMs (some out) s).2.1 = some { result with spare := 0 }) ∧
    (∀ (thrusterId : UInt8) (durationMs : UInt16) (result out : CGThrusterResultPayload)
        (extra : List UInt8),
      Answered L (.cgThrusterPulse thrusterId durationMs (some out)) s WireMsgid.cgPulse
        (layoutCGResult result ++ extra) →
      (cgThrusterPulse L thrusterId durationMs (some out) s).1 = cmdOk ∧
        (cgThrusterPulse L thrusterId durationMs (some out) s).2.1 =
          some { result with spare := 0 }) ∧
    ∀ (p : List UInt8) (n : ℕ), n ≤ p.length →
      (∀ msgId out, (recvTMRaw L msgId s).1 = .ok (p, n) →
        ∃ resp, parseDefaultResponseIn (window p n) n = some resp ∧
          (waitDefaultResponse L msgId (some out) s).2.1 = some (resp.getD out)) ∧
      (∀ out, parseHKIn (window p n) n = some (parseHK out p n)) ∧
      (∀ out, parseStatusIn (window p n) n = some (parseStatus out p n)) ∧
      (∀ out, parseMainResultIn (window p n) n = some (parseMainResult out p n)) ∧
      (∀ out, parseCGResultIn (window p n) n = some (parseCGResult out p n)) ∧
      ∀ log, parseFaultLogIn log (window p n) n = some (parseFaultLog log p n) := by
  refine ⟨fun hk out extra h => ?_, fun status out extra h => ?_,
    fun durationMs result out ack extra hd hack hresult =>
      mainThrusterFire_of_answered hd hack hresult,
    fun thrusterId durationMs result out extra h => ?_, fun p n hn => ?_⟩
  · have hlen : 16 ≤ (layoutHK hk ++ extra).length := by
      rw [List.length_append, length_layoutHK]
      exact Nat.le_add_right 16 _
    refine reply_of_answered (e := .replyHk) h hlen (requestHKData_cases L out s) fun rest => ?_
    rw [List.append_assoc, parseHK_layout hk out _ hlen]
  · have hlen : 5 ≤ (layoutStatus status ++ extra).length :=
      List.length_append ▸ Nat.le_add_right 5 _
    refine reply_of_answered (e := .replyStatus) h hlen (requestStatus_cases L out s)
      fun rest => ?_
    rw [List.append_assoc, parseStatus_layout status out _ hlen]
  · have hlen : 8 ≤ (layoutCGResult result ++ extra).length :=
      List.length_append ▸ Nat.le_add_right 8 _
    refine reply_of_answered (e := .cgResult WireMsgid.cgPulse thrusterId) h hlen
      (cgFire_cases L WireMsgid.cgPulse thrusterId _ _ out s) fun rest => ?_
    rw [List.append_assoc, parseCGResult_layout result out _ hlen]
  · exact ⟨fun msgId out h => waitDefaultResponse_reads L h hn out, parseHKIn_window hn,
      parseStatusIn_window hn, parseMainResultIn_window hn, parseCGResultIn_window hn,
      parseFaultLogIn_window hn⟩

/-- Replies on the line, one with negative temperatures. -/
theorem parsers_invert_fifo :
    let L := Hal.link (Hal.fifo .success)
    let frame (msgId : UInt8) (payload : List UInt8) (h : payload.length ≤ packetMaxPayload) :=
      (Frame.sealed packetVersion msgtypeResponse msgId payload h).bytes ++ [0, 0]
    let line (q : List UInt8) : Line (Hal.State (List UInt8)) :=
      ⟨List.replicate packetMaxTotal 0, [], ⟨true, q, []⟩⟩
    let hk : ReplyHKDataPayload := ⟨#v[1000, 1001], #v[-50, 0, 300, -32768], 2, 1, 0, 7⟩
    let status : ReplyStatusPayload := ⟨2, 1, 0x8001, 29⟩
    let fired : MainThrusterResultPayload := ⟨0, 9, 1000, 2⟩
    let pulsed : CGThrusterResultPayload := ⟨30, 1, 0, 9, 1, 0x100⟩
    (requestHKData L (some default)
      (line (frame WireMsgid.replyHk (layoutHK hk ++ [0xEE]) (by decide)))).2.1 =
        some { hk with spare := 0 } ∧
    (requestStatus L (some default)
      (line (frame WireMsgid.replyStatus (layoutStatus status ++ [0, 0, 0]) (by decide)))).2.1 =
        some status ∧
    (mainThrusterFire L 1000 (some default)
      (line (frame WireMsgid.mainFire [0, 20, 0, 0] (by decide) ++
        frame WireMsgid.mainResult (layoutMainResult fired ++ [0, 0]) (by decide)))).2.1 =
        some { fired with spare := 0 } ∧
    (cgThrusterPulse L 1 100 (some default)
      (line (frame WireMsgid.cgPulse (layoutCGResult pulsed ++ []) (by decide)))).2.1 =
        some { pulsed with spare := 0 } := by
  intro L frame line hk status fired pulsed
  refine ⟨((parsers_invert L _).1 hk default [0xEE] ⟨by decide +kernel, ?_⟩).2,
    ((parsers_invert L _).2.1 status default [0, 0, 0] ⟨by decide +kernel, ?_⟩).2,
    ((parsers_invert L _).2.2.1 1000 fired default [0, 20, 0, 0] [0, 0] (by decide)
      ⟨by decide +kernel, ?_⟩ ?_).2,
    ((parsers_invert L _).2.2.2.1 1 100 pulsed default [] ⟨by decide +kernel, ?_⟩).2⟩
  all_goals
    exact ⟨.sealed packetVersion msgtypeResponse _ _ (by decide), Frame.valid_sealed, rfl, rfl, rfl,
      by decide +kernel, by decide +kernel⟩

end Ig4u.Cmd
