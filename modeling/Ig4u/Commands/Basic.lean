import Ig4u.Hal.Basic
import Ig4u.Msg

/-!
# The wire-level commands

The builders of telecommands and the parsers of their answers (`ig4u_commands.c`).
They only use the HAL through its three functions: a `Link σ` with states `σ` is
anything that behaves like the HAL towards its caller, `Hal.link` the HAL itself.

A `Line` is the state of this layer, `s_tx_buf` and the link, with the record of
the frames handed to `IG4U_HAL_Send`. The receive buffer `s_rx_buf` is cleared
before every use and is no part of it.

A function with an output pointer takes what the pointer points to and returns
what is there after the call, `none` being `NULL`. The payload pointer and length
that `RecvTMRaw` gives are the bytes from the pointer on and a number.
-/

namespace Ig4u

open Lib Proto

/-- What the commands use of the HAL, with the states `σ`. -/
structure Link (σ : Type*) where
  /-- `IG4U_HAL_Init`. -/
  init : σ → ℤ × σ
  /-- `IG4U_HAL_Send` of a buffer and a length. -/
  send : List UInt8 → ℕ → σ → ℤ × σ
  /-- `IG4U_HAL_Recv` into a buffer of a size, with a timeout: the code, the buffer
      after the call and the state. -/
  recv : List UInt8 → ℕ → ℕ → σ → ℤ × List UInt8 × σ

/-- The HAL over a driver. -/
def Hal.link {δ : Type*} (d : Srl δ) : Link (Hal.State δ) where
  init := Hal.init d
  send buf len s := Hal.send d (some buf) len s
  recv buf size timeoutMs s :=
    let r := Hal.recv d (some buf) size timeoutMs s
    (r.1, r.2.1.getD buf, r.2.2)

/-- Over a driver that drains, the HAL does not depend on the bound on its flushes. -/
theorem Hal.link_bounded {δ : Type*} {d : Srl δ} (hd : d.Drains) {bound : δ → ℕ}
    (hb : ∀ x, d.pending x ≤ bound x) : Hal.link (d.bounded bound) = Hal.link d := by
  have hrecv : Hal.recv (d.bounded bound) = Hal.recv d := by
    funext buf size timeoutMs s
    exact Hal.recv_bounded hd hb buf size timeoutMs s
  simp only [Hal.link, hrecv]
  rfl

/-- The state of the commands. -/
structure Line (σ : Type*) where
  /-- `s_tx_buf`. -/
  txBuf : List UInt8
  /-- The frames handed to `IG4U_HAL_Send`, oldest first. -/
  sent : List (List UInt8)
  /-- The state of the link. -/
  link : σ

namespace Cmd

variable {σ : Type*} (L : Link σ)

/-! ## Sending and receiving -/

/-- `SendTC`. -/
def sendTC (msgId : UInt8) (payload : Option (List UInt8)) (payloadLen : ℕ) (s : Line σ) :
    ℤ × Line σ :=
  let e := encodeTC (some s.txBuf) packetMaxTotal msgId payload payloadLen
  if e.1 < 0 then (cmdErrEncode, s)
  else
    let txBuf := e.2.getD s.txBuf
    let r := L.send txBuf e.1.toNat s.link
    let s := ⟨txBuf, s.sent ++ [txBuf.take e.1.toNat], r.2⟩
    if r.1 ≠ halOk then (cmdErrSend, s) else (cmdOk, s)

/-- `RecvTMRaw`: an error code, or the payload pointer and length. -/
def recvTMRaw (expectedMsgId : UInt8) (s : Line σ) : Except ℤ (List UInt8 × ℕ) × Line σ :=
  let r := L.recv (List.replicate packetMaxTotal 0) packetMaxTotal uartTimeoutMs s.link
  let s := { s with link := r.2.2 }
  if r.1 ≤ 0 then (.error cmdErrTimeout, s)
  else
    let q := decodeTM (some r.2.1) r.1.toNat (some default)
    let tm := q.2.getD default
    if q.1 ≠ protoOk then (.error cmdErrParse, s)
    else if tm.msgId ≠ expectedMsgId then (.error cmdErrParse, s)
    else (.ok (r.2.1.drop tm.payload, tm.payloadLen.toNat), s)

/-- `IG4U_Cmd_WaitDefaultResponse`. -/
def waitDefaultResponse (expectedMsgId : UInt8) (outResp : Option DefaultResponsePayload)
    (s : Line σ) : ℤ × Option DefaultResponsePayload × Line σ :=
  let r := recvTMRaw L expectedMsgId s
  match r.1 with
  | .error ret => (ret, outResp, r.2)
  | .ok (p, plen) =>
    match outResp with
    -- Without a place for the response, neither its length nor its result is looked at.
    | none => (cmdOk, none, r.2)
    | some _ =>
      if plen < 3 then (cmdErrParse, outResp, r.2)
      else
        let resp : DefaultResponsePayload := ⟨p.getD 0 0, p.getD 1 0, p.getD 2 0, 0⟩
        if resp.result ≠ resultAck then (cmdErrNack, some resp, r.2)
        else (cmdOk, some resp, r.2)

/-- The reply of a command: receiving it, and parsing its payload into `out`. A
    payload too short is not parsed. -/
def recvReply {α : Type*} (replyId : UInt8) (parse : α → List UInt8 → ℕ → Option α) (out : α)
    (s : Line σ) : ℤ × α × Line σ :=
  let r := recvTMRaw L replyId s
  match r.1 with
  | .error ret => (ret, out, r.2)
  | .ok (p, plen) =>
    match parse out p plen with
    | none => (cmdErrParse, out, r.2)
    | some out => (cmdOk, out, r.2)

/-- A command answered by a Default Response, which it does not look at. -/
def defaultCommand (msgId : UInt8) (payload : Option (List UInt8)) (payloadLen : ℕ) (s : Line σ) :
    ℤ × Line σ :=
  let r := sendTC L msgId payload payloadLen s
  if r.1 ≠ cmdOk then r
  else
    let q := waitDefaultResponse L msgId none r.2
    (q.1, q.2.2)

/-- A command answered by a reply of its own. -/
def replyCommand {α : Type*} (msgId : UInt8) (payload : Option (List UInt8)) (payloadLen : ℕ)
    (replyId : UInt8) (parse : α → List UInt8 → ℕ → Option α) (out : α) (s : Line σ) :
    ℤ × α × Line σ :=
  let r := sendTC L msgId payload payloadLen s
  if r.1 ≠ cmdOk then (r.1, out, r.2) else recvReply L replyId parse out r.2

/-! ## Group 1: module control -/

/-- `IG4U_Cmd_Ping`. -/
def ping (s : Line σ) : ℤ × Line σ := defaultCommand L WireMsgid.ping none 0 s

/-- `IG4U_Cmd_ResetModule`. -/
def resetModule (s : Line σ) : ℤ × Line σ := defaultCommand L WireMsgid.resetModule none 0 s

/-- `IG4U_Cmd_SetMode`. -/
def setMode (mode : UInt8) (s : Line σ) : ℤ × Line σ :=
  defaultCommand L WireMsgid.setMode (some [mode, 0, 0, 0]) 4 s

/-- `IG4U_Cmd_ArmPropulsion`. -/
def armPropulsion (s : Line σ) : ℤ × Line σ := defaultCommand L WireMsgid.armPropulsion none 0 s

/-- `IG4U_Cmd_DisarmPropulsion`. -/
def disarmPropulsion (s : Line σ) : ℤ × Line σ :=
  defaultCommand L WireMsgid.disarmPropulsion none 0 s

/-! ## Group 2: housekeeping and status -/

/-- The parsing of a Reply HK Data. -/
def parseHK (_ : ReplyHKDataPayload) (p : List UInt8) (plen : ℕ) : Option ReplyHKDataPayload :=
  if plen < 16 then none
  else
    some ⟨#v[rdLE16 p 0, rdLE16 p 2], #v[rdLE16S p 4, rdLE16S p 6, rdLE16S p 8, rdLE16S p 10],
      p.getD 12 0, p.getD 13 0, p.getD 14 0, 0⟩

/-- `IG4U_Cmd_RequestHKData`. -/
def requestHKData (outHk : Option ReplyHKDataPayload) (s : Line σ) :
    ℤ × Option ReplyHKDataPayload × Line σ :=
  match outHk with
  | none => (cmdErrParse, none, s)
  | some hk =>
    let r := replyCommand L WireMsgid.requestHk none 0 WireMsgid.replyHk parseHK hk s
    (r.1, some r.2.1, r.2.2)

/-- The parsing of a Reply Status. -/
def parseStatus (_ : ReplyStatusPayload) (p : List UInt8) (plen : ℕ) : Option ReplyStatusPayload :=
  if plen < 5 then none else some ⟨p.getD 0 0, p.getD 1 0, rdLE16 p 2, p.getD 4 0⟩

/-- `IG4U_Cmd_RequestStatus`. -/
def requestStatus (outStatus : Option ReplyStatusPayload) (s : Line σ) :
    ℤ × Option ReplyStatusPayload × Line σ :=
  match outStatus with
  | none => (cmdErrParse, none, s)
  | some status =>
    let r := replyCommand L WireMsgid.requestStatus none 0 WireMsgid.replyStatus parseStatus
      status s
    (r.1, some r.2.1, r.2.2)

/-! ## Group 3: main thruster -/

/-- The parsing of a Main Thruster Result. -/
def parseMainResult (_ : MainThrusterResultPayload) (p : List UInt8) (plen : ℕ) :
    Option MainThrusterResultPayload :=
  if plen < 6 then none else some ⟨p.getD 0 0, 0, rdLE16 p 2, rdLE16 p 4⟩

/-- `IG4U_Cmd_MainThrusterFire`: the telecommand, its Default Response and, for a
    firing that ends by itself, the result. -/
def mainThrusterFire (durationMs : UInt32) (outResult : Option MainThrusterResultPayload)
    (s : Line σ) : ℤ × Option MainThrusterResultPayload × Line σ :=
  let r := defaultCommand L WireMsgid.mainFire (some (wrLE32 durationMs)) 4 s
  if r.1 ≠ cmdOk then (r.1, outResult, r.2)
  else
    match outResult with
    | none => (cmdOk, none, r.2)
    | some result =>
      if 0 < durationMs then
        let q := recvReply L WireMsgid.mainResult parseMainResult result r.2
        (q.1, some q.2.1, q.2.2)
      else (cmdOk, some result, r.2)

/-- `IG4U_Cmd_MainThrusterAbort`. -/
def mainThrusterAbort (s : Line σ) : ℤ × Line σ := sendTC L WireMsgid.mainAbort none 0 s

/-! ## Group 4: cold gas thrusters -/

/-- The parsing of a CG Thruster Result. -/
def parseCGResult (_ : CGThrusterResultPayload) (p : List UInt8) (plen : ℕ) :
    Option CGThrusterResultPayload :=
  if plen < 8 then none
  else some ⟨p.getD 0 0, p.getD 1 0, p.getD 2 0, 0, rdLE16 p 4, rdLE16 p 6⟩

/-- A firing of the cold gas thrusters, with its result if it is wanted. -/
def cgFire (msgId : UInt8) (payload : List UInt8) (outResult : Option CGThrusterResultPayload)
    (s : Line σ) : ℤ × Option CGThrusterResultPayload × Line σ :=
  match outResult with
  -- Without a place for the result, it is not received.
  | none =>
    let r := sendTC L msgId (some payload) payload.length s
    (r.1, none, r.2)
  | some result =>
    let r := replyCommand L msgId (some payload) payload.length WireMsgid.cgResult parseCGResult
      result s
    (r.1, some r.2.1, r.2.2)

/-- `IG4U_Cmd_CGThrusterPulse`. -/
def cgThrusterPulse (thrusterId : UInt8) (durationMs : UInt16)
    (outResult : Option CGThrusterResultPayload) (s : Line σ) :
    ℤ × Option CGThrusterResultPayload × Line σ :=
  cgFire L WireMsgid.cgPulse ([thrusterId, 0] ++ wrLE16 durationMs) outResult s

/-- `IG4U_Cmd_CGThrusterBurst`. -/
def cgThrusterBurst (thrusterId : UInt8) (pulseDurationMs pulseCount intervalMs : UInt16)
    (outResult : Option CGThrusterResultPayload) (s : Line σ) :
    ℤ × Option CGThrusterResultPayload × Line σ :=
  cgFire L WireMsgid.cgBurst
    ([thrusterId, 0] ++ wrLE16 pulseDurationMs ++ wrLE16 pulseCount ++ wrLE16 intervalMs)
    outResult s

/-- `IG4U_Cmd_CGThrusterAbort`. -/
def cgThrusterAbort (s : Line σ) : ℤ × Line σ := sendTC L WireMsgid.cgAbort none 0 s

/-! ## Group 5: faults -/

/-- The loop over the entries of a Reply Fault Log, from the entry `i` at `offset`,
    with `n` entries left. -/
def parseEntries (p : List UInt8) (plen : ℕ) :
    ℕ → ℕ → ℕ → Vector FaultEntry 32 → Vector FaultEntry 32
  | 0, _, _, entries => entries
  | n + 1, i, offset, entries =>
    -- The entries that are announced but not there keep what the output held.
    if plen < offset + 8 then entries
    else
      parseEntries p plen n (i + 1) (offset + 8)
        (entries.setIfInBounds i
          ⟨rdLE32 p offset, rdLE16 p (offset + 4), p.getD (offset + 6) 0, p.getD (offset + 7) 0⟩)

/-- The parsing of a Reply Fault Log. -/
def parseFaultLog (log : ReplyFaultLogPayload) (p : List UInt8) (plen : ℕ) :
    Option ReplyFaultLogPayload :=
  if plen < 1 then none
  else
    let entryCount := if faultLogMaxEntries < p.getD 0 0 then faultLogMaxEntries else p.getD 0 0
    some ⟨entryCount, parseEntries p plen entryCount.toNat 0 4 log.entries⟩

/-- `IG4U_Cmd_RequestFaultLog`. -/
def requestFaultLog (outLog : Option ReplyFaultLogPayload) (s : Line σ) :
    ℤ × Option ReplyFaultLogPayload × Line σ :=
  match outLog with
  | none => (cmdErrParse, none, s)
  | some log =>
    let r := replyCommand L WireMsgid.requestFaultLog none 0 WireMsgid.replyFaultLog parseFaultLog
      log s
    (r.1, some r.2.1, r.2.2)

/-- `IG4U_Cmd_ClearFault`. -/
def clearFault (s : Line σ) : ℤ × Line σ := defaultCommand L WireMsgid.clearFault none 0 s

end Cmd

end Ig4u
