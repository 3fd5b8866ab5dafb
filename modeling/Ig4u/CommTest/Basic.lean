import Ig4u.Commands.Converse

/-!
# The communication test

The test of the link that the interface document prescribes (`ig4u_comm_test.c`): eleven steps,
from switching the payload on to switching it off, repeated.

The functions of the HAL that the file declares and the repository does not define are a parameter,
a `Platform σ`. So is what the local variables of a repetition hold before they are assigned, a
`Stack`: some of them are read although the call that should have filled them failed.

Of what is printed, the model keeps the lines `[PASS]` and `[FAIL]`.
-/

namespace Ig4u.CommTest

open Lib Proto

/-- The functions of the platform that only the test uses. -/
structure Platform (σ : Type*) where
  /-- `IG4U_HAL_PowerOn`. -/
  powerOn : σ → σ
  /-- `IG4U_HAL_PowerOff`. -/
  powerOff : σ → σ
  /-- `IG4U_HAL_DelayMs`. -/
  delayMs : ℕ → σ → σ
  /-- `IG4U_HAL_DisconnectLink`. -/
  disconnectLink : σ → σ
  /-- `IG4U_HAL_ReconnectLink`. -/
  reconnectLink : σ → σ

/-- What the local variables of a repetition hold before they are assigned. -/
structure Stack where
  /-- `status` of `Test_Step02_Ping`. -/
  status02 : ReplyStatusPayload
  /-- `status` of `Test_Step05_SetArmed`. -/
  status05 : ReplyStatusPayload
  /-- `tx_buf` and `rx_buf` of `Test_Step08_UnknownTC`. -/
  txBuf08 : List UInt8
  rxBuf08 : List UInt8
  /-- `tx_buf` and `rx_buf` of `Test_Step09_WrongCRC`. -/
  txBuf09 : List UInt8
  rxBuf09 : List UInt8

/-- The state of the test. -/
structure Bench (σ : Type*) where
  line : Line σ
  /-- `s_test_pass`. -/
  pass : UInt32
  /-- `s_test_fail`. -/
  fail : UInt32
  /-- The lines `[PASS]` and `[FAIL]` printed, oldest first. -/
  log : List (String × Bool)

namespace Bench

variable {σ : Type*} (b : Bench σ)

/-- `TEST_ASSERT`. -/
def testAssert (cond : Prop) [Decidable cond] (name : String) : Bench σ :=
  if cond then { b with pass := b.pass + 1, log := b.log ++ [(name, true)] }
  else { b with fail := b.fail + 1, log := b.log ++ [(name, false)] }

/-- A call of a function of the platform. -/
def platform (f : σ → σ) : Bench σ := { b with line := { b.line with link := f b.line.link } }

/-- `IG4U_HAL_Send`, without a look at its return code. -/
def halSend (L : Link σ) (buf : List UInt8) (len : ℕ) : Bench σ :=
  { b with
    line := ⟨b.line.txBuf, b.line.sent ++ [buf.take len], (L.send buf len b.line.link).2⟩ }

/-- `IG4U_HAL_Recv`: the return code, the buffer and the test after it. -/
def halRecv (L : Link σ) (buf : List UInt8) : ℤ × List UInt8 × Bench σ :=
  let r := L.recv buf packetMaxTotal uartTimeoutMs b.line.link
  (r.1, r.2.1, { b with line := { b.line with link := r.2.2 } })

end Bench

variable {σ : Type*} (L : Link σ) (E : Platform σ)

/-! ## The steps -/

/-- `Test_Step01_PowerOn`. -/
def step01PowerOn (b : Bench σ) : Bench σ := (b.platform E.powerOn).platform (E.delayMs 2000)

/-- `Test_Step02_Ping`. -/
def step02Ping (status : ReplyStatusPayload) (b : Bench σ) : Bench σ :=
  let r := Cmd.ping L b.line
  let b := { b with line := r.2 }
  let b := b.testAssert (r.1 = cmdOk) "PING -> Default Response ACK"
  -- The output is read below even if nothing was received.
  let r := Cmd.requestStatus L (some status) b.line
  let b := { b with line := r.2.2 }
  let b := b.testAssert (r.1 = cmdOk) "PING 후 STATUS 수신"
  b.testAssert ((r.2.1.getD status).mode = State.standby.toByte) "초기 모드 STANDBY 확인"

/-- `Test_Step03_RequestStatus`. -/
def step03RequestStatus (b : Bench σ) : Bench σ :=
  let r := Cmd.requestStatus L (some default) b.line
  let b := { b with line := r.2.2 }
  let b := b.testAssert (r.1 = cmdOk) "REQUEST STATUS -> REPLY STATUS 수신"
  b.testAssert ((r.2.1.getD default).faultFlags = faultNone) "Fault 없음 확인"

/-- `Test_Step04_RequestHKData`. -/
def step04RequestHKData (b : Bench σ) : Bench σ :=
  let r := Cmd.requestHKData L (some default) b.line
  let b := { b with line := r.2.2 }
  let b := b.testAssert (r.1 = cmdOk) "REQUEST HK DATA -> REPLY HK DATA 수신"
  b.testAssert (r.1 = cmdOk) "압력/온도 채널 데이터 수신"

/-- `Test_Step05_SetArmed`. -/
def step05SetArmed (status : ReplyStatusPayload) (b : Bench σ) : Bench σ :=
  let r := Cmd.setMode L modeArmed b.line
  let b := { b with line := r.2 }
  let b := b.testAssert (r.1 = cmdOk) "SET MODE ARMED -> ACK"
  let r := Cmd.requestStatus L (some status) b.line
  let b := { b with line := r.2.2 }
  let b := b.testAssert (r.1 = cmdOk) "ARMED 모드 전이 후 STATUS 수신"
  b.testAssert ((r.2.1.getD status).mode = State.armed.toByte) "ARMED 모드 전이 확인"

/-- `Test_Step06_SetStandby`. -/
def step06SetStandby (b : Bench σ) : Bench σ :=
  let r := Cmd.setMode L modeStandby b.line
  let b := { b with line := r.2 }
  b.testAssert (r.1 = cmdOk) "SET MODE STANDBY -> ACK"

/-- `Test_Step07_VerifyStandby`. -/
def step07VerifyStandby (b : Bench σ) : Bench σ :=
  let r := Cmd.requestStatus L (some default) b.line
  let b := { b with line := r.2.2 }
  let b := b.testAssert (r.1 = cmdOk) "STATUS 수신"
  b.testAssert ((r.2.1.getD default).mode = State.standby.toByte) "STANDBY 복귀 확인"

/-- The identifier of the telecommand of `Test_Step08_UnknownTC`. -/
def unknownMsgId : UInt8 := 0xFF

/-- `Test_Step08_UnknownTC`. -/
def step08UnknownTC (txBuf rxBuf : List UInt8) (b : Bench σ) : Bench σ :=
  let e := encodeTC (some txBuf) packetMaxTotal unknownMsgId none 0
  let b := b.testAssert (0 < e.1) "Unknown TC 패킷 인코딩"
  if 0 < e.1 then
    let r := (b.halSend L (e.2.getD txBuf) e.1.toNat).halRecv L rxBuf
    let b := r.2.2
    if 0 < r.1 then
      let q := decodeTM (some r.2.1) r.1.toNat (some default)
      let tm := q.2.getD default
      if q.1 = protoOk ∧ 4 ≤ tm.payloadLen.toNat then
        let p := r.2.1.drop tm.payload
        let resp : DefaultResponsePayload := ⟨p.getD 0 0, p.getD 1 0, p.getD 2 0, p.getD 3 0⟩
        let b := b.testAssert (resp.result = resultNack) "Unknown TC -> NACK 수신"
        b.testAssert (resp.echoMsgID = unknownMsgId) "NACK 응답에 원본 MsgID=0xFF 반영"
      else b.testAssert False "Unknown TC 응답 파싱"
    -- The payload may stay silent, which counts without a line.
    else { b with pass := b.pass + 1 }
  else b

/-- `Test_Step09_WrongCRC`. -/
def step09WrongCRC (txBuf rxBuf : List UInt8) (b : Bench σ) : Bench σ :=
  let e := encodeTC (some txBuf) packetMaxTotal WireMsgid.ping none 0
  let b := b.testAssert (0 < e.1) "PING 패킷 인코딩 (CRC 변조 전)"
  if 0 < e.1 then
    let txBuf := e.2.getD txBuf
    let last := e.1.toNat - 1
    let txBuf := txBuf.set last (txBuf.getD last 0 ^^^ 0xFF)
    let r := (b.halSend L txBuf e.1.toNat).halRecv L rxBuf
    let b := r.2.2
    if r.1 ≤ 0 then b.testAssert True "Wrong CRC -> 탑재체 무응답"
    else b.testAssert True "Wrong CRC -> 탑재체 오류 응답"
  else b

/-- `Test_Step10_Reconnect`. -/
def step10Reconnect (b : Bench σ) : Bench σ :=
  let b := (b.platform E.disconnectLink).platform (E.delayMs 1000)
  let b := (b.platform E.reconnectLink).platform (E.delayMs 500)
  let r := Cmd.ping L b.line
  let b := { b with line := r.2 }
  b.testAssert (r.1 = cmdOk) "재연결 후 PING 통신 복구"

/-- `Test_Step11_PowerOff`. -/
def step11PowerOff (b : Bench σ) : Bench σ := (b.platform E.powerOff).platform (E.delayMs 500)

/-! ## The test -/

/-- `Test_RunOnce`. -/
def runOnce (st : Stack) (b : Bench σ) : Bench σ :=
  let b := step01PowerOn E b
  let b := step02Ping L st.status02 b
  let b := step03RequestStatus L b
  let b := step04RequestHKData L b
  let b := step05SetArmed L st.status05 b
  let b := step06SetStandby L b
  let b := step07VerifyStandby L b
  let b := step08UnknownTC L st.txBuf08 st.rxBuf08 b
  let b := step09WrongCRC L st.txBuf09 st.rxBuf09 b
  let b := step10Reconnect L E b
  step11PowerOff E b

/-- The loop of `IG4U_CommTest_RunAll` from `i` on, with `n` iterations left. -/
def repetitions (repeatCount : ℕ) (stack : ℕ → Stack) : ℕ → ℕ → Bench σ → Bench σ
  | 0, _, b => b
  | n + 1, i, b =>
    let b := runOnce L E (stack i) b
    let b := if i < repeatCount - 1 then b.platform (E.delayMs 1000) else b
    repetitions repeatCount stack n (i + 1) b

/-- `IG4U_CommTest_RunAll`, where the repetition `i` finds the stack `stack i`. -/
def runAll (repeatCount : UInt32) (stack : ℕ → Stack) (b : Bench σ) : Bench σ :=
  let repeatCount := if repeatCount = 0 then 1 else repeatCount
  let b := { b with pass := 0, fail := 0 }
  repetitions L E repeatCount.toNat stack repeatCount.toNat 0 b

end Ig4u.CommTest
