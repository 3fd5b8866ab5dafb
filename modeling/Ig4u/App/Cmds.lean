import Ig4u.App.Task

/-!
# The command handlers

The handlers of the ground commands and of the wakeup message (`ig4u_cmds.c`).
A handler returns its status and the world after it. Where a handler reads the
clock, its value is the argument `now`.
-/

namespace Ig4u.App

variable {σ : Type*} (cfe : Cfe) (L : Link σ)

/-! ## The guards -/

/-- `IsArmed`. -/
def isArmed (d : Data) : Bool := d.currentState = .armed

@[simp]
theorem isArmed_iff {d : Data} : isArmed d = true ↔ d.currentState = .armed := decide_eq_true_iff

/-- `IsCommAllowed`. -/
def isCommAllowed (d : Data) : Bool :=
  d.currentState = .standby ∨ d.currentState = .armed ∨ d.currentState = .safe

/-! ## System commands -/

/-- `IG4U_NoopCmd`. -/
def noopCmd (w : World σ) : CfeStatus × World σ :=
  let w := w.update fun d => { d with cmdCounter := d.cmdCounter + 1 }
  (.success,
    w.sendEvent Eid.initInf .information "IG4U: NOOP command. Version 1.0. CmdCnt=%u"
      [w.data.cmdCounter.toNat])

/-- `IG4U_ResetCounterCmd`. -/
def resetCounterCmd (w : World σ) : CfeStatus × World σ :=
  let w := w.update fun d => { d with cmdCounter := 0, errCounter := 0 }
  (.success, w.sendEvent Eid.initInf .information "IG4U: Counters reset." [])

/-! ## Group 1: module control -/

/-- `IG4U_PingCmd`. -/
def pingCmd (w : World σ) : CfeStatus × World σ :=
  let r := Cmd.ping L w.line
  let w := { w with line := r.2 }
  if r.1 = cmdOk then
    let w := w.update fun d => { d with cmdCounter := d.cmdCounter + 1, linkReady := true }
    (.success, w.sendEvent Eid.initInf .information "IG4U: PING OK. Link confirmed." [])
  else
    let w := w.update fun d => { d with errCounter := d.errCounter + 1, linkReady := false }
    (.externalResourceFail,
      w.sendEvent Eid.uartTimeoutErr .error "IG4U: PING failed. RC=%d" [r.1])

/-- `IG4U_ResetModuleCmd`. -/
def resetModuleCmd (w : World σ) : CfeStatus × World σ :=
  let r := Cmd.resetModule L w.line
  let w := { w with line := r.2 }
  if r.1 = cmdOk then
    let w := w.update fun d =>
      { d with
        cmdCounter := d.cmdCounter + 1
        currentState := .standby
        armedTimerActive := false
        faultFlags := faultNone }
    (.success,
      w.sendEvent Eid.stateStandbyInf .information "IG4U: Module reset. State -> STANDBY." [])
  else
    let w := w.update fun d => { d with errCounter := d.errCounter + 1 }
    (.externalResourceFail,
      w.sendEvent Eid.uartSendErr .error "IG4U: RESET MODULE failed. RC=%d" [r.1])

/-- `IG4U_SetModeCmd`. -/
def setModeCmd (now : SysTime) (p : SetModePayload) (w : World σ) : CfeStatus × World σ :=
  let r := Cmd.setMode L p.mode w.line
  let w := { w with line := r.2 }
  if r.1 = cmdOk then
    let w := w.update fun d => { d with cmdCounter := d.cmdCounter + 1 }
    if p.mode = modeStandby then
      let w := w.update fun d => { d with currentState := .standby, armedTimerActive := false }
      (.success, w.sendEvent Eid.stateStandbyInf .information "IG4U: State -> STANDBY." [])
    else if p.mode = modeArmed then
      let w := w.update fun d =>
        { d with currentState := .armed, armedEntryTime := now, armedTimerActive := true }
      (.success,
        w.sendEvent Eid.stateArmedInf .information "IG4U: State -> ARMED. Timeout=%u sec."
          [armedTimeoutSec])
    else if p.mode = modeSafe then
      let w := w.update fun d => { d with currentState := .safe, armedTimerActive := false }
      (.success, w.sendEvent Eid.stateSafeErr .error "IG4U: State -> SAFE." [])
    -- Another mode that the payload acknowledges only counts.
    else (.success, w)
  else
    let w := w.update fun d => { d with errCounter := d.errCounter + 1 }
    (.externalResourceFail,
      w.sendEvent Eid.uartNackErr .error "IG4U: SET MODE failed. Mode=%u RC=%d"
        [p.mode.toNat, r.1])

/-- `IG4U_ArmPropulsionCmd`. -/
def armPropulsionCmd (now : SysTime) (w : World σ) : CfeStatus × World σ :=
  if w.data.currentState ≠ .standby then
    let w := w.update fun d => { d with errCounter := d.errCounter + 1 }
    (.externalResourceFail,
      w.sendEvent Eid.interlockErr .error
        "IG4U: ARM rejected. Current state=%u (must be STANDBY)."
        [w.data.currentState.toByte.toNat])
  else
    let r := Cmd.armPropulsion L w.line
    let w := { w with line := r.2 }
    if r.1 = cmdOk then
      let w := w.update fun d =>
        { d with
          cmdCounter := d.cmdCounter + 1
          currentState := .armed
          armedEntryTime := now
          armedTimerActive := true }
      (.success,
        w.sendEvent Eid.stateArmedInf .information "IG4U: ARM OK. State -> ARMED. Timeout=%u sec."
          [armedTimeoutSec])
    else
      let w := w.update fun d => { d with errCounter := d.errCounter + 1 }
      (.externalResourceFail,
        w.sendEvent Eid.interlockErr .error "IG4U: ARM failed (interlock). RC=%d" [r.1])

/-- `IG4U_DisarmPropulsionCmd`. -/
def disarmPropulsionCmd (w : World σ) : CfeStatus × World σ :=
  let r := Cmd.disarmPropulsion L w.line
  let w := { w with line := r.2 }
  if r.1 = cmdOk then
    let w := w.update fun d =>
      { d with
        cmdCounter := d.cmdCounter + 1
        currentState := .standby
        armedTimerActive := false }
    (.success,
      w.sendEvent Eid.stateStandbyInf .information "IG4U: DISARM OK. State -> STANDBY." [])
  else
    let w := w.update fun d => { d with errCounter := d.errCounter + 1 }
    (.externalResourceFail,
      w.sendEvent Eid.uartNackErr .error "IG4U: DISARM failed. RC=%d" [r.1])

/-! ## Group 2: housekeeping and status -/

/-- `IG4U_RequestHKDataCmd`. -/
def requestHKDataCmd (w : World σ) : CfeStatus × World σ :=
  let r := Cmd.requestHKData L (some w.data.lastHK) w.line
  let w := { w with line := r.2.2 }
  let w := w.update fun d => { d with lastHK := r.2.1.getD d.lastHK }
  if r.1 = cmdOk then
    let w := w.update fun d => { d with cmdCounter := d.cmdCounter + 1 }
    let w := w.update fun d =>
      { d with
        hkTlm :=
          { d.hkTlm with
            cmdCounter := d.cmdCounter
            cmdErrCounter := d.errCounter
            mode := d.lastHK.mode
            faultFlags := Lib.word16 d.lastHK.faultFlagsLo d.lastHK.faultFlagsHi
            pressureKPaX10 := d.lastHK.pressureKPaX10
            temperatureX10 := d.lastHK.temperatureX10
            mainFireCount := d.mainFireCount
            cgFireCount := d.cgFireCount } }
    (.success, w.transmitMsg (.hk w.data.hkTlm))
  else
    let w := w.update fun d => { d with errCounter := d.errCounter + 1 }
    (.externalResourceFail,
      w.sendEvent Eid.uartRecvErr .error "IG4U: REQUEST HK DATA failed. RC=%d" [r.1])

/-- `IG4U_RequestStatusCmd`. -/
def requestStatusCmd (w : World σ) : CfeStatus × World σ :=
  let r := Cmd.requestStatus L (some w.data.lastStatus) w.line
  let w := { w with line := r.2.2 }
  let w := w.update fun d => { d with lastStatus := r.2.1.getD d.lastStatus }
  if r.1 = cmdOk then
    -- The reported mode is taken over unchecked, and the timer of ARMED left as it is.
    let w := w.update fun d =>
      { d with
        cmdCounter := d.cmdCounter + 1
        currentState := .ofByte d.lastStatus.mode
        faultFlags := d.lastStatus.faultFlags
        statusTlm := d.lastStatus }
    let w := w.transmitMsg (.status w.data.statusTlm)
    if w.data.currentState = .fault then
      (.success,
        w.sendEvent Eid.stateFaultErr .error "IG4U: Status reports FAULT. FaultFlags=0x%04X"
          [w.data.faultFlags.toNat])
    else (.success, w)
  else
    let w := w.update fun d => { d with errCounter := d.errCounter + 1 }
    (.externalResourceFail,
      w.sendEvent Eid.uartRecvErr .error "IG4U: REQUEST STATUS failed. RC=%d" [r.1])

/-! ## Group 3: main thruster -/

/-- `IG4U_MainThrusterFireCmd`. -/
def mainThrusterFireCmd (p : MainThrusterFirePayload) (w : World σ) : CfeStatus × World σ :=
  if ¬isArmed w.data then
    let w := w.update fun d => { d with errCounter := d.errCounter + 1 }
    (.externalResourceFail,
      w.sendEvent Eid.interlockErr .error "IG4U: MAIN FIRE rejected. State=%u (must be ARMED)."
        [w.data.currentState.toByte.toNat])
  else
    let w := w.update fun d => { d with currentState := .firing, armedTimerActive := false }
    let w := w.sendEvent Eid.mainFireInf .information "IG4U: MAIN THRUSTER FIRE. Duration=%u ms."
      [p.durationMs.toNat]
    let r := Cmd.mainThrusterFire L p.durationMs (some default) w.line
    let w := { w with line := r.2.2 }
    let result := r.2.1.getD default
    if r.1 = cmdOk then
      let w := w.update fun d =>
        { d with
          cmdCounter := d.cmdCounter + 1
          mainFireCount := d.mainFireCount + 1
          currentState := .standby
          fireResultTlm := result }
      let w := w.transmitMsg (.fireResult w.data.fireResultTlm)
      (.success,
        w.sendEvent Eid.mainFireDoneInf .information
          "IG4U: MAIN FIRE done. Result=%u ActualDur=%u ms."
          [result.result.toNat, result.actualDurationMs.toNat])
    else
      let w := w.update fun d => { d with errCounter := d.errCounter + 1, currentState := .safe }
      (.externalResourceFail,
        w.sendEvent Eid.stateSafeErr .error "IG4U: MAIN FIRE failed. State -> SAFE. RC=%d" [r.1])

/-- `IG4U_MainThrusterAbortCmd`. -/
def mainThrusterAbortCmd (w : World σ) : CfeStatus × World σ :=
  let r := Cmd.mainThrusterAbort L w.line
  let w := { w with line := r.2 }
  let w := w.update fun d => { d with currentState := .standby }
  if r.1 = cmdOk then
    let w := w.update fun d => { d with cmdCounter := d.cmdCounter + 1 }
    (.success,
      w.sendEvent Eid.mainAbortInf .information "IG4U: MAIN THRUSTER ABORT. State -> STANDBY." [])
  else
    let w := w.update fun d => { d with errCounter := d.errCounter + 1 }
    -- The state is left for STANDBY even if the abort could not be sent.
    (.success, w.sendEvent Eid.uartSendErr .error "IG4U: ABORT send failed. RC=%d" [r.1])

/-! ## Group 4: cold gas thrusters -/

/-- The handler of a firing of the cold gas thrusters: the call `fire`, announced by
    the event `start`, and ended by the event `done` or `failed`. -/
def cgFireCmd (fire : Option CGThrusterResultPayload → Line σ →
      ℤ × Option CGThrusterResultPayload × Line σ)
    (rejected start : String) (startArgs : List ℤ) (done : String)
    (doneArgs : CGThrusterResultPayload → List ℤ) (failed : String) (w : World σ) :
    CfeStatus × World σ :=
  if ¬isArmed w.data then
    let w := w.update fun d => { d with errCounter := d.errCounter + 1 }
    (.externalResourceFail,
      w.sendEvent Eid.interlockErr .error rejected [w.data.currentState.toByte.toNat])
  else
    -- Other than for the main thruster, the timer of ARMED keeps running.
    let w := w.update fun d => { d with currentState := .firing }
    let w := w.sendEvent Eid.cgFireInf .information start startArgs
    let r := fire (some default) w.line
    let w := { w with line := r.2.2 }
    if r.1 = cmdOk then
      let w := w.update fun d =>
        { d with
          cmdCounter := d.cmdCounter + 1
          cgFireCount := d.cgFireCount + 1
          currentState := .standby }
      (.success,
        w.sendEvent Eid.cgFireDoneInf .information done (doneArgs (r.2.1.getD default)))
    else
      let w := w.update fun d => { d with errCounter := d.errCounter + 1, currentState := .safe }
      (.externalResourceFail, w.sendEvent Eid.stateSafeErr .error failed [r.1])

/-- `IG4U_CGThrusterPulseCmd`. -/
def cgThrusterPulseCmd (p : CGThrusterPulsePayload) (w : World σ) : CfeStatus × World σ :=
  cgFireCmd (Cmd.cgThrusterPulse L p.thrusterID p.durationMs)
    "IG4U: CG PULSE rejected. State=%u."
    "IG4U: CG PULSE. CH=%u Dur=%u ms." [p.thrusterID.toNat, p.durationMs.toNat]
    "IG4U: CG PULSE done. CH=%u Result=%u."
    (fun result => [result.thrusterID.toNat, result.result.toNat])
    "IG4U: CG PULSE failed. State -> SAFE. RC=%d" w

/-- `IG4U_CGThrusterBurstCmd`. -/
def cgThrusterBurstCmd (p : CGThrusterBurstPayload) (w : World σ) : CfeStatus × World σ :=
  cgFireCmd
    (Cmd.cgThrusterBurst L p.thrusterID p.pulseDurationMs p.pulseCount p.intervalMs)
    "IG4U: CG BURST rejected. State=%u."
    "IG4U: CG BURST. CH=%u Pulse=%u ms x%u Interval=%u ms."
    [p.thrusterID.toNat, p.pulseDurationMs.toNat, p.pulseCount.toNat, p.intervalMs.toNat]
    "IG4U: CG BURST done. Executed=%u pulses."
    (fun result => [result.executedPulseCount.toNat])
    "IG4U: CG BURST failed. State -> SAFE. RC=%d" w

/-- `IG4U_CGThrusterAbortCmd`. -/
def cgThrusterAbortCmd (w : World σ) : CfeStatus × World σ :=
  -- The return code is dropped.
  let w := { w with line := (Cmd.cgThrusterAbort L w.line).2 }
  let w := w.update fun d => { d with cmdCounter := d.cmdCounter + 1, currentState := .standby }
  (.success, w.sendEvent Eid.cgAbortInf .information "IG4U: CG ABORT. State -> STANDBY." [])

/-! ## Group 5: faults -/

/-- `IG4U_RequestFaultLogCmd`. -/
def requestFaultLogCmd (w : World σ) : CfeStatus × World σ :=
  let r := Cmd.requestFaultLog L (some w.data.faultLogTlm) w.line
  let w := { w with line := r.2.2 }
  let w := w.update fun d => { d with faultLogTlm := r.2.1.getD d.faultLogTlm }
  if r.1 = cmdOk then
    let w := w.update fun d => { d with cmdCounter := d.cmdCounter + 1 }
    let w := w.transmitMsg (.faultLog w.data.faultLogTlm)
    (.success,
      w.sendEvent Eid.initInf .information "IG4U: Fault log received. Entries=%u."
        [w.data.faultLogTlm.entryCount.toNat])
  else
    let w := w.update fun d => { d with errCounter := d.errCounter + 1 }
    (.externalResourceFail,
      w.sendEvent Eid.uartRecvErr .error "IG4U: REQUEST FAULT LOG failed. RC=%d" [r.1])

/-- `IG4U_ClearFaultCmd`. -/
def clearFaultCmd (w : World σ) : CfeStatus × World σ :=
  let r := Cmd.clearFault L w.line
  let w := { w with line := r.2 }
  if r.1 = cmdOk then
    let w := w.update fun d =>
      { d with cmdCounter := d.cmdCounter + 1, faultFlags := faultNone, currentState := .standby }
    (.success,
      w.sendEvent Eid.faultClearedInf .information "IG4U: Fault cleared. State -> STANDBY." [])
  else
    let w := w.update fun d => { d with errCounter := d.errCounter + 1 }
    (.externalResourceFail,
      w.sendEvent Eid.faultClearFail .error
        "IG4U: CLEAR FAULT failed (conditions not met). RC=%d" [r.1])

/-! ## The wakeup -/

/-- The polling of the housekeeping data by `IG4U_WakeupHandler`. -/
def pollHK (w : World σ) : World σ :=
  let r := Cmd.requestHKData L (some w.data.lastHK) w.line
  let w := { w with line := r.2.2 }
  let w := w.update fun d => { d with lastHK := r.2.1.getD d.lastHK }
  if r.1 = cmdOk then
    let w := w.update fun d =>
      { d with
        hkTlm :=
          { d.hkTlm with
            cmdCounter := d.cmdCounter
            cmdErrCounter := d.errCounter
            mode := d.currentState.toByte
            faultFlags := d.faultFlags
            mainFireCount := d.mainFireCount
            cgFireCount := d.cgFireCount
            pressureKPaX10 := d.lastHK.pressureKPaX10
            temperatureX10 := d.lastHK.temperatureX10 } }
    let pressure := w.data.lastHK.pressureKPaX10
    let w := if (5000 : UInt16) < pressure.get 0 ∨ (5000 : UInt16) < pressure.get 1 then
        w.sendEvent Eid.pressureHighErr .error "IG4U: Pressure high! P1=%u P2=%u (x0.1kPa)"
          [(pressure.get 0).toNat, (pressure.get 1).toNat]
      else w
    w.transmitMsg (.hk w.data.hkTlm)
  else
    let w := w.update fun d => { d with errCounter := d.errCounter + 1 }
    w.sendEvent Eid.uartTimeoutErr .error "IG4U: Wakeup HK poll failed. RC=%d" [r.1]

/-- The supervision of the ARMED state by `IG4U_WakeupHandler`. -/
def checkArmedTimeout (now : SysTime) (w : World σ) : World σ :=
  if w.data.armedTimerActive ∧ w.data.currentState = .armed then
    let elapsed := cfe.timeSubtract now w.data.armedEntryTime
    if armedTimeoutSec ≤ elapsed.seconds.toNat then
      let w := w.update fun d => { d with currentState := .standby, armedTimerActive := false }
      -- The payload is told, but its answer is not looked at.
      let w := { w with line := (Cmd.setMode L modeStandby w.line).2 }
      w.sendEvent Eid.armedTimeoutErr .error "IG4U: ARMED timeout (%u sec). Auto -> STANDBY."
        [armedTimeoutSec]
    else
      w.update fun d =>
        { d with
          hkTlm :=
            { d.hkTlm with
              armTimeoutRemain := UInt8.ofNat (armedTimeoutSec - elapsed.seconds.toNat) } }
  else w

/-- `IG4U_WakeupHandler`. -/
def wakeupHandler (now : SysTime) (w : World σ) : World σ :=
  -- Without the link, ARMED is not supervised either.
  if ¬w.data.powerApplied ∨ ¬w.data.linkReady then w
  else if ¬isCommAllowed w.data ∧ w.data.currentState ≠ .firing then w
  else checkArmedTimeout cfe L now (pollHK L w)

end Ig4u.App
