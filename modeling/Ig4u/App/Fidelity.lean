import Ig4u.App.Interlock

/-!
# From the ground to the wire

The telecommand that a ground command becomes is documented by the identifier, the length
of its payload and the places of the fields in it. `commandOf` reads a telecommand that
way.

* `commandOf_telecommand`: the telecommand of a ground command is read as that command.
* `fidelity`: so is the buffer that the handler hands to the HAL, which no other command hands
  to it.
-/

namespace Ig4u.App

open Lib Proto Cmd

variable {σ : Type*} (cfe : Cfe) (L : Link σ)

/-! ## The documentation -/

/-- The ground command behind a telecommand with an identifier and a payload, its fields
    read where the message definitions place them. -/
def commandOf (msgId : UInt8) (p : List UInt8) : Option GroundCommand :=
  if msgId = WireMsgid.ping then some .ping
  else if msgId = WireMsgid.resetModule then some .resetModule
  else if msgId = WireMsgid.setMode then some (.setMode ⟨p.getD 0 0⟩)
  else if msgId = WireMsgid.armPropulsion then some .armPropulsion
  else if msgId = WireMsgid.disarmPropulsion then some .disarmPropulsion
  else if msgId = WireMsgid.requestHk then some .requestHKData
  else if msgId = WireMsgid.requestStatus then some .requestStatus
  else if msgId = WireMsgid.mainFire then some (.mainThrusterFire ⟨rdLE32 p 0⟩)
  else if msgId = WireMsgid.mainAbort then some .mainThrusterAbort
  else if msgId = WireMsgid.cgPulse then some (.cgThrusterPulse ⟨p.getD 0 0, rdLE16 p 2⟩)
  else if msgId = WireMsgid.cgBurst then
    some (.cgThrusterBurst ⟨p.getD 0 0, rdLE16 p 2, rdLE16 p 4, rdLE16 p 6⟩)
  else if msgId = WireMsgid.cgAbort then some .cgThrusterAbort
  else if msgId = WireMsgid.requestFaultLog then some .requestFaultLog
  else if msgId = WireMsgid.clearFault then some .clearFault
  else none

/-- The length of the payload of the telecommand. -/
def wireLength : GroundCommand → ℕ
  | .setMode _ | .mainThrusterFire _ | .cgThrusterPulse _ => 4
  | .cgThrusterBurst _ => 8
  | _ => 0

/-- The offsets of its spare bytes. -/
def spares : GroundCommand → List ℕ
  | .setMode _ => [1, 2, 3]
  | .cgThrusterPulse _ | .cgThrusterBurst _ => [1]
  | _ => []

/-- The ground commands with parameters. -/
def HasParameters : GroundCommand → Prop
  | .setMode _ | .mainThrusterFire _ | .cgThrusterPulse _ | .cgThrusterBurst _ => True
  | _ => False

/-! ## The telecommands -/

variable {cfe L} {w : World σ} {c : GroundCommand} {F : Frame}

/-- The telecommand of a ground command is a valid one, of the documented length, with zeros for
    the spare bytes, and it is read as that command. -/
theorem commandOf_telecommand (h : telecommand w c = some F) :
    F.msgType = msgtypeCommand ∧ F.Valid ∧ F.payload.length = wireLength c ∧
      commandOf F.msgId F.payload = some c ∧ ∀ k ∈ spares c, F.payload.getD k 0 = 0 := by
  cases c with
  | noop => cases h
  | resetCounter => cases h
  | setMode q =>
    cases h
    exact ⟨rfl, Frame.valid_sealed, rfl, rfl, by simp [spares]; exact ⟨rfl, rfl, rfl⟩⟩
  | mainThrusterFire q =>
    cases h
    have hread : commandOf WireMsgid.mainFire (wrLE32 q.durationMs) =
        some (.mainThrusterFire ⟨rdLE32 (wrLE32 q.durationMs) 0⟩) := rfl
    rw [rdLE32_wrLE32] at hread
    exact ⟨rfl, Frame.valid_sealed, rfl, hread, by simp [spares]⟩
  | cgThrusterPulse q =>
    cases h
    have hread : commandOf WireMsgid.cgPulse ([q.thrusterID, 0] ++ wrLE16 q.durationMs) =
        some (.cgThrusterPulse
          ⟨q.thrusterID, word16 (lowByte q.durationMs) (highByte q.durationMs)⟩) := rfl
    rw [word16_bytes] at hread
    exact ⟨rfl, Frame.valid_sealed, rfl, hread, by simp [spares]; rfl⟩
  | cgThrusterBurst q =>
    cases h
    have hread : commandOf WireMsgid.cgBurst ([q.thrusterID, 0] ++ wrLE16 q.pulseDurationMs ++
          wrLE16 q.pulseCount ++ wrLE16 q.intervalMs) =
        some (.cgThrusterBurst
          ⟨q.thrusterID, word16 (lowByte q.pulseDurationMs) (highByte q.pulseDurationMs),
            word16 (lowByte q.pulseCount) (highByte q.pulseCount),
            word16 (lowByte q.intervalMs) (highByte q.intervalMs)⟩) := rfl
    rw [word16_bytes, word16_bytes, word16_bytes] at hread
    exact ⟨rfl, Frame.valid_sealed, rfl, hread, by simp [spares]; rfl⟩
  | _ =>
    cases h
    exact ⟨rfl, Frame.valid_sealed, rfl, rfl, by simp [spares]⟩

/-- The decoder gives the fields of a telecommand back. -/
theorem decodeTM_telecommand (hvalid : F.Valid) :
    ∃ tm, decodeTM (some F.bytes) F.bytes.length (some default) = (protoOk, some tm) ∧
      tm.msgType = F.msgType ∧ tm.msgId = F.msgId ∧
      (F.bytes.drop tm.payload).take tm.payloadLen.toNat = F.payload := by
  have hle := F.length_le
  simp only [packetMaxPayload] at hle
  have hlen : (UInt16.ofNat F.payload.length).toNat = F.payload.length := by
    rw [UInt16.toNat_ofNat', Nat.mod_eq_of_lt (by omega)]
  have hdecode := F.decodeTM_bytes [] F.length_bytes.ge default
  have hpayload := F.payload_bytes []
  rw [List.append_nil] at hdecode hpayload
  rw [if_pos hvalid] at hdecode
  refine ⟨_, hdecode, rfl, rfl, ?_⟩
  rw [hlen]
  exact hpayload

/-! ## Fidelity -/

variable (cfe L) in
/-- Whatever the values of its fields: a ground command with parameters that is accepted, in ARMED
    if it fires, hands one buffer to the HAL. The decoder accepts it as a telecommand of the
    documented length, with zeros for the spare bytes, whose identifier and fields are those of the
    command. Another command never hands the same bytes to the HAL. -/
theorem fidelity {i : Input} (ha : activity cfe i w = some (.command c)) (hc : HasParameters c)
    (hp : Permitted w.data.currentState c) :
    ∃ b, (step cfe L i w).line.sent = w.line.sent ++ [b] ∧
      (∃ tm, decodeTM (some b) b.length (some default) = (protoOk, some tm) ∧
        tm.msgType = msgtypeCommand ∧
        let p := (b.drop tm.payload).take tm.payloadLen.toNat
        p.length = wireLength c ∧ commandOf tm.msgId p = some c ∧ ∀ k ∈ spares c, p.getD k 0 = 0) ∧
      ∀ (i' : Input) (w' : World σ) (c' : GroundCommand),
        activity cfe i' w' = some (.command c') → Permitted w'.data.currentState c' →
        (step cfe L i' w').line.sent = w'.line.sent ++ [b] → c' = c := by
  obtain ⟨F, hF⟩ : ∃ F, telecommand w c = some F := by
    cases c with
    | setMode q => exact ⟨_, rfl⟩
    | mainThrusterFire q => exact ⟨_, rfl⟩
    | cgThrusterPulse q => exact ⟨_, rfl⟩
    | cgThrusterBurst q => exact ⟨_, rfl⟩
    | _ => exact hc.elim
  obtain ⟨htype, hvalid, hlen, hread, hspares⟩ := commandOf_telecommand hF
  obtain ⟨tm, hdecode, htm, hid, hpayload⟩ := decodeTM_telecommand hvalid
  refine ⟨F.bytes, ?_, ⟨tm, hdecode, htm.trans htype, ?_⟩, fun i' w' c' ha' hp' hsent' => ?_⟩
  · rw [step_sent cfe L ha hp, hF]
    rfl
  · rw [hpayload, hid]
    exact ⟨hlen, hread, hspares⟩
  · -- The other command has the same bytes, which are read in one way only.
    rw [step_sent cfe L ha' hp', List.append_cancel_left_eq] at hsent'
    rcases hF' : telecommand w' c' with - | F'
    · rw [hF'] at hsent'
      cases hsent'
    obtain ⟨-, hvalid', -, hread', -⟩ := commandOf_telecommand hF'
    have hbytes : F'.bytes = F.bytes := by simpa [hF'] using hsent'
    obtain ⟨tm', hdecode', -, hid', hpayload'⟩ := decodeTM_telecommand hvalid'
    rw [hbytes, hdecode] at hdecode'
    cases hdecode'
    rw [hbytes, hpayload] at hpayload'
    rw [← hid', ← hpayload', hid] at hread'
    exact Option.some.inj (hread'.symm.trans hread)

/-- A CG Thruster Burst in ARMED is what the payload reads. -/
theorem fidelity_burst :
    let q : CGThrusterBurstPayload := ⟨3, 0x1234, 0x5678, 0x9ABC⟩
    let m := { command Cc.cgThrusterBurst with size := 16, cgThrusterBurst := q }
    let line := answer WireMsgid.armPropulsion [0, 4, 0, 0] (by decide)
    let a := inputs [⟨seconds 0, .ok (command Cc.armPropulsion)⟩] ⟨seconds 1, .ok m⟩
    ∃ b, (scenario line a 2).line.sent = (scenario line a 1).line.sent ++ [b] ∧
      ∃ tm, decodeTM (some b) b.length (some default) = (protoOk, some tm) ∧
        commandOf tm.msgId ((b.drop tm.payload).take tm.payloadLen.toNat) =
          some (.cgThrusterBurst q) := by
  intro q m line a
  have ha : activity Cfe.standard (a 1) (scenario line a 1) =
      some (.command (.cgThrusterBurst q)) := by decide +kernel
  obtain ⟨b, hsent, ⟨tm, hdecode, -, -, hread, -⟩, -⟩ :=
    fidelity Cfe.standard fifoLink (c := .cgThrusterBurst q) ha trivial
      (show (scenario line a 1).data.currentState = .armed by decide +kernel)
  have hstep : scenario line a 2 = step Cfe.standard fifoLink (a 1) (scenario line a 1) :=
    (isRun_scenario line a).step 1
  rw [← hstep] at hsent
  exact ⟨b, hsent, tm, hdecode, hread⟩

end Ig4u.App
