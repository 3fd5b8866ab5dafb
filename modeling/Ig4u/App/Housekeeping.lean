import Ig4u.App.Latch
import Ig4u.App.Telemetry
import Ig4u.App.Timeout

/-!
# Housekeeping packets

The handler of Request HK Data and that of the wakeup publish housekeeping packets. Both fill
them from the reply to the same request, but the wakeup takes the mode and the fault flags
from the data of the application. The remaining time of ARMED in both packets is the one that an
earlier wakeup has written.

* `publishersAgree_iff`: along a run, the two handlers publish the same exactly if the reply
  reports the state and the fault flags that the application holds.
* `armTimeCurrent_iff`: along a run, the remaining time in a packet is the current one exactly
  if the last wakeup to write it was in the same second of ARMED, or if ARMED is not timed and no
  wakeup has written it.
-/

namespace Ig4u.App

open Lib Proto Cmd

variable {σ : Type*} (cfe : Cfe) (L : Link σ)

/-! ## The packets -/

/-- The mode in a Reply HK Data. -/
def hkMode (P : Packet) : UInt8 := P.payload.getD 12 0

/-- The fault flags in a Reply HK Data. -/
def hkFaultFlags (P : Packet) : UInt16 := word16 (P.payload.getD 13 0) (P.payload.getD 14 0)

/-- The housekeeping packet filled from the data and the reply, but for three fields. -/
def hkPacket (d : Data) (hk : ReplyHKDataPayload) (cmdCounter mode : UInt8)
    (faultFlags : UInt16) : HkTlmPayload :=
  { cmdCounter, mode, faultFlags
    cmdErrCounter := d.errCounter
    pressureKPaX10 := hk.pressureKPaX10
    temperatureX10 := hk.temperatureX10
    mainFireCount := d.mainFireCount
    cgFireCount := d.cgFireCount
    armTimeoutRemain := d.hkTlm.armTimeoutRemain }

/-- A step publishes a housekeeping packet if the reply is accepted: a Request HK Data, or a
    wakeup that polls. -/
structure PublishesHk (i : Input) (w : World σ) : Prop where
  asks : activity cfe i w = some (.command .requestHKData) ∨
    activity cfe i w = some .wakeup ∧ w.data.powerApplied ∧ w.data.linkReady ∧
      PolledState w.data.currentState
  reply : ((pollCall w).exchange L w.line).isSome

variable {cfe L} {i i' : Input} {w : World σ} {P : Packet}

/-- The packets of the two handlers for a reply, the polling and the Request HK Data. -/
theorem hkPackets_of_reply (now : SysTime)
    (hP : (pollCall w).exchange L w.line = some [P]) :
    ∃ hk, (pollHK L w).tlm = w.tlm ++
        [.hk (hkPacket w.data hk w.data.cmdCounter w.data.currentState.toByte w.data.faultFlags)] ∧
      commandTlm L now w .requestHKData =
        [.hk (hkPacket w.data hk (w.data.cmdCounter + 1) (hkMode P) (hkFaultFlags P))] := by
  rcases requestHKData_cases L w.data.lastHK w.line with ⟨P', hx, hparse, hok⟩ | ⟨hx, -⟩
  swap
  · cases hx.symm.trans hP
  obtain rfl : P' = P := by simpa using hx.symm.trans hP
  have hwire : WireOk L w .requestHKData := hok
  refine ⟨(requestHKData L (some w.data.lastHK) w.line).2.1.getD w.data.lastHK, ?_, ?_⟩
  · simp only [pollHK, if_pos hok]
    split_ifs <;> rfl
  · simp only [commandTlm, if_pos hwire, handle, requestHKDataCmd, if_pos hok, ← hparse]
    simp only [parseHK] at hparse ⊢
    split_ifs at hparse ⊢
    · cases hparse
    · rfl

/-- The request has one reply, if it is accepted. -/
theorem reply_of_isSome (h : ((pollCall w).exchange L w.line).isSome) :
    ∃ P, (pollCall w).exchange L w.line = some [P] := by
  rcases requestHKData_cases L w.data.lastHK w.line with ⟨P, hx, -⟩ | ⟨hx, -⟩
  · exact ⟨P, hx⟩
  · rw [show (pollCall w).exchange L w.line = none from hx] at h
    cases h

/-- A value read off the reply is read off a packet. -/
theorem reply_of_map {α : Type*} {f : Packet → α} {x : α}
    (h : ((pollCall w).exchange L w.line).map (List.map f) = some [x]) :
    ∃ P, (pollCall w).exchange L w.line = some [P] ∧ f P = x := by
  have hsome := congrArg Option.isSome h
  rw [Option.isSome_map] at hsome
  obtain ⟨P, hP⟩ := reply_of_isSome hsome
  rw [hP] at h
  exact ⟨P, hP, by simpa using h⟩

/-- The packet published has the remaining time that was held before. -/
theorem PublishesHk.published (h : PublishesHk cfe L i w) :
    ∃ t, published cfe L i w = [.hk t] ∧ t.armTimeoutRemain = w.data.hkTlm.armTimeoutRemain := by
  obtain ⟨P, hP⟩ := reply_of_isSome h.reply
  obtain ⟨hk, hpoll, hrequest⟩ := hkPackets_of_reply i.now hP
  rcases h.asks with ha | ⟨ha, hpower, hready, hstate⟩
  · exact ⟨_, (published_command ha).trans hrequest, rfl⟩
  · exact ⟨_, published_eq ((step_tlm_wakeup ha hpower hready hstate).trans hpoll), rfl⟩

/-- No other step publishes one. -/
theorem publishesHk_of_mem {t : HkTlmPayload} (h : .hk t ∈ published cfe L i w) :
    PublishesHk cfe L i w := by
  rcases ha : activity cfe i w with - | (c | -)
  · rw [published_nil (step_of_none cfe L ha).tlm] at h
    cases h
  · rw [published_command ha] at h
    by_cases hc : c = .requestHKData
    · subst hc
      rcases requestHKData_mode (L := L) (w := w) i.now with ⟨P, -, hx, -⟩ | ⟨-, ht⟩
      · exact ⟨.inl ha, Option.isSome_of_mem hx⟩
      · rw [ht] at h
        cases h
    · exact absurd h (hk_not_mem_commandTlm hc t)
  · by_cases hpolls : w.data.powerApplied ∧ w.data.linkReady ∧ PolledState w.data.currentState
    · refine ⟨.inr ⟨ha, hpolls⟩, ?_⟩
      obtain ⟨hpower, hready, hstate⟩ := hpolls
      rcases pollHK_cases L w with ⟨P, -, hx, -⟩ | ⟨-, -, ht, -⟩
      · exact Option.isSome_of_mem hx
      · rw [published_nil ((step_tlm_wakeup ha hpower hready hstate).trans ht)] at h
        cases h
    · rw [published_nil (by rw [step_of_activity cfe L ha, act,
        wakeupHandler_idle cfe L _ hpolls])] at h
      cases h

/-! ## The two publishers -/

section

variable (cfe L)

/-- The fault flags in the Reply Status that the payload sends. -/
def reportedFaultFlags (w : World σ) : UInt16 :=
  ((Cmd.requestStatus L (some w.data.lastStatus) w.line).2.1.getD w.data.lastStatus).faultFlags

/-- The steps that write the fault flags of the application. -/
def WritesFaultFlags (i : Input) (w : World σ) : Prop :=
  Succeeds cfe L .requestStatus i w ∨ Succeeds cfe L .clearFault i w ∨
    Succeeds cfe L .resetModule i w

/-- What they write: those that a Reply Status reports, or none. -/
def writtenFaultFlags (i : Input) (w : World σ) : UInt16 :=
  if activity cfe i w = some (.command .requestStatus) then reportedFaultFlags L w else faultNone

/-- At the time `n`, the fault flags were last reported by a Reply Status, or have been
    cleared since. -/
def LastFaultFlags (a : ℕ → Input) (ρ : ℕ → World σ) (n : ℕ) (flags : UInt16) : Prop :=
  (∀ k < n, ¬WritesFaultFlags cfe L (a k) (ρ k)) ∧ flags = faultNone ∨
    ∃ k, LastBefore (fun k => WritesFaultFlags cfe L (a k) (ρ k)) k n ∧
      flags = writtenFaultFlags cfe L (a k) (ρ k)

end

theorem step_faultFlags_of_writes (h : WritesFaultFlags cfe L i w) :
    (step cfe L i w).data.faultFlags = writtenFaultFlags cfe L i w := by
  rcases h with ⟨ha, hok⟩ | ⟨ha, hok⟩ | ⟨ha, hok⟩ <;>
    rw [step_of_activity cfe L ha, writtenFaultFlags, ha]
  · have hok' : (Cmd.requestStatus L (some w.data.lastStatus) w.line).1 = cmdOk := hok
    simp only [act, handle, requestStatusCmd, if_pos hok', if_true]
    split_ifs <;> rfl
  · have hok' : (Cmd.clearFault L w.line).1 = cmdOk := hok
    simp only [act, handle, clearFaultCmd, if_pos hok']
    rfl
  · have hok' : (Cmd.resetModule L w.line).1 = cmdOk := hok
    simp only [act, handle, resetModuleCmd, if_pos hok']
    rfl

theorem step_faultFlags_of_not_writes (h : ¬WritesFaultFlags cfe L i w) :
    (step cfe L i w).data.faultFlags = w.data.faultFlags := by
  rcases ha : activity cfe i w with - | (c | -)
  · obtain ⟨_, _, hd⟩ := (step_of_none cfe L ha).data
    rw [hd]
  · rw [step_of_activity cfe L ha]
    cases c with
    | requestStatus =>
      have hfail : (Cmd.requestStatus L (some w.data.lastStatus) w.line).1 ≠ cmdOk :=
        fun hok => h (.inl ⟨ha, hok⟩)
      simp only [act, handle, requestStatusCmd, if_neg hfail]
      rfl
    | clearFault =>
      have hfail : (Cmd.clearFault L w.line).1 ≠ cmdOk := fun hok => h (.inr (.inl ⟨ha, hok⟩))
      simp only [act, handle, clearFaultCmd, if_neg hfail]
      rfl
    | resetModule =>
      have hfail : (Cmd.resetModule L w.line).1 ≠ cmdOk := fun hok => h (.inr (.inr ⟨ha, hok⟩))
      simp only [act, handle, resetModuleCmd, if_neg hfail]
      rfl
    | _ =>
      simp only [act, handle, noopCmd, resetCounterCmd, pingCmd, setModeCmd, armPropulsionCmd,
        disarmPropulsionCmd, requestHKDataCmd, mainThrusterFireCmd, mainThrusterAbortCmd,
        cgThrusterPulseCmd, cgThrusterBurstCmd, cgFireCmd, cgThrusterAbortCmd,
        requestFaultLogCmd]
      repeat' split_ifs
      all_goals rfl
  · rw [step_of_activity cfe L ha]
    obtain ⟨hk, tlm, n, hdata⟩ := pollHK_data L w
    simp only [act, wakeupHandler, checkArmedTimeout]
    split_ifs
    all_goals simp [hdata]

variable {a : ℕ → Input} {ρ : ℕ → World σ}

/-- At the start, no fault flag is set and ARMED has no remaining time. -/
theorem initial_hk (h : w ∈ initial L) :
    w.data.faultFlags = faultNone ∧ w.data.hkTlm.armTimeoutRemain = 0 := by
  obtain ⟨e, w₀, rfl⟩ := h
  simp only [start, init]
  split_ifs <;> exact ⟨rfl, rfl⟩

/-- The fault flags of the application are those last reported and not cleared since. -/
theorem lastFaultFlags_iff (hρ : IsRun (initial L) (step cfe L) a ρ) {n : ℕ} {flags : UInt16} :
    LastFaultFlags cfe L a ρ n flags ↔ flags = (ρ n).data.faultFlags := by
  have hwrite : ∀ n, WritesFaultFlags cfe L (a n) (ρ n) →
      (ρ (n + 1)).data.faultFlags = writtenFaultFlags cfe L (a n) (ρ n) := fun n hn => by
    rw [hρ.step n, step_faultFlags_of_writes hn]
  have hkeep : ∀ n, ¬WritesFaultFlags cfe L (a n) (ρ n) →
      (ρ (n + 1)).data.faultFlags = (ρ n).data.faultFlags := fun n hn => by
    rw [hρ.step n, step_faultFlags_of_not_writes hn]
  rcases register_cases (v := fun n => (ρ n).data.faultFlags) hwrite hkeep n with
    ⟨hnone, hv⟩ | ⟨k, hk, hv⟩
  · rw [hv, (initial_hk hρ.init).1]
    constructor
    · rintro (⟨-, h⟩ | ⟨k, hk, -⟩)
      · exact h
      · exact absurd hk.holds (hnone k hk.lt)
    · exact fun h => .inl ⟨hnone, h⟩
  · rw [hv]
    constructor
    · rintro (⟨hnone, -⟩ | ⟨j, hj, h⟩)
      · exact absurd hk.holds (hnone k hk.lt)
      · rw [h, hj.unique hk]
    · exact fun h => .inr ⟨k, hk, h⟩

section

variable (cfe L)

/-- In the state, a wakeup `i` polls and a Request HK Data `i'` is taken up, and the reply `P`
    to either of them is accepted. -/
structure BothReceive (i i' : Input) (P : Packet) (w : World σ) : Prop where
  wakeup : activity cfe i w = some .wakeup
  power : w.data.powerApplied
  ready : w.data.linkReady
  polled : PolledState w.data.currentState
  request : activity cfe i' w = some (.command .requestHKData)
  reply : (pollCall w).exchange L w.line = some [P]

/-- Two packets are the same but for the command counter and the remaining time of ARMED. -/
def SameHk (t u : HkTlmPayload) : Prop :=
  { t with cmdCounter := u.cmdCounter, armTimeoutRemain := u.armTimeoutRemain } = u

/-- From the state, the wakeup and the Request HK Data publish the same packet for the same
    reply, with the mode and the fault flags of the reply. -/
def PublishersAgree (w : World σ) : Prop :=
  ∀ i i' P, BothReceive cfe L i i' P w →
    ∃ t u, published cfe L i w = [.hk t] ∧ published cfe L i' w = [.hk u] ∧ SameHk t u ∧
      t.mode = u.mode ∧ t.faultFlags = hkFaultFlags P ∧ u.faultFlags = hkFaultFlags P

end

/-- Along every run and at any time, the wakeup and the Request HK Data publish the same exactly
    if the reply reports the state of the application, and the fault flags that were last
    reported by a Reply Status and not cleared since. -/
theorem publishersAgree_iff (hρ : IsRun (initial L) (step cfe L) a ρ) (n : ℕ) :
    PublishersAgree cfe L (ρ n) ↔ ∀ i i' P, BothReceive cfe L i i' P (ρ n) →
      hkMode P = (ρ n).data.currentState.toByte ∧ LastFaultFlags cfe L a ρ n (hkFaultFlags P) := by
  refine forall₃_congr fun i i' P => forall_congr' fun h => ?_
  obtain ⟨hk, hpoll, hrequest⟩ := hkPackets_of_reply i'.now h.reply
  have ht := published_eq ((step_tlm_wakeup h.wakeup h.power h.ready h.polled).trans hpoll)
  have hu := (published_command h.request).trans hrequest
  rw [lastFaultFlags_iff hρ]
  constructor
  · rintro ⟨t, u, htlm, hutlm, -, hmode, hflags, -⟩
    cases ht.symm.trans htlm
    cases hu.symm.trans hutlm
    exact ⟨hmode.symm, hflags.symm⟩
  · rintro ⟨hmode, hflags⟩
    refine ⟨_, _, ht, hu, ?_, hmode.symm, hflags.symm, rfl⟩
    simp only [SameHk, hkPacket, hmode, hflags]

/-- A Reply HK Data with a mode and the low byte of the fault flags. -/
def hkAnswer (mode faultFlagsLo : UInt8) : List UInt8 :=
  answer WireMsgid.replyHk
    [100, 0, 200, 0, 0, 0, 0, 0, 0, 0, 0, 0, mode, faultFlagsLo, 0, 0] (by simp)

/-- The publishers agree on the fault flags that a Request Status has reported, too. -/
theorem publishersAgree_status :
    let line := answer WireMsgid.replyStatus [State.standby.toByte, 0, 5, 0, 0] (by decide) ++
      hkAnswer State.standby.toByte 5
    let a := inputs [⟨seconds 0, .ok (command Cc.requestStatus)⟩] ⟨seconds 1, .ok wakeupMsg⟩
    let request : Input := ⟨seconds 1, .ok (command Cc.requestHKData)⟩
    let w := scenario line a 1
    (∃ P, BothReceive Cfe.standard fifoLink (a 1) request P w) ∧
      PublishersAgree Cfe.standard fifoLink w := by
  intro line a request w
  have hwake : activity Cfe.standard (a 1) w = some .wakeup := by decide +kernel
  have hrequest : activity Cfe.standard request w = some (.command .requestHKData) := by
    decide +kernel
  have hreply : ((pollCall w).exchange fifoLink w.line).map
      (List.map fun P => (hkMode P, hkFaultFlags P)) = some [(State.standby.toByte, 5)] := by
    decide +kernel
  obtain ⟨P, hP, hfields⟩ := reply_of_map hreply
  refine ⟨⟨P, hwake, by decide +kernel, by decide +kernel, .inl (by decide +kernel), hrequest, hP⟩,
    (publishersAgree_iff (isRun_scenario line a) 1).2 fun i i' P' h => ?_⟩
  cases hP.symm.trans h.reply
  obtain ⟨hmode, hflags⟩ := Prod.mk.inj hfields
  rw [lastFaultFlags_iff (isRun_scenario line a), hmode, hflags]
  exact ⟨by decide +kernel, by decide +kernel⟩

/-- A payload in STANDBY reports a fault flag that the wakeup does not publish. -/
theorem not_publishersAgree_flags :
    ∃ (a : ℕ → Input) (ρ : ℕ → World (Hal.State (List UInt8))),
      IsRun (initial fifoLink) (step Cfe.standard fifoLink) a ρ ∧
        (ρ 0).data.currentState = .standby ∧ ¬PublishersAgree Cfe.standard fifoLink (ρ 0) := by
  let line := hkAnswer State.standby.toByte 1
  let a := inputs [] ⟨seconds 0, .ok wakeupMsg⟩
  let request : Input := ⟨seconds 0, .ok (command Cc.requestHKData)⟩
  let w := scenario line a 0
  have hwake : activity Cfe.standard (a 0) w = some .wakeup := by decide +kernel
  have hrequest : activity Cfe.standard request w = some (.command .requestHKData) := by
    decide +kernel
  have hpower : w.data.powerApplied := by decide +kernel
  have hready : w.data.linkReady := by decide +kernel
  have hstandby : w.data.currentState = .standby := by decide +kernel
  have hnone : w.data.faultFlags = faultNone := by decide +kernel
  have hreply : ((pollCall w).exchange fifoLink w.line).map (List.map hkFaultFlags) =
      some [1] := by decide +kernel
  obtain ⟨P, hP, hone⟩ := reply_of_map hreply
  refine ⟨a, scenario line a, isRun_scenario _ _, hstandby, fun hagree => ?_⟩
  have hboth : BothReceive Cfe.standard fifoLink (a 0) request P w :=
    ⟨hwake, hpower, hready, .inl hstandby, hrequest, hP⟩
  obtain ⟨t, u, ht, -, -, -, hflags, -⟩ := hagree (a 0) request P hboth
  obtain ⟨hk, hpoll, -⟩ := hkPackets_of_reply (seconds 0) hP
  cases ht.symm.trans (published_eq
    ((step_tlm_wakeup hwake hpower hready (.inl hstandby)).trans hpoll))
  exact absurd (hnone.symm.trans (hflags.trans hone)) (by decide)

/-! ## The remaining time of ARMED -/

section

variable (cfe L)

/-- The whole seconds from a time to a later one. -/
def elapsedSeconds (now entry : SysTime) : ℕ := (now.ticks - entry.ticks) / 2 ^ 32

/-- ARMED has a remaining time: its timer runs and is not over. -/
def Timed (now : SysTime) (w : World σ) : Prop :=
  w.data.currentState = .armed ∧ w.data.armedTimerActive ∧
    elapsedSeconds now w.data.armedEntryTime < armedTimeoutSec

instance (now : SysTime) (w : World σ) : Decidable (Timed now w) :=
  inferInstanceAs (Decidable (_ ∧ _))

/-- The remaining seconds of ARMED. -/
def armSecondsLeft (now : SysTime) (w : World σ) : ℕ :=
  if Timed now w then armedTimeoutSec - elapsedSeconds now w.data.armedEntryTime else 0

/-- A wakeup that writes the remaining time. -/
structure RefreshesArmTime (i : Input) (w : World σ) : Prop where
  wakeup : activity cfe i w = some .wakeup
  power : w.data.powerApplied
  ready : w.data.linkReady
  timed : Timed i.now w

variable (a : ℕ → Input) (ρ : ℕ → World σ)

/-- The housekeeping packets published at the time `n` have the current remaining time. -/
def ArmTimeCurrent (n : ℕ) : Prop :=
  ∀ t, .hk t ∈ published cfe L (a n) (ρ n) →
    t.armTimeoutRemain.toNat = armSecondsLeft (a n).now (ρ n)

/-- At the time `n`, the remaining time is fresh: it was last written in the same second of ARMED,
    or, if ARMED has none, it has never been written. -/
structure ArmTimeFresh (n : ℕ) : Prop where
  timed : Timed (a n).now (ρ n) →
    ∃ k, LastBefore (fun k => RefreshesArmTime cfe (a k) (ρ k)) k n ∧
      elapsedSeconds (a k).now (ρ k).data.armedEntryTime =
        elapsedSeconds (a n).now (ρ n).data.armedEntryTime
  idle : ¬Timed (a n).now (ρ n) → ∀ k < n, ¬RefreshesArmTime cfe (a k) (ρ k)

end

/-- The seconds of a difference of times. -/
theorem timeSubtract_seconds {now entry : SysTime} (h : entry.ticks ≤ now.ticks) :
    (cfe.timeSubtract now entry).seconds.toNat = elapsedSeconds now entry := by
  have hticks := cfe.ticks_timeSubtract now entry h
  have hlt := (cfe.timeSubtract now entry).subseconds.toNat_lt
  rw [elapsedSeconds, ← hticks, SysTime.ticks]
  omega

/-- The polling keeps the remaining time. -/
theorem pollHK_armTimeoutRemain (w : World σ) :
    (pollHK L w).data.hkTlm.armTimeoutRemain = w.data.hkTlm.armTimeoutRemain := by
  simp only [pollHK]
  split_ifs <;> rfl

/-- The supervision writes it if ARMED has one. -/
theorem checkArmedTimeout_armTimeoutRemain {now : SysTime} {w : World σ}
    (h : w.data.armedTimerActive → w.data.armedEntryTime.ticks ≤ now.ticks) :
    (checkArmedTimeout cfe L now w).data.hkTlm.armTimeoutRemain =
      if Timed now w then
        UInt8.ofNat (armedTimeoutSec - elapsedSeconds now w.data.armedEntryTime)
      else w.data.hkTlm.armTimeoutRemain := by
  rw [checkArmedTimeout]
  by_cases hactive : w.data.armedTimerActive ∧ w.data.currentState = .armed
  · rw [if_pos hactive]
    simp only [timeSubtract_seconds (h hactive.1), Timed, hactive.1, hactive.2, true_and]
    split_ifs with hover hearly hearly
    · omega
    · rfl
    · rfl
    · omega
  · rw [if_neg hactive, if_neg fun ht => hactive ⟨ht.2.1, ht.1⟩]

/-- After a wakeup that polls, the remaining time is the one that the supervision leaves. -/
theorem step_armTimeoutRemain_wakeup (ha : activity cfe i w = some .wakeup)
    (hpower : w.data.powerApplied) (hready : w.data.linkReady)
    (hstate : PolledState w.data.currentState)
    (h : w.data.armedTimerActive → w.data.armedEntryTime.ticks ≤ i.now.ticks) :
    (step cfe L i w).data.hkTlm.armTimeoutRemain =
      if Timed i.now w then
        UInt8.ofNat (armedTimeoutSec - elapsedSeconds i.now w.data.armedEntryTime)
      else w.data.hkTlm.armTimeoutRemain := by
  obtain ⟨hk, tlm, n, hdata⟩ := pollHK_data L w
  have hactive : (pollHK L w).data.armedTimerActive = w.data.armedTimerActive := by rw [hdata]
  have hentry : (pollHK L w).data.armedEntryTime = w.data.armedEntryTime := by rw [hdata]
  have htimed : Timed i.now (pollHK L w) ↔ Timed i.now w := by rw [Timed, Timed, hdata]
  rw [step_of_activity cfe L ha, act, wakeupHandler_polled cfe L _ hpower hready hstate,
    checkArmedTimeout_armTimeoutRemain (by rwa [hactive, hentry]), pollHK_armTimeoutRemain, hentry]
  simp only [htimed]

theorem step_armTimeoutRemain_of_refreshes (h : RefreshesArmTime cfe i w)
    (hentry : w.data.armedEntryTime.ticks ≤ i.now.ticks) :
    (step cfe L i w).data.hkTlm.armTimeoutRemain =
      UInt8.ofNat (armedTimeoutSec - elapsedSeconds i.now w.data.armedEntryTime) := by
  rw [step_armTimeoutRemain_wakeup h.wakeup h.power h.ready (.inr (.inl h.timed.1)) fun _ => hentry,
    if_pos h.timed]

theorem step_armTimeoutRemain_of_not_refreshes (h : ¬RefreshesArmTime cfe i w)
    (hentry : w.data.armedTimerActive → w.data.armedEntryTime.ticks ≤ i.now.ticks) :
    (step cfe L i w).data.hkTlm.armTimeoutRemain = w.data.hkTlm.armTimeoutRemain := by
  rcases ha : activity cfe i w with - | (c | -)
  · obtain ⟨_, _, hd⟩ := (step_of_none cfe L ha).data
    rw [hd]
  · rw [step_of_activity cfe L ha, act, (handle_static i.now w c).2.2]
  · by_cases hpolls : w.data.powerApplied ∧ w.data.linkReady ∧ PolledState w.data.currentState
    · obtain ⟨hpower, hready, hstate⟩ := hpolls
      rw [step_armTimeoutRemain_wakeup ha hpower hready hstate hentry,
        if_neg fun htimed => h ⟨ha, hpower, hready, htimed⟩]
    · rw [step_of_activity cfe L ha, act, wakeupHandler_idle cfe L _ hpolls]

/-- The timer was started by an earlier step. -/
theorem entry_le_now (hρ : IsRun (initial L) (step cfe L) a ρ)
    (hclock : Monotone fun n => (a n).now.ticks) (n : ℕ) :
    (ρ n).data.armedTimerActive → (ρ n).data.armedEntryTime.ticks ≤ (a n).now.ticks := by
  intro hactive
  obtain ⟨j, hj, he⟩ := entry_eq_now hρ n hactive
  rw [he]
  exact hclock hj.le

/-- A time written is that of the remaining seconds, of which there is one at least. -/
theorem toNat_armTimeoutRemain {now : SysTime} (h : Timed now w) :
    (UInt8.ofNat (armedTimeoutSec - elapsedSeconds now w.data.armedEntryTime)).toNat +
      elapsedSeconds now w.data.armedEntryTime = armedTimeoutSec := by
  have hlt := h.2.2
  have hmax : armedTimeoutSec < 256 := by decide
  rw [UInt8.toNat_ofNat']
  omega

/-- The remaining time held has been written by the last wakeup to do so. -/
theorem armTimeoutRemain_cases (hρ : IsRun (initial L) (step cfe L) a ρ)
    (hclock : Monotone fun n => (a n).now.ticks) (n : ℕ) :
    (∀ k < n, ¬RefreshesArmTime cfe (a k) (ρ k)) ∧
        (ρ n).data.hkTlm.armTimeoutRemain.toNat = 0 ∨
      ∃ k, LastBefore (fun k => RefreshesArmTime cfe (a k) (ρ k)) k n ∧
        (ρ n).data.hkTlm.armTimeoutRemain.toNat +
          elapsedSeconds (a k).now (ρ k).data.armedEntryTime = armedTimeoutSec := by
  have hwrite : ∀ n, RefreshesArmTime cfe (a n) (ρ n) → (ρ (n + 1)).data.hkTlm.armTimeoutRemain =
      UInt8.ofNat (armedTimeoutSec - elapsedSeconds (a n).now (ρ n).data.armedEntryTime) :=
    fun n hn => by
      rw [hρ.step n, step_armTimeoutRemain_of_refreshes hn
        (entry_le_now hρ hclock n hn.timed.2.1)]
  have hkeep : ∀ n, ¬RefreshesArmTime cfe (a n) (ρ n) →
      (ρ (n + 1)).data.hkTlm.armTimeoutRemain = (ρ n).data.hkTlm.armTimeoutRemain := fun n hn => by
    rw [hρ.step n, step_armTimeoutRemain_of_not_refreshes hn (entry_le_now hρ hclock n)]
  rcases register_cases (v := fun n => (ρ n).data.hkTlm.armTimeoutRemain) hwrite hkeep n with
    ⟨hnone, hv⟩ | ⟨k, hk, hv⟩
  · rw [hv, (initial_hk hρ.init).2]
    exact .inl ⟨hnone, rfl⟩
  · rw [hv]
    exact .inr ⟨k, hk, toNat_armTimeoutRemain hk.holds.timed⟩

/-- The remaining time held is the current one exactly if it is fresh. -/
theorem armTimeFresh_iff (hρ : IsRun (initial L) (step cfe L) a ρ)
    (hclock : Monotone fun n => (a n).now.ticks) (n : ℕ) :
    (ρ n).data.hkTlm.armTimeoutRemain.toNat = armSecondsLeft (a n).now (ρ n) ↔
      ArmTimeFresh cfe a ρ n := by
  rcases armTimeoutRemain_cases hρ hclock n with ⟨hnone, hv⟩ | ⟨k, hk, hv⟩ <;>
    by_cases htimed : Timed (a n).now (ρ n)
  · -- Nothing has been written, but there is a remaining time.
    rw [hv, armSecondsLeft, if_pos htimed]
    have hlt := htimed.2.2
    refine iff_of_false (by omega) fun h => ?_
    obtain ⟨k, hk, -⟩ := h.timed htimed
    exact hnone k hk.lt hk.holds
  · rw [hv, armSecondsLeft, if_neg htimed]
    exact iff_of_true rfl ⟨fun h => absurd h htimed, fun _ => hnone⟩
  · rw [armSecondsLeft, if_pos htimed]
    have hlt := htimed.2.2
    constructor
    · exact fun h => ⟨fun _ => ⟨k, hk, by omega⟩, fun h' => absurd htimed h'⟩
    · intro h
      obtain ⟨j, hj, he⟩ := h.timed htimed
      obtain rfl := hj.unique hk
      omega
  · -- What has been written has stayed.
    rw [armSecondsLeft, if_neg htimed]
    have hlt := hk.holds.timed.2.2
    exact iff_of_false (by omega) fun h => h.idle htimed k hk.lt hk.holds

variable (cfe L) in
/-- Along every run with a clock that does not go back, and at any time, a housekeeping packet
    published has the current remaining time of ARMED exactly if this is fresh; and a wakeup that
    writes it subtracts without a wrap. -/
theorem armTimeCurrent_iff (hρ : IsRun (initial L) (step cfe L) a ρ)
    (hclock : Monotone fun n => (a n).now.ticks) (n : ℕ) :
    (ArmTimeCurrent cfe L a ρ n ↔
      (PublishesHk cfe L (a n) (ρ n) → ArmTimeFresh cfe a ρ n)) ∧
    (RefreshesArmTime cfe (a n) (ρ n) →
      (ρ (n + 1)).data.hkTlm.armTimeoutRemain.toNat +
        elapsedSeconds (a n).now (ρ n).data.armedEntryTime = armedTimeoutSec) := by
  refine ⟨?_, fun h => ?_⟩
  · rw [← armTimeFresh_iff hρ hclock]
    constructor
    · intro h hp
      obtain ⟨t, ht, hremain⟩ := hp.published
      rw [← hremain]
      exact h t (ht ▸ List.mem_singleton_self _)
    · intro h t ht
      have hp := publishesHk_of_mem ht
      obtain ⟨u, hu, hremain⟩ := hp.published
      rw [hu] at ht
      cases List.mem_singleton.1 ht
      rw [hremain, h hp]
  · rw [hρ.step n, step_armTimeoutRemain_of_refreshes h (entry_le_now hρ hclock n h.timed.2.1)]
    exact toNat_armTimeoutRemain h.timed

/-- The second of two wakeups in the same second of ARMED publishes the current remaining time. -/
theorem armTimeCurrent_second :
    let line := answer WireMsgid.armPropulsion [0, 4, 0, 0] (by decide) ++
      hkAnswer State.armed.toByte 0 ++ hkAnswer State.armed.toByte 0
    let a := inputs [⟨seconds 0, .ok (command Cc.armPropulsion)⟩] ⟨seconds 10, .ok wakeupMsg⟩
    PublishesHk Cfe.standard fifoLink (a 2) (scenario line a 2) ∧
      armSecondsLeft (a 2).now (scenario line a 2) = 20 ∧
      ArmTimeCurrent Cfe.standard fifoLink a (scenario line a) 2 := by
  intro line a
  have hwake : ∀ n ∈ [1, 2], activity Cfe.standard (a n) (scenario line a n) = some .wakeup := by
    decide +kernel
  have hrefreshes : RefreshesArmTime Cfe.standard (a 1) (scenario line a 1) :=
    ⟨hwake 1 (by decide), by decide +kernel, by decide +kernel, by decide +kernel⟩
  have htimed : Timed (a 2).now (scenario line a 2) := by decide +kernel
  have hpublishes : PublishesHk Cfe.standard fifoLink (a 2) (scenario line a 2) :=
    ⟨.inr ⟨hwake 2 (by decide), by decide +kernel, by decide +kernel, .inr (.inl htimed.1)⟩,
      by decide +kernel⟩
  refine ⟨hpublishes, by decide +kernel, ?_⟩
  refine (armTimeCurrent_iff Cfe.standard fifoLink (isRun_scenario line a)
    (monotone_inputs (by decide)) 2).1.2 fun _ => ⟨fun _ => ?_, fun h => absurd htimed h⟩
  exact ⟨1, ⟨by decide, hrefreshes, fun j hj hj' => absurd hj' (by omega)⟩, by decide +kernel⟩

/-- The first wakeup in ARMED publishes no remaining time, although `20` seconds are left. -/
theorem not_armTimeCurrent_first :
    ∃ (a : ℕ → Input) (ρ : ℕ → World (Hal.State (List UInt8))),
      IsRun (initial fifoLink) (step Cfe.standard fifoLink) a ρ ∧
        (Monotone fun n => (a n).now.ticks) ∧
        (ρ 1).data.currentState = .armed ∧ armSecondsLeft (a 1).now (ρ 1) = 20 ∧
        ¬ArmTimeCurrent Cfe.standard fifoLink a ρ 1 := by
  let line := answer WireMsgid.armPropulsion [0, 4, 0, 0] (by decide) ++
    hkAnswer State.armed.toByte 0
  let a := inputs [⟨seconds 0, .ok (command Cc.armPropulsion)⟩] ⟨seconds 10, .ok wakeupMsg⟩
  have harmed : (scenario line a 1).data.currentState = .armed := by decide +kernel
  have hleft : armSecondsLeft (a 1).now (scenario line a 1) = 20 := by decide +kernel
  have hheld : (scenario line a 1).data.hkTlm.armTimeoutRemain = 0 := by decide +kernel
  have hpublishes : PublishesHk Cfe.standard fifoLink (a 1) (scenario line a 1) :=
    ⟨.inr ⟨by decide +kernel, by decide +kernel, by decide +kernel, .inr (.inl harmed)⟩,
      by decide +kernel⟩
  refine ⟨a, scenario line a, isRun_scenario _ _, monotone_inputs (by decide), harmed, hleft,
    fun h => ?_⟩
  obtain ⟨t, ht, hremain⟩ := hpublishes.published
  have hcurrent := h t (ht ▸ List.mem_singleton_self _)
  rw [hremain, hheld, hleft] at hcurrent
  exact absurd hcurrent (by decide)

end Ig4u.App
