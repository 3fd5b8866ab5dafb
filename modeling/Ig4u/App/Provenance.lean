import Ig4u.App.Ledger
import Ig4u.App.Simulation
import Ig4u.Commands.Evidence
import Ig4u.Commands.FaultLog

/-!
# Where the telemetry comes from

The application on the bytes of the serial line: a run over the HAL and a driver that may do
anything, as long as its reads report the number of bytes they store.

A packet is published by an activity, on some data (`Publication`). It passes on what a frame
reports (`Frame.Reports`), and the application adds the rest: the counters, the state of a polled
packet, and the entries of a fault log that the frame does not have.

* `step_passes`: what a step writes and receives, and from which bytes it publishes.
* `step_faultLog`: the application holds the fault log that it has published last.
* `provenance`: in every run, the packets published are drawn from the bytes received: each has a
  frame of its own there, and none overtakes another.
-/

namespace Ig4u

open Lib Proto Cmd

variable {σ : Type*}

/-! ## What a frame reports -/

/-- The fault log `log` has the entries that are in the frame. All the others are left from the
    fault log `old`, also those that the frame announces. -/
structure Frame.Logs (F : Frame) (old log : ReplyFaultLogPayload) : Prop where
  count : log.entryCount.toNat = announced F.packet
  entry : ∀ (i : ℕ) (h : i < 32), log.entries[i] =
    if i < log.entryCount.toNat ∧ 12 + 8 * i ≤ F.payload.length then
      faultEntryAt F.payload (4 + 8 * i)
    else old.entries[i]

/-- The frame reports what a packet passes on, which is published by an activity on the data `d`. -/
def Frame.Reports (F : Frame) (d : Data) : App.Activity → Tlm → Prop
  | .command .requestHKData, .hk t => F.msgId = WireMsgid.replyHk ∧
      ∃ hk, parseHK default F.payload F.payload.length = some hk ∧
        t.pressureKPaX10 = hk.pressureKPaX10 ∧ t.temperatureX10 = hk.temperatureX10 ∧
        t.mode = hk.mode ∧ t.faultFlags = word16 hk.faultFlagsLo hk.faultFlagsHi
  -- The polling passes on the mode and the flags of the application.
  | .wakeup, .hk t => F.msgId = WireMsgid.replyHk ∧
      ∃ hk, parseHK default F.payload F.payload.length = some hk ∧
        t.pressureKPaX10 = hk.pressureKPaX10 ∧ t.temperatureX10 = hk.temperatureX10 ∧
        t.mode = d.currentState.toByte ∧ t.faultFlags = d.faultFlags
  | .command .requestStatus, .status status => F.msgId = WireMsgid.replyStatus ∧
      parseStatus default F.payload F.payload.length = some status
  -- A fire without an end has no result but its acknowledgement, and an empty one is published.
  | .command (.mainThrusterFire p), .fireResult result =>
      if 0 < p.durationMs then F.msgId = WireMsgid.mainResult ∧
        parseMainResult default F.payload F.payload.length = some result
      else F.msgId = WireMsgid.mainFire ∧ result = default
  | .command .requestFaultLog, .faultLog log => F.msgId = WireMsgid.replyFaultLog ∧
      0 < F.payload.length ∧ F.Logs d.faultLogTlm log
  | _, _ => False

/-- A packet published, by which activity and on which data. -/
structure Publication where
  activity : App.Activity
  data : Data
  tlm : Tlm

/-- The packet passes on what the valid frame with these bytes reports. -/
def Publication.From (p : Publication) (block : List UInt8) : Prop :=
  ∃ F : Frame, F.Valid ∧ F.bytes = block ∧ F.Reports p.data p.activity p.tlm

/-- A packet and the frame it is in are parsed alike. -/
theorem Packet.Same.parse {α : Type*} {parse : α → List UInt8 → ℕ → Option α} {P Q : Packet}
    (h : P.Same Q) (hparse : InWindow parse) (out : α) :
    parse out P.payload P.len = parse out Q.payload Q.len :=
  (hparse out _ _ _ h.left (h.len ▸ h.right) h.payload).trans (by rw [h.len])

/-- What the parser of the fault log leaves. -/
theorem Frame.logs_of_parse {F : Frame} {old log : ReplyFaultLogPayload}
    (h : parseFaultLog old F.payload F.payload.length = some log) :
    0 < F.payload.length ∧ F.Logs old log := by
  have hcount := (parseFaultLog_count (P := F.packet) h).1
  refine ⟨(parseFaultLog_isSome old _ _).1 (Option.isSome_iff_exists.2 ⟨_, h⟩), hcount,
    fun i hi => ?_⟩
  rw [hcount]
  exact parseFaultLog_entry (P := F.packet) h hi

/-- The fault log after a packet. -/
def Tlm.logAfter (old : ReplyFaultLogPayload) : Tlm → ReplyFaultLogPayload
  | .faultLog log => log
  | _ => old

/-- The fault log published last, which is empty if there was none. -/
def lastLog (ts : List Tlm) : ReplyFaultLogPayload := ts.foldl Tlm.logAfter default

namespace App

variable (cfe : Cfe) {L : Link σ}

/-! ## The packets of a call -/

/-- What is published is drawn from the bytes of the packet it is taken from. -/
theorem drawn_publication {P : Packet} {p : Publication} {new : List UInt8}
    (h : Drawn Packet.From [P] new)
    (ht : ∀ F : Frame, P.Same F.packet → F.Reports p.data p.activity p.tlm) :
    Drawn Publication.From [p] new := by
  refine h.map (fun _ => p) ?_
  rintro P' hP' block ⟨F, hvalid, hbytes, hsame⟩
  obtain rfl := List.mem_singleton.1 hP'
  exact ⟨F, hvalid, hbytes, ht F hsame⟩

/-- A request that succeeds gives what a frame among the bytes received reports. -/
theorem reply_from {α : Type*} {e : Expected} {parse : α → List UInt8 → ℕ → Option α} {out : α}
    {x : Option (List Packet)} {T : Frame} {s : Line σ} {r : ℤ × Option α × Line σ}
    (hx : x = exchange L T [e] s)
    (hr : (∃ P, x = some [P] ∧ parse out P.payload P.len = r.2.1 ∧ r.1 = cmdOk) ∨
      x = none ∧ r.2.1 = some out ∧ r.1 ≠ cmdOk)
    (hin : InWindow parse) (hparse : ∀ p n, (parse out p n).isSome ↔ e.minLen ≤ n)
    {new : List UInt8} (h : ∀ Ps, x = some Ps → Drawn Packet.From Ps new) :
    (r.1 = cmdOk ∧ ∃ value, r.2.1 = some value ∧ ∀ p : Publication,
      (∀ F : Frame, F.msgId = e.msgId → parse out F.payload F.payload.length = some value →
        F.Reports p.data p.activity p.tlm) → Drawn Publication.From [p] new) ∨ r.1 ≠ cmdOk := by
  rcases hr with ⟨P, hP, hvalue, hok⟩ | ⟨-, -, hfail⟩
  · have ha : e.Accepts P := by
      cases accepts_of_exchange (hx ▸ hP) with
      | cons ha _ => exact ha
    obtain ⟨value, hv⟩ := Option.isSome_iff_exists.1 ((hparse P.payload P.len).2 ha.2)
    refine .inl ⟨hok, value, hvalue.symm.trans hv, fun p hp => ?_⟩
    exact drawn_publication (h _ hP) fun F hF =>
      hp F (hF.msgId.symm.trans ha.1) ((hF.parse hin out).symm.trans hv)
  · exact .inr hfail

/-- The polling publishes what the reply reports. -/
theorem pollHK_from {w : World σ} {new : List UInt8}
    (h : ∀ Ps, (pollCall w).exchange L w.line = some Ps → Drawn Packet.From Ps new) :
    ∃ ts, (pollHK L w).tlm = w.tlm ++ ts ∧
      Drawn Publication.From (ts.map (Publication.mk .wakeup w.data)) new := by
  rcases reply_from rfl (requestHKData_cases L w.data.lastHK w.line)
    (inWindow_of_reads fun out _ _ hn => parseHKIn_window hn out) (parseHK_isSome w.data.lastHK) h
    with ⟨hok, hk, hout, hdrawn⟩ | hfail
  · have hdata : (pollHK L w).tlm = w.tlm ++ [.hk (pollHK L w).data.hkTlm] ∧
        (pollHK L w).data.hkTlm.pressureKPaX10 = hk.pressureKPaX10 ∧
        (pollHK L w).data.hkTlm.temperatureX10 = hk.temperatureX10 ∧
        (pollHK L w).data.hkTlm.mode = w.data.currentState.toByte ∧
        (pollHK L w).data.hkTlm.faultFlags = w.data.faultFlags := by
      simp only [pollHK, if_pos hok, hout, Option.getD_some]
      split_ifs <;> exact ⟨rfl, rfl, rfl, rfl, rfl⟩
    exact ⟨_, hdata.1, hdrawn ⟨.wakeup, w.data, _⟩ fun F hid hF => ⟨hid, hk, hF, hdata.2⟩⟩
  · refine ⟨[], ?_, .nil new⟩
    simp only [pollHK, if_neg hfail]
    exact (List.append_nil _).symm

/-- A Main Thruster Fire publishes what the second reply reports, or an empty result if it has no
    end. -/
theorem fireResult_from {w : World σ} {p : MainThrusterFirePayload}
    (hok : (Cmd.mainThrusterFire L p.durationMs (some default) w.line).1 = cmdOk)
    {new : List UInt8}
    (h : ∀ Ps, (Call.mainThrusterFire p.durationMs (some default)).exchange L w.line = some Ps →
      Drawn Packet.From Ps new) :
    Drawn Publication.From [⟨.command (.mainThrusterFire p), w.data, .fireResult
      ((Cmd.mainThrusterFire L p.durationMs (some default) w.line).2.1.getD default)⟩] new := by
  by_cases hd : 0 < p.durationMs
  · have hexpects : (Call.mainThrusterFire p.durationMs (some default)).expects =
        [.defaultResponse WireMsgid.mainFire, .mainResult] := by simp [Call.expects, hd]
    rw [Call.exchange, hexpects] at h
    rcases mainThrusterFire_cases L hd default w.line with
      ⟨A, P, result, hx, hparse, hout, -⟩ | ⟨-, -, hfail⟩
    · rw [hout]
      have ha : Expected.mainResult.Accepts P := by
        cases accepts_of_exchange hx with
        | cons _ ha =>
          cases ha with
          | cons ha _ => exact ha
      have hdrawn : Drawn Packet.From [P] new := (h _ hx).sublist (by simp)
      refine drawn_publication hdrawn fun F hF => ?_
      have hresult : parseMainResult default F.payload F.payload.length = some result :=
        (hF.parse (inWindow_of_reads fun out _ _ hn => parseMainResultIn_window hn out)
          default).symm.trans hparse
      simp only [Frame.Reports, if_pos hd]
      exact ⟨hF.msgId.symm.trans ha.1, hresult⟩
    · exact absurd hok hfail
  · -- A fire without an end is acknowledged, and has no result.
    have hexpects : (Call.mainThrusterFire p.durationMs (some default)).expects =
        [.defaultResponse WireMsgid.mainFire] := by simp [Call.expects, hd]
    rw [Call.exchange, hexpects] at h
    have hno : ¬(0 < p.durationMs ∧ (some (default : MainThrusterResultPayload)).isSome) :=
      fun h => hd h.1
    obtain ⟨⟨A, hx, -⟩ | ⟨-, hfail⟩, hout⟩ := mainThrusterFire_cases_of_no_result L hno w.line
    · rw [hout]
      have ha : (Expected.defaultResponse WireMsgid.mainFire).Accepts A := by
        cases accepts_of_exchange hx with
        | cons ha _ => exact ha
      refine drawn_publication (h _ hx) fun F hF => ?_
      simp only [Frame.Reports, if_neg hd]
      exact ⟨hF.msgId.symm.trans ha.1, rfl⟩
    · exact absurd hok hfail

/-- A handler publishes what the reply to its call reports. -/
theorem commandTlm_from (now : SysTime) {w : World σ} {c : GroundCommand} {call : Call}
    (hc : wireCommand w.data c = some call) {new : List UInt8}
    (h : ∀ Ps, call.exchange L w.line = some Ps → Drawn Packet.From Ps new) :
    Drawn Publication.From
      ((commandTlm L now w c).map (Publication.mk (.command c) w.data)) new := by
  cases c with
  | requestHKData =>
    cases hc
    rcases reply_from rfl (requestHKData_cases L w.data.lastHK w.line)
      (inWindow_of_reads fun out _ _ hn => parseHKIn_window hn out) (parseHK_isSome w.data.lastHK) h
      with ⟨hok, hk, hout, hdrawn⟩ | hfail
    · have hwire : WireOk L w .requestHKData := hok
      rw [commandTlm, if_pos hwire]
      refine hdrawn ⟨.command .requestHKData, w.data, _⟩ fun F hid hF => ⟨hid, hk, hF, ?_⟩
      simp only [handle, requestHKDataCmd, if_pos hok, hout, Option.getD_some]
      exact ⟨rfl, rfl, rfl, rfl⟩
    · have hwire : ¬WireOk L w .requestHKData := hfail
      rw [commandTlm, if_neg hwire]
      exact .nil new
  | requestStatus =>
    cases hc
    rcases reply_from rfl (requestStatus_cases L w.data.lastStatus w.line)
      (inWindow_of_reads fun out _ _ hn => parseStatusIn_window hn out)
      (parseStatus_isSome w.data.lastStatus) h with ⟨hok, status, hout, hdrawn⟩ | hfail
    · have hwire : WireOk L w .requestStatus := hok
      rw [commandTlm, if_pos hwire]
      refine hdrawn ⟨.command .requestStatus, w.data, _⟩ fun F hid hF =>
        ⟨hid, hF.trans (congrArg some ?_)⟩
      simp only [handle, requestStatusCmd, if_pos hok, hout, Option.getD_some]
      split_ifs <;> rfl
    · have hwire : ¬WireOk L w .requestStatus := hfail
      rw [commandTlm, if_neg hwire]
      exact .nil new
  | requestFaultLog =>
    cases hc
    rcases reply_from rfl (requestFaultLog_cases L w.data.faultLogTlm w.line)
      (inWindow_of_reads fun out _ _ hn => parseFaultLogIn_window hn out)
      (parseFaultLog_isSome w.data.faultLogTlm) h with ⟨hok, log, hout, hdrawn⟩ | hfail
    · have hwire : WireOk L w .requestFaultLog := hok
      rw [commandTlm, if_pos hwire]
      have hlog : (handle L now w .requestFaultLog).2.data.faultLogTlm = log := by
        simp only [handle, requestFaultLogCmd, if_pos hok, hout, Option.getD_some]
        rfl
      rw [hlog]
      exact hdrawn ⟨.command .requestFaultLog, w.data, _⟩ fun F hid hF =>
        ⟨hid, Frame.logs_of_parse hF⟩
    · have hwire : ¬WireOk L w .requestFaultLog := hfail
      rw [commandTlm, if_neg hwire]
      exact .nil new
  | mainThrusterFire p =>
    cases hc
    by_cases hfired : w.data.currentState = .armed ∧ WireOk L w (.mainThrusterFire p)
    · obtain ⟨harmed, hwire⟩ := hfired
      have hok : (Cmd.mainThrusterFire L p.durationMs (some default) w.line).1 = cmdOk := hwire
      have hresult : (handle L now w (.mainThrusterFire p)).2.data.fireResultTlm =
          (Cmd.mainThrusterFire L p.durationMs (some default) w.line).2.1.getD default := by
        simp [handle, mainThrusterFireCmd, isArmed, harmed, hok]
      rw [commandTlm, if_pos ⟨harmed, hwire⟩, hresult]
      exact fireResult_from hok h
    · rw [commandTlm, if_neg hfired]
      exact .nil new
  | _ => exact .nil new

/-- A handler that its state check holds back publishes nothing. -/
theorem commandTlm_of_not_permitted (now : SysTime) {w : World σ} {c : GroundCommand}
    (h : ¬Permitted w.data.currentState c) : commandTlm L now w c = [] := by
  cases c <;> simp only [Permitted, not_true_eq_false] at h <;> simp [commandTlm, h]

/-! ## What a step publishes -/

variable (L) in
/-- The packets published by a step. -/
def publications (i : Input) (w : World σ) : List Publication :=
  (activity cfe i w).elim [] fun x => (published cfe L i w).map (Publication.mk x w.data)

variable (L) in
/-- The packets published by a run up to a time. -/
def publicationsUpTo (a : ℕ → Input) (ρ : ℕ → World σ) (n : ℕ) : List Publication :=
  (List.range n).flatMap fun k => publications cfe L (a k) (ρ k)

theorem publicationsUpTo_succ (a : ℕ → Input) (ρ : ℕ → World σ) (n : ℕ) :
    publicationsUpTo cfe L a ρ (n + 1) =
      publicationsUpTo cfe L a ρ n ++ publications cfe L (a n) (ρ n) := by
  rw [publicationsUpTo, List.range_succ, List.flatMap_append, List.flatMap_singleton]
  rfl

section

variable {cfe} {i : Input} {w : World σ} {x : Activity} {ts : List Tlm}

theorem publications_of_none (ha : activity cfe i w = none) : publications cfe L i w = [] := by
  rw [publications, ha]
  rfl

theorem publications_eq (ha : activity cfe i w = some x)
    (h : (step cfe L i w).tlm = w.tlm ++ ts) :
    publications cfe L i w = ts.map (Publication.mk x w.data) := by
  rw [publications, ha, Option.elim_some, published_eq h]

theorem map_tlm_mk (d : Data) (ts : List Tlm) :
    (ts.map (Publication.mk x d)).map Publication.tlm = ts := by
  rw [List.map_map]
  exact List.map_id ts

end

/-- A handler leaves the fault log that it has published, or the one that was there. -/
theorem handle_faultLog (now : SysTime) (w : World σ) (c : GroundCommand) :
    (handle L now w c).2.data.faultLogTlm =
      (commandTlm L now w c).foldl Tlm.logAfter w.data.faultLogTlm := by
  cases c with
  | requestFaultLog =>
    rw [commandTlm]
    split_ifs with hwire
    · rfl
    · -- The parser writes nothing if it fails.
      have hfail : (Cmd.requestFaultLog L (some w.data.faultLogTlm) w.line).1 ≠ cmdOk := hwire
      obtain ⟨_, -, -, hok⟩ | ⟨-, hout, -⟩ :=
        requestFaultLog_cases L w.data.faultLogTlm w.line
      · exact absurd hok hfail
      · simp only [handle, requestFaultLogCmd, if_neg hfail, hout, Option.getD_some]
        rfl
  | requestHKData | requestStatus | mainThrusterFire p =>
    -- Another packet leaves the fault log, as does the handler.
    simp only [commandTlm, handle, requestHKDataCmd, requestStatusCmd, mainThrusterFireCmd]
    split_ifs <;> rfl
  | _ =>
    simp only [handle, commandTlm, List.foldl_nil, noopCmd, resetCounterCmd, pingCmd,
      resetModuleCmd, setModeCmd, armPropulsionCmd, disarmPropulsionCmd, mainThrusterAbortCmd,
      cgThrusterPulseCmd, cgThrusterBurstCmd, cgFireCmd, cgThrusterAbortCmd, clearFaultCmd]
    repeat' split_ifs
    all_goals rfl

/-- A wakeup publishes no fault log, and leaves the one that is there. -/
theorem wakeupHandler_faultLog (now : SysTime) (w : World σ) : ∃ ts,
    (wakeupHandler cfe L now w).tlm = w.tlm ++ ts ∧
      (wakeupHandler cfe L now w).data.faultLogTlm =
        ts.foldl Tlm.logAfter w.data.faultLogTlm := by
  have hpoll : ∃ ts, (pollHK L w).tlm = w.tlm ++ ts ∧
      (pollHK L w).data.faultLogTlm = ts.foldl Tlm.logAfter w.data.faultLogTlm := by
    by_cases hok : (Cmd.requestHKData L (some w.data.lastHK) w.line).1 = cmdOk
    · refine ⟨[.hk (pollHK L w).data.hkTlm], ?_⟩
      simp only [pollHK, if_pos hok]
      split_ifs <;> exact ⟨rfl, rfl⟩
    · refine ⟨[], ?_⟩
      simp only [pollHK, if_neg hok]
      exact ⟨(List.append_nil _).symm, rfl⟩
  have hcheck (v : World σ) :
      (checkArmedTimeout cfe L now v).data.faultLogTlm = v.data.faultLogTlm := by
    simp only [checkArmedTimeout]
    split_ifs <;> rfl
  obtain ⟨ts, htlm, hlog⟩ := hpoll
  rw [wakeupHandler]
  split_ifs
  · exact ⟨[], (List.append_nil _).symm, rfl⟩
  · exact ⟨[], (List.append_nil _).symm, rfl⟩
  · exact ⟨ts, (checkArmedTimeout_quiet cfe L now _).1.trans htlm, (hcheck _).trans hlog⟩

/-- After a step, the fault log is the one published last. -/
theorem step_faultLog (i : Input) (w : World σ) :
    (step cfe L i w).data.faultLogTlm =
      ((publications cfe L i w).map Publication.tlm).foldl Tlm.logAfter w.data.faultLogTlm := by
  rcases ha : activity cfe i w with - | (c | -)
  · obtain ⟨n, r, hdata⟩ := (step_of_none cfe L ha).data
    rw [hdata, publications_of_none ha]
    rfl
  · have htlm : (step cfe L i w).tlm = w.tlm ++ commandTlm L i.now w c := by
      rw [step_of_activity cfe L ha]
      exact handle_tlm L i.now w c
    rw [publications_eq ha htlm, map_tlm_mk, step_of_activity cfe L ha]
    exact handle_faultLog i.now w c
  · obtain ⟨ts, htlm, hlog⟩ := wakeupHandler_faultLog cfe (L := L) i.now w
    have htlm' : (step cfe L i w).tlm = w.tlm ++ ts := by
      rw [step_of_activity cfe L ha]
      exact htlm
    rw [publications_eq ha htlm', map_tlm_mk, step_of_activity cfe L ha]
    exact hlog

/-! ## The steps -/

section

variable {T : Tap σ} (hL : L.Wired T) {w : World σ} (hs : T.ready w.line.link)

include hL hs

/-- A handler writes its telecommand, and publishes what it receives in reply. -/
theorem handle_passes (now : SysTime) (c : GroundCommand) : ∃ out new,
    T.Passes w.line (handle L now w c).2.line out new ∧
      Drawn Publication.From
        ((commandTlm L now w c).map (Publication.mk (.command c) w.data)) new := by
  by_cases hp : Permitted w.data.currentState c
  swap
  · rw [handle_line_of_not_permitted L now hp, commandTlm_of_not_permitted now hp]
    exact ⟨[], [], .refl hs, .nil []⟩
  rw [handle_line L now hp, wireCall]
  rcases hc : wireCommand w.data c with - | call
  · -- Only Noop and Reset Counter do not call the payload.
    refine ⟨[], [], .refl hs, ?_⟩
    cases c <;> cases hc <;> exact .nil []
  · have hnull : ¬call.IsNullRequest := by
      cases c <;> cases hc <;> simp [Call.IsNullRequest]
    obtain ⟨count, new, hpasses, hdrawn⟩ := Call.run_passes hL hs hnull
    exact ⟨_, new, hpasses, commandTlm_from now hc hdrawn⟩

/-- So does the polling. -/
theorem pollHK_passes : ∃ out new ts, T.Passes w.line (pollHK L w).line out new ∧
    (pollHK L w).tlm = w.tlm ++ ts ∧
      Drawn Publication.From (ts.map (Publication.mk .wakeup w.data)) new := by
  obtain ⟨count, new, hpasses, hdrawn⟩ :=
    Call.run_passes hL hs (c := pollCall w) (Option.some_ne_none _)
  obtain ⟨ts, htlm, hts⟩ := pollHK_from hdrawn
  have hline : (pollHK L w).line = ((pollCall w).run L w.line).2 := by
    simp only [pollHK]
    split_ifs <;> rfl
  exact ⟨_, new, ts, hline ▸ hpasses, htlm, hts⟩

/-- The supervision of ARMED may write a Set Mode, and publishes nothing. -/
theorem checkArmedTimeout_passes (now : SysTime) : ∃ out new,
    T.Passes w.line (checkArmedTimeout cfe L now w).line out new := by
  obtain ⟨count, new, hpasses, -⟩ := Call.run_passes hL hs (c := .setMode modeStandby) id
  simp only [checkArmedTimeout]
  split_ifs
  · exact ⟨_, new, hpasses⟩
  · exact ⟨[], [], .refl hs⟩
  · exact ⟨[], [], .refl hs⟩

theorem wakeupHandler_passes (now : SysTime) : ∃ out new ts,
    T.Passes w.line (wakeupHandler cfe L now w).line out new ∧
      (wakeupHandler cfe L now w).tlm = w.tlm ++ ts ∧
      Drawn Publication.From (ts.map (Publication.mk .wakeup w.data)) new := by
  obtain ⟨out, new, ts, hpasses, htlm, hdrawn⟩ := pollHK_passes hL hs
  obtain ⟨out', new', hpasses'⟩ := checkArmedTimeout_passes cfe hL hpasses.ready now
  rw [wakeupHandler]
  split_ifs
  · exact ⟨[], [], [], .refl hs, (List.append_nil _).symm, .nil []⟩
  · exact ⟨[], [], [], .refl hs, (List.append_nil _).symm, .nil []⟩
  · -- What is received in answer to the Set Mode is not used.
    exact ⟨_, _, ts, hpasses.trans hpasses', (checkArmedTimeout_quiet cfe L now _).1.trans htlm,
      hdrawn.extend new'⟩

/-- A step writes some frames, and publishes what it receives meanwhile. -/
theorem step_passes (i : Input) : ∃ out new, T.Passes w.line (step cfe L i w).line out new ∧
    (step cfe L i w).tlm = w.tlm ++ (publications cfe L i w).map Publication.tlm ∧
      Drawn Publication.From (publications cfe L i w) new := by
  rcases ha : activity cfe i w with - | (c | -)
  · have hidle := step_of_none cfe L ha
    rw [hidle.line, hidle.tlm, publications_of_none ha]
    exact ⟨[], [], .refl hs, (List.append_nil _).symm, .nil []⟩
  · obtain ⟨out, new, hpasses, hdrawn⟩ := handle_passes hL hs i.now c
    have htlm : (step cfe L i w).tlm = w.tlm ++ commandTlm L i.now w c := by
      rw [step_of_activity cfe L ha]
      exact handle_tlm L i.now w c
    rw [publications_eq ha htlm, map_tlm_mk]
    refine ⟨out, new, ?_, htlm, hdrawn⟩
    rw [step_of_activity cfe L ha]
    exact hpasses
  · obtain ⟨out, new, ts, hpasses, htlm, hdrawn⟩ := wakeupHandler_passes cfe hL hs i.now
    have htlm' : (step cfe L i w).tlm = w.tlm ++ ts := by
      rw [step_of_activity cfe L ha]
      exact htlm
    rw [publications_eq ha htlm', map_tlm_mk]
    refine ⟨out, new, ?_, htlm', hdrawn⟩
    rw [step_of_activity cfe L ha]
    exact hpasses

end

/-! ## The runs -/

/-- What was written, received and published between two worlds. -/
structure Traced (T : Tap σ) (w₀ w : World σ) (out : List Write) (new : List UInt8)
    (ps : List Publication) : Prop where
  sent : w.line.sent = w₀.line.sent ++ out.map Write.bytes
  tx : T.tx w.line.link = T.tx w₀.line.link ++ out
  rx : T.rx w.line.link = T.rx w₀.line.link ++ new
  tlm : w.tlm = w₀.tlm ++ ps.map Publication.tlm
  drawn : Drawn Publication.From ps new
  log : w.data.faultLogTlm = lastLog (ps.map Publication.tlm)
  ready : w.data.runStatus = .appRun → T.ready w.line.link

section

variable {T : Tap σ} (hL : L.Wired T)

include hL

/-- The start of the application writes and publishes nothing, and gets the link ready. -/
theorem start_traced (e : InitEnv) (w₀ : World σ) : Traced T w₀ (start L e w₀) [] [] [] := by
  have h : (init L e w₀).2.line.sent = w₀.line.sent ∧ (init L e w₀).2.tlm = w₀.tlm ∧
      (init L e w₀).2.data.faultLogTlm = default ∧
      T.tx (init L e w₀).2.line.link = T.tx w₀.line.link ∧
      T.rx (init L e w₀).2.line.link = T.rx w₀.line.link ∧
      ((init L e w₀).1 = .success → T.ready (init L e w₀).2.line.link) := by
    simp only [init]
    split_ifs with hevs hpipe hcmd hwakeup hhal
    · exact ⟨rfl, rfl, rfl, rfl, rfl, fun h => absurd h hevs⟩
    · exact ⟨rfl, rfl, rfl, rfl, rfl, fun h => absurd h hpipe⟩
    · exact ⟨rfl, rfl, rfl, rfl, rfl, fun h => absurd h hcmd⟩
    · exact ⟨rfl, rfl, rfl, rfl, rfl, fun h => absurd h hwakeup⟩
    · exact ⟨rfl, rfl, rfl, hL.init_tx _, hL.init_rx _, fun h => h.elim⟩
    · exact ⟨rfl, rfl, rfl, hL.init_tx _, hL.init_rx _, fun _ => hL.init (not_not.1 hhal)⟩
  obtain ⟨hsent, htlm, hlog, htx, hrx, hready⟩ := h
  by_cases hsuccess : (init L e w₀).1 = .success
  · rw [start, if_neg (not_not.2 hsuccess)]
    exact ⟨by simp [hsent], by simp [htx], by simp [hrx], by simp [htlm], .nil [], hlog,
      fun _ => hready hsuccess⟩
  · rw [start, if_pos hsuccess]
    exact ⟨by simp [hsent], by simp [htx], by simp [hrx], by simp [htlm], .nil [], hlog,
      fun h => absurd h (show RunStatus.appError ≠ .appRun by decide)⟩

theorem Traced.step (cfe : Cfe) {w₀ w : World σ} {out : List Write} {new : List UInt8}
    {ps : List Publication} (h : Traced T w₀ w out new ps) (i : Input) :
    ∃ out' new', Traced T w₀ (App.step cfe L i w) out' new' (ps ++ publications cfe L i w) := by
  have hlog : (App.step cfe L i w).data.faultLogTlm =
      lastLog ((ps ++ publications cfe L i w).map Publication.tlm) := by
    rw [step_faultLog, h.log, lastLog, lastLog, List.map_append, List.foldl_append]
  by_cases hr : w.data.runStatus = .appRun
  · obtain ⟨out', new', hpasses, htlm, hdrawn⟩ := step_passes cfe hL (h.ready hr) i
    refine ⟨out ++ out', new ++ new', ?_, ?_, ?_, ?_, h.drawn.append hdrawn, hlog,
      fun _ => hpasses.ready⟩
    · rw [hpasses.sent, h.sent, List.map_append, List.append_assoc]
    · rw [hpasses.tx, h.tx, List.append_assoc]
    · rw [hpasses.rx, h.rx, List.append_assoc]
    · rw [htlm, h.tlm, List.map_append, List.append_assoc]
  · -- The loop has ended.
    have hnone : publications cfe L i w = [] := publications_of_none (if_pos hr)
    rw [App.step, if_pos hr, hnone, List.append_nil]
    exact ⟨out, new, h⟩

theorem run_traced {e : InitEnv} {w₀ : World σ} {a : ℕ → Input} {ρ : ℕ → World σ}
    (hρ : IsRun {start L e w₀} (step cfe L) a ρ) (n : ℕ) :
    ∃ out new, Traced T w₀ (ρ n) out new (publicationsUpTo cfe L a ρ n) := by
  refine hρ.invariant
    (P := fun n => ∃ out new, Traced T w₀ (ρ n) out new (publicationsUpTo cfe L a ρ n)) ?_ ?_ n
  · exact ⟨[], [], Set.mem_singleton_iff.1 hρ.init ▸ start_traced hL e w₀⟩
  · rintro k hk ⟨out, new, h⟩
    rw [hk, publicationsUpTo_succ]
    exact h.step hL cfe (a k)

end

/-! ## The serial line -/

section

variable {δ : Type*}

/-- The world with a tap on its line, that has seen nothing yet. -/
def tappedWorld (w : World (Hal.State δ)) : World (Hal.State (δ × List Traffic)) :=
  ⟨w.data, ⟨w.line.txBuf, w.line.sent, ⟨w.line.link.initialized, (w.line.link.drv, []),
    w.line.link.reads⟩⟩, w.tlm, w.evs⟩

end

end App

end Ig4u
