import Ig4u.App.Control
import Ig4u.App.Provenance

/-!
# What is on the wire

What the application puts on the serial line. Every telecommand of the control machine is given to
one write of the driver, and nothing else is. As long as no write is cut short, the bytes on the
line are those of the telecommands, and can be divided into frames in no other way.

* `Frame.prefixFree`: the frames are a prefix code.
* `uplink`: in every run, the payload can tell the telecommands from the bytes, up to the first
  write that is cut short.
-/

namespace Ig4u

open Lib Proto Cmd

/-- A frame is the one at the start of its bytes, whatever follows them. -/
theorem Frame.frameOf_bytes (F : Frame) (rest : List UInt8)
    (h : lengthOf (F.bytes ++ rest) ≤ packetMaxPayload) : frameOf (F.bytes ++ rest) h = F := by
  have hlen : lengthOf (F.bytes ++ rest) = F.payload.length := F.length_field rest
  have hpayload : (frameOf (F.bytes ++ rest) h).payload = F.payload := by
    show ((F.bytes ++ rest).drop offsetPayload).take (lengthOf (F.bytes ++ rest)) = F.payload
    rw [hlen, F.payload_bytes]
  have hcrc : (frameOf (F.bytes ++ rest) h).crc = F.crc := by
    show crcFieldOf (F.bytes ++ rest) = F.crc
    rw [crcFieldOf, hlen, F.crc_field]
  exact Frame.ext rfl rfl rfl hpayload hcrc

/-- The frames are a prefix code: the length field tells where one ends. -/
theorem Frame.prefixFree : PrefixFree Frame.bytes := by
  intro F F' l m heq
  have hle (G : Frame) (rest : List UInt8) : lengthOf (G.bytes ++ rest) ≤ packetMaxPayload :=
    (G.length_field rest).trans_le G.length_le
  -- Both are the frame that the decoder finds at the start of the same bytes.
  rw [← F.frameOf_bytes l (hle F l), ← F'.frameOf_bytes m (hle F' m)]
  congr 1

/-- No frame is empty. -/
theorem Frame.bytes_ne_nil (F : Frame) : F.bytes ≠ [] :=
  List.ne_nil_of_length_pos (F.length_bytes ▸ Nat.add_pos_left (by decide) _)

/-- Some frames, and their bytes, determine each other. -/
theorem Frame.flatMap_bytes_inj {frames frames' : List Frame} :
    frames.flatMap Frame.bytes = frames'.flatMap Frame.bytes ↔ frames = frames' :=
  (Frame.prefixFree.flatMap_injective Frame.bytes_ne_nil).eq_iff

/-- Every telecommand has the CRC of its bytes. -/
theorem Call.valid_telecommand (c : Call) : c.telecommand.Valid := by
  cases c <;> exact Frame.valid_sealed

namespace App

variable (cfe : Cfe)

/-- The control machine only sends telecommands of the calls. -/
theorem frames_telecommand {m : Control} {now : SysTime} {x : Signal} {F : Frame}
    (hF : F ∈ m.frames cfe now x) : ∃ c : Call, F = c.telecommand := by
  by_cases hr : m.run = .appRun
  swap
  · have hnone : m.frames cfe now x = [] := if_pos hr
    rw [hnone] at hF
    cases hF
  have hframes (x : Signal) : m.frames cfe now x = _ := if_neg (not_not.2 hr)
  rw [hframes] at hF
  cases x with
  | command c ok mode =>
    have hF' : F ∈ if Permitted m.state c then c.frame.toList else [] := hF
    split_ifs at hF'
    · obtain ⟨call, -, rfl⟩ := Option.map_eq_some_iff.1 (Option.mem_toList.1 hF')
      exact ⟨call, rfl⟩
    · cases hF'
  | wakeup ok =>
    have hF' : F ∈ if m.awake then (Call.requestHKData none).telecommand ::
        if m.overdue cfe now then [(Call.setMode modeStandby).telecommand] else [] else [] := hF
    split_ifs at hF'
    · rcases List.mem_pair.1 hF' with rfl | rfl <;> exact ⟨_, rfl⟩
    · exact ⟨_, List.mem_singleton.1 hF'⟩
    · cases hF'
  | _ => cases hF

variable {δ : Type*}

/-- In any run over any driver that counts its bytes, every frame of the control machine is given to
    one write, and nothing else is; these frames are valid telecommands. The line starts with the
    bytes of the frames before the first write that is cut short, and with those of no other frames
    of the same number. If no write is cut short, it has the bytes of the frames and nothing else,
    and can be divided into frames in no other way. -/
theorem uplink {d : Srl δ} (hd : d.Counts) {e : InitEnv} {w₀ : World (Hal.State δ)}
    {a : ℕ → Input} {ρ : ℕ → World (Hal.State (δ × List Traffic))}
    (hρ : IsRun {start (Hal.link d.tapped) e (tappedWorld w₀)} (step cfe (Hal.link d.tapped)) a ρ)
    (n : ℕ) :
    let frames := Control.sent cfe (signals cfe (Hal.link d.tapped) a ρ) (fun n => (ρ n).control) n
    let log := (ρ n).line.link.drv.2
    (Traffic.writes log).map Write.bytes = frames.map Frame.bytes ∧
      (∀ F ∈ frames, F.Valid ∧ ∃ c : Call, F = c.telecommand) ∧
      (∀ k, (∀ w ∈ (Traffic.writes log).take k, w.Whole) →
        (frames.take k).flatMap Frame.bytes <+: Traffic.written log ∧
        ∀ frames' : List Frame, frames'.length = (frames.take k).length →
          frames'.flatMap Frame.bytes <+: Traffic.written log → frames' = frames.take k) ∧
      ((∀ w ∈ Traffic.writes log, w.Whole) →
        Traffic.written log = frames.flatMap Frame.bytes ∧
        ∀ frames' : List Frame, frames'.flatMap Frame.bytes = Traffic.written log →
          frames' = frames) := by
  intro frames log
  obtain ⟨out, new, h⟩ := run_traced cfe (hal_wired hd) hρ n
  have hinit : ρ 0 ∈ initial (Hal.link d.tapped) :=
    ⟨e, tappedWorld w₀, Set.mem_singleton_iff.1 hρ.init⟩
  have hsent := sent_run cfe (Hal.link d.tapped) ⟨hinit, hρ.step⟩ n
  have hstart : (ρ 0).line.sent = (tappedWorld w₀).line.sent := by
    rw [Set.mem_singleton_iff.1 hρ.init, (start_traced (hal_wired hd) e _).sent, List.map_nil,
      List.append_nil]
  rw [hstart, h.sent, List.append_cancel_left_eq] at hsent
  have hwrites : (Traffic.writes log).map Write.bytes = frames.map Frame.bytes := by
    have htx : Traffic.writes log = out := h.tx
    rw [htx, hsent]
  -- What the first writes put on the line, if they are whole.
  have hwhole {k : ℕ} (hk : ∀ w ∈ (Traffic.writes log).take k, w.Whole) :
      ((Traffic.writes log).take k).flatMap Write.onLine = (frames.take k).flatMap Frame.bytes := by
    rw [Write.flatMap_onLine hk, List.map_take, hwrites, ← List.map_take, ← List.flatMap_def]
  refine ⟨hwrites, fun F hF => ?_, fun k hk => ?_, fun hall => ?_⟩
  · obtain ⟨k, -, hk⟩ := List.mem_flatMap.1 hF
    obtain ⟨c, rfl⟩ := frames_telecommand cfe hk
    exact ⟨c.valid_telecommand, c, rfl⟩
  · have hfirst : (frames.take k).flatMap Frame.bytes <+: Traffic.written log := by
      refine ⟨((Traffic.writes log).drop k).flatMap Write.onLine, ?_⟩
      rw [← hwhole hk, ← List.flatMap_append, List.take_append_drop]
      rfl
    exact ⟨hfirst, fun frames' hlen h' =>
      Frame.prefixFree.eq_of_flatMap_prefix hlen h' hfirst⟩
  · have hwritten : Traffic.written log = frames.flatMap Frame.bytes := by
      rw [Traffic.written, Write.flatMap_onLine hall, hwrites, ← List.flatMap_def]
    exact ⟨hwritten, fun frames' heq => Frame.flatMap_bytes_inj.1 (heq.trans hwritten)⟩

/-- A Request Status and the polling of a wakeup, on the wire. -/
theorem uplink_status :
    let line := answer WireMsgid.replyStatus [4, 0, 1, 0, 5] (by decide)
    let a := inputs [⟨seconds 0, .ok (command Cc.requestStatus)⟩] ⟨seconds 1, .ok wakeupMsg⟩
    let L := Hal.link (Hal.fifo .success).tapped
    let ρ := along (step Cfe.standard L) a (start L .ok (tappedWorld (beforeStart line)))
    ∀ frames : List Frame, frames.flatMap Frame.bytes = Traffic.written (ρ 2).line.link.drv.2 →
      frames = [(Call.requestStatus none).telecommand, (Call.requestHKData none).telecommand] := by
  intro line a L ρ frames h
  have hρ : IsRun {start L .ok (tappedWorld (beforeStart line))} (step Cfe.standard L) a ρ :=
    .of_along (Set.mem_singleton _) a
  have hall : ∀ w ∈ Traffic.writes (ρ 2).line.link.drv.2, w.Whole := by decide +kernel
  rw [((uplink Cfe.standard (Hal.fifo_counts .success) hρ 2).2.2.2 hall).2 frames h]
  decide +kernel

end App

end Ig4u
