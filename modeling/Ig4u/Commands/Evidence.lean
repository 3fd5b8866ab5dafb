import Ig4u.Commands.Simulation
import Ig4u.Hal.Traffic
import Ig4u.Lib.Stream

/-!
# What a call leaves on the line

A `Tap` tells what a link has written and received so far. A link is *wired* to it if a telecommand
handed over is given to one write as it is, and if what is delivered lies within the bytes received
during the call (`Link.Wired`). The HAL is, over any driver that counts its bytes (`hal_wired`).

* `Tap.Passes`: the writes and the bytes received from one line to another.
* `Call.run_passes`: a call writes its telecommand, and the packets it takes are drawn from the
  bytes received during the call: each is in a valid frame, and no two frames overlap.
-/

namespace Ig4u

open Lib Proto

/-- The packet in a frame. -/
def Frame.packet (F : Frame) : Packet := ⟨F.msgType, F.msgId, F.payload, F.payload.length⟩

/-- The packet is the one in a valid frame with these bytes. -/
def Packet.From (P : Packet) (block : List UInt8) : Prop :=
  ∃ F : Frame, F.Valid ∧ F.bytes = block ∧ P.Same F.packet

/-- What can be told of a link from outside. -/
structure Tap (σ : Type*) where
  ready : σ → Prop
  /-- The writes so far. -/
  tx : σ → List Write
  /-- The bytes received so far. -/
  rx : σ → List UInt8

variable {σ : Type*}

/-- The link, once ready, writes what it is given, and delivers what it receives. -/
structure Link.Wired (L : Link σ) (T : Tap σ) : Prop where
  init : ∀ {s}, (L.init s).1 = halOk → T.ready (L.init s).2
  init_tx : ∀ s, T.tx (L.init s).2 = T.tx s
  init_rx : ∀ s, T.rx (L.init s).2 = T.rx s
  send : ∀ {s} (F : Frame) (rest : List UInt8), T.ready s →
    let r := L.send (F.bytes ++ rest) F.bytes.length s
    T.ready r.2 ∧ (∃ count, T.tx r.2 = T.tx s ++ [⟨F.bytes, count⟩]) ∧ T.rx r.2 = T.rx s
  recv : ∀ {s}, T.ready s →
    let r := L.recv (List.replicate packetMaxTotal 0) packetMaxTotal uartTimeoutMs s
    T.ready r.2.2 ∧ T.tx r.2.2 = T.tx s ∧ ∃ new, T.rx r.2.2 = T.rx s ++ new ∧
      (0 < r.1 → r.1.toNat ≤ r.2.1.length ∧ r.2.1.take r.1.toNat <:+: new)

/-- From the line `s` to the line `s'`, the writes `out` are made and the bytes `new` received.
    Every frame handed over is one write. -/
structure Tap.Passes (T : Tap σ) (s s' : Line σ) (out : List Write) (new : List UInt8) :
    Prop where
  ready : T.ready s'.link
  sent : s'.sent = s.sent ++ out.map Write.bytes
  tx : T.tx s'.link = T.tx s.link ++ out
  rx : T.rx s'.link = T.rx s.link ++ new

namespace Tap.Passes

variable {T : Tap σ} {s s' s'' : Line σ} {out out' : List Write} {new new' : List UInt8}

/-- Nothing passes. -/
theorem refl (h : T.ready s.link) : T.Passes s s [] [] :=
  ⟨h, by simp, by simp, by simp⟩

/-- What passes first, and then. -/
theorem trans (h : T.Passes s s' out new) (h' : T.Passes s' s'' out' new') :
    T.Passes s s'' (out ++ out') (new ++ new') where
  ready := h'.ready
  sent := by rw [h'.sent, h.sent, List.map_append, List.append_assoc]
  tx := by rw [h'.tx, h.tx, List.append_assoc]
  rx := by rw [h'.rx, h.rx, List.append_assoc]

end Tap.Passes

namespace Cmd

variable {L : Link σ} {T : Tap σ} (hL : L.Wired T) {s : Line σ} (hs : T.ready s.link)

include hL hs

/-- A telecommand handed over is written. -/
theorem handOver_passes (F : Frame) :
    ∃ count, T.Passes s (handOver L F s).2 [⟨F.bytes, count⟩] [] := by
  obtain ⟨hready, ⟨count, htx⟩, hrx⟩ := hL.send F (s.txBuf.drop F.bytes.length) hs
  exact ⟨count, hready, rfl, htx, hrx.trans (List.append_nil _).symm⟩

/-- A packet received is in a valid frame among the bytes received. -/
theorem afterRecv_passes : ∃ new, T.Passes s (afterRecv L s) [] new ∧
    ∀ P, received L s = some P → Drawn Packet.From [P] new := by
  obtain ⟨hready, htx, new, hrx, hpos⟩ := hL.recv hs
  refine ⟨new, ⟨hready, (List.append_nil _).symm, htx.trans (by simp), hrx⟩, fun P hP => ?_⟩
  simp only [received] at hP
  rw [← delivery] at hpos
  split_ifs at hP with h
  obtain ⟨hp, hwell⟩ := h
  obtain ⟨hle, hinfix⟩ := hpos hp
  have hbytes := bytes_frameOf hle hwell
  have hlen := length_payload_frameOf hle hwell
  have hwhole := hwell.whole
  simp only [packetOverheadBytes] at hwhole
  cases hP
  -- The decoder accepts exactly a frame, the bytes of which are at the start of the delivery.
  refine .of_within
    ⟨frameOf _ hwell.range, valid_frameOf hle hwell, rfl, rfl, hlen.symm, ?_, ?_, hlen.ge⟩ ?_
  · rw [Frame.packet, ← hlen, List.take_length, hlen]
    rfl
  · simp only [List.length_drop, offsetPayload]
    omega
  · rw [hbytes]
    exact (List.take_prefix_take_left hwell.whole).isInfix.trans hinfix

/-- So are the packets received one after the other, in frames that do not overlap. -/
theorem receiveAll_passes (es : List Expected) : ∃ new, T.Passes s (receiveAll L es s).2 [] new ∧
    ∀ Ps, replies L es s = some Ps → Drawn Packet.From Ps new := by
  -- The induction is on the packets expected; what the first receive leaves unused is skipped.
  induction es generalizing s with
  | nil =>
    refine ⟨[], .refl hs, fun Ps hPs => ?_⟩
    cases hPs
    exact .nil []
  | cons e es ih =>
    obtain ⟨new, hpasses, hdrawn⟩ := afterRecv_passes hL hs
    by_cases hv : verdict L e s = cmdOk
    · obtain ⟨P, hP, ha⟩ := verdict_ok_iff.1 hv
      obtain ⟨new', hpasses', hdrawn'⟩ := ih hpasses.ready
      rw [receiveAll_cons hv, replies_cons hP ha]
      refine ⟨new ++ new', hpasses.trans hpasses', fun Ps hPs => ?_⟩
      obtain ⟨Ps', hPs', rfl⟩ := Option.map_eq_some_iff.1 hPs
      exact (hdrawn P hP).append (hdrawn' Ps' hPs')
    · rw [receiveAll_cons_fail hv]
      refine ⟨new, hpasses, fun Ps hPs => ?_⟩
      rw [replies_cons_none fun P hP ha => hv (verdict_ok_iff.2 ⟨P, hP, ha⟩)] at hPs
      cases hPs

/-- A conversation writes its telecommand, and then only receives. -/
theorem converse_passes (F : Frame) (es : List Expected) :
    ∃ count new, T.Passes s (converse L F es s).2 [⟨F.bytes, count⟩] new ∧
      ∀ Ps, exchange L F es s = some Ps → Drawn Packet.From Ps new := by
  obtain ⟨count, hsent⟩ := handOver_passes hL hs F
  rw [converse, exchange]
  split_ifs with hok
  · obtain ⟨new, hpasses, hdrawn⟩ := receiveAll_passes hL hsent.ready es
    exact ⟨count, new, hsent.trans hpasses, hdrawn⟩
  · exact ⟨count, [], hsent, fun Ps hPs => by cases hPs⟩

end Cmd

/-- A call writes its telecommand, and the packets it takes are drawn from what is received. -/
theorem Call.run_passes {L : Link σ} {T : Tap σ} (hL : L.Wired T) {s : Line σ}
    (hs : T.ready s.link) {c : Call} (hc : ¬c.IsNullRequest) :
    ∃ count new, T.Passes s (c.run L s).2 [⟨c.telecommand.bytes, count⟩] new ∧
      ∀ Ps, c.exchange L s = some Ps → Drawn Packet.From Ps new := by
  rw [run_converse L hc]
  exact Cmd.converse_passes hL hs _ _

/-! ## The HAL -/

/-- The tap on the line of the HAL. -/
def Hal.tap (δ : Type*) : Tap (Hal.State (δ × List Traffic)) where
  ready s := s.initialized
  tx s := Traffic.writes s.drv.2
  rx s := Traffic.received s.drv.2

/-- Over a driver that counts its bytes, the HAL is wired to the tap. -/
theorem hal_wired {δ : Type*} {d : Srl δ} (hd : d.Counts) :
    (Hal.link d.tapped).Wired (Hal.tap δ) where
  init := by
    intro s h
    simp only [Hal.link, Hal.tap, Hal.init] at h ⊢
    split_ifs at h ⊢ with hs hget hconf
    · exact hs
    · exact absurd h (show halErrInit ≠ halOk by decide)
    · exact absurd h (show halErrInit ≠ halOk by decide)
    · rfl
  init_tx s := congrArg Traffic.writes (Hal.init_tapped d s).2.2
  init_rx s := congrArg Traffic.received (Hal.init_tapped d s).2.2
  send := by
    intro s F rest hs
    have hs' : s.initialized = true := hs
    have hlen : F.bytes.length ≠ 0 := by
      rw [F.length_bytes, packetOverheadBytes]
      omega
    obtain ⟨-, -, hinit, hlog⟩ := Hal.send_tapped d (b := F.bytes ++ rest) hlen s
    rw [if_pos hs', List.take_left] at hlog
    refine ⟨hinit.trans hs', ⟨(d.apiWrite F.bytes uartTimeoutMs s.drv.1).1.2, ?_⟩, ?_⟩
    · exact (congrArg Traffic.writes hlog).trans (Traffic.writes_append _ _)
    · exact (congrArg Traffic.received hlog).trans
        (by simp [Hal.tap, Traffic.received, Traffic.bytesRead])
  recv := by
    intro s hs
    obtain ⟨-, -, -, hlog⟩ := Hal.recv_tapped d (some (List.replicate packetMaxTotal 0))
      packetMaxTotal uartTimeoutMs s
    have hsize : packetMaxTotal ≤ (List.replicate packetMaxTotal (0 : UInt8)).length :=
      List.length_replicate.ge
    have htail := Hal.recv_tail hd hsize uartTimeoutMs s
    have hwrites := hlog.writes
    obtain ⟨new, hnew, -⟩ := hlog
    refine ⟨(Hal.recv_initialized _ _ _ _ s).trans hs, hwrites, Traffic.received new, ?_, ?_⟩
    · exact (congrArg Traffic.received hnew).trans (Traffic.received_append _ _)
    · -- What is delivered are the last bytes read during this call.
      intro hpos
      obtain ⟨b, hb, hle, new', hnew', hsuffix⟩ := htail hpos
      rw [hnew, List.append_cancel_left_eq] at hnew'
      obtain rfl := hnew'
      simp only [Hal.link, hb, Option.getD_some]
      exact ⟨hle, hsuffix.isInfix⟩

end Ig4u
