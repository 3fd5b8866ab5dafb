import Ig4u.Channel.Basic
import Ig4u.Commands.Simulation
import Ig4u.Hal.Peer

/-!
# The HAL as a channel of frames

The HAL over the line to a payload implements the channel of frames if every frame on the line is
followed by two bytes of filling: the two bytes that the receiver takes too many. The frames must
also leave room for them in the receive buffer.

* `Carries`: the line carries the answers that the channel holds.
* `bisimulation`: the HAL and the channel are bisimilar by this relation.
-/

namespace Ig4u.Hal

open Lib Proto

/-- The payload as seen over a channel of frames, on which its answers arrive at once. -/
def Peer.channel (p : Peer) : Payload where
  sendCode n := if p.accepts n = .success then halOk else halErrSend
  answers := p.answers
  arrived _ := true

/-- The bytes to be read are those of the answers that have not been received, which all fit in
    the receive buffer with two bytes more. -/
structure Carries (fill : Frame → List UInt8) (s : State Wire) (c : Channel) : Prop where
  initialized : s.initialized = true
  writes : s.drv.writes = c.sends
  rx : s.drv.rx = filled fill (c.queue.map Answer.frame)
  fits : ∀ A ∈ c.queue, A.frame.payload.length + 11 ≤ packetMaxTotal

variable {short : CfeStatus} {fill : Frame → List UInt8} {p : Peer}

theorem filled_append (frames frames' : List Frame) :
    filled fill (frames ++ frames') = filled fill frames ++ filled fill frames' :=
  List.flatMap_append

variable {s : State Wire} {c : Channel}

/-- A frame handed over is written to the line, and its answers are pending afterwards. -/
theorem send_carries (hfits : ∀ n tc, ∀ F ∈ p.answers n tc, F.payload.length + 11 ≤ packetMaxTotal)
    (F : Frame) (rest : List UInt8) (h : Carries fill s c) :
    let r₁ := (Hal.link (p.srl short fill)).send (F.bytes ++ rest) F.bytes.length s
    let r₂ := (Channel.link p.channel).send (F.bytes ++ rest) F.bytes.length c
    (r₁.1 = halOk ↔ r₂.1 = halOk) ∧ Carries fill r₁.2 r₂.2 := by
  rcases s with ⟨init, ⟨writes, rx⟩, l⟩
  obtain ⟨rfl, rfl, rfl, hqueue⟩ := h
  have herr : ¬halErrSend = halOk := by decide
  have hmap (n : ℕ) (frames : List Frame) :
      (frames.map (Answer.mk n)).map Answer.frame = frames := by
    rw [List.map_map]
    exact List.map_id frames
  by_cases hacc : p.accepts c.sends = .success
  · simp only [Hal.link, Peer.send_eq, Channel.link, Peer.channel, List.take_left, hacc, if_true,
      true_and]
    refine ⟨rfl, rfl, ?_, fun A hA => ?_⟩
    · rw [List.map_append, filled_append, hmap]
    · rcases List.mem_append.1 hA with hA | hA
      · exact hqueue A hA
      · obtain ⟨G, hG, rfl⟩ := List.mem_map.1 hA
        exact hfits _ _ G hG
  · simp only [Hal.link, Peer.send_eq, Channel.link, Peer.channel, hacc, if_false, herr,
      List.append_nil, true_and]
    exact ⟨rfl, rfl, rfl, hqueue⟩

/-- A receive takes the oldest answer with its filling, if there is one. -/
theorem recv_carries (hfill : ∀ F, (fill F).length = 2) (h : Carries fill s c) :
    let r₁ := (Hal.link (p.srl short fill)).recv (List.replicate packetMaxTotal 0) packetMaxTotal
      uartTimeoutMs s
    let r₂ := (Channel.link p.channel).recv (List.replicate packetMaxTotal 0) packetMaxTotal
      uartTimeoutMs c
    Alike (r₁.1, r₁.2.1) (r₂.1, r₂.2.1) ∧ Carries fill r₁.2.2 r₂.2.2 := by
  rcases s with ⟨init, ⟨writes, rx⟩, l⟩
  obtain ⟨rfl, rfl, rfl, hqueue⟩ := h
  rcases hq : c.queue with - | ⟨A, queue⟩
  · have hrecv := recv_empty short (List.replicate packetMaxTotal 0) uartTimeoutMs l
      (show packetOverheadBytes ≤ packetMaxTotal by decide)
    simp only [Hal.link, Peer.recv_eq, Channel.link, hq, List.map_nil, filled, List.flatMap_nil,
      hrecv]
    exact ⟨.of_timeout (show halErrTimeout ≤ 0 by decide) (show halErrTimeout ≤ 0 by decide),
      rfl, rfl, rfl, fun A hA => absurd hA List.not_mem_nil⟩
  · rw [hq] at hqueue
    have hrest : 2 ≤ (fill A.frame ++ filled fill (queue.map Answer.frame)).length := by
      rw [List.length_append, hfill]
      omega
    have hrecv := recv_frame short A.frame (fill A.frame ++ filled fill (queue.map Answer.frame))
      (List.replicate packetMaxTotal 0) uartTimeoutMs l (hqueue A List.mem_cons_self) hrest
    have hdrop : (fill A.frame ++ filled fill (queue.map Answer.frame)).drop 2 =
        filled fill (queue.map Answer.frame) := List.drop_left' (hfill A.frame)
    have hfilled : filled fill (A.frame :: queue.map Answer.frame) =
        A.frame.bytes ++ (fill A.frame ++ filled fill (queue.map Answer.frame)) := by
      rw [filled, List.flatMap_cons, List.append_assoc]
      rfl
    have hlen := A.frame.length_bytes
    simp only [packetOverheadBytes] at hlen
    simp only [Hal.link, Peer.recv_eq, Channel.link, Peer.channel, hq, List.map_cons, hfilled,
      hrecv, hdrop, if_true, overwrite_zero, Option.getD_some, List.append_assoc]
    exact ⟨.of_frame A.frame _ _ (by omega) le_rfl, rfl, rfl, rfl,
      fun B hB => hqueue B (List.mem_cons_of_mem _ hB)⟩

/-- The HAL over the line to a payload is bisimilar to a channel of frames, if every frame is
    followed by two bytes of filling and has at most `254` bytes of payload. -/
theorem bisimulation (short : CfeStatus) (hfill : ∀ F, (fill F).length = 2)
    (hfits : ∀ n tc, ∀ F ∈ p.answers n tc, F.payload.length + 11 ≤ packetMaxTotal) :
    Bisimulation (Hal.link (p.srl short fill)) (Channel.link p.channel) (Carries fill) where
  send F rest h := send_carries hfits F rest h
  recv h := recv_carries hfill h

end Ig4u.Hal
