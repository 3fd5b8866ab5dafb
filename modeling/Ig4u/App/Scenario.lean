import Ig4u.App.Dispatch
import Ig4u.Hal.Stream
import Ig4u.Lib.Run
import Mathlib.Data.List.GetD

/-!
# Scenarios

The application on a concrete platform: the clock arithmetic of the cFE
(`Cfe.standard`), and the HAL over a FIFO of bytes with everything the payload is
going to say already pending (`poweredOn`). As the receiver takes two bytes more
than a frame has, every answer is followed by two bytes (`answer`).

A scenario is a run on this platform (`isRun_scenario`), whose states are computed.
-/

namespace Ig4u

open Lib

/-! ## The platform -/

/-- The difference of two times, with the borrow of the subseconds. -/
def SysTime.sub (t₁ t₂ : SysTime) : SysTime :=
  ⟨t₁.seconds - t₂.seconds - (if t₁.subseconds < t₂.subseconds then 1 else 0),
    t₁.subseconds - t₂.subseconds⟩

theorem SysTime.ticks_sub {t₁ t₂ : SysTime} (h : t₂.ticks ≤ t₁.ticks) :
    (t₁.sub t₂).ticks = t₁.ticks - t₂.ticks := by
  have h₁ := t₁.subseconds.toNat_lt
  have h₂ := t₂.subseconds.toNat_lt
  have h₃ := t₁.seconds.toNat_lt
  simp only [SysTime.ticks] at h
  simp only [SysTime.ticks, SysTime.sub, UInt32.toNat_sub]
  split_ifs with hlt <;> rw [UInt32.lt_iff_toNat_lt] at hlt
  · simp only [UInt32.toNat_one]
    omega
  · simp only [UInt32.toNat_zero]
    omega

/-- The cFE, with the identifiers of its default mission. -/
def Cfe.standard : Cfe where
  cmdHeaderSize := 8
  cmdMid := 0x18B0
  wakeupMid := 0x18B1
  timeSubtract := SysTime.sub
  ticks_timeSubtract _ _ := SysTime.ticks_sub

/-- The HAL over a FIFO of bytes. -/
def fifoLink : Link (Hal.State (List UInt8)) := Hal.link (Hal.fifo .success)

/-- No scenario depends on how often a flush may go on. -/
theorem fifoLink_bounded {bound : List UInt8 → ℕ} (hb : ∀ q, q.length ≤ bound q) :
    Hal.link ((Hal.fifo .success).bounded bound) = fifoLink :=
  Hal.link_bounded (Hal.fifo_drains .success) hb

/-- A response of the payload. -/
def response (msgId : UInt8) (payload : List UInt8) (h : payload.length ≤ packetMaxPayload) :
    Frame :=
  .sealed packetVersion msgtypeResponse msgId payload h

/-- The bytes of a response, with the two bytes the receiver takes with them. -/
def answer (msgId : UInt8) (payload : List UInt8) (h : payload.length ≤ packetMaxPayload) :
    List UInt8 :=
  (response msgId payload h).bytes ++ [0, 0]

namespace App

/-- The application after its initialisation, with the bytes `line` to be received. -/
def poweredOn (line : List UInt8) : World (Hal.State (List UInt8)) :=
  start fifoLink ⟨.success, .success, .success, .success⟩
    ⟨default, ⟨List.replicate packetMaxTotal 0, [], ⟨false, line, []⟩⟩, [], []⟩

/-- A time in whole seconds. -/
def seconds (n : UInt32) : SysTime := ⟨n, 0⟩

/-- The message of a ground command without fields. -/
def command (fcnCode : ℕ) : SbMsg where
  msgId := 0x18B0
  size := 8
  fcnCode := fcnCode

/-- The message of a Set Mode. -/
def setModeCommand (mode : UInt8) : SbMsg where
  msgId := 0x18B0
  size := 12
  fcnCode := Cc.setMode
  setMode := ⟨mode⟩

/-- The message of a CG Thruster Pulse of `100` ms. -/
def pulseCommand : SbMsg :=
  { command Cc.cgThrusterPulse with size := 12, cgThrusterPulse := ⟨1, 100⟩ }

/-- The wakeup message. -/
def wakeupMsg : SbMsg where
  msgId := 0x18B1
  size := 8
  fcnCode := 0

/-- The inputs of a scenario: some steps, and then another one for ever. -/
def inputs (steps : List Input) (last : Input) : ℕ → Input := fun n => steps.getD n last

/-- The clock of a scenario does not go back if its steps are in order. -/
theorem monotone_inputs {steps : List Input} {last : Input}
    (h : (steps ++ [last]).Pairwise fun x y => x.now.ticks ≤ y.now.ticks) :
    Monotone fun n => (inputs steps last n).now.ticks := by
  obtain ⟨hsteps, -, hlast⟩ := List.pairwise_append.1 h
  intro m n hmn
  rcases hmn.eq_or_lt with rfl | hlt
  · exact le_rfl
  simp only [inputs]
  by_cases hn : n < steps.length
  · rw [List.getD_eq_getElem _ _ hn, List.getD_eq_getElem _ _ (hlt.trans hn)]
    exact List.pairwise_iff_getElem.1 hsteps m n (hlt.trans hn) hn hlt
  · rw [List.getD_eq_default _ _ (not_lt.1 hn)]
    by_cases hm : m < steps.length
    · rw [List.getD_eq_getElem _ _ hm]
      exact hlast _ (List.getElem_mem hm) _ (List.mem_singleton_self _)
    · rw [List.getD_eq_default _ _ (not_lt.1 hm)]

/-- The states of a scenario. -/
def scenario (line : List UInt8) (a : ℕ → Input) : ℕ → World (Hal.State (List UInt8)) :=
  along (step Cfe.standard fifoLink) a (poweredOn line)

/-- A scenario is a run of the application. -/
theorem isRun_scenario (line : List UInt8) (a : ℕ → Input) :
    IsRun (initial fifoLink) (step Cfe.standard fifoLink) a (scenario line a) :=
  .of_along (show poweredOn line ∈ initial fifoLink from ⟨_, _, rfl⟩) a

end App

end Ig4u
