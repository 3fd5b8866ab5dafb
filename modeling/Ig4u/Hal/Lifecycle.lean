import Ig4u.Hal.Peer
import Ig4u.Lib.Run

/-!
# The life of the serial handle

The whole HAL as a state machine: a user calls its functions in any order, any number of times. A
driver with a log (`Srl.logged`) records what the HAL asks of it.

* `plain_run`, `sound_run`: the log changes nothing, and a call keeps it proper.
* `handles`: in every run, the HAL asks for a handle only if it holds none, and configures, writes,
  reads and releases only while it holds one. Every handle it obtained was released or is in
  use, except for those that could not be configured: these are never released.
-/

namespace Ig4u

/-- A call of the driver, and whether it succeeded where that matters. -/
inductive DriverCall
  | getHandle (ok : Bool)
  | configure (ok : Bool)
  | write
  | read
  | release
  deriving DecidableEq, Repr

/-- A driver that logs its calls, oldest first. -/
def Srl.logged {δ : Type*} (d : Srl δ) : Srl (δ × List DriverCall) where
  apiGetHandle s :=
    let r := d.apiGetHandle s.1
    (r.1, r.2, s.2 ++ [.getHandle (r.1 = .success)])
  apiConfigure cfg s :=
    let r := d.apiConfigure cfg s.1
    (r.1, r.2, s.2 ++ [.configure (r.1 = .success)])
  apiWrite bytes len s :=
    let r := d.apiWrite bytes len s.1
    (r.1, r.2, s.2 ++ [.write])
  apiRead len timeoutMs s :=
    let r := d.apiRead len timeoutMs s.1
    (r.1, r.2, s.2 ++ [.read])
  pending s := d.pending s.1

namespace Hal

open Lib

/-! ## The functions -/

section

variable {δ : Type*} (d : Srl δ) (release : δ → δ)

/-- `IG4U_HAL_Deinit`, where `release` is `CFE_SRL_ApiReleaseHandle`. -/
def deinit (s : State δ) : State δ :=
  if s.initialized then { s with initialized := false, drv := release s.drv } else s

/-- `IG4U_HAL_IsReady`. -/
def isReady (s : State δ) : Bool := s.initialized

/-- A call of a function of the HAL. -/
inductive Op
  | init
  | deinit
  | send (buf : Option (List UInt8)) (len : ℕ)
  | recv (buf : Option (List UInt8)) (size timeoutMs : ℕ)
  | flushRx
  | isReady

/-- The state after a call. -/
def Op.run (s : State δ) : Op → State δ
  | init => (Hal.init d s).2
  | deinit => Hal.deinit release s
  | send buf len => (Hal.send d buf len s).2
  | recv buf size timeoutMs => (Hal.recv d buf size timeoutMs s).2.2
  | flushRx => Hal.flushRx d s
  | isReady => s

end

/-! ## Handles -/

/-- The number of handles obtained. -/
def acquired (log : List DriverCall) : ℕ := log.count (.getHandle true)

/-- The number of handles released. -/
def released (log : List DriverCall) : ℕ := log.count .release

/-- The number of handles that could not be configured. -/
def misconfigured (log : List DriverCall) : ℕ := log.count (.configure false)

/-- The number of handles in use after the calls in the log is `n`. -/
def InUse (n : ℕ) (log : List DriverCall) : Prop :=
  acquired log = released log + misconfigured log + n

/-- A handle is asked for only if none is in use, and everything else is asked for only with one
    handle in use. -/
def Proper (log : List DriverCall) : Prop :=
  ∀ pre c post, log = pre ++ c :: post → InUse (if ∃ ok, c = .getHandle ok then 0 else 1) pre

theorem Proper.snoc {log : List DriverCall} (h : Proper log) {c : DriverCall}
    (hc : InUse (if ∃ ok, c = .getHandle ok then 0 else 1) log) : Proper (log ++ [c]) := by
  intro pre c' post he
  rcases List.eq_nil_or_concat post with rfl | ⟨post', c'', rfl⟩
  · obtain ⟨rfl, hc'⟩ := List.append_inj' he rfl
    obtain rfl := List.singleton_inj.1 hc'
    exact hc
  · have he' : log ++ [c] = (pre ++ c' :: post') ++ [c''] := by simpa using he
    exact h pre c' post' (List.append_inj' he' rfl).1

/-- A log of proper calls, with a handle in use if the HAL is ready. -/
structure Sound (initialized : Bool) (log : List DriverCall) : Prop where
  proper : Proper log
  inUse : InUse (if initialized then 1 else 0) log

namespace Sound

variable {log : List DriverCall}

theorem nil : Sound false [] where
  proper pre c post he := absurd he (by simp)
  inUse := rfl

/-- A call that needs the handle, and keeps it. -/
theorem use (h : Sound true log) {c : DriverCall} (hc : c = .write ∨ c = .read) :
    Sound true (log ++ [c]) := by
  have hin : InUse 1 log := h.inUse
  refine ⟨h.proper.snoc ?_, ?_⟩
  · rcases hc with rfl | rfl <;> simpa using hin
  · rcases hc with rfl | rfl <;>
      simpa [InUse, acquired, released, misconfigured, List.count_append] using hin

theorem reads (h : Sound true log) : ∀ k, Sound true (log ++ List.replicate k .read)
  | 0 => by simpa using h
  | k + 1 => by
    rw [List.replicate_succ', ← List.append_assoc]
    exact (h.reads k).use (.inr rfl)

theorem release (h : Sound true log) : Sound false (log ++ [.release]) := by
  have hin : InUse 1 log := h.inUse
  refine ⟨h.proper.snoc (by simpa using hin), ?_⟩
  simp only [InUse, acquired, released, misconfigured, List.count_append] at hin ⊢
  simp [hin]
  omega

/-- No handle is given. -/
theorem refused (h : Sound false log) : Sound false (log ++ [.getHandle false]) := by
  have hin : InUse 0 log := h.inUse
  refine ⟨h.proper.snoc (by simpa using hin), ?_⟩
  simpa [InUse, acquired, released, misconfigured, List.count_append] using hin

/-- A handle is given, and configured or not. -/
theorem given (h : Sound false log) (ok : Bool) :
    Sound ok (log ++ [.getHandle true] ++ [.configure ok]) := by
  have hin : InUse 0 log := h.inUse
  have hin' : InUse 1 (log ++ [.getHandle true]) := by
    simpa [InUse, acquired, released, misconfigured, List.count_append] using hin
  have hok : InUse (if ok then 1 else 0) (log ++ [.getHandle true] ++ [.configure ok]) := by
    simp only [InUse, acquired, released, misconfigured, List.count_append] at hin ⊢
    cases ok <;> simp [hin, Nat.add_assoc]
  exact ⟨(h.proper.snoc (by simpa using hin)).snoc (by simpa using hin'), hok⟩

end Sound

/-! ## Runs -/

section

variable {δ : Type*} (d : Srl δ) (free : δ → δ)

/-- The state of the HAL over the driver with no log. -/
def State.plain (s : State (δ × List DriverCall)) : State δ := ⟨s.initialized, s.drv.1, s.reads⟩

/-- The driver with the log reads as the driver does, and logs the reads. -/
theorem logged_readsAlike (log : List DriverCall) :
    ReadsAlike d.logged d fun x y => x.1 = y ∧ ∃ k, x.2 = log ++ List.replicate k .read where
  read len timeoutMs h := by
    obtain ⟨rfl, k, hk⟩ := h
    refine ⟨rfl, rfl, k + 1, ?_⟩
    rw [List.replicate_succ', ← List.append_assoc, ← hk]
    rfl
  pending h := h.1 ▸ rfl

/-- The release of a handle by the driver with the log. -/
def freeLogged (x : δ × List DriverCall) : δ × List DriverCall := (free x.1, x.2 ++ [.release])

/-- The receiver keeps the flag. -/
theorem flushRx_initialized (s : State δ) : (flushRx d s).initialized = s.initialized := by
  simp only [flushRx]
  split_ifs <;> rfl

theorem recvPayload_initialized (buf : List UInt8) (bytesRead size timeoutMs : ℕ) (s : State δ) :
    (recvPayload d buf bytesRead size timeoutMs s).2.2.initialized = s.initialized := by
  simp only [recvPayload]
  split_ifs
  all_goals first | rfl | exact flushRx_initialized d s

theorem realign_initialized (buf : List UInt8) (bytesRead sync size timeoutMs : ℕ) (s : State δ) :
    (realign d buf bytesRead sync size timeoutMs s).2.2.initialized = s.initialized := by
  simp only [realign]
  split_ifs
  all_goals first | rfl | exact recvPayload_initialized d _ _ _ _ _

theorem recv_initialized (buf : Option (List UInt8)) (size timeoutMs : ℕ) (s : State δ) :
    (recv d buf size timeoutMs s).2.2.initialized = s.initialized := by
  cases buf with
  | none =>
    simp only [recv]
    split_ifs <;> rfl
  | some buf =>
    simp only [recv]
    split_ifs
    all_goals first
      | rfl
      | exact flushRx_initialized d _
      | exact realign_initialized d _ _ _ _ _ _
      | exact recvPayload_initialized d _ _ _ _ _

/-- The receiver over the driver with the log, which only grows by some reads. -/
theorem recv_logged (buf : Option (List UInt8)) (size timeoutMs : ℕ)
    (s : State (δ × List DriverCall)) :
    (recv d.logged buf size timeoutMs s).2.2.plain = (recv d buf size timeoutMs s.plain).2.2 ∧
      ∃ k, (recv d.logged buf size timeoutMs s).2.2.drv.2 = s.drv.2 ++ List.replicate k .read := by
  obtain ⟨-, -, hinit, ⟨hdrv, hlog⟩, hreads⟩ :=
    recv_related (logged_readsAlike d s.drv.2) (s := s) (t := s.plain)
      ⟨rfl, ⟨rfl, 0, by simp⟩, rfl⟩ buf size timeoutMs
  exact ⟨by rw [State.plain, hinit, hdrv, hreads], hlog⟩

theorem flushRx_logged (s : State (δ × List DriverCall)) :
    (flushRx d.logged s).plain = flushRx d s.plain ∧
      ∃ k, (flushRx d.logged s).drv.2 = s.drv.2 ++ List.replicate k .read := by
  obtain ⟨hinit, ⟨hdrv, hlog⟩, hreads⟩ :=
    flushRx_related (logged_readsAlike d s.drv.2) (s := s) (t := s.plain)
      ⟨rfl, ⟨rfl, 0, by simp⟩, rfl⟩
  exact ⟨by rw [State.plain, hinit, hdrv, hreads], hlog⟩

/-- Sending over the driver with the log, which grows by a write at most. -/
theorem send_logged (buf : Option (List UInt8)) (len : ℕ) (s : State (δ × List DriverCall)) :
    (send d.logged buf len s).2.plain = (send d buf len s.plain).2 ∧
      (send d.logged buf len s).2.initialized = s.initialized ∧
        ((send d.logged buf len s).2.drv.2 = s.drv.2 ∨
          (send d.logged buf len s).2.drv.2 = s.drv.2 ++ [.write]) := by
  by_cases hs : s.initialized
  · rcases buf with - | b
    · simp [send, State.plain, hs]
    by_cases hlen : len = 0
    · simp [send, State.plain, hs, hlen]
    by_cases hw : (d.apiWrite (b.take len) uartTimeoutMs s.drv.1).1.1 ≠ .success ∨
        (d.apiWrite (b.take len) uartTimeoutMs s.drv.1).1.2 ≠ len
    · simp only [send, State.plain, Srl.logged, hs, hlen, hw, if_true, if_false, not_true_eq_false]
      exact ⟨trivial, trivial, .inr trivial⟩
    · simp only [send, State.plain, Srl.logged, hs, hlen, hw, if_false, not_true_eq_false]
      exact ⟨trivial, trivial, .inr trivial⟩
  · simp [send, State.plain, hs]

/-- A call does over the driver with the log what it does over the driver. -/
theorem plain_run (s : State (δ × List DriverCall)) (op : Op) :
    (op.run d.logged (freeLogged free) s).plain = op.run d free s.plain := by
  cases op with
  | init =>
    by_cases hs : s.initialized
    · simp [Op.run, init, State.plain, hs]
    by_cases hget : (d.apiGetHandle s.drv.1).1 = .success
    · by_cases hconf : (d.apiConfigure ⟨uartBaudRate, uartDataBits, uartParity, uartStopBits⟩
          (d.apiGetHandle s.drv.1).2).1 = .success <;>
        simp [Op.run, init, State.plain, Srl.logged, hs, hget, hconf]
    · simp [Op.run, init, State.plain, Srl.logged, hs, hget]
  | deinit =>
    by_cases hs : s.initialized <;> simp [Op.run, deinit, State.plain, freeLogged, hs]
  | send buf len => exact (send_logged d buf len s).1
  | recv buf size timeoutMs => exact (recv_logged d buf size timeoutMs s).1
  | flushRx => exact (flushRx_logged d s).1
  | isReady => rfl

/-- A call keeps the log proper. -/
theorem sound_run (s : State (δ × List DriverCall)) (h : Sound s.initialized s.drv.2) (op : Op) :
    Sound (op.run d.logged (freeLogged free) s).initialized
      (op.run d.logged (freeLogged free) s).drv.2 := by
  rcases s with ⟨_ | _, ⟨x, log⟩, reads⟩
  -- The HAL is not ready: only its initialisation calls the driver.
  · cases op with
    | init =>
      simp only [Op.run, init, Srl.logged]
      by_cases hget : (d.apiGetHandle x).1 = .success
      · by_cases hconf : (d.apiConfigure ⟨uartBaudRate, uartDataBits, uartParity, uartStopBits⟩
          (d.apiGetHandle x).2).1 = .success
        · simpa [hget, hconf] using h.given true
        · simpa [hget, hconf] using h.given false
      · simpa [hget] using h.refused
    | deinit => exact h
    | send buf len => exact h
    | recv buf size timeoutMs => cases buf <;> exact h
    | flushRx => exact h
    | isReady => exact h
  -- The HAL is ready, and holds a handle: it does not ask for another one.
  · cases op with
    | init => exact h
    | deinit => exact h.release
    | send buf len =>
      obtain ⟨-, hinit, hlog | hlog⟩ := send_logged d buf len ⟨true, (x, log), reads⟩
      · simpa only [Op.run, hinit, hlog] using h
      · simpa only [Op.run, hinit, hlog] using h.use (.inl rfl)
    | recv buf size timeoutMs =>
      obtain ⟨-, k, hlog⟩ := recv_logged d buf size timeoutMs ⟨true, (x, log), reads⟩
      simp only [Op.run, recv_initialized, hlog]
      exact h.reads k
    | flushRx =>
      obtain ⟨-, k, hlog⟩ := flushRx_logged d ⟨true, (x, log), reads⟩
      simp only [Op.run, hlog]
      exact h.reads k
    | isReady => exact h

/-- The initial states: the HAL is not initialised, and has asked the driver for nothing. -/
def initialLogged : Set (State (δ × List DriverCall)) := {s | s.initialized = false ∧ s.drv.2 = []}

/-- However its functions are called, the HAL does over any driver what it does over the one with
    no log; it asks for a handle only if it holds none, and for anything else only while it holds
    one; and the handles it obtained are those it released, those that could not be configured,
    and the one in use if it is ready. -/
theorem handles {ops : ℕ → Op} {ρ : ℕ → State (δ × List DriverCall)}
    (hρ : IsRun initialLogged (fun op s => op.run d.logged (freeLogged free) s) ops ρ) (n : ℕ) :
    (ρ n).plain = along (fun op s => op.run d free s) ops (ρ 0).plain n ∧
      Proper (ρ n).drv.2 ∧ InUse (if isReady (ρ n) then 1 else 0) (ρ n).drv.2 := by
  have hrun : IsRun {(ρ 0).plain} (fun op s => op.run d free s) ops
      (along (fun op s => op.run d free s) ops (ρ 0).plain) := .of_along (Set.mem_singleton _) ops
  have hplain := hρ.related hrun (R := fun s t => s.plain = t) rfl
    (fun k h => by rw [plain_run, h]) n
  have hsound : Sound (ρ n).initialized (ρ n).drv.2 := by
    refine hρ.invariant (P := fun n => Sound (ρ n).initialized (ρ n).drv.2) ?_ ?_ n
    · rw [hρ.init.1, hρ.init.2]
      exact .nil
    · intro k hk h
      rw [hk]
      exact sound_run d free _ h (ops k)
  exact ⟨hplain, hsound.proper, hsound.inUse⟩

end

/-- A driver that fails to configure its first handle, with the number of handles configured. -/
def fickle : Srl ℕ where
  apiGetHandle n := (.success, n)
  apiConfigure _ n := (if n = 0 then .other (-1) else .success, n + 1)
  apiWrite bytes _ n := ((.success, bytes.length), n)
  apiRead _ _ n := (⟨.success, [], 0⟩, n)
  pending _ := 0

/-- Initialising twice, then sending a byte, receiving, and releasing. -/
def fickleOps (n : ℕ) : Op :=
  [.init, .init, .send (some [0x49]) 1, .recv (some []) 64 10, .deinit].getD n .isReady

/-- The run of these calls. -/
def fickleRun : ℕ → State (ℕ × List DriverCall) :=
  along (fun op s => op.run fickle.logged (freeLogged id) s) fickleOps ⟨false, (0, []), []⟩

/-- The first handle of this driver is never released. -/
theorem handles_fickle :
    (fickleRun 5).drv.2 = [.getHandle true, .configure false, .getHandle true, .configure true,
      .write, .read, .release] ∧ Proper (fickleRun 5).drv.2 ∧ InUse 0 (fickleRun 5).drv.2 :=
  have h₀ : (⟨false, (0, []), []⟩ : State (ℕ × List DriverCall)) ∈ initialLogged := ⟨rfl, rfl⟩
  ⟨by decide, (handles fickle id (.of_along h₀ fickleOps) 5).2⟩

end Hal

end Ig4u
