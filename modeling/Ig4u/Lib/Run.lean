import Mathlib.Tactic

/-!
# Runs of a transition function

A system with the states `S` takes, on every input, the step given by a total
function `step : A → S → S`. Its *runs* are the sequences of states `ρ` along a
sequence of inputs `a`, starting from an initial state (`IsRun`).

* `IsRun.invariant`: what holds initially and is preserved by the steps of the
  run holds along the run; `IsRun.invariant_iff` for a property that the good
  steps preserve and the other steps destroy, and `IsRun.invariant_iff_until` for
  it up to a time.
* `IsRun.related`: two runs on the same inputs stay related if the steps keep the relation.
* `exists_last_entry`: a property holding now and not initially was entered at
  some step, and has held since.
* `IsRun.permit`: the pattern of a permit consumed by the steps using it. If a
  step of a certain kind needs the permit and takes it away, then before any
  such step, and between any two of them, the permit was granted.
* `register_cases`: a register that some of the steps write holds what the last of them
  wrote.
-/

namespace Ig4u.Lib

variable {S A : Type*}

/-- A run of `step` from `init`: the states `ρ n`, the step `n` being taken on
    the input `a n`. -/
structure IsRun (init : Set S) (step : A → S → S) (a : ℕ → A) (ρ : ℕ → S) : Prop where
  init : ρ 0 ∈ init
  step : ∀ n, ρ (n + 1) = step (a n) (ρ n)

/-- The states reachable from an initial state. -/
inductive Reachable (init : Set S) (step : A → S → S) : S → Prop
  | init {s : S} : s ∈ init → Reachable init step s
  | step {s : S} (i : A) : Reachable init step s → Reachable init step (step i s)

/-- The states along the inputs `a`, from `s`. -/
def along (step : A → S → S) (a : ℕ → A) (s : S) : ℕ → S
  | 0 => s
  | n + 1 => step (a n) (along step a s n)

namespace IsRun

variable {init : Set S} {step : A → S → S} {a : ℕ → A} {ρ : ℕ → S}

theorem of_along {s : S} (hs : s ∈ init) (a : ℕ → A) : IsRun init step a (along step a s) :=
  ⟨hs, fun _ => rfl⟩

theorem reachable (hρ : IsRun init step a ρ) : ∀ n, Reachable init step (ρ n)
  | 0 => .init hρ.init
  | n + 1 => hρ.step n ▸ .step (a n) (hρ.reachable n)

/-- What holds initially and is preserved by the steps of the run holds along it. -/
theorem invariant (hρ : IsRun init step a ρ) {P : ℕ → Prop} (h₀ : P 0)
    (hs : ∀ n, ρ (n + 1) = step (a n) (ρ n) → P n → P (n + 1)) (n : ℕ) : P n := by
  induction n with
  | zero => exact h₀
  | succ n ih => exact hs n (hρ.step n) ih

/-- If, where `P` holds, it is preserved exactly by the steps satisfying `Q`, then it
    holds up to a time exactly if all the steps before satisfy `Q`. -/
theorem invariant_iff_until (hρ : IsRun init step a ρ) {P Q : ℕ → Prop} (h₀ : P 0)
    (hs : ∀ n, ρ (n + 1) = step (a n) (ρ n) → P n → (P (n + 1) ↔ Q n)) (n : ℕ) :
    (∀ k ≤ n, P k) ↔ ∀ k < n, Q k := by
  constructor
  · intro h k hk
    exact (hs k (hρ.step k) (h k hk.le)).1 (h (k + 1) hk)
  · intro h k hk
    induction k with
    | zero => exact h₀
    | succ k ih => exact (hs k (hρ.step k) (ih (Nat.le_of_succ_le hk))).2 (h k hk)

/-- So it holds along the run exactly if all the steps satisfy `Q`. -/
theorem invariant_iff (hρ : IsRun init step a ρ) {P Q : ℕ → Prop} (h₀ : P 0)
    (hs : ∀ n, ρ (n + 1) = step (a n) (ρ n) → P n → (P (n + 1) ↔ Q n)) :
    (∀ n, P n) ↔ ∀ n, Q n :=
  ⟨fun h n => (hρ.invariant_iff_until h₀ hs (n + 1)).1 (fun k _ => h k) n n.lt_succ_self,
    fun h n => (hρ.invariant_iff_until h₀ hs n).2 (fun k _ => h k) n le_rfl⟩

/-- Two runs on the same inputs stay related if the steps keep the relation. -/
theorem related {S' : Type*} {init' : Set S'} {step' : A → S' → S'} {ρ' : ℕ → S'}
    (hρ : IsRun init step a ρ) (hρ' : IsRun init' step' a ρ') {R : S → S' → Prop}
    (h₀ : R (ρ 0) (ρ' 0)) (hs : ∀ n, R (ρ n) (ρ' n) → R (step (a n) (ρ n)) (step' (a n) (ρ' n)))
    (n : ℕ) : R (ρ n) (ρ' n) :=
  hρ.invariant h₀ (fun n he h => he ▸ hρ'.step n ▸ hs n h) n

end IsRun

/-- A property of the times that holds now, but not at time `0`, was entered at some
    step, and has held since. -/
theorem exists_last_entry {P : ℕ → Prop} (h₀ : ¬P 0) {n : ℕ} (hn : P n) :
    ∃ k < n, ¬P k ∧ ∀ j, k < j → j ≤ n → P j := by
  induction n with
  | zero => exact absurd hn h₀
  | succ n ih =>
    by_cases hP : P n
    · obtain ⟨k, hk, hnk, hsince⟩ := ih hP
      refine ⟨k, by omega, hnk, fun j hkj hj => ?_⟩
      rcases Nat.lt_or_ge n j with hlt | hle
      · exact (show j = n + 1 by omega) ▸ hn
      · exact hsince j hkj hle
    · exact ⟨n, by omega, hP, fun j hlt hle => (show j = n + 1 by omega) ▸ hn⟩

namespace IsRun

variable {init : Set S} {step : A → S → S} {a : ℕ → A} {ρ : ℕ → S}

/-- The permit pattern. The permit `P` is not given initially; a step using it
    (`U`) starts with the permit and ends without it; it is only given by the
    steps granting it (`G`). Then a step using the permit comes after a step
    granting it, and no step uses the permit from that one on. -/
theorem permit (hρ : IsRun init step a ρ) {P : S → Prop} {U G : A → S → Prop}
    (h₀ : ∀ s ∈ init, ¬P s)
    (huse : ∀ i s, U i s → P s ∧ ¬P (step i s))
    (hgrant : ∀ i s, ¬P s → P (step i s) → G i s)
    {n : ℕ} (hn : U (a n) (ρ n)) :
    P (ρ n) ∧ ∃ k < n, G (a k) (ρ k) ∧ P (ρ (k + 1)) ∧
      ∀ j, k ≤ j → j < n → ¬U (a j) (ρ j) := by
  have hP : P (ρ n) := (huse _ _ hn).1
  obtain ⟨k, hk, hnk, hsince⟩ := exists_last_entry (P := fun m => P (ρ m)) (h₀ _ hρ.init) hP
  have hk' : P (ρ (k + 1)) := hsince (k + 1) (by omega) (by omega)
  refine ⟨hP, k, hk, hgrant _ _ hnk (hρ.step k ▸ hk'), hk', fun j hkj hj hu => ?_⟩
  -- A step using the permit in between would have taken it away.
  exact (huse _ _ hu).2 (hρ.step j ▸ hsince (j + 1) (by omega) (by omega))

end IsRun

/-! ## Registers -/

/-- The time `k` is the last one before `n` at which `P` holds. -/
structure LastBefore (P : ℕ → Prop) (k n : ℕ) : Prop where
  lt : k < n
  holds : P k
  last : ∀ j, k < j → j < n → ¬P j

namespace LastBefore

variable {P : ℕ → Prop} {k l n : ℕ}

theorem self (h : P n) : LastBefore P n (n + 1) :=
  ⟨n.lt_succ_self, h, fun _ hj hj' => absurd hj' (by omega)⟩

theorem succ (h : LastBefore P k n) (hn : ¬P n) : LastBefore P k (n + 1) where
  lt := h.lt.trans n.lt_succ_self
  holds := h.holds
  last j hkj hj := by
    rcases Nat.lt_succ_iff_lt_or_eq.1 hj with hlt | rfl
    · exact h.last j hkj hlt
    · exact hn

theorem unique (h : LastBefore P k n) (h' : LastBefore P l n) : k = l := by
  rcases lt_trichotomy k l with hlt | rfl | hlt
  · exact absurd h'.holds (h.last l hlt h'.lt)
  · rfl
  · exact absurd h.holds (h'.last k hlt h.lt)

end LastBefore

/-- A register `v`, to which the steps `W` write the values `x` and which the others keep, has
    its initial value if none has written, or else what the last of them wrote. -/
theorem register_cases {α : Type*} {v x : ℕ → α} {W : ℕ → Prop}
    (hwrite : ∀ n, W n → v (n + 1) = x n) (hkeep : ∀ n, ¬W n → v (n + 1) = v n) (n : ℕ) :
    (∀ k < n, ¬W k) ∧ v n = v 0 ∨ ∃ k, LastBefore W k n ∧ v n = x k := by
  induction n with
  | zero => exact .inl ⟨fun k hk => absurd hk k.not_lt_zero, rfl⟩
  | succ n ih =>
    by_cases hn : W n
    · exact .inr ⟨n, .self hn, hwrite n hn⟩
    rw [hkeep n hn]
    rcases ih with ⟨hnone, hv⟩ | ⟨k, hk, hv⟩
    · refine .inl ⟨fun k hk => ?_, hv⟩
      rcases Nat.lt_succ_iff_lt_or_eq.1 hk with hlt | rfl
      · exact hnone k hlt
      · exact hn
    · exact .inr ⟨k, hk.succ hn, hv⟩

end Ig4u.Lib
