import Mathlib.Order.Interval.Finset.Nat

/-!
# Counters

A counter `v` along a sequence of steps: it is set to zero by some of them (`Z`), goes up by one
with others (`P`), and is kept by the rest. The counter may wrap around: it counts in any type
with a zero and a one, into which the natural numbers are mapped by `f`.

* `tally`: the number of the steps counted since the last of the steps that reset.
* `counter_eq`: the counter is this number.
-/

namespace Ig4u.Lib

variable {R : Type*} [Zero R] [One R] [Add R] {f : ℕ → R} {v : ℕ → R} {P Z : ℕ → Prop}
  [DecidablePred P] [DecidablePred Z]

/-- The time after the last of the steps `Z` before `n`, or `0`. -/
def since (Z : ℕ → Prop) [DecidablePred Z] : ℕ → ℕ
  | 0 => 0
  | n + 1 => if Z n then n + 1 else since Z n

theorem since_le (n : ℕ) : since Z n ≤ n := by
  induction n with
  | zero => exact le_rfl
  | succ n ih =>
    rw [since]
    split_ifs
    · exact le_rfl
    · exact ih.trans n.le_succ

/-- The number of the steps `P` since the last step `Z`. -/
def tally (Z P : ℕ → Prop) [DecidablePred Z] [DecidablePred P] (n : ℕ) : ℕ :=
  ((Finset.Ico (since Z n) n).filter P).card

theorem tally_zero : tally Z P 0 = 0 := rfl

theorem tally_of_reset {n : ℕ} (h : Z n) : tally Z P (n + 1) = 0 := by
  rw [tally, since, if_pos h, Finset.Ico_self]
  rfl

theorem tally_succ {n : ℕ} (h : ¬Z n) :
    tally Z P (n + 1) = tally Z P n + if P n then 1 else 0 := by
  rw [tally, since, if_neg h, Nat.Ico_succ_right_eq_insert_Ico (since_le n),
    Finset.filter_insert]
  split_ifs
  · rw [Finset.card_insert_of_notMem (by simp)]
    rfl
  · rfl

/-- A counter is the number of the steps counted since it was last set to zero. -/
theorem counter_eq (hf₀ : f 0 = 0) (hf : ∀ k, f (k + 1) = f k + 1) (h₀ : v 0 = 0)
    (hreset : ∀ n, Z n → v (n + 1) = 0) (hcount : ∀ n, ¬Z n → P n → v (n + 1) = v n + 1)
    (hkeep : ∀ n, ¬Z n → ¬P n → v (n + 1) = v n) (n : ℕ) : v n = f (tally Z P n) := by
  induction n with
  | zero => rw [tally_zero, h₀, hf₀]
  | succ n ih =>
    by_cases hZ : Z n
    · rw [hreset n hZ, tally_of_reset hZ, hf₀]
    · rw [tally_succ hZ]
      by_cases hP : P n
      · rw [hcount n hZ hP, ih, if_pos hP, hf]
      · rw [hkeep n hZ hP, ih, if_neg hP, Nat.add_zero]

end Ig4u.Lib
