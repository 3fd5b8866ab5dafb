import Mathlib.Tactic
import Mathlib.Data.List.GetD
import Mathlib.Algebra.Polynomial.FieldDivision
import Mathlib.Algebra.Field.ZMod

/-!
# Polynomials over GF(2)

A string of bits, read most significant bit first, is a polynomial over GF(2)
(`bitPoly`), and so is a machine word (`wordPoly`): the exclusive or adds, a shift
multiplies by `X`.

An error on a line is the string of the bits it flips. A code that checks
divisibility by a polynomial `G` misses the errors that are multiples of `G`:

* `not_dvd_of_odd`: not those of an odd number of bits, if `G` is a multiple of `X + 1`;
* `not_dvd_of_two`: not those of two bits, if `G` divides no `X ^ m + 1` for a distance
  `m` of theirs;
* `not_dvd_of_burst`: not those within as many consecutive bits as the degree of `G`.
-/

namespace Ig4u.Lib

open Polynomial

/-! ## Strings of bits -/

/-- The coefficient of a bit. -/
def bit (b : Bool) : ZMod 2 := if b then 1 else 0

@[simp] theorem bit_false : bit false = 0 := rfl
@[simp] theorem bit_true : bit true = 1 := rfl

theorem bit_xor (a b : Bool) : bit (a ^^ b) = bit a + bit b := by
  cases a <;> cases b <;> decide

theorem bit_injective : Function.Injective bit := by
  intro a b h
  cases a <;> cases b <;> simp_all [bit]

/-- The polynomial of a string of bits, read most significant bit first. -/
noncomputable def bitPoly : List Bool → (ZMod 2)[X]
  | [] => 0
  | b :: l => C (bit b) * X ^ l.length + bitPoly l

/-- The coefficients are the bits, from the last one on. -/
theorem coeff_bitPoly (l : List Bool) (i : ℕ) :
    (bitPoly l).coeff i = bit (l.reverse.getD i false) := by
  induction l with
  | nil => simp [bitPoly]
  | cons b l ih =>
    rw [bitPoly, coeff_add, coeff_C_mul, coeff_X_pow, ih, List.reverse_cons]
    rcases lt_trichotomy i l.length with h | rfl | h
    · rw [if_neg h.ne, mul_zero, zero_add, List.getD_append _ _ _ _ (by simpa using h)]
    · simp
    · rw [if_neg h.ne', mul_zero, zero_add, List.getD_eq_default _ _ (by simpa using h.le),
        List.getD_eq_default _ _ (by simpa using h)]

theorem degree_bitPoly_lt (l : List Bool) : (bitPoly l).degree < l.length := by
  rw [degree_lt_iff_coeff_zero]
  intro i hi
  rw [coeff_bitPoly, List.getD_eq_default _ _ (by simpa using hi), bit_false]

/-- A string followed by another one is shifted by its length. -/
theorem bitPoly_append (l m : List Bool) :
    bitPoly (l ++ m) = bitPoly l * X ^ m.length + bitPoly m := by
  induction l with
  | nil => simp [bitPoly]
  | cons b l ih =>
    rw [List.cons_append, bitPoly, bitPoly, ih, List.length_append, pow_add]
    ring

theorem bitPoly_replicate (n : ℕ) : bitPoly (List.replicate n false) = 0 := by
  induction n with
  | zero => rfl
  | succ n ih => rw [List.replicate_succ, bitPoly, ih, bit_false, C_0, zero_mul, add_zero]

/-- Only a string of zeros is the polynomial zero. -/
theorem bitPoly_eq_zero {l : List Bool} (h : bitPoly l = 0) : ∀ b ∈ l, b = false := by
  intro b hb
  obtain ⟨i, hi, rfl⟩ := List.getElem_of_mem (List.mem_reverse.2 hb)
  have hc := coeff_bitPoly l i
  rw [h, coeff_zero, List.getD_eq_getElem _ _ hi] at hc
  exact bit_injective hc.symm

/-! ## Words -/

variable {w k : ℕ}

/-- The bits of a word, most significant bit first. -/
def msbFirst (v : BitVec w) : List Bool := (List.range w).map v.getMsbD

@[simp]
theorem length_msbFirst (v : BitVec w) : (msbFirst v).length = w := by simp [msbFirst]

/-- The bits of a word on top of another one come first. -/
theorem msbFirst_append (u : BitVec w) (v : BitVec k) :
    msbFirst (u ++ v) = msbFirst u ++ msbFirst v := by
  rw [msbFirst, List.range_add, List.map_append, List.map_map]
  congr 1 <;> refine List.map_congr_left fun i hi => ?_
  · rw [BitVec.getMsbD_append, if_neg (not_le.2 (List.mem_range.1 hi))]
  · rw [Function.comp_apply, BitVec.getMsbD_append, if_pos (Nat.le_add_right _ _),
      Nat.add_sub_cancel_left]

/-- The polynomial of a word. -/
noncomputable def wordPoly (v : BitVec w) : (ZMod 2)[X] := bitPoly (msbFirst v)

theorem coeff_wordPoly (v : BitVec w) (i : ℕ) : (wordPoly v).coeff i = bit (v.getLsbD i) := by
  rw [wordPoly, coeff_bitPoly]
  congr 1
  rcases Nat.lt_or_ge i w with h | h
  · rw [List.getD_eq_getElem _ _ (by simpa using h), List.getElem_reverse]
    simp only [msbFirst, List.getElem_map, List.getElem_range, List.length_map, List.length_range]
    rw [BitVec.getMsbD_eq_getLsbD, decide_eq_true (by omega), Bool.true_and]
    congr 1
    omega
  · rw [List.getD_eq_default _ _ (by simpa using h), BitVec.getLsbD_of_ge v i h]

theorem degree_wordPoly_lt (v : BitVec w) : (wordPoly v).degree < w := by
  simpa [wordPoly] using degree_bitPoly_lt (msbFirst v)

theorem wordPoly_injective : Function.Injective (wordPoly (w := w)) := by
  intro u v h
  refine BitVec.eq_of_getLsbD_eq fun i _ => bit_injective ?_
  rw [← coeff_wordPoly, h, coeff_wordPoly]

@[simp]
theorem wordPoly_zero : wordPoly (0 : BitVec w) = 0 := by
  ext i
  simp [coeff_wordPoly]

theorem wordPoly_xor (u v : BitVec w) : wordPoly (u ^^^ v) = wordPoly u + wordPoly v := by
  ext i
  rw [coeff_add, coeff_wordPoly, coeff_wordPoly, coeff_wordPoly, BitVec.getLsbD_xor, bit_xor]

/-- A word other than zero has a bit. -/
theorem true_mem_msbFirst {v : BitVec w} (h : v ≠ 0) : true ∈ msbFirst v := by
  by_contra htrue
  have hzero : bitPoly (msbFirst v) = 0 := by
    rw [List.eq_replicate_of_mem fun b hb => Bool.eq_false_of_not_eq_true fun ht => htrue (ht ▸ hb),
      bitPoly_replicate]
  exact h (wordPoly_injective (hzero.trans wordPoly_zero.symm))

/-- A shift multiplies by `X`, except for the bit it drops. -/
theorem X_mul_wordPoly (v : BitVec w) :
    X * wordPoly v = wordPoly (v <<< 1) + C (bit v.msb) * X ^ w := by
  ext i
  rw [coeff_add, coeff_wordPoly, coeff_C_mul, coeff_X_pow, BitVec.getLsbD_shiftLeft]
  cases i with
  | zero =>
    rcases Nat.eq_zero_or_pos w with rfl | hw
    · simp [BitVec.msb, BitVec.getMsbD]
    · simp [hw.ne]
  | succ i =>
    rw [coeff_X_mul, coeff_wordPoly]
    rcases lt_trichotomy (i + 1) w with h | rfl | h
    · simp [h, h.ne]
    · simp [BitVec.msb_eq_getLsbD_last]
    · simp [h.ne', h.not_gt, BitVec.getLsbD_of_ge v i (by omega)]

/-- A word put at the top of a wider one. -/
theorem wordPoly_top (hk : k ≤ w) (v : BitVec k) :
    wordPoly (v.setWidth w <<< (w - k)) = X ^ (w - k) * wordPoly v := by
  ext i
  rw [coeff_wordPoly, coeff_X_pow_mul', BitVec.getLsbD_shiftLeft, BitVec.getLsbD_setWidth]
  split_ifs with h
  · rw [coeff_wordPoly]
    rcases Nat.lt_or_ge i w with hi | hi
    · simp [hi, h.not_gt, show i - (w - k) < w by omega]
    · simp [hi.not_gt, BitVec.getLsbD_of_ge v (i - (w - k)) (by omega)]
  · simp [not_le.1 h]

/-! ## Errors a divisor does not miss -/

/-- At `1`, the polynomial of a string counts its ones. -/
theorem eval_one_bitPoly (l : List Bool) : (bitPoly l).eval 1 = (l.count true : ZMod 2) := by
  induction l with
  | nil => simp [bitPoly]
  | cons b l ih => cases b <;> simp [bitPoly, ih, add_comm]

variable {G : (ZMod 2)[X]}

/-- A multiple of `X + 1` has no multiple of an odd number of terms. -/
theorem not_dvd_of_odd (hG : X + 1 ∣ G) {l : List Bool} (h : Odd (l.count true)) :
    ¬G ∣ bitPoly l := by
  intro hdvd
  obtain ⟨q, hq⟩ := hG.trans hdvd
  have heval := congrArg (eval 1) hq
  rw [eval_one_bitPoly, eval_mul, eval_add, eval_X, eval_one, CharTwo.add_self_eq_zero,
    zero_mul] at heval
  exact (ZMod.natCast_ne_zero_iff_odd.2 h) heval

/-- A string with no ones. -/
theorem bitPoly_of_zero {l : List Bool} (h : l.count true = 0) : bitPoly l = 0 := by
  induction l with
  | nil => rfl
  | cons b l ih =>
    cases b with
    | false => rw [bitPoly, bit_false, C_0, zero_mul, zero_add, ih (by simpa using h)]
    | true => simp at h

/-- A string with a single one is a power of `X`. -/
theorem bitPoly_of_one {l : List Bool} (h : l.count true = 1) :
    ∃ i < l.length, bitPoly l = X ^ i := by
  induction l with
  | nil => simp at h
  | cons b l ih =>
    cases b with
    | false =>
      obtain ⟨i, hi, hl⟩ := ih (by simpa using h)
      exact ⟨i, hi.trans l.length.lt_succ_self, by simp [bitPoly, hl]⟩
    | true =>
      have hl : bitPoly l = 0 := bitPoly_of_zero (by simpa using h)
      exact ⟨l.length, l.length.lt_succ_self, by simp [bitPoly, hl]⟩

/-- A string with two ones is a sum of two powers of `X`. -/
theorem bitPoly_of_two {l : List Bool} (h : l.count true = 2) :
    ∃ i m, 0 < m ∧ i + m < l.length ∧ bitPoly l = X ^ i * (X ^ m + 1) := by
  induction l with
  | nil => simp at h
  | cons b l ih =>
    cases b with
    | false =>
      obtain ⟨i, m, hm, hi, hl⟩ := ih (by simpa using h)
      exact ⟨i, m, hm, hi.trans l.length.lt_succ_self, by simp [bitPoly, hl]⟩
    | true =>
      obtain ⟨i, hi, hl⟩ := bitPoly_of_one (l := l) (by simpa using h)
      have hlen : i + (l.length - i) = l.length := Nat.add_sub_cancel' hi.le
      refine ⟨i, l.length - i, Nat.sub_pos_of_lt hi, by rw [hlen, List.length_cons]; omega, ?_⟩
      rw [bitPoly, hl, bit_true, C_1, one_mul, mul_add, mul_one, ← pow_add, hlen]

/-- A polynomial with a constant term is coprime to the powers of `X`. -/
theorem dvd_of_dvd_X_pow_mul (hG : G.coeff 0 ≠ 0) {p : (ZMod 2)[X]} {i : ℕ}
    (h : G ∣ X ^ i * p) : G ∣ p := by
  have hX : IsCoprime X G :=
    irreducible_X.coprime_iff_not_dvd.2 fun hdvd => hG (X_dvd_iff.1 hdvd)
  exact hX.symm.pow_right.dvd_of_dvd_mul_left h

/-- Two ones at a distance `m` are missed only if `G` divides `X ^ m + 1`. -/
theorem not_dvd_of_two (hG : G.coeff 0 ≠ 0) {l : List Bool} (h : l.count true = 2)
    (hm : ∀ m, 0 < m → m < l.length → ¬G ∣ X ^ m + 1) : ¬G ∣ bitPoly l := by
  obtain ⟨i, m, hpos, hlt, hl⟩ := bitPoly_of_two h
  intro hdvd
  rw [hl] at hdvd
  exact hm m hpos (by omega) (dvd_of_dvd_X_pow_mul hG hdvd)

/-- Ones within as many consecutive bits as the degree of `G` are not missed. -/
theorem not_dvd_of_burst (hG : G.coeff 0 ≠ 0) {m : List Bool} (a c : ℕ)
    (hm : m.length ≤ G.degree) (h : true ∈ m) :
    ¬G ∣ bitPoly (List.replicate a false ++ m ++ List.replicate c false) := by
  rw [bitPoly_append, bitPoly_append, bitPoly_replicate, bitPoly_replicate, zero_mul, zero_add,
    add_zero, mul_comm]
  intro hdvd
  have hzero : bitPoly m = 0 :=
    eq_zero_of_dvd_of_degree_lt (dvd_of_dvd_X_pow_mul hG hdvd) ((degree_bitPoly_lt m).trans_le hm)
  exact absurd (bitPoly_eq_zero hzero true h) (by simp)

end Ig4u.Lib
