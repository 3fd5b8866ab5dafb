import Ig4u.Lib.Gf2
import Mathlib.RingTheory.AdjoinRoot

/-!
# Cyclic redundancy checks

The shift register of a CRC, for words of any width: a word `g` gives the
generator `X ^ w + g(X)`, a message is a list of words of a width `k ≤ w`, read most
significant bit first.

The register is followed in the quotient by the generator, where a shift is the
multiplication by `X` (`mk_shift`).

* `wordPoly_foldl`: the register computes the remainder modulo the generator.
* `foldl_feed_xor`: it is linear.
* `foldl_feed_zero_eq_iff`: an error in a message and its CRC is missed exactly if
  its polynomial is a multiple of the generator.
* `not_dvd_X_pow_add_one`: how far apart two bits are missed can be computed.
-/

namespace Ig4u.Lib.Crc

open Polynomial AdjoinRoot

variable {w k : ℕ} (g : BitVec w)

/-- The generator. -/
noncomputable def generator : (ZMod 2)[X] := X ^ w + wordPoly g

/-- A shift of the register. -/
def shift (c : BitVec w) : BitVec w := if c.msb then (c <<< 1) ^^^ g else c <<< 1

/-- Feeding a word to the register. -/
def feed (c : BitVec w) (b : BitVec k) : BitVec w :=
  (shift g)^[k] (c ^^^ (b.setWidth w <<< (w - k)))

/-! ## The generator -/

theorem monic_generator : (generator g).Monic := monic_X_pow_add (degree_wordPoly_lt g)

theorem degree_generator : (generator g).degree = w := by
  rw [generator, degree_add_eq_left_of_degree_lt] <;> rw [degree_X_pow]
  exact degree_wordPoly_lt g

variable {g}

theorem coeff_zero_generator (hw : 0 < w) (hg : g.getLsbD 0) : (generator g).coeff 0 ≠ 0 := by
  rw [generator, coeff_add, coeff_X_pow, coeff_wordPoly, if_neg hw.ne, hg]
  exact one_ne_zero

/-- The residues of words tell them apart. -/
theorem mk_wordPoly_inj {u v : BitVec w} :
    mk (generator g) (wordPoly u) = mk (generator g) (wordPoly v) ↔ u = v := by
  refine ⟨fun h => wordPoly_injective (sub_eq_zero.1 ?_), fun h => h ▸ rfl⟩
  refine eq_zero_of_dvd_of_degree_lt (mk_eq_mk.1 h) ?_
  rw [degree_generator]
  exact (degree_sub_le _ _).trans_lt (max_lt (degree_wordPoly_lt u) (degree_wordPoly_lt v))

/-! ## The register -/

/-- A shift multiplies by `X`. -/
theorem mk_shift (c : BitVec w) :
    mk (generator g) (wordPoly (shift g c)) = mk (generator g) (X * wordPoly c) := by
  rw [mk_eq_mk, X_mul_wordPoly, shift]
  split_ifs with h
  · -- The bit dropped is replaced by the rest of the generator.
    rw [wordPoly_xor, h, bit_true, C_1, one_mul, add_sub_add_left_eq_sub, CharTwo.sub_eq_add,
      add_comm, ← generator]
  · rw [Bool.eq_false_of_not_eq_true h, bit_false, C_0, zero_mul, add_zero, sub_self]
    exact dvd_zero _

theorem mk_shift_iterate (n : ℕ) (c : BitVec w) :
    mk (generator g) (wordPoly ((shift g)^[n] c)) = mk (generator g) (X ^ n * wordPoly c) := by
  induction n with
  | zero => rw [Function.iterate_zero_apply, pow_zero, one_mul]
  | succ n ih =>
    rw [Function.iterate_succ_apply', mk_shift, map_mul, ih, ← map_mul, ← mul_assoc, pow_succ']

theorem mk_feed (hk : k ≤ w) (c : BitVec w) (b : BitVec k) :
    mk (generator g) (wordPoly (feed g c b)) =
      mk (generator g) (X ^ k * wordPoly c + X ^ w * wordPoly b) := by
  have hw : (X ^ w : (ZMod 2)[X]) = X ^ k * X ^ (w - k) := by rw [← pow_add, Nat.add_sub_cancel' hk]
  rw [feed, mk_shift_iterate, wordPoly_xor, wordPoly_top hk, mul_add, hw, mul_assoc]

/-- The residue of the register after a message. -/
theorem mk_foldl (hk : k ≤ w) (d : List (BitVec k)) (c : BitVec w) :
    mk (generator g) (wordPoly (d.foldl (feed g) c)) =
      mk (generator g)
        (wordPoly c * X ^ (k * d.length) + bitPoly (d.flatMap msbFirst) * X ^ w) := by
  -- The induction is on the message, for every register.
  induction d generalizing c with
  | nil => simp [bitPoly]
  | cons b d ih =>
    have hlen : (d.flatMap msbFirst).length = k * d.length := by
      simp [List.length_flatMap, mul_comm]
    have hpoly : wordPoly c * X ^ (k * (b :: d).length) +
        bitPoly ((b :: d).flatMap msbFirst) * X ^ w =
        (X ^ k * wordPoly c + X ^ w * wordPoly b) * X ^ (k * d.length) +
          bitPoly (d.flatMap msbFirst) * X ^ w := by
      rw [List.flatMap_cons, bitPoly_append, hlen, ← wordPoly, List.length_cons, mul_add_one,
        pow_add]
      ring
    rw [List.foldl_cons, ih, hpoly, map_add, map_mul, mk_feed hk, ← map_mul, ← map_add]

/-- The register computes the remainder of the message modulo the generator. -/
theorem wordPoly_foldl (hk : k ≤ w) (d : List (BitVec k)) (c : BitVec w) :
    wordPoly (d.foldl (feed g) c) =
      (wordPoly c * X ^ (k * d.length) + bitPoly (d.flatMap msbFirst) * X ^ w) %ₘ
        generator g := by
  obtain ⟨q, hq⟩ := mk_eq_mk.1 (mk_foldl (g := g) hk d c).symm
  refine ((div_modByMonic_unique q _ (monic_generator g) ⟨?_, ?_⟩).2).symm
  · rw [← hq, add_sub_cancel]
  · rw [degree_generator]
    exact degree_wordPoly_lt _

/-! ## Linearity -/

theorem shift_xor (u v : BitVec w) : shift g (u ^^^ v) = shift g u ^^^ shift g v := by
  refine (mk_wordPoly_inj (g := g)).1 ?_
  rw [mk_shift, wordPoly_xor, wordPoly_xor, mul_add, map_add, map_add, mk_shift, mk_shift]

theorem shift_iterate_xor (n : ℕ) (u v : BitVec w) :
    (shift g)^[n] (u ^^^ v) = (shift g)^[n] u ^^^ (shift g)^[n] v := by
  induction n generalizing u v with
  | zero => rfl
  | succ n ih => rw [Function.iterate_succ_apply, shift_xor, ih]; rfl

theorem feed_xor (u v : BitVec w) (a b : BitVec k) :
    feed g (u ^^^ v) (a ^^^ b) = feed g u a ^^^ feed g v b := by
  rw [feed, feed, feed, ← shift_iterate_xor]
  congr 1
  rw [BitVec.setWidth_xor, BitVec.shiftLeft_xor_distrib]
  ac_rfl

/-- The registers after two messages of one length differ as the register after their
    difference. -/
theorem foldl_feed_xor {d e : List (BitVec k)} (h : d.length = e.length) (u v : BitVec w) :
    (List.zipWith (· ^^^ ·) d e).foldl (feed g) (u ^^^ v) =
      d.foldl (feed g) u ^^^ e.foldl (feed g) v := by
  induction d generalizing e u v with
  | nil => simp [List.length_eq_zero_iff.1 h.symm]
  | cons a d ih =>
    cases e with
    | nil => simp at h
    | cons b e =>
      rw [List.zipWith_cons_cons, List.foldl_cons, List.foldl_cons, List.foldl_cons, feed_xor]
      exact ih (by simpa using h) _ _

/-! ## Missed errors -/

/-- From the register zero, the words are fed to `c` exactly if they and `c` make a
    multiple of the generator. -/
theorem foldl_feed_zero_eq_iff (hk : k ≤ w) (d : List (BitVec k)) (c : BitVec w) :
    d.foldl (feed g) 0 = c ↔ generator g ∣ bitPoly (d.flatMap msbFirst ++ msbFirst c) := by
  rw [← mk_wordPoly_inj (g := g), mk_foldl hk, mk_eq_mk, wordPoly_zero, zero_mul, zero_add,
    CharTwo.sub_eq_add, bitPoly_append, length_msbFirst, wordPoly]

/-- The register comes back to `1` after the distances at which the generator misses two bits. -/
theorem dvd_X_pow_add_one_iff (hw : 0 < w) (m : ℕ) :
    generator g ∣ X ^ m + 1 ↔ (shift g)^[m] 1 = 1 := by
  have hone : wordPoly (1 : BitVec w) = 1 := by
    ext i
    rw [coeff_wordPoly, coeff_one]
    rcases i with - | i <;> simp [hw]
  rw [← mk_wordPoly_inj (g := g), mk_shift_iterate, mk_eq_mk, hone, mul_one, CharTwo.sub_eq_add]

/-- In the next `n` shifts from `c`, the register does not come back to `1`. -/
def noReturn (g : BitVec w) : ℕ → BitVec w → Bool
  | 0, _ => true
  | n + 1, c => shift g c != 1 && noReturn g n (shift g c)

theorem noReturn_spec {n : ℕ} {c : BitVec w} (h : noReturn g n c) {m : ℕ} (hm : 0 < m)
    (hn : m ≤ n) : (shift g)^[m] c ≠ 1 := by
  induction n generalizing c m with
  | zero => omega
  | succ n ih =>
    rw [noReturn, Bool.and_eq_true, bne_iff_ne] at h
    obtain ⟨m, rfl⟩ : ∃ j, m = j + 1 := ⟨m - 1, by omega⟩
    rw [Function.iterate_succ_apply]
    rcases Nat.eq_zero_or_pos m with rfl | hpos
    · exact h.1
    · exact ih h.2 hpos (by omega)

/-- A generator whose register does not come back to `1` misses no two bits at such a distance. -/
theorem not_dvd_X_pow_add_one (hw : 0 < w) {n : ℕ} (h : noReturn g n 1) {m : ℕ} (hm : 0 < m)
    (hn : m ≤ n) : ¬generator g ∣ X ^ m + 1 := by
  rw [dvd_X_pow_add_one_iff hw]
  exact noReturn_spec h hm hn

end Ig4u.Lib.Crc
