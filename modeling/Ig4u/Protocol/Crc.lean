import Ig4u.Protocol.Basic
import Ig4u.Lib.Crc

/-!
# The CRC of the link

The loops of `IG4U_Proto_CalcCRC16` are the shift register of a CRC, on the bytes of
the message (`foldl_crcByte`), with the generator `X^16 + X^12 + X^5 + 1`.

* `calcCRC16_eq_remainder`: the loops compute a remainder; so the CRCs of two messages
  differ by what their difference determines, and the CRC can be continued.
* `foldl_crcByte_eq_word16_iff`: which errors the CRC misses. Its two bytes are on
  the line in the opposite order to that of the bits of the register.
-/

namespace Ig4u.Proto

open Lib Polynomial

/-- The generator of the link. -/
noncomputable def crcGenerator : (ZMod 2)[X] := X ^ 16 + X ^ 12 + X ^ 5 + 1

/-- The bits of some bytes, most significant bit first. -/
def bitsOf (d : List UInt8) : List Bool := d.flatMap fun b => msbFirst b.toBitVec

@[simp]
theorem length_bitsOf (d : List UInt8) : (bitsOf d).length = 8 * d.length := by
  simp [bitsOf, List.length_flatMap, mul_comm]

theorem bitsOf_append (d e : List UInt8) : bitsOf (d ++ e) = bitsOf d ++ bitsOf e :=
  List.flatMap_append

/-! ## The loops are a shift register -/

theorem generator_crc16Poly : Crc.generator crc16Poly.toBitVec = crcGenerator := by
  have hbits : msbFirst crc16Poly.toBitVec =
      [false, false, false, true, false, false, false, false, false, false, true, false, false,
        false, false, true] := by decide
  rw [Crc.generator, wordPoly, hbits, crcGenerator]
  simp [bitPoly, add_assoc]

theorem toBitVec_crcShift (crc : UInt16) :
    (crcShift crc).toBitVec = Crc.shift crc16Poly.toBitVec crc.toBitVec := by
  have hmask : crc.toBitVec &&& (0x8000 : UInt16).toBitVec =
      if crc.toBitVec.msb then BitVec.twoPow 16 15 else 0 := by
    rw [BitVec.msb_eq_getLsbD_last, show (0x8000 : UInt16).toBitVec = BitVec.twoPow 16 15 from rfl]
    exact BitVec.and_twoPow _ _
  have hmsb : crc &&& 0x8000 ≠ 0 ↔ crc.toBitVec.msb := by
    rw [Ne, ← UInt16.toBitVec_inj, UInt16.toBitVec_and, hmask]
    cases crc.toBitVec.msb <;> decide
  simp only [crcShift, Crc.shift, hmsb]
  split_ifs <;> rfl

theorem toBitVec_crcShifts (j : ℕ) (crc : UInt16) :
    (crcShifts j crc).toBitVec = (Crc.shift crc16Poly.toBitVec)^[j] crc.toBitVec := by
  induction j generalizing crc with
  | zero => rfl
  | succ j ih => rw [crcShifts, ih, toBitVec_crcShift, Function.iterate_succ_apply]

theorem toBitVec_crcByte (crc : UInt16) (b : UInt8) :
    (crcByte crc b).toBitVec = Crc.feed crc16Poly.toBitVec crc.toBitVec b.toBitVec := by
  rw [crcByte, toBitVec_crcShifts]
  rfl

theorem foldl_crcByte (d : List UInt8) (crc : UInt16) :
    (d.foldl crcByte crc).toBitVec =
      (d.map UInt8.toBitVec).foldl (Crc.feed crc16Poly.toBitVec) crc.toBitVec := by
  induction d generalizing crc with
  | nil => rfl
  | cons b d ih => rw [List.foldl_cons, ih, toBitVec_crcByte, List.map_cons, List.foldl_cons]

theorem flatMap_toBitVec (d : List UInt8) :
    (d.map UInt8.toBitVec).flatMap msbFirst = bitsOf d := List.flatMap_map _ _ _

/-! ## The CRC is a remainder -/

/-- The CRCs of two messages of one length differ as their difference determines. -/
theorem foldl_crcByte_xor {d e : List UInt8} (h : d.length = e.length) (u v : UInt16) :
    (List.zipWith (· ^^^ ·) d e).foldl crcByte (u ^^^ v) =
      d.foldl crcByte u ^^^ e.foldl crcByte v := by
  have hmap : (List.zipWith (· ^^^ ·) d e).map UInt8.toBitVec =
      List.zipWith (· ^^^ ·) (d.map UInt8.toBitVec) (e.map UInt8.toBitVec) := by
    rw [List.map_zipWith, List.zipWith_map]
    rfl
  rw [← UInt16.toBitVec_inj, foldl_crcByte, hmap, UInt16.toBitVec_xor, UInt16.toBitVec_xor,
    foldl_crcByte, foldl_crcByte]
  exact Crc.foldl_feed_xor (by simpa using h) _ _

/-- The CRC of a message `d` is the remainder of `0xFFFF(X) * X^(8n) + D(X) * X^16`. So
    the difference of the CRCs of two messages of one length is a function of the difference
    of the messages, and the loop goes on from the CRC of a prefix. -/
theorem calcCRC16_eq_remainder :
    (∀ d rest : List UInt8, wordPoly (calcCRC16 (some (d ++ rest)) d.length).toBitVec =
      (wordPoly 0xFFFF#16 * X ^ (8 * d.length) + bitPoly (bitsOf d) * X ^ 16) %ₘ
        (X ^ 16 + X ^ 12 + X ^ 5 + 1)) ∧
    (∀ a b : List UInt8, a.length = b.length →
      calcCRC16 (some a) a.length ^^^ calcCRC16 (some b) b.length =
        (List.zipWith (· ^^^ ·) a b).foldl crcByte 0) ∧
    (∀ a b : List UInt8, calcCRC16 (some (a ++ b)) (a ++ b).length =
      b.foldl crcByte (calcCRC16 (some a) a.length)) := by
  refine ⟨fun d rest => ?_, fun a b h => ?_, fun a b => ?_⟩
  · have hrem := Crc.wordPoly_foldl (g := crc16Poly.toBitVec) (by decide)
      (d.map UInt8.toBitVec) crc16Init.toBitVec
    rw [← foldl_crcByte, flatMap_toBitVec, List.length_map, generator_crc16Poly] at hrem
    rw [calcCRC16, List.take_left' rfl, hrem]
    rfl
  · have hxor := foldl_crcByte_xor h crc16Init crc16Init
    rw [UInt16.xor_self] at hxor
    rw [calcCRC16, calcCRC16, List.take_length, List.take_length, hxor]
  · rw [calcCRC16, calcCRC16, List.take_length, List.take_length, List.foldl_append]

/-! ## Missed errors -/

theorem toBitVec_word16 (lo hi : UInt8) :
    (word16 lo hi).toBitVec = hi.toBitVec ++ lo.toBitVec := by
  refine BitVec.eq_of_toNat_eq ?_
  rw [UInt16.toNat_toBitVec, word16_toNat, BitVec.toNat_append, UInt8.toNat_toBitVec,
    UInt8.toNat_toBitVec, Nat.or_comm, or_shiftLeft_of_lt lo.toNat_lt]
  norm_num

theorem word16_xor (lo hi lo' hi' : UInt8) :
    word16 lo hi ^^^ word16 lo' hi' = word16 (lo ^^^ lo') (hi ^^^ hi') := by
  rw [← UInt16.toBitVec_inj, UInt16.toBitVec_xor, toBitVec_word16, toBitVec_word16,
    toBitVec_word16, BitVec.xor_append]
  rfl

/-- The bits of a word, most significant bit first, are those of its high byte first. -/
theorem msbFirst_word16 (lo hi : UInt8) :
    msbFirst (word16 lo hi).toBitVec = bitsOf [hi, lo] := by
  rw [toBitVec_word16, msbFirst_append]
  simp [bitsOf]

/-- An error in a message and the bytes of its CRC is missed exactly if it is a multiple of the
    generator, the high byte of the CRC coming first. -/
theorem foldl_crcByte_eq_word16_iff (e : List UInt8) (lo hi : UInt8) :
    e.foldl crcByte 0 = word16 lo hi ↔ crcGenerator ∣ bitPoly (bitsOf (e ++ [hi, lo])) := by
  rw [← UInt16.toBitVec_inj, foldl_crcByte, ← generator_crc16Poly, bitsOf_append,
    ← msbFirst_word16, ← flatMap_toBitVec]
  exact Crc.foldl_feed_zero_eq_iff (by decide) _ _

/-! ## The generator -/

theorem coeff_zero_crcGenerator : crcGenerator.coeff 0 ≠ 0 := by
  rw [← generator_crc16Poly]
  exact Crc.coeff_zero_generator (by decide) (by decide)

theorem degree_crcGenerator : crcGenerator.degree = 16 := by
  rw [← generator_crc16Poly]
  exact Crc.degree_generator _

theorem X_add_one_dvd_crcGenerator : X + 1 ∣ crcGenerator := by
  rw [← C_1, ← CharTwo.sub_eq_add, dvd_iff_isRoot, IsRoot, crcGenerator]
  simp only [eval_add, eval_pow, eval_X, eval_one, one_pow]
  decide

/-- The generator does not miss two bits within the longest packet. -/
theorem not_crcGenerator_dvd {m : ℕ} (hm : 0 < m) (hle : m ≤ 8 * packetMaxTotal) :
    ¬crcGenerator ∣ X ^ m + 1 := by
  have hreturn : Crc.noReturn crc16Poly.toBitVec (8 * packetMaxTotal) 1 := by decide +kernel
  rw [← generator_crc16Poly]
  exact Crc.not_dvd_X_pow_add_one (by decide) hreturn hm hle

end Ig4u.Proto
