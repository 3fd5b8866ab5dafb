import Mathlib.Tactic

/-!
# Little-endian words

A 16-bit word is laid out as two bytes, the low one first: `lowByte` and
`highByte` split it with masks and shifts, `word16` joins two bytes with a shift
and an or, as C code does. In terms of naturals these are the remainder, the
quotient and the sum in base `256`. A 32-bit word is laid out as four bytes, which
`byteAt` and `word32` split and join.
-/

namespace Ig4u.Lib

/-- The low byte of a 16-bit word. -/
def lowByte (v : UInt16) : UInt8 := (v &&& 0xFF).toUInt8

/-- The high byte of a 16-bit word. -/
def highByte (v : UInt16) : UInt8 := ((v >>> 8) &&& 0xFF).toUInt8

/-- The 16-bit word of a low and a high byte. -/
def word16 (lo hi : UInt8) : UInt16 := lo.toUInt16 ||| (hi.toUInt16 <<< 8)

theorem or_shiftLeft_of_lt {a k : ℕ} (h : a < 2 ^ k) (b : ℕ) : a ||| b <<< k = a + 2 ^ k * b := by
  rw [Nat.or_comm, ← Nat.shiftLeft_add_eq_or_of_lt h, Nat.shiftLeft_eq, Nat.mul_comm, Nat.add_comm]

theorem lowByte_toNat (v : UInt16) : (lowByte v).toNat = v.toNat % 256 := by
  have h := Nat.and_two_pow_sub_one_eq_mod v.toNat 8
  simp only [lowByte, UInt16.toNat_toUInt8, UInt16.toNat_and]
  rw [show (0xFF : UInt16).toNat = 2 ^ 8 - 1 from rfl, h, Nat.mod_mod]

theorem highByte_toNat (v : UInt16) : (highByte v).toNat = v.toNat / 256 := by
  have h := Nat.and_two_pow_sub_one_eq_mod (v.toNat / 256) 8
  have hv := v.toNat_lt
  simp only [highByte, UInt16.toNat_toUInt8, UInt16.toNat_and, UInt16.toNat_shiftRight,
    Nat.shiftRight_eq_div_pow]
  rw [show 2 ^ ((8 : UInt16).toNat % 16) = 256 from rfl,
    show (0xFF : UInt16).toNat = 2 ^ 8 - 1 from rfl, h, Nat.mod_mod]
  omega

theorem word16_toNat (lo hi : UInt8) : (word16 lo hi).toNat = lo.toNat + 256 * hi.toNat := by
  have hlo := lo.toNat_lt
  have hhi := hi.toNat_lt
  have hs : hi.toNat <<< 8 % 2 ^ 16 = hi.toNat <<< 8 :=
    Nat.mod_eq_of_lt (by rw [Nat.shiftLeft_eq]; omega)
  simp only [word16, UInt16.toNat_or, UInt8.toNat_toUInt16, UInt16.toNat_shiftLeft]
  rw [show (8 : UInt16).toNat % 16 = 8 from rfl, hs, or_shiftLeft_of_lt hlo]
  rfl

/-- Joining the bytes of a word gives it back. -/
theorem word16_bytes (v : UInt16) : word16 (lowByte v) (highByte v) = v := by
  rw [← UInt16.toNat_inj, word16_toNat, lowByte_toNat, highByte_toNat]
  omega

/-- The length of up to `65535` bytes, read back from its two bytes. -/
theorem word16_ofNat {n : ℕ} (h : n < 65536) :
    (word16 (UInt8.ofNat (n &&& 0xFF)) (UInt8.ofNat ((n >>> 8) &&& 0xFF))).toNat = n := by
  have h₁ := Nat.and_two_pow_sub_one_eq_mod n 8
  have h₂ := Nat.and_two_pow_sub_one_eq_mod (n / 2 ^ 8) 8
  rw [word16_toNat, Nat.shiftRight_eq_div_pow, show (0xFF : ℕ) = 2 ^ 8 - 1 from rfl, h₁, h₂,
    UInt8.toNat_ofNat', UInt8.toNat_ofNat']
  omega

theorem lowByte_word16 (lo hi : UInt8) : lowByte (word16 lo hi) = lo := by
  have hlo := lo.toNat_lt
  rw [← UInt8.toNat_inj, lowByte_toNat, word16_toNat]
  omega

theorem highByte_word16 (lo hi : UInt8) : highByte (word16 lo hi) = hi := by
  have hlo := lo.toNat_lt
  rw [← UInt8.toNat_inj, highByte_toNat, word16_toNat]
  omega

/-- The bytes of a length are those of the word it was read from. -/
theorem ofNat_word16 (lo hi : UInt8) :
    UInt8.ofNat ((word16 lo hi).toNat &&& 0xFF) = lo ∧
      UInt8.ofNat (((word16 lo hi).toNat >>> 8) &&& 0xFF) = hi := by
  have hlo := lo.toNat_lt
  have hhi := hi.toNat_lt
  have h₁ := Nat.and_two_pow_sub_one_eq_mod (word16 lo hi).toNat 8
  have h₂ := Nat.and_two_pow_sub_one_eq_mod ((word16 lo hi).toNat / 2 ^ 8) 8
  rw [← UInt8.toNat_inj, ← UInt8.toNat_inj, Nat.shiftRight_eq_div_pow,
    show (0xFF : ℕ) = 2 ^ 8 - 1 from rfl, h₁, h₂, UInt8.toNat_ofNat', UInt8.toNat_ofNat',
    word16_toNat]
  omega

/-! ## 32-bit words -/

/-- The byte of a 32-bit word at the bit `k`. -/
def byteAt (v k : UInt32) : UInt8 := ((v >>> k) &&& 0xFF).toUInt8

/-- The 32-bit word of four bytes, the lowest first. -/
def word32 (b₀ b₁ b₂ b₃ : UInt8) : UInt32 :=
  b₀.toUInt32 ||| (b₁.toUInt32 <<< 8) ||| (b₂.toUInt32 <<< 16) ||| (b₃.toUInt32 <<< 24)

theorem byteAt_toNat (v k : UInt32) : (byteAt v k).toNat = v.toNat / 2 ^ (k.toNat % 32) % 256 := by
  have h := Nat.and_two_pow_sub_one_eq_mod (v.toNat / 2 ^ (k.toNat % 32)) 8
  simp only [byteAt, UInt32.toNat_toUInt8, UInt32.toNat_and, UInt32.toNat_shiftRight,
    Nat.shiftRight_eq_div_pow]
  rw [show (0xFF : UInt32).toNat = 2 ^ 8 - 1 from rfl, h, Nat.mod_mod]

/-- A byte is shifted within a 32-bit word without a loss. -/
theorem shiftLeft_toNat (b : UInt8) {k : UInt32} (hk : k.toNat ≤ 24) :
    (b.toUInt32 <<< k).toNat = b.toNat <<< k.toNat := by
  have hb : b.toNat * 2 ^ k.toNat < 2 ^ 8 * 2 ^ 24 :=
    Nat.mul_lt_mul_of_lt_of_le b.toNat_lt (Nat.pow_le_pow_right two_pos hk) (by positivity)
  have hmod : k.toNat % 32 = k.toNat := Nat.mod_eq_of_lt (by omega)
  rw [UInt32.toNat_shiftLeft, UInt8.toNat_toUInt32, hmod,
    Nat.mod_eq_of_lt (by rwa [Nat.shiftLeft_eq])]

theorem word32_toNat (b₀ b₁ b₂ b₃ : UInt8) :
    (word32 b₀ b₁ b₂ b₃).toNat =
      b₀.toNat + 2 ^ 8 * b₁.toNat + 2 ^ 16 * b₂.toNat + 2 ^ 24 * b₃.toNat := by
  have h₀ := b₀.toNat_lt
  have h₁ := b₁.toNat_lt
  have h₂ := b₂.toNat_lt
  simp only [word32, UInt32.toNat_or, UInt8.toNat_toUInt32]
  rw [shiftLeft_toNat b₁ (show _ from by decide), shiftLeft_toNat b₂ (show _ from by decide),
    shiftLeft_toNat b₃ (show _ from by decide), show (8 : UInt32).toNat = 8 from rfl,
    show (16 : UInt32).toNat = 16 from rfl, show (24 : UInt32).toNat = 24 from rfl,
    or_shiftLeft_of_lt h₀, or_shiftLeft_of_lt (k := 16) (by omega),
    or_shiftLeft_of_lt (k := 24) (by omega)]

/-- Joining the bytes of a 32-bit word gives it back. -/
theorem word32_bytes (v : UInt32) :
    word32 (byteAt v 0) (byteAt v 8) (byteAt v 16) (byteAt v 24) = v := by
  have hv := v.toNat_lt
  rw [← UInt32.toNat_inj, word32_toNat, byteAt_toNat, byteAt_toNat, byteAt_toNat, byteAt_toNat,
    show (0 : UInt32).toNat % 32 = 0 from rfl, show (8 : UInt32).toNat % 32 = 8 from rfl,
    show (16 : UInt32).toNat % 32 = 16 from rfl, show (24 : UInt32).toNat % 32 = 24 from rfl]
  omega

end Ig4u.Lib
