import Mathlib.Tactic
import Mathlib.Data.List.GetD

/-!
# Buffers

`overwrite buf i data` is the buffer `buf` after copying `data` to its offset
`i`, as `memcpy`, `memset` and a driver storing into it do. As long as the data
fits, the buffer keeps its size and its other bytes.

`window buf n` is the memory in which only the first `n` bytes of the buffer can be
read. A function that reads through it and succeeds has read no other byte.
-/

namespace Ig4u.Lib

variable {α : Type*}

/-- The buffer `buf` with `data` copied to its offset `i`. -/
def overwrite (buf : List α) (i : ℕ) (data : List α) : List α :=
  buf.take i ++ data ++ buf.drop (i + data.length)

/-- Copying to the start keeps what follows. -/
theorem overwrite_zero (buf data : List α) :
    overwrite buf 0 data = data ++ buf.drop data.length := by
  simp [overwrite]

/-- Copying just after the first bytes of a buffer. -/
theorem overwrite_append (xs ys data : List α) :
    overwrite (xs ++ ys) xs.length data = xs ++ data ++ ys.drop data.length := by
  simp [overwrite, List.drop_append]

/-- Copying within a buffer keeps its size. -/
theorem length_overwrite {buf data : List α} {i : ℕ} (h : i + data.length ≤ buf.length) :
    (overwrite buf i data).length = buf.length := by
  simp only [overwrite, List.length_append, List.length_take, List.length_drop]
  omega

/-- The bytes up to the end of what is copied. -/
theorem take_overwrite {buf data : List α} {i : ℕ} (h : i ≤ buf.length) :
    (overwrite buf i data).take (i + data.length) = buf.take i ++ data := by
  rw [overwrite, List.take_left' (by simp [h])]

/-- Two consecutive bytes of a buffer. -/
theorem take_two {buf : List α} {i : ℕ} (h : i + 2 ≤ buf.length) (a : α) :
    (buf.drop i).take 2 = [buf.getD i a, buf.getD (i + 1) a] := by
  have h₀ : i < buf.length := by omega
  have h₁ : i + 1 < buf.length := by omega
  rw [List.getD_eq_getElem _ _ h₀, List.getD_eq_getElem _ _ h₁, List.drop_eq_getElem_cons h₀,
    List.drop_eq_getElem_cons h₁]
  rfl

/-- The memory in which the first `n` bytes of a buffer can be read, and no others. -/
def window (buf : List α) (n : ℕ) : ℕ → Option α := fun i => (buf.take n)[i]?

/-- Within its bounds, the memory holds the bytes of the buffer. -/
theorem window_eq_some {buf : List α} {n i : ℕ} (hn : n ≤ buf.length) (hi : i < n) (a : α) :
    window buf n i = some (buf.getD i a) := by
  have h : i < buf.length := hi.trans_le hn
  rw [window, List.getElem?_take_of_lt hi, List.getElem?_eq_getElem h, List.getD_eq_getElem _ _ h]

end Ig4u.Lib
