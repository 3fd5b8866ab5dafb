import Mathlib.Tactic
import Mathlib.Data.List.Basic

/-!
# Streams

The items `xs` are *drawn* from the list `l` (`Drawn R xs l`) if each has a block of `l` that it
is related to by `R`, the blocks being disjoint and in the order of the items. What lies
between the blocks does not matter. So nothing is made up, nothing is used twice, and nothing
overtakes.

A code `f` gives every symbol a word. It is *prefix-free* (`PrefixFree f`) if two texts that are the
same start with the same symbol.

* `Drawn.append`: what is drawn from two lists is drawn from them one after the other.
* `PrefixFree.flatMap_injective`: a text determines the symbols it is made of.
* `PrefixFree.eq_of_flatMap_prefix`: so does its start, as many of them as it has.
-/

namespace Ig4u.Lib

variable {α β γ : Type*} {R : α → List β → Prop} {xs ys : List α} {l m : List β}

/-- The items have disjoint blocks in the list, in their order. -/
inductive Drawn (R : α → List β → Prop) : List α → List β → Prop
  | nil (l : List β) : Drawn R [] l
  | cons {x : α} {xs : List α} (gap : List β) {block l : List β} (hx : R x block)
      (h : Drawn R xs l) : Drawn R (x :: xs) (gap ++ block ++ l)

namespace Drawn

/-- More may come before. -/
theorem prepend (h : Drawn R xs l) (gap : List β) : Drawn R xs (gap ++ l) := by
  cases h with
  | nil => exact .nil _
  | cons gap' hx h =>
    rw [← List.append_assoc, ← List.append_assoc]
    exact .cons (gap ++ gap') hx h

/-- What is drawn from two lists is drawn from them one after the other. -/
theorem append (h : Drawn R xs l) (h' : Drawn R ys m) : Drawn R (xs ++ ys) (l ++ m) := by
  induction h with
  | nil l => exact h'.prepend l
  | cons gap hx _ ih =>
    rw [List.append_assoc]
    exact .cons gap hx ih

/-- More may come after. -/
theorem extend (h : Drawn R xs l) (rest : List β) : Drawn R xs (l ++ rest) := by
  simpa using h.append (.nil rest)

/-- One item, with its block in the list. -/
theorem of_within {x : α} {block : List β} (hx : R x block) (h : block <:+: l) :
    Drawn R [x] l := by
  obtain ⟨gap, rest, rfl⟩ := h
  exact .cons gap hx (.nil rest)

/-- What is made of the items, each from the block of its item. -/
theorem map (h : Drawn R xs l) {S : γ → List β → Prop} (f : α → γ)
    (hf : ∀ x ∈ xs, ∀ block, R x block → S (f x) block) : Drawn S (xs.map f) l := by
  induction h with
  | nil l => exact .nil l
  | cons gap hx _ ih =>
    exact .cons gap (hf _ List.mem_cons_self _ hx) (ih fun y hy => hf y (List.mem_cons_of_mem _ hy))

/-- Some of the items. -/
theorem sublist (h : Drawn R xs l) (hys : ys.Sublist xs) : Drawn R ys l := by
  induction h generalizing ys with
  | nil l =>
    obtain rfl := List.sublist_nil.1 hys
    exact .nil l
  | cons gap hx _ ih =>
    cases hys with
    | cons _ hys => exact (ih hys).prepend _
    | cons_cons _ hys => exact .cons gap hx (ih hys)

end Drawn

/-! ## Codes -/

/-- Two texts that are the same start with the same symbol. -/
def PrefixFree (f : α → List β) : Prop := ∀ x y l m, f x ++ l = f y ++ m → x = y

/-- A text determines the symbols it is made of, if each has a letter. -/
theorem PrefixFree.flatMap_injective {f : α → List β} (h : PrefixFree f) (hne : ∀ x, f x ≠ []) :
    Function.Injective fun xs : List α => xs.flatMap f := by
  intro xs
  induction xs with
  | nil =>
    intro ys heq
    rcases ys with - | ⟨y, ys⟩
    · rfl
    · exact absurd (List.append_eq_nil_iff.1 heq.symm).1 (hne y)
  | cons x xs ih =>
    intro ys heq
    rcases ys with - | ⟨y, ys⟩
    · exact absurd (List.append_eq_nil_iff.1 heq).1 (hne x)
    · have heq' : f x ++ xs.flatMap f = f y ++ ys.flatMap f := heq
      obtain rfl := h x y _ _ heq'
      rw [ih (List.append_cancel_left heq')]

/-- A text that starts with the words of some symbols does not start with those of others, of the
    same number. -/
theorem PrefixFree.eq_of_flatMap_prefix {f : α → List β} (h : PrefixFree f) {text : List β}
    (hlen : xs.length = ys.length) (hxs : xs.flatMap f <+: text) (hys : ys.flatMap f <+: text) :
    xs = ys := by
  obtain ⟨l, rfl⟩ := hxs
  obtain ⟨m, heq⟩ := hys
  induction xs generalizing ys with
  | nil => exact (List.length_eq_zero_iff.1 hlen.symm).symm
  | cons x xs ih =>
    rcases ys with - | ⟨y, ys⟩
    · cases hlen
    · have heq' : f y ++ (ys.flatMap f ++ m) = f x ++ (xs.flatMap f ++ l) := by
        simpa only [List.flatMap_cons, List.append_assoc] using heq
      obtain rfl := h y x _ _ heq'
      rw [ih (Nat.succ.inj hlen) (List.append_cancel_left heq')]

end Ig4u.Lib
