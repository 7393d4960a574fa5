import Mathlib.Data.List.Infix
import ArchiveSearch.Text.Cursor
import ArchiveSearch.Text.EditDistance

/- Where one text stands in another, and how far two texts are apart. A text occurs in another if it is a stretch of
   it; the rows in which distances are found hold the distances of all endings. -/
namespace ArchiveSearch.Text

set_option autoImplicit false

theorem exact_is_some_iff (part : List Char) (before : Option Char) (cs : List Char) :
    (Cursor.exact part ⟨before, cs⟩).isSome = true ↔ part <+: cs := by
  induction part generalizing before cs with
  | nil => simp [Cursor.exact]
  | cons p part ih =>
      cases cs with
      | nil => simp [Cursor.exact, Cursor.one]
      | cons c cs =>
          rw [List.cons_prefix_cons]
          show ((Cursor.one (· == p) ⟨before, c :: cs⟩).bind (Cursor.exact part)).isSome = true ↔ _
          by_cases same : c = p
          · have ahead : Cursor.one (· == p) ⟨before, c :: cs⟩ = some ⟨some c, cs⟩ := if_pos (beq_iff_eq.2 same)
            rw [ahead, Option.bind_some, ih (some c) cs, same, and_iff_right rfl]
          · have stuck : Cursor.one (· == p) ⟨before, c :: cs⟩ = none := if_neg (by simpa using same)
            rw [stuck, Option.bind_none]
            simp [Ne.symm same]

theorem find_from_exact_iff (part : List Char) (before : Option Char) (whole : List Char) :
    (Cursor.findFrom (Cursor.exact part) before whole).isSome = true ↔ part <:+: whole := by
  induction whole generalizing before with
  | nil => rw [Cursor.findFrom, exact_is_some_iff, List.prefix_nil, List.infix_nil]
  | cons c rest ih =>
      rw [Cursor.findFrom, List.infix_cons_iff, ← exact_is_some_iff part before (c :: rest), ← ih (some c)]
      cases here : Cursor.exact part ⟨before, c :: rest⟩ with
      | some found => simp
      | none => simp

theorem occurs_in_iff (part whole : List Char) : occursIn part whole = true ↔ part <:+: whole :=
  find_from_exact_iff part none whole

section Distance

variable {α : Type} [DecidableEq α]

theorem distance_row_tail (y : α) (xs ys : List α) : (distanceRow xs (y :: ys)).tail = distanceRow xs ys := by
  induction xs with
  | nil => rfl
  | cons x xs ih =>
      show (nextRow x (y :: ys) (distanceRow xs (y :: ys))).tail = nextRow x ys (distanceRow xs ys)
      rw [nextRow, List.tail_cons, ih]

theorem edit_distance_cons_cons (x y : α) (xs ys : List α) :
    editDistance (x :: xs) (y :: ys) =
      min (editDistance xs ys + if x = y then 0 else 1)
        (min (editDistance xs (y :: ys) + 1) (editDistance (x :: xs) ys + 1)) := by
  show (nextRow x (y :: ys) (distanceRow xs (y :: ys))).headD 0 = _
  rw [nextRow, List.headD_cons, distance_row_tail]
  rfl

theorem edit_distance_self (xs : List α) : editDistance xs xs = 0 := by
  induction xs with
  | nil => rfl
  | cons x xs ih => rw [edit_distance_cons_cons, ih, if_pos rfl, Nat.zero_add, Nat.zero_min]

theorem edit_distance_replaced (x y : α) (xs : List α) : editDistance (x :: xs) (y :: xs) ≤ 1 := by
  rw [edit_distance_cons_cons, edit_distance_self]
  refine (Nat.min_le_left _ _).trans ?_
  split <;> omega

end Distance

end ArchiveSearch.Text
