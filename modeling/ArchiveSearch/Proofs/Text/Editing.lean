import Mathlib.Order.Bounds.Basic
import ArchiveSearch.Proofs.Text.Distances

namespace ArchiveSearch.Text

set_option autoImplicit false

variable {α : Type}

inductive Edit : List α → List α → Prop where
  | insert (front back : List α) (c : α) : Edit (front ++ back) (front ++ c :: back)
  | remove (front back : List α) (c : α) : Edit (front ++ c :: back) (front ++ back)
  | replace (front back : List α) (c d : α) : Edit (front ++ c :: back) (front ++ d :: back)

inductive Edits : Nat → List α → List α → Prop where
  | none (xs : List α) : Edits 0 xs xs
  | next {count : Nat} {xs ys zs : List α} (first : Edit xs ys) (rest : Edits count ys zs) : Edits (count + 1) xs zs

theorem Edit.cons (c : α) {xs ys : List α} (edit : Edit xs ys) : Edit (c :: xs) (c :: ys) := by
  cases edit with
  | insert front back d => exact .insert (c :: front) back d
  | remove front back d => exact .remove (c :: front) back d
  | replace front back d e => exact .replace (c :: front) back d e

theorem Edit.symm {xs ys : List α} (edit : Edit xs ys) : Edit ys xs := by
  cases edit with
  | insert front back c => exact .remove front back c
  | remove front back c => exact .insert front back c
  | replace front back c d => exact .replace front back d c

theorem Edits.cons (c : α) {count : Nat} {xs ys : List α} (edits : Edits count xs ys) :
    Edits count (c :: xs) (c :: ys) := by
  induction edits with
  | none xs => exact .none (c :: xs)
  | next first _ ih => exact .next (first.cons c) ih

theorem Edits.last {count : Nat} {xs ys zs : List α} (edits : Edits count xs ys) (edit : Edit ys zs) :
    Edits (count + 1) xs zs := by
  induction edits with
  | none xs => exact .next edit (.none zs)
  | next first _ ih => exact .next first (ih edit)

theorem Edits.symm {count : Nat} {xs ys : List α} (edits : Edits count xs ys) : Edits count ys xs := by
  induction edits with
  | none xs => exact .none xs
  | next first _ ih => exact ih.last first.symm

theorem Edits.inserted (ys : List α) : Edits ys.length [] ys := by
  induction ys with
  | nil => exact .none []
  | cons y ys ih => exact .next (.insert [] [] y) (ih.cons y)

theorem Edits.removed (xs : List α) : Edits xs.length xs [] := by
  induction xs with
  | nil => exact .none []
  | cons x xs ih => exact .next (.remove [] xs x) ih

variable [DecidableEq α]

theorem edit_distance_nil_left (ys : List α) : editDistance [] ys = ys.length := by
  cases ys <;> rfl

theorem edit_distance_nil_right (xs : List α) : editDistance xs [] = xs.length := by
  induction xs with
  | nil => rfl
  | cons x xs ih => exact congrArg (· + 1) ih

theorem edit_distance_reached (xs ys : List α) : Edits (editDistance xs ys) xs ys := by
  induction xs generalizing ys with
  | nil => exact edit_distance_nil_left ys ▸ Edits.inserted ys
  | cons x xs ihx =>
      induction ys with
      | nil => exact edit_distance_nil_right (x :: xs) ▸ Edits.removed (x :: xs)
      | cons y ys ihy =>
          have replaced : Edits (editDistance xs ys + if x = y then 0 else 1) (x :: xs) (y :: ys) := by
            split
            · next same => exact same ▸ (ihx ys).cons x
            · exact .next (.replace [] xs x y) ((ihx ys).cons y)
          have removed : Edits (editDistance xs (y :: ys) + 1) (x :: xs) (y :: ys) :=
            .next (.remove [] xs x) (ihx (y :: ys))
          have inserted : Edits (editDistance (x :: xs) ys + 1) (x :: xs) (y :: ys) :=
            .next (.insert [] (x :: xs) y) (ihy.cons y)
          have least : ∀ a b c : Nat, min a (min b c) = a ∨ min a (min b c) = b ∨ min a (min b c) = c := by omega
          rw [edit_distance_cons_cons]
          rcases least (editDistance xs ys + if x = y then 0 else 1) (editDistance xs (y :: ys) + 1)
            (editDistance (x :: xs) ys + 1) with found | found | found
          · rwa [found]
          · rwa [found]
          · rwa [found]

def Near (xs ys : List α) : Prop :=
  ∀ zs, editDistance xs zs ≤ editDistance ys zs + 1

theorem inserted_le (xs : List α) (z : α) (zs : List α) : editDistance xs (z :: zs) ≤ editDistance xs zs + 1 := by
  cases xs with
  | nil => rw [edit_distance_nil_left, edit_distance_nil_left, List.length_cons]
  | cons x xs =>
      rw [edit_distance_cons_cons]
      omega

theorem near_removed (c : α) (xs : List α) : Near (c :: xs) xs := by
  intro zs
  cases zs with
  | nil => rw [edit_distance_nil_right, edit_distance_nil_right, List.length_cons]
  | cons z zs =>
      rw [edit_distance_cons_cons]
      omega

theorem near_inserted (c : α) (xs : List α) : Near xs (c :: xs) := by
  intro zs
  induction zs with
  | nil =>
      rw [edit_distance_nil_right, edit_distance_nil_right, List.length_cons]
      omega
  | cons z zs ih =>
      have further := inserted_le xs z zs
      rw [edit_distance_cons_cons c z]
      omega

theorem near_replaced (c d : α) (xs : List α) : Near (c :: xs) (d :: xs) := by
  intro zs
  induction zs with
  | nil =>
      rw [edit_distance_nil_right, edit_distance_nil_right, List.length_cons, List.length_cons]
      omega
  | cons z zs ih =>
      rw [edit_distance_cons_cons c z, edit_distance_cons_cons d z]
      split <;> split <;> omega

theorem Near.cons {xs ys : List α} (near : Near xs ys) (c : α) : Near (c :: xs) (c :: ys) := by
  intro zs
  induction zs with
  | nil =>
      have shorter := near []
      rw [edit_distance_nil_right, edit_distance_nil_right] at shorter ⊢
      exact Nat.succ_le_succ shorter
  | cons z zs ih =>
      have replaced := near zs
      have removed := near (z :: zs)
      rw [edit_distance_cons_cons c z xs, edit_distance_cons_cons c z ys]
      omega

theorem Near.append {xs ys : List α} (near : Near xs ys) (front : List α) : Near (front ++ xs) (front ++ ys) := by
  induction front with
  | nil => exact near
  | cons c front ih => exact ih.cons c

theorem Edit.near {xs ys : List α} (edit : Edit xs ys) : Near xs ys := by
  cases edit with
  | insert front back c => exact (near_inserted c back).append front
  | remove front back c => exact (near_removed c back).append front
  | replace front back c d => exact (near_replaced c d back).append front

theorem edit_distance_le_of_edits {count : Nat} {xs ys : List α} (edits : Edits count xs ys) :
    editDistance xs ys ≤ count := by
  induction edits with
  | none xs => exact (edit_distance_self xs).le
  | @next count xs ys zs first _ ih => exact (first.near zs).trans (Nat.succ_le_succ ih)

theorem edit_distance_is_least (xs ys : List α) : IsLeast {count | Edits count xs ys} (editDistance xs ys) :=
  ⟨edit_distance_reached xs ys, fun _ edits => edit_distance_le_of_edits edits⟩

theorem edit_distance_comm (xs ys : List α) : editDistance xs ys = editDistance ys xs :=
  Nat.le_antisymm (edit_distance_le_of_edits (edit_distance_reached ys xs).symm)
    (edit_distance_le_of_edits (edit_distance_reached xs ys).symm)

theorem edit_distance_eq_zero_iff (xs ys : List α) : editDistance xs ys = 0 ↔ xs = ys := by
  constructor
  · intro zero
    have reached := edit_distance_reached xs ys
    rw [zero] at reached
    cases reached
    rfl
  · rintro rfl
    exact edit_distance_self xs

end ArchiveSearch.Text
