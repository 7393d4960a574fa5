import Mathlib.Data.List.Dedup
import Mathlib.Data.List.DropRight
import Mathlib.Data.List.Nodup

namespace ArchiveSearch

set_option autoImplicit false

-- Taking one entry out of a list that was cut short, or out of the whole, leaves the same in front: there is at most
-- one to be taken out.
theorem take_filter_take {α : Type} (key : α → String) (out : String) (xs : List α) (apart : (xs.map key).Nodup)
    (count : Nat) :
    ((xs.take (count + 1)).filter (key · != out)).take count = (xs.filter (key · != out)).take count := by
  induction xs generalizing count with
  | nil => rfl
  | cons x xs ih =>
      rw [List.map_cons, List.nodup_cons] at apart
      rw [List.take_succ_cons]
      by_cases same : key x = out
      · have others : ∀ y ∈ xs, (key y != out) = true := by
          intro y mem
          rw [bne_iff_ne]
          rintro rfl
          exact apart.1 (same ▸ List.mem_map_of_mem mem)
        rw [List.filter_cons_of_neg (by simp [same]), List.filter_cons_of_neg (by simp [same]),
          List.filter_eq_self.2 others, List.filter_eq_self.2 fun y mem => others y (List.mem_of_mem_take mem),
          List.take_take, Nat.min_self]
      · rw [List.filter_cons_of_pos (by simp [same]), List.filter_cons_of_pos (by simp [same])]
        cases count with
        | zero => rfl
        | succ count => rw [List.take_succ_cons, List.take_succ_cons, ih apart.2]

theorem absent_length {α : Type} (key : α → String) {kept xs : List α} (part : kept.Sublist xs)
    (apart : (xs.map key).Nodup) :
    (xs.filter fun x => decide (key x ∉ kept.map key)).length + kept.length = xs.length := by
  induction part with
  | slnil => rfl
  | @cons kept xs x part ih =>
      rw [List.map_cons, List.nodup_cons] at apart
      have gone : key x ∉ kept.map key := fun there => apart.1 ((part.map key).subset there)
      rw [List.filter_cons_of_pos (by simpa using gone), List.length_cons, List.length_cons, ← ih apart.2]
      omega
  | @cons_cons kept xs x part ih =>
      rw [List.map_cons, List.nodup_cons] at apart
      have same : ∀ y ∈ xs, decide (key y ∉ (x :: kept).map key) = decide (key y ∉ kept.map key) := by
        intro y mem
        have other : key y ≠ key x := fun same => apart.1 (same ▸ List.mem_map_of_mem mem)
        simp [other]
      rw [List.filter_cons_of_neg (by simp), List.filter_congr same, List.length_cons, List.length_cons, ← ih apart.2]
      omega

section Lists

variable {α : Type}

theorem rtake_of_le (xs : List α) (count : Nat) (short : xs.length ≤ count) : xs.rtake count = xs := by
  rw [List.rtake, Nat.sub_eq_zero_of_le short, List.drop_zero]

theorem rtake_sublist (xs : List α) (count : Nat) : (xs.rtake count).Sublist xs :=
  List.drop_sublist _ _

theorem map_rtake {β : Type} (f : α → β) (xs : List α) (count : Nat) :
    (xs.rtake count).map f = (xs.map f).rtake count := by
  rw [List.rtake, List.rtake, List.map_drop, List.length_map]

theorem rtake_filter_append (key : α → String) (xs : List α) (apart : (xs.map key).Nodup) (x : α) (count : Nat) :
    ((xs.rtake (count + 1)).filter (key · != key x) ++ [x]).rtake (count + 1) =
      (xs.filter (key · != key x) ++ [x]).rtake (count + 1) := by
  rw [List.rtake_concat_succ, List.rtake_concat_succ, List.rtake_eq_reverse_take_reverse xs,
    List.rtake_eq_reverse_take_reverse, List.rtake_eq_reverse_take_reverse, List.filter_reverse, List.reverse_reverse,
    ← List.filter_reverse]
  have turned : (xs.reverse.map key).Nodup := by
    rw [List.map_reverse]
    exact List.nodup_reverse.2 apart
  rw [take_filter_take key (key x) xs.reverse turned count]

theorem dedup_concat (xs : List String) (x : String) : (xs ++ [x]).dedup = xs.dedup.filter (· != x) ++ [x] := by
  induction xs with
  | nil => rfl
  | cons first rest ih =>
      rw [List.cons_append, List.dedup_cons, List.dedup_cons, ih]
      by_cases known : first ∈ rest
      · rw [if_pos known, if_pos (List.mem_append_left _ known)]
      · rw [if_neg known]
        by_cases same : first = x
        · rw [if_pos (by simp [same]), List.filter_cons_of_neg (by simp [same])]
        · rw [if_neg (by simp [known, same]), List.filter_cons_of_pos (by simp [same]), List.cons_append]

theorem find_rtake (key : α → String) (xs : List α) (apart : (xs.map key).Nodup) (count : Nat) (name : String) :
    (xs.rtake count).find? (key · == name) =
      if name ∈ (xs.map key).rtake count then xs.find? (key · == name) else none := by
  rw [← map_rtake]
  by_cases kept : name ∈ (xs.rtake count).map key
  · rw [if_pos kept]
    obtain ⟨x, mem, rfl⟩ := List.mem_map.1 kept
    have only : ∀ ys : List α, ys.Sublist xs → x ∈ ys → ys.find? (key · == key x) = some x := by
      intro ys part inside
      cases found : ys.find? (key · == key x) with
      | none => exact absurd (beq_self_eq_true (key x)) (List.find?_eq_none.1 found x inside)
      | some y =>
          have named := List.find?_some found
          have there := part.subset (List.mem_of_find?_eq_some found)
          rw [List.inj_on_of_nodup_map apart there (part.subset inside) (beq_iff_eq.1 named)]
    rw [only _ (rtake_sublist xs count) mem, only xs (List.Sublist.refl xs) ((rtake_sublist xs count).subset mem)]
  · rw [if_neg kept, List.find?_eq_none]
    intro x mem named
    exact kept (List.mem_map.2 ⟨x, mem, beq_iff_eq.1 named⟩)

end Lists

end ArchiveSearch
