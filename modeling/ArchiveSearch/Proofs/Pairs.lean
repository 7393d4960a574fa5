import Mathlib.Data.List.Nodup

namespace ArchiveSearch

set_option autoImplicit false

theorem lookup_mem {α β : Type} [BEq α] [LawfulBEq α] (pairs : List (α × β)) (a : α) (b : β)
    (found : pairs.lookup a = some b) : (a, b) ∈ pairs := by
  induction pairs with
  | nil => cases found
  | cons pair rest ih =>
      rw [List.lookup_cons] at found
      split at found
      · rename_i same
        cases found
        rw [eq_of_beq same]
        exact List.mem_cons_self
      · exact List.mem_cons_of_mem _ (ih found)

theorem lookup_of_nodup {α β : Type} [BEq α] [LawfulBEq α] (pairs : List (α × β)) (a : α) (b : β)
    (distinct : (pairs.map Prod.fst).Nodup) (mem : (a, b) ∈ pairs) : pairs.lookup a = some b := by
  induction pairs with
  | nil => cases mem
  | cons pair rest ih =>
      rw [List.map_cons, List.nodup_cons] at distinct
      rw [List.lookup_cons]
      rcases List.mem_cons.1 mem with rfl | later
      · rw [beq_self_eq_true]
      · have apart : (a == pair.1) = false := by
          rw [beq_eq_false_iff_ne]
          rintro rfl
          exact distinct.1 (List.mem_map.2 ⟨_, later, rfl⟩)
        rw [apart]
        exact ih distinct.2 later

theorem lookup_of_subset {α β : Type} [BEq α] [LawfulBEq α] (pairs known : List (α × β)) (a : α) (b : β)
    (among : pairs ⊆ known) (distinct : (known.map Prod.fst).Nodup) (mem : (a, b) ∈ pairs) :
    pairs.lookup a = some b := by
  have only := lookup_of_nodup known a b distinct (among mem)
  cases found : pairs.lookup a with
  | none =>
      have absent := List.lookup_eq_none_iff.1 found (a, b) mem
      simp at absent
  | some c =>
      have other := lookup_of_nodup known a c distinct (among (lookup_mem pairs a c found))
      exact other.symm.trans only

theorem lookup_perm {α β : Type} [BEq α] [LawfulBEq α] {pairs others : List (α × β)} (same : pairs.Perm others)
    (distinct : (others.map Prod.fst).Nodup) (a : α) : pairs.lookup a = others.lookup a := by
  cases found : others.lookup a with
  | none =>
      rw [List.lookup_eq_none_iff] at found ⊢
      exact fun pair mem => found pair (same.mem_iff.1 mem)
  | some b => exact lookup_of_subset pairs others a b same.subset distinct (same.mem_iff.2 (lookup_mem others a b found))

section Put

variable {β : Type}

def putPair (key : String) (b : β) (pairs : List (String × β)) : List (String × β) :=
  if pairs.any fun x => x.1 == key then pairs.map fun x => if x.1 == key then (key, b) else x
  else pairs ++ [(key, b)]

variable (key : String) (b : β) (pairs : List (String × β))

theorem any_key : (pairs.any fun x => x.1 == key) = true ↔ key ∈ pairs.map Prod.fst := by
  simp only [List.any_eq_true, beq_iff_eq, List.mem_map]

theorem lookup_absent (absent : key ∉ pairs.map Prod.fst) : pairs.lookup key = none := by
  refine List.lookup_eq_none_iff.2 fun x mem => ?_
  rw [bne_iff_ne]
  exact fun same => absent (List.mem_map.2 ⟨x, mem, same.symm⟩)

theorem put_pair_keys : (putPair key b pairs).map Prod.fst =
    if key ∈ pairs.map Prod.fst then pairs.map Prod.fst else pairs.map Prod.fst ++ [key] := by
  unfold putPair
  by_cases known : key ∈ pairs.map Prod.fst
  · rw [if_pos known, if_pos ((any_key key pairs).2 known), List.map_map]
    refine List.map_congr_left fun x _ => ?_
    by_cases same : x.1 = key <;> simp [same]
  · rw [if_neg known, if_neg (known ∘ (any_key key pairs).1), List.map_append]
    rfl

theorem put_pair_nodup (distinct : (pairs.map Prod.fst).Nodup) : ((putPair key b pairs).map Prod.fst).Nodup := by
  rw [put_pair_keys]
  by_cases known : key ∈ pairs.map Prod.fst
  · rwa [if_pos known]
  · rw [if_neg known]
    refine List.nodup_append.2 ⟨distinct, List.nodup_singleton key, fun a mem c last same => ?_⟩
    rw [same, List.mem_singleton.1 last] at mem
    exact known mem

theorem put_pair_mem (x : String × β) (mem : x ∈ putPair key b pairs) : x = (key, b) ∨ x ∈ pairs := by
  unfold putPair at mem
  split at mem
  · obtain ⟨y, inside, made⟩ := List.mem_map.1 mem
    by_cases same : y.1 = key
    · exact .inl (by rw [← made, if_pos (beq_iff_eq.2 same)])
    · rw [if_neg (by simp [same])] at made
      exact .inr (made ▸ inside)
  · exact (List.mem_append.1 mem).symm.imp List.mem_singleton.1 id

theorem lookup_replaced (known : key ∈ pairs.map Prod.fst) :
    (pairs.map fun x => if x.1 == key then (key, b) else x).lookup key = some b := by
  induction pairs with
  | nil => cases known
  | cons x rest ih =>
      rw [List.map_cons]
      by_cases same : x.1 = key
      · rw [if_pos (beq_iff_eq.2 same), List.lookup_cons_self]
      · rw [if_neg (by simp [same]), List.lookup_cons, beq_eq_false_iff_ne.2 (Ne.symm same)]
        exact ih ((List.mem_cons.1 known).resolve_left (Ne.symm same))

theorem lookup_beside (query : String) (other : query ≠ key) :
    (pairs.map fun x => if x.1 == key then (key, b) else x).lookup query = pairs.lookup query := by
  induction pairs with
  | nil => rfl
  | cons x rest ih =>
      rw [List.map_cons, List.lookup_cons, List.lookup_cons, ih]
      by_cases same : x.1 = key
      · rw [if_pos (beq_iff_eq.2 same), same, beq_eq_false_iff_ne.2 other]
      · rw [if_neg (by simp [same])]

theorem lookup_put_pair (query : String) :
    (putPair key b pairs).lookup query = if query = key then some b else pairs.lookup query := by
  unfold putPair
  by_cases known : key ∈ pairs.map Prod.fst
  · rw [if_pos ((any_key key pairs).2 known)]
    by_cases asked : query = key
    · rw [if_pos asked, asked, lookup_replaced key b pairs known]
    · rw [if_neg asked, lookup_beside key b pairs query asked]
  · rw [if_neg (known ∘ (any_key key pairs).1), List.lookup_append]
    by_cases asked : query = key
    · rw [if_pos asked, asked, lookup_absent key pairs known, List.lookup_cons_self, Option.none_or]
    · rw [if_neg asked, List.lookup_cons, beq_eq_false_iff_ne.2 asked, List.lookup_nil, Option.or_none]

theorem replaced_others :
    (pairs.map fun x => if x.1 == key then (key, b) else x).filter (·.1 != key) = pairs.filter (·.1 != key) := by
  induction pairs with
  | nil => rfl
  | cons x rest ih =>
      rw [List.map_cons, List.filter_cons, List.filter_cons, ih]
      by_cases same : x.1 = key <;> simp [same]

theorem put_pair_others : (putPair key b pairs).filter (·.1 != key) = pairs.filter (·.1 != key) := by
  unfold putPair
  split
  · exact replaced_others key b pairs
  · simp

theorem lookup_parted (distinct : (pairs.map Prod.fst).Nodup) :
    pairs.Perm (((pairs.lookup key).map fun c => (key, c)).toList ++ pairs.filter (·.1 != key)) := by
  induction pairs with
  | nil => exact List.Perm.refl _
  | cons x rest ih =>
      rw [List.map_cons, List.nodup_cons] at distinct
      by_cases same : x.1 = key
      · have others : ∀ y ∈ rest, (y.1 != key) = true := fun y mem => by
          rw [bne_iff_ne]
          rintro rfl
          exact distinct.1 (same ▸ List.mem_map_of_mem mem)
        rw [← same, List.lookup_cons_self, List.filter_cons_of_neg (by simp), same, List.filter_eq_self.2 others]
        exact List.Perm.of_eq (by rw [← same]; rfl)
      · rw [List.lookup_cons, beq_eq_false_iff_ne.2 (Ne.symm same), List.filter_cons_of_pos (by simp [same])]
        exact ((ih distinct.2).cons x).trans List.perm_middle.symm

end Put

end ArchiveSearch
