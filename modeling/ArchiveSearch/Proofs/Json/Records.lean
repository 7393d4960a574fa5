import ArchiveSearch.Json.Decode
import ArchiveSearch.Proofs.Outcome
import ArchiveSearch.Proofs.Pairs

namespace ArchiveSearch

set_option autoImplicit false

namespace Json

variable {α : Type}

theorem lookup_first (name first : String) (value : α) (rest : List (String × α)) :
    List.lookup name ((first, value) :: rest) = if name = first then some value else rest.lookup name := by
  rw [List.lookup_cons]
  by_cases same : name = first
  · rw [if_pos same, beq_iff_eq.2 same]
  · rw [if_neg same, beq_eq_false_iff_ne.2 same]

theorem lookup_inserted (name other : String) (value : α) (members : List (String × α)) :
    (insertMember name value members).lookup other =
      if other = name then some value else members.lookup other := by
  induction members with
  | nil => exact lookup_first other name value []
  | cons member rest ih =>
      obtain ⟨first, old⟩ := member
      rw [insertMember]
      by_cases here : name = first
      · subst here
        rw [if_pos rfl, lookup_first, lookup_first]
        by_cases same : other = name <;> simp [same]
      · rw [if_neg here]
        by_cases less : name < first
        · rw [if_pos less, lookup_first]
        · rw [if_neg less, lookup_first, lookup_first, ih]
          by_cases same : other = name
          · rw [if_pos same, if_pos same, if_neg (same ▸ here)]
          · rw [if_neg same, if_neg same]

theorem lookup_sorted (members : List (String × α)) (name : String) :
    (sortMembers members).lookup name = members.reverse.lookup name := by
  have folded : ∀ sorted : List (String × α),
      (members.foldl (fun sorted m => insertMember m.1 m.2 sorted) sorted).lookup name =
        (members.reverse ++ sorted).lookup name := by
    induction members with
    | nil => exact fun sorted => rfl
    | cons member rest ih =>
        intro sorted
        rw [List.foldl_cons, ih, List.reverse_cons, List.append_assoc, List.lookup_append,
          List.lookup_append, lookup_inserted, List.singleton_append, lookup_first]
  rw [sortMembers, folded, List.append_nil]

theorem inserted_subset (name : String) (value : α) (members : List (String × α)) :
    insertMember name value members ⊆ (name, value) :: members := by
  induction members with
  | nil => exact fun m mem => mem
  | cons member rest ih =>
      obtain ⟨first, old⟩ := member
      rw [insertMember]
      split
      · exact List.cons_subset_cons _ (List.subset_cons_self _ _)
      · split
        · exact List.Subset.refl _
        · intro m mem
          rcases List.mem_cons.1 mem with rfl | mem
          · simp
          · rcases List.mem_cons.1 (ih mem) with rfl | mem <;> simp [*]

theorem sorted_subset (members : List (String × α)) : sortMembers members ⊆ members := by
  have folded : ∀ sorted : List (String × α),
      members.foldl (fun sorted m => insertMember m.1 m.2 sorted) sorted ⊆ members ++ sorted := by
    induction members with
    | nil => exact fun sorted => List.Subset.refl _
    | cons member rest ih =>
        intro sorted m mem
        rcases List.mem_append.1 (ih _ mem) with mem | mem
        · simp [mem]
        · rcases List.mem_cons.1 (inserted_subset _ _ _ mem) with rfl | mem <;> simp [*]
  simpa [sortMembers] using folded []

end Json

theorem Json.get_written (members : List (String × Json)) (distinct : (members.map Prod.fst).Nodup)
    (name : String) (value : Json) (mem : (name, value) ∈ members) :
    (Json.object members).get? name = some value := by
  rw [get?, lookup_sorted]
  exact lookup_of_subset _ members name value (fun m => List.mem_reverse.1) distinct (List.mem_reverse.2 mem)

theorem Json.get_without (members : List (String × Json)) (distinct : (members.map Prod.fst).Nodup)
    (out name : String) (value : Json) (mem : (name, value) ∈ members) (other : name ≠ out) :
    (Json.object ((sortMembers members).filter (·.1 != out))).get? name = some value := by
  have among : ((sortMembers members).filter (·.1 != out)).reverse ⊆ members := fun m inside =>
    sorted_subset members (List.mem_of_mem_filter (List.mem_reverse.1 inside))
  have sorted : (name, value) ∈ sortMembers members := lookup_mem _ _ _ (get_written members distinct name value mem)
  rw [get?, lookup_sorted]
  refine lookup_of_subset _ members name value among distinct (List.mem_reverse.2 (List.mem_filter.2 ⟨sorted, ?_⟩))
  exact bne_iff_ne.2 other

namespace Record

variable {α : Type}

def Reads (r : Record) (name : String) (decode : Json → Decoded α) (a : α) : Prop :=
  ∃ j, r.given.lookup name = some j ∧ decode j = .ok a

def Offers (r : Record) (name : String) (decode : Json → Decoded α) (default a : α) : Prop :=
  (r.given.lookup name = none ∧ default = a) ∨ r.Reads name decode a

theorem required_ok_iff (r : Record) (name : String) (decode : Json → Decoded α) (a : α) :
    (r.field name decode).required r = .ok a ↔ r.Reads name decode a := by
  unfold Field.required field Reads
  cases r.given.lookup name with
  | none =>
      refine ⟨fun read => ?_, fun ⟨j, found, _⟩ => by cases found⟩
      cases length : r.length <;> simp [length] at read
  | some j => simp

theorem get_d_ok_iff (r : Record) (name : String) (decode : Json → Decoded α) (default a : α) :
    (r.field name decode).getD default = .ok a ↔ r.Offers name decode default a := by
  unfold Field.getD field Offers Reads
  cases r.given.lookup name with
  | none => simp
  | some j => simp

theorem Reads.faultless {r : Record} {name : String} {decode : Json → Decoded α} {a : α}
    (reads : r.Reads name decode a) : (r.field name decode).fault = (name, none) := by
  obtain ⟨j, found, decoded⟩ := reads
  simp [Field.fault, field, found, decoded]

theorem Offers.faultless {r : Record} {name : String} {decode : Json → Decoded α} {default a : α}
    (offers : r.Offers name decode default a) : (r.field name decode).fault = (name, none) := by
  rcases offers with ⟨absent, -⟩ | reads
  · simp [Field.fault, field, absent]
  · exact reads.faultless

theorem settle_ok (r : Record) (faults : List (String × Option DecodeError)) (fits : r.excess = none)
    (faultless : ∀ fault ∈ faults, fault.2 = none) : r.settle faults = .ok () := by
  have none_found : (r.given.findSome? fun member => (faults.lookup member.1).join) = none := by
    rw [List.findSome?_eq_none_iff]
    intro member _
    cases found : faults.lookup member.1 with
    | none => rfl
    | some fault => exact faultless _ (lookup_mem _ _ _ found)
  rw [settle, none_found, fits]

theorem settle_fits (r : Record) (faults : List (String × Option DecodeError))
    (settled : r.settle faults = .ok ()) : r.excess = none := by
  rw [settle] at settled
  split at settled
  · cases settled
  · split at settled
    · cases settled
    · assumption

def ofObject (place : Place) (kind : String) (fields : List String) (members : List (String × Json)) : Record :=
  { kind, fields, given := Json.sortMembers members, length := none, place }

section Members

variable {place : Place} {kind name : String} {fields : List String} {members : List (String × Json)}
  {decode : Json → Decoded α} {value : Json} {a : α}

theorem reads_member (there : (Json.object members).get? name = some value) (read : decode value = .ok a) :
    (ofObject place kind fields members).Reads name decode a :=
  ⟨value, there, read⟩

theorem offers_member {default : α} (there : (Json.object members).get? name = some value)
    (read : decode value = .ok a) : (ofObject place kind fields members).Offers name decode default a :=
  .inr (reads_member there read)

end Members

end Record

end ArchiveSearch
