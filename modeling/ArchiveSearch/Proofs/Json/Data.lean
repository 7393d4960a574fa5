import ArchiveSearch.Proofs.Json.Records

/- What a JSON value can hold. Its whole numbers fit into 64 bits, with a sign or without, and its fractional numbers
   are finite; every value that a text reads as is of this kind. What holds of everything that a decoder gives out of
   such values holds of what their lists and records give. -/
namespace ArchiveSearch

set_option autoImplicit false

namespace Json

mutual
def isData : Json → Bool
  | .integer n => -(Bound.int64 : Int) ≤ n && n < Bound.word64
  | .real x => x.isFinite
  | .array items => areData items
  | .object members => membersData members
  | .null => true
  | .bool _ => true
  | .string _ => true
def areData : List Json → Bool
  | [] => true
  | item :: rest => isData item && areData rest
def membersData : List (String × Json) → Bool
  | [] => true
  | (_, value) :: rest => isData value && membersData rest
end

theorem are_data_iff (items : List Json) : areData items = true ↔ ∀ item ∈ items, item.isData = true := by
  induction items with
  | nil => simp [areData]
  | cons item rest ih => simp [areData, ih]

theorem members_data_iff (members : List (String × Json)) :
    membersData members = true ↔ ∀ member ∈ members, member.2.isData = true := by
  induction members with
  | nil => simp [membersData]
  | cons member rest ih => simp [membersData, ih]

end Json

section Yields

variable {α : Type} {P : α → Prop} {decode : Json → Decoded α}

def Yields (decode : Json → Decoded α) (P : α → Prop) : Prop :=
  ∀ j : Json, j.isData = true → ∀ a, decode j = .ok a → P a

theorem yields_list (yields : Yields decode P) : Yields (Decode.list decode) fun xs => ∀ x ∈ xs, P x := by
  intro j data xs read x mem
  cases j with
  | array items =>
      obtain ⟨item, inside, same⟩ := map_each_ok_mem decode items xs read x mem
      exact yields item ((Json.are_data_iff items).1 data item inside) x same
  | _ => cases read

theorem yields_optional (yields : Yields decode P) : Yields (Decode.optional decode) fun a => ∀ x ∈ a, P x := by
  intro j data a read x mem
  cases mem
  cases j with
  | null => cases read
  | _ =>
      obtain ⟨y, same, made⟩ := (map_ok_iff _ _ _).1 read
      cases made
      exact yields _ data x same

namespace Record

def Holds (r : Record) : Prop :=
  ∀ name value, r.given.lookup name = some value → value.isData = true

theorem of_value_holds (place : Place) (kind : String) (fields : List String) (j : Json) (r : Record)
    (data : j.isData = true) (made : ofValue place kind fields j = .ok r) : r.Holds := by
  intro name value found
  have mem := lookup_mem _ _ _ found
  cases j with
  | object members =>
      cases made
      exact (Json.members_data_iff members).1 data _ (Json.sorted_subset members mem)
  | array items =>
      cases made
      exact (Json.are_data_iff items).1 data _ (List.of_mem_zip mem).2
  | _ => cases made

theorem Holds.reads {r : Record} (holds : r.Holds) (yields : Yields decode P) {name : String} {a : α}
    (reads : r.Reads name decode a) : P a := by
  obtain ⟨value, found, read⟩ := reads
  exact yields value (holds name value found) a read

theorem Holds.offers {r : Record} (holds : r.Holds) (yields : Yields decode P) {name : String} {default a : α}
    (fallback : P default) (offers : r.Offers name decode default a) : P a := by
  rcases offers with ⟨-, rfl⟩ | reads
  · exact fallback
  · exact holds.reads yields reads

end Record

end Yields

end ArchiveSearch
