import Mathlib.Data.String.Basic
import ArchiveSearch.Proofs.Json.Records

/- Decoding does not depend on the order of members. What decodes out of a value decodes out of its arranged form as the
   same: a record is found by its names, and of several members with one name the last is the one that stays. -/
namespace ArchiveSearch

set_option autoImplicit false

namespace Json

theorem arrange_items_eq (items : List Json) : arrangeItems items = items.map arrange := by
  induction items with
  | nil => rfl
  | cons item rest ih => rw [arrangeItems, ih, List.map_cons]

section Sorted

variable {α : Type}

def Sorted (members : List (String × α)) : Prop :=
  members.Pairwise fun m n => m.1 < n.1

theorem inserted_sorted (name : String) (value : α) (members : List (String × α)) (sorted : Sorted members) :
    Sorted (insertMember name value members) := by
  induction members with
  | nil => exact List.pairwise_singleton _ _
  | cons member rest ih =>
      obtain ⟨first, old⟩ := member
      obtain ⟨least, others⟩ := List.pairwise_cons.1 sorted
      rw [insertMember]
      by_cases same : name = first
      · rw [if_pos same, same]
        exact List.pairwise_cons.2 ⟨least, others⟩
      · rw [if_neg same]
        by_cases less : name < first
        · rw [if_pos less]
          exact List.pairwise_cons.2
            ⟨List.forall_mem_cons.2 ⟨less, fun m mem => less.trans (least m mem)⟩, sorted⟩
        · rw [if_neg less]
          refine List.pairwise_cons.2 ⟨fun m mem => ?_, ih others⟩
          rcases List.mem_cons.1 (inserted_subset name value rest mem) with rfl | mem
          · exact lt_of_le_of_ne (not_lt.1 less) (Ne.symm same)
          · exact least m mem

theorem sorted_sorted (members : List (String × α)) : Sorted (sortMembers members) := by
  have folded : ∀ sorted : List (String × α), Sorted sorted →
      Sorted (members.foldl (fun sorted m => insertMember m.1 m.2 sorted) sorted) := by
    induction members with
    | nil => exact fun _ sorted => sorted
    | cons member rest ih => exact fun _ sorted => ih _ (inserted_sorted member.1 member.2 _ sorted)
  exact folded [] List.Pairwise.nil

theorem Sorted.distinct {members : List (String × α)} (sorted : Sorted members) :
    (members.map Prod.fst).Nodup :=
  List.pairwise_map.2 (sorted.imp ne_of_lt)

theorem lookup_sorted_again (members : List (String × α)) (name : String) :
    (sortMembers (sortMembers members)).lookup name = (sortMembers members).lookup name := by
  rw [lookup_sorted]
  exact lookup_perm (List.reverse_perm _) (sorted_sorted members).distinct name

end Sorted

theorem lookup_arranged (members : List (String × Json)) (name : String) :
    (arrangeMembers members).reverse.lookup name = (members.reverse.lookup name).map arrange := by
  induction members with
  | nil => rfl
  | cons member rest ih =>
      obtain ⟨first, value⟩ := member
      rw [arrangeMembers, List.reverse_cons, List.reverse_cons, List.lookup_append, List.lookup_append, ih,
        lookup_first, lookup_first]
      cases rest.reverse.lookup name with
      | some value => rfl
      | none => by_cases same : name = first <;> simp [same]

end Json

section Arranges

variable {α : Type} {decode : Json → Decoded α}

def Arranges (decode : Json → Decoded α) : Prop :=
  ∀ j a, decode j = .ok a → decode j.arrange = .ok a

theorem arranges_plain (items : ∀ items a, decode (.array items) ≠ .ok a)
    (members : ∀ members a, decode (.object members) ≠ .ok a) : Arranges decode := by
  intro j a read
  cases j with
  | array inner => exact absurd read (items inner a)
  | object inner => exact absurd read (members inner a)
  | _ => exact read

theorem arranges_list (arranges : Arranges decode) : Arranges (Decode.list decode) := by
  intro j xs read
  cases j with
  | array items =>
      rw [Json.arrange, Json.arrange_items_eq]
      rw [Decode.list, map_each_ok_iff] at read ⊢
      rw [List.forall₂_map_left_iff]
      exact read.imp arranges
  | _ => cases read

theorem arranges_optional (arranges : Arranges decode) : Arranges (Decode.optional decode) := by
  intro j x read
  cases j with
  | array items =>
      obtain ⟨a, inner, made⟩ := (map_ok_iff _ _ _).1 read
      exact (map_ok_iff _ _ _).2 ⟨a, arranges _ a inner, made⟩
  | object members =>
      obtain ⟨a, inner, made⟩ := (map_ok_iff _ _ _).1 read
      exact (map_ok_iff _ _ _).2 ⟨a, arranges _ a inner, made⟩
  | _ => exact read

theorem arranges_variant (place : Place) (all : List α) (name : α → String) :
    Arranges (Decode.variant place all name) := by
  intro j a read
  cases j with
  | array items => cases read
  | object members =>
      match members with
      | [] => cases read
      | [(s, inner)] =>
          have one : (Json.object [(s, inner)]).arrange = .object [(s, inner.arrange)] := rfl
          rw [one]
          rw [Decode.variant] at read ⊢
          obtain ⟨value, named, made⟩ := (bind_ok_iff _ _ _).1 read
          refine (bind_ok_iff _ _ _).2 ⟨value, named, ?_⟩
          cases inner with
          | object members =>
              match members with
              | [] => exact made
              | _ :: _ => cases place <;> cases made
          | array items => cases place <;> cases made
          | _ => exact made
      | _ :: _ :: _ => cases read
  | _ => exact read

namespace Record

structure Rearranged (r s : Record) : Prop where
  fits : s.excess = r.excess
  given : ∀ name, s.given.lookup name = (r.given.lookup name).map Json.arrange

theorem zip_arranged (fields : List String) (items : List Json) (name : String) :
    (fields.zip (items.map Json.arrange)).lookup name = ((fields.zip items).lookup name).map Json.arrange := by
  induction fields generalizing items with
  | nil => rfl
  | cons field fields ih =>
      cases items with
      | nil => rfl
      | cons item items =>
          rw [List.map_cons, List.zip_cons_cons, List.zip_cons_cons, Json.lookup_first, Json.lookup_first, ih]
          by_cases same : name = field <;> simp [same]

theorem of_value_arranged (place : Place) (kind : String) (fields : List String) (j : Json) (r : Record)
    (made : ofValue place kind fields j = .ok r) :
    ∃ s, ofValue place kind fields j.arrange = .ok s ∧ r.Rearranged s := by
  cases j with
  | object members =>
      cases made
      refine ⟨_, rfl, rfl, fun name => ?_⟩
      rw [Json.lookup_sorted_again, Json.lookup_sorted, Json.lookup_sorted, Json.lookup_arranged]
  | array items =>
      cases made
      rw [Json.arrange, Json.arrange_items_eq]
      refine ⟨_, rfl, ?_, fun name => zip_arranged fields items name⟩
      simp only [excess, List.length_map]
  | _ => cases made

theorem Rearranged.reads {r s : Record} (same : r.Rearranged s) (arranges : Arranges decode) {name : String} {a : α}
    (reads : r.Reads name decode a) : s.Reads name decode a := by
  obtain ⟨j, found, read⟩ := reads
  exact ⟨j.arrange, by rw [same.given, found]; rfl, arranges j a read⟩

theorem Rearranged.offers {r s : Record} (same : r.Rearranged s) (arranges : Arranges decode) {name : String}
    {default a : α} (offers : r.Offers name decode default a) : s.Offers name decode default a := by
  rcases offers with ⟨absent, fallback⟩ | reads
  · exact .inl ⟨by rw [same.given, absent]; rfl, fallback⟩
  · exact .inr (same.reads arranges reads)

end Record

theorem arranges_string : Arranges Decode.string :=
  arranges_plain (fun _ _ read => nomatch read) (fun _ _ read => nomatch read)

theorem arranges_bool : Arranges Decode.bool :=
  arranges_plain (fun _ _ read => nomatch read) (fun _ _ read => nomatch read)

theorem arranges_real : Arranges Decode.real :=
  arranges_plain (fun _ _ read => nomatch read) (fun _ _ read => nomatch read)

theorem arranges_natural (bound : Nat) (wanted : String) : Arranges (Decode.natural bound wanted) :=
  arranges_plain (fun _ _ read => nomatch read) (fun _ _ read => nomatch read)

theorem arranges_date : Arranges Decode.date :=
  arranges_plain (fun _ _ read => nomatch read) (fun _ _ read => nomatch read)

end Arranges

end ArchiveSearch
