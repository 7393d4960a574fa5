import ArchiveSearch.Proofs.Json.Arranged
import ArchiveSearch.Proofs.Json.Compact

/- What a value holds, whatever the order in which its members are written: an object is a finite map from names to values,
   and of several members with one name the last is the one that it holds. Two values hold the same exactly if they have one
   arranged form, and so exactly if they have one canonical text. -/
namespace ArchiveSearch

set_option autoImplicit false

inductive Content where
  | null
  | bool (b : Bool)
  | integer (n : Int)
  | real (x : Binary64)
  | string (s : String)
  | array (items : List Content)
  | object (members : String → Option Content)

namespace Json

mutual
def content : Json → Content
  | .null => .null
  | .bool b => .bool b
  | .integer n => .integer n
  | .real x => .real x
  | .string s => .string s
  | .array items => .array (contents items)
  | .object members => .object (memberContent members)
def contents : List Json → List Content
  | [] => []
  | item :: rest => content item :: contents rest
def memberContent : List (String × Json) → String → Option Content
  | [], _ => none
  | (name, value) :: rest, asked =>
      (memberContent rest asked).or (if asked = name then some (content value) else none)
end

theorem contents_eq (items : List Json) : contents items = items.map content := by
  induction items with
  | nil => rfl
  | cons item rest ih => rw [contents, ih, List.map_cons]

theorem member_content_eq (members : List (String × Json)) (name : String) :
    memberContent members name = (members.reverse.lookup name).map content := by
  induction members with
  | nil => rfl
  | cons member rest ih =>
      obtain ⟨first, value⟩ := member
      rw [memberContent, ih, List.reverse_cons, List.lookup_append, Option.map_or, lookup_first]
      by_cases same : name = first <;> simp [same]

theorem lookup_sorted_reverse (members : List (String × Json)) (name : String) :
    (sortMembers members).reverse.lookup name = members.reverse.lookup name := by
  rw [← lookup_sorted members name]
  exact lookup_perm (List.reverse_perm _) (sorted_sorted members).distinct name

mutual
theorem content_arranged (j : Json) : j.arrange.content = j.content := by
  cases j with
  | array items => rw [arrange, content, content, contents_arranged items]
  | object members =>
      rw [arrange, content, content]
      refine congrArg Content.object (funext fun name => ?_)
      rw [member_content_eq, lookup_sorted_reverse, ← member_content_eq, member_content_arranged members name]
  | _ => rfl
theorem contents_arranged (items : List Json) : contents (arrangeItems items) = contents items := by
  cases items with
  | nil => rfl
  | cons item rest => rw [arrangeItems, contents, contents, content_arranged item, contents_arranged rest]
theorem member_content_arranged (members : List (String × Json)) (name : String) :
    memberContent (arrangeMembers members) name = memberContent members name := by
  cases members with
  | nil => rfl
  | cons member rest =>
      rw [arrangeMembers, memberContent, memberContent, content_arranged member.2, member_content_arranged rest name]
end

theorem Sorted.ext {α : Type} {members others : List (String × α)} (sorted : Sorted members) (sorted' : Sorted others)
    (same : ∀ name, members.lookup name = others.lookup name) : members = others := by
  have member_iff : ∀ member, member ∈ members ↔ member ∈ others := by
    rintro ⟨name, value⟩
    constructor
    · exact fun mem => lookup_mem _ _ _ ((same name).symm.trans (lookup_of_nodup _ _ _ sorted.distinct mem))
    · exact fun mem => lookup_mem _ _ _ ((same name).trans (lookup_of_nodup _ _ _ sorted'.distinct mem))
  have perm : members.Perm others :=
    (List.perm_ext_iff_of_nodup (.of_map _ sorted.distinct) (.of_map _ sorted'.distinct)).2 member_iff
  exact perm.eq_of_pairwise (fun _ _ _ _ less more => absurd less (lt_asymm more)) sorted sorted'

mutual
theorem arranged_of_content (j k : Json) (same : j.content = k.content) : j.arrange = k.arrange := by
  cases j with
  | array items =>
      cases k with
      | array others =>
          simp only [content, Content.array.injEq] at same
          rw [arrange, arrange, arranged_items_of_content items others same]
      | _ => cases same
  | object members =>
      cases k with
      | object others =>
          simp only [content, Content.object.injEq] at same
          refine congrArg Json.object (Sorted.ext (sorted_sorted _) (sorted_sorted _) fun name => ?_)
          have found := congrFun same name
          rw [member_content_eq, member_content_eq] at found
          rw [lookup_sorted, lookup_sorted, lookup_arranged, lookup_arranged]
          cases mine : members.reverse.lookup name with
          | none =>
              rw [mine, Option.map_none, eq_comm, Option.map_eq_none_iff] at found
              rw [found]
          | some value =>
              rw [mine, Option.map_some, eq_comm, Option.map_eq_some_iff] at found
              obtain ⟨other, there, equal⟩ := found
              have mem := List.mem_reverse.1 (lookup_mem _ _ _ mine)
              rw [there, Option.map_some, Option.map_some, arranged_member_of_content members _ mem other equal.symm]
      | _ => cases same
  | _ =>
      cases k <;> cases same
      rfl
theorem arranged_items_of_content (items others : List Json) (same : contents items = contents others) :
    arrangeItems items = arrangeItems others := by
  cases items with
  | nil =>
      cases others with
      | nil => rfl
      | cons _ _ => cases same
  | cons item rest =>
      cases others with
      | nil => cases same
      | cons other rest' =>
          rw [contents, contents, List.cons.injEq] at same
          rw [arrangeItems, arrangeItems, arranged_of_content item other same.1,
            arranged_items_of_content rest rest' same.2]
theorem arranged_member_of_content (members : List (String × Json)) :
    ∀ member ∈ members, ∀ k : Json, member.2.content = k.content → member.2.arrange = k.arrange := by
  cases members with
  | nil => exact fun _ mem => absurd mem List.not_mem_nil
  | cons first rest =>
      refine List.forall_mem_cons.2 ⟨arranged_of_content first.2, arranged_member_of_content rest⟩
end

theorem arranged_iff_content (j k : Json) : j.arrange = k.arrange ↔ j.content = k.content := by
  refine ⟨fun same => ?_, arranged_of_content j k⟩
  rw [← content_arranged j, ← content_arranged k, same]

theorem are_finite_iff (items : List Json) : areFinite items = true ↔ ∀ item ∈ items, item.isFinite = true := by
  induction items with
  | nil => simp [areFinite]
  | cons item rest ih => simp [areFinite, ih]

theorem members_finite_iff (members : List (String × Json)) :
    membersFinite members = true ↔ ∀ member ∈ members, member.2.isFinite = true := by
  induction members with
  | nil => simp [membersFinite]
  | cons member rest ih => simp [membersFinite, ih]

mutual
theorem arranged_finite (j : Json) (finite : j.isFinite = true) : j.arrange.isFinite = true := by
  cases j with
  | array items =>
      rw [isFinite] at finite
      rw [arrange, isFinite]
      exact arranged_items_finite items finite
  | object members =>
      rw [isFinite] at finite
      rw [arrange, isFinite, members_finite_iff]
      intro member mem
      exact (members_finite_iff _).1 (arranged_members_finite members finite) member (sorted_subset _ mem)
  | _ => exact finite
theorem arranged_items_finite (items : List Json) (finite : areFinite items = true) :
    areFinite (arrangeItems items) = true := by
  cases items with
  | nil => rfl
  | cons item rest =>
      rw [areFinite, Bool.and_eq_true] at finite
      rw [arrangeItems, areFinite, arranged_finite item finite.1, arranged_items_finite rest finite.2]
      rfl
theorem arranged_members_finite (members : List (String × Json)) (finite : membersFinite members = true) :
    membersFinite (arrangeMembers members) = true := by
  cases members with
  | nil => rfl
  | cons member rest =>
      rw [membersFinite, Bool.and_eq_true] at finite
      rw [arrangeMembers, membersFinite, arranged_finite member.2 finite.1, arranged_members_finite rest finite.2]
      rfl
end

theorem canonical_iff_content (j k : Json) (finite : j.isFinite = true) (finite' : k.isFinite = true) :
    j.canonical = k.canonical ↔ j.content = k.content := by
  rw [← arranged_iff_content]
  constructor
  · exact compact_injective j.arrange k.arrange (arranged_finite j finite) (arranged_finite k finite')
  · exact congrArg compact

end Json

end ArchiveSearch
