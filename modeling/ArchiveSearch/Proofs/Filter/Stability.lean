import ArchiveSearch.Proofs.Filter.RoundTrip
import ArchiveSearch.Proofs.Json.Data
import ArchiveSearch.Proofs.Number.Whole

namespace ArchiveSearch

set_option autoImplicit false

theorem real_finite : Yields Decode.real fun x => x.isFinite = true := by
  intro j data x read
  cases j with
  | real y =>
      cases read
      exact data
  | integer n =>
      cases read
      simp only [Json.isData, Bool.and_eq_true, decide_eq_true_eq, Bound.int64, Bound.word64] at data
      exact Binary64.of_int_finite n (by omega)
  | _ => cases read

def Value.Settled (v : Value) : Prop :=
  v.isFinite = true ∧ v.reread = v

theorem value_settled : Yields Value.decode Value.Settled := by
  intro j data v read
  cases j with
  | bool b =>
      cases read
      exact ⟨rfl, rfl⟩
  | integer n =>
      rw [Value.decode] at read
      split at read
      · cases read
        exact ⟨rfl, rfl⟩
      · cases read
        exact ⟨real_finite (.integer n) data _ rfl, rfl⟩
  | real x =>
      cases read
      exact ⟨data, rfl⟩
  | string s =>
      rw [Value.decode] at read
      split at read
      · cases read
        exact ⟨rfl, rfl⟩
      · rename_i unread
        cases read
        exact ⟨rfl, by simp only [Value.reread, unread]⟩
  | _ => cases read

theorem range_finite (place : Place) : Yields (RangeFilter.decode place) fun f => f.isFinite = true := by
  intro j data f decoded
  obtain ⟨r, made, -, -, min, max, step⟩ := (RangeFilter.decode_ok_iff place j f).1 decoded
  have holds := Record.of_value_holds _ _ _ _ _ data made
  have stepped : ∀ x ∈ f.step, x.isFinite = true :=
    holds.offers (yields_optional real_finite) (fun _ mem => by cases mem) step
  have finite : f.step.all Binary64.isFinite = true := by
    cases given : f.step with
    | none => rfl
    | some x => exact stepped x (by rw [given]; rfl)
  rw [RangeFilter.isFinite, holds.reads real_finite min, holds.reads real_finite max, finite]
  rfl

theorem custom_settled (place : Place) : Yields (CustomFilter.decode place) fun f => f.value.Settled := by
  intro j data f decoded
  obtain ⟨r, made, -, -, -, value⟩ := (CustomFilter.decode_ok_iff place j f).1 decoded
  exact (Record.of_value_holds _ _ _ _ _ data made).reads value_settled value

def Filter.Stable (f : Filter) : Prop :=
  ∀ place, Filter.decode place f.encode = .ok f

theorem filter_stable (place : Place) : Yields (Filter.decode place) Filter.Stable := by
  intro j data f decoded here
  obtain ⟨r, made, -, -, -, -, -, ranges, -, customs⟩ := (Filter.decode_ok_iff place j f).1 decoded
  have holds := Record.of_value_holds _ _ _ _ _ data made
  have finite := holds.offers (yields_list (range_finite place)) (fun _ mem => by cases mem) ranges
  have settled := holds.offers (yields_list (custom_settled place)) (fun _ mem => by cases mem) customs
  have numbers : f.isFinite = true := by
    rw [Filter.isFinite, List.all_eq_true.2 finite, List.all_eq_true.2 fun c mem => (settled c mem).1]
    rfl
  have same : f.customs.map CustomFilter.reread = f.customs := by
    rw [List.map_congr_left fun c mem => show c.reread = id c by rw [CustomFilter.reread, (settled c mem).2]; rfl,
      List.map_id]
  rw [f.decode_encode here numbers, Filter.reread, same]

theorem Json.depth_item (items : List Json) (item : Json) (mem : item ∈ items) :
    item.depth ≤ depthItems items := by
  induction items with
  | nil => cases mem
  | cons first rest ih =>
      rw [depthItems]
      rcases List.mem_cons.1 mem with rfl | later
      · exact Nat.le_max_left _ _
      · exact Nat.le_trans (ih later) (Nat.le_max_right _ _)

theorem Json.depth_members_eq (members : List (String × Json)) :
    depthMembers members = depthItems (members.map Prod.snd) := by
  induction members with
  | nil => rfl
  | cons member rest ih =>
      rw [depthMembers, ih]
      rfl

open Record (ofObject reads_member offers_member)

namespace FilterTree

theorem encode_all_eq (children : List FilterTree) : encodeAll children = children.map encode := by
  induction children with
  | nil => rfl
  | cons child rest ih => rw [encodeAll, ih, List.map_cons]

def Stable (t : FilterTree) : Prop :=
  ∀ place levels, t.encode.depth < levels → decodeTo place levels t.encode = .ok t

theorem id_restored (id : Option String) :
    Decode.optional Decode.string (Json.ofOption .string id) = .ok id := by
  cases id <;> rfl

theorem decode_to_written (place : Place) (levels : Nat) (kind : Kind) (members : List (String × Json))
    (t : FilterTree) (distinct : (members.map Prod.fst).Nodup) (tagged : ("type", .string kind.name) ∈ members)
    (made : ∀ rest, (∀ name value, (name, value) ∈ members → name ≠ "type" →
      (Json.object rest).get? name = some value) →
        node (Decode.list (decodeTo .inTagged levels)) kind (.object rest) = .ok t) :
    decodeTo place (levels + 1) (.object members) = .ok t := by
  have tag : (Json.sortMembers members).lookup "type" = some (.string kind.name) :=
    Json.get_written members distinct _ _ tagged
  have read : Kind.decode place (.string kind.name) = .ok kind := by cases kind <;> rfl
  rw [decodeTo, splitTag, tag]
  simp only [read, Except.map]
  exact made _ fun name value => Json.get_without members distinct "type" name value

theorem leaf_stable (id : Option String) (filter : Filter) (stable : filter.Stable) : (leaf id filter).Stable := by
  intro place levels deep
  cases levels with
  | zero => cases deep
  | succ levels =>
      have distinct : ["type", "id", "filter"].Nodup := by decide
      refine decode_to_written place levels .leaf _ _ distinct (by simp [Kind.name]) fun rest found => ?_
      exact (leaf_ok_iff _ _ _).2 ⟨ofObject .., rfl, rfl, id, filter, rfl,
        offers_member (found "id" _ (by simp) (by decide)) (id_restored id),
        reads_member (found "filter" _ (by simp) (by decide)) (stable .inTagged)⟩

theorem children_restored (members : List (String × Json)) (children : List FilterTree)
    (stable : ∀ child ∈ children, child.Stable) (levels : Nat)
    (there : ("children", .array (encodeAll children)) ∈ members)
    (deep : (Json.object members).depth < levels + 1) :
    Decode.list (decodeTo .inTagged levels) (.array (encodeAll children)) = .ok children := by
  rw [encode_all_eq] at there ⊢
  refine list_restored _ _ _ fun child mem => stable child mem .inTagged levels ?_
  have inner := Json.depth_item (children.map encode) child.encode (List.mem_map_of_mem mem)
  have outer := Json.depth_item (members.map Prod.snd) _ (List.mem_map_of_mem there)
  rw [Json.depth] at outer
  rw [Json.depth, Json.depth_members_eq] at deep
  omega

theorem operator_stable (id : Option String) (connective : Connective) (children : List FilterTree)
    (stable : ∀ child ∈ children, child.Stable) : (operator id connective children).Stable := by
  intro place levels deep
  cases levels with
  | zero => cases deep
  | succ levels =>
      have distinct : ["type", "id", "operator", "children"].Nodup := by decide
      refine decode_to_written place levels .operator _ _ distinct (by simp [Kind.name]) fun rest found => ?_
      exact (operator_ok_iff _ _ _).2 ⟨ofObject .., rfl, rfl, id, connective, children, rfl,
        offers_member (found "id" _ (by simp) (by decide)) (id_restored id),
        reads_member (found "operator" _ (by simp) (by decide)) (connective.decode_name .inTagged),
        offers_member (found "children" _ (by simp) (by decide))
          (children_restored _ children stable levels (by simp) deep)⟩

theorem group_stable (id : Option String) (children : List FilterTree)
    (stable : ∀ child ∈ children, child.Stable) : (group id children).Stable := by
  intro place levels deep
  cases levels with
  | zero => cases deep
  | succ levels =>
      have distinct : ["type", "id", "children"].Nodup := by decide
      refine decode_to_written place levels .group _ _ distinct (by simp [Kind.name]) fun rest found => ?_
      exact (group_ok_iff _ _ _).2 ⟨ofObject .., rfl, rfl, id, children, rfl,
        offers_member (found "id" _ (by simp) (by decide)) (id_restored id),
        offers_member (found "children" _ (by simp) (by decide))
          (children_restored _ children stable levels (by simp) deep)⟩

theorem split_tag_data (place : Place) (j rest : Json) (kind : Kind) (data : j.isData = true)
    (split : splitTag place j = .ok (kind, rest)) : rest.isData = true := by
  cases j with
  | object members =>
      rw [splitTag] at split
      cases tagged : (Json.sortMembers members).lookup "type" with
      | none =>
          rw [tagged] at split
          cases split
      | some tag =>
          rw [tagged] at split
          obtain ⟨read, -, made⟩ := (map_ok_iff _ _ _).1 split
          cases made
          refine (Json.members_data_iff _).2 fun member mem => (Json.members_data_iff members).1 data member ?_
          exact Json.sorted_subset members (List.mem_of_mem_filter mem)
  | array items =>
      cases items with
      | nil => cases split
      | cons tag items =>
          obtain ⟨read, -, made⟩ := (map_ok_iff _ _ _).1 split
          cases made
          exact (Json.are_data_iff items).2 fun item mem =>
            (Json.are_data_iff (tag :: items)).1 data item (List.mem_cons_of_mem _ mem)
  | _ => cases split

theorem node_stable (levels : Nat) (yields : Yields (decodeTo .inTagged levels) Stable) (kind : Kind) :
    Yields (node (Decode.list (decodeTo .inTagged levels)) kind) Stable := by
  intro rest data t made
  cases kind with
  | leaf =>
      obtain ⟨r, given, -, id, filter, rfl, -, read⟩ := (leaf_ok_iff _ _ _).1 made
      have holds := Record.of_value_holds _ _ _ _ _ data given
      exact leaf_stable id filter (holds.reads (filter_stable .inTagged) read)
  | operator =>
      obtain ⟨r, given, -, id, connective, children, rfl, -, -, nested⟩ := (operator_ok_iff _ _ _).1 made
      have holds := Record.of_value_holds _ _ _ _ _ data given
      exact operator_stable id connective children
        (holds.offers (yields_list yields) (fun _ mem => by cases mem) nested)
  | group =>
      obtain ⟨r, given, -, id, children, rfl, -, nested⟩ := (group_ok_iff _ _ _).1 made
      have holds := Record.of_value_holds _ _ _ _ _ data given
      exact group_stable id children (holds.offers (yields_list yields) (fun _ mem => by cases mem) nested)

theorem tree_stable (levels : Nat) (place : Place) : Yields (decodeTo place levels) Stable := by
  induction levels generalizing place with
  | zero =>
      intro j data t read
      cases read
  | succ levels ih =>
      intro j data t read
      rw [decodeTo] at read
      obtain ⟨⟨kind, rest⟩, split, made⟩ := (bind_ok_iff _ _ _).1 read
      exact node_stable levels (ih .inTagged) kind rest (split_tag_data place j rest kind data split) t made

end FilterTree

-- A filter or tree that was read is written as JSON that reads as the same filter or tree, which is written as the
-- same JSON again.
theorem reading_stable (j : Json) (data : j.isData = true) :
    (∀ f, Filter.decode .inOpen j = .ok f →
      ∃ again, Filter.decode .inOpen f.encode = .ok again ∧ again = f ∧ again.encode = f.encode) ∧
    (∀ t, FilterTree.decode j = .ok t →
      ∃ again, FilterTree.decode t.encode = .ok again ∧ again = t ∧ again.encode = t.encode) :=
  ⟨fun f read => ⟨f, filter_stable .inOpen j data f read .inOpen, rfl, rfl⟩,
    fun t read => ⟨t, FilterTree.tree_stable _ .inOpen j data t read .inOpen _ (Nat.lt_succ_self _), rfl, rfl⟩⟩

-- A leaf is given by the list of its values, with an object for the connective, a date without its zeros and a
-- number that no signed word holds.
def nested : Json :=
  .object [("children", .array [
      .array [.integer 0, .string "a", .object [("customFilters", .array [
          .array [.string "born", .string ">", .string "2020-1-5"],
          .array [.string "size", .string "=", .integer 18446744073709551615],
          .array [.string "name", .string "LIKE", .string "2020-1"]]),
        ("contentType", .string "alumni"), ("operator", .object [("OR", .null)]),
        ("rangeFilters", .array [.object [("max", .integer 7), ("min", .real (.ofInt 3)),
          ("field", .string "year")]])]],
      .object [("operator", .string "AND"), ("type", .string "operator"), ("id", .null)]]),
    ("type", .string "group")]

def nestedTree : FilterTree :=
  .group none [
    .leaf (some "a") {
      contentType := .alumni
      connective := .or
      ranges := [{ field := "year", min := .ofInt 3, max := .ofInt 7 }]
      customs := [
        { field := "born", comparison := .greater, value := .date ⟨2020, 1, 5, rfl⟩ },
        { field := "size", comparison := .equal, value := .number (.ofInt 18446744073709551615) },
        { field := "name", comparison := .like, value := .text "2020-1" }] },
    .operator none .and []]

theorem nested_stable :
    nested.isData = true ∧ FilterTree.decode nested = .ok nestedTree ∧
      ∃ again, FilterTree.decode nestedTree.encode = .ok again ∧ again = nestedTree ∧
        again.encode = nestedTree.encode := by
  have data : nested.isData = true := by decide +kernel
  have read : FilterTree.decode nested = .ok nestedTree := by rfl
  exact ⟨data, read, (reading_stable nested data).2 nestedTree read⟩

end ArchiveSearch
