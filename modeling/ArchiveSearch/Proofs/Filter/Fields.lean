import ArchiveSearch.Filter.Validation
import ArchiveSearch.Proofs.Json.Records
import Mathlib.Data.List.Nodup

namespace ArchiveSearch

set_option autoImplicit false

def Column.isMissing (field : String) : Bool :=
  (Column.ofField? field).isNone

def Issue.isOfField (i : Issue) : Bool :=
  ".field".toList.isSuffixOf i.field.toList

namespace Filter

def fieldsIn {α : Type} (list : String) (field : α → String) (xs : List α) : List (String × String) :=
  xs.zipIdx.map fun x => (pathOf list x.2 ++ ".field", field x.1)

def fields (f : Filter) : List (String × String) :=
  fieldsIn "textFilters" TextFilter.field f.texts ++ fieldsIn "dateFilters" DateFilter.field f.dates ++
    fieldsIn "rangeFilters" RangeFilter.field f.ranges ++
    fieldsIn "booleanFilters" BooleanFilter.field f.booleans ++
    fieldsIn "customFilters" CustomFilter.field f.customs

def fieldAt? (f : Filter) (path : String) : Option String :=
  f.fields.lookup path

theorem fields_in_names {α : Type} (list : String) (field : α → String) (xs : List α) :
    (fieldsIn list field xs).map Prod.snd = xs.map field := by
  rw [fieldsIn, List.map_map]
  exact (List.map_map (f := Prod.fst) (g := field) (l := xs.zipIdx)).symm.trans (by rw [List.zipIdx_map_fst])

theorem path_to_list (list : String) (index : Nat) :
    (pathOf list index ++ ".field").toList =
      list.toList ++ '[' :: (Nat.toDigits 10 index ++ ']' :: ".field".toList) := by
  simp [pathOf, String.toList_append, Nat.toList_repr]

theorem path_inj (list : String) (i j : Nat) (same : pathOf list i ++ ".field" = pathOf list j ++ ".field") :
    i = j := by
  have chars := congrArg String.toList same
  rw [path_to_list, path_to_list] at chars
  have digits := List.append_cancel_right (List.cons.inj (List.append_cancel_left chars)).2
  rw [← Nat.ofDigitChars_ten_toDigits (n := i), digits, Nat.ofDigitChars_ten_toDigits]

section Lists

variable {α β : Type} (list other : String) (field : α → String) (field' : β → String) (xs : List α) (ys : List β)

theorem paths_nodup : ((fieldsIn list field xs).map Prod.fst).Nodup := by
  have indices : (fieldsIn list field xs).map Prod.fst =
      (xs.zipIdx.map Prod.snd).map fun i => pathOf list i ++ ".field" := by
    rw [fieldsIn, List.map_map, List.map_map]
    rfl
  rw [indices, List.zipIdx_map_snd]
  exact List.Nodup.map (fun i j => path_inj list i j) List.nodup_range'

theorem path_head (path : String) (mem : path ∈ (fieldsIn list field xs).map Prod.fst) (c : Char)
    (head : list.toList.head? = some c) : path.toList.head? = some c := by
  simp only [fieldsIn, List.map_map, List.mem_map, Function.comp_def] at mem
  obtain ⟨x, -, rfl⟩ := mem
  rw [path_to_list, List.head?_append, head, Option.some_or]

theorem paths_disjoint (c d : Char) (head : list.toList.head? = some c) (head' : other.toList.head? = some d)
    (apart : c ≠ d) :
    List.Disjoint ((fieldsIn list field xs).map Prod.fst) ((fieldsIn other field' ys).map Prod.fst) := by
  intro path here there
  have first := path_head list field xs path here c head
  rw [path_head other field' ys path there d head'] at first
  exact apart (Option.some.inj first).symm

end Lists

theorem fields_nodup (f : Filter) : (f.fields.map Prod.fst).Nodup := by
  simp only [fields, List.map_append, List.nodup_append', List.disjoint_append_left]
  have t : "textFilters".toList.head? = some 't' := rfl
  have d : "dateFilters".toList.head? = some 'd' := rfl
  have r : "rangeFilters".toList.head? = some 'r' := rfl
  have b : "booleanFilters".toList.head? = some 'b' := rfl
  have c : "customFilters".toList.head? = some 'c' := rfl
  refine ⟨⟨⟨⟨paths_nodup _ _ _, paths_nodup _ _ _, ?_⟩, paths_nodup _ _ _, ?_, ?_⟩, paths_nodup _ _ _,
    ⟨?_, ?_⟩, ?_⟩, paths_nodup _ _ _, ⟨⟨?_, ?_⟩, ?_⟩, ?_⟩
  · exact paths_disjoint _ _ _ _ _ _ _ _ t d (by decide)
  · exact paths_disjoint _ _ _ _ _ _ _ _ t r (by decide)
  · exact paths_disjoint _ _ _ _ _ _ _ _ d r (by decide)
  · exact paths_disjoint _ _ _ _ _ _ _ _ t b (by decide)
  · exact paths_disjoint _ _ _ _ _ _ _ _ d b (by decide)
  · exact paths_disjoint _ _ _ _ _ _ _ _ r b (by decide)
  · exact paths_disjoint _ _ _ _ _ _ _ _ t c (by decide)
  · exact paths_disjoint _ _ _ _ _ _ _ _ d c (by decide)
  · exact paths_disjoint _ _ _ _ _ _ _ _ r c (by decide)
  · exact paths_disjoint _ _ _ _ _ _ _ _ b c (by decide)

theorem field_at_eq (f : Filter) (path field : String) (mem : (path, field) ∈ f.fields) :
    f.fieldAt? path = some field :=
  lookup_of_nodup f.fields path field f.fields_nodup mem

theorem of_field (path message : String) : Issue.isOfField ⟨path ++ ".field", message⟩ = true := by
  rw [Issue.isOfField, List.isSuffixOf_iff_suffix, String.toList_append]
  exact List.suffix_append _ _

theorem of_other_part (path part message : String) (c : Char) (last : part.toList.getLast? = some c)
    (apart : c ≠ 'd') : Issue.isOfField ⟨path ++ part, message⟩ = false := by
  rw [Bool.eq_false_iff, Ne, Issue.isOfField, List.isSuffixOf_iff_suffix, String.toList_append]
  rintro ⟨before, same⟩
  have ends := congrArg List.getLast? same
  rw [List.getLast?_append, List.getLast?_append, last] at ends
  exact apart (Option.some.inj ends).symm

theorem blank_startless (c : Char) (blank : Text.isBlank c = true) : Column.startsName c = false := by
  rw [Bool.eq_false_iff]
  intro starts
  have range : 65 ≤ c.toNat ∧ c.toNat ≤ 122 := by
    simp only [Column.startsName, Column.isUpper, Bool.or_eq_true, Bool.and_eq_true, decide_eq_true_eq,
      beq_iff_eq] at starts
    rcases starts with (upper | lower) | rfl
    · have low : 65 ≤ c.toNat := upper.1
      have high : c.toNat ≤ 90 := upper.2
      omega
    · have low : 97 ≤ c.toNat := lower.1
      have high : c.toNat ≤ 122 := lower.2
      omega
    · decide
  simp [Text.isBlank] at blank
  omega

theorem blank_is_missing (field : String) (blank : Text.isAllBlank field = true) : Column.isMissing field = true := by
  unfold Column.isMissing Column.ofField?
  cases chars : field.toList with
  | nil => rfl
  | cons first rest =>
      rw [Text.isAllBlank, chars, List.all_cons, Bool.and_eq_true] at blank
      simp [Column.isIdentifier, blank_startless first blank.1]

def fieldPaths (issues : List Issue) : List String :=
  (issues.filter Issue.isOfField).map Issue.field

theorem field_paths_append (a b : List Issue) : fieldPaths (a ++ b) = fieldPaths a ++ fieldPaths b := by
  rw [fieldPaths, List.filter_append, List.map_append]
  rfl

theorem field_issues_paths (path field : String) :
    fieldPaths (fieldIssues path field) = if Column.isMissing field then [path ++ ".field"] else [] := by
  unfold fieldIssues
  by_cases blank : Text.isAllBlank field = true
  · rw [if_pos blank, if_pos (blank_is_missing field blank)]
    simp [fieldPaths, of_field]
  · rw [if_neg blank, ← Column.isMissing]
    by_cases missing : Column.isMissing field = true
    · rw [if_pos missing, if_pos missing]
      simp [fieldPaths, of_field]
    · rw [if_neg missing, if_neg missing]
      rfl

theorem field_paths_other (issue : Issue) (other : issue.isOfField = false) : fieldPaths [issue] = [] := by
  rw [fieldPaths, List.filter_cons_of_neg (by rw [other]; decide)]
  rfl

theorem field_issues_append_paths (path field : String) (others : List Issue) (silent : fieldPaths others = []) :
    fieldPaths (fieldIssues path field ++ others) =
      if Column.isMissing field then [path ++ ".field"] else [] := by
  rw [field_paths_append, field_issues_paths, silent, List.append_nil]

theorem text_issues_paths (path : String) (f : TextFilter) :
    fieldPaths (textIssues path f) = if Column.isMissing f.field then [path ++ ".field"] else [] := by
  refine field_issues_append_paths path f.field _ ?_
  rw [apply_ite fieldPaths, field_paths_other _ (of_other_part path ".value" _ 'e' rfl (by decide))]
  exact ite_self _

theorem date_issues_paths (path : String) (f : DateFilter) :
    fieldPaths (dateIssues path f) = if Column.isMissing f.field then [path ++ ".field"] else [] := by
  refine field_issues_append_paths path f.field _ ?_
  split
  · rw [apply_ite fieldPaths, field_paths_other _ (of_other_part path ".start" _ 't' rfl (by decide))]
    exact ite_self _
  · rfl

theorem range_issues_paths (list : String) (index : Nat) (f : RangeFilter) :
    fieldPaths (rangeIssues (pathOf list index) f) =
      if Column.isMissing f.field then [pathOf list index ++ ".field"] else [] := by
  rw [rangeIssues, List.append_assoc]
  refine field_issues_append_paths _ f.field _ ?_
  rw [field_paths_append, List.append_eq_nil_iff]
  constructor
  · -- A path without a part ends in a bracket.
    have whole : ∀ message, Issue.isOfField ⟨pathOf list index, message⟩ = false := fun message =>
      of_other_part (list ++ "[" ++ index.repr) "]" message ']' rfl (by decide)
    rw [apply_ite fieldPaths, apply_ite fieldPaths, field_paths_other _ (whole _),
      field_paths_other _ (of_other_part _ ".min" _ 'n' rfl (by decide))]
    exact (congrArg _ (ite_self _)).trans (ite_self _)
  · split
    · rw [apply_ite fieldPaths, field_paths_other _ (of_other_part _ ".step" _ 'p' rfl (by decide))]
      exact ite_self _
    · rfl

theorem issues_in_nil_iff {α : Type} (list : String) (check : String → α → List Issue) (xs : List α) :
    issuesIn list check xs = [] ↔ ∀ i x, xs[i]? = some x → check (pathOf list i) x = [] := by
  rw [issuesIn, List.flatMap_eq_nil_iff]
  exact ⟨fun nothing i x here => nothing (x, i) (List.mk_mem_zipIdx_iff_getElem?.2 here),
    fun nothing x mem => nothing x.2 x.1 (List.mem_zipIdx_iff_getElem?.1 mem)⟩

theorem issues_in_kept {α : Type} (keep : Issue → Bool) (list : String) (check : String → α → List Issue)
    (cause : α → Bool) (path : String → String)
    (each : ∀ index x, ((check (pathOf list index) x).filter keep).map Issue.field =
      if cause x then [path (pathOf list index)] else []) (xs : List α) :
    ((issuesIn list check xs).filter keep).map Issue.field =
      (xs.zipIdx.filter fun x => cause x.1).map fun x => path (pathOf list x.2) := by
  unfold issuesIn
  induction xs.zipIdx with
  | nil => rfl
  | cons x rest ih =>
      rw [List.flatMap_cons, List.filter_append, List.map_append, each, ih, List.filter_cons]
      split <;> rfl

theorem issues_in_paths {α : Type} (list : String) (check : String → α → List Issue) (field : α → String)
    (each : ∀ index x, fieldPaths (check (pathOf list index) x) =
      if Column.isMissing (field x) then [pathOf list index ++ ".field"] else []) (xs : List α) :
    fieldPaths (issuesIn list check xs) =
      ((fieldsIn list field xs).filter fun x => Column.isMissing x.2).map Prod.fst := by
  rw [fieldPaths, issues_in_kept Issue.isOfField list check (fun x => Column.isMissing (field x)) (· ++ ".field") each,
    fieldsIn, List.filter_map, List.map_map]
  rfl

theorem errors_paths (f : Filter) :
    fieldPaths f.errors = (f.fields.filter fun x => Column.isMissing x.2).map Prod.fst := by
  unfold errors fields
  simp only [field_paths_append, List.filter_append, List.map_append]
  rw [issues_in_paths "textFilters" textIssues TextFilter.field fun _ => text_issues_paths _,
    issues_in_paths "dateFilters" dateIssues DateFilter.field fun _ => date_issues_paths _,
    issues_in_paths "rangeFilters" rangeIssues RangeFilter.field (range_issues_paths _),
    issues_in_paths "booleanFilters" booleanIssues BooleanFilter.field fun _ _ => field_issues_paths _ _,
    issues_in_paths "customFilters" customIssues CustomFilter.field fun _ _ => field_issues_paths _ _]

end Filter

end ArchiveSearch
