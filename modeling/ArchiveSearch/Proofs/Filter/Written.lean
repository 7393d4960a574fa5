import ArchiveSearch.Proofs.Filter.Payload
import ArchiveSearch.Proofs.Filter.RoundTrip

/- Written filters as payloads. What a filter of finite numbers is written as is in shape, and validation does not
   look at the texts that come back as dates, so that it is judged as the filter itself. -/
namespace ArchiveSearch

set_option autoImplicit false

namespace Payload

section Members

variable {item value : Json} {name : String} {fits : Json → Bool} (there : item.get? name = some value)
  (fit : fits value = true)

include there fit

theorem need_nil (issue : Issue) : need item name fits issue = [] :=
  (need_nil_iff item name fits issue).2 ⟨value, there, fit⟩

theorem allow_nil (issue : Json → Issue) : allow item name fits issue = [] :=
  (allow_nil_iff item name fits issue).2 fun other here => by
    rw [there] at here
    cases here
    exact fit

end Members

theorem text_in_shape (path : String) (f : TextFilter) : textIssues path f.encode = [] := by
  obtain ⟨field, value, matching⟩ := f.members
  have named : isOneOf (TextMatch.all.map TextMatch.name) (.string f.matching.name) = true := by
    cases f.matching <;> rfl
  rw [textIssues, needString, needString, need_nil field rfl, need_nil value rfl, allow_nil matching named]
  rfl

theorem bound_in_shape (d : Option Date) : isDateOrNull (Json.ofOption (fun d => .string d.text) d) = true := by
  cases d with
  | none => rfl
  | some d => simp only [Json.ofOption, isDateOrNull, DateReader.strict_text]

theorem date_in_shape (path : String) (f : DateFilter) : dateIssues path f.encode = [] := by
  obtain ⟨field, start, end_, preset⟩ := f.members
  have named : isOneOf (DatePreset.all.map DatePreset.name) (.string f.preset.name) = true := by
    cases f.preset <;> rfl
  rw [dateIssues, needString, boundIssues, boundIssues, need_nil field rfl, allow_nil preset named,
    allow_nil start (bound_in_shape f.start), allow_nil end_ (bound_in_shape f.end_)]
  rfl

theorem range_in_shape (path : String) (f : RangeFilter) (finite : f.isFinite = true) :
    rangeIssues path f.encode = [] := by
  obtain ⟨field, min, max, step⟩ := f.members finite
  have stepped : isNumberOrNull (Json.ofOption .real f.step) = true := by
    cases f.step <;> rfl
  rw [rangeIssues, needString, need_nil field rfl, need_nil min rfl, need_nil max rfl, allow_nil step stepped]
  rfl

theorem boolean_in_shape (path : String) (f : BooleanFilter) : booleanIssues path f.encode = [] := by
  obtain ⟨field, value⟩ := f.members
  rw [booleanIssues, needString, need_nil field rfl, need_nil value rfl]
  rfl

theorem custom_in_shape (path : String) (f : CustomFilter) (finite : f.value.isFinite = true) :
    customIssues path f.encode = [] := by
  obtain ⟨field, comparison, value⟩ := f.members
  have named : isOneOf (Comparison.all.map Comparison.name) (.string f.comparison.name) = true := by
    cases f.comparison <;> rfl
  have scalar : isScalar f.value.encode = true := by
    cases given : f.value with
    | number x =>
        rw [given] at finite
        rw [Value.encode, of_binary64_finite x finite]
        rfl
    | _ => rfl
  rw [customIssues, needString, need_nil field rfl, need_nil comparison named, need_nil value scalar]
  rfl

theorem list_in_shape {α : Type} {payload : Json} {list : String} {check : String → Json → List Issue}
    {encode : α → Json} {xs : List α} (there : payload.get? list = some (Json.ofList encode xs))
    (each : ∀ x ∈ xs, ∀ path, check path (encode x) = []) (objects : ∀ x, ∃ members, encode x = .object members) :
    listIssues payload list check = [] := by
  rw [listIssues, there]
  refine (Filter.issues_in_nil_iff list _ _).2 fun i item here => ?_
  obtain ⟨x, mem, rfl⟩ := List.mem_map.1 (List.mem_of_getElem? here)
  obtain ⟨members, object⟩ := objects x
  have clean := each x mem (Filter.pathOf list i)
  rw [object] at clean ⊢
  exact clean

theorem filter_in_shape (f : Filter) (finite : f.isFinite = true) : shapeIssues f.encode = [] := by
  obtain ⟨contentType, connective, texts, dates, ranges, booleans, customs⟩ := f.members
  obtain ⟨finiteRanges, finiteCustoms⟩ := Bool.and_eq_true_iff.1 finite
  have category : contentTypeIssues f.encode = [] := by
    have known : (ContentType.ofName? f.contentType.name).isSome = true := by
      cases f.contentType <;> decide
    simp only [contentTypeIssues, contentType, known, if_true]
  have joined : connectiveIssues f.encode = [] := by
    have named : isOneOf ["AND", "OR"] (.string f.connective.name) = true := by
      cases f.connective <;> rfl
    exact allow_nil connective named _
  have shape : shapeIssues f.encode = contentTypeIssues f.encode ++ connectiveIssues f.encode ++
      listIssues f.encode "textFilters" textIssues ++ listIssues f.encode "dateFilters" dateIssues ++
      listIssues f.encode "rangeFilters" rangeIssues ++ listIssues f.encode "booleanFilters" booleanIssues ++
      listIssues f.encode "customFilters" customIssues := rfl
  rw [shape, category, joined, list_in_shape texts (fun x _ path => text_in_shape path x) fun _ => ⟨_, rfl⟩,
    list_in_shape dates (fun x _ path => date_in_shape path x) fun _ => ⟨_, rfl⟩,
    list_in_shape ranges (fun x mem path => range_in_shape path x (List.all_eq_true.1 finiteRanges x mem))
      fun _ => ⟨_, rfl⟩,
    list_in_shape booleans (fun x _ path => boolean_in_shape path x) fun _ => ⟨_, rfl⟩,
    list_in_shape customs (fun x mem path => custom_in_shape path x (List.all_eq_true.1 finiteCustoms x mem))
      fun _ => ⟨_, rfl⟩]
  rfl

end Payload

namespace Filter

theorem validate_reread (f : Filter) : f.reread.validate = f.validate := by
  have customs : issuesIn "customFilters" customIssues (f.customs.map CustomFilter.reread) =
      issuesIn "customFilters" customIssues f.customs := by
    rw [issuesIn, issuesIn, List.zipIdx_map, List.flatMap_map]
    rfl
  have count : f.reread.predicateCount = f.predicateCount := by
    simp only [predicateCount, reread, List.length_map]
  have weight : f.reread.weight = f.weight := by
    simp only [Filter.weight, reread, List.length_map]
  have complexity : f.reread.complexityHalves = f.complexityHalves := by
    rw [complexityHalves, complexityHalves, weight]
    rfl
  have errors : f.reread.errors = f.errors := congrArg (_ ++ ·) customs
  have warnings : f.reread.warnings = f.warnings := by
    rw [Filter.warnings, Filter.warnings, isEmpty, isEmpty, count, complexity]
    rfl
  rw [validate, validate, errors, warnings, complexity]

end Filter

namespace Payload

theorem validate_written (f : Filter) (finite : f.isFinite = true) : validate f.encode = f.validate := by
  rw [validate_eq, if_pos (filter_in_shape f finite), f.decode_encode .inOpen finite]
  exact f.validate_reread

def farAhead : Filter :=
  { contentType := .photos
    connective := .or
    texts := [{ field := "title", value := " ", matching := .startsWith }]
    dates := [{ field := "taken", start := some ⟨12024, 1, 1, rfl⟩, end_ := some ⟨-44, 3, 15, rfl⟩ }]
    ranges := [{ field := "width", min := .ofInt 3, max := .ofInt 2 }]
    customs := [{ field := "no column", comparison := .equal, value := .text "2020-1-5" }] }

theorem far_ahead_written :
    farAhead.isFinite = true ∧ validate farAhead.encode = farAhead.validate ∧
      farAhead.validate.errors.map Issue.field =
        ["textFilters[0].value", "dateFilters[0].start", "rangeFilters[0].min", "customFilters[0].field"] := by
  have finite : farAhead.isFinite = true := by decide +kernel
  exact ⟨finite, validate_written farAhead finite, by decide +kernel⟩

end Payload

end ArchiveSearch
