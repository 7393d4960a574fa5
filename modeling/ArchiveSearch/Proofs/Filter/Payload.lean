import ArchiveSearch.Filter.Payload
import ArchiveSearch.Proofs.Calendar.Reading
import ArchiveSearch.Proofs.Filter.Decoding
import ArchiveSearch.Proofs.Filter.Fields

namespace ArchiveSearch.Payload

set_option autoImplicit false

theorem need_nil_iff (item : Json) (name : String) (fits : Json → Bool) (issue : Issue) :
    need item name fits issue = [] ↔ ∃ value, item.get? name = some value ∧ fits value = true := by
  unfold need
  cases item.get? name with
  | none => simp
  | some value => cases fit : fits value <;> simp [fit]

theorem allow_nil_iff (item : Json) (name : String) (fits : Json → Bool) (issue : Json → Issue) :
    allow item name fits issue = [] ↔ ∀ value, item.get? name = some value → fits value = true := by
  unfold allow
  cases item.get? name with
  | none => simp
  | some value => cases fit : fits value <;> simp [fit]

def Fitting {α : Type} (fits : Json → Bool) (decode : Json → Decoded α) : Prop :=
  ∀ value, fits value = true → ∃ a, decode value = .ok a

theorem string_fitting : Fitting isString Decode.string := by
  intro value fits
  cases value <;> first | exact ⟨_, rfl⟩ | cases fits

theorem bool_fitting : Fitting isBool Decode.bool := by
  intro value fits
  cases value <;> first | exact ⟨_, rfl⟩ | cases fits

theorem number_fitting : Fitting Json.isNumber Decode.real := by
  intro value fits
  cases value <;> first | exact ⟨_, rfl⟩ | cases fits

theorem step_fitting : Fitting isNumberOrNull (Decode.optional Decode.real) := by
  intro value fits
  cases value <;> first | exact ⟨_, rfl⟩ | cases fits

theorem date_fitting : Fitting isDateOrNull (Decode.optional Decode.date) := by
  intro value fits
  cases value with
  | null => exact ⟨_, rfl⟩
  | string s =>
    rw [isDateOrNull] at fits
    split at fits
    · rename_i d read
      exact ⟨some d, by simp [Decode.optional, Decode.date, DateReader.loose_of_strict s d read, Except.map]⟩
    · cases fits
  | _ => cases fits

theorem scalar_fitting : Fitting isScalar Value.decode := by
  intro value fits
  cases value with
  | integer n =>
    rw [Value.decode]
    split <;> exact ⟨_, rfl⟩
  | string s =>
    rw [Value.decode]
    split <;> exact ⟨_, rfl⟩
  | bool b => exact ⟨_, rfl⟩
  | real x => exact ⟨_, rfl⟩
  | _ => cases fits

theorem variant_fitting {α : Type} (place : Place) (all : List α) (name : α → String) :
    Fitting (isOneOf (all.map name)) (Decode.variant place all name) := by
  intro value fits
  cases value with
  | string s =>
    obtain ⟨a, mem, rfl⟩ := List.mem_map.1 (List.contains_iff_mem.1 fits)
    have some_ : (all.find? fun value => name value == name a).isSome = true :=
      List.find?_isSome.2 ⟨a, mem, beq_self_eq_true _⟩
    obtain ⟨found, is⟩ := Option.isSome_iff_exists.1 some_
    exact ⟨found, by simp [Decode.variant, Decode.variant.byName, is]⟩
  | _ => cases fits

section Objects

variable {α : Type} {members : List (String × Json)} {r : Record} (given : r.given = Json.sortMembers members)

include given

theorem given_lookup (name : String) : (Json.object members).get? name = r.given.lookup name := by
  rw [given]
  rfl

theorem need_reads {fits : Json → Bool} {decode : Json → Decoded α} (fitting : Fitting fits decode) {name : String}
    {issue : Issue} (nothing : need (.object members) name fits issue = []) : ∃ a, r.Reads name decode a := by
  obtain ⟨value, found, fit⟩ := (need_nil_iff _ _ _ _).1 nothing
  obtain ⟨a, decoded⟩ := fitting value fit
  exact ⟨a, value, (given_lookup given name).symm.trans found, decoded⟩

theorem allow_offers {fits : Json → Bool} {decode : Json → Decoded α} (fitting : Fitting fits decode)
    {name : String} {issue : Json → Issue} (nothing : allow (.object members) name fits issue = [])
    (default : α) : ∃ a, r.Offers name decode default a := by
  cases found : r.given.lookup name with
  | none => exact ⟨default, .inl ⟨found, rfl⟩⟩
  | some value =>
    have here := (given_lookup given name).trans found
    obtain ⟨a, decoded⟩ := fitting value ((allow_nil_iff _ _ _ _).1 nothing value here)
    exact ⟨a, .inr ⟨value, found, decoded⟩⟩

theorem list_offers {check : String → Json → List Issue} {decode : Json → Decoded α}
    (fitting : ∀ path inner, check path (.object inner) = [] → ∃ a, decode (.object inner) = .ok a)
    {list : String} (nothing : listIssues (.object members) list check = [])
    (present : (Json.object members).get? list ≠ some .null) :
    ∃ xs, r.Offers list (Decode.list decode) [] xs := by
  cases found : r.given.lookup list with
  | none => exact ⟨[], .inl ⟨found, rfl⟩⟩
  | some value =>
    have here := (given_lookup given list).trans found
    rw [listIssues, here] at nothing
    cases value with
    | null => exact absurd here present
    | array items =>
      have clean := (Filter.issues_in_nil_iff _ _ _).1 nothing
      have decodes : ∀ item ∈ items, ∃ a, decode item = .ok a := by
        intro item mem
        obtain ⟨i, here⟩ := List.getElem?_of_mem mem
        have checked := clean i item here
        cases item with
        | object inner => exact fitting _ inner checked
        | _ => exact absurd checked (List.cons_ne_nil _ _)
      obtain ⟨xs, decoded⟩ := map_each_ok_of_forall decode items decodes
      exact ⟨xs, .inr ⟨.array items, found, decoded⟩⟩
    | _ => exact absurd nothing (List.cons_ne_nil _ _)

end Objects

theorem text_fitting (place : Place) (path : String) (members : List (String × Json))
    (nothing : textIssues path (.object members) = []) :
    ∃ f, TextFilter.decode place (.object members) = .ok f := by
  simp only [textIssues, needString, List.append_eq_nil_iff] at nothing
  obtain ⟨⟨noField, noValue⟩, noMatching⟩ := nothing
  let r := Record.ofObject place "struct TextFilter" ["field", "value", "matchType"] members
  have given : r.given = Json.sortMembers members := rfl
  obtain ⟨field, isField⟩ := need_reads given string_fitting noField
  obtain ⟨value, isValue⟩ := need_reads given string_fitting noValue
  obtain ⟨matching, isMatching⟩ :=
    allow_offers given (variant_fitting place TextMatch.all TextMatch.name) noMatching .contains
  exact ⟨⟨field, value, matching⟩,
    (TextFilter.decode_ok_iff _ _ _).2 ⟨r, rfl, rfl, isField, isValue, isMatching⟩⟩

theorem date_filter_fitting (place : Place) (path : String) (members : List (String × Json))
    (nothing : dateIssues path (.object members) = []) :
    ∃ f, DateFilter.decode place (.object members) = .ok f := by
  simp only [dateIssues, needString, boundIssues, List.append_eq_nil_iff] at nothing
  obtain ⟨⟨⟨noField, noPreset⟩, noStart⟩, noEnd⟩ := nothing
  let r := Record.ofObject place "struct DateFilter" ["field", "start", "end", "preset"] members
  have given : r.given = Json.sortMembers members := rfl
  obtain ⟨field, isField⟩ := need_reads given string_fitting noField
  obtain ⟨start, isStart⟩ := allow_offers given date_fitting noStart none
  obtain ⟨end_, isEnd⟩ := allow_offers given date_fitting noEnd none
  obtain ⟨preset, isPreset⟩ :=
    allow_offers given (variant_fitting place DatePreset.all DatePreset.name) noPreset .custom
  exact ⟨⟨field, start, end_, preset⟩,
    (DateFilter.decode_ok_iff _ _ _).2 ⟨r, rfl, rfl, isField, isStart, isEnd, isPreset⟩⟩

theorem range_fitting (place : Place) (path : String) (members : List (String × Json))
    (nothing : rangeIssues path (.object members) = []) :
    ∃ f, RangeFilter.decode place (.object members) = .ok f := by
  simp only [rangeIssues, needString, List.append_eq_nil_iff] at nothing
  obtain ⟨⟨⟨noField, noMin⟩, noMax⟩, noStep⟩ := nothing
  let r := Record.ofObject place "struct RangeFilter" ["field", "min", "max", "step"] members
  have given : r.given = Json.sortMembers members := rfl
  obtain ⟨field, isField⟩ := need_reads given string_fitting noField
  obtain ⟨min, isMin⟩ := need_reads given number_fitting noMin
  obtain ⟨max, isMax⟩ := need_reads given number_fitting noMax
  obtain ⟨step, isStep⟩ := allow_offers given step_fitting noStep none
  exact ⟨⟨field, min, max, step⟩,
    (RangeFilter.decode_ok_iff _ _ _).2 ⟨r, rfl, rfl, isField, isMin, isMax, isStep⟩⟩

theorem boolean_fitting (place : Place) (path : String) (members : List (String × Json))
    (nothing : booleanIssues path (.object members) = []) :
    ∃ f, BooleanFilter.decode place (.object members) = .ok f := by
  simp only [booleanIssues, needString, List.append_eq_nil_iff] at nothing
  obtain ⟨noField, noValue⟩ := nothing
  let r := Record.ofObject place "struct BooleanFilter" ["field", "value"] members
  have given : r.given = Json.sortMembers members := rfl
  obtain ⟨field, isField⟩ := need_reads given string_fitting noField
  obtain ⟨value, isValue⟩ := need_reads given bool_fitting noValue
  exact ⟨⟨field, value⟩, (BooleanFilter.decode_ok_iff _ _ _).2 ⟨r, rfl, rfl, isField, isValue⟩⟩

theorem custom_fitting (place : Place) (path : String) (members : List (String × Json))
    (nothing : customIssues path (.object members) = []) :
    ∃ f, CustomFilter.decode place (.object members) = .ok f := by
  simp only [customIssues, needString, List.append_eq_nil_iff] at nothing
  obtain ⟨⟨noField, noComparison⟩, noValue⟩ := nothing
  let r := Record.ofObject place "struct CustomFilter" ["field", "operator", "value"] members
  have given : r.given = Json.sortMembers members := rfl
  obtain ⟨field, isField⟩ := need_reads given string_fitting noField
  obtain ⟨comparison, isComparison⟩ :=
    need_reads given (variant_fitting place Comparison.all Comparison.name) noComparison
  obtain ⟨value, isValue⟩ := need_reads given scalar_fitting noValue
  exact ⟨⟨field, comparison, value⟩,
    (CustomFilter.decode_ok_iff _ _ _).2 ⟨r, rfl, rfl, isField, isComparison, isValue⟩⟩

def listNames : List String :=
  ["textFilters", "dateFilters", "rangeFilters", "booleanFilters", "customFilters"]

structure Plain (payload : Json) : Prop where
  category : ∃ c : ContentType, payload.get? "contentType" = some (.string c.name)
  lists : ∀ list ∈ listNames, payload.get? list ≠ some .null

theorem plain_decodes (members : List (String × Json)) (shaped : shapeIssues (.object members) = [])
    (plain : Plain (.object members)) : ∃ f, Filter.decode .inOpen (.object members) = .ok f := by
  simp only [shapeIssues, connectiveIssues, List.append_eq_nil_iff] at shaped
  obtain ⟨⟨⟨⟨⟨⟨-, noConnective⟩, noTexts⟩, noDates⟩, noRanges⟩, noBooleans⟩, noCustoms⟩ := shaped
  let r := Record.ofObject .inOpen "struct FilterModel"
    ["contentType", "operator", "textFilters", "dateFilters", "rangeFilters", "booleanFilters", "customFilters"] members
  have given : r.given = Json.sortMembers members := rfl
  obtain ⟨c, spelled⟩ := plain.category
  obtain ⟨contentType, decoded⟩ := variant_fitting .inOpen ContentType.all ContentType.name (.string c.name)
    (by cases c <;> rfl)
  have isContentType : r.Reads "contentType" (ContentType.decode .inOpen) contentType := ⟨_, spelled, decoded⟩
  obtain ⟨connective, isConnective⟩ :=
    allow_offers given (variant_fitting .inOpen Connective.all Connective.name) noConnective .and
  obtain ⟨texts, areTexts⟩ := list_offers given (text_fitting .inOpen) noTexts
    (plain.lists _ (by simp [listNames]))
  obtain ⟨dates, areDates⟩ := list_offers given (date_filter_fitting .inOpen) noDates
    (plain.lists _ (by simp [listNames]))
  obtain ⟨ranges, areRanges⟩ := list_offers given (range_fitting .inOpen) noRanges
    (plain.lists _ (by simp [listNames]))
  obtain ⟨booleans, areBooleans⟩ := list_offers given (boolean_fitting .inOpen) noBooleans
    (plain.lists _ (by simp [listNames]))
  obtain ⟨customs, areCustoms⟩ := list_offers given (custom_fitting .inOpen) noCustoms
    (plain.lists _ (by simp [listNames]))
  exact ⟨⟨contentType, connective, texts, dates, ranges, booleans, customs⟩,
    (Filter.decode_ok_iff _ _ _).2 ⟨r, rfl, rfl, isContentType, isConnective, areTexts, areDates, areRanges,
      areBooleans, areCustoms⟩⟩

theorem null_list_refused {α : Type} {r : Record} {list : String} {decode : Json → Decoded α} {xs : List α}
    (offers : r.Offers list (Decode.list decode) [] xs) : r.given.lookup list ≠ some .null := by
  intro null
  rcases offers with ⟨absent, -⟩ | ⟨value, found, decoded⟩
  · rw [absent] at null
    cases null
  · rw [found] at null
    cases null
    cases decoded

theorem variant_named {α : Type} (place : Place) (all : List α) (name : α → String) (s : String) (a : α)
    (decoded : Decode.variant place all name (.string s) = .ok a) : name a = s := by
  simp only [Decode.variant, Decode.variant.byName] at decoded
  split at decoded
  · rename_i found
    cases decoded
    have same := List.find?_some found
    exact eq_of_beq same
  · cases decoded

theorem decoded_plain (members : List (String × Json)) (shaped : shapeIssues (.object members) = [])
    (f : Filter) (decoded : Filter.decode .inOpen (.object members) = .ok f) : Plain (.object members) := by
  obtain ⟨r, made, -, isContentType, -, texts, dates, ranges, booleans, customs⟩ :=
    (Filter.decode_ok_iff _ _ _).1 decoded
  cases made
  refine ⟨⟨f.contentType, ?_⟩, ?_⟩
  · obtain ⟨value, found, read⟩ := isContentType
    have here : (Json.object members).get? "contentType" = some value := found
    simp only [shapeIssues, contentTypeIssues, here, List.append_eq_nil_iff] at shaped
    cases value with
    | string s => rw [here, variant_named _ _ _ s _ read]
    | _ => simp at shaped
  · simp only [listNames, List.forall_mem_cons, List.not_mem_nil, false_implies, implies_true, and_true]
    exact ⟨null_list_refused texts, null_list_refused dates, null_list_refused ranges,
      null_list_refused booleans, null_list_refused customs⟩

theorem validate_eq (payload : Json) :
    validate payload =
      if shapeIssues payload = [] then
        match Filter.decode .inOpen payload with
        | .ok filter => filter.validate
        | .error e => rejected [⟨"filter", e.message⟩]
      else rejected (shapeIssues payload) := by
  unfold validate
  cases shapeIssues payload <;> rfl

-- A payload is judged by its shape if that is wrong, and otherwise as a filter if it is plain; one that is not
-- plain does not decode, and only that is said of it.
theorem payload_judged (payload : Json) :
    (shapeIssues payload ≠ [] ∧ validate payload = rejected (shapeIssues payload)) ∨
      (shapeIssues payload = [] ∧ Plain payload ∧
        ∃ f, Filter.decode .inOpen payload = .ok f ∧ validate payload = f.validate) ∨
      (shapeIssues payload = [] ∧ ¬ Plain payload ∧
        ∃ e, Filter.decode .inOpen payload = .error e ∧
          validate payload = rejected [⟨"filter", e.message⟩]) := by
  rw [validate_eq]
  by_cases shaped : shapeIssues payload = []
  · right
    rw [if_pos shaped]
    cases payload with
    | object members =>
      by_cases plain : Plain (.object members)
      · obtain ⟨f, decoded⟩ := plain_decodes members shaped plain
        exact .inl ⟨shaped, plain, f, decoded, by rw [decoded]⟩
      · cases decoded : Filter.decode .inOpen (.object members) with
        | ok f => exact absurd (decoded_plain members shaped f decoded) plain
        | error e => exact .inr ⟨shaped, plain, e, rfl, rfl⟩
    | _ => exact absurd shaped (List.cons_ne_nil _ _)
  · exact .inl ⟨shaped, if_neg shaped⟩

def capitalized : Json :=
  .object [("contentType", .string "Alumni")]

def nullListed : Json :=
  .object [("contentType", .string "alumni"), ("textFilters", .null)]

-- Neither a capital letter in the category nor a null list is a matter of shape, and neither decodes.
theorem shaped_payloads_refused :
    (shapeIssues capitalized = [] ∧ (¬ ∃ f, Filter.decode .inOpen capitalized = .ok f) ∧
      validate capitalized = rejected [⟨"filter",
        "unknown variant `Alumni`, expected one of `alumni`, `publications`, `photos`, `faculty`"⟩]) ∧
    (shapeIssues nullListed = [] ∧ (¬ ∃ f, Filter.decode .inOpen nullListed = .ok f) ∧
      validate nullListed = rejected [⟨"filter", "invalid type: null, expected a sequence"⟩]) := by
  refine ⟨⟨by decide +kernel, ?_, by decide +kernel⟩, by decide +kernel, ?_, by decide +kernel⟩
  · rintro ⟨f, decoded⟩
    have refused : Filter.decode .inOpen capitalized =
        .error (.unknownVariant "Alumni" ["alumni", "publications", "photos", "faculty"]) := by rfl
    rw [refused] at decoded
    cases decoded
  · rintro ⟨f, decoded⟩
    have refused : Filter.decode .inOpen nullListed = .error (.invalidType .null "a sequence") := by rfl
    rw [refused] at decoded
    cases decoded

end ArchiveSearch.Payload
