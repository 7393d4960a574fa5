import ArchiveSearch.Proofs.Filter.Decoding
import ArchiveSearch.Proofs.Filter.Values

namespace ArchiveSearch

set_option autoImplicit false

open Record (ofObject reads_member offers_member)

section Parts

variable {α β : Type}

theorem list_written (decode : Json → Decoded β) (encode : α → Json) (back : α → β) (xs : List α)
    (each : ∀ x ∈ xs, decode (encode x) = .ok (back x)) :
    Decode.list decode (Json.ofList encode xs) = .ok (xs.map back) := by
  rw [Json.ofList, Decode.list, map_each_ok_iff, List.forall₂_map_left_iff, List.forall₂_map_right_iff,
    List.forall₂_same]
  exact each

theorem list_restored (decode : Json → Decoded α) (encode : α → Json) (xs : List α)
    (each : ∀ x ∈ xs, decode (encode x) = .ok x) : Decode.list decode (Json.ofList encode xs) = .ok xs := by
  rw [list_written decode encode id xs each, List.map_id]

theorem date_restored (d : Option Date) :
    Decode.optional Decode.date (Json.ofOption (fun d => .string d.text) d) = .ok d := by
  cases d with
  | none => rfl
  | some d => simp [Json.ofOption, Decode.optional, Decode.date, DateReader.loose_text, Except.map]

variable (place : Place)

theorem ContentType.decode_name (c : ContentType) : ContentType.decode place (.string c.name) = .ok c := by
  cases c <;> rfl

theorem Connective.decode_name (c : Connective) : Connective.decode place (.string c.name) = .ok c := by
  cases c <;> rfl

theorem TextMatch.decode_name (m : TextMatch) : TextMatch.decode place (.string m.name) = .ok m := by
  cases m <;> rfl

theorem DatePreset.decode_name (p : DatePreset) : DatePreset.decode place (.string p.name) = .ok p := by
  cases p <;> rfl

theorem Comparison.decode_name (c : Comparison) : Comparison.decode place (.string c.name) = .ok c := by
  cases c <;> rfl

end Parts

theorem TextFilter.members (f : TextFilter) :
    f.encode.get? "field" = some (.string f.field) ∧ f.encode.get? "value" = some (.string f.value) ∧
      f.encode.get? "matchType" = some (.string f.matching.name) := by
  simp [encode, Json.get?, Json.lookup_sorted, Json.lookup_first]

theorem TextFilter.decode_encode (place : Place) (f : TextFilter) : TextFilter.decode place f.encode = .ok f := by
  obtain ⟨field, value, matching⟩ := f.members
  exact (decode_ok_iff place f.encode f).2 ⟨ofObject .., rfl, rfl,
    reads_member field rfl, reads_member value rfl, offers_member matching (f.matching.decode_name place)⟩

theorem DateFilter.members (f : DateFilter) :
    f.encode.get? "field" = some (.string f.field) ∧
      f.encode.get? "start" = some (Json.ofOption (fun d => .string d.text) f.start) ∧
      f.encode.get? "end" = some (Json.ofOption (fun d => .string d.text) f.end_) ∧
      f.encode.get? "preset" = some (.string f.preset.name) := by
  simp [encode, Json.get?, Json.lookup_sorted, Json.lookup_first]

theorem DateFilter.decode_encode (place : Place) (f : DateFilter) : DateFilter.decode place f.encode = .ok f := by
  obtain ⟨field, start, end_, preset⟩ := f.members
  exact (decode_ok_iff place f.encode f).2 ⟨ofObject .., rfl, rfl,
    reads_member field rfl, offers_member start (date_restored f.start), offers_member end_ (date_restored f.end_),
    offers_member preset (f.preset.decode_name place)⟩

def RangeFilter.isFinite (f : RangeFilter) : Bool :=
  f.min.isFinite && f.max.isFinite && f.step.all Binary64.isFinite

theorem RangeFilter.members (f : RangeFilter) (finite : f.isFinite = true) :
    f.encode.get? "field" = some (.string f.field) ∧ f.encode.get? "min" = some (.real f.min) ∧
      f.encode.get? "max" = some (.real f.max) ∧ f.encode.get? "step" = some (Json.ofOption .real f.step) := by
  obtain ⟨⟨min, max⟩, step⟩ := by simpa only [isFinite, Bool.and_eq_true] using finite
  have stepped : Json.ofOption .ofBinary64 f.step = Json.ofOption .real f.step := by
    cases given : f.step with
    | none => rfl
    | some x => exact of_binary64_finite x (by simpa [given] using step)
  simp [encode, Json.get?, Json.lookup_sorted, Json.lookup_first, of_binary64_finite _ min, of_binary64_finite _ max,
    stepped]

theorem RangeFilter.decode_encode (place : Place) (f : RangeFilter) (finite : f.isFinite = true) :
    RangeFilter.decode place f.encode = .ok f := by
  obtain ⟨field, min, max, step⟩ := f.members finite
  have stepped : Decode.optional Decode.real (Json.ofOption .real f.step) = .ok f.step := by
    cases f.step <;> rfl
  exact (decode_ok_iff place f.encode f).2 ⟨ofObject .., rfl, rfl,
    reads_member field rfl, reads_member min rfl, reads_member max rfl, offers_member step stepped⟩

theorem BooleanFilter.members (f : BooleanFilter) :
    f.encode.get? "field" = some (.string f.field) ∧ f.encode.get? "value" = some (.bool f.value) := by
  simp [encode, Json.get?, Json.lookup_sorted, Json.lookup_first]

theorem BooleanFilter.decode_encode (place : Place) (f : BooleanFilter) :
    BooleanFilter.decode place f.encode = .ok f := by
  obtain ⟨field, value⟩ := f.members
  exact (decode_ok_iff place f.encode f).2 ⟨ofObject .., rfl, rfl,
    reads_member field rfl, reads_member value rfl⟩

def CustomFilter.reread (f : CustomFilter) : CustomFilter :=
  { f with value := f.value.reread }

theorem CustomFilter.members (f : CustomFilter) :
    f.encode.get? "field" = some (.string f.field) ∧ f.encode.get? "operator" = some (.string f.comparison.name) ∧
      f.encode.get? "value" = some f.value.encode := by
  simp [encode, Json.get?, Json.lookup_sorted, Json.lookup_first]

theorem CustomFilter.decode_encode (place : Place) (f : CustomFilter) (finite : f.value.isFinite = true) :
    CustomFilter.decode place f.encode = .ok f.reread := by
  obtain ⟨field, comparison, value⟩ := f.members
  exact (decode_ok_iff place f.encode f.reread).2 ⟨ofObject .., rfl, rfl,
    reads_member field rfl, reads_member comparison (f.comparison.decode_name place),
    reads_member value (f.value.decode_encode finite)⟩

namespace Filter

def isFinite (f : Filter) : Bool :=
  f.ranges.all RangeFilter.isFinite && f.customs.all (·.value.isFinite)

def reread (f : Filter) : Filter :=
  { f with customs := f.customs.map CustomFilter.reread }

theorem members (f : Filter) :
    f.encode.get? "contentType" = some (.string f.contentType.name) ∧
      f.encode.get? "operator" = some (.string f.connective.name) ∧
      f.encode.get? "textFilters" = some (Json.ofList TextFilter.encode f.texts) ∧
      f.encode.get? "dateFilters" = some (Json.ofList DateFilter.encode f.dates) ∧
      f.encode.get? "rangeFilters" = some (Json.ofList RangeFilter.encode f.ranges) ∧
      f.encode.get? "booleanFilters" = some (Json.ofList BooleanFilter.encode f.booleans) ∧
      f.encode.get? "customFilters" = some (Json.ofList CustomFilter.encode f.customs) := by
  simp [encode, Json.get?, Json.lookup_sorted, Json.lookup_first]

theorem decode_encode (place : Place) (f : Filter) (finite : f.isFinite = true) :
    Filter.decode place f.encode = .ok f.reread := by
  obtain ⟨contentType, connective, texts, dates, ranges, booleans, customs⟩ := f.members
  obtain ⟨finiteRanges, finiteCustoms⟩ := Bool.and_eq_true_iff.1 finite
  refine (decode_ok_iff place f.encode f.reread).2 ⟨ofObject .., rfl, rfl,
    reads_member contentType ?_, offers_member connective ?_, offers_member texts ?_, offers_member dates ?_,
    offers_member ranges ?_, offers_member booleans ?_, offers_member customs ?_⟩
  · exact f.contentType.decode_name place
  · exact f.connective.decode_name place
  · exact list_restored _ _ _ fun x _ => x.decode_encode place
  · exact list_restored _ _ _ fun x _ => x.decode_encode place
  · exact list_restored _ _ _ fun x mem => x.decode_encode place (List.all_eq_true.1 finiteRanges x mem)
  · exact list_restored _ _ _ fun x _ => x.decode_encode place
  · exact list_written _ _ _ _ fun x mem => x.decode_encode place (List.all_eq_true.1 finiteCustoms x mem)

end Filter

end ArchiveSearch
