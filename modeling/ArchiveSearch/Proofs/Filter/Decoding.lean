import ArchiveSearch.Filter.Decoding
import ArchiveSearch.Proofs.Json.Records

namespace ArchiveSearch

set_option autoImplicit false

theorem TextFilter.decode_ok_iff (place : Place) (j : Json) (f : TextFilter) :
    TextFilter.decode place j = .ok f ↔
      ∃ r, Record.ofValue place "struct TextFilter" ["field", "value", "matchType"] j = .ok r ∧
        r.excess = none ∧ r.Reads "field" Decode.string f.field ∧
        r.Reads "value" Decode.string f.value ∧
        r.Offers "matchType" (TextMatch.decode place) .contains f.matching := by
  unfold TextFilter.decode
  simp only [bind_ok_iff, Record.required_ok_iff, Record.get_d_ok_iff]
  constructor
  · rintro ⟨r, made, ⟨⟩, settled, _, field, _, value, _, matching, ⟨⟩⟩
    exact ⟨r, made, r.settle_fits _ settled, field, value, matching⟩
  · rintro ⟨r, made, fits, field, value, matching⟩
    refine ⟨r, made, (), r.settle_ok _ fits ?_, _, field, _, value, _, matching, rfl⟩
    simp [field.faultless, value.faultless, matching.faultless]

theorem DateFilter.decode_ok_iff (place : Place) (j : Json) (f : DateFilter) :
    DateFilter.decode place j = .ok f ↔
      ∃ r, Record.ofValue place "struct DateFilter" ["field", "start", "end", "preset"] j = .ok r ∧
        r.excess = none ∧ r.Reads "field" Decode.string f.field ∧
        r.Offers "start" (Decode.optional Decode.date) none f.start ∧
        r.Offers "end" (Decode.optional Decode.date) none f.end_ ∧
        r.Offers "preset" (DatePreset.decode place) .custom f.preset := by
  unfold DateFilter.decode
  simp only [bind_ok_iff, Record.required_ok_iff, Record.get_d_ok_iff]
  constructor
  · rintro ⟨r, made, ⟨⟩, settled, _, field, _, start, _, end_, _, preset, ⟨⟩⟩
    exact ⟨r, made, r.settle_fits _ settled, field, start, end_, preset⟩
  · rintro ⟨r, made, fits, field, start, end_, preset⟩
    refine ⟨r, made, (), r.settle_ok _ fits ?_, _, field, _, start, _, end_, _, preset, rfl⟩
    simp [field.faultless, start.faultless, end_.faultless, preset.faultless]

theorem RangeFilter.decode_ok_iff (place : Place) (j : Json) (f : RangeFilter) :
    RangeFilter.decode place j = .ok f ↔
      ∃ r, Record.ofValue place "struct RangeFilter" ["field", "min", "max", "step"] j = .ok r ∧
        r.excess = none ∧ r.Reads "field" Decode.string f.field ∧ r.Reads "min" Decode.real f.min ∧
        r.Reads "max" Decode.real f.max ∧
        r.Offers "step" (Decode.optional Decode.real) none f.step := by
  unfold RangeFilter.decode
  simp only [bind_ok_iff, Record.required_ok_iff, Record.get_d_ok_iff]
  constructor
  · rintro ⟨r, made, ⟨⟩, settled, _, field, _, min, _, max, _, step, ⟨⟩⟩
    exact ⟨r, made, r.settle_fits _ settled, field, min, max, step⟩
  · rintro ⟨r, made, fits, field, min, max, step⟩
    refine ⟨r, made, (), r.settle_ok _ fits ?_, _, field, _, min, _, max, _, step, rfl⟩
    simp [field.faultless, min.faultless, max.faultless, step.faultless]

theorem BooleanFilter.decode_ok_iff (place : Place) (j : Json) (f : BooleanFilter) :
    BooleanFilter.decode place j = .ok f ↔
      ∃ r, Record.ofValue place "struct BooleanFilter" ["field", "value"] j = .ok r ∧
        r.excess = none ∧ r.Reads "field" Decode.string f.field ∧
        r.Reads "value" Decode.bool f.value := by
  unfold BooleanFilter.decode
  simp only [bind_ok_iff, Record.required_ok_iff]
  constructor
  · rintro ⟨r, made, ⟨⟩, settled, _, field, _, value, ⟨⟩⟩
    exact ⟨r, made, r.settle_fits _ settled, field, value⟩
  · rintro ⟨r, made, fits, field, value⟩
    refine ⟨r, made, (), r.settle_ok _ fits ?_, _, field, _, value, rfl⟩
    simp [field.faultless, value.faultless]

theorem CustomFilter.decode_ok_iff (place : Place) (j : Json) (f : CustomFilter) :
    CustomFilter.decode place j = .ok f ↔
      ∃ r, Record.ofValue place "struct CustomFilter" ["field", "operator", "value"] j = .ok r ∧
        r.excess = none ∧ r.Reads "field" Decode.string f.field ∧
        r.Reads "operator" (Comparison.decode place) f.comparison ∧
        r.Reads "value" Value.decode f.value := by
  unfold CustomFilter.decode
  simp only [bind_ok_iff, Record.required_ok_iff]
  constructor
  · rintro ⟨r, made, ⟨⟩, settled, _, field, _, comparison, _, value, ⟨⟩⟩
    exact ⟨r, made, r.settle_fits _ settled, field, comparison, value⟩
  · rintro ⟨r, made, fits, field, comparison, value⟩
    refine ⟨r, made, (), r.settle_ok _ fits ?_, _, field, _, comparison, _, value, rfl⟩
    simp [field.faultless, comparison.faultless, value.faultless]

theorem Filter.decode_ok_iff (place : Place) (j : Json) (f : Filter) :
    Filter.decode place j = .ok f ↔
      ∃ r, Record.ofValue place "struct FilterModel"
          ["contentType", "operator", "textFilters", "dateFilters", "rangeFilters", "booleanFilters",
            "customFilters"] j = .ok r ∧
        r.excess = none ∧ r.Reads "contentType" (ContentType.decode place) f.contentType ∧
        r.Offers "operator" (Connective.decode place) .and f.connective ∧
        r.Offers "textFilters" (Decode.list (TextFilter.decode place)) [] f.texts ∧
        r.Offers "dateFilters" (Decode.list (DateFilter.decode place)) [] f.dates ∧
        r.Offers "rangeFilters" (Decode.list (RangeFilter.decode place)) [] f.ranges ∧
        r.Offers "booleanFilters" (Decode.list (BooleanFilter.decode place)) [] f.booleans ∧
        r.Offers "customFilters" (Decode.list (CustomFilter.decode place)) [] f.customs := by
  unfold Filter.decode
  simp only [bind_ok_iff, Record.required_ok_iff, Record.get_d_ok_iff]
  constructor
  · rintro ⟨r, made, ⟨⟩, settled, _, contentType, _, connective, _, texts, _, dates, _, ranges, _,
      booleans, _, customs, ⟨⟩⟩
    exact ⟨r, made, r.settle_fits _ settled, contentType, connective, texts, dates, ranges, booleans,
      customs⟩
  · rintro ⟨r, made, fits, contentType, connective, texts, dates, ranges, booleans, customs⟩
    refine ⟨r, made, (), r.settle_ok _ fits ?_, _, contentType, _, connective, _, texts, _, dates, _,
      ranges, _, booleans, _, customs, rfl⟩
    simp [contentType.faultless, connective.faultless, texts.faultless, dates.faultless,
      ranges.faultless, booleans.faultless, customs.faultless]

namespace FilterTree

variable (children : Json → Decoded (List FilterTree))

theorem leaf_ok_iff (rest : Json) (t : FilterTree) :
    node children .leaf rest = .ok t ↔
      ∃ r, Record.ofValue .inTagged (Kind.title .leaf) (Kind.fields .leaf) rest = .ok r ∧
        r.excess = none ∧ ∃ id filter, t = .leaf id filter ∧
        r.Offers "id" (Decode.optional Decode.string) none id ∧
        r.Reads "filter" (Filter.decode .inTagged) filter := by
  unfold node
  simp only [bind_ok_iff, Record.required_ok_iff, Record.get_d_ok_iff]
  constructor
  · rintro ⟨r, made, ⟨⟩, settled, id, given, filter, read, ⟨⟩⟩
    exact ⟨r, made, r.settle_fits _ settled, id, filter, rfl, given, read⟩
  · rintro ⟨r, made, fits, id, filter, rfl, given, read⟩
    refine ⟨r, made, (), r.settle_ok _ fits ?_, id, given, filter, read, rfl⟩
    simp [given.faultless, read.faultless]

theorem operator_ok_iff (rest : Json) (t : FilterTree) :
    node children .operator rest = .ok t ↔
      ∃ r, Record.ofValue .inTagged (Kind.title .operator) (Kind.fields .operator) rest = .ok r ∧
        r.excess = none ∧ ∃ id connective inner, t = .operator id connective inner ∧
        r.Offers "id" (Decode.optional Decode.string) none id ∧
        r.Reads "operator" (Connective.decode .inTagged) connective ∧
        r.Offers "children" children [] inner := by
  unfold node
  simp only [bind_ok_iff, Record.required_ok_iff, Record.get_d_ok_iff]
  constructor
  · rintro ⟨r, made, ⟨⟩, settled, id, given, connective, read, inner, nested, ⟨⟩⟩
    exact ⟨r, made, r.settle_fits _ settled, id, connective, inner, rfl, given, read, nested⟩
  · rintro ⟨r, made, fits, id, connective, inner, rfl, given, read, nested⟩
    refine ⟨r, made, (), r.settle_ok _ fits ?_, id, given, connective, read, inner, nested, rfl⟩
    simp [given.faultless, read.faultless, nested.faultless]

theorem group_ok_iff (rest : Json) (t : FilterTree) :
    node children .group rest = .ok t ↔
      ∃ r, Record.ofValue .inTagged (Kind.title .group) (Kind.fields .group) rest = .ok r ∧
        r.excess = none ∧ ∃ id inner, t = .group id inner ∧
        r.Offers "id" (Decode.optional Decode.string) none id ∧
        r.Offers "children" children [] inner := by
  unfold node
  simp only [bind_ok_iff, Record.get_d_ok_iff]
  constructor
  · rintro ⟨r, made, ⟨⟩, settled, id, given, inner, nested, ⟨⟩⟩
    exact ⟨r, made, r.settle_fits _ settled, id, inner, rfl, given, nested⟩
  · rintro ⟨r, made, fits, id, inner, rfl, given, nested⟩
    refine ⟨r, made, (), r.settle_ok _ fits ?_, id, given, inner, nested, rfl⟩
    simp [given.faultless, nested.faultless]

end FilterTree

end ArchiveSearch
