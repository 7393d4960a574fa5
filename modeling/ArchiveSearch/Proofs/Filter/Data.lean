import ArchiveSearch.Proofs.Filter.Stability
import ArchiveSearch.Proofs.Json.Arranged

namespace ArchiveSearch

set_option autoImplicit false

section Arranged

variable (place : Place)

theorem value_arranges : Arranges Value.decode :=
  arranges_plain (fun _ _ read => nomatch read) (fun _ _ read => nomatch read)

theorem text_arranges : Arranges (TextFilter.decode place) := by
  intro j f read
  obtain ⟨r, made, fits, field, value, matching⟩ := (TextFilter.decode_ok_iff place j f).1 read
  obtain ⟨s, made, same⟩ := Record.of_value_arranged _ _ _ _ _ made
  exact (TextFilter.decode_ok_iff place _ f).2 ⟨s, made, same.fits.trans fits, same.reads arranges_string field,
    same.reads arranges_string value, same.offers (arranges_variant place _ _) matching⟩

theorem date_arranges : Arranges (DateFilter.decode place) := by
  intro j f read
  obtain ⟨r, made, fits, field, start, end_, preset⟩ := (DateFilter.decode_ok_iff place j f).1 read
  obtain ⟨s, made, same⟩ := Record.of_value_arranged _ _ _ _ _ made
  exact (DateFilter.decode_ok_iff place _ f).2 ⟨s, made, same.fits.trans fits, same.reads arranges_string field,
    same.offers (arranges_optional arranges_date) start, same.offers (arranges_optional arranges_date) end_,
    same.offers (arranges_variant place _ _) preset⟩

theorem range_arranges : Arranges (RangeFilter.decode place) := by
  intro j f read
  obtain ⟨r, made, fits, field, min, max, step⟩ := (RangeFilter.decode_ok_iff place j f).1 read
  obtain ⟨s, made, same⟩ := Record.of_value_arranged _ _ _ _ _ made
  exact (RangeFilter.decode_ok_iff place _ f).2 ⟨s, made, same.fits.trans fits, same.reads arranges_string field,
    same.reads arranges_real min, same.reads arranges_real max, same.offers (arranges_optional arranges_real) step⟩

theorem boolean_arranges : Arranges (BooleanFilter.decode place) := by
  intro j f read
  obtain ⟨r, made, fits, field, value⟩ := (BooleanFilter.decode_ok_iff place j f).1 read
  obtain ⟨s, made, same⟩ := Record.of_value_arranged _ _ _ _ _ made
  exact (BooleanFilter.decode_ok_iff place _ f).2 ⟨s, made, same.fits.trans fits, same.reads arranges_string field,
    same.reads arranges_bool value⟩

theorem custom_arranges : Arranges (CustomFilter.decode place) := by
  intro j f read
  obtain ⟨r, made, fits, field, comparison, value⟩ := (CustomFilter.decode_ok_iff place j f).1 read
  obtain ⟨s, made, same⟩ := Record.of_value_arranged _ _ _ _ _ made
  exact (CustomFilter.decode_ok_iff place _ f).2 ⟨s, made, same.fits.trans fits, same.reads arranges_string field,
    same.reads (arranges_variant place _ _) comparison, same.reads value_arranges value⟩

theorem filter_arranges : Arranges (Filter.decode place) := by
  intro j f read
  obtain ⟨r, made, fits, contentType, connective, texts, dates, ranges, booleans, customs⟩ :=
    (Filter.decode_ok_iff place j f).1 read
  obtain ⟨s, made, same⟩ := Record.of_value_arranged _ _ _ _ _ made
  exact (Filter.decode_ok_iff place _ f).2 ⟨s, made, same.fits.trans fits,
    same.reads (arranges_variant place _ _) contentType, same.offers (arranges_variant place _ _) connective,
    same.offers (arranges_list (text_arranges place)) texts, same.offers (arranges_list (date_arranges place)) dates,
    same.offers (arranges_list (range_arranges place)) ranges,
    same.offers (arranges_list (boolean_arranges place)) booleans,
    same.offers (arranges_list (custom_arranges place)) customs⟩

end Arranged

theorem Json.of_list_data {α : Type} (encode : α → Json) (xs : List α) (each : ∀ x ∈ xs, (encode x).isData = true) :
    (Json.ofList encode xs).isData = true := by
  refine (are_data_iff _).2 fun item mem => ?_
  obtain ⟨x, inside, rfl⟩ := List.mem_map.1 mem
  exact each x inside

theorem Json.of_binary64_data (x : Binary64) : (Json.ofBinary64 x).isData = true := by
  rcases of_binary64_cases x with ⟨finite, shown⟩ | shown <;> rw [shown]
  · exact finite
  · rfl

theorem Json.of_option_data {α : Type} (encode : α → Json) (x : Option α) (each : ∀ a, (encode a).isData = true) :
    (Json.ofOption encode x).isData = true := by
  cases x with
  | none => rfl
  | some a => exact each a

theorem Value.encode_data (v : Value) : v.encode.isData = true := by
  cases v with
  | integer n =>
      have low := n.le_toInt
      have high := n.toInt_lt
      simp only [encode, Json.isData, Bound.int64, Bound.word64, Bool.and_eq_true, decide_eq_true_eq]
      omega
  | number x => exact Json.of_binary64_data x
  | _ => rfl

theorem DateFilter.encode_data (f : DateFilter) : f.encode.isData = true := by
  have bounds : ∀ d : Option Date, (Json.ofOption (fun d => .string d.text) d).isData = true := fun d =>
    Json.of_option_data _ d fun _ => rfl
  simp [encode, Json.isData, Json.membersData, bounds]

theorem RangeFilter.encode_data (f : RangeFilter) : f.encode.isData = true := by
  have step := Json.of_option_data Json.ofBinary64 f.step Json.of_binary64_data
  simp [encode, Json.isData, Json.membersData, Json.of_binary64_data, step]

theorem CustomFilter.encode_data (f : CustomFilter) : f.encode.isData = true := by
  simp [encode, Json.isData, Json.membersData, Value.encode_data]

theorem Filter.encode_data (f : Filter) : f.encode.isData = true := by
  have texts := Json.of_list_data TextFilter.encode f.texts fun _ _ => rfl
  have dates := Json.of_list_data DateFilter.encode f.dates fun d _ => d.encode_data
  have ranges := Json.of_list_data RangeFilter.encode f.ranges fun r _ => r.encode_data
  have booleans := Json.of_list_data BooleanFilter.encode f.booleans fun _ _ => rfl
  have customs := Json.of_list_data CustomFilter.encode f.customs fun c _ => c.encode_data
  simp only [encode, Json.isData, Json.membersData, texts, dates, ranges, booleans, customs, Bool.and_self]

theorem Json.of_list_depth {α : Type} (encode : α → Json) (xs : List α) (most : Nat)
    (each : ∀ x ∈ xs, (encode x).depth ≤ most) : (Json.ofList encode xs).depth ≤ 1 + most := by
  have inner : depthItems (xs.map encode) ≤ most := by
    induction xs with
    | nil => exact Nat.zero_le _
    | cons x xs ih =>
        obtain ⟨here, others⟩ := List.forall_mem_cons.1 each
        exact max_le here (ih others)
  exact Nat.add_le_add_left inner 1

theorem Json.of_binary64_depth (x : Binary64) : (Json.ofBinary64 x).depth = 0 := by
  rcases of_binary64_cases x with ⟨-, shown⟩ | shown <;> rw [shown] <;> rfl

theorem Json.of_option_depth {α : Type} (encode : α → Json) (x : Option α) (each : ∀ a, (encode a).depth = 0) :
    (Json.ofOption encode x).depth = 0 := by
  cases x with
  | none => rfl
  | some a => exact each a

theorem Value.encode_depth (v : Value) : v.encode.depth = 0 := by
  cases v with
  | number x => exact Json.of_binary64_depth x
  | _ => rfl

theorem DateFilter.encode_depth (f : DateFilter) : f.encode.depth ≤ 1 := by
  have bounds : ∀ d : Option Date, (Json.ofOption (fun d => .string d.text) d).depth = 0 := fun d =>
    Json.of_option_depth _ d fun _ => rfl
  simp [encode, Json.depth, Json.depthMembers, bounds]

theorem RangeFilter.encode_depth (f : RangeFilter) : f.encode.depth ≤ 1 := by
  have step := Json.of_option_depth Json.ofBinary64 f.step Json.of_binary64_depth
  simp [encode, Json.depth, Json.depthMembers, Json.of_binary64_depth, step]

theorem CustomFilter.encode_depth (f : CustomFilter) : f.encode.depth ≤ 1 := by
  simp [encode, Json.depth, Json.depthMembers, Value.encode_depth]

theorem Filter.encode_depth (f : Filter) : f.encode.depth ≤ 3 := by
  have texts := Json.of_list_depth TextFilter.encode f.texts 1 fun _ _ => Nat.le_refl 1
  have dates := Json.of_list_depth DateFilter.encode f.dates 1 fun d _ => d.encode_depth
  have ranges := Json.of_list_depth RangeFilter.encode f.ranges 1 fun r _ => r.encode_depth
  have booleans := Json.of_list_depth BooleanFilter.encode f.booleans 1 fun _ _ => Nat.le_refl 1
  have customs := Json.of_list_depth CustomFilter.encode f.customs 1 fun c _ => c.encode_depth
  simp only [encode, Json.depth, Json.depthMembers]
  omega

end ArchiveSearch
