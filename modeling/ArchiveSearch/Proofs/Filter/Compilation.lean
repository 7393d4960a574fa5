import ArchiveSearch.Proofs.Calendar.Days
import ArchiveSearch.Proofs.Query.Naming
import ArchiveSearch.Proofs.Text.Trimming

namespace ArchiveSearch

set_option autoImplicit false

-- A step that comes to an end if every field has a column, and otherwise refuses the first that has none.
def Needs {α : Type} (fields : List String) (x : Outcome α) : Prop :=
  match fields.find? Column.isMissing with
  | none => ∃ a, x = .ok a
  | some field => x = .error (.invalidField field)

section Steps

variable {α β : Type}

theorem needs_pure (a : α) : Needs [] (pure a) :=
  ⟨a, rfl⟩

theorem needs_bind {fields others : List String} {x : Outcome α} {next : α → Outcome β} (first : Needs fields x)
    (rest : ∀ a, Needs others (next a)) : Needs (fields ++ others) (x >>= next) := by
  unfold Needs at first ⊢
  rw [List.find?_append]
  cases missing : fields.find? Column.isMissing with
  | none =>
      rw [missing] at first
      obtain ⟨a, rfl⟩ := first
      exact rest a
  | some field =>
      rw [missing] at first
      rw [first]
      rfl

theorem needs_return {fields : List String} {x : Outcome α} (f : α → β) (needs : Needs fields x) :
    Needs fields (x >>= fun a => pure (f a)) := by
  have both := needs_bind needs fun a => needs_pure (f a)
  rwa [List.append_nil] at both

theorem needs_map_each {field : α → String} {step : α → Outcome β} (each : ∀ x, Needs [field x] (step x))
    (xs : List α) : Needs (xs.map field) (xs.mapM step) := by
  induction xs with
  | nil => exact needs_pure []
  | cons x rest ih =>
      rw [List.mapM_cons]
      exact needs_bind (each x) fun y => needs_return (y :: ·) ih

end Steps

namespace Filter

theorem column_of_needs (field : String) : Needs [field] (columnOf field) := by
  unfold Needs columnOf
  cases named : Column.ofField? field with
  | none =>
      have missing : Column.isMissing field = true := by simp [Column.isMissing, named]
      rw [List.find?_cons_of_pos missing]
  | some column =>
      have present : ¬ Column.isMissing field = true := by simp [Column.isMissing, named]
      rw [List.find?_cons_of_neg present]
      exact ⟨column, rfl⟩

theorem text_part_needs (f : TextFilter) : Needs [f.field] (textPart f) := by
  refine needs_bind (column_of_needs f.field) fun column => ?_
  split
  · exact needs_pure _
  · exact needs_pure _

theorem offset_days_le (preset : DatePreset) (days : Nat) (opens : preset.offsetDays = some days) :
    days ≤ 3652 := by
  cases preset <;> cases opens <;> decide

theorem date_bounds_exist (today : Date) (far : Date.first.ordinal + 3652 ≤ today.ordinal) (f : DateFilter) :
    ∃ bounds, dateBounds today f = .ok bounds := by
  unfold dateBounds
  cases opens : f.preset.offsetDays with
  | none => exact ⟨_, rfl⟩
  | some days =>
      have near := offset_days_le f.preset days opens
      obtain ⟨first, reached, -⟩ := today.days_before_exists days (by omega)
      exact ⟨(some first, some today), by simp only [reached]⟩

theorem date_clause_needs (today : Date) (far : Date.first.ordinal + 3652 ≤ today.ordinal) (f : DateFilter) :
    Needs [f.field] (dateClause today f) := by
  refine needs_bind (column_of_needs f.field) fun column => ?_
  obtain ⟨bounds, found⟩ := date_bounds_exist today far f
  rw [found]
  obtain ⟨start, end_⟩ := bounds
  cases start <;> cases end_ <;> exact needs_pure _

theorem range_clause_needs (f : RangeFilter) : Needs [f.field] (rangeClause f) :=
  needs_return (fun column => (⟨column, .between f.min f.max⟩ : Clause)) (column_of_needs f.field)

theorem boolean_clause_needs (f : BooleanFilter) : Needs [f.field] (booleanClause f) :=
  needs_return (fun column => (⟨column, .flag f.value⟩ : Clause)) (column_of_needs f.field)

theorem custom_clause_needs (f : CustomFilter) : Needs [f.field] (customClause f) :=
  needs_return (fun column => (⟨column, .compare f.comparison f.value⟩ : Clause)) (column_of_needs f.field)

theorem parts_needs (today : Date) (far : Date.first.ordinal + 3652 ≤ today.ordinal) (f : Filter) :
    Needs (f.fields.map Prod.snd) (f.parts today) := by
  simp only [fields, List.map_append, fields_in_names, List.append_assoc]
  refine needs_bind (needs_map_each text_part_needs f.texts) fun texts => ?_
  refine needs_bind (needs_map_each (date_clause_needs today far) f.dates) fun dates => ?_
  refine needs_bind (needs_map_each range_clause_needs f.ranges) fun ranges => ?_
  refine needs_bind (needs_map_each boolean_clause_needs f.booleans) fun booleans => ?_
  exact needs_return _ (needs_map_each custom_clause_needs f.customs)

theorem term_exists (column value : String) (matching : TextMatch) (full : Text.isAllBlank value = false)
    (loose : matching ≠ .equals) : ∃ term, FullText.term? column value matching = some term := by
  unfold FullText.term?
  simp only [Text.lower_trim_is_empty, full, Bool.false_eq_true, if_false]
  cases matching with
  | equals => exact absurd rfl loose
  | _ => exact ⟨_, rfl⟩

theorem text_part_one (f : TextFilter) (part : Option String × Option Clause) (made : textPart f = .ok part)
    (full : Text.isAllBlank f.value = false) : part.1.toList.length + part.2.toList.length = 1 := by
  unfold textPart at made
  obtain ⟨column, -, rest⟩ := (bind_ok_iff _ _ _).1 made
  by_cases exact_ : f.matching = .equals
  · rw [if_pos exact_] at rest
    cases rest
    rfl
  · obtain ⟨term, found⟩ := term_exists column f.value f.matching full exact_
    rw [if_neg exact_, found] at rest
    cases rest
    rfl

theorem texts_counted (texts : List TextFilter) (parts : List (Option String × Option Clause))
    (made : texts.mapM textPart = .ok parts) (full : ∀ f ∈ texts, Text.isAllBlank f.value = false) :
    (parts.filterMap (·.1)).length + (parts.filterMap (·.2)).length = texts.length := by
  have related := (map_each_ok_iff textPart texts parts).1 made
  clear made
  induction related with
  | nil => rfl
  | @cons f part rest parts first others ih =>
      have one := text_part_one f part first (full f List.mem_cons_self)
      have more := ih fun g mem => full g (List.mem_cons_of_mem _ mem)
      obtain ⟨term, clause⟩ := part
      cases term <;> cases clause <;> simp at one ⊢ <;> omega

theorem offset_days_custom (preset : DatePreset) : preset.offsetDays = none ↔ preset = .custom := by
  cases preset <;> decide

theorem date_bounds_none (today : Date) (f : DateFilter) :
    dateBounds today f = .ok (none, none) ↔ f.isUnbounded = true := by
  unfold dateBounds DateFilter.isUnbounded
  cases opens : f.preset.offsetDays with
  | none => simp [(offset_days_custom f.preset).1 opens]
  | some days =>
      have own : f.preset ≠ .custom := fun custom => by simp [(offset_days_custom f.preset).2 custom] at opens
      cases reached : today.daysBefore? days <;> simp [reached, own]

theorem date_clause_none (today : Date) (f : DateFilter) (clause : Option Clause)
    (made : dateClause today f = .ok clause) : clause.isNone = f.isUnbounded := by
  unfold dateClause at made
  obtain ⟨column, -, rest⟩ := (bind_ok_iff _ _ _).1 made
  obtain ⟨⟨start, end_⟩, opened, last⟩ := (bind_ok_iff _ _ _).1 rest
  have unbounded := date_bounds_none today f
  rw [opened] at unbounded
  cases start <;> cases end_ <;> cases last <;> simpa using unbounded

theorem dates_counted (today : Date) (dates : List DateFilter) (clauses : List (Option Clause))
    (made : dates.mapM (dateClause today) = .ok clauses) :
    (clauses.filterMap id).length + (dates.filter DateFilter.isUnbounded).length = dates.length := by
  have related := (map_each_ok_iff (dateClause today) dates clauses).1 made
  clear made
  induction related with
  | nil => rfl
  | @cons f clause rest clauses first others ih =>
      have silent := date_clause_none today f clause first
      cases clause <;> simp [← silent] at ih ⊢ <;> omega

theorem parts_counted (today : Date) (f : Filter) (p : Parts) (made : f.parts today = .ok p)
    (full : ∀ t ∈ f.texts, Text.isAllBlank t.value = false) :
    p.clauses.length + p.terms.length + (f.dates.filter DateFilter.isUnbounded).length = f.predicateCount := by
  obtain ⟨texts, dates, ranges, booleans, customs, madeTexts, madeDates, madeRanges, madeBooleans, madeCustoms, rfl⟩ :=
    (parts_made_iff today f p).1 made
  have countedTexts := texts_counted f.texts texts madeTexts full
  have countedDates := dates_counted today f.dates dates madeDates
  have countedRanges := ((map_each_ok_iff _ _ _).1 madeRanges).length_eq
  have countedBooleans := ((map_each_ok_iff _ _ _).1 madeBooleans).length_eq
  have countedCustoms := ((map_each_ok_iff _ _ _).1 madeCustoms).length_eq
  simp only [List.length_append, predicateCount]
  omega

theorem valid_texts (f : Filter) (valid : f.errors = []) (t : TextFilter) (mem : t ∈ f.texts) :
    Text.isAllBlank t.value = false := by
  simp only [errors, List.append_eq_nil_iff] at valid
  obtain ⟨i, here⟩ := List.mem_iff_getElem?.1 mem
  have silent := (issues_in_nil_iff "textFilters" textIssues f.texts).1 valid.1.1.1.1 i t here
  rw [textIssues, List.append_eq_nil_iff] at silent
  by_cases blank : Text.isAllBlank t.value = true
  · rw [if_pos blank] at silent
    cases silent.2
  · exact Bool.eq_false_iff.2 blank

def matchesEveryDate : String :=
  "Custom date range has no bounds and matches every date"

theorem date_warnings_every_date (path : String) (f : DateFilter) :
    ((dateWarnings path f).filter (·.message == matchesEveryDate)).map Issue.field =
      if f.isUnbounded then [path] else [] := by
  unfold dateWarnings
  split <;> split <;> rfl

theorem other_message (message : String) (other : message.toList.head? ≠ some 'C') :
    [Issue.mk "filters" message].filter (·.message == matchesEveryDate) = [] := by
  have apart : (message == matchesEveryDate) = false := by
    rw [beq_eq_false_iff_ne]
    rintro rfl
    exact other rfl
  rw [List.filter_cons_of_neg (by rw [apart]; decide), List.filter_nil]

theorem warnings_every_date (f : Filter) :
    (f.warnings.filter (·.message == matchesEveryDate)).map Issue.field =
      (f.dates.zipIdx.filter (·.1.isUnbounded)).map fun x => pathOf "dateFilters" x.2 := by
  have listed := issues_in_kept (·.message == matchesEveryDate) "dateFilters" dateWarnings DateFilter.isUnbounded id
    (fun index => date_warnings_every_date (pathOf "dateFilters" index)) f.dates
  have empty := other_message "No filters applied; every record will match" (by decide)
  have complex := other_message ("Filter complexity " ++ halvesText f.complexityHalves ++ " exceeds " ++
    complexityLimit.repr ++ "; the search may be slow") (by simp [String.toList_append])
  simp only [warnings, List.filter_append, listed, apply_ite (List.filter _), empty, complex, List.filter_nil,
    ite_self, List.append_nil, id]

theorem parts_settled (f : Filter) (today : Date) (far : Date.first.ordinal + 3652 ≤ today.ordinal) :
    match f.errors.filter Issue.isOfField with
    | first :: _ => ∃ field, f.fieldAt? first.field = some field ∧ f.parts today = .error (.invalidField field)
    | [] => ∃ p, f.parts today = .ok p := by
  have needs := parts_needs today far f
  have paths := errors_paths f
  rw [Needs, List.find?_map, ← List.head?_filter] at needs
  rw [fieldPaths] at paths
  cases wrong : f.errors.filter Issue.isOfField with
  | nil =>
      rw [wrong] at paths
      have none_missing := List.map_eq_nil_iff.1 paths.symm
      simp only [Function.comp_def, none_missing] at needs
      exact needs
  | cons first others =>
      rw [wrong] at paths
      obtain ⟨⟨path, field⟩, missing, listed, rfl, -⟩ := List.map_eq_cons_iff.1 paths.symm
      have mem : (first.field, field) ∈ f.fields := List.mem_of_mem_filter (by rw [listed]; exact List.mem_cons_self)
      refine ⟨field, f.field_at_eq _ _ mem, ?_⟩
      simp only [Function.comp_def, listed] at needs
      exact needs

-- Validation foretells compilation: the first error in a field is the field that is refused, and without one the
-- three queries are made of the same parts. Nothing of a valid filter is lost but the dates it is warned about.
theorem compiled_as_validated (today : Date) (far : Date.first.ordinal + 3652 ≤ today.ordinal) (f : Filter) :
    (match f.validate.errors.filter Issue.isOfField with
      | first :: _ => ∃ field, f.fieldAt? first.field = some field ∧
          f.compile today = .error (.invalidField field) ∧
          f.compileCount today = .error (.invalidField field) ∧
          f.compileCondition today = .error (.invalidField field)
      | [] => ∃ p, f.parts today = .ok p ∧ f.compile today = .ok p.select ∧ f.compileCount today = .ok p.count ∧
          f.compileCondition today = .ok p.condition ∧
          (f.validate.errors = [] →
            p.clauses.length + p.terms.length + (f.dates.filter DateFilter.isUnbounded).length =
              f.predicateCount)) ∧
      (f.validate.warnings.filter (·.message == matchesEveryDate)).map Issue.field =
        (f.dates.zipIdx.filter (·.1.isUnbounded)).map fun x => pathOf "dateFilters" x.2 := by
  refine ⟨?_, f.warnings_every_date⟩
  have settled := f.parts_settled today far
  unfold validate compile compileCount compileCondition
  simp only
  split at settled
  · obtain ⟨field, named, refused⟩ := settled
    exact ⟨field, named, by rw [refused]; rfl, by rw [refused]; rfl, by rw [refused]; rfl⟩
  · obtain ⟨p, made⟩ := settled
    refine ⟨p, made, by rw [made]; rfl, by rw [made]; rfl, by rw [made]; rfl, fun valid => ?_⟩
    exact parts_counted today f p made (f.valid_texts valid)

def leapDay : Date :=
  ⟨2024, 2, 29, rfl⟩

def misnamed : Filter :=
  { contentType := .alumni
    texts := [{ field := "city", value := " " }]
    dates := [{ field := "2nd", preset := .last10Years }, { field := "gradDate" }]
    booleans := [{ field := "is active", value := true }] }

theorem misnamed_compiled_as_validated :
    Date.first.ordinal + 3652 ≤ leapDay.ordinal ∧
      misnamed.compile leapDay = .error (.invalidField "2nd") ∧
      misnamed.compileCount leapDay = .error (.invalidField "2nd") ∧
      misnamed.compileCondition leapDay = .error (.invalidField "2nd") ∧
      (misnamed.validate.warnings.filter (·.message == matchesEveryDate)).map Issue.field = ["dateFilters[1]"] := by
  have far : Date.first.ordinal + 3652 ≤ leapDay.ordinal := by decide +kernel
  obtain ⟨refused, warned⟩ := compiled_as_validated leapDay far misnamed
  have wrong : misnamed.validate.errors.filter Issue.isOfField =
      [⟨"dateFilters[0].field", "Field \"2nd\" is not a valid identifier"⟩,
        ⟨"booleanFilters[0].field", "Field \"is active\" is not a valid identifier"⟩] := by decide +kernel
  rw [wrong] at refused
  obtain ⟨field, named, refused⟩ := refused
  have second : misnamed.fieldAt? "dateFilters[0].field" = some "2nd" := by decide +kernel
  obtain rfl : field = "2nd" := Option.some.inj (named.symm.trans second)
  exact ⟨far, refused.1, refused.2.1, refused.2.2, warned.trans (by decide +kernel)⟩

end Filter

end ArchiveSearch
