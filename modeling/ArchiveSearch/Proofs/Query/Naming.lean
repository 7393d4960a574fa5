import ArchiveSearch.Proofs.Filter.Fields
import ArchiveSearch.Proofs.Outcome
import ArchiveSearch.Query.Condition

namespace ArchiveSearch

set_option autoImplicit false

namespace Column

def isLower (c : Char) : Bool :=
  'a' ≤ c && c ≤ 'z'

def isColumnChar (c : Char) : Bool :=
  isLowerOrDigit c || c == '_'

def isName : List Char → Bool
  | [] => false
  | first :: rest => (isLower first || first == '_') && rest.all isColumnChar

theorem upper_lowered (c : Char) (upper : isUpper c = true) : isLower c.toLower = true := by
  simp only [isUpper, Bool.and_eq_true, decide_eq_true_eq] at upper
  have low : 65 ≤ c.toNat := upper.1
  have high : c.toNat ≤ 90 := upper.2
  have letters : ∀ n : Fin 26, isLower (Char.ofNat (65 + n)).toLower = true := by decide
  have lowered := letters ⟨c.toNat - 65, by omega⟩
  have back : 65 + (c.toNat - 65) = c.toNat := by omega
  simpa only [back, Char.ofNat_toNat] using lowered

theorem lower_column (c : Char) (lower : isLower c = true) : isColumnChar c = true := by
  rw [isLower] at lower
  rw [isColumnChar, isLowerOrDigit, lower]
  rfl

theorem snake_from_chars (before : Option Char) (cs : List Char)
    (plain : ∀ c ∈ cs, continuesName c = true) :
    ∀ c ∈ snakeFrom before cs, isColumnChar c = true := by
  induction cs generalizing before with
  | nil => simp [snakeFrom]
  | cons first rest ih =>
      have later := ih (some first) fun c member => plain c (List.mem_cons_of_mem _ member)
      have here := plain first List.mem_cons_self
      intro c member
      rw [snakeFrom] at member
      by_cases upper : isUpper first = true
      · have lowered := lower_column _ (upper_lowered first upper)
        rw [if_pos upper] at member
        split at member
        · rcases List.mem_cons.mp member with rfl | member
          · decide
          · rcases List.mem_cons.mp member with rfl | member
            · exact lowered
            · exact later c member
        · rcases List.mem_cons.mp member with rfl | member
          · exact lowered
          · exact later c member
      · rw [if_neg upper] at member
        rcases List.mem_cons.mp member with rfl | member
        · simpa [continuesName, isColumnChar, upper] using here
        · exact later c member

theorem starts_continues (c : Char) (starts : startsName c = true) : continuesName c = true := by
  simp only [startsName, continuesName, isLowerOrDigit, Bool.or_eq_true] at starts ⊢
  rcases starts with (upper | lower) | underscore
  · exact .inl (.inl upper)
  · exact .inl (.inr (.inl lower))
  · exact .inr underscore

theorem identifier_continues (first : Char) (rest : List Char) (identifier : isIdentifier (first :: rest) = true) :
    ∀ c ∈ first :: rest, continuesName c = true := by
  simp only [isIdentifier, Bool.and_eq_true, List.all_eq_true] at identifier
  intro c member
  rcases List.mem_cons.mp member with rfl | member
  · exact starts_continues _ identifier.1
  · exact identifier.2 c member

theorem of_field_some (field column : String) (named : ofField? field = some column) :
    isIdentifier field.toList = true ∧ column.toList = snakeFrom none field.toList := by
  unfold ofField? at named
  split at named
  case isFalse => cases named
  case isTrue identifier =>
    cases named
    exact ⟨identifier, String.toList_ofList⟩

theorem of_field_chars (field column : String) (named : ofField? field = some column) :
    ∀ c ∈ column.toList, isColumnChar c = true := by
  obtain ⟨identifier, made⟩ := of_field_some field column named
  rw [made]
  apply snake_from_chars
  cases cs : field.toList with
  | nil => simp
  | cons first rest => exact identifier_continues first rest (cs ▸ identifier)

theorem of_field_is_name (field column : String) (named : ofField? field = some column) :
    isName column.toList = true := by
  obtain ⟨identifier, made⟩ := of_field_some field column named
  rw [made]
  cases cs : field.toList with
  | nil =>
      rw [cs] at identifier
      cases identifier
  | cons first rest =>
      rw [cs] at identifier
      have plain := identifier_continues first rest identifier
      have later := List.all_eq_true.2 (snake_from_chars (some first) rest fun c member =>
        plain c (List.mem_cons_of_mem _ member))
      have starts := (Bool.and_eq_true_iff.1 identifier).1
      rw [snakeFrom]
      by_cases upper : isUpper first = true
      · -- Nothing stands before the first character, so no underscore is put there.
        rw [if_pos upper, if_neg (by simp), isName, upper_lowered first upper, later]
        rfl
      · have lower : (isLower first || first == '_') = true := by
          simpa [startsName, isLower, upper] using starts
        rw [if_neg upper, isName, lower, later]
        rfl

end Column

def Parts.Named (p : Parts) : Prop :=
  ∀ clause ∈ p.clauses, ∃ field, Column.ofField? field = some clause.column

namespace Filter

theorem parts_made_iff (today : Date) (f : Filter) (p : Parts) :
    f.parts today = .ok p ↔ ∃ texts dates ranges booleans customs,
      f.texts.mapM textPart = .ok texts ∧ f.dates.mapM (dateClause today) = .ok dates ∧
      f.ranges.mapM rangeClause = .ok ranges ∧ f.booleans.mapM booleanClause = .ok booleans ∧
      f.customs.mapM customClause = .ok customs ∧
      p = { contentType := f.contentType
            connective := f.connective
            terms := texts.filterMap (·.1)
            clauses := texts.filterMap (·.2) ++ dates.filterMap id ++ ranges ++ booleans ++ customs } := by
  unfold parts
  simp only [bind_ok_iff]
  constructor
  · rintro ⟨texts, madeTexts, dates, madeDates, ranges, madeRanges, booleans, madeBooleans, customs, madeCustoms, ⟨⟩⟩
    exact ⟨texts, dates, ranges, booleans, customs, madeTexts, madeDates, madeRanges, madeBooleans, madeCustoms, rfl⟩
  · rintro ⟨texts, dates, ranges, booleans, customs, madeTexts, madeDates, madeRanges, madeBooleans, madeCustoms, rfl⟩
    exact ⟨texts, madeTexts, dates, madeDates, ranges, madeRanges, booleans, madeBooleans, customs, madeCustoms, rfl⟩

theorem column_of_ok (field column : String) (found : columnOf field = .ok column) :
    Column.ofField? field = some column := by
  unfold columnOf at found
  split at found
  · cases found
    assumption
  · cases found

theorem text_part_column (f : TextFilter) (term : Option String) (clause : Clause)
    (made : textPart f = .ok (term, some clause)) : Column.ofField? f.field = some clause.column := by
  obtain ⟨column, found, rest⟩ := (bind_ok_iff _ _ _).mp made
  split at rest
  · cases rest
    exact column_of_ok _ _ found
  · simp [pure, Except.pure] at rest

theorem date_clause_column (today : Date) (f : DateFilter) (clause : Clause)
    (made : dateClause today f = .ok (some clause)) : Column.ofField? f.field = some clause.column := by
  obtain ⟨column, found, rest⟩ := (bind_ok_iff _ _ _).mp made
  obtain ⟨bounds, _, last⟩ := (bind_ok_iff _ _ _).mp rest
  rw [column_of_ok _ _ found]
  split at last <;> cases last <;> rfl

def columns (f : Filter) : List String :=
  (f.fields.map Prod.snd).filterMap Column.ofField?

theorem parts_columns (today : Date) (f : Filter) (p : Parts) (compiled : f.parts today = .ok p) :
    ∀ clause ∈ p.clauses, clause.column ∈ f.columns := by
  obtain ⟨texts, dates, ranges, booleans, customs, madeTexts, madeDates, madeRanges, madeBooleans, madeCustoms, rfl⟩ :=
    (parts_made_iff today f p).1 compiled
  intro clause member
  simp only [columns, fields, List.map_append, fields_in_names, List.filterMap_append, List.append_assoc,
    List.mem_append, List.mem_filterMap, List.mem_map] at member ⊢
  rcases member with ⟨part, inside, some_⟩ | ⟨date, inside, some_⟩ | inside | inside | inside
  · obtain ⟨text, there, made⟩ := map_each_ok_mem _ _ _ madeTexts part inside
    obtain ⟨term, clause?⟩ := part
    cases some_
    exact .inl ⟨_, ⟨text, there, rfl⟩, text_part_column text term clause made⟩
  · obtain ⟨filter, there, made⟩ := map_each_ok_mem _ _ _ madeDates date inside
    cases some_
    exact .inr (.inl ⟨_, ⟨filter, there, rfl⟩, date_clause_column today filter clause made⟩)
  · obtain ⟨filter, there, made⟩ := map_each_ok_mem _ _ _ madeRanges clause inside
    obtain ⟨column, found, same⟩ := (bind_ok_iff _ _ _).mp made
    cases same
    exact .inr (.inr (.inl ⟨_, ⟨filter, there, rfl⟩, column_of_ok _ _ found⟩))
  · obtain ⟨filter, there, made⟩ := map_each_ok_mem _ _ _ madeBooleans clause inside
    obtain ⟨column, found, same⟩ := (bind_ok_iff _ _ _).mp made
    cases same
    exact .inr (.inr (.inr (.inl ⟨_, ⟨filter, there, rfl⟩, column_of_ok _ _ found⟩)))
  · obtain ⟨filter, there, made⟩ := map_each_ok_mem _ _ _ madeCustoms clause inside
    obtain ⟨column, found, same⟩ := (bind_ok_iff _ _ _).mp made
    cases same
    exact .inr (.inr (.inr (.inr ⟨_, ⟨filter, there, rfl⟩, column_of_ok _ _ found⟩)))

theorem parts_category (today : Date) (f : Filter) (p : Parts) (compiled : f.parts today = .ok p) :
    p.contentType = f.contentType := by
  obtain ⟨texts, dates, ranges, booleans, customs, -, -, -, -, -, rfl⟩ := (parts_made_iff today f p).1 compiled
  rfl

theorem parts_named (today : Date) (f : Filter) (p : Parts) (compiled : f.parts today = .ok p) : p.Named := by
  intro clause member
  obtain ⟨field, -, named⟩ := List.mem_filterMap.1 (parts_columns today f p compiled clause member)
  exact ⟨field, named⟩

end Filter

end ArchiveSearch
