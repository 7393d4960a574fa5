import ArchiveSearch.Proofs.Query.Naming

/- Columns against the fields they are made of. Just the identifiers have a column. It is the field in lower case, with an
   underscore before every hump, and it is its own column. -/
namespace ArchiveSearch.Column

set_option autoImplicit false

def Identifier (cs : List Char) : Prop :=
  ∃ first rest, cs = first :: rest ∧ (first.isAlpha = true ∨ first = '_') ∧
    ∀ c ∈ rest, c.isAlphanum = true ∨ c = '_'

def SnakeName (cs : List Char) : Prop :=
  ∃ first rest, cs = first :: rest ∧ (first.isLower = true ∨ first = '_') ∧
    ∀ c ∈ rest, c.isLower = true ∨ c.isDigit = true ∨ c = '_'

def isHump (cs : List Char) : Nat → Bool
  | 0 => false
  | i + 1 => cs[i]?.any (fun before => before.isLower || before.isDigit) && cs[i + 1]?.any Char.isUpper

def parted (cs : List Char) : List Char :=
  cs.zipIdx.flatMap fun x => if isHump cs x.2 then ['_', x.1.toLower] else [x.1.toLower]

def bare (cs : List Char) : List Char :=
  (cs.filter (· != '_')).map Char.toLower

theorem is_upper_eq (c : Char) : isUpper c = c.isUpper :=
  (Bool.decide_and _ _).symm

theorem is_lower_or_digit_eq (c : Char) : isLowerOrDigit c = (c.isLower || c.isDigit) :=
  rfl

theorem is_alpha_eq (c : Char) : c.isAlpha = (c.isUpper || c.isLower) :=
  rfl

theorem is_alphanum_eq (c : Char) : c.isAlphanum = (c.isUpper || c.isLower || c.isDigit) :=
  rfl

theorem starts_name_iff (c : Char) : startsName c = true ↔ c.isAlpha = true ∨ c = '_' := by
  have letters : startsName c = (c.isAlpha || c == '_') := by
    rw [is_alpha_eq, ← is_upper_eq]
    rfl
  rw [letters, Bool.or_eq_true, beq_iff_eq]

theorem continues_name_iff (c : Char) : continuesName c = true ↔ c.isAlphanum = true ∨ c = '_' := by
  have letters : continuesName c = (c.isAlphanum || c == '_') := by
    rw [continuesName, is_alphanum_eq, is_upper_eq, is_lower_or_digit_eq, Bool.or_assoc c.isUpper c.isLower]
  rw [letters, Bool.or_eq_true, beq_iff_eq]

theorem is_identifier_iff (cs : List Char) : isIdentifier cs = true ↔ Identifier cs := by
  cases cs with
  | nil =>
      refine iff_of_false (by decide) ?_
      rintro ⟨_, _, ⟨⟩, -⟩
  | cons first rest =>
      rw [isIdentifier, Bool.and_eq_true, List.all_eq_true, starts_name_iff]
      simp only [continues_name_iff]
      constructor
      · rintro ⟨starts, continues⟩
        exact ⟨first, rest, rfl, starts, continues⟩
      · rintro ⟨_, _, ⟨⟩, starts, continues⟩
        exact ⟨starts, continues⟩

theorem snake_name_of_is_name (cs : List Char) (named : isName cs = true) : SnakeName cs := by
  cases cs with
  | nil => cases named
  | cons first rest =>
      rw [isName, Bool.and_eq_true, Bool.or_eq_true, beq_iff_eq, List.all_eq_true] at named
      refine ⟨first, rest, rfl, named.1, fun c mem => ?_⟩
      have plain := named.2 c mem
      rwa [isColumnChar, is_lower_or_digit_eq, Bool.or_eq_true, Bool.or_eq_true, beq_iff_eq, or_assoc] at plain

theorem SnakeName.identifier {cs : List Char} (snake : SnakeName cs) : Identifier cs := by
  obtain ⟨first, rest, rfl, starts, continues⟩ := snake
  refine ⟨first, rest, rfl, starts.imp_left fun lower => ?_, fun c mem => ?_⟩
  · rw [is_alpha_eq, lower, Bool.or_true]
  · rcases continues c mem with lower | digit | underscore
    · exact .inl (by rw [is_alphanum_eq, lower, Bool.or_true, Bool.true_or])
    · exact .inl (by rw [is_alphanum_eq, digit, Bool.or_true])
    · exact .inr underscore

theorem to_lower_small (c : Char) (small : isUpper c = false) : c.toLower = c := by
  refine dif_neg fun capital => ?_
  rw [is_upper_eq] at small
  exact Bool.false_ne_true (small.symm.trans (decide_eq_true capital))

theorem column_char_small (c : Char) (plain : isColumnChar c = true) : isUpper c = false := by
  simp only [isColumnChar, isLowerOrDigit, Bool.or_eq_true, Bool.and_eq_true, decide_eq_true_eq, beq_iff_eq] at plain
  rw [isUpper, Bool.and_eq_false_iff, decide_eq_false_iff_not, decide_eq_false_iff_not]
  rcases plain with (⟨low, -⟩ | ⟨-, high⟩) | rfl
  · refine .inr fun upper => ?_
    have letter : 97 ≤ c.toNat := low
    have capital : c.toNat ≤ 90 := upper
    omega
  · refine .inl fun upper => ?_
    have digit : c.toNat ≤ 57 := high
    have capital : 65 ≤ c.toNat := upper
    omega
  · exact .inr (by decide)

theorem is_upper_to_lower (c : Char) : isUpper c.toLower = false := by
  by_cases upper : isUpper c = true
  · exact column_char_small _ (lower_column _ (upper_lowered c upper))
  · rw [Bool.not_eq_true] at upper
    rw [to_lower_small c upper, upper]

theorem to_lower_again (c : Char) : c.toLower.toLower = c.toLower :=
  to_lower_small _ (is_upper_to_lower c)

theorem snake_from_cons (before : Option Char) (c : Char) (rest : List Char) :
    snakeFrom before (c :: rest) =
      (if before.any isLowerOrDigit && isUpper c then ['_', c.toLower] else [c.toLower]) ++ snakeFrom (some c) rest := by
  rw [snakeFrom]
  by_cases upper : isUpper c = true
  · rw [if_pos upper, upper, Bool.and_true]
    split <;> rfl
  · rw [Bool.not_eq_true] at upper
    rw [upper, Bool.and_false, if_neg Bool.false_ne_true, if_neg Bool.false_ne_true, to_lower_small c upper]
    rfl

theorem is_hump_at (front : List Char) (c : Char) (rest : List Char) :
    isHump (front ++ c :: rest) front.length = (front.getLast?.any isLowerOrDigit && isUpper c) := by
  rcases List.eq_nil_or_concat front with rfl | ⟨init, before, rfl⟩
  · rfl
  · have last : (init ++ [before] ++ c :: rest)[init.length]? = some before := by simp
    have here : (init ++ [before] ++ c :: rest)[init.length + 1]? = some c := by simp
    rw [List.concat_eq_append, List.length_append, List.length_singleton, isHump, last, here, List.getLast?_concat,
      Option.any_some, Option.any_some, Option.any_some, ← is_upper_eq, ← is_lower_or_digit_eq]

theorem snake_from_parted (front rest : List Char) :
    snakeFrom front.getLast? rest = (rest.zipIdx front.length).flatMap fun x =>
      if isHump (front ++ rest) x.2 then ['_', x.1.toLower] else [x.1.toLower] := by
  induction rest generalizing front with
  | nil => rfl
  | cons c rest ih =>
      have further := ih (front ++ [c])
      rw [List.getLast?_concat, List.length_append, List.length_singleton, List.append_assoc, List.singleton_append]
        at further
      rw [snake_from_cons, further, List.zipIdx_cons, List.flatMap_cons, is_hump_at]

theorem snake_from_small (before : Option Char) (cs : List Char) (small : ∀ c ∈ cs, isUpper c = false) :
    snakeFrom before cs = cs := by
  induction cs generalizing before with
  | nil => rfl
  | cons c rest ih =>
      have here := small c List.mem_cons_self
      rw [snake_from_cons, here, Bool.and_false, if_neg Bool.false_ne_true, to_lower_small c here,
        ih (some c) fun d mem => small d (List.mem_cons_of_mem _ mem)]
      rfl

theorem bare_append (first second : List Char) : bare (first ++ second) = bare first ++ bare second := by
  rw [bare, List.filter_append, List.map_append]
  rfl

theorem bare_letter (c : Char) (letter : c ≠ '_') : bare [c] = [c.toLower] := by
  simp [bare, letter]

theorem bare_to_lower (c : Char) : bare [c.toLower] = bare [c] := by
  by_cases upper : isUpper c = true
  · have letter : c ≠ '_' := by
      rintro rfl
      exact absurd upper (by decide)
    have lowered : c.toLower ≠ '_' := fun same => absurd (upper_lowered c upper) (by rw [same]; decide)
    rw [bare_letter _ lowered, bare_letter c letter, to_lower_again]
  · rw [Bool.not_eq_true] at upper
    rw [to_lower_small c upper]

theorem bare_snake_from (before : Option Char) (cs : List Char) : bare (snakeFrom before cs) = bare cs := by
  induction cs generalizing before with
  | nil => rfl
  | cons c rest ih =>
      have one : ∀ marked : Bool, bare (if marked then ['_', c.toLower] else [c.toLower]) = bare [c] := by
        intro marked
        cases marked with
        | true => exact (bare_append ['_'] [c.toLower]).trans (bare_to_lower c)
        | false => exact bare_to_lower c
      rw [snake_from_cons, bare_append, one, ih, ← bare_append, List.singleton_append]

theorem of_field_eq_some_iff (field column : String) :
    ofField? field = some column ↔ Identifier field.toList ∧ column.toList = snakeFrom none field.toList := by
  rw [← is_identifier_iff]
  constructor
  · exact of_field_some field column
  · rintro ⟨identifier, made⟩
    rw [ofField?, if_pos identifier, ← made, String.ofList_toList]

theorem columns_of_identifiers (field : String) :
    ((∃ column, ofField? field = some column) ↔ Identifier field.toList) ∧
      ∀ column, ofField? field = some column →
        SnakeName column.toList ∧ ofField? column = some column ∧ column.toList = parted field.toList ∧
          bare column.toList = bare field.toList := by
  constructor
  · constructor
    · rintro ⟨column, named⟩
      exact ((of_field_eq_some_iff field column).1 named).1
    · intro identifier
      exact ⟨String.ofList _, (of_field_eq_some_iff field _).2 ⟨identifier, String.toList_ofList⟩⟩
  · intro column named
    have made := ((of_field_eq_some_iff field column).1 named).2
    have snake := snake_name_of_is_name _ (of_field_is_name field column named)
    have chars := of_field_chars field column named
    refine ⟨snake, ?own, ?parted, ?bare⟩
    case own =>
      have small : ∀ c ∈ column.toList, isUpper c = false := fun c mem => column_char_small c (chars c mem)
      exact (of_field_eq_some_iff column column).2 ⟨snake.identifier, (snake_from_small none _ small).symm⟩
    case parted => exact made.trans (snake_from_parted [] field.toList)
    case bare => rw [made, bare_snake_from]

theorem humps_of_column :
    ofField? "_v2FinalURL" = some "_v2_final_url" ∧ SnakeName "_v2_final_url".toList ∧
      ofField? "_v2_final_url" = some "_v2_final_url" ∧ "_v2_final_url".toList = parted "_v2FinalURL".toList ∧
      bare "_v2_final_url".toList = bare "_v2FinalURL".toList :=
  have named : ofField? "_v2FinalURL" = some "_v2_final_url" := by decide
  ⟨named, (columns_of_identifiers "_v2FinalURL").2 "_v2_final_url" named⟩

end ArchiveSearch.Column
