import ArchiveSearch.Proofs.FullText.Words
import ArchiveSearch.Proofs.Number.Layout
import ArchiveSearch.Proofs.Query.Naming

namespace ArchiveSearch.FullText

set_option autoImplicit false

structure Term where
  column : String
  matching : TextMatch
  value : String
  deriving DecidableEq

def expression (connective : Connective) (terms : List Term) : Option String :=
  join? connective (terms.filterMap fun t => term? t.column t.value t.matching)

def cutFrom : Bool → List Char → List (List Char)
  | _, [] => [[]]
  | quoted, c :: rest =>
      if c = ' ' ∧ quoted = false then [] :: cutFrom false rest
      else (cutFrom (quoted != (c == '"')) rest).modifyHead (c :: ·)

def readWord : List Char → Option (List Char × List Char)
  | '"' :: rest => readQuoted rest
  | cs => some (cs.takeWhile fun c => !isSpecial c, cs.dropWhile fun c => !isSpecial c)

def readMatch (column : String) : List Char → Option Term
  | ':' :: '*' :: cs =>
      match readWord cs with
      | some (word, []) => some ⟨column, .endsWith, String.ofList word⟩
      | some (word, ['*']) => some ⟨column, .contains, String.ofList word⟩
      | _ => none
  | ':' :: cs =>
      match readWord cs with
      | some (word, ['*']) => some ⟨column, .startsWith, String.ofList word⟩
      | _ => none
  | _ => none

def readTerm (cs : List Char) : Option Term :=
  readMatch (String.ofList (cs.takeWhile (· != ':'))) (cs.dropWhile (· != ':'))

def readPieces : List (List Char) → Option (List Term × Option Connective)
  | [] => none
  | [piece] => (readTerm piece).map fun t => ([t], none)
  | piece :: between :: rest =>
      match readTerm piece, Connective.all.find? (·.name.toList == between), readPieces rest with
      | some t, some connective, some (others, found) =>
          if found.all (· == connective) then some (t :: others, some connective) else none
      | _, _, _ => none

def read? (e : String) : Option (List Term × Option Connective) :=
  readPieces (cutFrom false e.toList)

namespace Term

def chars (t : Term) : List Char :=
  t.column.toList ++ ((lead t.matching).toList ++ (escapeChars t.value.toList ++ (trail t.matching).toList))

structure Sound (t : Term) : Prop where
  column : ∀ c ∈ t.column.toList, Column.isColumnChar c = true
  value : t.value.toList ≠ []
  matching : t.matching ≠ .equals

end Term

def quoteBehind : Bool → List Char → Option Bool
  | quoted, [] => some quoted
  | quoted, c :: rest => if c = ' ' ∧ quoted = false then none else quoteBehind (quoted != (c == '"')) rest

theorem quote_behind_append (quoted : Bool) (a b : List Char) :
    quoteBehind quoted (a ++ b) = (quoteBehind quoted a).bind fun behind => quoteBehind behind b := by
  induction a generalizing quoted with
  | nil => rfl
  | cons c a ih =>
      rw [List.cons_append, quoteBehind, quoteBehind]
      split
      · rfl
      · exact ih _

theorem cut_from_behind (quoted behind : Bool) (a b : List Char) (whole : quoteBehind quoted a = some behind) :
    cutFrom quoted (a ++ b) = (cutFrom behind b).modifyHead (a ++ ·) := by
  induction a generalizing quoted with
  | nil =>
      obtain rfl : quoted = behind := Option.some.inj whole
      rw [List.nil_append]
      cases cutFrom quoted b <;> rfl
  | cons c a ih =>
      rw [quoteBehind] at whole
      split at whole
      · cases whole
      · rename_i inside
        rw [List.cons_append, cutFrom, if_neg inside, ih _ whole]
        cases cutFrom behind b <;> rfl

theorem plain_whole (cs : List Char) (plain : ∀ c ∈ cs, c ≠ ' ' ∧ c ≠ '"') : quoteBehind false cs = some false := by
  induction cs with
  | nil => rfl
  | cons c cs ih =>
      obtain ⟨here, later⟩ := List.forall_mem_cons.1 plain
      rw [quoteBehind, if_neg fun both => here.1 both.1, beq_eq_false_iff_ne.2 here.2]
      exact ih later

theorem doubled_whole (cs : List Char) : quoteBehind true (doubleQuotes cs) = some true := by
  induction cs with
  | nil => rfl
  | cons c cs ih =>
      by_cases quote : c = '"'
      · subst quote
        exact ih
      · have single : doubleQuotes (c :: cs) = c :: doubleQuotes cs := by simp [doubleQuotes, quote]
        rw [single, quoteBehind, if_neg (by simp), beq_eq_false_iff_ne.2 quote]
        exact ih

theorem escaped_whole (cs : List Char) : quoteBehind false (escapeChars cs) = some false := by
  by_cases special : cs.any isSpecial = true
  · rw [escape_special cs special, quoteBehind, if_neg (by simp), quote_behind_append]
    show (quoteBehind true (doubleQuotes cs)).bind _ = _
    rw [doubled_whole]
    rfl
  · rw [escape_plain cs (Bool.eq_false_iff.2 special)]
    rw [Bool.not_eq_true, List.any_eq_false] at special
    refine plain_whole cs fun c mem => ⟨?_, ?_⟩ <;> (rintro rfl; exact special _ mem (by decide))

theorem column_char_unmarked (c : Char) (plain : Column.isColumnChar c = true) : c ≠ ' ' ∧ c ≠ '"' ∧ c ≠ ':' := by
  refine ⟨?_, ?_, ?_⟩ <;> (rintro rfl; revert plain; decide)

theorem term_whole (t : Term) (sound : t.Sound) : quoteBehind false t.chars = some false := by
  have column := plain_whole t.column.toList fun c mem =>
    ⟨(column_char_unmarked c (sound.column c mem)).1, (column_char_unmarked c (sound.column c mem)).2.1⟩
  have before : quoteBehind false (lead t.matching).toList = some false := by cases t.matching <;> decide
  have behind : quoteBehind false (trail t.matching).toList = some false := by cases t.matching <;> decide
  simp only [Term.chars, quote_behind_append, column, before, escaped_whole, behind, Option.bind_some]

theorem read_word_escaped (cs rest : List Char) (nonempty : cs ≠ []) (ends : rest = [] ∨ rest = ['*']) :
    readWord (escapeChars cs ++ rest) = some (cs, rest) := by
  by_cases special : cs.any isSpecial = true
  · rw [escape_special cs special]
    show readQuoted ((doubleQuotes cs ++ ['"']) ++ rest) = _
    rw [List.append_assoc]
    refine read_quoted_doubled cs rest ?_
    rcases ends with rfl | rfl <;> simp
  · rw [Bool.not_eq_true] at special
    rw [escape_plain cs special]
    rw [List.any_eq_false] at special
    obtain ⟨front, back⟩ := run_cut (fun c => !isSpecial c) cs rest
      (fun c mem => by simpa using special c mem) (by rcases ends with rfl | rfl <;> simp [isSpecial])
    cases cs with
    | nil => exact absurd rfl nonempty
    | cons c more =>
        have unquoted : c ≠ '"' := by
          rintro rfl
          exact special '"' List.mem_cons_self rfl
        rw [List.cons_append] at front back ⊢
        rw [readWord, front, back]
        exact fun _ same => unquoted (List.cons.inj same).1

theorem escaped_starless (cs rest more : List Char) (nonempty : cs ≠ []) : escapeChars cs ++ rest ≠ '*' :: more := by
  intro same
  by_cases special : cs.any isSpecial = true
  · rw [escape_special cs special] at same
    cases same
  · rw [escape_plain cs (Bool.eq_false_iff.2 special)] at same
    cases cs with
    | nil => exact nonempty rfl
    | cons c tail =>
        obtain rfl : c = '*' := (List.cons.inj same).1
        exact special (List.any_eq_true.2 ⟨'*', List.mem_cons_self, rfl⟩)

theorem read_term_chars (t : Term) (sound : t.Sound) : readTerm t.chars = some t := by
  obtain ⟨column, matching, value⟩ := t
  have word := fun rest => read_word_escaped value.toList rest sound.value
  have named : ∀ rest : List Char, readTerm (column.toList ++ ':' :: rest) = readMatch column (':' :: rest) := by
    intro rest
    obtain ⟨front, back⟩ := run_cut (· != ':') column.toList (':' :: rest)
      (fun c mem => by simpa using (column_char_unmarked c (sound.column c mem)).2.2) (by rintro c more ⟨⟩; rfl)
    rw [readTerm, front, back, String.ofList_toList]
  cases matching with
  | equals => exact absurd rfl sound.matching
  | contains =>
      have signs : Term.chars ⟨column, .contains, value⟩ =
          column.toList ++ ':' :: '*' :: (escapeChars value.toList ++ ['*']) := by simp [Term.chars, lead, trail]
      rw [signs, named, readMatch, word _ (.inr rfl)]
      simp
  | endsWith =>
      have signs : Term.chars ⟨column, .endsWith, value⟩ =
          column.toList ++ ':' :: '*' :: (escapeChars value.toList ++ []) := by simp [Term.chars, lead, trail]
      rw [signs, named, readMatch, word _ (.inl rfl)]
      simp
  | startsWith =>
      have signs : Term.chars ⟨column, .startsWith, value⟩ =
          column.toList ++ ':' :: (escapeChars value.toList ++ ['*']) := by simp [Term.chars, lead, trail]
      rw [signs, named, readMatch, word _ (.inr rfl)]
      · simp
      · exact fun cs => escaped_starless value.toList ['*'] cs sound.value

theorem cut_spaced (piece rest : List Char) (whole : quoteBehind false piece = some false) :
    cutFrom false (piece ++ ' ' :: rest) = piece :: cutFrom false rest := by
  rw [cut_from_behind false false piece _ whole, cutFrom, if_pos ⟨rfl, rfl⟩, List.modifyHead_cons, List.append_nil]

def piecesOf (connective : Connective) (first : List Char) (others : List (List Char)) : List (List Char) :=
  first :: others.flatMap fun piece => [connective.name.toList, piece]

theorem cut_joined (connective : Connective) (first : List Char) (others : List (List Char))
    (whole : ∀ piece ∈ first :: others, quoteBehind false piece = some false) :
    cutFrom false ((" " ++ connective.name ++ " ").toList.intercalate (first :: others)) =
      piecesOf connective first others := by
  induction others generalizing first with
  | nil =>
      have one := cut_from_behind false false first [] (whole first List.mem_cons_self)
      rw [List.append_nil] at one
      rw [List.intercalate_singleton, one]
      simp [cutFrom, piecesOf]
  | cons second rest ih =>
      obtain ⟨here, later⟩ := List.forall_mem_cons.1 whole
      have between : quoteBehind false connective.name.toList = some false := by cases connective <;> decide
      have split : (" " ++ connective.name ++ " ").toList = ' ' :: (connective.name.toList ++ [' ']) := by
        simp [String.toList_append]
      have joined : (" " ++ connective.name ++ " ").toList.intercalate (first :: second :: rest) =
          first ++ ' ' :: (connective.name.toList ++
            ' ' :: (" " ++ connective.name ++ " ").toList.intercalate (second :: rest)) := by
        rw [List.intercalate_cons_cons, split]
        simp only [List.append_assoc, List.cons_append, List.nil_append]
      rw [joined, cut_spaced _ _ here, cut_spaced _ _ between, ih second later]
      rfl

theorem read_pieces_chars (connective : Connective) (first : Term) (others : List Term)
    (sound : ∀ t ∈ first :: others, t.Sound) :
    readPieces (piecesOf connective first.chars (others.map Term.chars)) =
      some (first :: others, if others = [] then none else some connective) := by
  induction others generalizing first with
  | nil =>
      simp only [piecesOf, List.map_nil, List.flatMap_nil, readPieces,
        read_term_chars first (sound first List.mem_cons_self), Option.map_some, if_true]
  | cons second rest ih =>
      obtain ⟨here, later⟩ := List.forall_mem_cons.1 sound
      have between : Connective.all.find? (·.name.toList == connective.name.toList) = some connective := by
        cases connective <;> decide
      have behind := ih second later
      rw [piecesOf] at behind
      simp only [piecesOf, List.map_cons, List.flatMap_cons, List.cons_append, List.nil_append, readPieces,
        read_term_chars first here, between, behind, reduceCtorEq, if_false]
      by_cases last : rest = [] <;> simp [last]

namespace Term

def plain (t : Term) : Term :=
  { t with value := sought t.value }

-- A term on the column of some field. Its text is any but a blank one, and is not compared as a whole.
structure Asked (t : Term) : Prop where
  column : ∃ field, Column.ofField? field = some t.column
  value : Text.isAllBlank t.value = false
  matching : t.matching ≠ .equals

theorem plain_sound (t : Term) (asked : t.Asked) : t.plain.Sound := by
  obtain ⟨field, named⟩ := asked.column
  unfold plain
  exact {
    column := Column.of_field_chars field t.column named
    value := sought_ne_nil t.value asked.value
    matching := asked.matching }

theorem plain_text (t : Term) (asked : t.Asked) :
    term? t.column t.value t.matching = some (String.ofList t.plain.chars) := by
  rw [term_some t.column t.value t.matching asked.value asked.matching]
  simp [plain, chars, escape, String.append_assoc]

end Term

theorem expression_read (connective : Connective) (terms : List Term) (nonempty : terms ≠ [])
    (asked : ∀ t ∈ terms, t.Asked) :
    ∃ e, expression connective terms = some e ∧
      read? e = some (terms.map Term.plain, if 2 ≤ terms.length then some connective else none) := by
  have sound : ∀ t ∈ terms.map Term.plain, t.Sound := by
    rintro _ mem
    obtain ⟨t, inside, rfl⟩ := List.mem_map.1 mem
    exact t.plain_sound (asked t inside)
  have written : terms.filterMap (fun t => term? t.column t.value t.matching) =
      (terms.map Term.plain).map fun t => String.ofList t.chars := by
    rw [List.map_map, ← List.filterMap_eq_map]
    exact List.filterMap_congr fun t mem => t.plain_text (asked t mem)
  have several : (if 2 ≤ terms.length then some connective else none) =
      if (terms.map Term.plain).tail = [] then none else some connective := by
    rcases terms with - | ⟨t, - | ⟨u, others⟩⟩ <;> simp
  rw [expression, written, several]
  generalize plain : terms.map Term.plain = found at sound
  cases found with
  | nil => exact absurd (List.map_eq_nil_iff.1 plain) nonempty
  | cons t others =>
      have whole : ∀ piece ∈ t.chars :: others.map Term.chars, quoteBehind false piece = some false := by
        rw [← List.map_cons]
        intro piece mem
        obtain ⟨u, inside, rfl⟩ := List.mem_map.1 mem
        exact term_whole u (sound u inside)
      refine ⟨_, rfl, ?_⟩
      rw [read?, String.toList_intercalate, List.map_map]
      simp only [Function.comp_def, String.toList_ofList]
      rw [List.map_cons, cut_joined connective _ _ whole]
      exact read_pieces_chars connective t others sound

-- The expression for some terms tells them all, and with two or more of them their connective; so no other terms have
-- the same expression, but for blanks around their texts and the case of letters.
theorem expressions_tell_terms (connective : Connective) (terms : List Term) (nonempty : terms ≠ [])
    (asked : ∀ t ∈ terms, t.Asked) :
    ∃ e, expression connective terms = some e ∧
      read? e = some (terms.map Term.plain, if 2 ≤ terms.length then some connective else none) ∧
      ∀ other others, others ≠ [] → (∀ t ∈ others, t.Asked) → expression other others = some e →
        others.map Term.plain = terms.map Term.plain ∧ (2 ≤ terms.length → other = connective) := by
  obtain ⟨e, made, read⟩ := expression_read connective terms nonempty asked
  refine ⟨e, made, read, fun other others nonempty' asked' same => ?_⟩
  obtain ⟨e', made', read'⟩ := expression_read other others nonempty' asked'
  obtain rfl : e = e' := Option.some.inj (same.symm.trans made')
  obtain ⟨found, joined⟩ := Prod.mk.inj (Option.some.inj (read'.symm.trans read))
  refine ⟨found, fun several => ?_⟩
  have count : others.length = terms.length := by simpa using congrArg List.length found
  rw [count, if_pos several, if_pos several] at joined
  exact Option.some.inj joined

def hostile : List Term :=
  [⟨"city", .startsWith, "bos\"* OR last_name:*doe"⟩, ⟨"last_name", .endsWith, " AND "⟩,
    ⟨"first_name", .contains, "x*\""⟩]

theorem hostile_told :
    hostile ≠ [] ∧ (∀ t ∈ hostile, t.Asked) ∧
      ∃ e, expression .and hostile = some e ∧ read? e = some (hostile.map Term.plain, some .and) ∧
        expression .or hostile ≠ some e := by
  have asked : ∀ t ∈ hostile, t.Asked := by
    intro t mem
    simp only [hostile, List.mem_cons, List.not_mem_nil, or_false] at mem
    rcases mem with rfl | rfl | rfl
    · exact ⟨⟨"city", by decide +kernel⟩, by decide +kernel, by decide⟩
    · exact ⟨⟨"lastName", by decide +kernel⟩, by decide +kernel, by decide⟩
    · exact ⟨⟨"firstName", by decide +kernel⟩, by decide +kernel, by decide⟩
  obtain ⟨e, made, read, only⟩ := expressions_tell_terms .and hostile (List.cons_ne_nil _ _) asked
  refine ⟨List.cons_ne_nil _ _, asked, e, made, read, fun same => ?_⟩
  cases (only .or hostile (List.cons_ne_nil _ _) asked same).2 (by decide)

end ArchiveSearch.FullText
