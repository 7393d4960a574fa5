import ArchiveSearch.Proofs.Text.Trimming
import ArchiveSearch.Query.FullText

namespace ArchiveSearch.FullText

set_option autoImplicit false

def readQuoted : List Char → Option (List Char × List Char)
  | [] => none
  | '"' :: '"' :: rest => (readQuoted rest).map fun read => ('"' :: read.1, read.2)
  | '"' :: rest => some ([], rest)
  | c :: rest => (readQuoted rest).map fun read => (c :: read.1, read.2)

def isBare (c : Char) : Bool :=
  c.isAlphanum || c == '_' || c == '\x1a' || 128 ≤ c.toNat

def stringText? : List Char → Option (List Char)
  | '"' :: rest =>
      match readQuoted rest with
      | some (text, []) => some text
      | _ => none
  | cs => if !cs.isEmpty && cs.all isBare then some cs else none

def isStray (c : Char) : Bool :=
  "!#$%&',/;<=>?@[\\]\x60\x7b|\x7d~".toList.contains c || c.toNat < 9 || (14 ≤ c.toNat && c.toNat < 26) ||
    (27 ≤ c.toNat && c.toNat < 32) || c.toNat == 127

theorem stray_iff (c : Char) : isStray c = true ↔ isSpecial c = false ∧ isBare c = false := by
  by_cases ascii : c.toNat < 128
  · have table : ∀ n : Fin 128, isStray (Char.ofNat n) = true ↔
        isSpecial (Char.ofNat n) = false ∧ isBare (Char.ofNat n) = false := by decide +kernel
    simpa only [Char.ofNat_toNat] using table ⟨c.toNat, ascii⟩
  · -- Whatever is not ASCII is bare, and no stray.
    have beyond : 128 ≤ c.toNat := Nat.le_of_not_lt ascii
    have bare : isBare c = true := by simp [isBare, beyond]
    have listed : "!#$%&',/;<=>?@[\\]\x60\x7b|\x7d~".toList.all (fun d => d.toNat < 128) = true := by decide
    have absent : "!#$%&',/;<=>?@[\\]\x60\x7b|\x7d~".toList.contains c = false := by
      rw [Bool.eq_false_iff, Ne, List.contains_iff_mem]
      exact fun mem => ascii (of_decide_eq_true (List.all_eq_true.1 listed c mem))
    have free : isStray c = false := by
      rw [isStray, absent]
      simp
      omega
    simp [bare, free]

theorem read_quoted_doubled (cs rest : List Char) (ends : rest.head? ≠ some '"') :
    readQuoted (doubleQuotes cs ++ '"' :: rest) = some (cs, rest) := by
  induction cs with
  | nil =>
      show readQuoted ('"' :: rest) = _
      cases rest with
      | nil => rfl
      | cons c more =>
          have other : c ≠ '"' := fun same => ends (congrArg some same)
          simp [readQuoted, other]
  | cons c cs ih =>
      by_cases quote : c = '"'
      · subst quote
        show readQuoted ('"' :: '"' :: (doubleQuotes cs ++ '"' :: rest)) = _
        rw [readQuoted, ih]
        rfl
      · have single : doubleQuotes (c :: cs) = c :: doubleQuotes cs := by simp [doubleQuotes, quote]
        rw [single, List.cons_append]
        simp [readQuoted, quote, ih]

theorem escape_special (cs : List Char) (special : cs.any isSpecial = true) :
    escapeChars cs = '"' :: (doubleQuotes cs ++ ['"']) := by
  rw [escapeChars, if_pos special]
  rfl

theorem escape_plain (cs : List Char) (plain : cs.any isSpecial = false) : escapeChars cs = cs := by
  rw [escapeChars, if_neg (by rw [plain]; decide)]

theorem string_special (cs : List Char) (special : cs.any isSpecial = true) :
    stringText? (escapeChars cs) = some cs := by
  rw [escape_special cs special, stringText?, read_quoted_doubled cs [] (by simp)]

theorem bare_or_stray (c : Char) (plain : isSpecial c = false) : isBare c = !isStray c := by
  have gap := stray_iff c
  rw [plain] at gap
  cases bare : isBare c <;> simp [bare] at gap <;> simp [gap]

theorem string_plain (cs : List Char) (nonempty : cs ≠ []) (plain : ∀ c ∈ cs, isSpecial c = false) :
    stringText? cs = if cs.any isStray = true then none else some cs := by
  cases cs with
  | nil => exact absurd rfl nonempty
  | cons c rest =>
      have unquoted : c ≠ '"' := by
        rintro rfl
        cases plain '"' List.mem_cons_self
      have reads : stringText? (c :: rest) = if (c :: rest).all isBare then some (c :: rest) else none := by
        simp [stringText?, unquoted]
      rw [reads]
      cases stray : (c :: rest).any isStray with
      | true =>
          obtain ⟨d, mem, apart⟩ := List.any_eq_true.1 stray
          have refused : ¬ (c :: rest).all isBare = true := fun bare => by
            have here := List.all_eq_true.1 bare d mem
            rw [bare_or_stray d (plain d mem), apart] at here
            cases here
          rw [if_neg refused, if_pos rfl]
      | false =>
          have bare : (c :: rest).all isBare = true := List.all_eq_true.2 fun d mem => by
            rw [bare_or_stray d (plain d mem), Bool.not_eq_true']
            exact Bool.eq_false_iff.2 (List.any_eq_false.1 stray d mem)
          rw [if_pos bare, if_neg Bool.false_ne_true]

def sought (value : String) : String :=
  Text.lower (Text.trim value)

def lead (matching : TextMatch) : String :=
  if matching = .startsWith then ":" else ":*"

def trail (matching : TextMatch) : String :=
  if matching = .endsWith then "" else "*"

theorem sought_ne_nil (value : String) (full : Text.isAllBlank value = false) : (sought value).toList ≠ [] := by
  rw [Ne, String.toList_eq_nil_iff]
  exact String.isEmpty_eq_false_iff.1 ((Text.lower_trim_is_empty value).trans full)

theorem term_some (column value : String) (matching : TextMatch) (full : Text.isAllBlank value = false)
    (loose : matching ≠ .equals) :
    term? column value matching = some (column ++ lead matching ++ escape (sought value) ++ trail matching) := by
  unfold term?
  simp only [Text.lower_trim_is_empty, full, Bool.false_eq_true, if_false]
  cases matching with
  | equals => exact absurd rfl loose
  | startsWith => rfl
  | contains => rfl
  | endsWith => simp [lead, trail, sought]

def Unquoted (text : List Char) : Prop :=
  (∃ c ∈ text, isStray c = true) ∧ ∀ c ∈ text, isSpecial c = false

-- The word of a term is read as the text that is looked for, unless strays are left unquoted: then the text stands
-- there as it is, and is no string of an expression.
theorem words_read_unless_stray (column value : String) (matching : TextMatch) (full : Text.isAllBlank value = false)
    (loose : matching ≠ .equals) :
    ∃ word, term? column value matching = some (column ++ lead matching ++ word ++ trail matching) ∧
      (¬ Unquoted (sought value).toList → stringText? word.toList = some (sought value).toList) ∧
      (Unquoted (sought value).toList → word = sought value ∧ stringText? word.toList = none) := by
  have nonempty := sought_ne_nil value full
  refine ⟨escape (sought value), term_some column value matching full loose, ?_⟩
  rw [escape, String.toList_ofList]
  by_cases plain : ∀ c ∈ (sought value).toList, isSpecial c = false
  · have bare : (sought value).toList.any isSpecial = false :=
      List.any_eq_false.2 fun c mem => Bool.eq_false_iff.1 (plain c mem)
    rw [escape_plain _ bare, string_plain _ nonempty plain]
    constructor
    · intro read
      rw [if_neg fun stray => read ⟨List.any_eq_true.1 stray, plain⟩]
    · rintro ⟨stray, -⟩
      exact ⟨String.ofList_toList, if_pos (List.any_eq_true.2 stray)⟩
  · have special : (sought value).toList.any isSpecial = true := by
      rw [← Bool.not_eq_false, List.any_eq_false]
      exact fun none_ => plain fun c mem => Bool.eq_false_iff.2 (none_ c mem)
    exact ⟨fun _ => string_special _ special, fun unquoted => absurd unquoted.2 plain⟩

theorem hyphenated_word_read :
    Text.isAllBlank " O'Neil-Smith " = false ∧ TextMatch.contains ≠ .equals ∧
      ∃ word, term? "last_name" " O'Neil-Smith " .contains = some ("last_name" ++ ":*" ++ word ++ "*") ∧
        stringText? word.toList = some "o'neil-smith".toList := by
  have full : Text.isAllBlank " O'Neil-Smith " = false := by decide +kernel
  obtain ⟨word, made, read, -⟩ :=
    words_read_unless_stray "last_name" " O'Neil-Smith " .contains full (by decide)
  have text : (sought " O'Neil-Smith ").toList = "o'neil-smith".toList := by decide +kernel
  refine ⟨full, by decide, word, made, ?_⟩
  rw [text] at read
  exact read fun unquoted => absurd (unquoted.2 '-' (by decide)) (by decide)

theorem apostrophe_unread :
    Text.isAllBlank "O'Neil" = false ∧ term? "last_name" "O'Neil" .startsWith = some "last_name:o'neil*" ∧
      escape (sought "O'Neil") = "o'neil" ∧ stringText? "o'neil".toList = none := by
  decide +kernel

end ArchiveSearch.FullText
