import ArchiveSearch.Json.Printer
import ArchiveSearch.Proofs.Number.Layout

/- A compact text is read in one way only: it decides the value, as long as the numbers in it are
   finite, and it decides where the value ends. -/
namespace ArchiveSearch.Json

set_option autoImplicit false

def specials : List Char :=
  '"' :: '\\' :: (List.range 32).map Char.ofNat

theorem escapes_apart :
    (specials.all fun c => specials.all fun d =>
      !(escapedChar c).isPrefixOf (escapedChar d) || c == d) = true := by
  decide +kernel

theorem escapes_start : (specials.all fun c => (escapedChar c).head? == some '\\') = true := by
  decide +kernel

theorem mem_specials (c : Char) (small : c.toNat < 32) : c ∈ specials := by
  refine List.mem_cons_of_mem _ (List.mem_cons_of_mem _ (List.mem_map.2 ⟨c.toNat, ?_, ?_⟩))
  · exact List.mem_range.2 small
  · exact Char.ofNat_toNat c

theorem escaped_char_plain (c : Char) (plain : c ∉ specials) : escapedChar c = [c] := by
  have ordinary : ∀ d ∈ specials, c ≠ d := fun d mem same => plain (same ▸ mem)
  have large : ¬ c.toNat < 32 := fun small => plain (mem_specials c small)
  have large' : ¬ c.toNat < 16 := by omega
  unfold escapedChar
  simp only [beq_iff_eq, if_neg (ordinary '"' (by decide)), if_neg (ordinary '\\' (by decide)),
    if_neg (ordinary '\n' (by decide)), if_neg (ordinary '\r' (by decide)),
    if_neg (ordinary '\t' (by decide)), if_neg (ordinary '\x08' (by decide)),
    if_neg (ordinary '\x0c' (by decide)), if_neg large, if_neg large']

theorem escaped_char_special (c : Char) (special : c ∈ specials) :
    ∃ more, escapedChar c = '\\' :: more := by
  have start := beq_iff_eq.1 (List.all_eq_true.1 escapes_start c special)
  cases shown : escapedChar c with
  | nil => rw [shown] at start; exact absurd start (by simp)
  | cons first more =>
    rw [shown] at start
    exact ⟨more, by rw [Option.some.inj start]⟩

theorem escaped_char_starts (c : Char) : ∃ first more, escapedChar c = first :: more ∧ first ≠ '"' := by
  by_cases special : c ∈ specials
  · obtain ⟨more, shown⟩ := escaped_char_special c special
    exact ⟨'\\', more, shown, by decide⟩
  · refine ⟨c, [], escaped_char_plain c special, ?_⟩
    rintro rfl
    exact special (by decide)

theorem escapes_distinct (c d : Char) (before : escapedChar c <+: escapedChar d) : c = d := by
  have plain_apart : ∀ e more, e ∉ specials → e :: more = ['\\'] → False := fun e more plain same =>
    plain ((List.cons.inj same).1 ▸ by decide)
  by_cases special : c ∈ specials
  · by_cases special' : d ∈ specials
    · have apart := List.all_eq_true.1 (List.all_eq_true.1 escapes_apart c special) d special'
      rw [List.isPrefixOf_iff_prefix.2 before, Bool.not_true, Bool.false_or, beq_iff_eq] at apart
      exact apart
    · obtain ⟨more, shown⟩ := escaped_char_special c special
      rw [shown, escaped_char_plain d special', List.cons_prefix_cons] at before
      exact absurd (before.1 ▸ (by decide : '\\' ∈ specials)) special'
  · by_cases special' : d ∈ specials
    · obtain ⟨more, shown⟩ := escaped_char_special d special'
      rw [shown, escaped_char_plain c special, List.cons_prefix_cons] at before
      exact absurd (before.1.symm ▸ (by decide : '\\' ∈ specials)) special
    · rw [escaped_char_plain c special, escaped_char_plain d special', List.cons_prefix_cons] at before
      exact before.1

theorem escaped_char_read (c d : Char) (rest rest' : List Char)
    (same : escapedChar c ++ rest = escapedChar d ++ rest') : c = d ∧ rest = rest' := by
  have one : c = d := by
    rcases List.prefix_or_prefix_of_prefix (List.prefix_append (escapedChar c) rest)
      (same ▸ List.prefix_append (escapedChar d) rest') with before | after
    · exact escapes_distinct c d before
    · exact (escapes_distinct d c after).symm
  subst one
  exact ⟨rfl, List.append_cancel_left same⟩

theorem escaped_read (s t rest rest' : List Char)
    (same : s.flatMap escapedChar ++ '"' :: rest = t.flatMap escapedChar ++ '"' :: rest') :
    s = t ∧ rest = rest' := by
  have closed : ∀ (c : Char) (more after : List Char), escapedChar c ++ more ≠ '"' :: after := by
    intro c more after bad
    obtain ⟨first, others, shown, unquoted⟩ := escaped_char_starts c
    rw [shown] at bad
    exact unquoted (List.cons.inj bad).1
  induction s generalizing t with
  | nil =>
    cases t with
    | nil => exact ⟨rfl, (List.cons.inj same).2⟩
    | cons d t =>
      rw [List.flatMap_cons, List.append_assoc] at same
      exact absurd same.symm (closed d _ _)
  | cons c s ih =>
    cases t with
    | nil =>
      rw [List.flatMap_cons, List.append_assoc] at same
      exact absurd same (closed c _ _)
    | cons d t =>
      rw [List.flatMap_cons, List.flatMap_cons, List.append_assoc, List.append_assoc] at same
      obtain ⟨rfl, behind⟩ := escaped_char_read c d _ _ same
      obtain ⟨rfl, after⟩ := ih t behind
      exact ⟨rfl, after⟩

theorem string_read (s t : String) (rest rest' : List Char)
    (same : stringChars s ++ rest = stringChars t ++ rest') : s = t ∧ rest = rest' := by
  unfold stringChars at same
  simp only [List.cons_append, List.append_assoc, List.cons.injEq, true_and, List.nil_append] at same
  obtain ⟨chars, after⟩ := escaped_read s.toList t.toList rest rest' same
  exact ⟨String.toList_inj.1 chars, after⟩

def Stops (rest : List Char) : Prop :=
  ∀ c more, rest = c :: more → Binary64.isNumberChar c = false

theorem stops_nil : Stops [] :=
  fun _ _ none_ => absurd none_ (by simp)

theorem stops_cons (c : Char) (rest : List Char) (stop : Binary64.isNumberChar c = false) :
    Stops (c :: rest) := by
  rintro d more same
  obtain ⟨rfl, -⟩ := List.cons.inj same
  exact stop

theorem run_read (text text' rest rest' : List Char)
    (chars : ∀ c ∈ text, Binary64.isNumberChar c = true)
    (chars' : ∀ c ∈ text', Binary64.isNumberChar c = true) (stop : Stops rest) (stop' : Stops rest')
    (same : text ++ rest = text' ++ rest') : text = text' ∧ rest = rest' := by
  obtain ⟨front, back⟩ := run_cut Binary64.isNumberChar text rest chars stop
  obtain ⟨front', back'⟩ := run_cut Binary64.isNumberChar text' rest' chars' stop'
  rw [same] at front back
  exact ⟨front.symm.trans front', back.symm.trans back'⟩

theorem integer_chars (n : Int) :
    (0 ≤ n ∧ n.repr.toList = Nat.toDigits 10 n.natAbs) ∨
      (n < 0 ∧ n.repr.toList = '-' :: Nat.toDigits 10 n.natAbs) := by
  rw [Int.repr_eq_if]
  by_cases natural : 0 ≤ n
  · rw [if_pos natural, Nat.toList_repr, show n.toNat = n.natAbs by omega]
    exact .inl ⟨natural, rfl⟩
  · rw [if_neg natural, String.toList_append, Nat.toList_repr, show (-n).toNat = n.natAbs by omega]
    exact .inr ⟨by omega, rfl⟩

theorem integer_read (m n : Int) (same : m.repr.toList = n.repr.toList) : m = n := by
  have unsigned : ∀ k rest, Nat.toDigits 10 k ≠ '-' :: rest := fun k rest shown =>
    Binary64.digit_ne '-' '-' (Binary64.digits_to_digits k '-' (by simp [shown])) rfl rfl
  have read : ∀ j k, Nat.toDigits 10 j = Nat.toDigits 10 k → j = k := fun j k digits => by
    rw [← Nat.ofDigitChars_ten_toDigits (n := j), digits, Nat.ofDigitChars_ten_toDigits]
  rcases integer_chars m with ⟨natural, shown⟩ | ⟨negative, shown⟩ <;>
    rcases integer_chars n with ⟨natural', shown'⟩ | ⟨negative', shown'⟩ <;>
    rw [shown, shown'] at same
  · have size := read _ _ same
    omega
  · exact absurd same (unsigned _ _)
  · exact absurd same.symm (unsigned _ _)
  · have size := read _ _ (List.cons.inj same).2
    omega

theorem integer_number_chars (n : Int) : ∀ c ∈ n.repr.toList, Binary64.isNumberChar c = true := by
  have chars := (Binary64.digits_to_digits n.natAbs).chars
  rcases integer_chars n with ⟨-, shown⟩ | ⟨-, shown⟩ <;> rw [shown]
  · exact chars
  · exact List.forall_mem_cons.2 ⟨rfl, chars⟩

theorem integer_unmarked (n : Int) : '.' ∉ n.repr.toList ∧ 'e' ∉ n.repr.toList := by
  have digits := Binary64.digits_to_digits n.natAbs
  have unmarked : ∀ c, c.isDigit = false → c ≠ '-' → c ∉ n.repr.toList := by
    intro c mark sign mem
    rcases integer_chars n with ⟨-, shown⟩ | ⟨-, shown⟩ <;> rw [shown] at mem
    · exact Binary64.digit_ne c c (digits c mem) mark rfl
    · rcases List.mem_cons.1 mem with rfl | mem
      · exact sign rfl
      · exact Binary64.digit_ne c c (digits c mem) mark rfl
  exact ⟨unmarked '.' rfl (by decide), unmarked 'e' rfl (by decide)⟩

theorem real_number_chars (x : Binary64) (finite : x.isFinite = true) :
    ∀ c ∈ (x.render Binary64.dataStyle).toList, Binary64.isNumberChar c = true := by
  rw [x.render_to_list finite]
  intro c mem
  rcases List.mem_append.1 mem with sign | mem
  · split at sign
    · rw [List.mem_singleton.1 sign]
      rfl
    · exact absurd sign (by simp)
  · exact (x.fractional_size_text finite).chars c mem

theorem real_marked (x : Binary64) (finite : x.isFinite = true) :
    '.' ∈ (x.render Binary64.dataStyle).toList ∨ 'e' ∈ (x.render Binary64.dataStyle).toList := by
  rw [x.render_to_list finite]
  exact (x.fractional_size_text finite).marked.imp (List.mem_append_right _) (List.mem_append_right _)

mutual
def isFinite : Json → Bool
  | .real x => x.isFinite
  | .array items => areFinite items
  | .object members => membersFinite members
  | .null => true
  | .bool _ => true
  | .integer _ => true
  | .string _ => true
def areFinite : List Json → Bool
  | [] => true
  | item :: rest => isFinite item && areFinite rest
def membersFinite : List (String × Json) → Bool
  | [] => true
  | (_, value) :: rest => isFinite value && membersFinite rest
end

inductive Kind where
  | word
  | number
  | string
  | array
  | object
  | other
  deriving DecidableEq

def kind : Json → Kind
  | .null => .word
  | .bool _ => .word
  | .integer _ => .number
  | .real _ => .number
  | .string _ => .string
  | .array _ => .array
  | .object _ => .object

def kindAt (c : Char) : Kind :=
  if c == 'n' || c == 't' || c == 'f' then .word
  else if c.isDigit || c == '-' then .number
  else if c == '"' then .string
  else if c == '[' then .array
  else if c == '\x7b' then .object
  else .other

theorem kind_at_digit (c : Char) (digit : c.isDigit = true) : kindAt c = .number := by
  have letters : c ≠ 'n' ∧ c ≠ 't' ∧ c ≠ 'f' :=
    ⟨Binary64.digit_ne c _ digit rfl, Binary64.digit_ne c _ digit rfl, Binary64.digit_ne c _ digit rfl⟩
  simp [kindAt, letters, digit]

theorem opens (j : Json) (finite : j.isFinite = true) :
    ∃ c rest, j.compactChars = c :: rest ∧ kindAt c = j.kind := by
  cases j with
  | null => exact ⟨'n', _, rfl, rfl⟩
  | bool b => cases b <;> exact ⟨_, _, rfl, rfl⟩
  | integer n =>
    rcases integer_chars n with ⟨-, shown⟩ | ⟨-, shown⟩
    · obtain ⟨c, rest, text⟩ := List.exists_cons_of_ne_nil (Nat.toDigits_ne_nil (n := n.natAbs) (b := 10))
      have digit := Binary64.digits_to_digits n.natAbs c (by simp [text])
      exact ⟨c, rest, shown.trans text, kind_at_digit c digit⟩
    · exact ⟨'-', _, shown, rfl⟩
  | real x =>
    have finite : x.isFinite = true := by simpa [isFinite] using finite
    have shown := x.render_to_list finite
    obtain ⟨c, rest, text, digit⟩ := (x.fractional_size_text finite).starts
    cases negative : x.isNegative with
    | true =>
      rw [negative, if_pos rfl] at shown
      exact ⟨'-', _, shown, rfl⟩
    | false =>
      rw [negative, if_neg (by simp), text] at shown
      exact ⟨c, rest, shown, kind_at_digit c digit⟩
  | string s => exact ⟨'"', _, rfl, rfl⟩
  | array items => exact ⟨'[', _, rfl, rfl⟩
  | object members => exact ⟨'\x7b', _, rfl, rfl⟩

theorem kinds_agree (j k : Json) (rest rest' : List Char) (finite : j.isFinite = true)
    (finite' : k.isFinite = true) (same : j.compactChars ++ rest = k.compactChars ++ rest') :
    j.kind = k.kind := by
  obtain ⟨c, more, shown, opened⟩ := opens j finite
  obtain ⟨d, more', shown', opened'⟩ := opens k finite'
  rw [shown, shown'] at same
  rw [← opened, ← opened', (List.cons.inj same).1]

theorem word_read (j k : Json) (rest rest' : List Char) (word : j.kind = .word)
    (word' : k.kind = .word) (same : j.compactChars ++ rest = k.compactChars ++ rest') :
    j = k ∧ rest = rest' := by
  have cases_ : ∀ i : Json, i.kind = .word → i = .null ∨ i = .bool true ∨ i = .bool false := by
    intro i word
    cases i with
    | null => exact .inl rfl
    | bool b => cases b <;> simp
    | _ => exact absurd word (by simp [kind])
  rcases cases_ j word with rfl | rfl | rfl <;> rcases cases_ k word' with rfl | rfl | rfl <;>
    simp_all [compactChars, scalarChars]

theorem number_read (j k : Json) (rest rest' : List Char) (number : j.kind = .number)
    (number' : k.kind = .number) (finite : j.isFinite = true) (finite' : k.isFinite = true)
    (stop : Stops rest) (stop' : Stops rest')
    (same : j.compactChars ++ rest = k.compactChars ++ rest') : j = k ∧ rest = rest' := by
  have cases_ : ∀ i : Json, i.kind = .number → i.isFinite = true →
      (∃ n, i = .integer n) ∨ ∃ x, i = .real x ∧ x.isFinite = true := by
    intro i number finite
    cases i with
    | integer n => exact .inl ⟨n, rfl⟩
    | real x => exact .inr ⟨x, rfl, by simpa [isFinite] using finite⟩
    | _ => exact absurd number (by simp [kind])
  rcases cases_ j number finite with ⟨m, rfl⟩ | ⟨x, rfl, ordinary⟩ <;>
    rcases cases_ k number' finite' with ⟨n, rfl⟩ | ⟨y, rfl, ordinary'⟩ <;>
    simp only [compactChars, scalarChars] at same
  · obtain ⟨text, after⟩ :=
      run_read _ _ _ _ (integer_number_chars m) (integer_number_chars n) stop stop' same
    exact ⟨congrArg Json.integer (integer_read m n text), after⟩
  · obtain ⟨text, -⟩ :=
      run_read _ _ _ _ (integer_number_chars m) (real_number_chars y ordinary') stop stop' same
    rcases real_marked y ordinary' with point | power
    · exact absurd (text ▸ point) (integer_unmarked m).1
    · exact absurd (text ▸ power) (integer_unmarked m).2
  · obtain ⟨text, -⟩ :=
      run_read _ _ _ _ (real_number_chars x ordinary) (integer_number_chars n) stop stop' same
    rcases real_marked x ordinary with point | power
    · exact absurd (text ▸ point) (integer_unmarked n).1
    · exact absurd (text ▸ power) (integer_unmarked n).2
  · obtain ⟨text, after⟩ :=
      run_read _ _ _ _ (real_number_chars x ordinary) (real_number_chars y ordinary') stop stop' same
    exact ⟨by rw [Binary64.render_injective x y ordinary ordinary' text], after⟩

def itemsTail : List Json → List Char
  | [] => [']']
  | next :: rest => ',' :: compactItems (next :: rest)

def membersTail : List (String × Json) → List Char
  | [] => ['\x7d']
  | next :: rest => ',' :: compactMembers (next :: rest)

theorem compact_items_cons (item : Json) (rest : List Json) :
    compactItems (item :: rest) = item.compactChars ++ itemsTail rest := by
  cases rest <;> rfl

theorem compact_members_cons (name : String) (value : Json) (rest : List (String × Json)) :
    compactMembers ((name, value) :: rest)
      = stringChars name ++ ':' :: (value.compactChars ++ membersTail rest) := by
  cases rest <;> simp [compactMembers, membersTail]

theorem items_tail_stops (items : List Json) (rest : List Char) : Stops (itemsTail items ++ rest) := by
  cases items <;> exact stops_cons _ _ rfl

theorem members_tail_stops (members : List (String × Json)) (rest : List Char) :
    Stops (membersTail members ++ rest) := by
  cases members <;> exact stops_cons _ _ rfl

theorem items_open (item : Json) (more : List Json) (rest rest' : List Char)
    (finite : areFinite (item :: more) = true) :
    compactItems (item :: more) ++ rest ≠ compactItems [] ++ rest' := by
  intro same
  simp only [areFinite, Bool.and_eq_true] at finite
  obtain ⟨c, text, shown, opened⟩ := opens item finite.1
  rw [compact_items_cons, shown] at same
  have closing : c = ']' := (List.cons.inj same).1
  rw [closing, show kindAt ']' = .other from rfl] at opened
  cases item <;> exact absurd opened (by simp [kind])

mutual
theorem compact_read (j k : Json) (rest rest' : List Char) (finite : j.isFinite = true)
    (finite' : k.isFinite = true) (stop : Stops rest) (stop' : Stops rest')
    (same : j.compactChars ++ rest = k.compactChars ++ rest') : j = k ∧ rest = rest' := by
  have kinds := kinds_agree j k rest rest' finite finite' same
  cases j with
  | null => exact word_read _ k rest rest' rfl kinds.symm same
  | bool b => exact word_read _ k rest rest' rfl kinds.symm same
  | integer n => exact number_read _ k rest rest' rfl kinds.symm finite finite' stop stop' same
  | real x => exact number_read _ k rest rest' rfl kinds.symm finite finite' stop stop' same
  | string s =>
    cases k with
    | string t =>
      obtain ⟨rfl, after⟩ := string_read s t rest rest' same
      exact ⟨rfl, after⟩
    | _ => exact absurd kinds (by simp [kind])
  | array items =>
    cases k with
    | array others =>
      obtain ⟨rfl, after⟩ := items_read items others rest rest' (by simpa [isFinite] using finite)
        (by simpa [isFinite] using finite') (List.cons.inj same).2
      exact ⟨rfl, after⟩
    | _ => exact absurd kinds (by simp [kind])
  | object members =>
    cases k with
    | object others =>
      obtain ⟨rfl, after⟩ := members_read members others rest rest'
        (by simpa [isFinite] using finite) (by simpa [isFinite] using finite') (List.cons.inj same).2
      exact ⟨rfl, after⟩
    | _ => exact absurd kinds (by simp [kind])
theorem items_read (items others : List Json) (rest rest' : List Char) (finite : areFinite items = true)
    (finite' : areFinite others = true)
    (same : compactItems items ++ rest = compactItems others ++ rest') :
    items = others ∧ rest = rest' := by
  cases items with
  | nil =>
    cases others with
    | nil => exact ⟨rfl, (List.cons.inj same).2⟩
    | cons item more => exact absurd same.symm (items_open item more rest' rest finite')
  | cons item more =>
    cases others with
    | nil => exact absurd same (items_open item more rest rest' finite)
    | cons item' more' =>
      simp only [areFinite, Bool.and_eq_true] at finite finite'
      rw [compact_items_cons, compact_items_cons, List.append_assoc, List.append_assoc] at same
      obtain ⟨rfl, behind⟩ := compact_read item item' _ _ finite.1 finite'.1 (items_tail_stops more rest)
        (items_tail_stops more' rest') same
      cases more with
      | nil =>
        cases more' with
        | nil => exact ⟨rfl, (List.cons.inj behind).2⟩
        | cons _ _ => exact absurd behind (by simp [itemsTail])
      | cons next more =>
        cases more' with
        | nil => exact absurd behind (by simp [itemsTail])
        | cons next' more' =>
          obtain ⟨others, after⟩ := items_read (next :: more) (next' :: more') rest rest' finite.2 finite'.2
            (List.cons.inj behind).2
          exact ⟨by rw [others], after⟩
theorem members_read (members others : List (String × Json)) (rest rest' : List Char)
    (finite : membersFinite members = true) (finite' : membersFinite others = true)
    (same : compactMembers members ++ rest = compactMembers others ++ rest') :
    members = others ∧ rest = rest' := by
  cases members with
  | nil =>
    cases others with
    | nil => exact ⟨rfl, (List.cons.inj same).2⟩
    | cons member more =>
      rw [compact_members_cons] at same
      exact absurd same (by simp [compactMembers, stringChars])
  | cons member more =>
    cases others with
    | nil =>
      rw [compact_members_cons] at same
      exact absurd same (by simp [compactMembers, stringChars])
    | cons member' more' =>
      simp only [membersFinite, Bool.and_eq_true] at finite finite'
      rw [compact_members_cons, compact_members_cons, List.append_assoc, List.append_assoc] at same
      obtain ⟨names, values⟩ := string_read _ _ _ _ same
      simp only [List.cons_append, List.append_assoc, List.cons.injEq, true_and] at values
      obtain ⟨value, behind⟩ := compact_read _ _ _ _ finite.1 finite'.1 (members_tail_stops more rest)
        (members_tail_stops more' rest') values
      have one : member = member' := Prod.ext names value
      cases more with
      | nil =>
        cases more' with
        | nil => exact ⟨by rw [one], (List.cons.inj behind).2⟩
        | cons _ _ => exact absurd behind (by simp [membersTail])
      | cons next more =>
        cases more' with
        | nil => exact absurd behind (by simp [membersTail])
        | cons next' more' =>
          obtain ⟨others, after⟩ := members_read (next :: more) (next' :: more') rest rest' finite.2
            finite'.2 (List.cons.inj behind).2
          exact ⟨by rw [one, others], after⟩
end

theorem compact_injective (j k : Json) (finite : j.isFinite = true) (finite' : k.isFinite = true)
    (same : j.compact = k.compact) : j = k := by
  refine (compact_read j k [] [] finite finite' stops_nil stops_nil ?_).1
  rw [List.append_nil, List.append_nil]
  exact String.ofList_injective same

end ArchiveSearch.Json
