import ArchiveSearch.Json.Basic

namespace ArchiveSearch.Json

set_option autoImplicit false

inductive Token where
  | openArray
  | closeArray
  | openObject
  | closeObject
  | comma
  | colon
  | scalar (value : Option Json)
  | string (text : Option String)
  | bad

def isDecimalDigit (c : Char) : Bool :=
  '0' ≤ c && c ≤ '9'

def digitValue (c : Char) : Nat :=
  c.toNat - '0'.toNat

def digitsValue (digits : List Char) : Nat :=
  digits.foldl (fun n c => 10 * n + digitValue c) 0

def hexValue (c : Char) : Option Nat :=
  if '0' ≤ c && c ≤ '9' then some (c.toNat - '0'.toNat)
  else if 'a' ≤ c && c ≤ 'f' then some (c.toNat - 'a'.toNat + 10)
  else if 'A' ≤ c && c ≤ 'F' then some (c.toNat - 'A'.toNat + 10)
  else none

def hexUnit (a b c d : Char) : Option Nat := do
  let a ← hexValue a
  let b ← hexValue b
  let c ← hexValue c
  let d ← hexValue d
  return 4096 * a + 256 * b + 16 * c + d

inductive Piece where
  | char (c : Char)
  | unit (n : Nat)

def simpleEscape (c : Char) : Option Char :=
  if c == '"' || c == '\\' || c == '/' then some c
  else if c == 'b' then some '\x08'
  else if c == 'f' then some '\x0c'
  else if c == 'n' then some '\n'
  else if c == 'r' then some '\r'
  else if c == 't' then some '\t'
  else none

def pieces : List Char → Option (List Piece × List Char)
  | [] => none
  | '"' :: rest => some ([], rest)
  | '\\' :: 'u' :: a :: b :: c :: d :: rest =>
      match hexUnit a b c d, pieces rest with
      | some n, some (more, after) => some (.unit n :: more, after)
      | _, _ => none
  | '\\' :: c :: rest =>
      match simpleEscape c, pieces rest with
      | some image, some (more, after) => some (.char image :: more, after)
      | _, _ => none
  | c :: rest =>
      if c.toNat < 0x20 || c == '\\' then none
      else
        match pieces rest with
        | some (more, after) => some (.char c :: more, after)
        | none => none

def isLead (n : Nat) : Bool :=
  0xD800 ≤ n && n ≤ 0xDBFF

def isTrail (n : Nat) : Bool :=
  0xDC00 ≤ n && n ≤ 0xDFFF

/-- The characters of some pieces; a leading and a trailing half make one, and neither half means
anything alone. -/
def joinPieces : List Piece → Option (List Char)
  | [] => some []
  | .char c :: rest => (joinPieces rest).map (c :: ·)
  | .unit n :: .unit m :: rest =>
      if isLead n && isTrail m then
        (joinPieces rest).map (Char.ofNat (0x10000 + 1024 * (n - 0xD800) + (m - 0xDC00)) :: ·)
      else if isLead n || isTrail n then none
      else (joinPieces (.unit m :: rest)).map (Char.ofNat n :: ·)
  | .unit n :: rest =>
      if isLead n || isTrail n then none
      else (joinPieces rest).map (Char.ofNat n :: ·)

theorem pieces_shorter {cs : List Char} {found : List Piece} {after : List Char}
    (read : pieces cs = some (found, after)) : after.length < cs.length := by
  fun_induction pieces cs generalizing found after with
  | case1 => simp at read
  | case2 => grind
  | case3 a b c d rest n more left same unit shorter =>
      have := shorter same
      obtain ⟨-, rfl⟩ := Prod.mk.inj (Option.some.inj read)
      simp only [List.length_cons]
      omega
  | case4 => simp at read
  | case5 _ _ _ _ _ _ same _ shorter =>
      have := shorter same
      obtain ⟨-, rfl⟩ := Prod.mk.inj (Option.some.inj read)
      simp only [List.length_cons]
      omega
  | case6 => simp at read
  | case7 => simp at read
  | case8 => grind
  | case9 => simp at read

def spanDigits (cs : List Char) : List Char × List Char :=
  (cs.takeWhile isDecimalDigit, cs.dropWhile isDecimalDigit)

theorem drop_while_length_le {α : Type} (p : α → Bool) (xs : List α) :
    (xs.dropWhile p).length ≤ xs.length := by
  induction xs with
  | nil => simp
  | cons x rest shorter =>
      rw [List.dropWhile_cons]
      split
      · exact Nat.le_succ_of_le shorter
      · exact Nat.le_refl _

theorem span_digits_le (cs : List Char) : (spanDigits cs).2.length ≤ cs.length :=
  drop_while_length_le isDecimalDigit cs

def fractionPart : List Char → Option (Option (List Char) × List Char)
  | '.' :: rest =>
      let (digits, after) := spanDigits rest
      if digits.isEmpty then none else some (some digits, after)
  | rest => some (none, rest)

def exponentPart : List Char → Option (Option Int × List Char)
  | [] => some (none, [])
  | c :: rest =>
      if c == 'e' || c == 'E' then
        let (negative, unsigned) :=
          match rest with
          | '+' :: more => (false, more)
          | '-' :: more => (true, more)
          | more => (false, more)
        let (digits, after) := spanDigits unsigned
        if digits.isEmpty then none
        else
          let size : Int := digitsValue digits
          some (some (if negative then -size else size), after)
      else some (none, c :: rest)

/-- A whole number is an integer when 64 bits hold it, and otherwise fractional; so is minus zero. -/
def wholeNumber (negative : Bool) (n : Nat) : Json :=
  if negative then
    if n = 0 then .real (Binary64.withSign true 0)
    else if n ≤ Bound.int64 then .integer (-(n : Int))
    else .real (Binary64.ofRatio true n 1)
  else if n < Bound.word64 then .integer n
  else .real (Binary64.ofRatio false n 1)

def numberValue (negative : Bool) (whole : List Char) (fraction : Option (List Char))
    (power : Option Int) : Option Json :=
  let value :=
    match fraction, power with
    | none, none => wholeNumber negative (digitsValue whole)
    | _, _ =>
        let decimals := fraction.getD []
        .real (Binary64.ofDecimal negative (digitsValue (whole ++ decimals))
          (power.getD 0 - decimals.length))
  match value with
  | .real x => if x.isFinite then some value else none
  | _ => some value

def unsignedNumber (negative : Bool) (cs : List Char) : Option (Option Json × List Char) :=
  let (whole, rest) := spanDigits cs
  if whole.isEmpty || (whole.head? == some '0' && whole.length != 1) then none
  else
    match fractionPart rest with
    | none => none
    | some (fraction, rest) =>
        match exponentPart rest with
        | none => none
        | some (power, rest) => some (numberValue negative whole fraction power, rest)

def number : List Char → Option (Option Json × List Char)
  | '-' :: rest => unsignedNumber true rest
  | cs => unsignedNumber false cs

theorem fraction_part_le {cs after : List Char} {found : Option (List Char)}
    (read : fractionPart cs = some (found, after)) : after.length ≤ cs.length := by
  unfold fractionPart at read
  split at read
  · rename_i rest
    have := span_digits_le rest
    grind
  · grind

theorem exponent_part_le {cs after : List Char} {found : Option Int}
    (read : exponentPart cs = some (found, after)) : after.length ≤ cs.length := by
  unfold exponentPart at read
  split at read
  · grind
  · have bound := span_digits_le
    grind

theorem span_digits_lt {cs : List Char} (some_digit : (spanDigits cs).1.isEmpty = false) :
    (spanDigits cs).2.length < cs.length := by
  cases cs with
  | nil => simp [spanDigits] at some_digit
  | cons c rest =>
      have bound := drop_while_length_le isDecimalDigit rest
      cases digit : isDecimalDigit c with
      | false => simp [spanDigits, digit] at some_digit
      | true =>
          simp only [spanDigits, List.dropWhile_cons, digit, if_true, List.length_cons]
          exact Nat.lt_succ_of_le bound

theorem unsigned_number_shorter {negative : Bool} {cs after : List Char} {found : Option Json}
    (read : unsignedNumber negative cs = some (found, after)) : after.length < cs.length := by
  unfold unsignedNumber at read
  have fewer := @span_digits_lt cs
  have fraction := @fraction_part_le
  have power := @exponent_part_le
  grind

theorem number_shorter {cs after : List Char} {found : Option Json}
    (read : number cs = some (found, after)) : after.length < cs.length := by
  unfold number at read
  split at read
  · have := unsigned_number_shorter read
    simp
    omega
  · exact unsigned_number_shorter read

def isGap (c : Char) : Bool :=
  c == ' ' || c == '\t' || c == '\n' || c == '\r'

def word : List Char → Option (Json × List Char)
  | 'n' :: 'u' :: 'l' :: 'l' :: rest => some (.null, rest)
  | 't' :: 'r' :: 'u' :: 'e' :: rest => some (.bool true, rest)
  | 'f' :: 'a' :: 'l' :: 's' :: 'e' :: rest => some (.bool false, rest)
  | _ => none

theorem word_shorter {cs after : List Char} {found : Json} (read : word cs = some (found, after)) :
    after.length < cs.length := by
  unfold word at read
  split at read <;> grind

def mark (c : Char) : Option Token :=
  if c == '[' then some .openArray
  else if c == ']' then some .closeArray
  else if c == '\x7b' then some .openObject
  else if c == '\x7d' then some .closeObject
  else if c == ',' then some .comma
  else if c == ':' then some .colon
  else none

def firstToken (c : Char) (rest : List Char) : Option (Token × List Char) :=
  match mark c with
  | some token => some (token, rest)
  | none =>
      if c == '"' then
        (pieces rest).map fun found => (.string ((joinPieces found.1).map String.ofList), found.2)
      else
        match word (c :: rest) with
        | some (value, after) => some (.scalar (some value), after)
        | none => (number (c :: rest)).map fun found => (.scalar found.1, found.2)

theorem first_token_shorter {c : Char} {rest after : List Char} {token : Token}
    (read : firstToken c rest = some (token, after)) : after.length < rest.length + 1 := by
  unfold firstToken at read
  split at read
  · grind
  · split at read
    · simp only [Option.map_eq_some_iff, Prod.mk.injEq] at read
      obtain ⟨found, same, _, rfl⟩ := read
      have := pieces_shorter same
      omega
    · split at read
      · rename_i same
        have := word_shorter same
        simp only [List.length_cons] at this
        grind
      · simp only [Option.map_eq_some_iff, Prod.mk.injEq] at read
        obtain ⟨found, same, _, rfl⟩ := read
        have := number_shorter same
        simpa using this

def tokens : List Char → List Token
  | [] => []
  | c :: rest =>
      if isGap c then tokens rest
      else
        match read : firstToken c rest with
        | none => [.bad]
        | some (token, after) =>
            have := first_token_shorter read
            token :: tokens after
  termination_by cs => cs.length

end ArchiveSearch.Json
