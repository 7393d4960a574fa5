import ArchiveSearch.Pattern.Basic
import ArchiveSearch.Json.Token

namespace ArchiveSearch.Pattern

set_option autoImplicit false

structure Flags where
  caseless : Bool := false
  multiline : Bool := false
  dotAll : Bool := false

def literal (flags : Flags) (c : Char) : Pattern :=
  .one flags.caseless (.range c c)

def anyChar (flags : Flags) : Pattern :=
  if flags.dotAll then .one false (.except (.union []))
  else .one false (.except (.range '\n' '\n'))

def isPunctuation (c : Char) : Bool :=
  let n := c.toNat
  (0x21 ≤ n && n ≤ 0x2F) || (0x3A ≤ n && n ≤ 0x40) || (0x5B ≤ n && n ≤ 0x60) ||
    (0x7B ≤ n && n ≤ 0x7E)

def escapedClass (c : Char) : Option CharClass :=
  match c with
  | 'w' => some .word
  | 'W' => some (.except .word)
  | 'd' => some .digit
  | 'D' => some (.except .digit)
  | 's' => some .blank
  | 'S' => some (.except .blank)
  | _ => none

def escapedLiteral (c : Char) : Option Char :=
  match c with
  | 'n' => some '\n'
  | 't' => some '\t'
  | 'r' => some '\r'
  | 'f' => some '\x0c'
  | 'v' => some '\x0b'
  | 'a' => some '\x07'
  | ' ' => some ' '
  | c => if isPunctuation c && c != '<' && c != '>' then some c else none

def hexNumber (digits : List Char) : Option Nat :=
  digits.foldl (fun n c => do return 16 * (← n) + (← Json.hexValue c)) (some 0)

def charOf (n : Nat) : Option Char :=
  if n < 0xD800 || (0xDFFF < n && n < 0x110000) then some (Char.ofNat n) else none

def numbered (kind : Char) (cs : List Char) : Option (Char × List Char) :=
  match cs with
  | '\x7b' :: rest =>
      let digits := rest.takeWhile fun c => c != '\x7d'
      match rest.drop digits.length with
      | _ :: after =>
          if digits.isEmpty then none
          else ((hexNumber digits).bind charOf).map fun c => (c, after)
      | [] => none
  | cs =>
      let count := if kind == 'x' then 2 else if kind == 'u' then 4 else 8
      if cs.length < count then none
      else ((hexNumber (cs.take count)).bind charOf).map fun c => (c, cs.drop count)

def escaped (cs : List Char) : Option (CharClass × List Char) :=
  match cs with
  | [] => none
  | c :: rest =>
      match escapedClass c with
      | some k => some (k, rest)
      | none =>
          if c == 'x' || c == 'u' || c == 'U' then
            (numbered c rest).map fun found => (.range found.1 found.1, found.2)
          else (escapedLiteral c).map fun c => (.range c c, rest)

def asciiClass (name : String) : Option CharClass :=
  let small := CharClass.range 'a' 'z'
  let capital := CharClass.range 'A' 'Z'
  let numeral := CharClass.range '0' '9'
  let punctuation := CharClass.union
    [.range '!' '/', .range ':' '@', .range '[' '\x60', .range '\x7b' '~']
  match name with
  | "alpha" => some (.union [small, capital])
  | "alnum" => some (.union [small, capital, numeral])
  | "ascii" => some (.range '\x00' '\x7f')
  | "blank" => some (.union [.range ' ' ' ', .range '\t' '\t'])
  | "cntrl" => some (.union [.range '\x00' '\x1f', .range '\x7f' '\x7f'])
  | "digit" => some numeral
  | "graph" => some (.range '!' '~')
  | "lower" => some small
  | "print" => some (.range ' ' '~')
  | "punct" => some punctuation
  | "space" => some (.union [.range '\t' '\r', .range ' ' ' '])
  | "upper" => some capital
  | "word" => some (.union [small, capital, numeral, .range '_' '_'])
  | "xdigit" => some (.union [numeral, .range 'a' 'f', .range 'A' 'F'])
  | _ => none

def namedClass (cs : List Char) : Option (CharClass × List Char) :=
  let (negated, cs) :=
    match cs with
    | '^' :: rest => (true, rest)
    | cs => (false, cs)
  let name := cs.takeWhile fun c => 'a' ≤ c && c ≤ 'z'
  match cs.drop name.length with
  | ':' :: ']' :: rest =>
      (asciiClass (String.ofList name)).map fun k => (if negated then .except k else k, rest)
  | _ => none

def onlyChar : CharClass → Option Char
  | .range a b => if a == b then some a else none
  | _ => none

def classItem (cs : List Char) : Option (CharClass × List Char) :=
  match cs with
  | [] => none
  | '\\' :: rest => escaped rest
  | c :: rest => some (.range c c, rest)

/-- The items of a class up to its closing bracket, of which `found` are read; `first` tells that
none is yet. At most `fuel` items are read. -/
def classItems : Nat → Bool → List CharClass → List Char → Option (List CharClass × List Char)
  | 0, _, _, _ => none
  | _, _, _, [] => none
  | fuel + 1, first, found, c :: rest =>
      if c == ']' && !first then some (found, rest)
      else if c == '[' then
        match rest with
        | ':' :: more =>
            match namedClass more with
            | some (k, after) => classItems fuel false (found ++ [k]) after
            | none => nested fuel found rest
        | _ => nested fuel found rest
      else if c == '&' && rest.head? == some '&' then none
      else
        match classItem (c :: rest) with
        | none => none
        | some (k, '-' :: after) =>
            match after.head? with
            | some ']' => classItems fuel false (found ++ [k, .range '-' '-']) after
            | _ =>
                match classItem after with
                | none => none
                | some (l, after) =>
                    match onlyChar k, onlyChar l with
                    | some a, some b =>
                        if a ≤ b then classItems fuel false (found ++ [.range a b]) after else none
                    | _, _ => none
        | some (k, after) => classItems fuel false (found ++ [k]) after
  termination_by fuel => (fuel, 0)
  decreasing_by all_goals exact Prod.Lex.left _ _ (Nat.lt_succ_self _)
where
  nested (fuel : Nat) (found : List CharClass) (rest : List Char) :
      Option (List CharClass × List Char) :=
    let (negated, rest) :=
      match rest with
      | '^' :: more => (true, more)
      | more => (false, more)
    match classItems fuel true [] rest with
    | none => none
    | some (items, after) =>
        let k := if negated then CharClass.except (.union items) else .union items
        classItems fuel false (found ++ [k]) after
  termination_by (fuel, 1)
  decreasing_by all_goals exact Prod.Lex.right _ Nat.zero_lt_one

def bracketed (cs : List Char) : Option (CharClass × List Char) :=
  let (negated, cs) :=
    match cs with
    | '^' :: rest => (true, rest)
    | cs => (false, cs)
  (classItems (cs.length + 1) true [] cs).map fun found =>
    (if negated then .except (.union found.1) else .union found.1, found.2)

def bounds (cs : List Char) : Option (Nat × Option Nat × List Char) :=
  let (low, rest) := Json.spanDigits cs
  if low.isEmpty then none
  else
    match rest with
    | '\x7d' :: after => some (Json.digitsValue low, some (Json.digitsValue low), after)
    | ',' :: '\x7d' :: after => some (Json.digitsValue low, none, after)
    | ',' :: more =>
        let (high, rest) := Json.spanDigits more
        match rest with
        | '\x7d' :: after =>
            if high.isEmpty || Json.digitsValue high < Json.digitsValue low then none
            else some (Json.digitsValue low, some (Json.digitsValue high), after)
        | _ => none
    | _ => none

def repetition (cs : List Char) : Option (Option (Nat × Option Nat × List Char)) :=
  match cs with
  | '*' :: rest => some (some (0, none, rest))
  | '+' :: rest => some (some (1, none, rest))
  | '?' :: rest => some (some (0, some 1, rest))
  | '\x7b' :: rest => (bounds rest).map some
  | _ => some none

def skipLazy : List Char → List Char
  | '?' :: rest => rest
  | rest => rest

def setFlags : Bool → Flags → List Char → Option (Flags × Char × List Char)
  | _, _, [] => none
  | on, flags, c :: rest =>
      match c with
      | ')' => some (flags, ')', rest)
      | ':' => some (flags, ':', rest)
      | '-' => if on then setFlags false flags rest else none
      | 'i' => setFlags on { flags with caseless := on } rest
      | 'm' => setFlags on { flags with multiline := on } rest
      | 's' => setFlags on { flags with dotAll := on } rest
      | 'u' => setFlags on flags rest
      | 'U' => setFlags on flags rest
      | _ => none

def skipName (cs : List Char) : Option (List Char) :=
  let name := cs.takeWhile fun c => c.isAlphanum || c == '_'
  match cs.drop name.length with
  | '>' :: rest => if name.isEmpty || name.any Char.isDigit && (name.head?.any Char.isDigit) then none
      else some rest
  | _ => none

inductive Item where
  | one (p : Pattern)
  | flags (f : Flags)

structure Progress where
  complete : List Pattern := []
  items : List Pattern := []

def Progress.pattern (p : Progress) : Pattern :=
  match p.complete with
  | [] => .all p.items
  | complete => .either (complete ++ [.all p.items])

mutual
/-- Reads alternatives up to the end of the text, or of the group if `nested`. Every call takes a
character at least, so `fuel` is their number. -/
def readFrom : Nat → Bool → Flags → Progress → List Char → Option (Pattern × List Char)
  | 0, _, _, _, _ => none
  | _, nested, _, p, [] => if nested then none else some (p.pattern, [])
  | fuel + 1, nested, flags, p, c :: rest =>
      if c == ')' then if nested then some (p.pattern, rest) else none
      else if c == '|' then
        readFrom fuel nested flags
          { complete := p.complete ++ [.all p.items], items := [] } rest
      else
        match repetition (c :: rest) with
        | none => none
        | some (some (least, most, after)) =>
            match p.items.getLast? with
            | none => none
            | some last =>
                readFrom fuel nested flags
                  { p with items := p.items.dropLast ++ [.repeated last least most] }
                  (skipLazy after)
        | some none =>
            match readItem fuel flags c rest with
            | none => none
            | some (.one item, after) =>
                readFrom fuel nested flags { p with items := p.items ++ [item] } after
            | some (.flags flags, after) => readFrom fuel nested flags p after
def readItem : Nat → Flags → Char → List Char → Option (Item × List Char)
  | 0, _, _, _ => none
  | fuel + 1, flags, c, rest =>
      match c, rest with
      | '(', '?' :: 'P' :: '<' :: more => (skipName more).bind (readGroup fuel flags)
      | '(', '?' :: '<' :: more => (skipName more).bind (readGroup fuel flags)
      | '(', '?' :: more =>
          match setFlags true flags more with
          | some (flags, ':', after) => readGroup fuel flags after
          | some (changed, _, after) =>
              if more.head? == some ')' then none else some (.flags changed, after)
          | none => none
      | '(', _ => readGroup fuel flags rest
      | '[', _ => (bracketed rest).map fun found => (.one (.one flags.caseless found.1), found.2)
      | '.', _ => some (.one (anyChar flags), rest)
      | '^', _ => some (.one (if flags.multiline then .lineStart else .textStart), rest)
      | '$', _ => some (.one (if flags.multiline then .lineEnd else .textEnd), rest)
      | '\\', 'b' :: after => some (.one .boundary, after)
      | '\\', 'B' :: after => some (.one .noBoundary, after)
      | '\\', 'A' :: after => some (.one .textStart, after)
      | '\\', 'z' :: after => some (.one .textEnd, after)
      | '\\', _ =>
          (escaped rest).map fun found => (.one (.one flags.caseless found.1), found.2)
      | _, _ => some (.one (literal flags c), rest)
def readGroup : Nat → Flags → List Char → Option (Item × List Char)
  | 0, _, _ => none
  | fuel + 1, flags, rest =>
      (readFrom fuel true flags {} rest).map fun found => (.one found.1, found.2)
end

def read? (text : String) : Option Pattern :=
  let cs := text.toList
  (readFrom (3 * cs.length + 1) false {} {} cs).map (·.1)

end ArchiveSearch.Pattern
