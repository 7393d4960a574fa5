import ArchiveSearch.Text.Cursor

namespace ArchiveSearch

set_option autoImplicit false

namespace Pattern

inductive CharClass where
  | range (first last : Char)
  | word
  | digit
  | blank
  | union (parts : List CharClass)
  | except (inner : CharClass)

mutual
def CharClass.holds (c : Char) : CharClass → Bool
  | .range first last => first ≤ c && c ≤ last
  | .word => Text.isWord c
  | .digit => Text.isDigit c
  | .blank => Text.isBlank c
  | .union parts => anyHolds c parts
  | .except inner => !inner.holds c
def anyHolds (c : Char) : List CharClass → Bool
  | [] => false
  | part :: rest => part.holds c || anyHolds c rest
end

def CharClass.accepts (caseless : Bool) (k : CharClass) (c : Char) : Bool :=
  if caseless then
    match k with
    | .except inner => !(Text.caseVariants c).any fun v => inner.holds v
    | k => (Text.caseVariants c).any fun v => k.holds v
  else k.holds c

end Pattern

inductive Pattern where
  | one (caseless : Bool) (k : Pattern.CharClass)
  | textStart
  | textEnd
  | lineStart
  | lineEnd
  | boundary
  | noBoundary
  | all (parts : List Pattern)
  | either (parts : List Pattern)
  | repeated (inner : Pattern) (least : Nat) (most : Option Nat)
  deriving Inhabited

namespace Pattern

open Text (Cursor)

def distinct (places : List Cursor) : List Cursor :=
  places.foldl
    (fun kept p =>
      if kept.any fun q => q.rest.length == p.rest.length then kept else kept ++ [p])
    []

def times (step : Cursor → List Cursor) : Nat → List Cursor → List Cursor
  | 0, places => places
  | count + 1, places => times step count (distinct (places.flatMap step))

def upTo (step : Cursor → List Cursor) : Nat → List Cursor → List Cursor
  | 0, places => places
  | count + 1, places => distinct (places ++ upTo step count (distinct (places.flatMap step)))

def when (holds : Bool) (at_ : Cursor) : List Cursor :=
  if holds then [at_] else []

mutual
def ends (at_ : Cursor) : Pattern → List Cursor
  | .one caseless k => (Cursor.one (k.accepts caseless) at_).toList
  | .textStart => when at_.before.isNone at_
  | .textEnd => when at_.rest.isEmpty at_
  | .lineStart => when (at_.before.all (· == '\n')) at_
  | .lineEnd => when (at_.rest.head?.all (· == '\n')) at_
  | .boundary => when (Text.isBoundary at_.before at_.rest.head?) at_
  | .noBoundary => when (!Text.isBoundary at_.before at_.rest.head?) at_
  | .all parts => endsAll [at_] parts
  | .either parts => distinct (endsEither at_ parts)
  | .repeated inner least most =>
      let extra :=
        match most with
        | some most => min (most - least) at_.rest.length
        | none => at_.rest.length
      upTo (fun p => ends p inner) extra (times (fun p => ends p inner) least [at_])
def endsAll (places : List Cursor) : List Pattern → List Cursor
  | [] => places
  | part :: rest => endsAll (distinct (places.flatMap fun p => ends p part)) rest
def endsEither (at_ : Cursor) : List Pattern → List Cursor
  | [] => []
  | part :: rest => ends at_ part ++ endsEither at_ rest
end

def matches_ (p : Pattern) (text : String) : Bool :=
  (Cursor.find? (fun at_ => (ends at_ p).head?) text).isSome

end Pattern

end ArchiveSearch
