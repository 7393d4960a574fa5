import ArchiveSearch.Text.Blank
import ArchiveSearch.Text.Case
import ArchiveSearch.Text.Word

namespace ArchiveSearch.Text

set_option autoImplicit false

structure Cursor where
  before : Option Char
  rest : List Char

namespace Cursor

abbrev Step := Cursor → Option Cursor

def ofText (s : String) : Cursor :=
  { before := none, rest := s.toList }

def one (p : Char → Bool) : Step
  | ⟨_, c :: rest⟩ => if p c then some ⟨some c, rest⟩ else none
  | ⟨_, []⟩ => none

def manyFrom (p : Char → Bool) : Option Char → List Char → Cursor
  | before, [] => ⟨before, []⟩
  | before, c :: rest => if p c then manyFrom p (some c) rest else ⟨before, c :: rest⟩

def many (p : Char → Bool) : Step :=
  fun at_ => some (manyFrom p at_.before at_.rest)

def some' (p : Char → Bool) : Step :=
  fun at_ => (one p at_).bind (many p)

def blanks : Step :=
  some' isBlank

def word : List Char → Step
  | [] => some
  | w :: more => fun at_ => (one (fun c => foldChar c == foldChar w) at_).bind (word more)

def exact : List Char → Step
  | [] => some
  | w :: more => fun at_ => (one (· == w) at_).bind (exact more)

def boundary : Step :=
  fun at_ => if isBoundary at_.before at_.rest.head? then some at_ else none

def distance (first last : Cursor) : Nat :=
  first.rest.length - last.rest.length

/-- The first place, from here on, at which a step succeeds: the place and where the step leads. -/
def findFrom {α : Type} (step : Cursor → Option α) : Option Char → List Char → Option α
  | before, [] => step ⟨before, []⟩
  | before, c :: rest =>
      match step ⟨before, c :: rest⟩ with
      | some found => some found
      | none => findFrom step (some c) rest

def find? {α : Type} (step : Cursor → Option α) (s : String) : Option α :=
  findFrom step none s.toList

end Cursor

def occursIn (part whole : List Char) : Bool :=
  (Cursor.findFrom (Cursor.exact part) none whole).isSome

def contains (whole part : String) : Bool :=
  occursIn part.toList whole.toList

end ArchiveSearch.Text
