import ArchiveSearch.Filter.Value
import ArchiveSearch.Text.Blank

namespace ArchiveSearch

set_option autoImplicit false

structure Query where
  text : String
  params : List Value
  deriving DecidableEq, Inhabited

def alwaysTrue : String := "1=1"

namespace Query

def quoteAfter (open_ : Option Char) (c : Char) : Option Char :=
  match open_ with
  | some q => if c = q then none else some q
  | none => if c == '\'' || c == '"' then some c else none

def countFrom : Option Char → List Char → Nat
  | _, [] => 0
  | none, c :: rest =>
      if c == '?' then countFrom none rest + 1 else countFrom (quoteAfter none c) rest
  | some q, c :: rest => countFrom (quoteAfter (some q) c) rest

def placeholders (q : Query) : Nat :=
  countFrom none q.text.toList

def everything : Query :=
  { text := alwaysTrue, params := [] }

def isAlwaysTrue (q : Query) : Bool :=
  Text.trim q.text == alwaysTrue

end Query

end ArchiveSearch
