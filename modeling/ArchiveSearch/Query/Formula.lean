import ArchiveSearch.Query.Basic
import ArchiveSearch.Text.Blank
import ArchiveSearch.Text.Case

/- Formulas: what the text of a condition says.

   A text is taken apart into pieces, which nest as its parentheses do. `AND` binds more tightly than
   `OR`, and the `AND` that belongs to a `BETWEEN` joins nothing. What is left between the connectives
   is an atom, unless it is one pair of parentheses, which holds a formula again. -/
namespace ArchiveSearch

set_option autoImplicit false

inductive Token where
  | word (chars : List Char)
  | placeholder (index : Nat)
  | symbol (chars : List Char)
  | quoted (chars : List Char)
  | comma
  | opening
  | closing
  deriving DecidableEq

namespace Token

def isWordChar (c : Char) : Bool :=
  c.isAlphanum || c == '_' || c == '.' || 128 ≤ c.toNat

def flush (make : List Char → Token) : List Char → List Token
  | [] => []
  | chars => [make chars.reverse]

inductive Mode where
  | word (chars : List Char)
  | symbol (chars : List Char)
  | quoted (quote : Char) (chars : List Char)

def Mode.tokens : Mode → List Token
  | .word chars => flush .word chars
  | .symbol chars => flush .symbol chars
  | .quoted _ chars => [.quoted chars.reverse]

def ofMark (c : Char) : Option Token :=
  if c = '(' then some .opening
  else if c = ')' then some .closing
  else if c = ',' then some .comma
  else none

def Mode.extend (index : Nat) : Mode → Char → List Token × Nat × Mode
  | .word chars, c =>
      if isWordChar c then ([], index, .word (c :: chars)) else (flush .word chars, index, .symbol [c])
  | .symbol chars, c =>
      if isWordChar c then (flush .symbol chars, index, .word [c]) else ([], index, .symbol (c :: chars))
  | .quoted quote chars, c =>
      if c = quote then ([.quoted chars.reverse], index, .word [])
      else ([], index, .quoted quote (c :: chars))

def Mode.isQuoted : Mode → Bool
  | .quoted _ _ => true
  | _ => false

def step (index : Nat) (mode : Mode) (c : Char) : List Token × Nat × Mode :=
  if mode.isQuoted then mode.extend index c
  else if Text.isBlank c then (mode.tokens, index, .word [])
  else if c = '?' then (mode.tokens ++ [.placeholder index], index + 1, .word [])
  else
    match ofMark c with
    | some t => (mode.tokens ++ [t], index, .word [])
    | none =>
        if c = '\'' ∨ c = '"' then (mode.tokens, index, .quoted c [])
        else mode.extend index c

def scan (index : Nat) (mode : Mode) : List Char → List Token
  | [] => mode.tokens
  | c :: rest =>
      match step index mode c with
      | (ended, next, after) => ended ++ scan next after rest

def ofText (text : String) : List Token :=
  scan 0 (.word []) text.toList

def isKeyword (name : String) : Token → Bool
  | .word chars => chars.map Text.foldChar == name.toList.map Text.foldChar
  | _ => false

end Token

inductive Piece where
  | token (t : Token)
  | group (pieces : List Piece)
  deriving Inhabited

namespace Piece

def isKeyword (name : String) : Piece → Bool
  | .token t => t.isKeyword name
  | .group _ => false

def nest : List Piece → List (List Piece) → List Token → Option (List Piece)
  | inner, [], [] => some inner.reverse
  | _, _ :: _, [] => none
  | inner, outer, .opening :: rest => nest [] (inner :: outer) rest
  | inner, around :: outer, .closing :: rest =>
      nest (.group inner.reverse :: around) outer rest
  | _, [], .closing :: _ => none
  | inner, outer, t :: rest => nest (.token t :: inner) outer rest

def ofText? (text : String) : Option (List Piece) :=
  nest [] [] (Token.ofText text)

end Piece

inductive Formula where
  | atom (pieces : List Piece)
  | and (parts : List Formula)
  | or (parts : List Formula)
  deriving Inhabited

namespace Formula

abbrev Part := Piece × Option Formula

def cutAtOr : List Part → List Part → List (List Part)
  | current, [] => [current.reverse]
  | current, p :: rest =>
      if p.1.isKeyword "or" then current.reverse :: cutAtOr [] rest
      else cutAtOr (p :: current) rest

def cutAtAnd : Bool → List Part → List Part → List (List Part)
  | _, current, [] => [current.reverse]
  | between, current, p :: rest =>
      if p.1.isKeyword "and" then
        if between then cutAtAnd false (p :: current) rest
        else current.reverse :: cutAtAnd false [] rest
      else cutAtAnd (between || p.1.isKeyword "between") (p :: current) rest

def conjunct : List Part → Formula
  | [(_, some inner)] => inner
  | parts => .atom (parts.map (·.1))

def joined (join : List Formula → Formula) : List Formula → Formula
  | [f] => f
  | fs => join fs

def assemble (parts : List Part) : Formula :=
  joined .or ((cutAtOr [] parts).map fun disjunct =>
    joined .and ((cutAtAnd false [] disjunct).map conjunct))

mutual
def ofPiece : Piece → Option Formula
  | .token _ => none
  | .group pieces => some (assemble (annotate pieces))
def annotate : List Piece → List Part
  | [] => []
  | p :: rest => (p, ofPiece p) :: annotate rest
end

def ofPieces (pieces : List Piece) : Formula :=
  assemble (annotate pieces)

def ofText? (text : String) : Option Formula :=
  (Piece.ofText? text).map ofPieces

def conjunction : List (Option Bool) → Option Bool
  | [] => some true
  | t :: rest =>
      match t, conjunction rest with
      | some false, _ => some false
      | _, some false => some false
      | some true, some true => some true
      | _, _ => none

def disjunction : List (Option Bool) → Option Bool
  | [] => some false
  | t :: rest =>
      match t, disjunction rest with
      | some true, _ => some true
      | _, some true => some true
      | some false, some false => some false
      | _, _ => none

mutual
def truth (atoms : List Piece → Option Bool) : Formula → Option Bool
  | .atom pieces => atoms pieces
  | .and parts => conjunction (truths atoms parts)
  | .or parts => disjunction (truths atoms parts)
def truths (atoms : List Piece → Option Bool) : List Formula → List (Option Bool)
  | [] => []
  | f :: rest => truth atoms f :: truths atoms rest
end

end Formula

end ArchiveSearch
