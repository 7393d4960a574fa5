import ArchiveSearch.Number.Binary64
import ArchiveSearch.Text.Case
import ArchiveSearch.Text.Cursor
import ArchiveSearch.Text.EditDistance

/- Scores of suggestions.

   A score starts from the base of its source, falls with every rank in it, and is then raised or
   lowered by how well the text matches what was typed. The rules do not depend on the arithmetic they
   are carried out in: `exact` computes with fractions, `binary64` rounds after every operation. -/
namespace ArchiveSearch

set_option autoImplicit false

structure Arithmetic (R : Type) where
  number : Rat → R
  add : R → R → R
  sub : R → R → R
  mul : R → R → R
  div : R → R → R
  le : R → R → Bool

namespace Arithmetic

def exact : Arithmetic Rat where
  number q := q
  add x y := x + y
  sub x y := x - y
  mul x y := x * y
  div x y := x / y
  le x y := decide (x ≤ y)

def binary64 : Arithmetic Binary64 where
  number := Binary64.ofRat
  add x y := .ofRat (x.value + y.value)
  sub x y := .ofRat (x.value - y.value)
  mul x y := .ofRat (x.value * y.value)
  div x y := .ofRat (x.value / y.value)
  le x y := x.rank ≤ y.rank

end Arithmetic

namespace Score

def recentBase : Rat := 1
def popularBase : Rat := 9 / 10
def vocabularyBase : Rat := 7 / 10
def templateBase : Rat := 6 / 10
def rankDecay : Rat := 1 / 10
def equalBoost : Rat := 15 / 10
def startBoost : Rat := 13 / 10
def insideBoost : Rat := 11 / 10
def popularityWeight : Rat := 1 / 10

variable {R : Type} (a : Arithmetic R)

def decayed (base : Rat) (rank : Nat) : R :=
  let rest := a.sub (a.number base) (a.mul (a.number rankDecay) (a.number rank))
  if a.le rest (a.number 0) then a.number 0 else rest

def similarity (s t : List Char) : R :=
  let longer := max s.length t.length
  if longer = 0 then a.number 1
  else a.sub (a.number 1) (a.div (a.number (Text.editDistance s t)) (a.number longer))

def adjusted (base : R) (text needle : List Char) : R :=
  if text = needle then a.mul base (a.number equalBoost)
  else if needle.isPrefixOf text then a.mul base (a.number startBoost)
  else if Text.occursIn needle text then a.mul base (a.number insideBoost)
  else
    a.add (a.mul (a.number (1 / 2)) base)
      (a.mul (a.number (1 / 2)) (similarity a text needle))

def weighed (base : R) (count : Nat) : R :=
  a.mul base
    (a.add (a.number 1) (a.mul (a.number popularityWeight) (a.number ((count - 1 : Nat) : Rat))))

end Score

end ArchiveSearch
