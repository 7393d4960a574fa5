import ArchiveSearch.Text.WordTable

namespace ArchiveSearch.Text

set_option autoImplicit false

def inRanges : List (Nat × Nat) → Nat → Bool
  | [], _ => false
  | (first, last) :: rest, n =>
      if n < first then false
      else if n ≤ last then true
      else inRanges rest n

def isWord (c : Char) : Bool :=
  inRanges wordRanges c.toNat

def isDigit (c : Char) : Bool :=
  inRanges digitRanges c.toNat

def isWordSide (c : Option Char) : Bool :=
  c.any isWord

def isBoundary (before after : Option Char) : Bool :=
  isWordSide before != isWordSide after

end ArchiveSearch.Text
