import ArchiveSearch.Text.CaseTable
import ArchiveSearch.Text.Word

namespace ArchiveSearch.Text

set_option autoImplicit false

def applyRuns : List (Nat × Nat × Nat × Int) → Nat → Nat
  | [], n => n
  | (first, last, step, shift) :: rest, n =>
      if n < first then n
      else if n ≤ last && (n - first) % step == 0 then (Int.ofNat n + shift).toNat
      else applyRuns rest n

def sourcesOf : List (Nat × Nat × Nat × Int) → Nat → List Nat
  | [], _ => []
  | (first, last, step, shift) :: rest, n =>
      let source := (Int.ofNat n - shift).toNat
      if first ≤ source && source ≤ last && (source - first) % step == 0 then
        source :: sourcesOf rest n
      else sourcesOf rest n

def lowerChar (c : Char) : Char :=
  Char.ofNat (applyRuns lowerRuns c.toNat)

def foldChar (c : Char) : Char :=
  Char.ofNat (applyRuns foldRuns c.toNat)

def caseVariants (c : Char) : List Char :=
  let folded := foldChar c
  folded :: (sourcesOf foldRuns folded.toNat).map Char.ofNat

def isCased (c : Char) : Bool :=
  inRanges casedRanges c.toNat

def isCaseIgnorable (c : Char) : Bool :=
  inRanges caseIgnorableRanges c.toNat

def nextToCased (cs : List Char) : Bool :=
  (cs.dropWhile isCaseIgnorable).head?.any isCased

def lowerFrom : List Char → List Char → List Char
  | _, [] => []
  | before, c :: rest =>
      let image :=
        if c == 'Σ' then
          if nextToCased before && !nextToCased rest then ['ς'] else ['σ']
        else if c == 'İ' then ['i', '\u0307']
        else [lowerChar c]
      image ++ lowerFrom (c :: before) rest

def lower (s : String) : String :=
  String.ofList (lowerFrom [] s.toList)

/-- The ASCII letters in the upper case of a character. Characters whose upper case has none of them
stay as they are. -/
def upperLatin (c : Char) : List Char :=
  match c with
  | 'ß' => ['S', 'S']
  | 'ı' => ['I']
  | 'ŉ' => ['ʼ', 'N']
  | 'ſ' => ['S']
  | 'ǰ' => ['J', '\u030C']
  | 'ẖ' => ['H', '\u0331']
  | 'ẗ' => ['T', '\u0308']
  | 'ẘ' => ['W', '\u030A']
  | 'ẙ' => ['Y', '\u030A']
  | 'ẚ' => ['A', 'ʾ']
  | 'ﬀ' => ['F', 'F']
  | 'ﬁ' => ['F', 'I']
  | 'ﬂ' => ['F', 'L']
  | 'ﬃ' => ['F', 'F', 'I']
  | 'ﬄ' => ['F', 'F', 'L']
  | 'ﬅ' => ['S', 'T']
  | 'ﬆ' => ['S', 'T']
  | c => [c.toUpper]

end ArchiveSearch.Text
