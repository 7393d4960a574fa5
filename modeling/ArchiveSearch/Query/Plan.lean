import ArchiveSearch.Number.Power
import ArchiveSearch.Text.Cursor

namespace ArchiveSearch

set_option autoImplicit false

inductive ScanType where
  | fullScan
  | index
  | fullText
  deriving DecidableEq

namespace ScanType

def name : ScanType → String
  | .fullScan => "fullScan"
  | .index => "index"
  | .fullText => "fullText"

def cost : ScanType → Nat
  | .fullScan => 100
  | .index => 10
  | .fullText => 10

end ScanType

structure Plan where
  estimatedRows : Option Nat
  scanType : ScanType
  details : List String
  deriving DecidableEq

namespace Plan

def usesIndex (p : Plan) : Bool :=
  p.scanType != .fullScan

def cost (p : Plan) : Nat :=
  p.scanType.cost

def marked (line : String) : List Char :=
  line.toList.flatMap Text.upperLatin

def fullTextMarks : List String :=
  ["VIRTUAL TABLE", "_FTS"]

def indexMarks : List String :=
  ["USING INDEX", "USING COVERING INDEX", "USING INTEGER PRIMARY KEY", "USING ROWID"]

def hasMark (marks : List String) (line : List Char) : Bool :=
  marks.any fun mark => Text.occursIn mark.toList line

def scanTypeOf (line : String) : ScanType :=
  let upper := marked line
  if hasMark fullTextMarks upper then .fullText
  else if hasMark indexMarks upper then .index
  else .fullScan

def better (a b : ScanType) : ScanType :=
  match a, b with
  | .fullText, _ => .fullText
  | _, .fullText => .fullText
  | .index, _ => .index
  | _, .index => .index
  | _, _ => .fullScan

open Text (Cursor) in
def rowsAt (at_ : Cursor) : Option (List Char) := do
  let digits ← Cursor.exact ['~'] at_
  let last ← Cursor.some' Text.isDigit digits
  let _ ← Cursor.exact [' ', 'r', 'o', 'w', 's'] last
  return digits.rest.take (digits.distance last)

def rowCount (digits : List Char) : Option Nat :=
  if digits.all fun c => '0' ≤ c && c ≤ '9' then
    let n := digits.foldl (fun n c => 10 * n + (c.toNat - '0'.toNat)) 0
    if n < Bound.word64 then some n else none
  else none

def rowsOf (line : String) : Option Nat :=
  (Text.Cursor.find? rowsAt line).bind rowCount

def larger : Option Nat → Option Nat → Option Nat
  | none, b => b
  | a, none => a
  | some a, some b => some (max a b)

def ofDetails (details : List String) : Plan :=
  { estimatedRows := details.foldl (fun found line => larger found (rowsOf line)) none
    scanType := details.foldl (fun found line => better found (scanTypeOf line)) .fullScan
    details }

def conservative : Plan :=
  { estimatedRows := none, scanType := .fullScan, details := [] }

end Plan

end ArchiveSearch
