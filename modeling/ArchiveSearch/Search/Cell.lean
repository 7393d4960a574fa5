import ArchiveSearch.Filter.Value
import ArchiveSearch.Json.Basic

namespace ArchiveSearch

set_option autoImplicit false

inductive Cell where
  | null
  | integer (n : Int64)
  | real (x : Binary64)
  | text (s : String)
  | bytes (digits : String)
  deriving DecidableEq, Inhabited

namespace Cell

def ofValue : Value → Cell
  | .boolean b => .integer (if b then 1 else 0)
  | .integer n => .integer n
  | .number x => .real x
  | .date d => .text d.text
  | .text s => .text s

def encode : Cell → Json
  | .null => .null
  | .integer n => .integer n.toInt
  | .real x => .ofBinary64 x
  | .text s => .string s
  | .bytes digits => .string digits

def number? : Cell → Option Rat
  | .integer n => some n.toInt
  | .real x => some x.value
  | _ => none

def sort : Cell → Nat
  | .null => 0
  | .integer _ => 1
  | .real _ => 1
  | .text _ => 2
  | .bytes _ => 3

def orderOf {α : Type} [LT α] [DecidableEq α] [DecidableRel (α := α) (· < ·)] (a b : α) :
    Ordering :=
  if a = b then .eq else if a < b then .lt else .gt

def compare? (a b : Cell) : Option Ordering :=
  match a, b with
  | .null, _ => none
  | _, .null => none
  | .text s, .text t => some (orderOf s t)
  | .bytes s, .bytes t => some (orderOf s t)
  | a, b =>
      match a.number?, b.number? with
      | some x, some y => some (orderOf x y)
      | _, _ => some (orderOf a.sort b.sort)

end Cell

end ArchiveSearch
