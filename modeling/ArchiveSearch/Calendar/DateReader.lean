import ArchiveSearch.Number.Power
import ArchiveSearch.Calendar.Date
import ArchiveSearch.Text.Blank

/- Reading dates from text.

   There are two forms. The loose one lets blanks stand around the hyphens and after the day; the
   strict one lets them stand in front of a number only. In both, a year with a sign may have any
   number of digits, and one without at most four. -/
namespace ArchiveSearch

set_option autoImplicit false

inductive DateFault where
  | ended
  | invalid
  | outOfRange
  | trailing
  deriving DecidableEq

def DateFault.message : DateFault → String
  | .ended => "premature end of input"
  | .invalid => "input contains invalid characters"
  | .outOfRange => "input is out of range"
  | .trailing => "trailing input"

namespace DateReader

abbrev Step (α : Type) := StateT (List Char) (Except DateFault) α

def fail {α : Type} (fault : DateFault) : Step α :=
  fun _ => .error fault

def isDigit (c : Char) : Bool :=
  '0' ≤ c && c ≤ '9'

def digitsValue (digits : List Char) : Nat :=
  digits.foldl (fun n c => 10 * n + (c.toNat - '0'.toNat)) 0

def largest : Nat := Bound.int64 - 1

def number (most : Option Nat) : Step Nat := fun cs =>
  match cs with
  | [] => .error .ended
  | first :: _ =>
      if !isDigit first then .error .invalid
      else
        let digits := (match most with | some n => cs.take n | none => cs).takeWhile isDigit
        let value := digitsValue digits
        if largest < value then .error .outOfRange else .ok (value, cs.drop digits.length)

def skipBlanks : Step Unit :=
  modify Text.trimStart

def literal (c : Char) : Step Unit := fun cs =>
  match cs with
  | [] => .error .ended
  | first :: rest => if first == c then .ok ((), rest) else .error .invalid

def field (digits least most : Nat) : Step Nat := do
  skipBlanks
  let n ← number (some digits)
  if least ≤ n && n ≤ most then return n else fail .outOfRange

def year : Step Int := do
  skipBlanks
  let value : Int ←
    match ← get with
    | '-' :: rest => set rest; pure (-((← number none : Nat) : Int))
    | '+' :: rest => set rest; pure ((← number none : Nat) : Int)
    | _ => pure ((← number (some 4) : Nat) : Int)
  if -(Bound.int32 : Int) ≤ value && value < Bound.int32 then return value else fail .outOfRange

def parts (gap : Step Unit) : Step (Int × Nat × Nat) := do
  let y ← year
  gap
  literal '-'
  let m ← field 2 1 12
  gap
  literal '-'
  let d ← field 2 1 31
  return (y, m, d)

def finish : Step Unit := fun cs =>
  if cs.isEmpty then .ok ((), []) else .error .trailing

def date (found : Int × Nat × Nat) : Step Date :=
  match Date.of? found.1 found.2.1 found.2.2 with
  | some d => return d
  | none => fail .outOfRange

def run {α : Type} (step : Step α) (text : String) : Except DateFault α :=
  (step text.toList).map (·.1)

def loose (text : String) : Except DateFault Date :=
  run (do let found ← parts skipBlanks; skipBlanks; finish; date found) text

def strict (text : String) : Except DateFault Date :=
  run (do let found ← parts (pure ()); finish; date found) text

end DateReader

end ArchiveSearch
