import ArchiveSearch.Calendar.DateReader

namespace ArchiveSearch

set_option autoImplicit false

structure Instant where
  date : Date
  hour : Nat
  minute : Nat
  second : Nat
  nano : Nat
  onClock : hour < 24 ∧ minute < 60 ∧ second ≤ 60 ∧ nano < Bound.billion
  deriving DecidableEq

namespace Instant

def of? (date : Date) (hour minute second nano : Nat) : Option Instant :=
  if valid : hour < 24 ∧ minute < 60 ∧ second ≤ 60 ∧ nano < Bound.billion then
    some ⟨date, hour, minute, second, nano, valid⟩
  else none

def epoch : Instant :=
  ⟨Date.epoch, 0, 0, 0, 0, by decide⟩

instance : Inhabited Instant :=
  ⟨epoch⟩

def ofMillis? (millis : Int) : Option Instant := do
  let days := millis.fdiv 86400000
  let rest := (millis - days * 86400000).toNat
  let date ← Date.ofDayNumber? days
  of? date (rest / 3600000) (rest / 60000 % 60) (rest / 1000 % 60) (rest % 1000 * 1000000)

/-- The instant that a clock of 64 bits shows; its reading is taken as signed, and one that the
calendar does not hold as the start of 1970. -/
def ofClock (now : Nat) : Instant :=
  let signed : Int := if now < Bound.int64 then now else (now : Int) - Bound.word64
  (ofMillis? signed).getD epoch

def fractionChars (nano : Nat) : List Char :=
  if nano = 0 then []
  else if nano % 1000000 = 0 then '.' :: Date.padded 3 (nano / 1000000)
  else if nano % 1000 = 0 then '.' :: Date.padded 6 (nano / 1000)
  else '.' :: Date.padded 9 nano

def text (i : Instant) : String :=
  String.ofList
    (i.date.chars ++ 'T' :: Date.padded 2 i.hour ++ ':' :: Date.padded 2 i.minute ++
      ':' :: Date.padded 2 i.second ++ fractionChars i.nano ++ ['Z'])

open DateReader

def fraction : Step Nat := do
  match ← get with
  | '.' :: rest =>
      set rest
      let _ ← number (some 9)
      let digits := rest.takeWhile DateReader.isDigit
      set (rest.dropWhile DateReader.isDigit)
      return digitsValue (digits.take 9) * tenTo (9 - (digits.take 9).length)
  | _ => return 0

def twoDigits : Step Nat := fun cs =>
  match cs with
  | a :: b :: rest =>
      if DateReader.isDigit a && DateReader.isDigit b then .ok (digitsValue [a, b], rest)
      else .error .invalid
  | _ => .error .ended

def isColonOrBlank (c : Char) : Bool :=
  c == ':' || Text.isBlank c

def offsetSize : Step Nat := do
  let hours ← twoDigits
  modify (·.dropWhile isColonOrBlank)
  let minutes ← twoDigits
  if 60 ≤ minutes || 24 ≤ hours then fail .outOfRange else return 60 * hours + minutes

def offset : Step Int := do
  match ← get with
  | 'Z' :: rest => set rest; return 0
  | 'z' :: rest => set rest; return 0
  | '+' :: rest => set rest; return ((← offsetSize : Nat) : Int)
  | '-' :: rest => set rest; return -((← offsetSize : Nat) : Int)
  | '−' :: rest => set rest; return -((← offsetSize : Nat) : Int)
  | a :: b :: c :: rest =>
      if a.toLower == 'u' && b.toLower == 't' && c.toLower == 'c' then set rest; return 0
      else fail .invalid
  | _ => fail .ended

def separator : Step Unit := fun cs =>
  match cs with
  | c :: rest => if c == 'T' || c == 't' || c == ' ' then .ok ((), rest) else .error .invalid
  | [] => .error .ended

def ofLocal (date : Date) (hour minute second nano : Nat) (offset : Int) : Step Instant :=
  let minutes : Int := 60 * hour + minute - offset
  let day :=
    if minutes < 0 then date.yesterday?
    else if minutes < 1440 then some date
    else date.tomorrow?
  let inDay := (minutes % 1440).toNat
  match day.bind fun day => of? day (inDay / 60) (inDay % 60) second nano with
  | some i => return i
  | none => fail .outOfRange

def instant : Step Instant := do
  let found ← parts skipBlanks
  separator
  let hour ← field 2 0 23
  skipBlanks
  literal ':'
  let minute ← field 2 0 59
  skipBlanks
  literal ':'
  let second ← field 2 0 60
  let nano ← fraction
  skipBlanks
  let offset ← offset
  skipBlanks
  finish
  ofLocal (← DateReader.date found) hour minute second nano offset

def read (text : String) : Except DateFault Instant :=
  run instant text

end Instant

end ArchiveSearch
