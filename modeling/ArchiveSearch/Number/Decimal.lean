import ArchiveSearch.Number.Binary64

namespace ArchiveSearch.Binary64

set_option autoImplicit false

def decimalLe (digits : Nat) (power : Int) (num : Nat) (scale : Int) : Bool :=
  digits * tenTo power.toNat * twoTo (-scale).toNat ≤ num * twoTo scale.toNat * tenTo (-power).toNat

def binaryLe (num : Nat) (scale : Int) (digits : Nat) (power : Int) : Bool :=
  num * twoTo scale.toNat * tenTo (-power).toNat ≤ digits * tenTo power.toNat * twoTo (-scale).toNat

structure Interval where
  low : Nat
  mid : Nat
  high : Nat
  scale : Int
  closed : Bool

/-- The interval around a size that is not zero. Below a power of two the numbers lie twice as
close, so there the lower end is half as far. -/
def interval (x : Binary64) : Interval :=
  let m := x.significand
  { low := if m = Binary64.leading ∧ x.exponent ≠ -1074 then 4 * m - 1 else 4 * m - 2
    mid := 4 * m
    high := 4 * m + 2
    scale := x.exponent - 2
    closed := m % 2 == 0 }

def Interval.holds (i : Interval) (digits : Nat) (power : Int) : Bool :=
  if i.closed then
    binaryLe i.low i.scale digits power && decimalLe digits power i.high i.scale
  else
    !decimalLe digits power i.low i.scale && !binaryLe i.high i.scale digits power

def Interval.floorAt (i : Interval) (power : Int) : Nat :=
  (i.mid * twoTo i.scale.toNat * tenTo (-power).toNat) / (tenTo power.toNat * twoTo (-i.scale).toNat)

def Interval.nearerBelow (i : Interval) (digits : Nat) (power : Int) : Bool :=
  let twice := 2 * i.mid
  let centre := 2 * digits + 1
  if decimalLe centre power twice i.scale then
    binaryLe twice i.scale centre power && digits % 2 == 0
  else true

def Interval.onGrid (i : Interval) (power : Int) : Option Nat :=
  let below := i.floorAt power
  let lower := below != 0 && i.holds below power
  let upper := i.holds (below + 1) power
  if lower && upper then some (if i.nearerBelow below power then below else below + 1)
  else if lower then some below
  else if upper then some (below + 1)
  else none

def Interval.places (i : Interval) : Int :=
  let guess : Int := (((i.mid.log2 : Int) + i.scale) * 30103).fdiv 100000
  if decimalLe 1 (guess + 1) i.mid i.scale then guess + 2
  else if decimalLe 1 guess i.mid i.scale then guess + 1
  else guess

def Interval.search (i : Interval) (power : Int) : Nat → Nat × Int
  | 0 => (i.floorAt power, power)
  | count + 1 =>
      match i.onGrid power with
      | some digits => (digits, power)
      | none => i.search (power - 1) count

def shortest (x : Binary64) : Nat × Int :=
  let i := x.interval
  i.search (i.places - 1) 17

structure Style where
  positional : Option (Int × Int)
  keepsPoint : Bool

def trimZeros (digits : List Char) (power : Int) : List Char × Int :=
  let kept := (digits.reverse.dropWhile (· == '0')).reverse
  (kept, power + ((digits.length : Int) - kept.length))

def positionalText (style : Style) (digits : List Char) (places : Int) : List Char :=
  if places ≤ 0 then
    ['0', '.'] ++ List.replicate (-places).toNat '0' ++ digits
  else if (digits.length : Int) ≤ places then
    digits ++ List.replicate (places - digits.length).toNat '0' ++
      (if style.keepsPoint then ['.', '0'] else [])
  else
    digits.take places.toNat ++ ['.'] ++ digits.drop places.toNat

def exponentText (digits : List Char) (places : Int) : List Char :=
  let power := places - 1
  digits.take 1 ++ (if digits.length = 1 then [] else '.' :: digits.drop 1) ++
    ['e', if power < 0 then '-' else '+'] ++ Nat.toDigits 10 power.natAbs

def sizeText (style : Style) (x : Binary64) : List Char :=
  if x.isNaN then ['N', 'a', 'N']
  else if !x.isFinite then ['i', 'n', 'f']
  else if x.significand = 0 then if style.keepsPoint then ['0', '.', '0'] else ['0']
  else
    let found := x.shortest
    let (digits, power) := trimZeros (Nat.toDigits 10 found.1) found.2
    let places := (digits.length : Int) + power
    match style.positional with
    | none => positionalText style digits places
    | some (least, most) =>
        if least ≤ places - 1 && places - 1 ≤ most then positionalText style digits places
        else exponentText digits places

def render (style : Style) (x : Binary64) : String :=
  String.ofList ((if x.isNegative && !x.isNaN then ['-'] else []) ++ x.sizeText style)

def dataStyle : Style :=
  { positional := some (-5, 15), keepsPoint := true }

def plainStyle : Style :=
  { positional := none, keepsPoint := false }

end ArchiveSearch.Binary64
