import ArchiveSearch.Number.Power

/- Binary floating-point numbers of 64 bits, as exact data.

   A number is its bit pattern. What it denotes is a fraction, `value`, and every operation that has to
   round is the exact operation on fractions followed by one rounding to the nearest number, ties to
   the even one. Nothing here depends on the machine's own arithmetic. -/
namespace ArchiveSearch

set_option autoImplicit false

structure Binary64 where
  bits : UInt64
  deriving DecidableEq, Inhabited

namespace Binary64

abbrev signBit : Nat := 9223372036854775808

abbrev leading : Nat := 4503599627370496

abbrev infiniteSize : Nat := 2047 * 4503599627370496

def isNegative (x : Binary64) : Bool :=
  signBit ≤ x.bits.toNat

def sizeBits (x : Binary64) : Nat :=
  x.bits.toNat % signBit

def exponentField (x : Binary64) : Nat :=
  x.sizeBits / leading

def fractionField (x : Binary64) : Nat :=
  x.sizeBits % leading

def isFinite (x : Binary64) : Bool :=
  x.exponentField != 2047

def isNaN (x : Binary64) : Bool :=
  x.exponentField == 2047 && x.fractionField != 0

def significand (x : Binary64) : Nat :=
  if x.exponentField = 0 then x.fractionField else leading + x.fractionField

def exponent (x : Binary64) : Int :=
  if x.exponentField = 0 then -1074 else (x.exponentField : Int) - 1075

def sizeRatio (x : Binary64) : Nat × Nat :=
  if 0 ≤ x.exponent then (x.significand * twoTo x.exponent.toNat, 1)
  else (x.significand, twoTo (-x.exponent).toNat)

def value (x : Binary64) : Rat :=
  let size : Rat := mkRat x.sizeRatio.1 x.sizeRatio.2
  if x.isNegative then -size else size

def isIntegral (x : Binary64) : Bool :=
  x.isFinite && x.sizeRatio.1 % x.sizeRatio.2 == 0

def toInt (x : Binary64) : Int :=
  let size : Int := x.sizeRatio.1 / x.sizeRatio.2
  if x.isNegative then -size else size

def signedSize (x : Binary64) : Int :=
  if x.isNegative then -(x.sizeBits : Int) else x.sizeBits

def lt (x y : Binary64) : Bool :=
  !x.isNaN && !y.isNaN && x.signedSize < y.signedSize

def rank (x : Binary64) : Int :=
  if x.isNegative then -(x.sizeBits : Int) - 1 else x.sizeBits

def withSign (negative : Bool) (size : Nat) : Binary64 :=
  ⟨UInt64.ofNat (if negative then signBit + size else size)⟩

def zero : Binary64 :=
  withSign false 0

def infinity (negative : Bool) : Binary64 :=
  withSign negative infiniteSize

def roundQuotient (num den : Nat) : Nat :=
  let whole := num / den
  let rest := num % den
  if 2 * rest < den then whole
  else if den < 2 * rest then whole + 1
  else if whole % 2 == 0 then whole
  else whole + 1

def shiftRatio (num den : Nat) (shift : Int) : Nat × Nat :=
  if 0 ≤ shift then (num, den * twoTo shift.toNat) else (num * twoTo (-shift).toNat, den)

def scaleOf (num den : Nat) : Int :=
  let guess : Int := (num.log2 : Int) - (den.log2 : Int) - 52
  let scaled := shiftRatio num den guess
  let exact := if scaled.1 / scaled.2 < leading then guess - 1 else guess
  max exact (-1074)

def ofRatio (negative : Bool) (num den : Nat) : Binary64 :=
  if num = 0 ∨ den = 0 then withSign negative 0
  else
    let scale := scaleOf num den
    let scaled := shiftRatio num den scale
    let significand := roundQuotient scaled.1 scaled.2
    let size := (scale + 1074).toNat * leading + significand
    if size < infiniteSize then withSign negative size else infinity negative

def ofRat (q : Rat) : Binary64 :=
  ofRatio (q.num < 0) q.num.natAbs q.den

def ofInt (n : Int) : Binary64 :=
  ofRatio (n < 0) n.natAbs 1

def ofDecimal (negative : Bool) (digits : Nat) (exponent : Int) : Binary64 :=
  if digits = 0 then withSign negative 0
  else
    let magnitude := (Nat.toDigits 10 digits).length + exponent
    if 310 < magnitude then infinity negative
    else if magnitude < -330 then withSign negative 0
    else if 0 ≤ exponent then ofRatio negative (digits * tenTo exponent.toNat) 1
    else ofRatio negative digits (tenTo (-exponent).toNat)

end Binary64

end ArchiveSearch
