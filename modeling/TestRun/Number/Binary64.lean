/-! Double-precision numbers by their bits, with exact arithmetic in between. -/

set_option autoImplicit false

namespace TestRun

structure Binary64 where
  bits : UInt64
  deriving DecidableEq, Repr, Inhabited

namespace Binary64

def isNegative (x : Binary64) : Bool := Nat.pow 2 63 ≤ x.bits.toNat
def exponentField (x : Binary64) : Nat := x.bits.toNat / Nat.pow 2 52 % Nat.pow 2 11
def fractionField (x : Binary64) : Nat := x.bits.toNat % Nat.pow 2 52

def isFinite (x : Binary64) : Bool := x.exponentField != 2047
def isNaN (x : Binary64) : Bool := x.exponentField == 2047 && x.fractionField != 0

def significand (x : Binary64) : Nat :=
  if x.exponentField = 0 then x.fractionField else Nat.pow 2 52 + x.fractionField

def exponent (x : Binary64) : Int := max x.exponentField 1 - 1075

def withSign (negative : Bool) (magnitude : Nat) : Binary64 :=
  ⟨UInt64.ofNat (if negative then Nat.pow 2 63 + magnitude else magnitude)⟩

def zero (negative : Bool) : Binary64 := withSign negative 0
def infinity (negative : Bool) : Binary64 := withSign negative (2047 * Nat.pow 2 52)
def nan : Binary64 := withSign false (2047 * Nat.pow 2 52 + Nat.pow 2 51)

def ratio (x : Binary64) : Int × Nat :=
  let magnitude := x.significand * Nat.pow 2 x.exponent.toNat
  (if x.isNegative then -(magnitude : Int) else magnitude, Nat.pow 2 (-x.exponent).toNat)

def toInt? (x : Binary64) : Option Int :=
  let (numerator, denominator) := x.ratio
  if x.isFinite && numerator % denominator == 0 then some (numerator / denominator) else none

end Binary64

def nearestQuotient (numerator denominator : Nat) : Nat :=
  let quotient := numerator / denominator
  let twice := 2 * (numerator % denominator)
  if twice > denominator || (twice == denominator && quotient % 2 == 1) then quotient + 1
  else quotient

namespace Binary64

def scaled (numerator denominator : Nat) (exponent : Int) : Nat × Nat :=
  (numerator * Nat.pow 2 (-exponent).toNat, denominator * Nat.pow 2 exponent.toNat)

def exponentFor (numerator denominator : Nat) : Int :=
  let low := max ((numerator.log2 : Int) - denominator.log2 - 53) (-1074)
  let (n, d) := scaled numerator denominator low
  if n / d < Nat.pow 2 53 then low else low + 1

def ofRatio (negative : Bool) (numerator denominator : Nat) : Binary64 :=
  if numerator = 0 then zero negative
  else
    let exponent := exponentFor numerator denominator
    let (n, d) := scaled numerator denominator exponent
    let magnitude := (exponent + 1074).toNat * Nat.pow 2 52 + nearestQuotient n d
    if magnitude < 2047 * Nat.pow 2 52 then withSign negative magnitude else infinity negative

-- The number nearest to `digits * 10 ^ exponent`, where `digits` has `count` digits. Beyond the two
-- guards the nearest one is infinity or zero, whatever the digits are.
def ofDecimal (negative : Bool) (digits count : Nat) (exponent : Int) : Binary64 :=
  if digits = 0 then zero negative
  else if (count : Int) + exponent > 400 then infinity negative
  else if (count : Int) + exponent < -400 then zero negative
  else ofRatio negative (digits * Nat.pow 10 exponent.toNat) (Nat.pow 10 (-exponent).toNat)

def ofBytes (bytes : List UInt8) : Binary64 :=
  ⟨UInt64.ofNat (bytes.foldl (fun n b => n * 256 + b.toNat) 0)⟩

def ofSingleBits (bits : Nat) : Binary64 :=
  let negative : Bool := Nat.pow 2 31 ≤ bits
  let field := bits / Nat.pow 2 23 % Nat.pow 2 8
  let fraction := bits % Nat.pow 2 23
  if field = 255 then (if fraction = 0 then infinity negative else nan)
  else if field = 0 then ofRatio negative fraction (Nat.pow 2 149)
  else ofRatio negative ((Nat.pow 2 23 + fraction) * Nat.pow 2 (field - 150)) (Nat.pow 2 (150 - field))

end Binary64
end TestRun
