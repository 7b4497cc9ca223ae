import TestRun.Number.Binary64

/-! The fewest decimal digits that read back as a number, and of those the nearest ones. -/

set_option autoImplicit false

namespace TestRun.Shortest

structure Decimal where
  digits : List Char
  point : Int

-- A positive value between the ends of the interval that reads back as it, all over one
-- denominator; the ends belong to the interval if `closed`.
structure Interval where
  low : Nat
  value : Nat
  high : Nat
  denominator : Nat
  closed : Bool

-- Half way to the neighbours; below a power of two the neighbour is half as far.
def interval (x : Binary64) : Interval :=
  let m := x.significand
  let up := Nat.pow 2 (x.exponent - 2).toNat
  let near := m = Nat.pow 2 52 ∧ x.exponentField > 1
  { low := (4 * m - if near then 1 else 2) * up
    value := 4 * m * up
    high := (4 * m + 2) * up
    denominator := Nat.pow 2 (2 - x.exponent).toNat
    closed := m % 2 = 0 }

def Interval.holds (i : Interval) (power : Int) (n : Nat) : Bool :=
  let scaled := n * Nat.pow 10 power.toNat * i.denominator
  let shift := Nat.pow 10 (-power).toNat
  if i.closed then i.low * shift ≤ scaled && scaled ≤ i.high * shift
  else i.low * shift < scaled && scaled < i.high * shift

def Interval.onGrid? (i : Interval) (power : Int) : Option Nat :=
  let step := Nat.pow 10 power.toNat * i.denominator
  let scaled := i.value * Nat.pow 10 (-power).toNat
  let below := scaled / step
  let twice := 2 * (scaled % step)
  let preferUp := twice > step || (twice == step && below % 2 == 1)
  match i.holds power below, i.holds power (below + 1) with
  | true, true => some (if preferUp then below + 1 else below)
  | true, false => some below
  | false, true => some (below + 1)
  | false, false => none

def Interval.placeFrom (i : Interval) : (tries : Nat) → Int → Int
  | 0, place => place
  | tries + 1, place =>
      if i.value * Nat.pow 10 (-place).toNat < Nat.pow 10 place.toNat * i.denominator then place
      else i.placeFrom tries (place + 1)

def Interval.digitsFrom (i : Interval) (place : Int) : (tries count : Nat) → Nat × Int
  | 0, _ => (0, 0)
  | tries + 1, count =>
      match i.onGrid? (place - count) with
      | some n => (n, place - count)
      | none => i.digitsFrom place tries (count + 1)

def decimal (x : Binary64) : Decimal :=
  let i := interval x
  let binaryPlace : Int := x.significand.log2 + x.exponent
  let place := i.placeFrom 4 (Int.fdiv (binaryPlace * 1233) 4096)
  let (n, power) := i.digitsFrom place 20 1
  let digits := Nat.toDigits 10 n
  { digits := (digits.reverse.dropWhile (· = '0')).reverse, point := power + digits.length }

-- Positional from one ten-thousandth up to ten to the sixteenth, scientific elsewhere; a whole
-- number keeps one zero behind the point.
def Decimal.text (d : Decimal) : List Char :=
  if -4 < d.point ∧ d.point ≤ 16 then
    if d.point ≤ 0 then ['0', '.'] ++ List.replicate (-d.point).toNat '0' ++ d.digits
    else if d.digits.length ≤ d.point.toNat then
      d.digits ++ List.replicate (d.point.toNat - d.digits.length) '0' ++ ['.', '0']
    else d.digits.take d.point.toNat ++ '.' :: d.digits.drop d.point.toNat
  else
    let power := d.point - 1
    let places := Nat.toDigits 10 power.natAbs
    let tail := if d.digits.length ≤ 1 then [] else '.' :: d.digits.drop 1
    d.digits.take 1 ++ tail ++ ['e', if power < 0 then '-' else '+'] ++
      List.replicate (2 - places.length) '0' ++ places

def finiteText (x : Binary64) : List Char :=
  (if x.isNegative then ['-'] else []) ++
    if x.significand = 0 then ['0', '.', '0'] else (decimal x).text

end TestRun.Shortest
