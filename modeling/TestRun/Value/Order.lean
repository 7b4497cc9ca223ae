import TestRun.Value

/-! The order of keys: text by its code points, numbers by what they are worth. -/

set_option autoImplicit false

namespace TestRun.Value

def points? : Value → Option (List Nat)
  | .text s => some (s.toList.map Char.toNat)
  | .brokenText points => some points
  | _ => none

def fraction? : Value → Option (Int × Nat)
  | .bool b => some (if b then 1 else 0, 1)
  | .int i => some (i, 1)
  | .real x =>
      if x.isNaN then none
      else if x.isFinite then some x.ratio
      else some (if x.isNegative then -1 else 1, 0)
  | _ => none

def isText (v : Value) : Bool := v.points?.isSome

def isNumber : Value → Bool
  | .bool _ => true
  | .int _ => true
  | .real _ => true
  | _ => false

def fractionLess (a b : Int × Nat) : Bool :=
  if a.2 = 0 ∧ b.2 = 0 then a.1 < b.1 else a.1 * b.2 < b.1 * a.2

def keyLess (a b : Value) : Bool :=
  match a.points?, b.points? with
  | some p, some q => p < q
  | _, _ =>
      match a.fraction?, b.fraction? with
      | some p, some q => fractionLess p q
      | _, _ => false

def areOrdered (keys : List Value) : Bool :=
  keys.length ≤ 1 || keys.all isText || keys.all isNumber

end TestRun.Value
