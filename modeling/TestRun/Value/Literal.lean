import TestRun.Number.Numeral
import TestRun.Number.Shortest
import TestRun.Text.Quoted
import TestRun.Value

/-! How messages name a key: text as it is or quoted, every other scalar by its literal. -/

set_option autoImplicit false

namespace TestRun.Value

def realText (x : Binary64) : String :=
  if x.isNaN then "nan"
  else if x.isFinite then String.ofList (Shortest.finiteText x)
  else if x.isNegative then "-inf"
  else "inf"

def quotedPoint (mark : Char) (n : Nat) : List Char :=
  if 0xd800 ≤ n ∧ n < 0xe000 then Text.numbered n else Text.quoteChar mark (Char.ofNat n)

def quotedPoints (points : List Nat) : String :=
  let mark := Text.quoteMark (points.map Char.ofNat)
  String.ofList (mark :: points.flatMap (quotedPoint mark) ++ [mark])

def literal? : Value → Option String
  | .null => some "None"
  | .bool b => some (if b then "True" else "False")
  | .int i => (Numeral.integerText? i).map String.ofList
  | .real x => some (realText x)
  | .text s => some (Text.quoted s)
  | .brokenText points => some (quotedPoints points)
  | .data bytes => some (Text.quotedData bytes)
  | .date t => some t.listed
  | .uid n => some ("UID(" ++ toString n ++ ")")
  | _ => none

def display? : Value → Option String
  | .text s => some s
  | .date t => some (t.textWith " ")
  | v => v.literal?

end TestRun.Value
