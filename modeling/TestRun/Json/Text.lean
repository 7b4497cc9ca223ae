import TestRun.Text.Digit
import TestRun.Value

/-! Text in JSON: what is escaped when it is written, and what the escapes mean when it is read. -/

set_option autoImplicit false

namespace TestRun.Json

def escape? (n : Nat) : Option (List Char) :=
  if n = 34 then some ['\\', '"']
  else if n = 92 then some ['\\', '\\']
  else if n = 10 then some ['\\', 'n']
  else if n = 13 then some ['\\', 'r']
  else if n = 9 then some ['\\', 't']
  else if n = 8 then some ['\\', 'b']
  else if n = 12 then some ['\\', 'f']
  else if n < 32 then some (['\\', 'u'] ++ Text.hexDigits 4 n)
  else none

def escape (n : Nat) : List Nat :=
  match escape? n with
  | some spelled => Text.codes spelled
  | none => [n]

def quoted (points : List Nat) : List Nat := '"'.toNat :: points.flatMap escape ++ ['"'.toNat]

def escaped? (c : Char) : Option Nat :=
  if c = '"' ∨ c = '\\' ∨ c = '/' then some c.toNat
  else if c = 'b' then some 8
  else if c = 'f' then some 12
  else if c = 'n' then some 10
  else if c = 'r' then some 13
  else if c = 't' then some 9
  else none

def unit? (a b c d : Char) : Option Nat := do
  some ((← Text.hexValue? a) * 4096 + (← Text.hexValue? b) * 256 + (← Text.hexValue? c) * 16 +
    (← Text.hexValue? d))

def unquoteFrom? (read : List Nat) : List Char → Option (List Nat × List Char)
  | [] => none
  | '"' :: rest => some (read.reverse, rest)
  | '\\' :: 'u' :: a :: b :: c :: d :: rest =>
      match unit? a b c d with
      | some unit => unquoteFrom? (unit :: read) rest
      | none => none
  | '\\' :: c :: rest =>
      match escaped? c with
      | some point => unquoteFrom? (point :: read) rest
      | none => none
  | c :: rest => if c.toNat < 32 then none else unquoteFrom? (c.toNat :: read) rest

def joinPairs : List Nat → List Nat
  | u :: v :: rest =>
      if 0xd800 ≤ u ∧ u < 0xdc00 ∧ 0xdc00 ≤ v ∧ v < 0xe000 then
        (0x10000 + (u - 0xd800) * 1024 + (v - 0xdc00)) :: joinPairs rest
      else u :: joinPairs (v :: rest)
  | points => points

def unquote? (text : List Char) : Option (Value × List Char) :=
  (unquoteFrom? [] text).map fun (points, rest) => (Value.ofWording (.ofPoints (joinPairs points)), rest)

end TestRun.Json
