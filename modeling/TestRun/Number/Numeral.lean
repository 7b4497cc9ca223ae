import TestRun.Number.Binary64
import TestRun.Text.Blank
import TestRun.Text.Digit
import TestRun.Text.Split

/-! Numbers as they are written in documents and on the command line. -/

set_option autoImplicit false

namespace TestRun.Numeral

def maxDigits : Nat := 4300

-- The values of digits; one line may stand between two of them, and nothing else.
def grouped? (value? : Char → Option Nat) : List Char → Option (List Nat)
  | [] => none
  | [c] => (value? c).map ([·])
  | c :: '_' :: rest => do
      let first ← value? c
      let others ← grouped? value? rest
      pure (first :: others)
  | c :: rest => do
      let first ← value? c
      let others ← grouped? value? rest
      pure (first :: others)

def valueOf (base : Nat) (digits : List Nat) : Nat := digits.foldl (fun n d => n * base + d) 0

def signed (text : List Char) : Bool × List Char :=
  match text with
  | '-' :: rest => (true, rest)
  | '+' :: rest => (false, rest)
  | _ => (false, text)

def withSign (negative : Bool) (n : Nat) : Int := if negative then -(n : Int) else n

def integer? (text : List Char) : Option Int := do
  let (negative, rest) := signed (Text.trim text)
  let digits ← grouped? Text.digitValue? rest
  if digits.length ≤ maxDigits then some (withSign negative (valueOf 10 digits)) else none

def hexadecimal? (text : List Char) : Option Int := do
  let rest := match Text.trimEnd text with
    | '_' :: rest => rest
    | rest => rest
  let digits ← grouped? (fun c => (Text.hexValue? c).or (Text.digitValue? c)) rest
  some (valueOf 16 digits)

def documentInteger? (text : List Char) : Option Int :=
  match text with
  | '0' :: 'x' :: rest => hexadecimal? rest
  | '0' :: 'X' :: rest => hexadecimal? rest
  | _ => integer? text

def digits? (text : List Char) : Option (List Nat) :=
  if text.isEmpty then some [] else grouped? Text.digitValue? text

def exponent? (text : Option (List Char)) : Option Int :=
  match text with
  | none => some 0
  | some text => do
      let (negative, rest) := signed text
      let digits ← grouped? Text.digitValue? rest
      some (withSign negative (valueOf 10 digits))

def fraction? (negative : Bool) (text : List Char) : Option Binary64 := do
  let (mantissa, power) := Text.splitAtMark (fun c => c = 'e' || c = 'E') text
  let (whole, part) := Text.splitAtMark (· = '.') mantissa
  let whole ← digits? whole
  let part ← digits? (part.getD [])
  let power ← exponent? power
  let digits := (whole ++ part).dropWhile (· = 0)
  if whole.isEmpty && part.isEmpty then none
  else some (Binary64.ofDecimal negative (valueOf 10 digits) digits.length (power - part.length))

def real? (text : List Char) : Option Binary64 :=
  let (negative, rest) := signed (Text.trim text)
  let word := String.ofList (rest.map Char.toLower)
  if word = "inf" || word = "infinity" then some (Binary64.infinity negative)
  else if word = "nan" then some Binary64.nan
  else fraction? negative rest

def integerText? (i : Int) : Option (List Char) :=
  let digits := Nat.toDigits 10 i.natAbs
  if maxDigits < digits.length then none
  else some (if i < 0 then '-' :: digits else digits)

def isWritable (i : Int) : Bool := (integerText? i).isSome

end TestRun.Numeral
