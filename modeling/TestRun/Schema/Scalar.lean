import TestRun.Number.Numeral
import TestRun.Schema.Checked
import TestRun.Text.Utf8
import TestRun.Value

/-! What a schema takes for text, a switch or an integer: bytes are read as text, numbers and words as switches,
numerals as integers. -/

set_option autoImplicit false

namespace TestRun.Schema

def text (v : Value) : Checked Wording :=
  match v with
  | .text s => .ok (.text s)
  | .brokenText points => .ok (.broken points)
  | .data bytes =>
      match Text.Utf8.decode? bytes with
      | some chars => .ok (.text (String.ofList chars))
      | none => .fail .stringUnicode
  | _ => .fail .stringType

-- Text in a document, which holds no other text than that of characters.
def plainText (v : Value) : Checked String :=
  match text v with
  | .ok (.text s) => .ok s
  | .ok (.broken _) => .fail .stringUnicode
  | .bad issues => .bad issues

def wordLimit : Int := 0x8000000000000000

def isWord (i : Int) : Bool := -wordLimit ≤ i && i < wordLimit

def switchOfInt (i : Int) : Checked Bool :=
  if i = 0 then .ok false
  else if i = 1 then .ok true
  else if isWord i then .fail .boolParsing
  else .fail .boolType

def offWords : List String := ["0", "off", "f", "false", "n", "no"]
def onWords : List String := ["1", "on", "t", "true", "y", "yes"]

def switchOfText (chars : List Char) : Checked Bool :=
  let word := String.ofList (chars.map Char.toLower)
  if offWords.contains word then .ok false
  else if onWords.contains word then .ok true
  else .fail .boolParsing

-- A whole number is an integer only strictly inside the range of sixty-four bits.
def integerOfReal (x : Binary64) : Checked Int :=
  if !x.isFinite then .fail .finiteNumber
  else
    match x.toInt? with
    | none => .fail .intFromFloat
    | some i => if -wordLimit < i ∧ i < wordLimit then .ok i else .fail .intParsingSize

def switch (v : Value) : Checked Bool :=
  match v with
  | .bool b => .ok b
  | .int i => switchOfInt i
  | .uid n => switchOfInt n
  | .real x =>
      match integerOfReal x with
      | .ok i => switchOfInt i
      | .bad _ => .fail .boolType
  | .text s => switchOfText s.toList
  | .data bytes =>
      match Text.Utf8.decode? bytes with
      | some chars => switchOfText chars
      | none => .fail .boolParsing
  | .brokenText _ => .fail .stringUnicode
  | _ => .fail .boolType

-- Drops the zeros in front of a numeral, with the lines between and behind them; a number keeps its
-- last zero if nothing but a point follows. A minus may stand behind such zeros.
def withoutZeros? : List Char → Option (List Char)
  | '0' :: rest => behindZeros '0' rest
  | c :: rest => if ('1' ≤ c ∧ c ≤ '9') ∨ c = '-' then some (c :: rest) else none
  | [] => none
where
  behindZeros (last : Char) : List Char → Option (List Char)
    | [] => some [last]
    | c :: rest =>
        if c = '0' ∨ c = '_' then behindZeros c rest
        else if ('1' ≤ c ∧ c ≤ '9') ∨ c = '-' then some (c :: rest)
        else if c = '.' then some (last :: c :: rest)
        else none

def withoutFraction (text : List Char) : List Char :=
  match Text.splitAtMark (· = '.') text with
  | (whole, some zeros) => if !zeros.isEmpty && zeros.all (· = '0') then whole else text
  | (_, none) => text

def hasDoubleLine : List Char → Bool
  | '_' :: '_' :: _ => true
  | _ :: rest => hasDoubleLine rest
  | [] => false

-- Drops single lines inside a numeral; where any other line stands, all of them stay.
def withoutLines (text : List Char) : List Char :=
  if text.head? = some '_' ∨ text.getLast? = some '_' ∨ hasDoubleLine text then text
  else text.filter (· != '_')

def plainNumeral? (text : List Char) : Option (List Char) :=
  match Text.trim text with
  | '-' :: rest => (withoutZeros? rest).map fun rest => withoutLines (withoutFraction ('-' :: rest))
  | '+' :: '-' :: _ => none
  | '+' :: rest => (withoutZeros? rest).map fun rest => withoutLines (withoutFraction rest)
  | text => (withoutZeros? text).map fun rest => withoutLines (withoutFraction rest)

-- Reads digits without zeros in front. Too many of them, a sign not counted, are a fault of their
-- own, which is found before what stands behind them.
def integerOfDigits (negative : Bool) (text : List Char) : Checked Int :=
  let digits := text.takeWhile Char.isDigit
  if digits.isEmpty ∨ (digits.head? = some '0' ∧ text != ['0']) then .fail .intParsing
  else if Numeral.maxDigits < digits.length then .fail .intParsingSize
  else if digits.length < text.length then .fail .intParsing
  else .ok (Numeral.withSign negative (Numeral.valueOf 10 (digits.map fun c => c.toNat - 48)))

def integerOfText (text : List Char) : Checked Int :=
  match plainNumeral? text with
  | none => .fail .intParsing
  | some ('-' :: rest) => integerOfDigits true rest
  | some rest => integerOfDigits false rest

def integer (v : Value) : Checked Int :=
  match v with
  | .int i => .ok i
  | .bool b => .ok (if b then 1 else 0)
  | .uid n => integerOfReal (Binary64.ofRatio false n 1)
  | .real x => integerOfReal x
  | .text s => integerOfText s.toList
  | .data bytes =>
      match Text.Utf8.decode? bytes with
      | some chars => integerOfText chars
      | none => .fail .intParsing
  | .brokenText _ => .fail .stringUnicode
  | _ => .fail .intType

end TestRun.Schema
