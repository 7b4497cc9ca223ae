import TestRun.Json.Text
import TestRun.Number.Numeral

/-! Reading JSON. -/

set_option autoImplicit false

namespace TestRun.Json

inductive ReadFault where
  | malformed
  | integerTooLong (digits : Nat)
  deriving DecidableEq, Repr

def isSpace (c : Char) : Bool := c = ' ' || c = '\t' || c = '\n' || c = '\r'

def skip (text : List Char) : List Char := text.dropWhile isSpace

def digits (text : List Char) : List Char × List Char :=
  (text.takeWhile Char.isDigit, text.dropWhile Char.isDigit)

def whole? (text : List Char) : Option (List Char × List Char) :=
  match text with
  | '0' :: rest => some (['0'], rest)
  | _ => if (digits text).1.isEmpty then none else some (digits text)

def fraction (text : List Char) : List Char × List Char :=
  match text with
  | '.' :: rest => if (digits rest).1.isEmpty then ([], text) else ('.' :: (digits rest).1, (digits rest).2)
  | _ => ([], text)

def signedDigits (text : List Char) : List Char × List Char :=
  match text with
  | '+' :: rest => ('+' :: (digits rest).1, (digits rest).2)
  | '-' :: rest => ('-' :: (digits rest).1, (digits rest).2)
  | _ => digits text

def power (text : List Char) : List Char × List Char :=
  match text with
  | c :: rest =>
      if (c = 'e' || c = 'E') && (signedDigits rest).1.any Char.isDigit then
        ('e' :: (signedDigits rest).1, (signedDigits rest).2)
      else ([], text)
  | [] => ([], text)

def integer (negative : Bool) (whole : List Char) : Except ReadFault Value :=
  if Numeral.maxDigits < whole.length then .error (.integerTooLong whole.length)
  else .ok (.int (Numeral.withSign negative (Numeral.valueOf 10 (whole.map fun c => c.toNat - 48))))

def real (text : List Char) : Except ReadFault Value :=
  match Numeral.real? text with
  | some x => .ok (.real x)
  | none => .error .malformed

def unsigned (negative : Bool) (text : List Char) : Except ReadFault (Value × List Char) :=
  match whole? text with
  | none => .error .malformed
  | some (whole, rest) => do
      let (part, rest) := fraction rest
      let (scale, rest) := power rest
      if part.isEmpty && scale.isEmpty then
        let v ← integer negative whole
        .ok (v, rest)
      else
        let v ← real ((if negative then ['-'] else []) ++ whole ++ part ++ scale)
        .ok (v, rest)

def number (text : List Char) : Except ReadFault (Value × List Char) :=
  match text with
  | '-' :: rest => unsigned true rest
  | _ => unsigned false text

def words : List (List Char × Value) :=
  [("null".toList, .null), ("true".toList, .bool true), ("false".toList, .bool false),
    ("NaN".toList, .real Binary64.nan), ("Infinity".toList, .real (Binary64.infinity false)),
    ("-Infinity".toList, .real (Binary64.infinity true))]

def scalar (text : List Char) : Except ReadFault (Value × List Char) :=
  match words.find? fun word => word.1.isPrefixOf text with
  | some (word, v) => .ok (v, text.drop word.length)
  | none => number text

def textAt (text : List Char) : Except ReadFault (Value × List Char) :=
  match text with
  | '"' :: rest =>
      match unquote? rest with
      | some read => .ok read
      | none => .error .malformed
  | _ => .error .malformed

def name (text : List Char) : Except ReadFault (Value × List Char) := do
  let (key, rest) ← textAt text
  match skip rest with
  | ':' :: rest => .ok (key, skip rest)
  | _ => .error .malformed

mutual

-- Reads a value from the front. `fuel` bounds how often a value or a comma may follow.
def value : (fuel : Nat) → List Char → Except ReadFault (Value × List Char)
  | 0, _ => .error .malformed
  | fuel + 1, text =>
      match text with
      | '"' :: _ => textAt text
      | '[' :: rest =>
          match skip rest with
          | ']' :: rest => .ok (.array [], rest)
          | rest => items fuel [] rest
      | '\x7b' :: rest =>
          match skip rest with
          | '\x7d' :: rest => .ok (.dict [], rest)
          | rest => members fuel [] rest
      | _ => scalar text

def items : (fuel : Nat) → List Value → List Char → Except ReadFault (Value × List Char)
  | 0, _, _ => .error .malformed
  | fuel + 1, read, text => do
      let (v, rest) ← value fuel text
      match skip rest with
      | ']' :: rest => .ok (.array (v :: read).reverse, rest)
      | ',' :: rest => items fuel (v :: read) (skip rest)
      | _ => .error .malformed

def members : (fuel : Nat) → Entries → List Char → Except ReadFault (Value × List Char)
  | 0, _, _ => .error .malformed
  | fuel + 1, read, text => do
      let (key, rest) ← name text
      let (v, rest) ← value fuel rest
      match skip rest with
      | '\x7d' :: rest => .ok (.dict (Entries.put key v read), rest)
      | ',' :: rest => members fuel (Entries.put key v read) (skip rest)
      | _ => .error .malformed

end

def read (text : List Char) : Except ReadFault Value := do
  let (v, rest) ← value (2 * text.length + 2) (skip text)
  if (skip rest).isEmpty then .ok v else .error .malformed

end TestRun.Json
