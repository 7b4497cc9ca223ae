import TestRun.Json.Text
import TestRun.Number.Numeral
import TestRun.Number.Shortest
import TestRun.Value.Order

/-! The canonical JSON text of a value: no blanks, and the keys of every object in their order. -/

set_option autoImplicit false

namespace TestRun.Json

inductive WriteFault where
  | unwritable
  | circular
  | integerTooLong
  deriving DecidableEq, Repr

abbrev Written := Except WriteFault (List Nat)

def insertDescending {α : Type} (less : α → α → Bool) (a : α) : List α → List α
  | [] => [a]
  | b :: rest => if less a b then b :: insertDescending less a rest else a :: b :: rest

def sorted {α : Type} (less : α → α → Bool) (items : List α) : List α :=
  (items.foldl (fun made a => insertDescending less a made) []).reverse

def integerText (i : Int) : Except WriteFault (List Char) :=
  match Numeral.integerText? i with
  | some digits => .ok digits
  | none => .error .integerTooLong

def realText (x : Binary64) : List Char :=
  if x.isNaN then "NaN".toList
  else if x.isFinite then Shortest.finiteText x
  else if x.isNegative then "-Infinity".toList
  else "Infinity".toList

def boolText (b : Bool) : List Char := if b then "true".toList else "false".toList

def keyPoints : Value → Written
  | .null => .ok (Text.codes "null".toList)
  | .bool b => .ok (Text.codes (boolText b))
  | .int i => (integerText i).map Text.codes
  | .real x => .ok (Text.codes (realText x))
  | .text s => .ok (Text.codes s.toList)
  | .brokenText points => .ok points
  | _ => .error .unwritable

def separated {α : Type} (comma : α) : List (List α) → List α
  | [] => []
  | [text] => text
  | text :: rest => text ++ comma :: separated comma rest

def member (entry : Value × Written) : Written := do
  let key ← keyPoints entry.1
  let value ← entry.2
  .ok (quoted key ++ ':'.toNat :: value)

def array (items : List Written) : Written := do
  let texts ← items.mapM id
  .ok ('['.toNat :: separated ','.toNat texts ++ [']'.toNat])

def object (entries : List (Value × Written)) : Written :=
  if Value.areOrdered (entries.map (·.1)) then do
    let texts ← (sorted (fun a b => Value.keyLess a.1 b.1) entries).mapM member
    .ok ('\x7b'.toNat :: separated ','.toNat texts ++ ['\x7d'.toNat])
  else .error .unwritable

mutual

def write : Value → Written
  | .null => .ok (Text.codes "null".toList)
  | .bool b => .ok (Text.codes (boolText b))
  | .int i => (integerText i).map Text.codes
  | .real x => .ok (Text.codes (realText x))
  | .text s => .ok (quoted (Text.codes s.toList))
  | .brokenText points => .ok (quoted points)
  | .array items => array (writeItems items)
  | .dict entries => object (writeEntries entries)
  | .data _ => .error .unwritable
  | .date _ => .error .unwritable
  | .uid _ => .error .unwritable
  | .enclosing => .error .circular

def writeItems : List Value → List Written
  | [] => []
  | v :: rest => write v :: writeItems rest

def writeEntries : List (Value × Value) → List (Value × Written)
  | [] => []
  | (key, v) :: rest => (key, write v) :: writeEntries rest

end

def canonical (v : Value) : Except WriteFault Wording := (write v).map Wording.ofPoints

theorem separated_cons {α : Type} (comma : α) (text : List α) (rest : List (List α)) (h : rest ≠ []) :
    separated comma (text :: rest) = text ++ comma :: separated comma rest := by
  cases rest with
  | nil => exact absurd rfl h
  | cons next rest => rfl

theorem writeItems_eq_map (items : List Value) : writeItems items = items.map write := by
  induction items with
  | nil => simp [writeItems]
  | cons v rest ih => simp [writeItems, ih]

theorem writeEntries_eq_map (entries : List (Value × Value)) :
    writeEntries entries = entries.map fun e => (e.1, write e.2) := by
  induction entries with
  | nil => simp [writeEntries]
  | cons e rest ih => simp [writeEntries, ih]

end TestRun.Json
