import TestRun.Number.Numeral
import TestRun.Text.Utf8
import TestRun.Value.Literal

/-! Values made fit for JSON. -/

set_option autoImplicit false

namespace TestRun.Json

inductive Unfit where
  | notText
  | identifier
  | circular
  | tooDeep
  | integerTooLong
  deriving DecidableEq, Repr

def dataText (bytes : List UInt8) : Except Unfit String :=
  match Text.Utf8.decode? bytes with
  | some chars => .ok (String.ofList chars)
  | none => .error .notText

def portableKey : Value → Except Unfit String
  | .null => .ok "None"
  | .bool b => .ok (if b then "true" else "false")
  | .int i =>
      match Numeral.integerText? i with
      | some digits => .ok (String.ofList digits)
      | none => .error .integerTooLong
  | .real x => .ok (if x.isFinite then Value.realText x else "None")
  | .text s => .ok s
  | .data bytes => dataText bytes
  | .date t => .ok t.isoText
  | .uid _ => .error .identifier
  | .enclosing => .error .circular
  | _ => .error .notText

def maxDepth : Nat := 255

mutual

def portableWithin : (depth : Nat) → Value → Except Unfit Value
  | _, .enclosing => .error .circular
  | 0, _ => .error .tooDeep
  | _ + 1, .null => .ok .null
  | _ + 1, .bool b => .ok (.bool b)
  | _ + 1, .int i => .ok (.int i)
  | _ + 1, .real x => .ok (if x.isFinite then .real x else .null)
  | _ + 1, .text s => .ok (.text s)
  | _ + 1, .brokenText points => .ok (.brokenText points)
  | _ + 1, .data bytes => (dataText bytes).map .text
  | _ + 1, .date t => .ok (.text t.isoText)
  | _ + 1, .uid _ => .error .identifier
  | depth + 1, .array items => (portableItems depth items).map .array
  | depth + 1, .dict entries => (portableEntries depth [] entries).map .dict

def portableItems : (depth : Nat) → List Value → Except Unfit (List Value)
  | _, [] => .ok []
  | depth, v :: rest => do
      let v ← portableWithin depth v
      let others ← portableItems depth rest
      .ok (v :: others)

def portableEntries : (depth : Nat) → Entries → List (Value × Value) → Except Unfit Entries
  | _, made, [] => .ok made
  | depth, made, (key, v) :: rest => do
      let key ← portableKey key
      let v ← portableWithin depth v
      portableEntries depth (Entries.put (.text key) v made) rest

end

def portable (v : Value) : Except Unfit Value := portableWithin maxDepth v

end TestRun.Json
