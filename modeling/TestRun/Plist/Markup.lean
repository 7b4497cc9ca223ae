import TestRun.Base64
import TestRun.Number.Numeral
import TestRun.Plist.Fault
import TestRun.Value
import TestRun.Xml.Machine

/-! Property lists in markup. -/

set_option autoImplicit false

namespace TestRun.Plist

inductive Slot where
  | root
  | item
  | entry (key : String)
  deriving DecidableEq, Repr

inductive Container where
  | array (last_first : List Value)
  | dict (entries : Entries)

def Container.value : Container → Value
  | .array items => .array items.reverse
  | .dict entries => .dict entries

def Container.isDict : Container → Bool
  | .dict _ => true
  | .array _ => false

def Container.add (slot : Slot) (v : Value) : Container → Container
  | .array items => .array (v :: items)
  | .dict entries =>
      match slot with
      | .entry key => .dict (Entries.put (.text key) v entries)
      | _ => .dict entries

structure Frame where
  slot : Slot
  container : Container

-- The open containers, innermost first; the key that waits for its value; the last value outside
-- all containers; and the characters since the last tag that counts, last first.
structure Builder where
  frames : List Frame
  key : Option String
  root : Option Value
  text : List Char

namespace Builder

def empty : Builder := ⟨[], none, none, []⟩

def waiting? (b : Builder) : Option String := b.key.filter (!·.isEmpty)

def slot (b : Builder) (line : Nat) : Except Fault (Slot × Builder) :=
  match b.key, b.frames with
  | some _, [] => .error .outsideContainer
  | some key, frame :: _ =>
      if frame.container.isDict then .ok (.entry key, { b with key := none })
      else .error (.unexpectedElement line)
  | none, [] => .ok (.root, b)
  | none, frame :: _ =>
      if frame.container.isDict then .error (.unexpectedElement line) else .ok (.item, b)

def put (b : Builder) (slot : Slot) (v : Value) : Builder :=
  match b.frames with
  | [] => { b with root := some v }
  | frame :: outer => { b with frames := { frame with container := frame.container.add slot v } :: outer }

def add (b : Builder) (line : Nat) (v : Value) : Except Fault Builder := do
  let (slot, b) ← b.slot line
  .ok (b.put slot v)

def openContainer (b : Builder) (line : Nat) (c : Container) : Except Fault Builder := do
  let (slot, b) ← b.slot line
  .ok { b with frames := ⟨slot, c⟩ :: b.frames }

def closeContainer (b : Builder) : Except Fault Builder :=
  match b.frames with
  | [] => .error .outsideContainer
  | frame :: outer => .ok ({ b with frames := outer }.put frame.slot frame.container.value)

def closeDict (b : Builder) (line : Nat) : Except Fault Builder :=
  match b.waiting? with
  | some key => .error (.missingValue key line)
  | none => b.closeContainer

def takeText (b : Builder) : List Char × Builder := (b.text.reverse, { b with text := [] })

def closeKey (b : Builder) (line : Nat) : Except Fault Builder :=
  match b.waiting?, b.frames with
  | some _, _ => .error (.unexpectedKey line)
  | none, [] => .error .outsideContainer
  | none, frame :: _ =>
      if frame.container.isDict then
        let (text, b) := b.takeText
        .ok { b with key := some (String.ofList text) }
      else .error (.unexpectedKey line)

def closeScalar (b : Builder) (line : Nat) (read : List Char → Except Fault Value) : Except Fault Builder := do
  let (text, b) := b.takeText
  let v ← read text
  b.add line v

def readInteger (text : List Char) : Except Fault Value :=
  match Numeral.documentInteger? text with
  | some i => .ok (.int i)
  | none => .error .number

def readReal (text : List Char) : Except Fault Value :=
  match Numeral.real? text with
  | some x => .ok (.real x)
  | none => .error .number

def readData (text : List Char) : Except Fault Value :=
  match Base64.decode? text with
  | some bytes => .ok (.data bytes)
  | none => .error .data

def readDate (text : List Char) : Except Fault Value :=
  match Timestamp.read text with
  | .ok t => .ok (.date t)
  | .error f => .error (.date f)

def readText (text : List Char) : Except Fault Value := .ok (.text (String.ofList text))

def start (b : Builder) (name : String) (line : Nat) : Except Fault Builder :=
  let b := { b with text := [] }
  if name = "dict" then b.openContainer line (.dict [])
  else if name = "array" then b.openContainer line (.array [])
  else .ok b

def finish (b : Builder) (name : String) (line : Nat) : Except Fault Builder :=
  if name = "dict" then b.closeDict line
  else if name = "array" then b.closeContainer
  else if name = "key" then b.closeKey line
  else if name = "true" then b.add line (.bool true)
  else if name = "false" then b.add line (.bool false)
  else if name = "integer" then b.closeScalar line readInteger
  else if name = "real" then b.closeScalar line readReal
  else if name = "string" then b.closeScalar line readText
  else if name = "data" then b.closeScalar line readData
  else if name = "date" then b.closeScalar line readDate
  else .ok b

def faultOf : Xml.Fault → Fault
  | .malformed => .markup
  | .unknownEncoding => .unknownEncoding
  | .multibyteEncoding => .multibyteEncoding
  | .unforgivingEncoding => .unforgivingEncoding
  | .undecodableEncoding => .undecodableEncoding

def step (b : Builder) (e : Xml.Event) : Except Fault Builder :=
  match e with
  | .start name line => b.start (String.ofList name) line
  | .finish name line => b.finish (String.ofList name) line
  | .text c => .ok { b with text := c :: b.text }
  | .entityDeclared => .error .entityDeclared
  | .fault f => .error (faultOf f)

def run (b : Builder) : List Xml.Event → Except Fault Builder
  | [] => .ok b
  | e :: rest =>
      match b.step e with
      | .ok b => b.run rest
      | .error f => .error f

theorem run_append (b : Builder) (left right : List Xml.Event) :
    b.run (left ++ right) = match b.run left with
      | .ok b => b.run right
      | .error f => .error f := by
  induction left generalizing b with
  | nil => rfl
  | cons e rest ih =>
      simp only [List.cons_append, run]
      cases b.step e with
      | ok b => exact ih b
      | error f => rfl

end Builder

def readMarkup (bytes : List UInt8) : Except Fault (Option Value) :=
  match Builder.empty.run (Xml.events bytes) with
  | .ok b => .ok b.root
  | .error f => .error f

end TestRun.Plist
