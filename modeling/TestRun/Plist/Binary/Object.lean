import TestRun.Plist.Binary.Layout
import TestRun.Text.Utf16
import TestRun.Value

/-! The objects of a binary property list. -/

set_option autoImplicit false

namespace TestRun.Plist.Binary

def size? (bytes : Array UInt8) (place low : Nat) : Option (Nat × Nat) :=
  if low = 15 then do
    let width := Nat.pow 2 ((← bytes[place]?).toNat % 4)
    let size ← slice? bytes (place + 1) width
    some (bigEndian size, place + 1 + width)
  else some (low, place)

def asciiText? (bytes : List UInt8) : Option Value :=
  if bytes.all (· < 0x80) then some (.text (String.ofList (bytes.map fun b => Char.ofNat b.toNat)))
  else none

def wideText? (bytes : List UInt8) : Option Value :=
  (Text.Utf16.decode? .big bytes).map fun chars => .text (String.ofList chars)

-- An object that refers to no other one. Integers and identifiers may be cut short by the end.
def scalar? (bytes : Array UInt8) (place marker : Nat) : Option Value :=
  let (high, low) := (marker / 16, marker % 16)
  if marker = 0x00 then some .null
  else if marker = 0x08 then some (.bool false)
  else if marker = 0x09 then some (.bool true)
  else if marker = 0x0f then some (.data [])
  else if high = 1 then
    let body := upTo bytes place (Nat.pow 2 low)
    some (.int (if low < 3 then (bigEndian body : Int) else signed body))
  else if marker = 0x22 then
    (slice? bytes place 4).map fun body => .real (Binary64.ofSingleBits (bigEndian body))
  else if marker = 0x23 then (slice? bytes place 8).map fun body => .real (Binary64.ofBytes body)
  else if marker = 0x33 then do
    let t ← Timestamp.ofSeconds? (Binary64.ofBytes (← slice? bytes place 8))
    some (.date t)
  else if high = 4 then do
    let (size, place) ← size? bytes place low
    (slice? bytes place size).map .data
  else if high = 5 then do
    let (size, place) ← size? bytes place low
    asciiText? (← slice? bytes place size)
  else if high = 6 then do
    let (size, place) ← size? bytes place low
    wideText? (← slice? bytes place (2 * size))
  else if high = 8 then
    let n := bigEndian (upTo bytes place (low + 1))
    if n < Nat.pow 2 64 then some (.uid n) else none
  else none

structure Slot where
  key : Value
  keyRef : Nat
  value : Nat

-- Whether two entries have one key. An object is the same key as itself, whatever it is worth.
def Slot.sameKey (a b : Slot) : Bool := a.keyRef == b.keyRef || a.key.sameKey b.key

def Slot.put (slot : Slot) : List Slot → List Slot
  | [] => [slot]
  | s :: rest => if s.sameKey slot then { s with value := slot.value } :: rest else s :: put slot rest

inductive Object where
  | scalar (v : Value)
  | array (items : List Nat)
  -- `values` are the values of all entries, also of those that a later one replaced.
  | dict (slots : List Slot) (values : List Nat)

def Object.parts : Object → List Nat
  | .scalar _ => []
  | .array items => items
  | .dict _ values => values

namespace Layout

def start? (l : Layout) (ref : Nat) : Option (Nat × Nat) := do
  let place ← l.offsets[ref]?
  let marker ← l.bytes[place]?
  some (place + 1, marker.toNat)

def key? (l : Layout) (ref : Nat) : Option Value := do
  let (place, marker) ← l.start? ref
  scalar? l.bytes place marker

def slots? (l : Layout) : (keys values : List Nat) → List Slot → Option (List Slot)
  | keyRef :: keys, value :: values, made => do
      let key ← l.key? keyRef
      l.slots? keys values (Slot.put ⟨key, keyRef, value⟩ made)
  | _, _, made => some made

def object? (l : Layout) (ref : Nat) : Option Object := do
  let (place, marker) ← l.start? ref
  let (high, low) := (marker / 16, marker % 16)
  if high = 0xa then do
    let (size, place) ← size? l.bytes place low
    let items ← table? l.bytes place size l.refWidth
    some (.array items)
  else if high = 0xd then do
    let (size, place) ← size? l.bytes place low
    let keys ← table? l.bytes place size l.refWidth
    let values ← table? l.bytes (place + size * l.refWidth) size l.refWidth
    let slots ← l.slots? keys values []
    some (.dict slots values)
  else (scalar? l.bytes place marker).map .scalar

end Layout
end TestRun.Plist.Binary
