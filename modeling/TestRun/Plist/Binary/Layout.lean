/-! The bytes of a binary property list: numbers with the highest byte first, tables of them, and the layout that the
last thirty-two bytes describe. -/

set_option autoImplicit false

namespace TestRun.Plist.Binary

def bigEndian (bytes : List UInt8) : Nat := bytes.foldl (fun n b => n * 256 + b.toNat) 0

def signed (bytes : List UInt8) : Int :=
  match bytes with
  | [] => 0
  | first :: _ =>
      if 0x80 ≤ first then (bigEndian bytes : Int) - Nat.pow 256 bytes.length else bigEndian bytes

def upTo (bytes : Array UInt8) (place count : Nat) : List UInt8 :=
  (bytes.extract place (place + min count bytes.size)).toList

def slice? (bytes : Array UInt8) (place count : Nat) : Option (List UInt8) :=
  if place + count ≤ bytes.size then some (bytes.extract place (place + count)).toList
  else if count = 0 then some []
  else none

def numbers (width : Nat) : (count : Nat) → List UInt8 → List Nat
  | 0, _ => []
  | count + 1, bytes => bigEndian (bytes.take width) :: numbers width count (bytes.drop width)

-- A table of `count` numbers; a width of zero makes no table, not even an empty one.
def table? (bytes : Array UInt8) (place count width : Nat) : Option (List Nat) :=
  if width = 0 then none else (slice? bytes place (count * width)).map (numbers width count)

structure Layout where
  bytes : Array UInt8
  offsets : Array Nat
  refWidth : Nat

def layout? (bytes : Array UInt8) : Option (Layout × Nat) :=
  if bytes.size < 32 then none
  else do
    let trailer := (bytes.extract (bytes.size - 32) bytes.size).toList
    let field (start width : Nat) : Nat := bigEndian ((trailer.drop start).take width)
    let offsets ← table? bytes (field 24 8) (field 8 8) (field 6 1)
    some (⟨bytes, offsets.toArray, field 7 1⟩, field 16 8)

end TestRun.Plist.Binary
