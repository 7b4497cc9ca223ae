/-! UTF-16 in either byte order. -/

set_option autoImplicit false

namespace TestRun.Text.Utf16

inductive ByteOrder where
  | big
  | little
  deriving DecidableEq, Repr

def unit (order : ByteOrder) (a b : UInt8) : Nat :=
  match order with
  | .big => a.toNat * 256 + b.toNat
  | .little => b.toNat * 256 + a.toNat

def isLeading (u : Nat) : Bool := 0xd800 ≤ u && u ≤ 0xdbff
def isTrailing (u : Nat) : Bool := 0xdc00 ≤ u && u ≤ 0xdfff

def joined (leading trailing : Nat) : Char :=
  Char.ofNat (0x10000 + leading % 1024 * 1024 + trailing % 1024)

def decodeFrom (order : ByteOrder) (strict : Bool) (read : List Char) : List UInt8 → List Char × Bool
  | [] => (read.reverse, true)
  | [_] => (read.reverse, false)
  | a :: b :: rest =>
      let u := unit order a b
      if isTrailing u then (read.reverse, false)
      else if isLeading u then
        match rest with
        | c :: d :: rest =>
            let v := unit order c d
            if strict && !isTrailing v then (read.reverse, false)
            else decodeFrom order strict (joined u v :: read) rest
        | _ => (read.reverse, false)
      else decodeFrom order strict (Char.ofNat u :: read) rest

def decodePrefix (order : ByteOrder) (bytes : List UInt8) : List Char × Bool :=
  decodeFrom order false [] bytes

def decode? (order : ByteOrder) (bytes : List UInt8) : Option (List Char) :=
  match decodeFrom order true [] bytes with
  | (chars, true) => some chars
  | (_, false) => none

end TestRun.Text.Utf16
