/-! Base64, read leniently: characters outside the alphabet are passed over. -/

set_option autoImplicit false

namespace TestRun.Base64

def value? (c : Char) : Option Nat :=
  if 'A' ≤ c ∧ c ≤ 'Z' then some (c.toNat - 65)
  else if 'a' ≤ c ∧ c ≤ 'z' then some (c.toNat - 71)
  else if '0' ≤ c ∧ c ≤ '9' then some (c.toNat + 4)
  else if c = '+' then some 62
  else if c = '/' then some 63
  else none

def letter (n : Nat) : Char :=
  if n < 26 then Char.ofNat (n + 65)
  else if n < 52 then Char.ofNat (n + 71)
  else if n < 62 then Char.ofNat (n - 4)
  else if n = 62 then '+'
  else '/'

-- A group of four letters in the making: how many were read, how many pads since the last one, and
-- the bits that do not make up a byte yet.
structure Group where
  letters : Nat
  pads : Nat
  bits : Nat
  deriving DecidableEq, Repr

def Group.empty : Group := ⟨0, 0, 0⟩

def Group.push (g : Group) (n : Nat) : Group × Option UInt8 :=
  match g.letters with
  | 0 => (⟨1, 0, n⟩, none)
  | 1 => (⟨2, 0, n % 16⟩, some (UInt8.ofNat (g.bits * 4 + n / 16)))
  | 2 => (⟨3, 0, n % 4⟩, some (UInt8.ofNat (g.bits * 16 + n / 4)))
  | _ => (⟨0, 0, 0⟩, some (UInt8.ofNat (g.bits * 64 + n)))

def decodeFrom? (g : Group) (made : List UInt8) : List Char → Option (List UInt8)
  | [] => if g.letters = 0 then some made.reverse else none
  | c :: rest =>
      if c = '=' then
        if 2 ≤ g.letters then
          if 4 ≤ g.letters + g.pads + 1 then some made.reverse
          else decodeFrom? { g with pads := g.pads + 1 } made rest
        else decodeFrom? g made rest
      else
        match value? c with
        | none => decodeFrom? g made rest
        | some n =>
            let (g, byte) := g.push n
            decodeFrom? g (byte.toList ++ made) rest

def decode? (text : List Char) : Option (List UInt8) := decodeFrom? .empty [] text

def encode : List UInt8 → List Char
  | [] => []
  | [a] => [letter (a.toNat / 4), letter (a.toNat % 4 * 16), '=', '=']
  | [a, b] =>
      [letter (a.toNat / 4), letter (a.toNat % 4 * 16 + b.toNat / 16), letter (b.toNat % 16 * 4), '=']
  | a :: b :: c :: rest =>
      letter (a.toNat / 4) :: letter (a.toNat % 4 * 16 + b.toNat / 16) ::
        letter (b.toNat % 16 * 4 + c.toNat / 64) :: letter (c.toNat % 64) :: encode rest

end TestRun.Base64
