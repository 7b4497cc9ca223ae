/-! UTF-8. -/

set_option autoImplicit false

namespace TestRun.Text.Utf8

def isTail (b : UInt8) : Bool := 0x80 ≤ b && b ≤ 0xbf

-- The two-byte form, which starts above the overlong 0xc0 and 0xc1.
def two? (a b : UInt8) : Option Char :=
  if 0xc2 ≤ a && a ≤ 0xdf && isTail b then
    some (Char.ofNat ((a.toNat - 0xc0) * 64 + (b.toNat - 0x80)))
  else none

def three? (a b c : UInt8) : Option Char :=
  if 0xe0 ≤ a && a ≤ 0xef && isTail b && isTail c &&
      (a != 0xe0 || 0xa0 ≤ b) && (a != 0xed || b ≤ 0x9f) then
    some (Char.ofNat ((a.toNat - 0xe0) * 4096 + (b.toNat - 0x80) * 64 + (c.toNat - 0x80)))
  else none

def four? (a b c d : UInt8) : Option Char :=
  if 0xf0 ≤ a && a ≤ 0xf4 && isTail b && isTail c && isTail d &&
      (a != 0xf0 || 0x90 ≤ b) && (a != 0xf4 || b ≤ 0x8f) then
    some (Char.ofNat ((a.toNat - 0xf0) * 262144 + (b.toNat - 0x80) * 4096 +
      (c.toNat - 0x80) * 64 + (d.toNat - 0x80)))
  else none

def decodeFrom (read : List Char) : List UInt8 → List Char × Bool
  | [] => (read.reverse, true)
  | a :: afterA =>
      if a < 0x80 then decodeFrom (Char.ofNat a.toNat :: read) afterA
      else
        match afterA with
        | [] => (read.reverse, false)
        | b :: afterB =>
            match two? a b with
            | some char => decodeFrom (char :: read) afterB
            | none =>
                match afterB with
                | [] => (read.reverse, false)
                | c :: afterC =>
                    match three? a b c with
                    | some char => decodeFrom (char :: read) afterC
                    | none =>
                        match afterC with
                        | [] => (read.reverse, false)
                        | d :: afterD =>
                            match four? a b c d with
                            | some char => decodeFrom (char :: read) afterD
                            | none => (read.reverse, false)

def decodePrefix (bytes : List UInt8) : List Char × Bool := decodeFrom [] bytes

def decode? (bytes : List UInt8) : Option (List Char) :=
  match decodePrefix bytes with
  | (chars, true) => some chars
  | (_, false) => none

def encode (chars : List Char) : List UInt8 := chars.flatMap String.utf8EncodeChar

theorem encode_append (left right : List Char) : encode (left ++ right) = encode left ++ encode right := by
  simp [encode]

end TestRun.Text.Utf8
