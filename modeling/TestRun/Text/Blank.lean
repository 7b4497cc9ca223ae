/-! Blank characters. -/

set_option autoImplicit false

namespace TestRun.Text

def isAsciiBlankCode (n : Nat) : Bool := n = 32 || (9 ≤ n && n ≤ 13)

def isBlank (c : Char) : Bool :=
  isAsciiBlankCode c.toNat || c.toNat = 0x85 || c.toNat = 0xa0 || c.toNat = 0x1680 ||
    (0x2000 ≤ c.toNat && c.toNat ≤ 0x200a) || c.toNat = 0x2028 || c.toNat = 0x2029 ||
    c.toNat = 0x202f || c.toNat = 0x205f || c.toNat = 0x3000

def trimEnd (text : List Char) : List Char := (text.reverse.dropWhile isBlank).reverse

def trim (text : List Char) : List Char := trimEnd (text.dropWhile isBlank)

end TestRun.Text
