import TestRun.Text.Digit
import TestRun.Xml.Name

/-! References: an ampersand, a number or a name, a semicolon. -/

set_option autoImplicit false

namespace TestRun.Xml

inductive Reference where
  | opened
  | name (read : List Char)
  | hash
  | decimal (n : Nat)
  | hexOpened
  | hex (n : Nat)
  deriving DecidableEq, Repr

namespace Reference

inductive Step where
  | more (r : Reference)
  | char (c : Char)
  | unknown
  | bad
  deriving DecidableEq, Repr

def charOf (n : Nat) : Step :=
  if (0xd800 ≤ n ∧ n < 0xe000) ∨ 0x110000 ≤ n then .bad
  else if isAllowed (Char.ofNat n) then .char (Char.ofNat n)
  else .bad

def predefined? (name : List Char) : Option Char :=
  if name = ['a', 'm', 'p'] then some '&'
  else if name = ['l', 't'] then some '<'
  else if name = ['g', 't'] then some '>'
  else if name = ['q', 'u', 'o', 't'] then some '"'
  else if name = ['a', 'p', 'o', 's'] then some '\''
  else none

def grow (base n d : Nat) (next : Nat → Reference) : Step :=
  if n * base + d < 0x110000 then .more (next (n * base + d)) else .bad

def step (l : Lettering) (r : Reference) (c : Char) : Step :=
  match r with
  | .opened =>
      if c = '#' then .more .hash
      else if isNameStart l c then .more (.name [c])
      else .bad
  | .name read =>
      if c = ';' then
        match predefined? read.reverse with
        | some c => .char c
        | none => .unknown
      else if isNameChar l c then .more (.name (c :: read))
      else .bad
  | .hash =>
      if c = 'x' then .more .hexOpened
      else if c.isDigit then .more (.decimal (c.toNat - 48))
      else .bad
  | .decimal n =>
      if c = ';' then charOf n
      else if c.isDigit then grow 10 n (c.toNat - 48) .decimal
      else .bad
  | .hexOpened =>
      match Text.hexValue? c with
      | some d => .more (.hex d)
      | none => .bad
  | .hex n =>
      if c = ';' then charOf n
      else
        match Text.hexValue? c with
        | some d => grow 16 n d .hex
        | none => .bad

end Reference

def soundReferences (l : Lettering) (lenient : Bool) (text : List Char) : Bool :=
  let rec go (r : Option Reference) : List Char → Bool
    | [] => r.isNone
    | c :: rest =>
        match r with
        | none => if c = '&' then go (some .opened) rest else go none rest
        | some r =>
            match r.step l c with
            | .more r => go (some r) rest
            | .char _ => go none rest
            | .unknown => lenient && go none rest
            | .bad => false
  go none text

end TestRun.Xml
