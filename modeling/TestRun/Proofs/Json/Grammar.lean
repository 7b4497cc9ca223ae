import TestRun.Json.Canonical
import TestRun.Proofs.Number.Decimal

/-! The grammar of JSON without blanks between its parts: which texts are values, and of what shape they are. -/

set_option autoImplicit false

namespace TestRun.Json

open Text (codes)

def Digits (text : List Char) : Prop := text ≠ [] ∧ ∀ c ∈ text, c.isDigit = true

def Whole (text : List Char) : Prop := Digits text ∧ (text.head? = some '0' → text = ['0'])

def Fraction (text : List Char) : Prop := text = [] ∨ ∃ digits, Digits digits ∧ text = '.' :: digits

def Power (text : List Char) : Prop :=
  text = [] ∨ ∃ mark sign digits, (mark = 'e' ∨ mark = 'E') ∧ (sign = [] ∨ sign = ['+'] ∨ sign = ['-']) ∧
    Digits digits ∧ text = mark :: (sign ++ digits)

def Number (text : List Char) : Prop :=
  ∃ sign whole part power, (sign = [] ∨ sign = ['-']) ∧ Whole whole ∧ Fraction part ∧ Power power ∧
    text = sign ++ whole ++ part ++ power

def shortEscapes : List (Char × Nat) :=
  [('"', 34), ('\\', 92), ('/', 47), ('b', 8), ('f', 12), ('n', 10), ('r', 13), ('t', 9)]

-- What stands between quotes, and the text that it means, both by their code points. An escape never means a lone
-- surrogate.
inductive Letters : List Nat → List Nat → Prop where
  | nil : Letters [] []
  | plain (n : Nat) (spelled meant : List Nat) (visible : 32 ≤ n) (noQuote : n ≠ '"'.toNat) (noSlash : n ≠ '\\'.toNat)
      (rest : Letters spelled meant) : Letters (n :: spelled) (n :: meant)
  | short (mark : Char) (n : Nat) (spelled meant : List Nat) (listed : (mark, n) ∈ shortEscapes)
      (rest : Letters spelled meant) : Letters (codes ['\\', mark] ++ spelled) (n :: meant)
  | unit (p q r s : Char) (n : Nat) (spelled meant : List Nat) (code : unit? p q r s = some n) (valid : n.isValidChar)
      (rest : Letters spelled meant) : Letters (codes ['\\', 'u', p, q, r, s] ++ spelled) (n :: meant)
  | pair (p q r s p' q' r' s' : Char) (high low : Nat) (spelled meant : List Nat)
      (first : unit? p q r s = some high) (second : unit? p' q' r' s' = some low)
      (highs : 0xd800 ≤ high ∧ high < 0xdc00) (lows : 0xdc00 ≤ low ∧ low < 0xe000) (rest : Letters spelled meant) :
      Letters (codes ['\\', 'u', p, q, r, s, '\\', 'u', p', q', r', s'] ++ spelled)
        ((0x10000 + (high - 0xd800) * 1024 + (low - 0xdc00)) :: meant)

inductive Tree where
  | atom (text : List Char)
  | text (w : Wording)
  | array (items : List Tree)
  | object (members : List (Wording × Tree))

def oddNumbers : List (List Char) := ["NaN".toList, "Infinity".toList, "-Infinity".toList]

inductive Atom (loose : Bool) : List Char → Prop where
  | null : Atom loose "null".toList
  | no : Atom loose "false".toList
  | yes : Atom loose "true".toList
  | number (text : List Char) (number : Number text) : Atom loose text
  | odd (text : List Char) (allowed : loose = true) (listed : text ∈ oddNumbers) : Atom loose text

structure Member where
  spelled : List Nat
  name : Wording
  text : List Nat
  tree : Tree

def Member.written (m : Member) : List Nat := '"'.toNat :: m.spelled ++ codes ['"', ':'] ++ m.text

inductive Derives (loose : Bool) : List Nat → Tree → Prop where
  | atom (text : List Char) (atom : Atom loose text) : Derives loose (codes text) (.atom text)
  | text (spelled : List Nat) (w : Wording) (letters : Letters spelled w.points) :
      Derives loose ('"'.toNat :: spelled ++ ['"'.toNat]) (.text w)
  | array (parts : List (List Nat × Tree)) (each : ∀ p ∈ parts, Derives loose p.1 p.2) :
      Derives loose ('['.toNat :: [','.toNat].intercalate (parts.map (·.1)) ++ [']'.toNat]) (.array (parts.map (·.2)))
  | object (members : List Member) (names : ∀ m ∈ members, Letters m.spelled m.name.points)
      (each : ∀ m ∈ members, Derives loose m.text m.tree) :
      Derives loose ('\x7b'.toNat :: [','.toNat].intercalate (members.map Member.written) ++ ['\x7d'.toNat])
        (.object (members.map fun m => (m.name, m.tree)))

inductive Increasing : Tree → Prop where
  | atom (text : List Char) : Increasing (.atom text)
  | text (w : Wording) : Increasing (.text w)
  | array (items : List Tree) (each : ∀ t ∈ items, Increasing t) : Increasing (.array items)
  | object (members : List (Wording × Tree)) (order : (members.map fun m => m.1.points).Pairwise (· < ·))
      (each : ∀ m ∈ members, Increasing m.2) : Increasing (.object members)

inductive Pictures : Tree → Value → Prop where
  | null : Pictures (.atom "null".toList) .null
  | bool (b : Bool) : Pictures (.atom (boolText b)) (.bool b)
  | int (i : Int) : Pictures (.atom (Numeral.decimal i)) (.int i)
  | real (x : Binary64) : Pictures (.atom (realText x)) (.real x)
  | text (w : Wording) : Pictures (.text w) (.ofWording w)
  | array (parts : List (Tree × Value)) (each : ∀ p ∈ parts, Pictures p.1 p.2) :
      Pictures (.array (parts.map (·.1))) (.array (parts.map (·.2)))
  | dict (parts : List (Wording × Tree × Value)) (entries : Entries)
      (order : (parts.map fun p => (.ofWording p.1, p.2.2)).Perm entries) (each : ∀ p ∈ parts, Pictures p.2.1 p.2.2) :
      Pictures (.object (parts.map fun p => (p.1, p.2.1))) (.dict entries)

end TestRun.Json
