import TestRun.Text.Digit
import TestRun.Text.Utf8

/-! Text by its code points. JSON can name surrogates that are no part of a pair, and text with such has no bytes. -/

set_option autoImplicit false

namespace TestRun

def Text.codes (text : List Char) : List Nat := text.map Char.toNat

inductive Wording where
  | text (s : String)
  -- A point of it is no character.
  | broken (points : List Nat)
  deriving DecidableEq, Repr

namespace Wording

instance : Coe String Wording := ⟨text⟩

def points : Wording → List Nat
  | .text s => Text.codes s.toList
  | .broken points => points

def ofPoints (points : List Nat) : Wording :=
  if ∀ n ∈ points, n.isValidChar then .text (String.ofList (points.map Char.ofNat)) else .broken points

def append : Wording → Wording → Wording
  | .text s, .text t => .text (s ++ t)
  | a, b => .broken (a.points ++ b.points)

instance : Append Wording := ⟨append⟩

def isSurrogate (n : Nat) : Bool := 0xd800 ≤ n && n < 0xe000

structure Unencodable where
  front : Nat
  run : List Nat
  deriving DecidableEq, Repr

def Unencodable.message (u : Unencodable) : String :=
  let place := match u.run with
    | [n] => "character '\\u" ++ String.ofList (Text.hexDigits 4 n) ++ "' in position " ++ toString u.front
    | _ => "characters in position " ++ toString u.front ++ "-" ++ toString (u.front + u.run.length - 1)
  "'utf-8' codec can't encode " ++ place ++ ": surrogates not allowed"

def encode : Wording → Except Unencodable (List UInt8)
  | .text s => .ok (Text.Utf8.encode s.toList)
  | .broken points =>
      let front := points.takeWhile (!isSurrogate ·)
      .error ⟨front.length, (points.drop front.length).takeWhile isSurrogate⟩

theorem code_of_char (n : Nat) (valid : n.isValidChar) : (Char.ofNat n).toNat = n := by
  rw [Char.ofNat, dif_pos valid]
  rfl

theorem chars_of_codes (text : List Char) : (Text.codes text).map Char.ofNat = text := by
  rw [Text.codes, List.map_map]
  exact (List.map_congr_left fun c _ => Char.ofNat_toNat c).trans (List.map_id text)

@[simp] theorem ofPoints_codes (text : List Char) : ofPoints (Text.codes text) = .text (String.ofList text) := by
  have valid : ∀ n ∈ Text.codes text, n.isValidChar := by
    intro n member
    obtain ⟨c, -, rfl⟩ := List.mem_map.mp member
    exact c.valid
  rw [ofPoints, if_pos valid, chars_of_codes]

@[simp] theorem points_ofPoints (points : List Nat) : (ofPoints points).points = points := by
  by_cases valid : ∀ n ∈ points, n.isValidChar
  · rw [ofPoints, if_pos valid, Wording.points, String.toList_ofList, Text.codes, List.map_map]
    refine (List.map_congr_left fun n member => ?_).trans (List.map_id points)
    exact code_of_char n (valid n member)
  · rw [ofPoints, if_neg valid, Wording.points]

@[simp] theorem text_append (s t : String) : text s ++ text t = text (s ++ t) := rfl

@[simp] theorem points_append (a b : Wording) : (a ++ b).points = a.points ++ b.points := by
  cases a with
  | broken front => rfl
  | text s =>
      cases b with
      | broken back => rfl
      | text t => simp [points, Text.codes]

end Wording
end TestRun
