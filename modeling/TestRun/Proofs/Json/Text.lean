import TestRun.Json.Text

/-! Quoted text reads back as what was quoted, whatever stands behind it. -/

set_option autoImplicit false

namespace TestRun.Json

open Text (codes)

theorem control_digits : ∀ n < 32,
    Text.hexDigits 4 n = ['0', '0', Text.hexDigit (n / 16), Text.hexDigit (n % 16)] ∧
      unit? '0' '0' (Text.hexDigit (n / 16)) (Text.hexDigit (n % 16)) = some n := by
  decide

def spelled (c : Char) : List Char := (escape? c.toNat).getD [c]

def quotedChars (text : List Char) : List Char := '"' :: text.flatMap spelled ++ ['"']

theorem escape_char (c : Char) : escape c.toNat = codes (spelled c) := by
  rw [escape, spelled]
  cases escape? c.toNat <;> rfl

theorem quoted_chars (text : List Char) : quoted (codes text) = codes (quotedChars text) := by
  have inner : (codes text).flatMap escape = codes (text.flatMap spelled) := by
    induction text with
    | nil => rfl
    | cons c rest ih =>
        change escape c.toNat ++ (codes rest).flatMap escape = _
        rw [escape_char, ih, List.flatMap_cons, codes, codes, codes, List.map_append]
  rw [quoted, inner, quotedChars, codes, codes, List.map_append]
  rfl

inductive Escaped (n : Nat) : Option (List Char) → Prop where
  | plain (visible : 32 ≤ n) (mark : n ≠ '"'.toNat) (slash : n ≠ '\\'.toNat) : Escaped n none
  | short (c : Char) (listed : escaped? c = some n) (letter : c ≠ 'u') : Escaped n (some ['\\', c])
  | unit (p q r s : Char) (control : n < 32) (code : unit? p q r s = some n) : Escaped n (some ['\\', 'u', p, q, r, s])

theorem escape_escaped (n : Nat) : Escaped n (escape? n) := by
  rw [escape?]
  split
  · next same => exact .short '"' (by rw [same]; rfl) (by decide)
  split
  · next same => exact .short '\\' (by rw [same]; rfl) (by decide)
  split
  · next same => exact .short 'n' (by rw [same]; rfl) (by decide)
  split
  · next same => exact .short 'r' (by rw [same]; rfl) (by decide)
  split
  · next same => exact .short 't' (by rw [same]; rfl) (by decide)
  split
  · next same => exact .short 'b' (by rw [same]; rfl) (by decide)
  split
  · next same => exact .short 'f' (by rw [same]; rfl) (by decide)
  split
  · next control =>
      obtain ⟨digits, unit⟩ := control_digits n control
      rw [digits]
      exact .unit _ _ _ _ control unit
  · next mark slash _ _ _ _ _ control => exact .plain (Nat.le_of_not_lt control) mark slash

theorem unquote_char (c : Char) (read : List Nat) (rest : List Char) :
    unquoteFrom? read (spelled c ++ rest) = unquoteFrom? (c.toNat :: read) rest := by
  have escaped := escape_escaped c.toNat
  rw [spelled]
  generalize escape? c.toNat = spelling at escaped ⊢
  cases escaped with
  | plain visible mark slash =>
      rw [Option.getD_none, List.singleton_append, unquoteFrom?, if_neg (Nat.not_lt.mpr visible)]
      · exact fun same => mark (congrArg Char.toNat same)
      · exact fun _ _ _ _ _ same => absurd (congrArg Char.toNat same) slash
      · exact fun _ _ same => absurd (congrArg Char.toNat same) slash
  | short mark listed letter =>
      change unquoteFrom? read ('\\' :: mark :: rest) = _
      rw [unquoteFrom?, listed]
      exact fun _ _ _ _ _ same => absurd same letter
  | unit p q r s _ code =>
      change unquoteFrom? read ('\\' :: 'u' :: p :: q :: r :: s :: rest) = _
      rw [unquoteFrom?, code]

theorem unquote_text (text : List Char) (read : List Nat) (rest : List Char) :
    unquoteFrom? read (text.flatMap spelled ++ '"' :: rest) = some (read.reverse ++ codes text, rest) := by
  induction text generalizing read with
  | nil => simp [unquoteFrom?, codes]
  | cons c others ih => rw [List.flatMap_cons, List.append_assoc, unquote_char, ih]; simp [codes]

theorem join_none (points : List Nat) (scalar : ∀ n ∈ points, ¬ (0xd800 ≤ n ∧ n < 0xe000)) :
    joinPairs points = points := by
  induction points with
  | nil => rfl
  | cons u rest ih =>
      cases rest with
      | nil => rfl
      | cons v others =>
          have first := scalar u (by simp)
          have apart : ¬ (0xd800 ≤ u ∧ u < 0xdc00 ∧ 0xdc00 ≤ v ∧ v < 0xe000) := by omega
          rw [joinPairs, if_neg apart, ih fun n member => scalar n (List.mem_cons_of_mem _ member)]

theorem char_scalar (c : Char) : ¬ (0xd800 ≤ c.toNat ∧ c.toNat < 0xe000) := by
  have valid : c.toNat < 0xd800 ∨ (0xdfff < c.toNat ∧ c.toNat < 0x110000) := c.valid
  omega

theorem of_points_chars (text : List Char) :
    Value.ofWording (.ofPoints (joinPairs (codes text))) = .text (String.ofList text) := by
  have scalar : ∀ n ∈ codes text, ¬ (0xd800 ≤ n ∧ n < 0xe000) := by
    intro n member
    obtain ⟨c, -, rfl⟩ := List.mem_map.mp member
    exact char_scalar c
  rw [join_none _ scalar, Wording.ofPoints_codes]
  rfl

theorem unquote_quoted (text rest : List Char) :
    unquote? (text.flatMap spelled ++ '"' :: rest) = some (.text (String.ofList text), rest) := by
  rw [unquote?, unquote_text, List.reverse_nil, List.nil_append, Option.map_some]
  exact congrArg (fun v => some (v, rest)) (of_points_chars text)

end TestRun.Json
