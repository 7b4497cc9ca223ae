import Mathlib.Algebra.Group.Int.Defs
import Mathlib.Algebra.Group.Nat.Defs
import TestRun.Number.Numeral

/-! Decimal integers: the shortest spelling of an integer reads back as it, if it is not too long. -/

set_option autoImplicit false

namespace TestRun.Numeral

def decimal (i : Int) : List Char :=
  if i < 0 then '-' :: Nat.toDigits 10 i.natAbs else Nat.toDigits 10 i.natAbs

def Short (i : Int) : Prop := i.natAbs < 10 ^ maxDigits

theorem digit_bounds (c : Char) (digit : c.isDigit = true) : 48 ≤ c.toNat ∧ c.toNat ≤ 57 := by
  have both : (48 : UInt32) ≤ c.val ∧ c.val ≤ 57 := by simpa [Char.isDigit] using digit
  exact ⟨UInt32.le_iff_toNat_le.mp both.1, UInt32.le_iff_toNat_le.mp both.2⟩

theorem digit_value (c : Char) (digit : c.isDigit = true) : Text.digitValue? c = some (c.toNat - 48) := by
  obtain ⟨low, high⟩ := digit_bounds c digit
  have first : (0x30 ≤ c.toNat && c.toNat < 0x30 + 10) = true := by
    simp
    omega
  simp [Text.digitValue?, Text.decimalZeros, List.find?_cons_of_pos, first]

theorem digit_ne_line (c : Char) (digit : c.isDigit = true) : c ≠ '_' := by
  rintro rfl
  cases digit

theorem digit_not_blank (c : Char) (digit : c.isDigit = true) : Text.isBlank c = false := by
  obtain ⟨low, high⟩ := digit_bounds c digit
  simp [Text.isBlank, Text.isAsciiBlankCode]
  omega

theorem grouped_digits (c : Char) (cs : List Char) (digits : ∀ d ∈ c :: cs, d.isDigit = true) :
    grouped? Text.digitValue? (c :: cs) = some ((c :: cs).map fun d => d.toNat - 48) := by
  induction cs generalizing c with
  | nil => simp [grouped?, digit_value c (digits c (by simp))]
  | cons d rest ih =>
      have inner := ih d fun e member => digits e (List.mem_cons_of_mem _ member)
      have noLine : d ≠ '_' := digit_ne_line d (digits d (by simp))
      rw [grouped?]
      · simp [digit_value c (digits c (by simp)), inner]
      · simp
      · intro _ same
        exact absurd (List.cons.inj same).1 noLine

theorem value_of_digits (cs : List Char) (start : Nat) :
    (cs.map fun d => d.toNat - 48).foldl (fun n d => n * 10 + d) start = Nat.ofDigitChars 10 cs start := by
  induction cs generalizing start with
  | nil => rfl
  | cons c rest ih =>
      rw [List.map_cons, List.foldl_cons, ih, Nat.ofDigitChars_cons, Nat.mul_comm]
      rfl

theorem grouped_to_digits (n : Nat) :
    ∃ digits, grouped? Text.digitValue? (Nat.toDigits 10 n) = some digits ∧
      digits.length = (Nat.toDigits 10 n).length ∧ valueOf 10 digits = n := by
  have allDigits : ∀ c ∈ Nat.toDigits 10 n, c.isDigit = true := fun c member =>
    Nat.isDigit_of_mem_toDigits (by decide) (by decide) member
  cases spelled : Nat.toDigits 10 n with
  | nil => exact absurd spelled Nat.toDigits_ne_nil
  | cons c cs =>
      rw [spelled] at allDigits
      refine ⟨_, grouped_digits c cs allDigits, List.length_map .., ?_⟩
      rw [valueOf, value_of_digits, ← spelled, Nat.ofDigitChars_ten_toDigits]

theorem trim_solid (text : List Char) (solid : ∀ c ∈ text, Text.isBlank c = false) : Text.trim text = text := by
  have front : text.dropWhile Text.isBlank = text := by
    cases text with
    | nil => rfl
    | cons c rest => exact List.dropWhile_cons_of_neg (by simp [solid c (by simp)])
  have back : text.reverse.dropWhile Text.isBlank = text.reverse := by
    cases reversed : text.reverse with
    | nil => rfl
    | cons c rest =>
        have member : c ∈ text := List.mem_reverse.mp (by simp [reversed])
        exact List.dropWhile_cons_of_neg (by simp [solid c member])
  rw [Text.trim, front, Text.trimEnd, back, List.reverse_reverse]

theorem decimal_solid (i : Int) : ∀ c ∈ decimal i, Text.isBlank c = false := by
  have digits : ∀ c ∈ Nat.toDigits 10 i.natAbs, Text.isBlank c = false := fun c member =>
    digit_not_blank c (Nat.isDigit_of_mem_toDigits (by decide) (by decide) member)
  intro c member
  unfold decimal at member
  split at member
  · cases member with
    | head => rfl
    | tail _ inner => exact digits c inner
  · exact digits c member

theorem signed_digits (n : Nat) : signed (Nat.toDigits 10 n) = (false, Nat.toDigits 10 n) := by
  have allDigits : ∀ c ∈ Nat.toDigits 10 n, c.isDigit = true := fun c member =>
    Nat.isDigit_of_mem_toDigits (by decide) (by decide) member
  unfold signed
  split
  · rename_i rest spelled
    exact absurd (allDigits '-' (by simp [spelled])) (by decide)
  · rename_i rest spelled
    exact absurd (allDigits '+' (by simp [spelled])) (by decide)
  · rfl

theorem signed_decimal (i : Int) : signed (decimal i) = (decide (i < 0), Nat.toDigits 10 i.natAbs) := by
  unfold decimal
  split
  · rename_i negative
    simp [signed, negative]
  · rename_i positive
    simp [signed_digits, positive]

theorem with_sign_abs (i : Int) : withSign (decide (i < 0)) i.natAbs = i := by
  by_cases negative : i < 0
  · rw [decide_eq_true negative, withSign, if_pos rfl]
    omega
  · rw [decide_eq_false negative, withSign, if_neg Bool.false_ne_true]
    omega

theorem short_iff (i : Int) : Short i ↔ (Nat.toDigits 10 i.natAbs).length ≤ maxDigits :=
  (Nat.length_toDigits_le_iff (by decide) (by decide)).symm

theorem integer_decimal (i : Int) (short : Short i) : integer? (decimal i) = some i := by
  obtain ⟨digits, grouped, length, value⟩ := grouped_to_digits i.natAbs
  have fits : digits.length ≤ maxDigits := by
    rw [length]
    exact (short_iff i).mp short
  simp [integer?, trim_solid _ (decimal_solid i), signed_decimal, grouped, fits, value, with_sign_abs]

theorem digits_not_hexadecimal (n : Nat) (c : Char) (rest : List Char)
    (spelled : Nat.toDigits 10 n = '0' :: c :: rest) : c ≠ 'x' ∧ c ≠ 'X' := by
  have member : c ∈ Nat.toDigits 10 n := by simp [spelled]
  have digit : c.isDigit = true := Nat.isDigit_of_mem_toDigits (by decide) (by decide) member
  constructor
  · rintro rfl
    cases digit
  · rintro rfl
    cases digit

theorem document_integer_decimal (i : Int) (short : Short i) : documentInteger? (decimal i) = some i := by
  have noMark : ∀ c rest, decimal i = '0' :: c :: rest → c ≠ 'x' ∧ c ≠ 'X' := by
    intro c rest spelled
    unfold decimal at spelled
    split at spelled
    · exact absurd (List.cons.inj spelled).1 (by decide)
    · exact digits_not_hexadecimal _ c rest spelled
  unfold documentInteger?
  split
  · rename_i rest spelled
    exact absurd rfl (noMark 'x' rest spelled).1
  · rename_i rest spelled
    exact absurd rfl (noMark 'X' rest spelled).2
  · exact integer_decimal i short

theorem writable_iff (i : Int) : (integerText? i).isSome ↔ Short i := by
  rw [short_iff, integerText?]
  by_cases long : maxDigits < (Nat.toDigits 10 i.natAbs).length
  · simp [long]
  · simp [long, Nat.le_of_not_lt long]

theorem digit_value_lt (c : Char) (d : Nat) (value : Text.digitValue? c = some d) : d < 10 := by
  obtain ⟨base, found, rfl⟩ := Option.map_eq_some_iff.mp value
  have inside := List.find?_some found
  simp only [Bool.and_eq_true, decide_eq_true_eq] at inside
  omega

theorem grouped_all (value? : Char → Option Nat) (bound : Nat) (each : ∀ c d, value? c = some d → d < bound)
    (text : List Char) (digits : List Nat) (read : grouped? value? text = some digits) : ∀ d ∈ digits, d < bound := by
  have step (c : Char) (rest : Option (List Nat)) (others : ∀ digits, rest = some digits → ∀ d ∈ digits, d < bound)
      (digits : List Nat) (made : ((value? c).bind fun first => rest.bind fun others => some (first :: others)) = some digits) :
      ∀ d ∈ digits, d < bound := by
    obtain ⟨first, value, more⟩ := Option.bind_eq_some_iff.mp made
    obtain ⟨tail, behind, same⟩ := Option.bind_eq_some_iff.mp more
    obtain rfl := Option.some.inj same
    exact List.forall_mem_cons.mpr ⟨each c first value, others tail behind⟩
  fun_induction grouped? value? text generalizing digits with
  | case1 => cases read
  | case2 c =>
      obtain ⟨d, value, rfl⟩ := Option.map_eq_some_iff.mp read
      simpa using each c d value
  | case3 c rest ih => exact step c _ ih digits read
  | case4 c rest _ _ ih => exact step c _ ih digits read

theorem value_of_lt (base : Nat) (digits : List Nat) (small : ∀ d ∈ digits, d < base) (start : Nat) :
    digits.foldl (fun n d => n * base + d) start < (start + 1) * base ^ digits.length := by
  induction digits generalizing start with
  | nil => simp
  | cons d rest ih =>
      obtain ⟨first, others⟩ := List.forall_mem_cons.mp small
      calc rest.foldl (fun n d => n * base + d) (start * base + d)
          < (start * base + d + 1) * base ^ rest.length := ih others _
        _ ≤ ((start + 1) * base) * base ^ rest.length := by
            refine Nat.mul_le_mul_right _ ?_
            rw [Nat.add_mul]
            omega
        _ = (start + 1) * base ^ (d :: rest).length := by
            rw [List.length_cons, Nat.pow_succ, Nat.mul_assoc, Nat.mul_comm base]

theorem abs_with_sign (negative : Bool) (n : Nat) : (withSign negative n).natAbs = n := by
  cases negative <;> simp [withSign]

theorem integer_short (text : List Char) (i : Int) (read : integer? text = some i) : Short i := by
  obtain ⟨digits, grouped, kept⟩ := Option.bind_eq_some_iff.mp read
  split at kept
  · rename_i few
    obtain rfl := Option.some.inj kept
    have small := grouped_all Text.digitValue? 10 digit_value_lt _ digits grouped
    have bound : valueOf 10 digits < 10 ^ maxDigits :=
      calc valueOf 10 digits < (0 + 1) * 10 ^ digits.length := value_of_lt 10 digits small 0
        _ = 10 ^ digits.length := by rw [Nat.zero_add, Nat.one_mul]
        _ ≤ 10 ^ maxDigits := Nat.pow_le_pow_right (by decide) few
    rwa [Short, abs_with_sign]
  · cases kept

theorem document_integer_long (text : List Char) (i : Int) (read : documentInteger? text = some i) (long : ¬ Short i) :
    ∃ rest, text = '0' :: 'x' :: rest ∨ text = '0' :: 'X' :: rest := by
  unfold documentInteger? at read
  split at read
  · exact ⟨_, .inl rfl⟩
  · exact ⟨_, .inr rfl⟩
  · exact absurd (integer_short text i read) long

end TestRun.Numeral
