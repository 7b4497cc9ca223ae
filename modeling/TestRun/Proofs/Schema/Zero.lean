import TestRun.Proofs.Number.Decimal
import TestRun.Proofs.Schema.Issues
import TestRun.Schema.Scalar

/-! What counts as the integer zero: zero itself in each kind of number, and a numeral of which nothing but a zero
remains. -/

set_option autoImplicit false

namespace TestRun.Schema

def IsZeroNumeral (text : List Char) : Prop := plainNumeral? text = some ['0'] ∨ plainNumeral? text = some ['-', '0']

inductive CountsAsZero : Value → Prop where
  | int : CountsAsZero (.int 0)
  | bool : CountsAsZero (.bool false)
  | uid : CountsAsZero (.uid 0)
  | real (x : Binary64) (finite : x.isFinite = true) (zero : x.significand = 0) : CountsAsZero (.real x)
  | text (s : String) (zero : IsZeroNumeral s.toList) : CountsAsZero (.text s)
  | data (bytes : List UInt8) (chars : List Char) (decoded : Text.Utf8.decode? bytes = some chars) (zero : IsZeroNumeral chars) :
      CountsAsZero (.data bytes)

theorem ratio_zero_iff (x : Binary64) : x.ratio.1 = 0 ↔ x.significand = 0 := by
  have positive : Nat.pow 2 x.exponent.toNat ≠ 0 := Nat.ne_of_gt (Nat.pow_pos (by decide))
  have magnitude : x.significand * Nat.pow 2 x.exponent.toNat = 0 ↔ x.significand = 0 := by
    rw [Nat.mul_eq_zero, or_iff_left positive]
  rw [← magnitude, Binary64.ratio]
  dsimp only
  split
  · rw [Int.neg_eq_zero, Int.natCast_eq_zero]
  · exact Int.natCast_eq_zero

theorem whole_zero_iff (x : Binary64) : x.toInt? = some 0 ↔ x.isFinite = true ∧ x.significand = 0 := by
  rw [← ratio_zero_iff]
  constructor
  · intro whole
    simp only [Binary64.toInt?] at whole
    split at whole
    · rename_i both
      have divides : x.ratio.1 % x.ratio.2 = 0 := by simpa using (Bool.and_eq_true_iff.mp both).2
      have quotient : x.ratio.1 / x.ratio.2 = 0 := Option.some.inj whole
      have parts := Int.mul_ediv_add_emod x.ratio.1 x.ratio.2
      rw [divides, quotient] at parts
      exact ⟨(Bool.and_eq_true_iff.mp both).1, by simpa using parts.symm⟩
    · cases whole
  · rintro ⟨finite, zero⟩
    simp [Binary64.toInt?, finite, zero]

theorem real_zero_iff (x : Binary64) : integerOfReal x = .ok 0 ↔ x.isFinite = true ∧ x.significand = 0 := by
  rw [← whole_zero_iff]
  constructor
  · intro read
    unfold integerOfReal at read
    split at read
    · cases read
    · split at read
      · cases read
      · rename_i i whole
        split at read
        · obtain rfl := Checked.ok.inj read
          exact whole
        · cases read
  · intro whole
    have finite := ((whole_zero_iff x).mp whole).1
    simp only [integerOfReal, finite, whole, wordLimit]
    rfl

theorem exponent_for_whole (n : Nat) : -53 ≤ Binary64.exponentFor n 1 := by
  have one : Nat.log2 1 = 0 := rfl
  unfold Binary64.exponentFor
  dsimp only
  rw [one]
  split <;> omega

theorem leading_significand (magnitude : Nat) (low : 2 ^ 52 ≤ magnitude) (high : magnitude ≤ 2047 * 2 ^ 52) :
    (Binary64.withSign false magnitude).significand ≠ 0 := by
  have bits : (Binary64.withSign false magnitude).bits.toNat = magnitude := by
    simp only [Binary64.withSign, Bool.false_eq_true, if_false]
    exact UInt64.toNat_ofNat_of_lt' (by rw [UInt64.size]; omega)
  have leading : (Binary64.withSign false magnitude).exponentField ≠ 0 := by
    rw [Binary64.exponentField, bits]
    change magnitude / 2 ^ 52 % 2 ^ 11 ≠ 0
    omega
  rw [Binary64.significand, if_neg leading]
  change 2 ^ 52 + _ ≠ 0
  omega

theorem of_whole_significand (n : Nat) (zero : (Binary64.ofRatio false n 1).significand = 0) : n = 0 := by
  by_cases none : n = 0
  · exact none
  · have exponent := exponent_for_whole n
    rw [Binary64.ofRatio, if_neg none] at zero
    dsimp only at zero
    split at zero
    · rename_i small
      refine absurd zero (leading_significand _ ?_ (Nat.le_of_lt small))
      refine Nat.le_trans ?_ (Nat.le_add_right _ _)
      exact Nat.le_mul_of_pos_left _ (by omega)
    · exact absurd zero (leading_significand _ (by decide) (Nat.le_refl _))

theorem value_of_zero (digits : List Nat) (start : Nat) (zero : digits.foldl (fun n d => n * 10 + d) start = 0) :
    start = 0 ∧ ∀ d ∈ digits, d = 0 := by
  induction digits generalizing start with
  | nil => exact ⟨zero, by simp⟩
  | cons digit rest ih =>
      obtain ⟨first, others⟩ := ih (start * 10 + digit) zero
      exact ⟨by omega, List.forall_mem_cons.mpr ⟨by omega, others⟩⟩

theorem with_sign_zero (negative : Bool) (n : Nat) : Numeral.withSign negative n = 0 ↔ n = 0 := by
  rw [← Int.natAbs_eq_zero, Numeral.abs_with_sign]

theorem digit_zero (c : Char) (digit : c.isDigit = true) (worth : c.toNat - 48 = 0) : c = '0' := by
  have bounds := Numeral.digit_bounds c digit
  apply Char.ext
  apply UInt32.toNat_inj.mp
  change c.toNat = 48
  omega

theorem digits_zero_iff (negative : Bool) (text : List Char) : integerOfDigits negative text = .ok 0 ↔ text = ['0'] := by
  constructor
  · intro read
    unfold integerOfDigits at read
    dsimp only at read
    split at read
    · cases read
    · rename_i proper
      split at read
      · cases read
      · split at read
        · cases read
        · have worth := (with_sign_zero _ _).mp (Checked.ok.inj read)
          obtain ⟨-, zeros⟩ := value_of_zero _ 0 worth
          rw [not_or] at proper
          obtain ⟨some, single⟩ := proper
          cases spelled : text.takeWhile Char.isDigit with
          | nil => rw [spelled] at some; simp at some
          | cons c rest =>
              rw [spelled] at single zeros
              have digit : c.isDigit = true :=
                List.all_eq_true.mp List.all_takeWhile c (by rw [spelled]; exact List.mem_cons_self)
              have zero := digit_zero c digit (zeros (c.toNat - 48) (by simp))
              simpa [zero] using single
  · rintro rfl
    cases negative <;> rfl

theorem numeral_zero_iff (text : List Char) : integerOfText text = .ok 0 ↔ IsZeroNumeral text := by
  unfold integerOfText IsZeroNumeral
  split
  · rename_i none
    simp [none, Checked.fail]
  · rename_i rest minus
    simp [digits_zero_iff, minus]
  · rename_i rest other plain
    rw [digits_zero_iff, plain]
    constructor
    · rintro rfl
      exact .inl rfl
    · rintro (same | same)
      · exact Option.some.inj same
      · exact absurd (Option.some.inj same) (other ['0'])

theorem integer_zero_iff (v : Value) : integer v = .ok 0 ↔ CountsAsZero v := by
  constructor
  · intro read
    cases v with
    | int i =>
        obtain rfl := Checked.ok.inj read
        exact .int
    | bool b =>
        cases b with
        | false => exact .bool
        | true => cases read
    | uid n =>
        obtain rfl := of_whole_significand n ((real_zero_iff _).mp read).2
        exact .uid
    | real x =>
        obtain ⟨finite, zero⟩ := (real_zero_iff x).mp read
        exact .real x finite zero
    | text s => exact .text s ((numeral_zero_iff _).mp read)
    | data bytes =>
        rw [integer] at read
        split at read
        · rename_i chars decoded
          exact .data bytes chars decoded ((numeral_zero_iff chars).mp read)
        · cases read
    | _ => cases read
  · intro zero
    cases zero with
    | int => rfl
    | bool => rfl
    | uid =>
        have none : Binary64.ofRatio false (0 : Nat) 1 = .zero false := if_pos rfl
        rw [integer, none]
        exact (real_zero_iff _).mpr ⟨by decide, by decide⟩
    | real x finite zero => exact (real_zero_iff x).mpr ⟨finite, zero⟩
    | text s zero => exact (numeral_zero_iff _).mpr zero
    | data bytes chars decoded zero =>
        rw [integer, decoded]
        exact (numeral_zero_iff chars).mpr zero

end TestRun.Schema
