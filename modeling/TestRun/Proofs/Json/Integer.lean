import TestRun.Json.Canonical
import TestRun.Json.Read
import TestRun.Proofs.Number.Decimal

/-! Integers in JSON text: what is written for a short integer reads back as it, unless more of a number stands
behind. -/

set_option autoImplicit false

namespace TestRun.Json

open Numeral (decimal Short)

def Stops (rest : List Char) : Prop :=
  ∀ c tail, rest = c :: tail → c.isDigit = false ∧ c ≠ '.' ∧ c ≠ 'e' ∧ c ≠ 'E'

theorem stops_nil : Stops [] := by
  intro c tail same
  cases same

theorem stops_cons (c : Char) (rest : List Char) (digit : c.isDigit = false) (point : c ≠ '.') (low : c ≠ 'e')
    (high : c ≠ 'E') : Stops (c :: rest) := by
  intro d tail same
  obtain ⟨rfl, -⟩ := List.cons.inj same
  exact ⟨digit, point, low, high⟩

theorem digits_stop (ds rest : List Char) (all : ∀ c ∈ ds, c.isDigit = true) (stops : Stops rest) :
    digits (ds ++ rest) = (ds, rest) := by
  have none : rest.takeWhile Char.isDigit = [] ∧ rest.dropWhile Char.isDigit = rest := by
    cases rest with
    | nil => simp
    | cons c tail => simp [(stops c tail rfl).1]
  rw [digits, List.takeWhile_append_of_pos all, List.dropWhile_append_of_pos all, none.1, none.2, List.append_nil]

theorem fraction_stops (rest : List Char) (stops : Stops rest) : fraction rest = ([], rest) := by
  cases rest with
  | nil => rfl
  | cons c tail =>
      rw [fraction]
      intro others same
      exact (stops c tail rfl).2.1 (List.cons.inj same).1

theorem power_stops (rest : List Char) (stops : Stops rest) : power rest = ([], rest) := by
  cases rest with
  | nil => rfl
  | cons c tail =>
      obtain ⟨-, -, low, high⟩ := stops c tail rfl
      simp [power, low, high]

theorem to_digits_front (n : Nat) (positive : 0 < n) : ∃ c cs, Nat.toDigits 10 n = c :: cs ∧ c ≠ '0' := by
  induction n using Nat.strongRecOn with
  | ind n ih =>
      by_cases small : n < 10
      · have digit : ∀ d < 10, 0 < d → Nat.digitChar d ≠ '0' := by decide
        exact ⟨_, [], Nat.toDigits_of_lt_base small, digit n small positive⟩
      · obtain ⟨c, cs, front, notZero⟩ := ih (n / 10) (by omega) (by omega)
        refine ⟨c, cs ++ [Nat.digitChar (n % 10)], ?_, notZero⟩
        rw [Nat.toDigits_of_base_le (by decide) (by omega), front]
        rfl

theorem to_digits_head (n : Nat) : ∃ c cs, Nat.toDigits 10 n = c :: cs ∧ c.isDigit = true := by
  cases spelled : Nat.toDigits 10 n with
  | nil => exact absurd spelled Nat.toDigits_ne_nil
  | cons c cs =>
      have member : c ∈ Nat.toDigits 10 n := by simp [spelled]
      exact ⟨c, cs, rfl, Nat.isDigit_of_mem_toDigits (by decide) (by decide) member⟩

theorem whole_read (n : Nat) (rest : List Char) (stops : Stops rest) :
    whole? (Nat.toDigits 10 n ++ rest) = some (Nat.toDigits 10 n, rest) := by
  have all : ∀ c ∈ Nat.toDigits 10 n, c.isDigit = true := fun c member =>
    Nat.isDigit_of_mem_toDigits (by decide) (by decide) member
  by_cases positive : 0 < n
  · have read := digits_stop _ rest all stops
    obtain ⟨c, cs, front, notZero⟩ := to_digits_front n positive
    rw [front] at read ⊢
    rw [List.cons_append] at read ⊢
    rw [whole?, read]
    · rfl
    · intro others same
      exact notZero (List.cons.inj same).1
  · obtain rfl : n = 0 := by omega
    rw [Nat.toDigits_zero]
    rfl

theorem unsigned_read (negative : Bool) (n : Nat) (rest : List Char) (short : (Nat.toDigits 10 n).length ≤ Numeral.maxDigits)
    (stops : Stops rest) :
    unsigned negative (Nat.toDigits 10 n ++ rest) = .ok (.int (Numeral.withSign negative n), rest) := by
  have meant : Numeral.valueOf 10 ((Nat.toDigits 10 n).map fun c => c.toNat - 48) = n := by
    rw [Numeral.valueOf, Numeral.value_of_digits, Nat.ofDigitChars_ten_toDigits]
  have made : integer negative (Nat.toDigits 10 n) = .ok (.int (Numeral.withSign negative n)) := by
    rw [integer, if_neg (Nat.not_lt.mpr short), meant]
  rw [unsigned, whole_read n rest stops]
  dsimp only
  rw [fraction_stops rest stops]
  dsimp only
  rw [power_stops rest stops]
  dsimp only
  rw [made]
  rfl

theorem number_read (i : Int) (rest : List Char) (short : Short i) (stops : Stops rest) :
    number (decimal i ++ rest) = .ok (.int i, rest) := by
  have length := (Numeral.short_iff i).mp short
  have sign := Numeral.with_sign_abs i
  by_cases negative : i < 0
  · rw [decide_eq_true negative] at sign
    rw [decimal, if_pos negative, List.cons_append, number, unsigned_read true _ rest length stops, sign]
  · rw [decide_eq_false negative] at sign
    rw [decimal, if_neg negative, number, unsigned_read false _ rest length stops, sign]
    intro others same
    obtain ⟨c, cs, front, digit⟩ := to_digits_head i.natAbs
    rw [front, List.cons_append] at same
    rw [(List.cons.inj same).1] at digit
    cases digit

theorem integer_text (i : Int) (short : Short i) : integerText i = .ok (decimal i) := by
  have fits : ¬ Numeral.maxDigits < (Nat.toDigits 10 i.natAbs).length := Nat.not_lt.mpr ((Numeral.short_iff i).mp short)
  have written : Numeral.integerText? i = some (decimal i) := if_neg fits
  rw [integerText, written]

end TestRun.Json
