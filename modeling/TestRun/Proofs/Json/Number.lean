import TestRun.Proofs.Json.Grammar
import TestRun.Proofs.Json.Integer
import TestRun.Proofs.Number.Shortest

/-! What is written for a number is one by the grammar of JSON. -/

set_option autoImplicit false

namespace TestRun.Json

theorem digits_cons (c : Char) (rest : List Char) (all : ∀ d ∈ c :: rest, d.isDigit = true) : Digits (c :: rest) :=
  ⟨List.cons_ne_nil c rest, all⟩

theorem whole_cons (c : Char) (rest : List Char) (all : ∀ d ∈ c :: rest, d.isDigit = true) (front : c ≠ '0') :
    Whole (c :: rest) :=
  ⟨digits_cons c rest all, fun zero => absurd (Option.some.inj zero) front⟩

theorem zero_digits : Digits ['0'] :=
  digits_cons '0' [] fun d member => by
    rw [List.mem_singleton.mp member]
    rfl

theorem whole_zero : Whole ['0'] := ⟨zero_digits, fun _ => rfl⟩

theorem to_digits_all (n : Nat) : ∀ c ∈ Nat.toDigits 10 n, c.isDigit = true := fun _ member =>
  Nat.isDigit_of_mem_toDigits (by decide) (by decide) member

theorem to_digits_whole (n : Nat) : Whole (Nat.toDigits 10 n) := by
  rcases Nat.eq_zero_or_pos n with rfl | positive
  · exact whole_zero
  · obtain ⟨c, cs, spelled, front⟩ := to_digits_front n positive
    have all := to_digits_all n
    rw [spelled] at all ⊢
    exact whole_cons c cs all front

theorem number_of_whole (negative : Bool) (whole part power : List Char) (isWhole : Whole whole) (isPart : Fraction part)
    (isPower : Power power) : Number ((if negative then ['-'] else []) ++ (whole ++ part ++ power)) := by
  refine ⟨if negative then ['-'] else [], whole, part, power, ?_, isWhole, isPart, isPower, by simp⟩
  cases negative
  · exact .inl rfl
  · exact .inr rfl

theorem decimal_number (i : Int) : Number (Numeral.decimal i) := by
  have number := number_of_whole (decide (i < 0)) (Nat.toDigits 10 i.natAbs) [] [] (to_digits_whole i.natAbs) (.inl rfl)
    (.inl rfl)
  rw [List.append_nil, List.append_nil] at number
  by_cases negative : i < 0
  · rw [decide_eq_true negative] at number
    rw [Numeral.decimal, if_pos negative]
    exact number
  · rw [decide_eq_false negative] at number
    rw [Numeral.decimal, if_neg negative]
    exact number

theorem stripped_digits (n : Nat) (positive : 0 < n) :
    ∃ c cs, ((Nat.toDigits 10 n).reverse.dropWhile (· = '0')).reverse = c :: cs ∧ c ≠ '0' ∧
      ∀ d ∈ c :: cs, d.isDigit = true := by
  obtain ⟨c, rest, spelled, front⟩ := to_digits_front n positive
  have all := to_digits_all n
  rw [spelled] at all ⊢
  obtain ⟨cs, shape⟩ : ∃ cs, ((c :: rest).reverse.dropWhile (· = '0')).reverse = c :: cs := by
    rw [List.reverse_cons, List.dropWhile_append]
    split
    · exact ⟨[], by simp [front]⟩
    · exact ⟨_, List.reverse_concat⟩
  refine ⟨c, cs, shape, front, fun d member => all d ?_⟩
  rw [← shape] at member
  exact List.mem_reverse.mp ((List.dropWhile_suffix _).subset (List.mem_reverse.mp member))

theorem zeros_digits (count : Nat) : ∀ c ∈ List.replicate count '0', c.isDigit = true := by
  intro c member
  rw [List.eq_of_mem_replicate member]
  rfl

theorem power_written (sign : Char) (isSign : sign = '+' ∨ sign = '-') (places : Nat) (zeros : Nat) :
    Power ('e' :: sign :: (List.replicate zeros '0' ++ Nat.toDigits 10 places)) := by
  refine .inr ⟨'e', [sign], List.replicate zeros '0' ++ Nat.toDigits 10 places, .inl rfl, .inr ?_, ⟨?_, ?_⟩, rfl⟩
  · exact isSign.imp (congrArg ([·])) (congrArg ([·]))
  · simp [Nat.toDigits_ne_nil]
  · intro c member
    rcases List.mem_append.mp member with zero | digit
    · exact zeros_digits zeros c zero
    · exact to_digits_all places c digit

theorem decimal_text_parts (d : Shortest.Decimal) (c : Char) (cs : List Char) (digits : d.digits = c :: cs)
    (front : c ≠ '0') (all : ∀ e ∈ c :: cs, e.isDigit = true) :
    ∃ whole part power, d.text = whole ++ part ++ power ∧ Whole whole ∧ Fraction part ∧ Power power := by
  rw [Shortest.Decimal.text, digits]
  split
  · split
    · refine ⟨['0'], '.' :: (List.replicate (-d.point).toNat '0' ++ c :: cs), [], by simp, whole_zero,
        .inr ⟨_, ⟨by simp, fun e member => ?_⟩, rfl⟩, .inl rfl⟩
      rcases List.mem_append.mp member with zero | digit
      · exact zeros_digits _ e zero
      · exact all e digit
    · split
      · refine ⟨c :: (cs ++ List.replicate (d.point.toNat - (c :: cs).length) '0'), ['.', '0'], [], by simp,
          whole_cons c _ (fun e member => ?_) front, .inr ⟨['0'], zero_digits, rfl⟩, .inl rfl⟩
        rw [← List.cons_append] at member
        rcases List.mem_append.mp member with digit | zero
        · exact all e digit
        · exact zeros_digits _ e zero
      · rename_i positive long
        obtain ⟨k, point⟩ : ∃ k, d.point.toNat = k + 1 := ⟨d.point.toNat - 1, by omega⟩
        rw [point] at long ⊢
        refine ⟨c :: cs.take k, '.' :: cs.drop k, [], by simp, whole_cons c _ (fun e member => all e ?_) front,
          .inr ⟨_, ⟨?_, fun e member => all e (List.mem_cons_of_mem _ (List.mem_of_mem_drop member))⟩, rfl⟩, .inl rfl⟩
        · exact (List.take_sublist (k + 1) (c :: cs)).subset member
        · rw [List.length_cons] at long
          simpa using long
  · have power := power_written (if d.point - 1 < 0 then '-' else '+') (by split <;> simp)
      (d.point - 1).natAbs (2 - (Nat.toDigits 10 (d.point - 1).natAbs).length)
    have leading : Whole [c] := whole_cons c [] (fun e member => all e (by simp_all)) front
    cases cs with
    | nil => exact ⟨[c], [], _, by simp, leading, .inl rfl, power⟩
    | cons e es =>
        refine ⟨[c], '.' :: e :: es, _, by simp, leading, .inr ⟨e :: es, digits_cons e es ?_, rfl⟩, power⟩
        exact fun f member => all f (List.mem_cons_of_mem _ member)

theorem finite_text_number (x : Binary64) : Number (Shortest.finiteText x) := by
  rw [Shortest.finiteText]
  by_cases zero : x.significand = 0
  · rw [if_pos zero]
    exact number_of_whole x.isNegative ['0'] ['.', '0'] [] whole_zero (.inr ⟨['0'], zero_digits, rfl⟩) (.inl rfl)
  · rw [if_neg zero]
    obtain ⟨n, positive, digits⟩ := Shortest.digits_found x zero
    obtain ⟨c, cs, shape, front, all⟩ := stripped_digits n positive
    obtain ⟨whole, part, power, text, isWhole, isPart, isPower⟩ :=
      decimal_text_parts (Shortest.decimal x) c cs (digits.trans shape) front all
    rw [text]
    exact number_of_whole x.isNegative whole part power isWhole isPart isPower

theorem real_text_atom (loose : Bool) (x : Binary64) (fit : loose = true ∨ x.isFinite = true) :
    Atom loose (realText x) := by
  by_cases finite : x.isFinite = true
  · have number : ¬ x.isNaN = true := by
      rw [Binary64.isFinite, bne_iff_ne] at finite
      simp [Binary64.isNaN, finite]
    rw [realText, if_neg number, if_pos finite]
    exact .number _ (finite_text_number x)
  · have allowed := fit.resolve_right finite
    refine .odd _ allowed ?_
    rw [realText, if_neg finite]
    by_cases none : x.isNaN = true
    · rw [if_pos none]
      exact List.mem_cons_self
    · rw [if_neg none]
      cases x.isNegative <;> decide

end TestRun.Json
