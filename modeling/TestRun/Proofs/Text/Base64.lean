import TestRun.Base64

/-! Base64 reads back what it writes, and passes over whatever is not of its alphabet. -/

set_option autoImplicit false

namespace TestRun.Base64

theorem letter_value (n : Nat) (small : n < 64) : value? (letter n) = some n := by
  have all : ∀ m, m < 64 → value? (letter m) = some m := by decide
  exact all n small

theorem letter_ne_pad (n : Nat) (small : n < 64) : letter n ≠ '=' := by
  have all : ∀ m, m < 64 → letter m ≠ '=' := by decide
  exact all n small

theorem decode_from_passed (g : Group) (made : List UInt8) (c : Char) (rest : List Char)
    (noPad : c ≠ '=') (noLetter : value? c = none) :
    decodeFrom? g made (c :: rest) = decodeFrom? g made rest := by
  rw [decodeFrom?, if_neg noPad, noLetter]

theorem decode_from_letter (g : Group) (made : List UInt8) (n : Nat) (rest : List Char) (small : n < 64) :
    decodeFrom? g made (letter n :: rest) =
      decodeFrom? (g.push n).1 ((g.push n).2.toList ++ made) rest := by
  rw [decodeFrom?, if_neg (letter_ne_pad n small), letter_value n small]

theorem decode_from_filter (keep : Char → Bool) (g : Group) (made : List UInt8) (text : List Char)
    (passed : ∀ c, keep c = false → c ≠ '=' ∧ value? c = none) :
    decodeFrom? g made (text.filter keep) = decodeFrom? g made text := by
  induction text generalizing g made with
  | nil => rfl
  | cons c rest ih =>
      cases kept : keep c with
      | false =>
          obtain ⟨noPad, noLetter⟩ := passed c kept
          rw [List.filter_cons_of_neg (by simp [kept]), decode_from_passed g made c rest noPad noLetter]
          exact ih g made
      | true =>
          rw [List.filter_cons_of_pos kept]
          unfold decodeFrom?
          simp only [ih]

theorem encode_all (P : Char → Prop) (letters : ∀ n, n < 64 → P (letter n)) (pad : P '=') (bytes : List UInt8) :
    ∀ c ∈ encode bytes, P c := by
  induction bytes using encode.induct with
  | case1 => simp [encode]
  | case2 a =>
      have bound := a.toNat_lt
      simp only [encode, List.forall_mem_cons]
      exact ⟨letters _ (by omega), letters _ (by omega), pad, pad, by simp⟩
  | case3 a b =>
      have aBound := a.toNat_lt
      have bBound := b.toNat_lt
      simp only [encode, List.forall_mem_cons]
      exact ⟨letters _ (by omega), letters _ (by omega), letters _ (by omega), pad, by simp⟩
  | case4 a b c rest ih =>
      have aBound := a.toNat_lt
      have bBound := b.toNat_lt
      have cBound := c.toNat_lt
      simp only [encode, List.forall_mem_cons]
      exact ⟨letters _ (by omega), letters _ (by omega), letters _ (by omega), letters _ (by omega), ih⟩

theorem byte_of_sixes (a : UInt8) (n : Nat) (same : n = a.toNat) : UInt8.ofNat n = a := by
  rw [same, UInt8.ofNat_toNat]

theorem decode_from_one (made : List UInt8) (a : UInt8) :
    decodeFrom? .empty made (encode [a]) = some (made.reverse ++ [a]) := by
  have bound := a.toNat_lt
  rw [encode, decode_from_letter _ _ _ _ (by omega), decode_from_letter _ _ _ _ (by omega)]
  simp only [Group.push, Group.empty, Option.toList, List.nil_append, List.cons_append]
  rw [byte_of_sixes a _ (by omega)]
  simp [decodeFrom?]

theorem decode_from_two (made : List UInt8) (a b : UInt8) :
    decodeFrom? .empty made (encode [a, b]) = some (made.reverse ++ [a, b]) := by
  have aBound := a.toNat_lt
  have bBound := b.toNat_lt
  rw [encode, decode_from_letter _ _ _ _ (by omega), decode_from_letter _ _ _ _ (by omega),
    decode_from_letter _ _ _ _ (by omega)]
  simp only [Group.push, Group.empty, Option.toList, List.nil_append, List.cons_append]
  rw [byte_of_sixes b _ (by omega), byte_of_sixes a _ (by omega)]
  simp [decodeFrom?]

theorem decode_from_three (made : List UInt8) (a b c : UInt8) (rest : List UInt8) :
    decodeFrom? .empty made (encode (a :: b :: c :: rest)) =
      decodeFrom? .empty (c :: b :: a :: made) (encode rest) := by
  have aBound := a.toNat_lt
  have bBound := b.toNat_lt
  have cBound := c.toNat_lt
  rw [encode, decode_from_letter _ _ _ _ (by omega), decode_from_letter _ _ _ _ (by omega),
    decode_from_letter _ _ _ _ (by omega), decode_from_letter _ _ _ _ (by omega)]
  simp only [Group.push, Group.empty, Option.toList, List.nil_append, List.cons_append]
  rw [byte_of_sixes c _ (by omega), byte_of_sixes b _ (by omega), byte_of_sixes a _ (by omega)]

theorem decode_from_encode (made bytes : List UInt8) :
    decodeFrom? .empty made (encode bytes) = some (made.reverse ++ bytes) := by
  induction bytes using encode.induct generalizing made with
  | case1 => simp [encode, decodeFrom?, Group.empty]
  | case2 a => exact decode_from_one made a
  | case3 a b => exact decode_from_two made a b
  | case4 a b c rest ih =>
      rw [decode_from_three, ih]
      simp

theorem decode_encode (bytes : List UInt8) : decode? (encode bytes) = some bytes :=
  decode_from_encode [] bytes

end TestRun.Base64
