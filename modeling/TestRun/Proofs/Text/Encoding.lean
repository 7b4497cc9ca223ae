import TestRun.Text.Utf16
import TestRun.Text.Utf8

/-! Text survives its encodings: what is written as UTF-8 or as big-endian UTF-16 reads back as it was. -/

set_option autoImplicit false

namespace TestRun.Text.Utf8

theorem byte_to_nat (n : Nat) (small : n < 256) : (UInt8.ofNat n).toNat = n :=
  UInt8.toNat_ofNat_of_lt' small

theorem two_bytes (x y : Nat) (lead : 0xc2 ≤ x ∧ x ≤ 0xdf) (tail : 0x80 ≤ y ∧ y ≤ 0xbf) :
    two? (UInt8.ofNat x) (UInt8.ofNat y) = some (Char.ofNat ((x - 0xc0) * 64 + (y - 0x80))) := by
  have first := byte_to_nat x (by omega)
  have second := byte_to_nat y (by omega)
  have leadHolds : (0xc2 ≤ UInt8.ofNat x && UInt8.ofNat x ≤ 0xdf && isTail (UInt8.ofNat y)) = true := by
    simp [isTail, UInt8.le_iff_toNat_le, first, second]
    omega
  rw [two?, if_pos leadHolds, first, second]

theorem two_refused (x : Nat) (b : UInt8) (lead : 0xe0 ≤ x) (small : x < 256) :
    two? (UInt8.ofNat x) b = none := by
  have first := byte_to_nat x small
  simp [two?, UInt8.le_iff_toNat_le, first]
  omega

theorem three_bytes (x y z : Nat) (lead : 0xe0 ≤ x ∧ x ≤ 0xef) (middle : 0x80 ≤ y ∧ y ≤ 0xbf)
    (tail : 0x80 ≤ z ∧ z ≤ 0xbf) (short : x = 0xe0 → 0xa0 ≤ y) (surrogate : x = 0xed → y ≤ 0x9f) :
    three? (UInt8.ofNat x) (UInt8.ofNat y) (UInt8.ofNat z) =
      some (Char.ofNat ((x - 0xe0) * 4096 + (y - 0x80) * 64 + (z - 0x80))) := by
  have first := byte_to_nat x (by omega)
  have second := byte_to_nat y (by omega)
  have third := byte_to_nat z (by omega)
  simp [three?, isTail, UInt8.le_iff_toNat_le, ← UInt8.toNat_inj, first, second, third]
  omega

theorem three_refused (x : Nat) (b c : UInt8) (lead : 0xf0 ≤ x) (small : x < 256) :
    three? (UInt8.ofNat x) b c = none := by
  have first := byte_to_nat x small
  simp [three?, UInt8.le_iff_toNat_le, first]
  omega

theorem four_bytes (x y z w : Nat) (lead : 0xf0 ≤ x ∧ x ≤ 0xf4) (second : 0x80 ≤ y ∧ y ≤ 0xbf)
    (third : 0x80 ≤ z ∧ z ≤ 0xbf) (tail : 0x80 ≤ w ∧ w ≤ 0xbf) (short : x = 0xf0 → 0x90 ≤ y)
    (top : x = 0xf4 → y ≤ 0x8f) :
    four? (UInt8.ofNat x) (UInt8.ofNat y) (UInt8.ofNat z) (UInt8.ofNat w) =
      some (Char.ofNat ((x - 0xf0) * 262144 + (y - 0x80) * 4096 + (z - 0x80) * 64 + (w - 0x80))) := by
  have xNat := byte_to_nat x (by omega)
  have yNat := byte_to_nat y (by omega)
  have zNat := byte_to_nat z (by omega)
  have wNat := byte_to_nat w (by omega)
  simp [four?, isTail, UInt8.le_iff_toNat_le, ← UInt8.toNat_inj, xNat, yNat, zNat, wNat]
  omega

theorem decode_from_byte (read : List Char) (a : UInt8) (rest : List UInt8) (small : a < 0x80) :
    decodeFrom read (a :: rest) = decodeFrom (Char.ofNat a.toNat :: read) rest := by
  rw [decodeFrom.eq_def]
  exact if_pos small

theorem not_single (x : Nat) (high : 0x80 ≤ x) (small : x < 256) : ¬ UInt8.ofNat x < 0x80 := by
  rw [UInt8.lt_iff_toNat_lt, byte_to_nat x small]
  exact Nat.not_lt_of_le high

theorem char_of_nat (c : Char) (n : Nat) (same : n = c.toNat) : Char.ofNat n = c := by
  rw [same, Char.ofNat_toNat]

theorem char_to_nat_bounds (c : Char) : c.toNat < 0xd800 ∨ (0xdfff < c.toNat ∧ c.toNat < 0x110000) :=
  c.valid

theorem decode_from_char (read : List Char) (c : Char) (rest : List UInt8) :
    decodeFrom read (String.utf8EncodeChar c ++ rest) = decodeFrom (c :: read) rest := by
  have bounds := char_to_nat_bounds c
  have value : c.val.toNat = c.toNat := rfl
  unfold String.utf8EncodeChar
  simp only [value]
  generalize codeEq : c.toNat = n at bounds
  split
  · rename_i small
    have byte := byte_to_nat n (by omega)
    have below : UInt8.ofNat n < 0x80 := by
      rw [UInt8.lt_iff_toNat_lt, byte]
      exact Nat.lt_succ_of_le small
    rw [List.singleton_append, decode_from_byte _ _ _ below, byte, char_of_nat c n codeEq.symm]
  · split
    · rename_i above small
      rw [decodeFrom.eq_def]
      dsimp only [List.cons_append, List.nil_append]
      rw [if_neg (not_single _ (by omega) (by omega)), two_bytes _ _ (by omega) (by omega)]
      dsimp only
      rw [char_of_nat c _ (by omega)]
    · split
      · rename_i above small
        rw [decodeFrom.eq_def]
        dsimp only [List.cons_append, List.nil_append]
        rw [if_neg (not_single _ (by omega) (by omega)), two_refused _ _ (by omega) (by omega)]
        dsimp only
        rw [three_bytes _ _ _ (by omega) (by omega) (by omega) (by omega) (by omega)]
        dsimp only
        rw [char_of_nat c _ (by omega)]
      · rename_i above
        rw [decodeFrom.eq_def]
        dsimp only [List.cons_append, List.nil_append]
        rw [if_neg (not_single _ (by omega) (by omega)), two_refused _ _ (by omega) (by omega)]
        dsimp only
        rw [three_refused _ _ _ (by omega) (by omega)]
        dsimp only
        rw [four_bytes _ _ _ _ (by omega) (by omega) (by omega) (by omega) (by omega) (by omega)]
        dsimp only
        rw [char_of_nat c _ (by omega)]

theorem decode_from_encode (read chars : List Char) :
    decodeFrom read (encode chars) = (read.reverse ++ chars, true) := by
  induction chars generalizing read with
  | nil => simp [encode, decodeFrom]
  | cons c rest ih =>
      have split : encode (c :: rest) = String.utf8EncodeChar c ++ encode rest := rfl
      rw [split, decode_from_char, ih]
      simp

theorem decode_prefix_encode (chars : List Char) : decodePrefix (encode chars) = (chars, true) := by
  exact decode_from_encode [] chars

end TestRun.Text.Utf8

namespace TestRun.Text.Utf16

def unitsOf (c : Char) : List Nat :=
  if c.toNat < 0x10000 then [c.toNat]
  else [0xd800 + (c.toNat - 0x10000) / 1024, 0xdc00 + (c.toNat - 0x10000) % 1024]

def units (chars : List Char) : List Nat := chars.flatMap unitsOf

def unitBytes (u : Nat) : List UInt8 := [UInt8.ofNat (u / 256), UInt8.ofNat (u % 256)]

def encodeBig (chars : List Char) : List UInt8 := (units chars).flatMap unitBytes

theorem encode_big_cons (c : Char) (rest : List Char) :
    encodeBig (c :: rest) = (unitsOf c).flatMap unitBytes ++ encodeBig rest := by
  simp [encodeBig, units]

theorem encode_big_length (chars : List Char) :
    (encodeBig chars).length = 2 * (units chars).length := by
  simp [encodeBig, unitBytes, List.length_flatMap, List.map_const', Nat.mul_comm]

theorem unit_bytes_value (u : Nat) (small : u < 0x10000) :
    unit .big (UInt8.ofNat (u / 256)) (UInt8.ofNat (u % 256)) = u := by
  rw [unit, Utf8.byte_to_nat _ (by omega), Utf8.byte_to_nat _ (by omega)]
  omega

theorem decode_from_char (read : List Char) (c : Char) (rest : List UInt8) :
    decodeFrom .big true read ((unitsOf c).flatMap unitBytes ++ rest) =
      decodeFrom .big true (c :: read) rest := by
  have bounds := Utf8.char_to_nat_bounds c
  unfold unitsOf
  split
  · rename_i small
    have value := unit_bytes_value c.toNat small
    have notTrailing : isTrailing c.toNat = false := by
      simp [isTrailing]
      omega
    have notLeading : isLeading c.toNat = false := by
      simp [isLeading]
      omega
    simp only [List.flatMap_cons, List.flatMap_nil, unitBytes, List.append_nil, List.cons_append,
      List.nil_append]
    rw [decodeFrom.eq_def]
    simp only [value, notTrailing, notLeading, Bool.false_eq_true, if_false, Char.ofNat_toNat]
  · rename_i large
    generalize highEq : 0xd800 + (c.toNat - 0x10000) / 1024 = high
    generalize lowEq : 0xdc00 + (c.toNat - 0x10000) % 1024 = low
    have highValue := unit_bytes_value high (by omega)
    have lowValue := unit_bytes_value low (by omega)
    have highLeads : isTrailing high = false ∧ isLeading high = true := by
      simp [isTrailing, isLeading]
      omega
    have lowTrails : isTrailing low = true := by
      simp [isTrailing]
      omega
    have same : joined high low = c := Utf8.char_of_nat c _ (by omega)
    simp only [List.flatMap_cons, List.flatMap_nil, unitBytes, List.append_nil, List.cons_append,
      List.nil_append]
    rw [decodeFrom.eq_def]
    simp only [highValue, lowValue, highLeads, lowTrails, Bool.false_eq_true, if_false, if_true,
      Bool.not_true, Bool.and_false, same]

theorem decode_from_encode (read chars : List Char) :
    decodeFrom .big true read (encodeBig chars) = (read.reverse ++ chars, true) := by
  induction chars generalizing read with
  | nil => simp [encodeBig, units, decodeFrom]
  | cons c rest ih =>
      rw [encode_big_cons, decode_from_char, ih]
      simp

theorem decode_encode_big (chars : List Char) : decode? .big (encodeBig chars) = some chars := by
  rw [decode?, decode_from_encode]
  rfl

end TestRun.Text.Utf16
