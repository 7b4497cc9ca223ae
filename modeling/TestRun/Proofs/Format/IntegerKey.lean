import TestRun.Proofs.Binary.Assembled
import TestRun.Proofs.Report.Escapes

/-! A binary document of version 1 whose block stands under an integer. -/

set_option autoImplicit false

namespace TestRun.Format

open Environment (keyed)
open Plist.Binary
open Plist.Binary.Image (dict_slots text_read start_of_stands key_read scalar_int encoded_holds held_read header)

def blockObjects : List UInt8 :=
  header ++ [0xd2, 1, 7, 2, 5] ++ ([0x5f, 0x10, 22] ++ Plist.ascii metadataKey) ++ [0xd1, 3, 4] ++
    (0x5d :: Plist.ascii "FormatVersion") ++ [0x10, 1] ++ [0xd1, 6, 4] ++
    ([0x5f, 0x10, 24] ++ Plist.ascii "TestHostBundleIdentifier")

def blockOffsets : List Nat := [8, 13, 38, 41, 55, 57, 60, 87]

def blockUnder (body : List UInt8) : Image where
  lead := []
  bytes := (blockObjects ++ 0x1b :: body) ++ (blockOffsets.flatMap (write 2) ++
    (List.replicate 6 0 ++ (write 1 2 ++ (write 1 1 ++ (write 8 8 ++ (write 8 0 ++ write 8 2136))))))
  offsets := blockOffsets
  offsetWidth := 2
  refWidth := 1
  top := 0
  table := 2136

theorem block_assembled (body : List UInt8) (length : body.length = 2048) :
    blockUnder body = Image.assembled (blockObjects ++ 0x1b :: body) blockOffsets 2 := by
  have front : (blockObjects ++ 0x1b :: body).length = 2136 := by
    rw [List.length_append, List.length_cons, length]
    rfl
  rw [Image.assembled, front]
  rfl

theorem block_sound (body : List UInt8) (length : body.length = 2048) : (blockUnder body).Sound := by
  rw [block_assembled body length]
  refine Image.assembled_sound _ blockOffsets 2 ⟨_, rfl⟩ (by decide) (by decide) (by decide) ?_
  rw [List.length_append, List.length_cons, length]
  decide

theorem block_stands (body : List UInt8) (ref place : Nat) (written : List UInt8)
    (numbered : blockOffsets[ref]? = some place) (inside : place ≤ blockObjects.length)
    (placed : Placed blockObjects place written) : (blockUnder body).Stands ref written := by
  refine ⟨place, numbered, ?_⟩
  change Placed ((blockObjects ++ 0x1b :: body) ++ _) place written
  rw [List.append_assoc]
  exact placed_front blockObjects _ place written inside placed

theorem integer_stands (body : List UInt8) : (blockUnder body).Stands 7 (0x1b :: body) := by
  refine ⟨87, rfl, ?_⟩
  change Placed ((blockObjects ++ 0x1b :: body) ++ _) 87 (0x1b :: body)
  rw [List.append_assoc]
  exact placed_behind blockObjects _ _ 87 (by decide)

theorem integer_key (body : List UInt8) (length : body.length = 2048) :
    (blockUnder body).layout.key? 7 = some (.int (signed body)) := by
  obtain ⟨place, started, placed⟩ := start_of_stands (blockUnder body) 7 0x1b body (integer_stands body)
  rw [key_read _ 7 place _ started]
  change scalar? (blockUnder body).bytes.toArray place (16 + 11) = _
  rw [scalar_int _ place 11 (by decide), up_to_placed _ place body placed _ (by simp [length])]
  rfl

def versionBlock : Environment := [("FormatVersion", .int (1 : Nat))]

def hostBlock : Environment := [("TestHostBundleIdentifier", .int (1 : Nat))]

theorem ascii_of_all (s : String) (all : s.toList.all (fun c => decide (c.toNat < 0x80)) = true) :
    ∀ c ∈ s.toList, c.toNat < 0x80 :=
  fun c member => of_decide_eq_true (List.all_eq_true.mp all c member)

theorem inner_encoded (body : List UInt8) :
    (blockUnder body).Encoded 2 (.dict (keyed versionBlock)) ∧ (blockUnder body).Encoded 5 (.dict (keyed hostBlock)) := by
  have one : (blockUnder body).Encoded 4 (.int (1 : Nat)) :=
    .unsigned 4 0 1 (by decide) (by decide) (block_stands body 4 55 _ rfl (by decide) (by unfold Placed; decide))
  have version : (blockUnder body).EncodedText 3 "FormatVersion" :=
    .narrow _ (.brief (by decide)) (ascii_of_all _ rfl) (block_stands body 3 41 _ rfl (by decide) (by unfold Placed; decide))
  have host : (blockUnder body).EncodedText 6 "TestHostBundleIdentifier" :=
    .narrow _ (.long 0 (by decide) (by decide)) (ascii_of_all _ rfl)
      (block_stands body 6 60 _ rfl (by decide) (by unfold Placed; decide))
  constructor
  · refine .dict 2 _ [3] [4] versionBlock (.brief (by decide))
      (block_stands body 2 38 [0xd1, 3, 4] rfl (by decide) (by unfold Placed; decide)) (by simp [Image.Fits, blockUnder])
      (by simp [Image.Fits, blockUnder]) rfl rfl (by simp [versionBlock]) ?_ ?_
    · simpa [versionBlock] using version
    · simpa [versionBlock] using one
  · refine .dict 5 _ [6] [4] hostBlock (.brief (by decide))
      (block_stands body 5 57 [0xd1, 6, 4] rfl (by decide) (by unfold Placed; decide)) (by simp [Image.Fits, blockUnder])
      (by simp [Image.Fits, blockUnder]) rfl rfl (by simp [hostBlock]) ?_ ?_
    · simpa [hostBlock] using host
    · simpa [hostBlock] using one

theorem block_loads (body : List UInt8) (length : body.length = 2048) :
    Document.load (blockUnder body).content =
      .ok [(.text metadataKey, .dict (keyed versionBlock)), (.int (signed body), .dict (keyed hostBlock))] := by
  obtain ⟨version, host⟩ := inner_encoded body
  have name : (blockUnder body).EncodedText 1 metadataKey :=
    .narrow _ (.long 0 (by decide) (by decide)) (ascii_of_all _ rfl)
      (block_stands body 1 13 _ rfl (by decide) (by unfold Placed; decide))
  have stands : (blockUnder body).Stands 0 ([0xd2] ++ ((blockUnder body).refs [1, 7] ++ (blockUnder body).refs [2, 5])) :=
    block_stands body 0 8 [0xd2, 1, 7, 2, 5] rfl (by decide) (by unfold Placed; decide)
  have wide : (blockUnder body).refWidth ≠ 0 := (by decide : 1 ≠ 0)
  have stored := dict_slots (blockUnder body) wide 0 _ [1, 7] [2, 5] (.brief (by decide)) stands
    (by simp [Image.Fits, blockUnder]) (by simp [Image.Fits, blockUnder]) rfl
  have slots : (blockUnder body).layout.slots? [1, 7] [2, 5] [] =
      some [⟨.text metadataKey, 1, 2⟩, ⟨.int (signed body), 7, 5⟩] := by
    rw [Layout.slots?, (text_read _ 1 _ name).1, Option.bind_eq_bind, Option.bind_some, Layout.slots?,
      integer_key body length]
    rfl
  rw [slots] at stored
  have holds : Holds (blockUnder body).layout 0
      (.dict [(.text metadataKey, .dict (keyed versionBlock)), (.int (signed body), .dict (keyed hostBlock))]) := by
    refine .dict 0 _ _ stored rfl ?_
    have first := encoded_holds (blockUnder body) wide 2 _ version
    have second := encoded_holds (blockUnder body) wide 5 _ host
    simpa using ⟨first, second⟩
  rw [Document.load, held_read (blockUnder body) (block_sound body length) _ holds]
  rfl

theorem block_detected (body : List UInt8) (length : body.length = 2048) :
    detect (blockUnder body).content = .ok 1 := by
  rw [detect, block_loads body length]
  rfl

theorem block_refused (body : List UInt8) (length : body.length = 2048) :
    SingleTarget.parse (blockUnder body).content =
      .error (SingleTarget.failure (.int (signed body)) [⟨[.key "TestHostBundleIdentifier"], .stringType⟩]) := by
  rw [SingleTarget.parse, block_loads body length]
  rfl

-- Twenty bytes hold more than forty-three digits.
theorem digits_in_bytes (blocks width : Nat) (wide : 20 * blocks ≤ width) : 10 ^ (43 * blocks) ≤ 256 ^ width :=
  calc 10 ^ (43 * blocks) = (10 ^ 43) ^ blocks := Nat.pow_mul 10 43 blocks
    _ ≤ (256 ^ 20) ^ blocks := Nat.pow_le_pow_left (by decide) blocks
    _ = 256 ^ (20 * blocks) := (Nat.pow_mul 256 20 blocks).symm
    _ ≤ 256 ^ width := Nat.pow_le_pow_right (by decide) wide

theorem signed_long (rest : List UInt8) (long : 20 * 100 ≤ rest.length) : ¬ Numeral.Short (signed (1 :: rest)) := by
  have meant : signed (1 :: rest) = bigEndian (1 :: rest) := rfl
  have high : 256 ^ rest.length ≤ bigEndian (1 :: rest) := by
    rw [big_endian_cons]
    exact Nat.le_trans (Nat.le_mul_of_pos_left _ Nat.one_pos) (Nat.le_add_right _ _)
  have digits : Numeral.maxDigits = 43 * 100 := rfl
  rw [Numeral.Short, meant, digits]
  exact Nat.not_lt.mpr (Nat.le_trans (digits_in_bytes 100 rest.length long) high)

def longInteger : List UInt8 := 1 :: List.replicate 2047 0

theorem long_integer_length : longInteger.length = 2048 := by
  rw [longInteger, List.length_cons, List.length_replicate]

theorem long_integer_unwritable : Numeral.integerText? (signed longInteger) = none := by
  have long : ¬ Numeral.Short (signed longInteger) := signed_long _ (by rw [List.length_replicate]; decide)
  rwa [← Numeral.writable_iff, Option.not_isSome_iff_eq_none] at long

theorem long_block_escapes :
    SingleTarget.parse (blockUnder longInteger).content = .error (.escape .integerTooLong) := by
  rw [block_refused longInteger long_integer_length, SingleTarget.failure, Value.display?, Value.literal?,
    long_integer_unwritable]
  · rfl
  all_goals simp

end TestRun.Format
