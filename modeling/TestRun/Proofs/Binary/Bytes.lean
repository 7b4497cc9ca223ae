import Mathlib.Algebra.Group.Int.Defs
import Mathlib.Algebra.Group.Nat.Defs
import TestRun.Plist.Binary.Object

/-! Numbers written with the highest byte first, and reading them back where they stand in a document. -/

set_option autoImplicit false

namespace TestRun.Plist.Binary

def write : (width : Nat) → Nat → List UInt8
  | 0, _ => []
  | width + 1, n => write width (n / 256) ++ [UInt8.ofNat (n % 256)]

def writeSigned (width : Nat) (i : Int) : List UInt8 :=
  write width (if i < 0 then i + (256 ^ width : Nat) else i).toNat

theorem write_length (width n : Nat) : (write width n).length = width := by
  induction width generalizing n with
  | zero => rfl
  | succ width ih => rw [write, List.length_append, ih, List.length_singleton]

theorem big_endian_snoc (bytes : List UInt8) (b : UInt8) : bigEndian (bytes ++ [b]) = bigEndian bytes * 256 + b.toNat := by
  rw [bigEndian, List.foldl_append]
  rfl

theorem big_endian_write (width n : Nat) (small : n < 256 ^ width) : bigEndian (write width n) = n := by
  induction width generalizing n with
  | zero =>
      have zero : n = 0 := by simpa using small
      rw [zero]
      rfl
  | succ width ih =>
      have quotient : n / 256 < 256 ^ width := by
        rw [Nat.pow_succ] at small
        exact Nat.div_lt_of_lt_mul (by rwa [Nat.mul_comm])
      have digit : (UInt8.ofNat (n % 256)).toNat = n % 256 := by
        rw [UInt8.toNat_ofNat']
        exact Nat.mod_eq_of_lt (Nat.mod_lt n (by decide))
      rw [write, big_endian_snoc, ih (n / 256) quotient, digit]
      omega

theorem big_endian_from (start : Nat) (bytes : List UInt8) :
    bytes.foldl (fun n b => n * 256 + b.toNat) start = start * 256 ^ bytes.length + bigEndian bytes := by
  induction bytes generalizing start with
  | nil => simp [bigEndian]
  | cons c rest ih =>
      have unfolded : bigEndian (c :: rest) = c.toNat * 256 ^ rest.length + bigEndian rest := by
        rw [bigEndian, List.foldl_cons, ih, Nat.zero_mul, Nat.zero_add]
      rw [List.foldl_cons, ih, unfolded, List.length_cons, Nat.pow_succ, Nat.add_mul, Nat.mul_assoc, Nat.mul_comm 256,
        Nat.add_assoc]

theorem big_endian_cons (b : UInt8) (bytes : List UInt8) :
    bigEndian (b :: bytes) = b.toNat * 256 ^ bytes.length + bigEndian bytes := by
  rw [bigEndian, List.foldl_cons, big_endian_from, Nat.zero_mul, Nat.zero_add]

theorem big_endian_lt (bytes : List UInt8) : bigEndian bytes < 256 ^ bytes.length := by
  induction bytes with
  | nil => simp [bigEndian]
  | cons b rest ih =>
      have byte := b.toNat_lt
      rw [big_endian_cons, List.length_cons, Nat.pow_succ]
      have product : b.toNat * 256 ^ rest.length ≤ 255 * 256 ^ rest.length := Nat.mul_le_mul_right _ (by omega)
      omega

theorem signed_eq (first : UInt8) (rest : List UInt8) :
    signed (first :: rest) =
      if 128 * 256 ^ rest.length ≤ bigEndian (first :: rest) then
        (bigEndian (first :: rest) : Int) - (256 ^ (rest.length + 1) : Nat)
      else bigEndian (first :: rest) := by
  have low := big_endian_lt rest
  -- The bytes behind the first one add less than one to its weight.
  have sign : (0x80 : UInt8) ≤ first ↔ 128 * 256 ^ rest.length ≤ bigEndian (first :: rest) := by
    rw [big_endian_cons]
    change 128 ≤ first.toNat ↔ _
    constructor
    · intro high
      have product : 128 * 256 ^ rest.length ≤ first.toNat * 256 ^ rest.length := Nat.mul_le_mul_right _ high
      omega
    · intro above
      apply Decidable.byContradiction
      intro small
      have product : first.toNat * 256 ^ rest.length ≤ 127 * 256 ^ rest.length := Nat.mul_le_mul_right _ (by omega)
      omega
  rw [signed]
  by_cases high : (0x80 : UInt8) ≤ first
  · rw [if_pos high, if_pos (sign.mp high)]
    rfl
  · rw [if_neg high, if_neg (mt sign.mpr high)]

theorem signed_write (width : Nat) (i : Int) (positive : 0 < width) (low : -(128 * 256 ^ (width - 1) : Nat) ≤ i)
    (high : i < (128 * 256 ^ (width - 1) : Nat)) : signed (writeSigned width i) = i := by
  have whole : 256 ^ width = 2 * (128 * 256 ^ (width - 1)) := by
    obtain ⟨n, rfl⟩ : ∃ n, width = n + 1 := ⟨width - 1, by omega⟩
    rw [Nat.pow_succ, Nat.add_sub_cancel]
    omega
  have bound : (if i < 0 then i + (256 ^ width : Nat) else i).toNat < 256 ^ width := by
    split <;> omega
  have read := big_endian_write width _ bound
  have length := write_length width (if i < 0 then i + (256 ^ width : Nat) else i).toNat
  unfold writeSigned
  cases bytes : write width (if i < 0 then i + (256 ^ width : Nat) else i).toNat with
  | nil =>
      rw [bytes] at length
      cases length
      exact absurd positive (by decide)
  | cons first rest =>
      rw [bytes] at read length
      have tail : rest.length = width - 1 := by
        rw [List.length_cons] at length
        omega
      have body : rest.length + 1 = width := by omega
      rw [signed_eq, read, body, tail]
      by_cases negative : i < 0
      · rw [if_pos negative, if_pos (by omega)]
        omega
      · rw [if_neg negative, if_neg (by omega)]
        omega

def Placed (bytes : List UInt8) (place : Nat) (content : List UInt8) : Prop := content <+: bytes.drop place

theorem placed_append (bytes : List UInt8) (place : Nat) (left right : List UInt8)
    (placed : Placed bytes place (left ++ right)) :
    Placed bytes place left ∧ Placed bytes (place + left.length) right := by
  obtain ⟨rest, parts⟩ := placed
  refine ⟨⟨right ++ rest, by rw [← parts, List.append_assoc]⟩, ⟨rest, ?_⟩⟩
  rw [← List.drop_drop, ← parts, List.append_assoc, List.drop_left]

theorem placed_cons (bytes : List UInt8) (place : Nat) (b : UInt8) (rest : List UInt8)
    (placed : Placed bytes place (b :: rest)) : bytes.toArray[place]? = some b ∧ Placed bytes (place + 1) rest := by
  refine ⟨?_, (placed_append bytes place [b] rest placed).2⟩
  obtain ⟨others, parts⟩ := placed
  have head := congrArg List.head? parts
  rw [List.head?_drop] at head
  rw [List.getElem?_toArray, ← head]
  rfl

theorem placed_within (bytes : List UInt8) (place : Nat) (content : List UInt8) (placed : Placed bytes place content)
    (solid : content ≠ []) : place + content.length ≤ bytes.length := by
  have length := placed.length_le
  have some := List.length_pos_iff.mpr solid
  rw [List.length_drop] at length
  omega

theorem placed_take (bytes : List UInt8) (place : Nat) (content : List UInt8) (placed : Placed bytes place content)
    (count : Nat) (whole : count = content.length) : (bytes.drop place).take count = content := by
  rw [whole]
  exact (List.prefix_iff_eq_take.mp placed).symm

theorem extract_list (bytes : List UInt8) (start stop : Nat) :
    (bytes.toArray.extract start stop).toList = (bytes.drop start).take (stop - start) := by simp

theorem slice_placed (bytes : List UInt8) (place : Nat) (content : List UInt8) (placed : Placed bytes place content)
    (count : Nat) (whole : count = content.length) : slice? bytes.toArray place count = some content := by
  unfold slice?
  cases content with
  | nil =>
      rw [List.length_nil] at whole
      rw [extract_list, whole]
      simp
  | cons b rest =>
      have within := placed_within bytes place _ placed (List.cons_ne_nil b rest)
      rw [List.size_toArray, if_pos (by rw [whole]; exact within), extract_list, Nat.add_sub_cancel_left,
        placed_take bytes place _ placed count whole]

theorem up_to_placed (bytes : List UInt8) (place : Nat) (content : List UInt8) (placed : Placed bytes place content)
    (count : Nat) (whole : count = content.length) : upTo bytes.toArray place count = content := by
  have fits : min count bytes.length = count := by
    have length := placed.length_le
    rw [List.length_drop] at length
    omega
  rw [upTo, extract_list, List.size_toArray, fits, Nat.add_sub_cancel_left, placed_take bytes place _ placed count whole]

theorem numbers_written (width : Nat) (ns : List Nat) (fit : ∀ n ∈ ns, n < 256 ^ width) :
    numbers width ns.length (ns.flatMap (write width)) = ns := by
  induction ns with
  | nil => rfl
  | cons n rest ih =>
      have length := write_length width n
      rw [List.length_cons, List.flatMap_cons, numbers, List.take_left' length, List.drop_left' length,
        big_endian_write width n (fit n (by simp)), ih fun m member => fit m (List.mem_cons_of_mem _ member)]

theorem written_length (width : Nat) (ns : List Nat) : (ns.flatMap (write width)).length = ns.length * width := by
  induction ns with
  | nil => simp
  | cons n rest ih => rw [List.flatMap_cons, List.length_append, ih, write_length, List.length_cons, Nat.succ_mul, Nat.add_comm]

theorem table_placed (bytes : List UInt8) (place width : Nat) (ns : List Nat) (wide : width ≠ 0)
    (fit : ∀ n ∈ ns, n < 256 ^ width) (placed : Placed bytes place (ns.flatMap (write width))) :
    table? bytes.toArray place ns.length width = some ns := by
  rw [table?, if_neg wide, slice_placed bytes place _ placed _ (written_length width ns).symm, Option.map_some,
    numbers_written width ns fit]

end TestRun.Plist.Binary
