import TestRun.Proofs.Binary.Bytes
import TestRun.Proofs.Binary.Graph
import TestRun.Proofs.Text.Encoding
import TestRun.Proofs.Value.Merge

/-! Property lists as they are written in binary: objects in any order, shared or not, of any width. -/

set_option autoImplicit false

namespace TestRun.Plist.Binary

open Environment (keyed)

inductive Head (high size : Nat) : List UInt8 → Prop where
  | brief (small : size < 15) : Head high size [UInt8.ofNat (high * 16 + size)]
  | long (power : Nat) (legal : power < 4) (fits : size < 256 ^ 2 ^ power) :
      Head high size (UInt8.ofNat (high * 16 + 15) :: UInt8.ofNat (16 + power) :: write (2 ^ power) size)

structure Image where
  lead : List UInt8
  bytes : List UInt8
  offsets : List Nat
  offsetWidth : Nat
  refWidth : Nat
  top : Nat
  table : Nat

namespace Image

def content (m : Image) : List UInt8 := m.lead ++ m.bytes

def layout (m : Image) : Layout := ⟨m.bytes.toArray, m.offsets.toArray, m.refWidth⟩

def Stands (m : Image) (ref : Nat) (written : List UInt8) : Prop :=
  ∃ place, m.offsets[ref]? = some place ∧ Placed m.bytes place written

def refs (m : Image) (numbers : List Nat) : List UInt8 := numbers.flatMap (write m.refWidth)

def Fits (m : Image) (numbers : List Nat) : Prop := ∀ n ∈ numbers, n < 256 ^ m.refWidth

inductive EncodedText (m : Image) (ref : Nat) (s : String) : Prop where
  | narrow (head : List UInt8) (headed : Head 5 s.toList.length head) (ascii : ∀ c ∈ s.toList, c.toNat < 0x80)
      (stands : m.Stands ref (head ++ s.toList.map fun c => UInt8.ofNat c.toNat)) : EncodedText m ref s
  | wide (head : List UInt8) (headed : Head 6 (Text.Utf16.units s.toList).length head)
      (stands : m.Stands ref (head ++ Text.Utf16.encodeBig s.toList)) : EncodedText m ref s

inductive Encoded (m : Image) : Nat → Value → Prop where
  | text (ref : Nat) (s : String) (encoded : m.EncodedText ref s) : Encoded m ref (.text s)
  | bool (ref : Nat) (b : Bool) (stands : m.Stands ref [if b then 9 else 8]) : Encoded m ref (.bool b)
  | unsigned (ref power n : Nat) (legal : power < 3) (fits : n < 256 ^ 2 ^ power)
      (stands : m.Stands ref (UInt8.ofNat (16 + power) :: write (2 ^ power) n)) : Encoded m ref (.int n)
  | signed (ref power : Nat) (i : Int) (long : 3 ≤ power) (legal : power < 16)
      (low : -(128 * 256 ^ (2 ^ power - 1) : Nat) ≤ i) (high : i < (128 * 256 ^ (2 ^ power - 1) : Nat))
      (stands : m.Stands ref (UInt8.ofNat (16 + power) :: writeSigned (2 ^ power) i)) : Encoded m ref (.int i)
  | data (ref : Nat) (head bytes : List UInt8) (headed : Head 4 bytes.length head) (stands : m.Stands ref (head ++ bytes)) :
      Encoded m ref (.data bytes)
  | array (ref : Nat) (head : List UInt8) (numbers : List Nat) (items : List Value)
      (headed : Head 0xa numbers.length head) (stands : m.Stands ref (head ++ m.refs numbers)) (fit : m.Fits numbers)
      (same : numbers.length = items.length) (parts : ∀ e ∈ numbers.zip items, Encoded m e.1 e.2) :
      Encoded m ref (.array items)
  | dict (ref : Nat) (head : List UInt8) (keys numbers : List Nat) (entries : Environment)
      (headed : Head 0xd entries.length head) (stands : m.Stands ref (head ++ (m.refs keys ++ m.refs numbers)))
      (keysFit : m.Fits keys) (fit : m.Fits numbers) (keysSame : keys.length = entries.length)
      (same : numbers.length = entries.length) (distinct : (entries.map (·.1)).Nodup)
      (named : ∀ e ∈ keys.zip entries, m.EncodedText e.1 e.2.1)
      (parts : ∀ e ∈ numbers.zip entries, Encoded m e.1 e.2.2) : Encoded m ref (.dict (keyed entries))

theorem start_of_stands (m : Image) (ref : Nat) (marker : UInt8) (rest : List UInt8)
    (stands : m.Stands ref (marker :: rest)) :
    ∃ place, m.layout.start? ref = some (place, marker.toNat) ∧ Placed m.bytes place rest := by
  obtain ⟨place, numbered, placed⟩ := stands
  obtain ⟨found, behind⟩ := placed_cons m.bytes place marker rest placed
  have offset : m.layout.offsets[ref]? = some place := by rw [layout, List.getElem?_toArray, numbered]
  have there : m.layout.bytes[place]? = some marker := found
  exact ⟨place + 1, by rw [Layout.start?, offset, Option.bind_eq_bind, Option.bind_some, there]; rfl, behind⟩

theorem head_read (m : Image) (ref high size : Nat) (head body : List UInt8) (small : high < 16)
    (headed : Head high size head) (stands : m.Stands ref (head ++ body)) :
    ∃ place marker behind, m.layout.start? ref = some (place, marker) ∧ marker / 16 = high ∧
      size? m.bytes.toArray place (marker % 16) = some (size, behind) ∧ Placed m.bytes behind body := by
  cases headed with
  | brief fits =>
      obtain ⟨place, started, placed⟩ := start_of_stands m ref _ body stands
      have marker := Text.Utf8.byte_to_nat (high * 16 + size) (by omega)
      refine ⟨place, _, place, started, by omega, ?_, placed⟩
      rw [marker, size?, if_neg (by omega), show (high * 16 + size) % 16 = size by omega]
  | long power legal fits =>
      obtain ⟨place, started, placed⟩ := start_of_stands m ref _ _ stands
      have marker := Text.Utf8.byte_to_nat (high * 16 + 15) (by omega)
      obtain ⟨found, behind⟩ := placed_cons m.bytes place _ _ placed
      obtain ⟨sized, rest⟩ := placed_append m.bytes (place + 1) _ _ behind
      have width : (UInt8.ofNat (16 + power)).toNat % 4 = power := by
        rw [Text.Utf8.byte_to_nat (16 + power) (by omega)]
        omega
      have length : Nat.pow 2 power = (write (2 ^ power) size).length := (write_length _ _).symm
      refine ⟨place, _, _, started, by omega, ?_, rest⟩
      rw [marker, size?, if_pos (by omega), found, Option.bind_eq_bind, Option.bind_some]
      dsimp only
      rw [width, slice_placed m.bytes (place + 1) _ sized _ length, Option.bind_eq_bind, Option.bind_some,
        big_endian_write _ size fits, length]

theorem scalar_data (bytes : Array UInt8) (place marker size behind : Nat) (upper : marker / 16 = 4)
    (sized : size? bytes place (marker % 16) = some (size, behind)) :
    scalar? bytes place marker = (slice? bytes behind size).map .data := by
  unfold scalar?
  dsimp only
  rw [if_neg (by omega), if_neg (by omega), if_neg (by omega), if_neg (by omega), if_neg (by omega), if_neg (by omega),
    if_neg (by omega), if_neg (by omega), if_pos upper, sized]
  rfl

theorem scalar_narrow (bytes : Array UInt8) (place marker size behind : Nat) (upper : marker / 16 = 5)
    (sized : size? bytes place (marker % 16) = some (size, behind)) :
    scalar? bytes place marker = (slice? bytes behind size).bind asciiText? := by
  unfold scalar?
  dsimp only
  rw [if_neg (by omega), if_neg (by omega), if_neg (by omega), if_neg (by omega), if_neg (by omega), if_neg (by omega),
    if_neg (by omega), if_neg (by omega), if_neg (by omega), if_pos upper, sized]
  rfl

theorem scalar_wide (bytes : Array UInt8) (place marker size behind : Nat) (upper : marker / 16 = 6)
    (sized : size? bytes place (marker % 16) = some (size, behind)) :
    scalar? bytes place marker = (slice? bytes behind (2 * size)).bind wideText? := by
  unfold scalar?
  dsimp only
  rw [if_neg (by omega), if_neg (by omega), if_neg (by omega), if_neg (by omega), if_neg (by omega), if_neg (by omega),
    if_neg (by omega), if_neg (by omega), if_neg (by omega), if_neg (by omega), if_pos upper, sized]
  rfl

theorem scalar_int (bytes : Array UInt8) (place power : Nat) (legal : power < 16) :
    scalar? bytes place (16 + power) =
      some (.int (if power < 3 then (bigEndian (upTo bytes place (2 ^ power)) : Int) else signed (upTo bytes place (2 ^ power)))) := by
  have low : (16 + power) % 16 = power := by omega
  unfold scalar?
  dsimp only
  rw [if_neg (by omega), if_neg (by omega), if_neg (by omega), if_neg (by omega), if_pos (by omega), low]
  rfl

theorem key_read (l : Layout) (ref place marker : Nat) (started : l.start? ref = some (place, marker)) :
    l.key? ref = scalar? l.bytes place marker := by
  rw [Layout.key?, started]
  rfl

theorem object_read (l : Layout) (ref place marker : Nat) (v : Value) (started : l.start? ref = some (place, marker))
    (noArray : marker / 16 ≠ 0xa) (noDict : marker / 16 ≠ 0xd) (read : scalar? l.bytes place marker = some v) :
    l.object? ref = some (.scalar v) := by
  rw [Layout.object?, started, Option.bind_eq_bind, Option.bind_some]
  dsimp only
  rw [if_neg noArray, if_neg noDict, read]
  rfl

theorem ascii_text (text : List Char) (ascii : ∀ c ∈ text, c.toNat < 0x80) :
    asciiText? (text.map fun c => UInt8.ofNat c.toNat) = some (.text (String.ofList text)) := by
  have small : (text.map fun c => UInt8.ofNat c.toNat).all (· < 0x80) = true := by
    apply List.all_eq_true.mpr
    intro b member
    obtain ⟨c, inText, rfl⟩ := List.mem_map.mp member
    have bound := ascii c inText
    have value := Text.Utf8.byte_to_nat c.toNat (by omega)
    exact decide_eq_true (UInt8.lt_iff_toNat_lt.mpr (by rw [value]; exact bound))
  have same : (text.map fun c => UInt8.ofNat c.toNat).map (fun b => Char.ofNat b.toNat) = text := by
    rw [List.map_map]
    refine (List.map_congr_left fun c member => ?_).trans (List.map_id text)
    change Char.ofNat (UInt8.ofNat c.toNat).toNat = c
    have bound := ascii c member
    rw [Text.Utf8.byte_to_nat c.toNat (by omega), Char.ofNat_toNat]
  rw [asciiText?, if_pos small, same]

theorem text_read (m : Image) (ref : Nat) (s : String) (encoded : m.EncodedText ref s) :
    m.layout.key? ref = some (.text s) ∧ m.layout.object? ref = some (.scalar (.text s)) := by
  have read : ∃ place marker, m.layout.start? ref = some (place, marker) ∧ marker / 16 ≠ 0xa ∧ marker / 16 ≠ 0xd ∧
      scalar? m.bytes.toArray place marker = some (.text s) := by
    cases encoded with
    | narrow head headed ascii stands =>
        obtain ⟨place, marker, behind, started, upper, sized, placed⟩ := head_read m ref 5 _ head _ (by decide) headed stands
        refine ⟨place, marker, started, by omega, by omega, ?_⟩
        rw [scalar_narrow _ place marker _ behind upper sized,
          slice_placed m.bytes behind _ placed _ (by rw [List.length_map]), Option.bind_some, ascii_text s.toList ascii,
          String.ofList_toList]
    | wide head headed stands =>
        obtain ⟨place, marker, behind, started, upper, sized, placed⟩ := head_read m ref 6 _ head _ (by decide) headed stands
        refine ⟨place, marker, started, by omega, by omega, ?_⟩
        rw [scalar_wide _ place marker _ behind upper sized,
          slice_placed m.bytes behind _ placed _ (Text.Utf16.encode_big_length s.toList).symm, Option.bind_some, wideText?,
          Text.Utf16.decode_encode_big, Option.map_some, String.ofList_toList]
  obtain ⟨place, marker, started, noArray, noDict, text⟩ := read
  exact ⟨(key_read m.layout ref place marker started).trans text,
    object_read m.layout ref place marker (.text s) started noArray noDict text⟩

theorem int_read (m : Image) (ref power : Nat) (i : Int) (body : List UInt8) (legal : power < 16)
    (length : body.length = 2 ^ power) (stands : m.Stands ref (UInt8.ofNat (16 + power) :: body))
    (meant : (if power < 3 then (bigEndian body : Int) else signed body) = i) :
    m.layout.object? ref = some (.scalar (.int i)) := by
  obtain ⟨place, started, placed⟩ := start_of_stands m ref _ body stands
  have marker := Text.Utf8.byte_to_nat (16 + power) (by omega)
  apply object_read m.layout ref place _ (.int i) started (by omega) (by omega)
  rw [marker]
  change scalar? m.bytes.toArray place (16 + power) = _
  rw [scalar_int _ place power legal, up_to_placed m.bytes place body placed _ length.symm, meant]

def slotsOf : Environment → (keys numbers : List Nat) → List Slot
  | entry :: entries, key :: keys, number :: numbers => ⟨.text entry.1, key, number⟩ :: slotsOf entries keys numbers
  | _, _, _ => []

theorem put_fresh (slot : Slot) (made : List Slot) (fresh : ∀ s ∈ made, s.sameKey slot = false) :
    Slot.put slot made = made ++ [slot] := by
  induction made with
  | nil => rfl
  | cons s rest ih =>
      obtain ⟨differs, others⟩ := List.forall_mem_cons.mp fresh
      rw [Slot.put, differs, if_neg (by decide), ih others]
      rfl

theorem slots_read (l : Layout) (entries : Environment) (keys numbers : List Nat) (made : List Slot)
    (keysSame : keys.length = entries.length) (same : numbers.length = entries.length)
    (distinct : (entries.map (·.1)).Nodup) (named : ∀ e ∈ keys.zip entries, l.key? e.1 = some (.text e.2.1))
    (before : ∀ s ∈ made, ∃ k, s.key = .text k ∧ l.key? s.keyRef = some (.text k) ∧ k ∉ entries.map (·.1)) :
    l.slots? keys numbers made = some (made ++ slotsOf entries keys numbers) := by
  -- The slots made so far have other keys than those to come, so no key is set twice.
  induction entries generalizing keys numbers made with
  | nil =>
      obtain rfl := List.length_eq_zero_iff.mp keysSame
      rw [Layout.slots?, slotsOf, List.append_nil] <;> simp
  | cons entry rest ih =>
      cases keys with
      | nil => cases keysSame
      | cons key keys =>
          cases numbers with
          | nil => cases same
          | cons number numbers =>
              obtain ⟨read, namedRest⟩ := List.forall_mem_cons.mp named
              obtain ⟨new, distinctRest⟩ := List.nodup_cons.mp distinct
              have fresh : ∀ s ∈ made, s.sameKey ⟨.text entry.1, key, number⟩ = false := by
                intro s member
                obtain ⟨k, spelled, known, absent⟩ := before s member
                have differs : k ≠ entry.1 := fun equal => absent (by simp [equal])
                have otherRef : s.keyRef ≠ key := by
                  intro equal
                  rw [equal, read] at known
                  exact differs (Value.text.inj (Option.some.inj known)).symm
                simp [Slot.sameKey, spelled, otherRef, Value.sameKey, differs]
              have after : ∀ s ∈ made ++ [⟨.text entry.1, key, number⟩],
                  ∃ k, s.key = .text k ∧ l.key? s.keyRef = some (.text k) ∧ k ∉ rest.map (·.1) := by
                intro s member
                rcases List.mem_append.mp member with old | last
                · obtain ⟨k, spelled, known, absent⟩ := before s old
                  exact ⟨k, spelled, known, fun later => absent (List.mem_cons_of_mem _ later)⟩
                · rw [List.mem_singleton.mp last]
                  exact ⟨entry.1, rfl, read, new⟩
              rw [Layout.slots?, read, Option.bind_eq_bind, Option.bind_some, put_fresh _ made fresh,
                ih keys numbers _ (Nat.succ.inj keysSame) (Nat.succ.inj same) distinctRest namedRest after, slotsOf,
                List.append_assoc]
              rfl

theorem slots_shape (entries : Environment) (keys numbers : List Nat) (keysSame : keys.length = entries.length)
    (same : numbers.length = entries.length) :
    (slotsOf entries keys numbers).map Slot.value = numbers ∧
      (slotsOf entries keys numbers).map Slot.key = (keyed entries).map (·.1) := by
  induction entries generalizing keys numbers with
  | nil =>
      obtain rfl := List.length_eq_zero_iff.mp same
      exact ⟨rfl, rfl⟩
  | cons entry rest ih =>
      cases keys with
      | nil => cases keysSame
      | cons key keys =>
          cases numbers with
          | nil => cases same
          | cons number numbers =>
              obtain ⟨values, names⟩ := ih keys numbers (Nat.succ.inj keysSame) (Nat.succ.inj same)
              exact ⟨congrArg (List.cons number) values, congrArg (List.cons (Value.text entry.1)) names⟩

theorem slots_parts (R : Nat → Value → Prop) (entries : Environment) (keys numbers : List Nat)
    (keysSame : keys.length = entries.length) (same : numbers.length = entries.length)
    (parts : ∀ e ∈ numbers.zip entries, R e.1 e.2.2) :
    ∀ e ∈ (slotsOf entries keys numbers).zip (keyed entries), R e.1.value e.2.2 := by
  induction entries generalizing keys numbers with
  | nil => simp [keyed]
  | cons entry rest ih =>
      cases keys with
      | nil => cases keysSame
      | cons key keys =>
          cases numbers with
          | nil => cases same
          | cons number numbers =>
              obtain ⟨head, tail⟩ := List.forall_mem_cons.mp parts
              exact List.forall_mem_cons.mpr ⟨head, ih keys numbers (Nat.succ.inj keysSame) (Nat.succ.inj same) tail⟩

theorem array_read (m : Image) (wide : m.refWidth ≠ 0) (ref : Nat) (head : List UInt8) (numbers : List Nat)
    (headed : Head 0xa numbers.length head) (stands : m.Stands ref (head ++ m.refs numbers)) (fit : m.Fits numbers) :
    m.layout.object? ref = some (.array numbers) := by
  obtain ⟨place, marker, behind, started, upper, sized, placed⟩ := head_read m ref 0xa _ head _ (by decide) headed stands
  rw [Layout.object?, started, Option.bind_eq_bind, Option.bind_some]
  dsimp only
  rw [if_pos upper]
  change (size? m.bytes.toArray place (marker % 16)).bind _ = _
  rw [sized, Option.bind_some]
  dsimp only
  have items := table_placed m.bytes behind m.refWidth numbers wide fit placed
  change (table? m.bytes.toArray behind numbers.length m.refWidth).bind _ = _
  rw [items]
  rfl

theorem dict_slots (m : Image) (wide : m.refWidth ≠ 0) (ref : Nat) (head : List UInt8) (keys numbers : List Nat)
    (headed : Head 0xd numbers.length head) (stands : m.Stands ref (head ++ (m.refs keys ++ m.refs numbers)))
    (keysFit : m.Fits keys) (fit : m.Fits numbers) (same : keys.length = numbers.length) :
    m.layout.object? ref = (m.layout.slots? keys numbers []).map fun slots => .dict slots numbers := by
  obtain ⟨place, marker, behind, started, upper, sized, placed⟩ := head_read m ref 0xd _ head _ (by decide) headed stands
  obtain ⟨keysPlaced, numbersPlaced⟩ := placed_append m.bytes behind _ _ placed
  have keyTable := table_placed m.bytes behind m.refWidth keys wide keysFit keysPlaced
  have numberTable := table_placed m.bytes _ m.refWidth numbers wide fit numbersPlaced
  rw [same] at keyTable
  rw [refs, written_length, same] at numberTable
  rw [Layout.object?, started, Option.bind_eq_bind, Option.bind_some]
  dsimp only
  rw [if_neg (by omega), if_pos upper]
  change (size? m.bytes.toArray place (marker % 16)).bind _ = _
  rw [sized, Option.bind_some]
  change (do
    let keys ← table? m.bytes.toArray behind numbers.length m.refWidth
    let values ← table? m.bytes.toArray (behind + numbers.length * m.refWidth) numbers.length m.refWidth
    let slots ← m.layout.slots? keys values []
    some (Object.dict slots values)) = _
  rw [keyTable, Option.bind_eq_bind, Option.bind_some, numberTable, Option.bind_eq_bind, Option.bind_some]
  cases m.layout.slots? keys numbers [] <;> rfl

theorem dict_read (m : Image) (wide : m.refWidth ≠ 0) (ref : Nat) (head : List UInt8) (keys numbers : List Nat)
    (entries : Environment) (headed : Head 0xd entries.length head)
    (stands : m.Stands ref (head ++ (m.refs keys ++ m.refs numbers))) (keysFit : m.Fits keys) (fit : m.Fits numbers)
    (keysSame : keys.length = entries.length) (same : numbers.length = entries.length)
    (distinct : (entries.map (·.1)).Nodup) (named : ∀ e ∈ keys.zip entries, m.EncodedText e.1 e.2.1) :
    m.layout.object? ref = some (.dict (slotsOf entries keys numbers) numbers) := by
  have slots := slots_read m.layout entries keys numbers [] keysSame same distinct
    (fun e member => (text_read m e.1 e.2.1 (named e member)).1) (by simp)
  rw [dict_slots m wide ref head keys numbers (by rw [same]; exact headed) stands keysFit fit (keysSame.trans same.symm),
    slots]
  rfl

theorem encoded_holds (m : Image) (wide : m.refWidth ≠ 0) (ref : Nat) (v : Value) (encoded : m.Encoded ref v) :
    Holds m.layout ref v := by
  induction encoded with
  | text ref s text => exact .scalar ref _ (text_read m ref s text).2
  | bool ref b stands =>
      obtain ⟨place, started, -⟩ := start_of_stands m ref _ [] stands
      refine .scalar ref _ (object_read m.layout ref place _ (.bool b) started ?_ ?_ ?_)
      · cases b <;> decide
      · cases b <;> decide
      · cases b <;> rfl
  | unsigned ref power n legal fits stands =>
      have meant := big_endian_write (2 ^ power) n fits
      exact .scalar ref _ (int_read m ref power n _ (by omega) (write_length _ _) stands (by rw [if_pos legal, meant]))
  | signed ref power i long legal low high stands =>
      have meant := signed_write (2 ^ power) i (Nat.pow_pos (by decide)) low high
      refine .scalar ref _ (int_read m ref power i _ legal (write_length _ _) stands ?_)
      rw [if_neg (by omega)]
      exact meant
  | data ref head bytes headed stands =>
      obtain ⟨place, marker, behind, started, upper, sized, placed⟩ := head_read m ref 4 _ head _ (by decide) headed stands
      refine .scalar ref _ (object_read m.layout ref place marker (.data bytes) started (by omega) (by omega) ?_)
      change scalar? m.bytes.toArray place marker = _
      rw [scalar_data _ place marker _ behind upper sized, slice_placed m.bytes behind bytes placed _ rfl]
      rfl
  | array ref head numbers items headed stands fit same _ ih =>
      exact .array ref numbers items (array_read m wide ref head numbers headed stands fit) same ih
  | dict ref head keys numbers entries headed stands keysFit fit keysSame same distinct named _ ih =>
      obtain ⟨values, names⟩ := slots_shape entries keys numbers keysSame same
      have stored := dict_read m wide ref head keys numbers entries headed stands keysFit fit keysSame same distinct named
      refine .dict ref (slotsOf entries keys numbers) (keyed entries) (by rw [values]; exact stored) names ?_
      exact slots_parts (Holds m.layout) entries keys numbers keysSame same ih

end Image
end TestRun.Plist.Binary
