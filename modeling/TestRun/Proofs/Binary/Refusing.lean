import TestRun.Proofs.Binary.Assembled

/-! What becomes of any bytes that have the header of a binary property list. -/

set_option autoImplicit false

namespace TestRun.Plist.Binary

inductive Shaped : Object → Value → Prop where
  | scalar (v : Value) : Shaped (.scalar v) v
  | array (refs : List Nat) (items : List Value) : Shaped (.array refs) (.array items)
  | dict (slots : List Slot) (values : List Nat) (entries : Entries) (keys : entries.map (·.1) = slots.map Slot.key) :
      Shaped (.dict slots values) (.dict entries)

def AllShaped (objects : Objects) (values : Values) : Prop :=
  ∀ ref v, values.get? ref = some v → ∃ o, objects[ref]?.join = some o ∧ Shaped o v

theorem ascii_no_dict (bytes : List UInt8) (entries : Entries) : asciiText? bytes ≠ some (.dict entries) := by
  unfold asciiText?
  split <;> simp

theorem wide_no_dict (bytes : List UInt8) (entries : Entries) : wideText? bytes ≠ some (.dict entries) := by
  simp [wideText?]

theorem scalar_no_dict (bytes : Array UInt8) (place marker : Nat) (entries : Entries) :
    scalar? bytes place marker ≠ some (.dict entries) := by
  have either (c : Prop) [Decidable c] (a b : Option Value) (first : a ≠ some (.dict entries))
      (second : b ≠ some (.dict entries)) : (if c then a else b) ≠ some (.dict entries) := by
    split
    · exact first
    · exact second
  unfold scalar?
  dsimp only
  refine either _ _ _ (by simp) <| either _ _ _ (by simp) <| either _ _ _ (by simp) <| either _ _ _ (by simp) <|
    either _ _ _ (by simp) <| either _ _ _ (by simp) <| either _ _ _ (by simp) <|
    either _ _ _ (by simp [Option.bind_eq_some_iff]) <| either _ _ _ (by simp [Option.bind_eq_some_iff]) <|
    either _ _ _ ?_ <| either _ _ _ ?_ <| either _ _ _ (either _ _ _ (by simp) (by simp)) (by simp)
  · simp [Option.bind_eq_some_iff, ascii_no_dict]
  · simp [Option.bind_eq_some_iff, wide_no_dict]

theorem put_values (slot : Slot) (made : List Slot) :
    ∀ s ∈ Slot.put slot made, s.value = slot.value ∨ s ∈ made := by
  induction made with
  | nil => simp [Slot.put]
  | cons first rest ih =>
      intro s member
      by_cases same : first.sameKey slot = true
      · rw [Slot.put, if_pos same] at member
        rcases List.mem_cons.mp member with rfl | later
        · exact .inl rfl
        · exact .inr (List.mem_cons_of_mem _ later)
      · rw [Slot.put, if_neg same] at member
        rcases List.mem_cons.mp member with rfl | later
        · exact .inr List.mem_cons_self
        · exact (ih s later).imp_right (List.mem_cons_of_mem _)

theorem slots_values (l : Layout) (keys values : List Nat) (made slots : List Slot)
    (read : l.slots? keys values made = some slots) : ∀ slot ∈ slots, slot.value ∈ values ∨ slot ∈ made := by
  induction keys generalizing values made with
  | nil =>
      obtain rfl : made = slots := by simpa [Layout.slots?] using read
      exact fun slot member => .inr member
  | cons keyRef keys ih =>
      cases values with
      | nil =>
          obtain rfl : made = slots := by simpa [Layout.slots?] using read
          exact fun slot member => .inr member
      | cons value values =>
          obtain ⟨key, -, rest⟩ := Option.bind_eq_some_iff.mp read
          intro slot member
          rcases ih values _ rest slot member with later | before
          · exact .inl (List.mem_cons_of_mem _ later)
          · rcases put_values ⟨key, keyRef, value⟩ made slot before with this | old
            · exact .inl (by rw [this]; exact List.mem_cons_self)
            · exact .inr old

theorem object_slots (l : Layout) (ref : Nat) (slots : List Slot) (values : List Nat)
    (stored : l.object? ref = some (.dict slots values)) : ∀ slot ∈ slots, slot.value ∈ values := by
  unfold Layout.object? at stored
  obtain ⟨⟨place, marker⟩, -, stored⟩ := Option.bind_eq_some_iff.mp stored
  dsimp only at stored
  split at stored
  · simp [Option.bind_eq_some_iff] at stored
  · split at stored
    · obtain ⟨⟨size, body⟩, -, stored⟩ := Option.bind_eq_some_iff.mp stored
      obtain ⟨keys, -, stored⟩ := Option.bind_eq_some_iff.mp stored
      obtain ⟨refs, -, stored⟩ := Option.bind_eq_some_iff.mp stored
      obtain ⟨made, read, stored⟩ := Option.bind_eq_some_iff.mp stored
      obtain ⟨rfl, rfl⟩ : made = slots ∧ refs = values := by simpa using stored
      exact fun slot member => (slots_values l keys refs [] made read slot member).resolve_right List.not_mem_nil
    · simp at stored

theorem object_scalar_no_dict (l : Layout) (ref : Nat) (v : Value) (stored : l.object? ref = some (.scalar v))
    (entries : Entries) : v ≠ .dict entries := by
  rintro rfl
  unfold Layout.object? at stored
  obtain ⟨⟨place, marker⟩, -, stored⟩ := Option.bind_eq_some_iff.mp stored
  dsimp only at stored
  split at stored
  · simp [Option.bind_eq_some_iff] at stored
  · split at stored
    · simp [Option.bind_eq_some_iff] at stored
    · obtain ⟨v, read, same⟩ := Option.map_eq_some_iff.mp stored
      cases same
      exact scalar_no_dict l.bytes place marker entries read

theorem entries_keys (values : Values) (slots : List Slot) (entries : Entries)
    (made : slots.mapM (fun slot => (values.get? slot.value).map fun v => (slot.key, v)) = some entries) :
    entries.map (·.1) = slots.map Slot.key := by
  induction slots generalizing entries with
  | nil =>
      obtain rfl : [] = entries := Option.some.inj made
      rfl
  | cons slot rest ih =>
      rw [List.mapM_cons] at made
      obtain ⟨entry, head, made⟩ := Option.bind_eq_some_iff.mp made
      obtain ⟨others, tail, made⟩ := Option.bind_eq_some_iff.mp made
      obtain rfl : entry :: others = entries := Option.some.inj made
      obtain ⟨v, -, rfl⟩ := Option.map_eq_some_iff.mp head
      rw [List.map_cons, List.map_cons, ih others tail]

theorem value_shaped (values : Values) (o : Object) (v : Value) (made : o.value? values = some v) : Shaped o v := by
  cases o with
  | scalar w =>
      obtain rfl := Option.some.inj made
      exact .scalar w
  | array refs =>
      obtain ⟨items, -, same⟩ := Option.bind_eq_some_iff.mp made
      obtain rfl := Option.some.inj same
      exact .array refs items
  | dict slots refs =>
      obtain ⟨entries, read, same⟩ := Option.bind_eq_some_iff.mp made
      obtain rfl := Option.some.inj same
      exact .dict slots refs entries (entries_keys values slots entries read)

theorem extend_shaped (objects : Objects) (values parts : Values) (same : values.size = objects.size)
    (shaped : AllShaped objects values) : AllShaped objects (values.extend objects parts) := by
  intro ref v got
  rw [extend_get objects values parts same] at got
  cases old : values.get? ref with
  | some w =>
      rw [old] at got
      obtain rfl := Option.some.inj got
      exact shaped ref w old
  | none =>
      rw [old, Option.none_or] at got
      obtain ⟨o, there, made⟩ := Option.bind_eq_some_iff.mp got
      exact ⟨o, there, value_shaped parts o v made⟩

theorem settle_shaped (objects : Objects) (rounds : Nat) (values : Values) (same : values.size = objects.size)
    (shaped : AllShaped objects values) :
    (values.settle objects rounds).size = objects.size ∧ AllShaped objects (values.settle objects rounds) := by
  induction rounds generalizing values with
  | zero => exact ⟨same, shaped⟩
  | succ rounds ih =>
      rw [Values.settle]
      split
      · exact ⟨same, shaped⟩
      · exact ih _ ((extend_size objects values values).trans same) (extend_shaped objects values values same shaped)

theorem values_shaped (objects : Objects) :
    objects.values.size = objects.size ∧ AllShaped objects objects.values := by
  refine settle_shaped objects objects.size _ (by simp) fun ref v got => ?_
  rw [Values.get?, Array.getElem?_replicate] at got
  split at got <;> cases got

theorem map_m_some {α β : Type} (f : α → Option β) (xs : List α) (all : ∀ x ∈ xs, (f x).isSome = true) :
    (xs.mapM f).isSome = true := by
  induction xs with
  | nil => rfl
  | cons x rest ih =>
      obtain ⟨head, tail⟩ := List.forall_mem_cons.mp all
      obtain ⟨y, found⟩ := Option.isSome_iff_exists.mp head
      obtain ⟨ys, others⟩ := Option.isSome_iff_exists.mp (ih tail)
      rw [List.mapM_cons, found, others]
      rfl

theorem value_found (l : Layout) (ref : Nat) (o : Object) (stored : l.object? ref = some o) (parts : Values)
    (all : ∀ part ∈ o.parts, Found parts part) : (o.value? parts).isSome = true := by
  cases o with
  | scalar v => rfl
  | array refs =>
      obtain ⟨items, made⟩ := Option.isSome_iff_exists.mp (map_m_some parts.get? refs all)
      rw [Object.value?, made]
      rfl
  | dict slots refs =>
      have known := object_slots l ref slots refs stored
      have each : ∀ slot ∈ slots, ((parts.get? slot.value).map fun v => (slot.key, v)).isSome = true := by
        intro slot member
        rw [Option.isSome_map]
        exact all slot.value (known slot member)
      obtain ⟨entries, made⟩ := Option.isSome_iff_exists.mp (map_m_some _ slots each)
      rw [Object.value?, made]
      rfl

theorem unroll_found (l : Layout) (root : Nat) (objects : Objects) (values : Values) (progress : Progress l root objects [])
    (same : values.size = objects.size) (depth ref : Nat) (found : Found objects ref) :
    Found (values.unroll objects depth) ref := by
  induction depth generalizing ref with
  | zero =>
      have inside := found_bound objects ref found
      rw [Found, Values.unroll, Array.getElem?_mapIdx, Array.getElem?_eq_getElem (by omega)]
      cases values[ref] <;> rfl
  -- All parts of the object are read, and have values one level deeper.
  | succ depth ih =>
      obtain ⟨o, there⟩ := Option.isSome_iff_exists.mp found
      have stored := progress.known ref o there
      have parts : ∀ part ∈ o.parts, Found (values.unroll objects depth) part := fun part member =>
        ih part ((progress.closed ref o there part member).resolve_left List.not_mem_nil)
      change (Values.get? (values.extend objects (values.unroll objects depth)) ref).isSome = true
      rw [extend_get objects values _ same, there, Option.bind_some, Option.isSome_or,
        value_found l ref o stored _ parts, Bool.or_true]

theorem root_found (bytes : List UInt8) (l : Layout) (root : Nat) (laid : layout? bytes.toArray = some (l, root))
    (complete : Complete l root) :
    ∃ o v, l.object? root = some o ∧ Shaped o v ∧ root? bytes = some v := by
  obtain ⟨objects, made⟩ := (objects_some_iff l root).mpr complete
  obtain ⟨progress, all⟩ := objects_read l root objects made
  obtain ⟨size, shaped⟩ := values_shaped objects
  have read : root? bytes = (objects.values.get? root).or ((objects.values.unroll objects schemaDepth).get? root) := by
    rw [root_objects bytes l root laid, made, Option.bind_some]
  -- The outermost level of an unrolled root is made like every other value.
  have unrolled : AllShaped objects (objects.values.unroll objects schemaDepth) :=
    extend_shaped objects objects.values _ size shaped
  rw [read]
  cases settled : objects.values.get? root with
  | some v =>
      obtain ⟨o, there, kind⟩ := shaped root v settled
      exact ⟨o, v, progress.known root o there, kind, rfl⟩
  | none =>
      obtain ⟨v, got⟩ := Option.isSome_iff_exists.mp
        (unroll_found l root objects objects.values progress size schemaDepth root (all root .root))
      obtain ⟨o, there, kind⟩ := unrolled root v got
      exact ⟨o, v, progress.known root o there, kind, got⟩

def Broken (bytes : List UInt8) : Prop :=
  layout? bytes.toArray = none ∨
    ∃ l root ref, layout? bytes.toArray = some (l, root) ∧ Leads l root ref ∧ l.object? ref = none

def RootedIn (bytes : List UInt8) (o : Object) : Prop :=
  ∃ l root, layout? bytes.toArray = some (l, root) ∧ Complete l root ∧ l.object? root = some o

theorem broken_or_rooted (bytes : List UInt8) : Broken bytes ∨ ∃ o, RootedIn bytes o := by
  cases laid : layout? bytes.toArray with
  | none => exact .inl (.inl laid)
  | some both =>
      obtain ⟨l, root⟩ := both
      by_cases missing : ∃ ref, Leads l root ref ∧ l.object? ref = none
      · obtain ⟨ref, led, absent⟩ := missing
        exact .inl (.inr ⟨l, root, ref, laid, led, absent⟩)
      · have complete : Complete l root := by
          intro ref led
          cases stored : l.object? ref with
          | none => exact absurd ⟨ref, led, stored⟩ missing
          | some o => exact ⟨o, rfl⟩
        obtain ⟨o, stored⟩ := complete root .root
        exact .inr ⟨o, l, root, laid, complete, stored⟩

theorem broken_read (bytes : List UInt8) (broken : Broken bytes) : root? bytes = none := by
  rcases broken with unlaid | ⟨l, root, ref, laid, led, missing⟩
  · rw [root?, unlaid]
    rfl
  · have unread : objects? l root = none := by
      cases made : objects? l root with
      | none => rfl
      | some objects =>
          obtain ⟨o, stored⟩ := (objects_some_iff l root).mp ⟨objects, made⟩ ref led
          rw [stored] at missing
          cases missing
    rw [root_objects bytes l root laid, unread, Option.bind_none]

theorem rooted_read (bytes : List UInt8) (o : Object) (rooted : RootedIn bytes o) :
    ∃ v, Shaped o v ∧ root? bytes = some v := by
  obtain ⟨l, root, laid, complete, stored⟩ := rooted
  obtain ⟨other, v, there, shaped, read⟩ := root_found bytes l root laid complete
  obtain rfl := Option.some.inj (stored.symm.trans there)
  exact ⟨v, shaped, read⟩

theorem headed_load (lead rest : List UInt8) (blank : ∀ b ∈ lead, Text.isAsciiBlankCode b.toNat = true) :
    Document.load (lead ++ (ascii "bplist00" ++ rest)) =
      match root? (ascii "bplist00" ++ rest) with
      | some v => Document.ofRoot v
      | none => .error (.problem (.notPropertyList .unrecognized)) := by
  have bare : stripped (lead ++ (ascii "bplist00" ++ rest)) = ascii "bplist00" ++ rest := by
    rw [stripped, List.dropWhile_append_of_pos blank]
    rfl
  have noMarkup : isMarkup (ascii "bplist00" ++ rest) = false := rfl
  have binary : isBinary (ascii "bplist00" ++ rest) = true := rfl
  rw [Document.load, Plist.read, bare, noMarkup, if_neg (by decide), if_pos binary]
  cases root? (ascii "bplist00" ++ rest) <;> rfl

inductive Made : Object → Except Failure Entries → Prop where
  | scalar (v : Value) (kind : String) : Made (.scalar v) (.error (.problem (.notDictionary kind)))
  | array (refs : List Nat) (kind : String) : Made (.array refs) (.error (.problem (.notDictionary kind)))
  | dict (slots : List Slot) (values : List Nat) (entries : Entries) (keys : entries.map (·.1) = slots.map Slot.key) :
      Made (.dict slots values) (.ok entries)

theorem root_made (l : Layout) (root : Nat) (o : Object) (v : Value) (stored : l.object? root = some o) (shaped : Shaped o v) :
    Made o (Document.ofRoot v) := by
  cases shaped with
  | scalar =>
      have single := object_scalar_no_dict l root v stored
      cases v with
      | dict entries => exact absurd rfl (single entries)
      | _ => exact .scalar _ _
  | array refs items => exact .array refs _
  | dict slots values entries keys => exact .dict slots values entries keys

theorem broken_load (lead rest : List UInt8) (blank : ∀ b ∈ lead, Text.isAsciiBlankCode b.toNat = true)
    (broken : Broken (ascii "bplist00" ++ rest)) :
    Document.load (lead ++ (ascii "bplist00" ++ rest)) = .error (.problem (.notPropertyList .unrecognized)) := by
  rw [headed_load lead rest blank, broken_read _ broken]

theorem rooted_load (lead rest : List UInt8) (blank : ∀ b ∈ lead, Text.isAsciiBlankCode b.toNat = true) (o : Object)
    (rooted : RootedIn (ascii "bplist00" ++ rest) o) : Made o (Document.load (lead ++ (ascii "bplist00" ++ rest))) := by
  obtain ⟨v, shaped, read⟩ := rooted_read _ o rooted
  obtain ⟨l, root, -, -, stored⟩ := rooted
  rw [headed_load lead rest blank, read]
  exact root_made l root o v stored shaped

theorem headed_loads_or_is_malformed (lead rest : List UInt8) (blank : ∀ b ∈ lead, Text.isAsciiBlankCode b.toNat = true) :
    ((∃ entries, Document.load (lead ++ (ascii "bplist00" ++ rest)) = .ok entries) ∨
      ∃ p : Problem, Document.load (lead ++ (ascii "bplist00" ++ rest)) = .error (.problem p) ∧
        p.code = .malformedDocument) ∧
      (∀ keys : List Value,
        (∃ entries, Document.load (lead ++ (ascii "bplist00" ++ rest)) = .ok entries ∧ entries.map (·.1) = keys) ↔
          ∃ slots values, RootedIn (ascii "bplist00" ++ rest) (.dict slots values) ∧ slots.map Slot.key = keys) ∧
      (Document.load (lead ++ (ascii "bplist00" ++ rest)) = .error (.problem (.notPropertyList .unrecognized)) ↔
        Broken (ascii "bplist00" ++ rest)) := by
  have whenBroken := broken_load lead rest blank
  have whenRooted := rooted_load lead rest blank
  generalize Document.load (lead ++ (ascii "bplist00" ++ rest)) = loaded at *
  refine ⟨?_, fun keys => ⟨?_, ?_⟩, ?_, whenBroken⟩
  · rcases broken_or_rooted (ascii "bplist00" ++ rest) with broken | ⟨o, rooted⟩
    · exact .inr ⟨_, whenBroken broken, rfl⟩
    · cases whenRooted o rooted with
      | scalar v kind => exact .inr ⟨_, rfl, rfl⟩
      | array refs kind => exact .inr ⟨_, rfl, rfl⟩
      | dict slots values entries same => exact .inl ⟨entries, rfl⟩
  · rintro ⟨entries, rfl, rfl⟩
    rcases broken_or_rooted (ascii "bplist00" ++ rest) with broken | ⟨o, rooted⟩
    · cases whenBroken broken
    · cases whenRooted o rooted with
      | dict slots values _ same => exact ⟨slots, values, rooted, same.symm⟩
  · rintro ⟨slots, values, rooted, rfl⟩
    cases whenRooted _ rooted with
    | dict _ _ entries same => exact ⟨entries, rfl, same⟩
  · rintro rfl
    rcases broken_or_rooted (ascii "bplist00" ++ rest) with broken | ⟨o, rooted⟩
    · exact broken
    · cases whenRooted o rooted

def loopImage : Image := Image.assembled (ascii "bplist00" ++ [0xd1, 1, 0, 0x51, 97]) [8, 11] 1

theorem loop_image_rooted : RootedIn loopImage.bytes (.dict [⟨.text "a", 1, 0⟩] [0]) := by
  have sound : loopImage.Sound := Image.assembled_sound _ _ _ ⟨_, rfl⟩ (by decide) (by decide) (by decide) (by decide)
  have name : loopImage.EncodedText 1 "a" :=
    .narrow _ (.brief (by decide)) (by simp)
      (Image.assembled_stands _ _ _ 1 11 _ rfl (by decide) (by unfold Placed; decide))
  have stored : loopImage.layout.object? 0 = some (.dict [⟨.text "a", 1, 0⟩] [0]) :=
    Image.dict_read loopImage (by decide) 0 [0xd1] [1] [0] [("a", .null)] (.brief (by decide))
      (Image.assembled_stands _ _ _ 0 8 _ rfl (by decide) (by unfold Placed; decide))
      (by unfold Image.Fits; decide) (by unfold Image.Fits; decide) rfl rfl (by simp) (by simpa using name)
  refine ⟨loopImage.layout, 0, Image.layout_read loopImage sound, ?_, stored⟩
  have only : ∀ ref, Leads loopImage.layout 0 ref → ref = 0 := by
    intro ref led
    induction led with
    | root => rfl
    | part ref part o _ found member ih =>
        subst ih
        obtain rfl := Option.some.inj (stored.symm.trans found)
        exact List.mem_singleton.mp member
  intro ref led
  rw [only ref led]
  exact ⟨_, stored⟩

theorem loop_loads_and_bare_header_is_malformed :
    (∃ entries, Document.load (10 :: loopImage.bytes) = .ok entries ∧ entries.map (·.1) = [.text "a"]) ∧
      Document.load ([10] ++ (ascii "bplist00" ++ [])) = .error (.problem (.notPropertyList .unrecognized)) := by
  have blank : ∀ b ∈ [(10 : UInt8)], Text.isAsciiBlankCode b.toNat = true := List.all_eq_true.mp rfl
  obtain ⟨-, loads, -⟩ := headed_loads_or_is_malformed [10] (loopImage.bytes.drop 8) blank
  obtain ⟨-, -, malformed⟩ := headed_loads_or_is_malformed [10] [] blank
  exact ⟨(loads [.text "a"]).mpr ⟨_, _, loop_image_rooted, rfl⟩, malformed.mpr (.inl rfl)⟩

end TestRun.Plist.Binary
