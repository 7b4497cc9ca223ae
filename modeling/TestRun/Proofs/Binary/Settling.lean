import TestRun.Proofs.Binary.Graph

/-! The values that are made from the inside out. -/

set_option autoImplicit false

namespace TestRun.Plist.Binary

def Right (l : Layout) (values : Values) : Prop :=
  ∀ ref v w, Holds l ref v → values.get? ref = some w → w = v

theorem extend_size (objects : Objects) (values parts : Values) : (values.extend objects parts).size = values.size := by
  simp [Values.extend]

theorem extend_get (objects : Objects) (values parts : Values) (same : values.size = objects.size) (ref : Nat) :
    (values.extend objects parts).get? ref =
      (values.get? ref).or (objects[ref]?.join.bind (Object.value? parts)) := by
  rw [Values.get?, Values.get?, Values.extend, Array.getElem?_mapIdx]
  by_cases inside : ref < values.size
  · rw [Array.getElem?_eq_getElem inside]
    cases values[ref] with
    | none => rfl
    | some v => rfl
  · have noObject : objects[ref]? = none := Array.getElem?_eq_none (by omega)
    have noValue : values[ref]? = none := Array.getElem?_eq_none (by omega)
    rw [noObject, noValue]
    rfl

theorem slots_keys (slots : List Slot) (entries : Entries) (keys : slots.map Slot.key = entries.map (·.1)) :
    ∀ e ∈ slots.zip entries, e.1.key = e.2.1 := by
  induction slots generalizing entries with
  | nil => simp
  | cons slot rest ih =>
      cases entries with
      | nil => simp
      | cons entry others =>
          obtain ⟨head, tail⟩ := List.cons.inj keys
          rw [List.zip_cons_cons]
          exact List.forall_mem_cons.mpr ⟨head, ih others tail⟩

theorem value_right (l : Layout) (values : Values) (right : Right l values) (ref : Nat) (v w : Value) (o : Object)
    (holds : Holds l ref v) (stored : l.object? ref = some o) (made : o.value? values = some w) : w = v := by
  cases holds with
  | scalar _ _ found =>
      obtain rfl := Option.some.inj (found.symm.trans stored)
      exact (Option.some.inj made).symm
  | array _ refs items found same parts =>
      obtain rfl := Option.some.inj (found.symm.trans stored)
      obtain ⟨ws, read, joined⟩ := Option.bind_eq_some_iff.mp made
      obtain rfl := Option.some.inj joined
      have all := map_m_only values.get? refs items id ws same read
        fun e member w there => right e.1 e.2 w (parts e member) there
      rw [all, List.map_id]
  | dict _ slots entries found keys parts =>
      obtain rfl := Option.some.inj (found.symm.trans stored)
      obtain ⟨ws, read, joined⟩ := Option.bind_eq_some_iff.mp made
      obtain rfl := Option.some.inj joined
      have all := map_m_only _ slots entries id ws (slots_same slots entries keys) read ?_
      · rw [all, List.map_id]
      · intro e member w there
        obtain ⟨value, got, rfl⟩ := Option.map_eq_some_iff.mp there
        rw [right e.1.value e.2.2 value (parts e member) got, slots_keys slots entries keys e member]
        rfl

theorem extend_right (l : Layout) (objects : Objects) (values : Values) (same : values.size = objects.size)
    (known : ∀ (ref : Nat) (o : Object), objects[ref]?.join = some o → l.object? ref = some o) (right : Right l values) :
    Right l (values.extend objects values) := by
  intro ref v w holds got
  rw [extend_get objects values values same] at got
  cases old : values.get? ref with
  | some u =>
      rw [old] at got
      obtain rfl := Option.some.inj got
      exact right ref v u holds old
  | none =>
      rw [old, Option.none_or] at got
      obtain ⟨o, there, made⟩ := Option.bind_eq_some_iff.mp got
      exact value_right l values right ref v w o holds (known ref o there) made

theorem extend_kept (objects : Objects) (values parts : Values) (same : values.size = objects.size) (place : Nat)
    (found : Found values place) : Found (values.extend objects parts) place := by
  change (Values.get? values place).isSome = true at found
  change (Values.get? (values.extend objects parts) place).isSome = true
  rw [extend_get objects values parts same, Option.isSome_or, found]
  rfl

def Settled (objects : Objects) (values : Values) : Prop :=
  ∀ (ref : Nat) (o : Object), objects[ref]?.join = some o → (o.value? values).isSome = true → Found values ref

-- A round that finds nothing new has nothing left to find, and each other round finds something, so
-- when the rounds run out everything has been found.
theorem settle_settled (objects : Objects) (rounds : Nat) (values : Values) (same : values.size = objects.size)
    (enough : objects.size ≤ filled values + rounds) : Settled objects (values.settle objects rounds) := by
  induction rounds generalizing values with
  | zero =>
      intro ref o there _
      have inside := found_bound objects ref (found_some objects ref o there)
      exact filled_all values (by omega) ref (by omega)
  | succ rounds ih =>
      have size := extend_size objects values values
      have kept := extend_kept objects values values same
      have grown := filled_le values (values.extend objects values) size.symm kept
      rw [Values.settle]
      by_cases stable : (values.extend objects values).count = values.count
      -- The round found nothing, so what it could have found was there before it.
      · rw [if_pos stable]
        intro ref o there made
        apply filled_same values _ size.symm kept (Nat.le_of_eq stable) ref
        change (Values.get? (values.extend objects values) ref).isSome = true
        rw [extend_get objects values values same, there, Option.isSome_or]
        exact Bool.or_eq_true_iff.mpr (.inr made)
      · rw [if_neg stable]
        have more : filled values < filled (values.extend objects values) :=
          Nat.lt_of_le_of_ne grown fun equal => stable equal.symm
        exact ih (values.extend objects values) (size.trans same) (by omega)

theorem settle_right (l : Layout) (objects : Objects) (rounds : Nat) (values : Values)
    (same : values.size = objects.size)
    (known : ∀ (ref : Nat) (o : Object), objects[ref]?.join = some o → l.object? ref = some o) (right : Right l values) :
    Right l (values.settle objects rounds) := by
  induction rounds generalizing values with
  | zero => exact right
  | succ rounds ih =>
      rw [Values.settle]
      split
      · exact right
      · exact ih _ ((extend_size objects values values).trans same) (extend_right l objects values same known right)

theorem settled_value (l : Layout) (objects : Objects) (values : Values) (root : Nat) (progress : Progress l root objects [])
    (right : Right l values) (settled : Settled objects values) (ref : Nat) (v : Value) (holds : Holds l ref v)
    (read : Found objects ref) : values.get? ref = some v := by
  have finish (ref : Nat) (v : Value) (o : Object) (holds : Holds l ref v) (there : objects[ref]?.join = some o)
      (made : (o.value? values).isSome = true) : values.get? ref = some v := by
    have found := settled ref o there made
    obtain ⟨w, got⟩ := Option.isSome_iff_exists.mp found
    rw [← right ref v w holds got]
    exact got
  -- The induction follows the references, whose objects are all read since nothing is pending.
  induction holds with
  | scalar ref v stored =>
      obtain ⟨o, there⟩ := Option.isSome_iff_exists.mp read
      obtain rfl := Option.some.inj (stored.symm.trans (progress.known ref o there))
      exact finish ref v _ (.scalar ref v stored) there rfl
  | array ref refs items stored same parts ih =>
      obtain ⟨o, there⟩ := Option.isSome_iff_exists.mp read
      obtain rfl := Option.some.inj (stored.symm.trans (progress.known ref o there))
      have all : refs.mapM values.get? = some items := by
        apply map_m_found values.get? refs items same
        intro e member
        have part : e.1 ∈ refs := (List.of_mem_zip member).1
        rcases progress.closed ref _ there e.1 part with waits | found
        · cases waits
        · exact ih e member found
      exact finish ref _ _ (.array ref refs items stored same parts) there (by rw [Object.value?, all]; rfl)
  | dict ref slots entries stored keys parts ih =>
      obtain ⟨o, there⟩ := Option.isSome_iff_exists.mp read
      obtain rfl := Option.some.inj (stored.symm.trans (progress.known ref o there))
      have all : slots.mapM (fun slot => (values.get? slot.value).map fun v => (slot.key, v)) = some entries := by
        apply map_m_found _ slots entries (slots_same slots entries keys)
        intro e member
        have part : e.1.value ∈ slots.map Slot.value := List.mem_map_of_mem (List.of_mem_zip member).1
        rcases progress.closed ref _ there e.1.value part with waits | found
        · cases waits
        · rw [ih e member found, slots_keys slots entries keys e member]
          rfl
      exact finish ref _ _ (.dict ref slots entries stored keys parts) there (by rw [Object.value?, all]; rfl)

theorem root_objects (bytes : List UInt8) (l : Layout) (root : Nat) (laid : layout? bytes.toArray = some (l, root)) :
    root? bytes = (objects? l root).bind fun objects =>
      (objects.values.get? root).or ((objects.values.unroll objects schemaDepth).get? root) := by
  rw [root?, laid, Option.bind_eq_bind, Option.bind_some]
  change (objects? l root).bind _ = _
  congr 1
  funext objects
  dsimp only
  cases objects.values.get? root <;> rfl

theorem root_value (bytes : List UInt8) (l : Layout) (root : Nat) (v : Value)
    (laid : layout? bytes.toArray = some (l, root)) (holds : Holds l root v) : root? bytes = some v := by
  obtain ⟨objects, made⟩ := (objects_some_iff l root).mpr (holds_complete l root v holds)
  obtain ⟨progress, read⟩ := objects_read l root objects made
  have same : (Array.replicate objects.size (none : Option Value)).size = objects.size := by simp
  have empty : Right l (Array.replicate objects.size none) := by
    intro ref v w _ got
    rw [Values.get?, Array.getElem?_replicate] at got
    split at got <;> cases got
  have right := settle_right l objects objects.size _ same progress.known empty
  have settled := settle_settled objects objects.size _ same (by omega)
  have value := settled_value l objects _ root progress right settled root v holds (read root .root)
  rw [root_objects bytes l root laid, made, Option.bind_some, Objects.values, value, Option.some_or]

end TestRun.Plist.Binary
