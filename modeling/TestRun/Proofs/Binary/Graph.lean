import TestRun.Proofs.Binary.Table

/-! Following references. -/

set_option autoImplicit false

namespace TestRun.Plist.Binary

inductive Holds (l : Layout) : Nat → Value → Prop where
  | scalar (ref : Nat) (v : Value) (stored : l.object? ref = some (.scalar v)) : Holds l ref v
  | array (ref : Nat) (refs : List Nat) (items : List Value) (stored : l.object? ref = some (.array refs))
      (same : refs.length = items.length) (parts : ∀ e ∈ refs.zip items, Holds l e.1 e.2) : Holds l ref (.array items)
  | dict (ref : Nat) (slots : List Slot) (entries : Entries)
      (stored : l.object? ref = some (.dict slots (slots.map Slot.value)))
      (keys : slots.map Slot.key = entries.map (·.1)) (parts : ∀ e ∈ slots.zip entries, Holds l e.1.value e.2.2) :
      Holds l ref (.dict entries)

inductive Leads (l : Layout) (root : Nat) : Nat → Prop where
  | root : Leads l root root
  | part (ref part : Nat) (o : Object) (led : Leads l root ref) (stored : l.object? ref = some o) (member : part ∈ o.parts) :
      Leads l root part

def Complete (l : Layout) (root : Nat) : Prop := ∀ ref, Leads l root ref → ∃ o, l.object? ref = some o

theorem slots_same (slots : List Slot) (entries : Entries) (keys : slots.map Slot.key = entries.map (·.1)) :
    slots.length = entries.length := by
  have lengths := congrArg List.length keys
  rwa [List.length_map, List.length_map] at lengths

theorem holds_stored (l : Layout) (ref : Nat) (v : Value) (holds : Holds l ref v) :
    ∃ o, l.object? ref = some o ∧ ∀ part ∈ o.parts, ∃ w, Holds l part w := by
  cases holds with
  | scalar _ _ stored => exact ⟨_, stored, by simp [Object.parts]⟩
  | array _ refs items stored same parts =>
      refine ⟨_, stored, fun part member => ?_⟩
      obtain ⟨w, pair⟩ := mem_zip_left refs items same part member
      exact ⟨w, parts (part, w) pair⟩
  | dict _ slots entries stored keys parts =>
      refine ⟨_, stored, fun part member => ?_⟩
      obtain ⟨slot, inSlots, rfl⟩ := List.mem_map.mp member
      obtain ⟨entry, pair⟩ := mem_zip_left slots entries (slots_same slots entries keys) slot inSlots
      exact ⟨entry.2, parts (slot, entry) pair⟩

theorem holds_complete (l : Layout) (root : Nat) (v : Value) (holds : Holds l root v) : Complete l root := by
  have held : ∀ ref, Leads l root ref → ∃ w, Holds l ref w := by
    intro ref led
    induction led with
    | root => exact ⟨v, holds⟩
    | part ref part o _ stored member ih =>
        obtain ⟨w, inner⟩ := ih
        obtain ⟨other, found, parts⟩ := holds_stored l ref w inner
        obtain rfl := Option.some.inj (stored.symm.trans found)
        exact parts part member
  intro ref led
  obtain ⟨w, inner⟩ := held ref led
  obtain ⟨o, stored, -⟩ := holds_stored l ref w inner
  exact ⟨o, stored⟩

theorem object_bound (l : Layout) (ref : Nat) (o : Object) (stored : l.object? ref = some o) : ref < l.offsets.size := by
  unfold Layout.object? Layout.start? at stored
  obtain ⟨start, started, -⟩ := Option.bind_eq_some_iff.mp stored
  obtain ⟨place, there, -⟩ := Option.bind_eq_some_iff.mp started
  exact (Array.getElem?_eq_some_iff.mp there).1

structure Progress (l : Layout) (root : Nat) (read : Objects) (pending : List Nat) : Prop where
  size : read.size = l.offsets.size
  known : ∀ (ref : Nat) (o : Object), read[ref]?.join = some o → l.object? ref = some o
  closed : ∀ (ref : Nat) (o : Object), read[ref]?.join = some o → ∀ part ∈ o.parts, part ∈ pending ∨ Found read part
  led : ∀ ref ∈ pending, Leads l root ref

theorem set_found (read : Objects) (ref : Nat) (o : Object) (inside : ref < read.size) (place : Nat) :
    (read.setIfInBounds ref (some o))[place]?.join = if place = ref then some o else read[place]?.join := by
  rw [Array.getElem?_setIfInBounds]
  by_cases here : ref = place
  · rw [if_pos here, if_pos inside, if_pos here.symm]
    rfl
  · rw [if_neg here, if_neg (Ne.symm here)]

theorem set_kept (read : Objects) (ref : Nat) (o : Object) (inside : ref < read.size) (place : Nat)
    (there : Found read place) : Found (read.setIfInBounds ref (some o)) place := by
  rw [Found, set_found read ref o inside]
  split
  · rfl
  · exact there

theorem set_progress (l : Layout) (root : Nat) (read : Objects) (ref : Nat) (rest next : List Nat) (o : Object)
    (progress : Progress l root read (ref :: rest ++ next)) (stored : l.object? ref = some o) :
    Progress l root (read.setIfInBounds ref (some o)) (rest ++ (o.parts ++ next)) := by
  have inside : ref < read.size := by
    rw [progress.size]
    exact object_bound l ref o stored
  have found := set_found read ref o inside
  refine ⟨by simpa using progress.size, fun place other there => ?_, fun place other there part member => ?_,
    fun place member => ?_⟩
  · rw [found] at there
    split at there
    · rename_i here
      obtain rfl := Option.some.inj there
      rw [here]
      exact stored
    · exact progress.known place other there
  · rw [found] at there
    split at there
    · obtain rfl := Option.some.inj there
      exact .inl (by simp [member])
    · rcases progress.closed place other there part member with waits | already
      · rcases List.mem_cons.mp waits with rfl | later
        · exact .inr (found_some _ part o (by rw [found, if_pos rfl]))
        · refine .inl ?_
          rcases List.mem_append.mp later with inRest | inNext
          · simp [inRest]
          · simp [inNext]
      · exact .inr (set_kept read ref o inside part already)
  · rcases List.mem_append.mp member with inRest | others
    · exact progress.led place (by simp [inRest])
    · rcases List.mem_append.mp others with inParts | inNext
      · exact .part ref place o (progress.led ref (by simp)) stored inParts
      · exact progress.led place (by simp [inNext])

theorem skip_progress (l : Layout) (root : Nat) (read : Objects) (ref : Nat) (others : List Nat)
    (progress : Progress l root read (ref :: others)) (there : Found read ref) : Progress l root read others := by
  refine ⟨progress.size, progress.known, fun place o stored part member => ?_,
    fun place member => progress.led place (List.mem_cons_of_mem _ member)⟩
  rcases progress.closed place o stored part member with waits | already
  · rcases List.mem_cons.mp waits with rfl | later
    · exact .inr there
    · exact .inl later
  · exact .inr already

theorem read_all_cons (l : Layout) (ref : Nat) (rest : List Nat) (read : Objects) (next : List Nat) :
    (Found read ref → readAll? l (ref :: rest) read next = readAll? l rest read next) ∧
      (¬ Found read ref → readAll? l (ref :: rest) read next =
        (l.object? ref).bind fun o => readAll? l rest (read.setIfInBounds ref (some o)) (o.parts ++ next)) := by
  unfold Found
  rw [readAll?]
  cases read[ref]? with
  | none => exact ⟨fun found => absurd found Bool.false_ne_true, fun _ => rfl⟩
  | some known =>
      cases known with
      | none => exact ⟨fun found => absurd found Bool.false_ne_true, fun _ => rfl⟩
      | some o => exact ⟨fun _ => rfl, fun missing => absurd rfl missing⟩

-- Reading a list of references keeps what was read, reads them all, and reads something new if
-- anything new is to be read after it.
theorem read_all_progress (l : Layout) (root : Nat) (refs : List Nat) (read after : Objects) (next later : List Nat)
    (progress : Progress l root read (refs ++ next)) (made : readAll? l refs read next = some (after, later)) :
    Progress l root after later ∧ (∀ place, Found read place → Found after place) ∧ (∀ ref ∈ refs, Found after ref) ∧
      (later = next ∨ filled read < filled after) := by
  induction refs generalizing read next with
  | nil =>
      obtain ⟨rfl, rfl⟩ := Prod.mk.inj (Option.some.inj made)
      exact ⟨progress, fun _ there => there, by simp, .inl rfl⟩
  | cons ref rest ih =>
      obtain ⟨skips, reads⟩ := read_all_cons l ref rest read next
      by_cases there : Found read ref
      · rw [skips there] at made
        obtain ⟨progressed, kept, all, new⟩ := ih read next (skip_progress l root read ref _ progress there) made
        exact ⟨progressed, kept, List.forall_mem_cons.mpr ⟨kept ref there, all⟩, new⟩
      · rw [reads there] at made
        obtain ⟨o, stored, made⟩ := Option.bind_eq_some_iff.mp made
        have inside : ref < read.size := by
          rw [progress.size]
          exact object_bound l ref o stored
        have set := set_found read ref o inside
        have here : Found (read.setIfInBounds ref (some o)) ref := found_some _ ref o (by rw [set, if_pos rfl])
        have first := set_kept read ref o inside
        have more := filled_lt read _ (by simp) first ref here there
        obtain ⟨progressed, kept, all, -⟩ := ih _ (o.parts ++ next) (set_progress l root read ref rest next o progress stored) made
        have grown := filled_le _ after (by rw [progressed.size, Array.size_setIfInBounds, progress.size]) kept
        exact ⟨progressed, fun place old => kept place (first place old),
          List.forall_mem_cons.mpr ⟨kept ref here, all⟩, .inr (Nat.lt_of_lt_of_le more grown)⟩

theorem read_all_made (l : Layout) (root : Nat) (complete : Complete l root) (refs : List Nat) (read : Objects)
    (next : List Nat) (progress : Progress l root read (refs ++ next)) :
    ∃ after later, readAll? l refs read next = some (after, later) := by
  induction refs generalizing read next with
  | nil => exact ⟨read, next, rfl⟩
  | cons ref rest ih =>
      obtain ⟨skips, reads⟩ := read_all_cons l ref rest read next
      by_cases there : Found read ref
      · rw [skips there]
        exact ih read next (skip_progress l root read ref _ progress there)
      · obtain ⟨o, stored⟩ := complete ref (progress.led ref (by simp))
        rw [reads there, stored, Option.bind_some]
        exact ih _ _ (set_progress l root read ref rest next o progress stored)

theorem reach_cons (l : Layout) (rounds ref : Nat) (rest : List Nat) (read : Objects) :
    reach? l (rounds + 1) (ref :: rest) read =
      (readAll? l (ref :: rest) read []).bind fun made => reach? l rounds made.2 made.1 := by
  rw [reach?]
  · rfl
  · exact List.cons_ne_nil ref rest

theorem reach_progress (l : Layout) (root rounds : Nat) (refs : List Nat) (read objects : Objects)
    (progress : Progress l root read refs) (made : reach? l rounds refs read = some objects) :
    Progress l root objects [] ∧ (∀ place, Found read place → Found objects place) ∧ ∀ ref ∈ refs, Found objects ref := by
  induction rounds generalizing refs read with
  | zero =>
      cases refs with
      | nil =>
          obtain rfl := Option.some.inj made
          exact ⟨progress, fun _ there => there, by simp⟩
      | cons ref rest => cases made
  | succ rounds ih =>
      cases refs with
      | nil =>
          obtain rfl := Option.some.inj made
          exact ⟨progress, fun _ there => there, by simp⟩
      | cons ref rest =>
          rw [reach_cons] at made
          obtain ⟨⟨after, later⟩, first, made⟩ := Option.bind_eq_some_iff.mp made
          obtain ⟨progressed, kept, all, -⟩ :=
            read_all_progress l root (ref :: rest) read after [] later (by rw [List.append_nil]; exact progress) first
          obtain ⟨finished, keeps, -⟩ := ih later after progressed made
          exact ⟨finished, fun place old => keeps place (kept place old), fun place member => keeps place (all place member)⟩

theorem reach_made (l : Layout) (root : Nat) (complete : Complete l root) (rounds : Nat) (refs : List Nat) (read : Objects)
    (progress : Progress l root read refs) (enough : l.offsets.size < filled read + rounds) :
    ∃ objects, reach? l rounds refs read = some objects := by
  induction rounds generalizing refs read with
  | zero =>
      cases refs with
      | nil => exact ⟨read, rfl⟩
      | cons ref rest =>
          have bound : filled read ≤ read.size := Array.countP_le_size
          rw [progress.size] at bound
          omega
  | succ rounds ih =>
      cases refs with
      | nil => exact ⟨read, rfl⟩
      | cons ref rest =>
          have waiting : Progress l root read (ref :: rest ++ []) := by rwa [List.append_nil]
          obtain ⟨after, later, made⟩ := read_all_made l root complete (ref :: rest) read [] waiting
          obtain ⟨progressed, -, -, new⟩ := read_all_progress l root (ref :: rest) read after [] later waiting made
          rw [reach_cons, made, Option.bind_some]
          -- Nothing new leaves nothing to read; else the measure has grown, and one round less will do.
          rcases new with rfl | grown
          · exact ⟨after, by cases rounds <;> rfl⟩
          · exact ih later after progressed (by omega)

theorem replicate_found (size place : Nat) : ¬ Found (Array.replicate size (none : Option Object)) place := by
  intro found
  rw [Found, Array.getElem?_replicate] at found
  split at found <;> cases found

theorem start_progress (l : Layout) (root : Nat) : Progress l root (Array.replicate l.offsets.size none) [root] := by
  have none_read (place : Nat) (o : Object) :
      (Array.replicate l.offsets.size (none : Option Object))[place]?.join ≠ some o := fun there =>
    replicate_found _ place (found_some _ place o there)
  exact ⟨by simp, fun place o there => absurd there (none_read place o), fun place o there => absurd there (none_read place o),
    fun place member => by rw [List.mem_singleton.mp member]; exact .root⟩

theorem objects_read (l : Layout) (root : Nat) (objects : Objects) (made : objects? l root = some objects) :
    Progress l root objects [] ∧ ∀ ref, Leads l root ref → Found objects ref := by
  obtain ⟨finished, -, all⟩ := reach_progress l root _ [root] _ objects (start_progress l root) made
  refine ⟨finished, fun ref led => ?_⟩
  induction led with
  | root => exact all root (by simp)
  | part ref part o _ stored member ih =>
      obtain ⟨other, there⟩ := Option.isSome_iff_exists.mp ih
      obtain rfl := Option.some.inj (stored.symm.trans (finished.known ref other there))
      exact (finished.closed ref _ there part member).resolve_left (List.not_mem_nil)

theorem objects_some_iff (l : Layout) (root : Nat) : (∃ objects, objects? l root = some objects) ↔ Complete l root := by
  constructor
  · rintro ⟨objects, made⟩ ref led
    obtain ⟨finished, all⟩ := objects_read l root objects made
    obtain ⟨o, there⟩ := Option.isSome_iff_exists.mp (all ref led)
    exact ⟨o, finished.known ref o there⟩
  · intro complete
    exact reach_made l root complete _ _ _ (start_progress l root) (by omega)

end TestRun.Plist.Binary
