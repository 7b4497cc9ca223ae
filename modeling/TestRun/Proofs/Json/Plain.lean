import TestRun.Json.Canonical
import TestRun.Json.Portable
import TestRun.Proofs.Number.Decimal
import TestRun.Proofs.Value.Merge

/-! Plain values: those that JSON can hold as they are. -/

set_option autoImplicit false

namespace TestRun.Json

open Environment (keyed put put_absent put_keyed)

inductive Plain : Value → Prop where
  | null : Plain .null
  | bool (b : Bool) : Plain (.bool b)
  | int (i : Int) (short : Numeral.Short i) : Plain (.int i)
  | text (s : String) : Plain (.text s)
  | array (items : List Value) (parts : ∀ v ∈ items, Plain v) : Plain (.array items)
  | dict (entries : Environment) (distinct : (entries.map (·.1)).Nodup) (parts : ∀ e ∈ entries, Plain e.2) :
      Plain (.dict (keyed entries))

inductive Alike : Value → Value → Prop where
  | same (v : Value) : Alike v v
  | array (xs ys : List Value) (length : xs.length = ys.length) (parts : ∀ e ∈ xs.zip ys, Alike e.1 e.2) :
      Alike (.array xs) (.array ys)
  | dict (xs ys zs : Entries) (order : zs.Perm ys) (keys : xs.map (·.1) = zs.map (·.1))
      (parts : ∀ e ∈ xs.zip zs, Alike e.1.2 e.2.2) : Alike (.dict xs) (.dict ys)

mutual
def height : Value → Nat
  | .array items => itemsHeight items + 1
  | .dict entries => entriesHeight entries + 1
  | _ => 1
def itemsHeight : List Value → Nat
  | [] => 0
  | v :: rest => max (height v) (itemsHeight rest)
def entriesHeight : List (Value × Value) → Nat
  | [] => 0
  | (_, v) :: rest => max (height v) (entriesHeight rest)
end

theorem portable_items (items : List Value) (depth : Nat)
    (each : ∀ v ∈ items, portableWithin depth v = if height v ≤ depth then .ok v else .error .tooDeep) :
    portableItems depth items = if itemsHeight items ≤ depth then .ok items else .error .tooDeep := by
  induction items with
  | nil => simp [portableItems, itemsHeight]
  | cons v rest ih =>
      have head := each v (by simp)
      have tail := ih fun w member => each w (List.mem_cons_of_mem _ member)
      rw [portableItems, head, tail, itemsHeight]
      by_cases low : height v ≤ depth
      · by_cases others : itemsHeight rest ≤ depth
        · rw [if_pos low, if_pos others, if_pos (Nat.max_le.mpr ⟨low, others⟩)]
          rfl
        · rw [if_pos low, if_neg others, if_neg fun both => others (Nat.max_le.mp both).2]
          rfl
      · rw [if_neg low, if_neg fun both => low (Nat.max_le.mp both).1]
        rfl

theorem portable_entries (entries made : Environment) (depth : Nat) (distinct : ((made ++ entries).map (·.1)).Nodup)
    (each : ∀ e ∈ entries, portableWithin depth e.2 = if height e.2 ≤ depth then .ok e.2 else .error .tooDeep) :
    portableEntries depth (keyed made) (keyed entries) =
      if entriesHeight (keyed entries) ≤ depth then .ok (keyed (made ++ entries)) else .error .tooDeep := by
  induction entries generalizing made with
  | nil => simp [keyed, portableEntries, entriesHeight]
  | cons e rest ih =>
      have head := each e (by simp)
      have absent : e.1 ∉ made.map (·.1) := by
        intro present
        rw [List.map_append, List.nodup_append] at distinct
        exact distinct.2.2 e.1 present e.1 (by simp) rfl
      have tail := ih (made ++ [e]) (by simpa using distinct) fun d member => each d (List.mem_cons_of_mem _ member)
      rw [List.append_assoc, List.singleton_append] at tail
      change portableEntries depth (keyed made) ((.text e.1, e.2) :: keyed rest) = _
      rw [portableEntries, portableKey, head]
      change _ = if max (height e.2) (entriesHeight (keyed rest)) ≤ depth then _ else _
      by_cases low : height e.2 ≤ depth
      · rw [if_pos low]
        change portableEntries depth (Entries.put (.text e.1) e.2 (keyed made)) (keyed rest) = _
        rw [put_keyed, put_absent e.1 e.2 made absent, tail]
        by_cases others : entriesHeight (keyed rest) ≤ depth
        · rw [if_pos others, if_pos (Nat.max_le.mpr ⟨low, others⟩)]
        · rw [if_neg others, if_neg fun both => others (Nat.max_le.mp both).2]
      · rw [if_neg low, if_neg fun both => low (Nat.max_le.mp both).1]
        rfl

theorem portable_plain (v : Value) (plain : Plain v) (depth : Nat) :
    portableWithin depth v = if height v ≤ depth then .ok v else .error .tooDeep := by
  induction plain generalizing depth with
  | null => cases depth <;> simp [portableWithin, height]
  | bool b => cases depth <;> simp [portableWithin, height]
  | int i short => cases depth <;> simp [portableWithin, height]
  | text s => cases depth <;> simp [portableWithin, height]
  | array items parts ih =>
      cases depth with
      | zero => simp [portableWithin, height]
      | succ depth =>
          rw [portableWithin, portable_items items depth fun v member => ih v member depth, height]
          by_cases low : itemsHeight items ≤ depth <;> simp [low, Except.map]
  | dict entries distinct parts ih =>
      cases depth with
      | zero => simp [portableWithin, height]
      | succ depth =>
          have inner := portable_entries entries [] depth distinct fun e member => ih e member depth
          change portableEntries depth [] (keyed entries) = _ at inner
          rw [portableWithin, inner, height]
          by_cases low : entriesHeight (keyed entries) ≤ depth <;> simp [low, Except.map]

mutual
def ordered : Value → Value
  | .array items => .array (orderedItems items)
  | .dict entries => .dict (sorted (fun a b => Value.keyLess a.1 b.1) (orderedEntries entries))
  | v => v
def orderedItems : List Value → List Value
  | [] => []
  | v :: rest => ordered v :: orderedItems rest
def orderedEntries : List (Value × Value) → List (Value × Value)
  | [] => []
  | (key, v) :: rest => (key, ordered v) :: orderedEntries rest
end

theorem ordered_items (items : List Value) : orderedItems items = items.map ordered := by
  induction items with
  | nil => rfl
  | cons v rest ih => rw [orderedItems, ih, List.map_cons]

theorem ordered_entries (entries : Entries) : orderedEntries entries = entries.map fun e => (e.1, ordered e.2) := by
  induction entries with
  | nil => rfl
  | cons e rest ih => rw [orderedEntries, ih, List.map_cons]

theorem insert_perm {α : Type} (less : α → α → Bool) (a : α) (items : List α) :
    (insertDescending less a items).Perm (a :: items) := by
  induction items with
  | nil => exact List.Perm.refl _
  | cons b rest ih =>
      by_cases behind : less a b = true
      · rw [insertDescending, if_pos behind]
        exact (ih.cons b).trans (List.Perm.swap a b rest)
      · rw [insertDescending, if_neg behind]

theorem sorted_perm {α : Type} (less : α → α → Bool) (items : List α) : (sorted less items).Perm items := by
  have fold (made : List α) :
      (items.foldl (fun made a => insertDescending less a made) made).Perm (items.reverse ++ made) := by
    induction items generalizing made with
    | nil => exact List.Perm.refl _
    | cons a rest ih =>
        rw [List.foldl_cons, List.reverse_cons, List.append_assoc]
        exact (ih _).trans ((insert_perm less a made).append_left _)
  have all := fold []
  rw [List.append_nil] at all
  exact (List.reverse_perm _).trans (all.trans (List.reverse_perm _))

theorem insert_map {α β : Type} (less : α → α → Bool) (more : β → β → Bool) (f : α → β)
    (same : ∀ a b, more (f a) (f b) = less a b) (a : α) (items : List α) :
    insertDescending more (f a) (items.map f) = (insertDescending less a items).map f := by
  induction items with
  | nil => rfl
  | cons b rest ih =>
      rw [List.map_cons, insertDescending, insertDescending, same]
      by_cases behind : less a b = true
      · rw [if_pos behind, if_pos behind, ih, List.map_cons]
      · rw [if_neg behind, if_neg behind, List.map_cons, List.map_cons]

theorem sorted_map {α β : Type} (less : α → α → Bool) (more : β → β → Bool) (f : α → β)
    (same : ∀ a b, more (f a) (f b) = less a b) (items : List α) :
    sorted more (items.map f) = (sorted less items).map f := by
  have fold (made : List α) : (items.map f).foldl (fun made a => insertDescending more a made) (made.map f) =
      (items.foldl (fun made a => insertDescending less a made) made).map f := by
    induction items generalizing made with
    | nil => rfl
    | cons a rest ih => rw [List.map_cons, List.foldl_cons, List.foldl_cons, insert_map less more f same, ih]
  have all := fold []
  rw [List.map_nil] at all
  rw [sorted, all, sorted, List.map_reverse]

theorem ordered_dict (entries : Entries) :
    ordered (.dict entries) =
      .dict ((sorted (fun a b => Value.keyLess a.1 b.1) entries).map fun e => (e.1, ordered e.2)) := by
  rw [ordered, ordered_entries]
  exact congrArg Value.dict (sorted_map _ _ (fun e => (e.1, ordered e.2)) (fun _ _ => rfl) entries)

mutual
theorem ordered_alike (v : Value) : Alike (ordered v) v := by
  cases v with
  | array items =>
      rw [ordered, ordered_items]
      refine .array _ _ (by simp) fun e member => ?_
      have pairs : (items.map ordered).zip items = items.map fun v => (ordered v, v) := by
        simpa using List.zip_map' (l := items) (f := ordered) (g := id)
      rw [pairs] at member
      obtain ⟨v, inside, rfl⟩ := List.mem_map.mp member
      exact items_alike items v inside
  | dict entries =>
      rw [ordered_dict]
      refine .dict _ entries _ (sorted_perm _ entries) (by rw [List.map_map]; rfl) fun e member => ?_
      have pairs (items : Entries) : (items.map fun e => (e.1, ordered e.2)).zip items =
          items.map fun e => ((e.1, ordered e.2), e) := by
        simpa using List.zip_map' (l := items) (f := fun e => (e.1, ordered e.2)) (g := id)
      rw [pairs] at member
      obtain ⟨d, inside, rfl⟩ := List.mem_map.mp member
      exact entries_alike entries d ((sorted_perm _ entries).mem_iff.mp inside)
  | _ => exact .same _
theorem items_alike (items : List Value) : ∀ v ∈ items, Alike (ordered v) v := by
  cases items with
  | nil => simp
  | cons v rest => exact List.forall_mem_cons.mpr ⟨ordered_alike v, items_alike rest⟩
theorem entries_alike (entries : List (Value × Value)) : ∀ e ∈ entries, Alike (ordered e.2) e.2 := by
  cases entries with
  | nil => simp
  | cons e rest =>
      obtain ⟨key, v⟩ := e
      exact List.forall_mem_cons.mpr ⟨ordered_alike v, entries_alike rest⟩
end

end TestRun.Json
