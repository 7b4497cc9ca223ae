import TestRun.Schema.Shape

/-! Setting the entries of a list one after the other, as one list: each key once, at the place of its first entry and
with the value of its last one. -/

set_option autoImplicit false

namespace TestRun.Environment

def last? (key : String) : Environment → Option Value
  | [] => none
  | (k, v) :: rest => (last? key rest).or (if k = key then some v else none)

def collapse : Environment → Environment
  | [] => []
  | (key, v) :: rest => (key, (last? key rest).getD v) :: (collapse rest).filter fun e => e.1 != key

def keyed (entries : Environment) : Entries := entries.map fun e => (.text e.1, e.2)

theorem put_present (key : String) (v : Value) (base : Environment) (distinct : (base.map (·.1)).Nodup)
    (present : key ∈ base.map (·.1)) :
    put key v base = base.map fun e => if e.1 = key then (e.1, v) else e := by
  induction base with
  | nil => cases present
  | cons e rest ih =>
      obtain ⟨fresh, distinctRest⟩ := List.nodup_cons.mp distinct
      by_cases same : e.1 = key
      · have others : rest.map (fun e => if e.1 = key then (e.1, v) else e) = rest := by
          refine (List.map_congr_left fun d member => if_neg ?_).trans (List.map_id rest)
          intro again
          exact fresh (List.mem_map.mpr ⟨d, member, again.trans same.symm⟩)
        rw [List.map_cons, others, put, if_pos same, if_pos same]
      · have later : key ∈ rest.map (·.1) := by
          rcases List.mem_cons.mp present with found | later
          · exact absurd found.symm same
          · exact later
        rw [List.map_cons, put, if_neg same, if_neg same, ih distinctRest later]

theorem put_absent (key : String) (v : Value) (base : Environment) (absent : key ∉ base.map (·.1)) :
    put key v base = base ++ [(key, v)] := by
  induction base with
  | nil => rfl
  | cons e rest ih =>
      obtain ⟨differs, absentRest⟩ := not_or.mp (mt List.mem_cons.mpr absent)
      rw [put, if_neg (Ne.symm differs), ih absentRest]
      rfl

theorem replaced_keys (key : String) (v : Value) (base : Environment) :
    (base.map fun e => if e.1 = key then (e.1, v) else e).map (·.1) = base.map (·.1) := by
  rw [List.map_map]
  apply List.map_congr_left
  intro e _
  by_cases same : e.1 = key <;> simp [same]

theorem added_distinct (key : String) (v : Value) (base : Environment) (distinct : (base.map (·.1)).Nodup)
    (absent : key ∉ base.map (·.1)) : ((base ++ [(key, v)]).map (·.1)).Nodup := by
  rw [List.map_append, List.nodup_append]
  refine ⟨distinct, by simp, ?_⟩
  rintro a inBase b only rfl
  obtain rfl : a = key := List.mem_singleton.mp only
  exact absent inBase

theorem put_distinct (key : String) (v : Value) (base : Environment) (distinct : (base.map (·.1)).Nodup) :
    ((put key v base).map (·.1)).Nodup := by
  by_cases present : key ∈ base.map (·.1)
  · rw [put_present key v base distinct present, replaced_keys]
    exact distinct
  · rw [put_absent key v base present]
    exact added_distinct key v base distinct present

theorem last_cons (key k : String) (v : Value) (rest : Environment) (default : Value) :
    (last? key ((k, v) :: rest)).getD default = (last? key rest).getD (if k = key then v else default) := by
  rw [last?]
  cases last? key rest with
  | some found => rfl
  | none => by_cases same : k = key <;> simp [same]

-- Setting entries one after the other: those there before keep their places, and the new ones come
-- behind them as if alone.
theorem merge_collapses (base : Environment) (added : Environment) (distinct : (base.map (·.1)).Nodup) :
    merge base added =
      (base.map fun e => (e.1, (last? e.1 added).getD e.2)) ++
        (collapse added).filter fun e => decide (e.1 ∉ base.map (·.1)) := by
  induction added generalizing base with
  | nil => simp [merge, last?, collapse]
  | cons entry rest ih =>
      obtain ⟨key, v⟩ := entry
      rw [merge, List.foldl_cons]
      change merge (put key v base) rest = _
      by_cases present : key ∈ base.map (·.1)
      -- The entry keeps its place in the base and leaves the entries behind it alone.
      · have keys := replaced_keys key v base
        rw [put_present key v base distinct present, ih _ (by rw [keys]; exact distinct), keys, collapse,
          List.filter_cons_of_neg (by simpa using present), List.filter_filter, List.map_map]
        congr 1
        · apply List.map_congr_left
          intro e _
          rw [last_cons]
          by_cases same : e.1 = key
          · simp [same]
          · simp [same, Ne.symm same]
        · apply List.filter_congr
          intro e _
          by_cases same : e.1 = key
          · simp [same, present]
          · simp [same]
      -- The entry is the first new one: those behind it that have its key count for its value only.
      · have keys : (base ++ [(key, v)]).map (·.1) = base.map (·.1) ++ [key] := by simp
        have fresh := added_distinct key v base distinct present
        rw [put_absent key v base present, ih _ fresh, keys, collapse, List.filter_cons_of_pos (by simpa using present),
          List.filter_filter, List.map_append, List.append_assoc]
        congr 1
        · apply List.map_congr_left
          intro e member
          have differs : ¬ key = e.1 := by
            rintro rfl
            exact present (List.mem_map_of_mem member)
          rw [last_cons, if_neg differs]
        · rw [List.map_cons, List.map_nil, List.singleton_append]
          congr 1
          apply List.filter_congr
          intro e _
          rw [Bool.eq_iff_iff]
          by_cases same : e.1 = key <;> simp [same]

theorem put_keyed (key : String) (v : Value) (entries : Environment) :
    Entries.put (.text key) v (keyed entries) = keyed (put key v entries) := by
  induction entries with
  | nil => rfl
  | cons e rest ih =>
      rw [keyed, List.map_cons]
      by_cases same : e.1 = key
      · have found : (Value.text e.1).sameKey (.text key) = true := by simp [Value.sameKey, same]
        rw [Entries.put, if_pos found, put, if_pos same]
        rfl
      · have other : ¬ (Value.text e.1).sameKey (.text key) = true := by simpa [Value.sameKey] using same
        rw [Entries.put, if_neg other, put, if_neg same]
        exact congrArg (List.cons _) ih

theorem merge_keyed (base : Environment) (added : Environment) :
    Entries.merge (keyed base) (keyed added) = keyed (merge base added) := by
  induction added generalizing base with
  | nil => rfl
  | cons e rest ih =>
      change Entries.merge (Entries.put (.text e.1) e.2 (keyed base)) (keyed rest) = _
      rw [put_keyed, ih]
      rfl

theorem merge_nil (added : Environment) : merge [] added = collapse added := by
  rw [merge_collapses [] added List.nodup_nil, List.map_nil, List.nil_append, List.filter_eq_self.mpr fun e _ => by simp]

theorem merge_nil_collapses (added : Environment) :
    Entries.merge [] (keyed added) = keyed (collapse added) := by
  rw [show ([] : Entries) = keyed [] from rfl, merge_keyed, merge_nil]

theorem last_absent (key : String) (entries : Environment) (absent : key ∉ entries.map (·.1)) :
    last? key entries = none := by
  induction entries with
  | nil => rfl
  | cons e rest ih =>
      obtain ⟨differs, absentRest⟩ := not_or.mp (mt List.mem_cons.mpr absent)
      rw [last?, ih absentRest, if_neg (Ne.symm differs)]
      rfl

theorem collapse_distinct (entries : Environment) (distinct : (entries.map (·.1)).Nodup) :
    collapse entries = entries := by
  induction entries with
  | nil => rfl
  | cons e rest ih =>
      obtain ⟨fresh, distinctRest⟩ := List.nodup_cons.mp distinct
      rw [collapse, last_absent e.1 rest fresh, ih distinctRest]
      congr 1
      apply List.filter_eq_self.mpr
      intro d member
      rw [bne_iff_ne]
      intro same
      exact fresh (List.mem_map.mpr ⟨d, member, same⟩)

theorem put_mem (key : String) (v : Value) (base : Environment) :
    ∀ e ∈ put key v base, e = (key, v) ∨ e ∈ base := by
  induction base with
  | nil => simp [put]
  | cons d rest ih =>
      intro e member
      by_cases same : d.1 = key
      · rw [put, if_pos same] at member
        rcases List.mem_cons.mp member with rfl | later
        · exact .inl (by rw [same])
        · exact .inr (List.mem_cons_of_mem _ later)
      · rw [put, if_neg same] at member
        rcases List.mem_cons.mp member with rfl | later
        · exact .inr (by simp)
        · exact (ih e later).imp id (List.mem_cons_of_mem _)

theorem merge_distinct (base added : Environment) (distinct : (base.map (·.1)).Nodup) :
    ((merge base added).map (·.1)).Nodup := by
  induction added generalizing base with
  | nil => exact distinct
  | cons e rest ih => exact ih (put e.1 e.2 base) (put_distinct e.1 e.2 base distinct)

theorem merge_mem (base added : Environment) : ∀ e ∈ merge base added, e ∈ base ∨ e ∈ added := by
  induction added generalizing base with
  | nil => exact fun e member => .inl member
  | cons d rest ih =>
      intro e member
      rcases ih (put d.1 d.2 base) e member with front | behind
      · exact (put_mem d.1 d.2 base e front).symm.imp id fun same => by simp [same]
      · exact .inr (List.mem_cons_of_mem _ behind)

end TestRun.Environment
