import TestRun.Proofs.Value.Merge

/-! One dictionary laid over another. -/

set_option autoImplicit false

namespace TestRun.Environment

def keys (env : Environment) : List String := env.map (·.1)

def get? (key : String) : Environment → Option Value
  | [] => none
  | (k, v) :: rest => if k = key then some v else get? key rest

theorem keys_append (left right : Environment) : keys (left ++ right) = left.keys ++ right.keys := List.map_append

theorem merge_twice (base left right : Environment) : merge (merge base left) right = merge base (left ++ right) :=
  List.foldl_append.symm

theorem erase_distinct (names : List String) (distinct : names.Nodup) : names.eraseDups = names := by
  induction names with
  | nil => rfl
  | cons name rest ih =>
      obtain ⟨fresh, distinctRest⟩ := List.nodup_cons.mp distinct
      have kept : rest.filter (fun other => !other == name) = rest := by
        apply List.filter_eq_self.mpr
        intro other member
        simpa using ne_of_mem_of_not_mem member fresh
      rw [List.eraseDups_cons, kept, ih distinctRest]

theorem erase_repeated (front : List String) (name : String) (rest : List String) (present : name ∈ front) :
    (front ++ name :: rest).eraseDups = (front ++ rest).eraseDups := by
  have dropped : (name :: rest).removeAll front = rest.removeAll front := by
    rw [List.cons_removeAll, if_neg (by simpa using present)]
  rw [List.eraseDups_append, List.eraseDups_append, dropped]

theorem put_keys (key : String) (v : Value) (base : Environment) (distinct : base.keys.Nodup) :
    keys (put key v base) = if key ∈ base.keys then base.keys else base.keys ++ [key] := by
  by_cases present : key ∈ base.keys
  · rw [put_present key v base distinct present, if_pos present]
    exact replaced_keys key v base
  · rw [put_absent key v base present, if_neg present, keys_append]
    rfl

theorem merge_keys (base added : Environment) (distinct : base.keys.Nodup) :
    keys (merge base added) = (base.keys ++ added.keys).eraseDups := by
  induction added generalizing base with
  | nil => simpa [merge, keys] using (erase_distinct base.keys distinct).symm
  | cons e rest ih =>
      have next : keys (merge base (e :: rest)) = (keys (put e.1 e.2 base) ++ keys rest).eraseDups :=
        ih (put e.1 e.2 base) (put_distinct e.1 e.2 base distinct)
      have split : keys (e :: rest) = e.1 :: keys rest := rfl
      rw [next, split, put_keys e.1 e.2 base distinct]
      by_cases present : e.1 ∈ base.keys
      · rw [if_pos present, erase_repeated _ _ _ present]
      · rw [if_neg present, List.append_assoc, List.singleton_append]

theorem put_get (key name : String) (v : Value) (base : Environment) :
    get? key (put name v base) = if name = key then some v else get? key base := by
  induction base with
  | nil => rfl
  | cons e rest ih =>
      by_cases placed : e.1 = name
      · by_cases same : name = key <;> simp [put, get?, placed, same]
      · by_cases other : e.1 = key
        · have differs : name ≠ key := fun same => placed (other.trans same.symm)
          rw [put, if_neg placed, get?, if_pos other, if_neg differs, get?, if_pos other]
        · rw [put, if_neg placed, get?, if_neg other, ih, get?, if_neg other]

theorem merge_get (key : String) (base added : Environment) :
    get? key (merge base added) = (last? key added).or (get? key base) := by
  induction added generalizing base with
  | nil => rfl
  | cons e rest ih =>
      have next : get? key (merge base (e :: rest)) = (last? key rest).or (get? key (put e.1 e.2 base)) :=
        ih (put e.1 e.2 base)
      rw [next, put_get, last?, Option.or_assoc]
      by_cases same : e.1 = key <;> simp [same]

theorem last_append (key : String) (left right : Environment) :
    last? key (left ++ right) = (last? key right).or (last? key left) := by
  induction left with
  | nil => simp [last?]
  | cons e rest ih => rw [List.cons_append, last?, last?, ih, Option.or_assoc]

theorem get_absent (key : String) (env : Environment) (absent : key ∉ env.keys) : get? key env = none := by
  induction env with
  | nil => rfl
  | cons e rest ih =>
      obtain ⟨differs, absentRest⟩ := not_or.mp (mt List.mem_cons.mpr absent)
      rw [get?, if_neg (Ne.symm differs), ih absentRest]

theorem last_get (key : String) (env : Environment) (distinct : env.keys.Nodup) : last? key env = get? key env := by
  induction env with
  | nil => rfl
  | cons e rest ih =>
      obtain ⟨fresh, distinctRest⟩ := List.nodup_cons.mp distinct
      rw [last?, get?, ih distinctRest]
      by_cases same : e.1 = key
      · rw [if_pos same, if_pos same, get_absent key rest (by rw [← same]; exact fresh)]
        rfl
      · rw [if_neg same, if_neg same, Option.or_none]

end TestRun.Environment
