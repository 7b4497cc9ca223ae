import TestRun.Value

/-! What a dictionary has under a text key: the value of the first entry with the key, which is the only one if no key
is there twice. -/

set_option autoImplicit false

namespace TestRun.Entries

theorem text_key_iff (key : Value) (name : String) : key.sameKey (.text name) = true ↔ key = .text name := by
  cases key with
  | real x => cases whole : x.toInt? <;> simp [Value.sameKey, Value.number?, whole]
  | _ => simp [Value.sameKey, Value.number?]

theorem get_here (name : String) (e : Value × Value) (rest : Entries) (same : e.1 = .text name) :
    get? name (e :: rest) = some e.2 := by
  rw [get?, if_pos ((text_key_iff e.1 name).mpr same)]

theorem get_behind (name : String) (e : Value × Value) (rest : Entries) (other : e.1 ≠ .text name) :
    get? name (e :: rest) = get? name rest := by
  rw [get?, if_neg (mt (text_key_iff e.1 name).mp other)]

theorem get_map (f : Value → Value) (name : String) (entries : Entries) :
    get? name (entries.map fun e => (e.1, f e.2)) = (get? name entries).map f := by
  induction entries with
  | nil => rfl
  | cons e rest ih =>
      by_cases same : e.1 = .text name
      · rw [List.map_cons, get_here name (e.1, f e.2) _ same, get_here name e rest same]
        rfl
      · rw [List.map_cons, get_behind name (e.1, f e.2) _ same, get_behind name e rest same, ih]

theorem get_iff_stored (name : String) (v : Value) (entries : Entries) (distinct : (entries.map (·.1)).Nodup) :
    get? name entries = some v ↔ (.text name, v) ∈ entries := by
  induction entries with
  | nil => simp [get?]
  | cons e rest ih =>
      obtain ⟨new, distinctRest⟩ := List.nodup_cons.mp distinct
      by_cases same : e.1 = .text name
      · have behind : (.text name, v) ∉ rest := fun member =>
          new (List.mem_map.mpr ⟨(.text name, v), member, same.symm⟩)
        rw [get_here name e rest same, Option.some.injEq, List.mem_cons, or_iff_left behind, Prod.ext_iff]
        simp [same, eq_comm]
      · rw [get_behind name e rest same, ih distinctRest, List.mem_cons, or_iff_right]
        rintro rfl
        exact same rfl

theorem get_reordered (name : String) (xs ys : Entries) (order : xs.Perm ys) (distinct : (xs.map (·.1)).Nodup) :
    get? name xs = get? name ys := by
  have also : (ys.map (·.1)).Nodup := (order.map (·.1)).nodup distinct
  apply Option.ext
  intro v
  rw [get_iff_stored name v xs distinct, get_iff_stored name v ys also, order.mem_iff]

theorem get_inserted (name : String) (front back : Entries) (key v : Value) (other : key ≠ .text name) :
    get? name (front ++ (key, v) :: back) = get? name (front ++ back) := by
  induction front with
  | nil => exact get_behind name (key, v) back other
  | cons e rest ih => rw [List.cons_append, List.cons_append, get?, get?, ih]

end TestRun.Entries
