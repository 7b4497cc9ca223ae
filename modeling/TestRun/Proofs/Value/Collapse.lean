import TestRun.Proofs.Value.Overlay

/-! Looking through a collapsed list. -/

set_option autoImplicit false

namespace TestRun.Environment

theorem last_known (key : String) (env : Environment) (present : key ∈ env.keys) : ∃ v, last? key env = some v := by
  induction env with
  | nil => cases present
  | cons e rest ih =>
      rw [last?]
      by_cases same : e.1 = key
      · cases last? key rest with
        | some found => exact ⟨found, rfl⟩
        | none => exact ⟨e.2, by rw [if_pos same]; rfl⟩
      · have later : key ∈ keys rest := (List.mem_cons.mp present).resolve_left (Ne.symm same)
        obtain ⟨v, found⟩ := ih later
        exact ⟨v, by rw [found]; rfl⟩

theorem last_behind (key : String) (e : String × Value) (rest : Environment) (present : key ∈ rest.keys) :
    last? key (e :: rest) = last? key rest := by
  obtain ⟨v, found⟩ := last_known key rest present
  rw [last?, found]
  rfl

theorem last_mem (key : String) (v : Value) (env : Environment) (found : last? key env = some v) : (key, v) ∈ env := by
  induction env with
  | nil => cases found
  | cons e rest ih =>
      rw [last?] at found
      cases later : last? key rest with
      | some w =>
          rw [later] at found
          cases found
          exact List.mem_cons_of_mem _ (ih later)
      | none =>
          rw [later] at found
          by_cases same : e.1 = key
          · rw [if_pos same] at found
            cases found
            rw [← same]
            exact List.mem_cons_self
          · rw [if_neg same] at found
            cases found

theorem collapse_last (env : Environment) : ∀ e ∈ collapse env, last? e.1 env = some e.2 := by
  induction env with
  | nil => simp [collapse]
  | cons d rest ih =>
      intro e member
      rcases List.mem_cons.mp member with rfl | later
      · rw [last?, if_pos rfl]
        cases last? d.1 rest <;> rfl
      · obtain ⟨inner, -⟩ := List.mem_filter.mp later
        rw [last?, ih e inner]
        rfl

theorem find_congr {α β : Type} (f g : α → Option β) (l : List α) (same : ∀ a ∈ l, f a = g a) :
    l.findSome? f = l.findSome? g := by
  induction l with
  | nil => rfl
  | cons a rest ih =>
      rw [List.findSome?_cons, List.findSome?_cons, same a List.mem_cons_self,
        ih fun b member => same b (List.mem_cons_of_mem _ member)]

theorem find_filter {α β : Type} (f : α → Option β) (kept : α → Bool) (l : List α)
    (others : ∀ a ∈ l, kept a = false → f a = none) : (l.filter kept).findSome? f = l.findSome? f := by
  induction l with
  | nil => rfl
  | cons a rest ih =>
      have later := ih fun b member => others b (List.mem_cons_of_mem _ member)
      cases keeps : kept a with
      | true => rw [List.filter_cons_of_pos keeps, List.findSome?_cons, List.findSome?_cons, later]
      | false =>
          have nothing := others a List.mem_cons_self keeps
          rw [List.filter_cons_of_neg (by simp [keeps]), List.findSome?_cons, nothing, later]

theorem collapse_find {β : Type} (look : String → Value → Option β) (env : Environment) :
    ((collapse env).findSome? fun e => look e.1 e.2) = env.findSome? fun e => (last? e.1 env).bind (look e.1) := by
  induction env with
  | nil => rfl
  | cons d rest ih =>
      have value : last? d.1 (d :: rest) = some ((last? d.1 rest).getD d.2) :=
        collapse_last (d :: rest) (d.1, (last? d.1 rest).getD d.2) List.mem_cons_self
      rw [collapse, List.findSome?_cons, List.findSome?_cons, value, Option.bind_some]
      cases found : look d.1 ((last? d.1 rest).getD d.2) with
      | some b => rfl
      | none =>
          -- What is passed over has the key again, and with it the same value.
          have passed : ∀ e ∈ collapse rest, e.1 = d.1 → look e.1 e.2 = none := by
            intro e member same
            have last := collapse_last rest e member
            rw [same] at last ⊢
            rw [last] at found
            exact found
          have kept : ∀ e ∈ rest, (last? e.1 (d :: rest)).bind (look e.1) = (last? e.1 rest).bind (look e.1) :=
            fun e member => by rw [last_behind e.1 d rest (List.mem_map_of_mem member)]
          rw [find_filter _ _ _ fun e member other => passed e member (by simpa using other), ih, find_congr _ _ rest kept]

end TestRun.Environment
