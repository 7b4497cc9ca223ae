import TestRun.Format.TestPlan

/-! How the outcomes of checks are put together. -/

set_option autoImplicit false

namespace TestRun.Schema

variable {α β : Type}

namespace Checked

theorem apply_ok_iff (f : Checked (α → β)) (c : Checked α) (b : β) :
    f.apply c = .ok b ↔ ∃ g a, f = .ok g ∧ c = .ok a ∧ g a = b := by
  cases f <;> cases c <;> simp [apply]

theorem under_ok_iff (step : Step) (c : Checked α) (a : α) : c.under step = .ok a ↔ c = .ok a := by
  cases c <;> simp [under]

theorem issues_bad (c : Checked α) (issues : List Issue) (bad : c = .bad issues) : issues = c.issues := by
  rw [bad]
  rfl

theorem map_ok_iff (check : β → Checked α) (items : List β) :
    (∃ made : List α, items.map check = made.map .ok) ↔ ∀ item ∈ items, ∃ a, check item = .ok a := by
  induction items with
  | nil => simp
  | cons item rest ih =>
      rw [List.forall_mem_cons, ← ih]
      constructor
      · rintro ⟨made, same⟩
        cases made with
        | nil => cases same
        | cons a others =>
            obtain ⟨first, behind⟩ := List.cons.inj same
            exact ⟨⟨a, first⟩, others, behind⟩
      · rintro ⟨⟨a, first⟩, others, behind⟩
        exact ⟨a :: others, by rw [List.map_cons, List.map_cons, first, behind]⟩

end Checked

open Checked

theorem field_absent (name : String) (default : α) (check : Value → Checked α) (entries : Entries)
    (absent : Entries.get? name entries = none) : field name default check entries = .ok default := by
  rw [field, absent]

theorem field_present (name : String) (default : α) (check : Value → Checked α) (entries : Entries) (v : Value)
    (present : Entries.get? name entries = some v) :
    field name default check entries = (check v).under (.key name) := by
  rw [field, present]

theorem field_located (name : String) (default : α) (check : Value → Checked α) (entries : Entries) :
    ∀ i ∈ (field name default check entries).issues, i.location.head? = some (.key name) := by
  intro i member
  cases present : Entries.get? name entries with
  | none =>
      rw [field_absent name default check entries present] at member
      cases member
  | some v =>
      rw [field_present name default check entries v present, issues_under] at member
      obtain ⟨inner, -, rfl⟩ := List.mem_map.mp member
      rfl

theorem field_ok {α : Type} (name : String) (default a : α) (check : Value → Checked α) (entries : Entries)
    (checked : field name default check entries = .ok a) : a = default ∨ ∃ v, check v = .ok a := by
  cases present : Entries.get? name entries with
  | none =>
      rw [field_absent name default check entries present] at checked
      exact .inl (Checked.ok.inj checked).symm
  | some v =>
      rw [field_present name default check entries v present, Checked.under_ok_iff] at checked
      exact .inr ⟨v, checked⟩

theorem optional_present (check : Value → Checked α) (v : Value) (present : v ≠ .null) :
    Schema.optional check v = match check v with
      | .ok a => .ok (some a)
      | .bad issues => .bad issues := by
  cases v with
  | null => exact absurd rfl present
  | _ => rfl

theorem optional_ok {α : Type} (check : Value → Checked α) (v : Value) (a : Option α)
    (checked : Schema.optional check v = .ok a) : a = none ∨ ∃ b, a = some b ∧ check v = .ok b := by
  rw [Schema.optional.eq_def] at checked
  split at checked
  · exact .inl (Checked.ok.inj checked).symm
  · split at checked
    · rename_i b found
      exact .inr ⟨b, (Checked.ok.inj checked).symm, found⟩
    · cases checked

theorem list_ok_iff (check : Value → Checked α) (items : List Value) (made : List α) :
    listOf check (.array items) = .ok made ↔ items.map check = made.map .ok := by
  have all (n : Nat) : Checked.all (fun i item => (check item).under (.index i)) n items = .ok made ↔
      items.map check = made.map .ok := by
    induction items generalizing n made with
    | nil => cases made <;> simp [Checked.all]
    | cons item rest ih =>
        simp only [Checked.all, apply_ok_iff, under_ok_iff, ih, Checked.ok.injEq]
        constructor
        · rintro ⟨g, tail, ⟨cons, a, rfl, head, rfl⟩, others, rfl⟩
          rw [List.map_cons, List.map_cons, head, others]
        · intro same
          cases made with
          | nil => cases same
          | cons a tail =>
              obtain ⟨head, others⟩ := List.cons.inj same
              exact ⟨_, tail, ⟨_, a, rfl, head, rfl⟩, others, rfl⟩
  exact all 0

theorem list_ok_mem {α : Type} (check : Value → Checked α) (v : Value) (made : List α)
    (checked : listOf check v = .ok made) : ∀ a ∈ made, ∃ item, check item = .ok a := by
  cases v with
  | array items =>
      have same := (list_ok_iff check items made).mp checked
      intro a member
      have there : Checked.ok a ∈ items.map check := by
        rw [same]
        exact List.mem_map_of_mem member
      obtain ⟨item, -, passed⟩ := List.mem_map.mp there
      exact ⟨item, passed⟩
  | _ => cases checked

theorem list_issues (check : Value → Checked α) (items : List Value) :
    (listOf check (.array items)).issues =
      items.zipIdx.flatMap fun e => (check e.1).issues.map (Issue.under (.index e.2)) := by
  have all (n : Nat) : (Checked.all (fun i item => (check item).under (.index i)) n items).issues =
      (items.zipIdx n).flatMap fun e => (check e.1).issues.map (Issue.under (.index e.2)) := by
    induction items generalizing n with
    | nil => rfl
    | cons item rest ih =>
        rw [Checked.all, issues_apply, issues_apply, issues_under, ih, List.zipIdx_cons, List.flatMap_cons]
        rfl
  exact all 0

end TestRun.Schema
