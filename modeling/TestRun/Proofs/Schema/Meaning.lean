import TestRun.Proofs.Schema.Findings
import TestRun.Proofs.Value.Merge

/-! What checks make of values. -/

set_option autoImplicit false

namespace TestRun.Schema

variable {α : Type}

def IsText (v : Value) (s : String) : Prop := plainText v = .ok s

def IsSwitch (v : Value) (b : Bool) : Prop := switch v = .ok b

def IsTexts (v : Value) (texts : List String) : Prop := ∃ items, v = .array items ∧ items.map plainText = texts.map .ok

def IsEnvironment (v : Value) (env : Environment) : Prop :=
  ∃ entries, ∃ names : List String, v = .dict entries ∧ entries.map (fun e => plainText e.1) = names.map .ok ∧
    env = Environment.collapse (names.zip (entries.map (·.2)))

def NullOr (means : Value → α → Prop) (v : Value) (a : Option α) : Prop :=
  (v = .null ∧ a = none) ∨ (v ≠ .null ∧ ∃ b, a = some b ∧ means v b)

def KeyMeans (name : String) (default : α) (means : Value → α → Prop) (entries : Entries) (a : α) : Prop :=
  match Entries.get? name entries with
  | none => a = default
  | some v => means v a

theorem key_means_iff (name : String) (default : α) (check : Value → Checked α) (means : Value → α → Prop)
    (agrees : ∀ v a, check v = .ok a ↔ means v a) (entries : Entries) (a : α) :
    field name default check entries = .ok a ↔ KeyMeans name default means entries a := by
  cases present : Entries.get? name entries with
  | none =>
      rw [field_absent name default check entries present, KeyMeans, present, Checked.ok.injEq]
      exact eq_comm
  | some v =>
      rw [field_present name default check entries v present, KeyMeans, present, Checked.under_ok_iff]
      exact agrees v a

theorem key_same (name : String) (default : α) (check : Value → Checked α) (entries other : Entries)
    (same : Entries.get? name other = Entries.get? name entries) :
    field name default check other = field name default check entries := by
  rw [field, field, same]

theorem null_or_iff (check : Value → Checked α) (means : Value → α → Prop)
    (agrees : ∀ v a, check v = .ok a ↔ means v a) (v : Value) (a : Option α) :
    Schema.optional check v = .ok a ↔ NullOr means v a := by
  by_cases null : v = .null
  · subst null
    simp [Schema.optional, NullOr, eq_comm]
  · rw [optional_present check v null]
    cases checked : check v with
    | ok b => simp [NullOr, null, ← agrees, checked, eq_comm]
    | bad issues => simp [NullOr, null, ← agrees, checked]

theorem is_texts_iff (v : Value) (texts : List String) : listOf plainText v = .ok texts ↔ IsTexts v texts := by
  cases v with
  | array items => simp [list_ok_iff, IsTexts]
  | _ => simp [listOf, IsTexts, Checked.fail]

theorem is_environment_iff (v : Value) (env : Environment) :
    Schema.environment v = .ok env ↔ IsEnvironment v env := by
  constructor
  · intro read
    cases v with
    | dict entries =>
        have clean := (environment_reports.ok_iff (.dict entries)).mp ⟨env, read⟩
        obtain ⟨names, named⟩ := (Checked.map_ok_iff (fun e : Value × Value => plainText e.1) entries).mpr
          (text_keys_named entries clean)
        refine ⟨entries, names, rfl, named, ?_⟩
        rw [Schema.environment, text_keys_ok [] entries names named] at read
        rw [← Environment.merge_nil]
        exact (Checked.ok.inj read).symm
    | _ => cases read
  · rintro ⟨entries, names, rfl, named, rfl⟩
    rw [Schema.environment, text_keys_ok [] entries names named, Environment.merge_nil]

end TestRun.Schema
