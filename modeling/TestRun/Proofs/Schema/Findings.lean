import Mathlib.Data.List.Basic
import TestRun.Proofs.Schema.Issues

/-! What a schema finds wrong with a dictionary, told by its parts. -/

set_option autoImplicit false

namespace TestRun.Schema

variable {α β γ : Type}

structure Part where
  name : String
  findings : Value → List Issue

def Part.issues (p : Part) (entries : Entries) : List Issue :=
  match Entries.get? p.name entries with
  | none => []
  | some v => (p.findings v).map (Issue.under (.key p.name))

def issuesOf (parts : List Part) (entries : Entries) : List Issue := parts.flatMap fun p => p.issues entries

def textual (v : Value) : List Issue := (plainText v).issues

def inBlock (parts : List Part) : Value → List Issue
  | .dict entries => issuesOf parts entries
  | _ => [⟨[], .modelType⟩]

def inItems (findings : Value → List Issue) : Value → List Issue
  | .array items => items.zipIdx.flatMap fun e => (findings e.1).map (Issue.under (.index e.2))
  | _ => [⟨[], .listType⟩]

def inKeys : Value → List Issue
  | .dict entries => entries.flatMap fun e => (textual e.1).map (keyIssue e.1)
  | _ => [⟨[], .dictType⟩]

def unlessNull (findings : Value → List Issue) : Value → List Issue
  | .null => []
  | v => findings v

def Reports (check : β → Checked α) (findings : β → List Issue) : Prop :=
  ∀ v, (check v).issues = findings v ∧ (findings v = [] → ∃ a, check v = .ok a)

namespace Reports

variable {check : β → Checked α} {findings : β → List Issue}

theorem ok_iff (reports : Reports check findings) (v : β) : (∃ a, check v = .ok a) ↔ findings v = [] := by
  obtain ⟨same, clean⟩ := reports v
  refine ⟨fun ⟨a, passed⟩ => ?_, clean⟩
  rw [← same, passed, Checked.issues]

theorem bad_iff (reports : Reports check findings) (v : β) (issues : List Issue) :
    check v = .bad issues ↔ findings v ≠ [] ∧ issues = findings v := by
  obtain ⟨same, -⟩ := reports v
  have passed := reports.ok_iff v
  cases checked : check v with
  | ok a =>
      rw [checked] at passed
      simp [passed.mp ⟨a, rfl⟩]
  | bad found =>
      rw [checked] at same passed
      have some : findings v ≠ [] := fun none => by simpa using passed.mpr none
      rw [← same, Checked.issues] at some ⊢
      simp [some, eq_comm]

end Reports

def Scalar (check : Value → Checked α) : Prop := ∀ v, (∃ a, check v = .ok a) ∨ ∃ kind, check v = .fail kind

theorem reports_scalar (check : Value → Checked α) (scalar : Scalar check) : Reports check fun v => (check v).issues := by
  intro v
  refine ⟨rfl, fun clean => ?_⟩
  rcases scalar v with passed | ⟨kind, failed⟩
  · exact passed
  · dsimp only at clean
    rw [failed] at clean
    cases clean

theorem text_scalar : Scalar plainText := by
  intro v
  cases v with
  | text s => exact .inl ⟨s, rfl⟩
  | data bytes =>
      rw [plainText, text]
      cases Text.Utf8.decode? bytes with
      | some chars => exact .inl ⟨_, rfl⟩
      | none => exact .inr ⟨_, rfl⟩
  | brokenText points => exact .inr ⟨_, rfl⟩
  | _ => exact .inr ⟨_, rfl⟩

theorem switch_of_int_scalar (i : Int) : (∃ b, switchOfInt i = .ok b) ∨ ∃ kind, switchOfInt i = .fail kind := by
  unfold switchOfInt
  repeat' split
  · exact .inl ⟨_, rfl⟩
  · exact .inl ⟨_, rfl⟩
  · exact .inr ⟨_, rfl⟩
  · exact .inr ⟨_, rfl⟩

theorem switch_of_text_scalar (chars : List Char) :
    (∃ b, switchOfText chars = .ok b) ∨ ∃ kind, switchOfText chars = .fail kind := by
  unfold switchOfText
  dsimp only
  repeat' split
  · exact .inl ⟨_, rfl⟩
  · exact .inl ⟨_, rfl⟩
  · exact .inr ⟨_, rfl⟩

theorem switch_scalar : Scalar switch := by
  intro v
  cases v with
  | bool b => exact .inl ⟨b, rfl⟩
  | int i => exact switch_of_int_scalar i
  | uid n => exact switch_of_int_scalar n
  | real x =>
      rw [switch]
      split
      · exact switch_of_int_scalar _
      · exact .inr ⟨_, rfl⟩
  | text s => exact switch_of_text_scalar s.toList
  | data bytes =>
      rw [switch]
      split
      · exact switch_of_text_scalar _
      · exact .inr ⟨_, rfl⟩
  | brokenText points => exact .inr ⟨_, rfl⟩
  | _ => exact .inr ⟨_, rfl⟩

theorem integer_of_real_scalar (x : Binary64) :
    (∃ i, integerOfReal x = .ok i) ∨ ∃ kind, integerOfReal x = .fail kind := by
  unfold integerOfReal
  repeat' split
  · exact .inr ⟨_, rfl⟩
  · exact .inr ⟨_, rfl⟩
  · exact .inl ⟨_, rfl⟩
  · exact .inr ⟨_, rfl⟩

theorem integer_of_digits_scalar (negative : Bool) (digits : List Char) :
    (∃ i, integerOfDigits negative digits = .ok i) ∨ ∃ kind, integerOfDigits negative digits = .fail kind := by
  unfold integerOfDigits
  dsimp only
  repeat' split
  · exact .inr ⟨_, rfl⟩
  · exact .inr ⟨_, rfl⟩
  · exact .inr ⟨_, rfl⟩
  · exact .inl ⟨_, rfl⟩

theorem integer_of_text_scalar (chars : List Char) :
    (∃ i, integerOfText chars = .ok i) ∨ ∃ kind, integerOfText chars = .fail kind := by
  unfold integerOfText
  split
  · exact .inr ⟨_, rfl⟩
  · exact integer_of_digits_scalar true _
  · exact integer_of_digits_scalar false _

theorem integer_scalar : Scalar integer := by
  intro v
  cases v with
  | int i => exact .inl ⟨i, rfl⟩
  | bool b => exact .inl ⟨_, rfl⟩
  | uid n => exact integer_of_real_scalar _
  | real x => exact integer_of_real_scalar x
  | text s => exact integer_of_text_scalar s.toList
  | data bytes =>
      rw [integer]
      split
      · exact integer_of_text_scalar _
      · exact .inr ⟨_, rfl⟩
  | brokenText points => exact .inr ⟨_, rfl⟩
  | _ => exact .inr ⟨_, rfl⟩

theorem part_reports (name : String) (default : α) (check : Value → Checked α) (findings : Value → List Issue)
    (reports : Reports check findings) : Reports (field name default check) (Part.issues ⟨name, findings⟩) := by
  intro entries
  cases present : Entries.get? name entries with
  | none =>
      rw [field_absent name default check entries present, Part.issues, present]
      exact ⟨rfl, fun _ => ⟨default, rfl⟩⟩
  | some v =>
      obtain ⟨same, clean⟩ := reports v
      rw [field_present name default check entries v present, Part.issues, present]
      dsimp only
      refine ⟨by rw [Checked.issues_under, same], fun none => ?_⟩
      obtain ⟨a, passed⟩ := clean (List.map_eq_nil_iff.mp none)
      exact ⟨a, by rw [passed, Checked.under]⟩

theorem parts_report (parts : List Part) (p : Part) (build : Entries → Checked (α → γ)) (check : Entries → Checked α)
    (front : Reports build (issuesOf parts)) (last : Reports check p.issues) :
    Reports (fun entries => (build entries).apply (check entries)) (issuesOf (parts ++ [p])) := by
  intro entries
  obtain ⟨sameFront, cleanFront⟩ := front entries
  obtain ⟨sameLast, cleanLast⟩ := last entries
  have split : issuesOf (parts ++ [p]) entries = issuesOf parts entries ++ p.issues entries := by simp [issuesOf]
  rw [split]
  refine ⟨by rw [Checked.issues_apply, sameFront, sameLast], fun none => ?_⟩
  obtain ⟨noneFront, noneLast⟩ := List.append_eq_nil_iff.mp none
  obtain ⟨f, built⟩ := cleanFront noneFront
  obtain ⟨a, passed⟩ := cleanLast noneLast
  dsimp only
  exact ⟨f a, by rw [built, passed, Checked.apply]⟩

theorem no_parts_report (build : γ) : Reports (fun _ => .ok build) (issuesOf []) :=
  fun _ => ⟨rfl, fun _ => ⟨build, rfl⟩⟩

theorem one_part_reports (p : Part) (check : Entries → Checked α) (reports : Reports check p.issues) :
    Reports check (issuesOf [p]) := by
  intro entries
  rw [issuesOf, List.flatMap_cons, List.flatMap_nil, List.append_nil]
  exact reports entries

theorem issues_of_nil_iff (parts : List Part) (entries : Entries) :
    issuesOf parts entries = [] ↔ ∀ p ∈ parts, ∀ v, Entries.get? p.name entries = some v → p.findings v = [] := by
  rw [issuesOf, List.flatMap_eq_nil_iff]
  refine forall₂_congr fun p _ => ?_
  rw [Part.issues]
  cases Entries.get? p.name entries with
  | none => simp
  | some v => simp

theorem model_reports (parts : List Part) (check : Entries → Checked α) (reports : Reports check (issuesOf parts)) :
    Reports (model check) (inBlock parts) := by
  intro v
  cases v with
  | dict entries => exact reports entries
  | _ => exact ⟨rfl, fun clean => by cases clean⟩

theorem list_reports (check : Value → Checked α) (findings : Value → List Issue) (reports : Reports check findings) :
    Reports (listOf check) (inItems findings) := by
  intro v
  cases v with
  | array items =>
      have same : (listOf check (.array items)).issues = inItems findings (.array items) := by
        rw [list_issues, inItems]
        exact List.flatMap_congr fun e _ => by rw [(reports e.1).1]
      refine ⟨same, fun clean => ?_⟩
      have passed : ∀ item ∈ items, ∃ a, check item = .ok a := by
        intro item member
        obtain ⟨i, there⟩ := List.mem_iff_getElem?.mp member
        have listed := List.flatMap_eq_nil_iff.mp clean (item, i) (List.mk_mem_zipIdx_iff_getElem?.mpr there)
        exact (reports item).2 (List.map_eq_nil_iff.mp listed)
      obtain ⟨made, same⟩ := (Checked.map_ok_iff check items).mpr passed
      exact ⟨made, (list_ok_iff check items made).mpr same⟩
  | _ => exact ⟨rfl, fun clean => by cases clean⟩

theorem optional_reports (check : Value → Checked α) (findings : Value → List Issue) (reports : Reports check findings) :
    Reports (Schema.optional check) (unlessNull findings) := by
  intro v
  by_cases null : v = .null
  · subst null
    exact ⟨rfl, fun _ => ⟨none, rfl⟩⟩
  · obtain ⟨same, clean⟩ := reports v
    have found : unlessNull findings v = findings v := by
      cases v with
      | null => exact absurd rfl null
      | _ => rfl
    rw [found, optional_present check v null]
    cases checked : check v with
    | ok a =>
        rw [checked] at same
        exact ⟨same, fun _ => ⟨some a, rfl⟩⟩
    | bad issues =>
        rw [checked] at same clean
        exact ⟨same, fun none => by simpa using clean none⟩

theorem text_keys_issues (made : Environment) (entries : Entries) :
    (textKeys made entries).issues = inKeys (.dict entries) := by
  induction entries generalizing made with
  | nil => rfl
  | cons e rest ih =>
      obtain ⟨key, v⟩ := e
      have split : inKeys (.dict ((key, v) :: rest)) = (textual key).map (keyIssue key) ++ inKeys (.dict rest) := rfl
      rw [textKeys, split, textual]
      cases named : plainText key with
      | ok name => exact ih (made.put name v)
      | bad issues =>
          dsimp only
          rw [Checked.issues_apply, ih made]
          rfl

theorem text_keys_ok (made : Environment) (entries : Entries) (names : List String)
    (named : entries.map (fun e => plainText e.1) = names.map .ok) :
    textKeys made entries = .ok (made.merge (names.zip (entries.map (·.2)))) := by
  induction entries generalizing made names with
  | nil =>
      obtain rfl : names = [] := by simpa using named.symm
      rfl
  | cons e rest ih =>
      obtain ⟨key, v⟩ := e
      cases names with
      | nil => cases named
      | cons name others =>
          obtain ⟨first, behind⟩ := List.cons.inj named
          dsimp only at first
          rw [textKeys, first]
          exact ih (made.put name v) others behind

theorem text_keys_named (entries : Entries) (clean : inKeys (.dict entries) = []) :
    ∀ e ∈ entries, ∃ name, plainText e.1 = .ok name := by
  intro e member
  have none := List.flatMap_eq_nil_iff.mp clean e member
  exact (reports_scalar plainText text_scalar e.1).2 (List.map_eq_nil_iff.mp none)

theorem environment_reports : Reports Schema.environment inKeys := by
  intro v
  cases v with
  | dict entries =>
      refine ⟨text_keys_issues [] entries, fun clean => ?_⟩
      obtain ⟨names, named⟩ := (Checked.map_ok_iff (fun e : Value × Value => plainText e.1) entries).mpr
        (text_keys_named entries clean)
      exact ⟨_, text_keys_ok [] entries names named⟩
  | _ => exact ⟨rfl, fun clean => by cases clean⟩

end TestRun.Schema
