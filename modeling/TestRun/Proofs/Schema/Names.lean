import TestRun.Proofs.Schema.Issues
import TestRun.Proofs.Value.Keys

/-! Fields that have several names. -/

set_option autoImplicit false

namespace TestRun.Schema

variable {α : Type}

def deciding? (names : List String) (entries : Entries) : Option (String × Value) :=
  names.findSome? fun name => (Entries.get? name entries).map fun v => (name, v)

def Decides (names : List String) (entries : Entries) (key : String) (v : Value) : Prop :=
  ∃ higher lower, names = higher ++ key :: lower ∧ (∀ name ∈ higher, Entries.get? name entries = none) ∧
    Entries.get? key entries = some v

-- What a check finds wrong with a field. If no name is there, the first one says what is missing.
inductive Finds (check : Value → Checked α) (entries : Entries) : List String → List Issue → Prop where
  | missing (name : String) (others : List String) (absent : ∀ key ∈ name :: others, Entries.get? key entries = none) :
      Finds check entries (name :: others) [⟨[.key name], .missing⟩]
  | decided (names : List String) (key : String) (v : Value) (decides : Decides names entries key v) :
      Finds check entries names ((check v).issues.map (Issue.under (.key key)))

theorem deciding_iff (names : List String) (entries : Entries) (key : String) (v : Value) :
    deciding? names entries = some (key, v) ↔ Decides names entries key v := by
  rw [deciding?, List.findSome?_eq_some_iff]
  constructor
  · rintro ⟨higher, name, lower, split, found, absent⟩
    obtain ⟨w, present, same⟩ := Option.map_eq_some_iff.mp found
    obtain ⟨rfl, rfl⟩ := Prod.mk.inj same
    exact ⟨higher, lower, split, fun other member => Option.map_eq_none_iff.mp (absent other member), present⟩
  · rintro ⟨higher, lower, split, absent, present⟩
    exact ⟨higher, key, lower, split, by rw [present]; rfl, fun other member => by rw [absent other member]; rfl⟩

theorem required_deciding (name : String) (others : List String) (check : Value → Checked α) (entries : Entries) :
    required name others check entries = match deciding? (name :: others) entries with
      | none => (Checked.fail .missing).under (.key name)
      | some (key, v) => (check v).under (.key key) := by
  have search (names : List String) :
      (names.find? fun key => (Entries.get? key entries).isSome) = (deciding? names entries).map (·.1) := by
    induction names with
    | nil => rfl
    | cons key rest ih =>
        rw [deciding?, List.findSome?_cons, List.find?_cons]
        cases Entries.get? key entries with
        | none => exact ih
        | some v => rfl
  rw [required, search]
  cases decided : deciding? (name :: others) entries with
  | none => rfl
  | some found =>
      obtain ⟨key, v⟩ := found
      obtain ⟨-, -, -, -, present⟩ := (deciding_iff _ entries key v).mp decided
      rw [Option.map_some]
      dsimp only
      rw [present]

theorem required_ok_iff (name : String) (others : List String) (check : Value → Checked α) (entries : Entries) (a : α) :
    required name others check entries = .ok a ↔ ∃ key v, Decides (name :: others) entries key v ∧ check v = .ok a := by
  rw [required_deciding]
  simp only [← deciding_iff]
  cases deciding? (name :: others) entries with
  | none => simp [Checked.fail, Checked.under]
  | some found =>
      obtain ⟨key, v⟩ := found
      simp only [Checked.under_ok_iff, Option.some.injEq, Prod.mk.injEq]
      constructor
      · intro passed
        exact ⟨key, v, ⟨rfl, rfl⟩, passed⟩
      · rintro ⟨_, _, ⟨rfl, rfl⟩, passed⟩
        exact passed

theorem required_finds (name : String) (others : List String) (check : Value → Checked α) (entries : Entries) :
    Finds check entries (name :: others) (required name others check entries).issues := by
  rw [required_deciding]
  cases decided : deciding? (name :: others) entries with
  | none =>
      refine .missing name others fun key member => ?_
      exact Option.map_eq_none_iff.mp (List.findSome?_eq_none_iff.mp decided key member)
  | some found =>
      obtain ⟨key, v⟩ := found
      dsimp only
      rw [Checked.issues_under]
      exact .decided _ key v ((deciding_iff _ entries key v).mp decided)

theorem required_same (name : String) (others : List String) (check : Value → Checked α) (a b : Entries)
    (same : deciding? (name :: others) a = deciding? (name :: others) b) :
    required name others check a = required name others check b := by
  rw [required_deciding, required_deciding, same]

theorem deciding_same (names : List String) (a b : Entries) (same : ∀ name ∈ names, Entries.get? name a = Entries.get? name b) :
    deciding? names a = deciding? names b := by
  induction names with
  | nil => rfl
  | cons name rest ih =>
      obtain ⟨head, tail⟩ := List.forall_mem_cons.mp same
      have behind := ih tail
      rw [deciding?] at behind ⊢
      rw [List.findSome?_cons, head, behind]
      rfl

theorem deciding_up_to (higher lower : List String) (key : String) (entries : Entries)
    (present : (Entries.get? key entries).isSome = true) :
    deciding? (higher ++ key :: lower) entries = deciding? (higher ++ [key]) entries := by
  obtain ⟨v, found⟩ := Option.isSome_iff_exists.mp present
  rw [deciding?, deciding?, List.findSome?_append, List.findSome?_append, List.findSome?_cons, List.findSome?_cons, found]
  rfl

theorem deciding_inserted (names : List String) (front back : Entries) (key v : Value)
    (strange : ∀ name ∈ names, key ≠ .text name) :
    deciding? names (front ++ back) = deciding? names (front ++ (key, v) :: back) :=
  deciding_same names _ _ fun name member => (Entries.get_inserted name front back key v (strange name member)).symm

theorem deciding_lower (higher lower : List String) (key name : String) (v : Value) (front back : Entries)
    (distinct : (higher ++ key :: lower).Nodup) (present : (Entries.get? key (front ++ back)).isSome = true)
    (behind : name ∈ lower) :
    deciding? (higher ++ key :: lower) (front ++ back) =
      deciding? (higher ++ key :: lower) (front ++ (.text name, v) :: back) := by
  have apart : ∀ other ∈ higher ++ [key], Value.text name ≠ .text other := by
    rw [← List.singleton_append, ← List.append_assoc] at distinct
    obtain ⟨-, -, disjoint⟩ := List.nodup_append.mp distinct
    intro other member same
    exact disjoint other member name behind (Value.text.inj same).symm
  have still : (Entries.get? key (front ++ (.text name, v) :: back)).isSome = true := by
    rwa [Entries.get_inserted key front back _ v (apart key (by simp))]
  rw [deciding_up_to higher lower key _ present, deciding_up_to higher lower key _ still]
  exact deciding_inserted _ front back _ v apart

end TestRun.Schema
