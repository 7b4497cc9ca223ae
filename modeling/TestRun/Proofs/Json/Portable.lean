import TestRun.Json.Portable
import TestRun.Proofs.Json.Canonical
import TestRun.Proofs.Value.Merge

/-! What is made fit for JSON has text for keys, no two the same, and only finite real numbers, whatever it was made
from. -/

set_option autoImplicit false

namespace TestRun.Json

open Environment (keyed put put_distinct put_keyed put_mem)

theorem keyed_worded (entries : Environment) (distinct : (entries.map (·.1)).Nodup) : Worded (keyed entries) := by
  have points : (keyed entries).map (fun e => e.1.points?) =
      (entries.map (·.1)).map fun name => some (name.toList.map Char.toNat) := by
    rw [keyed, List.map_map, List.map_map]
    rfl
  refine ⟨fun e member => ?_, ?_⟩
  · obtain ⟨d, -, rfl⟩ := List.mem_map.mp member
    rfl
  · rw [points]
    refine distinct.map fun a b same => ?_
    have codes : a.toList.map Char.toNat = b.toList.map Char.toNat := Option.some.inj same
    exact String.toList_inj.mp (List.map_injective_iff.mpr (fun c d => Char.toNat_inj.mp) codes)

theorem keyed_text_keyed (loose : Bool) (entries : Environment) (distinct : (entries.map (·.1)).Nodup)
    (each : ∀ e ∈ entries, TextKeyed loose e.2) : TextKeyed loose (.dict (keyed entries)) :=
  .dict _ (keyed_worded entries distinct) (List.forall_mem_map.mpr each)

theorem strict_scalar (v : Value) (single : isScalar v = true) (noReal : ∀ x, v ≠ .real x) : TextKeyed false v :=
  .scalar v single fun x same => absurd same (noReal x)

mutual
theorem portable_keyed (depth : Nat) (v made : Value) (fit : portableWithin depth v = .ok made) :
    TextKeyed false made := by
  cases depth with
  | zero => cases v <;> cases fit
  | succ depth =>
      cases v with
      | array items =>
          rw [portableWithin] at fit
          obtain ⟨parts, inner, rfl⟩ := mapped_ok _ _ _ fit
          exact .array parts (items_keyed depth items parts inner)
      | dict entries =>
          rw [portableWithin] at fit
          obtain ⟨parts, inner, rfl⟩ := mapped_ok _ _ _ fit
          obtain ⟨env, rfl, distinct, each⟩ := entries_keyed depth [] entries parts List.nodup_nil (by simp) inner
          exact keyed_text_keyed false env distinct each
      | real x =>
          rw [portableWithin] at fit
          by_cases finite : x.isFinite = true
          · rw [if_pos finite] at fit
            rw [← Except.ok.inj fit]
            refine .scalar _ rfl fun y same => .inr ?_
            rwa [← Value.real.inj same]
          · rw [if_neg finite] at fit
            rw [← Except.ok.inj fit]
            exact strict_scalar _ rfl (by simp)
      | data bytes =>
          rw [portableWithin] at fit
          obtain ⟨text, -, rfl⟩ := mapped_ok _ _ _ fit
          exact strict_scalar _ rfl (by simp)
      | uid n => cases fit
      | enclosing => cases fit
      | _ =>
          rw [portableWithin] at fit
          rw [← Except.ok.inj fit]
          exact strict_scalar _ rfl (by simp)
theorem items_keyed (depth : Nat) (items made : List Value) (fit : portableItems depth items = .ok made) :
    ∀ v ∈ made, TextKeyed false v := by
  cases items with
  | nil =>
      rw [portableItems] at fit
      rw [← Except.ok.inj fit]
      simp
  | cons v rest =>
      rw [portableItems] at fit
      obtain ⟨first, head, fit⟩ := bind_ok _ _ _ fit
      obtain ⟨others, tail, fit⟩ := bind_ok _ _ _ fit
      rw [← Except.ok.inj fit]
      exact List.forall_mem_cons.mpr ⟨portable_keyed depth v first head, items_keyed depth rest others tail⟩
theorem entries_keyed (depth : Nat) (before : Environment) (entries : List (Value × Value)) (made : Entries)
    (distinct : (before.map (·.1)).Nodup) (each : ∀ e ∈ before, TextKeyed false e.2)
    (fit : portableEntries depth (keyed before) entries = .ok made) :
    ∃ env : Environment, made = keyed env ∧ (env.map (·.1)).Nodup ∧ ∀ e ∈ env, TextKeyed false e.2 := by
  cases entries with
  | nil =>
      rw [portableEntries] at fit
      exact ⟨before, (Except.ok.inj fit).symm, distinct, each⟩
  | cons entry rest =>
      obtain ⟨key, v⟩ := entry
      rw [portableEntries] at fit
      obtain ⟨name, -, fit⟩ := bind_ok _ _ _ fit
      obtain ⟨first, head, fit⟩ := bind_ok _ _ _ fit
      rw [put_keyed] at fit
      refine entries_keyed depth (put name first before) rest made (put_distinct name first before distinct) ?_ fit
      intro e member
      rcases put_mem name first before e member with rfl | old
      · exact portable_keyed depth v first head
      · exact each e old
end

end TestRun.Json
