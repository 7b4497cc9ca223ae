import TestRun.Proofs.Format.Parts
import TestRun.Proofs.Value.Merge
import TestRun.TestConfig

/-! The environments of decoded targets and of the configs that are built from them. -/

set_option autoImplicit false

namespace TestRun

open Schema

def TestTarget.environments (t : TestTarget) : List Environment :=
  [t.environment, t.testingEnvironment, t.appEnvironment.getD []]

def TestTarget.Distinct (t : TestTarget) : Prop := ∀ env ∈ t.environments, (env.map (·.1)).Nodup

theorem text_keys_distinct (made : Environment) (entries : Entries) (env : Environment)
    (distinct : (made.map (·.1)).Nodup) (read : textKeys made entries = .ok env) : (env.map (·.1)).Nodup := by
  induction entries generalizing made with
  | nil =>
      obtain rfl := Checked.ok.inj read
      exact distinct
  | cons entry rest ih =>
      obtain ⟨key, v⟩ := entry
      rw [textKeys] at read
      cases named : plainText key with
      | ok name =>
          rw [named] at read
          exact ih (Environment.put name v made) (Environment.put_distinct name v made distinct) read
      | bad issues =>
          rw [named] at read
          obtain ⟨g, a, failed, -⟩ := (Checked.apply_ok_iff _ _ env).mp read
          cases failed

theorem environment_distinct (v : Value) (env : Environment) (read : Schema.environment v = .ok env) :
    (env.map (·.1)).Nodup := by
  cases v with
  | dict entries => exact text_keys_distinct [] entries env List.nodup_nil read
  | _ => cases read

theorem of_entries_distinct (entries : Entries) (t : TestTarget) (checked : TestTarget.ofEntries entries = .ok t) :
    t.Distinct := by
  obtain ⟨own, testing, app⟩ := of_entries_environments entries t checked
  have plain (name : String) (env : Environment) (read : field name [] Schema.environment entries = .ok env) :
      (env.map (·.1)).Nodup := by
    rcases field_ok name [] env Schema.environment entries read with rfl | ⟨v, read⟩
    · exact List.nodup_nil
    · exact environment_distinct v env read
  intro env member
  simp only [TestTarget.environments, List.mem_cons, List.not_mem_nil, or_false] at member
  rcases member with rfl | rfl | rfl
  · exact plain _ _ own
  · exact plain _ _ testing
  · rcases field_ok _ _ _ _ entries app with absent | ⟨v, read⟩
    · rw [absent]
      exact List.nodup_nil
    · rcases optional_ok Schema.environment v _ read with none | ⟨env, some, read⟩
      · rw [none]
        exact List.nodup_nil
      · rw [some]
        exact environment_distinct v env read

namespace TestConfig

theorem environment_of_distinct (t : TestTarget) (distinct : t.Distinct) : ((environmentOf t).map (·.1)).Nodup := by
  by_cases driven : t.isInterfaceTest = true
  · have own : (t.environment.map (·.1)).Nodup := distinct _ (by simp [TestTarget.environments])
    rw [environmentOf, if_pos driven]
    exact Environment.merge_distinct _ _ (Environment.merge_distinct _ _ own)
  · rw [environmentOf, if_neg driven]
    exact List.nodup_nil

theorem environment_of_mem (t : TestTarget) : ∀ e ∈ environmentOf t, ∃ env ∈ t.environments, e ∈ env := by
  intro e member
  by_cases driven : t.isInterfaceTest = true
  · rw [environmentOf, if_pos driven] at member
    rcases Environment.merge_mem _ _ e member with front | app
    · rcases Environment.merge_mem _ _ e front with own | testing
      · exact ⟨t.environment, by simp [TestTarget.environments], own⟩
      · exact ⟨t.testingEnvironment, by simp [TestTarget.environments], testing⟩
    · exact ⟨t.appEnvironment.getD [], by simp [TestTarget.environments], app⟩
  · rw [environmentOf, if_neg driven] at member
    cases member

theorem build_all_origin (session : Session) (apps : Option Inventory) (strict : Bool) (targets : List TestTarget)
    (configs : List TestConfig) (built : buildAll session apps strict targets = .ok configs) :
    ∀ c ∈ configs, ∃ t ∈ targets, c.environment = environmentOf t := by
  induction targets generalizing configs with
  | nil =>
      obtain rfl := Except.ok.inj built
      simp
  | cons t rest ih =>
      rw [buildAll, build] at built
      cases identified : appIdentifier apps strict t with
      | error p =>
          rw [identified] at built
          cases built
      | ok id =>
          cases others : buildAll session apps strict rest with
          | error p =>
              rw [identified, others] at built
              cases built
          | ok more =>
              rw [identified, others] at built
              obtain rfl := Except.ok.inj built
              intro c member
              rcases List.mem_cons.mp member with rfl | later
              · exact ⟨t, by simp, rfl⟩
              · obtain ⟨other, inRest, same⟩ := ih more others c later
                exact ⟨other, List.mem_cons_of_mem _ inRest, same⟩

end TestConfig
end TestRun
