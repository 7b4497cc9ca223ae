import TestRun.Format.Decode
import TestRun.Proofs.Schema.Target

/-! Where the parts of what was decoded come from: each is what a check has made of some part of the document. -/

set_option autoImplicit false

namespace TestRun

open Schema

theorem of_entries_environments (entries : Entries) (t : TestTarget) (checked : TestTarget.ofEntries entries = .ok t) :
    field "EnvironmentVariables" [] Schema.environment entries = .ok t.environment ∧
      field "TestingEnvironmentVariables" [] Schema.environment entries = .ok t.testingEnvironment ∧
      field "UITargetAppEnvironmentVariables" none (Schema.optional Schema.environment) entries = .ok t.appEnvironment := by
  obtain ⟨-, -, -, -, -, -, own, testing, app, -⟩ := (TestTarget.of_entries_fields entries t).mp checked
  exact ⟨own, testing, app⟩

namespace Format

theorem plan_parts (root : Entries) (d : PlanDocument) (made : PlanDocument.ofRoot root = .ok d) :
    field "TestConfigurations" [] (listOf (model configuration)) root = .ok d.configurations ∧
      version root = .ok d.version := by
  obtain ⟨build, v, front, found, rfl⟩ := (Checked.apply_ok_iff _ _ d).mp made
  obtain ⟨withPlan, p, inner, -, rfl⟩ := (Checked.apply_ok_iff _ _ build).mp front
  obtain ⟨withConfigurations, cs, innermost, read, rfl⟩ := (Checked.apply_ok_iff _ _ withPlan).mp inner
  obtain ⟨_, c, start, -, rfl⟩ := (Checked.apply_ok_iff _ _ withConfigurations).mp innermost
  rw [← Checked.ok.inj start]
  exact ⟨read, found⟩

theorem configuration_targets (entries : Entries) (c : Configuration) (made : configuration entries = .ok c) :
    field "TestTargets" [] (listOf TestTarget.ofValue) entries = .ok c.targets := by
  obtain ⟨build, ts, front, read, rfl⟩ := (Checked.apply_ok_iff _ _ c).mp made
  obtain ⟨_, n, start, -, rfl⟩ := (Checked.apply_ok_iff _ _ build).mp front
  rw [← Checked.ok.inj start]
  exact read

theorem model_ok {α : Type} (check : Entries → Checked α) (v : Value) (a : α) (made : model check v = .ok a) :
    ∃ entries, check entries = .ok a := by
  cases v with
  | dict entries => exact ⟨entries, made⟩
  | _ => cases made

theorem blocks_ok_iff (blocks : List Entries) (targets : List TestTarget) :
    listOf TestTarget.ofValue (.array (blocks.map .dict)) = .ok targets ↔
      blocks.map TestTarget.ofEntries = targets.map .ok := by
  rw [list_ok_iff, List.map_map]
  rfl

theorem configuration_checked (c : Configuration) (v : Value) (made : model configuration v = .ok c) :
    ∀ t ∈ c.targets, ∃ entries, TestTarget.ofEntries entries = .ok t := by
  obtain ⟨inner, read⟩ := model_ok configuration v c made
  intro t member
  rcases field_ok _ _ _ _ _ (configuration_targets inner c read) with none | ⟨blocks, checked⟩
  · rw [none] at member
    cases member
  · obtain ⟨block, passed⟩ := list_ok_mem TestTarget.ofValue blocks _ checked t member
    exact model_ok TestTarget.ofEntries block t passed

theorem single_checked (root : Entries) (targets : List TestTarget) (decoded : SingleTarget.ofRoot root = .ok targets) :
    ∀ t ∈ targets, ∃ entries, TestTarget.ofEntries entries = .ok t := by
  intro t member
  unfold SingleTarget.ofRoot at decoded
  split at decoded
  · obtain rfl := Except.ok.inj decoded
    cases member
  · split at decoded
    · rename_i checked
      obtain rfl := Except.ok.inj decoded
      rw [List.mem_singleton.mp member]
      exact ⟨_, checked⟩
    · cases decoded

theorem plan_targets_checked (root : Entries) (targets : List TestTarget)
    (decoded : PlanDocument.targetsOfRoot root = .ok targets) :
    ∀ t ∈ targets, ∃ entries, TestTarget.ofEntries entries = .ok t := by
  unfold PlanDocument.targetsOfRoot at decoded
  split at decoded
  · rename_i d made
    unfold PlanDocument.targets at decoded
    split at decoded
    · cases decoded
    · rename_i first others shape
      obtain rfl := Except.ok.inj decoded
      rcases field_ok _ _ _ _ _ (plan_parts root d made).1 with none | ⟨listed, checked⟩
      · rw [none] at shape
        cases shape
      · obtain ⟨v, passed⟩ := list_ok_mem (model configuration) listed _ checked first (by simp [shape])
        exact configuration_checked first v passed
  · cases decoded

theorem load_then_ok {α : Type} (content : List UInt8) (next : Entries → Except Failure α) (a : α)
    (made : Document.load content >>= next = .ok a) : ∃ root, Document.load content = .ok root ∧ next root = .ok a := by
  cases loaded : Document.load content with
  | error f =>
      rw [loaded] at made
      cases made
  | ok root =>
      rw [loaded] at made
      exact ⟨root, rfl, made⟩

theorem decoder_ok (v : Int) (content : List UInt8) (targets : List TestTarget) (decoded : decoder v content = .ok targets) :
    ∃ root, Document.load content = .ok root ∧
      (SingleTarget.ofRoot root = .ok targets ∨ PlanDocument.targetsOfRoot root = .ok targets) := by
  by_cases first : v = 1
  · rw [decoder, if_pos first] at decoded
    obtain ⟨root, loaded, made⟩ := load_then_ok content SingleTarget.ofRoot targets decoded
    exact ⟨root, loaded, .inl made⟩
  · rw [decoder, if_neg first] at decoded
    obtain ⟨root, loaded, made⟩ := load_then_ok content PlanDocument.targetsOfRoot targets decoded
    exact ⟨root, loaded, .inr made⟩

theorem decode_ok (supported : List Int) (content : List UInt8) (targets : List TestTarget)
    (decoded : decode supported content = .ok targets) : ∃ v, decoder v content = .ok targets := by
  unfold decode at decoded
  split at decoded
  · split at decoded
    · cases decoded
    · split at decoded
      · exact ⟨_, decoded⟩
      · cases decoded
  · cases decoded

theorem decoded_checked (supported : List Int) (content : List UInt8) (targets : List TestTarget)
    (decoded : decode supported content = .ok targets) :
    ∀ t ∈ targets, ∃ entries, TestTarget.ofEntries entries = .ok t := by
  obtain ⟨v, made⟩ := decode_ok supported content targets decoded
  obtain ⟨root, -, single | plan⟩ := decoder_ok v content targets made
  · exact single_checked root targets single
  · exact plan_targets_checked root targets plan

end Format
end TestRun
