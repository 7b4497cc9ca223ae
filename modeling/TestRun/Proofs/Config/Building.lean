import TestRun.Proofs.Config.Environment
import TestRun.Proofs.Config.Lookup
import TestRun.Proofs.Schema.Meaning
import TestRun.Proofs.Value.Overlay
import TestRun.TestConfig.Check

/-! Configs of decoded targets. -/

set_option autoImplicit false

namespace TestRun

open Schema

theorem Schema.required_present {α : Type} (name : String) (check : Value → Checked α) (entries : Entries) (v : Value)
    (a : α) (present : Entries.get? name entries = some v) (passed : check v = .ok a) :
    required name [] check entries = .ok a := by
  have found : ([name].find? fun key => (Entries.get? key entries).isSome) = some name := by simp [present]
  rw [required, found]
  dsimp only
  rw [present]
  dsimp only
  rw [passed, Checked.under]

theorem Schema.text_as_it_is (w : Wording) : text (.ofWording w) = .ok w := by
  cases w <;> rfl

theorem Schema.texts_as_they_are (texts : List String) : listOf plainText (.array (texts.map .text)) = .ok texts := by
  rw [list_ok_iff, List.map_map]
  rfl

theorem Schema.environment_as_it_is (env : Environment) (distinct : env.keys.Nodup) :
    Schema.environment (.dict (env.map fun e => (.text e.1, e.2))) = .ok env := by
  refine (is_environment_iff _ env).mpr ⟨_, env.keys, rfl, ?_, ?_⟩
  · rw [List.map_map, Environment.keys, List.map_map]
    rfl
  · have pairs : env.keys.zip ((env.map fun e => (Value.text e.1, e.2)).map (·.2)) = env := by
      rw [List.map_map, Environment.keys, List.zip_map']
      exact List.map_id env
    rw [pairs, Environment.collapse_distinct env distinct]

namespace TestConfig

theorem environment_of_keys (t : TestTarget) (distinct : t.Distinct) : (environmentOf t).keys.Nodup :=
  environment_of_distinct t distinct

theorem handed_checked (session : Session) (t : TestTarget) (distinct : t.Distinct) (id : Wording) :
    ofEntries (handed session t id) = .ok (ofTarget session t id) := by
  have bundle := required_present "bundle_id" text (handed session t id) _ id rfl (text_as_it_is id)
  have runner := required_present "test_runner_bundle_id" plainText (handed session t id) _ t.hostBundleIdentifier rfl rfl
  have name := required_present "xctest_config_name" plainText (handed session t id) _ (BundlePath.baseName t.bundlePath) rfl
    rfl
  have arguments := required_present "args" _ (handed session t id) _ _ rfl (texts_as_they_are t.arguments)
  have environment := required_present "env" _ (handed session t id) _ _ rfl
    (environment_as_it_is (environmentOf t) (environment_of_keys t distinct))
  have selected := required_present "tests_to_run" _ (handed session t id) _ _ rfl (texts_as_they_are t.selected)
  have skipped := required_present "tests_to_skip" _ (handed session t id) _ _ rfl (texts_as_they_are t.skipped)
  have plain := required_present "xc_test" switch (handed session t id) _ (!t.isInterfaceTest) rfl rfl
  have device : field "device" .null .ok (handed session t id) = .ok session.device := rfl
  have listener : field "listener" .null .ok (handed session t id) = .ok session.listener := rfl
  rw [ofEntries, bundle, runner, name, arguments, environment, selected, skipped, plain, device, listener]
  rfl

theorem build_checked (session : Session) (apps : Option Inventory) (strict : Bool) (t : TestTarget)
    (distinct : t.Distinct) : buildChecked session apps strict t = (build session apps strict t).map .ok := by
  rw [buildChecked, build]
  cases appIdentifier apps strict t with
  | error p => rfl
  | ok id => exact congrArg Except.ok (handed_checked session t distinct id)

theorem lenient_identifier (apps : Option Inventory) (t : TestTarget) :
    ∃ id, appIdentifier apps false t = .ok id ∧ (t.isInterfaceTest = false → id = "") := by
  cases apps with
  | none =>
      refine ⟨"", ?_, fun _ => rfl⟩
      cases driven : t.isInterfaceTest <;> simp [appIdentifier, lookup?, driven]
  | some apps =>
      refine ⟨t.identifierIn apps, by rw [app_identifier, if_neg (by simp)], fun plain => ?_⟩
      simp [TestTarget.identifierIn, plain]

theorem environment_of_plain (t : TestTarget) (plain : t.isInterfaceTest = false) : environmentOf t = [] := by
  simp [environmentOf, plain]

theorem environment_of_driving (t : TestTarget) (driven : t.isInterfaceTest = true) :
    environmentOf t = t.environment.merge (t.testingEnvironment ++ t.appEnvironment.getD []) := by
  rw [environmentOf, if_pos driven, Environment.merge_twice]

theorem driving_keys (t : TestTarget) (distinct : t.Distinct) (driven : t.isInterfaceTest = true) :
    (environmentOf t).keys =
      (t.environment.keys ++ t.testingEnvironment.keys ++ (t.appEnvironment.getD []).keys).eraseDups := by
  have own : t.environment.keys.Nodup := distinct _ (by simp [TestTarget.environments])
  rw [environment_of_driving t driven, Environment.merge_keys _ _ own, Environment.keys_append, List.append_assoc]

theorem driving_get (t : TestTarget) (distinct : t.Distinct) (driven : t.isInterfaceTest = true) (key : String) :
    (environmentOf t).get? key = ((t.appEnvironment.getD []).get? key).or
      ((t.testingEnvironment.get? key).or (t.environment.get? key)) := by
  have testing : t.testingEnvironment.keys.Nodup := distinct _ (by simp [TestTarget.environments])
  have app : (t.appEnvironment.getD []).keys.Nodup := distinct _ (by simp [TestTarget.environments])
  rw [environment_of_driving t driven, Environment.merge_get, Environment.last_append,
    Environment.last_get key _ testing, Environment.last_get key _ app, Option.or_assoc]

theorem lenient_build_merges_without_loss (entries : Entries) (t : TestTarget) (session : Session)
    (apps : Option Inventory) (checked : TestTarget.ofEntries entries = .ok t) :
    ∃ c, build session apps false t = .ok c ∧ buildChecked session apps false t = .ok (.ok c) ∧
      c.arguments = t.arguments ∧ c.selected = t.selected ∧ c.skipped = t.skipped ∧
      c.runnerBundleIdentifier = t.hostBundleIdentifier ∧ c.isPlainTest = !t.isInterfaceTest ∧
      (t.isInterfaceTest = false → c.environment = [] ∧ c.bundleIdentifier = "") ∧
      (t.isInterfaceTest = true →
        c.environment.keys =
          (t.environment.keys ++ t.testingEnvironment.keys ++ (t.appEnvironment.getD []).keys).eraseDups ∧
        c.environment.keys.Nodup ∧
        (∀ key, key ∈ c.environment.keys ↔ key ∈ t.environment.keys ∨ key ∈ t.testingEnvironment.keys ∨
          key ∈ (t.appEnvironment.getD []).keys) ∧
        ∀ key, c.environment.get? key = ((t.appEnvironment.getD []).get? key).or
          ((t.testingEnvironment.get? key).or (t.environment.get? key))) := by
  have distinct := of_entries_distinct entries t checked
  obtain ⟨id, identified, unnamed⟩ := lenient_identifier apps t
  have built : build session apps false t = .ok (ofTarget session t id) := by
    rw [build, identified]
    rfl
  refine ⟨ofTarget session t id, built, ?_, rfl, rfl, rfl, rfl, rfl, fun plain => ?_, fun driven => ?_⟩
  · rw [build_checked session apps false t distinct, built]
    rfl
  · exact ⟨environment_of_plain t plain, unnamed plain⟩
  · have keys := driving_keys t distinct driven
    refine ⟨keys, environment_of_keys t distinct, fun key => ?_, driving_get t distinct driven⟩
    change key ∈ (environmentOf t).keys ↔ _
    rw [keys, List.mem_eraseDups, List.mem_append, List.mem_append, or_assoc]

def overlaidBlock : Entries :=
  [(.text "IsUITestBundle", .bool true),
    (.text "UITargetAppEnvironmentVariables", .dict [(.text "app", .int 3), (.text "all", .int 3)]),
    (.text "EnvironmentVariables", .dict [(.text "own", .int 1), (.text "all", .int 1)]),
    (.text "TestingEnvironmentVariables", .dict [(.text "all", .int 2), (.text "testing", .null)])]

def overlaidTarget : TestTarget where
  hostBundleIdentifier := ""
  bundlePath := ""
  skipped := []
  selected := []
  isInterfaceTest := true
  arguments := []
  environment := [("own", .int 1), ("all", .int 1)]
  testingEnvironment := [("all", .int 2), ("testing", .null)]
  appEnvironment := some [("app", .int 3), ("all", .int 3)]
  appBundlePath := none

theorem overlaid_block_is_merged :
    TestTarget.ofEntries overlaidBlock = .ok overlaidTarget ∧
      ∃ c, build ⟨.null, .null⟩ none false overlaidTarget = .ok c ∧
        c.environment.keys = ["own", "all", "testing", "app"] ∧ c.environment.get? "all" = some (.int 3) ∧
        c.environment.get? "testing" = some .null := by
  have checked : TestTarget.ofEntries overlaidBlock = .ok overlaidTarget := rfl
  obtain ⟨c, built, -, -, -, -, -, -, -, driving⟩ :=
    lenient_build_merges_without_loss overlaidBlock overlaidTarget ⟨.null, .null⟩ none checked
  obtain ⟨keys, -, -, values⟩ := driving rfl
  exact ⟨checked, c, built, keys.trans (by decide), (values "all").trans rfl, (values "testing").trans rfl⟩

end TestConfig
end TestRun
