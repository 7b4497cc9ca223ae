import TestRun.Proofs.Command.Accepting
import TestRun.Proofs.Command.Endings
import TestRun.Proofs.Config.Environment
import TestRun.Proofs.Config.Lookup
import TestRun.Proofs.Json.Reading
import TestRun.Proofs.Markup.Checking
import TestRun.Proofs.Report.Escapes

/-! What the command prints for configs reads as the configs that were built. -/

set_option autoImplicit false

namespace TestRun.Command

open Environment (collapse keyed)
open Plist.Written (Element Fields pageOf)

def memberOf (c : TestConfig) : String → Value
  | "bundle_id" => .ofWording c.bundleIdentifier
  | "test_runner_bundle_id" => .text c.runnerBundleIdentifier
  | "xctest_config_name" => .text c.configName
  | "args" => Payload.texts c.arguments
  | "env" => .dict (keyed c.environment)
  | "tests_to_run" => Payload.texts c.selected
  | "tests_to_skip" => Payload.texts c.skipped
  | _ => .bool c.isPlainTest

def memberNames : List String :=
  ["bundle_id", "test_runner_bundle_id", "xctest_config_name", "args", "env", "tests_to_run", "tests_to_skip", "xc_test"]

def shownNames : List String :=
  ["args", "bundle_id", "env", "test_runner_bundle_id", "tests_to_run", "tests_to_skip", "xc_test", "xctest_config_name"]

def fieldsOf (c : TestConfig) : Environment := memberNames.map fun name => (name, memberOf c name)

def PlainEnvironment (env : Environment) : Prop := (env.map (·.1)).Nodup ∧ ∀ e ∈ env, Json.Plain e.2

def Identified (c : TestConfig) : Prop := ∃ id : String, c.bundleIdentifier = .text id

def isShallow (env : Environment) : Bool := env.all fun e => Json.height e.2 ≤ Json.maxDepth

structure Shows (c : TestConfig) (entries : Entries) : Prop where
  keys : entries.map (·.1) = shownNames.map .text
  bundle : entries.get? "bundle_id" = some (.ofWording c.bundleIdentifier)
  runner : entries.get? "test_runner_bundle_id" = some (.text c.runnerBundleIdentifier)
  configName : entries.get? "xctest_config_name" = some (.text c.configName)
  arguments : entries.get? "args" = some (.array (c.arguments.map .text))
  environment : ∃ env, entries.get? "env" = some env ∧ Json.Alike env (.dict (keyed c.environment))
  selected : entries.get? "tests_to_run" = some (.array (c.selected.map .text))
  skipped : entries.get? "tests_to_skip" = some (.array (c.skipped.map .text))
  plainTest : entries.get? "xc_test" = some (.bool c.isPlainTest)

theorem texts_plain (items : List String) : Json.Plain (Payload.texts items) :=
  .array _ fun v member => by
    obtain ⟨s, -, rfl⟩ := List.mem_map.mp member
    exact .text s

theorem texts_ordered (items : List String) : Json.ordered (Payload.texts items) = .array (items.map .text) := by
  rw [Payload.texts, Json.ordered, Json.ordered_items, List.map_map]
  rfl

theorem wording_ordered (w : Wording) : Json.ordered (.ofWording w) = .ofWording w := by
  cases w <;> rfl

theorem names_sorted : Json.sorted (fun a b => Value.keyLess (.text a) (.text b)) memberNames = shownNames := by
  decide

theorem fields_plain (c : TestConfig) (plain : PlainEnvironment c.environment) (identified : Identified c) :
    Json.Plain (.dict (keyed (fieldsOf c))) := by
  have bundle : Json.Plain (.ofWording c.bundleIdentifier) := by
    obtain ⟨id, same⟩ := identified
    rw [same]
    exact .text id
  have distinct : ((fieldsOf c).map (·.1)).Nodup := by
    have names : (fieldsOf c).map (·.1) = memberNames := rfl
    rw [names]
    decide
  refine .dict _ distinct fun e member => ?_
  obtain ⟨name, listed, rfl⟩ := List.mem_map.mp member
  simp only [memberNames, List.mem_cons, List.not_mem_nil, or_false] at listed
  rcases listed with rfl | rfl | rfl | rfl | rfl | rfl | rfl | rfl
  · exact bundle
  · exact .text _
  · exact .text _
  · exact texts_plain _
  · exact .dict _ plain.1 plain.2
  · exact texts_plain _
  · exact texts_plain _
  · exact .bool _

theorem fields_show (c : TestConfig) :
    ∃ entries, Json.ordered (.dict (keyed (fieldsOf c))) = .dict entries ∧ Shows c entries := by
  refine ⟨_, Json.ordered_named memberNames shownNames (memberOf c) names_sorted, ?_⟩
  exact {
    keys := rfl
    bundle := congrArg some (wording_ordered c.bundleIdentifier)
    runner := rfl
    configName := rfl
    arguments := congrArg some (texts_ordered c.arguments)
    environment := ⟨_, rfl, Json.ordered_alike _⟩
    selected := congrArg some (texts_ordered c.selected)
    skipped := congrArg some (texts_ordered c.skipped)
    plainTest := rfl }

theorem environment_payload (env : Environment) (plain : ∀ e ∈ env, Json.Plain e.2) :
    Payload.environment env = if isShallow env then .ok env else .error .tooDeep := by
  induction env with
  | nil => rfl
  | cons e rest ih =>
      obtain ⟨head, tail⟩ := List.forall_mem_cons.mp plain
      have value : Json.portable e.2 = if Json.height e.2 ≤ Json.maxDepth then .ok e.2 else .error .tooDeep :=
        Json.portable_plain e.2 head Json.maxDepth
      have both : isShallow (e :: rest) = (decide (Json.height e.2 ≤ Json.maxDepth) && isShallow rest) := rfl
      rw [Payload.environment, value, ih tail, both]
      by_cases low : Json.height e.2 ≤ Json.maxDepth
      · cases others : isShallow rest <;> simp [low, Bind.bind, Except.bind]
      · simp [low, Bind.bind, Except.bind]

theorem config_payload (c : TestConfig) (plain : PlainEnvironment c.environment) :
    c.payload = if isShallow c.environment then .ok (.dict (keyed (fieldsOf c))) else .error .tooDeep := by
  rw [TestConfig.payload, environment_payload c.environment plain.2]
  cases isShallow c.environment <;> rfl

theorem configs_payloads (configs : List TestConfig) (plain : ∀ c ∈ configs, PlainEnvironment c.environment) :
    TestConfig.payloads configs =
      if configs.all fun c => isShallow c.environment then .ok (configs.map fun c => .dict (keyed (fieldsOf c)))
      else .error .tooDeep := by
  induction configs with
  | nil => rfl
  | cons c rest ih =>
      obtain ⟨head, tail⟩ := List.forall_mem_cons.mp plain
      rw [TestConfig.payloads, config_payload c head, ih tail, List.all_cons]
      cases low : isShallow c.environment with
      | false => rfl
      | true => cases others : rest.all fun c => isShallow c.environment <;> rfl

theorem fit_values (fs : Files) (settings : Settings) (path : Path) (configs : List TestConfig) (values : List Value)
    (built : buildConfigs fs settings path = .ok configs) (fit : TestConfig.payloads configs = .ok values) :
    configValues fs settings path = .ok values := by
  simp only [configValues, built, fit, Bind.bind, Except.bind]

theorem config_values (fs : Files) (settings : Settings) (path : Path) (configs : List TestConfig)
    (built : buildConfigs fs settings path = .ok configs) (plain : ∀ c ∈ configs, PlainEnvironment c.environment) :
    configValues fs settings path =
      if configs.all fun c => isShallow c.environment then .ok (configs.map fun c => .dict (keyed (fieldsOf c)))
      else .error (.unfit .tooDeep) := by
  simp only [configValues, built, configs_payloads configs plain, Bind.bind, Except.bind]
  cases configs.all fun c => isShallow c.environment <;> rfl

theorem shallow_configs_print (console : Console) (fs : Files) (settings : Settings) (path : Path)
    (configs : List TestConfig) (loud : settings.quiet = false) (direct : settings.output = none)
    (built : buildConfigs fs settings path = .ok configs) (plain : ∀ c ∈ configs, PlainEnvironment c.environment)
    (identified : ∀ c ∈ configs, Identified c) (shallow : ∀ c ∈ configs, isShallow c.environment = true) :
    ∃ text : String, (runConfigs console fs settings path).exit = 0 ∧ (runConfigs console fs settings path).crash = none ∧
      (runConfigs console fs settings path).out = .text (text ++ "\n") ∧
      Json.read text.toList = .ok (.array (configs.map fun c => Json.ordered (.dict (keyed (fieldsOf c))))) := by
  have low : (configs.all fun c => isShallow c.environment) = true := List.all_eq_true.mpr shallow
  have values := config_values fs settings path configs built plain
  rw [if_pos low] at values
  have allPlain : Json.Plain (.array (configs.map fun c => .dict (keyed (fieldsOf c)))) := by
    refine .array _ fun v member => ?_
    obtain ⟨c, inside, rfl⟩ := List.mem_map.mp member
    exact fields_plain c (plain c inside) (identified c inside)
  obtain ⟨text, written, back⟩ := Json.plain_read _ allPlain
  have outcome : runConfigs console fs settings path =
      ⟨0, none, .text (text ++ "\n"), Note.lines settings.level (configNotes fs settings path), fs⟩ := by
    rw [runConfigs, values]
    simp only [deliverConfigs, written, direct, printConfigs, Settings.shown, loud, Bool.false_eq_true, if_false,
      console_takes_text]
    rfl
  rw [Json.ordered, Json.ordered_items, List.map_map] at back
  exact ⟨text, by rw [outcome], by rw [outcome], by rw [outcome], back⟩

theorem deep_configs_end (console : Console) (fs : Files) (settings : Settings) (path : Path) (configs : List TestConfig)
    (built : buildConfigs fs settings path = .ok configs) (plain : ∀ c ∈ configs, PlainEnvironment c.environment)
    (c : TestConfig) (inside : c ∈ configs) (deep : isShallow c.environment = false) :
    (runConfigs console fs settings path).exit = 1 ∧ (runConfigs console fs settings path).out = "" := by
  have low : ¬ (configs.all fun c => isShallow c.environment) = true := fun all => by
    rw [List.all_eq_true.mp all c inside] at deep
    cases deep
  have values := config_values fs settings path configs built plain
  rw [if_neg low] at values
  rw [runConfigs, values]
  exact ⟨rfl, rfl⟩

theorem built_of_targets (fs : Files) (settings : Settings) (path : Path) (apps : Option Inventory)
    (targets : List TestTarget) (loaded : loadApps fs settings = .ok apps)
    (decoded : (Source.file path).targets fs settings.supported = .ok targets) :
    buildConfigs fs settings path =
      (TestConfig.buildAll ⟨Payload.orNull .text settings.udid, .null⟩ apps settings.strict targets).mapError
        fun p => .failure (.problem p) := by
  simp only [buildConfigs, loaded, decoded, Bind.bind, Except.bind]
  cases TestConfig.buildAll _ apps settings.strict targets <;> rfl

theorem built_origin (fs : Files) (settings : Settings) (path : Path) (targets : List TestTarget)
    (configs : List TestConfig) (decoded : (Source.file path).targets fs settings.supported = .ok targets)
    (built : buildConfigs fs settings path = .ok configs) :
    ∀ c ∈ configs, ∃ t ∈ targets, c.environment = TestConfig.environmentOf t := by
  cases loaded : loadApps fs settings with
  | error e =>
      rw [buildConfigs, loaded] at built
      cases built
  | ok apps =>
      rw [built_of_targets fs settings path apps targets loaded decoded] at built
      cases made : TestConfig.buildAll ⟨Payload.orNull .text settings.udid, .null⟩ apps settings.strict targets with
      | error p =>
          rw [made] at built
          cases built
      | ok all =>
          rw [made] at built
          obtain rfl : all = configs := Except.ok.inj built
          exact TestConfig.build_all_origin _ apps settings.strict targets all made

theorem targets_distinct (fs : Files) (supported : List Int) (source : Source) (targets : List TestTarget)
    (decoded : source.targets fs supported = .ok targets) : ∀ t ∈ targets, t.Distinct := by
  intro t member
  rw [Source.targets] at decoded
  cases loaded : source.content fs with
  | error f =>
      rw [loaded] at decoded
      cases decoded
  | ok content =>
      rw [loaded] at decoded
      obtain ⟨entries, checked⟩ := Format.decoded_checked supported content targets decoded t member
      exact of_entries_distinct entries t checked

theorem configs_print_what_was_built (console : Console) (fs : Files) (args : List String) (settings : Settings) (path : Path)
    (targets : List TestTarget) (configs : List TestConfig) (accepted : parse args = .command .configs settings path)
    (loud : settings.quiet = false) (direct : settings.output = none)
    (decoded : (Source.file path).targets fs settings.supported = .ok targets)
    (built : buildConfigs fs settings path = .ok configs)
    (identified : ∀ c ∈ configs, Identified c)
    (plain : ∀ t ∈ targets, ∀ env ∈ t.environments, ∀ e ∈ env, Json.Plain e.2 ∧ Json.height e.2 ≤ Json.maxDepth) :
    ∃ (text : String) (objects : List Value),
      (run console fs args).exit = 0 ∧ (run console fs args).crash = none ∧
      (run console fs args).out = .text (text ++ "\n") ∧
      Json.read text.toList = .ok (.array objects) ∧ objects.length = configs.length ∧
      ∀ (i : Nat) (c : TestConfig), configs[i]? = some c →
        ∃ entries, objects[i]? = some (.dict entries) ∧ Shows c entries := by
  have origin := built_origin fs settings path targets configs decoded built
  have distinct := targets_distinct fs settings.supported (.file path) targets decoded
  -- What stands in the environment of a config stands in one of its target.
  have inside : ∀ c ∈ configs, ∀ e ∈ c.environment, Json.Plain e.2 ∧ Json.height e.2 ≤ Json.maxDepth := by
    intro c member e entry
    obtain ⟨t, target, same⟩ := origin c member
    rw [same] at entry
    obtain ⟨env, among, there⟩ := TestConfig.environment_of_mem t e entry
    exact plain t target env among e there
  have plainConfigs : ∀ c ∈ configs, PlainEnvironment c.environment := by
    intro c member
    refine ⟨?_, fun e entry => (inside c member e entry).1⟩
    obtain ⟨t, target, same⟩ := origin c member
    rw [same]
    exact TestConfig.environment_of_distinct t (distinct t target)
  have shallow : ∀ c ∈ configs, isShallow c.environment = true := fun c member =>
    List.all_eq_true.mpr fun e entry => decide_eq_true (inside c member e entry).2
  obtain ⟨text, exit, whole, out, back⟩ :=
    shallow_configs_print console fs settings path configs loud direct built plainConfigs identified shallow
  have running : run console fs args = runConfigs console fs settings path := by rw [run, accepted]
  rw [running]
  refine ⟨text, _, exit, whole, out, back, List.length_map _, fun i c there => ?_⟩
  obtain ⟨entries, ordered, shows⟩ := fields_show c
  exact ⟨entries, by rw [List.getElem?_map, there, Option.map_some, ordered], shows⟩

def nested : Nat → Element
  | 0 => .switch true true
  | depth + 1 => .array (.cons [] (nested depth) .nil) [] false

def nestedValue : Nat → Value
  | 0 => .bool true
  | depth + 1 => .array [nestedValue depth]

theorem nested_value (depth : Nat) : (nested depth).value = nestedValue depth := by
  induction depth with
  | zero => rfl
  | succ depth ih =>
      change Value.array [(nested depth).value] = _
      rw [ih]
      rfl

theorem nested_passes (depth : Nat) : (nested depth).passes = true := by
  induction depth with
  | zero => rfl
  | succ depth ih =>
      change ((true && ((nested depth).passes && true)) && true) = true
      rw [ih]
      rfl

theorem nested_plain (depth : Nat) : Json.Plain (nestedValue depth) := by
  induction depth with
  | zero => exact .bool true
  | succ depth ih => exact .array _ (by simpa using ih)

theorem nested_height (depth : Nat) : Json.height (nestedValue depth) = depth + 1 := by
  induction depth with
  | zero => rfl
  | succ depth ih =>
      change max (Json.height (nestedValue depth)) 0 + 1 = _
      rw [ih, Nat.max_zero]

def documentOf (block : Fields) : Fields :=
  .cons [] Format.metadataKey false [] (.dict (.cons [] "FormatVersion" false [] (.integer 1) .nil) [] false)
    (.cons [] "Tests" false [] (.dict block [] false) .nil)

theorem document_decoded (block : Fields) (t : TestTarget) (passes : block.passes = true)
    (checked : TestTarget.ofEntries (keyed (collapse block.entries)) = .ok t) :
    Format.decode [1, 2] (pageOf (documentOf block)).bytes = .ok [t] := by
  have whole : (documentOf block).passes = true := by
    simp only [documentOf, Fields.passes, Element.passes, passes]
    rfl
  have loaded := Plist.Written.load_page_of (documentOf block) whole
  have detected : Format.detect (pageOf (documentOf block)).bytes = .ok 1 := by
    rw [Format.detect, loaded]
    rfl
  rw [decode_known [1, 2] _ (by decide), detected]
  dsimp only
  rw [if_pos (by decide), Format.decoder, if_pos rfl, Format.SingleTarget.parse, loaded]
  have selected : Format.SingleTarget.select? (keyed (collapse (documentOf block).entries)) =
      some (.text "Tests", keyed (collapse block.entries)) := rfl
  change Format.SingleTarget.ofRoot (keyed (collapse (documentOf block).entries)) = _
  rw [Format.SingleTarget.ofRoot, selected]
  dsimp only
  rw [checked]

def variableFields (value : Element) : Fields :=
  documentOf (.cons [] "IsUITestBundle" false [] (.switch true true)
    (.cons [] "EnvironmentVariables" false [] (.dict (.cons [] "A" false [] value .nil) [] false) .nil))

def variableTarget (v : Value) : TestTarget := ⟨"", "", [], [], true, [], [("A", v)], [], none, none⟩

theorem variable_decoded (value : Element) (passes : value.passes = true) :
    Format.decode [1, 2] (pageOf (variableFields value)).bytes = .ok [variableTarget value.value] := by
  refine document_decoded _ _ ?_ rfl
  simp only [Fields.passes, Element.passes, passes]
  rfl

def onlyFile (content : List UInt8) : Files := ⟨[], [(["a"], content)], [[]]⟩

def onlyPath : Path := ⟨"", ["a"]⟩

theorem only_accepted : parse ["configs", "a"] = .command .configs Settings.initial onlyPath := by
  decide +kernel

theorem only_content (content : List UInt8) : (Source.file onlyPath).content (onlyFile content) = .ok content := rfl

theorem only_targets (content : List UInt8) (targets : List TestTarget)
    (decoded : Format.decode [1, 2] content = .ok targets) :
    (Source.file onlyPath).targets (onlyFile content) Settings.initial.supported = .ok targets := by
  rw [Source.targets, only_content]
  exact decoded

theorem unlisted_built (fs : Files) (settings : Settings) (content : List UInt8) (targets : List TestTarget)
    (there : (Source.file onlyPath).content fs = .ok content) (decoded : Format.decode [1, 2] content = .ok targets)
    (loaded : loadApps fs settings = .ok none) (supported : settings.supported = [1, 2]) (udid : settings.udid = none) :
    buildConfigs fs settings onlyPath = .ok (targets.map fun t => TestConfig.ofTarget ⟨.null, .null⟩ t "") := by
  have read : (Source.file onlyPath).targets fs settings.supported = .ok targets := by
    rw [Source.targets, there, supported]
    exact decoded
  rw [built_of_targets _ _ _ none _ loaded read, TestConfig.build_all_unlisted, udid]
  rfl

theorem only_built (content : List UInt8) (targets : List TestTarget)
    (decoded : Format.decode [1, 2] content = .ok targets) :
    buildConfigs (onlyFile content) Settings.initial onlyPath =
      .ok (targets.map fun t => TestConfig.ofTarget ⟨.null, .null⟩ t "") :=
  unlisted_built (onlyFile content) Settings.initial content targets (only_content content) decoded rfl rfl rfl

def variableConfig (v : Value) : TestConfig := TestConfig.ofTarget ⟨.null, .null⟩ (variableTarget v) ""

theorem variable_environment (v : Value) : (variableConfig v).environment = [("A", v)] := rfl

theorem variable_identified (v : Value) : ∀ c ∈ [variableConfig v], Identified c := fun c only => by
  rw [List.mem_singleton.mp only]
  exact ⟨"", rfl⟩

theorem variable_inside (P : Value → Prop) (v : Value) (holds : P v) :
    ∀ t ∈ [variableTarget v], ∀ env ∈ t.environments, ∀ e ∈ env, P e.2 := by
  intro t only env among e entry
  rw [List.mem_singleton.mp only] at among
  simp only [TestTarget.environments, variableTarget, Option.getD_none, List.mem_cons, List.not_mem_nil, or_false] at among
  rcases among with rfl | rfl | rfl
  · rw [List.mem_singleton.mp entry]
    exact holds
  · cases entry
  · cases entry

theorem nested_value_is_printed : ∃ (text : String) (entries : Entries) (env : Value),
    (run .encoder (onlyFile (pageOf (variableFields (nested 2))).bytes) ["configs", "a"]).exit = 0 ∧
      (run .encoder (onlyFile (pageOf (variableFields (nested 2))).bytes) ["configs", "a"]).out = .text (text ++ "\n") ∧
      Json.read text.toList = .ok (.array [.dict entries]) ∧ entries.get? "env" = some env ∧
      Json.Alike env (.dict [(.text "A", .array [.array [.bool true]])]) := by
  have decoded := variable_decoded (nested 2) (nested_passes 2)
  rw [nested_value] at decoded
  generalize (pageOf (variableFields (nested 2))).bytes = content at decoded ⊢
  obtain ⟨text, objects, exit, -, out, back, length, each⟩ :=
    configs_print_what_was_built .encoder (onlyFile content) ["configs", "a"] Settings.initial onlyPath
      [variableTarget (nestedValue 2)] [variableConfig (nestedValue 2)] only_accepted rfl rfl
      (only_targets content _ decoded) (only_built content _ decoded) (variable_identified _)
      (variable_inside (fun v => Json.Plain v ∧ Json.height v ≤ Json.maxDepth) (nestedValue 2)
        ⟨nested_plain 2, by rw [nested_height]; decide⟩)
  obtain ⟨object, rfl⟩ := List.length_eq_one_iff.mp length
  obtain ⟨entries, first, shows⟩ := each 0 _ rfl
  obtain rfl : object = .dict entries := Option.some.inj first
  obtain ⟨env, there, alike⟩ := shows.environment
  exact ⟨text, entries, env, exit, out, back, there, alike⟩

theorem nested_ends (console : Console) (depth : Nat) (deep : Json.maxDepth ≤ depth) (content : List UInt8)
    (decoded : Format.decode [1, 2] content = .ok [variableTarget (nestedValue depth)]) :
    (run console (onlyFile content) ["configs", "a"]).exit = 1 ∧ (run console (onlyFile content) ["configs", "a"]).out = "" := by
  have built := only_built content _ decoded
  have plain : ∀ c ∈ [variableConfig (nestedValue depth)], PlainEnvironment c.environment := by
    simpa [PlainEnvironment, variable_environment] using nested_plain depth
  have tooDeep : isShallow (variableConfig (nestedValue depth)).environment = false := by
    rw [variable_environment, isShallow, List.all_cons, nested_height]
    simpa [Nat.lt_succ_iff] using deep
  have running : run console (onlyFile content) ["configs", "a"] =
      runConfigs console (onlyFile content) Settings.initial onlyPath := by
    rw [run, only_accepted]
  rw [running]
  exact deep_configs_end console (onlyFile content) Settings.initial onlyPath _ built plain _ List.mem_cons_self tooDeep

def loneApp : App := ⟨"X", .broken [0xd800]⟩

def loneApps : List UInt8 :=
  Text.Utf8.encode "[\x7b\"CFBundleName\":\"X\",\"CFBundleIdentifier\":\"\\ud800\"\x7d]".toList

theorem lone_apps_load : Inventory.ofJson loneApps = .ok [loneApp] := by
  decide +kernel

def appFields : Fields :=
  documentOf (.cons [] "IsUITestBundle" false [] (.switch true true)
    (.cons [] "UITargetAppPath" false [] (.text "X.app" false) .nil))

def appTarget : TestTarget := ⟨"", "", [], [], true, [], [], [], none, some "X.app"⟩

theorem app_decoded : Format.decode [1, 2] (pageOf appFields).bytes = .ok [appTarget] :=
  document_decoded _ _ (by decide +kernel) rfl

def loneConfig : TestConfig := TestConfig.ofTarget ⟨.null, .null⟩ appTarget loneApp.bundleIdentifier

def loneValues : List Value := [.dict (keyed (fieldsOf loneConfig))]

def lonePoints : List Nat :=
  Text.codes "[\x7b\"args\":[],\"bundle_id\":\"".toList ++ 0xd800 ::
    Text.codes ("\",\"env\":\x7b\x7d,\"test_runner_bundle_id\":\"\",\"tests_to_run\":[],\"tests_to_skip\":[]," ++
      "\"xc_test\":false,\"xctest_config_name\":\"\"\x7d]").toList

theorem lone_written : Json.canonical (.array loneValues) = .ok (.broken lonePoints) := by
  decide +kernel

theorem lone_payloads : TestConfig.payloads [loneConfig] = .ok loneValues := rfl

theorem lone_built (fs : Files) (s : Settings) (targets : (Source.file onlyPath).targets fs s.supported = .ok [appTarget])
    (loaded : loadApps fs s = .ok (some [loneApp])) (lenient : s.strict = false) (udid : s.udid = none) :
    buildConfigs fs s onlyPath = .ok [loneConfig] := by
  have found : TestConfig.appIdentifier (some [loneApp]) false appTarget = .ok loneApp.bundleIdentifier := by
    decide +kernel
  rw [built_of_targets fs s onlyPath _ _ loaded targets, lenient, udid]
  simp only [TestConfig.buildAll, TestConfig.build, found]
  rfl

def listedFiles (content apps : List UInt8) : Files := ⟨[], [(["a"], content), (["b"], apps)], [[]]⟩

def listedSettings : Settings := { Settings.initial with apps := some ⟨"", ["b"]⟩ }

theorem only_path : Path.ofString "a" = onlyPath := by
  decide +kernel

theorem listed_accepted (sub : Subcommand) : parse [sub.name, "a", "--apps", "b"] = .command sub listedSettings onlyPath := by
  have ahead : tokens leadingSwitches ["a", "--apps", "b"] = .ok [.plain "a", .unknown "--apps", .plain "b"] := by
    decide +kernel
  have behind : tokens sub.switches ["a", "--apps", "b"] = .ok [.plain "a", .switch .apps "--apps" .nothing, .plain "b"] := by
    cases sub <;> decide +kernel
  rw [← only_path]
  exact parse_of_parts sub _ _ _ _ "a" ahead behind
    (.path _ _ _ _ _ (.value _ _ _ _ _ _ _ _ _ rfl (by decide +kernel) (.done _ _)))

theorem listed_apps (content apps : List UInt8) (inventory : Inventory) (read : Inventory.ofJson apps = .ok inventory) :
    loadApps (listedFiles content apps) listedSettings = .ok (some inventory) := by
  have loaded : Inventory.load (listedFiles content apps) ⟨"", ["b"]⟩ = Inventory.ofJson apps := rfl
  rw [loadApps, listedSettings]
  dsimp only
  rw [loaded, read]

structure Withheld (console : Console) (fs : Files) (args : List String) (s : Settings) (path : Path)
    (targets : List TestTarget) (configs : List TestConfig) : Prop where
  accepted : parse args = .command .configs s path
  loud : s.quiet = false
  direct : s.output = none
  decoded : (Source.file path).targets fs s.supported = .ok targets
  built : buildConfigs fs s path = .ok configs
  plain : ∀ t ∈ targets, ∀ env ∈ t.environments, ∀ e ∈ env, Json.Plain e.2
  exit : (run console fs args).exit = 1
  out : (run console fs args).out = ""

theorem lone_values (content apps : List UInt8) (decoded : Format.decode [1, 2] content = .ok [appTarget])
    (read : Inventory.ofJson apps = .ok [loneApp]) :
    buildConfigs (listedFiles content apps) listedSettings onlyPath = .ok [loneConfig] ∧
      configValues (listedFiles content apps) listedSettings onlyPath = .ok loneValues := by
  have targets : (Source.file onlyPath).targets (listedFiles content apps) listedSettings.supported = .ok [appTarget] :=
    decoded
  have built := lone_built (listedFiles content apps) listedSettings targets (listed_apps content apps _ read) rfl rfl
  exact ⟨built, fit_values _ _ _ _ _ built lone_payloads⟩

theorem lone_surrogate_is_not_printed (content apps : List UInt8) (decoded : Format.decode [1, 2] content = .ok [appTarget])
    (read : Inventory.ofJson apps = .ok [loneApp]) :
    Withheld .encoder (listedFiles content apps) ["configs", "a", "--apps", "b"] listedSettings onlyPath [appTarget]
      [loneConfig] := by
  have accepted : parse ["configs", "a", "--apps", "b"] = .command .configs listedSettings onlyPath := listed_accepted .configs
  obtain ⟨built, values⟩ := lone_values content apps decoded read
  have refused : Console.encoder.refusal? (.broken lonePoints) = some ⟨25, [0xd800]⟩ := by
    decide +kernel
  have ends := refused_run .encoder (listedFiles content apps) listedSettings onlyPath loneValues _ _ values lone_written rfl refused
  have running : run .encoder (listedFiles content apps) ["configs", "a", "--apps", "b"] =
      runConfigs .encoder (listedFiles content apps) listedSettings onlyPath := by
    rw [run, accepted]
  refine ⟨accepted, rfl, rfl, decoded, built, ?_, ?_, ?_⟩
  · simp [TestTarget.environments, appTarget]
  · rw [running, ends, reported_exit]
  · rw [running, ends, reported_out]

theorem deep_value_is_not_printed :
    Withheld .encoder (onlyFile (pageOf (variableFields (nested 299))).bytes) ["configs", "a"] Settings.initial onlyPath
        [variableTarget (nestedValue 299)] [variableConfig (nestedValue 299)] ∧
      Withheld .encoder (listedFiles (pageOf appFields).bytes loneApps) ["configs", "a", "--apps", "b"] listedSettings onlyPath
        [appTarget] [loneConfig] := by
  have decoded := variable_decoded (nested 299) (nested_passes 299)
  rw [nested_value] at decoded
  refine ⟨?_, lone_surrogate_is_not_printed _ _ app_decoded lone_apps_load⟩
  generalize (pageOf (variableFields (nested 299))).bytes = content at decoded ⊢
  obtain ⟨exit, out⟩ := nested_ends .encoder 299 (by decide) content decoded
  exact ⟨only_accepted, rfl, rfl, only_targets content _ decoded, only_built content _ decoded,
    variable_inside _ _ (nested_plain 299), exit, out⟩

end TestRun.Command
