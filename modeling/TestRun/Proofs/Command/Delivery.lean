import TestRun.Proofs.Command.Configs

/-! What the command delivers for configs whenever it succeeds is JSON of the strict grammar. -/

set_option autoImplicit false

namespace TestRun.Command

open Environment (keyed)
open Json (Derives Increasing Pictures TextKeyed Tree bind_ok)
open Plist.Written (Element pageOf)

structure Delivered (console : Console) (s : Settings) (o : Outcome) (text : Wording) : Prop where
  printed : s.output = none → s.quiet = false →
    o.out = text ++ "\n" ∧ (console = .encoder → ∃ line : String, text = .text line)
  saved : ∀ directory, s.output = some directory → ∃ bytes, (text ++ "\n").encode = .ok bytes ∧
    o.files.read (directory.child (resultName .configs)) = .ok bytes

theorem environment_keyed (env made : Environment) (fit : Payload.environment env = .ok made) :
    made.map (·.1) = env.map (·.1) ∧ ∀ e ∈ made, TextKeyed false e.2 := by
  induction env generalizing made with
  | nil =>
      obtain rfl : [] = made := Except.ok.inj fit
      exact ⟨rfl, by simp⟩
  | cons e rest ih =>
      obtain ⟨key, v⟩ := e
      rw [Payload.environment] at fit
      obtain ⟨first, head, fit⟩ := bind_ok _ _ _ fit
      obtain ⟨others, tail, fit⟩ := bind_ok _ _ _ fit
      obtain rfl : (key, first) :: others = made := Except.ok.inj fit
      obtain ⟨names, each⟩ := ih others tail
      exact ⟨congrArg (key :: ·) names, List.forall_mem_cons.mpr ⟨Json.portable_keyed _ v first head, each⟩⟩

theorem texts_keyed (items : List String) : TextKeyed false (Payload.texts items) :=
  .array _ (List.forall_mem_map.mpr fun s _ => Json.strict_scalar (.text s) rfl (by simp))

theorem wording_keyed (w : Wording) : TextKeyed false (.ofWording w) := by
  cases w <;> exact Json.strict_scalar _ rfl (by simp [Value.ofWording])

theorem payload_keyed (c : TestConfig) (v : Value) (distinct : (c.environment.map (·.1)).Nodup)
    (fit : c.payload = .ok v) : TextKeyed false v := by
  obtain ⟨env, inner, fit⟩ := bind_ok _ _ _ fit
  obtain ⟨names, each⟩ := environment_keyed c.environment env inner
  have text (s : String) : TextKeyed false (.text s) := Json.strict_scalar _ rfl (by simp)
  have listed : memberNames.Nodup := by decide
  rw [← Except.ok.inj fit]
  refine Json.keyed_text_keyed false _ listed ?_
  simp only [List.forall_mem_cons]
  exact ⟨wording_keyed _, text _, text _, texts_keyed _, Json.keyed_text_keyed false env (by rwa [names]) each, texts_keyed _,
    texts_keyed _, Json.strict_scalar _ rfl (by simp), by simp⟩

theorem payloads_keyed (configs : List TestConfig) (values : List Value)
    (distinct : ∀ c ∈ configs, (c.environment.map (·.1)).Nodup) (fit : TestConfig.payloads configs = .ok values) :
    ∀ v ∈ values, TextKeyed false v := by
  induction configs generalizing values with
  | nil =>
      obtain rfl : [] = values := Except.ok.inj fit
      simp
  | cons c rest ih =>
      obtain ⟨head, tail⟩ := List.forall_mem_cons.mp distinct
      rw [TestConfig.payloads] at fit
      obtain ⟨first, made, fit⟩ := bind_ok _ _ _ fit
      obtain ⟨others, behind, fit⟩ := bind_ok _ _ _ fit
      obtain rfl : first :: others = values := Except.ok.inj fit
      exact List.forall_mem_cons.mpr ⟨payload_keyed c first head made, ih others tail behind⟩

theorem payloads_length (configs : List TestConfig) (values : List Value) (fit : TestConfig.payloads configs = .ok values) :
    values.length = configs.length := by
  induction configs generalizing values with
  | nil =>
      obtain rfl := Except.ok.inj fit
      rfl
  | cons c rest ih =>
      obtain ⟨first, -, fit⟩ := bind_ok _ _ _ fit
      obtain ⟨others, behind, fit⟩ := bind_ok _ _ _ fit
      obtain rfl := Except.ok.inj fit
      rw [List.length_cons, ih others behind, List.length_cons]

theorem built_decoded (fs : Files) (settings : Settings) (path : Path) (configs : List TestConfig)
    (built : buildConfigs fs settings path = .ok configs) :
    ∃ targets, (Source.file path).targets fs settings.supported = .ok targets := by
  obtain ⟨apps, -, built⟩ := bind_ok _ _ _ built
  cases decoded : (Source.file path).targets fs settings.supported with
  | error f =>
      rw [decoded] at built
      cases built
  | ok targets => exact ⟨targets, rfl⟩

theorem built_distinct (fs : Files) (settings : Settings) (path : Path) (configs : List TestConfig)
    (built : buildConfigs fs settings path = .ok configs) : ∀ c ∈ configs, (c.environment.map (·.1)).Nodup := by
  obtain ⟨targets, decoded⟩ := built_decoded fs settings path configs built
  intro c member
  obtain ⟨t, target, same⟩ := built_origin fs settings path targets configs decoded built c member
  rw [same]
  exact TestConfig.environment_of_distinct t (targets_distinct fs settings.supported _ targets decoded t target)

theorem values_of_configs (fs : Files) (settings : Settings) (path : Path) (values : List Value)
    (made : configValues fs settings path = .ok values) :
    ∃ configs, buildConfigs fs settings path = .ok configs ∧ TestConfig.payloads configs = .ok values := by
  obtain ⟨configs, built, made⟩ := bind_ok _ _ _ made
  refine ⟨configs, built, ?_⟩
  cases fit : TestConfig.payloads configs with
  | error u =>
      rw [fit] at made
      cases made
  | ok all =>
      rw [fit] at made
      rw [Except.ok.inj made]

theorem encoder_takes (text : Wording) (taken : Console.encoder.refusal? text = none) : ∃ line : String, text = .text line := by
  cases text with
  | text line => exact ⟨line, rfl⟩
  | broken points => cases taken

theorem shown_loud (s : Settings) (text : Wording) (loud : s.quiet = false) : s.shown text = text := by
  rw [Settings.shown, loud]
  rfl

theorem deliver_succeeds (console : Console) (fs : Files) (s : Settings) (notes : String) (values : List Value)
    (text : String) (written : Json.canonical (.array values) = .ok (.text text))
    (room : ∀ directory, s.output = some directory → (save fs directory (resultName .configs) (.text text)).2.isOk = true) :
    (deliverConfigs console fs s notes values).exit = 0 := by
  have shown : ∃ shown : String, s.shown (.text text) = .text shown := by
    cases quiet : s.quiet with
    | true => exact ⟨"", by rw [Settings.shown, if_pos quiet]⟩
    | false => exact ⟨text, shown_loud s _ quiet⟩
  obtain ⟨line, shown⟩ := shown
  simp only [deliverConfigs, written]
  cases target : s.output with
  | none => simp only [printConfigs, shown, console_takes_text]
  | some directory =>
      have kept := room directory target
      dsimp only
      cases result : save fs directory (resultName .configs) (.text text) with
      | mk after outcome =>
          rw [result] at kept
          cases outcome with
          | error e => cases kept
          | ok path => rfl

theorem configs_delivered (console : Console) (fs : Files) (settings : Settings) (path : Path)
    (done : (runConfigs console fs settings path).exit = 0) :
    ∃ values text, configValues fs settings path = .ok values ∧ Json.canonical (.array values) = .ok text ∧
      Delivered console settings (runConfigs console fs settings path) text := by
  generalize running : runConfigs console fs settings path = o at done ⊢
  have run := configs_run console fs settings path
  rw [running] at run
  cases run with
  | unmade | unwritten | unprinted | unsaved => simp at done
  | printed values text made written direct taken =>
      refine ⟨values, text, made, written, fun _ loud => ?_, fun directory given => ?_⟩
      · rw [shown_loud settings text loud] at taken
        rw [shown_loud settings _ loud]
        refine ⟨rfl, fun encodes => ?_⟩
        subst encodes
        exact encoder_takes text taken
      · rw [direct] at given
        cases given
  | saved values text target after made written given saving =>
      refine ⟨values, text, made, written, fun direct => ?_, fun directory other => ?_⟩
      · rw [given] at direct
        cases direct
      · obtain rfl : target = directory := Option.some.inj (given.symm.trans other)
        exact ⟨_, (saving_read fs target _ _ text after saving).2⟩

def savedSettings : Settings := { Settings.initial with output := some ⟨"", ["d"]⟩ }

theorem saving_accepted (sub : Subcommand) :
    parse [sub.name, "a", "--output-dir", "d"] = .command sub savedSettings onlyPath := by
  have ahead : tokens leadingSwitches ["a", "--output-dir", "d"] =
      .ok [.plain "a", .unknown "--output-dir", .plain "d"] := by
    decide +kernel
  have behind : tokens sub.switches ["a", "--output-dir", "d"] =
      .ok [.plain "a", .switch .outputDirectory "--output-dir" .nothing, .plain "d"] := by
    cases sub <;> decide +kernel
  rw [← only_path]
  exact parse_of_parts sub _ _ _ _ "a" ahead behind
    (.path _ _ _ _ _ (.value _ _ _ _ _ _ _ _ _ rfl (by decide +kernel) (.done _ _)))

theorem saved_accepted : parse ["configs", "a", "--output-dir", "d"] = .command .configs savedSettings onlyPath :=
  saving_accepted .configs

def greeting : Element := .data [104, 105] "aGk=".toList false

theorem greeting_passes : greeting.passes = true := by
  decide +kernel

def greetingValues : List Value := [.dict (keyed (fieldsOf (variableConfig (.text "hi"))))]

theorem greeting_payload : TestConfig.payloads [variableConfig greeting.value] = .ok greetingValues := by
  have text : Json.portable greeting.value = .ok (.text "hi") := by rfl
  have env : Payload.environment (variableConfig greeting.value).environment = .ok [("A", .text "hi")] := by
    rw [variable_environment, Payload.environment, text]
    rfl
  rw [TestConfig.payloads, TestConfig.payload, env]
  rfl

theorem greeting_written : ∃ text : String, Json.canonical (.array greetingValues) = .ok (.text text) := by
  have plain : Json.Plain (.array greetingValues) := by
    refine .array _ fun v member => ?_
    rw [List.mem_singleton.mp member]
    refine fields_plain (variableConfig (.text "hi")) ⟨by decide, ?_⟩ ⟨"", rfl⟩
    simpa [variable_environment] using Json.Plain.text "hi"
  obtain ⟨text, written, -⟩ := Json.plain_read _ plain
  exact ⟨text, written⟩

theorem built_greeting_values (fs : Files) (settings : Settings)
    (built : buildConfigs fs settings onlyPath = .ok [variableConfig greeting.value]) :
    configValues fs settings onlyPath = .ok greetingValues :=
  fit_values fs settings onlyPath _ _ built greeting_payload

theorem greeting_succeeds (console : Console) (content : List UInt8) (settings : Settings)
    (built : buildConfigs (onlyFile content) settings onlyPath = .ok [variableConfig greeting.value])
    (room : ∀ directory text, settings.output = some directory →
      (save (onlyFile content) directory (resultName .configs) (.text text)).2.isOk = true) :
    (runConfigs console (onlyFile content) settings onlyPath).exit = 0 := by
  obtain ⟨text, written⟩ := greeting_written
  rw [runConfigs, built_greeting_values (onlyFile content) settings built]
  exact deliver_succeeds console _ settings _ _ text written fun directory => room directory text

def greetingFiles : Files := onlyFile (pageOf (variableFields greeting)).bytes

theorem greeting_built (fs : Files) (settings : Settings)
    (there : (Source.file onlyPath).content fs = .ok (pageOf (variableFields greeting)).bytes)
    (loaded : loadApps fs settings = .ok none) (supported : settings.supported = [1, 2]) (udid : settings.udid = none) :
    buildConfigs fs settings onlyPath = .ok [variableConfig greeting.value] :=
  unlisted_built fs settings _ _ there (variable_decoded greeting greeting_passes) loaded supported udid

theorem saving_succeeds (console : Console) (content : List UInt8)
    (built : buildConfigs (onlyFile content) savedSettings onlyPath = .ok [variableConfig greeting.value]) :
    (run console (onlyFile content) ["configs", "a", "--output-dir", "d"]).exit = 0 := by
  rw [run, saved_accepted]
  refine greeting_succeeds console content savedSettings built fun directory text given => ?_
  obtain rfl : ⟨"", ["d"]⟩ = directory := Option.some.inj given
  rfl

theorem greeting_saved (console : Console) : (run console greetingFiles ["configs", "a", "--output-dir", "d"]).exit = 0 :=
  saving_succeeds console _ (greeting_built greetingFiles savedSettings (only_content _) rfl rfl rfl)

theorem delivered_configs_are_json (console : Console) (fs : Files) (args : List String) (settings : Settings) (path : Path)
    (accepted : parse args = .command .configs settings path) (done : (run console fs args).exit = 0) :
    ∃ (configs : List TestConfig) (values : List Value) (text : Wording) (tree : Tree),
      buildConfigs fs settings path = .ok configs ∧ TestConfig.payloads configs = .ok values ∧
      Delivered console settings (run console fs args) text ∧
      Derives false text.points tree ∧ Increasing tree ∧ Pictures tree (.array values) := by
  have running : run console fs args = runConfigs console fs settings path := by rw [run, accepted]
  rw [running] at done ⊢
  obtain ⟨values, text, made, written, delivered⟩ := configs_delivered console fs settings path done
  obtain ⟨configs, built, fit⟩ := values_of_configs fs settings path values made
  have each := payloads_keyed configs values (built_distinct fs settings path configs built) fit
  obtain ⟨tree, shown⟩ := Json.canonical_shown false (.array values) (.array values each) text written
  exact ⟨configs, values, text, tree, built, fit, delivered, shown.derives, shown.increases, shown.pictures⟩

theorem bytes_are_delivered :
    (∃ (text : Wording) (tree : Tree), (run .encoder greetingFiles ["configs", "a"]).out = text ++ "\n" ∧
      Derives false text.points tree ∧ Increasing tree) ∧
    ∃ (text : Wording) (tree : Tree) (bytes : List UInt8), (text ++ "\n").encode = .ok bytes ∧
      (run .encoder greetingFiles ["configs", "a", "--output-dir", "d"]).files.read ⟨"", ["d", "configs.json"]⟩ =
        .ok bytes ∧
      Derives false text.points tree ∧ Increasing tree := by
  have decoded := variable_decoded greeting greeting_passes
  rw [greetingFiles]
  generalize (pageOf (variableFields greeting)).bytes = content at decoded ⊢
  have built := only_built content _ decoded
  have printed : (run .encoder (onlyFile content) ["configs", "a"]).exit = 0 := by
    rw [run, only_accepted]
    exact greeting_succeeds .encoder content Settings.initial built fun _ _ given => by cases given
  have saved := saving_succeeds .encoder content built
  constructor
  · obtain ⟨_, _, text, tree, -, -, delivered, derives, increases, -⟩ :=
      delivered_configs_are_json .encoder (onlyFile content) ["configs", "a"] Settings.initial onlyPath only_accepted printed
    exact ⟨text, tree, (delivered.printed rfl rfl).1, derives, increases⟩
  · obtain ⟨_, _, text, tree, -, -, delivered, derives, increases, -⟩ :=
      delivered_configs_are_json .encoder (onlyFile content) ["configs", "a", "--output-dir", "d"] savedSettings onlyPath
        saved_accepted saved
    obtain ⟨bytes, encoded, stored⟩ := delivered.saved ⟨"", ["d"]⟩ rfl
    exact ⟨text, tree, bytes, encoded, stored, derives, increases⟩

end TestRun.Command
