import TestRun.Proofs.Command.Delivery
import TestRun.Proofs.Report.Warnings

/-! Verifying a file and making its configs agree. -/

set_option autoImplicit false

namespace TestRun

open TestConfig (buildAll)

namespace Command

open Json (Derives Tree)

structure Settings.Plain (s : Settings) : Prop where
  direct : s.output = none
  loud : s.quiet = false
  brief : s.verbose = false

structure AskedAlike (s t : Settings) : Prop where
  built : s.Plain
  checked : t.Plain
  apps : t.apps = s.apps
  versions : t.versions = s.versions

def soundLines (version : Int) (count : Nat) (warnings : List Remark) : String :=
  "[OK] Verification complete\n  Status: OK\n  Format version: " ++ toString version ++ "\n  Schemes: " ++ toString count ++
    "\n  Errors: 0\n  Warnings: " ++ toString warnings.length ++ "\n" ++ String.join (warnings.map remarkLine)

def refusedLines (version : Option Int) (p : Problem) : String :=
  "[FAILED] Verification complete\n  Status: FAILED\n  Format version: " ++ version.elim "None" toString ++
    "\n  Schemes: 0\n  Errors: 1\n  Warnings: 0\n  - [" ++ p.code.text ++ "] " ++ p.message ++ "\n"

structure Agrees (fs : Files) (s : Settings) (path : Path) (built checked : Outcome) : Prop where
  sound : built.exit = 0 →
    ∃ (configs : List TestConfig) (text : Wording) (trees : List Tree) (version : Int) (warnings : List Remark),
      buildConfigs fs s path = .ok configs ∧ built.out = text ++ "\n" ∧ Derives false text.points (.array trees) ∧
      trees.length = configs.length ∧
      checked.exit = 0 ∧ checked.crash = none ∧ checked.out = soundLines version trees.length warnings ∧
      (s.strict = true → s.apps.isSome = true → ∀ w ∈ warnings, w.code ≠ .appNotFound)
  noApps : ∀ e line, loadApps fs s = .error e → built.err = "Error: " ++ line ++ "\n" →
    checked.exit = 1 ∧ checked.crash = none ∧ checked.err = built.err ∧ checked.out = ""
  refused : ∀ apps p, loadApps fs s = .ok apps → (Source.file path).targets fs s.supported = .error (.problem p) →
    built.exit = 1 ∧ built.crash = none ∧ built.err = "Error: " ++ p.message ++ "\n" ∧ built.out = "" ∧
    checked.exit = 1 ∧ checked.crash = none ∧ ∃ version, checked.out = refusedLines version p

theorem supported_known (s : Settings) (known : KnownVersions s) : ∀ v ∈ s.supported, v = 1 ∨ v = 2 := by
  rw [Settings.supported]
  split
  · simp [Format.knownVersions]
  · exact known

theorem source_sound (fs : Files) (supported : List Int) (apps : Option Inventory) (path : Path) (targets : List TestTarget)
    (known : ∀ v ∈ supported, v = 1 ∨ v = 2) (decoded : (Source.file path).targets fs supported = .ok targets) :
    ∃ version : Int, Report.ofSource fs supported apps (.file path) =
      .ok ⟨some version, targets.length, [], Report.warningsOf apps targets⟩ := by
  obtain ⟨content, read, decoded⟩ := Json.bind_ok _ _ _ decoded
  obtain ⟨version, -, detected⟩ := decode_detected supported content known targets decoded
  refine ⟨version, ?_⟩
  rw [Report.ofSource, read]
  exact of_content_decoded supported apps content version detected targets decoded

theorem source_refused (fs : Files) (supported : List Int) (apps : Option Inventory) (path : Path) (p : Problem)
    (known : ∀ v ∈ supported, v = 1 ∨ v = 2) (fails : (Source.file path).targets fs supported = .error (.problem p)) :
    ∃ version, Report.ofSource fs supported apps (.file path) = .ok ⟨version, 0, [⟨p.code, p.message, none, none⟩], []⟩ := by
  rw [Source.targets] at fails
  rw [Report.ofSource]
  cases read : (Source.file path).content fs with
  | error f =>
      rw [read] at fails
      rw [Except.error.inj fails]
      exact ⟨_, rfl⟩
  | ok content =>
      rw [read] at fails
      exact ⟨told content p, of_content_failed supported apps content known (.problem p) fails⟩

theorem report_sound (version : Int) (count : Nat) (warnings : List Remark) :
    reportText ⟨some version, count, [], warnings⟩ = soundLines version count warnings := by
  have head : "[" ++ "OK" ++ "] Verification complete\n" ++ "  Status: " ++ "OK" ++ "\n" ++ "  Format version: " =
      "[OK] Verification complete\n  Status: OK\n  Format version: " := by decide +kernel
  have schemes : "\n" ++ "  Schemes: " = "\n  Schemes: " := by decide +kernel
  have errors : "\n" ++ "  Errors: " ++ toString 0 ++ "\n" ++ "  Warnings: " = "\n  Errors: 0\n  Warnings: " := by
    decide +kernel
  unfold reportText soundLines
  rw [← head, ← schemes, ← errors]
  simp only [Report.isGood, List.isEmpty_nil, if_true, List.length_nil, List.nil_append, String.append_assoc]

theorem report_refused (version : Option Int) (p : Problem) :
    reportText ⟨version, 0, [⟨p.code, p.message, none, none⟩], []⟩ = refusedLines version p := by
  have head : "[" ++ "FAILED" ++ "] Verification complete\n" ++ "  Status: " ++ "FAILED" ++ "\n" ++ "  Format version: " =
      "[FAILED] Verification complete\n  Status: FAILED\n  Format version: " := by decide +kernel
  have rest : "\n" ++ "  Schemes: " ++ toString 0 ++ "\n" ++ "  Errors: " ++ toString 1 ++ "\n" ++ "  Warnings: " ++
      toString 0 ++ "\n" ++ "  - [" = "\n  Schemes: 0\n  Errors: 1\n  Warnings: 0\n  - [" := by decide +kernel
  unfold reportText refusedLines
  rw [← head, ← rest]
  cases version <;>
    simp only [Report.isGood, List.isEmpty_cons, Bool.false_eq_true, if_false, List.length_nil, List.length_singleton,
      List.append_nil, List.map_singleton, String.join_cons, String.join_nil, String.append_empty, remarkLine,
      Option.elim_none, Option.elim_some, String.append_assoc]

theorem verify_printed (fs : Files) (s : Settings) (path : Path) (apps : Option Inventory) (r : Report) (plain : s.Plain)
    (loaded : loadApps fs s = .ok apps) (made : Report.ofSource fs s.supported apps (.file path) = .ok r) :
    runVerify fs s path = ⟨reportExit r, none, reportText r, verifyLog fs s path, fs⟩ := by
  rw [runVerify, loaded]
  dsimp only
  rw [made]
  simp only [deliverReport, plain.direct, Settings.shown, plain.loud, Bool.false_eq_true, if_false]
  rfl

theorem built_unwarned (session : Session) (apps : Inventory) (targets : List TestTarget) (configs : List TestConfig)
    (built : buildAll session (some apps) true targets = .ok configs) :
    ∀ w ∈ Report.warningsOf (some apps) targets, w.code ≠ .appNotFound := by
  rw [TestConfig.build_all_strict, ← Report.lost_targets_first] at built
  cases lost : Report.lostTargets apps targets with
  | cons e rest =>
      rw [lost] at built
      cases built
  | nil =>
      rw [Report.warnings_listed, lost]
      split <;> simp [Report.noTargets]

theorem built_parts (fs : Files) (s : Settings) (path : Path) (configs : List TestConfig)
    (built : buildConfigs fs s path = .ok configs) :
    ∃ apps targets, loadApps fs s = .ok apps ∧ (Source.file path).targets fs s.supported = .ok targets ∧
      buildAll ⟨Payload.orNull .text s.udid, .null⟩ apps s.strict targets = .ok configs := by
  obtain ⟨targets, decoded⟩ := built_decoded fs s path configs built
  obtain ⟨apps, loaded, -⟩ := Json.bind_ok _ _ _ built
  rw [built_of_targets fs s path apps targets loaded decoded] at built
  refine ⟨apps, targets, loaded, decoded, ?_⟩
  cases made : buildAll ⟨Payload.orNull .text s.udid, .null⟩ apps s.strict targets with
  | error p =>
      rw [made] at built
      cases built
  | ok all =>
      rw [made] at built
      rw [Except.ok.inj built]

theorem loaded_some (fs : Files) (s : Settings) (apps : Option Inventory) (loaded : loadApps fs s = .ok apps)
    (given : s.apps.isSome = true) : ∃ inventory, apps = some inventory := by
  obtain ⟨place, there⟩ := Option.isSome_iff_exists.mp given
  rw [loadApps, there] at loaded
  dsimp only at loaded
  cases read : Inventory.load fs place with
  | error f =>
      rw [read] at loaded
      cases loaded
  | ok inventory =>
      rw [read] at loaded
      exact ⟨inventory, (Except.ok.inj loaded).symm⟩

theorem printed_array (console : Console) (fs : Files) (s : Settings) (path : Path) (plain : s.Plain)
    (done : (runConfigs console fs s path).exit = 0) :
    ∃ configs text trees, buildConfigs fs s path = .ok configs ∧ (runConfigs console fs s path).out = text ++ "\n" ∧
      Derives false text.points (.array trees) ∧ trees.length = configs.length := by
  obtain ⟨values, text, made, written, delivered⟩ := configs_delivered console fs s path done
  obtain ⟨configs, built, fit⟩ := values_of_configs fs s path values made
  have each := payloads_keyed configs values (built_distinct fs s path configs built) fit
  obtain ⟨tree, shown⟩ := Json.canonical_shown false (.array values) (.array values each) text written
  have lengths := payloads_length configs values fit
  obtain ⟨derives, -, pictures⟩ := shown
  generalize same : Value.array values = v at pictures
  cases pictures with
  | array parts _ =>
      obtain rfl := Value.array.inj same
      refine ⟨configs, text, _, built, (delivered.printed plain.direct plain.loud).1, derives, ?_⟩
      rw [← lengths, List.length_map, List.length_map]
  | text w => cases w <;> cases same
  | _ => cases same

theorem debug_hidden (notes : List Note) (debug : ∀ n ∈ notes, n.level = .debug) : Note.lines .warning notes = "" := by
  have hidden : notes.filter (fun n => Level.rank .warning ≤ n.level.rank) = [] := by
    apply List.filter_eq_nil_iff.mpr
    intro n member
    rw [debug n member]
    decide
  rw [Note.lines, hidden]
  rfl

theorem detect_debug (content : List UInt8) : ∀ n ∈ Note.ofDetect content, n.level = .debug := by
  rw [Note.ofDetect]
  split
  · simp
  · split <;> simp [Note.debug]

theorem root_debug (version : Int) (content : List UInt8) : ∀ n ∈ Note.ofRoot version content, n.level = .debug := by
  rw [Note.ofRoot]
  split
  · simp
  split
  · rw [Note.ofSingleTarget]
    split
    · simp [Note.debug]
    · split <;> simp [Note.debug]
  · rw [Note.ofTestPlan]
    split
    · simp
    · split
      · simp
      · split <;> simp [Note.debug]

theorem decode_debug (supported : List Int) (content : List UInt8) :
    ∀ n ∈ Note.ofDecode supported content, n.level = .debug := by
  rw [Note.ofDecode]
  split
  · refine List.forall_mem_append.mpr ⟨detect_debug content, ?_⟩
    split
    · simp
    · split
      · refine List.forall_mem_append.mpr ⟨root_debug _ content, ?_⟩
        split <;> simp [Note.ofTargets, Note.debug]
      · simp
  · simp

theorem refused_log (fs : Files) (s : Settings) (path : Path) (f : Failure) (plain : s.Plain)
    (fails : (Source.file path).targets fs s.supported = .error f) : configLog fs s path = "" := by
  have level : s.level = .warning := by
    rw [Settings.level, plain.loud, plain.brief]
    rfl
  rw [configLog, level]
  apply debug_hidden
  rw [configNotes]
  split
  · rename_i content _ read
    rw [Source.targets, read] at fails
    have undecoded : Format.decode s.supported content = .error f := fails
    rw [undecoded, List.append_nil]
    exact decode_debug s.supported content
  · simp

theorem sound_alike (console : Console) (fs : Files) (s t : Settings) (path : Path) (alike : AskedAlike s t) (known : KnownVersions s)
    (apps : loadApps fs t = loadApps fs s) (versions : t.supported = s.supported) (done : (runConfigs console fs s path).exit = 0) :
    ∃ (configs : List TestConfig) (text : Wording) (trees : List Tree) (version : Int) (warnings : List Remark),
      buildConfigs fs s path = .ok configs ∧ (runConfigs console fs s path).out = text ++ "\n" ∧
      Derives false text.points (.array trees) ∧ trees.length = configs.length ∧
      (runVerify fs t path).exit = 0 ∧ (runVerify fs t path).crash = none ∧
      (runVerify fs t path).out = soundLines version trees.length warnings ∧
      (s.strict = true → s.apps.isSome = true → ∀ w ∈ warnings, w.code ≠ .appNotFound) := by
  obtain ⟨configs, text, trees, built, out, derives, length⟩ := printed_array console fs s path alike.built done
  obtain ⟨apps', targets, loaded, decoded, made⟩ := built_parts fs s path configs built
  obtain ⟨version, reported⟩ := source_sound fs s.supported apps' path targets (supported_known s known) decoded
  have count : trees.length = targets.length := length.trans (TestConfig.build_all_length _ apps' s.strict targets configs made)
  have checked := verify_printed fs t path apps' _ alike.checked (apps.trans loaded) (versions ▸ reported)
  rw [checked, report_sound, ← count]
  refine ⟨configs, text, trees, version, Report.warningsOf apps' targets, built, out, derives, length, rfl, rfl, rfl,
    fun strict given => ?_⟩
  obtain ⟨inventory, rfl⟩ := loaded_some fs s apps' loaded given
  rw [strict] at made
  exact built_unwarned _ inventory targets configs made

theorem unloaded_alike (console : Console) (fs : Files) (s t : Settings) (path : Path) (apps : loadApps fs t = loadApps fs s) (e : Ending)
    (line : String) (fails : loadApps fs s = .error e) (told : (runConfigs console fs s path).err = "Error: " ++ line ++ "\n") :
    (runVerify fs t path).exit = 1 ∧ (runVerify fs t path).crash = none ∧
      (runVerify fs t path).err = (runConfigs console fs s path).err ∧ (runVerify fs t path).out = "" := by
  have unmade : configValues fs s path = .error e := by
    rw [configValues, buildConfigs, fails]
    rfl
  have log : Note.lines s.level (configNotes fs s path) = "" := by
    rw [configNotes, fails]
    rfl
  rw [runConfigs, unmade, log] at told ⊢
  rw [runVerify, apps, fails]
  refine ⟨reported_exit _ _ _ _, ?_, rfl, reported_out _ _ _ _⟩
  -- An ending that is not told in a line leaves nothing behind.
  cases known : e.line? with
  | some text => simp [known]
  | none =>
      dsimp only at told
      rw [reported, known] at told
      have lengths := congrArg String.length told
      have mark : "Error: ".length = 7 := rfl
      simp only [String.length_append, String.length_empty, mark] at lengths
      omega

theorem refused_alike (console : Console) (fs : Files) (s t : Settings) (path : Path) (alike : AskedAlike s t) (known : KnownVersions s)
    (apps : loadApps fs t = loadApps fs s) (versions : t.supported = s.supported) (inventory : Option Inventory)
    (p : Problem) (loaded : loadApps fs s = .ok inventory)
    (fails : (Source.file path).targets fs s.supported = .error (.problem p)) :
    (runConfigs console fs s path).exit = 1 ∧ (runConfigs console fs s path).crash = none ∧
      (runConfigs console fs s path).err = "Error: " ++ p.message ++ "\n" ∧ (runConfigs console fs s path).out = "" ∧
      (runVerify fs t path).exit = 1 ∧ (runVerify fs t path).crash = none ∧
      ∃ version, (runVerify fs t path).out = refusedLines version p := by
  have unmade : configValues fs s path = .error (.failure (.problem p)) := by
    rw [configValues, buildConfigs, loaded]
    simp only [fails, Bind.bind, Except.bind]
  have log : Note.lines s.level (configNotes fs s path) = "" := refused_log fs s path _ alike.built fails
  obtain ⟨version, reported⟩ := source_refused fs s.supported inventory path p (supported_known s known) fails
  have checked := verify_printed fs t path inventory _ alike.checked (apps.trans loaded) (versions ▸ reported)
  rw [runConfigs, unmade, log, checked, report_refused]
  exact ⟨rfl, rfl, rfl, rfl, rfl, rfl, version, rfl⟩

theorem verify_agrees_with_configs (console : Console) (fs : Files) (build check : List String) (s t : Settings) (path : Path)
    (accepted : parse build = .command .configs s path) (acceptedToo : parse check = .command .verify t path)
    (alike : AskedAlike s t) : Agrees fs s path (run console fs build) (run console fs check) := by
  have known := accepted_known build .configs s path accepted
  have apps : loadApps fs t = loadApps fs s := by rw [loadApps, loadApps, alike.apps]
  have versions : t.supported = s.supported := by rw [Settings.supported, Settings.supported, alike.versions]
  rw [run_accepted console fs build .configs s path accepted, run_accepted console fs check .verify t path acceptedToo]
  exact ⟨sound_alike console fs s t path alike known apps versions, unloaded_alike console fs s t path apps,
    refused_alike console fs s t path alike known apps versions⟩

theorem verify_accepted : parse ["verify", "a"] = .command .verify Settings.initial onlyPath := by
  decide +kernel

theorem plain_alike (s : Settings) (plain : s.Plain) : AskedAlike s s :=
  ⟨plain, plain, rfl, rfl⟩

theorem greeting_printed : (run .encoder greetingFiles ["configs", "a"]).exit = 0 := by
  have built := greeting_built greetingFiles Settings.initial (only_content _) rfl rfl rfl
  rw [run, only_accepted]
  exact greeting_succeeds .encoder _ Settings.initial built fun _ _ given => by cases given

theorem greeting_is_sound_and_missing_files_are_refused :
    (∃ (text : Wording) (trees : List Tree) (version : Int) (warnings : List Remark),
      (run .encoder greetingFiles ["configs", "a"]).exit = 0 ∧ (run .encoder greetingFiles ["configs", "a"]).out = text ++ "\n" ∧
      Derives false text.points (.array trees) ∧ (run .encoder greetingFiles ["verify", "a"]).exit = 0 ∧
      (run .encoder greetingFiles ["verify", "a"]).out = soundLines version trees.length warnings) ∧
    (run .encoder (.empty []) ["configs", "a"]).err =
      "Error: failed to open xctestrun file: [Errno 2] No such file or directory: 'a'\n" ∧
    (run .encoder (.empty []) ["verify", "a"]).exit = 1 ∧
    (∃ version, (run .encoder (.empty []) ["verify", "a"]).out = refusedLines version (.unreadableFile ⟨.notFound, onlyPath⟩)) ∧
    (run .encoder (.empty []) ["verify", "a", "--apps", "b"]).exit = 1 ∧
    (run .encoder (.empty []) ["verify", "a", "--apps", "b"]).err = (run .encoder (.empty []) ["configs", "a", "--apps", "b"]).err ∧
    (run .encoder (.empty []) ["verify", "a", "--apps", "b"]).out = "" := by
  have agrees (fs : Files) : Agrees fs Settings.initial onlyPath (run .encoder fs ["configs", "a"]) (run .encoder fs ["verify", "a"]) :=
    verify_agrees_with_configs .encoder fs ["configs", "a"] ["verify", "a"] _ _ onlyPath only_accepted verify_accepted
      (plain_alike _ ⟨rfl, rfl, rfl⟩)
  obtain ⟨_, text, trees, version, warnings, -, out, derives, -, exit, -, told, -⟩ :=
    (agrees greetingFiles).sound greeting_printed
  obtain ⟨-, -, err, -, fails, -, refused⟩ :=
    (agrees (.empty [])).refused none (.unreadableFile ⟨.notFound, onlyPath⟩) rfl rfl
  have line : "Error: " ++ (Problem.unreadableFile ⟨.notFound, onlyPath⟩).message ++ "\n" =
      "Error: failed to open xctestrun file: [Errno 2] No such file or directory: 'a'\n" := by
    decide +kernel
  rw [line] at err
  have build : parse ["configs", "a", "--apps", "b"] = .command .configs listedSettings onlyPath := listed_accepted .configs
  have check : parse ["verify", "a", "--apps", "b"] = .command .verify listedSettings onlyPath := listed_accepted .verify
  have missing : loadApps (.empty []) listedSettings =
      .error (.apps (.failure (.problem (.unreadableApps ⟨.notFound, ⟨"", ["b"]⟩⟩)))) := rfl
  have named : (run .encoder (.empty []) ["configs", "a", "--apps", "b"]).err =
      "Error: " ++ (Problem.unreadableApps ⟨.notFound, ⟨"", ["b"]⟩⟩).message ++ "\n" := by
    rw [run, build]
    rfl
  obtain ⟨unloaded, -, same, silent⟩ := (verify_agrees_with_configs .encoder (.empty []) _ _ _ _ onlyPath build check
    (plain_alike _ ⟨rfl, rfl, rfl⟩)).noApps _ _ missing named
  exact ⟨⟨text, trees, version, warnings, greeting_printed, out, derives, exit, told⟩, err, fails, refused, unloaded, same, silent⟩

end Command
end TestRun
