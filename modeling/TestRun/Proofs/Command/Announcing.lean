import TestRun.Proofs.Command.Delivery

/-! When success is announced: as soon as the configs are made, and before they are saved. -/

set_option autoImplicit false

namespace TestRun.Command

open Plist.Written (pageOf)

open Files (ChangesOnly SameContents)

def Announces (out : Wording) (count : Nat) : Prop :=
  ∃ before after : Wording, out = before ++ okLine count ++ after ∧ (before = "" ∨ ∃ front : Wording, before = front ++ "\n")

structure Succeeded (fs : Files) (s : Settings) (path directory : Path) (o : Outcome) (count : Nat) : Prop where
  exit : o.exit = 0
  stored : ∃ configs values text bytes, buildConfigs fs s path = .ok configs ∧ configs.length = count ∧
    TestConfig.payloads configs = .ok values ∧ Json.canonical (.array values) = .ok text ∧
    (text ++ "\n").encode = .ok bytes ∧ o.files.read (directory.child (resultName .configs)) = .ok bytes

structure Honest (fs : Files) (s : Settings) (path directory : Path) (o : Outcome) : Prop where
  announced : (∃ count, Announces o.out count) ↔ ∃ count, Succeeded fs s path directory o count
  counted : ∀ count, Succeeded fs s path directory o count → Announces o.out count
  silent : (¬ ∃ count, Succeeded fs s path directory o count) → o.out = "" ∧ SameContents fs o.files

inductive Unsaved (fs : Files) (directory : Path) (values : List Value) : Prop where
  | unwritten (w : Json.WriteFault) (failed : Json.canonical (.array values) = .error w)
  | nul (marked : directory.hasNul = true)
  | noDirectory (made : Files) (f : Files.Fault) (failed : fs.makeDirectories directory = (made, some f))
  | noFile (text : Wording) (made : Files) (f : Files.Fault) (written : Json.canonical (.array values) = .ok text)
      (ready : fs.makeDirectories directory = (made, none))
      (failed : made.write (directory.child (resultName .configs)) (saveBytes text) = .error f)

-- The text of configs has no bytes, which shows when the file of the result is open already.
inductive Emptying (fs : Files) (directory : Path) (values : List Value) : Prop where
  | opened (text : Wording) (u : Wording.Unencodable) (made after : Files) (unmarked : directory.hasNul = false)
      (written : Json.canonical (.array values) = .ok text) (unfit : (text ++ "\n").encode = .error u)
      (ready : fs.makeDirectories directory = (made, none))
      (emptied : made.write (directory.child (resultName .configs)) [] = .ok after)

theorem announces_first (count : Nat) (rest : Wording) : Announces (okLine count ++ rest) count :=
  ⟨"", rest, by rw [Wording.text_append, String.empty_append], .inl rfl⟩

theorem nothing_announces (count : Nat) : ¬ Announces "" count := by
  rintro ⟨before, after, same, -⟩
  have lengths := congrArg (·.points.length) same
  simp only [Wording.points_append, List.length_append] at lengths
  have nothing : (Wording.text "").points.length = 0 := rfl
  have long : 0 < (Wording.text (okLine count)).points.length := by
    simp [okLine, Wording.points, Text.codes]
  omega

theorem loud_announcement (s : Settings) (directory : Path) (values : List Value) (given : s.output = some directory)
    (loud : s.quiet = false) : announcement s values = okLine values.length := by
  simp [announcement, given, Settings.shown, loud]

theorem failed_saving (fs after : Files) (directory : Path) (values : List Value) (text : Wording) (e : Ending)
    (written : Json.canonical (.array values) = .ok text)
    (saving : Saving fs directory (resultName .configs) text (after, .error e)) :
    Unsaved fs directory values ∧ SameContents fs after ∨ Emptying fs directory values := by
  have same := (saving_frame fs directory _ text _ saving).2.2
  cases saving with
  | nul marked => exact .inl ⟨.nul marked, same ⟨_, rfl, by simp⟩⟩
  | noDirectory made f failed => exact .inl ⟨.noDirectory _ f failed, same ⟨_, rfl, by simp⟩⟩
  | noFile made f ready failed => exact .inl ⟨.noFile text _ f written ready failed, same ⟨_, rfl, by simp⟩⟩
  | emptied made _ u unmarked ready unfit stored =>
      have nothing : saveBytes text = [] := by rw [saveBytes, unfit]
      exact .inr (.opened text u made after unmarked written unfit ready (nothing ▸ stored))

theorem opened_not_unsaved (fs made after : Files) (directory : Path) (values : List Value) (text : Wording)
    (written : Json.canonical (.array values) = .ok text) (unmarked : directory.hasNul = false)
    (ready : fs.makeDirectories directory = (made, none))
    (stored : made.write (directory.child (resultName .configs)) (saveBytes text) = .ok after) :
    ¬ Unsaved fs directory values := by
  rintro (⟨w, failed⟩ | marked | ⟨other, f, failed⟩ | ⟨otherText, other, f, writtenToo, readyToo, failed⟩)
  · rw [written] at failed
    cases failed
  · rw [unmarked] at marked
    cases marked
  · rw [ready] at failed
    cases failed
  · rw [written] at writtenToo
    rw [ready] at readyToo
    obtain rfl := Except.ok.inj writtenToo
    obtain rfl := congrArg Prod.fst readyToo
    rw [stored] at failed
    cases failed

theorem unsaved_save (fs : Files) (directory : Path) (values : List Value) (text : Wording)
    (written : Json.canonical (.array values) = .ok text) (unsaved : Unsaved fs directory values) :
    ∃ after e, save fs directory (resultName .configs) text = (after, .error e) ∧ SameContents fs after := by
  have saving := save_saving fs directory (resultName .configs) text
  generalize save fs directory (resultName .configs) text = result at saving ⊢
  have same := (saving_frame fs directory (resultName .configs) text result saving).2.2
  cases saving with
  | nul marked => exact ⟨_, _, rfl, same ⟨_, rfl, by simp⟩⟩
  | noDirectory made f failed => exact ⟨_, _, rfl, same ⟨_, rfl, by simp⟩⟩
  | noFile made f ready failed => exact ⟨_, _, rfl, same ⟨_, rfl, by simp⟩⟩
  | emptied made after u unmarked ready unfit stored =>
      exact absurd unsaved (opened_not_unsaved fs made after directory values text written unmarked ready stored)
  | saved made after bytes unmarked ready fit stored =>
      exact absurd unsaved (opened_not_unsaved fs made after directory values text written unmarked ready stored)

theorem emptying_save (fs : Files) (directory : Path) (values : List Value) (emptying : Emptying fs directory values) :
    ∃ text after u, Json.canonical (.array values) = .ok text ∧
      save fs directory (resultName .configs) text = (after, .error (.unencodable u)) := by
  obtain ⟨text, u, made, after, unmarked, written, unfit, ready, emptied⟩ := emptying
  refine ⟨text, after, u, written, ?_⟩
  rw [save, unmarked, ready]
  simp only [unfit, overwrite, emptied]
  rfl

theorem failed_not_succeeded (fs : Files) (s : Settings) (path directory : Path) (o : Outcome) (fails : o.exit = 1) :
    ¬ ∃ count, Succeeded fs s path directory o count := by
  rintro ⟨count, done⟩
  rw [done.exit] at fails
  cases fails

theorem early_not_honest (fs : Files) (s : Settings) (path directory : Path) (o : Outcome) (count : Nat)
    (fails : o.exit = 1) (early : o.out = okLine count) : ¬ Honest fs s path directory o := fun honest =>
  failed_not_succeeded fs s path directory o fails
    (honest.announced.mp ⟨count, by simpa [early] using announces_first count ""⟩)

theorem silent_honest (fs : Files) (s : Settings) (path directory : Path) (o : Outcome) (fails : o.exit = 1)
    (silent : o.out = "") (same : Files.SameContents fs o.files) : Honest fs s path directory o where
  announced := ⟨fun ⟨count, announced⟩ => absurd (silent ▸ announced) (nothing_announces count),
    fun done => absurd done (failed_not_succeeded fs s path directory o fails)⟩
  counted count done := absurd ⟨count, done⟩ (failed_not_succeeded fs s path directory o fails)
  silent _ := ⟨silent, same⟩

theorem succeeded_honest (fs : Files) (s : Settings) (path directory : Path) (o : Outcome) (count : Nat) (rest : Wording)
    (done : Succeeded fs s path directory o count) (out : o.out = okLine count ++ rest) :
    Honest fs s path directory o where
  announced := ⟨fun _ => ⟨count, done⟩, fun _ => ⟨count, out ▸ announces_first count rest⟩⟩
  counted other also := by
    obtain ⟨configs, -, -, -, built, rfl, -⟩ := done.stored
    obtain ⟨same, -, -, -, builtToo, rfl, -⟩ := also.stored
    rw [built] at builtToo
    rw [← Except.ok.inj builtToo, out]
    exact announces_first configs.length rest
  silent fails := absurd ⟨count, done⟩ fails

theorem unsaved_run (console : Console) (fs : Files) (s : Settings) (path directory : Path) (values : List Value)
    (given : s.output = some directory) (loud : s.quiet = false) (made : configValues fs s path = .ok values)
    (unsaved : Unsaved fs directory values) :
    (runConfigs console fs s path).exit = 1 ∧ (runConfigs console fs s path).out = okLine values.length ∧
      SameContents fs (runConfigs console fs s path).files := by
  have announced := loud_announcement s directory values given loud
  cases written : Json.canonical (.array values) with
  | error w =>
      rw [unwritten_ends console fs s path values w made written, announced]
      exact ⟨reported_exit _ _ _ _, reported_out _ _ _ _, by rw [reported_files]; exact fun _ => rfl⟩
  | ok text =>
      obtain ⟨after, e, failed, same⟩ := unsaved_save fs directory values text written unsaved
      rw [unsaved_ends console fs after s path directory values text e made written given failed, announced]
      exact ⟨reported_exit _ _ _ _, reported_out _ _ _ _, by rwa [reported_files]⟩

theorem emptying_run (console : Console) (fs : Files) (s : Settings) (path directory : Path) (values : List Value)
    (given : s.output = some directory) (made : configValues fs s path = .ok values)
    (emptying : Emptying fs directory values) :
    (runConfigs console fs s path).exit = 1 ∧ (runConfigs console fs s path).out = announcement s values ∧
      (runConfigs console fs s path).files.read (directory.child (resultName .configs)) = .ok [] ∧
      ChangesOnly (directory.child (resultName .configs)) fs (runConfigs console fs s path).files := by
  obtain ⟨text, after, u, written, failed⟩ := emptying_save fs directory values emptying
  have saving := save_saving fs directory (resultName .configs) text
  rw [failed] at saving
  rw [unsaved_ends console fs after s path directory values text _ made written given failed]
  exact ⟨reported_exit _ _ _ _, reported_out _ _ _ _, by rw [reported_files]; exact (saving_emptied _ _ _ _ _ u saving).2,
    by rw [reported_files]; exact (saving_frame _ _ _ _ _ saving).2.1⟩

theorem saved_run (console : Console) (fs : Files) (s : Settings) (path directory : Path) (given : s.output = some directory)
    (loud : s.quiet = false)
    (kept : ¬ ∃ values, configValues fs s path = .ok values ∧ (Unsaved fs directory values ∨ Emptying fs directory values)) :
    Honest fs s path directory (runConfigs console fs s path) := by
  generalize running : runConfigs console fs s path = o
  have run := configs_run console fs s path
  rw [running] at run
  cases run with
  | unmade e failed =>
      exact silent_honest fs s path directory _ (reported_exit _ _ _ _) (reported_out _ _ _ _)
        (by rw [reported_files]; exact fun _ => rfl)
  | unwritten values w made failed => exact absurd ⟨values, made, .inl (.unwritten w failed)⟩ kept
  | unprinted values text u _ _ direct =>
      rw [given] at direct
      cases direct
  | printed values text _ _ direct =>
      rw [given] at direct
      cases direct
  | unsaved values text target after e made written givenToo saving =>
      obtain rfl : directory = target := Option.some.inj (given.symm.trans givenToo)
      exact absurd ⟨values, made, (failed_saving fs after directory values text e written saving).imp_left (·.1)⟩ kept
  | saved values text target after made written givenToo saving =>
      obtain rfl : directory = target := Option.some.inj (given.symm.trans givenToo)
      obtain ⟨configs, built, fit⟩ := values_of_configs fs s path values made
      obtain ⟨-, encoded, stored⟩ := saving_read fs directory _ _ text after saving
      have lengths := payloads_length configs values fit
      refine succeeded_honest fs s path directory _ values.length (s.shown (savedLine (directory.child (resultName .configs))))
        ⟨rfl, configs, values, text, _, built, lengths.symm, fit, written, encoded, stored⟩ ?_
      rw [loud_announcement s directory values given loud]

theorem success_is_announced_before_saving (console : Console) (fs : Files) (args : List String) (settings : Settings)
    (path directory : Path) (accepted : parse args = .command .configs settings path)
    (given : settings.output = some directory) (loud : settings.quiet = false) :
    (Honest fs settings path directory (run console fs args) ↔
      ¬ ∃ values, configValues fs settings path = .ok values ∧
        (Unsaved fs directory values ∨ Emptying fs directory values)) ∧
    ∀ values, configValues fs settings path = .ok values →
      (Unsaved fs directory values ∨ Emptying fs directory values →
        (run console fs args).exit = 1 ∧
        ∃ configs, buildConfigs fs settings path = .ok configs ∧ (run console fs args).out = okLine configs.length) ∧
      (Unsaved fs directory values → SameContents fs (run console fs args).files) ∧
      (Emptying fs directory values →
        (run console fs args).files.read (directory.child (resultName .configs)) = .ok [] ∧
        ChangesOnly (directory.child (resultName .configs)) fs (run console fs args).files) := by
  rw [run_accepted console fs args .configs settings path accepted]
  have lost (values : List Value) := unsaved_run console fs settings path directory values given loud
  have emptied (values : List Value) := emptying_run console fs settings path directory values given
  have early (values : List Value) (made : configValues fs settings path = .ok values)
      (fails : Unsaved fs directory values ∨ Emptying fs directory values) :
      (runConfigs console fs settings path).exit = 1 ∧ (runConfigs console fs settings path).out = okLine values.length := by
    rcases fails with unsaved | emptying
    · obtain ⟨exit, out, -⟩ := lost values made unsaved
      exact ⟨exit, out⟩
    · obtain ⟨exit, out, -⟩ := emptied values made emptying
      exact ⟨exit, out.trans (loud_announcement settings directory values given loud)⟩
  refine ⟨⟨?_, saved_run console fs settings path directory given loud⟩, fun values made => ⟨fun fails => ?_, ?_, ?_⟩⟩
  · rintro honest ⟨values, made, fails⟩
    obtain ⟨exit, out⟩ := early values made fails
    exact early_not_honest fs settings path directory _ values.length exit out honest
  · obtain ⟨exit, out⟩ := early values made fails
    obtain ⟨configs, built, fit⟩ := values_of_configs fs settings path values made
    rw [payloads_length configs values fit] at out
    exact ⟨exit, configs, built, out⟩
  · exact fun unsaved => (lost values made unsaved).2.2
  · exact fun emptying => (emptied values made emptying).2.2

theorem greeting_is_announced_and_saved :
    parse ["configs", "a", "--output-dir", "d"] = .command .configs savedSettings onlyPath ∧
      savedSettings.output = some ⟨"", ["d"]⟩ ∧ savedSettings.quiet = false ∧
      Honest greetingFiles savedSettings onlyPath ⟨"", ["d"]⟩
        (run .encoder greetingFiles ["configs", "a", "--output-dir", "d"]) := by
  obtain ⟨honest, lost⟩ := success_is_announced_before_saving .encoder greetingFiles ["configs", "a", "--output-dir", "d"]
    savedSettings onlyPath ⟨"", ["d"]⟩ saved_accepted rfl rfl
  refine ⟨saved_accepted, rfl, rfl, honest.mpr ?_⟩
  rintro ⟨values, made, fails⟩
  obtain ⟨exit, -⟩ := (lost values made).1 fails
  rw [greeting_saved] at exit
  cases exit

def blockedFiles : Files := ⟨[], [(["a"], (pageOf (variableFields greeting)).bytes), (["d"], [])], [[]]⟩

theorem blocked_content : (Source.file onlyPath).content blockedFiles = .ok (pageOf (variableFields greeting)).bytes := by
  rw [blockedFiles]
  generalize (pageOf (variableFields greeting)).bytes = content
  rfl

theorem blocked_directory : blockedFiles.makeDirectories ⟨"", ["d"]⟩ = (blockedFiles, some ⟨.exists, ⟨"", ["d"]⟩⟩) := by
  rw [blockedFiles]
  generalize (pageOf (variableFields greeting)).bytes = content
  rfl

theorem blocked_greeting_is_announced :
    parse ["configs", "a", "--output-dir", "d"] = .command .configs savedSettings onlyPath ∧
      savedSettings.output = some ⟨"", ["d"]⟩ ∧ savedSettings.quiet = false ∧
      (run .encoder blockedFiles ["configs", "a", "--output-dir", "d"]).exit = 1 ∧
      (run .encoder blockedFiles ["configs", "a", "--output-dir", "d"]).out = "[OK] 1 test configs\n" ∧
      ¬ Honest blockedFiles savedSettings onlyPath ⟨"", ["d"]⟩
        (run .encoder blockedFiles ["configs", "a", "--output-dir", "d"]) := by
  have built := greeting_built blockedFiles savedSettings blocked_content rfl rfl rfl
  have unsaved : Unsaved blockedFiles ⟨"", ["d"]⟩ greetingValues := .noDirectory blockedFiles _ blocked_directory
  obtain ⟨fails, early, -⟩ := unsaved_run .encoder blockedFiles savedSettings onlyPath ⟨"", ["d"]⟩ greetingValues rfl rfl
    (built_greeting_values blockedFiles savedSettings built) unsaved
  rw [run, saved_accepted]
  exact ⟨rfl, rfl, rfl, fails, early, early_not_honest _ _ _ _ _ 1 fails early⟩

end TestRun.Command
