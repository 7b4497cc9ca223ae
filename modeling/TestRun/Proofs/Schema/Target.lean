import TestRun.Proofs.Schema.Meaning
import TestRun.TestTarget

/-! Blocks of test targets. -/

set_option autoImplicit false

namespace TestRun

open Schema

namespace TestTarget

def parts : List Part :=
  [⟨"TestHostBundleIdentifier", textual⟩, ⟨"TestBundlePath", textual⟩, ⟨"SkipTestIdentifiers", inItems textual⟩,
    ⟨"OnlyTestIdentifiers", inItems textual⟩, ⟨"IsUITestBundle", fun v => (switch v).issues⟩,
    ⟨"CommandLineArguments", inItems textual⟩, ⟨"EnvironmentVariables", inKeys⟩,
    ⟨"TestingEnvironmentVariables", inKeys⟩, ⟨"UITargetAppEnvironmentVariables", unlessNull inKeys⟩,
    ⟨"UITargetAppPath", unlessNull textual⟩]

structure Reads (entries : Entries) (t : TestTarget) : Prop where
  host : KeyMeans "TestHostBundleIdentifier" "" IsText entries t.hostBundleIdentifier
  bundle : KeyMeans "TestBundlePath" "" IsText entries t.bundlePath
  skipped : KeyMeans "SkipTestIdentifiers" [] IsTexts entries t.skipped
  selected : KeyMeans "OnlyTestIdentifiers" [] IsTexts entries t.selected
  interface : KeyMeans "IsUITestBundle" false IsSwitch entries t.isInterfaceTest
  arguments : KeyMeans "CommandLineArguments" [] IsTexts entries t.arguments
  own : KeyMeans "EnvironmentVariables" [] IsEnvironment entries t.environment
  testing : KeyMeans "TestingEnvironmentVariables" [] IsEnvironment entries t.testingEnvironment
  app : KeyMeans "UITargetAppEnvironmentVariables" none (NullOr IsEnvironment) entries t.appEnvironment
  path : KeyMeans "UITargetAppPath" none (NullOr IsText) entries t.appBundlePath

theorem of_entries_reports : Reports ofEntries (issuesOf parts) := by
  have texts := reports_scalar plainText text_scalar
  have lists := list_reports plainText textual texts
  have one := parts_report [] ⟨_, _⟩ _ _ (no_parts_report TestTarget.mk)
    (part_reports "TestHostBundleIdentifier" "" plainText textual texts)
  have two := parts_report _ ⟨_, _⟩ _ _ one (part_reports "TestBundlePath" "" plainText textual texts)
  have three := parts_report _ ⟨_, _⟩ _ _ two (part_reports "SkipTestIdentifiers" [] _ _ lists)
  have four := parts_report _ ⟨_, _⟩ _ _ three (part_reports "OnlyTestIdentifiers" [] _ _ lists)
  have five := parts_report _ ⟨_, _⟩ _ _ four
    (part_reports "IsUITestBundle" false switch _ (reports_scalar switch switch_scalar))
  have six := parts_report _ ⟨_, _⟩ _ _ five (part_reports "CommandLineArguments" [] _ _ lists)
  have seven := parts_report _ ⟨_, _⟩ _ _ six (part_reports "EnvironmentVariables" [] _ _ environment_reports)
  have eight := parts_report _ ⟨_, _⟩ _ _ seven (part_reports "TestingEnvironmentVariables" [] _ _ environment_reports)
  have nine := parts_report _ ⟨_, _⟩ _ _ eight
    (part_reports "UITargetAppEnvironmentVariables" none _ _ (optional_reports _ _ environment_reports))
  exact parts_report _ ⟨_, _⟩ _ _ nine (part_reports "UITargetAppPath" none _ _ (optional_reports _ _ texts))

theorem of_entries_fields (entries : Entries) (t : TestTarget) :
    ofEntries entries = .ok t ↔
      field "TestHostBundleIdentifier" "" plainText entries = .ok t.hostBundleIdentifier ∧
      field "TestBundlePath" "" plainText entries = .ok t.bundlePath ∧
      field "SkipTestIdentifiers" [] (listOf plainText) entries = .ok t.skipped ∧
      field "OnlyTestIdentifiers" [] (listOf plainText) entries = .ok t.selected ∧
      field "IsUITestBundle" false switch entries = .ok t.isInterfaceTest ∧
      field "CommandLineArguments" [] (listOf plainText) entries = .ok t.arguments ∧
      field "EnvironmentVariables" [] Schema.environment entries = .ok t.environment ∧
      field "TestingEnvironmentVariables" [] Schema.environment entries = .ok t.testingEnvironment ∧
      field "UITargetAppEnvironmentVariables" none (Schema.optional Schema.environment) entries = .ok t.appEnvironment ∧
      field "UITargetAppPath" none (Schema.optional plainText) entries = .ok t.appBundlePath := by
  constructor
  · intro checked
    obtain ⟨f, path, ninth, itsPath, rfl⟩ := (Checked.apply_ok_iff _ _ t).mp checked
    obtain ⟨g, app, eighth, ofApp, rfl⟩ := (Checked.apply_ok_iff _ _ f).mp ninth
    obtain ⟨h, testing, seventh, forTesting, rfl⟩ := (Checked.apply_ok_iff _ _ g).mp eighth
    obtain ⟨i, own, sixth, itsOwn, rfl⟩ := (Checked.apply_ok_iff _ _ h).mp seventh
    obtain ⟨j, arguments, fifth, itsArguments, rfl⟩ := (Checked.apply_ok_iff _ _ i).mp sixth
    obtain ⟨k, interface, fourth, itsSwitch, rfl⟩ := (Checked.apply_ok_iff _ _ j).mp fifth
    obtain ⟨l, selected, third, itsSelected, rfl⟩ := (Checked.apply_ok_iff _ _ k).mp fourth
    obtain ⟨m, skipped, second, itsSkipped, rfl⟩ := (Checked.apply_ok_iff _ _ l).mp third
    obtain ⟨n, bundle, first, itsBundle, rfl⟩ := (Checked.apply_ok_iff _ _ m).mp second
    obtain ⟨o, host, start, itsHost, rfl⟩ := (Checked.apply_ok_iff _ _ n).mp first
    rw [← Checked.ok.inj start]
    exact ⟨itsHost, itsBundle, itsSkipped, itsSelected, itsSwitch, itsArguments, itsOwn, forTesting, ofApp, itsPath⟩
  · rintro ⟨host, bundle, skipped, selected, interface, arguments, own, testing, app, path⟩
    rw [ofEntries, host, bundle, skipped, selected, interface, arguments, own, testing, app, path]
    rfl

theorem of_entries_reads (entries : Entries) (t : TestTarget) : ofEntries entries = .ok t ↔ t.Reads entries := by
  have texts (name : String) := key_means_iff name "" plainText IsText (fun _ _ => Iff.rfl) entries
  have lists (name : String) := key_means_iff name [] (listOf plainText) IsTexts is_texts_iff entries
  have environments (name : String) := key_means_iff name [] Schema.environment IsEnvironment is_environment_iff entries
  have interface := key_means_iff "IsUITestBundle" false switch IsSwitch (fun _ _ => Iff.rfl) entries
  have app := key_means_iff "UITargetAppEnvironmentVariables" none _ _ (null_or_iff _ _ is_environment_iff) entries
  have path := key_means_iff "UITargetAppPath" none _ _ (null_or_iff plainText IsText fun _ _ => Iff.rfl) entries
  rw [of_entries_fields, texts, texts, lists, lists, interface, lists, environments, environments, app, path]
  exact ⟨fun ⟨a, b, c, d, e, f, g, h, i, j⟩ => ⟨a, b, c, d, e, f, g, h, i, j⟩,
    fun ⟨a, b, c, d, e, f, g, h, i, j⟩ => ⟨a, b, c, d, e, f, g, h, i, j⟩⟩

theorem of_entries_same (entries other : Entries)
    (same : ∀ p ∈ parts, Entries.get? p.name other = Entries.get? p.name entries) :
    ofEntries other = ofEntries entries := by
  simp only [parts, List.forall_mem_cons] at same
  obtain ⟨host, bundle, skipped, selected, interface, arguments, own, testing, app, path, -⟩ := same
  rw [ofEntries, ofEntries, key_same _ _ _ _ _ host, key_same _ _ _ _ _ bundle, key_same _ _ _ _ _ skipped,
    key_same _ _ _ _ _ selected, key_same _ _ _ _ _ interface, key_same _ _ _ _ _ arguments,
    key_same _ _ _ _ _ own, key_same _ _ _ _ _ testing, key_same _ _ _ _ _ app, key_same _ _ _ _ _ path]

theorem target_depends_on_its_keys (entries : Entries) :
    ((∃ t, ofEntries entries = .ok t) ↔
      ∀ p ∈ parts, ∀ v, Entries.get? p.name entries = some v → p.findings v = []) ∧
    (∀ t, ofEntries entries = .ok t ↔ t.Reads entries) ∧
    ((∃ p ∈ parts, ∃ v, Entries.get? p.name entries = some v ∧ p.findings v ≠ []) →
      ofEntries entries = .bad (parts.flatMap fun p => p.issues entries)) ∧
    ∀ other, (∀ p ∈ parts, Entries.get? p.name other = Entries.get? p.name entries) →
      ofEntries other = ofEntries entries := by
  have accepted := (of_entries_reports.ok_iff entries).trans (issues_of_nil_iff parts entries)
  refine ⟨accepted, of_entries_reads entries, ?_, of_entries_same entries⟩
  rintro ⟨p, member, v, present, faulty⟩
  have failing : issuesOf parts entries ≠ [] := fun none =>
    faulty ((issues_of_nil_iff parts entries).mp none p member v present)
  exact (of_entries_reports.bad_iff entries _).mpr ⟨failing, rfl⟩

def plainBlock : Entries := [(.text "TestBundlePath", .data [65, 47, 66]), (.text "IsUITestBundle", .int 1)]

def turnedBlock : Entries :=
  [(.int 5, .null), (.text "is_ui_test_bundle", .bool false), (.text "IsUITestBundle", .int 1),
    (.text "TestBundlePath", .data [65, 47, 66]), (.text "BlueprintName", .array [])]

def faultyBlock : Entries :=
  [(.text "SkipTestIdentifiers", .array [.int 1, .text "A", .null]), (.text "TestHostBundleIdentifier", .bool true)]

theorem turned_block_is_the_same :
    (∀ p ∈ parts, Entries.get? p.name turnedBlock = Entries.get? p.name plainBlock) ∧
      ofEntries turnedBlock = ofEntries plainBlock ∧
      (∃ t, ofEntries turnedBlock = .ok t) ∧
      (∃ p ∈ parts, ∃ v, Entries.get? p.name faultyBlock = some v ∧ p.findings v ≠ []) ∧
      ofEntries faultyBlock = .bad [⟨[.key "TestHostBundleIdentifier"], .stringType⟩,
        ⟨[.key "SkipTestIdentifiers", .index 0], .stringType⟩, ⟨[.key "SkipTestIdentifiers", .index 2], .stringType⟩] := by
  have same : ∀ p ∈ parts, Entries.get? p.name turnedBlock = Entries.get? p.name plainBlock := by
    simp only [parts, List.forall_mem_cons]
    exact ⟨rfl, rfl, rfl, rfl, rfl, rfl, rfl, rfl, rfl, rfl, by simp⟩
  have faulty : ∃ p ∈ parts, ∃ v, Entries.get? p.name faultyBlock = some v ∧ p.findings v ≠ [] :=
    ⟨_, List.mem_cons_self, .bool true, rfl, by decide⟩
  obtain ⟨-, -, -, alike⟩ := target_depends_on_its_keys plainBlock
  obtain ⟨-, -, fails, -⟩ := target_depends_on_its_keys faultyBlock
  have turned := alike turnedBlock same
  exact ⟨same, turned, ⟨_, turned.trans rfl⟩, faulty, (fails faulty).trans rfl⟩

end TestTarget
end TestRun
