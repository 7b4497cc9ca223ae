import TestRun.Proofs.Format.Parts
import TestRun.Proofs.Markup.Checking

/-! Test plans as wholes. -/

set_option autoImplicit false

namespace TestRun.Format

open Schema
open Plist.Written (Element Items Fields pageOf load_page_of)

def containerParts : List Part := [⟨"ContainerName", textual⟩, ⟨"SchemeName", unlessNull textual⟩]

def configurationParts : List Part :=
  [⟨"Name", unlessNull textual⟩, ⟨"TestTargets", inItems (inBlock TestTarget.parts)⟩]

def planParts : List Part := [⟨"Name", unlessNull textual⟩, ⟨"IsDefault", fun v => (switch v).issues⟩]

def metadataParts : List Part := [⟨"FormatVersion", fun v => (integer v).issues⟩]

def documentParts : List Part :=
  [⟨"ContainerInfo", inBlock containerParts⟩, ⟨"TestConfigurations", inItems (inBlock configurationParts)⟩,
    ⟨"TestPlan", unlessNull (inBlock planParts)⟩, ⟨metadataKey, inBlock metadataParts⟩]

def Lists (entries : Entries) (targets : List TestTarget) : Prop :=
  KeyMeans "TestTargets" [] (fun v targets => ∃ blocks : List Entries, v = .array (blocks.map .dict) ∧
    blocks.map TestTarget.ofEntries = targets.map .ok) entries targets

theorem container_reports : Reports (model container) (inBlock containerParts) := by
  have texts := reports_scalar plainText text_scalar
  have named := parts_report [] ⟨_, _⟩ _ _ (no_parts_report Container.mk) (part_reports "ContainerName" "" plainText textual texts)
  exact model_reports _ _
    (parts_report _ ⟨_, _⟩ _ _ named (part_reports "SchemeName" none _ _ (optional_reports _ _ texts)))

theorem target_reports : Reports TestTarget.ofValue (inBlock TestTarget.parts) :=
  model_reports _ _ TestTarget.of_entries_reports

theorem configuration_reports : Reports (model configuration) (inBlock configurationParts) := by
  have name := optional_reports plainText textual (reports_scalar plainText text_scalar)
  have named := parts_report [] ⟨_, _⟩ _ _ (no_parts_report Configuration.mk) (part_reports "Name" none _ _ name)
  exact model_reports _ _
    (parts_report _ ⟨_, _⟩ _ _ named (part_reports "TestTargets" [] _ _ (list_reports _ _ target_reports)))

theorem plan_reports : Reports (model plan) (inBlock planParts) := by
  have name := optional_reports plainText textual (reports_scalar plainText text_scalar)
  have named := parts_report [] ⟨_, _⟩ _ _ (no_parts_report Plan.mk) (part_reports "Name" none _ _ name)
  exact model_reports _ _
    (parts_report _ ⟨_, _⟩ _ _ named (part_reports "IsDefault" false switch _ (reports_scalar switch switch_scalar)))

theorem metadata_reports : Reports metadata (inBlock metadataParts) :=
  model_reports _ _ (one_part_reports ⟨_, _⟩ _
    (part_reports "FormatVersion" 0 integer _ (reports_scalar integer integer_scalar)))

theorem document_reports : Reports PlanDocument.ofRoot (issuesOf documentParts) := by
  have one := parts_report [] ⟨_, _⟩ _ _ (no_parts_report PlanDocument.mk)
    (part_reports "ContainerInfo" ⟨"", none⟩ _ _ container_reports)
  have two := parts_report _ ⟨_, _⟩ _ _ one
    (part_reports "TestConfigurations" [] _ _ (list_reports _ _ configuration_reports))
  have three := parts_report _ ⟨_, _⟩ _ _ two (part_reports "TestPlan" none _ _ (optional_reports _ _ plan_reports))
  exact parts_report _ ⟨_, _⟩ _ _ three (part_reports metadataKey 0 _ _ metadata_reports)

theorem faulty_plan (root : Entries) (faulty : issuesOf documentParts root ≠ []) :
    PlanDocument.targetsOfRoot root = .error (.problem (.documentInvalid (issuesOf documentParts root))) := by
  rw [PlanDocument.targetsOfRoot, (document_reports.bad_iff root _).mpr ⟨faulty, rfl⟩]

theorem configuration_issue_listed (root : Entries) (items : List Value) (i : Nat) (item : Value)
    (configured : Entries.get? "TestConfigurations" root = some (.array items)) (there : items[i]? = some item)
    (issue : Issue) (found : issue ∈ inBlock configurationParts item) :
    (issue.under (.index i)).under (.key "TestConfigurations") ∈ issuesOf documentParts root := by
  refine List.mem_flatMap.mpr ⟨⟨"TestConfigurations", inItems (inBlock configurationParts)⟩, by simp [documentParts], ?_⟩
  rw [Part.issues, configured]
  refine List.mem_map_of_mem (List.mem_flatMap.mpr ⟨(item, i), List.mk_mem_zipIdx_iff_getElem?.mpr there, ?_⟩)
  exact List.mem_map_of_mem found

theorem items_are_blocks (items : List Value) (targets : List TestTarget)
    (checked : items.map TestTarget.ofValue = targets.map .ok) : ∃ blocks : List Entries, items = blocks.map .dict := by
  induction items generalizing targets with
  | nil => exact ⟨[], rfl⟩
  | cons item rest ih =>
      cases targets with
      | nil => cases checked
      | cons target others =>
          obtain ⟨first, behind⟩ := List.cons.inj checked
          obtain ⟨blocks, rfl⟩ := ih others behind
          cases item with
          | dict block => exact ⟨block :: blocks, rfl⟩
          | _ => cases first

theorem target_list_iff (v : Value) (targets : List TestTarget) :
    listOf TestTarget.ofValue v = .ok targets ↔ ∃ blocks : List Entries, v = .array (blocks.map .dict) ∧
      blocks.map TestTarget.ofEntries = targets.map .ok := by
  constructor
  · intro checked
    cases v with
    | array items =>
        obtain ⟨blocks, rfl⟩ := items_are_blocks items targets ((list_ok_iff _ items targets).mp checked)
        exact ⟨blocks, rfl, (blocks_ok_iff blocks targets).mp checked⟩
    | _ => cases checked
  · rintro ⟨blocks, rfl, checked⟩
    exact (blocks_ok_iff blocks targets).mpr checked

theorem configuration_lists (entries : Entries) (c : Configuration) (made : configuration entries = .ok c) :
    Lists entries c.targets :=
  (key_means_iff "TestTargets" [] _ _ target_list_iff entries c.targets).mp (configuration_targets entries c made)

theorem lists_unique (entries other : Entries) (left right : List TestTarget)
    (same : Entries.get? "TestTargets" other = Entries.get? "TestTargets" entries)
    (first : Lists entries left) (second : Lists other right) : left = right := by
  have leftRead := (key_means_iff "TestTargets" [] _ _ target_list_iff entries left).mpr first
  have rightRead := (key_means_iff "TestTargets" [] _ _ target_list_iff other right).mpr second
  rw [key_same _ _ _ _ _ same] at rightRead
  exact Checked.ok.inj (leftRead.symm.trans rightRead)

theorem plan_without_configurations (root : Entries) (clean : issuesOf documentParts root = [])
    (absent : Entries.get? "TestConfigurations" root = none ∨
      Entries.get? "TestConfigurations" root = some (.array [])) :
    PlanDocument.targetsOfRoot root = .error (.problem .noConfigurations) := by
  obtain ⟨d, made⟩ := (document_reports.ok_iff root).mpr clean
  have read := (plan_parts root d made).1
  have none : d.configurations = [] := by
    rcases absent with absent | empty
    · rw [field_absent _ _ _ _ absent] at read
      exact (Checked.ok.inj read).symm
    · rw [field_present _ _ _ _ _ empty] at read
      exact (Checked.ok.inj read).symm
  rw [PlanDocument.targetsOfRoot, made]
  dsimp only
  rw [PlanDocument.targets, none]

theorem plan_with_configurations (root : Entries) (clean : issuesOf documentParts root = []) (v : Value)
    (configured : Entries.get? "TestConfigurations" root = some v) (some : v ≠ .array []) :
    ∃ first rest targets, v = .array (.dict first :: rest) ∧ Lists first targets ∧
      PlanDocument.targetsOfRoot root = .ok targets := by
  obtain ⟨d, made⟩ := (document_reports.ok_iff root).mpr clean
  have read := (plan_parts root d made).1
  rw [field_present _ _ _ _ _ configured, Checked.under_ok_iff] at read
  cases v with
  | array items =>
      have checked := (list_ok_iff _ items d.configurations).mp read
      cases items with
      | nil => exact absurd rfl some
      | cons item rest =>
          cases listed : d.configurations with
          | nil =>
              rw [listed] at checked
              cases checked
          | cons c others =>
              rw [listed] at checked
              have passed := (List.cons.inj checked).1
              cases item with
              | dict first =>
                  refine ⟨first, rest, c.targets, rfl, configuration_lists first c passed, ?_⟩
                  rw [PlanDocument.targetsOfRoot, made]
                  dsimp only
                  rw [PlanDocument.targets, listed]
              | _ => cases passed
  | _ => cases read

theorem plan_depends_on_first (root other : Entries) (clean : issuesOf documentParts root = [])
    (otherClean : issuesOf documentParts other = []) (first first' : Entries) (rest rest' : List Value)
    (configured : Entries.get? "TestConfigurations" root = some (.array (.dict first :: rest)))
    (otherConfigured : Entries.get? "TestConfigurations" other = some (.array (.dict first' :: rest')))
    (same : Entries.get? "TestTargets" first' = Entries.get? "TestTargets" first) :
    PlanDocument.targetsOfRoot other = PlanDocument.targetsOfRoot root := by
  obtain ⟨_, _, targets, shape, lists, made⟩ := plan_with_configurations root clean _ configured (by simp)
  obtain ⟨_, _, others, otherShape, otherLists, otherMade⟩ :=
    plan_with_configurations other otherClean _ otherConfigured (by simp)
  obtain ⟨rfl, -⟩ : first = _ ∧ rest = _ := by simpa using shape
  obtain ⟨rfl, -⟩ : first' = _ ∧ rest' = _ := by simpa using otherShape
  rw [made, otherMade, lists_unique _ _ targets others same lists otherLists]

theorem plan_parse (content : List UInt8) (root : Entries) (loaded : Document.load content = .ok root) :
    PlanDocument.parse content = PlanDocument.targetsOfRoot root := by
  rw [PlanDocument.parse, loaded]
  rfl

theorem plan_reports_every_fault (content : List UInt8) (root : Entries) (loaded : Document.load content = .ok root) :
    (PlanDocument.ofRoot root).issues = issuesOf documentParts root ∧
    ((∀ v, (model container v).issues = inBlock containerParts v) ∧
      (∀ v, (model configuration v).issues = inBlock configurationParts v) ∧
      (∀ v, (TestTarget.ofValue v).issues = inBlock TestTarget.parts v) ∧
      (∀ v, (model plan v).issues = inBlock planParts v) ∧ ∀ v, (metadata v).issues = inBlock metadataParts v) ∧
    (issuesOf documentParts root ≠ [] →
      PlanDocument.parse content = .error (.problem (.documentInvalid (issuesOf documentParts root))) ∧
      (Problem.documentInvalid (issuesOf documentParts root)).message =
        "failed to decode format version 2 document: " ++ (toString (issuesOf documentParts root).length ++
          (if (issuesOf documentParts root).length = 1 then " validation error for " else " validation errors for ") ++
          "XCTestRunV2")) ∧
    (∀ (items : List Value) (i : Nat) (item : Value),
      Entries.get? "TestConfigurations" root = some (.array items) → items[i]? = some item →
      inBlock configurationParts item ≠ [] →
      ∃ issues, PlanDocument.parse content = .error (.problem (.documentInvalid issues)) ∧
        ∀ issue ∈ inBlock configurationParts item,
          (issue.under (.index i)).under (.key "TestConfigurations") ∈ issues) ∧
    (issuesOf documentParts root = [] →
      (Entries.get? "TestConfigurations" root = none ∨ Entries.get? "TestConfigurations" root = some (.array []) →
        PlanDocument.parse content = .error (.problem .noConfigurations) ∧
          Problem.noConfigurations.code = .noTestConfigurations) ∧
      (∀ v, Entries.get? "TestConfigurations" root = some v → v ≠ .array [] →
        ∃ first rest targets, v = .array (.dict first :: rest) ∧ Lists first targets ∧
          PlanDocument.parse content = .ok targets) ∧
      ∀ (another : List UInt8) (other first first' : Entries) (rest rest' : List Value),
        Document.load another = .ok other → issuesOf documentParts other = [] →
        Entries.get? "TestConfigurations" root = some (.array (.dict first :: rest)) →
        Entries.get? "TestConfigurations" other = some (.array (.dict first' :: rest')) →
        Entries.get? "TestTargets" first' = Entries.get? "TestTargets" first →
        PlanDocument.parse another = PlanDocument.parse content) := by
  have parsed := plan_parse content root loaded
  refine ⟨(document_reports root).1, ⟨fun v => (container_reports v).1, fun v => (configuration_reports v).1,
    fun v => (target_reports v).1, fun v => (plan_reports v).1, fun v => (metadata_reports v).1⟩,
    fun faulty => ⟨parsed.trans (faulty_plan root faulty), rfl⟩, ?_, fun clean => ⟨?_, ?_, ?_⟩⟩
  · intro items i item configured there some
    have listed := configuration_issue_listed root items i item configured there
    obtain ⟨issue, found⟩ := List.exists_mem_of_ne_nil _ some
    exact ⟨_, parsed.trans (faulty_plan root (List.ne_nil_of_mem (listed issue found))), listed⟩
  · intro absent
    exact ⟨parsed.trans (plan_without_configurations root clean absent), rfl⟩
  · intro v configured some
    rw [parsed]
    exact plan_with_configurations root clean v configured some
  · intro another other first first' rest rest' loadedOther otherClean configured otherConfigured same
    rw [parsed, plan_parse another other loadedOther]
    exact plan_depends_on_first root other clean otherClean first first' rest rest' configured otherConfigured same

def configurationsOnly (configurations : Items) : Fields :=
  .cons [] "TestConfigurations" false [] (.array configurations [] false) .nil

def faultyConfigurations : Items :=
  .cons [] (.dict .nil [] true) (.cons [] (.dict (.cons [] "TestTargets" false []
    (.array (.cons [] (.dict .nil [] true) (.cons [] (.text "T" false) .nil)) [] false)
    (.cons [] "Name" false [] (.switch true true) .nil)) [] false) .nil)

def namedTarget (path : String) : Element :=
  .dict (.cons [] "TestTargets" false []
    (.array (.cons [] (.dict (.cons [] "TestBundlePath" false [] (.text path false) .nil) [] false) .nil) [] false)
    .nil) [] false

def shortPlan : Fields := configurationsOnly (.cons [] (namedTarget "A") .nil)

def longPlan : Fields :=
  .cons [] "ContainerInfo" false [] (.dict (.cons [] "SchemeName" false [] (.text "S" false) .nil) [] false)
    (configurationsOnly (.cons [] (namedTarget "A") (.cons [] (namedTarget "B") .nil)))

theorem faults_are_reported_and_rest_is_ignored :
    PlanDocument.parse (pageOf (configurationsOnly faultyConfigurations)).bytes = .error (.problem (.documentInvalid
        [⟨[.key "TestConfigurations", .index 1, .key "Name"], .stringType⟩,
          ⟨[.key "TestConfigurations", .index 1, .key "TestTargets", .index 1], .modelType⟩])) ∧
      PlanDocument.parse (pageOf longPlan).bytes = PlanDocument.parse (pageOf shortPlan).bytes ∧
      ∃ targets, PlanDocument.parse (pageOf shortPlan).bytes = .ok targets ∧ targets.map (·.bundlePath) = ["A"] := by
  obtain ⟨-, -, faults, -, -⟩ := plan_reports_every_fault _ _ (load_page_of (configurationsOnly faultyConfigurations) rfl)
  have short := load_page_of shortPlan rfl
  obtain ⟨-, -, -, -, clean⟩ := plan_reports_every_fault _ _ short
  obtain ⟨-, -, alike⟩ := clean rfl
  refine ⟨(faults (by decide)).1, ?_, _, (plan_parse _ _ short).trans rfl, rfl⟩
  exact alike _ _ _ _ _ _ (load_page_of longPlan rfl) rfl rfl rfl rfl

end TestRun.Format
