import TestRun.Proofs.Format.IntegerKey
import TestRun.Proofs.Format.Parts
import TestRun.Proofs.Markup.Checking

/-! The blocks of targets in both versions. -/

set_option autoImplicit false

namespace TestRun.Format

open Environment (keyed)
open Plist.Binary (signed)
open Plist.Written (Element Items Fields Page pageOf load_page_of)

def BesideMetadata (content : List UInt8) (key value : Value) : Prop :=
  ∃ block v, metadata block = .ok v ∧
    (Document.load content = .ok [(.text metadataKey, block), (key, value)] ∨
      Document.load content = .ok [(key, value), (.text metadataKey, block)])

structure Single where
  key : Value
  block : Entries
  content : List UInt8
  scalar : key.isKey = true
  other : key.sameKey (.text metadataKey) = false
  held : BesideMetadata content key (.dict block)

def configurationsOf (blocks : List Entries) : Value :=
  .array [.dict [(.text "TestTargets", .array (blocks.map .dict))]]

def PlanOf (content : List UInt8) (blocks : List Entries) : Prop :=
  BesideMetadata content (.text "TestConfigurations") (configurationsOf blocks)

def detailsOf : Except Failure (List TestTarget) → List Schema.Issue
  | .error (.problem (.targetInvalid _ issues)) => issues
  | .error (.problem (.documentInvalid issues)) => issues
  | _ => []

def placed (n : Nat) (i : Schema.Issue) : Schema.Issue :=
  { i with location := [.key "TestConfigurations", .index 0, .key "TestTargets", .index n] ++ i.location }

theorem select_metadata (block : Value) (rest : Entries) :
    SingleTarget.select? ((.text metadataKey, block) :: rest) = SingleTarget.select? rest := by
  cases block <;> simp [SingleTarget.select?, Value.sameKey]

theorem single_selected (s : Single) :
    ∃ root, Document.load s.content = .ok root ∧ SingleTarget.select? root = some (s.key, s.block) := by
  have differs : ¬ s.key.sameKey (.text metadataKey) = true := by simp [s.other]
  obtain ⟨block, v, -, loaded | loaded⟩ := s.held
  · exact ⟨_, loaded, by rw [select_metadata, SingleTarget.select?, if_neg differs]⟩
  · exact ⟨_, loaded, by rw [SingleTarget.select?, if_neg differs]⟩

theorem single_parsed (s : Single) :
    SingleTarget.parse s.content =
      match TestTarget.ofEntries s.block with
      | .ok target => .ok [target]
      | .bad issues => .error (SingleTarget.failure s.key issues) := by
  obtain ⟨root, loaded, selected⟩ := single_selected s
  rw [SingleTarget.parse, loaded]
  change SingleTarget.ofRoot root = _
  cases checked : TestTarget.ofEntries s.block <;> simp only [SingleTarget.ofRoot, selected, checked]

theorem unnamed_iff (key : Value) (scalar : key.isKey = true) :
    key.display? = none ↔ ∃ i, key = .int i ∧ ¬ Numeral.Short i := by
  cases key with
  | int i => simp [Value.display?, Value.literal?, ← Numeral.writable_iff]
  | array items => cases scalar
  | dict entries => cases scalar
  | enclosing => cases scalar
  | _ => simp [Value.display?, Value.literal?]

theorem single_ok_iff (s : Single) (made : List TestTarget) :
    SingleTarget.parse s.content = .ok made ↔ ∃ target, TestTarget.ofEntries s.block = .ok target ∧ made = [target] := by
  rw [single_parsed]
  cases TestTarget.ofEntries s.block <;> simp [eq_comm]

theorem single_escape_iff (s : Single) (e : Escape) :
    SingleTarget.parse s.content = .error (.escape e) ↔
      e = .integerTooLong ∧ (∃ issues, TestTarget.ofEntries s.block = .bad issues) ∧
        ∃ i, s.key = .int i ∧ ¬ Numeral.Short i := by
  rw [single_parsed, ← unnamed_iff s.key s.scalar]
  cases TestTarget.ofEntries s.block with
  | ok target => simp
  | bad issues =>
      cases named : s.key.display? with
      | none => simp [SingleTarget.failure, named, eq_comm]
      | some name => simp [SingleTarget.failure, named]

theorem single_failed (s : Single) (f : Failure) (failed : SingleTarget.parse s.content = .error f) :
    (∃ name issues, f = .problem (.targetInvalid name issues)) ∨
      (f = .escape .integerTooLong ∧ ∃ i, s.key = .int i ∧ ¬ Numeral.Short i) := by
  cases f with
  | escape e =>
      obtain ⟨rfl, -, long⟩ := (single_escape_iff s e).mp failed
      exact .inr ⟨rfl, long⟩
  | problem p =>
      rw [single_parsed] at failed
      cases checked : TestTarget.ofEntries s.block with
      | ok target => simp [checked] at failed
      | bad issues =>
          cases named : s.key.display? with
          | none => simp [checked, SingleTarget.failure, named] at failed
          | some name => exact .inl ⟨name, issues, by simpa [checked, SingleTarget.failure, named, eq_comm] using failed⟩

theorem single_details (s : Single) (told : SingleTarget.parse s.content ≠ .error (.escape .integerTooLong)) :
    detailsOf (SingleTarget.parse s.content) = (TestTarget.ofEntries s.block).issues := by
  rw [single_parsed] at told ⊢
  cases checked : TestTarget.ofEntries s.block with
  | ok target => rfl
  | bad issues =>
      rw [checked] at told
      cases named : s.key.display? with
      | none => simp [SingleTarget.failure, named] at told
      | some name => simp [SingleTarget.failure, named, detailsOf, Schema.Checked.issues]

theorem blocks_issues (blocks : List Entries) :
    (Schema.listOf TestTarget.ofValue (.array (blocks.map .dict))).issues =
      blocks.zipIdx.flatMap fun e => (TestTarget.ofEntries e.1).issues.map (Schema.Issue.under (.index e.2)) := by
  rw [Schema.list_issues, List.zipIdx_map, List.flatMap_map]
  rfl

theorem configurations_checked (blocks : List Entries) :
    Schema.listOf (Schema.model configuration) (configurationsOf blocks) =
      match Schema.listOf TestTarget.ofValue (.array (blocks.map .dict)) with
      | .ok targets => .ok [⟨none, targets⟩]
      | .bad issues => .bad (issues.map fun i => (i.under (.key "TestTargets")).under (.index 0)) := by
  have inner : configuration [(.text "TestTargets", .array (blocks.map .dict))] =
      (Schema.Checked.ok (Configuration.mk none)).apply
        ((Schema.listOf TestTarget.ofValue (.array (blocks.map .dict))).under (.key "TestTargets")) := rfl
  have outer : Schema.listOf (Schema.model configuration) (configurationsOf blocks) =
      ((Schema.Checked.ok List.cons).apply
        ((configuration [(.text "TestTargets", .array (blocks.map .dict))]).under (.index 0))).apply (.ok []) := rfl
  rw [outer, inner]
  cases Schema.listOf TestTarget.ofValue (.array (blocks.map .dict)) with
  | ok targets => rfl
  | bad issues => simp [Schema.Checked.under, Schema.Checked.apply]

theorem plan_checked (root : Entries) (blocks : List Entries) (block : Value) (v : Int) (valid : metadata block = .ok v)
    (either : root = [(.text metadataKey, block), (.text "TestConfigurations", configurationsOf blocks)] ∨
      root = [(.text "TestConfigurations", configurationsOf blocks), (.text metadataKey, block)]) :
    PlanDocument.targetsOfRoot root =
      match Schema.listOf TestTarget.ofValue (.array (blocks.map .dict)) with
      | .ok targets => .ok targets
      | .bad issues => .error (.problem (.documentInvalid
          (issues.map fun i => ((i.under (.key "TestTargets")).under (.index 0)).under (.key "TestConfigurations")))) := by
  have parts : PlanDocument.ofRoot root =
      ((Schema.Checked.ok fun cs v => PlanDocument.mk ⟨"", none⟩ cs none v).apply
        ((Schema.listOf (Schema.model configuration) (configurationsOf blocks)).under (.key "TestConfigurations"))).apply
          ((metadata block).under (.key metadataKey)) := by
    have found : Entries.get? "ContainerInfo" root = none ∧
        Entries.get? "TestConfigurations" root = some (configurationsOf blocks) ∧
        Entries.get? "TestPlan" root = none ∧ Entries.get? metadataKey root = some block := by
      rcases either with rfl | rfl <;> exact ⟨rfl, rfl, rfl, rfl⟩
    obtain ⟨noContainer, configurations, noPlan, inFront⟩ := found
    rw [PlanDocument.ofRoot, Schema.field_absent _ _ _ _ noContainer, Schema.field_present _ _ _ _ _ configurations,
      Schema.field_absent _ _ _ _ noPlan, version, Schema.field_present _ _ _ _ _ inFront]
    cases (Schema.listOf (Schema.model configuration) (configurationsOf blocks)) <;> rfl
  rw [PlanDocument.targetsOfRoot, parts, configurations_checked, valid]
  cases Schema.listOf TestTarget.ofValue (.array (blocks.map .dict)) with
  | ok targets => rfl
  | bad issues => simp [Schema.Checked.under, Schema.Checked.apply]

theorem plan_parsed (content : List UInt8) (blocks : List Entries) (held : PlanOf content blocks) :
    PlanDocument.parse content =
      match Schema.listOf TestTarget.ofValue (.array (blocks.map .dict)) with
      | .ok targets => .ok targets
      | .bad issues => .error (.problem (.documentInvalid
          (issues.map fun i => ((i.under (.key "TestTargets")).under (.index 0)).under (.key "TestConfigurations")))) := by
  obtain ⟨block, v, valid, loaded | loaded⟩ := held
  · rw [PlanDocument.parse, loaded]
    exact plan_checked _ blocks block v valid (.inl rfl)
  · rw [PlanDocument.parse, loaded]
    exact plan_checked _ blocks block v valid (.inr rfl)

theorem plan_ok_iff (content : List UInt8) (blocks : List Entries) (held : PlanOf content blocks)
    (targets : List TestTarget) :
    PlanDocument.parse content = .ok targets ↔ blocks.map TestTarget.ofEntries = targets.map .ok := by
  rw [plan_parsed content blocks held, ← blocks_ok_iff]
  cases Schema.listOf TestTarget.ofValue (.array (blocks.map .dict)) <;> simp

theorem plan_fails (content : List UInt8) (blocks : List Entries) (held : PlanOf content blocks)
    (failing : ∀ targets, PlanDocument.parse content ≠ .ok targets) :
    PlanDocument.parse content = .error (.problem (.documentInvalid
      (blocks.zipIdx.flatMap fun e => (TestTarget.ofEntries e.1).issues.map (placed e.2)))) := by
  have parsed := plan_parsed content blocks held
  have issues := blocks_issues blocks
  cases checked : Schema.listOf TestTarget.ofValue (.array (blocks.map .dict)) with
  | ok targets =>
      rw [checked] at parsed
      exact absurd parsed (failing targets)
  | bad found =>
      rw [checked] at parsed issues
      have all : found = blocks.zipIdx.flatMap fun e =>
          (TestTarget.ofEntries e.1).issues.map (Schema.Issue.under (.index e.2)) := issues
      rw [parsed, all]
      dsimp only
      rw [List.map_flatMap]
      simp only [List.map_map]
      rfl

theorem singles_parsed (singles : List Single) (targets : List TestTarget)
    (same : (singles.map (·.block)).map TestTarget.ofEntries = targets.map .ok) :
    singles.map (fun s => SingleTarget.parse s.content) = targets.map fun t => .ok [t] := by
  induction singles generalizing targets with
  | nil =>
      cases targets with
      | nil => rfl
      | cons target others => cases same
  | cons s rest ih =>
      cases targets with
      | nil => cases same
      | cons target others =>
          obtain ⟨first, behind⟩ := List.cons.inj same
          have parsed : SingleTarget.parse s.content = .ok [target] := (single_ok_iff s _).mpr ⟨target, first, rfl⟩
          rw [List.map_cons, List.map_cons, parsed, ih others behind]

theorem blocks_mean_the_same (singles : List Single) (plan : List UInt8) (held : PlanOf plan (singles.map (·.block))) :
    ((∃ targets, PlanDocument.parse plan = .ok targets) ↔
      ∀ s ∈ singles, ∃ made, SingleTarget.parse s.content = .ok made) ∧
    (∀ targets, PlanDocument.parse plan = .ok targets →
      singles.map (fun s => SingleTarget.parse s.content) = targets.map fun t => .ok [t]) ∧
    ((∃ s ∈ singles, ∀ made, SingleTarget.parse s.content ≠ .ok made) →
      ∃ issues, PlanDocument.parse plan = .error (.problem (.documentInvalid issues)) ∧
        ((∀ s ∈ singles, SingleTarget.parse s.content ≠ .error (.escape .integerTooLong)) →
          issues = singles.zipIdx.flatMap fun e => (detailsOf (SingleTarget.parse e.1.content)).map (placed e.2))) ∧
    ∀ s ∈ singles, ∀ f, SingleTarget.parse s.content = .error f →
      (∃ name issues, f = .problem (.targetInvalid name issues)) ∨
        (f = .escape .integerTooLong ∧ ∃ i, s.key = .int i ∧ ¬ Numeral.Short i) := by
  have single_ok (s : Single) : (∃ made, SingleTarget.parse s.content = .ok made) ↔
      ∃ target, TestTarget.ofEntries s.block = .ok target := by
    simp only [single_ok_iff]
    exact ⟨fun ⟨_, target, checked, _⟩ => ⟨target, checked⟩, fun ⟨target, checked⟩ => ⟨_, target, checked, rfl⟩⟩
  have all : (∃ targets, PlanDocument.parse plan = .ok targets) ↔
      ∀ s ∈ singles, ∃ made, SingleTarget.parse s.content = .ok made := by
    simp only [plan_ok_iff plan _ held, Schema.Checked.map_ok_iff, single_ok, List.forall_mem_map]
  refine ⟨all, fun targets made => ?_, fun ⟨s, member, failing⟩ => ?_, fun s _ => single_failed s⟩
  · exact singles_parsed singles targets ((plan_ok_iff plan _ held targets).mp made)
  · have noTargets : ∀ targets, PlanDocument.parse plan ≠ .ok targets := by
      intro targets made
      obtain ⟨one, parsed⟩ := all.mp ⟨targets, made⟩ s member
      exact failing one parsed
    refine ⟨_, plan_fails plan _ held noTargets, fun told => ?_⟩
    rw [List.zipIdx_map, List.flatMap_map]
    refine List.flatMap_congr fun e place => ?_
    have details := single_details e.1 (told e.1 (List.fst_mem_of_mem_zipIdx place))
    rw [details]
    rfl

def besideMetadata (v : Int) (key : String) (value : Element) : Fields :=
  .cons [] metadataKey false [] (.dict (.cons [] "FormatVersion" false [] (.integer v) .nil) [] false)
    (.cons [] key false [] value .nil)

def planFields (targets : Items) : Fields :=
  besideMetadata 2 "TestConfigurations"
    (.array (.cons [] (.dict (.cons [] "TestTargets" false [] (.array targets [] false) .nil) [] false) .nil) [] false)

def emptyBlock : Element := .dict .nil [] true

def numberBlock : Element := .dict (.cons [] "TestHostBundleIdentifier" false [] (.integer 1) .nil) [] false

def pairedPlan : Fields := planFields (.cons [] emptyBlock (.cons [] numberBlock .nil))

def emptySingle : Single where
  key := .text "Empty"
  block := []
  content := (pageOf (besideMetadata 1 "Empty" emptyBlock)).bytes
  scalar := rfl
  other := rfl
  held := ⟨_, 1, rfl, .inl (load_page_of _ rfl)⟩

def numberSingle : Single where
  key := .text "Number"
  block := keyed hostBlock
  content := (pageOf (besideMetadata 1 "Number" numberBlock)).bytes
  scalar := rfl
  other := rfl
  held := ⟨_, 1, rfl, .inl (load_page_of _ rfl)⟩

theorem paired_plan_held : PlanOf (pageOf pairedPlan).bytes [emptySingle.block, numberSingle.block] :=
  ⟨_, 2, rfl, .inl (load_page_of _ rfl)⟩

theorem empty_single_parsed :
    SingleTarget.parse emptySingle.content = .ok [⟨"", "", [], [], false, [], [], [], none, none⟩] :=
  (single_parsed emptySingle).trans rfl

theorem number_single_parsed :
    SingleTarget.parse numberSingle.content =
      .error (.problem (.targetInvalid "Number" [⟨[.key "TestHostBundleIdentifier"], .stringType⟩])) :=
  (single_parsed numberSingle).trans rfl

theorem paired_blocks_agree :
    PlanOf (pageOf pairedPlan).bytes [emptySingle.block, numberSingle.block] ∧
      PlanDocument.parse (pageOf pairedPlan).bytes = .error (.problem (.documentInvalid
        [⟨[.key "TestConfigurations", .index 0, .key "TestTargets", .index 1, .key "TestHostBundleIdentifier"],
          .stringType⟩])) := by
  obtain ⟨-, -, fails, -⟩ := blocks_mean_the_same [emptySingle, numberSingle] _ paired_plan_held
  obtain ⟨issues, parsed, located⟩ := fails ⟨numberSingle, by simp, by simp [number_single_parsed]⟩
  have details := located (by simp [empty_single_parsed, number_single_parsed])
  rw [details] at parsed
  simp only [List.zipIdx_cons, List.zipIdx_nil, List.flatMap_cons, List.flatMap_nil, empty_single_parsed,
    number_single_parsed] at parsed
  exact ⟨paired_plan_held, parsed⟩

theorem long_key_hides_details :
    BesideMetadata (blockUnder longInteger).content (.int (signed longInteger)) (.dict (keyed hostBlock)) ∧
      PlanOf (pageOf (planFields (.cons [] numberBlock .nil))).bytes [keyed hostBlock] ∧
      SingleTarget.parse (blockUnder longInteger).content = .error (.escape .integerTooLong) ∧
      PlanDocument.parse (pageOf (planFields (.cons [] numberBlock .nil))).bytes = .error (.problem (.documentInvalid
        [⟨[.key "TestConfigurations", .index 0, .key "TestTargets", .index 0, .key "TestHostBundleIdentifier"],
          .stringType⟩])) := by
  have plan : PlanOf (pageOf (planFields (.cons [] numberBlock .nil))).bytes [keyed hostBlock] :=
    ⟨_, 2, rfl, .inl (load_page_of _ rfl)⟩
  exact ⟨⟨_, 1, rfl, .inl (block_loads longInteger long_integer_length)⟩, plan, long_block_escapes,
    (plan_parsed _ _ plan).trans rfl⟩

end TestRun.Format
