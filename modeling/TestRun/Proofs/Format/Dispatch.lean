import TestRun.Proofs.Format.IntegerKey
import TestRun.Proofs.Format.Parts
import TestRun.Proofs.Markup.Checking
import TestRun.Proofs.Report.Agreement
import TestRun.Proofs.Schema.Issues

/-! Decoding by version. -/

set_option autoImplicit false

namespace TestRun.Format

open Plist.Written (Fields pageOf load_page_of)

inductive SingleOutcome (content : List UInt8) : Except Failure (List TestTarget) → Prop where
  | targets (made : List TestTarget) (few : made.length ≤ 1) : SingleOutcome content (.ok made)
  | invalid (name : String) (issues : List Schema.Issue) :
      SingleOutcome content (.error (.problem (.targetInvalid name issues)))
  | nameless (long : NamelessTarget content) : SingleOutcome content (.error (.escape .integerTooLong))

inductive PlanOutcome : Except Failure (List TestTarget) → Prop where
  | targets (made : List TestTarget) : PlanOutcome (.ok made)
  | unconfigured : PlanOutcome (.error (.problem .noConfigurations))
  | invalid (issues : List Schema.Issue) (elsewhere : ∀ i ∈ issues, i.location.head? ≠ some (.key metadataKey)) :
      PlanOutcome (.error (.problem (.documentInvalid issues)))

theorem detected_root (content : List UInt8) (v : Int) (detected : detect content = .ok v) :
    ∃ root, Document.load content = .ok root ∧ version root = .ok v := by
  obtain ⟨root, loaded⟩ := detect_loaded content v detected
  refine ⟨root, loaded, ?_⟩
  cases found : version root with
  | ok w => simpa [detect, loaded, found] using detected
  | bad issues => simp [detect, loaded, found] at detected

theorem plan_issues_elsewhere (root : Entries) (v : Int) (found : version root = .ok v) :
    ∀ i ∈ (PlanDocument.ofRoot root).issues, i.location.head? ≠ some (.key metadataKey) := by
  intro i member
  have clean : (version root).issues = [] := by rw [found, Schema.Checked.issues]
  rw [PlanDocument.ofRoot, Schema.Checked.issues_apply, clean, List.append_nil, Schema.Checked.issues_apply,
    Schema.Checked.issues_apply, Schema.Checked.issues_apply, Schema.Checked.issues, List.nil_append] at member
  rcases List.mem_append.mp member with others | inPlan
  · rcases List.mem_append.mp others with inContainer | inConfigurations
    · rw [Schema.field_located _ _ _ _ i inContainer]
      decide
    · rw [Schema.field_located _ _ _ _ i inConfigurations]
      decide
  · rw [Schema.field_located _ _ _ _ i inPlan]
    decide

theorem single_target_outcome (content : List UInt8) (root : Entries) (loaded : Document.load content = .ok root) :
    SingleOutcome content (SingleTarget.parse content) := by
  have parsed : SingleTarget.parse content = SingleTarget.ofRoot root := by rw [SingleTarget.parse, loaded]; rfl
  rw [parsed]
  cases selected : SingleTarget.select? root with
  | none =>
      rw [SingleTarget.ofRoot, selected]
      exact .targets [] (by simp)
  | some found =>
      obtain ⟨key, block⟩ := found
      rw [SingleTarget.ofRoot, selected]
      dsimp only
      cases checked : TestTarget.ofEntries block with
      | ok target => exact .targets [target] (by simp)
      | bad issues =>
          cases named : key.display? with
          | some name =>
              simp only [SingleTarget.failure, named]
              exact .invalid name issues
          | none =>
              simp only [SingleTarget.failure, named]
              exact .nameless ⟨root, key, block, issues, loaded, selected, checked, named⟩

theorem test_plan_outcome (content : List UInt8) (root : Entries) (v : Int) (loaded : Document.load content = .ok root)
    (found : version root = .ok v) : PlanOutcome (PlanDocument.parse content) := by
  have parsed : PlanDocument.parse content = PlanDocument.targetsOfRoot root := by rw [PlanDocument.parse, loaded]; rfl
  rw [parsed, PlanDocument.targetsOfRoot]
  cases made : PlanDocument.ofRoot root with
  | ok d =>
      dsimp only
      rw [PlanDocument.targets]
      cases d.configurations with
      | nil => exact .unconfigured
      | cons first rest => exact .targets first.targets
  | bad issues =>
      refine .invalid issues ?_
      rw [Schema.Checked.issues_bad _ issues made]
      exact plan_issues_elsewhere root v found

theorem single_problem_code (content : List UInt8) (root : Entries) (loaded : Document.load content = .ok root)
    (p : Problem) (fails : SingleTarget.parse content = .error (.problem p)) : p.code = .schemaMismatch := by
  have outcome := single_target_outcome content root loaded
  rw [fails] at outcome
  cases outcome
  rfl

theorem plan_problem_code (content : List UInt8) (root : Entries) (v : Int) (loaded : Document.load content = .ok root)
    (found : version root = .ok v) (p : Problem) (fails : PlanDocument.parse content = .error (.problem p)) :
    p.code = .schemaMismatch ∨ p.code = .noTestConfigurations := by
  have outcome := test_plan_outcome content root v loaded found
  rw [fails] at outcome
  cases outcome with
  | unconfigured => exact .inr rfl
  | invalid issues _ => exact .inl rfl

theorem plan_version (content : List UInt8) (root other : Entries) (v : Int) (d : PlanDocument)
    (loaded : Document.load content = .ok root) (found : version root = .ok v)
    (again : Document.load content = .ok other) (made : PlanDocument.ofRoot other = .ok d) : d.version = v := by
  obtain rfl : root = other := Except.ok.inj (loaded.symm.trans again)
  exact (Schema.Checked.ok.inj (found.symm.trans (plan_parts root d made).2)).symm

theorem unknown_listed (versions : List Int) (short : ∀ v ∈ versions, Numeral.Short v) :
    (Escape.unknownVersions versions).message? =
      some ("no decoder for requested format versions: [" ++ ", ".intercalate (versions.map toString) ++ "]") := by
  have writable : versions.all Numeral.isWritable = true :=
    List.all_eq_true.mpr fun v member => (Numeral.writable_iff v).mpr (short v member)
  rw [Escape.message?, if_pos writable]

theorem decode_refused (supported : List Int) (content : List UInt8) (v : Int) (known : ∀ v ∈ supported, v = 1 ∨ v = 2)
    (detected : detect content = .ok v) (absent : v ∉ supported) (short : Numeral.Short v) :
    decode supported content = .error (.problem (.unsupportedVersion v supported)) := by
  have writable : Numeral.isWritable v = true := (Numeral.writable_iff v).mpr short
  rw [decode_known supported content known, detected]
  simp only [List.contains_iff_mem, if_neg absent, unsupported, if_pos writable]

theorem decode_accepted (supported : List Int) (content : List UInt8) (v : Int) (known : ∀ v ∈ supported, v = 1 ∨ v = 2)
    (detected : detect content = .ok v) (member : v ∈ supported) : decode supported content = decoder v content := by
  rw [decode_known supported content known, detected]
  simp only [List.contains_iff_mem, if_pos member]

theorem decoding_switches_on_version (supported : List Int) (content : List UInt8) :
    ((∃ v ∈ supported, v ≠ 1 ∧ v ≠ 2) →
      decode supported content = .error (.escape (.unknownVersions (unknownOf supported))) ∧
      ((∀ v ∈ unknownOf supported, Numeral.Short v) → (Escape.unknownVersions (unknownOf supported)).message? =
        some ("no decoder for requested format versions: [" ++
          ", ".intercalate ((unknownOf supported).map toString) ++ "]"))) ∧
    ((∀ v ∈ supported, v = 1 ∨ v = 2) →
      (∀ f, detect content = .error f → decode supported content = .error f) ∧
      ∀ v, detect content = .ok v →
        (v ∉ supported → Numeral.Short v →
          decode supported content = .error (.problem (.unsupportedVersion v supported)) ∧
          (Problem.unsupportedVersion v supported).message =
            "xctestrun currently only supports .xctestrun files in formatVersion " ++
              " and ".intercalate (supported.map toString) ++ ": The formatVersion of your xctestrun file is " ++
              toString v ++
              ", feel free to open an issue in https://github.com/danielpaulus/go-ios/issues to add support") ∧
        (v ∈ supported →
          (∀ p, decode supported content = .error (.problem p) → p.code ≠ .malformedDocument) ∧
          ((v = 1 ∧ decode supported content = SingleTarget.parse content ∧
              SingleOutcome content (decode supported content) ∧
              (decode supported content = .error (.escape .integerTooLong) ↔ NamelessTarget content) ∧
              ∀ p, decode supported content = .error (.problem p) → p.code = .schemaMismatch) ∨
            (v = 2 ∧ decode supported content = PlanDocument.parse content ∧
              PlanOutcome (decode supported content) ∧
              (∀ p, decode supported content = .error (.problem p) →
                p.code = .schemaMismatch ∨ p.code = .noTestConfigurations) ∧
              ∀ root d, Document.load content = .ok root → PlanDocument.ofRoot root = .ok d → d.version = 2)))) := by
  refine ⟨fun strange => ⟨decode_unknown supported content strange, unknown_listed _⟩,
    fun known => ⟨fun f undetected => ?_, fun v detected => ⟨fun absent short => ?_, fun member => ?_⟩⟩⟩
  · rw [decode_known supported content known, undetected]
  · exact ⟨decode_refused supported content v known detected absent short, rfl⟩
  · obtain ⟨root, loaded, found⟩ := detected_root content v detected
    have accepted := decode_accepted supported content v known detected member
    rcases known v member with rfl | rfl
    · have single : decode supported content = SingleTarget.parse content := accepted
      have code := single_problem_code content root loaded
      have nameless := decoder_escape_iff 1 content .integerTooLong root loaded
      rw [single]
      refine ⟨fun p fails => by rw [code p fails]; decide,
        .inl ⟨rfl, rfl, single_target_outcome content root loaded, ?_, code⟩⟩
      rw [← single, accepted, nameless]
      simp
    · have plan : decode supported content = PlanDocument.parse content := accepted
      have code := plan_problem_code content root 2 loaded found
      rw [plan]
      refine ⟨fun p fails => ?_, .inr ⟨rfl, rfl, test_plan_outcome content root 2 loaded found, code,
        fun other d again made => plan_version content root other 2 d loaded found again made⟩⟩
      rcases code p fails with mismatch | unconfigured
      · rw [mismatch]
        decide
      · rw [unconfigured]
        decide

def barePlan : Fields :=
  .cons [] metadataKey false [] (.dict (.cons [] "FormatVersion" false [] (.integer 2) .nil) [] false) .nil

theorem bare_plan_detected : detect (pageOf barePlan).bytes = .ok 2 := by
  rw [detect, load_page_of barePlan rfl]
  rfl

theorem bare_pages_switch :
    decode [1, 3, 2] bareFirstPage.bytes = .error (.escape (.unknownVersions [3])) ∧
      decode [2] bareFirstPage.bytes = .error (.problem (.unsupportedVersion 1 [2])) ∧
      SingleOutcome bareFirstPage.bytes (decode [1, 2] bareFirstPage.bytes) ∧
      PlanOutcome (decode [2] (pageOf barePlan).bytes) := by
  have one : Numeral.Short 1 := (Numeral.short_iff 1).mpr (by decide)
  have strange := (decoding_switches_on_version [1, 3, 2] bareFirstPage.bytes).1 ⟨3, by simp, by decide, by decide⟩
  have refused := (decoding_switches_on_version [2] bareFirstPage.bytes).2 (by decide)
  have single := (decoding_switches_on_version [1, 2] bareFirstPage.bytes).2 (by decide)
  have plan := (decoding_switches_on_version [2] (pageOf barePlan).bytes).2 (by decide)
  refine ⟨strange.1, ((refused.2 1 bare_first_detected).1 (by decide) one).1, ?_, ?_⟩
  · obtain ⟨-, ⟨-, -, outcome, -⟩ | ⟨two, -⟩⟩ := (single.2 1 bare_first_detected).2 (by decide)
    · exact outcome
    · cases two
  · obtain ⟨-, ⟨one, -⟩ | ⟨-, -, outcome, -⟩⟩ := (plan.2 2 bare_plan_detected).2 (by decide)
    · cases one
    · exact outcome

theorem long_key_ends_decoding :
    detect (blockUnder longInteger).content = .ok 1 ∧ (1 : Int) ∈ ([1, 2] : List Int) ∧
      decode [1, 2] (blockUnder longInteger).content = .error (.escape .integerTooLong) := by
  have detected := block_detected longInteger long_integer_length
  refine ⟨detected, by simp, ?_⟩
  rw [decode_accepted [1, 2] _ 1 (by decide) detected (by simp)]
  exact long_block_escapes

end TestRun.Format
