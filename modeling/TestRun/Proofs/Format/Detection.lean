import TestRun.Proofs.Format.IntegerKey
import TestRun.Proofs.Markup.Checking
import TestRun.Proofs.Schema.Zero

/-! What the version of a document depends on: whether there is a metadata block, whether it is a dictionary, and what
it has under one key. -/

set_option autoImplicit false

namespace TestRun.Format

open Plist.Written (Fields pageOf load_page_of)

inductive SameBlock : Option Value → Option Value → Prop where
  | absent : SameBlock none none
  | strange (v w : Value) (first : ∀ block, v ≠ .dict block) (second : ∀ block, w ≠ .dict block) :
      SameBlock (some v) (some w)
  | block (a b : Entries) (same : Entries.get? "FormatVersion" a = Entries.get? "FormatVersion" b) :
      SameBlock (some (.dict a)) (some (.dict b))

def inVersion (i : Schema.Issue) : Schema.Issue := (i.under (.key "FormatVersion")).under (.key metadataKey)

theorem version_absent (root : Entries) (absent : Entries.get? metadataKey root = none) : version root = .ok 0 :=
  Schema.field_absent metadataKey 0 metadata root absent

theorem version_strange (root : Entries) (v : Value) (present : Entries.get? metadataKey root = some v)
    (strange : ∀ block, v ≠ .dict block) : version root = .bad [⟨[.key metadataKey], .modelType⟩] := by
  rw [version, Schema.field_present metadataKey 0 metadata root v present]
  cases v with
  | dict block => exact absurd rfl (strange block)
  | _ => rfl

theorem version_block (root block : Entries) (present : Entries.get? metadataKey root = some (.dict block)) :
    version root = (Schema.field "FormatVersion" 0 Schema.integer block).under (.key metadataKey) :=
  Schema.field_present metadataKey 0 metadata root _ present

theorem version_told (root block : Entries) (v : Value) (present : Entries.get? metadataKey root = some (.dict block))
    (told : Entries.get? "FormatVersion" block = some v) :
    version root = match Schema.integer v with
      | .ok i => .ok i
      | .bad issues => .bad (issues.map inVersion) := by
  rw [version_block root block present, Schema.field_present _ _ _ block v told]
  cases Schema.integer v with
  | ok i => rfl
  | bad issues => simp [Schema.Checked.under, inVersion]

theorem version_same (r s : Entries) (same : SameBlock (Entries.get? metadataKey r) (Entries.get? metadataKey s)) :
    version r = version s := by
  cases inFirst : Entries.get? metadataKey r <;> cases inSecond : Entries.get? metadataKey s <;>
    rw [inFirst, inSecond] at same
  · rw [version_absent r inFirst, version_absent s inSecond]
  · cases same
  · cases same
  · cases same with
    | strange _ _ first second => rw [version_strange r _ inFirst first, version_strange s _ inSecond second]
    | block a b agrees =>
        rw [version_block r a inFirst, version_block s b inSecond, Schema.field, Schema.field, agrees]

theorem version_zero_iff (root : Entries) :
    version root = .ok 0 ↔ Entries.get? metadataKey root = none ∨
      ∃ block, Entries.get? metadataKey root = some (.dict block) ∧
        (Entries.get? "FormatVersion" block = none ∨
          ∃ v, Entries.get? "FormatVersion" block = some v ∧ Schema.CountsAsZero v) := by
  constructor
  · intro zero
    cases present : Entries.get? metadataKey root with
    | none => exact .inl rfl
    | some held =>
        cases held with
        | dict block =>
            refine .inr ⟨block, rfl, ?_⟩
            rw [version_block root block present, Schema.Checked.under_ok_iff] at zero
            cases told : Entries.get? "FormatVersion" block with
            | none => exact .inl rfl
            | some v =>
                rw [Schema.field_present _ _ _ block v told, Schema.Checked.under_ok_iff] at zero
                exact .inr ⟨v, rfl, (Schema.integer_zero_iff v).mp zero⟩
        | _ =>
            rw [version_strange root _ present (by simp)] at zero
            cases zero
  · rintro (absent | ⟨block, present, untold | ⟨v, told, zero⟩⟩)
    · exact version_absent root absent
    · rw [version_block root block present, Schema.field_absent _ _ _ block untold, Schema.Checked.under]
    · rw [version_told root block v present told, (Schema.integer_zero_iff v).mpr zero]

theorem detect_root (content : List UInt8) (root : Entries) (loaded : Document.load content = .ok root) :
    detect content = match version root with
      | .ok v => .ok v
      | .bad issues => .error (.problem (.versionInvalid issues)) := by
  cases checked : version root <;> simp only [detect, loaded, checked]

theorem detection_reads_one_key (a b : List UInt8) (r s : Entries) (loaded : Document.load a = .ok r)
    (also : Document.load b = .ok s) (same : SameBlock (Entries.get? metadataKey r) (Entries.get? metadataKey s)) :
    detect a = detect b ∧
      ((∃ v, detect a = .ok v) ∨
        ∃ issues, detect a = .error (.problem (.versionInvalid issues)) ∧
          (Problem.versionInvalid issues).code = .malformedDocument ∧
          ∀ i ∈ issues, i.location.head? = some (.key metadataKey)) ∧
      (detect a = .ok 0 ↔ Entries.get? metadataKey r = none ∨
        ∃ block, Entries.get? metadataKey r = some (.dict block) ∧
          (Entries.get? "FormatVersion" block = none ∨
            ∃ v, Entries.get? "FormatVersion" block = some v ∧ Schema.CountsAsZero v)) ∧
      ∀ block v, Entries.get? metadataKey r = some (.dict block) → Entries.get? "FormatVersion" block = some v →
        (∀ i, Schema.integer v = .ok i → detect a = .ok i) ∧
          ∀ issues, Schema.integer v = .bad issues →
            detect a = .error (.problem (.versionInvalid (issues.map inVersion))) := by
  have found := detect_root a r loaded
  refine ⟨?_, ?_, ?_, fun block v present told => ?_⟩
  · rw [found, detect_root b s also, version_same r s same]
  · cases checked : version r with
    | ok v => exact .inl ⟨v, by rw [found, checked]⟩
    | bad issues =>
        refine .inr ⟨issues, by rw [found, checked], rfl, fun i member => ?_⟩
        exact Schema.field_located metadataKey 0 metadata r i (by
          rw [Schema.Checked.issues_bad (version r) issues checked] at member
          exact member)
  · rw [← version_zero_iff, found]
    cases version r <;> simp
  · have told := version_told r block v present told
    refine ⟨fun i whole => ?_, fun issues invalid => ?_⟩
    · rw [found, told, whole]
    · rw [found, told, invalid]

def strangePage : Fields :=
  .cons [] "format_version" false [] (.integer 2)
    (.cons [] "TestConfigurations" false [] (.integer 5)
      (.cons [] metadataKey false [] (.dict (.cons [] "format_version" false [] (.integer 7)
        (.cons [] "FormatVersion" false [] (.integer 1) .nil)) [] false)
        (.cons [] "Runner" false [] (.dict (.cons [] "TestHostBundleIdentifier" false [] (.integer 1) .nil) [] false) .nil)))

theorem strange_documents_are_detected :
    detect (blockUnder longInteger).content = detect (pageOf strangePage).bytes ∧
      detect (pageOf strangePage).bytes = .ok 1 ∧
      SingleTarget.parse (blockUnder longInteger).content = .error (.escape .integerTooLong) ∧
      (∃ issues, SingleTarget.parse (pageOf strangePage).bytes = .error (.problem (.targetInvalid "Runner" issues))) ∧
      ∃ issues, PlanDocument.parse (pageOf strangePage).bytes = .error (.problem (.documentInvalid issues)) := by
  have markup := load_page_of strangePage rfl
  have binary := block_loads longInteger long_integer_length
  obtain ⟨same, -, -, -⟩ := detection_reads_one_key _ _ _ _ binary markup (.block _ _ rfl)
  obtain ⟨-, -, -, decides⟩ := detection_reads_one_key _ _ _ _ markup markup (.block _ _ rfl)
  refine ⟨same, (decides _ (.int 1) rfl rfl).1 1 rfl, long_block_escapes, ?_, ?_⟩
  · refine ⟨[⟨[.key "TestHostBundleIdentifier"], .stringType⟩], ?_⟩
    rw [SingleTarget.parse, markup]
    rfl
  · refine ⟨[⟨[.key "TestConfigurations"], .listType⟩], ?_⟩
    rw [PlanDocument.parse, markup]
    rfl

end TestRun.Format
