import TestRun.Proofs.Markup.Loading
import TestRun.Proofs.Report.Escapes

/-! Reporting on a document and decoding it. -/

set_option autoImplicit false

namespace TestRun

def unknownOf (supported : List Int) : List Int := supported.filter fun v => !Format.knownVersions.contains v

theorem unknown_of_cons (supported : List Int) (strange : ∃ v ∈ supported, v ≠ 1 ∧ v ≠ 2) :
    unknownOf supported ≠ [] := by
  obtain ⟨v, member, noFirst, noSecond⟩ := strange
  intro empty
  have known := List.filter_eq_nil_iff.mp empty v member
  simp [Format.knownVersions, noFirst, noSecond] at known

theorem decode_unknown (supported : List Int) (content : List UInt8) (strange : ∃ v ∈ supported, v ≠ 1 ∧ v ≠ 2) :
    Format.decode supported content = .error (.escape (.unknownVersions (unknownOf supported))) := by
  unfold Format.decode
  split
  · rename_i none
    exact absurd none (unknown_of_cons supported strange)
  · rfl

theorem of_content_unknown (supported : List Int) (apps : Option Inventory) (content : List UInt8)
    (strange : ∃ v ∈ supported, v ≠ 1 ∧ v ≠ 2) :
    Report.ofContent supported apps content =
      match Format.detect content with
      | .ok _ => .error (.unknownVersions (unknownOf supported))
      | .error f => failureReport content f := by
  unfold Report.ofContent
  rw [decode_unknown supported content strange]
  cases detected : Format.detect content with
  | ok version => rfl
  | error f =>
      cases f with
      | escape e => rfl
      | problem p => exact congrArg Except.ok (of_problem_undetected content _ detected p)

theorem report_agrees_with_decoding (supported : List Int) (apps : Option Inventory) (content : List UInt8) :
    ((∀ v ∈ supported, v = 1 ∨ v = 2) →
      (∀ targets, Format.decode supported content = .ok targets →
        ∃ version ∈ supported, Format.detect content = .ok version ∧
          ∃ r, Report.ofContent supported apps content = .ok r ∧
            r.isGood = true ∧ r.errors = [] ∧ r.count = targets.length ∧ r.version = some version) ∧
      (∀ p, Format.decode supported content = .error (.problem p) →
        ∃ r, Report.ofContent supported apps content = .ok r ∧
          r.isGood = false ∧ r.errors = [⟨p.code, p.message, none, none⟩] ∧ r.warnings = [] ∧ r.count = 0 ∧
          r.version = told content p) ∧
      (∀ e, Format.decode supported content = .error (.escape e) →
        Report.ofContent supported apps content = .error e)) ∧
    ((∃ v ∈ supported, v ≠ 1 ∧ v ≠ 2) →
      Format.decode supported content = .error (.escape (.unknownVersions (unknownOf supported))) ∧
      (∀ version, Format.detect content = .ok version →
        Report.ofContent supported apps content = .error (.unknownVersions (unknownOf supported))) ∧
      (∀ p, Format.detect content = .error (.problem p) →
        ∃ r, Report.ofContent supported apps content = .ok r ∧
          r.isGood = false ∧ r.errors = [⟨p.code, p.message, none, none⟩] ∧ r.warnings = [] ∧ r.count = 0 ∧
          r.version = none) ∧
      (∀ e, Format.detect content = .error (.escape e) ↔
        (e = .outsideContainer ∧ Plist.StraysOutside content) ∨ (e = .unknownEncoding ∧ Plist.DeclaresUnknown content)) ∧
      (∀ e, Format.detect content = .error (.escape e) → Report.ofContent supported apps content = .error e)) := by
  refine ⟨fun known => ⟨fun targets decoded => ?_, fun p fails => ?_, fun e fails => ?_⟩,
    fun strange => ⟨decode_unknown supported content strange, fun version detected => ?_, fun p undetected => ?_,
      detect_escape_iff content, fun e undetected => ?_⟩⟩
  · obtain ⟨version, member, detected⟩ := decode_detected supported content known targets decoded
    exact ⟨version, member, detected, _, of_content_decoded supported apps content version detected targets decoded,
      rfl, rfl, rfl, rfl⟩
  · exact ⟨_, of_content_failed supported apps content known _ fails, rfl, rfl, rfl, rfl, rfl⟩
  · exact of_content_failed supported apps content known _ fails
  · rw [of_content_unknown supported apps content strange, detected]
  · refine ⟨failedReport content p, ?_, rfl, rfl, rfl, rfl, ?_⟩
    · rw [of_content_unknown supported apps content strange, undetected]
      rfl
    · have malformed := detect_problem content p undetected
      cases p with
      | unsupportedVersion version supported => cases malformed
      | _ => simp [failedReport, told, undetected]
  · rw [of_content_unknown supported apps content strange, undetected]
    rfl

def bareFirstPage : Plist.Written.Page :=
  Plist.Written.pageOf (.cons [] Format.metadataKey false []
    (.dict (.cons [] "FormatVersion" false [] (.integer 1) .nil) [] false) .nil)

theorem bare_first_sound : bareFirstPage.Sound := by
  have gap : Plist.Written.Gap [] := by simp [Plist.Written.Gap]
  have version : Numeral.Short 1 := (Numeral.short_iff 1).mpr (by decide)
  exact ⟨by simp [bareFirstPage, Plist.Written.pageOf], gap, gap, gap,
    ⟨⟨gap, Plist.Written.readable_of_all Format.metadataKey.toList (by decide), gap,
      ⟨⟨gap, Plist.Written.readable_of_all "FormatVersion".toList (by decide), gap, version, trivial⟩, gap⟩, trivial⟩, gap⟩,
    gap, gap⟩

theorem bare_first_detected : Format.detect bareFirstPage.bytes = .ok 1 := by
  rw [Format.detect, Plist.Written.load_page bareFirstPage bare_first_sound]
  rfl

theorem bare_first_decoded : Format.decode [1, 2] bareFirstPage.bytes = .ok [] := by
  rw [decode_known [1, 2] _ (by decide), bare_first_detected]
  dsimp only
  rw [if_pos (by decide), Format.decoder, if_pos rfl, Format.SingleTarget.parse,
    Plist.Written.load_page bareFirstPage bare_first_sound]
  rfl

theorem reports_on_bare_first :
    (∃ r, Report.ofContent [1, 2] none bareFirstPage.bytes = .ok r ∧
      r.isGood = true ∧ r.errors = [] ∧ r.count = 0 ∧ r.version = some 1) ∧
    Report.ofContent [3] none bareFirstPage.bytes = .error (.unknownVersions [3]) := by
  have known := (report_agrees_with_decoding [1, 2] none bareFirstPage.bytes).1 (by decide)
  have strange := (report_agrees_with_decoding [3] none bareFirstPage.bytes).2 ⟨3, by simp, by decide, by decide⟩
  obtain ⟨version, -, detected, r, made, good, errors, count, shown⟩ := known.1 [] bare_first_decoded
  have first : version = 1 := Except.ok.inj (detected.symm.trans bare_first_detected)
  exact ⟨⟨r, made, good, errors, count, by rw [shown, first]⟩, strange.2.1 1 bare_first_detected⟩

theorem stray_key_ends_report :
    Format.decode [3] strayKey = .error (.escape (.unknownVersions [3])) ∧
      Format.detect strayKey = .error (.escape .outsideContainer) ∧
      Report.ofContent [3] none strayKey = .error .outsideContainer := by
  refine ⟨rfl, stray_key_undetected, ?_⟩
  rw [Report.ofContent, stray_key_undetected]
  rfl

end TestRun
