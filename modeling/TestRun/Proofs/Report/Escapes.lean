import Mathlib.Control.Monad.Basic
import TestRun.Proofs.Markup.Escaping
import TestRun.Proofs.Number.Decimal
import TestRun.Report

/-! What no report lists. -/

set_option autoImplicit false

namespace TestRun

open Plist (StraysOutside DeclaresUnknown)

theorem of_plist_escape_iff (f : Plist.Fault) (e : Escape) :
    Failure.ofPlist f = .escape e ↔
      (e = .outsideContainer ∧ f = .outsideContainer) ∨ (e = .unknownEncoding ∧ f = .unknownEncoding) := by
  unfold Failure.ofPlist
  split
  · simp [eq_comm]
  · simp [eq_comm]
  · rename_i noPlace noEncoding
    refine iff_of_false (fun same => by cases same) ?_
    rintro (⟨-, same⟩ | ⟨-, same⟩)
    · exact noPlace same
    · exact noEncoding same

theorem of_plist_problem (f : Plist.Fault) (p : Problem) (listed : Failure.ofPlist f = .problem p) :
    p = .notPropertyList f := by
  unfold Failure.ofPlist at listed
  split at listed <;> cases listed
  rfl

theorem of_root_error (root : Value) (f : Failure) (failed : Document.ofRoot root = .error f) :
    ∃ kind, f = .problem (.notDictionary kind) := by
  unfold Document.ofRoot at failed
  split at failed
  · cases failed
  · exact ⟨_, (Except.error.inj failed).symm⟩

theorem load_escape_iff (content : List UInt8) (e : Escape) :
    Document.load content = .error (.escape e) ↔
      (e = .outsideContainer ∧ StraysOutside content) ∨ (e = .unknownEncoding ∧ DeclaresUnknown content) := by
  rw [← Plist.read_outside_iff, ← Plist.read_unknown_iff, Document.load]
  cases read : Plist.read content with
  | ok root =>
      refine iff_of_false (fun failed => ?_) (by simp)
      obtain ⟨kind, same⟩ := of_root_error _ _ failed
      cases same
  | error f => simpa using of_plist_escape_iff f e

theorem load_problem (content : List UInt8) (p : Problem) (failed : Document.load content = .error (.problem p)) :
    p.code = .malformedDocument := by
  unfold Document.load at failed
  split at failed
  · obtain ⟨kind, same⟩ := of_root_error _ _ failed
    cases same
    rfl
  · rw [of_plist_problem _ p (Except.error.inj failed)]
    rfl

theorem detect_escape_iff (content : List UInt8) (e : Escape) :
    Format.detect content = .error (.escape e) ↔
      (e = .outsideContainer ∧ StraysOutside content) ∨ (e = .unknownEncoding ∧ DeclaresUnknown content) := by
  rw [← load_escape_iff, Format.detect]
  cases Document.load content with
  | error f => simp
  | ok root =>
      dsimp only
      cases Format.version root <;> simp

theorem detect_problem (content : List UInt8) (p : Problem) (failed : Format.detect content = .error (.problem p)) :
    p.code = .malformedDocument := by
  unfold Format.detect at failed
  split at failed
  · rename_i f loaded
    rw [Except.error.inj failed] at loaded
    exact load_problem content p loaded
  · split at failed
    · cases failed
    · cases failed
      rfl

theorem detect_loaded (content : List UInt8) (version : Int) (detected : Format.detect content = .ok version) :
    ∃ root, Document.load content = .ok root := by
  unfold Format.detect at detected
  split at detected
  · cases detected
  · exact ⟨_, by assumption⟩

def NamelessTarget (content : List UInt8) : Prop :=
  ∃ root key block issues, Document.load content = .ok root ∧
    Format.SingleTarget.select? root = some (key, block) ∧ TestTarget.ofEntries block = .bad issues ∧
    key.display? = none

theorem single_target_escape_iff (root : Entries) (e : Escape) :
    Format.SingleTarget.ofRoot root = .error (.escape e) ↔
      e = .integerTooLong ∧ ∃ key block issues, Format.SingleTarget.select? root = some (key, block) ∧
        TestTarget.ofEntries block = .bad issues ∧ key.display? = none := by
  unfold Format.SingleTarget.ofRoot
  cases Format.SingleTarget.select? root with
  | none => simp
  | some found =>
      obtain ⟨key, block⟩ := found
      dsimp only
      cases checked : TestTarget.ofEntries block with
      | ok target => simp [checked]
      | bad issues =>
          cases name : key.display? with
          | none =>
              have escapes : Format.SingleTarget.failure key issues = .escape .integerTooLong := by
                rw [Format.SingleTarget.failure, name]
              simp only [escapes, Except.error.injEq, Failure.escape.injEq]
              exact ⟨fun same => ⟨same.symm, key, block, issues, rfl, checked, name⟩, fun both => both.1.symm⟩
          | some text => simp [Format.SingleTarget.failure, name, checked]

theorem test_plan_no_escape (root : Entries) (e : Escape) :
    Format.PlanDocument.targetsOfRoot root ≠ .error (.escape e) := by
  unfold Format.PlanDocument.targetsOfRoot
  split
  · unfold Format.PlanDocument.targets
    split <;> simp
  · simp

theorem decoder_escape_iff (version : Int) (content : List UInt8) (e : Escape) (root : Entries)
    (loaded : Document.load content = .ok root) :
    Format.decoder version content = .error (.escape e) ↔
      version = 1 ∧ e = .integerTooLong ∧ NamelessTarget content := by
  unfold Format.decoder
  by_cases first : version = 1
  · have single := single_target_escape_iff root e
    rw [if_pos first, Format.SingleTarget.parse, loaded]
    simpa [Bind.bind, Except.bind, first, NamelessTarget, loaded] using single
  · rw [if_neg first, Format.PlanDocument.parse, loaded]
    exact iff_of_false (test_plan_no_escape root e) fun both => first both.1

theorem unsupported_escape_iff (version : Int) (supported : List Int) (e : Escape) :
    Format.unsupported version supported = .escape e ↔ e = .integerTooLong ∧ ¬ Numeral.Short version := by
  rw [← Numeral.writable_iff, Format.unsupported, Numeral.isWritable]
  by_cases written : (Numeral.integerText? version).isSome = true
  · simp [written]
  · rw [if_neg written]
    simp [written, eq_comm]

def told (content : List UInt8) (p : Problem) : Option Int :=
  match p with
  | .unsupportedVersion version _ => some version
  | _ =>
      match Format.detect content with
      | .ok version => some version
      | .error _ => none

def failedReport (content : List UInt8) (p : Problem) : Report := ⟨told content p, 0, [⟨p.code, p.message, none, none⟩], []⟩

def failureReport (content : List UInt8) : Failure → Except Escape Report
  | .problem p => .ok (failedReport content p)
  | .escape e => .error e

theorem of_problem_detected (version : Int) (content : List UInt8) (detected : Format.detect content = .ok version)
    (p : Problem) : Report.ofProblem (some version) p = failedReport content p := by
  cases p <;> simp only [Report.ofProblem, failedReport, told, detected]

theorem of_problem_undetected (content : List UInt8) (f : Failure) (undetected : Format.detect content = .error f)
    (p : Problem) : Report.ofProblem none p = failedReport content p := by
  cases p <;> simp only [Report.ofProblem, failedReport, told, undetected]

theorem unknown_none (supported : List Int) (known : ∀ v ∈ supported, v = 1 ∨ v = 2) :
    (supported.filter fun v => !Format.knownVersions.contains v) = [] := by
  apply List.filter_eq_nil_iff.mpr
  intro v member
  rcases known v member with rfl | rfl <;> decide

theorem decode_known (supported : List Int) (content : List UInt8) (known : ∀ v ∈ supported, v = 1 ∨ v = 2) :
    Format.decode supported content =
      match Format.detect content with
      | .error f => .error f
      | .ok version =>
          if supported.contains version then Format.decoder version content
          else .error (Format.unsupported version supported) := by
  have none := unknown_none supported known
  unfold Format.decode
  split
  · rfl
  · rename_i some
    exact (some none).elim

theorem of_content_failed (supported : List Int) (apps : Option Inventory) (content : List UInt8)
    (known : ∀ v ∈ supported, v = 1 ∨ v = 2) (f : Failure) (fails : Format.decode supported content = .error f) :
    Report.ofContent supported apps content = failureReport content f := by
  unfold Report.ofContent
  cases detected : Format.detect content with
  | error g =>
      rw [decode_known supported content known, detected] at fails
      obtain rfl : g = f := Except.error.inj fails
      cases g with
      | escape e => rfl
      | problem p => exact congrArg Except.ok (of_problem_undetected content _ detected p)
  | ok version =>
      dsimp only
      rw [fails]
      cases f with
      | escape e => rfl
      | problem p => exact congrArg Except.ok (of_problem_detected version content detected p)

theorem of_content_decoded (supported : List Int) (apps : Option Inventory) (content : List UInt8) (version : Int)
    (detected : Format.detect content = .ok version) (targets : List TestTarget)
    (decoded : Format.decode supported content = .ok targets) :
    Report.ofContent supported apps content =
      .ok ⟨some version, targets.length, [], Report.warningsOf apps targets⟩ := by
  rw [Report.ofContent, detected]
  dsimp only
  rw [decoded]

theorem decode_detected (supported : List Int) (content : List UInt8) (known : ∀ v ∈ supported, v = 1 ∨ v = 2)
    (targets : List TestTarget) (decoded : Format.decode supported content = .ok targets) :
    ∃ version ∈ supported, Format.detect content = .ok version := by
  rw [decode_known supported content known] at decoded
  cases detected : Format.detect content with
  | error f =>
      rw [detected] at decoded
      cases decoded
  | ok version =>
      rw [detected] at decoded
      dsimp only at decoded
      split at decoded
      · rename_i member
        exact ⟨version, List.contains_iff_mem.mp member, rfl⟩
      · cases decoded

def strayKey : List UInt8 := Plist.ascii "<plist><key>a</key></plist>"

theorem stray_key_undetected : Format.detect strayKey = .error (.escape .outsideContainer) := by
  decide +kernel

end TestRun
