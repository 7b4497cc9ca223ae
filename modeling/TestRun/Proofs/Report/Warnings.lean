import TestRun.Proofs.Config.Lookup
import TestRun.Proofs.Markup.Checking
import TestRun.Proofs.Report.Escapes

/-! Warnings are about the builds to come. -/

set_option autoImplicit false

namespace TestRun

open Plist.Written (Fields Element Items pageOf)

namespace Report

def lostTargets (apps : Inventory) (targets : List TestTarget) : List (TestTarget × Nat) :=
  targets.zipIdx.filter fun e => e.1.Lost apps

def lostWarning (e : TestTarget × Nat) : Remark :=
  ⟨.appNotFound, "app " ++ e.1.wanted ++ " not found", some e.2, some e.1.wanted⟩

theorem missing_apps (apps : Inventory) (index : Nat) (targets : List TestTarget) :
    missingApps apps index targets = ((targets.zipIdx index).filter fun e => e.1.Lost apps).map lostWarning := by
  induction targets generalizing index with
  | nil => rfl
  | cons t rest ih =>
      have lost := t.lost_iff apps
      rw [List.zipIdx_cons, missingApps, ih]
      by_cases absent : t.Lost apps
      · have warned : (t.isInterfaceTest && (apps.find? t.targetPath).isNone) = true := by
          simpa using lost.mp absent
        rw [if_pos warned, List.filter_cons_of_pos (by simpa using absent)]
        rfl
      · have silent : ¬ (t.isInterfaceTest && (apps.find? t.targetPath).isNone) = true := by
          simpa using mt lost.mpr absent
        rw [if_neg silent, List.filter_cons_of_neg (by simpa using absent)]

theorem warnings_listed (apps : Inventory) (targets : List TestTarget) :
    warningsOf (some apps) targets =
      if targets = [] then [noTargets] else (lostTargets apps targets).map lostWarning := by
  cases targets with
  | nil => rfl
  | cons t rest => simp [warningsOf, missing_apps, lostTargets]

theorem warnings_unlisted (targets : List TestTarget) :
    warningsOf none targets = if targets = [] then [noTargets] else [] := by
  cases targets <;> simp [warningsOf]

theorem lost_targets_first (apps : Inventory) (targets : List TestTarget) :
    ((lostTargets apps targets).head?).map Prod.fst = targets.find? fun t => t.Lost apps := by
  have places : targets = targets.zipIdx.map Prod.fst := by simp
  conv => rhs; rw [places, List.find?_map]
  rw [lostTargets, List.head?_filter]
  rfl

theorem first_lost_warning (apps : Inventory) (targets : List TestTarget) :
    (warningsOf (some apps) targets).find? (fun w => w.code = .appNotFound) =
      (lostTargets apps targets).head?.map lostWarning := by
  rw [warnings_listed]
  cases targets with
  | nil => rfl
  | cons t rest =>
      rw [if_neg (List.cons_ne_nil t rest), List.find?_map]
      cases lostTargets apps (t :: rest) <;> rfl

theorem lost_at (apps : Inventory) (targets : List TestTarget) (i : Nat) (t : TestTarget) (there : targets[i]? = some t) :
    (∃ w ∈ warningsOf (some apps) targets, w.index = some i) ↔ t.Lost apps := by
  have some : targets ≠ [] := by
    rintro rfl
    cases there
  rw [warnings_listed, if_neg some]
  constructor
  · rintro ⟨w, listed, place⟩
    obtain ⟨⟨other, n⟩, member, rfl⟩ := List.mem_map.mp listed
    obtain ⟨inside, lost⟩ := List.mem_filter.mp member
    obtain rfl : n = i := Option.some.inj place
    have same := (List.mk_mem_zipIdx_iff_getElem?.mp inside).symm.trans there
    rw [← Option.some.inj same]
    simpa using lost
  · intro lost
    have member : (t, i) ∈ lostTargets apps targets :=
      List.mem_filter.mpr ⟨List.mk_mem_zipIdx_iff_getElem?.mpr there, by simpa using lost⟩
    exact ⟨lostWarning (t, i), List.mem_map_of_mem member, rfl⟩

end Report

open TestConfig (buildAll)

theorem strict_fails_iff (session : Session) (apps : Inventory) (targets : List TestTarget) (p : Problem) :
    buildAll session (some apps) true targets = .error p ↔
      ∃ w name, (Report.warningsOf (some apps) targets).find? (fun w => w.code = .appNotFound) = some w ∧
        w.appName = some name ∧ p = .appNotFound name ∧ p.message = w.message := by
  rw [TestConfig.build_all_strict, Report.first_lost_warning, ← Report.lost_targets_first]
  cases Report.lostTargets apps targets with
  | nil => simp [TestConfig.build_all_lenient]
  | cons e rest =>
      simp only [List.head?_cons, Option.map_some, Except.error.injEq, Option.some.injEq]
      constructor
      · rintro rfl
        exact ⟨_, e.1.wanted, rfl, rfl, rfl, rfl⟩
      · rintro ⟨w, name, rfl, same, rfl, -⟩
        rw [Option.some.inj same]

theorem silent_builds_alike (session : Session) (apps : Inventory) (targets : List TestTarget)
    (silent : ∀ w ∈ Report.warningsOf (some apps) targets, w.code ≠ .appNotFound) :
    buildAll session (some apps) true targets = buildAll session (some apps) false targets := by
  have none : (Report.warningsOf (some apps) targets).find? (fun w => w.code = .appNotFound) = none := by
    simpa using silent
  rw [Report.first_lost_warning, Option.map_eq_none_iff] at none
  rw [TestConfig.build_all_strict, ← Report.lost_targets_first, none]
  rfl

theorem warned_or_plain_unnamed (session : Session) (apps : Inventory) (targets : List TestTarget) (i : Nat)
    (t : TestTarget) (there : targets[i]? = some t)
    (either : (∃ w ∈ Report.warningsOf (some apps) targets, w.index = some i) ∨ t.isInterfaceTest = false) :
    (TestConfig.ofTarget session t (t.identifierIn apps)).bundleIdentifier = "" := by
  rcases either with listed | plain
  · exact t.identifier_of_lost apps ((Report.lost_at apps targets i t there).mp listed)
  · simp [TestConfig.ofTarget, TestTarget.identifierIn, plain]

theorem unwarned_named (session : Session) (apps : Inventory) (targets : List TestTarget) (i : Nat)
    (t : TestTarget) (there : targets[i]? = some t) (driven : t.isInterfaceTest = true)
    (unwarned : ∀ w ∈ Report.warningsOf (some apps) targets, w.index ≠ some i) :
    ∃ app ∈ apps, app.displayName = .text t.wanted ∧
      (TestConfig.ofTarget session t (t.identifierIn apps)).bundleIdentifier = app.bundleIdentifier := by
  have kept : ¬ t.Lost apps := fun lost => by
    obtain ⟨w, listed, place⟩ := (Report.lost_at apps targets i t there).mpr lost
    exact unwarned w listed place
  obtain ⟨before, app, after, rfl, named, -, same⟩ := t.identifier_of_found apps driven kept
  exact ⟨app, by simp, named, same⟩

theorem warnings_predict_strict_build (supported : List Int) (content : List UInt8) (targets : List TestTarget)
    (session : Session) (known : ∀ v ∈ supported, v = 1 ∨ v = 2)
    (decoded : Format.decode supported content = .ok targets) :
    (∀ apps : Inventory, ∃ r, Report.ofContent supported (some apps) content = .ok r ∧
      r.warnings =
        (if targets = [] then [Report.noTargets]
        else (targets.zipIdx.filter fun e => e.1.Lost apps).map fun e =>
          ⟨.appNotFound, "app " ++ e.1.wanted ++ " not found", some e.2, some e.1.wanted⟩) ∧
      (∀ p, buildAll session (some apps) true targets = .error p ↔
        ∃ w name, r.warnings.find? (fun w => w.code = .appNotFound) = some w ∧ w.appName = some name ∧
          p = .appNotFound name ∧ p.message = w.message) ∧
      ((∀ w ∈ r.warnings, w.code ≠ .appNotFound) →
        ∃ configs, buildAll session (some apps) true targets = .ok configs ∧
          buildAll session (some apps) false targets = .ok configs) ∧
      ∃ configs, buildAll session (some apps) false targets = .ok configs ∧ configs.length = targets.length ∧
        ∀ (i : Nat) t config, targets[i]? = some t → configs[i]? = some config →
          ((∃ w ∈ r.warnings, w.index = some i) ∨ t.isInterfaceTest = false → config.bundleIdentifier = "") ∧
          ((∀ w ∈ r.warnings, w.index ≠ some i) → t.isInterfaceTest = true →
            ∃ app ∈ apps, app.displayName = .text t.wanted ∧ config.bundleIdentifier = app.bundleIdentifier)) ∧
    ∃ r, Report.ofContent supported none content = .ok r ∧
      r.warnings = (if targets = [] then [Report.noTargets] else []) ∧
      ∃ configs, buildAll session none true targets = .ok configs := by
  obtain ⟨version, -, detected⟩ := decode_detected supported content known targets decoded
  have made (apps : Option Inventory) := of_content_decoded supported apps content version detected targets decoded
  have lenient (apps : Inventory) := TestConfig.build_all_lenient session apps targets
  refine ⟨fun apps => ⟨_, made (some apps), Report.warnings_listed apps targets, strict_fails_iff session apps targets,
    fun silent => ?_, _, lenient apps, by simp, fun i t config there built => ?_⟩,
    _, made none, Report.warnings_unlisted targets, _, TestConfig.build_all_unlisted session true targets⟩
  · exact ⟨_, (silent_builds_alike session apps targets silent).trans (lenient apps), lenient apps⟩
  · obtain rfl : TestConfig.ofTarget session t (t.identifierIn apps) = config := by simpa [there] using built
    exact ⟨warned_or_plain_unnamed session apps targets i t there,
      fun unwarned driven => unwarned_named session apps targets i t there driven unwarned⟩

def drivingTarget (path : String) : Element :=
  .dict (.cons [] "IsUITestBundle" false [] (.switch true true)
    (.cons [] "UITargetAppPath" false [] (.text path false) .nil)) [] false

def drivingFields : Fields :=
  .cons [] Format.metadataKey false [] (.dict (.cons [] "FormatVersion" false [] (.integer 2) .nil) [] false)
    (.cons [] "TestConfigurations" false []
      (.array (.cons [] (.dict (.cons [] "TestTargets" false []
        (.array (.cons [] (drivingTarget "Debug/Here.app") (.cons [] (.dict .nil [] true)
          (.cons [] (drivingTarget "Debug/Gone.app/") .nil))) [] false) .nil) [] false) .nil) [] false) .nil)

def drivingTargets : List TestTarget :=
  let plain : TestTarget := ⟨"", "", [], [], false, [], [], [], none, none⟩
  let driving := { plain with isInterfaceTest := true }
  [{ driving with appBundlePath := some "Debug/Here.app" }, plain,
    { driving with appBundlePath := some "Debug/Gone.app/" }]

theorem driving_decoded : Format.decode [1, 2] (pageOf drivingFields).bytes = .ok drivingTargets := by
  have loaded := Plist.Written.load_page_of drivingFields rfl
  have detected : Format.detect (pageOf drivingFields).bytes = .ok 2 := by
    rw [Format.detect, loaded]
    rfl
  rw [decode_known [1, 2] _ (by decide), detected]
  dsimp only
  rw [if_pos (by decide), Format.decoder, if_neg (by decide), Format.PlanDocument.parse, loaded]
  rfl

theorem gone_app_is_predicted :
    Format.decode [1, 2] (pageOf drivingFields).bytes = .ok drivingTargets ∧
      ∃ r, Report.ofContent [1, 2] (some [⟨"Here", "com.here"⟩]) (pageOf drivingFields).bytes = .ok r ∧
        r.warnings = [⟨.appNotFound, "app Gone not found", some 2, some "Gone"⟩] ∧
        buildAll ⟨.null, .null⟩ (some [⟨"Here", "com.here"⟩]) true drivingTargets = .error (.appNotFound "Gone") := by
  have predicted := (warnings_predict_strict_build [1, 2] (pageOf drivingFields).bytes drivingTargets ⟨.null, .null⟩
    (by decide) driving_decoded).1 [⟨"Here", "com.here"⟩]
  obtain ⟨r, made, warnings, strict, -, -⟩ := predicted
  have listed : r.warnings = [⟨.appNotFound, "app Gone not found", some 2, some "Gone"⟩] := by
    rw [warnings]
    decide
  refine ⟨driving_decoded, r, made, listed, (strict _).mpr ⟨_, "Gone", by rw [listed]; rfl, rfl, rfl, rfl⟩⟩

end TestRun
