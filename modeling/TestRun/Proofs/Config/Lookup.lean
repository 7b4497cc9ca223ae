import TestRun.TestConfig

/-! What is looked up for a config. -/

set_option autoImplicit false

namespace TestRun

theorem Inventory.search_first (name : String) (apps : Inventory) :
    (apps.search name).1 = List.find? (fun app => app.displayName = .text name) apps := by
  induction apps with
  | nil => rfl
  | cons app rest ih =>
      by_cases same : app.displayName = .text name
      · simp [search, same]
      · simp [search, same, ih]

theorem Inventory.find_first (apps : Inventory) (path : String) :
    apps.find? path =
      (List.find? (fun app => app.displayName = .text (BundlePath.appName path)) apps).map App.bundleIdentifier := by
  rw [find?, search_first]

namespace TestTarget

def wanted (t : TestTarget) : String := BundlePath.appName t.targetPath

def Lost (apps : Inventory) (t : TestTarget) : Prop :=
  t.isInterfaceTest = true ∧ ∀ app ∈ apps, app.displayName ≠ .text t.wanted

instance (apps : Inventory) (t : TestTarget) : Decidable (t.Lost apps) :=
  inferInstanceAs (Decidable (_ ∧ _))

def identifierIn (apps : Inventory) (t : TestTarget) : Wording :=
  if t.isInterfaceTest then (apps.find? t.targetPath).getD "" else ""

theorem lost_iff (apps : Inventory) (t : TestTarget) :
    t.Lost apps ↔ t.isInterfaceTest = true ∧ apps.find? t.targetPath = none := by
  simp [Lost, wanted, Inventory.find_first]

theorem identifier_of_lost (apps : Inventory) (t : TestTarget) (lost : t.Lost apps) : t.identifierIn apps = "" := by
  obtain ⟨driven, absent⟩ := (t.lost_iff apps).mp lost
  simp [identifierIn, driven, absent]

theorem identifier_of_found (apps : Inventory) (t : TestTarget) (driven : t.isInterfaceTest = true)
    (there : ¬ t.Lost apps) :
    ∃ before app after, apps = before ++ app :: after ∧ app.displayName = .text t.wanted ∧
      (∀ other ∈ before, other.displayName ≠ .text t.wanted) ∧ t.identifierIn apps = app.bundleIdentifier := by
  cases found : List.find? (fun app => app.displayName = .text t.wanted) apps with
  | none => exact absurd ⟨driven, by simpa using found⟩ there
  | some app =>
      obtain ⟨named, before, after, parts, first⟩ := List.find?_eq_some_iff_append.mp found
      have identifier : apps.find? t.targetPath = some app.bundleIdentifier := by
        rw [Inventory.find_first]
        exact congrArg (Option.map App.bundleIdentifier) found
      refine ⟨before, app, after, parts, by simpa using named, by simpa using first, ?_⟩
      simp [identifierIn, driven, identifier]

end TestTarget

namespace TestConfig

theorem app_identifier (apps : Inventory) (strict : Bool) (t : TestTarget) :
    appIdentifier (some apps) strict t =
      if strict = true ∧ t.Lost apps then .error (.appNotFound t.wanted) else .ok (t.identifierIn apps) := by
  have lost := t.lost_iff apps
  by_cases driven : t.isInterfaceTest = true
  · cases found : apps.find? t.targetPath <;> cases strict <;>
      simp [appIdentifier, lookup?, Inventory.get, TestTarget.identifierIn, TestTarget.wanted, lost, driven, found]
  · simp [appIdentifier, lookup?, TestTarget.identifierIn, lost, driven]

theorem build_all_ok (session : Session) (apps : Option Inventory) (strict : Bool) (id : TestTarget → Wording)
    (targets : List TestTarget) (found : ∀ t ∈ targets, appIdentifier apps strict t = .ok (id t)) :
    buildAll session apps strict targets = .ok (targets.map fun t => ofTarget session t (id t)) := by
  induction targets with
  | nil => rfl
  | cons t rest ih =>
      have head := found t (by simp)
      have tail := ih fun other member => found other (List.mem_cons_of_mem _ member)
      rw [buildAll, build, head, tail]
      rfl

theorem build_all_error (session : Session) (apps : Option Inventory) (strict : Bool) (id : TestTarget → Wording)
    (before : List TestTarget) (t : TestTarget) (after : List TestTarget) (p : Problem)
    (found : ∀ t ∈ before, appIdentifier apps strict t = .ok (id t)) (fails : appIdentifier apps strict t = .error p) :
    buildAll session apps strict (before ++ t :: after) = .error p := by
  induction before with
  | nil =>
      rw [List.nil_append, buildAll, build, fails]
      rfl
  | cons first rest ih =>
      have head := found first (by simp)
      have tail := ih fun other member => found other (List.mem_cons_of_mem _ member)
      rw [List.cons_append, buildAll, build, head, tail]
      rfl

theorem build_all_lenient (session : Session) (apps : Inventory) (targets : List TestTarget) :
    buildAll session (some apps) false targets =
      .ok (targets.map fun t => ofTarget session t (t.identifierIn apps)) := by
  apply build_all_ok
  intro t _
  rw [app_identifier, if_neg (by simp)]

theorem build_all_strict (session : Session) (apps : Inventory) (targets : List TestTarget) :
    buildAll session (some apps) true targets =
      match targets.find? fun t => t.Lost apps with
      | some t => .error (.appNotFound t.wanted)
      | none => buildAll session (some apps) false targets := by
  have there (t : TestTarget) (kept : ¬ t.Lost apps) : appIdentifier (some apps) true t = .ok (t.identifierIn apps) := by
    rw [app_identifier, if_neg fun both => kept both.2]
  cases found : targets.find? fun t => t.Lost apps with
  | none =>
      have all : ∀ t ∈ targets, ¬ t.Lost apps := by simpa using found
      rw [build_all_lenient, build_all_ok session _ true _ targets fun t member => there t (all t member)]
  | some t =>
      obtain ⟨lost, before, after, rfl, kept⟩ := List.find?_eq_some_iff_append.mp found
      refine build_all_error session _ true _ before t after _ (fun other member => there other ?_) ?_
      · simpa using kept other member
      · rw [app_identifier, if_pos ⟨rfl, by simpa using lost⟩]

theorem build_all_unlisted (session : Session) (strict : Bool) (targets : List TestTarget) :
    buildAll session none strict targets = .ok (targets.map fun t => ofTarget session t "") := by
  apply build_all_ok
  intro t _
  cases driven : t.isInterfaceTest <;> simp [appIdentifier, lookup?, driven]

theorem build_all_length (session : Session) (apps : Option Inventory) (strict : Bool) (targets : List TestTarget)
    (configs : List TestConfig) (built : buildAll session apps strict targets = .ok configs) :
    configs.length = targets.length := by
  cases apps with
  | none =>
      rw [build_all_unlisted] at built
      rw [← Except.ok.inj built, List.length_map]
  | some apps =>
      have lenient (built : buildAll session (some apps) false targets = .ok configs) : configs.length = targets.length := by
        rw [build_all_lenient] at built
        rw [← Except.ok.inj built, List.length_map]
      cases strict with
      | false => exact lenient built
      | true =>
          rw [build_all_strict] at built
          cases found : targets.find? fun t => t.Lost apps with
          | some t =>
              rw [found] at built
              cases built
          | none =>
              rw [found] at built
              exact lenient built

end TestConfig
end TestRun
