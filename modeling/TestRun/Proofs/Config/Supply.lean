import TestRun.Proofs.Config.Lookup
import TestRun.Supply

/-! Apps that can be looked at once only. -/

set_option autoImplicit false

namespace TestRun.Supply

variable (session : Session)

inductive Finds (name : String) : Inventory → Option App → Inventory → Prop where
  | first (before : Inventory) (app : App) (behind : Inventory) (named : app.displayName = .text name)
      (others : ∀ other ∈ before, other.displayName ≠ .text name) : Finds name (before ++ app :: behind) (some app) behind
  | nowhere (apps : Inventory) (others : ∀ other ∈ apps, other.displayName ≠ .text name) : Finds name apps none []

inductive Uses : Inventory → Request → Answer → Inventory → Prop where
  | find (apps behind : Inventory) (path : String) (found : Option App)
      (finds : Finds (BundlePath.appName path) apps found behind) :
      Uses apps (.find path) (.found (found.map App.bundleIdentifier)) behind
  | get (apps behind : Inventory) (path : String) (app : App)
      (finds : Finds (BundlePath.appName path) apps (some app) behind) :
      Uses apps (.get path) (.identifier app.bundleIdentifier) behind
  | getNothing (apps behind : Inventory) (path : String) (finds : Finds (BundlePath.appName path) apps none behind) :
      Uses apps (.get path) (.problem (.appNotFound (BundlePath.appName path))) behind
  | buildPlain (apps : Inventory) (strict : Bool) (t : TestTarget) (plain : t.isInterfaceTest = false) :
      Uses apps (.build strict t) (.config (TestConfig.ofTarget session t "")) apps
  | build (apps behind : Inventory) (strict : Bool) (t : TestTarget) (app : App) (driven : t.isInterfaceTest = true)
      (finds : Finds t.wanted apps (some app) behind) :
      Uses apps (.build strict t) (.config (TestConfig.ofTarget session t app.bundleIdentifier)) behind
  | buildLost (apps behind : Inventory) (t : TestTarget) (driven : t.isInterfaceTest = true)
      (finds : Finds t.wanted apps none behind) :
      Uses apps (.build false t) (.config (TestConfig.ofTarget session t "")) behind
  | buildRefused (apps behind : Inventory) (t : TestTarget) (driven : t.isInterfaceTest = true)
      (finds : Finds t.wanted apps none behind) : Uses apps (.build true t) (.problem (.appNotFound t.wanted)) behind
  | buildAll (apps : Inventory) (strict : Bool) (targets : List TestTarget) (configs : List TestConfig)
      (each : targets.map (TestConfig.build session (some apps) strict) = configs.map .ok) :
      Uses apps (.buildAll strict targets) (.configs configs) []
  | buildAllRefused (apps : Inventory) (strict : Bool) (before : List TestTarget) (t : TestTarget)
      (after : List TestTarget) (configs : List TestConfig) (p : Problem)
      (each : before.map (TestConfig.build session (some apps) strict) = configs.map .ok)
      (fails : TestConfig.build session (some apps) strict t = .error p) :
      Uses apps (.buildAll strict (before ++ t :: after)) (.problem p) []

def leaves (s : Supply) (requests : List Request) : Supply :=
  requests.foldl (fun s request => (s.answer session request).2) s

theorem search_finds (name : String) (apps : Inventory) : Finds name apps (apps.search name).1 (apps.search name).2 := by
  induction apps with
  | nil => exact .nowhere [] (by simp)
  | cons app rest ih =>
      by_cases same : app.displayName = .text name
      · rw [Inventory.search, if_pos same]
        exact .first [] app rest same (by simp)
      · rw [Inventory.search, if_neg same]
        generalize Inventory.search name rest = result at ih ⊢
        obtain ⟨found, behind⟩ := result
        cases ih with
        | first before hit behind named others =>
            exact .first (app :: before) hit behind named (List.forall_mem_cons.mpr ⟨same, others⟩)
        | nowhere _ others => exact .nowhere (app :: rest) (List.forall_mem_cons.mpr ⟨same, others⟩)

theorem plain_build (apps : Option Inventory) (strict : Bool) (t : TestTarget) (plain : t.isInterfaceTest = false) :
    TestConfig.build session apps strict t = .ok (TestConfig.ofTarget session t "") := by
  simp [TestConfig.build, TestConfig.appIdentifier, TestConfig.lookup?, plain, Except.map]

theorem driving_build (apps : Inventory) (strict : Bool) (t : TestTarget) (driven : t.isInterfaceTest = true) :
    TestConfig.build session (some apps) strict t =
      match (apps.search t.wanted).1 with
      | some app => .ok (TestConfig.ofTarget session t app.bundleIdentifier)
      | none => if strict then .error (.appNotFound t.wanted) else .ok (TestConfig.ofTarget session t "") := by
  have asked : TestConfig.lookup? (some apps) t = some (apps.get t.targetPath) := by
    simp [TestConfig.lookup?, driven]
  have identifier : apps.find? t.targetPath = (apps.search t.wanted).1.map App.bundleIdentifier := rfl
  have named : BundlePath.appName t.targetPath = t.wanted := rfl
  rw [TestConfig.build, TestConfig.appIdentifier, asked, Inventory.get, identifier, named]
  cases (apps.search t.wanted).1 with
  | some app => rfl
  | none => cases strict <;> rfl

theorem build_uses (apps : Inventory) (strict : Bool) (t : TestTarget) :
    Uses session apps (.build strict t) (reply session (some apps) (.build strict t)) (left (.build strict t) apps) := by
  cases driven : t.isInterfaceTest with
  | false =>
      have untouched : left (.build strict t) apps = apps := by simp [left, Request.path?, driven]
      rw [untouched, reply, plain_build session (some apps) strict t driven]
      exact .buildPlain apps strict t driven
  | true =>
      have finds := search_finds t.wanted apps
      have used : left (.build strict t) apps = (apps.search t.wanted).2 := by
        simp [left, Request.path?, driven, Inventory.behind, TestTarget.wanted]
      rw [used, reply, driving_build session apps strict t driven]
      cases hit : (apps.search t.wanted).1 with
      | some app =>
          rw [hit] at finds
          exact .build apps _ strict t app driven finds
      | none =>
          rw [hit] at finds
          cases strict with
          | true => exact .buildRefused apps _ t driven finds
          | false => exact .buildLost apps _ t driven finds

theorem get_uses (apps : Inventory) (path : String) :
    Uses session apps (.get path) (reply session (some apps) (.get path)) (left (.get path) apps) := by
  have finds := search_finds (BundlePath.appName path) apps
  have identifier : apps.find? path = (apps.search (BundlePath.appName path)).1.map App.bundleIdentifier := rfl
  rw [reply, Inventory.get, identifier]
  cases hit : (apps.search (BundlePath.appName path)).1 with
  | some app =>
      rw [hit] at finds
      exact .get apps _ path app finds
  | none =>
      rw [hit] at finds
      exact .getNothing apps _ path finds

theorem build_all_each (apps : Option Inventory) (strict : Bool) (targets : List TestTarget) :
    (∃ configs : List TestConfig, targets.map (TestConfig.build session apps strict) = configs.map .ok ∧
      TestConfig.buildAll session apps strict targets = .ok configs) ∨
    (∃ (before : List TestTarget) (t : TestTarget) (after : List TestTarget) (configs : List TestConfig) (p : Problem),
      targets = before ++ t :: after ∧ before.map (TestConfig.build session apps strict) = configs.map .ok ∧
      TestConfig.build session apps strict t = .error p ∧ TestConfig.buildAll session apps strict targets = .error p) := by
  induction targets with
  | nil => exact .inl ⟨[], rfl, rfl⟩
  | cons t rest ih =>
      cases made : TestConfig.build session apps strict t with
      | error p => exact .inr ⟨[], t, rest, [], p, rfl, rfl, made, by rw [TestConfig.buildAll, made]; rfl⟩
      | ok config =>
          rcases ih with ⟨configs, each, all⟩ | ⟨before, lost, after, configs, p, parts, each, fails, all⟩
          · refine .inl ⟨config :: configs, ?_, ?_⟩
            · rw [List.map_cons, made, each, List.map_cons]
            · rw [TestConfig.buildAll, made, all]
              rfl
          · refine .inr ⟨t :: before, lost, after, config :: configs, p, ?_, ?_, fails, ?_⟩
            · rw [parts, List.cons_append]
            · rw [List.map_cons, made, each, List.map_cons]
            · rw [TestConfig.buildAll, made, all]
              rfl

theorem reply_uses (apps : Inventory) (request : Request) :
    Uses session apps request (reply session (some apps) request) (left request apps) := by
  cases request with
  | find path => exact .find apps _ path _ (search_finds _ apps)
  | get path => exact get_uses session apps path
  | build strict t => exact build_uses session apps strict t
  | buildAll strict targets =>
      rcases build_all_each session (some apps) strict targets with
        ⟨configs, each, all⟩ | ⟨before, t, after, configs, p, rfl, each, fails, all⟩
      · rw [reply, all]
        exact .buildAll apps strict targets configs each
      · rw [reply, all]
        exact .buildAllRefused apps strict before t after configs p each fails

theorem left_suffix (request : Request) (apps : Inventory) : left request apps <:+ apps := by
  have lookup (path : String) : apps.behind path <:+ apps := Inventory.search_suffix _ apps
  cases request with
  | find path => exact lookup path
  | get path => exact lookup path
  | build strict t =>
      cases driven : t.isInterfaceTest with
      | true => simpa [left, Request.path?, driven] using lookup t.targetPath
      | false => simp [left, Request.path?, driven]
  | buildAll strict targets => exact List.nil_suffix

theorem run_cons (s : Supply) (request : Request) (rest : List Request) :
    run session s (request :: rest) = reply session s.apps request :: run session (s.answer session request).2 rest := rfl

theorem run_append (s : Supply) (before after : List Request) :
    run session s (before ++ after) = run session s before ++ run session (leaves session s before) after := by
  induction before generalizing s with
  | nil => rfl
  | cons request rest ih =>
      rw [List.cons_append, run_cons, run_cons, ih]
      rfl

theorem run_length (s : Supply) (requests : List Request) : (run session s requests).length = requests.length := by
  induction requests generalizing s with
  | nil => rfl
  | cons request rest ih => rw [run_cons, List.length_cons, List.length_cons, ih]

theorem leaves_append (s : Supply) (before after : List Request) :
    leaves session s (before ++ after) = leaves session (leaves session s before) after := by
  rw [leaves, List.foldl_append]
  rfl

-- The invariant of a run: the apps that are left are an end of those there were.
theorem leaves_suffix (apps : Inventory) (requests : List Request) :
    ∃ rest, leaves session ⟨some apps, true⟩ requests = ⟨some rest, true⟩ ∧ rest <:+ apps := by
  induction requests generalizing apps with
  | nil => exact ⟨apps, rfl, List.suffix_refl _⟩
  | cons request more ih =>
      obtain ⟨rest, same, inside⟩ := ih (left request apps)
      exact ⟨rest, same, inside.trans (left_suffix request apps)⟩

theorem shared_apps_are_used_up (apps : Inventory) (before : List Request) (request : Request) (after : List Request) :
    ∃ (here behind : Inventory) (made : Answer),
      leaves session ⟨some apps, true⟩ before = ⟨some here, true⟩ ∧ here <:+ apps ∧
      (run session ⟨some apps, true⟩ (before ++ request :: after))[before.length]? = some made ∧
      Uses session here request made behind ∧
      made = (answer session ⟨some here, false⟩ request).1 ∧
      leaves session ⟨some apps, true⟩ (before ++ [request]) = ⟨some behind, true⟩ ∧
      ∀ more, ∃ rest, leaves session ⟨some apps, true⟩ (before ++ request :: more) = ⟨some rest, true⟩ ∧
        rest <:+ behind := by
  obtain ⟨here, standing, inside⟩ := leaves_suffix session apps before
  refine ⟨here, left request here, reply session (some here) request, standing, inside, ?_,
    reply_uses session here request, rfl, ?_, fun more => ?_⟩
  · rw [run_append, standing, List.getElem?_append_right (Nat.le_of_eq (run_length ..)), run_length, Nat.sub_self]
    rfl
  · rw [leaves_append, standing]
    rfl
  · rw [leaves_append, standing]
    exact leaves_suffix session (left request here) more

example : run session ⟨some [⟨"Shop", "org.shop"⟩, ⟨"Mail", "org.mail"⟩], true⟩ [.find "Mail.app", .find "Shop.app"] =
    [.found (some "org.mail"), .found none] := by
  rfl

end TestRun.Supply
