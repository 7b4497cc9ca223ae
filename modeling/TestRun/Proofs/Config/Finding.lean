import Mathlib.Logic.Relation
import TestRun.Proofs.Config.Lookup

/-! What a lookup finds among the apps: the identifier of the first app of the name, or nothing if no app has it. -/

set_option autoImplicit false

namespace TestRun.Inventory

def First (name : String) (id : Wording) (apps : Inventory) : Prop :=
  ∃ front app back, apps = front ++ app :: back ∧ app.bundleIdentifier = id ∧ app.displayName = .text name ∧
    ∀ other ∈ front, other.displayName ≠ .text name

-- Changes that a lookup of the name does not see. Apps of other names are put in, and may change places with all others
-- as long as those of the name stay in their order; what stands behind an app of the name is replaced.
inductive Edit (name : String) : Inventory → Inventory → Prop where
  | insert (front back : Inventory) (app : App) (strange : app.displayName ≠ .text name) :
      Edit name (front ++ back) (front ++ app :: back)
  | move (xs ys : Inventory) (order : xs.Perm ys)
      (kept : xs.filter (fun app => app.displayName = .text name) = ys.filter fun app => app.displayName = .text name) :
      Edit name xs ys
  | behind (front back others : Inventory) (app : App) (named : app.displayName = .text name) :
      Edit name (front ++ app :: back) (front ++ app :: others)
  | reorder (xs ys : Inventory) (order : xs.Perm ys) (distinct : (xs.map App.displayName).Nodup) : Edit name xs ys

theorem find_iff_first (apps : Inventory) (path : String) (id : Wording) :
    apps.find? path = some id ↔ First (BundlePath.appName path) id apps := by
  rw [find_first, Option.map_eq_some_iff]
  simp only [List.find?_eq_some_iff_append, decide_eq_true_eq, Bool.not_eq_true', decide_eq_false_iff_not]
  constructor
  · rintro ⟨app, ⟨named, front, back, parts, others⟩, identified⟩
    exact ⟨front, app, back, parts, identified, named, others⟩
  · rintro ⟨front, app, back, parts, identified, named, others⟩
    exact ⟨app, ⟨named, front, back, parts, others⟩, identified⟩

theorem find_none_iff (apps : Inventory) (path : String) :
    apps.find? path = none ↔ ¬ ∃ id, First (BundlePath.appName path) id apps := by
  simp only [← find_iff_first, ← Option.isSome_iff_exists, Option.not_isSome_iff_eq_none]

theorem get_ok_iff (apps : Inventory) (path : String) (id : Wording) :
    apps.get path = .ok id ↔ apps.find? path = some id := by
  rw [get]
  cases apps.find? path <;> simp

theorem get_error_iff (apps : Inventory) (path : String) (p : Problem) :
    apps.get path = .error p ↔ p = .appNotFound (BundlePath.appName path) ∧ apps.find? path = none := by
  rw [get]
  cases apps.find? path <;> simp [eq_comm]

theorem first_kept (name : String) (xs ys : Inventory)
    (kept : xs.filter (fun app => app.displayName = .text name) = ys.filter fun app => app.displayName = .text name) :
    (xs.search name).1 = (ys.search name).1 := by
  rw [search_first, search_first, ← List.head?_filter, kept, List.head?_filter]

theorem first_iff_stored (name : String) (apps : Inventory) (app : App) (distinct : (apps.map App.displayName).Nodup) :
    (apps.search name).1 = some app ↔ app ∈ apps ∧ app.displayName = .text name := by
  induction apps with
  | nil => simp [search]
  | cons head rest ih =>
      obtain ⟨new, distinctRest⟩ := List.nodup_cons.mp distinct
      by_cases same : head.displayName = .text name
      · rw [search, if_pos same]
        constructor
        · intro found
          obtain rfl := Option.some.inj found
          exact ⟨List.mem_cons_self, same⟩
        · rintro ⟨member, named⟩
          rcases List.mem_cons.mp member with rfl | later
          · rfl
          · exact absurd (List.mem_map.mpr ⟨app, later, named.trans same.symm⟩) new
      · rw [search, if_neg same, ih distinctRest, List.mem_cons]
        constructor
        · rintro ⟨later, named⟩
          exact ⟨.inr later, named⟩
        · rintro ⟨rfl | later, named⟩
          · exact absurd named same
          · exact ⟨later, named⟩

theorem edit_first (name : String) (xs ys : Inventory) (edit : Edit name xs ys) :
    (xs.search name).1 = (ys.search name).1 := by
  cases edit with
  | insert front back app strange =>
      apply first_kept
      rw [List.filter_append, List.filter_append, List.filter_cons_of_neg (by simpa using strange)]
  | move _ _ _ kept => exact first_kept name xs ys kept
  | behind front back others app named =>
      simp [search_first, List.find?_append, named]
  | reorder _ _ order distinct =>
      have also : (ys.map App.displayName).Nodup := (order.map App.displayName).nodup distinct
      apply Option.ext
      intro app
      rw [first_iff_stored name xs app distinct, first_iff_stored name ys app also, order.mem_iff]

theorem edited_find (path : String) (xs ys : Inventory)
    (edited : Relation.EqvGen (Edit (BundlePath.appName path)) xs ys) : xs.find? path = ys.find? path := by
  induction edited with
  | rel xs ys edit => rw [find?, find?, edit_first _ xs ys edit]
  | refl xs => rfl
  | symm xs ys _ ih => exact ih.symm
  | trans xs ys zs _ _ before after => exact before.trans after

theorem get_same (path : String) (xs ys : Inventory) (same : xs.find? path = ys.find? path) :
    xs.get path = ys.get path := by
  rw [get, get, same]

theorem lookup_finds_the_first (apps : Inventory) (path : String) :
    (∀ id, apps.find? path = some id ↔ First (BundlePath.appName path) id apps) ∧
      (apps.find? path = none ↔ ¬ ∃ id, First (BundlePath.appName path) id apps) ∧
      (∀ id, apps.get path = .ok id ↔ First (BundlePath.appName path) id apps) ∧
      (∀ p, apps.get path = .error p ↔
        p = .appNotFound (BundlePath.appName path) ∧ ¬ ∃ id, First (BundlePath.appName path) id apps) ∧
      ∀ other, Relation.EqvGen (Edit (BundlePath.appName path)) apps other →
        other.find? path = apps.find? path ∧ other.get path = apps.get path := by
  refine ⟨find_iff_first apps path, find_none_iff apps path, fun id => ?_, fun p => ?_, fun other edited => ?_⟩
  · rw [get_ok_iff, find_iff_first]
  · rw [get_error_iff, find_none_iff]
  · have same := (edited_find path apps other edited).symm
    exact ⟨same, get_same path other apps same⟩

def shops : Inventory := [⟨"Mail", "org.mail"⟩, ⟨"Shop", "org.shop"⟩, ⟨"Shop", "org.old"⟩]

def turnedShops : Inventory := [⟨"Shop", "org.shop"⟩, ⟨"Mail", "org.mail"⟩, ⟨"shop", "org.small"⟩]

theorem shops_edited : Relation.EqvGen (Edit "Shop") shops turnedShops := by
  have single : Edit "Shop" shops [⟨"Mail", "org.mail"⟩, ⟨"Shop", "org.shop"⟩] :=
    .behind [⟨"Mail", "org.mail"⟩] [⟨"Shop", "org.old"⟩] [] ⟨"Shop", "org.shop"⟩ rfl
  have joined : Edit "Shop" [⟨"Mail", "org.mail"⟩, ⟨"Shop", "org.shop"⟩] turnedShops.reverse :=
    .insert [] [⟨"Mail", "org.mail"⟩, ⟨"Shop", "org.shop"⟩] ⟨"shop", "org.small"⟩ (by decide)
  have turned : Edit "Shop" turnedShops.reverse turnedShops :=
    .reorder _ _ (List.reverse_perm turnedShops) (by decide)
  exact .trans _ _ _ (.rel _ _ single) (.trans _ _ _ (.rel _ _ joined) (.rel _ _ turned))

theorem turned_shops_are_found_and_lost_app_is_told :
    turnedShops.find? "Build/Shop.app/" = some (.text "org.shop") ∧
      turnedShops.get "Build/Shop.app/" = .ok (.text "org.shop") ∧
      shops.find? "Say.app" = none ∧ shops.get "Say.app" = .error (.appNotFound "Say") := by
  obtain ⟨found, -, given, -, edited⟩ := lookup_finds_the_first shops "Build/Shop.app/"
  obtain ⟨-, missing, -, refused, -⟩ := lookup_finds_the_first shops "Say.app"
  obtain ⟨sameFound, sameGiven⟩ := edited turnedShops shops_edited
  have first : First "Shop" "org.shop" shops :=
    ⟨[⟨"Mail", "org.mail"⟩], ⟨"Shop", "org.shop"⟩, [⟨"Shop", "org.old"⟩], rfl, rfl, rfl, by decide⟩
  have nowhere : ¬ ∃ id, First "Say" id shops := by
    rintro ⟨id, front, app, back, parts, -, named, -⟩
    have member : app ∈ shops := by simp [parts]
    have others : ∀ app ∈ shops, app.displayName ≠ "Say" := by decide
    exact others app member named
  refine ⟨?_, ?_, missing.mpr nowhere, (refused _).mpr ⟨rfl, nowhere⟩⟩
  · rw [sameFound, (found _).mpr first]
  · rw [sameGiven, (given _).mpr first]

end TestRun.Inventory
