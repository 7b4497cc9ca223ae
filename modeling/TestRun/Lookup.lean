import TestRun.BundlePath
import TestRun.Failure
import TestRun.Inventory

/-! Looking an app up by the path of its bundle: the first app that has the name counts. -/

set_option autoImplicit false

namespace TestRun.Inventory

def search (name : String) : Inventory → Option App × Inventory
  | [] => (none, [])
  | app :: rest => if app.displayName = .text name then (some app, rest) else search name rest

def find? (apps : Inventory) (path : String) : Option Wording :=
  (apps.search (BundlePath.appName path)).1.map App.bundleIdentifier

def get (apps : Inventory) (path : String) : Except Problem Wording :=
  match apps.find? path with
  | some id => .ok id
  | none => .error (.appNotFound (BundlePath.appName path))

def behind (apps : Inventory) (path : String) : Inventory :=
  (apps.search (BundlePath.appName path)).2

theorem search_suffix (name : String) (apps : Inventory) : (apps.search name).2 <:+ apps := by
  induction apps with
  | nil => exact List.suffix_refl _
  | cons app rest ih =>
      unfold search
      split
      · exact List.suffix_cons app rest
      · exact ih.trans (List.suffix_cons app rest)

end TestRun.Inventory
