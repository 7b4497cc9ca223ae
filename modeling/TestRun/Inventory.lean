import TestRun.Failure
import TestRun.Json.Read
import TestRun.Schema.Shape
import TestRun.Text.Utf8

/-! The apps that are installed on a device, as lists of objects tell them. -/

set_option autoImplicit false

namespace TestRun

structure App where
  displayName : Wording
  bundleIdentifier : Wording
  deriving DecidableEq, Repr

namespace App

open Schema

def ofEntries (entries : Entries) : Checked App :=
  (Checked.ok App.mk).apply (required "display_name" ["CFBundleName", "displayName"] text entries)
    |>.apply (required "bundle_identifier" ["CFBundleIdentifier", "bundleIdentifier"] text entries)

def ofValue : Value → Checked App := model ofEntries

end App

abbrev Inventory := List App

namespace Inventory

inductive Fault where
  | failure (f : Failure)
  | notText
  | malformed
  | digits (count : Nat)
  | notList
  | invalidApp (issues : List Schema.Issue)
  deriving DecidableEq, Repr

def Fault.message? : Fault → Option String
  | .failure (.problem p) => some p.message
  | .failure (.escape e) => e.message?
  | .notText => some "<detail>"
  | .malformed => some "<detail>"
  | .digits count => some (overLimit ++ ": value has " ++ toString count ++ " digits" ++ raiseLimit)
  | .notList => some "installed apps must be a JSON list of objects"
  | .invalidApp issues => some (Model.app.summary issues)

def ofValues : List Value → Schema.Checked Inventory
  | [] => .ok []
  | v :: rest =>
      match App.ofValue v with
      | .bad issues => .bad issues
      | .ok app =>
          match ofValues rest with
          | .bad issues => .bad issues
          | .ok apps => .ok (app :: apps)

def ofRoot (root : Value) : Except Fault Inventory :=
  match root with
  | .array entries =>
      match ofValues entries with
      | .ok apps => .ok apps
      | .bad issues => .error (.invalidApp issues)
  | _ => .error .notList

def ofJson (content : List UInt8) : Except Fault Inventory :=
  match Text.Utf8.decode? content with
  | none => .error .notText
  | some text =>
      match Json.read text with
      | .ok root => ofRoot root
      | .error .malformed => .error .malformed
      | .error (.integerTooLong count) => .error (.digits count)

def load (fs : Files) (path : Path) : Except Fault Inventory :=
  if path.hasNul then .error (.failure (.escape .nulInPath))
  else
    match fs.read path with
    | .error f => .error (.failure (.problem (.unreadableApps f)))
    | .ok content => ofJson content

end Inventory
end TestRun
