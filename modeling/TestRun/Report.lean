import TestRun.Lookup
import TestRun.Source

/-! Reports on documents. -/

set_option autoImplicit false

namespace TestRun

structure Remark where
  code : Code
  message : String
  index : Option Nat
  appName : Option String
  deriving DecidableEq, Repr

structure Report where
  version : Option Int
  count : Nat
  errors : List Remark
  warnings : List Remark
  deriving DecidableEq, Repr

namespace Report

def isGood (r : Report) : Bool := r.errors.isEmpty

def ofProblem (version : Option Int) (p : Problem) : Report :=
  let version := match p with
    | .unsupportedVersion v _ => some v
    | _ => version
  ⟨version, 0, [⟨p.code, p.message, none, none⟩], []⟩

def noTargets : Remark :=
  ⟨.noSchemes, "xctestrun file does not contain any test configuration", none, none⟩

def appMissing (index : Nat) (name : String) : Remark :=
  ⟨.appNotFound, (Problem.appNotFound name).message, some index, some name⟩

def missingApps (apps : Inventory) : (index : Nat) → List TestTarget → List Remark
  | _, [] => []
  | index, target :: rest =>
      if target.isInterfaceTest && (apps.find? target.targetPath).isNone then
        appMissing index (BundlePath.appName target.targetPath) :: missingApps apps (index + 1) rest
      else missingApps apps (index + 1) rest

def warningsOf (apps : Option Inventory) (targets : List TestTarget) : List Remark :=
  (if targets.isEmpty then [noTargets] else []) ++
    match apps with
    | some apps => missingApps apps 0 targets
    | none => []

def ofFailure (version : Option Int) : Failure → Except Escape Report
  | .problem p => .ok (ofProblem version p)
  | .escape e => .error e

def ofContent (supported : List Int) (apps : Option Inventory) (content : List UInt8) :
    Except Escape Report :=
  match Format.detect content with
  | .error f => ofFailure none f
  | .ok version =>
      match Format.decode supported content with
      | .error f => ofFailure (some version) f
      | .ok targets => .ok ⟨some version, targets.length, [], warningsOf apps targets⟩

def ofSource (fs : Files) (supported : List Int) (apps : Option Inventory) (s : Source) :
    Except Escape Report :=
  match s.content fs with
  | .error f => ofFailure none f
  | .ok content => ofContent supported apps content

end Report
end TestRun
