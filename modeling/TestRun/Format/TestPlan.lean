import TestRun.Format.Version
import TestRun.TestTarget

/-! Version 2: test plans. -/

set_option autoImplicit false

namespace TestRun.Format

open Schema

structure Container where
  name : String
  scheme : Option String

structure Configuration where
  name : Option String
  targets : List TestTarget

structure Plan where
  name : Option String
  isDefault : Bool

structure PlanDocument where
  container : Container
  configurations : List Configuration
  plan : Option Plan
  version : Int

def container (entries : Entries) : Checked Container :=
  (Checked.ok Container.mk).apply (field "ContainerName" "" plainText entries)
    |>.apply (field "SchemeName" none (optional plainText) entries)

def configuration (entries : Entries) : Checked Configuration :=
  (Checked.ok Configuration.mk).apply (field "Name" none (optional plainText) entries)
    |>.apply (field "TestTargets" [] (listOf TestTarget.ofValue) entries)

def plan (entries : Entries) : Checked Plan :=
  (Checked.ok Plan.mk).apply (field "Name" none (optional plainText) entries)
    |>.apply (field "IsDefault" false switch entries)

namespace PlanDocument

def ofRoot (root : Entries) : Checked PlanDocument :=
  (Checked.ok PlanDocument.mk).apply (field "ContainerInfo" ⟨"", none⟩ (model Format.container) root)
    |>.apply (field "TestConfigurations" [] (listOf (model Format.configuration)) root)
    |>.apply (field "TestPlan" none (optional (model Format.plan)) root)
    |>.apply (Format.version root)

def targets (d : PlanDocument) : Except Failure (List TestTarget) :=
  match d.configurations with
  | [] => .error (.problem .noConfigurations)
  | first :: _ => .ok first.targets

def targetsOfRoot (root : Entries) : Except Failure (List TestTarget) :=
  match ofRoot root with
  | .ok d => d.targets
  | .bad issues => .error (.problem (.documentInvalid issues))

def parse (content : List UInt8) : Except Failure (List TestTarget) := do
  targetsOfRoot (← Document.load content)

end PlanDocument
end TestRun.Format
