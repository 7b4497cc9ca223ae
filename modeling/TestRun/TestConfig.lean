import TestRun.Lookup
import TestRun.TestTarget

/-! Test configs: what a runner needs to know of a test target. -/

set_option autoImplicit false

namespace TestRun

structure Session where
  device : Value
  listener : Value

structure TestConfig where
  bundleIdentifier : Wording
  runnerBundleIdentifier : String
  configName : String
  arguments : List String
  environment : Environment
  selected : List String
  skipped : List String
  isPlainTest : Bool
  session : Session

namespace TestConfig

def environmentOf (target : TestTarget) : Environment :=
  if target.isInterfaceTest then
    (target.environment.merge target.testingEnvironment).merge (target.appEnvironment.getD [])
  else []

def lookup? (apps : Option Inventory) (target : TestTarget) : Option (Except Problem Wording) :=
  if target.isInterfaceTest then apps.map fun apps => apps.get target.targetPath else none

-- The bundle identifier of the app under test. An app that is not found has the empty one, but a
-- strict build fails.
def appIdentifier (apps : Option Inventory) (strict : Bool) (target : TestTarget) :
    Except Problem Wording :=
  match lookup? apps target with
  | none => .ok ""
  | some (.ok id) => .ok id
  | some (.error p) => if strict then .error p else .ok ""

def ofTarget (session : Session) (target : TestTarget) (id : Wording) : TestConfig where
  bundleIdentifier := id
  runnerBundleIdentifier := target.hostBundleIdentifier
  configName := BundlePath.baseName target.bundlePath
  arguments := target.arguments
  environment := environmentOf target
  selected := target.selected
  skipped := target.skipped
  isPlainTest := !target.isInterfaceTest
  session := session

def build (session : Session) (apps : Option Inventory) (strict : Bool) (target : TestTarget) :
    Except Problem TestConfig :=
  (appIdentifier apps strict target).map (ofTarget session target)

def buildAll (session : Session) (apps : Option Inventory) (strict : Bool) :
    List TestTarget → Except Problem (List TestConfig)
  | [] => .ok []
  | target :: rest => do
      let config ← build session apps strict target
      let others ← buildAll session apps strict rest
      .ok (config :: others)

end TestConfig
end TestRun
