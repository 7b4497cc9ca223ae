import TestRun.Schema.Shape

/-! A test target: the block that both versions of the format describe a test bundle with. -/

set_option autoImplicit false

namespace TestRun

structure TestTarget where
  hostBundleIdentifier : String
  bundlePath : String
  skipped : List String
  selected : List String
  isInterfaceTest : Bool
  arguments : List String
  environment : Environment
  testingEnvironment : Environment
  appEnvironment : Option Environment
  appBundlePath : Option String

namespace TestTarget

open Schema

def ofEntries (entries : Entries) : Checked TestTarget :=
  (Checked.ok TestTarget.mk).apply (field "TestHostBundleIdentifier" "" plainText entries)
    |>.apply (field "TestBundlePath" "" plainText entries)
    |>.apply (field "SkipTestIdentifiers" [] (listOf plainText) entries)
    |>.apply (field "OnlyTestIdentifiers" [] (listOf plainText) entries)
    |>.apply (field "IsUITestBundle" false switch entries)
    |>.apply (field "CommandLineArguments" [] (listOf plainText) entries)
    |>.apply (field "EnvironmentVariables" [] Schema.environment entries)
    |>.apply (field "TestingEnvironmentVariables" [] Schema.environment entries)
    |>.apply (field "UITargetAppEnvironmentVariables" none (optional Schema.environment) entries)
    |>.apply (field "UITargetAppPath" none (optional plainText) entries)

def ofValue : Value → Checked TestTarget := model ofEntries

def targetPath (t : TestTarget) : String := t.appBundlePath.getD ""

end TestTarget
end TestRun
