import TestRun.TestConfig

/-! Test configs have a schema of their own. -/

set_option autoImplicit false

namespace TestRun.TestConfig

open Schema

def ofEntries (entries : Entries) : Checked TestConfig :=
  (Checked.ok fun id runner name arguments environment selected skipped plain device listener =>
      TestConfig.mk id runner name arguments environment selected skipped plain ⟨device, listener⟩)
    |>.apply (required "bundle_id" [] Schema.text entries)
    |>.apply (required "test_runner_bundle_id" [] plainText entries)
    |>.apply (required "xctest_config_name" [] plainText entries)
    |>.apply (required "args" [] (listOf plainText) entries)
    |>.apply (required "env" [] Schema.environment entries)
    |>.apply (required "tests_to_run" [] (listOf plainText) entries)
    |>.apply (required "tests_to_skip" [] (listOf plainText) entries)
    |>.apply (required "xc_test" [] switch entries)
    |>.apply (field "device" .null .ok entries)
    |>.apply (field "listener" .null .ok entries)

def handed (session : Session) (target : TestTarget) (id : Wording) : Entries :=
  [(.text "bundle_id", .ofWording id),
    (.text "test_runner_bundle_id", .text target.hostBundleIdentifier),
    (.text "xctest_config_name", .text (BundlePath.baseName target.bundlePath)),
    (.text "args", .array (target.arguments.map .text)),
    (.text "env", .dict ((environmentOf target).map fun e => (.text e.1, e.2))),
    (.text "tests_to_run", .array (target.selected.map .text)),
    (.text "tests_to_skip", .array (target.skipped.map .text)),
    (.text "xc_test", .bool !target.isInterfaceTest),
    (.text "device", session.device),
    (.text "listener", session.listener)]

def buildChecked (session : Session) (apps : Option Inventory) (strict : Bool) (target : TestTarget) :
    Except Problem (Checked TestConfig) :=
  (appIdentifier apps strict target).map fun id => ofEntries (handed session target id)

end TestRun.TestConfig
