import TestRun.Json.Portable
import TestRun.Report
import TestRun.TestConfig

/-! Results as values that can be written as JSON. -/

set_option autoImplicit false

namespace TestRun

namespace Payload

def object (fields : List (String × Value)) : Value := .dict (fields.map fun f => (.text f.1, f.2))

def texts (items : List String) : Value := .array (items.map .text)

def orNull {α : Type} (toValue : α → Value) : Option α → Value
  | none => .null
  | some a => toValue a

def environment : Environment → Except Json.Unfit Environment
  | [] => .ok []
  | (key, v) :: rest => do
      let v ← Json.portable v
      let others ← environment rest
      .ok ((key, v) :: others)

end Payload

open Payload

def TestConfig.payload (c : TestConfig) : Except Json.Unfit Value := do
  let environment ← Payload.environment c.environment
  .ok (object
    [("bundle_id", .ofWording c.bundleIdentifier), ("test_runner_bundle_id", .text c.runnerBundleIdentifier),
      ("xctest_config_name", .text c.configName), ("args", texts c.arguments),
      ("env", object environment), ("tests_to_run", texts c.selected),
      ("tests_to_skip", texts c.skipped), ("xc_test", .bool c.isPlainTest)])

def TestConfig.payloads : List TestConfig → Except Json.Unfit (List Value)
  | [] => .ok []
  | c :: rest => do
      let v ← c.payload
      let others ← payloads rest
      .ok (v :: others)

def Remark.payload (r : Remark) : Value :=
  object
    [("code", .text r.code.text), ("message", .text r.message),
      ("scheme_index", orNull (fun n => .int (Int.ofNat n)) r.index), ("app_name", orNull .text r.appName)]

def Report.payload (r : Report) : Value :=
  object
    [("ok", .bool r.isGood), ("format_version", orNull .int r.version),
      ("scheme_count", .int r.count), ("errors", .array (r.errors.map Remark.payload)),
      ("warnings", .array (r.warnings.map Remark.payload))]

end TestRun
