import TestRun.Format.Decode
import TestRun.TestConfig

/-! Notes on what was done on the way to a result, for those who want to follow it. -/

set_option autoImplicit false

namespace TestRun

inductive Level where
  | debug
  | warning
  | error
  deriving DecidableEq, Repr

def Level.text : Level → String
  | .debug => "DEBUG"
  | .warning => "WARNING"
  | .error => "ERROR"

def Level.rank : Level → Nat
  | .debug => 0
  | .warning => 1
  | .error => 2

structure Note where
  level : Level
  topic : String
  text : String
  deriving DecidableEq, Repr

namespace Note

def line (n : Note) : String := n.level.text ++ " " ++ n.topic ++ ": " ++ n.text ++ "\n"

def lines (least : Level) (notes : List Note) : String :=
  String.join ((notes.filter fun n => least.rank ≤ n.level.rank).map line)

def debug (topic text : String) : Note := ⟨.debug, topic, text⟩

def ofDetect (content : List UInt8) : List Note :=
  match Format.detect content with
  | .error _ => []
  | .ok version =>
      if Numeral.isWritable version then
        [debug "xctestrun.kernel.format" ("detected xctestrun format version " ++ toString version)]
      else []

def ofSingleTarget (root : Entries) : List Note :=
  let topic := "xctestrun.kernel.format_v1"
  match Format.SingleTarget.select? root with
  | none => [debug topic "no scheme found in format version 1 document"]
  | some (key, block) =>
      match TestTarget.ofEntries block, key.literal? with
      | .ok _, some name => [debug topic ("using scheme " ++ name ++ " from format version 1 document")]
      | _, _ => []

def ofTestPlan (root : Entries) : List Note :=
  let topic := "xctestrun.kernel.format_v2"
  match Format.PlanDocument.ofRoot root with
  | .bad _ => []
  | .ok d =>
      match d.configurations with
      | [] => []
      | first :: others =>
          let several := debug topic ("format version 2 document has " ++
            toString (others.length + 1) ++ " test configurations, using the first")
          let decoded := debug topic ("decoded " ++ toString first.targets.length ++
            " test targets from format version 2 document")
          if others.isEmpty then [decoded] else [several, decoded]

def ofRoot (version : Int) (content : List UInt8) : List Note :=
  match Document.load content with
  | .error _ => []
  | .ok root => if version = 1 then ofSingleTarget root else ofTestPlan root

def ofTargets (version : Int) (targets : List TestTarget) : Note :=
  debug "xctestrun._internal.io.xctestrun_file"
    ("decoded " ++ toString targets.length ++ " schemes from format version " ++ toString version ++
      " xctestrun")

def ofDecode (supported : List Int) (content : List UInt8) : List Note :=
  if supported.all Format.knownVersions.contains then
    ofDetect content ++
      match Format.detect content with
      | .error _ => []
      | .ok version =>
          if supported.contains version then
            ofRoot version content ++
              match Format.decode supported content with
              | .ok targets => [ofTargets version targets]
              | .error _ => []
          else []
  else []

def ofBuild (apps : Option Inventory) (strict : Bool) (target : TestTarget) : List Note :=
  match TestConfig.lookup? apps target with
  | some (.error p) =>
      if strict then []
      else
        [⟨.warning, "xctestrun.kernel.test_config",
          "could not resolve bundle id of UI target app: " ++ p.message⟩]
  | _ => []

def ofBuildAll (apps : Option Inventory) (strict : Bool) (targets : List TestTarget) : List Note :=
  targets.flatMap (ofBuild apps strict)

end Note
end TestRun
