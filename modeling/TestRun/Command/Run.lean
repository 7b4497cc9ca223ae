import TestRun.Command.Arguments
import TestRun.Command.Ending
import TestRun.Note
import TestRun.Payload

/-! Running a command line over files. -/

set_option autoImplicit false

namespace TestRun.Command

structure Outcome where
  exit : Nat
  crash : Option Ending
  out : Wording
  err : String
  files : Files

-- Standard output: it keeps every text as it is, or writes it in UTF-8, which some text has no bytes in.
inductive Console where
  | memory
  | encoder
  deriving DecidableEq, Repr

def Console.refusal? : Console → Wording → Option Wording.Unencodable
  | .memory, _ => none
  | .encoder, text =>
      match text.encode with
      | .ok _ => none
      | .error u => some u

def programName : String := "xctestrun"

def versionLine : String := programName ++ " 1.0.0\n"

def usage : String :=
  "usage: " ++ programName ++ " [-h] [--version] \x7bconfigs,verify\x7d ...\n" ++
  "  configs  Print the normalized test configs of an xctestrun file\n" ++
  "  verify   Verify an xctestrun file\n" ++
  "options of both: [--quiet] [--verbose] [--apps APPS] [--format-version N] [--output-dir DIR]\n" ++
  "options of configs: [--udid UDID] [--strict-bundle-id]\n"

def Settings.level (s : Settings) : Level :=
  if s.verbose then .debug else if s.quiet then .error else .warning

def Settings.supported (s : Settings) : List Int :=
  if s.versions.isEmpty then Format.knownVersions else s.versions

def loadApps (fs : Files) (s : Settings) : Except Ending (Option Inventory) :=
  match s.apps with
  | none => .ok none
  | some path =>
      match Inventory.load fs path with
      | .ok apps => .ok (some apps)
      | .error f => .error (.apps f)

def reported (files : Files) (out : Wording) (notes : String) (e : Ending) : Outcome :=
  match e.line? with
  | some line => ⟨1, none, out, notes ++ "Error: " ++ line ++ "\n", files⟩
  | none => ⟨1, some e, out, notes, files⟩

def resultName : Subcommand → String
  | .configs => "configs.json"
  | .verify => "verify.json"

def overwrite (fs : Files) (path : Path) (bytes : List UInt8) (ending : Except Ending Path) :
    Files × Except Ending Path :=
  match fs.write path bytes with
  | .ok fs => (fs, ending)
  | .error f => (fs, .error (.file f))

-- The file is emptied before the text is encoded.
def save (fs : Files) (directory : Path) (name : String) (text : Wording) : Files × Except Ending Path :=
  if directory.hasNul then (fs, .error .nulInDirectory)
  else
    match fs.makeDirectories directory with
    | (fs, some f) => (fs, .error (.file f))
    | (fs, none) =>
        let path := directory.child name
        match (text ++ "\n").encode with
        | .ok bytes => overwrite fs path bytes (.ok path)
        | .error u => overwrite fs path [] (.error (.unencodable u))

def savedLine (path : Path) : String := "  Output: " ++ path.text ++ "\n"

def Settings.shown (s : Settings) (text : Wording) : Wording := if s.quiet then "" else text

def buildConfigs (fs : Files) (s : Settings) (path : Path) : Except Ending (List TestConfig) := do
  let apps ← loadApps fs s
  match (Source.file path).targets fs s.supported with
  | .error f => .error (.failure f)
  | .ok targets =>
      let session : Session := ⟨Payload.orNull .text s.udid, .null⟩
      match TestConfig.buildAll session apps s.strict targets with
      | .ok configs => .ok configs
      | .error p => .error (.failure (.problem p))

def configValues (fs : Files) (s : Settings) (path : Path) : Except Ending (List Value) := do
  match TestConfig.payloads (← buildConfigs fs s path) with
  | .ok values => .ok values
  | .error u => .error (.unfit u)

def configNotes (fs : Files) (s : Settings) (path : Path) : List Note :=
  match loadApps fs s, (Source.file path).content fs with
  | .ok apps, .ok content =>
      Note.ofDecode s.supported content ++
        match Format.decode s.supported content with
        | .ok targets => Note.ofBuildAll apps s.strict targets
        | .error _ => []
  | _, _ => []

def okLine (count : Nat) : String := "[OK] " ++ toString count ++ " test configs\n"

def printConfigs (console : Console) (fs : Files) (s : Settings) (notes : String) (text : Wording) : Outcome :=
  match console.refusal? (s.shown text) with
  | some u => reported fs "" notes (.unencodable u)
  | none => ⟨0, none, s.shown (text ++ "\n"), notes, fs⟩

def deliverConfigs (console : Console) (fs : Files) (s : Settings) (notes : String) (values : List Value) : Outcome :=
  let ahead := if s.output.isSome then s.shown (okLine values.length) else ""
  match Json.canonical (.array values) with
  | .error w => reported fs ahead notes (.unwritable w)
  | .ok text =>
      match s.output with
      | none => printConfigs console fs s notes text
      | some directory =>
          match save fs directory (resultName .configs) text with
          | (fs, .ok path) => ⟨0, none, ahead ++ s.shown (savedLine path), notes, fs⟩
          | (fs, .error e) => reported fs ahead notes e

def runConfigs (console : Console) (fs : Files) (s : Settings) (path : Path) : Outcome :=
  let notes := Note.lines s.level (configNotes fs s path)
  match configValues fs s path with
  | .error e => reported fs "" notes e
  | .ok values => deliverConfigs console fs s notes values

def verifyNotes (fs : Files) (s : Settings) (path : Path) : List Note :=
  match (Source.file path).content fs with
  | .ok content =>
      Note.ofDetect content ++
        match Format.detect content with
        | .ok _ => Note.ofDecode s.supported content
        | .error _ => []
  | .error _ => []

def remarkLine (r : Remark) : String := "  - [" ++ r.code.text ++ "] " ++ r.message ++ "\n"

def reportText (r : Report) : String :=
  let status := if r.isGood then "OK" else "FAILED"
  let version := match r.version with
    | some version => toString version
    | none => "None"
  "[" ++ status ++ "] Verification complete\n" ++
    "  Status: " ++ status ++ "\n" ++
    "  Format version: " ++ version ++ "\n" ++
    "  Schemes: " ++ toString r.count ++ "\n" ++
    "  Errors: " ++ toString r.errors.length ++ "\n" ++
    "  Warnings: " ++ toString r.warnings.length ++ "\n" ++
    String.join ((r.errors ++ r.warnings).map remarkLine)

def crashed (files : Files) (notes : String) (e : Ending) : Outcome := ⟨1, some e, "", notes, files⟩

def deliverReport (fs : Files) (s : Settings) (notes : String) (r : Report) : Outcome :=
  let exit := if r.isGood then 0 else 1
  match s.output with
  | none => ⟨exit, none, s.shown (reportText r), notes, fs⟩
  | some directory =>
      match Json.canonical r.payload with
      | .error w => crashed fs notes (.unwritable w)
      | .ok text =>
          match save fs directory (resultName .verify) text with
          | (fs, .ok path) => ⟨exit, none, s.shown (savedLine path ++ reportText r), notes, fs⟩
          | (fs, .error e) => crashed fs notes e

def runVerify (fs : Files) (s : Settings) (path : Path) : Outcome :=
  match loadApps fs s with
  | .error e => reported fs "" "" e
  | .ok apps =>
      let notes := Note.lines s.level (verifyNotes fs s path)
      match Report.ofSource fs s.supported apps (.file path) with
      | .error e => crashed fs notes (.failure (.escape e))
      | .ok r => deliverReport fs s notes r

def faultLine (sub : Option Subcommand) (message : String) : String :=
  let name := match sub with
    | some sub => programName ++ " " ++ sub.name
    | none => programName
  name ++ ": error: " ++ message ++ "\n"

def run (console : Console) (fs : Files) (args : List String) : Outcome :=
  match parse args with
  | .help => ⟨0, none, usage, "", fs⟩
  | .nothing => ⟨1, none, usage, "", fs⟩
  | .version => ⟨0, none, versionLine, "", fs⟩
  | .fault sub message => ⟨2, none, "", faultLine sub message, fs⟩
  | .command .configs settings path => runConfigs console fs settings path
  | .command .verify settings path => runVerify fs settings path

end TestRun.Command
