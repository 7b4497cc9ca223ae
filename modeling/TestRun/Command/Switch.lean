import TestRun.Files
import TestRun.Number.Numeral
import TestRun.Text.Split

/-! The switches of the command line and how an argument is told to be one. -/

set_option autoImplicit false

namespace TestRun.Command

inductive Switch where
  | help
  | version
  | quiet
  | verbose
  | apps
  | formatVersion
  | outputDirectory
  | udid
  | strict
  deriving DecidableEq, Repr

def Switch.names : Switch → List String
  | .help => ["-h", "--help"]
  | .version => ["--version"]
  | .quiet => ["--quiet"]
  | .verbose => ["--verbose"]
  | .apps => ["--apps"]
  | .formatVersion => ["--format-version"]
  | .outputDirectory => ["--output-dir"]
  | .udid => ["--udid"]
  | .strict => ["--strict-bundle-id"]

def Switch.takesValue : Switch → Bool
  | .apps => true
  | .formatVersion => true
  | .outputDirectory => true
  | .udid => true
  | _ => false

def Switch.fault (s : Switch) (text : String) : String :=
  "argument " ++ "/".intercalate s.names ++ ": " ++ text

inductive Subcommand where
  | configs
  | verify
  deriving DecidableEq, Repr

def Subcommand.name : Subcommand → String
  | .configs => "configs"
  | .verify => "verify"

def commonSwitches : List Switch :=
  [.help, .quiet, .verbose, .apps, .formatVersion, .outputDirectory]

def Subcommand.switches : Subcommand → List Switch
  | .configs => commonSwitches ++ [.udid, .strict]
  | .verify => commonSwitches

def leadingSwitches : List Switch := [.help, .version]

inductive Attached where
  | nothing
  | value (text : String)
  | letters (text : String)
  deriving DecidableEq, Repr

inductive Token where
  | plain (text : String)
  | separator
  | switch (s : Switch) (name : String) (attached : Attached)
  | unknown (text : String)
  deriving DecidableEq, Repr

def named (switches : List Switch) : List (String × Switch) :=
  switches.flatMap fun s => s.names.map fun name => (name, s)

def fullName? (switches : List Switch) (name : String) : Option Switch :=
  ((named switches).find? fun entry => entry.1 == name).map (·.2)

def splitAttached (arg : String) : String × Attached :=
  match Text.splitAtMark (· = '=') arg.toList with
  | (name, none) => (String.ofList name, .nothing)
  | (name, some text) => (String.ofList name, .value (String.ofList text))

-- The switches that an argument may mean which is no full name: long ones that begin like it, or
-- the short one that it begins with.
def candidates (switches : List Switch) (arg : String) : List Token :=
  if arg.startsWith "--" then
    let (start, attached) := splitAttached arg
    ((named switches).filter fun entry => entry.1.startsWith start).map fun entry =>
      .switch entry.2 entry.1 attached
  else
    let (short, letters) := (String.ofList (arg.toList.take 2), String.ofList (arg.toList.drop 2))
    ((named switches).filter fun entry => entry.1 == short).map fun entry =>
      .switch entry.2 entry.1 (.letters letters)

def isDigits (text : List Char) : Bool :=
  !text.isEmpty && text.all fun c => (Text.digitValue? c).isSome

def isNegativeNumber (arg : List Char) : Bool :=
  match arg with
  | '-' :: rest =>
      let body := if rest.getLast? = some '\n' then rest.dropLast else rest
      isDigits body ||
        match Text.splitAtMark (· = '.') body with
        | (whole, some part) => (whole.isEmpty || isDigits whole) && isDigits part
        | (_, none) => false
  | _ => false

def tokenName : Token → String
  | .switch _ name _ => name
  | .plain text => text
  | .unknown text => text
  | .separator => "--"

def guess (switches : List Switch) (arg : String) : Except String Token :=
  match candidates switches arg with
  | [token] => .ok token
  | [] =>
      if isNegativeNumber arg.toList || arg.toList.contains ' ' then .ok (.plain arg)
      else .ok (.unknown arg)
  | several =>
      .error ("ambiguous option: " ++ arg ++ " could match " ++ ", ".intercalate (several.map tokenName))

def classify (switches : List Switch) (arg : String) : Except String Token :=
  if !arg.startsWith "-" || arg = "-" then .ok (.plain arg)
  else
    match fullName? switches arg with
    | some s => .ok (.switch s arg .nothing)
    | none =>
        let (name, attached) := splitAttached arg
        match fullName? switches name with
        | some s => .ok (.switch s name attached)
        | none => guess switches arg

def tokens (switches : List Switch) : List String → Except String (List Token)
  | [] => .ok []
  | arg :: rest =>
      if arg = "--" then .ok (.separator :: rest.map .plain)
      else do
        let token ← classify switches arg
        let others ← tokens switches rest
        .ok (token :: others)

end TestRun.Command
