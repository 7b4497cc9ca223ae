import TestRun.Files
import TestRun.Number.Numeral
import TestRun.Plist.Fault
import TestRun.Schema.Checked

/-! What can go wrong between a file and its test targets. -/

set_option autoImplicit false

namespace TestRun

inductive Code where
  | unreadableInput
  | malformedDocument
  | unsupportedFormatVersion
  | schemaMismatch
  | noTestConfigurations
  | appNotFound
  | noSchemes
  deriving DecidableEq, Repr

def Code.text : Code → String
  | .unreadableInput => "UNREADABLE_INPUT"
  | .malformedDocument => "MALFORMED_DOCUMENT"
  | .unsupportedFormatVersion => "UNSUPPORTED_FORMAT_VERSION"
  | .schemaMismatch => "SCHEMA_MISMATCH"
  | .noTestConfigurations => "NO_TEST_CONFIGURATIONS"
  | .appNotFound => "APP_NOT_FOUND"
  | .noSchemes => "NO_SCHEMES"

inductive Model where
  | target
  | document
  | metadata
  | app
  deriving DecidableEq, Repr

def Model.name : Model → String
  | .target => "SchemeRecord"
  | .document => "XCTestRunV2"
  | .metadata => "XCTestRunMetadata"
  | .app => "InstalledApp"

def Model.summary (m : Model) (issues : List Schema.Issue) : String :=
  toString issues.length ++ (if issues.length = 1 then " validation error for " else " validation errors for ") ++ m.name

inductive Problem where
  | unreadableFile (f : Files.Fault)
  | unreadableApps (f : Files.Fault)
  | unreadableStream (reason : String)
  | notPropertyList (f : Plist.Fault)
  | notDictionary (kind : String)
  | versionInvalid (issues : List Schema.Issue)
  | targetInvalid (key : String) (issues : List Schema.Issue)
  | documentInvalid (issues : List Schema.Issue)
  | noConfigurations
  | unsupportedVersion (version : Int) (supported : List Int)
  | appNotFound (name : String)
  deriving DecidableEq, Repr

namespace Problem

def code : Problem → Code
  | .unreadableFile _ => .unreadableInput
  | .unreadableApps _ => .unreadableInput
  | .unreadableStream _ => .unreadableInput
  | .notPropertyList _ => .malformedDocument
  | .notDictionary _ => .malformedDocument
  | .versionInvalid _ => .malformedDocument
  | .targetInvalid _ _ => .schemaMismatch
  | .documentInvalid _ => .schemaMismatch
  | .noConfigurations => .noTestConfigurations
  | .unsupportedVersion _ _ => .unsupportedFormatVersion
  | .appNotFound _ => .appNotFound

def unsupportedMessage (version : Int) (supported : List Int) : String :=
  "xctestrun currently only supports .xctestrun files in formatVersion " ++
    " and ".intercalate (supported.map toString) ++
    ": The formatVersion of your xctestrun file is " ++ toString version ++
    ", feel free to open an issue in https://github.com/danielpaulus/go-ios/issues to add support"

def message : Problem → String
  | .unreadableFile f => "failed to open xctestrun file: " ++ f.text
  | .unreadableApps f => "failed to open installed apps file: " ++ f.text
  | .unreadableStream reason => "unable to read xctestrun content: " ++ reason
  | .notPropertyList f => "failed to parse xctestrun plist: " ++ f.wording?.getD "<detail>"
  | .notDictionary kind => "failed to parse xctestrun plist: root is " ++ kind ++ ", expected dict"
  | .versionInvalid issues => "failed to parse format version: " ++ Model.metadata.summary issues
  | .targetInvalid key issues => "failed to decode scheme " ++ key ++ ": " ++ Model.target.summary issues
  | .documentInvalid issues =>
      "failed to decode format version 2 document: " ++ Model.document.summary issues
  | .noConfigurations => "format version 2 document has no TestConfigurations"
  | .unsupportedVersion version supported => unsupportedMessage version supported
  | .appNotFound name => "app " ++ name ++ " not found"

end Problem

inductive Escape where
  | outsideContainer
  | unknownEncoding
  | unknownVersions (versions : List Int)
  | nulInPath
  | integerTooLong
  deriving DecidableEq, Repr

def raiseLimit : String := "; use sys.set_int_max_str_digits() to increase the limit"

def overLimit : String :=
  "Exceeds the limit (" ++ toString Numeral.maxDigits ++ " digits) for integer string conversion"

def Escape.message? : Escape → Option String
  | .unknownVersions versions =>
      some (if versions.all Numeral.isWritable then
        "no decoder for requested format versions: [" ++ ", ".intercalate (versions.map toString) ++ "]"
      else overLimit ++ raiseLimit)
  | .nulInPath => some "embedded null byte"
  | .integerTooLong => some (overLimit ++ raiseLimit)
  | _ => none

inductive Failure where
  | problem (p : Problem)
  | escape (e : Escape)
  deriving DecidableEq, Repr

def Failure.ofPlist : Plist.Fault → Failure
  | .outsideContainer => .escape .outsideContainer
  | .unknownEncoding => .escape .unknownEncoding
  | f => .problem (.notPropertyList f)

end TestRun
