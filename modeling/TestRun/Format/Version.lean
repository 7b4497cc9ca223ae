import TestRun.Format.Document
import TestRun.Schema.Shape

/-! The format version of a document: one key of its metadata block, and zero if there is none. -/

set_option autoImplicit false

namespace TestRun.Format

open Schema

def metadataKey : String := "__xctestrun_metadata__"

def metadata : Value → Checked Int := model (field "FormatVersion" 0 integer)

def version (root : Entries) : Checked Int := field metadataKey 0 metadata root

def detect (content : List UInt8) : Except Failure Int :=
  match Document.load content with
  | .error f => .error f
  | .ok root =>
      match version root with
      | .ok v => .ok v
      | .bad issues => .error (.problem (.versionInvalid issues))

end TestRun.Format
