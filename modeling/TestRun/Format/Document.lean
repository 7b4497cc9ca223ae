import TestRun.Failure
import TestRun.Plist.Document

/-! Documents: property lists whose root is a dictionary. -/

set_option autoImplicit false

namespace TestRun.Document

def kindName : Value → String
  | .null => "NoneType"
  | .bool _ => "bool"
  | .int _ => "int"
  | .real _ => "float"
  | .text _ => "str"
  | .brokenText _ => "str"
  | .data _ => "bytes"
  | .date _ => "datetime"
  | .uid _ => "UID"
  | .array _ => "list"
  | .dict _ => "dict"
  | .enclosing => "dict"

def ofRoot (root : Value) : Except Failure Entries :=
  match root with
  | .dict entries => .ok entries
  | v => .error (.problem (.notDictionary (kindName v)))

def load (content : List UInt8) : Except Failure Entries :=
  match Plist.read content with
  | .ok root => ofRoot (root.getD .null)
  | .error f => .error (Failure.ofPlist f)

end TestRun.Document
