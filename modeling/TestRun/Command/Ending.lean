import TestRun.Inventory
import TestRun.Json.Canonical
import TestRun.Json.Portable

/-! What may end a command before it is done. -/

set_option autoImplicit false

namespace TestRun.Command

inductive Ending where
  | failure (f : Failure)
  | apps (f : Inventory.Fault)
  | unfit (u : Json.Unfit)
  | unwritable (w : Json.WriteFault)
  | unencodable (u : Wording.Unencodable)
  | file (f : Files.Fault)
  | nulInDirectory
  deriving DecidableEq, Repr

def failureLine? : Failure → Option String
  | .problem p => some p.message
  | .escape e => e.message?

def unfitLine : Json.Unfit → String
  | .notText => "<detail>"
  | .identifier => "Unable to serialize unknown type: <class 'plistlib.UID'>"
  | .circular => "Circular reference detected (id repeated)"
  | .tooDeep => "Maximum serialization depth exceeded"
  | .integerTooLong => overLimit ++ raiseLimit

def writeLine? : Json.WriteFault → Option String
  | .unwritable => none
  | .circular => some "Circular reference detected"
  | .integerTooLong => some (overLimit ++ raiseLimit)

def Ending.line? : Ending → Option String
  | .failure f => failureLine? f
  | .apps f => f.message?
  | .unfit u => some (unfitLine u)
  | .unwritable w => writeLine? w
  | .unencodable u => some u.message
  | .file f => if f.cause = .notFound then some f.text else none
  | .nulInDirectory => some "mkdir: embedded null character in path"

end TestRun.Command
