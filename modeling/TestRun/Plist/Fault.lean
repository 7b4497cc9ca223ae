import TestRun.Timestamp

/-! Why bytes are no property list. -/

set_option autoImplicit false

namespace TestRun.Plist

inductive Fault where
  | unrecognized
  | entityDeclared
  | markup
  | unknownEncoding
  | multibyteEncoding
  | unforgivingEncoding
  | undecodableEncoding
  | unexpectedElement (line : Nat)
  | unexpectedKey (line : Nat)
  | missingValue (key : String) (line : Nat)
  | outsideContainer
  | number
  | data
  | date (f : Timestamp.DateFault)
  deriving DecidableEq, Repr

def Fault.wording? : Fault → Option String
  | .unrecognized => some "Invalid file"
  | .entityDeclared => some "XML entity declarations are not supported in plist files"
  | .unexpectedElement line => some ("unexpected element at line " ++ toString line)
  | .unexpectedKey line => some ("unexpected key at line " ++ toString line)
  | .missingValue key line => some ("missing value for key '" ++ key ++ "' at line " ++ toString line)
  | _ => none

end TestRun.Plist
