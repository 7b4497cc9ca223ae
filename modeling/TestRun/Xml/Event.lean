/-! What reading a markup document yields: tags and characters in document order, up to the end or to the first fault.
-/

set_option autoImplicit false

namespace TestRun.Xml

inductive Fault where
  | malformed
  | unknownEncoding
  | multibyteEncoding
  | unforgivingEncoding
  | undecodableEncoding
  deriving DecidableEq, Repr

-- A tag carries the line on which it opens; an element that is opened and closed by one tag is
-- closed on the line where the tag ends. A fault is the last event of a document.
inductive Event where
  | start (name : List Char) (line : Nat)
  | finish (name : List Char) (line : Nat)
  | text (c : Char)
  | entityDeclared
  | fault (f : Fault)
  deriving DecidableEq, Repr

end TestRun.Xml
