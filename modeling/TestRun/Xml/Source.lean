import TestRun.Text.CodePage
import TestRun.Text.Utf16
import TestRun.Text.Utf8
import TestRun.Xml.Declaration
import TestRun.Xml.Event

/-! The characters of a document. -/

set_option autoImplicit false

namespace TestRun.Xml

structure Source where
  text : List Char
  complete : Bool
  standalone : Bool
  line : Nat
  lettering : Lettering
  deriving DecidableEq, Repr

inductive Encoding where
  | utf8
  | utf16 (order : Text.Utf16.ByteOrder)
  | latin1
  | ascii
  | tildeless
  | table (upper : Array Char)

namespace Encoding

def decode (e : Encoding) (bytes : List UInt8) : List Char × Bool :=
  match e with
  | .utf8 => Text.Utf8.decodePrefix bytes
  | .utf16 order => Text.Utf16.decodePrefix order bytes
  | .latin1 => (bytes.map fun b => Char.ofNat b.toNat, true)
  | .ascii => Text.CodePage.decodePrefix #[] bytes
  | .tildeless =>
      let (text, complete) := Text.CodePage.decodePrefix #[] bytes
      (text.takeWhile (· != '~'), complete && !text.contains '~')
  | .table upper => Text.CodePage.decodePrefix upper bytes

def lettering : Encoding → Lettering
  | .utf16 _ => .lettered
  | .latin1 => .lettered
  | _ => .tabled

def builtin? (name : String) : Option (Encoding × Option Text.Utf16.ByteOrder × Bool) :=
  if name = "UTF-8" then some (.utf8, none, false)
  else if name = "ISO-8859-1" then some (.latin1, none, false)
  else if name = "US-ASCII" then some (.ascii, none, false)
  else if name = "UTF-16" then some (.utf16 .big, none, true)
  else if name = "UTF-16BE" then some (.utf16 .big, some .big, true)
  else if name = "UTF-16LE" then some (.utf16 .little, some .little, true)
  else none

def other (name : List Char) : Except Fault Encoding :=
  match Text.CodePage.alphabet name with
  | .table upper => .ok (.table upper)
  | .ascii => .ok .ascii
  | .tildeless => .ok .tildeless
  | .multibyte => .error .multibyteEncoding
  | .unforgiving => .error .unforgivingEncoding
  | .undecodable => .error .undecodableEncoding
  | .incompatible => .error .malformed
  | .unknown => .error .unknownEncoding

def ofBytes (name : Option (List Char)) : Except Fault Encoding :=
  match name with
  | none => .ok .utf8
  | some name =>
      match builtin? (String.ofList (name.map Char.toUpper)) with
      | some (e, _, wide) => if wide then .error .malformed else .ok e
      | none => other name

def ofUnits (order : Text.Utf16.ByteOrder) (name : Option (List Char)) : Except Fault Encoding :=
  match name with
  | none => .ok (.utf16 order)
  | some name =>
      match builtin? (String.ofList (name.map Char.toUpper)) with
      | some (_, declared, wide) =>
          if wide && declared.all (· == order) then .ok (.utf16 order) else .error .malformed
      | none => other name

end Encoding

namespace Source

def lineAfter (text : List Char) : Nat := 1 + (unifyLines text).count '\n'

-- The line behind a text of two-byte units, read by its bytes: a zero divides the two characters of
-- a line end, so each of them counts.
def lineAfterUnits (text : List Char) : Nat := 1 + text.count '\n' + text.count '\r'

def make (encoding : Encoding) (bytes : List UInt8) (standalone : Bool) (line : Nat) : Source :=
  let (text, complete) := encoding.decode bytes
  ⟨unifyLines text, complete, standalone, line, encoding.lettering⟩

def ofWide (order : Text.Utf16.ByteOrder) (bytes : List UInt8) : Except Fault Source :=
  let text := (Text.Utf16.decodePrefix order bytes).1
  match Declaration.read text with
  | .malformed => .error .malformed
  | .absent => .ok (make (.utf16 order) bytes false 1)
  | .present d rest => do
      let opening := text.take (text.length - rest.length)
      let encoding ← Encoding.ofUnits order d.encoding
      let line := match encoding with
        | .utf16 _ => lineAfter opening
        | _ => lineAfterUnits opening
      .ok (make encoding (bytes.drop (2 * opening.length)) d.standalone line)

def ofNarrow (bytes : List UInt8) : Except Fault Source :=
  let text := bytes.map fun b => Char.ofNat b.toNat
  match Declaration.read text with
  | .malformed => .error .malformed
  | .absent => .ok (make .utf8 bytes false 1)
  | .present d rest => do
      let opening := text.take (text.length - rest.length)
      let encoding ← Encoding.ofBytes d.encoding
      .ok (make encoding (bytes.drop opening.length) d.standalone (lineAfter opening))

def ofBytes (bytes : List UInt8) : Except Fault Source :=
  match bytes with
  | 0xfe :: 0xff :: rest => ofWide .big rest
  | 0xff :: 0xfe :: rest => ofWide .little rest
  | 0xef :: 0xbb :: 0xbf :: rest => ofNarrow rest
  | _ => ofNarrow bytes

end Source
end TestRun.Xml
