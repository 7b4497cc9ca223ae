import TestRun.Plist.Binary
import TestRun.Plist.Markup
import TestRun.Text.Blank

/-! Property lists of either form, told apart by their first bytes. -/

set_option autoImplicit false

namespace TestRun.Plist

def ascii (text : String) : List UInt8 := text.toList.map fun c => UInt8.ofNat c.toNat

def markupOpenings : List (List UInt8) :=
  let openings := [ascii "<?xml", ascii "<plist"]
  openings ++ openings.map ([0xef, 0xbb, 0xbf] ++ ·) ++
    openings.map (fun text => [0xfe, 0xff] ++ text.flatMap fun b => [0, b]) ++
    openings.map (fun text => [0xff, 0xfe] ++ text.flatMap fun b => [b, 0])

def isMarkup (bytes : List UInt8) : Bool := markupOpenings.any (·.isPrefixOf bytes)

def isBinary (bytes : List UInt8) : Bool := (ascii "bplist00").isPrefixOf bytes

def stripped (content : List UInt8) : List UInt8 := content.dropWhile fun b => Text.isAsciiBlankCode b.toNat

def read (content : List UInt8) : Except Fault (Option Value) :=
  let bytes := stripped content
  if isMarkup bytes then readMarkup bytes
  else if isBinary bytes then
    match Binary.root? bytes with
    | some v => .ok (some v)
    | none => .error .unrecognized
  else .error .unrecognized

end TestRun.Plist
