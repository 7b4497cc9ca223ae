import TestRun.Base64
import TestRun.Format.Document
import TestRun.Proofs.Number.Decimal
import TestRun.Proofs.Value.Merge

/-! Property lists as they are written in markup. -/

set_option autoImplicit false

namespace TestRun.Plist.Written

def isGap (c : Char) : Bool := c = ' ' || c = '\t' || c = '\n'

def Gap (text : List Char) : Prop := ∀ c ∈ text, isGap c = true

def Readable (text : List Char) : Prop := ∀ c ∈ text, Xml.isAllowed c = true ∧ c ≠ '\r'

def escape (c : Char) : List Char :=
  if c = '&' then ['&', 'a', 'm', 'p', ';']
  else if c = '<' then ['&', 'l', 't', ';']
  else if c = '>' then ['&', 'g', 't', ';']
  else [c]

theorem escape_plain (c : Char) (noReference : c ≠ '&') (noTag : c ≠ '<') (noClose : c ≠ '>') :
    escape c = [c] := by
  rw [escape, if_neg noReference, if_neg noTag, if_neg noClose]

theorem gap_of_all (text : List Char) (all : text.all isGap = true) : Gap text := List.all_eq_true.mp all

theorem readable_of_all (text : List Char) (all : text.all (fun c => Xml.isAllowed c && c != '\r') = true) :
    Readable text := by
  intro c member
  simpa using List.all_eq_true.mp all c member

theorem gap_cases (c : Char) (gap : isGap c = true) : c = ' ' ∨ c = '\t' ∨ c = '\n' := by
  simpa [isGap, or_assoc] using gap

theorem gap_allowed (c : Char) (gap : isGap c = true) : Xml.isAllowed c = true := by
  rcases gap_cases c gap with rfl | rfl | rfl <;> rfl

theorem escape_gap (text : List Char) (gap : Gap text) : text.flatMap escape = text := by
  induction text with
  | nil => rfl
  | cons c rest ih =>
      have plain : escape c = [c] := by
        rcases gap_cases c (gap c (by simp)) with rfl | rfl | rfl <;> rfl
      rw [List.flatMap_cons, plain, ih fun d member => gap d (List.mem_cons_of_mem _ member)]
      rfl

def element (name : String) (brief : Bool) (content : List Char) : List Char :=
  if brief && content.isEmpty then '<' :: name.toList ++ ['/', '>']
  else ('<' :: name.toList ++ ['>']) ++ content ++ ('<' :: '/' :: name.toList ++ ['>'])

mutual
inductive Element where
  | text (s : String) (brief : Bool)
  | integer (i : Int)
  | switch (b : Bool) (brief : Bool)
  | data (bytes : List UInt8) (spelling : List Char) (brief : Bool)
  | array (items : Items) (gap : List Char) (brief : Bool)
  | dict (fields : Fields) (gap : List Char) (brief : Bool)
inductive Items where
  | nil
  | cons (gap : List Char) (item : Element) (rest : Items)
inductive Fields where
  | nil
  | cons (gap : List Char) (key : String) (brief : Bool) (between : List Char) (value : Element) (rest : Fields)
end

mutual
def Element.chars : Element → List Char
  | .text s brief => element "string" brief (s.toList.flatMap escape)
  | .integer i => element "integer" false (Numeral.decimal i)
  | .switch b brief => element (if b then "true" else "false") brief []
  | .data _ spelling brief => element "data" brief spelling
  | .array items gap brief => element "array" brief (items.chars ++ gap)
  | .dict fields gap brief => element "dict" brief (fields.chars ++ gap)
def Items.chars : Items → List Char
  | .nil => []
  | .cons gap item rest => gap ++ item.chars ++ rest.chars
def Fields.chars : Fields → List Char
  | .nil => []
  | .cons gap key brief between value rest =>
      gap ++ element "key" brief (key.toList.flatMap escape) ++ between ++ value.chars ++ rest.chars
end

-- Letters of base64 may be spread over lines, so a spelling is compared without its gaps.
mutual
def Element.Sound : Element → Prop
  | .text s _ => Readable s.toList
  | .integer i => Numeral.Short i
  | .switch _ _ => True
  | .data bytes spelling _ => spelling.filter (fun c => !isGap c) = Base64.encode bytes
  | .array items gap _ => items.Sound ∧ Gap gap
  | .dict fields gap _ => fields.Sound ∧ Gap gap
def Items.Sound : Items → Prop
  | .nil => True
  | .cons gap item rest => Gap gap ∧ item.Sound ∧ rest.Sound
def Fields.Sound : Fields → Prop
  | .nil => True
  | .cons gap key _ between value rest =>
      Gap gap ∧ Readable key.toList ∧ Gap between ∧ value.Sound ∧ rest.Sound
end

mutual
def Element.value : Element → Value
  | .text s _ => .text s
  | .integer i => .int i
  | .switch b _ => .bool b
  | .data bytes _ _ => .data bytes
  | .array items _ _ => .array items.values
  | .dict fields _ _ => .dict (Environment.keyed (Environment.collapse fields.entries))
def Items.values : Items → List Value
  | .nil => []
  | .cons _ item rest => item.value :: rest.values
def Fields.entries : Fields → List (String × Value)
  | .nil => []
  | .cons _ key _ _ value rest => (key, value.value) :: rest.entries
end

end TestRun.Plist.Written
