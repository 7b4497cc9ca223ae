import TestRun.Xml.Name

/-! The declaration that may open a document. -/

set_option autoImplicit false

namespace TestRun.Xml

structure Declaration where
  encoding : Option (List Char)
  standalone : Bool
  deriving DecidableEq, Repr

namespace Declaration

inductive Opening where
  | absent
  | present (d : Declaration) (rest : List Char)
  | malformed
  deriving DecidableEq, Repr

def isValueChar (c : Char) : Bool := c.isAlphanum || c = '.' || c = '-' || c = '_'

def setting? (text : List Char) : Option ((List Char × List Char) × List Char) :=
  let inner := text.dropWhile isSpace
  let name := inner.takeWhile fun c => c != '=' && !isSpace c
  match (inner.drop name.length).dropWhile isSpace with
  | '=' :: rest =>
      match rest.dropWhile isSpace with
      | quote :: rest =>
          let value := rest.takeWhile (· != quote)
          if (quote = '"' ∨ quote = '\'') ∧ !name.isEmpty ∧ value.all isValueChar then
            match rest.drop value.length with
            | _ :: rest => some ((name, value), rest)
            | [] => none
          else none
      | [] => none
  | _ => none

def settings? : (most : Nat) → List Char → Option (List (List Char × List Char))
  | most, text =>
      match text with
      | [] => some []
      | c :: _ =>
          if !isSpace c then none
          else if (text.dropWhile isSpace).isEmpty then some []
          else
            match most with
            | 0 => none
            | most + 1 => do
                let (first, rest) ← setting? text
                let others ← settings? most rest
                some (first :: others)

def standalone? (value : List Char) : Option Bool :=
  if value = ['y', 'e', 's'] then some true
  else if value = ['n', 'o'] then some false
  else none

def encoding? (value : List Char) : Option (List Char) :=
  if value.head?.any Char.isAlpha then some value else none

def ofSettings? (settings : List (List Char × List Char)) : Option Declaration :=
  match settings.map fun s => (String.ofList s.1, s.2) with
  | [("version", _)] => some ⟨none, false⟩
  | [("version", _), ("encoding", value)] => do
      let encoding ← encoding? value
      some ⟨some encoding, false⟩
  | [("version", _), ("standalone", value)] => do
      let alone ← standalone? value
      some ⟨none, alone⟩
  | [("version", _), ("encoding", value), ("standalone", other)] => do
      let encoding ← encoding? value
      let alone ← standalone? other
      some ⟨some encoding, alone⟩
  | _ => none

def splitAtEnd? : List Char → Option (List Char × List Char)
  | [] => none
  | '?' :: '>' :: rest => some ([], rest)
  | c :: rest => do
      let (inner, rest) ← splitAtEnd? rest
      some (c :: inner, rest)

def read (text : List Char) : Opening :=
  match text with
  | '<' :: '?' :: 'x' :: 'm' :: 'l' :: rest =>
      if rest.head?.any fun c => isNameChar .lettered c || 0x80 ≤ c.toNat then .absent
      else
        match splitAtEnd? rest with
        | none => .malformed
        | some (inner, rest) =>
            match (settings? 3 inner).bind ofSettings? with
            | some d => .present d rest
            | none => .malformed
  | _ => .absent

end Declaration
end TestRun.Xml
