import TestRun.Xml.Reference

/-! The document type declaration: which token may stand where, and what a reader has to know of it afterwards. -/

set_option autoImplicit false

namespace TestRun.Xml.Doctype

inductive Token where
  | opening (keyword : List Char)
  | word (name : List Char)
  | nameToken
  | repeated
  | hashWord (name : List Char)
  | quotedText (text : List Char)
  | openParen
  | closeParen
  | closeParenStar
  | closeParenOther
  | openBracket
  | closeBracket
  | comma
  | bar
  | percent
  | parameter
  | close
  deriving DecidableEq, Repr

inductive Place where
  | start
  | named
  | publicId
  | systemId
  | external
  | subset
  | ending
  | entity
  | parameterEntity
  | entityNamed (general reported : Bool)
  | entityPublic (general reported : Bool)
  | entitySystem (general reported : Bool)
  | entityExternal (general reported : Bool)
  | entityFormat (reported : Bool)
  | format
  | formatNamed
  | formatPublic
  | formatSystem
  | formatOptional
  | attributes
  | attributesNamed
  | attribute
  | choice
  | choiceNext
  | formats
  | formatChoice
  | formatChoiceNext
  | default
  | fixed
  | element
  | elementNamed
  | content
  | mixed
  | mixedName
  | mixedNext
  | group (separators : List (Option Bool))
  | groupNext (separators : List (Option Bool))
  | closing
  deriving DecidableEq, Repr

-- What is known of the declarations. `elsewhere` says that more may stand in another file, and
-- `counting` that those here still count.
structure Known where
  standalone : Bool
  elsewhere : Bool
  counting : Bool
  deriving DecidableEq, Repr

def Known.initial (standalone : Bool) : Known := ⟨standalone, false, true⟩

def Known.lenient (k : Known) : Bool := k.elsewhere && !k.standalone

inductive Outcome where
  | next (k : Known) (p : Place)
  | finished (k : Known)
  | entityDeclared
  | bad
  deriving DecidableEq, Repr

def isPublicChar (c : Char) : Bool :=
  c.isAlphanum || c = ' ' || c = '\n' || "-'()+,./:=?;!*#@$_%".toList.contains c

def soundEntityValue (l : Lettering) (text : List Char) : Bool :=
  !text.contains '%' && soundReferences l true text

-- The inner separator of a group: every one is a comma, or every one is a bar.
def separate (isBar : Bool) : List (Option Bool) → Option (List (Option Bool))
  | none :: outer => some (some isBar :: outer)
  | some known :: outer => if known = isBar then some (some known :: outer) else none
  | [] => none

def closeGroup (k : Known) : List (Option Bool) → Outcome
  | _ :: inner :: outer => .next k (.groupNext (inner :: outer))
  | _ => .next k .closing

def attributeTypes : List String :=
  ["CDATA", "ID", "IDREF", "IDREFS", "ENTITY", "ENTITIES", "NMTOKEN", "NMTOKENS"]

def isWord (word : String) (name : List Char) : Bool := String.ofList name == word

def step (l : Lettering) (k : Known) (place : Place) (token : Token) : Outcome :=
  match place, token with
  | .start, .word _ => .next k .named
  | .named, .openBracket => .next k .subset
  | .named, .close => .finished k
  | .named, .word name =>
      if isWord "SYSTEM" name then .next k .systemId
      else if isWord "PUBLIC" name then .next k .publicId
      else .bad
  | .publicId, .quotedText text => if text.all isPublicChar then .next { k with elsewhere := true } .systemId else .bad
  | .systemId, .quotedText _ => .next { k with elsewhere := true } .external
  | .external, .openBracket => .next k .subset
  | .external, .close => .finished k
  | .subset, .opening keyword =>
      if isWord "ENTITY" keyword then .next k .entity
      else if isWord "ATTLIST" keyword then .next k .attributes
      else if isWord "ELEMENT" keyword then .next k .element
      else if isWord "NOTATION" keyword then .next k .format
      else .bad
  | .subset, .parameter => .next { k with elsewhere := true, counting := k.standalone } .subset
  | .subset, .closeBracket => .next k .ending
  | .ending, .close => .finished k
  | .entity, .percent => .next k .parameterEntity
  | .entity, .word name =>
      .next k (.entityNamed true (k.counting && (Reference.predefined? name).isNone))
  | .parameterEntity, .word _ => .next k (.entityNamed false k.counting)
  | .entityNamed general reported, .word name =>
      if isWord "SYSTEM" name then .next k (.entitySystem general reported)
      else if isWord "PUBLIC" name then .next k (.entityPublic general reported)
      else .bad
  | .entityNamed _ reported, .quotedText text =>
      if reported then .entityDeclared
      else if k.counting && !soundEntityValue l text then .bad
      else .next k .closing
  | .entityPublic general reported, .quotedText text =>
      if text.all isPublicChar then .next k (.entitySystem general reported) else .bad
  | .entitySystem general reported, .quotedText _ => .next k (.entityExternal general reported)
  | .entityExternal _ reported, .close => if reported then .entityDeclared else .next k .subset
  | .entityExternal general reported, .word name =>
      if general && isWord "NDATA" name then .next k (.entityFormat reported) else .bad
  | .entityFormat reported, .word _ => if reported then .entityDeclared else .next k .closing
  | .format, .word _ => .next k .formatNamed
  | .formatNamed, .word name =>
      if isWord "SYSTEM" name then .next k .formatSystem
      else if isWord "PUBLIC" name then .next k .formatPublic
      else .bad
  | .formatPublic, .quotedText text => if text.all isPublicChar then .next k .formatOptional else .bad
  | .formatSystem, .quotedText _ => .next k .closing
  | .formatOptional, .quotedText _ => .next k .closing
  | .formatOptional, .close => .next k .subset
  | .attributes, .word _ => .next k .attributesNamed
  | .attributesNamed, .close => .next k .subset
  | .attributesNamed, .word _ => .next k .attribute
  | .attribute, .word name =>
      if attributeTypes.contains (String.ofList name) then .next k .default
      else if isWord "NOTATION" name then .next k .formats
      else .bad
  | .attribute, .openParen => .next k .choice
  | .choice, .word _ => .next k .choiceNext
  | .choice, .nameToken => .next k .choiceNext
  | .choiceNext, .closeParen => .next k .default
  | .choiceNext, .bar => .next k .choice
  | .formats, .openParen => .next k .formatChoice
  | .formatChoice, .word _ => .next k .formatChoiceNext
  | .formatChoiceNext, .closeParen => .next k .default
  | .formatChoiceNext, .bar => .next k .formatChoice
  | .default, .hashWord name =>
      if isWord "IMPLIED" name || isWord "REQUIRED" name then .next k .attributesNamed
      else if isWord "FIXED" name then .next k .fixed
      else .bad
  | .default, .quotedText text => attributeValue k text
  | .fixed, .quotedText text => attributeValue k text
  | .element, .word _ => .next k .elementNamed
  | .elementNamed, .word name =>
      if isWord "EMPTY" name || isWord "ANY" name then .next k .closing else .bad
  | .elementNamed, .openParen => .next k .content
  | .content, .hashWord name => if isWord "PCDATA" name then .next k .mixed else .bad
  | .content, .openParen => .next k (.group [none, none])
  | .content, .word _ => .next k (.groupNext [none])
  | .content, .repeated => .next k (.groupNext [none])
  | .mixed, .closeParen => .next k .closing
  | .mixed, .closeParenStar => .next k .closing
  | .mixed, .bar => .next k .mixedName
  | .mixedName, .word _ => .next k .mixedNext
  | .mixedNext, .closeParenStar => .next k .closing
  | .mixedNext, .bar => .next k .mixedName
  | .group separators, .openParen => .next k (.group (none :: separators))
  | .group separators, .word _ => .next k (.groupNext separators)
  | .group separators, .repeated => .next k (.groupNext separators)
  | .groupNext separators, .closeParen => closeGroup k separators
  | .groupNext separators, .closeParenStar => closeGroup k separators
  | .groupNext separators, .closeParenOther => closeGroup k separators
  | .groupNext separators, .comma => continueGroup k false separators
  | .groupNext separators, .bar => continueGroup k true separators
  | .closing, .close => .next k .subset
  | _, _ => .bad
where
  attributeValue (k : Known) (text : List Char) : Outcome :=
    if !k.counting || (!text.contains '<' && soundReferences l k.lenient text) then
      .next k .attributesNamed
    else .bad
  continueGroup (k : Known) (isBar : Bool) (separators : List (Option Bool)) : Outcome :=
    match separate isBar separators with
    | some separators => .next k (.group separators)
    | none => .bad

end TestRun.Xml.Doctype
