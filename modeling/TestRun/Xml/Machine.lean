import TestRun.Xml.Doctype
import TestRun.Xml.Event
import TestRun.Xml.Source

/-! Reading markup, one character at a time. -/

set_option autoImplicit false

namespace TestRun.Xml

inductive Phase where
  | opening (typed : Bool)
  | doctype (place : Doctype.Place)
  | content
  | closing
  | stopped
  deriving DecidableEq, Repr

structure Tag where
  name : List Char
  attributes : List (List Char)
  deriving DecidableEq, Repr

-- How far the current token is read. Texts are kept last character first.
inductive Lexeme where
  | between
  | brackets (count : Nat)
  | reference (r : Reference)
  | angle
  | bang
  | bangDash
  | comment (dashes : Nat)
  | literalOpening (missing : List Char)
  | literal (brackets : Nat)
  | target (read : List Char)
  | targetEnd
  | instruction (question : Bool)
  | tagName (read : List Char)
  | inTag (tag : Tag)
  | attribute (tag : Tag) (read : List Char)
  | attributeNamed (tag : Tag) (name : List Char)
  | attributeEquals (tag : Tag)
  | value (tag : Tag) (quote : Char)
  | valueReference (tag : Tag) (quote : Char) (r : Reference)
  | valueEnd (tag : Tag)
  | emptyTag (tag : Tag)
  | endOpening
  | endName (read : List Char)
  | endNamed (name : List Char)
  | keyword (read : List Char)
  | percent
  | parameter (read : List Char)
  | hashWord (read : List Char)
  | word (isName : Bool) (read : List Char)
  | quoted (quote : Char) (read : List Char)
  | quotedEnd (read : List Char)
  | parenEnd
  deriving DecidableEq, Repr

structure State where
  phase : Phase
  lexeme : Lexeme
  names : List (List Char)
  line : Nat
  tokenLine : Nat
  known : Doctype.Known
  lettering : Lettering
  deriving DecidableEq, Repr

namespace State

def initial (source : Source) : State :=
  ⟨.opening false, .between, [], source.line, source.line, .initial source.standalone, source.lettering⟩

def enter (s : State) (lexeme : Lexeme) : State × List Event := ({ s with lexeme }, [])

def stop (s : State) (event : Event) : State × List Event := ({ s with phase := .stopped }, [event])

def malformed (s : State) : State × List Event := s.stop (.fault .malformed)

def phaseAfter (names : List (List Char)) : Phase := if names.isEmpty then .closing else .content

def startTag (s : State) (tag : Tag) : State × List Event :=
  ({ s with phase := .content, lexeme := .between, names := tag.name :: s.names },
    [.start tag.name s.tokenLine])

def emptyElement (s : State) (tag : Tag) : State × List Event :=
  ({ s with phase := phaseAfter s.names, lexeme := .between },
    [.start tag.name s.tokenLine, .finish tag.name s.line])

def endTag (s : State) (name : List Char) : State × List Event :=
  match s.names with
  | expected :: outer =>
      if name = expected then
        ({ s with phase := phaseAfter outer, lexeme := .between, names := outer },
          [.finish name s.tokenLine])
      else s.malformed
  | [] => s.malformed

def token (s : State) (t : Doctype.Token) : State × List Event :=
  match s.phase with
  | .doctype place =>
      match Doctype.step s.lettering s.known place t with
      | .next known place => ({ s with known, phase := .doctype place, lexeme := .between }, [])
      | .finished known => ({ s with known, phase := .opening true, lexeme := .between }, [])
      | .entityDeclared => s.stop .entityDeclared
      | .bad => s.malformed
  | _ => s.malformed

def betweenTokens (s : State) (place : Doctype.Place) (c : Char) : State × List Event :=
  if isSpace c then s.enter .between
  else if c = '<' then (if place = .subset then { s with tokenLine := s.line }.enter .angle else s.malformed)
  else if c = '"' ∨ c = '\'' then s.enter (.quoted c [])
  else if c = '%' then s.enter .percent
  else if c = '(' then s.token .openParen
  else if c = ')' then s.enter .parenEnd
  else if c = '[' then s.token .openBracket
  else if c = ']' then s.token .closeBracket
  else if c = '|' then s.token .bar
  else if c = ',' then s.token .comma
  else if c = '>' then s.token .close
  else if c = '#' then s.enter (.hashWord [])
  else if isNameStart s.lettering c then s.enter (.word true [c])
  else if isNameChar s.lettering c then s.enter (.word false [c])
  else s.malformed

def between (s : State) (brackets : Nat) (c : Char) : State × List Event :=
  match s.phase with
  | .content =>
      if c = '<' then { s with tokenLine := s.line }.enter .angle
      else if c = '&' then s.enter (.reference .opened)
      else if c = ']' then ({ s with lexeme := .brackets (min 2 (brackets + 1)) }, [.text c])
      else if c = '>' ∧ brackets = 2 then s.malformed
      else ({ s with lexeme := .between }, [.text c])
  | .doctype place => s.betweenTokens place c
  | .stopped => (s, [])
  | _ =>
      if isSpace c then s.enter .between
      else if c = '<' then { s with tokenLine := s.line }.enter .angle
      else s.malformed

def tokenThen (s : State) (t : Doctype.Token) (c : Char) : State × List Event :=
  let (s, events) := s.token t
  let (s, more) := s.between 0 c
  (s, events ++ more)

def angle (s : State) (c : Char) : State × List Event :=
  if c = '!' then s.enter .bang
  else if c = '?' then s.enter (.target [])
  else
    match s.phase with
    | .content =>
        if c = '/' then s.enter .endOpening
        else if isNameStart s.lettering c then s.enter (.tagName [c])
        else s.malformed
    | .opening _ => if isNameStart s.lettering c then s.enter (.tagName [c]) else s.malformed
    | _ => s.malformed

def bang (s : State) (c : Char) : State × List Event :=
  if c = '-' then s.enter .bangDash
  else
    match s.phase with
    | .content => if c = '[' then s.enter (.literalOpening ['C', 'D', 'A', 'T', 'A', '[']) else s.malformed
    | .opening false => if c.isAlpha then s.enter (.keyword [c]) else s.malformed
    | .doctype _ => if c.isAlpha then s.enter (.keyword [c]) else s.malformed
    | _ => s.malformed

def declaration (s : State) (keyword : List Char) : State × List Event :=
  match s.phase with
  | .opening false =>
      if Doctype.isWord "DOCTYPE" keyword then
        ({ s with phase := .doctype .start, lexeme := .between }, [])
      else s.malformed
  | _ => s.token (.opening keyword)

def isReservedTarget (name : List Char) : Bool :=
  String.ofList (name.map Char.toLower) == "xml"

def literalText (s : State) (brackets : Nat) (c : Char) : State × List Event :=
  ({ s with lexeme := .literal 0 }, List.replicate brackets (.text ']') ++ [.text c])

def tagEnd (s : State) (tag : Tag) (c : Char) : State × List Event :=
  if isSpace c then s.enter (.inTag tag)
  else if c = '>' then s.startTag tag
  else if c = '/' then s.enter (.emptyTag tag)
  else s.malformed

def afterReference (s : State) (step : Reference.Step) : State × List Event :=
  match step with
  | .more r => s.enter (.reference r)
  | .char c => ({ s with lexeme := .between }, [.text c])
  | .unknown => if s.known.lenient then s.enter .between else s.malformed
  | .bad => s.malformed

def afterValueReference (s : State) (tag : Tag) (quote : Char) (step : Reference.Step) :
    State × List Event :=
  match step with
  | .more r => s.enter (.valueReference tag quote r)
  | .char _ => s.enter (.value tag quote)
  | .unknown => if s.known.lenient then s.enter (.value tag quote) else s.malformed
  | .bad => s.malformed

def attributeName (s : State) (tag : Tag) (name : List Char) (c : Char) : State × List Event :=
  if isSpace c then s.enter (.attributeNamed tag name)
  else if c = '=' ∧ name ∉ tag.attributes then
    s.enter (.attributeEquals { tag with attributes := name :: tag.attributes })
  else s.malformed

def endNamed (s : State) (name : List Char) (c : Char) : State × List Event :=
  if isSpace c then s.enter (.endNamed name)
  else if c = '>' then s.endTag name
  else s.malformed

def isTokenEnd (c : Char) : Bool :=
  isSpace c || c = '>' || c = ')' || c = ',' || c = '|' || c = '[' || c = '%'

def advance (s : State) (c : Char) : State × List Event :=
  match s.lexeme with
  | .between => s.between 0 c
  | .brackets count => s.between count c
  | .reference r => s.afterReference (r.step s.lettering c)
  | .angle => s.angle c
  | .bang => s.bang c
  | .bangDash => if c = '-' then s.enter (.comment 0) else s.malformed
  | .comment dashes =>
      if dashes = 2 then (if c = '>' then s.enter .between else s.malformed)
      else if c = '-' then s.enter (.comment (dashes + 1))
      else s.enter (.comment 0)
  | .literalOpening missing =>
      match missing with
      | expected :: rest =>
          if c = expected then s.enter (if rest.isEmpty then .literal 0 else .literalOpening rest)
          else s.malformed
      | [] => s.malformed
  | .literal brackets =>
      if c = ']' then
        if brackets = 2 then ({ s with lexeme := .literal 2 }, [.text ']'])
        else s.enter (.literal (brackets + 1))
      else if c = '>' ∧ brackets = 2 then s.enter .between
      else s.literalText brackets c
  | .target read =>
      if read.isEmpty then (if isNameStart s.lettering c then s.enter (.target [c]) else s.malformed)
      else if isNameChar s.lettering c then s.enter (.target (c :: read))
      else if isReservedTarget read.reverse then s.malformed
      else if isSpace c then s.enter (.instruction false)
      else if c = '?' then s.enter .targetEnd
      else s.malformed
  | .targetEnd => if c = '>' then s.enter .between else s.malformed
  | .instruction question =>
      if question ∧ c = '>' then s.enter .between else s.enter (.instruction (c = '?'))
  | .tagName read =>
      if isNameChar s.lettering c then s.enter (.tagName (c :: read)) else s.tagEnd ⟨read.reverse, []⟩ c
  | .inTag tag => if isNameStart s.lettering c then s.enter (.attribute tag [c]) else s.tagEnd tag c
  | .attribute tag read =>
      if isNameChar s.lettering c then s.enter (.attribute tag (c :: read))
      else s.attributeName tag read.reverse c
  | .attributeNamed tag name => s.attributeName tag name c
  | .attributeEquals tag =>
      if isSpace c then s.enter (.attributeEquals tag)
      else if c = '"' ∨ c = '\'' then s.enter (.value tag c)
      else s.malformed
  | .value tag quote =>
      if c = quote then s.enter (.valueEnd tag)
      else if c = '<' then s.malformed
      else if c = '&' then s.enter (.valueReference tag quote .opened)
      else s.enter (.value tag quote)
  | .valueReference tag quote r => s.afterValueReference tag quote (r.step s.lettering c)
  | .valueEnd tag => s.tagEnd tag c
  | .emptyTag tag => if c = '>' then s.emptyElement tag else s.malformed
  | .endOpening => if isNameStart s.lettering c then s.enter (.endName [c]) else s.malformed
  | .endName read =>
      if isNameChar s.lettering c then s.enter (.endName (c :: read)) else s.endNamed read.reverse c
  | .endNamed name => s.endNamed name c
  | .keyword read =>
      if c.isAlpha then s.enter (.keyword (c :: read))
      else if isSpace c then s.declaration read.reverse
      else s.malformed
  | .percent =>
      if isNameStart s.lettering c then s.enter (.parameter [c])
      else if isSpace c ∨ c = '%' then s.tokenThen .percent c
      else s.malformed
  | .parameter read =>
      if c = ';' then s.token .parameter
      else if isNameChar s.lettering c then s.enter (.parameter (c :: read))
      else s.malformed
  | .hashWord read =>
      if read.isEmpty then (if isNameStart s.lettering c then s.enter (.hashWord [c]) else s.malformed)
      else if isNameChar s.lettering c then s.enter (.hashWord (c :: read))
      else if isSpace c ∨ c = ')' ∨ c = '>' ∨ c = '%' ∨ c = '|' then
        s.tokenThen (.hashWord read.reverse) c
      else s.malformed
  | .word isName read =>
      if isNameChar s.lettering c then s.enter (.word isName (c :: read))
      else if isTokenEnd c then s.tokenThen (wordToken isName read) c
      else if isName ∧ (c = '+' ∨ c = '*' ∨ c = '?') then s.token .repeated
      else s.malformed
  | .quoted quote read =>
      if c = quote then s.enter (.quotedEnd read) else s.enter (.quoted quote (c :: read))
  | .quotedEnd read =>
      if isSpace c ∨ c = '>' ∨ c = '%' ∨ c = '[' then s.tokenThen (.quotedText read.reverse) c
      else s.malformed
  | .parenEnd =>
      if c = '*' then s.token .closeParenStar
      else if c = '+' ∨ c = '?' then s.token .closeParenOther
      else if isSpace c ∨ c = '>' ∨ c = ',' ∨ c = '|' ∨ c = ')' then s.tokenThen .closeParen c
      else s.malformed
where
  wordToken (isName : Bool) (read : List Char) : Doctype.Token :=
    if isName then .word read.reverse else .nameToken

def nextLine (s : State) (c : Char) : State := if c = '\n' then { s with line := s.line + 1 } else s

def step (s : State) (c : Char) : State × List Event :=
  if s.phase = .stopped then (s, [])
  else if isAllowed c then
    let (s, events) := s.advance c
    (s.nextLine c, events)
  else s.malformed

def finish (s : State) (complete : Bool) : List Event :=
  match s.phase, s.lexeme with
  | .stopped, _ => []
  | .closing, .between => if complete then [] else [.fault .malformed]
  | .doctype _, .quotedEnd read => if complete then (s.token (.quotedText read.reverse)).2.take 1 ++ rest else rest
  | .doctype _, .word true read => if complete then (s.token (.word read.reverse)).2.take 1 ++ rest else rest
  | _, _ => rest
where
  rest : List Event := [.fault .malformed]

end State

def readFrom (progress : State × List Event) (text : List Char) : State × List Event :=
  text.foldl (fun progress c => let (s, events) := progress.1.step c; (s, events.reverse ++ progress.2)) progress

def eventsOf (source : Source) : List Event :=
  let (s, events) := readFrom (.initial source, []) source.text
  events.reverse ++ s.finish source.complete

def events (bytes : List UInt8) : List Event :=
  match Source.ofBytes bytes with
  | .ok source => eventsOf source
  | .error f => [.fault f]

theorem readFrom_append (progress : State × List Event) (left right : List Char) :
    readFrom progress (left ++ right) = readFrom (readFrom progress left) right := by
  simp [readFrom, List.foldl_append]

end TestRun.Xml
