import TestRun.Plist.Document
import TestRun.Proofs.Markup.Straying
import TestRun.Proofs.Markup.Values

/-! What the events of a document stand for, whatever the document is written like. -/

set_option autoImplicit false

namespace TestRun.Plist

open Xml (Event)
open Environment (keyed collapse)

def elementNames : List String :=
  ["dict", "array", "key", "true", "false", "integer", "real", "string", "data", "date"]

def isIdle : Event → Bool
  | .text _ => true
  | .start name _ => String.ofList name ∉ elementNames
  | .finish name _ => String.ofList name ∉ elementNames
  | _ => false

def Idle (events : List Event) : Prop := events.all isIdle = true

def hold (held : List Char) : Event → List Char
  | .text c => c :: held
  | .start _ _ => []
  | _ => held

def textOf (inner : List Event) : List Char := (inner.foldl hold []).reverse

def enclosed (name : String) (line endLine : Nat) (inner : List Event) : List Event :=
  .start name.toList line :: inner ++ [.finish name.toList endLine]

inductive Meaning where
  | value (v : Value)
  | items (vs : List Value)
  | entries (listed : Environment)

-- The three are one relation, so that one induction goes through all of a document. Items and entries take the idle
-- events in front of them, and those behind the last one.
inductive Spells : List Event → Meaning → Prop where
  | scalar (name : String) (read : List Char → Except Fault Value) (line endLine : Nat) (inner : List Event) (v : Value)
      (known : Builder.scalar? name = some read) (idle : Idle inner) (reads : read (textOf inner) = .ok v) :
      Spells (enclosed name line endLine inner) (.value v)
  | switch (name : String) (b : Bool) (line endLine : Nat) (inner : List Event)
      (known : Builder.switch? name = some b) (idle : Idle inner) :
      Spells (enclosed name line endLine inner) (.value (.bool b))
  | array (line endLine : Nat) (inner : List Event) (vs : List Value) (items : Spells inner (.items vs)) :
      Spells (enclosed "array" line endLine inner) (.value (.array vs))
  | dict (line endLine : Nat) (inner : List Event) (listed : Environment) (entries : Spells inner (.entries listed)) :
      Spells (enclosed "dict" line endLine inner) (.value (.dict (keyed (collapse listed))))
  | noItems (gap : List Event) (idle : Idle gap) : Spells gap (.items [])
  | item (gap first rest : List Event) (v : Value) (vs : List Value) (idle : Idle gap) (value : Spells first (.value v))
      (items : Spells rest (.items vs)) : Spells (gap ++ first ++ rest) (.items (v :: vs))
  | noEntries (gap : List Event) (idle : Idle gap) : Spells gap (.entries [])
  | entry (gap name between first rest : List Event) (line endLine : Nat) (v : Value) (listed : Environment)
      (idle : Idle gap) (named : Idle name) (divided : Idle between) (value : Spells first (.value v))
      (entries : Spells rest (.entries listed)) :
      Spells (gap ++ enclosed "key" line endLine name ++ between ++ first ++ rest)
        (.entries ((String.ofList (textOf name), v) :: listed))

structure HasRoot (content : List UInt8) (listed : Environment) : Prop where
  markup : isMarkup (stripped content) = true
  parts : ∃ front before line endLine inner back, Spells front (.items before) ∧ Spells inner (.entries listed) ∧
    Idle back ∧ Xml.events (stripped content) = front ++ enclosed "dict" line endLine inner ++ back

namespace Builder

def Builds (b : Builder) (events : List Event) (after : Builder) : Prop :=
  ∀ held, ∃ held', (b.holding held).run events = .ok (after.holding held')

theorem builds_append (b middle after : Builder) (left right : List Event) (first : b.Builds left middle)
    (second : middle.Builds right after) : b.Builds (left ++ right) after := by
  intro held
  obtain ⟨between, built⟩ := first held
  obtain ⟨behind, rest⟩ := second between
  exact ⟨behind, by rw [run_append, built]; exact rest⟩

theorem idle_step (b : Builder) (held : List Char) (e : Event) (idle : isIdle e = true) :
    (b.holding held).step e = .ok (b.holding (hold held e)) := by
  cases e with
  | text c => rfl
  | start name line =>
      have other : String.ofList name ∉ elementNames := by simpa [isIdle] using idle
      simp only [elementNames, List.mem_cons, not_or] at other
      exact Written.start_other b held _ other.1 other.2.1 line
  | finish name line =>
      have other : String.ofList name ∉ elementNames := by simpa [isIdle] using idle
      simp only [elementNames, List.mem_cons, List.not_mem_nil, not_or] at other
      simp [step, finish, hold, other]
  | entityDeclared => cases idle
  | fault f => cases idle

theorem idle_run (b : Builder) (held : List Char) (events : List Event) (idle : Idle events) :
    (b.holding held).run events = .ok (b.holding (events.foldl hold held)) := by
  induction events generalizing held with
  | nil => rfl
  | cons e rest ih =>
      obtain ⟨head, tail⟩ := Bool.and_eq_true_iff.mp idle
      rw [run, idle_step b held e head]
      exact ih (hold held e) tail

theorem idle_builds (b : Builder) (events : List Event) (idle : Idle events) : b.Builds events b :=
  fun held => ⟨_, idle_run b held events idle⟩

theorem enclosed_builds (b opened full after : Builder) (name : String) (line endLine : Nat) (inner : List Event)
    (opens : ∀ held, (b.holding held).start name line = .ok opened) (fills : opened.run inner = .ok full)
    (closes : ∃ held, full.finish name endLine = .ok (after.holding held)) :
    b.Builds (enclosed name line endLine inner) after := by
  intro held
  obtain ⟨behind, closed⟩ := closes
  refine ⟨behind, ?_⟩
  have first : (b.holding held).step (.start name.toList line) = .ok opened := by
    rw [step, String.ofList_toList]
    exact opens held
  have last : full.step (.finish name.toList endLine) = .ok (after.holding behind) := by
    rw [step, String.ofList_toList]
    exact closed
  rw [enclosed, List.cons_append, run, first]
  change opened.run _ = _
  rw [run_append, fills]
  exact Written.run_one full _ _ last

theorem text_builds (b after : Builder) (name : String) (line endLine : Nat) (inner : List Event) (idle : Idle inner)
    (noDict : name ≠ "dict") (noArray : name ≠ "array")
    (closes : ∃ held, (b.holding (inner.foldl hold [])).finish name endLine = .ok (after.holding held)) :
    b.Builds (enclosed name line endLine inner) after :=
  enclosed_builds b _ _ after name line endLine inner
    (fun held => Written.start_other b held name noDict noArray line) (idle_run b [] inner idle) closes

theorem container_builds (b opened full after : Builder) (name : String) (line endLine : Nat) (inner : List Event)
    (opens : ∀ held, (b.holding held).start name line = .ok (opened.holding [])) (fills : opened.Builds inner full)
    (closes : ∀ held, (full.holding held).finish name endLine = .ok (after.holding held)) :
    b.Builds (enclosed name line endLine inner) after := by
  obtain ⟨held, filled⟩ := fills []
  exact enclosed_builds b _ _ after name line endLine inner opens filled ⟨held, closes held⟩

structure Row (slot : Slot) (row : List Value → Builder) : Prop where
  places : ∀ done, (row done).Places slot (row done)
  puts : ∀ done v, (row done).put slot v = row (v :: done)
  free : ∀ done, (row done).key = none

theorem array_row (slot : Slot) (outer : List Frame) (root : Option Value) :
    Row .item fun done => ⟨⟨slot, .array done⟩ :: outer, none, root, []⟩ :=
  ⟨fun done => Written.places_item slot done outer root, fun _ _ => rfl, fun _ => rfl⟩

theorem root_row : Row .root fun done => ⟨[], none, done.head?, []⟩ :=
  ⟨fun _ _ _ => rfl, fun _ _ => rfl, fun _ => rfl⟩

theorem finish_scalar (b : Builder) (name : String) (read : List Char → Except Fault Value)
    (known : scalar? name = some read) (line : Nat) : b.finish name line = b.closeScalar line read := by
  have done := finishes b name line
  generalize b.finish name line = made at done
  cases done with
  | scalar _ other found =>
      rw [known] at found
      cases found
      rfl
  | switch _ v found =>
      rw [scalar_no_switch name read known] at found
      cases found
  | other _ _ _ _ _ noScalar =>
      rw [known] at noScalar
      cases noScalar
  | dict => cases known
  | array => cases known
  | key => cases known

theorem finish_switch (b : Builder) (name : String) (v : Bool) (known : switch? name = some v) (line : Nat) :
    b.finish name line = b.add line (.bool v) := by
  have elements : name = "true" ∧ v = true ∨ name = "false" ∧ v = false := by
    unfold switch? at known
    grind
  rcases elements with ⟨rfl, rfl⟩ | ⟨rfl, rfl⟩ <;> rfl

theorem scalar_builds (b next : Builder) (slot : Slot) (placed : b.Places slot next) (name : String)
    (read : List Char → Except Fault Value) (known : scalar? name = some read) (line endLine : Nat)
    (inner : List Event) (idle : Idle inner) (v : Value) (reads : read (textOf inner) = .ok v) :
    b.Builds (enclosed name line endLine inner) (next.put slot v) := by
  have closes := close_scalar_placed b next slot placed (textOf inner) endLine read v reads
  rw [textOf, List.reverse_reverse] at closes
  apply text_builds b _ name line endLine inner idle
  · rintro rfl
    cases known
  · rintro rfl
    cases known
  · exact ⟨[], by rw [finish_scalar _ name read known, closes]⟩

theorem switch_builds (b next : Builder) (slot : Slot) (placed : b.Places slot next) (name : String) (v : Bool)
    (known : switch? name = some v) (line endLine : Nat) (inner : List Event) (idle : Idle inner) :
    b.Builds (enclosed name line endLine inner) (next.put slot (.bool v)) := by
  have closes := add_placed b next slot placed (inner.foldl hold []) endLine (.bool v)
  apply text_builds b _ name line endLine inner idle
  · rintro rfl
    cases known
  · rintro rfl
    cases known
  · exact ⟨_, by rw [finish_switch _ name v known, closes]⟩

theorem key_builds (slot : Slot) (done : Entries) (outer : List Frame) (root : Option Value) (line endLine : Nat)
    (name : List Event) (idle : Idle name) :
    Builds ⟨⟨slot, .dict done⟩ :: outer, none, root, []⟩ (enclosed "key" line endLine name)
      ⟨⟨slot, .dict done⟩ :: outer, some (String.ofList (textOf name)), root, []⟩ := by
  apply text_builds _ _ "key" line endLine name idle (by decide) (by decide)
  refine ⟨[], ?_⟩
  simp [finish, closeKey, waiting?, holding, takeText, Container.isDict, textOf]

end Builder

open Builder (Builds Row)

def Meaning.Built (events : List Event) : Meaning → Prop
  | .value v => ∀ (b next : Builder) slot, b.Places slot next → next.key = none → b.Builds events (next.put slot v)
  | .items vs => ∀ slot row, Row slot row → ∀ done, (row done).Builds events (row (vs.reverse ++ done))
  | .entries listed => ∀ slot done outer root, Builds ⟨⟨slot, .dict done⟩ :: outer, none, root, []⟩ events
      ⟨⟨slot, .dict (Entries.merge done (keyed listed))⟩ :: outer, none, root, []⟩

theorem array_built (line endLine : Nat) (inner : List Event) (vs : List Value)
    (filled : Meaning.Built inner (.items vs)) :
    Meaning.Built (enclosed "array" line endLine inner) (.value (.array vs)) := by
  intro b next slot placed free
  obtain ⟨frames, key, root, text⟩ := next
  subst free
  have fills := filled .item _ (Builder.array_row slot frames root) []
  rw [List.append_nil] at fills
  apply Builder.container_builds b _ _ _ "array" line endLine inner
    (fun held => (Written.start_container b _ slot placed held line).1) fills
  intro held
  have closed := (Written.finish_container ⟨frames, none, root, text⟩ slot held endLine rfl vs.reverse []).1
  rw [List.reverse_reverse] at closed
  exact closed

theorem dict_built (line endLine : Nat) (inner : List Event) (listed : Environment)
    (filled : Meaning.Built inner (.entries listed)) :
    Meaning.Built (enclosed "dict" line endLine inner) (.value (.dict (keyed (collapse listed)))) := by
  intro b next slot placed free
  obtain ⟨frames, key, root, text⟩ := next
  subst free
  have fills := filled slot [] frames root
  rw [Environment.merge_nil_collapses] at fills
  apply Builder.container_builds b _ _ _ "dict" line endLine inner
    (fun held => (Written.start_container b _ slot placed held line).2) fills
  intro held
  exact (Written.finish_container ⟨frames, none, root, text⟩ slot held endLine rfl [] _).2

theorem item_built (gap first rest : List Event) (v : Value) (vs : List Value) (idle : Idle gap)
    (value : Meaning.Built first (.value v)) (others : Meaning.Built rest (.items vs)) :
    Meaning.Built (gap ++ first ++ rest) (.items (v :: vs)) := by
  intro slot row follows done
  have spaced := Builder.idle_builds (row done) gap idle
  have placed := value (row done) (row done) slot (follows.places done) (follows.free done)
  rw [follows.puts] at placed
  have behind := others slot row follows (v :: done)
  have whole := Builder.builds_append _ _ _ _ _ (Builder.builds_append _ _ _ _ _ spaced placed) behind
  simpa using whole

theorem entry_built (gap name between first rest : List Event) (line endLine : Nat) (v : Value) (listed : Environment)
    (idle : Idle gap) (named : Idle name) (divided : Idle between) (value : Meaning.Built first (.value v))
    (others : Meaning.Built rest (.entries listed)) :
    Meaning.Built (gap ++ enclosed "key" line endLine name ++ between ++ first ++ rest)
      (.entries ((String.ofList (textOf name), v) :: listed)) := by
  intro slot done outer root
  have spaced := Builder.idle_builds ⟨⟨slot, .dict done⟩ :: outer, none, root, []⟩ gap idle
  have waits := Builder.key_builds slot done outer root line endLine name named
  generalize String.ofList (textOf name) = key at waits ⊢
  have apart := Builder.idle_builds ⟨⟨slot, .dict done⟩ :: outer, some key, root, []⟩ between divided
  have placed := value _ _ _ (Written.places_entry slot done outer key root) rfl
  have behind := others slot (Entries.put (.text key) v done) outer root
  have front := Builder.builds_append _ _ _ _ _ (Builder.builds_append _ _ _ _ _ spaced waits) apart
  exact Builder.builds_append _ _ _ _ _ (Builder.builds_append _ _ _ _ _ front placed) behind

theorem spelled_built (events : List Event) (m : Meaning) (spells : Spells events m) : m.Built events := by
  induction spells with
  | scalar name read line endLine inner v known idle reads =>
      intro b next slot placed _
      exact Builder.scalar_builds b next slot placed name read known line endLine inner idle v reads
  | switch name v line endLine inner known idle =>
      intro b next slot placed _
      exact Builder.switch_builds b next slot placed name v known line endLine inner idle
  | array line endLine inner vs _ filled => exact array_built line endLine inner vs filled
  | dict line endLine inner listed _ filled => exact dict_built line endLine inner listed filled
  | noItems gap idle => exact fun _ row _ done => Builder.idle_builds (row done) gap idle
  | item gap first rest v vs idle _ _ value others => exact item_built gap first rest v vs idle value others
  | noEntries gap idle => exact fun _ _ _ _ => Builder.idle_builds _ gap idle
  | entry gap name between first rest line endLine v listed idle named divided _ _ value others =>
      exact entry_built gap name between first rest line endLine v listed idle named divided value others

theorem load_root (content : List UInt8) (listed : Environment) (root : HasRoot content listed) :
    Document.load content = .ok (keyed (collapse listed)) := by
  obtain ⟨front, before, line, endLine, inner, back, leads, spelled, idle, parts⟩ := root.parts
  have led := spelled_built front _ leads .root _ Builder.root_row []
  have dict := Spells.dict line endLine inner listed spelled
  have placed := spelled_built _ _ dict _ _ .root (Builder.root_row.places (before.reverse ++ [])) rfl
  rw [Builder.root_row.puts] at placed
  have ended := Builder.idle_builds ⟨[], none, some (.dict (keyed (collapse listed))), []⟩ back idle
  obtain ⟨held, built⟩ := Builder.builds_append _ _ _ _ _ (Builder.builds_append _ _ _ _ _ led placed) ended []
  have read : Plist.read content = .ok (some (.dict (keyed (collapse listed)))) := by
    have empty : Builder.empty.run (Xml.events (stripped content)) =
        .ok (Builder.holding ⟨[], none, some (.dict (keyed (collapse listed))), []⟩ held) := by
      rw [parts]
      exact built
    simp only [Plist.read, root.markup, if_true, readMarkup, empty]
    rfl
  rw [Document.load, read]
  rfl

def written (text : String) : List Event := text.toList.map .text

def entryOf (key : String) (value : List Event) : List Event := enclosed "key" 1 1 (written key) ++ value

theorem written_idle (text : String) : Idle (written text) := by
  simp [Idle, written, isIdle]

theorem written_text (text : String) : textOf (written text) = text.toList := by
  have held (letters front : List Char) : (letters.map Event.text).foldl hold front = letters.reverse ++ front := by
    induction letters generalizing front with
    | nil => rfl
    | cons c rest ih => simpa [hold] using ih (c :: front)
  rw [textOf, written, held, List.append_nil, List.reverse_reverse]

theorem entry_spells (key : String) (value rest : List Event) (v : Value) (listed : Environment)
    (spells : Spells value (.value v)) (others : Spells rest (.entries listed)) :
    Spells (entryOf key value ++ rest) (.entries ((key, v) :: listed)) := by
  have whole := Spells.entry [] (written key) [] value rest 1 1 v listed rfl (written_idle key) rfl spells others
  rw [written_text, String.ofList_toList] at whole
  simpa [entryOf] using whole

end TestRun.Plist
