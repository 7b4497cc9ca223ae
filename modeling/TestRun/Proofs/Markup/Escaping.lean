import TestRun.Plist.Document
import TestRun.Proofs.Markup.Straying

/-! The two faults of a property list that are no problem of a document. -/

set_option autoImplicit false

namespace TestRun.Plist

open Xml (Event replay)

def StraysIn (events : List Event) : Prop :=
  ∃ before e after b, events = before ++ e :: after ∧ Builder.empty.run before = .ok b ∧ b.Strays e

theorem empty_follows : Builder.Follows [] Builder.empty := ⟨rfl, fun waits => absurd rfl waits⟩

theorem step_outside_iff (names inner : List (List Char)) (b : Builder) (follows : Builder.Follows names b) (e : Event)
    (told : replay names [e] = some inner) : b.step e = .error .outsideContainer ↔ b.Strays e := by
  cases e with
  | start name line => exact Builder.start_outside_iff names b follows name line
  | finish name line =>
      cases names with
      | nil => cases told
      | cons top outer =>
          rw [replay] at told
          split at told
          · rename_i same
            rw [← same] at follows
            exact Builder.finish_outside_iff outer b name follows line
          · cases told
  | text c => simp [Builder.step, Builder.Strays, Builder.Brings]
  | entityDeclared => simp [Builder.step, Builder.Strays, Builder.Brings]
  | fault f => cases f <;> simp [Builder.step, Builder.faultOf, Builder.Strays, Builder.Brings]

theorem nested_outside_iff (events : List Event) (inner : List (List Char)) (told : replay [] events = some inner) :
    Builder.empty.run events = .error .outsideContainer ↔ StraysIn events := by
  rw [Builder.run_error_iff]
  refine exists_congr fun before => exists_congr fun e => exists_congr fun after => exists_congr fun b => ?_
  refine and_congr_right fun parts => and_congr_right fun reached => ?_
  -- What came before leaves the builder with the frames of the elements that are still open.
  rw [parts, Xml.replay_append] at told
  obtain ⟨middle, first, others⟩ := Option.bind_eq_some_iff.mp told
  obtain ⟨next, step, -⟩ := Builder.replay_cons middle inner e after others
  exact step_outside_iff middle next b (Builder.run_follows [] middle _ b before empty_follows first reached) e step

theorem step_unknown_encoding (b : Builder) (e : Event) (failed : b.step e = .error .unknownEncoding) :
    e = .fault .unknownEncoding := by
  have slot (b : Builder) (line : Nat) : b.slot line ≠ .error .unknownEncoding := by
    intro misplaced
    rcases Builder.slot_error b line _ misplaced with same | same <;> cases same
  have close (b : Builder) : b.closeContainer ≠ .error .unknownEncoding := by
    intro unclosed
    cases (Builder.close_container_error b _ unclosed).1
  cases e with
  | start name line =>
      exfalso
      change Builder.start b (String.ofList name) line = _ at failed
      unfold Builder.start at failed
      split at failed
      · exact slot _ line ((Builder.open_error_iff _ line _ _).mp failed)
      · split at failed
        · exact slot _ line ((Builder.open_error_iff _ line _ _).mp failed)
        · cases failed
  | finish name line =>
      exfalso
      have done := Builder.finishes b (String.ofList name) line
      change b.finish (String.ofList name) line = _ at failed
      rw [failed] at done
      generalize String.ofList name = word at done
      generalize result : Except.error Fault.unknownEncoding = made at done
      cases done with
      | dict =>
          unfold Builder.closeDict at result
          split at result
          · cases result
          · exact close b result.symm
      | array => exact close b result.symm
      | key =>
          unfold Builder.closeKey at result
          split at result
          · cases result
          · cases result
          · split at result <;> cases result
      | switch _ v found => exact slot b line ((Builder.add_error_iff b line _ _).mp result.symm)
      | scalar _ read found =>
          rcases (Builder.close_scalar_error b line read _).mp result.symm with unread | ⟨v, -, misplaced⟩
          · exact (Builder.scalar_error word read found _ _ unread).2 rfl
          · exact slot b line misplaced
      | other => cases result
  | text c => cases failed
  | entityDeclared => cases failed
  | fault f => cases f <;> first | rfl | cases failed

theorem nested_known (events : List Event) (inner : List (List Char)) (told : replay [] events = some inner) :
    Builder.empty.run events ≠ .error .unknownEncoding := by
  intro failed
  obtain ⟨before, e, after, b, parts, reached, stepped⟩ := (Builder.run_error_iff _ _ _).mp failed
  rw [parts, Xml.replay_append] at told
  obtain ⟨middle, -, others⟩ := Option.bind_eq_some_iff.mp told
  obtain ⟨next, step, -⟩ := Builder.replay_cons middle inner e after others
  rw [step_unknown_encoding b e stepped] at step
  cases step

theorem read_markup_error_iff (bytes : List UInt8) (f : Fault) :
    readMarkup bytes = .error f ↔ Builder.empty.run (Xml.events bytes) = .error f := by
  unfold readMarkup
  cases Builder.empty.run (Xml.events bytes) <;> simp

theorem markup_outside_iff (bytes : List UInt8) :
    readMarkup bytes = .error .outsideContainer ↔ StraysIn (Xml.events bytes) := by
  rw [read_markup_error_iff, Xml.events]
  cases Xml.Source.ofBytes bytes with
  | ok source =>
      obtain ⟨inner, told⟩ := Xml.events_of_nested source
      exact nested_outside_iff _ inner told
  | error f =>
      -- A document that cannot be read at all is the single event of its fault, which strays nowhere.
      rw [Builder.run_error_iff]
      refine exists_congr fun before => exists_congr fun e => exists_congr fun after => exists_congr fun b => ?_
      refine and_congr_right fun parts => and_congr_right fun _ => ?_
      have only : e = .fault f := by
        cases before with
        | nil => exact (List.cons.inj parts).1.symm
        | cons head tail =>
            have longer := congrArg List.length parts
            simp at longer
      rw [only]
      cases f <;> simp [Builder.step, Builder.faultOf, Builder.Strays, Builder.Brings]

theorem markup_unknown_iff (bytes : List UInt8) :
    readMarkup bytes = .error .unknownEncoding ↔ Xml.Source.ofBytes bytes = .error .unknownEncoding := by
  rw [read_markup_error_iff, Xml.events]
  cases Xml.Source.ofBytes bytes with
  | ok source =>
      obtain ⟨inner, told⟩ := Xml.events_of_nested source
      exact iff_of_false (nested_known _ inner told) (by simp)
  | error f => cases f <;> simp [Builder.run, Builder.step, Builder.faultOf]

def opening (bytes : List UInt8) : List Char :=
  match bytes with
  | 0xfe :: 0xff :: rest => (Text.Utf16.decodePrefix .big rest).1
  | 0xff :: 0xfe :: rest => (Text.Utf16.decodePrefix .little rest).1
  | 0xef :: 0xbb :: 0xbf :: rest => rest.map fun b => Char.ofNat b.toNat
  | _ => bytes.map fun b => Char.ofNat b.toNat

def named? (o : Xml.Declaration.Opening) : Option (List Char) :=
  match o with
  | .present d _ => d.encoding
  | _ => none

def Unknown (name : List Char) : Prop :=
  Xml.Encoding.builtin? (String.ofList (name.map Char.toUpper)) = none ∧ Text.CodePage.alphabet name = .unknown

theorem other_unknown_iff (name : List Char) :
    Xml.Encoding.other name = .error .unknownEncoding ↔ Text.CodePage.alphabet name = .unknown := by
  unfold Xml.Encoding.other
  split <;> simp_all

theorem of_bytes_unknown_iff (name : Option (List Char)) :
    Xml.Encoding.ofBytes name = .error .unknownEncoding ↔ ∃ n, name = some n ∧ Unknown n := by
  cases name with
  | none => simp [Xml.Encoding.ofBytes]
  | some n =>
      have other := other_unknown_iff n
      simp only [Xml.Encoding.ofBytes, Option.some.injEq, exists_eq_left', Unknown]
      cases Xml.Encoding.builtin? (String.ofList (n.map Char.toUpper)) with
      | none => simpa using other
      | some entry =>
          obtain ⟨e, order, wide⟩ := entry
          cases wide <;> simp

theorem of_units_unknown_iff (order : Text.Utf16.ByteOrder) (name : Option (List Char)) :
    Xml.Encoding.ofUnits order name = .error .unknownEncoding ↔ ∃ n, name = some n ∧ Unknown n := by
  cases name with
  | none => simp [Xml.Encoding.ofUnits]
  | some n =>
      have other := other_unknown_iff n
      simp only [Xml.Encoding.ofUnits, Option.some.injEq, exists_eq_left', Unknown]
      cases Xml.Encoding.builtin? (String.ofList (n.map Char.toUpper)) with
      | none => simpa using other
      | some entry =>
          obtain ⟨e, known, wide⟩ := entry
          dsimp only
          split <;> simp

theorem wide_unknown_iff (order : Text.Utf16.ByteOrder) (bytes : List UInt8) :
    Xml.Source.ofWide order bytes = .error .unknownEncoding ↔
      ∃ n, named? (Xml.Declaration.read (Text.Utf16.decodePrefix order bytes).1) = some n ∧ Unknown n := by
  unfold Xml.Source.ofWide
  dsimp only
  generalize Xml.Declaration.read (Text.Utf16.decodePrefix order bytes).1 = o
  cases o with
  | malformed => simp [named?]
  | absent => simp [named?]
  | present d rest =>
      refine Iff.trans ?_ (of_units_unknown_iff order d.encoding)
      dsimp only
      cases Xml.Encoding.ofUnits order d.encoding <;> simp [Bind.bind, Except.bind]

theorem narrow_unknown_iff (bytes : List UInt8) :
    Xml.Source.ofNarrow bytes = .error .unknownEncoding ↔
      ∃ n, named? (Xml.Declaration.read (bytes.map fun b => Char.ofNat b.toNat)) = some n ∧ Unknown n := by
  unfold Xml.Source.ofNarrow
  dsimp only
  generalize Xml.Declaration.read (bytes.map fun b => Char.ofNat b.toNat) = o
  cases o with
  | malformed => simp [named?]
  | absent => simp [named?]
  | present d rest =>
      refine Iff.trans ?_ (of_bytes_unknown_iff d.encoding)
      dsimp only
      cases Xml.Encoding.ofBytes d.encoding <;> simp [Bind.bind, Except.bind]

theorem source_unknown_iff (bytes : List UInt8) :
    Xml.Source.ofBytes bytes = .error .unknownEncoding ↔
      ∃ n, named? (Xml.Declaration.read (opening bytes)) = some n ∧ Unknown n := by
  unfold Xml.Source.ofBytes
  split
  · exact wide_unknown_iff .big _
  · exact wide_unknown_iff .little _
  · exact narrow_unknown_iff _
  · rename_i noBig noLittle noMark
    have unmarked : opening bytes = bytes.map fun b => Char.ofNat b.toNat := by
      unfold opening
      split
      · exact (noBig _ rfl).elim
      · exact (noLittle _ rfl).elim
      · exact (noMark _ rfl).elim
      · rfl
    rw [unmarked]
    exact narrow_unknown_iff bytes

def StraysOutside (content : List UInt8) : Prop :=
  isMarkup (stripped content) = true ∧ StraysIn (Xml.events (stripped content))

def DeclaresUnknown (content : List UInt8) : Prop :=
  isMarkup (stripped content) = true ∧
    ∃ name, named? (Xml.Declaration.read (opening (stripped content))) = some name ∧ Unknown name

theorem read_markup_error (content : List UInt8) (f : Fault) (special : f ≠ .unrecognized) :
    read content = .error f ↔ isMarkup (stripped content) = true ∧ readMarkup (stripped content) = .error f := by
  unfold read
  dsimp only
  by_cases markup : isMarkup (stripped content) = true
  · rw [if_pos markup]
    exact ⟨fun failed => ⟨markup, failed⟩, fun both => both.2⟩
  · rw [if_neg markup]
    refine iff_of_false (fun failed => ?_) fun both => markup both.1
    split at failed
    · split at failed
      · cases failed
      · exact special (Except.error.inj failed).symm
    · exact special (Except.error.inj failed).symm

theorem read_outside_iff (content : List UInt8) :
    read content = .error .outsideContainer ↔ StraysOutside content := by
  rw [read_markup_error content _ Fault.noConfusion, markup_outside_iff]
  rfl

theorem read_unknown_iff (content : List UInt8) :
    read content = .error .unknownEncoding ↔ DeclaresUnknown content := by
  rw [read_markup_error content _ Fault.noConfusion, markup_unknown_iff, source_unknown_iff]
  rfl

end TestRun.Plist
