import TestRun.Xml.Machine

/-! The tags that a reader yields are nested: each closes the innermost element that is open. -/

set_option autoImplicit false

namespace TestRun.Xml

-- The names of the elements that are open behind some events, if their tags are nested and no fault
-- but malformed markup is among them.
def replay (names : List (List Char)) : List Event → Option (List (List Char))
  | [] => some names
  | .start name _ :: rest => replay (name :: names) rest
  | .finish name _ :: rest =>
      match names with
      | [] => none
      | inner :: outer => if name = inner then replay outer rest else none
  | .text _ :: rest => replay names rest
  | .entityDeclared :: rest => replay names rest
  | .fault f :: rest => if f = .malformed then replay names rest else none

theorem replay_append (names : List (List Char)) (left right : List Event) :
    replay names (left ++ right) = (replay names left).bind fun inner => replay inner right := by
  induction left generalizing names with
  | nil => rfl
  | cons e rest ih =>
      cases e with
      | start name line => exact ih (name :: names)
      | text c => exact ih names
      | entityDeclared => exact ih names
      | fault f =>
          rw [List.cons_append, replay, replay]
          split
          · exact ih names
          · rfl
      | finish name line =>
          cases names with
          | nil => rfl
          | cons inner outer =>
              rw [List.cons_append, replay, replay]
              split
              · exact ih outer
              · rfl

def Nested (s : State) (result : State × List Event) : Prop := replay s.names result.2 = some result.1.names

namespace State

theorem malformed_nested (s : State) : Nested s s.malformed := rfl

theorem if_nested (s : State) (c : Prop) [Decidable c] (yes no : State × List Event) (first : Nested s yes)
    (second : Nested s no) : Nested s (if c then yes else no) := by
  by_cases holds : c
  · rwa [if_pos holds]
  · rwa [if_neg holds]

theorem empty_element_nested (s : State) (tag : Tag) : Nested s (s.emptyElement tag) := by
  simp [Nested, emptyElement, replay]

theorem end_tag_nested (s : State) (name : List Char) : Nested s (s.endTag name) := by
  unfold endTag
  split
  · rename_i expected outer open_
    by_cases same : name = expected
    · simp [Nested, replay, same, open_]
    · rw [if_neg same]
      exact malformed_nested s
  · exact malformed_nested s

theorem token_nested (s : State) (t : Doctype.Token) : Nested s (s.token t) := by
  unfold token
  split
  · split <;> rfl
  · exact malformed_nested s

theorem between_tokens_nested (s : State) (place : Doctype.Place) (c : Char) : Nested s (s.betweenTokens place c) := by
  unfold betweenTokens
  repeat' apply if_nested
  all_goals first | exact token_nested s _ | rfl

theorem between_nested (s : State) (brackets : Nat) (c : Char) : Nested s (s.between brackets c) := by
  unfold between
  split
  · repeat' apply if_nested
    all_goals rfl
  · exact between_tokens_nested s _ c
  · rfl
  · repeat' apply if_nested
    all_goals rfl

theorem token_then_nested (s : State) (t : Doctype.Token) (c : Char) : Nested s (s.tokenThen t c) := by
  have first := token_nested s t
  have second := between_nested (s.token t).1 0 c
  unfold Nested at first second ⊢
  rw [tokenThen, replay_append, first]
  exact second

theorem angle_nested (s : State) (c : Char) : Nested s (s.angle c) := by
  unfold angle
  repeat' apply if_nested
  · rfl
  · rfl
  · split
    · repeat' apply if_nested
      all_goals rfl
    · apply if_nested <;> rfl
    · rfl

theorem bang_nested (s : State) (c : Char) : Nested s (s.bang c) := by
  unfold bang
  apply if_nested
  · rfl
  · split
    · apply if_nested <;> rfl
    · apply if_nested <;> rfl
    · apply if_nested <;> rfl
    · rfl

theorem declaration_nested (s : State) (keyword : List Char) : Nested s (s.declaration keyword) := by
  unfold declaration
  split
  · apply if_nested <;> rfl
  · exact token_nested s _

theorem replay_brackets (names : List (List Char)) (count : Nat) (c : Char) :
    replay names (List.replicate count (.text ']') ++ [.text c]) = some names := by
  induction count with
  | zero => rfl
  | succ count ih => exact ih

theorem tag_end_nested (s : State) (tag : Tag) (c : Char) : Nested s (s.tagEnd tag c) := by
  unfold tagEnd
  repeat' apply if_nested
  all_goals rfl

theorem after_reference_nested (s : State) (r : Reference.Step) : Nested s (s.afterReference r) := by
  unfold afterReference
  split
  · rfl
  · rfl
  · apply if_nested <;> rfl
  · rfl

theorem after_value_reference_nested (s : State) (tag : Tag) (quote : Char) (r : Reference.Step) :
    Nested s (s.afterValueReference tag quote r) := by
  unfold afterValueReference
  split
  · rfl
  · rfl
  · apply if_nested <;> rfl
  · rfl

theorem attribute_name_nested (s : State) (tag : Tag) (name : List Char) (c : Char) :
    Nested s (s.attributeName tag name c) := by
  unfold attributeName
  repeat' apply if_nested
  all_goals rfl

theorem end_named_nested (s : State) (name : List Char) (c : Char) : Nested s (s.endNamed name c) := by
  unfold endNamed
  repeat' apply if_nested
  · rfl
  · exact end_tag_nested s name
  · rfl

theorem advance_nested (s : State) (c : Char) : Nested s (s.advance c) := by
  unfold advance
  cases s.lexeme with
  | between => exact between_nested s 0 c
  | brackets count => exact between_nested s count c
  | reference r => exact after_reference_nested s _
  | angle => exact angle_nested s c
  | bang => exact bang_nested s c
  | literalOpening missing =>
      cases missing with
      | nil => rfl
      | cons expected rest => apply if_nested <;> rfl
  | literal brackets =>
      dsimp only
      repeat' apply if_nested
      · rfl
      · rfl
      · rfl
      · exact replay_brackets s.names brackets c
  | tagName read => exact if_nested _ _ _ _ rfl (tag_end_nested s _ c)
  | inTag tag => exact if_nested _ _ _ _ rfl (tag_end_nested s tag c)
  | «attribute» tag read => exact if_nested _ _ _ _ rfl (attribute_name_nested s tag _ c)
  | attributeNamed tag name => exact attribute_name_nested s tag name c
  | valueReference tag quote r => exact after_value_reference_nested s tag quote _
  | valueEnd tag => exact tag_end_nested s tag c
  | emptyTag tag => exact if_nested _ _ _ _ (empty_element_nested s tag) rfl
  | endName read => exact if_nested _ _ _ _ rfl (end_named_nested s _ c)
  | endNamed name => exact end_named_nested s name c
  | keyword read => exact if_nested _ _ _ _ rfl (if_nested _ _ _ _ (declaration_nested s _) rfl)
  | percent => exact if_nested _ _ _ _ rfl (if_nested _ _ _ _ (token_then_nested s _ c) rfl)
  | parameter read => exact if_nested _ _ _ _ (token_nested s _) (if_nested _ _ _ _ rfl rfl)
  | quotedEnd read => exact if_nested _ _ _ _ (token_then_nested s _ c) rfl
  | hashWord read =>
      dsimp only
      repeat' apply if_nested
      all_goals first | exact token_then_nested s _ c | rfl
  | word isName read =>
      dsimp only
      repeat' apply if_nested
      all_goals first | exact token_then_nested s _ c | exact token_nested s _ | rfl
  | parenEnd =>
      dsimp only
      repeat' apply if_nested
      all_goals first | exact token_then_nested s _ c | exact token_nested s _ | rfl
  | _ =>
      dsimp only
      repeat' apply if_nested
      all_goals rfl

theorem next_line_names (s : State) (c : Char) : (s.nextLine c).names = s.names := by
  unfold nextLine
  split <;> rfl

theorem step_nested (s : State) (c : Char) : Nested s (s.step c) := by
  unfold step
  apply if_nested
  · rfl
  · apply if_nested
    · have advanced := advance_nested s c
      unfold Nested at advanced ⊢
      rw [advanced, next_line_names]
    · rfl

theorem token_event (s : State) (t : Doctype.Token) : (s.token t).2.length ≤ 1 := by
  unfold token
  split
  · split <;> simp [stop, malformed]
  · simp [stop, malformed]

theorem finish_nested (s : State) (complete : Bool) : ∃ names, replay s.names (s.finish complete) = some names := by
  have token (t : Doctype.Token) : ∃ names, replay s.names ((s.token t).2.take 1 ++ finish.rest) = some names := by
    have told := token_nested s t
    unfold Nested at told
    rw [List.take_of_length_le (token_event s t), replay_append, told]
    exact ⟨_, rfl⟩
  unfold finish
  split
  · exact ⟨_, rfl⟩
  · split <;> exact ⟨_, rfl⟩
  · split
    · exact token _
    · exact ⟨_, rfl⟩
  · split
    · exact token _
    · exact ⟨_, rfl⟩
  · exact ⟨_, rfl⟩

end State

theorem read_nested (s : State) (past : List Event) (text : List Char) (names : List (List Char))
    (told : replay names past.reverse = some s.names) :
    replay names (readFrom (s, past) text).2.reverse = some (readFrom (s, past) text).1.names := by
  -- The events so far always tell the names of the state, however far the text has been read.
  induction text generalizing s past with
  | nil => exact told
  | cons c rest ih =>
      apply ih (s.step c).1 ((s.step c).2.reverse ++ past)
      rw [List.reverse_append, List.reverse_reverse, replay_append, told]
      exact State.step_nested s c

theorem events_of_nested (source : Source) : ∃ names, replay [] (eventsOf source) = some names := by
  have told := read_nested (.initial source) [] source.text [] rfl
  obtain ⟨names, finished⟩ := State.finish_nested (readFrom (.initial source, []) source.text).1 source.complete
  refine ⟨names, ?_⟩
  rw [eventsOf, replay_append, told]
  exact finished

end TestRun.Xml
