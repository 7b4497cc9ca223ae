import TestRun.Proofs.Markup.Reading
import TestRun.Proofs.Text.Base64

/-! How values are built from written elements. -/

set_option autoImplicit false

namespace TestRun.Plist

namespace Builder

def holding (b : Builder) (held : List Char) : Builder := { b with text := held }

theorem run_text (b : Builder) (held text : List Char) :
    (b.holding held).run (text.map .text) = .ok (b.holding (text.reverse ++ held)) := by
  induction text generalizing held with
  | nil => rfl
  | cons c rest ih =>
      have step : (b.holding held).step (.text c) = .ok (b.holding (c :: held)) := rfl
      rw [List.map_cons, run, step]
      simpa using ih (c :: held)

theorem put_holding (b : Builder) (held : List Char) (slot : Slot) (v : Value) :
    (b.holding held).put slot v = (b.put slot v).holding held := by
  obtain ⟨frames, key, root, text⟩ := b
  cases frames <;> rfl

def Places (b : Builder) (slot : Slot) (next : Builder) : Prop :=
  ∀ held line, (b.holding held).slot line = .ok (slot, next.holding held)

theorem add_placed (b next : Builder) (slot : Slot) (placed : b.Places slot next) (held : List Char) (line : Nat)
    (v : Value) : (b.holding held).add line v = .ok ((next.put slot v).holding held) := by
  rw [add, placed held line]
  change Except.ok _ = _
  rw [put_holding]

theorem close_scalar_placed (b next : Builder) (slot : Slot) (placed : b.Places slot next) (text : List Char)
    (line : Nat) (read : List Char → Except Fault Value) (v : Value) (reads : read text = .ok v) :
    (b.holding text.reverse).closeScalar line read = .ok ((next.put slot v).holding []) := by
  rw [← add_placed b next slot placed [] line v, closeScalar, takeText]
  simp only [holding, List.reverse_reverse]
  rw [reads]
  rfl

end Builder

namespace Written

open Xml (Emits Resting Lower)

def Carries (names : List (List Char)) (b : Builder) (text : List Char) (after : Builder) : Prop :=
  ∀ s held, Resting names s → ∃ t events held', Emits s text events t ∧ Resting names t ∧
    (b.holding held).run events = .ok (after.holding held')

theorem carries_nil (names : List (List Char)) (b : Builder) : Carries names b [] b :=
  fun s held resting => ⟨s, [], held, Xml.emits_nil s, resting, rfl⟩

theorem carries_append (names : List (List Char)) (a b c : Builder) (left right : List Char)
    (leftCarries : Carries names a left b) (rightCarries : Carries names b right c) :
    Carries names a (left ++ right) c := by
  intro s held resting
  obtain ⟨t, first, between, emits, middle, built⟩ := leftCarries s held resting
  obtain ⟨u, second, after, restEmits, restingEnd, restBuilt⟩ := rightCarries t between middle
  refine ⟨u, first ++ second, after, Xml.emits_append s t u _ _ _ _ emits restEmits, restingEnd, ?_⟩
  rw [Builder.run_append, built]
  exact restBuilt

theorem gap_carries (names : List (List Char)) (b : Builder) (gap : List Char) (gapOnly : Gap gap) :
    Carries names b gap b := by
  intro s held resting
  obtain ⟨t, emits, restingEnd⟩ := Xml.gap_emits names s resting gap gapOnly
  exact ⟨t, _, _, emits, restingEnd, b.run_text held gap⟩

structure TagName (name : String) : Prop where
  solid : name.toList ≠ []
  lower : Lower name.toList

theorem run_one (b after : Builder) (e : Xml.Event) (step : b.step e = .ok after) : b.run [e] = .ok after := by
  rw [Builder.run, step]
  rfl

theorem pair_carries (names : List (List Char)) (name : String) (named : TagName name) (inside : names ≠ [])
    (b inner after : Builder) (content : List Char)
    (opens : ∀ line before, (b.holding before).start name line = .ok inner)
    (reads : ∀ s, Resting (name.toList :: names) s → ∃ t events held, Emits s content events t ∧
      Resting (name.toList :: names) t ∧
      ∀ line, inner.run (events ++ [.finish name.toList line]) = .ok (after.holding held)) :
    Carries names b (('<' :: name.toList ++ ['>']) ++ content ++ ('<' :: '/' :: name.toList ++ ['>'])) after := by
  intro s before resting
  obtain ⟨solid, lower⟩ := named
  cases spelled : name.toList with
  | nil => exact absurd spelled solid
  | cons c rest =>
      rw [spelled] at lower reads
      obtain ⟨t, line, openEmits, openResting⟩ := Xml.open_tag_emits names s resting c rest lower
      obtain ⟨u, events, held, contentEmits, contentResting, built⟩ := reads t openResting
      obtain ⟨w, endLine, endEmits, phase, within, lexeme⟩ := Xml.end_tag_emits names u c rest contentResting lower
      have goesOn : w.phase = .content := by
        rw [phase]
        cases names with
        | nil => exact absurd rfl inside
        | cons outer others => rfl
      refine ⟨w, _, held, Xml.emits_append _ _ _ _ _ _ _ (Xml.emits_append _ _ _ _ _ _ _ openEmits contentEmits) endEmits,
        ⟨goesOn, within, .inl lexeme⟩, ?_⟩
      have opened : (b.holding before).step (.start (c :: rest) line) = .ok inner := by
        rw [Builder.step, ← spelled, String.ofList_toList]
        exact opens line before
      rw [List.append_assoc, List.singleton_append, Builder.run, opened]
      exact built endLine

theorem brief_carries (names : List (List Char)) (name : String) (named : TagName name) (inside : names ≠ [])
    (b inner after : Builder) (held : List Char)
    (opens : ∀ line before, (b.holding before).start name line = .ok inner)
    (closes : ∀ line, inner.finish name line = .ok (after.holding held)) :
    Carries names b ('<' :: name.toList ++ ['/', '>']) after := by
  intro s before resting
  obtain ⟨solid, lower⟩ := named
  cases spelled : name.toList with
  | nil => exact absurd spelled solid
  | cons c rest =>
      rw [spelled] at lower
      obtain ⟨t, line, endLine, emits, restingEnd⟩ := Xml.brief_tag_emits names s resting c rest lower inside
      refine ⟨t, _, held, emits, restingEnd, ?_⟩
      have opened : (b.holding before).step (.start (c :: rest) line) = .ok inner := by
        rw [Builder.step, ← spelled, String.ofList_toList]
        exact opens line before
      have closed : inner.step (.finish (c :: rest) endLine) = .ok (after.holding held) := by
        rw [Builder.step, ← spelled, String.ofList_toList]
        exact closes endLine
      rw [Builder.run, opened]
      exact run_one inner _ _ closed

theorem escape_ne_nil (c : Char) : escape c ≠ [] := by
  unfold escape
  split
  · simp
  · split
    · simp
    · split <;> simp

theorem escaped_eq_nil (text : List Char) (empty : text.flatMap escape = []) : text = [] := by
  cases text with
  | nil => rfl
  | cons c rest => exact absurd (List.append_eq_nil_iff.mp empty).1 (escape_ne_nil c)

theorem start_other (b : Builder) (before : List Char) (name : String) (noDict : name ≠ "dict")
    (noArray : name ≠ "array") (line : Nat) : (b.holding before).start name line = .ok (b.holding []) := by
  rw [Builder.start, if_neg noDict, if_neg noArray]
  rfl

theorem text_element_carries (names : List (List Char)) (name : String) (named : TagName name) (inside : names ≠ [])
    (b after : Builder) (noDict : name ≠ "dict") (noArray : name ≠ "array") (brief : Bool) (text : List Char)
    (allowed : ∀ c ∈ text, Xml.isAllowed c = true)
    (closes : ∀ line, (b.holding text.reverse).finish name line = .ok (after.holding [])) :
    Carries names b (element name brief (text.flatMap escape)) after := by
  unfold element
  split
  · rename_i short
    have empty : text = [] := by
      apply escaped_eq_nil
      simpa using (Bool.and_eq_true_iff.mp short).2
    subst empty
    exact brief_carries names name named inside b (b.holding []) after []
      (fun line before => start_other b before name noDict noArray line) closes
  · apply pair_carries names name named inside b (b.holding []) after _
      (fun line before => start_other b before name noDict noArray line)
    intro s resting
    obtain ⟨t, emits, restingEnd⟩ := Xml.escaped_emits _ s resting text allowed
    refine ⟨t, _, [], emits, restingEnd, fun line => ?_⟩
    rw [Builder.run_append, b.run_text [] text]
    apply run_one
    rw [List.append_nil, Builder.step, String.ofList_toList]
    exact closes line

theorem container_carries (names : List (List Char)) (name : String) (named : TagName name) (inside : names ≠ [])
    (b inner full after : Builder) (brief : Bool) (content : List Char)
    (opens : ∀ line before, (b.holding before).start name line = .ok (inner.holding []))
    (fills : Carries (name.toList :: names) inner content full) (empty : content = [] → full.holding [] = inner.holding [])
    (closes : ∀ line held, (full.holding held).finish name line = .ok (after.holding held)) :
    Carries names b (element name brief content) after := by
  unfold element
  split
  · rename_i short
    have nothing : content = [] := by simpa using (Bool.and_eq_true_iff.mp short).2
    apply brief_carries names name named inside b _ after [] opens
    intro line
    rw [← empty nothing]
    exact closes line []
  · apply pair_carries names name named inside b _ after _ opens
    intro s resting
    obtain ⟨t, events, held, emits, restingEnd, built⟩ := fills s [] resting
    refine ⟨t, events, held, emits, restingEnd, fun line => ?_⟩
    rw [Builder.run_append, built]
    apply run_one
    rw [Builder.step, String.ofList_toList]
    exact closes line held

theorem tag_names : TagName "string" ∧ TagName "integer" ∧ TagName "true" ∧ TagName "false" ∧ TagName "data" ∧
    TagName "array" ∧ TagName "dict" ∧ TagName "key" := by
  have named (name : String) (solid : name.toList ≠ [])
      (all : name.toList.all (fun c => decide ('a' ≤ c ∧ c ≤ 'z')) = true) : TagName name :=
    ⟨solid, Xml.lower_of_all _ all⟩
  refine ⟨named _ ?_ ?_, named _ ?_ ?_, named _ ?_ ?_, named _ ?_ ?_, named _ ?_ ?_, named _ ?_ ?_, named _ ?_ ?_,
    named _ ?_ ?_⟩ <;> decide

end Written
end TestRun.Plist
