import TestRun.Proofs.Markup.Written

/-! How the reader of markup takes written elements. -/

set_option autoImplicit false

namespace TestRun.Xml

def Emits (s : State) (text : List Char) (events : List Event) (t : State) : Prop :=
  ∀ past, readFrom (s, past) text = (t, events.reverse ++ past)

theorem emits_nil (s : State) : Emits s [] [] s := fun _ => rfl

theorem emits_append (s t u : State) (left right : List Char) (first second : List Event)
    (leftEmits : Emits s left first t) (rightEmits : Emits t right second u) :
    Emits s (left ++ right) (first ++ second) u := by
  intro past
  rw [readFrom_append, leftEmits past, rightEmits, List.reverse_append, List.append_assoc]

theorem emits_step (s t : State) (c : Char) (events : List Event) (step : s.step c = (t, events)) :
    Emits s [c] events t := by
  intro past
  simp [readFrom, step]

theorem emits_cons (s t u : State) (c : Char) (rest : List Char) (first second : List Event)
    (step : s.step c = (t, first)) (restEmits : Emits t rest second u) :
    Emits s (c :: rest) (first ++ second) u :=
  emits_append s t u [c] rest first second (emits_step s t c first step) restEmits

theorem emits_cons_silent (s t u : State) (c : Char) (rest : List Char) (events : List Event)
    (step : s.step c = (t, [])) (restEmits : Emits t rest events u) : Emits s (c :: rest) events u :=
  emits_cons s t u c rest [] events step restEmits

structure Resting (names : List (List Char)) (s : State) : Prop where
  phase : s.phase = .content
  names : s.names = names
  lexeme : s.lexeme = .between ∨ ∃ count, s.lexeme = .brackets count

theorem step_running (s : State) (c : Char) (running : s.phase ≠ .stopped) (allowed : isAllowed c = true) :
    s.step c = ((s.advance c).1.nextLine c, (s.advance c).2) := by
  rw [State.step, if_neg running, if_pos allowed]

theorem next_line_same (s : State) (c : Char) (noBreak : c ≠ '\n') : s.nextLine c = s := if_neg noBreak

theorem step_in_line (s t : State) (c : Char) (events : List Event) (running : s.phase ≠ .stopped)
    (allowed : isAllowed c = true) (noBreak : c ≠ '\n') (advanced : s.advance c = (t, events)) :
    s.step c = (t, events) := by
  rw [step_running s c running allowed, advanced, next_line_same t c noBreak]

theorem resting_running (names : List (List Char)) (s : State) (resting : Resting names s) :
    s.phase ≠ .stopped := by
  rw [resting.phase]
  exact Phase.noConfusion

theorem resting_advance (names : List (List Char)) (s : State) (resting : Resting names s) (c : Char) :
    ∃ count, s.advance c = s.between count c := by
  rcases resting.lexeme with same | ⟨count, same⟩
  · exact ⟨0, by rw [State.advance, same]⟩
  · exact ⟨count, by rw [State.advance, same]⟩

theorem resting_next_line (names : List (List Char)) (s : State) (c : Char) (resting : Resting names s) :
    Resting names (s.nextLine c) := by
  unfold State.nextLine
  split
  · exact ⟨resting.phase, resting.names, resting.lexeme⟩
  · exact resting

theorem char_emits (names : List (List Char)) (s : State) (resting : Resting names s) (c : Char)
    (allowed : isAllowed c = true) (noTag : c ≠ '<') (noReference : c ≠ '&') (noClose : c ≠ '>') :
    ∃ t, Emits s [c] [.text c] t ∧ Resting names t := by
  obtain ⟨count, advanced⟩ := resting_advance names s resting c
  have stepped := step_running s c (resting_running names s resting) allowed
  rw [advanced, State.between, resting.phase] at stepped
  dsimp only at stepped
  rw [if_neg noTag, if_neg noReference] at stepped
  by_cases bracket : c = ']'
  · rw [if_pos bracket] at stepped
    exact ⟨_, emits_step _ _ _ _ stepped,
      resting_next_line names _ c ⟨rfl, resting.names, .inr ⟨_, rfl⟩⟩⟩
  · rw [if_neg bracket, if_neg fun both => noClose both.1] at stepped
    exact ⟨_, emits_step _ _ _ _ stepped,
      resting_next_line names _ c ⟨rfl, resting.names, .inl rfl⟩⟩

theorem reference_emits (names : List (List Char)) (s : State) (resting : Resting names s) (c : Char)
    (special : c = '&' ∨ c = '<' ∨ c = '>') :
    ∃ t, Emits s (Plist.Written.escape c) [.text c] t ∧ Resting names t := by
  obtain ⟨phase, lexeme, open_, line, tokenLine, known, lettering⟩ := s
  obtain ⟨phaseEq, namesEq, lexemeEq⟩ := resting
  dsimp only at phaseEq namesEq lexemeEq
  subst phaseEq namesEq
  refine ⟨⟨.content, .between, open_, line, tokenLine, known, lettering⟩, ?_, rfl, rfl, .inl rfl⟩
  intro past
  rcases lexemeEq with rfl | ⟨count, rfl⟩ <;> rcases special with rfl | rfl | rfl <;> rfl

theorem escape_emits (names : List (List Char)) (s : State) (resting : Resting names s) (c : Char)
    (allowed : isAllowed c = true) :
    ∃ t, Emits s (Plist.Written.escape c) [.text c] t ∧ Resting names t := by
  by_cases special : c = '&' ∨ c = '<' ∨ c = '>'
  · exact reference_emits names s resting c special
  · obtain ⟨noReference, noTag, noClose⟩ := not_or.mp special |>.imp_right not_or.mp
    rw [Plist.Written.escape_plain c noReference noTag noClose]
    exact char_emits names s resting c allowed noTag noReference noClose

theorem escaped_emits (names : List (List Char)) (s : State) (resting : Resting names s) (text : List Char)
    (allowed : ∀ c ∈ text, isAllowed c = true) :
    ∃ t, Emits s (text.flatMap Plist.Written.escape) (text.map .text) t ∧ Resting names t := by
  induction text generalizing s with
  | nil => exact ⟨s, emits_nil s, resting⟩
  | cons c rest ih =>
      obtain ⟨t, emits, resting⟩ := escape_emits names s resting c (allowed c (by simp))
      obtain ⟨u, restEmits, restingEnd⟩ := ih t resting fun d member => allowed d (List.mem_cons_of_mem _ member)
      exact ⟨u, emits_append s t u _ _ _ _ emits restEmits, restingEnd⟩

theorem gap_emits (names : List (List Char)) (s : State) (resting : Resting names s) (gap : List Char)
    (gapOnly : Plist.Written.Gap gap) : ∃ t, Emits s gap (gap.map .text) t ∧ Resting names t := by
  have kept : gap.flatMap Plist.Written.escape = gap := Plist.Written.escape_gap gap gapOnly
  have emits := escaped_emits names s resting gap fun c member => Plist.Written.gap_allowed c (gapOnly c member)
  rwa [kept] at emits

theorem outside_gap_emits (s : State) (outside : s.phase = .closing ∨ ∃ typed, s.phase = .opening typed)
    (between : s.lexeme = .between) (gap : List Char) (gapOnly : Plist.Written.Gap gap) :
    ∃ line, Emits s gap [] { s with line := line } := by
  induction gap generalizing s with
  | nil => exact ⟨s.line, emits_nil s⟩
  | cons c rest ih =>
      have gapHere := gapOnly c (by simp)
      have space : isSpace c = true := by rcases Plist.Written.gap_cases c gapHere with rfl | rfl | rfl <;> rfl
      have running : s.phase ≠ .stopped := by
        rcases outside with same | ⟨typed, same⟩ <;> simp [same]
      have advanced : s.advance c = s.enter .between := by
        rw [State.advance, between]
        dsimp only
        rw [State.between]
        rcases outside with same | ⟨typed, same⟩ <;> simp only [same] <;> exact if_pos space
      have step : s.step c = ({ s with line := (s.nextLine c).line }, []) := by
        rw [step_running s c running (Plist.Written.gap_allowed c gapHere), advanced]
        obtain ⟨phase, lexeme, names, line, tokenLine, known, lettering⟩ := s
        dsimp only at between
        subst between
        unfold State.nextLine
        dsimp only [State.enter]
        split <;> rfl
      obtain ⟨line, emits⟩ := ih { s with line := (s.nextLine c).line } outside between
        fun d member => gapOnly d (List.mem_cons_of_mem _ member)
      exact ⟨line, emits_cons s _ _ c rest [] [] step emits⟩

def Lower (name : List Char) : Prop := ∀ c ∈ name, 'a' ≤ c ∧ c ≤ 'z'

theorem lower_of_all (name : List Char) (all : name.all (fun c => decide ('a' ≤ c ∧ c ≤ 'z')) = true) : Lower name :=
  fun c member => of_decide_eq_true (List.all_eq_true.mp all c member)

theorem lower_bounds (c : Char) (lower : 'a' ≤ c ∧ c ≤ 'z') : 97 ≤ c.toNat ∧ c.toNat ≤ 122 :=
  ⟨UInt32.le_iff_toNat_le.mp lower.1, UInt32.le_iff_toNat_le.mp lower.2⟩

theorem lower_starts (l : Lettering) (c : Char) (lower : 'a' ≤ c ∧ c ≤ 'z') : isNameStart l c = true := by
  obtain ⟨low, high⟩ := lower_bounds c lower
  have letter : c.isAlpha = true := by
    have small : c.isLower = true := Bool.and_eq_true_iff.mpr ⟨decide_eq_true lower.1, decide_eq_true lower.2⟩
    exact Bool.or_eq_true_iff.mpr (.inr small)
  rw [isNameStart, if_pos (by omega), letter]
  rfl

theorem lower_continues (l : Lettering) (c : Char) (lower : 'a' ≤ c ∧ c ≤ 'z') : isNameChar l c = true :=
  isNameChar_of_start l c (lower_starts l c lower)

theorem lower_allowed (c : Char) (lower : 'a' ≤ c ∧ c ≤ 'z') : isAllowed c = true := by
  obtain ⟨low, high⟩ := lower_bounds c lower
  rw [isAllowed, if_neg (by omega)]
  simp
  omega

theorem lower_ne (c d : Char) (lower : 'a' ≤ c ∧ c ≤ 'z') (other : ¬ ('a' ≤ d ∧ d ≤ 'z')) : c ≠ d := by
  rintro rfl
  exact other lower

theorem angle_step (names : List (List Char)) (s : State) (resting : Resting names s) :
    s.step '<' = { s with tokenLine := s.line }.enter .angle := by
  obtain ⟨count, advanced⟩ := resting_advance names s resting '<'
  apply step_in_line _ _ _ _ (resting_running names s resting) rfl (by decide)
  rw [advanced, State.between, resting.phase]
  rfl

theorem name_start_step (s : State) (content : s.phase = .content) (angle : s.lexeme = .angle) (c : Char)
    (lower : 'a' ≤ c ∧ c ≤ 'z') : s.step c = s.enter (.tagName [c]) := by
  apply step_in_line _ _ _ _ (by simp [content]) (lower_allowed c lower) (lower_ne c '\n' lower (by decide))
  rw [State.advance, angle]
  change s.angle c = s.enter (.tagName [c])
  rw [State.angle, if_neg (lower_ne c '!' lower (by decide)), if_neg (lower_ne c '?' lower (by decide)), content]
  dsimp only
  rw [if_neg (lower_ne c '/' lower (by decide)), if_pos (lower_starts s.lettering c lower)]

theorem name_step (s : State) (read : List Char) (c : Char) (content : s.phase = .content)
    (inName : s.lexeme = .tagName read) (lower : 'a' ≤ c ∧ c ≤ 'z') : s.step c = s.enter (.tagName (c :: read)) := by
  apply step_in_line _ _ _ _ (by simp [content]) (lower_allowed c lower) (lower_ne c '\n' lower (by decide))
  rw [State.advance, inName]
  exact if_pos (lower_continues s.lettering c lower)

theorem end_name_step (s : State) (read : List Char) (c : Char) (content : s.phase = .content)
    (inName : s.lexeme = .endName read) (lower : 'a' ≤ c ∧ c ≤ 'z') : s.step c = s.enter (.endName (c :: read)) := by
  apply step_in_line _ _ _ _ (by simp [content]) (lower_allowed c lower) (lower_ne c '\n' lower (by decide))
  rw [State.advance, inName]
  exact if_pos (lower_continues s.lettering c lower)

-- Start tags and end tags differ in the lexeme that collects the letters of a name, not in how it
-- grows. The induction is on the letters to come, with those already read kept last first.
theorem name_emits (making : List Char → Lexeme)
    (grows : ∀ (s : State) (read : List Char) (c : Char), s.phase = .content → s.lexeme = making read →
      'a' ≤ c ∧ c ≤ 'z' → s.step c = s.enter (making (c :: read)))
    (s : State) (content : s.phase = .content) (read : List Char) (inName : s.lexeme = making read)
    (name : List Char) (lower : Lower name) : Emits s name [] (s.enter (making (name.reverse ++ read))).1 := by
  induction name generalizing s read with
  | nil =>
      have same : (s.enter (making ([].reverse ++ read))).1 = s := by simp [State.enter, ← inName]
      rw [same]
      exact emits_nil s
  | cons c rest ih =>
      have inner := ih (s.enter (making (c :: read))).1 content (c :: read) rfl
        fun d member => lower d (List.mem_cons_of_mem _ member)
      have whole := emits_cons s _ _ c rest [] [] (grows s read c content inName (lower c (by simp))) inner
      simpa [State.enter] using whole

theorem close_no_name (l : Lettering) : isNameChar l '>' = false := by cases l <;> rfl

theorem slash_no_name (l : Lettering) : isNameChar l '/' = false := by cases l <;> rfl

theorem tag_name_emits (names : List (List Char)) (s : State) (resting : Resting names s) (c : Char)
    (rest : List Char) (lower : Lower (c :: rest)) :
    ∃ t, Emits s ('<' :: c :: rest) [] t ∧ t.phase = .content ∧ t.names = names ∧
      t.lexeme = .tagName (c :: rest).reverse := by
  have opened := angle_step names s resting
  have started := name_start_step ({ s with tokenLine := s.line }.enter .angle).1 resting.phase rfl c
    (lower c (by simp))
  have continued := name_emits .tagName name_step ({ s with tokenLine := s.line }.enter (.tagName [c])).1 resting.phase
    [c] rfl rest fun d member => lower d (List.mem_cons_of_mem _ member)
  have whole := emits_cons _ _ _ _ _ [] [] opened (emits_cons _ _ _ _ _ [] [] started continued)
  exact ⟨_, whole, resting.phase, resting.names, by simp [State.enter]⟩

theorem open_tag_emits (names : List (List Char)) (s : State) (resting : Resting names s) (c : Char)
    (rest : List Char) (lower : Lower (c :: rest)) :
    ∃ t line, Emits s ('<' :: (c :: rest) ++ ['>']) [.start (c :: rest) line] t ∧
      Resting ((c :: rest) :: names) t := by
  obtain ⟨u, named, content, within, inName⟩ := tag_name_emits names s resting c rest lower
  have closed : u.step '>' = u.startTag ⟨c :: rest, []⟩ := by
    apply step_in_line _ _ _ _ (by simp [content]) rfl (by decide)
    rw [State.advance, inName]
    dsimp only
    rw [close_no_name, List.reverse_reverse]
    rfl
  refine ⟨_, u.tokenLine, emits_append _ _ _ _ _ _ _ named (emits_step _ _ _ _ closed), rfl, ?_, .inl rfl⟩
  rw [← within]

theorem brief_tag_emits (names : List (List Char)) (s : State) (resting : Resting names s) (c : Char)
    (rest : List Char) (lower : Lower (c :: rest)) (inside : names ≠ []) :
    ∃ t line endLine, Emits s ('<' :: (c :: rest) ++ ['/', '>'])
        [.start (c :: rest) line, .finish (c :: rest) endLine] t ∧ Resting names t := by
  obtain ⟨u, named, content, within, inName⟩ := tag_name_emits names s resting c rest lower
  have slashed : u.step '/' = u.enter (.emptyTag ⟨c :: rest, []⟩) := by
    apply step_in_line _ _ _ _ (by simp [content]) rfl (by decide)
    rw [State.advance, inName]
    dsimp only
    rw [slash_no_name, List.reverse_reverse]
    rfl
  have closed : (u.enter (.emptyTag ⟨c :: rest, []⟩)).1.step '>' =
      (u.enter (.emptyTag ⟨c :: rest, []⟩)).1.emptyElement ⟨c :: rest, []⟩ :=
    step_in_line _ _ _ _ (by simp [State.enter, content]) rfl (by decide) rfl
  have ended := emits_cons _ _ _ _ _ [] _ slashed (emits_step _ _ _ _ closed)
  refine ⟨_, u.tokenLine, u.line, emits_append _ _ _ _ _ [] _ named ended, ?_, within, .inl rfl⟩
  cases names with
  | nil => exact absurd rfl inside
  | cons outer others => simp [State.enter, State.phaseAfter, within]

theorem end_start_step (s : State) (content : s.phase = .content) (opened : s.lexeme = .endOpening) (c : Char)
    (lower : 'a' ≤ c ∧ c ≤ 'z') : s.step c = s.enter (.endName [c]) := by
  apply step_in_line _ _ _ _ (by simp [content]) (lower_allowed c lower) (lower_ne c '\n' lower (by decide))
  rw [State.advance, opened]
  exact if_pos (lower_starts s.lettering c lower)

theorem end_name_emits (names : List (List Char)) (s : State) (resting : Resting names s) (c : Char)
    (rest : List Char) (lower : Lower (c :: rest)) :
    ∃ t, Emits s ('<' :: '/' :: c :: rest) [] t ∧ t.phase = .content ∧ t.names = names ∧
      t.lexeme = .endName (c :: rest).reverse := by
  have opened := angle_step _ s resting
  have slashed : ({ s with tokenLine := s.line }.enter .angle).1.step '/' =
      { s with tokenLine := s.line }.enter .endOpening := by
    apply step_in_line _ _ _ _ (by simp [State.enter, resting.phase]) rfl (by decide)
    change State.angle _ '/' = _
    rw [State.angle, if_neg (by decide), if_neg (by decide)]
    dsimp only [State.enter]
    rw [resting.phase]
    rfl
  have started := end_start_step ({ s with tokenLine := s.line }.enter .endOpening).1 resting.phase rfl c
    (lower c (by simp))
  have continued := name_emits .endName end_name_step ({ s with tokenLine := s.line }.enter (.endName [c])).1
    resting.phase [c] rfl rest fun d member => lower d (List.mem_cons_of_mem _ member)
  have whole := emits_cons _ _ _ _ _ [] [] opened (emits_cons _ _ _ _ _ [] [] slashed
    (emits_cons _ _ _ _ _ [] [] started continued))
  exact ⟨_, whole, resting.phase, resting.names, by simp [State.enter]⟩

theorem end_tag_emits (names : List (List Char)) (s : State) (c : Char) (rest : List Char)
    (resting : Resting ((c :: rest) :: names) s) (lower : Lower (c :: rest)) :
    ∃ t line, Emits s ('<' :: '/' :: (c :: rest) ++ ['>']) [.finish (c :: rest) line] t ∧
      t.phase = State.phaseAfter names ∧ t.names = names ∧ t.lexeme = .between := by
  obtain ⟨u, named, content, within, inName⟩ := end_name_emits _ s resting c rest lower
  have closed : u.step '>' =
      ({ u with phase := State.phaseAfter names, lexeme := .between, names := names }, [.finish (c :: rest) u.tokenLine]) := by
    apply step_in_line _ _ _ _ (by simp [content]) rfl (by decide)
    rw [State.advance, inName]
    dsimp only
    rw [close_no_name, List.reverse_reverse]
    change u.endTag (c :: rest) = _
    rw [State.endTag, within]
    exact if_pos rfl
  exact ⟨_, u.tokenLine, emits_append _ _ _ _ _ [] _ named (emits_step _ _ _ _ closed), rfl, rfl, rfl⟩

end TestRun.Xml
