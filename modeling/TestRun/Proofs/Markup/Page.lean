import TestRun.Proofs.Markup.Values
import TestRun.Proofs.Text.Encoding

/-! Whole documents: a prolog in UTF-8, the usual type declaration or none, and one dictionary. -/

set_option autoImplicit false

namespace TestRun.Plist.Written

inductive Naming where
  | upper
  | lower
  | unnamed
  deriving DecidableEq, Repr

structure Prolog where
  apostrophes : Bool
  naming : Naming
  deriving DecidableEq, Repr

def Prolog.mark (p : Prolog) : Char := if p.apostrophes then '\'' else '"'

def Prolog.encoding (p : Prolog) : Option (List Char) :=
  match p.naming with
  | .upper => some "UTF-8".toList
  | .lower => some "utf-8".toList
  | .unnamed => none

def Prolog.settings (p : Prolog) : List Char :=
  " version=".toList ++ [p.mark] ++ "1.0".toList ++ [p.mark] ++
    match p.encoding with
    | some name => " encoding=".toList ++ [p.mark] ++ name ++ [p.mark]
    | none => []

def Prolog.chars (p : Prolog) : List Char := "<?xml".toList ++ p.settings ++ "?>".toList

def doctype : List Char :=
  "<!DOCTYPE plist PUBLIC \"-//Apple//DTD PLIST 1.0//EN\" \"http://www.apple.com/DTDs/PropertyList-1.0.dtd\">".toList

def plistTag (versioned : Bool) : List Char :=
  if versioned then "<plist version=\"1.0\">".toList else "<plist>".toList

structure Page where
  lead : List UInt8
  prolog : Prolog
  typeGap : List Char
  typed : Bool
  rootGap : List Char
  versioned : Bool
  openGap : List Char
  fields : Fields
  lastGap : List Char
  brief : Bool
  closeGap : List Char
  endGap : List Char

namespace Page

def root (p : Page) : Element := .dict p.fields p.lastGap p.brief

def front (p : Page) : List Char :=
  p.typeGap ++ (if p.typed then doctype else []) ++ p.rootGap ++ plistTag p.versioned

def body (p : Page) : List Char :=
  p.front ++ (p.openGap ++ p.root.chars ++ p.closeGap) ++ ("</plist>".toList ++ p.endGap)

def bytes (p : Page) : List UInt8 := p.lead ++ Text.Utf8.encode (p.prolog.chars ++ p.body)

structure Sound (p : Page) : Prop where
  lead : ∀ b ∈ p.lead, Text.isAsciiBlankCode b.toNat = true
  typeGap : Gap p.typeGap
  rootGap : Gap p.rootGap
  openGap : Gap p.openGap
  root : p.root.Sound
  closeGap : Gap p.closeGap
  endGap : Gap p.endGap

end Page

theorem readable_append (left right : List Char) (leftReadable : Readable left) (rightReadable : Readable right) :
    Readable (left ++ right) := by
  intro c member
  rcases List.mem_append.mp member with inLeft | inRight
  · exact leftReadable c inLeft
  · exact rightReadable c inRight

theorem gap_readable (gap : List Char) (gapOnly : Gap gap) : Readable gap :=
  fun c member => (gap_plain c (gapOnly c member)).1

theorem escape_readable (c : Char) (readable : Xml.isAllowed c = true ∧ c ≠ '\r') : Readable (escape c) := by
  unfold escape
  split
  · exact readable_of_all _ rfl
  · split
    · exact readable_of_all _ rfl
    · split
      · exact readable_of_all _ rfl
      · intro d member
        rw [List.mem_singleton.mp member]
        exact readable

theorem escaped_readable (text : List Char) (readable : Readable text) : Readable (text.flatMap escape) := by
  intro c member
  obtain ⟨d, inText, inEscape⟩ := List.mem_flatMap.mp member
  exact escape_readable d (readable d inText) c inEscape

theorem tag_readable (name : String) (named : TagName name) :
    Readable ('<' :: name.toList ++ ['>']) ∧ Readable ('<' :: '/' :: name.toList ++ ['>']) ∧
      Readable ('<' :: name.toList ++ ['/', '>']) := by
  have letters : Readable name.toList := fun c member =>
    ⟨Xml.lower_allowed c (named.lower c member), Xml.lower_ne c '\r' (named.lower c member) (by decide)⟩
  have opening : Readable ['<'] := readable_of_all _ rfl
  have ending : Readable ['<', '/'] := readable_of_all _ rfl
  have closing : Readable ['>'] := readable_of_all _ rfl
  have brief : Readable ['/', '>'] := readable_of_all _ rfl
  exact ⟨readable_append _ _ (readable_append ['<'] _ opening letters) closing,
    readable_append _ _ (readable_append ['<', '/'] _ ending letters) closing,
    readable_append _ _ (readable_append ['<'] _ opening letters) brief⟩

theorem element_readable (name : String) (named : TagName name) (brief : Bool) (content : List Char)
    (readable : Readable content) : Readable (element name brief content) := by
  obtain ⟨opening, ending, short⟩ := tag_readable name named
  unfold element
  split
  · exact short
  · exact readable_append _ _ (readable_append _ _ opening readable) ending

theorem plain_readable (text : List Char) (plain : Plain text) : Readable text :=
  fun c member => (plain c member).1

mutual
theorem chars_readable (e : Element) (sound : e.Sound) : Readable e.chars := by
  obtain ⟨string, integer, yes, no, data, array, dict, -⟩ := tag_names
  cases e with
  | text s brief => exact element_readable "string" string brief _ (escaped_readable s.toList sound)
  | integer i => exact element_readable "integer" integer false _ (plain_readable _ (decimal_plain i))
  | switch b brief =>
      have nothing : Readable [] := by simp [Readable]
      cases b with
      | true => exact element_readable "true" yes brief [] nothing
      | false => exact element_readable "false" no brief [] nothing
  | data bytes spelling brief =>
      exact element_readable "data" data brief _ (plain_readable _ (spelling_plain bytes spelling sound))
  | array items gap brief =>
      exact element_readable "array" array brief _
        (readable_append _ _ (items_readable items sound.1) (gap_readable gap sound.2))
  | dict fields gap brief =>
      exact element_readable "dict" dict brief _
        (readable_append _ _ (fields_readable fields sound.1) (gap_readable gap sound.2))
theorem items_readable (items : Items) (sound : items.Sound) : Readable items.chars := by
  cases items with
  | nil => simp [Readable, Items.chars]
  | cons gap item rest =>
      obtain ⟨gapOnly, itemSound, restSound⟩ := sound
      exact readable_append _ _ (readable_append _ _ (gap_readable gap gapOnly) (chars_readable item itemSound))
        (items_readable rest restSound)
theorem fields_readable (fields : Fields) (sound : fields.Sound) : Readable fields.chars := by
  cases fields with
  | nil => simp [Readable, Fields.chars]
  | cons gap key brief between value rest =>
      obtain ⟨gapOnly, readable, betweenOnly, valueSound, restSound⟩ := sound
      obtain ⟨-, -, -, -, -, -, -, named⟩ := tag_names
      have keyed := element_readable "key" named brief _ (escaped_readable key.toList readable)
      have front := readable_append _ _ (readable_append _ _ (gap_readable gap gapOnly) keyed)
        (gap_readable between betweenOnly)
      exact readable_append _ _ (readable_append _ _ front (chars_readable value valueSound))
        (fields_readable rest restSound)
end

theorem body_readable (p : Page) (sound : p.Sound) : Readable p.body := by
  have typed : Readable (if p.typed then doctype else []) := by
    apply readable_of_all
    cases p.typed <;> decide
  have opening : Readable (plistTag p.versioned) := by
    apply readable_of_all
    cases p.versioned <;> decide
  have ending : Readable "</plist>".toList := readable_of_all _ (by decide)
  have front := readable_append _ _ (readable_append _ _ (readable_append _ _
    (gap_readable _ sound.typeGap) typed) (gap_readable _ sound.rootGap)) opening
  have content := readable_append _ _ (readable_append _ _ (gap_readable _ sound.openGap)
    (chars_readable p.root sound.root)) (gap_readable _ sound.closeGap)
  exact readable_append _ _ (readable_append _ _ front content) (readable_append _ _ ending (gap_readable _ sound.endGap))

theorem split_at_end (inner rest : List Char) (noEnd : '?' ∉ inner) :
    Xml.Declaration.splitAtEnd? (inner ++ '?' :: '>' :: rest) = some (inner, rest) := by
  induction inner with
  | nil => rfl
  | cons c others ih =>
      obtain ⟨differs, noEndLater⟩ := not_or.mp (mt List.mem_cons.mpr noEnd)
      rw [List.cons_append, Xml.Declaration.splitAtEnd?]
      · rw [ih noEndLater]
        rfl
      · intro _ same _
        exact absurd same.symm differs

theorem prolog_settings (p : Prolog) :
    (Xml.Declaration.settings? 3 p.settings).bind Xml.Declaration.ofSettings? = some ⟨p.encoding, false⟩ ∧
      '?' ∉ p.settings ∧ p.settings.head? = some ' ' := by
  obtain ⟨apostrophes, naming⟩ := p
  cases apostrophes <;> cases naming <;> decide +kernel

theorem prolog_ascii (p : Prolog) : ∀ c ∈ p.chars, c.toNat < 0x80 := by
  have all : p.chars.all (fun c => decide (c.toNat < 0x80)) = true := by
    obtain ⟨apostrophes, naming⟩ := p
    cases apostrophes <;> cases naming <;> decide +kernel
  exact fun c member => of_decide_eq_true (List.all_eq_true.mp all c member)

theorem prolog_chars (p : Prolog) (rest : List Char) :
    p.chars ++ rest = "<?xml".toList ++ (p.settings ++ ("?>".toList ++ rest)) := by
  change "<?xml".toList ++ p.settings ++ "?>".toList ++ rest = _
  rw [List.append_assoc, List.append_assoc]

theorem prolog_read (p : Prolog) (rest : List Char) :
    Xml.Declaration.read (p.chars ++ rest) = .present ⟨p.encoding, false⟩ rest := by
  obtain ⟨read, noEnd, spaced⟩ := prolog_settings p
  have opened : p.chars ++ rest = '<' :: '?' :: 'x' :: 'm' :: 'l' :: (p.settings ++ '?' :: '>' :: rest) :=
    prolog_chars p rest
  have longer : (p.settings ++ '?' :: '>' :: rest).head? = some ' ' := by
    rw [List.head?_append, spaced]
    rfl
  rw [opened, Xml.Declaration.read, longer, split_at_end _ rest noEnd]
  simp only [read]
  rfl

theorem ascii_bytes (text : List Char) (ascii : ∀ c ∈ text, c.toNat < 0x80) :
    (Text.Utf8.encode text).map (fun b => Char.ofNat b.toNat) = text := by
  induction text with
  | nil => rfl
  | cons c rest ih =>
      have small : c.val.toNat ≤ 0x7f := Nat.le_of_lt_succ (ascii c (by simp))
      have byte : String.utf8EncodeChar c = [UInt8.ofNat c.toNat] := by
        rw [String.utf8EncodeChar]
        exact if_pos small
      have bound : c.toNat < 256 := Nat.lt_trans (ascii c (by simp)) (by decide)
      rw [Text.Utf8.encode, List.flatMap_cons, byte, List.map_append, List.map_singleton,
        Text.Utf8.byte_to_nat _ bound, Char.ofNat_toNat]
      exact congrArg (List.cons c) (ih fun d member => ascii d (List.mem_cons_of_mem _ member))

theorem prolog_encoding (p : Prolog) : Xml.Encoding.ofBytes p.encoding = .ok .utf8 := by
  obtain ⟨apostrophes, naming⟩ := p
  cases naming <;> rfl

theorem bytes_open (p : Prolog) (rest : List Char) :
    ∃ tail, Text.Utf8.encode (p.chars ++ rest) = ascii "<?xml" ++ tail := by
  refine ⟨Text.Utf8.encode (p.settings ++ ("?>".toList ++ rest)), ?_⟩
  rw [prolog_chars, Text.Utf8.encode_append]
  rfl

theorem bytes_source (p : Prolog) (body : List Char) (readable : Readable body) :
    Xml.Source.ofBytes (Text.Utf8.encode (p.chars ++ body)) =
      .ok ⟨body, true, false, Xml.Source.lineAfter p.chars, .tabled⟩ := by
  have ascii := prolog_ascii p
  have narrow : Xml.Source.ofBytes (Text.Utf8.encode (p.chars ++ body)) =
      Xml.Source.ofNarrow (Text.Utf8.encode (p.chars ++ body)) := by
    obtain ⟨tail, opened⟩ := bytes_open p body
    rw [opened]
    rfl
  have chars : (Text.Utf8.encode (p.chars ++ body)).map (fun b => Char.ofNat b.toNat) =
      p.chars ++ (Text.Utf8.encode body).map fun b => Char.ofNat b.toNat := by
    rw [Text.Utf8.encode_append, List.map_append, ascii_bytes p.chars ascii]
  have length : (Text.Utf8.encode p.chars).length = p.chars.length := by
    have mapped := congrArg List.length (ascii_bytes p.chars ascii)
    rwa [List.length_map] at mapped
  -- Without carriage returns the characters that are decoded are the characters that are read.
  have noReturn : '\r' ∉ body := fun member => (readable '\r' member).2 rfl
  have opening (rest : List Char) : (p.chars ++ rest).take ((p.chars ++ rest).length - rest.length) = p.chars := by
    rw [List.length_append, Nat.add_sub_cancel, List.take_left]
  rw [narrow, Xml.Source.ofNarrow, chars, prolog_read]
  dsimp only
  rw [opening, prolog_encoding, Text.Utf8.encode_append, ← length, List.drop_left]
  change Except.ok (Xml.Source.make _ _ _ _) = _
  rw [Xml.Source.make, Xml.Encoding.decode, Text.Utf8.decode_prefix_encode]
  dsimp only
  rw [Xml.unifyLines_of_no_return body noReturn]
  rfl

open Xml (Emits Resting State)

theorem doctype_emits (line tokenLine : Nat) :
    Emits ⟨.opening false, .between, [], line, tokenLine, .initial false, .tabled⟩ doctype []
      ⟨.opening true, .between, [], line, line, ⟨false, true, true⟩, .tabled⟩ := by
  repeat refine Xml.emits_cons_silent _ _ _ _ _ _ rfl ?_
  exact Xml.emits_nil _

theorem plist_tag_emits (versioned typed : Bool) (line tokenLine : Nat) (known : Xml.Doctype.Known) :
    Emits ⟨.opening typed, .between, [], line, tokenLine, known, .tabled⟩ (plistTag versioned)
      [.start "plist".toList line] ⟨.content, .between, ["plist".toList], line, line, known, .tabled⟩ := by
  cases versioned
  all_goals
    repeat refine Xml.emits_cons_silent _ _ _ _ _ _ rfl ?_
    exact Xml.emits_step _ _ _ _ rfl

theorem typed_emits (typed : Bool) (line tokenLine : Nat) :
    ∃ nextLine known, Emits ⟨.opening false, .between, [], line, tokenLine, .initial false, .tabled⟩
      (if typed then doctype else []) [] ⟨.opening typed, .between, [], line, nextLine, known, .tabled⟩ := by
  cases typed with
  | true => exact ⟨line, _, doctype_emits line tokenLine⟩
  | false => exact ⟨tokenLine, _, Xml.emits_nil _⟩

theorem front_emits (p : Page) (sound : p.Sound) (line : Nat) :
    ∃ t start, Emits ⟨.opening false, .between, [], line, line, .initial false, .tabled⟩ p.front
      [.start "plist".toList start] t ∧ Resting ["plist".toList] t := by
  obtain ⟨first, typeGap⟩ := Xml.outside_gap_emits ⟨.opening false, .between, [], line, line, .initial false, .tabled⟩
    (.inr ⟨false, rfl⟩) rfl p.typeGap sound.typeGap
  obtain ⟨token, known, typed⟩ := typed_emits p.typed first line
  obtain ⟨second, rootGap⟩ := Xml.outside_gap_emits ⟨.opening p.typed, .between, [], first, token, known, .tabled⟩
    (.inr ⟨p.typed, rfl⟩) rfl p.rootGap sound.rootGap
  have opened := plist_tag_emits p.versioned p.typed second token known
  have gaps := Xml.emits_append _ _ _ _ _ [] [] (Xml.emits_append _ _ _ _ _ [] [] typeGap typed) rootGap
  exact ⟨_, second, Xml.emits_append _ _ _ _ _ [] _ gaps opened, rfl, rfl, .inl rfl⟩

theorem back_emits (s : State) (resting : Resting ["plist".toList] s) (gap : List Char) (gapOnly : Gap gap) :
    ∃ t line, Emits s ("</plist>".toList ++ gap) [.finish "plist".toList line] t ∧ t.finish true = [] := by
  have lower : Xml.Lower ['p', 'l', 'i', 's', 't'] := Xml.lower_of_all _ (by decide)
  obtain ⟨t, line, emits, phase, -, lexeme⟩ := Xml.end_tag_emits [] s 'p' ['l', 'i', 's', 't'] resting lower
  obtain ⟨last, rest⟩ := Xml.outside_gap_emits t (.inl phase) lexeme gap gapOnly
  refine ⟨_, line, Xml.emits_append _ _ _ _ _ _ [] emits rest, ?_⟩
  obtain ⟨tPhase, tLexeme, names, tLine, tokenLine, known, lettering⟩ := t
  dsimp only at phase lexeme
  subst phase lexeme
  rfl

theorem plist_tag_steps (b : Builder) (held : List Char) (line : Nat) :
    (b.holding held).step (.start "plist".toList line) = .ok (b.holding []) ∧
      (b.holding held).step (.finish "plist".toList line) = .ok (b.holding held) := by
  rw [Builder.step, Builder.step, String.ofList_toList]
  exact ⟨start_other b held "plist" (by decide) (by decide) line, by simp [Builder.finish]⟩

theorem body_builds (p : Page) (sound : p.Sound) (line : Nat) :
    ∃ t events held, Emits ⟨.opening false, .between, [], line, line, .initial false, .tabled⟩ p.body events t ∧
      t.finish true = [] ∧
      Builder.empty.run events = .ok ((Builder.empty.put .root p.root.value).holding held) := by
  have content := element_carries p.root sound.root ["plist".toList] (by simp) _ _ .root places_root rfl
  have spaced := carries_append _ _ _ _ _ _
    (carries_append _ _ _ _ _ _ (gap_carries _ Builder.empty p.openGap sound.openGap) content)
    (gap_carries _ _ p.closeGap sound.closeGap)
  obtain ⟨first, start, frontEmits, opened⟩ := front_emits p sound line
  obtain ⟨second, events, held, contentEmits, resting, built⟩ := spaced first [] opened
  obtain ⟨last, stop, backEmits, finished⟩ := back_emits second resting p.endGap sound.endGap
  have all := Xml.emits_append _ _ _ _ _ _ _ (Xml.emits_append _ _ _ _ _ _ _ frontEmits contentEmits) backEmits
  refine ⟨last, _, held, all, finished, ?_⟩
  have started : Builder.empty.step (.start "plist".toList start) = .ok (Builder.empty.holding []) :=
    (plist_tag_steps Builder.empty [] start).1
  have ended := run_one _ _ _ (plist_tag_steps (Builder.empty.put .root p.root.value) held stop).2
  rw [List.singleton_append, Builder.run_append, Builder.run, started]
  dsimp only
  rw [built]
  exact ended

theorem read_markup_page (p : Page) (sound : p.Sound) :
    readMarkup (Text.Utf8.encode (p.prolog.chars ++ p.body)) = .ok (some p.root.value) := by
  obtain ⟨t, events, held, emits, finished, built⟩ := body_builds p sound (Xml.Source.lineAfter p.prolog.chars)
  have same : Xml.events (Text.Utf8.encode (p.prolog.chars ++ p.body)) = events := by
    rw [Xml.events, bytes_source p.prolog p.body (body_readable p sound)]
    change Xml.eventsOf _ = _
    rw [Xml.eventsOf, Xml.State.initial, emits []]
    dsimp only
    rw [finished]
    simp
  rw [readMarkup, same, built]
  rfl

theorem stripped_lead (p : Page) (sound : p.Sound) :
    stripped p.bytes = Text.Utf8.encode (p.prolog.chars ++ p.body) := by
  obtain ⟨tail, opened⟩ := bytes_open p.prolog p.body
  rw [Page.bytes, stripped, List.dropWhile_append_of_pos sound.lead, opened]
  rfl

theorem read_page (p : Page) (sound : p.Sound) : Plist.read p.bytes = .ok (some p.root.value) := by
  have markup : isMarkup (Text.Utf8.encode (p.prolog.chars ++ p.body)) = true := by
    obtain ⟨tail, opened⟩ := bytes_open p.prolog p.body
    rw [opened]
    rfl
  rw [Plist.read, stripped_lead p sound, if_pos markup]
  exact read_markup_page p sound

end TestRun.Plist.Written
