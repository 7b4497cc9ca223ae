import TestRun.Proofs.Markup.Building

/-! Every written element is read as the value it stands for, wherever it stands. -/

set_option autoImplicit false

namespace TestRun.Plist.Written

def PlainChar (c : Char) : Prop := (Xml.isAllowed c = true ∧ c ≠ '\r') ∧ c ≠ '&' ∧ c ≠ '<' ∧ c ≠ '>'

def Plain (text : List Char) : Prop := ∀ c ∈ text, PlainChar c

theorem escape_plain_text (text : List Char) (plain : Plain text) : text.flatMap escape = text := by
  induction text with
  | nil => rfl
  | cons c rest ih =>
      obtain ⟨-, noReference, noTag, noClose⟩ := plain c (by simp)
      rw [List.flatMap_cons, escape_plain c noReference noTag noClose,
        ih fun d member => plain d (List.mem_cons_of_mem _ member)]
      rfl

theorem gap_plain (c : Char) (gap : isGap c = true) : PlainChar c := by
  unfold PlainChar
  rcases gap_cases c gap with rfl | rfl | rfl <;> decide

theorem digit_plain (c : Char) (digit : c.isDigit = true) : PlainChar c := by
  obtain ⟨low, high⟩ := Numeral.digit_bounds c digit
  refine ⟨⟨?_, ?_⟩, ?_, ?_, ?_⟩
  · rw [Xml.isAllowed, if_neg (by omega)]
    simp
    omega
  all_goals
    rintro rfl
    cases digit

theorem decimal_plain (i : Int) : Plain (Numeral.decimal i) := by
  have digits : Plain (Nat.toDigits 10 i.natAbs) := fun c member =>
    digit_plain c (Nat.isDigit_of_mem_toDigits (by decide) (by decide) member)
  unfold Numeral.decimal
  split
  · intro c member
    cases member with
    | head => unfold PlainChar; decide
    | tail _ inner => exact digits c inner
  · exact digits

theorem base64_plain (bytes : List UInt8) : Plain (Base64.encode bytes) := by
  apply Base64.encode_all PlainChar
  · unfold PlainChar
    decide
  · unfold PlainChar
    decide

theorem spelling_plain (bytes : List UInt8) (spelling : List Char)
    (sound : spelling.filter (fun c => !isGap c) = Base64.encode bytes) : Plain spelling := by
  intro c member
  cases gap : isGap c with
  | true =>
      exact gap_plain c gap
  | false =>
      apply base64_plain bytes c
      rw [← sound]
      exact List.mem_filter.mpr ⟨member, by simp [gap]⟩

theorem decode_spelling (bytes : List UInt8) (spelling : List Char)
    (sound : spelling.filter (fun c => !isGap c) = Base64.encode bytes) :
    Base64.decode? spelling = some bytes := by
  have passed : ∀ c, (!isGap c) = false → c ≠ '=' ∧ Base64.value? c = none := by
    intro c gap
    have : isGap c = true := by simpa using gap
    rcases gap_cases c this with rfl | rfl | rfl <;> decide
  rw [Base64.decode?, ← Base64.decode_from_filter _ _ _ _ passed, sound]
  exact Base64.decode_encode bytes

theorem element_ne_nil (name : String) (brief : Bool) (content : List Char) : element name brief content ≠ [] := by
  unfold element
  split <;> simp

theorem element_solid (e : Element) : e.chars ≠ [] := by
  cases e <;> exact element_ne_nil _ _ _

theorem items_empty (items : Items) (empty : items.chars = []) : items = .nil := by
  cases items with
  | nil => rfl
  | cons gap item rest =>
      have inner := (List.append_eq_nil_iff.mp empty).1
      exact absurd (List.append_eq_nil_iff.mp inner).2 (element_solid item)

theorem fields_empty (fields : Fields) (empty : fields.chars = []) : fields = .nil := by
  cases fields with
  | nil => rfl
  | cons gap key brief between value rest =>
      have inner := (List.append_eq_nil_iff.mp empty).1
      exact absurd (List.append_eq_nil_iff.mp inner).2 (element_solid value)

theorem places_item (slot : Slot) (done : List Value) (outer : List Frame) (root : Option Value) :
    Builder.Places ⟨⟨slot, .array done⟩ :: outer, none, root, []⟩ .item ⟨⟨slot, .array done⟩ :: outer, none, root, []⟩ :=
  fun _ _ => rfl

theorem places_entry (slot : Slot) (done : Entries) (outer : List Frame) (key : String) (root : Option Value) :
    Builder.Places ⟨⟨slot, .dict done⟩ :: outer, some key, root, []⟩ (.entry key)
      ⟨⟨slot, .dict done⟩ :: outer, none, root, []⟩ :=
  fun _ _ => rfl

theorem places_root : Builder.Places Builder.empty .root Builder.empty := fun _ _ => rfl

theorem key_carries (names : List (List Char)) (inside : names ≠ []) (slot : Slot) (done : Entries)
    (outer : List Frame) (root : Option Value) (key : String) (brief : Bool) (readable : Readable key.toList) :
    Carries names ⟨⟨slot, .dict done⟩ :: outer, none, root, []⟩ (element "key" brief (key.toList.flatMap escape))
      ⟨⟨slot, .dict done⟩ :: outer, some key, root, []⟩ := by
  obtain ⟨-, -, -, -, -, -, -, named⟩ := tag_names
  apply text_element_carries names "key" named inside _ _ (by decide) (by decide) brief _
    fun c member => (readable c member).1
  intro line
  simp [Builder.finish, Builder.closeKey, Builder.waiting?, Builder.holding, Builder.takeText, Container.isDict]

theorem open_container (b next : Builder) (slot : Slot) (placed : b.Places slot next) (held : List Char)
    (line : Nat) (c : Container) :
    (b.holding held).openContainer line c = .ok ({ next with frames := ⟨slot, c⟩ :: next.frames }.holding held) := by
  rw [Builder.openContainer, placed held line]
  rfl

theorem close_container (next : Builder) (slot : Slot) (held : List Char) (c : Container) :
    ({ next with frames := ⟨slot, c⟩ :: next.frames }.holding held).closeContainer =
      .ok ((next.put slot c.value).holding held) := by
  obtain ⟨frames, key, root, text⟩ := next
  exact congrArg Except.ok (Builder.put_holding ⟨frames, key, root, text⟩ held slot c.value)

theorem start_container (b next : Builder) (slot : Slot) (placed : b.Places slot next) (held : List Char)
    (line : Nat) :
    (b.holding held).start "array" line = .ok ({ next with frames := ⟨slot, .array []⟩ :: next.frames }.holding []) ∧
    (b.holding held).start "dict" line = .ok ({ next with frames := ⟨slot, .dict []⟩ :: next.frames }.holding []) := by
  constructor
  · rw [Builder.start, if_neg (by decide), if_pos rfl]
    exact open_container b next slot placed [] line (.array [])
  · rw [Builder.start, if_pos rfl]
    exact open_container b next slot placed [] line (.dict [])

theorem finish_container (next : Builder) (slot : Slot) (held : List Char) (line : Nat) (free : next.key = none)
    (items : List Value) (entries : Entries) :
    ({ next with frames := ⟨slot, .array items⟩ :: next.frames }.holding held).finish "array" line =
      .ok ((next.put slot (.array items.reverse)).holding held) ∧
    ({ next with frames := ⟨slot, .dict entries⟩ :: next.frames }.holding held).finish "dict" line =
      .ok ((next.put slot (.dict entries)).holding held) := by
  constructor
  · rw [Builder.finish, if_neg (by decide), if_pos rfl]
    exact close_container next slot held (.array items)
  · rw [Builder.finish, if_pos rfl, Builder.closeDict]
    have nothing : Builder.waiting? ({ next with frames := ⟨slot, .dict entries⟩ :: next.frames }.holding held) = none := by
      simp [Builder.waiting?, Builder.holding, free]
    rw [nothing]
    exact close_container next slot held (.dict entries)

-- Element, items and fields recurse together, as the document does. Items and fields are read into
-- the frame that the tag around them opened; what they leave of it is placed when it closes.
mutual
theorem element_carries (e : Element) (sound : e.Sound) (names : List (List Char)) (inside : names ≠ [])
    (b next : Builder) (slot : Slot) (placed : b.Places slot next) (free : next.key = none) :
    Carries names b e.chars (next.put slot e.value) := by
  obtain ⟨string, integer, yes, no, data, array, dict, -⟩ := tag_names
  cases e with
  | text s brief =>
      rw [Element.chars, Element.value]
      apply text_element_carries names "string" string inside b _ (by decide) (by decide) brief _
        fun c member => (sound c member).1
      intro line
      have closes := Builder.close_scalar_placed b next slot placed s.toList line Builder.readText (.text s)
        (by rw [Builder.readText, String.ofList_toList])
      simpa [Builder.finish] using closes
  | integer i =>
      have plain := decimal_plain i
      rw [Element.chars, Element.value, ← escape_plain_text _ plain]
      apply text_element_carries names "integer" integer inside b _ (by decide) (by decide) false _
        fun c member => (plain c member).1.1
      intro line
      have closes := Builder.close_scalar_placed b next slot placed (Numeral.decimal i) line Builder.readInteger
        (.int i) (by rw [Builder.readInteger, Numeral.document_integer_decimal i sound])
      simpa [Builder.finish] using closes
  | switch v brief =>
      rw [Element.chars, Element.value]
      cases v with
      | true =>
          apply text_element_carries names "true" yes inside b _ (by decide) (by decide) brief [] (by simp)
          intro line
          simpa [Builder.finish] using Builder.add_placed b next slot placed [] line (.bool true)
      | false =>
          apply text_element_carries names "false" no inside b _ (by decide) (by decide) brief [] (by simp)
          intro line
          simpa [Builder.finish] using Builder.add_placed b next slot placed [] line (.bool false)
  | data bytes spelling brief =>
      have plain := spelling_plain bytes spelling sound
      rw [Element.chars, Element.value, ← escape_plain_text _ plain]
      apply text_element_carries names "data" data inside b _ (by decide) (by decide) brief _
        fun c member => (plain c member).1.1
      intro line
      have closes := Builder.close_scalar_placed b next slot placed spelling line Builder.readData
        (.data bytes) (by rw [Builder.readData, decode_spelling bytes spelling sound])
      simpa [Builder.finish] using closes
  | array items gap brief =>
      obtain ⟨frames, key, root, text⟩ := next
      subst free
      have filled := items_carry items sound.1 ("array".toList :: names) (by simp) slot [] frames root
      rw [List.append_nil] at filled
      have ended := gap_carries ("array".toList :: names)
        ⟨⟨slot, .array items.values.reverse⟩ :: frames, none, root, []⟩ gap sound.2
      rw [Element.chars, Element.value]
      apply container_carries names "array" array inside b _ _ _ brief _
        (fun line held => (start_container b _ slot placed held line).1)
        (carries_append _ _ _ _ _ _ filled ended)
      · intro empty
        rw [items_empty items (List.append_eq_nil_iff.mp empty).1]
        rfl
      · intro line held
        have closed := (finish_container ⟨frames, none, root, text⟩ slot held line rfl items.values.reverse []).1
        rw [List.reverse_reverse] at closed
        exact closed
  | dict fields gap brief =>
      obtain ⟨frames, key, root, text⟩ := next
      subst free
      have filled := fields_carry fields sound.1 ("dict".toList :: names) (by simp) slot [] frames root
      have ended := gap_carries ("dict".toList :: names)
        ⟨⟨slot, .dict (Entries.merge [] (Environment.keyed fields.entries))⟩ :: frames, none, root, []⟩ gap sound.2
      -- Fields are set one after the other; only from an empty dictionary does that collapse them.
      rw [Element.chars, Element.value, ← Environment.merge_nil_collapses]
      apply container_carries names "dict" dict inside b _ _ _ brief _
        (fun line held => (start_container b _ slot placed held line).2)
        (carries_append _ _ _ _ _ _ filled ended)
      · intro empty
        rw [fields_empty fields (List.append_eq_nil_iff.mp empty).1]
        rfl
      · intro line held
        exact (finish_container ⟨frames, none, root, text⟩ slot held line rfl [] _).2
theorem items_carry (items : Items) (sound : items.Sound) (names : List (List Char)) (inside : names ≠ [])
    (slot : Slot) (done : List Value) (outer : List Frame) (root : Option Value) :
    Carries names ⟨⟨slot, .array done⟩ :: outer, none, root, []⟩ items.chars
      ⟨⟨slot, .array (items.values.reverse ++ done)⟩ :: outer, none, root, []⟩ := by
  cases items with
  | nil => exact carries_nil names _
  | cons gap item rest =>
      obtain ⟨gapOnly, itemSound, restSound⟩ := sound
      have spaced := gap_carries names ⟨⟨slot, .array done⟩ :: outer, none, root, []⟩ gap gapOnly
      have placed := element_carries item itemSound names inside _ _ .item (places_item slot done outer root) rfl
      have others := items_carry rest restSound names inside slot (item.value :: done) outer root
      have whole := carries_append _ _ _ _ _ _ (carries_append _ _ _ _ _ _ spaced placed) others
      simpa [Items.chars, Items.values] using whole
theorem fields_carry (fields : Fields) (sound : fields.Sound) (names : List (List Char)) (inside : names ≠ [])
    (slot : Slot) (done : Entries) (outer : List Frame) (root : Option Value) :
    Carries names ⟨⟨slot, .dict done⟩ :: outer, none, root, []⟩ fields.chars
      ⟨⟨slot, .dict (Entries.merge done (Environment.keyed fields.entries))⟩ :: outer, none, root, []⟩ := by
  cases fields with
  | nil => exact carries_nil names _
  | cons gap key brief between value rest =>
      obtain ⟨gapOnly, readable, betweenOnly, valueSound, restSound⟩ := sound
      have spaced := gap_carries names ⟨⟨slot, .dict done⟩ :: outer, none, root, []⟩ gap gapOnly
      have named := key_carries names inside slot done outer root key brief readable
      have divided := gap_carries names ⟨⟨slot, .dict done⟩ :: outer, some key, root, []⟩ between betweenOnly
      have placed := element_carries value valueSound names inside _ _ (.entry key)
        (places_entry slot done outer key root) rfl
      have others := fields_carry rest restSound names inside slot
        (Entries.put (.text key) value.value done) outer root
      have front := carries_append _ _ _ _ _ _ (carries_append _ _ _ _ _ _ spaced named) divided
      exact carries_append _ _ _ _ _ _ (carries_append _ _ _ _ _ _ front placed) others
end

end TestRun.Plist.Written
