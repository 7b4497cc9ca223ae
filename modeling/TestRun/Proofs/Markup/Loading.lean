import TestRun.Proofs.Markup.Page

/-! What a written document loads as: the tree that was written, where a key that is written twice keeps its first
place and takes its last value. -/

set_option autoImplicit false

namespace TestRun.Plist.Written

open Environment (keyed collapse collapse_distinct)

mutual
def Element.written : Element → Value
  | .text s _ => .text s
  | .integer i => .int i
  | .switch b _ => .bool b
  | .data bytes _ _ => .data bytes
  | .array items _ _ => .array items.written
  | .dict fields _ _ => .dict (keyed fields.written)
def Items.written : Items → List Value
  | .nil => []
  | .cons _ item rest => item.written :: rest.written
def Fields.written : Fields → List (String × Value)
  | .nil => []
  | .cons _ key _ _ value rest => (key, value.written) :: rest.written
end

inductive Tidy : Value → Prop where
  | text (s : String) : Tidy (.text s)
  | int (i : Int) : Tidy (.int i)
  | bool (b : Bool) : Tidy (.bool b)
  | data (bytes : List UInt8) : Tidy (.data bytes)
  | array (items : List Value) (tidy : ∀ v ∈ items, Tidy v) : Tidy (.array items)
  | dict (entries : Environment) (distinct : (entries.map (·.1)).Nodup) (tidy : ∀ e ∈ entries, Tidy e.2) :
      Tidy (.dict (keyed entries))

inductive Writable : Value → Prop where
  | text (s : String) (readable : Readable s.toList) : Writable (.text s)
  | int (i : Int) (short : Numeral.Short i) : Writable (.int i)
  | bool (b : Bool) : Writable (.bool b)
  | data (bytes : List UInt8) : Writable (.data bytes)
  | array (items : List Value) (writable : ∀ v ∈ items, Writable v) : Writable (.array items)
  | dict (entries : Environment) (readable : ∀ e ∈ entries, Readable e.1.toList)
      (writable : ∀ e ∈ entries, Writable e.2) : Writable (.dict (keyed entries))

theorem keyed_injective (left right : Environment) (same : keyed left = keyed right) : left = right := by
  have texts : Function.Injective fun e : String × Value => (Value.text e.1, e.2) := by
    rintro ⟨k, v⟩ ⟨l, w⟩ both
    obtain ⟨keys, values⟩ := Prod.mk.inj both
    exact Prod.ext (Value.text.inj keys) values
  exact (List.map_inj_right fun a b both => texts both).mp same

theorem tidy_dict (entries : Environment) (tidy : Tidy (.dict (keyed entries))) :
    (entries.map (·.1)).Nodup ∧ ∀ e ∈ entries, Tidy e.2 := by
  generalize named : Value.dict (keyed entries) = v at tidy
  cases tidy with
  | dict others distinct inner =>
      rw [keyed_injective entries others (Value.dict.inj named)]
      exact ⟨distinct, inner⟩
  | _ => cases named

mutual
theorem value_written (e : Element) (tidy : Tidy e.written) : e.value = e.written := by
  cases e with
  | array items gap brief =>
      cases tidy with
      | array _ inner => exact congrArg Value.array (values_written items inner)
  | dict fields gap brief =>
      obtain ⟨distinct, inner⟩ := tidy_dict fields.written tidy
      rw [Element.value, Element.written, entries_written fields inner, collapse_distinct _ distinct]
  | _ => rfl
theorem values_written (items : Items) (tidy : ∀ v ∈ items.written, Tidy v) : items.values = items.written := by
  cases items with
  | nil => rfl
  | cons gap item rest =>
      have head := value_written item (tidy _ (by simp [Items.written]))
      have tail := values_written rest fun v member => tidy v (by simp [Items.written, member])
      rw [Items.values, Items.written, head, tail]
theorem entries_written (fields : Fields) (tidy : ∀ e ∈ fields.written, Tidy e.2) :
    fields.entries = fields.written := by
  cases fields with
  | nil => rfl
  | cons gap key brief between value rest =>
      have head := value_written value (tidy (key, value.written) (by simp [Fields.written]))
      have tail := entries_written rest fun e member => tidy e (by simp [Fields.written, member])
      rw [Fields.entries, Fields.written, head, tail]
end

theorem base64_no_gap (bytes : List UInt8) :
    (Base64.encode bytes).filter (fun c => !isGap c) = Base64.encode bytes :=
  List.filter_eq_self.mpr (Base64.encode_all (fun c => (!isGap c) = true) (by decide) (by decide) bytes)

theorem items_written (items : List Value) (writes : ∀ v ∈ items, ∃ e : Element, e.Sound ∧ e.written = v) :
    ∃ made : Items, made.Sound ∧ made.written = items := by
  induction items with
  | nil => exact ⟨.nil, trivial, rfl⟩
  | cons v rest ih =>
      obtain ⟨e, sound, same⟩ := writes v (by simp)
      obtain ⟨made, soundRest, sameRest⟩ := ih fun w member => writes w (List.mem_cons_of_mem _ member)
      exact ⟨.cons [] e made, ⟨by simp [Gap], sound, soundRest⟩, by rw [Items.written, same, sameRest]⟩

theorem fields_written (entries : Environment) (readable : ∀ e ∈ entries, Readable e.1.toList)
    (writes : ∀ e ∈ entries, ∃ made : Element, made.Sound ∧ made.written = e.2) :
    ∃ made : Fields, made.Sound ∧ made.written = entries := by
  induction entries with
  | nil => exact ⟨.nil, trivial, rfl⟩
  | cons entry rest ih =>
      obtain ⟨e, sound, same⟩ := writes entry (by simp)
      obtain ⟨made, soundRest, sameRest⟩ := ih (fun d member => readable d (List.mem_cons_of_mem _ member))
        fun d member => writes d (List.mem_cons_of_mem _ member)
      exact ⟨.cons [] entry.1 false [] e made, ⟨by simp [Gap], readable entry (by simp), by simp [Gap], sound, soundRest⟩,
        by rw [Fields.written, same, sameRest]⟩

theorem writable_written (v : Value) (writable : Writable v) : ∃ e : Element, e.Sound ∧ e.written = v := by
  induction writable with
  | text s readable => exact ⟨.text s false, readable, rfl⟩
  | int i short => exact ⟨.integer i, short, rfl⟩
  | bool b => exact ⟨.switch b false, trivial, rfl⟩
  | data bytes => exact ⟨.data bytes (Base64.encode bytes) false, base64_no_gap bytes, rfl⟩
  | array items _ ih =>
      obtain ⟨made, sound, same⟩ := items_written items ih
      exact ⟨.array made [] false, ⟨sound, by simp [Gap]⟩, congrArg Value.array same⟩
  | dict entries readable _ ih =>
      obtain ⟨made, sound, same⟩ := fields_written entries readable ih
      exact ⟨.dict made [] false, ⟨sound, by simp [Gap]⟩, congrArg (fun e => Value.dict (keyed e)) same⟩

def pageOf (fields : Fields) : Page where
  lead := []
  prolog := ⟨false, .upper⟩
  typeGap := []
  typed := true
  rootGap := []
  versioned := true
  openGap := []
  fields := fields
  lastGap := []
  brief := false
  closeGap := []
  endGap := []

theorem writable_page (entries : Environment) (writable : Writable (.dict (keyed entries))) :
    ∃ p : Page, p.Sound ∧ p.fields.written = entries := by
  generalize named : Value.dict (keyed entries) = v at writable
  cases writable with
  | dict others readable inner =>
      obtain ⟨made, sound, same⟩ := fields_written others readable fun e member => writable_written e.2 (inner e member)
      have empty : Gap [] := by simp [Gap]
      refine ⟨pageOf made, ⟨by simp [pageOf], empty, empty, empty, ⟨sound, empty⟩, empty, empty⟩, ?_⟩
      exact same.trans (keyed_injective entries others (Value.dict.inj named)).symm
  | _ => cases named

theorem load_page (p : Page) (sound : p.Sound) :
    Document.load p.bytes = .ok (keyed (collapse p.fields.entries)) := by
  rw [Document.load, read_page p sound]
  rfl

theorem load_tidy_page (p : Page) (sound : p.Sound) (tidy : Tidy p.root.written) :
    Document.load p.bytes = .ok (keyed p.fields.written) := by
  obtain ⟨distinct, inner⟩ := tidy_dict p.fields.written tidy
  rw [load_page p sound, entries_written p.fields inner, collapse_distinct _ distinct]

theorem load_written_page (p : Page) (sound : p.Sound) :
    Document.load p.bytes = .ok (keyed (collapse p.fields.entries)) ∧
      (Tidy p.root.written → Document.load p.bytes = .ok (keyed p.fields.written)) :=
  ⟨load_page p sound, load_tidy_page p sound⟩

def repeatedKeyPage : Page where
  lead := [10, 32]
  prolog := ⟨true, .lower⟩
  typeGap := ['\n']
  typed := true
  rootGap := ['\n', '\n']
  versioned := false
  openGap := ['\t']
  fields := .cons [' '] "" true ['\n'] (.text "<&>" false)
    (.cons [] "k" false [] (.array (.cons ['\n'] (.integer (-12)) .nil) ['\n'] false)
      (.cons ['\n'] "" false [' '] (.data [1, 2, 255] ['A', 'Q', '\n', 'L', '/'] false) .nil))
  lastGap := ['\n']
  brief := true
  closeGap := ['\n']
  endGap := [' ', '\n']

def tidyPage : Page := pageOf (.cons [] "a" false [] (.dict (.cons [] "a" false [] (.switch true true) .nil) [] false) .nil)

theorem repeated_key_sound : repeatedKeyPage.Sound where
  lead := List.all_eq_true.mp rfl
  typeGap := gap_of_all _ rfl
  rootGap := gap_of_all _ rfl
  openGap := gap_of_all _ rfl
  root := by
    have twelve : Numeral.Short (-12) := (Numeral.short_iff (-12)).mpr (by decide)
    have spelled : Element.Sound (.data [1, 2, 255] ['A', 'Q', '\n', 'L', '/'] false) := by
      unfold Element.Sound
      decide
    refine ⟨⟨gap_of_all _ rfl, readable_of_all _ rfl, gap_of_all _ rfl, readable_of_all _ rfl, ?_⟩, gap_of_all _ rfl⟩
    refine ⟨gap_of_all _ rfl, readable_of_all _ rfl, gap_of_all _ rfl, ?_, ?_⟩
    · exact ⟨⟨gap_of_all _ rfl, twelve, trivial⟩, gap_of_all _ rfl⟩
    · exact ⟨gap_of_all _ rfl, readable_of_all _ rfl, gap_of_all _ rfl, spelled, trivial⟩
  closeGap := gap_of_all _ rfl
  endGap := gap_of_all _ rfl

theorem tidy_page_sound : tidyPage.Sound where
  lead := List.all_eq_true.mp rfl
  typeGap := gap_of_all _ rfl
  rootGap := gap_of_all _ rfl
  openGap := gap_of_all _ rfl
  root := by
    refine ⟨⟨gap_of_all _ rfl, readable_of_all _ rfl, gap_of_all _ rfl, ?_, trivial⟩, gap_of_all _ rfl⟩
    exact ⟨⟨gap_of_all _ rfl, readable_of_all _ rfl, gap_of_all _ rfl, trivial, trivial⟩, gap_of_all _ rfl⟩
  closeGap := gap_of_all _ rfl
  endGap := gap_of_all _ rfl

theorem repeated_and_tidy_pages_load :
    repeatedKeyPage.Sound ∧
      Document.load repeatedKeyPage.bytes =
        .ok [(.text "", .data [1, 2, 255]), (.text "k", .array [.int (-12)])] ∧
      tidyPage.Sound ∧ Tidy tidyPage.root.written ∧
      Document.load tidyPage.bytes = .ok [(.text "a", .dict [(.text "a", .bool true)])] := by
  have tidy : Tidy tidyPage.root.written := by
    have inner : Tidy (.dict (keyed [("a", .bool true)])) :=
      .dict _ (by simp) fun e member => by
        rw [List.mem_singleton.mp member]
        exact .bool true
    refine .dict [("a", .dict (keyed [("a", .bool true)]))] (by simp) fun e member => ?_
    rw [List.mem_singleton.mp member]
    exact inner
  exact ⟨repeated_key_sound, (load_written_page repeatedKeyPage repeated_key_sound).1, tidy_page_sound, tidy,
    (load_written_page tidyPage tidy_page_sound).2 tidy⟩

end TestRun.Plist.Written
