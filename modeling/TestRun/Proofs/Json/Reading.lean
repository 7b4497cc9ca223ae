import TestRun.Json.Read
import TestRun.Proofs.Json.Portable

/-! The canonical text of a plain value: there is one, and it reads back as the value with its keys in order. -/

set_option autoImplicit false

namespace TestRun.Json

open Environment (keyed put_absent put_keyed)
open Numeral (decimal Short)
open Text (codes)

-- A text that reads as a value wherever it stands, if no number goes on behind it. Its length bounds the depth
-- of the reading.
structure Spells (text : List Char) (v : Value) : Prop where
  solid : ∃ c rest, text = c :: rest ∧ isSpace c = false ∧ c ≠ ']'
  read : ∀ fuel rest, text.length ≤ fuel → Stops rest → value fuel (text ++ rest) = .ok (v, rest)

theorem skip_solid (c : Char) (rest : List Char) (solid : isSpace c = false) : skip (c :: rest) = c :: rest := by
  simp [skip, solid]

theorem spells_null : Spells "null".toList .null where
  solid := ⟨'n', "ull".toList, rfl, rfl, by decide⟩
  read := by
    intro fuel rest enough _
    cases fuel with
    | zero => cases enough
    | succ fuel => rfl

theorem spells_bool (b : Bool) : Spells (boolText b) (.bool b) where
  solid := by
    cases b
    · exact ⟨'f', "alse".toList, rfl, rfl, by decide⟩
    · exact ⟨'t', "rue".toList, rfl, rfl, by decide⟩
  read := by
    intro fuel rest enough _
    cases fuel with
    | zero => cases b <;> cases enough
    | succ fuel => cases b <;> rfl

theorem spells_text (s : String) : Spells (quotedChars s.toList) (.text s) where
  solid := ⟨'"', _, rfl, rfl, by decide⟩
  read := by
    intro fuel rest enough _
    cases fuel with
    | zero => cases enough
    | succ fuel =>
        have back := unquote_quoted s.toList rest
        rw [String.ofList_toList] at back
        have whole : quotedChars s.toList ++ rest = '"' :: (s.toList.flatMap spelled ++ '"' :: rest) := by simp [quotedChars]
        rw [whole, value, textAt, back]

theorem word_front : ∀ word ∈ words, ∃ c d tail, word.1 = c :: d :: tail ∧ c.isDigit = false ∧ d.isDigit = false := by
  simp only [words, List.forall_mem_cons]
  exact ⟨⟨'n', 'u', _, rfl, rfl, rfl⟩, ⟨'t', 'r', _, rfl, rfl, rfl⟩, ⟨'f', 'a', _, rfl, rfl, rfl⟩,
    ⟨'N', 'a', _, rfl, rfl, rfl⟩, ⟨'I', 'n', _, rfl, rfl, rfl⟩, ⟨'-', 'I', _, rfl, rfl, rfl⟩, by simp⟩

theorem no_word (i : Int) (rest : List Char) :
    words.find? (fun word => word.1.isPrefixOf (decimal i ++ rest)) = none := by
  obtain ⟨digit, others, front, isDigit⟩ := to_digits_head i.natAbs
  rw [List.find?_eq_none]
  intro word member begins
  obtain ⟨c, d, tail, spelled, first, second⟩ := word_front word member
  obtain ⟨behind, same⟩ := List.isPrefixOf_iff_prefix.mp begins
  rw [spelled, decimal, front, List.cons_append, List.cons_append] at same
  by_cases negative : i < 0
  · rw [if_pos negative] at same
    rw [← (List.cons.inj (List.cons.inj same).2).1, second] at isDigit
    cases isDigit
  · rw [if_neg negative] at same
    rw [← (List.cons.inj same).1, first] at isDigit
    cases isDigit

theorem decimal_front (i : Int) : ∃ c rest, decimal i = c :: rest ∧ (c = '-' ∨ c.isDigit = true) := by
  obtain ⟨digit, others, front, isDigit⟩ := to_digits_head i.natAbs
  by_cases negative : i < 0
  · exact ⟨'-', _, if_pos negative, .inl rfl⟩
  · exact ⟨digit, others, by rw [decimal, if_neg negative, front], .inr isDigit⟩

theorem number_front (c d : Char) (number : c = '-' ∨ c.isDigit = true) (minus : d ≠ '-') (digit : d.isDigit = false) :
    c ≠ d := by
  rintro rfl
  rcases number with same | other
  · exact minus same
  · rw [other] at digit
    cases digit

theorem spells_integer (i : Int) (short : Short i) : Spells (decimal i) (.int i) where
  solid := by
    obtain ⟨c, rest, front, number⟩ := decimal_front i
    have apart (d : Char) := number_front c d number
    refine ⟨c, rest, front, ?_, apart ']' (by decide) rfl⟩
    simp [isSpace, apart ' ' (by decide) rfl, apart '\t' (by decide) rfl, apart '\n' (by decide) rfl,
      apart '\r' (by decide) rfl]
  read := by
    intro fuel rest enough stops
    obtain ⟨c, others, front, first⟩ := decimal_front i
    have read : scalar (decimal i ++ rest) = .ok (.int i, rest) := by
      rw [scalar, no_word]
      exact number_read i rest short stops
    rw [front] at enough read ⊢
    cases fuel with
    | zero => cases enough
    | succ fuel =>
        rw [List.cons_append] at read ⊢
        rw [value, read]
        all_goals
          intro tail same
          exact number_front c _ first (by decide) rfl (List.cons.inj same).1

theorem stops_comma (rest : List Char) : Stops (',' :: rest) :=
  stops_cons ',' rest rfl (by decide) (by decide) (by decide)

theorem stops_bracket (rest : List Char) : Stops (']' :: rest) :=
  stops_cons ']' rest rfl (by decide) (by decide) (by decide)

theorem stops_brace (rest : List Char) : Stops ('\x7d' :: rest) :=
  stops_cons '\x7d' rest rfl (by decide) (by decide) (by decide)

theorem value_items (fuel : Nat) (rest tail : List Char) (c : Char) (shape : skip rest = c :: tail) (other : c ≠ ']') :
    value (fuel + 1) ('[' :: rest) = items fuel [] (c :: tail) := by
  rw [value, shape]
  split
  · rename_i same
    exact absurd (List.cons.inj same).1 other
  · rfl

theorem value_members (fuel : Nat) (rest tail : List Char) (shape : skip rest = '"' :: tail) :
    value (fuel + 1) ('\x7b' :: rest) = members fuel [] ('"' :: tail) := by
  rw [value, shape]
  rfl

theorem items_last (fuel : Nat) (read : List Value) (text rest : List Char) (v : Value)
    (first : value fuel text = .ok (v, ']' :: rest)) :
    items (fuel + 1) read text = .ok (.array (v :: read).reverse, rest) := by
  rw [items, first]
  rfl

theorem items_next (fuel : Nat) (read : List Value) (text rest : List Char) (v : Value)
    (first : value fuel text = .ok (v, ',' :: rest)) :
    items (fuel + 1) read text = items fuel (v :: read) (skip rest) := by
  rw [items, first]
  rfl

theorem members_last (fuel : Nat) (read : Entries) (text inner rest : List Char) (key v : Value)
    (named : name text = .ok (key, inner)) (first : value fuel inner = .ok (v, '\x7d' :: rest)) :
    members (fuel + 1) read text = .ok (.dict (Entries.put key v read), rest) := by
  rw [members, named]
  change (value fuel inner >>= _) = _
  rw [first]
  rfl

theorem members_next (fuel : Nat) (read : Entries) (text inner rest : List Char) (key v : Value)
    (named : name text = .ok (key, inner)) (first : value fuel inner = .ok (v, ',' :: rest)) :
    members (fuel + 1) read text = members fuel (Entries.put key v read) (skip rest) := by
  rw [members, named]
  change (value fuel inner >>= _) = _
  rw [first]
  rfl

theorem skip_spelled (text rest : List Char) (v : Value) (spells : Spells text v) : skip (text ++ rest) = text ++ rest := by
  obtain ⟨c, others, rfl, solid, -⟩ := spells.solid
  exact skip_solid c _ solid

theorem separated_more {α : Type} (f : α → List Char) (a b : α) (rest : List α) :
    separated ',' ((a :: b :: rest).map f) = f a ++ ',' :: separated ',' ((b :: rest).map f) := rfl

theorem separated_front (parts : List (List Char × Value)) (p : List Char × Value) :
    ∃ rest, separated ',' ((p :: parts).map (·.1)) = p.1 ++ rest := by
  cases parts with
  | nil => exact ⟨[], (List.append_nil _).symm⟩
  | cons next more => exact ⟨_, separated_more _ p next more⟩

theorem separated_solid (parts : List (List Char × Value)) (rest : List Char) (spelled : ∀ p ∈ parts, Spells p.1 p.2)
    (some : parts ≠ []) :
    ∃ c tail, separated ',' (parts.map (·.1)) ++ rest = c :: tail ∧ isSpace c = false ∧ c ≠ ']' := by
  cases parts with
  | nil => exact absurd rfl some
  | cons p others =>
      obtain ⟨behind, shape⟩ := separated_front others p
      obtain ⟨c, inner, front, solid, other⟩ := (spelled p (by simp)).solid
      exact ⟨c, inner ++ behind ++ rest, by rw [shape, front]; rfl, solid, other⟩

theorem items_read (parts : List (List Char × Value)) (spelled : ∀ p ∈ parts, Spells p.1 p.2) (some : parts ≠ [])
    (read : List Value) (fuel : Nat) (rest : List Char) (enough : (separated ',' (parts.map (·.1))).length < fuel) :
    items fuel read (separated ',' (parts.map (·.1)) ++ ']' :: rest) = .ok (.array (read.reverse ++ parts.map (·.2)), rest) := by
  induction parts generalizing read fuel with
  | nil => exact absurd rfl some
  | cons p others ih =>
      obtain ⟨head, tail⟩ := List.forall_mem_cons.mp spelled
      cases fuel with
      | zero => cases enough
      | succ fuel =>
          cases others with
          | nil =>
              have first := head.read fuel (']' :: rest) (Nat.le_of_lt_succ enough) (stops_bracket rest)
              rw [List.map_singleton, separated, items_last fuel read _ rest p.2 first]
              simp
          | cons next more =>
              rw [separated_more] at enough ⊢
              rw [List.length_append, List.length_cons] at enough
              have first := head.read fuel (',' :: (separated ',' ((next :: more).map (·.1)) ++ ']' :: rest)) (by omega)
                (stops_comma _)
              have behind := ih tail (by simp) (p.2 :: read) fuel (by omega)
              obtain ⟨c, inner, shape, solid, -⟩ := separated_solid (next :: more) (']' :: rest) tail (by simp)
              rw [List.append_assoc, List.cons_append, items_next fuel read _ _ p.2 first, shape, skip_solid c inner solid,
                ← shape, behind]
              simp

theorem spells_array (parts : List (List Char × Value)) (spelled : ∀ p ∈ parts, Spells p.1 p.2) :
    Spells ('[' :: separated ',' (parts.map (·.1)) ++ [']']) (.array (parts.map (·.2))) where
  solid := ⟨'[', _, rfl, rfl, by decide⟩
  read := by
    intro fuel rest enough stops
    cases fuel with
    | zero => cases enough
    | succ fuel =>
        cases parts with
        | nil => rfl
        | cons p others =>
            have inner := items_read (p :: others) spelled (by simp) [] fuel rest (by simpa using Nat.lt_of_succ_le enough)
            obtain ⟨c, tail, shape, solid, other⟩ := separated_solid (p :: others) (']' :: rest) spelled (by simp)
            rw [List.cons_append, List.cons_append, List.append_assoc, List.singleton_append,
              value_items fuel _ tail c (by rw [shape, skip_solid c tail solid]) other, ← shape, inner]
            rfl

def fieldText (f : String × List Char × Value) : List Char := quotedChars f.1.toList ++ ':' :: f.2.1

def fieldOf (f : String × List Char × Value) : String × Value := (f.1, f.2.2)

theorem name_read (f : String × List Char × Value) (rest : List Char) (spells : Spells f.2.1 f.2.2) :
    name (fieldText f ++ rest) = .ok (.text f.1, f.2.1 ++ rest) := by
  have back := unquote_quoted f.1.toList (':' :: (f.2.1 ++ rest))
  rw [String.ofList_toList] at back
  have whole : fieldText f ++ rest = '"' :: (f.1.toList.flatMap spelled ++ '"' :: ':' :: (f.2.1 ++ rest)) := by
    simp [fieldText, quotedChars]
  have read : textAt (fieldText f ++ rest) = .ok (.text f.1, ':' :: (f.2.1 ++ rest)) := by
    rw [whole, textAt, back]
  rw [name, read]
  change Except.ok (Value.text f.1, skip (f.2.1 ++ rest)) = _
  rw [skip_spelled f.2.1 rest f.2.2 spells]

theorem fields_front (fields : List (String × List Char × Value)) (rest : List Char) (some : fields ≠ []) :
    ∃ tail, separated ',' (fields.map fieldText) ++ rest = '"' :: tail := by
  cases fields with
  | nil => exact absurd rfl some
  | cons f others =>
      cases others with
      | nil => exact ⟨_, rfl⟩
      | cons next more => exact ⟨_, rfl⟩

theorem members_read (fields : List (String × List Char × Value)) (spelled : ∀ f ∈ fields, Spells f.2.1 f.2.2)
    (some : fields ≠ []) (made : Environment) (distinct : ((made ++ fields.map fieldOf).map (·.1)).Nodup) (fuel : Nat)
    (rest : List Char) (enough : (separated ',' (fields.map fieldText)).length < fuel) :
    members fuel (keyed made) (separated ',' (fields.map fieldText) ++ '\x7d' :: rest) =
      .ok (.dict (keyed (made ++ fields.map fieldOf)), rest) := by
  induction fields generalizing made fuel with
  | nil => exact absurd rfl some
  | cons f others ih =>
      obtain ⟨head, tail⟩ := List.forall_mem_cons.mp spelled
      have absent : f.1 ∉ made.map (·.1) := by
        intro present
        rw [List.map_append, List.nodup_append] at distinct
        exact distinct.2.2 f.1 present f.1 (by simp [fieldOf]) rfl
      have set : Entries.put (.text f.1) f.2.2 (keyed made) = keyed (made ++ [fieldOf f]) := by
        rw [put_keyed, put_absent f.1 f.2.2 made absent]
        rfl
      cases fuel with
      | zero => cases enough
      | succ fuel =>
          have valueFits : f.2.1.length < (fieldText f).length := by simp [fieldText]; omega
          cases others with
          | nil =>
              have within : (fieldText f).length < fuel + 1 := enough
              have first := head.read fuel ('\x7d' :: rest) (by omega) (stops_brace rest)
              change members (fuel + 1) (keyed made) (fieldText f ++ '\x7d' :: rest) = _
              rw [members_last fuel _ _ _ rest _ _ (name_read f _ head) first, set]
              rfl
          | cons next more =>
              rw [separated_more] at enough ⊢
              rw [List.length_append, List.length_cons] at enough
              have first := head.read fuel (',' :: (separated ',' ((next :: more).map fieldText) ++ '\x7d' :: rest)) (by omega)
                (stops_comma _)
              have behind := ih tail (by simp) (made ++ [fieldOf f]) (by simpa using distinct) fuel (by omega)
              obtain ⟨inner, shape⟩ := fields_front (next :: more) ('\x7d' :: rest) (by simp)
              rw [List.append_assoc, List.cons_append, members_next fuel _ _ _ _ _ _ (name_read f _ head) first, set, shape,
                skip_solid '"' inner rfl, ← shape, behind]
              simp

theorem spells_object (fields : List (String × List Char × Value)) (spelled : ∀ f ∈ fields, Spells f.2.1 f.2.2)
    (distinct : ((fields.map fieldOf).map (·.1)).Nodup) :
    Spells ('\x7b' :: separated ',' (fields.map fieldText) ++ ['\x7d']) (.dict (keyed (fields.map fieldOf))) where
  solid := ⟨'\x7b', _, rfl, rfl, by decide⟩
  read := by
    intro fuel rest enough stops
    cases fuel with
    | zero => cases enough
    | succ fuel =>
        cases fields with
        | nil => rfl
        | cons f others =>
            have inner := members_read (f :: others) spelled (by simp) [] distinct fuel rest
              (by simpa using Nat.lt_of_succ_le enough)
            obtain ⟨tail, shape⟩ := fields_front (f :: others) ('\x7d' :: rest) (by simp)
            rw [List.cons_append, List.cons_append, List.append_assoc, List.singleton_append,
              value_members fuel _ tail (by rw [shape, skip_solid '"' tail rfl]), ← shape]
            exact inner

def textOf (v : Value) : List Char := ((write v).toOption.getD []).map Char.ofNat

theorem text_of_written (v : Value) (text : List Char) (written : write v = .ok (codes text)) : textOf v = text := by
  rw [textOf, written]
  exact Wording.chars_of_codes text

theorem map_ok {α : Type} (f : α → Written) (g : α → List Nat) (items : List α) (each : ∀ a ∈ items, f a = .ok (g a)) :
    items.mapM f = .ok (items.map g) := by
  induction items with
  | nil => rfl
  | cons a rest ih =>
      have head := each a (by simp)
      have tail := ih fun b member => each b (List.mem_cons_of_mem _ member)
      rw [List.mapM_cons, head, tail]
      rfl

theorem codes_append (left right : List Char) : codes (left ++ right) = codes left ++ codes right := List.map_append

theorem separated_codes (comma : Char) (texts : List (List Char)) :
    separated comma.toNat (texts.map codes) = codes (separated comma texts) := by
  induction texts with
  | nil => rfl
  | cons text rest ih =>
      cases rest with
      | nil => rfl
      | cons next more =>
          rw [List.map_cons, separated_cons _ _ _ (by simp), ih, separated_cons comma text _ (by simp), codes_append]
          rfl

theorem array_written (items : List Value) (each : ∀ v ∈ items, write v = .ok (codes (textOf v))) :
    write (.array items) = .ok (codes ('[' :: separated ',' (items.map textOf) ++ [']'])) := by
  have texts : (items.map write).mapM id = .ok ((items.map textOf).map codes) := by
    rw [List.mapM_map, List.map_map]
    exact map_ok _ _ items each
  rw [write, writeItems_eq_map, array, texts, codes_append]
  change Except.ok ('['.toNat :: separated ','.toNat ((items.map textOf).map codes) ++ [']'.toNat]) = _
  rw [separated_codes]
  rfl

def entryLess (a b : String × Value) : Bool := Value.keyLess (.text a.1) (.text b.1)

theorem sorted_keyed (entries : Environment) : sorted entryBelow (keyed entries) = keyed (sorted entryLess entries) :=
  sorted_map entryLess entryBelow (fun e => (Value.text e.1, e.2)) (fun _ _ => rfl) entries

theorem ordered_keyed (entries : Environment) :
    ordered (.dict (keyed entries)) = .dict (keyed ((sorted entryLess entries).map fun e => (e.1, ordered e.2))) := by
  rw [ordered_dict]
  change Value.dict ((sorted entryBelow (keyed entries)).map fun e => (e.1, ordered e.2)) = _
  rw [sorted_keyed, keyed, List.map_map, keyed, List.map_map]
  rfl

theorem ordered_named (names shown : List String) (value : String → Value)
    (order : sorted (fun a b => Value.keyLess (.text a) (.text b)) names = shown) :
    ordered (.dict (keyed (names.map fun name => (name, value name)))) =
      .dict (keyed (shown.map fun name => (name, ordered (value name)))) := by
  have moved := sorted_map (fun a b => Value.keyLess (.text a) (.text b)) entryLess (fun name => (name, value name))
    (fun _ _ => rfl) names
  rw [ordered_keyed, moved, order, List.map_map]
  rfl

theorem object_written (entries : Environment) (distinct : (entries.map (·.1)).Nodup)
    (each : ∀ e ∈ entries, write e.2 = .ok (codes (textOf e.2))) :
    write (.dict (keyed entries)) = .ok (codes ('\x7b' :: separated ','
      ((sorted entryLess entries).map fun e => fieldText (e.1, textOf e.2, e.2)) ++ ['\x7d'])) := by
  have texts : (keyed (sorted entryLess entries)).mapM (fun e => member (e.1, write e.2)) =
      .ok (((sorted entryLess entries).map fun e => fieldText (e.1, textOf e.2, e.2)).map codes) := by
    rw [keyed, List.mapM_map, List.map_map]
    refine map_ok _ _ _ fun e inside => ?_
    have written := each e ((sorted_perm entryLess entries).mem_iff.mp inside)
    change member (.text e.1, write e.2) = .ok (codes (quotedChars e.1.toList ++ ':' :: textOf e.2))
    rw [member, written, codes_append, ← quoted_chars]
    rfl
  rw [dict_written (keyed entries) (keyed_worded entries distinct), sorted_keyed, texts, codes_append]
  change Except.ok ('\x7b'.toNat :: separated ','.toNat _ ++ ['\x7d'.toNat]) = _
  rw [separated_codes]
  rfl

theorem plain_written (v : Value) (plain : Plain v) :
    write v = .ok (codes (textOf v)) ∧ Spells (textOf v) (ordered v) := by
  have done (v : Value) (text : List Char) (written : write v = .ok (codes text)) (spells : Spells text (ordered v)) :
      write v = .ok (codes (textOf v)) ∧ Spells (textOf v) (ordered v) := by
    rw [text_of_written v text written]
    exact ⟨written, spells⟩
  induction plain with
  | null => exact done _ _ rfl spells_null
  | bool b => exact done _ _ rfl (spells_bool b)
  | int i short => exact done _ _ (by rw [write, integer_text i short]; rfl) (spells_integer i short)
  | text s => exact done _ _ (congrArg Except.ok (quoted_chars s.toList)) (spells_text s)
  | array items parts ih =>
      refine done _ _ (array_written items fun v member => (ih v member).1) ?_
      have spells := spells_array (items.map fun v => (textOf v, ordered v)) fun p member => by
        obtain ⟨v, inside, rfl⟩ := List.mem_map.mp member
        exact (ih v inside).2
      rw [List.map_map, List.map_map] at spells
      rw [ordered, ordered_items]
      exact spells
  | dict entries distinct parts ih =>
      have order := sorted_perm entryLess entries
      refine done _ _ (object_written entries distinct fun e member => (ih e member).1) ?_
      have spells := spells_object ((sorted entryLess entries).map fun e => (e.1, textOf e.2, ordered e.2))
        (fun f member => by
          obtain ⟨e, inside, rfl⟩ := List.mem_map.mp member
          exact (ih e (order.mem_iff.mp inside)).2)
        (by
          rw [List.map_map, List.map_map]
          exact (order.map (·.1)).nodup_iff.mpr distinct)
      rw [List.map_map, List.map_map] at spells
      rw [ordered_keyed]
      exact spells

theorem read_spelled (text : List Char) (v : Value) (spells : Spells text v) : read text = .ok v := by
  obtain ⟨c, rest, front, solid, -⟩ := spells.solid
  have whole := spells.read (2 * text.length + 2) [] (by omega) stops_nil
  rw [List.append_nil] at whole
  have bare : skip text = text := by rw [front, skip_solid c rest solid]
  rw [read, bare, whole]
  rfl

theorem plain_read (v : Value) (plain : Plain v) :
    ∃ text : String, canonical v = .ok (.text text) ∧ read text.toList = .ok (ordered v) := by
  obtain ⟨written, spells⟩ := plain_written v plain
  refine ⟨String.ofList (textOf v), ?_, ?_⟩
  · rw [canonical, written]
    exact congrArg Except.ok (Wording.ofPoints_codes (textOf v))
  · rw [String.toList_ofList]
    exact read_spelled (textOf v) (ordered v) spells

inductive Textual : Value → Prop where
  | null : Textual .null
  | bool (b : Bool) : Textual (.bool b)
  | int (i : Int) : Textual (.int i)
  | text (s : String) : Textual (.text s)
  | array (items : List Value) (parts : ∀ v ∈ items, Textual v) : Textual (.array items)
  | dict (entries : Environment) (distinct : (entries.map (·.1)).Nodup) (parts : ∀ e ∈ entries, Textual e.2) :
      Textual (.dict (keyed entries))

end TestRun.Json
