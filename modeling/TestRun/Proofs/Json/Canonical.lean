import TestRun.Proofs.Json.Number
import TestRun.Proofs.Json.Order
import TestRun.Proofs.Json.Text

/-! Canonical text is canonical: values that differ only in the order of their keys have one text, or fail alike. -/

set_option autoImplicit false

namespace TestRun.Json

open Text (codes)

def isScalar : Value → Bool
  | .array _ => false
  | .dict _ => false
  | _ => true

inductive TextKeyed (loose : Bool) : Value → Prop where
  | scalar (v : Value) (single : isScalar v = true) (fit : ∀ x, v = .real x → loose = true ∨ x.isFinite = true) :
      TextKeyed loose v
  | array (items : List Value) (each : ∀ v ∈ items, TextKeyed loose v) : TextKeyed loose (.array items)
  | dict (entries : Entries) (worded : Worded entries) (each : ∀ e ∈ entries, TextKeyed loose e.2) :
      TextKeyed loose (.dict entries)

theorem bind_ok {ε α β : Type} (x : Except ε α) (f : α → Except ε β) (b : β) (made : (x >>= f) = .ok b) :
    ∃ a, x = .ok a ∧ f a = .ok b := by
  cases x with
  | error e => cases made
  | ok a => exact ⟨a, rfl, made⟩

theorem mapped_ok {ε α β : Type} (f : α → β) (x : Except ε α) (b : β) (made : x.map f = .ok b) :
    ∃ a, x = .ok a ∧ f a = b := by
  cases x with
  | error e => cases made
  | ok a => exact ⟨a, rfl, Except.ok.inj made⟩

theorem array_keyed (loose : Bool) (items : List Value) (keyed : TextKeyed loose (.array items)) :
    ∀ v ∈ items, TextKeyed loose v := by
  cases keyed with
  | scalar _ single => cases single
  | array items each => exact each

theorem dict_keyed (loose : Bool) (entries : Entries) (keyed : TextKeyed loose (.dict entries)) :
    Worded entries ∧ ∀ e ∈ entries, TextKeyed loose e.2 := by
  cases keyed with
  | scalar _ single => cases single
  | dict entries worded each => exact ⟨worded, each⟩

theorem map_zip {α β γ : Type} (f : α → γ) (g : β → γ) (xs : List α) (ys : List β) (length : xs.length = ys.length)
    (parts : ∀ e ∈ xs.zip ys, f e.1 = g e.2) : xs.map f = ys.map g := by
  induction xs generalizing ys with
  | nil =>
      cases ys with
      | nil => rfl
      | cons y rest => cases length
  | cons x rest ih =>
      cases ys with
      | nil => cases length
      | cons y others =>
          obtain ⟨head, tail⟩ := List.forall_mem_cons.mp parts
          rw [List.map_cons, List.map_cons, head, ih others (Nat.succ.inj length) tail]

theorem object_perm (xs ys : List (Value × Written)) (order : xs.Perm ys) (worded : Worded xs) : object xs = object ys := by
  have orderedToo : Value.areOrdered (ys.map (·.1)) = true :=
    worded_ordered ys ⟨fun e member => worded.keys e (order.mem_iff.mpr member),
      (order.map fun e => e.1.points?).nodup_iff.mp worded.distinct⟩
  have same := worded_unique xs ys order worded
  change sorted (fun a b => Value.keyLess a.1 b.1) xs = sorted (fun a b => Value.keyLess a.1 b.1) ys at same
  rw [object, object, if_pos (worded_ordered xs worded), if_pos orderedToo, same]

theorem write_alike (loose : Bool) (x y : Value) (alike : Alike x y) (keyed : TextKeyed loose x) : write x = write y := by
  induction alike with
  | same v => rfl
  | array xs ys length parts ih =>
      have each := array_keyed loose xs keyed
      have items : writeItems xs = writeItems ys := by
        rw [writeItems_eq_map, writeItems_eq_map]
        exact map_zip write write xs ys length fun e member =>
          ih e member (each e.1 (List.of_mem_zip member).1)
      rw [write, write, items]
  | dict xs ys zs order keys parts ih =>
      obtain ⟨worded, each⟩ := dict_keyed loose xs keyed
      have length : xs.length = zs.length := by simpa using congrArg List.length keys
      have values : xs.map (fun e => write e.2) = zs.map fun e => write e.2 :=
        map_zip (fun e => write e.2) (fun e => write e.2) xs zs length fun e member =>
          ih e member (each e.1 (List.of_mem_zip member).1)
      -- The entries and the texts of their values are the same as those of the second value, in another order.
      have entries : writeEntries xs = writeEntries zs := by
        rw [writeEntries_eq_map, writeEntries_eq_map, ← List.zip_map', ← List.zip_map', keys, values]
      have reordered : (writeEntries zs).Perm (writeEntries ys) := by
        rw [writeEntries_eq_map, writeEntries_eq_map]
        exact order.map _
      have wordedToo : Worded (writeEntries zs) := by
        refine worded_keys xs _ ?_ worded
        rw [← entries, writeEntries_eq_map, List.map_map]
        rfl
      rw [write, write, entries, object_perm _ _ reordered wordedToo]

theorem escaped_listed (c : Char) (n : Nat) (listed : escaped? c = some n) : (c, n) ∈ shortEscapes := by
  rw [escaped?] at listed
  split at listed
  · next same =>
      obtain rfl := Option.some.inj listed
      rcases same with rfl | rfl | rfl <;> decide
  split at listed
  · next same => simp [shortEscapes, same, ← Option.some.inj listed]
  split at listed
  · next same => simp [shortEscapes, same, ← Option.some.inj listed]
  split at listed
  · next same => simp [shortEscapes, same, ← Option.some.inj listed]
  split at listed
  · next same => simp [shortEscapes, same, ← Option.some.inj listed]
  split at listed
  · next same => simp [shortEscapes, same, ← Option.some.inj listed]
  · cases listed

theorem escape_letters (n : Nat) (spelled meant : List Nat) (rest : Letters spelled meant) :
    Letters (escape n ++ spelled) (n :: meant) := by
  have escaped := escape_escaped n
  rw [escape]
  generalize escape? n = spelling at escaped ⊢
  cases escaped with
  | plain visible mark slash => exact .plain n spelled meant visible mark slash rest
  | short c listed _ => exact .short c n spelled meant (escaped_listed c n listed) rest
  | unit p q r s control code => exact .unit p q r s n spelled meant code (.inl (by omega)) rest

theorem escaped_letters (points : List Nat) : Letters (points.flatMap escape) points := by
  induction points with
  | nil => exact .nil
  | cons n rest ih =>
      rw [List.flatMap_cons]
      exact escape_letters n _ rest ih

structure Shown (loose : Bool) (v : Value) (text : List Nat) (tree : Tree) : Prop where
  derives : Derives loose text tree
  increases : Increasing tree
  pictures : Pictures tree v

theorem separated_intercalate {α : Type} (comma : α) (texts : List (List α)) :
    separated comma texts = [comma].intercalate texts := by
  induction texts with
  | nil => rfl
  | cons text rest ih =>
      cases rest with
      | nil => simp [separated, List.intercalate]
      | cons next more =>
          rw [separated_cons comma text (next :: more) (List.cons_ne_nil next more), ih]
          simp [List.intercalate]

theorem map_parts {α γ : Type} (f : α → Written) (R : α → List Nat → γ → Prop) (items : List α)
    (texts : List (List Nat)) (each : ∀ a ∈ items, ∀ text, f a = .ok text → ∃ c, R a text c)
    (written : items.mapM f = .ok texts) :
    ∃ parts : List (α × List Nat × γ), parts.map (·.1) = items ∧ parts.map (·.2.1) = texts ∧
      ∀ p ∈ parts, R p.1 p.2.1 p.2.2 := by
  induction items generalizing texts with
  | nil =>
      obtain rfl : [] = texts := Except.ok.inj written
      exact ⟨[], rfl, rfl, by simp⟩
  | cons a rest ih =>
      obtain ⟨head, tail⟩ := List.forall_mem_cons.mp each
      rw [List.mapM_cons] at written
      obtain ⟨text, first, written⟩ := bind_ok _ _ _ written
      obtain ⟨others, behind, written⟩ := bind_ok _ _ _ written
      obtain rfl : text :: others = texts := Except.ok.inj written
      obtain ⟨c, related⟩ := head text first
      obtain ⟨parts, items, made, all⟩ := ih others tail behind
      exact ⟨(a, text, c) :: parts, by rw [List.map_cons, items], by rw [List.map_cons, made],
        List.forall_mem_cons.mpr ⟨related, all⟩⟩

theorem integer_written (i : Int) (text : List Char) (written : integerText i = .ok text) : text = Numeral.decimal i := by
  rw [integerText, Numeral.integerText?] at written
  split at written
  · rename_i digits some
    split at some
    · cases some
    · rw [← Except.ok.inj written, ← Option.some.inj some]
      rfl
  · cases written

theorem atom_shown (loose : Bool) (v : Value) (text : List Char) (atom : Atom loose text) (pictures : Pictures (.atom text) v) :
    ∃ tree, Shown loose v (codes text) tree :=
  ⟨.atom text, .atom text atom, .atom text, pictures⟩

theorem text_shown (loose : Bool) (w : Wording) : ∃ tree, Shown loose (.ofWording w) (quoted w.points) tree :=
  ⟨.text w, .text _ w (escaped_letters w.points), .text w, .text w⟩

theorem scalar_shown (loose : Bool) (v : Value) (single : isScalar v = true)
    (fit : ∀ x, v = .real x → loose = true ∨ x.isFinite = true) (text : List Nat) (written : write v = .ok text) :
    ∃ tree, Shown loose v text tree := by
  cases v with
  | null =>
      rw [← Except.ok.inj written]
      exact atom_shown loose _ _ .null .null
  | bool b =>
      rw [← Except.ok.inj written]
      refine atom_shown loose _ _ ?_ (.bool b)
      cases b
      · exact .no
      · exact .yes
  | int i =>
      obtain ⟨digits, spelled, rfl⟩ := mapped_ok _ _ _ written
      rw [integer_written i digits spelled]
      exact atom_shown loose _ _ (.number _ (decimal_number i)) (.int i)
  | real x =>
      rw [← Except.ok.inj written]
      exact atom_shown loose _ _ (real_text_atom loose x (fit x rfl)) (.real x)
  | text s =>
      rw [← Except.ok.inj written]
      exact text_shown loose (.text s)
  | brokenText points =>
      rw [← Except.ok.inj written]
      exact text_shown loose (.broken points)
  | array items => cases single
  | dict entries => cases single
  | _ => cases written

theorem array_shown (loose : Bool) (items : List Value) (text : List Nat) (written : write (.array items) = .ok text)
    (each : ∀ v ∈ items, ∀ text, write v = .ok text → ∃ tree, Shown loose v text tree) :
    ∃ tree, Shown loose (.array items) text tree := by
  rw [write, writeItems_eq_map, array, List.mapM_map] at written
  obtain ⟨texts, made, written⟩ := bind_ok _ _ _ written
  obtain ⟨parts, rfl, rfl, shown⟩ := map_parts write (Shown loose) items texts each made
  rw [← Except.ok.inj written, separated_intercalate]
  refine ⟨.array (parts.map (·.2.2)), ?_, .array _ ?_, ?_⟩
  · have derives := @Derives.array loose (parts.map fun p => (p.2.1, p.2.2)) (List.forall_mem_map.mpr fun p member =>
      (shown p member).derives)
    rw [List.map_map, List.map_map] at derives
    exact derives
  · exact List.forall_mem_map.mpr fun p member => (shown p member).increases
  · have pictures := Pictures.array (parts.map fun p => (p.2.2, p.1)) (List.forall_mem_map.mpr fun p member =>
      (shown p member).pictures)
    rw [List.map_map, List.map_map] at pictures
    exact pictures

structure Holds (loose : Bool) (e : Value × Value) (text : List Nat) (m : Member) : Prop where
  name : e.1 = .ofWording m.name
  letters : Letters m.spelled m.name.points
  written : text = m.written
  shown : Shown loose e.2 m.text m.tree

theorem text_key (key : Value) (word : key.isText = true) : ∃ w, key = .ofWording w ∧ keyPoints key = .ok w.points := by
  cases key with
  | text s => exact ⟨.text s, rfl, rfl⟩
  | brokenText points => exact ⟨.broken points, rfl, rfl⟩
  | _ => cases word

theorem wording_points (w : Wording) : (Value.ofWording w).points? = some w.points := by
  cases w <;> rfl

theorem member_holds (loose : Bool) (e : Value × Value) (text : List Nat) (word : e.1.isText = true)
    (each : ∀ text, write e.2 = .ok text → ∃ tree, Shown loose e.2 text tree)
    (written : member (e.1, write e.2) = .ok text) : ∃ m, Holds loose e text m := by
  obtain ⟨key, named, written⟩ := bind_ok _ _ _ written
  obtain ⟨inner, made, written⟩ := bind_ok _ _ _ written
  obtain ⟨tree, shown⟩ := each inner made
  obtain ⟨w, name, spelled⟩ := text_key e.1 word
  obtain rfl : w.points = key := Except.ok.inj (spelled.symm.trans named)
  rw [← Except.ok.inj written]
  exact ⟨⟨w.points.flatMap escape, w, inner, tree⟩, name, escaped_letters w.points,
    by simp [quoted, Member.written, codes], shown⟩

theorem dict_written (entries : Entries) (worded : Worded entries) :
    write (.dict entries) = (sorted entryBelow entries).mapM (fun e => member (e.1, write e.2)) >>= fun texts =>
      .ok ('\x7b'.toNat :: separated ','.toNat texts ++ ['\x7d'.toNat]) := by
  have texts : writeEntries entries = entries.map fun e => (e.1, write e.2) := writeEntries_eq_map entries
  have wordedToo : Worded (writeEntries entries) := by
    refine worded_keys entries _ ?_ worded
    rw [texts, List.map_map]
    rfl
  have moved : sorted (fun a b => Value.keyLess a.1 b.1) (writeEntries entries) =
      (sorted entryBelow entries).map fun e => (e.1, write e.2) := by
    rw [texts]
    exact sorted_map entryBelow _ (fun e => (e.1, write e.2)) (fun _ _ => rfl) entries
  rw [write, object, if_pos (worded_ordered _ wordedToo), moved, List.mapM_map]
  rfl

theorem dict_shown (loose : Bool) (entries : Entries) (worded : Worded entries) (text : List Nat)
    (written : write (.dict entries) = .ok text)
    (each : ∀ e ∈ entries, ∀ text, write e.2 = .ok text → ∃ tree, Shown loose e.2 text tree) :
    ∃ tree, Shown loose (.dict entries) text tree := by
  have order := sorted_perm entryBelow entries
  rw [dict_written entries worded] at written
  obtain ⟨texts, made, written⟩ := bind_ok _ _ _ written
  obtain ⟨parts, same, rfl, holds⟩ := map_parts (fun e => member (e.1, write e.2)) (Holds loose) _ texts
    (fun e inside text => member_holds loose e text (worded.keys e (order.mem_iff.mp inside))
      (each e (order.mem_iff.mp inside))) made
  rw [← Except.ok.inj written, separated_intercalate]
  refine ⟨.object (parts.map fun p => (p.2.2.name, p.2.2.tree)), ?_, .object _ ?_ ?_, ?_⟩
  · have derives := @Derives.object loose (parts.map (·.2.2))
      (List.forall_mem_map.mpr fun p member => (holds p member).letters)
      (List.forall_mem_map.mpr fun p member => (holds p member).shown.derives)
    have members : parts.map (·.2.1) = (parts.map (·.2.2)).map Member.written := by
      rw [List.map_map]
      exact List.map_congr_left fun p member => (holds p member).written
    rw [← members, List.map_map] at derives
    exact derives
  · -- The names go up because the entries do.
    have increases := worded_increases entries worded
    rw [← same, List.pairwise_map] at increases
    rw [List.map_map, List.pairwise_map]
    refine increases.imp_of_mem fun {p q} first second below => ?_
    rw [entryBelow, (holds p first).name, (holds q second).name] at below
    exact (key_less_iff _ _ _ _ (wording_points _) (wording_points _)).mp below
  · exact List.forall_mem_map.mpr fun p member => (holds p member).shown.increases
  · have pictures := Pictures.dict (parts.map fun p => (p.2.2.name, p.2.2.tree, p.1.2)) entries ?_
      (List.forall_mem_map.mpr fun p member => (holds p member).shown.pictures)
    · rw [List.map_map] at pictures
      exact pictures
    · have entriesSame : parts.map (fun p => (Value.ofWording p.2.2.name, p.1.2)) = parts.map (·.1) :=
        List.map_congr_left fun p member => by rw [← (holds p member).name]
      rw [List.map_map]
      change (parts.map fun p => (Value.ofWording p.2.2.name, p.1.2)).Perm entries
      rw [entriesSame, same]
      exact order

theorem write_shown (loose : Bool) (v : Value) (keyed : TextKeyed loose v) (text : List Nat)
    (written : write v = .ok text) : ∃ tree, Shown loose v text tree := by
  induction keyed generalizing text with
  | scalar v single fit => exact scalar_shown loose v single fit text written
  | array items each ih => exact array_shown loose items text written ih
  | dict entries worded each ih => exact dict_shown loose entries worded text written ih

theorem canonical_shown (loose : Bool) (v : Value) (keyed : TextKeyed loose v) (text : Wording)
    (written : canonical v = .ok text) : ∃ tree, Shown loose v text.points tree := by
  obtain ⟨points, made, rfl⟩ := mapped_ok _ _ _ written
  rw [Wording.points_ofPoints]
  exact write_shown loose v keyed points made

theorem canonical_text_is_canonical (x y : Value) (keyed : TextKeyed true x) (alike : Alike x y) :
    canonical x = canonical y ∧
      ∀ text, canonical x = .ok text → ∃ tree, Derives true text.points tree ∧ Increasing tree ∧ Pictures tree x := by
  refine ⟨by rw [canonical, canonical, write_alike true x y alike keyed], fun text written => ?_⟩
  obtain ⟨tree, shown⟩ := canonical_shown true x keyed text written
  exact ⟨tree, shown.derives, shown.increases, shown.pictures⟩

def innerEntries : Entries := [(.text "z", .int 1), (.text "a", .real Binary64.nan)]

def outerEntries : Entries := [(.text "b", .array [.dict innerEntries]), (.text "a", .null)]

def turnedEntries : Entries := [(.text "a", .null), (.text "b", .array [.dict innerEntries.reverse])]

theorem turned_alike : Alike (.dict outerEntries) (.dict turnedEntries) := by
  have inner : Alike (.dict innerEntries) (.dict innerEntries.reverse) :=
    .dict _ _ innerEntries (List.reverse_perm innerEntries).symm rfl fun e member => by
      have same : e.1 = e.2 := by
        simp only [innerEntries, List.zip_cons_cons, List.zip_nil_right, List.mem_cons, List.not_mem_nil, or_false] at member
        rcases member with rfl | rfl <;> rfl
      rw [same]
      exact .same _
  refine .dict _ _ turnedEntries.reverse (List.reverse_perm turnedEntries) rfl (List.forall_mem_cons.mpr ⟨?_, ?_⟩)
  · exact .array _ _ rfl (List.forall_mem_cons.mpr ⟨inner, by simp⟩)
  · exact List.forall_mem_cons.mpr ⟨.same .null, by simp⟩

theorem outer_keyed : TextKeyed true (.dict outerEntries) := by
  have single (v : Value) (scalar : isScalar v = true) : TextKeyed true v := .scalar v scalar fun _ _ => .inl rfl
  have inner : TextKeyed true (.dict innerEntries) :=
    .dict _ ⟨by decide, by decide⟩
      (List.forall_mem_cons.mpr ⟨single _ rfl, List.forall_mem_cons.mpr ⟨single _ rfl, by simp⟩⟩)
  have list : TextKeyed true (.array [.dict innerEntries]) := .array _ (List.forall_mem_cons.mpr ⟨inner, by simp⟩)
  exact .dict _ ⟨by decide, by decide⟩
    (List.forall_mem_cons.mpr ⟨list, List.forall_mem_cons.mpr ⟨single _ rfl, by simp⟩⟩)

theorem turned_entries_have_one_text :
    canonical (.dict outerEntries) = canonical (.dict turnedEntries) ∧
      ∃ text tree, canonical (.dict outerEntries) = .ok text ∧ Derives true text.points tree ∧ Increasing tree ∧
        Pictures tree (.dict outerEntries) := by
  obtain ⟨same, shown⟩ := canonical_text_is_canonical (.dict outerEntries) (.dict turnedEntries) outer_keyed turned_alike
  have written : canonical (.dict outerEntries) =
      .ok "\x7b\"a\":null,\"b\":[\x7b\"a\":NaN,\"z\":1\x7d]\x7d" := by
    rfl
  obtain ⟨tree, derives, increases, pictures⟩ := shown _ written
  exact ⟨same, _, tree, written, derives, increases, pictures⟩

end TestRun.Json
