import Mathlib.Logic.Relation
import TestRun.Inventory
import TestRun.Proofs.Schema.Names

/-! What a list of entries says about the apps. -/

set_option autoImplicit false

namespace TestRun

namespace App

open Schema

def nameKeys : List String := ["display_name", "CFBundleName", "displayName"]

def identifierKeys : List String := ["bundle_identifier", "CFBundleIdentifier", "bundleIdentifier"]

-- Changes that an entry does not show: its keys in another order, one more key that is no name, and one more
-- name of a field that has one before it. A key is taken away, or its value replaced, by such steps back and forth.
inductive Edit : Entries → Entries → Prop where
  | reorder (xs ys : Entries) (order : xs.Perm ys) (distinct : (xs.map (·.1)).Nodup) : Edit xs ys
  | foreign (front back : Entries) (key v : Value) (strange : ∀ name ∈ nameKeys ++ identifierKeys, key ≠ .text name) :
      Edit (front ++ back) (front ++ (key, v) :: back)
  | lower (front back : Entries) (higher lower : List String) (key name : String) (v : Value)
      (field : higher ++ key :: lower = nameKeys ∨ higher ++ key :: lower = identifierKeys)
      (present : (Entries.get? key (front ++ back)).isSome = true) (behind : name ∈ lower) :
      Edit (front ++ back) (front ++ (.text name, v) :: back)

theorem edit_deciding (a b : Entries) (edit : Edit a b) :
    deciding? nameKeys a = deciding? nameKeys b ∧ deciding? identifierKeys a = deciding? identifierKeys b := by
  have apart : (nameKeys ++ identifierKeys).Nodup := by decide
  obtain ⟨names, identifiers, disjoint⟩ := List.nodup_append.mp apart
  cases edit with
  | reorder _ _ order distinct =>
      have same (name : String) := Entries.get_reordered name a b order distinct
      exact ⟨deciding_same _ a b fun name _ => same name, deciding_same _ a b fun name _ => same name⟩
  | foreign front back key v strange =>
      exact ⟨deciding_inserted _ front back key v fun name member => strange name (List.mem_append_left _ member),
        deciding_inserted _ front back key v fun name member => strange name (List.mem_append_right _ member)⟩
  | lower front back higher lower key name v field present behind =>
      have member : name ∈ higher ++ key :: lower := by simp [behind]
      rcases field with split | split <;> rw [split] at member
      · refine ⟨?_, deciding_inserted _ front back _ v fun other there same =>
          disjoint name member other there (Value.text.inj same)⟩
        rw [← split] at names ⊢
        exact deciding_lower higher lower key name v front back names present behind
      · refine ⟨deciding_inserted _ front back _ v fun other there same =>
          disjoint other there name member (Value.text.inj same).symm, ?_⟩
        rw [← split] at identifiers ⊢
        exact deciding_lower higher lower key name v front back identifiers present behind

theorem of_entries_same (a b : Entries) (names : deciding? nameKeys a = deciding? nameKeys b)
    (identifiers : deciding? identifierKeys a = deciding? identifierKeys b) : ofEntries a = ofEntries b := by
  rw [ofEntries, ofEntries, required_same _ _ text a b names, required_same _ _ text a b identifiers]

theorem edited_same (a b : Entries) (edited : Relation.EqvGen Edit a b) : ofEntries a = ofEntries b := by
  induction edited with
  | rel a b edit =>
      obtain ⟨names, identifiers⟩ := edit_deciding a b edit
      exact of_entries_same a b names identifiers
  | refl a => rfl
  | symm a b _ ih => exact ih.symm
  | trans a b c _ _ first second => exact first.trans second

theorem of_entries_ok_iff (entries : Entries) (app : App) :
    ofEntries entries = .ok app ↔
      (∃ key v, Decides nameKeys entries key v ∧ text v = .ok app.displayName) ∧
        ∃ key v, Decides identifierKeys entries key v ∧ text v = .ok app.bundleIdentifier := by
  have parts := required_ok_iff "display_name" ["CFBundleName", "displayName"] text entries
  have others := required_ok_iff "bundle_identifier" ["CFBundleIdentifier", "bundleIdentifier"] text entries
  rw [nameKeys, identifierKeys, ← parts, ← others, ofEntries, Checked.apply_ok_iff]
  constructor
  · rintro ⟨make, identifier, first, second, rfl⟩
    obtain ⟨build, name, built, named, rfl⟩ := (Checked.apply_ok_iff _ _ _).mp first
    obtain rfl := Checked.ok.inj built
    exact ⟨named, second⟩
  · rintro ⟨named, identified⟩
    exact ⟨App.mk app.displayName, app.bundleIdentifier,
      (Checked.apply_ok_iff _ _ _).mpr ⟨App.mk, app.displayName, rfl, named, rfl⟩, identified, rfl⟩

theorem of_entries_finds (entries : Entries) :
    ∃ first second, Finds text entries nameKeys first ∧ Finds text entries identifierKeys second ∧
      (ofEntries entries).issues = first ++ second := by
  refine ⟨_, _, required_finds "display_name" ["CFBundleName", "displayName"] text entries,
    required_finds "bundle_identifier" ["CFBundleIdentifier", "bundleIdentifier"] text entries, ?_⟩
  rw [ofEntries, Checked.issues_apply, Checked.issues_apply]
  rfl

end App

namespace Inventory

theorem of_values_ok_iff (entries : List Value) (apps : Inventory) :
    ofValues entries = .ok apps ↔ entries.map App.ofValue = apps.map .ok := by
  induction entries generalizing apps with
  | nil => cases apps <;> simp [ofValues]
  | cons e rest ih =>
      constructor
      · intro made
        rw [ofValues] at made
        cases first : App.ofValue e with
        | bad issues =>
            rw [first] at made
            cases made
        | ok app =>
            cases others : ofValues rest with
            | bad issues =>
                rw [first, others] at made
                cases made
            | ok tail =>
                rw [first, others] at made
                obtain rfl := Schema.Checked.ok.inj made
                rw [List.map_cons, List.map_cons, first, (ih tail).mp others]
      · intro same
        cases apps with
        | nil => cases same
        | cons app tail =>
            obtain ⟨first, others⟩ := List.cons.inj same
            rw [ofValues, first, (ih tail).mpr others]

theorem of_values_bad_iff (entries : List Value) (issues : List Schema.Issue) :
    ofValues entries = .bad issues ↔ ∃ before e after, entries = before ++ e :: after ∧
      (∀ x ∈ before, ∃ app, App.ofValue x = .ok app) ∧ App.ofValue e = .bad issues := by
  induction entries with
  | nil => simp [ofValues]
  | cons e rest ih =>
      constructor
      · intro made
        rw [ofValues] at made
        cases first : App.ofValue e with
        | bad found =>
            rw [first] at made
            obtain rfl := Schema.Checked.bad.inj made
            exact ⟨[], e, rest, rfl, by simp, first⟩
        | ok app =>
            cases others : ofValues rest with
            | ok tail =>
                rw [first, others] at made
                cases made
            | bad found =>
                rw [first, others] at made
                obtain rfl := Schema.Checked.bad.inj made
                obtain ⟨before, wrong, after, split, valid, invalid⟩ := ih.mp others
                exact ⟨e :: before, wrong, after, by rw [split]; rfl, List.forall_mem_cons.mpr ⟨⟨app, first⟩, valid⟩, invalid⟩
      · rintro ⟨before, wrong, after, split, valid, invalid⟩
        cases before with
        | nil =>
            obtain ⟨rfl, rfl⟩ := List.cons.inj split
            rw [ofValues, invalid]
        | cons x others =>
            obtain ⟨rfl, rfl⟩ := List.cons.inj split
            obtain ⟨⟨app, first⟩, validRest⟩ := List.forall_mem_cons.mp valid
            rw [ofValues, first, ih.mpr ⟨others, wrong, after, rfl, validRest, invalid⟩]

theorem of_root_ok_iff (entries : List Value) (apps : Inventory) :
    ofRoot (.array entries) = .ok apps ↔ entries.map App.ofValue = apps.map .ok := by
  rw [← of_values_ok_iff, ofRoot]
  cases ofValues entries <;> simp

theorem of_root_error_iff (entries : List Value) (f : Fault) :
    ofRoot (.array entries) = .error f ↔ ∃ before e after issues, entries = before ++ e :: after ∧
      (∀ x ∈ before, ∃ app, App.ofValue x = .ok app) ∧ App.ofValue e = .bad issues ∧ f = .invalidApp issues := by
  constructor
  · intro fails
    rw [ofRoot] at fails
    cases made : ofValues entries with
    | ok apps =>
        rw [made] at fails
        cases fails
    | bad issues =>
        rw [made] at fails
        obtain ⟨before, e, after, split, valid, invalid⟩ := (of_values_bad_iff entries issues).mp made
        exact ⟨before, e, after, issues, split, valid, invalid, (Except.error.inj fails).symm⟩
  · rintro ⟨before, e, after, issues, split, valid, invalid, rfl⟩
    rw [ofRoot, (of_values_bad_iff entries issues).mpr ⟨before, e, after, split, valid, invalid⟩]

theorem load_text (fs : Files) (path : Path) (content : List UInt8) (text : List Char) (root : Value)
    (noNul : path.hasNul = false) (stored : fs.read path = .ok content) (decoded : Text.Utf8.decode? content = some text)
    (read : Json.read text = .ok root) : load fs path = ofRoot root := by
  rw [load, noNul, stored]
  change ofJson content = _
  rw [ofJson, decoded]
  dsimp only
  rw [read]

theorem inventory_is_read_by_entries (entries : List Value) :
    (∀ apps, ofRoot (.array entries) = .ok apps ↔ entries.map App.ofValue = apps.map .ok) ∧
      ((∃ apps, ofRoot (.array entries) = .ok apps) ↔ ∀ e ∈ entries, ∃ app, App.ofValue e = .ok app) ∧
      (∀ f, ofRoot (.array entries) = .error f ↔ ∃ before e after issues, entries = before ++ e :: after ∧
        (∀ x ∈ before, ∃ app, App.ofValue x = .ok app) ∧ App.ofValue e = .bad issues ∧ f = .invalidApp issues) ∧
      (∀ fs path content text, path.hasNul = false → Files.read fs path = .ok content →
        Text.Utf8.decode? content = some text → Json.read text = .ok (.array entries) →
        load fs path = ofRoot (.array entries)) ∧
      (∀ (object : Entries) (app : App), App.ofValue (.dict object) = .ok app ↔
        (∃ key v, Schema.Decides App.nameKeys object key v ∧ Schema.text v = .ok app.displayName) ∧
          ∃ key v, Schema.Decides App.identifierKeys object key v ∧ Schema.text v = .ok app.bundleIdentifier) ∧
      (∀ object : Entries, ∃ first second, Schema.Finds Schema.text object App.nameKeys first ∧
        Schema.Finds Schema.text object App.identifierKeys second ∧
        (App.ofValue (.dict object)).issues = first ++ second) ∧
      ∀ object other : Entries, Relation.EqvGen App.Edit object other →
        App.ofValue (.dict object) = App.ofValue (.dict other) := by
  refine ⟨of_root_ok_iff entries, ?_, of_root_error_iff entries, ?_, App.of_entries_ok_iff, App.of_entries_finds,
    App.edited_same⟩
  · simp only [of_root_ok_iff]
    exact Schema.Checked.map_ok_iff App.ofValue entries
  · intro fs path content text noNul stored decoded read
    exact load_text fs path content text (.array entries) noNul stored decoded read

def plainEntry : Entries := [(.text "CFBundleName", .text "Say"), (.text "bundleIdentifier", .text "org.say")]

def turnedEntry : Entries :=
  [(.text "size", .null), (.text "bundleIdentifier", .text "org.say"), (.text "displayName", .int 5),
    (.text "CFBundleName", .text "Say")]

def coveredEntry : Entries :=
  [(.text "CFBundleName", .text "Say"), (.text "display_name", .int 5), (.text "bundleIdentifier", .text "org.say")]

theorem plain_entry_edited : Relation.EqvGen App.Edit plainEntry turnedEntry := by
  have more : App.Edit plainEntry
      [(.text "CFBundleName", .text "Say"), (.text "displayName", .int 5), (.text "bundleIdentifier", .text "org.say")] :=
    .lower [(.text "CFBundleName", .text "Say")] [(.text "bundleIdentifier", .text "org.say")] ["display_name"] ["displayName"]
      "CFBundleName" "displayName" (.int 5) (.inl rfl) rfl (by simp)
  have strange : App.Edit
      [(.text "CFBundleName", .text "Say"), (.text "displayName", .int 5), (.text "bundleIdentifier", .text "org.say")]
      turnedEntry.reverse :=
    .foreign [(.text "CFBundleName", .text "Say"), (.text "displayName", .int 5), (.text "bundleIdentifier", .text "org.say")] []
      (.text "size") .null (by simp [App.nameKeys, App.identifierKeys])
  have turned : App.Edit turnedEntry.reverse turnedEntry :=
    .reorder _ _ (List.reverse_perm turnedEntry) (by simp [turnedEntry])
  exact .trans _ _ _ (.rel _ _ more) (.trans _ _ _ (.rel _ _ strange) (.rel _ _ turned))

theorem turned_entry_is_an_app_and_covered_entry_is_refused :
    ofRoot (.array [.dict turnedEntry]) = .ok [⟨"Say", "org.say"⟩] ∧
      ofRoot (.array [.dict plainEntry, .dict coveredEntry, .null]) =
        .error (.invalidApp [⟨[.key "display_name"], .stringType⟩]) := by
  obtain ⟨accepted, -, -, -, -, -, edited⟩ := inventory_is_read_by_entries [.dict turnedEntry]
  obtain ⟨-, -, refused, -⟩ := inventory_is_read_by_entries [.dict plainEntry, .dict coveredEntry, .null]
  constructor
  · refine (accepted _).mpr ?_
    rw [List.map_cons, ← edited plainEntry turnedEntry plain_entry_edited]
    rfl
  · refine (refused _).mpr ⟨[.dict plainEntry], .dict coveredEntry, [.null], _, rfl, ?_, rfl, rfl⟩
    intro x member
    rw [List.mem_singleton.mp member]
    exact ⟨⟨"Say", "org.say"⟩, rfl⟩

end Inventory
end TestRun
