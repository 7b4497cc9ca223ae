import TestRun.Proofs.Config.Inventory
import TestRun.Proofs.Json.Reading
import TestRun.Proofs.Text.Encoding

/-! Nothing is lost in canonical text. -/

set_option autoImplicit false

namespace TestRun.Json

open Environment (keyed)

theorem keyed_distinct (entries : Environment) (distinct : (entries.map (·.1)).Nodup) :
    ((keyed entries).map (·.1)).Nodup := by
  have texts : (keyed entries).map (·.1) = (entries.map (·.1)).map .text := by
    rw [keyed, List.map_map, List.map_map]
    rfl
  rw [texts]
  exact List.Pairwise.map Value.text (fun _ _ differs same => differs (Value.text.inj same)) distinct

theorem ordered_get (entries : Environment) (distinct : (entries.map (·.1)).Nodup) :
    ∃ inner, ordered (.dict (keyed entries)) = .dict inner ∧
      ∀ name, Entries.get? name inner = (Entries.get? name (keyed entries)).map ordered := by
  refine ⟨_, ordered_keyed entries, fun name => ?_⟩
  have moved : keyed ((sorted entryLess entries).map fun e => (e.1, ordered e.2)) =
      (keyed (sorted entryLess entries)).map fun e => (e.1, ordered e.2) := by
    rw [keyed, keyed, List.map_map, List.map_map]
    rfl
  have order : (keyed entries).Perm (keyed (sorted entryLess entries)) := (sorted_perm entryLess entries).symm.map _
  rw [moved, Entries.get_map, ← Entries.get_reordered name _ _ order (keyed_distinct entries distinct)]

theorem text_ordered (v : Value) : Schema.text (ordered v) = Schema.text v := by
  cases v <;> simp [ordered, Schema.text]

theorem required_ordered (name : String) (others : List String) (entries inner : Entries)
    (same : ∀ key, Entries.get? key inner = (Entries.get? key entries).map ordered) :
    Schema.required name others Schema.text inner = Schema.required name others Schema.text entries := by
  have there : (fun key => (Entries.get? key inner).isSome) = fun key => (Entries.get? key entries).isSome := by
    funext key
    rw [same, Option.isSome_map]
  rw [Schema.required, Schema.required, there]
  cases (name :: others).find? fun key => (Entries.get? key entries).isSome with
  | none => rfl
  | some key =>
      dsimp only
      rw [same]
      cases Entries.get? key entries with
      | none => rfl
      | some v =>
          rw [Option.map_some]
          exact congrArg (fun checked => checked.under (.key key)) (text_ordered v)

theorem app_ordered (v : Value) (plain : Plain v) : App.ofValue (ordered v) = App.ofValue v := by
  cases plain with
  | dict entries distinct parts =>
      obtain ⟨inner, shape, same⟩ := ordered_get entries distinct
      rw [shape]
      change App.ofEntries inner = App.ofEntries (keyed entries)
      rw [App.ofEntries, App.ofEntries, required_ordered _ _ _ _ same, required_ordered _ _ _ _ same]
  | _ => simp [ordered, App.ofValue, Schema.model]

theorem apps_ordered (apps : List Value) (plain : ∀ v ∈ apps, Plain v) :
    Inventory.ofValues (apps.map ordered) = Inventory.ofValues apps := by
  induction apps with
  | nil => rfl
  | cons v rest ih =>
      obtain ⟨head, tail⟩ := List.forall_mem_cons.mp plain
      rw [List.map_cons, Inventory.ofValues, Inventory.ofValues, app_ordered v head, ih tail]

theorem root_ordered (apps : List Value) (plain : ∀ v ∈ apps, Plain v) :
    Inventory.ofRoot (ordered (.array apps)) = Inventory.ofRoot (.array apps) := by
  rw [ordered, ordered_items, Inventory.ofRoot, Inventory.ofRoot, apps_ordered apps plain]

theorem load_read (fs : Files) (path : Path) (text : String) (root : Value) (noNul : path.hasNul = false)
    (stored : fs.read path = .ok (Text.Utf8.encode text.toList)) (back : read text.toList = .ok root) :
    Inventory.load fs path = Inventory.ofRoot root := by
  have decoded : Text.Utf8.decode? (Text.Utf8.encode text.toList) = some text.toList := by
    rw [Text.Utf8.decode?, Text.Utf8.decode_prefix_encode]
  exact Inventory.load_text fs path _ text.toList root noNul stored decoded back

theorem canonical_text_loses_nothing (v : Value) (plain : Plain v) :
    ∃ (text : String) (back : Value), canonical v = .ok (.text text) ∧ read text.toList = .ok back ∧ Alike back v ∧
      ∀ (apps : List Value) (fs : Files) (path : Path), v = .array apps → path.hasNul = false →
        fs.read path = .ok (Text.Utf8.encode text.toList) → Inventory.load fs path = Inventory.ofRoot (.array apps) := by
  obtain ⟨text, written, back⟩ := plain_read v plain
  refine ⟨text, ordered v, written, back, ordered_alike v, ?_⟩
  rintro apps fs path rfl noNul stored
  have parts : ∀ w ∈ apps, Plain w := by
    cases plain with
    | array items parts => exact parts
  rw [load_read fs path text _ noNul stored back, root_ordered apps parts]

def listedApps : List Value :=
  [.dict (keyed [("displayName", .text "Say \"h\u00e9\"\n"), ("bundleIdentifier", .text "org.say"),
    ("sizes", .array [.int (-12), .null, .dict (keyed [])])])]

theorem listed_apps_load : ∃ (text : String) (back : Value), canonical (.array listedApps) = .ok (.text text) ∧
    read text.toList = .ok back ∧ Alike back (.array listedApps) ∧
    Inventory.load ⟨[], [(["apps"], Text.Utf8.encode text.toList)], [[]]⟩ ⟨"", ["apps"]⟩ =
      .ok [⟨"Say \"h\u00e9\"\n", "org.say"⟩] := by
  have sizes : ∀ v ∈ [Value.int (-12), .null, .dict (keyed [])], Plain v := by
    simp only [List.forall_mem_cons, List.not_mem_nil, false_implies, implies_true, and_true]
    exact ⟨.int _ ((Numeral.short_iff _).mpr (by decide)), .null, .dict [] List.nodup_nil (by simp)⟩
  have app : ∀ v ∈ listedApps, Plain v := by
    simp only [listedApps, List.forall_mem_cons, List.not_mem_nil, false_implies, implies_true, and_true]
    refine .dict _ (by decide) ?_
    simp only [List.forall_mem_cons, List.not_mem_nil, false_implies, implies_true, and_true]
    exact ⟨.text _, .text _, .array _ sizes⟩
  obtain ⟨text, back, written, reads, alike, loads⟩ := canonical_text_loses_nothing (.array listedApps) (.array _ app)
  exact ⟨text, back, written, reads, alike, loads listedApps _ ⟨"", ["apps"]⟩ rfl rfl rfl⟩

end TestRun.Json
