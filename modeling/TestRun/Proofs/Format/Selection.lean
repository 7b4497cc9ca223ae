import TestRun.Format.SingleTarget
import TestRun.Proofs.Markup.Spelling
import TestRun.Proofs.Value.Collapse

/-! Which block of a version 1 document is its target. -/

set_option autoImplicit false

namespace TestRun.Format

open Environment (keyed collapse last?)
open Plist (HasRoot Spells enclosed written written_idle entry_spells)

def block? (key : String) (v : Value) : Option Entries :=
  if key = metadataKey then none
  else
    match v with
    | .dict block => some block
    | _ => none

def blockUnder? (entries : Environment) (key : String) : Option Entries := (last? key entries).bind (block? key)

def first? (entries : Environment) : Option (String × Entries) :=
  entries.findSome? fun e => (blockUnder? entries e.1).map fun block => (e.1, block)

def validated (key : String) (block : Entries) : Except Failure (List TestTarget) :=
  match TestTarget.ofEntries block with
  | .ok target => .ok [target]
  | .bad issues => .error (.problem (.targetInvalid key issues))

inductive Inserted (fits : String × Value → Prop) : Environment → Environment → Prop where
  | nil : Inserted fits [] []
  | keep (e : String × Value) (old new : Environment) (rest : Inserted fits old new) : Inserted fits (e :: old) (e :: new)
  | insert (e : String × Value) (old new : Environment) (fit : fits e) (rest : Inserted fits old new) :
      Inserted fits old (e :: new)

-- In front of the selected entry: metadata, or what is no dictionary, under a key that does not occur.
def FitsInFront (entries : Environment) (e : String × Value) : Prop :=
  e.1 = metadataKey ∨ (e.1 ∉ entries.keys ∧ ∀ block, e.2 ≠ .dict block)

-- Behind it: anything, under a key that is not the selected one and does not occur in front.
def FitsBehind (front : Environment) (key : String) (e : String × Value) : Prop := e.1 ≠ key ∧ e.1 ∉ front.keys

theorem select_keyed (entries : Environment) :
    SingleTarget.select? (keyed entries) =
      (entries.findSome? fun e => (block? e.1 e.2).map fun block => (e.1, block)).map fun found =>
        (.text found.1, found.2) := by
  induction entries with
  | nil => rfl
  | cons e rest ih =>
      obtain ⟨key, v⟩ := e
      have step : SingleTarget.select? (keyed ((key, v) :: rest)) =
          ((block? key v).map fun block => (Value.text key, block)).or (SingleTarget.select? (keyed rest)) := by
        change SingleTarget.select? ((.text key, v) :: keyed rest) = _
        by_cases metadata : key = metadataKey
        · simp [SingleTarget.select?, Value.sameKey, block?, metadata]
        · cases v <;> simp [SingleTarget.select?, Value.sameKey, block?, metadata]
      rw [step, ih, List.findSome?_cons]
      cases block? key v <;> rfl

theorem select_collapsed (entries : Environment) :
    SingleTarget.select? (keyed (collapse entries)) = (first? entries).map fun found => (.text found.1, found.2) := by
  rw [select_keyed, Environment.collapse_find (fun key v => (block? key v).map fun block => (key, block))]
  simp only [first?, blockUnder?, Option.map_bind]
  rfl

theorem parse_first (content : List UInt8) (entries : Environment) (root : HasRoot content entries) :
    SingleTarget.parse content =
      match first? entries with
      | none => .ok []
      | some (key, block) => validated key block := by
  have read : SingleTarget.parse content = SingleTarget.ofRoot (keyed (collapse entries)) := by
    rw [SingleTarget.parse, Plist.load_root content entries root]
    rfl
  rw [read, SingleTarget.ofRoot, select_collapsed]
  cases first? entries with
  | none => rfl
  | some found => rfl

theorem parse_failure (content : List UInt8) (entries : Environment) (root : HasRoot content entries) (f : Failure)
    (failed : SingleTarget.parse content = .error f) : ∃ key block issues, first? entries = some (key, block) ∧
      TestTarget.ofEntries block = .bad issues ∧ f = .problem (.targetInvalid key issues) := by
  rw [parse_first content entries root] at failed
  cases found : first? entries with
  | none =>
      rw [found] at failed
      cases failed
  | some pair =>
      obtain ⟨key, block⟩ := pair
      rw [found] at failed
      change validated key block = .error f at failed
      unfold validated at failed
      cases checked : TestTarget.ofEntries block with
      | ok target =>
          rw [checked] at failed
          cases failed
      | bad issues =>
          rw [checked] at failed
          cases failed
          exact ⟨key, block, issues, rfl, checked, rfl⟩

theorem block_under_some (entries : Environment) (key : String) (block : Entries)
    (found : blockUnder? entries key = some block) : key ≠ metadataKey ∧ last? key entries = some (.dict block) := by
  obtain ⟨v, last, under⟩ := Option.bind_eq_some_iff.mp found
  unfold block? at under
  split at under
  · cases under
  · rename_i other
    refine ⟨other, ?_⟩
    split at under
    · cases under
      exact last
    · cases under

theorem metadata_under (entries : Environment) : blockUnder? entries metadataKey = none := by
  cases under : blockUnder? entries metadataKey with
  | none => rfl
  | some block => exact absurd rfl (block_under_some entries metadataKey block under).1

theorem first_known (entries : Environment) (key : String) (block : Entries) (found : first? entries = some (key, block)) :
    blockUnder? entries key = some block := by
  obtain ⟨e, -, here⟩ := List.exists_of_findSome?_eq_some found
  obtain ⟨_, under, same⟩ := Option.map_eq_some_iff.mp here
  cases same
  exact under

theorem first_at_iff (front behind : Environment) (key : String) (v : Value) (block : Entries)
    (fresh : key ∉ front.keys) :
    first? (front ++ (key, v) :: behind) = some (key, block) ↔
      blockUnder? (front ++ (key, v) :: behind) key = some block ∧
        ∀ e ∈ front, blockUnder? (front ++ (key, v) :: behind) e.1 = none := by
  have known := first_known (front ++ (key, v) :: behind) key block
  unfold first? at known ⊢
  generalize blockUnder? (front ++ (key, v) :: behind) = under at known ⊢
  rw [List.findSome?_append, List.findSome?_cons] at known ⊢
  constructor
  · intro found
    refine ⟨known found, ?_⟩
    cases passed : front.findSome? fun e => (under e.1).map fun block => (e.1, block) with
    | none =>
        intro e member
        exact Option.map_eq_none_iff.mp (List.findSome?_eq_none_iff.mp passed e member)
    | some other =>
        rw [passed] at found
        cases found
        obtain ⟨e, member, here⟩ := List.exists_of_findSome?_eq_some passed
        obtain ⟨_, _, same⟩ := Option.map_eq_some_iff.mp here
        cases same
        exact absurd (List.mem_map_of_mem member) fresh
  · rintro ⟨here, others⟩
    have passed : (front.findSome? fun e => (under e.1).map fun block => (e.1, block)) = none :=
      List.findSome?_eq_none_iff.mpr fun e member => by rw [others e member]; rfl
    rw [passed, here]
    rfl

theorem selected_present (front behind : Environment) (key : String) (v : Value) :
    key ∈ (front ++ (key, v) :: behind).keys :=
  List.mem_map_of_mem (List.mem_append_right front List.mem_cons_self)

theorem inserted_mem (fits : String × Value → Prop) (old new : Environment) (inserted : Inserted fits old new) :
    ∀ e ∈ new, e ∈ old ∨ fits e := by
  induction inserted with
  | nil => exact fun e member => .inl member
  | keep d old new _ ih =>
      intro e member
      rcases List.mem_cons.mp member with rfl | later
      · exact .inl List.mem_cons_self
      · exact (ih e later).imp_left (List.mem_cons_of_mem _)
  | insert d old new fit _ ih =>
      intro e member
      rcases List.mem_cons.mp member with rfl | later
      · exact .inr fit
      · exact ih e later

theorem inserted_last (fits : String × Value → Prop) (old new : Environment) (inserted : Inserted fits old new)
    (key : String) (others : ∀ e, fits e → e.1 ≠ key) : last? key new = last? key old := by
  induction inserted with
  | nil => rfl
  | keep d old new _ ih => rw [last?, last?, ih]
  | insert d old new fit _ ih => rw [last?, ih, if_neg (others d fit), Option.or_none]

section

variable (front behind front' behind' : Environment) (key : String) (v : Value)
  (before : Inserted (FitsInFront (front ++ (key, v) :: behind)) front front')
  (after : Inserted (FitsBehind front' key) behind behind')

include before after

theorem decisive_last (name : String) (other : name ≠ metadataKey) (present : name ∈ (front ++ (key, v) :: behind).keys)
    (decisive : name = key ∨ name ∈ front'.keys) :
    last? name (front' ++ (key, v) :: behind') = last? name (front ++ (key, v) :: behind) := by
  have sameFront : last? name front' = last? name front := by
    apply inserted_last _ _ _ before
    rintro e (metadata | ⟨absent, -⟩) rfl
    · exact other metadata
    · exact absent present
  have sameBehind : last? name behind' = last? name behind := by
    apply inserted_last _ _ _ after
    rintro e ⟨differs, absent⟩ rfl
    exact decisive.elim differs absent
  rw [Environment.last_append, Environment.last_append, last?, last?, sameFront, sameBehind]

theorem inserted_passed (e : String × Value) (member : e ∈ front') (fits : FitsInFront (front ++ (key, v) :: behind) e) :
    blockUnder? (front' ++ (key, v) :: behind') e.1 = none := by
  cases under : blockUnder? (front' ++ (key, v) :: behind') e.1 with
  | none => rfl
  | some block =>
      obtain ⟨other, last⟩ := block_under_some _ _ _ under
      obtain ⟨absent, -⟩ := fits.resolve_left other
      -- The last value of the key is an inserted one: the key occurs nowhere else.
      rcases List.mem_append.mp (Environment.last_mem _ _ _ last) with inFront | inBehind
      · rcases inserted_mem _ _ _ before _ inFront with old | new
        · exact absurd (List.mem_map_of_mem (List.mem_append_left _ old)) absent
        · exact absurd rfl ((new.resolve_left other).2 block)
      · rcases List.mem_cons.mp inBehind with selected | later
        · have same : e.1 = key := congrArg Prod.fst selected
          exact absurd (selected_present front behind key v) (same ▸ absent)
        · rcases inserted_mem _ _ _ after _ later with old | new
          · exact absurd (List.mem_map_of_mem (List.mem_append_right _ (List.mem_cons_of_mem _ old))) absent
          · exact absurd (List.mem_map_of_mem member) new.2

theorem inserting_keeps_first (fresh : key ∉ front.keys) (block : Entries)
    (found : first? (front ++ (key, v) :: behind) = some (key, block)) :
    first? (front' ++ (key, v) :: behind') = some (key, block) := by
  obtain ⟨here, passed⟩ := (first_at_iff front behind key v block fresh).mp found
  obtain ⟨other, -⟩ := block_under_some _ _ _ here
  have present := selected_present front behind key v
  have freshStill : key ∉ front'.keys := by
    intro again
    obtain ⟨e, member, rfl⟩ := List.mem_map.mp again
    rcases inserted_mem _ _ _ before e member with old | metadata | ⟨absent, -⟩
    · exact fresh (List.mem_map_of_mem old)
    · exact other metadata
    · exact absent present
  refine (first_at_iff front' behind' key v block freshStill).mpr ⟨?_, fun e member => ?_⟩
  · rw [blockUnder?, decisive_last front behind front' behind' key v before after key other present (.inl rfl)]
    exact here
  · by_cases metadata : e.1 = metadataKey
    · rw [metadata, metadata_under]
    · rcases inserted_mem _ _ _ before e member with old | new
      · have known : e.1 ∈ (front ++ (key, v) :: behind).keys := List.mem_map_of_mem (List.mem_append_left _ old)
        rw [blockUnder?, decisive_last front behind front' behind' key v before after e.1 metadata known
          (.inr (List.mem_map_of_mem member))]
        exact passed e old
      · exact inserted_passed front behind front' behind' key v before after e member new

end

theorem selection_follows_document_order (content : List UInt8) (entries : Environment) (root : HasRoot content entries) :
    (SingleTarget.parse content =
      match first? entries with
      | none => .ok []
      | some (key, block) => validated key block) ∧
    (∀ f, SingleTarget.parse content = .error f → ∃ key block issues p, first? entries = some (key, block) ∧
      TestTarget.ofEntries block = .bad issues ∧ f = .problem p ∧ p.code = .schemaMismatch ∧
      p.message = "failed to decode scheme " ++ key ++ ": " ++ Model.target.summary issues) ∧
    ∀ key block front v behind, first? entries = some (key, block) → entries = front ++ (key, v) :: behind →
      key ∉ front.keys → ∀ front' behind' content', Inserted (FitsInFront entries) front front' →
        Inserted (FitsBehind front' key) behind behind' → HasRoot content' (front' ++ (key, v) :: behind') →
          SingleTarget.parse content' = SingleTarget.parse content := by
  have parsed := parse_first content entries root
  refine ⟨parsed, fun f failed => ?_, ?_⟩
  · obtain ⟨key, block, issues, found, checked, rfl⟩ := parse_failure content entries root f failed
    exact ⟨key, block, issues, _, found, checked, rfl, rfl, rfl⟩
  · rintro key block front v behind found rfl fresh front' behind' content' before after root'
    rw [parsed, parse_first content' _ root', found,
      inserting_keeps_first front behind front' behind' key v before after fresh block found]

def turnedPage : List UInt8 :=
  ["<plist>", "<dict>", "<key>n</key>", "<integer>0x1F</integer>", "<key>a</key>", "<true/>", "<key>b</key>", "<dict/>",
    "<key>a</key>", "<dict>", "<key>TestBundlePath</key>", "<true/>", "</dict>", "</dict>", "</plist>"].flatMap Plist.ascii

def widerPage : List UInt8 :=
  ["<plist>", "<dict>", "<key>__xctestrun_metadata__</key>", "<dict/>", "<key>n</key>", "<integer>0x1F</integer>",
    "<key>m</key>", "<date>2024-01-02T03:04:05Z</date>", "<key>a</key>", "<true/>", "<key>c</key>", "<dict>",
    "<key>IsUITestBundle</key>", "<array/>", "</dict>", "<key>b</key>", "<dict/>", "<key>a</key>", "<dict>",
    "<key>TestBundlePath</key>", "<true/>", "</dict>", "</dict>", "</plist>"].flatMap Plist.ascii

def numberElement : List Xml.Event := enclosed "integer" 1 1 (written "0x1F")

def dateElement : List Xml.Event := enclosed "date" 1 1 (written "2024-01-02T03:04:05Z")

def yesElement : List Xml.Event := enclosed "true" 1 1 []

theorem number_spells : Spells numberElement (.value (.int 31)) :=
  .scalar "integer" Plist.Builder.readInteger 1 1 (written "0x1F") _ rfl (written_idle _) rfl

theorem date_spells : Spells dateElement (.value (.date ⟨2024, 1, 2, 3, 4, 5, 0⟩)) :=
  .scalar "date" Plist.Builder.readDate 1 1 (written "2024-01-02T03:04:05Z") _ rfl (written_idle _) rfl

theorem yes_spells : Spells yesElement (.value (.bool true)) := .switch "true" true 1 1 [] rfl rfl

def pathlessBlock : Value := .dict [(.text "TestBundlePath", .bool true)]

def turnedEntries : Environment := [("n", .int 31), ("a", .bool true), ("b", .dict []), ("a", pathlessBlock)]

def widerEntries : Environment :=
  [(metadataKey, .dict []), ("n", .int 31), ("m", .date ⟨2024, 1, 2, 3, 4, 5, 0⟩), ("a", .bool true),
    ("c", .dict [(.text "IsUITestBundle", .array [])]), ("b", .dict []), ("a", pathlessBlock)]

theorem turned_page_root : HasRoot turnedPage turnedEntries := by
  have block := Spells.dict 1 1 _ _ (entry_spells "TestBundlePath" _ _ _ _ yes_spells (.noEntries [] rfl))
  have empty := Spells.dict 1 1 _ _ (.noEntries [] rfl)
  have behind := entry_spells "b" _ _ _ _ empty (entry_spells "a" _ _ _ _ block (.noEntries [] rfl))
  have spells := entry_spells "n" _ _ _ _ number_spells (entry_spells "a" _ _ _ _ yes_spells behind)
  exact ⟨by decide +kernel, [.start "plist".toList 1], [], 1, 1, _, [.finish "plist".toList 1], .noItems _ rfl, spells, rfl,
    by decide +kernel⟩

theorem wider_page_root : HasRoot widerPage widerEntries := by
  have block := Spells.dict 1 1 _ _ (entry_spells "TestBundlePath" _ _ _ _ yes_spells (.noEntries [] rfl))
  have empty := Spells.dict 1 1 _ _ (.noEntries [] rfl)
  have list := Spells.array 1 1 _ _ (.noItems [] rfl)
  have faulty := Spells.dict 1 1 _ _ (entry_spells "IsUITestBundle" _ _ _ _ list (.noEntries [] rfl))
  have behind := entry_spells "b" _ _ _ _ empty (entry_spells "a" _ _ _ _ block (.noEntries [] rfl))
  have selected := entry_spells "a" _ _ _ _ yes_spells (entry_spells "c" _ _ _ _ faulty behind)
  have front := entry_spells "n" _ _ _ _ number_spells (entry_spells "m" _ _ _ _ date_spells selected)
  exact ⟨by decide +kernel, [.start "plist".toList 1], [], 1, 1, _, [.finish "plist".toList 1], .noItems _ rfl,
    entry_spells metadataKey _ _ _ _ empty front, rfl, by decide +kernel⟩

theorem turned_page_keeps_its_selection :
    HasRoot turnedPage turnedEntries ∧ HasRoot widerPage widerEntries ∧
      SingleTarget.parse turnedPage =
        .error (.problem (.targetInvalid "a" [⟨[.key "TestBundlePath"], .stringType⟩])) ∧
      (∃ p : Problem, SingleTarget.parse turnedPage = .error (.problem p) ∧ p.code = .schemaMismatch ∧
        p.message = "failed to decode scheme a: 1 validation error for SchemeRecord") ∧
      SingleTarget.parse widerPage = SingleTarget.parse turnedPage := by
  obtain ⟨parsed, named, kept⟩ := selection_follows_document_order turnedPage turnedEntries turned_page_root
  have first : first? turnedEntries = some ("a", [(.text "TestBundlePath", .bool true)]) := rfl
  have failed : SingleTarget.parse turnedPage =
      .error (.problem (.targetInvalid "a" [⟨[.key "TestBundlePath"], .stringType⟩])) := parsed
  refine ⟨turned_page_root, wider_page_root, failed, ?_, ?_⟩
  · obtain ⟨key, block, issues, p, found, checked, same, code, message⟩ := named _ failed
    rw [first] at found
    cases found
    cases checked
    exact ⟨p, by rw [failed, same], code, message⟩
  · have before : Inserted (FitsInFront turnedEntries) [("n", .int 31)]
        [(metadataKey, .dict []), ("n", .int 31), ("m", .date ⟨2024, 1, 2, 3, 4, 5, 0⟩)] :=
      .insert _ _ _ (.inl rfl) (.keep _ _ _ (.insert _ _ _ (.inr ⟨by decide, by simp⟩) .nil))
    have after : Inserted (FitsBehind [(metadataKey, .dict []), ("n", .int 31), ("m", .date ⟨2024, 1, 2, 3, 4, 5, 0⟩)] "a")
        [("b", .dict []), ("a", pathlessBlock)]
        [("c", .dict [(.text "IsUITestBundle", .array [])]), ("b", .dict []), ("a", pathlessBlock)] :=
      .insert _ _ _ ⟨by decide, by decide⟩ (.keep _ _ _ (.keep _ _ _ .nil))
    exact kept "a" _ [("n", .int 31)] (.bool true) _ first rfl (by decide) _ _ widerPage before after wider_page_root

end TestRun.Format
