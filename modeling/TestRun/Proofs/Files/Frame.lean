import TestRun.Proofs.Files.Writing

/-! What making directories and writing a file leave as it was. -/

set_option autoImplicit false

namespace TestRun.Files

def SameContents (fs after : Files) : Prop := ∀ place, after.content? place = fs.content? place

def ChangesOnly (p : Path) (fs after : Files) : Prop :=
  ∀ place, after.content? place ≠ fs.content? place → after.locate p = .ok (.file place)

def OnWay (p : Path) (fs : Files) (place : List String) : Prop :=
  ∃ way : Path, way.root = p.root ∧ way.parts <+: p.parts ∧ fs.locate way = .ok (.directory place)

structure OpensWay (p : Path) (fs after : Files) : Prop where
  here : after.here = fs.here
  kept : ∀ place, fs.isDirectoryAt place = true → after.isDirectoryAt place = true
  added : ∀ place, after.isDirectoryAt place = true → fs.isDirectoryAt place = false →
    fs.content? place = none ∧ OnWay p after place

def addDirectory (fs : Files) (place : List String) : Files := { fs with directories := fs.directories ++ [place] }

theorem same_contents_of_files (fs after : Files) (same : after.files = fs.files) : SameContents fs after := by
  intro place
  rw [content?, content?, same]

theorem same_contents_changes (p : Path) (fs after : Files) (same : SameContents fs after) : ChangesOnly p fs after :=
  fun place differs => absurd (same place) differs

theorem content_elsewhere (fs : Files) (place other : List String) (content : List UInt8) (apart : other ≠ place) :
    (fs.store place content).content? other = fs.content? other := by
  have found (files : List (List String × List UInt8)) :
      (setContent place content files).find? (fun entry => entry.1 == other) =
        files.find? (fun entry => entry.1 == other) := by
    induction files with
    | nil => simp [setContent, Ne.symm apart]
    | cons entry rest ih =>
        by_cases same : entry.1 = place
        · simp [setContent, same, Ne.symm apart]
        · simp [setContent, same, ih, List.find?_cons]
  change ((setContent place content fs.files).find? fun entry => entry.1 == other).map (·.2) = _
  rw [found]
  rfl

theorem write_changes (fs after : Files) (p : Path) (content : List UInt8) (written : fs.write p content = .ok after) :
    ChangesOnly p fs after := by
  obtain ⟨place, located, rfl⟩ := write_located fs after p content written
  intro other differs
  obtain rfl : other = place := Classical.byContradiction fun apart => differs (content_elsewhere fs place other content apart)
  exact locate_stored fs other content p located

theorem walk_kept (fs after : Files) (kept : ∀ place, fs.isDirectoryAt place = true → after.isDirectoryAt place = true)
    (start parts place : List String) (ends : fs.walk start parts = .ok (.directory place)) :
    after.walk start parts = .ok (.directory place) := by
  induction parts generalizing start with
  | nil => exact ends
  | cons part rest ih =>
      rw [walk] at ends ⊢
      by_cases up : part = ".."
      · rw [if_pos up] at ends ⊢
        exact ih start.dropLast ends
      rw [if_neg up] at ends ⊢
      by_cases long : 255 < nameLength part
      · rw [if_pos long] at ends
        cases ends
      rw [if_neg long] at ends ⊢
      dsimp only at ends ⊢
      by_cases directory : fs.isDirectoryAt (start ++ [part]) = true
      · rw [if_pos directory] at ends
        rw [if_pos (kept _ directory)]
        exact ih (start ++ [part]) ends
      · rw [if_neg directory] at ends
        by_cases there : (fs.content? (start ++ [part])).isSome = true <;> cases rest <;> simp [there] at ends

theorem locate_kept (fs after : Files) (here : after.here = fs.here)
    (kept : ∀ place, fs.isDirectoryAt place = true → after.isDirectoryAt place = true) (p : Path) (place : List String)
    (located : fs.locate p = .ok (.directory place)) : after.locate p = .ok (.directory place) := by
  rw [locate] at located ⊢
  by_cases long : 4096 ≤ nameLength p.text
  · rw [if_pos long] at located
    cases located
  · rw [if_neg long] at located ⊢
    rw [here]
    exact walk_kept fs after kept _ p.parts place located

theorem on_way_kept (p : Path) (fs after : Files) (here : after.here = fs.here)
    (kept : ∀ place, fs.isDirectoryAt place = true → after.isDirectoryAt place = true) (place : List String)
    (onWay : OnWay p fs place) : OnWay p after place := by
  obtain ⟨way, root, parts, located⟩ := onWay
  exact ⟨way, root, parts, locate_kept fs after here kept way place located⟩

theorem directory_added (fs : Files) (place other : List String) :
    (fs.addDirectory place).isDirectoryAt other = true ↔ fs.isDirectoryAt other = true ∨ other = place := by
  simp [addDirectory, isDirectoryAt, or_assoc]

theorem walk_free (fs : Files) (start parts place : List String) (ends : fs.walk start parts = .ok (.free place)) :
    fs.content? place = none ∧ (fs.addDirectory place).walk start parts = .ok (.directory place) := by
  induction parts generalizing start with
  | nil => cases ends
  | cons part rest ih =>
      rw [walk] at ends ⊢
      by_cases up : part = ".."
      · rw [if_pos up] at ends ⊢
        exact ih start.dropLast ends
      rw [if_neg up] at ends ⊢
      by_cases long : 255 < nameLength part
      · rw [if_pos long] at ends
        cases ends
      rw [if_neg long] at ends ⊢
      dsimp only at ends ⊢
      by_cases directory : fs.isDirectoryAt (start ++ [part]) = true
      · rw [if_pos directory] at ends
        rw [if_pos ((directory_added fs place _).mpr (.inl directory))]
        exact ih (start ++ [part]) ends
      rw [if_neg directory] at ends
      by_cases there : (fs.content? (start ++ [part])).isSome = true
      · cases rest <;> simp [there] at ends
      cases rest with
      | cons next more => simp [there] at ends
      | nil =>
          have last : start ++ [part] = place := by simpa [there] using ends
          rw [last] at there ⊢
          rw [if_pos ((directory_added fs place place).mpr (.inr rfl)), walk]
          exact ⟨by simpa using there, rfl⟩

theorem locate_free (fs : Files) (p : Path) (place : List String) (located : fs.locate p = .ok (.free place)) :
    fs.content? place = none ∧ (fs.addDirectory place).locate p = .ok (.directory place) := by
  rw [locate] at located ⊢
  by_cases long : 4096 ≤ nameLength p.text
  · rw [if_pos long] at located
    cases located
  · rw [if_neg long] at located ⊢
    exact walk_free fs _ p.parts place located

theorem opens_refl (p : Path) (fs : Files) : OpensWay p fs fs :=
  ⟨rfl, fun _ there => there, fun _ there absent => by rw [there] at absent; cases absent⟩

theorem opens_trans (p : Path) (fs made after : Files) (same : made.files = fs.files) (first : OpensWay p fs made)
    (second : OpensWay p made after) : OpensWay p fs after where
  here := second.here.trans first.here
  kept place there := second.kept place (first.kept place there)
  added place there absent := by
    cases between : made.isDirectoryAt place with
    | true =>
        obtain ⟨free, way⟩ := first.added place between absent
        exact ⟨free, on_way_kept p made after second.here second.kept place way⟩
    | false =>
        obtain ⟨free, way⟩ := second.added place there between
        exact ⟨(same_contents_of_files fs made same place).symm.trans free, way⟩

theorem opens_parent (p : Path) (fs after : Files) (opens : OpensWay p.parent fs after) : OpensWay p fs after where
  here := opens.here
  kept := opens.kept
  added place there absent := by
    obtain ⟨free, way, root, parts, located⟩ := opens.added place there absent
    exact ⟨free, way, root, parts.trans (List.dropLast_prefix p.parts), located⟩

theorem opens_stored (p : Path) (fs made : Files) (place : List String) (content : List UInt8) (opens : OpensWay p fs made) :
    OpensWay p fs (made.store place content) where
  here := opens.here
  kept := opens.kept
  added other there absent := by
    obtain ⟨free, way⟩ := opens.added other there absent
    exact ⟨free, on_way_kept p made (made.store place content) rfl (fun _ there => there) other way⟩

theorem added_opens (p : Path) (fs : Files) (place : List String) (located : fs.locate p = .ok (.free place)) :
    OpensWay p fs (fs.addDirectory place) where
  here := rfl
  kept other there := (directory_added fs place other).mpr (.inl there)
  added other there absent := by
    rcases (directory_added fs place other).mp there with old | rfl
    · rw [old] at absent
      cases absent
    · obtain ⟨free, made⟩ := locate_free fs p other located
      exact ⟨free, p, rfl, List.prefix_refl _, made⟩

theorem make_directory_opens (fs made : Files) (p : Path) (done : fs.makeDirectory p = .ok made) :
    made.files = fs.files ∧ OpensWay p fs made := by
  rw [makeDirectory] at done
  cases located : fs.locate p with
  | error cause =>
      rw [located] at done
      cases done
  | ok found =>
      rw [located] at done
      cases found with
      | directory place => cases done
      | file place => cases done
      | free place =>
          obtain rfl := Except.ok.inj done
          exact ⟨rfl, added_opens p fs place located⟩

theorem ensure_directory_opens (fs : Files) (p : Path) :
    (fs.ensureDirectory p).1.files = fs.files ∧ OpensWay p fs (fs.ensureDirectory p).1 := by
  rw [ensureDirectory]
  cases done : fs.makeDirectory p with
  | ok made => exact make_directory_opens fs made p done
  | error f =>
      dsimp only
      split <;> exact ⟨rfl, opens_refl p fs⟩

theorem ensure_way_opens (fs : Files) (steps : Nat) (p : Path) :
    (fs.ensureWay steps p).1.files = fs.files ∧ OpensWay p fs (fs.ensureWay steps p).1 := by
  induction steps generalizing fs p with
  | zero => exact ensure_directory_opens fs p
  | succ steps ih =>
      rw [ensureWay]
      obtain ⟨tried, opens⟩ := ensure_directory_opens fs p
      cases attempt : fs.ensureDirectory p with
      | mk made fault =>
          rw [attempt] at tried opens
          cases fault with
          | none => exact ⟨tried, opens⟩
          | some f =>
              dsimp only
              by_cases missing : f.cause = .notFound ∧ p.parent ≠ p
              · rw [if_pos missing]
                obtain ⟨raised, above⟩ := ih made p.parent
                have way := opens_trans p fs made _ tried opens (opens_parent p made _ above)
                cases parents : made.ensureWay steps p.parent with
                | mk ready fault =>
                    rw [parents] at raised way
                    cases fault with
                    | some g => exact ⟨raised.trans tried, way⟩
                    | none =>
                        obtain ⟨last, final⟩ := ensure_directory_opens ready p
                        exact ⟨last.trans (raised.trans tried),
                          opens_trans p fs ready _ (raised.trans tried) way final⟩
              · rw [if_neg missing]
                exact ⟨tried, opens⟩

theorem make_directories_opens (fs : Files) (p : Path) :
    (fs.makeDirectories p).1.files = fs.files ∧ OpensWay p fs (fs.makeDirectories p).1 :=
  ensure_way_opens fs p.parts.length p

end TestRun.Files
