import TestRun.Files

/-! A file that has been written holds what was written. -/

set_option autoImplicit false

namespace TestRun.Files

def store (fs : Files) (place : List String) (content : List UInt8) : Files :=
  { fs with files := setContent place content fs.files }

theorem content_stored (fs : Files) (place : List String) (content : List UInt8) :
    (fs.store place content).content? place = some content := by
  have found (files : List (List String × List UInt8)) :
      (setContent place content files).find? (fun entry => entry.1 == place) = some (place, content) := by
    induction files with
    | nil => simp [setContent]
    | cons entry rest ih =>
        by_cases same : entry.1 = place
        · simp [setContent, same]
        · simp [setContent, same, ih]
  change ((setContent place content fs.files).find? fun entry => entry.1 == place).map (·.2) = _
  rw [found, Option.map_some]

theorem walk_stored (fs : Files) (place : List String) (content : List UInt8) (start parts : List String)
    (ends : fs.walk start parts = .ok (.file place) ∨ fs.walk start parts = .ok (.free place)) :
    (fs.store place content).walk start parts = .ok (.file place) := by
  induction parts generalizing start with
  | nil => rcases ends with ends | ends <;> cases ends
  | cons part rest ih =>
      rw [walk] at ends ⊢
      by_cases up : part = ".."
      · rw [if_pos up] at ends ⊢
        exact ih start.dropLast ends
      rw [if_neg up] at ends ⊢
      by_cases long : 255 < nameLength part
      · rw [if_pos long] at ends
        rcases ends with ends | ends <;> cases ends
      rw [if_neg long] at ends ⊢
      dsimp only at ends ⊢
      have directories : (fs.store place content).isDirectoryAt (start ++ [part]) = fs.isDirectoryAt (start ++ [part]) := rfl
      rw [directories]
      by_cases directory : fs.isDirectoryAt (start ++ [part]) = true
      · rw [if_pos directory] at ends ⊢
        exact ih (start ++ [part]) ends
      rw [if_neg directory] at ends ⊢
      cases rest with
      | nil =>
          have last : start ++ [part] = place := by
            by_cases there : (fs.content? (start ++ [part])).isSome = true <;> simpa [there] using ends
          rw [last, content_stored]
          rfl
      | cons next more =>
          by_cases there : (fs.content? (start ++ [part])).isSome = true <;> simp [there] at ends

theorem write_located (fs made : Files) (p : Path) (content : List UInt8) (written : fs.write p content = .ok made) :
    ∃ place, (fs.locate p = .ok (.file place) ∨ fs.locate p = .ok (.free place)) ∧ made = fs.store place content := by
  rw [write] at written
  cases located : fs.locate p with
  | error cause =>
      rw [located] at written
      cases written
  | ok found =>
      rw [located] at written
      cases found with
      | directory place => cases written
      | file place => exact ⟨place, .inl rfl, (Except.ok.inj written).symm⟩
      | free place => exact ⟨place, .inr rfl, (Except.ok.inj written).symm⟩

theorem locate_stored (fs : Files) (place : List String) (content : List UInt8) (p : Path)
    (located : fs.locate p = .ok (.file place) ∨ fs.locate p = .ok (.free place)) :
    (fs.store place content).locate p = .ok (.file place) := by
  rw [locate] at located ⊢
  by_cases long : 4096 ≤ nameLength p.text
  · rw [if_pos long] at located
    rcases located with located | located <;> cases located
  · rw [if_neg long] at located ⊢
    exact walk_stored fs place content _ p.parts located

theorem read_written (fs made : Files) (p : Path) (content : List UInt8) (written : fs.write p content = .ok made) :
    made.read p = .ok content := by
  obtain ⟨place, located, rfl⟩ := write_located fs made p content written
  rw [read, locate_stored fs place content p located]
  dsimp only
  rw [content_stored]

end TestRun.Files
