import TestRun.Command.Run
import TestRun.Proofs.Files.Frame

/-! How the commands end: what each way to end has made, printed and left. -/

set_option autoImplicit false

namespace TestRun.Command

-- What is left in the file for a text: its bytes, or nothing if it has none.
def saveBytes (text : Wording) : List UInt8 :=
  match (text ++ "\n").encode with
  | .ok bytes => bytes
  | .error _ => []

inductive Saving (fs : Files) (directory : Path) (name : String) (text : Wording) : Files × Except Ending Path → Prop where
  | nul (marked : directory.hasNul = true) : Saving fs directory name text (fs, .error .nulInDirectory)
  | noDirectory (made : Files) (f : Files.Fault) (failed : fs.makeDirectories directory = (made, some f)) :
      Saving fs directory name text (made, .error (.file f))
  | noFile (made : Files) (f : Files.Fault) (ready : fs.makeDirectories directory = (made, none))
      (failed : made.write (directory.child name) (saveBytes text) = .error f) :
      Saving fs directory name text (made, .error (.file f))
  | emptied (made after : Files) (u : Wording.Unencodable) (unmarked : directory.hasNul = false)
      (ready : fs.makeDirectories directory = (made, none))
      (unfit : (text ++ "\n").encode = .error u)
      (written : made.write (directory.child name) (saveBytes text) = .ok after) :
      Saving fs directory name text (after, .error (.unencodable u))
  | saved (made after : Files) (bytes : List UInt8) (unmarked : directory.hasNul = false)
      (ready : fs.makeDirectories directory = (made, none)) (fit : (text ++ "\n").encode = .ok bytes)
      (written : made.write (directory.child name) (saveBytes text) = .ok after) :
      Saving fs directory name text (after, .ok (directory.child name))

theorem save_saving (fs : Files) (directory : Path) (name : String) (text : Wording) :
    Saving fs directory name text (save fs directory name text) := by
  rw [save]
  by_cases marked : directory.hasNul = true
  · rw [if_pos marked]
    exact .nul marked
  rw [if_neg marked]
  cases ready : fs.makeDirectories directory with
  | mk made fault =>
      cases fault with
      | some f => exact .noDirectory made f ready
      | none =>
          dsimp only
          cases fit : (text ++ "\n").encode with
          | error u =>
              have bytes : saveBytes text = [] := by rw [saveBytes, fit]
              dsimp only
              rw [overwrite, ← bytes]
              cases written : made.write (directory.child name) (saveBytes text) with
              | error f => exact .noFile made f ready written
              | ok after => exact .emptied made after u (by simpa using marked) ready fit written
          | ok bytes =>
              have stored : saveBytes text = bytes := by rw [saveBytes, fit]
              dsimp only
              rw [overwrite, ← stored]
              cases written : made.write (directory.child name) (saveBytes text) with
              | error f => exact .noFile made f ready written
              | ok after => exact .saved made after bytes (by simpa using marked) ready fit written

theorem saving_frame (fs : Files) (directory : Path) (name : String) (text : Wording) (result : Files × Except Ending Path)
    (saving : Saving fs directory name text result) :
    Files.OpensWay directory fs result.1 ∧ Files.ChangesOnly (directory.child name) fs result.1 ∧
      ((∃ e, result.2 = .error e ∧ ∀ u, e ≠ .unencodable u) → Files.SameContents fs result.1) := by
  have untouched (made : Files) (fault : Option Files.Fault) (ready : fs.makeDirectories directory = (made, fault)) :
      made.files = fs.files ∧ Files.OpensWay directory fs made := by
    have opens := Files.make_directories_opens fs directory
    rwa [ready] at opens
  have idle (made : Files) (same : Files.SameContents fs made) :
      Files.ChangesOnly (directory.child name) fs made := Files.same_contents_changes _ fs made same
  have opened (made after : Files) (ready : fs.makeDirectories directory = (made, none))
      (written : made.write (directory.child name) (saveBytes text) = .ok after) :
      Files.OpensWay directory fs after ∧ Files.ChangesOnly (directory.child name) fs after := by
    obtain ⟨same, opens⟩ := untouched made _ ready
    obtain ⟨place, -, rfl⟩ := Files.write_located made after _ _ written
    refine ⟨Files.opens_stored directory fs made place _ opens, fun other differs => ?_⟩
    rw [← Files.same_contents_of_files fs made same other] at differs
    exact Files.write_changes made _ _ _ written other differs
  cases saving with
  | nul marked => exact ⟨Files.opens_refl directory fs, idle fs fun _ => rfl, fun _ _ => rfl⟩
  | noDirectory made f failed =>
      obtain ⟨same, opens⟩ := untouched made _ failed
      have contents := Files.same_contents_of_files fs made same
      exact ⟨opens, idle made contents, fun _ => contents⟩
  | noFile made f ready failed =>
      obtain ⟨same, opens⟩ := untouched made _ ready
      have contents := Files.same_contents_of_files fs made same
      exact ⟨opens, idle made contents, fun _ => contents⟩
  | emptied made after u _ ready unfit written =>
      obtain ⟨opens, changes⟩ := opened made after ready written
      exact ⟨opens, changes, fun ⟨e, failed, other⟩ => absurd (Except.error.inj failed).symm (other u)⟩
  | saved made after bytes _ ready fit written =>
      obtain ⟨opens, changes⟩ := opened made after ready written
      exact ⟨opens, changes, fun ⟨e, failed, _⟩ => by cases failed⟩

theorem saving_read (fs : Files) (directory path : Path) (name : String) (text : Wording) (after : Files)
    (saving : Saving fs directory name text (after, .ok path)) :
    path = directory.child name ∧ (text ++ "\n").encode = .ok (saveBytes text) ∧
      after.read (directory.child name) = .ok (saveBytes text) := by
  cases saving with
  | saved made _ bytes _ _ fit written =>
      refine ⟨rfl, ?_, Files.read_written made after _ _ written⟩
      rw [saveBytes, fit]

theorem saving_emptied (fs : Files) (directory : Path) (name : String) (text : Wording) (after : Files)
    (u : Wording.Unencodable) (saving : Saving fs directory name text (after, .error (.unencodable u))) :
    (text ++ "\n").encode = .error u ∧ after.read (directory.child name) = .ok [] := by
  cases saving with
  | emptied made _ _ _ ready unfit written =>
      have read := Files.read_written made after _ _ written
      rw [saveBytes, unfit] at read
      exact ⟨unfit, read⟩

@[simp] theorem console_takes_text (console : Console) (s : String) : console.refusal? (.text s) = none := by
  cases console <;> rfl

section

variable (files : Files) (out : Wording) (notes : String) (e : Ending)

@[simp] theorem reported_exit : (reported files out notes e).exit = 1 := by
  rw [reported]
  cases e.line? <;> rfl

@[simp] theorem reported_out : (reported files out notes e).out = out := by
  rw [reported]
  cases e.line? <;> rfl

@[simp] theorem reported_files : (reported files out notes e).files = files := by
  rw [reported]
  cases e.line? <;> rfl

@[simp] theorem reported_crash : (reported files out notes e).crash = if e.line?.isSome then none else some e := by
  rw [reported]
  cases e.line? <;> rfl

end

def configLog (fs : Files) (s : Settings) (path : Path) : String := Note.lines s.level (configNotes fs s path)

def announcement (s : Settings) (values : List Value) : Wording :=
  if s.output.isSome then s.shown (okLine values.length) else ""

inductive ConfigsRun (console : Console) (fs : Files) (s : Settings) (path : Path) : Outcome → Prop where
  | unmade (e : Ending) (failed : configValues fs s path = .error e) :
      ConfigsRun console fs s path (reported fs "" (configLog fs s path) e)
  | unwritten (values : List Value) (w : Json.WriteFault) (made : configValues fs s path = .ok values)
      (failed : Json.canonical (.array values) = .error w) :
      ConfigsRun console fs s path (reported fs (announcement s values) (configLog fs s path) (.unwritable w))
  | unprinted (values : List Value) (text : Wording) (u : Wording.Unencodable)
      (made : configValues fs s path = .ok values) (written : Json.canonical (.array values) = .ok text)
      (direct : s.output = none) (refused : console.refusal? (s.shown text) = some u) :
      ConfigsRun console fs s path (reported fs "" (configLog fs s path) (.unencodable u))
  | printed (values : List Value) (text : Wording) (made : configValues fs s path = .ok values)
      (written : Json.canonical (.array values) = .ok text) (direct : s.output = none)
      (taken : console.refusal? (s.shown text) = none) :
      ConfigsRun console fs s path ⟨0, none, s.shown (text ++ "\n"), configLog fs s path, fs⟩
  | unsaved (values : List Value) (text : Wording) (directory : Path) (after : Files) (e : Ending)
      (made : configValues fs s path = .ok values) (written : Json.canonical (.array values) = .ok text)
      (given : s.output = some directory) (saving : Saving fs directory (resultName .configs) text (after, .error e)) :
      ConfigsRun console fs s path (reported after (announcement s values) (configLog fs s path) e)
  | saved (values : List Value) (text : Wording) (directory : Path) (after : Files)
      (made : configValues fs s path = .ok values) (written : Json.canonical (.array values) = .ok text)
      (given : s.output = some directory)
      (saving : Saving fs directory (resultName .configs) text (after, .ok (directory.child (resultName .configs)))) :
      ConfigsRun console fs s path ⟨0, none, announcement s values ++ s.shown (savedLine (directory.child (resultName .configs))),
        configLog fs s path, after⟩

theorem configs_run (console : Console) (fs : Files) (s : Settings) (path : Path) :
    ConfigsRun console fs s path (runConfigs console fs s path) := by
  rw [runConfigs]
  cases made : configValues fs s path with
  | error e => exact .unmade e made
  | ok values =>
      dsimp only
      rw [deliverConfigs]
      cases written : Json.canonical (.array values) with
      | error w => exact .unwritten values w made written
      | ok text =>
          dsimp only
          cases given : s.output with
          | none =>
              dsimp only
              rw [printConfigs]
              cases taken : console.refusal? (s.shown text) with
              | some u => exact .unprinted values text u made written given taken
              | none => exact .printed values text made written given taken
          | some directory =>
              have saving := save_saving fs directory (resultName .configs) text
              have announced : s.shown (okLine values.length) = announcement s values := by
                rw [announcement, given]
                rfl
              dsimp only
              cases kept : save fs directory (resultName .configs) text with
              | mk after result =>
                  rw [kept] at saving
                  simp only [Option.isSome_some, if_true, announced]
                  cases result with
                  | error e => exact .unsaved values text directory after e made written given saving
                  | ok place =>
                      obtain ⟨rfl, -⟩ := saving_read fs directory place _ text after saving
                      exact .saved values text directory after made written given saving

theorem refused_run (console : Console) (fs : Files) (s : Settings) (path : Path) (values : List Value) (text : Wording)
    (u : Wording.Unencodable) (made : configValues fs s path = .ok values)
    (written : Json.canonical (.array values) = .ok text) (direct : s.output = none)
    (refused : console.refusal? (s.shown text) = some u) :
    runConfigs console fs s path = reported fs "" (configLog fs s path) (.unencodable u) := by
  rw [runConfigs, made]
  simp only [deliverConfigs, written, direct, printConfigs, refused]
  rfl

theorem unwritten_ends (console : Console) (fs : Files) (s : Settings) (path : Path) (values : List Value) (w : Json.WriteFault)
    (made : configValues fs s path = .ok values) (failed : Json.canonical (.array values) = .error w) :
    runConfigs console fs s path = reported fs (announcement s values) (configLog fs s path) (.unwritable w) := by
  rw [runConfigs, made]
  simp only [deliverConfigs, failed]
  rfl

theorem unsaved_ends (console : Console) (fs after : Files) (s : Settings) (path directory : Path) (values : List Value)
    (text : Wording) (e : Ending) (made : configValues fs s path = .ok values)
    (written : Json.canonical (.array values) = .ok text) (given : s.output = some directory)
    (failed : save fs directory (resultName .configs) text = (after, .error e)) :
    runConfigs console fs s path = reported after (announcement s values) (configLog fs s path) e := by
  rw [runConfigs, made, announcement, given]
  simp only [deliverConfigs, written, given, failed]
  rfl

def verifyLog (fs : Files) (s : Settings) (path : Path) : String := Note.lines s.level (verifyNotes fs s path)

def reportExit (r : Report) : Nat := if r.isGood then 0 else 1

def runOf (console : Console) (fs : Files) (s : Settings) (path : Path) : Subcommand → Outcome
  | .configs => runConfigs console fs s path
  | .verify => runVerify fs s path

theorem run_accepted (console : Console) (fs : Files) (args : List String) (sub : Subcommand) (settings : Settings)
    (path : Path) (accepted : parse args = .command sub settings path) :
    run console fs args = runOf console fs settings path sub := by
  rw [run, accepted]
  cases sub <;> rfl

end TestRun.Command
