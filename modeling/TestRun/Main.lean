import TestRun.Command.Run

/-! The program: it looks at the files that a command line is about, runs the command over them, and makes what has
changed. -/

set_option autoImplicit false

namespace TestRun.Program

def paths (args : List String) : List Path :=
  match Command.parse args with
  | .command sub settings path =>
      path :: settings.apps.toList ++ settings.output.toList.map (·.child (Command.resultName sub))
  | _ => []

def places (here : List String) (p : Path) : List (List String) :=
  let start := if p.root = "" then here else []
  (List.range (p.parts.length + 1)).map fun count =>
    (p.parts.take count).foldl (fun place part => if part = ".." then place.dropLast else place ++ [part]) start

def nameOf (place : List String) : String := "/" ++ "/".intercalate place

def look (fs : Files) (place : List String) : IO Files := do
  if fs.isDirectoryAt place || (fs.content? place).isSome then pure fs
  else
    let path := (← IO.currentDir) / nameOf place
    if ← path.isDir then pure { fs with directories := fs.directories ++ [place] }
    else if ← path.pathExists then
      let content ← IO.FS.readBinFile path
      pure { fs with files := fs.files ++ [(place, content.toList)] }
    else pure fs

def keep (before after : Files) : IO Unit := do
  for place in after.directories do
    if !before.isDirectoryAt place then IO.FS.createDir (nameOf place)
  for (place, content) in after.files do
    if before.content? place != some content then
      IO.FS.writeBinFile (nameOf place) ⟨content.toArray⟩

def crashLine (e : Command.Ending) : String :=
  match e with
  | .file f => f.text
  | _ => "the run could not be finished"

end TestRun.Program

open TestRun in
def main (args : List String) : IO UInt32 := do
  let here := (Path.ofString (← IO.currentDir).toString).parts
  let wanted := (Program.paths args).filter fun p => !p.hasNul
  let before ← (wanted.flatMap (Program.places here)).foldlM Program.look (Files.empty here)
  let outcome := Command.run .encoder before args
  Program.keep before outcome.files
  IO.print (String.ofList (outcome.out.points.map Char.ofNat))
  IO.eprint outcome.err
  for e in outcome.crash.toList do
    IO.eprintln (Program.crashLine e)
  pure (UInt32.ofNat outcome.exit)
