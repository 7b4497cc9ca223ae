import TestRun.Text.Quoted
import TestRun.Text.Utf8

/-! Files and directories, and the one of them that relative paths start from. -/

set_option autoImplicit false

namespace TestRun

structure Path where
  root : String
  parts : List String
  deriving DecidableEq, Repr

namespace Path

def ofString (text : String) : Path :=
  let parts := ((text.toList.splitOn '/').map String.ofList).filter fun part => part != "" && part != "."
  let root :=
    if text.startsWith "//" && !text.startsWith "///" then "//"
    else if text.startsWith "/" then "/"
    else ""
  ⟨root, parts⟩

def text (p : Path) : String :=
  if p.root = "" ∧ p.parts = [] then "." else p.root ++ "/".intercalate p.parts

def parent (p : Path) : Path := { p with parts := p.parts.dropLast }

def child (p : Path) (name : String) : Path := { p with parts := p.parts ++ [name] }

def hasNul (p : Path) : Bool := p.parts.any fun part => part.toList.contains '\x00'

end Path

namespace Files

inductive Cause where
  | notFound
  | exists
  | notDirectory
  | isDirectory
  | nameTooLong
  deriving DecidableEq, Repr

def Cause.text : Cause → String
  | .notFound => "[Errno 2] No such file or directory"
  | .exists => "[Errno 17] File exists"
  | .notDirectory => "[Errno 20] Not a directory"
  | .isDirectory => "[Errno 21] Is a directory"
  | .nameTooLong => "[Errno 36] File name too long"

structure Fault where
  cause : Cause
  path : Path
  deriving DecidableEq, Repr

def Fault.text (f : Fault) : String := f.cause.text ++ ": " ++ Text.quoted f.path.text

end Files

-- The files with their contents and the directories, by the names on the way to them from the root,
-- and the directory that relative paths start from.
structure Files where
  here : List String
  files : List (List String × List UInt8)
  directories : List (List String)

namespace Files

def ways (place : List String) : List (List String) :=
  ((List.range place.length).map place.take).filter (· != [])

def empty (here : List String) : Files := ⟨here, [], ways here ++ [here]⟩

def withFile (fs : Files) (place : List String) (content : List UInt8) : Files :=
  { fs with
    files := fs.files ++ [(place, content)]
    directories := fs.directories ++ (ways place).filter fun way => !fs.directories.contains way }

def content? (fs : Files) (place : List String) : Option (List UInt8) :=
  (fs.files.find? fun entry => entry.1 == place).map (·.2)

def isDirectoryAt (fs : Files) (place : List String) : Bool := place == [] || fs.directories.contains place

inductive Place where
  | directory (place : List String)
  | file (place : List String)
  | free (place : List String)
  deriving DecidableEq, Repr

def nameLength (name : String) : Nat := (Text.Utf8.encode name.toList).length

-- Follows names from a directory. The root is above itself.
def walk (fs : Files) (place : List String) : List String → Except Cause Place
  | [] => .ok (.directory place)
  | part :: rest =>
      if part = ".." then walk fs place.dropLast rest
      else if 255 < nameLength part then .error .nameTooLong
      else
        let target := place ++ [part]
        if fs.isDirectoryAt target then walk fs target rest
        else if (fs.content? target).isSome then
          if rest.isEmpty then .ok (.file target) else .error .notDirectory
        else if rest.isEmpty then .ok (.free target)
        else .error .notFound

def locate (fs : Files) (p : Path) : Except Cause Place :=
  if 4096 ≤ nameLength p.text then .error .nameTooLong
  else walk fs (if p.root = "" then fs.here else []) p.parts

def read (fs : Files) (p : Path) : Except Fault (List UInt8) :=
  match fs.locate p with
  | .error cause => .error ⟨cause, p⟩
  | .ok (.directory _) => .error ⟨.isDirectory, p⟩
  | .ok (.free _) => .error ⟨.notFound, p⟩
  | .ok (.file place) =>
      match fs.content? place with
      | some content => .ok content
      | none => .error ⟨.notFound, p⟩

def isDirectory (fs : Files) (p : Path) : Bool :=
  match fs.locate p with
  | .ok (.directory _) => true
  | _ => false

def makeDirectory (fs : Files) (p : Path) : Except Fault Files :=
  match fs.locate p with
  | .error cause => .error ⟨cause, p⟩
  | .ok (.free place) => .ok { fs with directories := fs.directories ++ [place] }
  | .ok _ => .error ⟨.exists, p⟩

def ensureDirectory (fs : Files) (p : Path) : Files × Option Fault :=
  match fs.makeDirectory p with
  | .ok fs => (fs, none)
  | .error f => if f.cause != .notFound && fs.isDirectory p then (fs, none) else (fs, some f)

def ensureWay (fs : Files) : (steps : Nat) → Path → Files × Option Fault
  | 0, p => fs.ensureDirectory p
  | steps + 1, p =>
      match fs.ensureDirectory p with
      | (fs, some f) =>
          if f.cause = .notFound ∧ p.parent ≠ p then
            match ensureWay fs steps p.parent with
            | (fs, none) => fs.ensureDirectory p
            | (fs, some f) => (fs, some f)
          else (fs, some f)
      | (fs, none) => (fs, none)

def makeDirectories (fs : Files) (p : Path) : Files × Option Fault := fs.ensureWay p.parts.length p

def setContent (place : List String) (content : List UInt8) :
    List (List String × List UInt8) → List (List String × List UInt8)
  | [] => [(place, content)]
  | entry :: rest =>
      if entry.1 = place then (place, content) :: rest else entry :: setContent place content rest

def write (fs : Files) (p : Path) (content : List UInt8) : Except Fault Files :=
  match fs.locate p with
  | .error cause => .error ⟨cause, p⟩
  | .ok (.directory _) => .error ⟨.isDirectory, p⟩
  | .ok (.free place) => .ok { fs with files := setContent place content fs.files }
  | .ok (.file place) => .ok { fs with files := setContent place content fs.files }

end Files
end TestRun
