import TestRun.Format.Decode

/-! Where a document comes from: bytes or a file. -/

set_option autoImplicit false

namespace TestRun

inductive Source where
  | bytes (content : List UInt8)
  | file (path : Path)

namespace Source

def ofStream : Except String (List UInt8) → Except Failure Source
  | .ok content => .ok (.bytes content)
  | .error reason => .error (.problem (.unreadableStream reason))

def content (fs : Files) : Source → Except Failure (List UInt8)
  | .bytes content => .ok content
  | .file path =>
      if path.hasNul then .error (.escape .nulInPath)
      else
        match fs.read path with
        | .ok content => .ok content
        | .error f => .error (.problem (.unreadableFile f))

def targets (fs : Files) (supported : List Int) (s : Source) : Except Failure (List TestTarget) := do
  Format.decode supported (← s.content fs)

end Source
end TestRun
