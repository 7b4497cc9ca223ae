import TestRun.Proofs.Command.Accepting

/-! Switches that are left out of a command line. -/

set_option autoImplicit false

namespace TestRun.Command

def trim (switches : List Switch) (dropped : Switch → Bool) : List String → List String
  | [] => []
  | arg :: rest =>
      if arg = "--" then arg :: rest
      else
        match classify switches arg with
        | .ok (.switch s _ attached) =>
            if dropped s then
              if s.takesValue ∧ attached = .nothing then
                match rest with
                | [] => []
                | _ :: rest => trim switches dropped rest
              else trim switches dropped rest
            else arg :: trim switches dropped rest
        | _ => arg :: trim switches dropped rest

end TestRun.Command
