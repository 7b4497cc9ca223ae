import TestRun.Proofs.Command.Announcing
import TestRun.Proofs.Report.Payload

/-! What command lines that are run one after the other leave as it was. -/

set_option autoImplicit false

namespace TestRun.Command

open Environment (keyed)
open Files (ChangesOnly OnWay OpensWay SameContents)
open Plist.Written (pageOf)

def session (console : Console) (fs : Files) : List (List String) → Files
  | [] => fs
  | args :: rest => session console (run console fs args).files rest

end TestRun.Command
