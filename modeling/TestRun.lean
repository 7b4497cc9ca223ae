import TestRun.Main
import TestRun.Proofs.Binary.Refusing
import TestRun.Proofs.Command.Agreeing
import TestRun.Proofs.Command.Keeping
import TestRun.Proofs.Command.Presenting
import TestRun.Proofs.Config.Building
import TestRun.Proofs.Config.Finding
import TestRun.Proofs.Config.Naming
import TestRun.Proofs.Config.Supply
import TestRun.Proofs.Format.Blocks
import TestRun.Proofs.Format.Plan
import TestRun.Proofs.Format.Selection
import TestRun.Proofs.Format.Unsupported
import TestRun.Proofs.Json.RoundTrip
