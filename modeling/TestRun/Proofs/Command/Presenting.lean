import TestRun.Proofs.Command.Delivery
import TestRun.Proofs.Command.Trimming

/-! How a result is presented does not change it. -/

set_option autoImplicit false

namespace TestRun.Command

open TestConfig (buildAll payloads)

end TestRun.Command
