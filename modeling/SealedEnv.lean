import SealedEnv.Main
import SealedEnv.Program.Serving
import SealedEnv.Proofs.EnvFile.Concurrent
import SealedEnv.Proofs.Launch.DirectExchange
import SealedEnv.Proofs.Program.Strategies
import SealedEnv.Proofs.Vault.SealRun
import SealedEnv.Proofs.Vault.Verdict
import SealedEnv.Proofs.Vault.Selection
import SealedEnv.Proofs.Store.Barrier
import SealedEnv.Proofs.Store.AllOrNothing
import SealedEnv.Proofs.Store.Ancestors
import SealedEnv.Proofs.Vault.SealFailure
import SealedEnv.Proofs.Vault.KeyHalves
import SealedEnv.Proofs.Launch.Retry
import SealedEnv.Proofs.Store.FreshFolder
import SealedEnv.Proofs.Exchange.KeyLink
import SealedEnv.Proofs.Exchange.Delegated
import SealedEnv.Proofs.Kem.Canonical
import SealedEnv.Proofs.EnvFile.Repetition
import SealedEnv.Proofs.Program.TimeLimit
import SealedEnv.Proofs.Settings.Verbatim
import SealedEnv.Proofs.Invocation.Command
import SealedEnv.Proofs.Exchange.Surroundings
import SealedEnv.Proofs.EnvFile.KeyAgreement
import SealedEnv.Proofs.EnvFile.SingleQuoted
import SealedEnv.Proofs.Pattern.Grammars
