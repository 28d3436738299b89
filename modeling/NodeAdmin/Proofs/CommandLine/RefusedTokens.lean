import NodeAdmin.Proofs.Api.TokenReach
import NodeAdmin.Proofs.CommandLine.TokenHistory

/-!
# What a refusal leaves of the file

A session starts from one state of the configuration file, and when its token is refused the file
may be in another one, since other runs can come in between.  Only a token that came from the file
is taken out of it, and only where the file can be written; everything else that the file holds by
then stays.
-/

namespace NodeAdmin

namespace CommandLine

section Forgetting

variable {writing : WriteOutcome} {now : StoredFile} {config : Config}

end Forgetting

/-! ## Sessions -/

section Sources

variable {found : Config} {environment : NodeEnvironment}

end Sources

/-! ## Refusals -/

end CommandLine

end NodeAdmin
