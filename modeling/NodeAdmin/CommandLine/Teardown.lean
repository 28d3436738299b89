import NodeAdmin.CommandLine.Outcome

/-!
# Connecting, and the end of a session

A session starts from the configuration file and the environment. When the node
refuses a token that came from the file, the file forgets its token; the file is
read again for that, since it may have changed in the meantime.
-/

namespace NodeAdmin.CommandLine

/-- The client for the node in a configuration file. -/
def connect (environment : NodeEnvironment) (file : StoredFile) :
    Except Failure Api.Client :=
  match file.load with
  | .error error => .error ((Failure.ofConfig error).within "Failed to load config")
  | .ok config =>
      match Api.Client.ofSession (Session.resolve config environment) with
      | .error error => .error (.ofApi error)
      | .ok client => .ok client

/-- The file without a token. A file that holds none is not written. -/
def forgetToken (writing : WriteOutcome) (file : StoredFile) :
    Except ConfigError StoredFile := do
  let config ← file.load
  if config.hasToken then file.save writing config.clearToken else .ok file

/-- The advice that goes with a refused token. -/
def advise (message advice : String) : Failure := ⟨message ++ ". " ++ advice, []⟩

/-- The failure of a call, and the file after it. -/
def closeSession (writing : WriteOutcome) (session : Session) (error : Api.ApiError)
    (file : StoredFile) : Failure × StoredFile :=
  if error.isUnauthorized then
    match session.source with
    | .config =>
        match forgetToken writing file with
        | .ok changed =>
            (advise error.message
              "Stored token removed; run `routstr-admin config login --token <TOKEN>`",
              changed)
        | .error _ => (.ofApi error, file)
    | .environment => (advise error.message ("Check " ++ Session.tokenVariable), file)
    | .none => (.ofApi error, file)
  else (.ofApi error, file)

/-- Goes on with the result of a call, or ends the run with its failure. -/
def proceed {α : Type} (writing : WriteOutcome) (client : Api.Client) (file : StoredFile)
    (exchange : Api.Exchange α) (next : α → Outcome) : Outcome :=
  let outcome := match exchange.result with
    | .ok value => next value
    | .error error =>
        let closed := closeSession writing client.session error file
        .failed closed.2 closed.1
  outcome.after exchange.dispatch.toList

end NodeAdmin.CommandLine
