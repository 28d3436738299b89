import NodeAdmin.Proofs.Api.Requests
import NodeAdmin.Proofs.Api.TokenReach
import NodeAdmin.Proofs.CommandLine.Settling

/-!
# Runs without requests

A command about the configuration makes no request, and neither does a command whose
arguments, configuration or token do not allow it.  A command about a node that nothing of
this kind holds back can send something: its configuration was read, its node may be sent a
token, a header can hold the token, and its path is read to an address.
-/

namespace NodeAdmin.CommandLine

/-- The path of the node that a command talks to. -/
def Command.path? : Command → Option String
  | .cost _ | .models _ _ | .update _ => some Api.modelsPath
  | .providers => some Api.providersPath
  | .logs _ _ => some Api.logsPath
  | .balance => some Api.balancesPath
  | .configInit _ | .configCheck | .configLogin _ | .configLogout | .configSetUrl _ => none

/-- What keeps a command from making a request. -/
inductive HoldsBack (environment : NodeEnvironment) (file : StoredFile) : Command → Prop where
  | configuring {command : Command} (configuring : command.isConfiguring = true) :
      HoldsBack environment file command
  | offline {query : CostQuery} (offline : query.offline = true) :
      HoldsBack environment file (.cost query)
  | unknownLevel {limit : Nat} {level : String} (unknown : Text.toLower level ∉ logLevels) :
      HoldsBack environment file (.logs limit (some level))
  | nothingToChange {update : ModelUpdate} (nothing : update.toOverride.isEmpty = true)
      (direct : update.recommendedMinimum = false) :
      HoldsBack environment file (.update update)
  | unreadable {command : Command} {error : ConfigError} (unreadable : file.load = .error error) :
      HoldsBack environment file command
  | rejected {command : Command} {config : Config} (loaded : file.load = .ok config)
      (rejected : Endpoint.isSafe (Session.resolve config environment).baseUrl = false) :
      HoldsBack environment file command
  | noToken {command : Command} {config : Config} (loaded : file.load = .ok config)
      (noneGiven : Session.meaningful environment.token = none)
      (noneStored : Session.meaningful config.node.token = none) :
      HoldsBack environment file command
  | unsendable {command : Command} {config : Config} {token : String}
      (loaded : file.load = .ok config)
      (held : (Session.resolve config environment).token = some token)
      (unsendable : Api.isHeaderText token = false) :
      HoldsBack environment file command
  | unlocated {command : Command} {config : Config} {path : String} {problem : Url.Problem}
      (loaded : file.load = .ok config) (known : command.path? = some path)
      (unlocated : Url.parse ((Session.resolve config environment).endpoint path) =
        .error problem) :
      HoldsBack environment file command

/-! ## Calls of a command -/

section

variable {α : Type} {writing : WriteOutcome} {client : Api.Client} {file : StoredFile}
  {exchange : Api.Exchange α} {next : α → Outcome}

theorem proceed_dispatches_of_unsent (unsent : ∃ error, exchange = .unsent error) :
    (proceed writing client file exchange next).dispatches = [] := by
  obtain ⟨error, rfl⟩ := unsent
  rfl

theorem proceed_dispatches_of_ok {value : α} (answered : exchange.result = .ok value) :
    (proceed writing client file exchange next).dispatches =
      exchange.dispatch.toList ++ (next value).dispatches := by
  rw [proceed, answered]
  rfl

theorem proceed_dispatches_of_failure (failed : ∀ value, exchange.result ≠ .ok value) :
    (proceed writing client file exchange next).dispatches = exchange.dispatch.toList := by
  cases result : exchange.result with
  | ok value => exact absurd result (failed value)
  | error error =>
      rw [proceed, result]
      exact List.append_nil _

/-- The last call of a command decides its requests. -/
theorem proceed_dispatches_of_silent (silent : ∀ value, (next value).dispatches = []) :
    (proceed writing client file exchange next).dispatches = exchange.dispatch.toList := by
  cases result : exchange.result with
  | ok value => rw [proceed_dispatches_of_ok result, silent, List.append_nil]
  | error error =>
      apply proceed_dispatches_of_failure
      intro value answered
      rw [result] at answered
      cases answered

end

section

variable {setting : Setting} {file : StoredFile} {run : Api.Client → Outcome}

theorem withClient_dispatches_of_silent
    (silent : ∀ config, file.load = .ok config →
      Endpoint.isSafe (Session.resolve config setting.environment).baseUrl = true →
      (run ⟨Session.resolve config setting.environment⟩).dispatches = []) :
    (withClient setting file run).dispatches = [] := by
  unfold withClient connect
  cases loaded : file.load with
  | error error => rfl
  | ok config =>
      dsimp only
      cases connected : Api.Client.ofSession (Session.resolve config setting.environment) with
      | error error => rfl
      | ok client =>
          obtain ⟨ofConfig, safe⟩ := Api.Client.ofSession_eq_ok connected
          have silentHere := silent config loaded safe
          rw [← ofConfig] at silentHere
          exact silentHere

theorem withClient_of_safe {config : Config} (loaded : file.load = .ok config)
    (safe : Endpoint.isSafe (Session.resolve config setting.environment).baseUrl = true) :
    withClient setting file run = run ⟨Session.resolve config setting.environment⟩ := by
  simp [withClient, connect, Api.Client.ofSession, Endpoint.validate, loaded, safe]

end

/-! ## Commands -/

/-- Whether the client of a configuration can send something to a path. -/
structure CanSend (environment : NodeEnvironment) (file : StoredFile) (path : String)
    (config : Config) (token : String) (base : Url) : Prop where
  loaded : file.load = .ok config
  safe : Endpoint.isSafe (Session.resolve config environment).baseUrl = true
  reaches : Api.Client.Reaches ⟨Session.resolve config environment⟩ path token base

section

variable {surroundings : Surroundings} {invocation : Invocation} {file : StoredFile}

/-- A command asks for no document at a path that cannot be sent anything. -/
theorem withClient_fetch_dispatches_of_unreached {α : Type} (setting : Setting) {path : String}
    (unreached : ∀ config token base,
      ¬ CanSend setting.environment file path config token base)
    (decoder : Json.Decoder α) (query : List (String × String)) (next : α → Outcome) :
    (withClient setting file fun client =>
      proceed setting.writing client file
        (client.fetch decoder path query (setting.replies 0)) next).dispatches = [] := by
  apply withClient_dispatches_of_silent
  intro config loaded safe
  exact proceed_dispatches_of_unsent (Api.Client.fetch_unsent
    (fun token base reaches => unreached config token base ⟨loaded, safe, reaches⟩)
    decoder query _)

theorem runUpdate_dispatches_of_unreached {setting : Setting} (update : ModelUpdate)
    (unreached : ∀ config token base,
      ¬ CanSend setting.environment file Api.modelsPath config token base) :
    (runUpdate setting update file).dispatches = [] := by
  apply withClient_dispatches_of_silent
  intro config loaded safe
  have unreachedHere (token : String) (base : Url) : ¬ Api.Client.Reaches
      ⟨Session.resolve config setting.environment⟩ Api.modelsPath token base :=
    fun reaches => unreached config token base ⟨loaded, safe, reaches⟩
  dsimp only
  split
  · exact proceed_dispatches_of_unsent
      (Api.Client.getModel_unsent unreachedHere update.model _)
  · unfold storeOverride
    split
    · rfl
    · exact proceed_dispatches_of_unsent
        (Api.Client.updateModel_unsent unreachedHere update.model update.toOverride _)

/-- A command makes no request if its path cannot be sent anything. -/
theorem run_dispatches_of_unreached {path : String}
    (known : invocation.command.path? = some path)
    (unreached : ∀ config token base,
      ¬ CanSend surroundings.environment file path config token base) :
    (run surroundings invocation file).dispatches = [] := by
  have silent {α : Type} (decoder : Json.Decoder α) (query : List (String × String))
      (next : α → Outcome) :=
    withClient_fetch_dispatches_of_unreached (surroundings.setting invocation file) unreached
      decoder query next
  unfold run
  cases asked : invocation.command with
  | cost query =>
      cases asked ▸ known
      dsimp only [runCost]
      split
      · rfl
      · apply withClient_dispatches_of_silent
        intro config loaded safe
        exact proceed_dispatches_of_unsent (Api.Client.getModel_unsent
          (fun token base reaches => unreached config token base ⟨loaded, safe, reaches⟩)
          query.model _)
  | models provider all =>
      cases asked ▸ known
      exact silent Model.decodeList [] _
  | update update =>
      cases asked ▸ known
      exact runUpdate_dispatches_of_unreached update unreached
  | providers =>
      cases asked ▸ known
      exact silent Provider.decodeList [] _
  | logs limit level =>
      cases asked ▸ known
      dsimp only [runLogs]
      split
      · rfl
      · exact silent LogEntry.decodeList (Api.Client.logsQuery limit level) _
  | balance =>
      cases asked ▸ known
      exact silent BalanceSummary.decode [] _
  | configInit | configCheck | configLogin | configLogout | configSetUrl =>
      cases asked ▸ known

/-- A session without a token was given none that is more than blanks. -/
theorem meaningful_of_no_token {config : Config} {environment : NodeEnvironment}
    (noToken : (Session.resolve config environment).token = none) :
    Session.meaningful environment.token = none ∧
      Session.meaningful config.node.token = none := by
  dsimp only [Session.resolve, Session.chooseToken] at noToken
  split at noToken
  · cases noToken
  · cases noToken
  · rename_i noneGiven noneStored
    exact ⟨noneGiven, noneStored⟩

theorem Command.path?_eq_none {command : Command} :
    command.path? = none ↔ command.isConfiguring = true := by
  cases command <;> simp [Command.path?, Command.isConfiguring]

/-- Whatever holds a command back keeps it from making any request. -/
theorem run_dispatches_of_holdsBack
    (holdsBack : HoldsBack surroundings.environment file invocation.command) :
    (run surroundings invocation file).dispatches = [] := by
  cases reached : invocation.command.path? with
  | none => exact run_silent surroundings (Command.path?_eq_none.mp reached) file
  | some path =>
      have silent (unreached : ∀ config token base,
          ¬ CanSend surroundings.environment file path config token base) :=
        run_dispatches_of_unreached reached unreached
      -- What concerns one command alone is looked at in that command; the rest leaves no client
      -- that can send anything.
      generalize asked : invocation.command = command at holdsBack
      cases holdsBack with
      | configuring configuring => exact run_silent surroundings (asked ▸ configuring) file
      | offline offline =>
          unfold run
          rw [asked]
          dsimp only [runCost]
          rw [if_pos offline]
          rfl
      | @unknownLevel limit level unknown =>
          have refused : (some level).filter (fun level => !isLogLevel level) = some level := by
            simp [isLogLevel, unknown]
          unfold run
          rw [asked]
          dsimp only [runLogs]
          rw [refused]
          rfl
      | nothingToChange nothing direct =>
          unfold run
          rw [asked]
          apply withClient_dispatches_of_silent
          intro config loaded safe
          dsimp only [storeOverride]
          rw [direct, if_neg (by simp), if_pos nothing]
          rfl
      | unreadable unreadable =>
          apply silent
          rintro config token base ⟨loaded, -, -⟩
          rw [unreadable] at loaded
          cases loaded
      | rejected loaded rejected =>
          apply silent
          rintro config token base ⟨loadedToo, safe, -⟩
          rw [loaded] at loadedToo
          cases loadedToo
          rw [rejected] at safe
          cases safe
      | noToken loaded noneGiven noneStored =>
          apply silent
          rintro config token base ⟨loadedToo, -, reaches⟩
          rw [loaded] at loadedToo
          cases loadedToo
          have held := reaches.held
          simp [Session.resolve, Session.chooseToken, noneGiven, noneStored] at held
      | unsendable loaded held unsendable =>
          apply silent
          rintro config token base ⟨loadedToo, -, reaches⟩
          rw [loaded] at loadedToo
          cases loadedToo
          have heldToo := reaches.held
          rw [held] at heldToo
          cases heldToo
          exact absurd reaches.sendable (by simp [unsendable])
      | unlocated loaded known unlocated =>
          apply silent
          rintro config token base ⟨loadedToo, -, reaches⟩
          rw [loaded] at loadedToo
          cases loadedToo
          rw [asked, known] at reached
          cases reached
          have located := reaches.located
          rw [unlocated] at located
          cases located

/-- A command that nothing holds back can send something to its path. -/
theorem exists_canSend {environment : NodeEnvironment} {command : Command} {path : String}
    (known : command.path? = some path) (free : ¬ HoldsBack environment file command) :
    ∃ config token base, CanSend environment file path config token base := by
  cases loaded : file.load with
  | error error => exact absurd (.unreadable loaded) free
  | ok config =>
      have safe : Endpoint.isSafe (Session.resolve config environment).baseUrl = true := by
        rw [← Bool.not_eq_false]
        exact fun rejected => free (.rejected loaded rejected)
      cases held : (Session.resolve config environment).token with
      | none =>
          obtain ⟨noneGiven, noneStored⟩ := meaningful_of_no_token held
          exact absurd (.noToken loaded noneGiven noneStored) free
      | some token =>
          have sendable : Api.isHeaderText token = true := by
            rw [← Bool.not_eq_false]
            exact fun unsendable => free (.unsendable loaded held unsendable)
          cases located : Url.parse ((Session.resolve config environment).endpoint path) with
          | error problem => exact absurd (.unlocated loaded known located) free
          | ok base => exact ⟨config, token, base, loaded, safe, held, sendable, located⟩

end

end NodeAdmin.CommandLine
