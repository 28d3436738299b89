import NodeAdmin.CommandLine.Run
import NodeAdmin.Proofs.Api.Twins
import NodeAdmin.Proofs.CommandLine.ArgumentTwins

/-!
# Runs of twins

Two runs that differ in nothing but the token, wherever it is given, end alike: they print
and note the same, their requests differ in the Authorization header only, and the files
that they leave hold configurations that differ in nothing but the token.
-/

namespace NodeAdmin.CommandLine

/-- Outcomes that differ in nothing but a token. -/
structure Outcome.Twins (outcome other : Outcome) : Prop where
  ending : outcome.ending = other.ending
  printed : outcome.printed = other.printed
  noted : outcome.noted = other.noted
  dispatches : outcome.dispatches.map Api.Dispatch.withoutToken =
    other.dispatches.map Api.Dispatch.withoutToken
  file : outcome.file.Twins other.file

structure Setting.Twins (setting other : Setting) : Prop where
  options : setting.options = other.options
  environment : setting.environment.Twins other.environment
  replies : setting.replies = other.replies
  writing : setting.writing = other.writing

section

variable {file otherFile : StoredFile}

theorem Outcome.Twins.done (files : file.Twins otherFile) (printed : String) :
    (Outcome.done file printed).Twins (.done otherFile printed) := ⟨rfl, rfl, rfl, rfl, files⟩

theorem Outcome.Twins.failed (files : file.Twins otherFile) (failure : Failure) :
    (Outcome.failed file failure).Twins (.failed otherFile failure) :=
  ⟨rfl, rfl, rfl, rfl, files⟩

theorem Outcome.Twins.after {outcome other : Outcome} (twins : outcome.Twins other)
    {dispatches others : List Api.Dispatch}
    (same : dispatches.map Api.Dispatch.withoutToken = others.map Api.Dispatch.withoutToken) :
    (outcome.after dispatches).Twins (other.after others) := by
  refine ⟨twins.ending, twins.printed, twins.noted, ?_, twins.file⟩
  simp only [Outcome.after, List.map_append, same, twins.dispatches]

theorem Outcome.Twins.remark (files : file.Twins otherFile) (noted : String) :
    (Outcome.remark file noted).Twins (.remark otherFile noted) :=
  ⟨rfl, rfl, rfl, rfl, files⟩

/-! ## Calls -/

theorem forgetToken_twins (files : file.Twins otherFile) (writing : WriteOutcome) :
    Alike StoredFile.Twins (forgetToken writing file) (forgetToken writing otherFile) := by
  unfold forgetToken
  apply files.load.bind
  intro config otherConfig configTwins
  rw [configTwins.hasToken_eq]
  split
  · exact files.save writing configTwins.clearToken
  · exact .ok files

/-- A session is closed alike for twins. -/
theorem closeSession_twins {session other : Session} (sessions : session.Twins other)
    (error : Api.ApiError) (files : file.Twins otherFile) (writing : WriteOutcome) :
    (closeSession writing session error file).1 =
        (closeSession writing other error otherFile).1 ∧
      (closeSession writing session error file).2.Twins
        (closeSession writing other error otherFile).2 := by
  unfold closeSession
  rw [sessions.source]
  split
  · split
    · have forgotten := forgetToken_twins files writing
      generalize forgetToken writing file = result, forgetToken writing otherFile = otherResult
        at forgotten ⊢
      cases forgotten with
      | error => exact ⟨rfl, files⟩
      | ok changed => exact ⟨rfl, changed⟩
    · exact ⟨rfl, files⟩
    · exact ⟨rfl, files⟩
  · exact ⟨rfl, files⟩

theorem proceed_twins {α : Type} {client other : Api.Client}
    (sessions : client.session.Twins other.session) (files : file.Twins otherFile)
    {exchange otherExchange : Api.Exchange α} (exchanges : exchange.Twins otherExchange)
    {next otherNext : α → Outcome} (nextTwins : ∀ value, (next value).Twins (otherNext value))
    (writing : WriteOutcome) :
    (proceed writing client file exchange next).Twins
      (proceed writing other otherFile otherExchange otherNext) := by
  have dispatches : exchange.dispatch.toList.map Api.Dispatch.withoutToken =
      otherExchange.dispatch.toList.map Api.Dispatch.withoutToken := by
    rw [← Option.toList_map, ← Option.toList_map, exchanges.dispatch]
  unfold proceed
  refine Outcome.Twins.after ?_ dispatches
  rw [← exchanges.result]
  cases exchange.result with
  | ok value => exact nextTwins value
  | error error =>
      obtain ⟨sameFailure, closed⟩ := closeSession_twins sessions error files writing
      dsimp only
      rw [sameFailure]
      exact .failed closed _

theorem connect_twins {environment otherEnvironment : NodeEnvironment}
    (environments : environment.Twins otherEnvironment) (files : file.Twins otherFile) :
    Alike (fun client other : Api.Client => client.session.Twins other.session)
      (connect environment file) (connect otherEnvironment otherFile) := by
  have loaded := files.load
  unfold connect
  generalize file.load = result, otherFile.load = otherResult at loaded ⊢
  cases loaded with
  | error error => exact .error _
  | ok configs =>
      have sessions := Session.resolve_twins configs environments
      unfold Api.Client.ofSession
      dsimp only
      rw [← sessions.baseUrl]
      cases Endpoint.validate (Session.resolve _ environment).baseUrl with
      | error error => exact .error _
      | ok accepted => exact .ok sessions

/-! ## Commands about a node -/

section

variable {setting other : Setting} (settings : setting.Twins other)
  (files : file.Twins otherFile)

include settings files

theorem withClient_twins {run otherRun : Api.Client → Outcome}
    (runs : ∀ client otherClient : Api.Client, client.session.Twins otherClient.session →
      (run client).Twins (otherRun otherClient)) :
    (withClient setting file run).Twins (withClient other otherFile otherRun) := by
  have connected := connect_twins settings.environment files
  unfold withClient
  generalize connect setting.environment file = result,
    connect other.environment otherFile = otherResult at connected ⊢
  cases connected with
  | error failure => exact .failed files failure
  | ok sessions => exact runs _ _ sessions

theorem priceWith_twins (query : CostQuery) (model : Model) :
    (priceWith setting.options query file model).Twins
      (priceWith other.options query otherFile model) := by
  rw [settings.options]
  exact ⟨rfl, rfl, rfl, rfl, files⟩

theorem runCost_twins (query : CostQuery) :
    (runCost setting query file).Twins (runCost other query otherFile) := by
  unfold runCost
  split
  · exact priceWith_twins settings files query _
  · apply withClient_twins settings files
    intro client otherClient sessions
    rw [settings.replies, settings.writing]
    exact proceed_twins sessions files (Api.Client.getModel_twins sessions query.model _)
      (priceWith_twins settings files query) _

theorem withClient_fetch_twins {α : Type} {decoder : Json.Decoder α} {path : String}
    {query : List (String × String)} {next otherNext : α → Outcome}
    (nextTwins : ∀ value, (next value).Twins (otherNext value)) :
    (withClient setting file fun client =>
      proceed setting.writing client file
        (client.fetch decoder path query (setting.replies 0)) next).Twins
    (withClient other otherFile fun client =>
      proceed other.writing client otherFile
        (client.fetch decoder path query (other.replies 0)) otherNext) := by
  apply withClient_twins settings files
  intro client otherClient sessions
  rw [settings.replies, settings.writing]
  exact proceed_twins sessions files
    (Api.Client.fetch_twins sessions decoder path query _) nextTwins _

theorem runModels_twins (provider : Option String) (all : Bool) :
    (runModels setting provider all file).Twins (runModels other provider all otherFile) := by
  apply withClient_fetch_twins settings files
  intro models
  rw [settings.options]
  exact .done files _

theorem storeOverride_twins {client otherClient : Api.Client}
    (sessions : client.session.Twins otherClient.session) (id : String)
    (change : ModelOverride) (reply : Api.Reply) :
    (storeOverride setting client id change reply file).Twins
      (storeOverride other otherClient id change reply otherFile) := by
  unfold storeOverride
  rw [settings.options, settings.writing]
  split
  · exact .failed files _
  · refine proceed_twins sessions files
      (Api.Client.updateModel_twins sessions id change reply) ?_ _
    intro model
    exact .done files _

theorem runUpdate_twins (update : ModelUpdate) :
    (runUpdate setting update file).Twins (runUpdate other update otherFile) := by
  apply withClient_twins settings files
  intro client otherClient sessions
  rw [settings.replies, settings.writing]
  dsimp only
  split
  · refine proceed_twins sessions files
      (Api.Client.getModel_twins sessions update.model _) ?_ _
    intro model
    exact storeOverride_twins settings files sessions update.model _ _
  · exact storeOverride_twins settings files sessions update.model _ _

theorem runProviders_twins :
    (runProviders setting file).Twins (runProviders other otherFile) := by
  apply withClient_fetch_twins settings files
  intro providers
  rw [settings.options]
  exact .done files _

theorem runLogs_twins (limit : Nat) (level : Option String) :
    (runLogs setting limit level file).Twins (runLogs other limit level otherFile) := by
  unfold runLogs
  split
  · exact .failed files _
  · apply withClient_fetch_twins settings files
    intro entries
    rw [settings.options]
    exact .done files _

theorem runBalance_twins : (runBalance setting file).Twins (runBalance other otherFile) := by
  apply withClient_fetch_twins settings files
  intro summary
  rw [settings.options]
  exact .done files _

end

/-! ## Commands about the configuration -/

theorem pointTo_twins (url : String) {config otherConfig : Config}
    (configs : config.Twins otherConfig) :
    (pointTo url config).Twins (pointTo url otherConfig) := by
  unfold pointTo
  rw [configs.baseUrl]
  split
  · exact configs
  · exact configs.clearToken.setBaseUrl url

section

variable (files : file.Twins otherFile)

include files

/-- What is written to the files of twins is written to both or to neither. -/
theorem store_twins {config otherConfig : Config} (configs : config.Twins otherConfig)
    (writing : WriteOutcome) (failure : ConfigError → Failure) (printed : String) :
    (match file.save writing config with
      | .error error => Outcome.failed file (failure error)
      | .ok saved => .done saved printed).Twins
    (match otherFile.save writing otherConfig with
      | .error error => Outcome.failed otherFile (failure error)
      | .ok saved => .done saved printed) := by
  have saves := files.save writing configs
  generalize file.save writing config = result,
    otherFile.save writing otherConfig = otherResult at saves ⊢
  cases saves with
  | error error => exact .failed files _
  | ok saved => exact .done saved _

theorem configInit_twins (writing : WriteOutcome) (path : String) (url : Option String) :
    (configInit writing path url file).Twins (configInit writing path url otherFile) := by
  unfold configInit
  rw [files.isPresent_eq]
  split
  · exact .remark files _
  · split
    · exact .failed files _
    · exact store_twins files (.refl _) _ _ _

theorem configSetUrl_twins (writing : WriteOutcome) (path url : String) :
    (configSetUrl writing path url file).Twins (configSetUrl writing path url otherFile) := by
  have loaded := files.load
  unfold configSetUrl
  split
  · exact .failed files _
  · generalize file.load = result, otherFile.load = otherResult at loaded ⊢
    cases loaded with
    | error error => exact .failed files _
    | @ok config otherConfig configs =>
        have pointed := pointTo_twins (Text.dropTrailingSlashes url) configs
        have saves := files.save writing pointed
        dsimp only
        rw [configs.hasToken_eq, pointed.hasToken_eq]
        generalize file.save writing _ = result,
          otherFile.save writing _ = otherResult at saves ⊢
        cases saves with
        | error error => exact ⟨rfl, rfl, rfl, rfl, files⟩
        | ok saved => exact .done saved _

theorem configLogin_twins (writing : WriteOutcome) (options : OutputOptions) (path : String)
    {token otherToken : String} (tokens : TokenTwins (some token) (some otherToken)) :
    (configLogin writing options path token file).Twins
      (configLogin writing options path otherToken otherFile) := by
  have loaded := files.load
  have trimmed := tokens.trim
  unfold configLogin
  dsimp only
  rw [Text.trim_isEmpty, Text.trim_isEmpty, tokens.isAllBlank_eq]
  split
  · exact .failed files _
  · generalize file.load = result, otherFile.load = otherResult at loaded ⊢
    cases loaded with
    | error error => exact .failed files _
    | ok configs => exact store_twins files (configs.setToken trimmed) _ _ _

theorem configLogout_twins (writing : WriteOutcome) :
    (configLogout writing file).Twins (configLogout writing otherFile) := by
  have loaded := files.load
  unfold configLogout
  generalize file.load = result, otherFile.load = otherResult at loaded ⊢
  cases loaded with
  | error error => exact .failed files _
  | ok configs =>
      dsimp only
      rw [configs.hasToken_eq]
      split
      · exact store_twins files configs.clearToken _ _ _
      · exact .remark files _

theorem ConfigReport.ofFile_eq (path : String) :
    ConfigReport.ofFile path file = ConfigReport.ofFile path otherFile := by
  have loaded := files.load
  unfold ConfigReport.ofFile
  rw [files.isPresent_eq]
  split
  · generalize file.load = result, otherFile.load = otherResult at loaded ⊢
    cases loaded with
    | error error => rfl
    | ok configs => simp only [configs.issues_eq, configs.baseUrl, configs.hasToken_eq]
  · rfl

theorem configCheck_twins (options : OutputOptions) (path : String) :
    (configCheck options path file).Twins (configCheck options path otherFile) := by
  unfold configCheck
  rw [ConfigReport.ofFile_eq files]
  exact ⟨rfl, rfl, rfl, rfl, files⟩

end

/-! ## Whole runs -/

/-- Surroundings that differ in nothing but the token of the environment. -/
structure Surroundings.Twins (surroundings other : Surroundings) : Prop where
  path : surroundings.path = other.path
  environment : surroundings.environment.Twins other.environment
  destination : surroundings.destination = other.destination
  replies : surroundings.replies = other.replies
  writing : surroundings.writing = other.writing

section

variable {surroundings otherSurroundings : Surroundings}
  (surrounded : surroundings.Twins otherSurroundings) (files : file.Twins otherFile)

include surrounded files

theorem outputOptions_twins {invocation other : Invocation} (invoked : invocation.Twins other) :
    outputOptions surroundings invocation file =
      outputOptions otherSurroundings other otherFile := by
  simp only [outputOptions, files.settings_eq, surrounded.destination, invoked.format,
    invoked.json, invoked.pretty, invoked.noColour, invoked.verbose]

theorem run_twins {invocation other : Invocation} (invoked : invocation.Twins other) :
    (run surroundings invocation file).Twins (run otherSurroundings other otherFile) := by
  have options := outputOptions_twins surrounded files invoked
  have settings : (surroundings.setting invocation file).Twins
      (otherSurroundings.setting other otherFile) :=
    ⟨options, surrounded.environment, surrounded.replies, surrounded.writing⟩
  have commands := invoked.command
  unfold run
  dsimp only
  generalize invocation.command = command, other.command = otherCommand at commands ⊢
  cases commands with
  | login isToken otherIsToken =>
      dsimp only
      rw [options, surrounded.path, surrounded.writing]
      exact configLogin_twins files _ _ _ (.other isToken otherIsToken)
  | same =>
      cases command with
      | cost query => exact runCost_twins settings files query
      | models provider all => exact runModels_twins settings files provider all
      | update update => exact runUpdate_twins settings files update
      | providers => exact runProviders_twins settings files
      | logs limit level => exact runLogs_twins settings files limit level
      | balance => exact runBalance_twins settings files
      | configInit url =>
          dsimp only
          rw [surrounded.path, surrounded.writing]
          exact configInit_twins files _ _ url
      | configCheck =>
          dsimp only
          rw [options, surrounded.path]
          exact configCheck_twins files _ _
      | configLogin token =>
          dsimp only
          rw [options, surrounded.path, surrounded.writing]
          exact configLogin_twins files _ _ _ (.same _)
      | configLogout =>
          dsimp only
          rw [surrounded.writing]
          exact configLogout_twins files _
      | configSetUrl url =>
          dsimp only
          rw [surrounded.path, surrounded.writing]
          exact configSetUrl_twins files _ _ url

end

theorem Outcome.Twins.arrivals_eq {outcome other : Outcome} (twins : outcome.Twins other) :
    outcome.arrivals.map Api.Request.withoutToken =
      other.arrivals.map Api.Request.withoutToken := by
  have arrivals (outcome : Outcome) : outcome.arrivals.map Api.Request.withoutToken =
      ((outcome.dispatches.map Api.Dispatch.withoutToken).filter
        Api.Dispatch.arrived).map Api.Dispatch.request := by
    rw [Outcome.arrivals, List.filter_map, List.map_map, List.map_map]
    rfl
  rw [arrivals, arrivals, twins.dispatches]

theorem Outcome.Twins.output_eq {outcome other : Outcome} (twins : outcome.Twins other) :
    outcome.exitCode = other.exitCode ∧ outcome.standardOutput = other.standardOutput ∧
      outcome.standardError = other.standardError := by
  refine ⟨?_, twins.printed, ?_⟩
  · rw [exitCode, exitCode, twins.ending]
  · rw [standardError, standardError, twins.ending, twins.noted]

/-- Answers that tell no token from another: the exit code and both outputs are the same,
the requests differ in the Authorization header only, and the files are read to
configurations that differ in nothing but their token. -/
structure Answer.Twins (answer other : Answer) : Prop where
  exitCode : answer.exitCode = other.exitCode
  standardOutput : answer.standardOutput = other.standardOutput
  standardError : answer.standardError = other.standardError
  requests : answer.requests.map Api.Request.withoutToken =
    other.requests.map Api.Request.withoutToken
  configs : ∃ config otherConfig, answer.file.load = .ok config ∧
    other.file.load = .ok otherConfig ∧ config.Twins otherConfig

/-- Two runs that differ in nothing but the token, in the file, in the environment or in the
arguments of a login, have answers that differ in nothing but the token. -/
theorem answer_twins {surroundings otherSurroundings : Surroundings}
    (surrounded : surroundings.Twins otherSurroundings)
    {arguments otherArguments : List String} (lines : LineTwins arguments otherArguments)
    {file otherFile : StoredFile} (files : file.Twins otherFile) :
    (answer surroundings arguments file).Twins
      (answer otherSurroundings otherArguments otherFile) := by
  -- Both command lines stop alike, or name commands that are twins.
  have parsed := parse_twins lines
  unfold answer
  generalize parse arguments = result, parse otherArguments = other at parsed ⊢
  cases parsed with
  | error stop => cases stop <;> exact ⟨rfl, rfl, rfl, rfl, files.configs⟩
  | ok invoked =>
      have outcomes := run_twins surrounded files invoked
      obtain ⟨exitCode, printed, noted⟩ := outcomes.output_eq
      exact ⟨exitCode, printed, noted, outcomes.arrivals_eq, outcomes.file.configs⟩

end

/-- A node that refuses every token, and a token in the environment. -/
def refusingSurroundings (token : String) : Surroundings :=
  ⟨"config.toml", ⟨none, some token⟩, ⟨false, false⟩, fun _ => .answered 401 [], .carriedOut⟩

def storedToken (token : String) : StoredFile :=
  .text (Config.standard.setToken token).toText

theorem isToken_alpha : IsToken "alpha" := ⟨by decide, by decide, by decide⟩

theorem isToken_beta : IsToken "beta" := ⟨by decide, by decide, by decide⟩

theorem answer_twins_login :
    (refusingSurroundings "alpha").Twins (refusingSurroundings "beta") ∧
      LineTwins ["config", "login", "--token=alpha"] ["config", "login", "--token=beta"] ∧
      (storedToken "beta").Twins (storedToken "alpha") ∧
      (answer (refusingSurroundings "alpha") ["config", "login", "--token=alpha"]
        (storedToken "beta")).Twins
        (answer (refusingSurroundings "beta") ["config", "login", "--token=beta"]
          (storedToken "alpha")) := by
  have surrounded : (refusingSurroundings "alpha").Twins (refusingSurroundings "beta") :=
    ⟨rfl, ⟨rfl, .other isToken_alpha isToken_beta⟩, rfl, rfl, rfl⟩
  have lines :
      LineTwins ["config", "login", "--token=alpha"] ["config", "login", "--token=beta"] := by
    refine .login (.cons (.same _) (.cons (.same _)
      (.cons (.token isToken_alpha isToken_beta) .nil))) ?_
    have parsed : parse ["config", "login", "--token=alpha"] =
        .ok ⟨.configLogin "alpha", none, false, false, false, false⟩ := by
      decide +kernel
    intro invocation asked
    cases parsed.symm.trans asked
    exact ⟨"alpha", rfl⟩
  have files : (storedToken "beta").Twins (storedToken "alpha") :=
    ⟨.inr ⟨_, _, rfl, rfl⟩, _, _, StoredFile.load_toText _, StoredFile.load_toText _,
      (Config.Twins.refl Config.standard).setToken (.other isToken_beta isToken_alpha)⟩
  exact ⟨surrounded, lines, files, answer_twins surrounded lines files⟩

end NodeAdmin.CommandLine
