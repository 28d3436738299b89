import NodeAdmin.Proofs.CommandLine.Settling
import NodeAdmin.Proofs.Json.Reading

/-!
# Answers in JSON

A command about a node that answers in JSON prints one document and nothing else, or fails
and prints nothing.  The document does not depend on how it is printed: whether it is
indented decides about white space between its tokens, and colour decides about nothing.
-/

namespace NodeAdmin

/-- Whether two files lead to the same node, or cannot be read. -/
def StoredFile.SameNode (file other : StoredFile) : Prop :=
  file.load.toOption.map (·.node) = other.load.toOption.map (·.node)

namespace CommandLine

/-! ## What a run tells -/

/-- What a run has to tell in JSON: a document, or nothing because it failed. -/
def Outcome.Tells (pretty : Bool) (outcome : Outcome) : Option Json → Prop
  | some document => outcome.ending = .success ∧
      outcome.printed = (if pretty then document.pretty else document.compact) ++ "\n"
  | none => (∃ failure, outcome.ending = .failure failure) ∧ outcome.printed = ""

/-- Two runs that tell the same, each in its own look. -/
def Outcome.TellsLike (pretty otherPretty : Bool) (outcome other : Outcome) : Prop :=
  ∃ told, outcome.Tells pretty told ∧ other.Tells otherPretty told

namespace Outcome.TellsLike

variable {pretty otherPretty : Bool} {outcome other : Outcome} {file otherFile : StoredFile}

theorem failed (failure otherFailure : Failure) :
    (Outcome.failed file failure).TellsLike pretty otherPretty
      (.failed otherFile otherFailure) :=
  ⟨none, ⟨⟨failure, rfl⟩, rfl⟩, ⟨otherFailure, rfl⟩, rfl⟩

theorem after (tells : outcome.TellsLike pretty otherPretty other)
    (dispatches others : List Api.Dispatch) :
    (outcome.after dispatches).TellsLike pretty otherPretty (other.after others) := tells

theorem noting (tells : outcome.TellsLike pretty otherPretty other)
    (noted otherNoted : String) :
    TellsLike pretty otherPretty { outcome with noted := noted }
      { other with noted := otherNoted } := tells

end Outcome.TellsLike

/-- Two settings for answers in JSON about the same node. -/
structure Setting.JsonTwins (setting other : Setting) : Prop where
  format : setting.options.format = .json
  otherFormat : other.options.format = .json
  environment : setting.environment = other.environment
  replies : setting.replies = other.replies

section

variable {setting other : Setting} {file otherFile : StoredFile}

theorem Setting.JsonTwins.done (settings : setting.JsonTwins other) (words otherWords : String)
    (document : Json) :
    (Outcome.done file (present setting.options words document)).TellsLike
      setting.options.pretty other.options.pretty
      (.done otherFile (present other.options otherWords document)) := by
  refine ⟨some document, ⟨rfl, ?_⟩, rfl, ?_⟩
  · rw [present, settings.format]
    rfl
  · rw [present, settings.otherFormat]
    rfl

theorem proceed_tellsLike {α : Type} {writing otherWriting : WriteOutcome}
    {client : Api.Client} {exchange : Api.Exchange α} {next otherNext : α → Outcome}
    {pretty otherPretty : Bool}
    (nexts : ∀ value, (next value).TellsLike pretty otherPretty (otherNext value)) :
    (proceed writing client file exchange next).TellsLike pretty otherPretty
      (proceed otherWriting client otherFile exchange otherNext) := by
  unfold proceed
  apply Outcome.TellsLike.after
  cases exchange.result with
  | ok value => exact nexts value
  | error error => exact .failed _ _

theorem storeOverride_tellsLike (settings : setting.JsonTwins other) (client : Api.Client)
    (id : String) (change : ModelOverride) (reply : Api.Reply) :
    (storeOverride setting client id change reply file).TellsLike setting.options.pretty
      other.options.pretty (storeOverride other client id change reply otherFile) := by
  unfold storeOverride
  split
  · exact .failed _ _
  · apply proceed_tellsLike
    intro model
    exact settings.done _ _ _

/-- Files for the same node lead to the same client, if to any. -/
theorem connect_sameNode (environment : NodeEnvironment) (files : file.SameNode otherFile) :
    (connect environment file).toOption = (connect environment otherFile).toOption := by
  unfold StoredFile.SameNode at files
  unfold connect
  cases loaded : file.load with
  | error error =>
      rw [loaded] at files
      cases otherLoaded : otherFile.load with
      | error otherError => rfl
      | ok otherConfig =>
          rw [otherLoaded] at files
          cases files
  | ok config =>
      rw [loaded] at files
      cases otherLoaded : otherFile.load with
      | error otherError =>
          rw [otherLoaded] at files
          cases files
      | ok otherConfig =>
          rw [otherLoaded] at files
          have node : config.node = otherConfig.node := Option.some.inj files
          simp only [Session.resolve, node]

section

variable (settings : setting.JsonTwins other) (files : file.SameNode otherFile)

include settings files

theorem withClient_tellsLike {run otherRun : Api.Client → Outcome} {pretty otherPretty : Bool}
    (runs : ∀ client, (run client).TellsLike pretty otherPretty (otherRun client)) :
    (withClient setting file run).TellsLike pretty otherPretty
      (withClient other otherFile otherRun) := by
  have connected := connect_sameNode setting.environment files
  unfold withClient
  rw [← settings.environment]
  cases one : connect setting.environment file with
  | error failure =>
      rw [one] at connected
      cases another : connect setting.environment otherFile with
      | error otherFailure => exact .failed _ _
      | ok otherClient =>
          rw [another] at connected
          cases connected
  | ok client =>
      rw [one] at connected
      cases another : connect setting.environment otherFile with
      | error otherFailure =>
          rw [another] at connected
          cases connected
      | ok otherClient =>
          rw [another] at connected
          cases connected
          exact runs client

/-! ## Commands -/

theorem runCost_tellsLike (query : CostQuery) :
    (runCost setting query file).TellsLike setting.options.pretty other.options.pretty
      (runCost other query otherFile) := by
  have priced (model : Model) : (priceWith setting.options query file model).TellsLike
      setting.options.pretty other.options.pretty
      (priceWith other.options query otherFile model) := by
    unfold priceWith
    exact (settings.done _ _ _).noting _ _
  unfold runCost
  split
  · exact priced _
  · apply withClient_tellsLike settings files
    intro client
    rw [settings.replies]
    exact proceed_tellsLike priced

/-- A command that asks for a document at a path. -/
theorem withClient_fetch_tellsLike {α : Type} (decoder : Json.Decoder α) (path : String)
    (query : List (String × String)) {next otherNext : α → Outcome} {pretty otherPretty : Bool}
    (nexts : ∀ value, (next value).TellsLike pretty otherPretty (otherNext value)) :
    (withClient setting file fun client =>
      proceed setting.writing client file
        (client.fetch decoder path query (setting.replies 0)) next).TellsLike
      pretty otherPretty
      (withClient other otherFile fun client =>
        proceed other.writing client otherFile
          (client.fetch decoder path query (other.replies 0)) otherNext) := by
  apply withClient_tellsLike settings files
  intro client
  rw [settings.replies]
  exact proceed_tellsLike nexts

theorem runModels_tellsLike (provider : Option String) (all : Bool) :
    (runModels setting provider all file).TellsLike setting.options.pretty other.options.pretty
      (runModels other provider all otherFile) := by
  apply withClient_fetch_tellsLike settings files
  intro models
  exact settings.done _ _ _

theorem runUpdate_tellsLike (update : ModelUpdate) :
    (runUpdate setting update file).TellsLike setting.options.pretty other.options.pretty
      (runUpdate other update otherFile) := by
  apply withClient_tellsLike settings files
  intro client
  rw [settings.replies]
  dsimp only
  split
  · apply proceed_tellsLike
    intro model
    exact storeOverride_tellsLike settings client update.model _ _
  · exact storeOverride_tellsLike settings client update.model _ _

theorem runProviders_tellsLike :
    (runProviders setting file).TellsLike setting.options.pretty other.options.pretty
      (runProviders other otherFile) := by
  apply withClient_fetch_tellsLike settings files
  intro providers
  exact settings.done _ _ _

theorem runLogs_tellsLike (limit : Nat) (level : Option String) :
    (runLogs setting limit level file).TellsLike setting.options.pretty other.options.pretty
      (runLogs other limit level otherFile) := by
  unfold runLogs
  split
  · exact .failed _ _
  · apply withClient_fetch_tellsLike settings files
    intro entries
    exact settings.done _ _ _

theorem runBalance_tellsLike :
    (runBalance setting file).TellsLike setting.options.pretty other.options.pretty
      (runBalance other otherFile) := by
  apply withClient_fetch_tellsLike settings files
  intro summary
  exact settings.done _ _ _

end

end

/-! ## Runs -/

/-- Two runs of one command about a node that answer in JSON, perhaps in different looks: one
may be indented or in colour where the other is not, and of their configurations only the node
has to be the same. -/
structure JsonTwins (surroundings other : Surroundings) (invocation otherInvocation : Invocation)
    (file otherFile : StoredFile) : Prop where
  command : invocation.command = otherInvocation.command
  administering : invocation.command.isConfiguring = false
  format : (outputOptions surroundings invocation file).format = .json
  otherFormat : (outputOptions other otherInvocation otherFile).format = .json
  environment : surroundings.environment = other.environment
  replies : surroundings.replies = other.replies
  files : file.SameNode otherFile

theorem run_tellsLike {surroundings other : Surroundings} {invocation otherInvocation : Invocation}
    {file otherFile : StoredFile}
    (twins : JsonTwins surroundings other invocation otherInvocation file otherFile) :
    (run surroundings invocation file).TellsLike invocation.pretty otherInvocation.pretty
      (run other otherInvocation otherFile) := by
  have administering := twins.administering
  have settings : (surroundings.setting invocation file).JsonTwins
      (other.setting otherInvocation otherFile) :=
    ⟨twins.format, twins.otherFormat, twins.environment, twins.replies⟩
  unfold run
  rw [← twins.command]
  cases asked : invocation.command with
  | cost query => exact runCost_tellsLike settings twins.files query
  | models provider all => exact runModels_tellsLike settings twins.files provider all
  | update update => exact runUpdate_tellsLike settings twins.files update
  | providers => exact runProviders_tellsLike settings twins.files
  | logs limit level => exact runLogs_tellsLike settings twins.files limit level
  | balance => exact runBalance_tellsLike settings twins.files
  | configInit | configCheck | configLogin | configLogout | configSetUrl =>
      rw [asked] at administering
      cases administering

/-! ## Answers -/

/-- Two answers of one document each, the same one up to white space between its tokens, or
two failures that print nothing. -/
structure Answer.SameDocument (pretty otherPretty : Bool) (answer other : Answer) : Prop where
  exitCode : answer.exitCode = other.exitCode
  silent : answer.exitCode ≠ 0 → answer.standardOutput = "" ∧ other.standardOutput = ""
  document : answer.exitCode = 0 → ∃ document : Json.Document, document.IsWritten ∧
    Json.Spaced ['\n'] document.tokens answer.standardOutput.toList ∧
    Json.Spaced ['\n'] document.tokens other.standardOutput.toList
  accepted : answer.exitCode = 0 →
    Json.decodeText (fun _ tree => tree.pass) answer.standardOutput = .ok () ∧
    Json.decodeText (fun _ tree => tree.pass) other.standardOutput = .ok ()
  value : answer.exitCode = 0 →
    Json.parse answer.standardOutput = Json.parse other.standardOutput
  look : pretty = otherPretty → answer.standardOutput = other.standardOutput

theorem Outcome.TellsLike.sameDocument {pretty otherPretty : Bool} {outcome other : Outcome}
    (tells : outcome.TellsLike pretty otherPretty other) :
    outcome.answer.SameDocument pretty otherPretty other.answer := by
  obtain ⟨told, one, another⟩ := tells
  cases told with
  | none =>
      obtain ⟨⟨failure, ended⟩, printed⟩ := one
      obtain ⟨⟨otherFailure, otherEnded⟩, otherPrinted⟩ := another
      have failed : outcome.answer.exitCode = 1 := by
        rw [answer, exitCode, ended]
      have otherFailed : other.answer.exitCode = 1 := by
        rw [answer, exitCode, otherEnded]
      have notZero : outcome.answer.exitCode ≠ 0 := by
        rw [failed]
        decide
      refine ⟨failed.trans otherFailed.symm, fun _ => ⟨printed, otherPrinted⟩,
        fun zero => absurd zero notZero, fun zero => absurd zero notZero,
        fun zero => absurd zero notZero, fun _ => printed.trans otherPrinted.symm⟩
  | some document =>
      obtain ⟨ended, printed⟩ := one
      obtain ⟨otherEnded, otherPrinted⟩ := another
      have succeeded : outcome.answer.exitCode = 0 := by
        rw [answer, exitCode, ended]
      have otherSucceeded : other.answer.exitCode = 0 := by
        rw [answer, exitCode, otherEnded]
      have written := Json.isWritten_document document
      have blank : ∀ character ∈ ['\n'], Json.isSpace character = true :=
        List.forall_mem_singleton.mpr rfl
      have spaced := Json.line_spaced pretty document
      have otherSpaced := Json.line_spaced otherPretty document
      rw [← printed] at spaced
      rw [← otherPrinted] at otherSpaced
      have read {α : Type} (decoder : Json.Decoder α) :=
        written.decodeText_eq spaced blank decoder
      have otherRead {α : Type} (decoder : Json.Decoder α) :=
        written.decodeText_eq otherSpaced blank decoder
      refine ⟨succeeded.trans otherSucceeded.symm, fun failed => absurd succeeded failed,
        fun _ => ⟨document.document, written, spaced, otherSpaced⟩, fun _ => ⟨?_, ?_⟩,
        fun _ => ?_, ?_⟩
      · exact (read _).trans written.pass_tree
      · exact (otherRead _).trans written.pass_tree
      · exact (read _).trans (otherRead _).symm
      · rintro rfl
        exact printed.trans otherPrinted.symm

/-- Arguments that are not understood print nothing, and arguments for a command about a node
that answers in JSON print one document whatever it looks like, or nothing. -/
theorem answer_sameDocument (surroundings other : Surroundings)
    (arguments otherArguments : List String) (file otherFile : StoredFile) :
    (parse arguments = .error .misuse → (answer surroundings arguments file).exitCode ≠ 0 ∧
      (answer surroundings arguments file).standardOutput = "") ∧
    ∀ invocation otherInvocation, parse arguments = .ok invocation →
      parse otherArguments = .ok otherInvocation →
      JsonTwins surroundings other invocation otherInvocation file otherFile →
      (answer surroundings arguments file).SameDocument invocation.pretty otherInvocation.pretty
        (answer other otherArguments otherFile) := by
  unfold answer
  constructor
  · intro misused
    rw [misused]
    exact ⟨Nat.succ_ne_zero 1, rfl⟩
  · intro invocation otherInvocation parsed otherParsed twins
    rw [parsed, otherParsed]
    exact (run_tellsLike twins).sameDocument

/-- A node with one provider whose address has to be escaped. -/
def providerSurroundings : Surroundings where
  path := "config.toml"
  environment := ⟨some "https://node.example", some "secret"⟩
  destination := ⟨true, false⟩
  replies := fun _ => .answered 200
    ("[\x7b\"id\":1,\"provider_type\":\"x\",\"base_url\":\"a\\\"\\n\"\x7d]".toList.flatMap
      Text.encodeCharacter)

/-- A configuration that wants colour. -/
def colouredFile : StoredFile := .text "[settings]\ncolor = \"always\"\n"

theorem answer_sameDocument_providers :
    ((answer providerSurroundings ["providers", "--jsn"] .absent).exitCode ≠ 0 ∧
      (answer providerSurroundings ["providers", "--jsn"] .absent).standardOutput = "") ∧
      (answer providerSurroundings ["providers", "--json"] .absent).exitCode = 0 ∧
      (answer providerSurroundings ["providers", "--json"] .absent).SameDocument false true
        (answer { providerSurroundings with destination := ⟨false, false⟩ }
          ["--json", "--pretty", "--no-color", "providers"] colouredFile) := by
  have files : StoredFile.absent.SameNode colouredFile := by
    unfold StoredFile.SameNode
    decide +kernel
  refine ⟨?_, by decide +kernel, ?_⟩
  · exact (answer_sameDocument providerSurroundings providerSurroundings _ [] .absent .absent).1
      (by decide +kernel)
  · exact (answer_sameDocument providerSurroundings _ ["providers", "--json"]
      ["--json", "--pretty", "--no-color", "providers"] .absent colouredFile).2
      ⟨.providers, none, true, false, false, false⟩ ⟨.providers, none, true, true, true, false⟩
      (by decide +kernel) (by decide +kernel) ⟨rfl, rfl, rfl, rfl, rfl, rfl, files⟩

end CommandLine

end NodeAdmin
