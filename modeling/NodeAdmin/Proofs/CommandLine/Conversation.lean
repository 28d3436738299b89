import NodeAdmin.Proofs.CommandLine.HoldingBack
import NodeAdmin.Proofs.CommandLine.TokenHistory
import NodeAdmin.Proofs.Text.LetterCase

/-!
# The requests of one run

A run makes no request, or asks the node for one document, or changes one model, or asks
for the models and then changes one of them.  The change to a recommended minimum goes out
only after the node offered the model.
-/

namespace NodeAdmin.CommandLine

/-- The names of the levels as the node knows them. -/
def upperLevels : List String := ["DEBUG", "INFO", "WARNING", "ERROR", "CRITICAL"]

/-- The query for a number of log entries. -/
def limitText (limit : Nat) : String := "limit=" ++ String.ofList (Nat.toDigits 10 limit)

/-- The commands that ask for one document, with the query that they ask with. -/
inductive Command.Asks : Command → Option String → Prop where
  | cost (query : CostQuery) : Asks (.cost query) none
  | models (provider : Option String) (all : Bool) : Asks (.models provider all) none
  | providers : Asks .providers none
  | balance : Asks .balance none
  | logs (limit : Nat) : Asks (.logs limit none) (some (limitText limit))
  | logsOf {level upper : String} (limit : Nat) (named : upper ∈ upperLevels)
      (same : Text.toLower upper = Text.toLower level) :
      Asks (.logs limit (some level)) (some (limitText limit ++ "&level=" ++ upper))

/-- The requests that a command makes with a token, and the replies to them.  The address
is that of the path of the command. -/
inductive Conversation (replies : Nat → Api.Reply) (token : String) (base : Url) :
    Command → List Api.Dispatch → Prop where
  | asked {command : Command} {query : Option String} (asks : command.Asks query) :
      Conversation replies token base command
        [⟨.asking { base with query := query } token, replies 0⟩]
  | changed {update : ModelUpdate} (direct : update.recommendedMinimum = false) :
      Conversation replies token base (.update update)
        [⟨.changing (base.addPath (Text.pieces '/' update.model.toList)) token
          update.toOverride, replies 0⟩]
  | missed {update : ModelUpdate} (recommended : update.recommendedMinimum = true)
      (missing : ∀ model, ¬ (replies 0).Offers update.model model) :
      Conversation replies token base (.update update) [⟨.asking base token, replies 0⟩]
  | recommended {update : ModelUpdate} {model : Model}
      (recommended : update.recommendedMinimum = true)
      (offered : (replies 0).Offers update.model model) :
      Conversation replies token base (.update update)
        [⟨.asking base token, replies 0⟩,
          ⟨.changing (base.addPath (Text.pieces '/' update.model.toList)) token
            (recommendMinimum update.toOverride model), replies 1⟩]

/-! ## Queries -/

/-- The level that a query names is the given one in upper case. -/
theorem toUpper_of_isLogLevel {level : String} (known : isLogLevel level = true) :
    Text.toUpper level ∈ upperLevels ∧
      Text.toLower (Text.toUpper level) = Text.toLower level := by
  have named : Text.toLower level ∈ logLevels := by simpa [isLogLevel] using known
  have plain : ∀ name ∈ logLevels,
      (name.toList.all fun letter => Text.IsPlainLetter letter) = true := by
    decide
  have upper : ∀ name ∈ logLevels, Text.toUpper name ∈ upperLevels ∧
      Text.toLower (Text.toUpper name) = name := by
    decide +kernel
  rw [← Text.toUpper_toLower (Text.forall_mem_of_all (plain _ named))]
  exact upper _ named

theorem formEncode_digits (number : Nat) :
    Url.formEncode (Nat.toDigits 10 number) = Nat.toDigits 10 number := by
  apply Url.formEncode_of_alphanumeric
  intro character member
  have digit := Nat.isDigit_of_mem_toDigits (by decide) (by decide) member
  rw [Char.isAlphanum, digit, Bool.or_true]

/-- A form value whose parts stand for themselves. -/
theorem formValue_text {key text : String} (keyPlain : Url.formEncode key.toList = key.toList)
    (textPlain : Url.formEncode text.toList = text.toList) :
    String.ofList (Url.formEncode key.toList ++ '=' :: Url.formEncode text.toList) =
      key ++ "=" ++ text := by
  rw [keyPlain, textPlain, ← String.toList_inj]
  simp

theorem limitValue_text (limit : Nat) :
    String.ofList (Url.formEncode "limit".toList ++ '=' ::
      Url.formEncode (String.ofList (Nat.toDigits 10 limit)).toList) = limitText limit := by
  rw [formValue_text (by decide) (by rw [String.toList_ofList, formEncode_digits])]
  rfl

theorem addQuery_logsQuery {base : Url} (bare : base.IsBare) (limit : Nat) :
    base.addQuery (Api.Client.logsQuery limit none) =
      { base with query := some (limitText limit) } := by
  rw [Api.Client.logsQuery, bare.addQuery_cons, List.map_cons, limitValue_text]
  rfl

theorem addQuery_logsQuery_of_isLogLevel {base : Url} (bare : base.IsBare) (limit : Nat)
    {level : String} (known : isLogLevel level = true) :
    base.addQuery (Api.Client.logsQuery limit (some level)) =
      { base with query := some (limitText limit ++ "&level=" ++ Text.toUpper level) } := by
  have plain : ∀ name ∈ upperLevels, Url.formEncode name.toList = name.toList := by decide
  have levelValue := formValue_text (by decide : Url.formEncode "level".toList = _)
    (plain _ (toUpper_of_isLogLevel known).1)
  have joined : Text.join "&" [limitText limit, "level" ++ "=" ++ Text.toUpper level] =
      limitText limit ++ "&level=" ++ Text.toUpper level := by
    rw [← String.toList_inj]
    simp [Text.join]
  rw [Api.Client.logsQuery, bare.addQuery_cons, List.map_cons, limitValue_text,
    Option.map_some, Option.toList_some, List.map_cons, levelValue, List.map_nil, joined]

/-! ## Commands -/

/-- A command whose only call asks for a document. -/
theorem conversation_of_asked {α : Type} {replies : Nat → Api.Reply} {token : String}
    {base : Url} {command : Command} {query : Option String} {writing : WriteOutcome}
    {client : Api.Client} {exchange : Api.Exchange α} {next : α → Outcome}
    (asks : command.Asks query)
    (sent : exchange.dispatch = some ⟨.asking { base with query := query } token, replies 0⟩)
    (silent : ∀ value, (next value).dispatches = []) :
    Conversation replies token base command
      (proceed writing client file exchange next).dispatches := by
  rw [proceed_dispatches_of_silent silent, sent]
  exact .asked asks

section

variable (setting : Setting) {file : StoredFile} {config : Config} {token : String}
  {base : Url}

theorem runCost_conversation {query : CostQuery} (online : query.offline = false)
    (canSend : CanSend setting.environment file Api.modelsPath config token base)
    (bare : base.IsBare) :
    Conversation setting.replies token base (.cost query)
      (runCost setting query file).dispatches := by
  rw [runCost, if_neg (by simp [online]), withClient_of_safe canSend.loaded canSend.safe]
  apply conversation_of_asked (.cost query)
  · rw [Api.Client.getModel_dispatch canSend.reaches bare, bare.addQuery_nil]
  · intro model
    rfl

/-- A command that asks for a document at a path. -/
theorem withClient_fetch_conversation {α : Type} {path : String} {command : Command}
    {query : Option String} {values : List (String × String)}
    (canSend : CanSend setting.environment file path config token base) (bare : base.IsBare)
    (asks : command.Asks query) (encoded : base.addQuery values = { base with query := query })
    (decoder : Json.Decoder α) {next : α → Outcome}
    (silent : ∀ value, (next value).dispatches = []) :
    Conversation setting.replies token base command
      (withClient setting file fun client =>
        proceed setting.writing client file
          (client.fetch decoder path values (setting.replies 0)) next).dispatches := by
  rw [withClient_of_safe canSend.loaded canSend.safe]
  apply conversation_of_asked asks
  · rw [Api.Client.fetch_of_reaches canSend.reaches bare, encoded]
  · exact silent

theorem storeOverride_dispatches {client : Api.Client}
    (reaches : client.Reaches Api.modelsPath token base) (bare : base.IsBare) (id : String)
    {change : ModelOverride} (something : change.isEmpty = false) (reply : Api.Reply) :
    (storeOverride setting client id change reply file).dispatches =
      [⟨.changing (base.addPath (Text.pieces '/' id.toList)) token change, reply⟩] := by
  rw [storeOverride, if_neg (by simp [something]), proceed_dispatches_of_silent,
    Api.Client.updateModel_dispatch reaches bare]
  · rfl
  · intro model
    rfl

theorem recommendMinimum_isEmpty (change : ModelOverride) (model : Model) :
    (recommendMinimum change model).isEmpty = false := by
  simp [recommendMinimum, ModelOverride.isEmpty]

theorem runUpdate_conversation {update : ModelUpdate}
    (something : update.recommendedMinimum = false → update.toOverride.isEmpty = false)
    (canSend : CanSend setting.environment file Api.modelsPath config token base)
    (bare : base.IsBare) :
    Conversation setting.replies token base (.update update)
      (runUpdate setting update file).dispatches := by
  rw [runUpdate, withClient_of_safe canSend.loaded canSend.safe]
  have asked := Api.Client.getModel_dispatch canSend.reaches bare update.model
    (setting.replies 0)
  rw [bare.addQuery_nil, bare.without_query] at asked
  dsimp only
  cases recommended : update.recommendedMinimum with
  | false =>
      rw [if_neg (by simp),
        storeOverride_dispatches setting canSend.reaches bare update.model (something recommended)]
      exact .changed recommended
  | true =>
      rw [if_pos rfl]
      -- The second request hangs on the reply to the first one.
      by_cases found : ∃ model, (setting.replies 0).Offers update.model model
      · obtain ⟨model, offered⟩ := found
        have answered :=
          (Api.Client.getModel_result_eq_ok_iff canSend.reaches bare).mpr offered
        rw [proceed_dispatches_of_ok answered, asked,
          storeOverride_dispatches setting canSend.reaches bare update.model
            (recommendMinimum_isEmpty update.toOverride model)]
        exact .recommended recommended offered
      · have missing (model : Model) : ¬ (setting.replies 0).Offers update.model model :=
          fun offered => found ⟨model, offered⟩
        rw [proceed_dispatches_of_failure, asked]
        · exact .missed recommended missing
        · intro model answered
          exact missing model
            ((Api.Client.getModel_result_eq_ok_iff canSend.reaches bare).mp answered)

theorem runLogs_conversation {limit : Nat} {level : Option String}
    (known : ∀ given ∈ level, isLogLevel given = true)
    (canSend : CanSend setting.environment file Api.logsPath config token base)
    (bare : base.IsBare) :
    Conversation setting.replies token base (.logs limit level)
      (runLogs setting limit level file).dispatches := by
  have accepted : level.filter (fun level => !isLogLevel level) = none := by
    rw [Option.filter_eq_none_iff]
    intro given member
    simp [known given member]
  rw [runLogs, accepted]
  cases level with
  | none =>
      exact withClient_fetch_conversation setting canSend bare (.logs limit)
        (addQuery_logsQuery bare limit) LogEntry.decodeList fun _ => rfl
  | some level =>
      obtain ⟨named, same⟩ := toUpper_of_isLogLevel (known level rfl)
      exact withClient_fetch_conversation setting canSend bare (.logsOf limit named same)
        (addQuery_logsQuery_of_isLogLevel bare limit (known level rfl)) LogEntry.decodeList
        fun _ => rfl

end

/-! ## One run -/

theorem Command.mem_knownPaths {command : Command} {path : String}
    (known : command.path? = some path) : path ∈ Api.knownPaths := by
  cases command <;> simp [Command.path?] at known <;> simp [Api.knownPaths, ← known]

/-- The address of a path of a plain node has neither a user nor anything behind its path. -/
theorem CanSend.isBare {environment : NodeEnvironment} {file : StoredFile} {path : String}
    {config : Config} {token : String} {base : Url}
    (canSend : CanSend environment file path config token base)
    (known : path ∈ Api.knownPaths)
    (plain : Url.IsPlain (Session.resolve config environment).baseUrl) : base.IsBare := by
  have plainPath : ∀ known ∈ Api.knownPaths,
      (['@', '?', '#'].all fun mark => mark ∉ known.toList.dropWhile (· == '/')) = true := by
    decide
  exact plain.isBare_of_parse canSend.safe (Session.endpoint_toList _ path)
    (Text.forall_mem_of_all (plainPath path known)) canSend.reaches.located

/-- The requests of a command that nothing holds back. -/
theorem run_conversation {surroundings : Surroundings} {invocation : Invocation}
    {file : StoredFile}
    (plain : ∀ config, file.load = .ok config →
      Url.IsPlain (Session.resolve config surroundings.environment).baseUrl)
    (free : ¬ HoldsBack surroundings.environment file invocation.command) :
    ∃ config token path base, file.load = .ok config ∧
      (Session.resolve config surroundings.environment).token = some token ∧
      invocation.command.path? = some path ∧
      Url.parse ((Session.resolve config surroundings.environment).endpoint path) =
        .ok base ∧
      base.IsBare ∧
      Conversation surroundings.replies token base invocation.command
        (run surroundings invocation file).dispatches := by
  cases known : invocation.command.path? with
  | none => exact absurd (.configuring (Command.path?_eq_none.mp known)) free
  | some path =>
      obtain ⟨config, token, base, canSend⟩ := exists_canSend known free
      have bare := canSend.isBare (Command.mem_knownPaths known) (plain config canSend.loaded)
      refine ⟨config, token, path, base, canSend.loaded, canSend.reaches.held, rfl,
        canSend.reaches.located, bare, ?_⟩
      let setting := surroundings.setting invocation file
      unfold run
      cases asked : invocation.command with
      | cost query =>
          cases asked ▸ known
          have online : query.offline = false := by
            rw [← Bool.not_eq_true]
            exact fun offline => free (asked ▸ .offline offline)
          exact runCost_conversation setting online canSend bare
      | models provider all =>
          cases asked ▸ known
          exact withClient_fetch_conversation setting canSend bare (.models provider all)
            bare.addQuery_nil Model.decodeList fun _ => rfl
      | update update =>
          cases asked ▸ known
          have something (direct : update.recommendedMinimum = false) :
              update.toOverride.isEmpty = false := by
            rw [← Bool.not_eq_true]
            exact fun nothing => free (asked ▸ .nothingToChange nothing direct)
          exact runUpdate_conversation setting something canSend bare
      | providers =>
          cases asked ▸ known
          exact withClient_fetch_conversation setting canSend bare .providers
            bare.addQuery_nil Provider.decodeList fun _ => rfl
      | logs limit level =>
          cases asked ▸ known
          have knownLevel : ∀ given ∈ level, isLogLevel given = true := by
            rintro given ⟨⟩
            rw [isLogLevel, List.contains_iff_mem]
            by_cases named : Text.toLower given ∈ logLevels
            · exact named
            · exact absurd (asked ▸ .unknownLevel named) free
          exact runLogs_conversation setting knownLevel canSend bare
      | balance =>
          cases asked ▸ known
          exact withClient_fetch_conversation setting canSend bare .balance
            bare.addQuery_nil BalanceSummary.decode fun _ => rfl
      | configInit | configCheck | configLogin | configLogout | configSetUrl =>
          cases asked ▸ known

/-- The requests of a run: none if the arguments name no command or something holds the
command back, and otherwise those of one of the conversations of the command, all with the
token of the session.  The answer of the run shows those that reached the node. -/
theorem Run.dispatches_conversation (run : Run) (file : StoredFile)
    (plain : ∀ config, file.load = .ok config →
      Url.IsPlain (Session.resolve config run.surroundings.environment).baseUrl) :
    (answer run.surroundings run.arguments file).requests =
        ((run.dispatches file).filter Api.Dispatch.arrived).map Api.Dispatch.request ∧
      (∀ stop, parse run.arguments = .error stop → run.dispatches file = []) ∧
      ∀ invocation, parse run.arguments = .ok invocation →
        (HoldsBack run.surroundings.environment file invocation.command →
          run.dispatches file = []) ∧
        (¬ HoldsBack run.surroundings.environment file invocation.command →
          ∃ config session token path base, file.load = .ok config ∧
            session = Session.resolve config run.surroundings.environment ∧
            session.token = some token ∧ invocation.command.path? = some path ∧
            Url.parse (session.endpoint path) = .ok base ∧ base.IsBare ∧
            Conversation run.surroundings.replies token base invocation.command
              (run.dispatches file)) := by
  unfold Run.dispatches answer
  cases parsed : parse run.arguments with
  | error stop =>
      refine ⟨?_, ?_, ?_⟩
      · cases stop <;> rfl
      · intro stop _
        rfl
      · rintro invocation ⟨⟩
  | ok invocation =>
      refine ⟨rfl, ?_, ?_⟩
      · rintro stop ⟨⟩
      · rintro invocation ⟨⟩
        refine ⟨run_dispatches_of_holdsBack, ?_⟩
        intro free
        obtain ⟨config, token, path, base, loaded, held, known, located, bare, conversation⟩ :=
          run_conversation plain free
        exact ⟨config, _, token, path, base, loaded, rfl, held, known, located, bare,
          conversation⟩

/-- The list of one model, as a node writes it. -/
def oneModel : List UInt8 :=
  "[\x7b\"id\":\"gpt\",\"name\":\"GPT\"\x7d]".toList.map fun character =>
    UInt8.ofNat character.toNat

/-- An update to the recommended minimum. -/
def raiseUpdate : ModelUpdate := ⟨"gpt", none, none, ⟨none, none, none, .perMillion⟩, true⟩

/-- A run that meets a node with that model. -/
def raiseRun : Run :=
  ⟨⟨"config.toml", ⟨some "https://node.example", some "secret"⟩, ⟨false, false⟩,
      fun _ => .answered 200 oneModel, .carriedOut⟩,
    ["models", "update", "gpt", "--recommended-min"]⟩

def raiseSession : Session := ⟨"https://node.example", some "secret", .environment⟩

theorem raiseSession_isPlain : Url.IsPlain raiseSession.baseUrl := by
  refine ⟨?_, by decide, by decide⟩
  intro start among rest split
  rcases List.mem_cons.mp among with rfl | other
  · have written : raiseSession.baseUrl.toList = "https://".toList ++ "node.example".toList :=
      by decide
    rw [← List.append_cancel_left (written.symm.trans split)]
    decide
  · cases List.mem_singleton.mp other
    cases split

theorem dispatches_conversation_raiseRun :
    (∀ config, StoredFile.absent.load = .ok config → Url.IsPlain
        (Session.resolve config raiseRun.surroundings.environment).baseUrl) ∧
      (raiseRun.dispatches .absent).length = 2 ∧
      ∃ base, Conversation raiseRun.surroundings.replies "secret" base (.update raiseUpdate)
        (raiseRun.dispatches .absent) := by
  have session : Session.resolve Config.standard raiseRun.surroundings.environment =
      raiseSession := by
    decide +kernel
  have plain : ∀ config, StoredFile.absent.load = .ok config → Url.IsPlain
      (Session.resolve config raiseRun.surroundings.environment).baseUrl := by
    rintro config ⟨⟩
    rw [session]
    exact raiseSession_isPlain
  have parsed : parse raiseRun.arguments =
      .ok ⟨.update raiseUpdate, none, false, false, false, false⟩ := by
    decide +kernel
  have free : ¬ HoldsBack raiseRun.surroundings.environment .absent (.update raiseUpdate) := by
    intro holdsBack
    cases holdsBack with
    | configuring configuring => cases configuring
    | nothingToChange nothing direct => cases direct
    | unreadable unreadable => cases unreadable
    | rejected loaded rejected =>
        cases loaded
        rw [session] at rejected
        exact absurd rejected (by decide)
    | noToken loaded noneGiven noneStored => exact absurd noneGiven (by decide)
    | unsendable loaded held unsendable =>
        cases loaded
        rw [session] at held
        cases held
        exact absurd unsendable (by decide)
    | unlocated loaded known unlocated =>
        cases loaded
        cases known
        have located : (Url.parse (raiseSession.endpoint Api.modelsPath)).isOk = true := by
          decide +kernel
        rw [session] at unlocated
        rw [unlocated] at located
        cases located
  obtain ⟨-, -, conversations⟩ := raiseRun.dispatches_conversation .absent plain
  obtain ⟨config, _, token, path, base, loaded, rfl, held, -, -, -, conversation⟩ :=
    (conversations _ parsed).2 free
  cases loaded
  rw [session] at held
  cases held
  exact ⟨plain, by decide +kernel, base, conversation⟩

end NodeAdmin.CommandLine