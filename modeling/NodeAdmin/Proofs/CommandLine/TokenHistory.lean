import Mathlib.Data.List.Induction
import NodeAdmin.Proofs.CommandLine.Revision

/-!
# Where a stored token came from

A token that the configuration file holds was stored by a login, and since then the
file has had the address that it had at that login.  A request with such a token
therefore goes to the node that the token was stored for, whatever was run in
between.
-/

namespace NodeAdmin.CommandLine

/-- One run of the tool. -/
structure Run where
  surroundings : Surroundings
  arguments : List String

/-- The file after a run. -/
def Run.fileAfter (run : Run) (file : StoredFile) : StoredFile :=
  (answer run.surroundings run.arguments file).file

/-- The requests that a run makes. -/
def Run.dispatches (run : Run) (file : StoredFile) : List Api.Dispatch :=
  match parse run.arguments with
  | .ok invocation => (CommandLine.run run.surroundings invocation file).dispatches
  | .error _ => []

/-- The file after one run after the other. -/
def fileAfter (start : StoredFile) (history : List Run) : StoredFile :=
  history.foldl (fun file run => run.fileAfter file) start

theorem fileAfter_append_singleton (start : StoredFile) (history : List Run) (run : Run) :
    fileAfter start (history ++ [run]) = run.fileAfter (fileAfter start history) := by
  simp [fileAfter]

/-- A login that succeeds, with the token that it stores and the configuration that
it finds. -/
structure Run.LogsIn (run : Run) (file : StoredFile) (token : String)
    (found : Config) : Prop where
  asked : ∃ invocation text, parse run.arguments = .ok invocation ∧
    invocation.command = .configLogin text ∧ token = Text.trim text
  loaded : file.load = .ok found
  succeeded : (answer run.surroundings run.arguments file).exitCode = 0

/-- The last login of a history that succeeded, by its token and the configuration
that it found. -/
inductive LastLogin (start : StoredFile) : List Run → String → Config → Prop where
  | now {history : List Run} {run : Run} {token : String} {found : Config}
      (login : run.LogsIn (fileAfter start history) token found) :
      LastLogin start (history ++ [run]) token found
  | before {history : List Run} {run : Run} {token : String} {found : Config}
      (earlier : LastLogin start history token found)
      (noLogin : ∀ other another, ¬ run.LogsIn (fileAfter start history) other another) :
      LastLogin start (history ++ [run]) token found

/-! ## One run -/

/-- A login succeeds if its token is more than blanks and can be stored. -/
theorem configLogin_exitCode {writing : WriteOutcome} {options : OutputOptions}
    {path token : String} {file : StoredFile} {config : Config}
    (loaded : file.load = .ok config) :
    (configLogin writing options path token file).exitCode = 0 ↔
      Text.isAllBlank token = false ∧
        ∃ saved, file.save writing (config.setToken (Text.trim token)) = .ok saved := by
  have empty := Text.trim_isEmpty token
  unfold configLogin
  dsimp only
  cases blank : Text.isAllBlank token with
  | true =>
      rw [blank] at empty
      rw [if_pos empty]
      simp [Outcome.failed, Outcome.exitCode]
  | false =>
      rw [blank] at empty
      rw [if_neg (by simp [empty]), loaded]
      dsimp only
      cases written : file.save writing (config.setToken (Text.trim token)) with
      | ok saved => simp [Outcome.done, Outcome.exitCode]
      | error error => simp [Outcome.failed, Outcome.exitCode]

/-- What decides whether a login succeeds. -/
theorem logsIn_iff {run : Run} {file : StoredFile} {invocation : Invocation}
    {text : String} {found : Config} (parsed : parse run.arguments = .ok invocation)
    (asked : invocation.command = .configLogin text) (loaded : file.load = .ok found) :
    run.LogsIn file (Text.trim text) found ↔
      Text.isAllBlank text = false ∧
        ∃ saved, file.save run.surroundings.writing (found.setToken (Text.trim text)) =
          .ok saved := by
  have exitCode : (answer run.surroundings run.arguments file).exitCode =
      (configLogin run.surroundings.writing (outputOptions run.surroundings invocation file)
        run.surroundings.path text file).exitCode := by
    rw [answer, parsed]
    dsimp only
    unfold CommandLine.run
    rw [asked]
    dsimp only [Outcome.answer]
  rw [← configLogin_exitCode loaded, ← exitCode]
  constructor
  · intro login
    exact login.succeeded
  · intro succeeded
    exact ⟨⟨invocation, text, parsed, asked, rfl⟩, loaded, succeeded⟩

/-- A login that succeeds leaves the configuration with its token. -/
theorem Run.LogsIn.load_fileAfter {run : Run} {file : StoredFile} {token : String}
    {found : Config} (login : run.LogsIn file token found) :
    (run.fileAfter file).load = .ok (found.setToken token) := by
  obtain ⟨invocation, text, parsed, asked, rfl⟩ := login.asked
  obtain ⟨filled, saved, written⟩ := (logsIn_iff parsed asked login.loaded).mp login
  have stores : Stores run.surroundings run.arguments file
      (found.setToken (Text.trim text)) := by
    refine ⟨invocation, parsed, ?_⟩
    rw [asked]
    exact .loggedIn login.loaded filled
  rw [Run.fileAfter, answer_file_of_stores stores, StoredFile.afterSave_of_ok written]
  exact StoredFile.load_save written

/-- A configuration with a token, stored by a run that is no login, has the node of
the configuration before. -/
theorem Stores.sameNode {run : Run} {file saved : StoredFile} {stored : Config}
    {token : String} (stores : Stores run.surroundings run.arguments file stored)
    (written : file.save run.surroundings.writing stored = .ok saved)
    (held : stored.node.token = some token)
    (noLogin : ∀ other another, ¬ run.LogsIn file other another) :
    ∃ before, file.load = .ok before ∧ before.node = stored.node := by
  obtain ⟨invocation, parsed, revision⟩ := stores
  generalize asked : invocation.command = command at revision
  cases revision with
  | started => cases held
  | @pointed url config loaded accepted =>
      by_cases sameAddress : config.node.baseUrl = Text.dropTrailingSlashes url
      · refine ⟨config, loaded, ?_⟩
        rw [if_pos sameAddress, ← sameAddress]
      · rw [if_neg sameAddress] at held
        cases held
  | @loggedIn text config loaded filled =>
      have login := (logsIn_iff parsed asked loaded).mpr ⟨filled, saved, written⟩
      exact absurd login (noLogin _ _)
  | loggedOut => cases held
  | refused => cases held

/-- A token that the file holds after a run was stored by that run, or was in the
file before with the same address. -/
theorem Run.token_after {run : Run} {file : StoredFile} {config : Config}
    {token : String} (loaded : (run.fileAfter file).load = .ok config)
    (held : config.node.token = some token) :
    (∃ found, run.LogsIn file token found ∧
        found.node.baseUrl = config.node.baseUrl) ∨
      ((∀ other another, ¬ run.LogsIn file other another) ∧
        ∃ before, file.load = .ok before ∧ before.node = config.node) := by
  by_cases login : ∃ other another, run.LogsIn file other another
  · left
    obtain ⟨other, found, login⟩ := login
    have after := login.load_fileAfter
    rw [loaded] at after
    cases after
    cases held
    exact ⟨found, login, rfl⟩
  · right
    have noLogin (other : String) (another : Config) : ¬ run.LogsIn file other another :=
      fun logsIn => login ⟨other, another, logsIn⟩
    refine ⟨noLogin, ?_⟩
    by_cases stores : ∃ stored, Stores run.surroundings run.arguments file stored
    · obtain ⟨stored, stores⟩ := stores
      rw [Run.fileAfter, answer_file_of_stores stores] at loaded
      cases written : file.save run.surroundings.writing stored with
      | error error =>
          rw [StoredFile.afterSave_of_error written] at loaded
          exact ⟨config, loaded, rfl⟩
      | ok saved =>
          rw [StoredFile.afterSave_of_ok written] at loaded
          have same : stored = config :=
            Except.ok.inj ((StoredFile.load_save written).symm.trans loaded)
          subst same
          exact stores.sameNode written held noLogin
    · rw [Run.fileAfter, answer_file_of_not_stores (not_exists.mp stores)] at loaded
      exact ⟨config, loaded, rfl⟩

/-- Every request of a run is made by the client of the configuration that the run
finds. -/
theorem Run.sends_of_mem_dispatches {run : Run} {file : StoredFile}
    {dispatch : Api.Dispatch} (sent : dispatch ∈ run.dispatches file) :
    ∃ config, file.load = .ok config ∧
      Api.Client.Sends ⟨Session.resolve config run.surroundings.environment⟩
        dispatch := by
  unfold Run.dispatches at sent
  cases parsed : parse run.arguments with
  | error stop =>
      rw [parsed] at sent
      exact absurd sent List.not_mem_nil
  | ok invocation =>
      rw [parsed] at sent
      exact CommandLine.sends_of_mem_dispatches sent

/-! ## All runs -/

theorem lastLogin_of_token {start : StoredFile} (fresh : start.isPresent = false)
    {history : List Run} {config : Config} {token : String}
    (loaded : (fileAfter start history).load = .ok config)
    (held : config.node.token = some token) :
    ∃ found, LastLogin start history token found ∧
      found.node.baseUrl = config.node.baseUrl := by
  induction history using List.reverseRecOn generalizing config with
  | nil =>
      have standard : start.load = .ok Config.standard := by
        cases start with
        | absent | blocked => rfl
        | text | bytes | directory => cases fresh
      rw [fileAfter, List.foldl_nil, standard] at loaded
      cases loaded
      cases held
  | append_singleton history run induction =>
      rw [fileAfter_append_singleton] at loaded
      rcases Run.token_after loaded held with
        ⟨found, login, sameAddress⟩ | ⟨noLogin, before, loadedBefore, sameNode⟩
      · exact ⟨found, .now login, sameAddress⟩
      · rw [← sameNode] at held ⊢
        obtain ⟨found, earlier, sameAddress⟩ := induction loadedBefore held
        exact ⟨found, .before earlier noLogin, sameAddress⟩

/-- Every request of a run is made in the session of the configuration that the run
finds, and if the token of the session came from the file, the session has the
address that the file had at the last login, and the token of that login. -/
theorem stored_token_goes_to_login_node {start : StoredFile}
    (fresh : start.isPresent = false) (history : List Run) {run : Run}
    (noAddress : Session.meaningful run.surroundings.environment.url = none)
    {dispatch : Api.Dispatch}
    (sent : dispatch ∈ run.dispatches (fileAfter start history)) :
    ∃ config session, (fileAfter start history).load = .ok config ∧
      session = Session.resolve config run.surroundings.environment ∧
      Api.Client.Sends ⟨session⟩ dispatch ∧
      (session.source = .config →
        ∃ token found, LastLogin start history token found ∧
          session.token = some token ∧
          session.baseUrl = Text.dropTrailingSlashes found.node.baseUrl) := by
  obtain ⟨config, loaded, sends⟩ := Run.sends_of_mem_dispatches sent
  refine ⟨config, _, loaded, rfl, sends, ?_⟩
  intro stored
  obtain ⟨token, held, chosen⟩ := token_of_source stored
  obtain ⟨found, login, sameAddress⟩ := lastLogin_of_token fresh loaded held
  refine ⟨token, found, login, chosen, ?_⟩
  rw [Session.resolve, noAddress, sameAddress]
  rfl

/-- A login with a token for the usual node. -/
def loginRun : Run :=
  ⟨⟨"config.toml", ⟨none, none⟩, ⟨false, false⟩, fun _ => .failed [], .carriedOut⟩,
    ["config", "login", "--token", "secret"]⟩

/-- A look at the balances of a node that refuses every token. -/
def balanceRun : Run :=
  ⟨⟨"config.toml", ⟨none, none⟩, ⟨false, false⟩, fun _ => .answered 401 [],
      .carriedOut⟩,
    ["balance"]⟩

theorem stored_token_goes_to_login_node_balanceRun :
    StoredFile.absent.isPresent = false ∧
      Session.meaningful balanceRun.surroundings.environment.url = none ∧
      ∃ dispatch ∈ balanceRun.dispatches (fileAfter .absent [loginRun]),
        ∃ token found, LastLogin .absent [loginRun] token found ∧
          Api.bearer token ∈ dispatch.request.authorization := by
  have stored : (fileAfter .absent [loginRun]).load =
      .ok (Config.standard.setToken "secret") := by
    decide +kernel
  have sends : balanceRun.dispatches (fileAfter .absent [loginRun]) ≠ [] := by
    decide +kernel
  obtain ⟨dispatch, sent⟩ := List.exists_mem_of_ne_nil _ sends
  obtain ⟨config, session, loaded, rfl, reaches, origin⟩ :=
    stored_token_goes_to_login_node rfl [loginRun] rfl sent
  rw [stored] at loaded
  cases loaded
  obtain ⟨token, found, login, chosen, -⟩ := origin (by decide +kernel)
  obtain ⟨carried, held, carries⟩ := reaches.carriesToken
  rw [chosen] at held
  cases held
  exact ⟨rfl, rfl, dispatch, sent, token, found, login, carries⟩

end NodeAdmin.CommandLine
