import NodeAdmin.Proofs.CommandLine.Settling
import NodeAdmin.Proofs.Config.RoundTrip
import NodeAdmin.Proofs.Text.Ends

/-!
# How runs change the configuration file

A run stores a configuration in five situations only, and each of them changes the
address or the token of the node and nothing else.  In all other situations, and
where the configuration cannot be stored, the file stays as it was.
-/

namespace NodeAdmin

/-- The file after an attempt to store a configuration in it. -/
def StoredFile.afterSave (writing : WriteOutcome) (config : Config) (file : StoredFile) :
    StoredFile :=
  match file.save writing config with
  | .ok saved => saved
  | .error _ => file

theorem StoredFile.afterSave_of_ok {writing : WriteOutcome} {config : Config}
    {file saved : StoredFile} (written : file.save writing config = .ok saved) :
    file.afterSave writing config = saved := by
  rw [afterSave, written]

theorem StoredFile.afterSave_of_error {writing : WriteOutcome} {config : Config}
    {file : StoredFile} {error : ConfigError}
    (failed : file.save writing config = .error error) :
    file.afterSave writing config = file := by
  rw [afterSave, failed]

namespace CommandLine

/-- The configuration that a command stores, given what the file holds and whether a
node refused the token. -/
inductive Revision (environment : NodeEnvironment) (file : StoredFile)
    (isRefused : Prop) : Command → Config → Prop where
  | started {url : Option String} (free : file.isPresent = false)
      (accepted : ∀ address ∈ url, Endpoint.isSafe address = true) :
      Revision environment file isRefused (.configInit url)
        (Config.standard.setBaseUrl
          ((url.map Text.dropTrailingSlashes).getD Config.standard.node.baseUrl))
  | pointed {url : String} {config : Config} (loaded : file.load = .ok config)
      (accepted : Endpoint.isSafe url = true) :
      Revision environment file isRefused (.configSetUrl url)
        { config with node :=
          { baseUrl := Text.dropTrailingSlashes url
            token :=
              if config.node.baseUrl = Text.dropTrailingSlashes url
              then config.node.token else none } }
  | loggedIn {token : String} {config : Config} (loaded : file.load = .ok config)
      (filled : Text.isAllBlank token = false) :
      Revision environment file isRefused (.configLogin token)
        { config with node := { config.node with token := some (Text.trim token) } }
  | loggedOut {config : Config} (loaded : file.load = .ok config)
      (held : config.node.token ≠ none) :
      Revision environment file isRefused .configLogout
        { config with node := { config.node with token := none } }
  | refused {command : Command} {config : Config} (loaded : file.load = .ok config)
      (administering : command.isConfiguring = false) (met : isRefused)
      (stored : (Session.resolve config environment).source = .config) :
      Revision environment file isRefused command
        { config with node := { config.node with token := none } }

/-- A run that leaves the file with the configuration that its command stores, as far as
it can be written, and as it was if there is none. -/
structure Outcome.Revises (environment : NodeEnvironment) (writing : WriteOutcome)
    (file : StoredFile) (command : Command) (outcome : Outcome) : Prop where
  stored : ∀ config, Revision environment file outcome.IsRefused command config →
    outcome.file = file.afterSave writing config
  kept : (∀ config, ¬ Revision environment file outcome.IsRefused command config) →
    outcome.file = file

section

variable {environment : NodeEnvironment} {writing : WriteOutcome} {file : StoredFile}
  {isRefused : Prop} {command : Command} {outcome : Outcome}

/-- There is at most one configuration for a command to store. -/
theorem Revision.unique {first second : Config}
    (one : Revision environment file isRefused command first)
    (other : Revision environment file isRefused command second) : first = second := by
  have same {config another : Config} (loaded : file.load = .ok config)
      (again : file.load = .ok another) : config = another :=
    Except.ok.inj (loaded.symm.trans again)
  cases one with
  | started free accepted =>
      cases other with
      | started => rfl
      | refused _ administering => cases administering
  | pointed loaded accepted =>
      cases other with
      | pointed again => rw [same loaded again]
      | refused _ administering => cases administering
  | loggedIn loaded filled =>
      cases other with
      | loggedIn again => rw [same loaded again]
      | refused _ administering => cases administering
  | loggedOut loaded held =>
      cases other with
      | loggedOut again => rw [same loaded again]
      | refused _ administering => cases administering
  | refused loaded administering =>
      cases other with
      | refused again => rw [same loaded again]
      | started => cases administering
      | pointed => cases administering
      | loggedIn => cases administering
      | loggedOut => cases administering

/-- Where the configuration cannot be read, none is stored. -/
theorem Revision.readable {config : Config}
    (revision : Revision environment file isRefused command config) :
    ∃ held, file.load = .ok held := by
  cases revision with
  | started free =>
      refine ⟨Config.standard, ?_⟩
      cases file with
      | absent | blocked => rfl
      | text | bytes | directory => cases free
  | pointed loaded | loggedIn loaded | loggedOut loaded | refused loaded =>
      exact ⟨_, loaded⟩

/-- A command about a node stores a configuration for a refused token only. -/
theorem Revision.refusal {config : Config} (administering : command.isConfiguring = false)
    (revision : Revision environment file isRefused command config) :
    isRefused ∧ ∃ held, file.load = .ok held ∧
      (Session.resolve held environment).source = .config := by
  cases revision with
  | refused loaded _ met stored => exact ⟨met, _, loaded, stored⟩
  | started | pointed | loggedIn | loggedOut => cases administering

theorem Outcome.Revises.of_revision {config : Config}
    (revision : Revision environment file outcome.IsRefused command config)
    (stored : outcome.file = file.afterSave writing config) :
    outcome.Revises environment writing file command := by
  refine ⟨?_, fun none => absurd revision (none config)⟩
  intro other otherRevision
  rw [stored, revision.unique otherRevision]

theorem Outcome.Revises.of_none
    (none : ∀ config, ¬ Revision environment file outcome.IsRefused command config)
    (kept : outcome.file = file) : outcome.Revises environment writing file command :=
  ⟨fun config revision => absurd revision (none config), fun _ => kept⟩

theorem Outcome.Revises.of_unreadable {error : ConfigError}
    (unreadable : file.load = .error error) (kept : outcome.file = file) :
    outcome.Revises environment writing file command := by
  refine .of_none ?_ kept
  intro config revision
  obtain ⟨held, loaded⟩ := revision.readable
  rw [unreadable] at loaded
  cases loaded

end

/-! ## Commands about the configuration -/

/-- What an attempt to store leaves, whatever is told about it. -/
theorem file_of_save {writing : WriteOutcome} {config : Config} {file : StoredFile}
    {failed : ConfigError → Outcome} {done : StoredFile → Outcome}
    (kept : ∀ error, (failed error).file = file) (stored : ∀ saved, (done saved).file = saved) :
    (match file.save writing config with
      | .error error => failed error
      | .ok saved => done saved).file = file.afterSave writing config := by
  cases written : file.save writing config with
  | ok saved => rw [StoredFile.afterSave_of_ok written, stored]
  | error error => rw [StoredFile.afterSave_of_error written, kept]

theorem validate_of_isSafe {url : String} (accepted : Endpoint.isSafe url = true) :
    Endpoint.validate url = .ok () := by
  rw [Endpoint.validate, if_pos accepted]

theorem validate_of_not_isSafe {url : String} (rejected : ¬ Endpoint.isSafe url = true) :
    Endpoint.validate url = .error (.insecure url) := by
  rw [Endpoint.validate, if_neg rejected]

/-- What a new configuration is stored as. -/
theorem configInit_file {writing : WriteOutcome} {path : String} {url : Option String}
    {file : StoredFile} (free : file.isPresent = false)
    (accepted : ∀ address ∈ url, Endpoint.isSafe address = true) :
    (configInit writing path url file).file = file.afterSave writing
      (Config.standard.setBaseUrl
        ((url.map Text.dropTrailingSlashes).getD Config.standard.node.baseUrl)) := by
  have checked : (url.mapM fun address =>
      (Endpoint.validate address).map fun _ => address) = .ok url := by
    cases url with
    | none => rfl
    | some address =>
        simp [validate_of_isSafe (accepted address rfl), Except.map]
  unfold configInit
  rw [free, if_neg Bool.false_ne_true, checked]
  cases url with
  | none => exact file_of_save (fun _ => rfl) fun _ => rfl
  | some address => exact file_of_save (fun _ => rfl) fun _ => rfl

theorem configInit_revises (environment : NodeEnvironment) (writing : WriteOutcome)
    (path : String) (url : Option String) (file : StoredFile) :
    (configInit writing path url file).Revises environment writing file
      (.configInit url) := by
  cases present : file.isPresent with
  | true =>
      apply Outcome.Revises.of_none
      · intro config revision
        cases revision with
        | started free =>
            rw [present] at free
            cases free
        | refused _ administering => cases administering
      · rw [configInit, if_pos present]
        rfl
  | false =>
      by_cases accepted : ∀ address ∈ url, Endpoint.isSafe address = true
      · exact .of_revision (.started present accepted) (configInit_file present accepted)
      · apply Outcome.Revises.of_none
        · intro config revision
          cases revision with
          | started _ safe => exact accepted safe
          | refused _ administering => cases administering
        · cases url with
          | none => exact absurd (fun address none => nomatch none) accepted
          | some address =>
              have rejected : ¬ Endpoint.isSafe address = true := by
                intro safe
                apply accepted
                rintro other ⟨rfl⟩
                exact safe
              rw [configInit, present, if_neg Bool.false_ne_true]
              simp [validate_of_not_isSafe rejected, Except.map, Outcome.failed]

/-- The configuration for another node has its address, and the token just if the
address is the same. -/
theorem pointTo_eq (url : String) (config : Config) :
    pointTo url config =
      { config with node :=
        { baseUrl := url
          token := if config.node.baseUrl = url then config.node.token else none } } := by
  unfold pointTo
  split
  · rename_i same
    subst same
    rfl
  · rfl

theorem configSetUrl_revises (environment : NodeEnvironment) (writing : WriteOutcome)
    (path url : String) (file : StoredFile) :
    (configSetUrl writing path url file).Revises environment writing file
      (.configSetUrl url) := by
  by_cases accepted : Endpoint.isSafe url = true
  · cases loaded : file.load with
    | ok config =>
        apply Outcome.Revises.of_revision (.pointed loaded accepted)
        rw [← pointTo_eq, configSetUrl, validate_of_isSafe accepted, loaded]
        exact file_of_save (fun _ => rfl) fun _ => rfl
    | error error =>
        apply Outcome.Revises.of_unreadable loaded
        rw [configSetUrl, validate_of_isSafe accepted, loaded]
        rfl
  · apply Outcome.Revises.of_none
    · intro config revision
      cases revision with
      | pointed _ safe => exact accepted safe
      | refused _ administering => cases administering
    · rw [configSetUrl, validate_of_not_isSafe accepted]
      rfl

theorem configLogin_revises (environment : NodeEnvironment) (writing : WriteOutcome)
    (options : OutputOptions) (path token : String) (file : StoredFile) :
    (configLogin writing options path token file).Revises environment writing file
      (.configLogin token) := by
  cases filled : Text.isAllBlank token with
  | true =>
      apply Outcome.Revises.of_none
      · intro config revision
        cases revision with
        | loggedIn _ notBlank =>
            rw [filled] at notBlank
            cases notBlank
        | refused _ administering => cases administering
      · have empty : (Text.trim token).isEmpty = true := by rw [Text.trim_isEmpty, filled]
        unfold configLogin
        dsimp only
        rw [if_pos empty]
        rfl
  | false =>
      have notEmpty : ¬ (Text.trim token).isEmpty = true := by
        rw [Text.trim_isEmpty, filled]
        exact Bool.false_ne_true
      cases loaded : file.load with
      | ok config =>
          apply Outcome.Revises.of_revision (.loggedIn loaded filled)
          unfold configLogin
          dsimp only
          rw [if_neg notEmpty, loaded]
          exact file_of_save (fun _ => rfl) fun _ => rfl
      | error error =>
          apply Outcome.Revises.of_unreadable loaded
          unfold configLogin
          dsimp only
          rw [if_neg notEmpty, loaded]
          rfl

theorem configLogout_revises (environment : NodeEnvironment) (writing : WriteOutcome)
    (file : StoredFile) :
    (configLogout writing file).Revises environment writing file .configLogout := by
  cases loaded : file.load with
  | error error =>
      apply Outcome.Revises.of_unreadable loaded
      rw [configLogout, loaded]
      rfl
  | ok config =>
      cases held : config.node.token with
      | none =>
          apply Outcome.Revises.of_none
          · intro changed revision
            cases revision with
            | loggedOut found someHeld =>
                rw [loaded] at found
                cases found
                exact someHeld held
            | refused _ administering => cases administering
          · simp [configLogout, loaded, Config.hasToken, held, Outcome.remark]
      | some token =>
          have holds : config.hasToken = true := by rw [Config.hasToken, held]; rfl
          have someHeld : config.node.token ≠ none := by
            rw [held]
            exact Option.some_ne_none token
          apply Outcome.Revises.of_revision (.loggedOut loaded someHeld)
          unfold configLogout
          rw [loaded]
          dsimp only
          rw [if_pos holds]
          exact file_of_save (fun _ => rfl) fun _ => rfl

theorem configCheck_revises (environment : NodeEnvironment) (writing : WriteOutcome)
    (options : OutputOptions) (path : String) (file : StoredFile) :
    (configCheck options path file).Revises environment writing file .configCheck := by
  apply Outcome.Revises.of_none
  · intro config revision
    cases revision with
    | refused _ administering => cases administering
  · rfl

/-! ## Commands about a node -/

/-- A token that came from the file is in the file. -/
theorem token_of_source {config : Config} {environment : NodeEnvironment}
    (stored : (Session.resolve config environment).source = .config) :
    ∃ token, config.node.token = some token ∧
      (Session.resolve config environment).token = some token := by
  unfold Session.resolve Session.chooseToken at *
  cases given : Session.meaningful environment.token with
  | some token => simp [given] at stored
  | none =>
      cases kept : Session.meaningful config.node.token with
      | none => simp [given, kept] at stored
      | some token =>
          obtain ⟨held, -⟩ := Option.filter_eq_some_iff.mp kept
          exact ⟨token, held, rfl⟩

theorem forgetToken_of_token {writing : WriteOutcome} {file : StoredFile} {config : Config}
    {token : String} (loaded : file.load = .ok config)
    (held : config.node.token = some token) :
    forgetToken writing file = file.save writing config.clearToken := by
  have holds : config.hasToken = true := by rw [Config.hasToken, held]; rfl
  unfold forgetToken
  rw [loaded]
  exact if_pos holds

/-- A refused token is forgotten if it came from the file. -/
theorem closeSession_file {environment : NodeEnvironment} {writing : WriteOutcome}
    {file : StoredFile} {config : Config} (loaded : file.load = .ok config)
    (stored : (Session.resolve config environment).source = .config) :
    (closeSession writing (Session.resolve config environment) .unauthorized file).2 =
      file.afterSave writing { config with node := { config.node with token := none } } := by
  obtain ⟨token, held, -⟩ := token_of_source stored
  have refused : Api.ApiError.unauthorized.isUnauthorized = true := rfl
  change _ = file.afterSave writing config.clearToken
  unfold closeSession
  rw [if_pos refused, stored, forgetToken_of_token loaded held]
  dsimp only
  cases written : file.save writing config.clearToken with
  | ok changed => rw [StoredFile.afterSave_of_ok written]
  | error error => rw [StoredFile.afterSave_of_error written]

theorem closeSession_file_of_other {session : Session}
    (other : session.source ≠ .config) (writing : WriteOutcome) (error : Api.ApiError)
    (file : StoredFile) : (closeSession writing session error file).2 = file := by
  unfold closeSession
  split
  · cases source : session.source with
    | config => exact absurd source other
    | environment => rfl
    | none => rfl
  · rfl

theorem Outcome.Administers.revises {environment : NodeEnvironment}
    {writing : WriteOutcome} {file : StoredFile} {command : Command} {outcome : Outcome}
    (administering : command.isConfiguring = false)
    (administers : outcome.Administers environment writing file) :
    outcome.Revises environment writing file command := by
  cases administers with
  | silent silent kept =>
      apply Outcome.Revises.of_none _ kept
      intro config revision
      obtain ⟨dispatch, member, -⟩ := (revision.refusal administering).1
      rw [silent] at member
      exact List.not_mem_nil member
  | @settled config loaded settles =>
      by_cases forgets : outcome.IsRefused ∧
          (Session.resolve config environment).source = .config
      · obtain ⟨met, stored⟩ := forgets
        apply Outcome.Revises.of_revision (.refused loaded administering met stored)
        rw [settles.closed met, closeSession_file loaded stored]
      · have kept : outcome.file = file := by
          by_cases met : outcome.IsRefused
          · have other : (Session.resolve config environment).source ≠ .config :=
              fun stored => forgets ⟨met, stored⟩
            rw [settles.closed met]
            exact closeSession_file_of_other other writing _ file
          · exact settles.kept met
        apply Outcome.Revises.of_none _ kept
        intro changed revision
        obtain ⟨met, held, loadedHeld, stored⟩ := revision.refusal administering
        rw [loaded] at loadedHeld
        cases loadedHeld
        exact forgets ⟨met, stored⟩

/-! ## All commands -/

theorem run_revises (surroundings : Surroundings) (invocation : Invocation)
    (file : StoredFile) :
    (run surroundings invocation file).Revises surroundings.environment
      surroundings.writing file invocation.command := by
  cases administering : invocation.command.isConfiguring with
  | false => exact (run_administers surroundings administering file).revises administering
  | true =>
      unfold run
      cases asked : invocation.command with
      | configInit url => exact configInit_revises _ _ _ url file
      | configCheck => exact configCheck_revises _ _ _ _ file
      | configLogin token => exact configLogin_revises _ _ _ _ token file
      | configLogout => exact configLogout_revises _ _ file
      | configSetUrl url => exact configSetUrl_revises _ _ _ url file
      | cost | models | update | providers | logs | balance =>
          rw [asked] at administering
          cases administering

/-- The configuration that a run with some arguments stores. -/
def Stores (surroundings : Surroundings) (arguments : List String) (file : StoredFile)
    (config : Config) : Prop :=
  ∃ invocation, parse arguments = .ok invocation ∧
    Revision surroundings.environment file (run surroundings invocation file).IsRefused
      invocation.command config

theorem Stop.answer_file (stop : Stop) (file : StoredFile) :
    (stop.answer file).file = file := by
  cases stop with
  | misuse => rfl
  | help => rfl
  | version => rfl

/-- The file after a run is the one that the run was to store, if there is one. -/
theorem answer_file_of_stores {surroundings : Surroundings} {arguments : List String}
    {file : StoredFile} {config : Config}
    (stores : Stores surroundings arguments file config) :
    (answer surroundings arguments file).file =
      file.afterSave surroundings.writing config := by
  obtain ⟨invocation, parsed, revision⟩ := stores
  have revises := run_revises surroundings invocation file
  rw [answer, parsed]
  exact revises.stored config revision

theorem answer_file_of_not_stores {surroundings : Surroundings}
    {arguments : List String} {file : StoredFile}
    (none : ∀ config, ¬ Stores surroundings arguments file config) :
    (answer surroundings arguments file).file = file := by
  unfold answer
  cases parsed : parse arguments with
  | error stop => exact stop.answer_file file
  | ok invocation =>
      have revises := run_revises surroundings invocation file
      apply revises.kept
      intro config revision
      exact none config ⟨invocation, parsed, revision⟩

end CommandLine

end NodeAdmin
