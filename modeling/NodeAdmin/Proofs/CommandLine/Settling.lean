import NodeAdmin.CommandLine.Run
import NodeAdmin.Proofs.Api.Dispatch

/-!
# What a command about a node leaves behind

A command about a node makes its requests through one client and leaves the
configuration file as it is, unless the node refuses the token.  Then the session is
closed, whichever request met the refusal.
-/

namespace NodeAdmin.CommandLine

/-- Whether a node refused the token of a request of the run. -/
def Outcome.IsRefused (outcome : Outcome) : Prop :=
  ∃ dispatch ∈ outcome.dispatches, dispatch.IsRefusal

/-- The requests of a run are those of one client, and only a refused token has an
effect on the file. -/
structure Outcome.Settles (writing : WriteOutcome) (client : Api.Client)
    (file : StoredFile) (outcome : Outcome) : Prop where
  sends : ∀ dispatch ∈ outcome.dispatches, client.Sends dispatch
  closed : outcome.IsRefused →
    outcome.file = (closeSession writing client.session .unauthorized file).2
  kept : ¬ outcome.IsRefused → outcome.file = file

/-- A command that makes no request keeps the file. -/
theorem Outcome.Settles.silent {writing : WriteOutcome} {client : Api.Client}
    {file : StoredFile} {outcome : Outcome} (silent : outcome.dispatches = [])
    (kept : outcome.file = file) : outcome.Settles writing client file := by
  have notRefused : ¬ outcome.IsRefused := by
    rintro ⟨dispatch, member, -⟩
    rw [silent] at member
    exact List.not_mem_nil member
  refine ⟨?_, fun refused => absurd refused notRefused, fun _ => kept⟩
  intro dispatch member
  rw [silent] at member
  exact absurd member List.not_mem_nil

theorem closeSession_file_of_ne {session : Session} {error : Api.ApiError}
    (notRefused : error ≠ .unauthorized) (writing : WriteOutcome) (file : StoredFile) :
    (closeSession writing session error file).2 = file := by
  have other : error.isUnauthorized = false := by
    simp [Api.ApiError.isUnauthorized, notRefused]
  simp [closeSession, other]

/-- What is done with the result of a call settles if the rest does. -/
theorem proceed_settles {α : Type} {writing : WriteOutcome} {client : Api.Client}
    {file : StoredFile} {exchange : Api.Exchange α} {next : α → Outcome}
    (faithful : exchange.Faithful client)
    (settles : ∀ value, (next value).Settles writing client file) :
    (proceed writing client file exchange next).Settles writing client file := by
  have sent (dispatch : Api.Dispatch) (member : dispatch ∈ exchange.dispatch.toList) :
      client.Sends dispatch :=
    faithful.sends dispatch (Option.mem_toList.mp member)
  unfold proceed
  cases result : exchange.result with
  | ok value =>
      have accepted (dispatch : Api.Dispatch)
          (member : dispatch ∈ exchange.dispatch.toList) : ¬ dispatch.IsRefusal := by
        intro refusal
        have refused := faithful.refused.mpr
          ⟨dispatch, Option.mem_toList.mp member, refusal⟩
        rw [result] at refused
        cases refused
      have sameRefusals :
          ((next value).after exchange.dispatch.toList).IsRefused ↔
            (next value).IsRefused := by
        constructor
        · rintro ⟨dispatch, member, refusal⟩
          rcases List.mem_append.mp member with here | later
          · exact absurd refusal (accepted dispatch here)
          · exact ⟨dispatch, later, refusal⟩
        · rintro ⟨dispatch, member, refusal⟩
          exact ⟨dispatch, List.mem_append_right _ member, refusal⟩
      refine ⟨?_, ?_, ?_⟩
      · intro dispatch member
        rcases List.mem_append.mp member with here | later
        · exact sent dispatch here
        · exact (settles value).sends dispatch later
      · intro refused
        exact (settles value).closed (sameRefusals.mp refused)
      · intro notRefused
        exact (settles value).kept (notRefused ∘ sameRefusals.mpr)
  | error error =>
      have dispatches (failure : Failure) (changed : StoredFile) :
          ((Outcome.failed changed failure).after exchange.dispatch.toList).dispatches =
            exchange.dispatch.toList := List.append_nil _
      have refusedIff : error = .unauthorized ↔
          ∃ dispatch ∈ exchange.dispatch.toList, dispatch.IsRefusal := by
        have told := faithful.refused
        rw [result] at told
        simpa using told
      refine ⟨?_, ?_, ?_⟩
      · intro dispatch member
        exact sent dispatch (dispatches _ _ ▸ member)
      · rintro ⟨dispatch, member, refusal⟩
        have refused := refusedIff.mpr ⟨dispatch, dispatches _ _ ▸ member, refusal⟩
        subst refused
        rfl
      · intro notRefused
        have other : error ≠ .unauthorized := by
          intro refused
          obtain ⟨dispatch, member, refusal⟩ := refusedIff.mp refused
          exact notRefused ⟨dispatch, (dispatches _ _).symm ▸ member, refusal⟩
        exact closeSession_file_of_ne other writing file

/-! ## Commands -/

/-- A run that did without a node, or settled with the client of the configuration. -/
inductive Outcome.Administers (environment : NodeEnvironment) (writing : WriteOutcome)
    (file : StoredFile) (outcome : Outcome) : Prop where
  | silent (silent : outcome.dispatches = []) (kept : outcome.file = file)
  | settled {config : Config} (loaded : file.load = .ok config)
      (settles : outcome.Settles writing ⟨Session.resolve config environment⟩ file)

theorem withClient_administers {setting : Setting} {file : StoredFile}
    {run : Api.Client → Outcome}
    (settles : ∀ client, (run client).Settles setting.writing client file) :
    (withClient setting file run).Administers setting.environment setting.writing file := by
  unfold withClient connect
  cases loaded : file.load with
  | error error => exact .silent rfl rfl
  | ok config =>
      unfold Api.Client.ofSession
      cases validated : Endpoint.validate
          (Session.resolve config setting.environment).baseUrl with
      | error error =>
          simp only [validated]
          exact .silent rfl rfl
      | ok accepted =>
          simp only [validated]
          exact .settled loaded (settles _)

theorem runCost_administers (setting : Setting) (query : CostQuery) (file : StoredFile) :
    (runCost setting query file).Administers setting.environment setting.writing
      file := by
  unfold runCost
  split
  · exact .silent rfl rfl
  · apply withClient_administers
    intro client
    apply proceed_settles (client.getModel_faithful query.model (setting.replies 0))
    intro model
    exact .silent rfl rfl

theorem runModels_administers (setting : Setting) (provider : Option String)
    (all : Bool) (file : StoredFile) :
    (runModels setting provider all file).Administers setting.environment setting.writing
      file := by
  apply withClient_administers
  intro client
  apply proceed_settles (client.listModels_faithful (setting.replies 0))
  intro models
  exact .silent rfl rfl

theorem storeOverride_settles (setting : Setting) (client : Api.Client) (id : String)
    (change : ModelOverride) (reply : Api.Reply) (file : StoredFile) :
    (storeOverride setting client id change reply file).Settles setting.writing client
      file := by
  unfold storeOverride
  split
  · exact .silent rfl rfl
  · apply proceed_settles (client.updateModel_faithful id change reply)
    intro model
    exact .silent rfl rfl

theorem runUpdate_administers (setting : Setting) (update : ModelUpdate)
    (file : StoredFile) :
    (runUpdate setting update file).Administers setting.environment setting.writing
      file := by
  apply withClient_administers
  intro client
  dsimp only
  split
  · apply proceed_settles (client.getModel_faithful update.model (setting.replies 0))
    intro model
    apply storeOverride_settles
  · apply storeOverride_settles

theorem runProviders_administers (setting : Setting) (file : StoredFile) :
    (runProviders setting file).Administers setting.environment setting.writing
      file := by
  apply withClient_administers
  intro client
  apply proceed_settles (client.listProviders_faithful (setting.replies 0))
  intro providers
  exact .silent rfl rfl

theorem runLogs_administers (setting : Setting) (limit : Nat) (level : Option String)
    (file : StoredFile) :
    (runLogs setting limit level file).Administers setting.environment setting.writing
      file := by
  unfold runLogs
  split
  · exact .silent rfl rfl
  · apply withClient_administers
    intro client
    apply proceed_settles (client.listLogs_faithful limit level (setting.replies 0))
    intro entries
    exact .silent rfl rfl

theorem runBalance_administers (setting : Setting) (file : StoredFile) :
    (runBalance setting file).Administers setting.environment setting.writing
      file := by
  apply withClient_administers
  intro client
  apply proceed_settles (client.balances_faithful (setting.replies 0))
  intro summary
  exact .silent rfl rfl

/-- Commands about the configuration, by contrast with those about a node. -/
def Command.isConfiguring : Command → Bool
  | .configInit _ | .configCheck | .configLogin _ | .configLogout | .configSetUrl _ => true
  | .cost _ | .models _ _ | .update _ | .providers | .logs _ _ | .balance => false

theorem run_administers (surroundings : Surroundings) {invocation : Invocation}
    (administering : invocation.command.isConfiguring = false) (file : StoredFile) :
    (run surroundings invocation file).Administers surroundings.environment
      surroundings.writing file := by
  let setting := surroundings.setting invocation file
  unfold run
  cases asked : invocation.command with
  | cost query => exact runCost_administers setting query file
  | models provider all => exact runModels_administers setting provider all file
  | update update => exact runUpdate_administers setting update file
  | providers => exact runProviders_administers setting file
  | logs limit level => exact runLogs_administers setting limit level file
  | balance => exact runBalance_administers setting file
  | configInit url => simp [asked, Command.isConfiguring] at administering
  | configCheck => simp [asked, Command.isConfiguring] at administering
  | configLogin token => simp [asked, Command.isConfiguring] at administering
  | configLogout => simp [asked, Command.isConfiguring] at administering
  | configSetUrl url => simp [asked, Command.isConfiguring] at administering

theorem run_silent (surroundings : Surroundings) {invocation : Invocation}
    (configuring : invocation.command.isConfiguring = true) (file : StoredFile) :
    (run surroundings invocation file).dispatches = [] := by
  unfold run
  cases asked : invocation.command with
  | configInit url =>
      dsimp only [configInit]
      repeat' split
      all_goals rfl
  | configCheck => rfl
  | configLogin token =>
      dsimp only [configLogin]
      repeat' split
      all_goals rfl
  | configLogout =>
      dsimp only [configLogout]
      repeat' split
      all_goals rfl
  | configSetUrl url =>
      dsimp only [configSetUrl]
      repeat' split
      all_goals rfl
  | cost | models | update | providers | logs | balance =>
      rw [asked] at configuring
      cases configuring

/-- Every request of a run is made by the client of the configuration that the run
finds. -/
theorem sends_of_mem_dispatches {surroundings : Surroundings} {invocation : Invocation}
    {file : StoredFile} {dispatch : Api.Dispatch}
    (sent : dispatch ∈ (run surroundings invocation file).dispatches) :
    ∃ config, file.load = .ok config ∧
      Api.Client.Sends ⟨Session.resolve config surroundings.environment⟩ dispatch := by
  cases configuring : invocation.command.isConfiguring with
  | true =>
      rw [run_silent surroundings configuring] at sent
      exact absurd sent List.not_mem_nil
  | false =>
      cases run_administers surroundings configuring file with
      | silent silent =>
          rw [silent] at sent
          exact absurd sent List.not_mem_nil
      | settled loaded settles => exact ⟨_, loaded, settles.sends dispatch sent⟩

end NodeAdmin.CommandLine
