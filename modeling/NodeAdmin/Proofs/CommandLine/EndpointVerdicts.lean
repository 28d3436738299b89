import NodeAdmin.Proofs.Api.TokenReach
import NodeAdmin.Proofs.CommandLine.Revision
import NodeAdmin.Proofs.Session.Endpoint

/-!
# Verdicts on the address of a node

An address is judged when it is stored, when the configuration is checked, and when a client is
made for it.  The first two look at the text as it was given and as it is stored, the last one at
the text without the slashes at its end.  They agree about every address that is more than its
scheme.
-/

namespace NodeAdmin

namespace Config

/-- Whether the check of a configuration has something to say about the address of its node. -/
def ReportsAddress (config : Config) : Prop :=
  ∃ issue ∈ config.issues, "Invalid base_url: ".toList <+: issue.toList

/-- Whether a client can be made for a configuration. -/
def OpensClient (config : Config) (environment : NodeEnvironment) : Prop :=
  ∃ client, Api.Client.ofSession (Session.resolve config environment) = .ok client

/-- The check has something to say about an address just when it is not accepted. -/
theorem reportsAddress_iff (config : Config) :
    config.ReportsAddress ↔ ¬ Endpoint.isSafe config.node.baseUrl = true := by
  constructor
  · rintro ⟨issue, member, starts⟩ safe
    unfold issues at member
    rw [CommandLine.validate_of_isSafe safe] at member
    simp only [List.append_nil, List.mem_append] at member
    rcases member with (format | colour) | token
    · split at format
      · cases format
      · rw [List.mem_singleton.mp format] at starts
        simp [toString] at starts
    · split at colour
      · cases colour
      · rw [List.mem_singleton.mp colour] at starts
        simp [toString] at starts
    · split at token
      · split at token
        · rw [List.mem_singleton.mp token] at starts
          exact absurd starts (by decide)
        · cases token
      · cases token
  · intro rejected
    refine ⟨s!"Invalid base_url: {(EndpointError.insecure config.node.baseUrl).message}", ?_, ?_⟩
    · unfold issues
      rw [CommandLine.validate_of_not_isSafe rejected]
      simp
    · simp [toString]

/-- A client is made for an address just when it is accepted without the slashes at its end. -/
theorem opensClient_iff (config : Config) {environment : NodeEnvironment}
    (unset : Session.meaningful environment.url = none) :
    config.OpensClient environment ↔
      Endpoint.isSafe (Text.dropTrailingSlashes config.node.baseUrl) = true := by
  have address : (Session.resolve config environment).baseUrl =
      Text.dropTrailingSlashes config.node.baseUrl := by
    rw [Session.resolve, unset, Option.getD_none]
  rw [← address]
  constructor
  · rintro ⟨client, accepted⟩
    exact (Api.Client.ofSession_eq_ok accepted).2
  · intro safe
    refine ⟨⟨Session.resolve config environment⟩, ?_⟩
    rw [Api.Client.ofSession, CommandLine.validate_of_isSafe safe]

end Config

namespace CommandLine

/-- The commands that store an address: the one that points to another node, and the one that
starts a configuration where there is none. -/
inductive Command.StoresAddress (address : String) (file : StoredFile) : Command → Prop where
  | pointed : StoresAddress address file (.configSetUrl address)
  | started (free : file.isPresent = false) :
      StoresAddress address file (.configInit (some address))

section

variable {writing : WriteOutcome} {path address : String} {file : StoredFile}

/-- What a run that stored an address leaves behind. -/
def Outcome.Holds (address : String) (outcome : Outcome) : Prop :=
  ∃ config, outcome.file.load = .ok config ∧
    config.node.baseUrl = Text.dropTrailingSlashes address

theorem configSetUrl_holds (succeeded : (configSetUrl writing path address file).exitCode = 0) :
    Endpoint.isSafe address = true ∧ (configSetUrl writing path address file).Holds address := by
  by_cases safe : Endpoint.isSafe address = true
  · refine ⟨safe, ?_⟩
    unfold configSetUrl at succeeded ⊢
    rw [validate_of_isSafe safe] at succeeded ⊢
    cases loaded : file.load with
    | error error =>
        rw [loaded] at succeeded
        cases succeeded
    | ok config =>
        rw [loaded] at succeeded
        dsimp only at succeeded ⊢
        cases written : file.save writing
            (pointTo (Text.dropTrailingSlashes address) config) with
        | error error =>
            rw [written] at succeeded
            cases succeeded
        | ok saved =>
            refine ⟨_, StoredFile.load_save written, ?_⟩
            rw [pointTo_eq]
  · rw [configSetUrl, validate_of_not_isSafe safe] at succeeded
    cases succeeded

theorem configInit_holds (free : file.isPresent = false)
    (succeeded : (configInit writing path (some address) file).exitCode = 0) :
    Endpoint.isSafe address = true ∧
      (configInit writing path (some address) file).Holds address := by
  unfold configInit at succeeded ⊢
  rw [free, if_neg Bool.false_ne_true] at succeeded ⊢
  by_cases safe : Endpoint.isSafe address = true
  · refine ⟨safe, ?_⟩
    have checked : ((some address).mapM fun url =>
        (Endpoint.validate url).map fun _ => url) = .ok (some address) := by
      simp [validate_of_isSafe safe, Except.map]
    rw [checked] at succeeded ⊢
    dsimp only at succeeded ⊢
    cases written : file.save writing
        (Config.standard.setBaseUrl (Text.dropTrailingSlashes address)) with
    | error error =>
        rw [written] at succeeded
        cases succeeded
    | ok saved => exact ⟨_, StoredFile.load_save written, rfl⟩
  · have refused : ((some address).mapM fun url =>
        (Endpoint.validate url).map fun _ => url) = .error (.insecure address) := by
      simp [validate_of_not_isSafe safe, Except.map]
    rw [refused] at succeeded
    cases succeeded

end

variable {surroundings : Surroundings} {invocation : Invocation} {file : StoredFile}
  {address : String}

/-- An address that a run stored was accepted as it was given, and is loaded again without the
slashes at its end. -/
theorem run_holds_address (stores : invocation.command.StoresAddress address file)
    (succeeded : (run surroundings invocation file).exitCode = 0) :
    Endpoint.isSafe address = true ∧ (run surroundings invocation file).Holds address := by
  unfold run at succeeded ⊢
  generalize invocation.command = command at *
  cases stores with
  | pointed => exact configSetUrl_holds succeeded
  | started free => exact configInit_holds free succeeded

/-- The check of a configuration and the maker of clients agree about every address that is more
than its scheme, and about no other.  An address that a run stored is accepted where it is used,
by the check and by the maker of clients, just when it is more than its scheme. -/
theorem endpoint_verdicts_agree_iff {environment : NodeEnvironment}
    (unset : Session.meaningful environment.url = none) :
    (∀ config : Config, (¬ config.ReportsAddress ↔ config.OpensClient environment) ↔
      ¬ Endpoint.IsSchemeAlone config.node.baseUrl) ∧
    ∀ surroundings invocation file address,
      invocation.command.StoresAddress address file →
      (run surroundings invocation file).exitCode = 0 →
      ∃ config, (run surroundings invocation file).file.load = .ok config ∧
        (Endpoint.isSafe config.node.baseUrl = true ↔ ¬ Endpoint.IsSchemeAlone address) ∧
        (¬ config.ReportsAddress ↔ ¬ Endpoint.IsSchemeAlone address) ∧
        (config.OpensClient environment ↔ ¬ Endpoint.IsSchemeAlone address) := by
  constructor
  · intro config
    rw [config.reportsAddress_iff, not_not, config.opensClient_iff unset,
      Endpoint.isSafe_dropTrailingSlashes]
    constructor
    · rintro agree ⟨rest, secure, alone⟩
      have accepted := agree.mp (Endpoint.isSafe_of_https secure)
      exact accepted.2 ⟨rest, secure, alone⟩
    · intro more
      exact ⟨fun safe => ⟨safe, more⟩, And.left⟩
  · intro surroundings invocation file address stores succeeded
    obtain ⟨safe, config, loaded, stored⟩ := run_holds_address stores succeeded
    have accepted : Endpoint.isSafe (Text.dropTrailingSlashes address) = true ↔
        ¬ Endpoint.IsSchemeAlone address := by
      rw [Endpoint.isSafe_dropTrailingSlashes]
      exact and_iff_right safe
    refine ⟨config, loaded, ?_, ?_, ?_⟩
    · rw [stored, accepted]
    · rw [config.reportsAddress_iff, not_not, stored, accepted]
    · rw [config.opensClient_iff unset, stored, Text.dropTrailingSlashes_twice, accepted]

/-- A run that points the tool to an address, with nothing in the environment. -/
def pointingRun (address : String) : Outcome :=
  run ⟨"config.toml", ⟨none, none⟩, ⟨false, false⟩, fun _ => .failed [], .carriedOut⟩
    ⟨.configSetUrl address, none, false, false, false, false⟩ .absent

theorem endpoint_verdicts_agree_iff_localNode :
    Session.meaningful (⟨none, none⟩ : NodeEnvironment).url = none ∧
      (pointingRun "http://localhost:8000//").exitCode = 0 ∧
      ∃ config, (pointingRun "http://localhost:8000//").file.load = .ok config ∧
        ¬ config.ReportsAddress ∧ config.OpensClient ⟨none, none⟩ := by
  have unset : Session.meaningful (⟨none, none⟩ : NodeEnvironment).url = none := rfl
  have succeeded : (pointingRun "http://localhost:8000//").exitCode = 0 := by decide +kernel
  have more : ¬ Endpoint.IsSchemeAlone "http://localhost:8000//" := by
    rintro ⟨rest, secure, -⟩
    cases secure
  obtain ⟨config, loaded, -, reports, opens⟩ :=
    (endpoint_verdicts_agree_iff unset).2 _ _ _ _ .pointed succeeded
  exact ⟨unset, succeeded, config, loaded, reports.mpr more, opens.mpr more⟩

/-- The scheme alone is stored without complaint, and what is stored is then complained about and
refused.  In a configuration that was not stored by a run, the check passes it and no client is
made for it. -/
theorem scheme_alone_is_stored :
    (∃ config, (pointingRun "https://").exitCode = 0 ∧
      (pointingRun "https://").file.load = .ok config ∧
      config.ReportsAddress ∧ ¬ config.OpensClient ⟨none, none⟩) ∧
      ¬ (Config.standard.setBaseUrl "https://").ReportsAddress ∧
      ¬ (Config.standard.setBaseUrl "https://").OpensClient ⟨none, none⟩ := by
  have unset : Session.meaningful (⟨none, none⟩ : NodeEnvironment).url = none := rfl
  have kept : Text.dropTrailingSlashes "https://" = "https:" := by decide
  have refused : ¬ Endpoint.isSafe "https:" = true := by decide
  refine ⟨?_, ?_, ?_⟩
  · have succeeded : (pointingRun "https://").exitCode = 0 := by decide +kernel
    obtain ⟨-, config, loaded, stored⟩ := run_holds_address .pointed succeeded
    refine ⟨config, succeeded, loaded, ?_, ?_⟩
    · rw [config.reportsAddress_iff, stored, kept]
      exact refused
    · rw [config.opensClient_iff unset, stored, Text.dropTrailingSlashes_twice, kept]
      exact refused
  · rw [Config.reportsAddress_iff, not_not]
    have nothing : "https://".toList = "https://".toList ++ [] := rfl
    exact Endpoint.isSafe_of_https nothing
  · rw [Config.opensClient_iff _ unset]
    exact kept.symm ▸ refused

end CommandLine

end NodeAdmin
