import NodeAdmin.Api.Request
import NodeAdmin.Proofs.Config.RoundTrip
import NodeAdmin.Proofs.Text.Ends

/-!
# Twins

Twins are two values that differ in nothing but a token.  Both have a token or neither
has, and tokens that differ are more than blanks, have no blanks around them, and fit into
a header.  Whatever is done to the configuration file of two twins ends alike for both.
-/

namespace NodeAdmin

/-- Two results that are the same failure, or two related values. -/
inductive Alike {ε α β : Type} (related : α → β → Prop) : Except ε α → Except ε β → Prop where
  | error (error : ε) : Alike related (.error error) (.error error)
  | ok {value : α} {other : β} (same : related value other) :
      Alike related (.ok value) (.ok other)

theorem Alike.bind {ε α β γ δ : Type} {related : α → β → Prop} {further : γ → δ → Prop}
    {result : Except ε α} {other : Except ε β} {next : α → Except ε γ}
    {otherNext : β → Except ε δ} (alike : Alike related result other)
    (nextAlike : ∀ value otherValue, related value otherValue →
      Alike further (next value) (otherNext otherValue)) :
    Alike further (result >>= next) (other >>= otherNext) := by
  cases alike with
  | error error => exact .error error
  | ok same => exact nextAlike _ _ same

/-- A text that can serve as a token: more than blanks, without blanks around it, and fit
for a header. -/
structure IsToken (text : String) : Prop where
  filled : Text.isAllBlank text = false
  trimmed : Text.trim text = text
  sendable : Api.isHeaderText text = true

/-- Tokens that may differ. -/
inductive TokenTwins : Option String → Option String → Prop where
  | same (token : Option String) : TokenTwins token token
  | other {token otherToken : String} (isToken : IsToken token)
      (otherIsToken : IsToken otherToken) : TokenTwins (some token) (some otherToken)

theorem TokenTwins.isSome_eq {token other : Option String} (twins : TokenTwins token other) :
    token.isSome = other.isSome := by
  cases twins <;> rfl

theorem TokenTwins.trim {token other : String} (twins : TokenTwins (some token) (some other)) :
    TokenTwins (some (Text.trim token)) (some (Text.trim other)) := by
  cases twins with
  | same => exact .same _
  | other isToken otherIsToken =>
      rw [isToken.trimmed, otherIsToken.trimmed]
      exact .other isToken otherIsToken

theorem TokenTwins.isAllBlank_eq {token other : String}
    (twins : TokenTwins (some token) (some other)) :
    Text.isAllBlank token = Text.isAllBlank other := by
  cases twins with
  | same => rfl
  | other isToken otherIsToken => rw [isToken.filled, otherIsToken.filled]

namespace Config

/-- Configurations that differ in nothing but their token. -/
structure Twins (config other : Config) : Prop where
  settings : config.settings = other.settings
  baseUrl : config.node.baseUrl = other.node.baseUrl
  token : TokenTwins config.node.token other.node.token

theorem Twins.refl (config : Config) : config.Twins config := ⟨rfl, rfl, .same _⟩

theorem Twins.hasToken_eq {config other : Config} (twins : config.Twins other) :
    config.hasToken = other.hasToken := twins.token.isSome_eq

theorem Twins.clearToken {config other : Config} (twins : config.Twins other) :
    config.clearToken.Twins other.clearToken :=
  ⟨twins.settings, twins.baseUrl, .same none⟩

theorem Twins.setToken {config other : Config} (twins : config.Twins other)
    {token otherToken : String} (tokens : TokenTwins (some token) (some otherToken)) :
    (config.setToken token).Twins (other.setToken otherToken) :=
  ⟨twins.settings, twins.baseUrl, tokens⟩

theorem Twins.setBaseUrl {config other : Config} (twins : config.Twins other)
    (baseUrl : String) : (config.setBaseUrl baseUrl).Twins (other.setBaseUrl baseUrl) :=
  ⟨twins.settings, rfl, twins.token⟩

/-- Nothing that is wrong with a configuration is wrong with its token alone. -/
theorem Twins.issues_eq {config other : Config} (twins : config.Twins other) :
    config.issues = other.issues := by
  obtain ⟨settings, baseUrl, token⟩ := config
  obtain ⟨otherSettings, otherBaseUrl, otherToken⟩ := other
  obtain ⟨sameSettings, sameBaseUrl, tokens⟩ := twins
  dsimp only at sameSettings sameBaseUrl tokens
  subst sameSettings sameBaseUrl
  cases tokens with
  | same => rfl
  | other isToken otherIsToken => simp [issues, isToken.filled, otherIsToken.filled]

end Config

namespace StoredFile

/-- Files that can be read to configurations that differ in nothing but their token: the
same file, or two texts. -/
structure Twins (file other : StoredFile) : Prop where
  alike : file = other ∨ ∃ content otherContent, file = .text content ∧ other = .text otherContent
  configs : ∃ config otherConfig, file.load = .ok config ∧ other.load = .ok otherConfig ∧
    config.Twins otherConfig

theorem Twins.load {file other : StoredFile} (twins : file.Twins other) :
    Alike Config.Twins file.load other.load := by
  obtain ⟨config, otherConfig, loaded, otherLoaded, configTwins⟩ := twins.configs
  rw [loaded, otherLoaded]
  exact .ok configTwins

theorem Twins.settings_eq {file other : StoredFile} (twins : file.Twins other) :
    file.settings = other.settings := by
  obtain ⟨config, otherConfig, loaded, otherLoaded, configTwins⟩ := twins.configs
  rw [StoredFile.settings, StoredFile.settings, loaded, otherLoaded]
  exact configTwins.settings

theorem Twins.isPresent_eq {file other : StoredFile} (twins : file.Twins other) :
    file.isPresent = other.isPresent := by
  rcases twins.alike with rfl | ⟨content, otherContent, rfl, rfl⟩ <;> rfl

/-- Twins are written to twins alike. -/
theorem Twins.save {file other : StoredFile} (twins : file.Twins other)
    (writing : WriteOutcome) {config otherConfig : Config}
    (configTwins : config.Twins otherConfig) :
    Alike Twins (file.save writing config) (other.save writing otherConfig) := by
  have saved : (StoredFile.text config.toText).Twins (.text otherConfig.toText) :=
    ⟨.inr ⟨_, _, rfl, rfl⟩, config, otherConfig, load_toText config, load_toText otherConfig,
      configTwins⟩
  cases writing with
  | refused problem => exact .error _
  | carriedOut =>
      rcases twins.alike with rfl | ⟨content, otherContent, rfl, rfl⟩
      · cases file with
        | blocked => exact .error _
        | directory => exact .error _
        | absent | text _ | bytes _ => exact .ok saved
      · exact .ok saved

end StoredFile

end NodeAdmin
