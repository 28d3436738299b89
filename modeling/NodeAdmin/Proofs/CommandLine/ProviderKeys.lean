import NodeAdmin.Proofs.CommandLine.JsonAnswers

/-!
# Keys of providers

Of the key of a provider, the text for the operator only tells whether there is one.  An answer
in JSON repeats the key as the node sent it, so that two such answers are the same just when all
keys are.
-/

namespace NodeAdmin

/-- Providers that differ at most in the text of keys that both have. -/
inductive Provider.KeyTwins : Provider → Provider → Prop where
  | same (provider : Provider) : KeyTwins provider provider
  | keys (provider : Provider) {key other : String} (filled : key.isEmpty = false)
      (otherFilled : other.isEmpty = false) :
      KeyTwins { provider with apiKey := some key } { provider with apiKey := some other }

/-! ## Texts for the operator -/

theorem Provider.KeyTwins.providerLine_eq {provider other : Provider}
    (twins : provider.KeyTwins other) (colour : Bool) :
    Console.providerLine colour provider = Console.providerLine colour other := by
  cases twins with
  | same => rfl
  | keys provider filled otherFilled =>
      simp only [Console.providerLine, Provider.hasApiKey, filled, otherFilled]

theorem renderProviders_eq {providers others : List Provider}
    (twins : List.Forall₂ Provider.KeyTwins providers others) (colour : Bool) :
    Console.renderProviders colour providers = Console.renderProviders colour others := by
  have lines : providers.map (Console.providerLine colour) =
      others.map (Console.providerLine colour) := by
    induction twins with
    | nil => rfl
    | cons front _ induction =>
        rw [List.map_cons, List.map_cons, front.providerLine_eq, induction]
  have empty : providers.isEmpty = others.isEmpty := by
    cases twins <;> rfl
  rw [Console.renderProviders, Console.renderProviders, empty, lines]

/-! ## Documents -/

/-- The tree of a provider tells its key. -/
theorem Provider.KeyTwins.eq_of_tree {provider other : Provider} (twins : provider.KeyTwins other)
    (trees : provider.toJson.document.tree = other.toJson.document.tree) : provider = other := by
  cases twins with
  | same => rfl
  | @keys provider key other =>
      have same : key = other := by
        simpa [Provider.toJson, Json.optional, Json.document, Json.Document.tree] using trees
      rw [same]

theorem eq_of_trees {providers others : List Provider}
    (twins : List.Forall₂ Provider.KeyTwins providers others)
    (trees : (Json.array (providers.map Provider.toJson)).document.tree =
      (Json.array (others.map Provider.toJson)).document.tree) : providers = others := by
  simp only [Json.document, Json.Document.tree, List.map_map, Json.Tree.array.injEq] at trees
  replace trees := trees.1
  induction twins with
  | nil => rfl
  | cons front _ induction =>
      rw [List.map_cons, List.map_cons, List.cons.injEq] at trees
      rw [front.eq_of_tree trees.1, induction trees.2]

/-! ## Answers -/

namespace CommandLine

variable {surroundings : Surroundings} {invocation : Invocation} {file : StoredFile}
  {client : Api.Client} {providers others : List Provider}

theorem run_providers_standardOutput (asked : invocation.command = .providers)
    (connected : connect surroundings.environment file = .ok client)
    (found : (client.listProviders (surroundings.replies 0)).result = .ok providers) :
    (run surroundings invocation file).standardOutput =
      present (outputOptions surroundings invocation file)
        (Console.renderProviders (outputOptions surroundings invocation file).colour providers)
        (.array (providers.map Provider.toJson)) := by
  simp only [run, asked, Surroundings.setting, runProviders, withClient, connected, proceed, found]
  rfl

/-- Two replies to the command for providers that differ in keys only.  The texts for the
operator are the same, and the documents are the same just when the keys are. -/
theorem run_providers_keyTwins (asked : invocation.command = .providers)
    (connected : connect surroundings.environment file = .ok client)
    (found : (client.listProviders (surroundings.replies 0)).result = .ok providers)
    {otherReplies : Nat → Api.Reply}
    (otherFound : (client.listProviders (otherReplies 0)).result = .ok others)
    (twins : List.Forall₂ Provider.KeyTwins providers others) :
    ((outputOptions surroundings invocation file).format = .text →
      (run surroundings invocation file).standardOutput =
        (run { surroundings with replies := otherReplies } invocation file).standardOutput) ∧
    ((outputOptions surroundings invocation file).format = .json →
      ((run surroundings invocation file).standardOutput =
          (run { surroundings with replies := otherReplies } invocation file).standardOutput ↔
        providers = others)) := by
  have one := run_providers_standardOutput asked connected found
  have another :
      (run { surroundings with replies := otherReplies } invocation file).standardOutput =
        present (outputOptions surroundings invocation file)
          (Console.renderProviders (outputOptions surroundings invocation file).colour others)
          (.array (others.map Provider.toJson)) :=
    run_providers_standardOutput asked connected otherFound
  rw [one, another]
  constructor
  · intro format
    simp only [present, format, renderProviders_eq twins]
  · intro format
    simp only [present, format]
    constructor
    · intro lines
      exact eq_of_trees twins (Json.tree_eq_of_line lines)
    · rintro rfl
      rfl

def keyProvider (key : String) : Provider :=
  ⟨1, "openai", "https://api.openai.com/v1", true, some key, none⟩

/-- The reply of a node with one provider that has a key. -/
def keyReply (key : String) : Api.Reply :=
  .answered 200
    ((Json.array [(keyProvider key).toJson]).compact.toList.flatMap Text.encodeCharacter)

def keyClient : Api.Client := ⟨⟨"https://node.example", some "secret", .environment⟩⟩

def keySurroundings (key : String) : Surroundings where
  path := "config.toml"
  environment := ⟨some "https://node.example", some "secret"⟩
  destination := ⟨false, false⟩
  replies := fun _ => keyReply key

def providersInvocation (json : Bool) : Invocation :=
  ⟨.providers, none, json, false, false, false⟩

theorem keyClient_connected (key : String) :
    connect (keySurroundings key).environment .absent = .ok keyClient := by
  change connect ⟨some "https://node.example", some "secret"⟩ .absent = _
  decide +kernel

theorem keyClient_found : ∀ key ∈ ["sk-1111", "sk-2222"],
    (keyClient.listProviders (keyReply key)).result = .ok [keyProvider key] := by
  decide +kernel

theorem keyProviders_twins :
    List.Forall₂ Provider.KeyTwins [keyProvider "sk-1111"] [keyProvider "sk-2222"] :=
  .cons (.keys (keyProvider "sk-1111") (by decide) (by decide)) .nil

theorem run_providers_keyTwins_openai :
    (run (keySurroundings "sk-1111") (providersInvocation false) .absent).standardOutput =
        (run (keySurroundings "sk-2222") (providersInvocation false) .absent).standardOutput ∧
      ((run (keySurroundings "sk-1111") (providersInvocation true) .absent).standardOutput =
          (run (keySurroundings "sk-2222") (providersInvocation true) .absent).standardOutput ↔
        [keyProvider "sk-1111"] = [keyProvider "sk-2222"]) := by
  have connected := keyClient_connected "sk-1111"
  have found := keyClient_found "sk-1111" (by decide)
  have otherFound := keyClient_found "sk-2222" (by decide)
  have asked (json : Bool) : (providersInvocation json).command = .providers := rfl
  constructor
  · exact (run_providers_keyTwins (asked false) connected found otherFound
      keyProviders_twins).1 rfl
  · exact (run_providers_keyTwins (asked true) connected found otherFound
      keyProviders_twins).2 rfl

/-- Two replies that differ in a key only and are not printed alike. -/
theorem providers_json_shows_key :
    (keyClient.listProviders ((keySurroundings "sk-1111").replies 0)).result =
        .ok [keyProvider "sk-1111"] ∧
      (keyClient.listProviders ((keySurroundings "sk-2222").replies 0)).result =
        .ok [keyProvider "sk-2222"] ∧
      List.Forall₂ Provider.KeyTwins [keyProvider "sk-1111"] [keyProvider "sk-2222"] ∧
      (run (keySurroundings "sk-1111") (providersInvocation true) .absent).standardOutput ≠
        (run (keySurroundings "sk-2222") (providersInvocation true) .absent).standardOutput := by
  have found := keyClient_found "sk-1111" (by decide)
  have otherFound := keyClient_found "sk-2222" (by decide)
  refine ⟨found, otherFound, keyProviders_twins, ?_⟩
  rw [run_providers_standardOutput rfl (keyClient_connected "sk-1111") found,
    run_providers_standardOutput rfl (keyClient_connected "sk-2222") otherFound]
  decide +kernel

end CommandLine

end NodeAdmin
