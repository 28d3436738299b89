import NodeAdmin.Proofs.Console.StyleSequences

/-!
# Colour

Colour adds style sequences to the answers for the operator and nothing else.  Without these
sequences every line of a coloured answer is the line of the plain answer, its padding included.
-/

namespace NodeAdmin

/-! ## Strings that are shown as they are -/

def Model.shownStrings (model : Model) : List String := model.id :: model.name.toList

def CostReport.shownStrings (report : CostReport) : List String :=
  report.model.shownStrings ++ report.breakdown :: report.validation.message.toList

def ProviderGroup.shownStrings (group : ProviderGroup) : List String :=
  group.provider :: group.models.flatMap Model.shownStrings

def Provider.shownStrings (provider : Provider) : List String := [provider.kind, provider.baseUrl]

/-- The strings of a member that an entry does not know; those inside a value are escaped. -/
def LogEntry.memberStrings (member : String × Json) : List String :=
  match member.2 with
  | .string value => [member.1, value]
  | _ => [member.1]

def LogEntry.shownStrings (entry : LogEntry) : List String :=
  entry.level.toList ++ entry.message :: (entry.name.toList ++ entry.requestId.toList ++
    entry.extra.flatMap memberStrings)

def MintBalance.shownStrings (mint : MintBalance) : List String :=
  mint.mintUrl :: mint.unit :: mint.error.toList

def BalanceSummary.shownStrings (summary : BalanceSummary) : List String :=
  summary.unit :: summary.mints.flatMap MintBalance.shownStrings

namespace Console

open Text

/-! ## Answers -/

/-- Whether no string has an escape in it. -/
def Unstyled (strings : List String) : Prop :=
  ∀ string ∈ strings, escapeCharacter ∉ string.toList

section Lines

variable {α : Type} {values : List α}

theorem Unstyled.of_mem {strings : α → List String} (unstyled : Unstyled (values.flatMap strings))
    {value : α} (inside : value ∈ values) : Unstyled (strings value) :=
  fun string shown => unstyled string (List.mem_flatMap.mpr ⟨value, inside, shown⟩)

theorem colours_map {line plainLine : α → String}
    (each : ∀ value ∈ values, Colours (line value) (plainLine value)) :
    List.Forall₂ Colours (values.map line) (values.map plainLine) := by
  rw [List.forall₂_map_left_iff, List.forall₂_map_right_iff, List.forall₂_same]
  exact each

theorem colours_flatMap {lines plainLines : α → List String}
    (each : ∀ value ∈ values, List.Forall₂ Colours (lines value) (plainLines value)) :
    List.Forall₂ Colours (values.flatMap lines) (values.flatMap plainLines) := by
  induction values with
  | nil => exact .nil
  | cons value values induction =>
      obtain ⟨first, others⟩ := List.forall_mem_cons.mp each
      exact List.rel_append first (induction others)

end Lines

/-- A label behind its indent. -/
theorem label_colours {indent label : String} (style : Style)
    (plainIndent : escapeCharacter ∉ indent.toList) (plain : escapeCharacter ∉ label.toList) :
    Colours (indent ++ styled true style label) (indent ++ styled false style label) :=
  (Colours.of_plain plainIndent).append (.styled style plain)

theorem enabledMark_colours (enabled : Bool) :
    Colours (enabledMark true enabled) (enabledMark false enabled) := by
  cases enabled with
  | true => exact .styled .green (by decide)
  | false => exact .styled .dimmed (by decide)

theorem cost_colours (value : Double) : Colours (Amount.cost value) (Amount.cost value) :=
  .of_printable (Amount.isPrintable_cost value)

theorem price_colours (price : Double) :
    Colours (Amount.pricePerMillion price) (Amount.pricePerMillion price) :=
  .of_printable (Amount.isPrintable_pricePerMillion price)

theorem tokens_colours (count : UInt64) : Colours (Amount.tokens count) (Amount.tokens count) :=
  .of_printable (Amount.isPrintable_tokens count)

theorem balance_colours (amount : Int64) {unit : String}
    (plain : escapeCharacter ∉ unit.toList) :
    Colours (Amount.balance amount unit) (Amount.balance amount unit) := by
  obtain ⟨figures, printable, same⟩ := Amount.balance_eq_append amount unit
  rw [same]
  exact (Colours.of_printable printable).append (.of_plain plain)

/-! ### Models -/

section Models

variable {model : Model}

theorem displayName_unstyled (unstyled : Unstyled model.shownStrings) :
    escapeCharacter ∉ model.displayName.toList := by
  apply unstyled
  rw [Model.displayName, Model.shownStrings]
  split
  · rename_i name isName
    split
    · exact List.mem_cons_self
    · rw [isName]
      exact List.mem_cons_of_mem _ List.mem_cons_self
  · exact List.mem_cons_self

theorem negativeIssue_unstyled {id field : String} (plain : escapeCharacter ∉ id.toList)
    (plainField : escapeCharacter ∉ field.toList) (value : Double) :
    Unstyled (Model.negativeIssue id field value) := by
  rw [Model.negativeIssue]
  split
  · have issue := plain_append (plain_append (plain_append (plain_append
      (by decide : escapeCharacter ∉ "Model '".toList) plain)
      (by decide : escapeCharacter ∉ "': negative ".toList)) plainField)
      (by decide : escapeCharacter ∉ " ".toList)
    have shown : escapeCharacter ∉ value.plainText.toList :=
      (Double.isPrintable_plainText value).not_mem (by decide)
    exact List.forall_mem_singleton.mpr (plain_append issue shown)
  · exact List.forall_mem_nil _

theorem pricingIssues_unstyled (unstyled : Unstyled model.shownStrings) :
    Unstyled model.pricingIssues := by
  have plain := unstyled model.id List.mem_cons_self
  have length (value : Int) : escapeCharacter ∉
      (s!"Model '{model.id}': contextLength is {value}, " ++
        "using the 1000-token default").toList :=
    plain_append (plain_append (plain_append (plain_append (plain_append (by decide) plain)
      (by decide)) ((isPrintable_intText value).not_mem (by decide))) (by decide)) (by decide)
  simp only [Unstyled, Model.pricingIssues, List.forall_mem_append]
  refine ⟨⟨⟨?_, ?_⟩, ?_⟩, ?_⟩
  · exact negativeIssue_unstyled plain (by decide) _
  · exact negativeIssue_unstyled plain (by decide) _
  · exact negativeIssue_unstyled plain (by decide) _
  · split
    · split
      · exact List.forall_mem_singleton.mpr (length _)
      · exact List.forall_mem_nil _
    · exact List.forall_mem_nil _

/-- The lines about the issues of a model. -/
theorem issues_colours {indent : String} (plainIndent : escapeCharacter ∉ indent.toList)
    (unstyled : Unstyled model.shownStrings) :
    List.Forall₂ Colours
      (model.pricingIssues.map fun issue => indent ++ styled true .red issue)
      (model.pricingIssues.map fun issue => indent ++ styled false .red issue) :=
  colours_map fun issue inside =>
    label_colours .red plainIndent (pricingIssues_unstyled unstyled issue inside)

theorem modelLine_colours (width : Nat) (unstyled : Unstyled model.shownStrings) :
    Colours (modelLine true width model) (modelLine false width model) := by
  have name : escapeCharacter ∉
      (String.ofList (padRight width model.displayName.toList)).toList := by
    rw [String.toList_ofList]
    exact padRight_plain width (displayName_unstyled unstyled)
  unfold modelLine
  dsimp only
  refine (Colours.of_plain (by decide)).append (enabledMark_colours model.enabled)
    |>.append (.of_plain (by decide)) |>.append (.of_plain name)
    |>.append (.of_plain (by decide)) |>.append (.styled .cyan (by decide))
    |>.append (.of_plain (by decide)) |>.append (price_colours model.inputPrice)
    |>.append (.of_plain (by decide)) |>.append (.styled .cyan (by decide))
    |>.append (.of_plain (by decide)) |>.append (price_colours model.outputPrice)
    |>.append (.of_plain (by decide)) |>.append (.styled .cyan (by decide))
    |>.append (.of_plain (by decide)) |>.append (cost_colours model.minimumCharge)
    |>.append ?_
  split
  · exact (label_colours .cyan (by decide) (by decide)).append (.of_plain (by decide))
      |>.append (tokens_colours _)
  · exact .of_plain List.not_mem_nil

end Models

theorem groupLines_colours {group : ProviderGroup} (unstyled : Unstyled group.shownStrings) :
    List.Forall₂ Colours (groupLines true group) (groupLines false group) := by
  obtain ⟨plain, models⟩ := List.forall_mem_cons.mp unstyled
  have each : ∀ model ∈ group.models, Unstyled model.shownStrings :=
    fun _ inside => Unstyled.of_mem models inside
  unfold groupLines
  dsimp only
  refine .cons (.styled .bold ?_) (colours_flatMap fun model inside => ?_)
  · refine plain_append (plain_append (plain_append (plain_append (plain_append (plain_append
      (by decide) plain) (by decide)) ?_) (by decide)) ?_) (by decide)
    · exact (isPrintable_natText _).not_mem (by decide)
    · split <;> decide
  · exact .cons (modelLine_colours _ (each model inside))
      (issues_colours (by decide) (each model inside))

theorem renderModelGroups_colours {groups : List ProviderGroup}
    (unstyled : Unstyled (groups.flatMap ProviderGroup.shownStrings)) :
    Colours (renderModelGroups true groups) (renderModelGroups false groups) := by
  unfold renderModelGroups
  split
  · exact .of_plain (by decide)
  · refine .join (by decide) (colours_map fun group inside => .join (by decide) ?_)
    exact groupLines_colours (unstyled.of_mem inside)

/-! ### Costs -/

theorem pricesLine_colours (model : Model) :
    Colours (pricesLine true model) (pricesLine false model) := by
  have price (value : Double) :=
    (price_colours value).append (.of_plain (by decide : escapeCharacter ∉ " (".toList))
      |>.append (cost_colours (perMillionToPerToken value))
      |>.append (.of_plain (by decide : escapeCharacter ∉ "/token)".toList))
  unfold pricesLine
  exact (label_colours .cyan (by decide) (by decide)).append (.of_plain (by decide))
    |>.append (price model.inputPrice) |>.append (.of_plain (by decide))
    |>.append (price model.outputPrice)

theorem costLine_colours (charge : Charge) :
    Colours (costLine true charge) (costLine false charge) := by
  unfold costLine
  dsimp only
  refine (label_colours .cyan (by decide) (by decide)).append (.of_plain (by decide))
    |>.append (cost_colours charge.finalCost) |>.append ?_
  split
  · exact label_colours .yellow (by decide) (by decide)
  · exact .of_plain List.not_mem_nil

theorem minimumLines_colours (report : CostReport) :
    List.Forall₂ Colours (minimumLines true report) (minimumLines false report) := by
  unfold minimumLines
  dsimp only
  split
  · refine .cons ?_ (.cons ?_ .nil)
    · exact (label_colours .cyan (by decide) (by decide)).append (.of_plain (by decide))
        |>.append (cost_colours _) |>.append (.of_plain (by decide))
        |>.append (cost_colours _) |>.append (.of_plain (by decide))
    · exact (label_colours .cyan (by decide) (by decide)).append (.of_plain (by decide))
        |>.append (tokens_colours _) |>.append (.of_plain (by decide))
        |>.append (tokens_colours _) |>.append (.of_plain (by decide))
        |>.append (tokens_colours _) |>.append (.of_plain (by decide))
        |>.append (tokens_colours _) |>.append (.of_plain (by decide))
  · exact .nil

theorem renderCost_colours {report : CostReport} (unstyled : Unstyled report.shownStrings) :
    Colours (renderCost true report) (renderCost false report) := by
  obtain ⟨model, others⟩ := List.forall_mem_append.mp unstyled
  obtain ⟨breakdown, messages⟩ := List.forall_mem_cons.mp others
  have title : escapeCharacter ∉ (" " ++ report.model.displayName).toList :=
    plain_append (by decide) (displayName_unstyled model)
  have tokens := label_colours .cyan (by decide : _ ∉ "  ".toList) (by decide : _ ∉ "Tokens".toList)
    |>.append (.of_plain (by decide : _ ∉ "    ".toList))
    |>.append (tokens_colours report.inputTokens)
    |>.append (.of_plain (by decide : _ ∉ " in / ".toList))
    |>.append (tokens_colours report.outputTokens)
    |>.append (.of_plain (by decide : _ ∉ " out".toList))
  have front := List.Forall₂.cons (Colours.styled .bold title) (.cons tokens
    (.cons (pricesLine_colours report.model) (.cons (costLine_colours report.charge) .nil)))
  unfold renderCost
  refine .join (by decide) (List.rel_append (List.rel_append (List.rel_append (List.rel_append
    front ?_) (minimumLines_colours report)) ?_) (issues_colours (by decide) model))
  · split
    · exact .nil
    · exact .cons ((label_colours .cyan (by decide) (by decide)).append (.of_plain (by decide))
        |>.append (.of_plain breakdown)) .nil
  · exact colours_map fun message inside =>
      label_colours .dimmed (by decide) (messages message inside)

/-! ### Providers -/

theorem providerLine_colours {provider : Provider} (unstyled : Unstyled provider.shownStrings) :
    Colours (providerLine true provider) (providerLine false provider) := by
  have kind : escapeCharacter ∉ provider.kind.toList := unstyled _ List.mem_cons_self
  have baseUrl : escapeCharacter ∉ provider.baseUrl.toList :=
    unstyled _ (List.mem_cons_of_mem _ List.mem_cons_self)
  have id : IsPrintable
      (String.ofList (padLeft 3 (Json.integerText provider.id.toInt))).toList := by
    rw [String.toList_ofList]
    refine .append ?_ (Json.isNumber_integerText _).isPrintable
    intro character blank
    rw [List.eq_of_mem_replicate blank]
    decide
  unfold providerLine
  dsimp only
  refine (Colours.of_plain (by decide)).append (enabledMark_colours provider.enabled)
    |>.append (.of_plain (by decide)) |>.append (.of_printable id)
    |>.append (.of_plain (by decide)) |>.append (.styledTo 12 (some .bold) kind)
    |>.append (.of_plain (by decide)) |>.append (.of_plain baseUrl)
    |>.append (.of_plain (by decide)) |>.append ?_ |>.append ?_
  · split
    · exact .of_plain (by decide)
    · exact .styled .red (by decide)
  · split
    · exact (Colours.of_plain (by decide)).append (.of_printable (Amount.isPrintable_fixedText _ _))
    · exact .of_plain List.not_mem_nil

theorem renderProviders_colours {providers : List Provider}
    (unstyled : Unstyled (providers.flatMap Provider.shownStrings)) :
    Colours (renderProviders true providers) (renderProviders false providers) := by
  unfold renderProviders
  split
  · exact .of_plain (by decide)
  · refine .join (by decide) (colours_map fun provider inside => ?_)
    exact providerLine_colours (unstyled.of_mem inside)

/-! ### Logs -/

theorem extraPairs_unstyled {entry : LogEntry}
    (unstyled : Unstyled (entry.extra.flatMap LogEntry.memberStrings)) :
    Unstyled entry.extraPairs := by
  intro pair inside
  obtain ⟨⟨key, value⟩, member, rfl⟩ := List.mem_map.mp inside
  have each : Unstyled (LogEntry.memberStrings (key, value)) := unstyled.of_mem member
  have own : escapeCharacter ∉ key.toList := by
    cases value <;> exact each key List.mem_cons_self
  cases value with
  | string text =>
      have plain := each text (List.mem_cons_of_mem _ List.mem_cons_self)
      exact plain_append (plain_append own (by decide)) plain
  | _ =>
      exact plain_append (plain_append own (by decide))
        ((Json.isPrintable_compact _).not_mem (by decide))

theorem logLine_colours {entry : LogEntry} (unstyled : Unstyled entry.shownStrings) :
    Colours (logLine true entry) (logLine false entry) := by
  obtain ⟨levels, others⟩ := List.forall_mem_append.mp unstyled
  obtain ⟨message, others⟩ := List.forall_mem_cons.mp others
  obtain ⟨named, extra⟩ := List.forall_mem_append.mp others
  obtain ⟨names, requests⟩ := List.forall_mem_append.mp named
  have level : escapeCharacter ∉ entry.levelOrDefault.toList := by
    rw [LogEntry.levelOrDefault]
    cases isLevel : entry.level with
    | none => decide
    | some level => exact levels level (by simp [isLevel])
  have pairs : escapeCharacter ∉ (Text.join " " entry.extraPairs).toList := by
    intro inside
    rcases mem_join inside with between | ⟨pair, isPair, inPair⟩
    · exact absurd between (by decide)
    · exact extraPairs_unstyled extra pair isPair inPair
  unfold logLine
  dsimp only
  refine Colours.append ?_ (.styledTo 8 (levelStyle entry.levelOrDefault) level)
    |>.append ?_ |>.append (.of_plain (by decide)) |>.append (.of_plain message)
    |>.append ?_ |>.append ?_
  · cases entry.timestamp with
    | none => exact .of_plain List.not_mem_nil
    | some instant =>
        have shown : escapeCharacter ∉ instant.shown.toList :=
          (Time.Instant.isPrintable_shown instant).not_mem (by decide)
        exact (Colours.styled .dimmed shown).append (.of_plain (by decide))
  · cases isName : entry.name with
    | none => exact .of_plain List.not_mem_nil
    | some name => exact label_colours .cyan (by decide) (names name (by simp [isName]))
  · cases isRequest : entry.requestId with
    | none => exact .of_plain List.not_mem_nil
    | some request =>
        have plain := requests request (by simp [isRequest])
        exact label_colours .dimmed (by decide) (plain_append (by decide) plain)
  · split
    · exact .of_plain List.not_mem_nil
    · exact label_colours .dimmed (by decide) pairs

theorem renderLogs_colours {entries : List LogEntry}
    (unstyled : Unstyled (entries.flatMap LogEntry.shownStrings)) :
    Colours (renderLogs true entries) (renderLogs false entries) := by
  unfold renderLogs
  split
  · exact .of_plain (by decide)
  · refine .join (by decide) (colours_map fun entry inside => ?_)
    exact logLine_colours (unstyled.of_mem inside)

/-! ### Balances -/

theorem mintLine_colours {mint : MintBalance} (unstyled : Unstyled mint.shownStrings) :
    Colours (mintLine true mint) (mintLine false mint) := by
  obtain ⟨mintUrl, others⟩ := List.forall_mem_cons.mp unstyled
  obtain ⟨unit, error⟩ := List.forall_mem_cons.mp others
  have front := (Colours.of_plain (by decide : escapeCharacter ∉ "    ".toList)).append
    (.of_plain mintUrl)
  unfold mintLine
  cases isError : mint.error with
  | some message =>
      have plain := error message (by simp [isError])
      exact front.append (.of_plain (by decide)) |>.append (.styled .red plain)
  | none =>
      exact front.append (.of_plain (by decide)) |>.append (balance_colours mint.wallet unit)
        |>.append (.of_plain (by decide)) |>.append (balance_colours mint.users unit)
        |>.append (.of_plain (by decide)) |>.append (balance_colours mint.owner unit)

theorem renderBalances_colours {summary : BalanceSummary}
    (unstyled : Unstyled summary.shownStrings) :
    Colours (renderBalances true summary) (renderBalances false summary) := by
  obtain ⟨unit, mints⟩ := List.forall_mem_cons.mp unstyled
  have line {label gap : String} (plain : escapeCharacter ∉ label.toList)
      (plainGap : escapeCharacter ∉ gap.toList) (amount : Int64) :
      Colours ("  " ++ styled true .cyan label ++ gap ++ Amount.balance amount summary.unit)
        ("  " ++ styled false .cyan label ++ gap ++ Amount.balance amount summary.unit) :=
    (label_colours .cyan (by decide) plain).append (.of_plain plainGap)
      |>.append (balance_colours amount unit)
  unfold renderBalances
  refine .join (by decide) (List.rel_append ?_ ?_)
  · exact .cons (.styled .bold (by decide)) (.cons (line (by decide) (by decide) _)
      (.cons (line (by decide) (by decide) _) (.cons (line (by decide) (by decide) _) .nil)))
  · split
    · exact .nil
    · refine .cons ((label_colours .cyan (by decide) (by decide)).append (.of_plain (by decide))) ?_
      exact colours_map fun mint inside => mintLine_colours (Unstyled.of_mem mints inside)

/-! ### All answers -/

/-- What can be shown to the operator. -/
inductive Answer where
  | cost (report : CostReport)
  | modelGroups (groups : List ProviderGroup)
  | providers (listed : List Provider)
  | logs (entries : List LogEntry)
  | balances (summary : BalanceSummary)

namespace Answer

def text (colour : Bool) : Answer → String
  | cost report => renderCost colour report
  | modelGroups groups => renderModelGroups colour groups
  | providers listed => renderProviders colour listed
  | logs entries => renderLogs colour entries
  | balances summary => renderBalances colour summary

def shownStrings : Answer → List String
  | cost report => report.shownStrings
  | modelGroups groups => groups.flatMap ProviderGroup.shownStrings
  | providers listed => listed.flatMap Provider.shownStrings
  | logs entries => entries.flatMap LogEntry.shownStrings
  | balances summary => summary.shownStrings

theorem text_colours {answer : Answer} (unstyled : Unstyled answer.shownStrings) :
    Colours (answer.text true) (answer.text false) := by
  cases answer with
  | cost report => exact renderCost_colours unstyled
  | modelGroups groups => exact renderModelGroups_colours unstyled
  | providers listed => exact renderProviders_colours unstyled
  | logs entries => exact renderLogs_colours unstyled
  | balances summary => exact renderBalances_colours unstyled

/-- Colour is nothing but style sequences, in the whole answer and in each of its lines. -/
theorem colour_adds_styles {answer : Answer} (unstyled : Unstyled answer.shownStrings) :
    escapeCharacter ∉ (answer.text false).toList ∧
      withoutStyles (answer.text true).toList = (answer.text false).toList ∧
      (pieces '\n' (answer.text true).toList).map withoutStyles =
        pieces '\n' (answer.text false).toList := by
  have colours := text_colours unstyled
  have whole := colours.withoutStyles_eq
  refine ⟨colours.unstyled, whole, ?_⟩
  rw [← pieces_withoutStyles, whole]

/-- A provider that is switched off and has no key. -/
def keylessProvider : Answer :=
  .providers [⟨7, "openai", "https://api.openai.com", false, none, none⟩]

/-- The mark, the padded kind and the missing key have a style each, and the line is the plain line
without these styles. -/
theorem colour_adds_styles_keylessProvider :
    Unstyled keylessProvider.shownStrings ∧
      (keylessProvider.text true).toList.count escapeCharacter = 6 ∧
      withoutStyles (keylessProvider.text true).toList =
        " ○   7  openai       https://api.openai.com  no key".toList := by
  have unstyled : Unstyled keylessProvider.shownStrings := by
    unfold Unstyled
    decide
  refine ⟨unstyled, by decide +kernel, ?_⟩
  rw [(colour_adds_styles unstyled).2.1]
  decide +kernel

end Answer

end Console

end NodeAdmin
