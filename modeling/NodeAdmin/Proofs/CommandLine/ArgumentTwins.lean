import Mathlib.Data.List.Forall2
import NodeAdmin.CommandLine.Command
import NodeAdmin.Proofs.Config.Twins

/-!
# Command lines of twins

Two command lines that differ in nothing but the token of a login are read alike: reading
stops at the same argument for the same reason, or both are logins that differ in nothing
but the token.  Every step of reading keeps what was read so far alike; which options are
there decides the steps, and the values of options do not.
-/

namespace NodeAdmin.CommandLine

/-- Arguments that are the same, or tokens given in one argument. -/
inductive ArgumentTwins : String → String → Prop where
  | same (argument : String) : ArgumentTwins argument argument
  | token {token other : String} (isToken : IsToken token) (otherIsToken : IsToken other) :
      ArgumentTwins ("--token=" ++ token) ("--token=" ++ other)

/-- Options with their values that are the same, or tokens that may differ. -/
inductive OptionTwins : Choice × Value → Choice × Value → Prop where
  | same (option : Choice × Value) : OptionTwins option option
  | token {token other : String} (isToken : IsToken token) (otherIsToken : IsToken other) :
      OptionTwins (.token, .text token) (.token, .text other)

/-- What a scope was given by two command lines. -/
structure Given.Twins (given other : Given) : Prop where
  scope : given.scope = other.scope
  values : List.Forall₂ OptionTwins given.values other.values
  operands : List.Forall₂ ArgumentTwins given.operands other.operands

structure Reading.Twins (reading other : Reading) : Prop where
  given : reading.given.Twins other.given
  waiting : reading.waiting = other.waiting
  operandsOnly : reading.operandsOnly = other.operandsOnly

/-- Commands that are the same, or logins with tokens that may differ. -/
inductive Command.Twins : Command → Command → Prop where
  | same (command : Command) : Command.Twins command command
  | login {token other : String} (isToken : IsToken token) (otherIsToken : IsToken other) :
      Command.Twins (.configLogin token) (.configLogin other)

structure Invocation.Twins (invocation other : Invocation) : Prop where
  command : invocation.command.Twins other.command
  format : invocation.format = other.format
  json : invocation.json = other.json
  pretty : invocation.pretty = other.pretty
  noColour : invocation.noColour = other.noColour
  verbose : invocation.verbose = other.verbose

/-! ## Options of a scope -/

section

variable {values others : List (Choice × Value)} (twins : List.Forall₂ OptionTwins values others)

include twins

/-- Twins were given the same options. -/
theorem any_choice_eq (choice : Choice) :
    values.any (·.1 == choice) = others.any (·.1 == choice) := by
  induction twins with
  | nil => rfl
  | cons option _ induction =>
      rw [List.any_cons, List.any_cons, induction]
      cases option <;> rfl

/-- Only the value of the option for a token may differ. -/
theorem find?_choice_twins (choice : Choice) :
    values.find? (·.1 == choice) = others.find? (·.1 == choice) ∨
      ∃ token other, choice = .token ∧ IsToken token ∧ IsToken other ∧
        values.find? (·.1 == choice) = some (.token, .text token) ∧
        others.find? (·.1 == choice) = some (.token, .text other) := by
  induction twins with
  | nil => exact .inl rfl
  | cons option _ induction =>
      cases option with
      | same option =>
          rw [List.find?_cons, List.find?_cons]
          split
          · exact .inl rfl
          · exact induction
      | @token token other isToken otherIsToken =>
          by_cases isTokenOption : choice = .token
          · subst isTokenOption
            exact .inr ⟨token, other, rfl, isToken, otherIsToken, rfl, rfl⟩
          · have different : (Choice.token == choice) = false := by
              simpa using Ne.symm isTokenOption
            simpa [List.find?_cons, different] using induction

end

namespace Given

variable {given other : Given} (twins : given.Twins other)

include twins

theorem Twins.value?_eq {choice : Choice} (notToken : choice ≠ .token) :
    given.value? choice = other.value? choice := by
  rcases find?_choice_twins twins.values choice with same | ⟨_, _, isToken, -⟩
  · rw [value?, value?, same]
  · exact absurd isToken notToken

theorem Twins.has_eq (choice : Choice) : given.has choice = other.has choice := by
  rw [has, has, value?, value?]
  rcases find?_choice_twins twins.values choice with same | ⟨_, _, _, _, _, found, foundToo⟩
  · rw [same]
  · rw [found, foundToo]
    rfl

theorem Twins.text?_token : TokenTwins (given.text? .token) (other.text? .token) := by
  rw [text?, text?, value?, value?]
  rcases find?_choice_twins twins.values .token with
    same | ⟨token, otherToken, _, isToken, otherIsToken, found, foundToo⟩
  · rw [same]
    exact .same _
  · rw [found, foundToo]
    exact .other isToken otherIsToken

theorem Twins.operands_eq_nil : (given.operands = []) = (other.operands = []) := by
  have operands := twins.operands
  generalize given.operands = texts, other.operands = otherTexts at operands
  cases operands <;> simp

/-- What is a login for one of two twins is one for the other. -/
theorem Twins.command? (login : ∀ command, given.command? = some command →
      ∃ token, command = .configLogin token) :
    Option.Rel Command.Twins given.command? other.command? := by
  have tokens := twins.text?_token
  unfold Given.command? at login ⊢
  rw [← twins.scope]
  cases scope : given.scope with
  | login =>
      dsimp only
      generalize given.text? .token = token, other.text? .token = otherToken at tokens
      cases tokens with
      | same =>
          cases token with
          | none => exact .none
          | some token => exact .some (.same _)
      | other isToken otherIsToken => exact .some (.login isToken otherIsToken)
  | tool | config => exact .none
  | cost | models | update | providers | logs | balance | init | check | logout | setUrl =>
      rw [scope] at login
      obtain ⟨token, isLogin⟩ := login _ rfl
      cases isLogin

end Given

/-! ## Reading -/

namespace Reading

variable {reading other : Reading}

theorem Twins.has_eq (twins : reading.Twins other) (choice : Choice) :
    reading.has choice = other.has choice := any_choice_eq twins.given.values choice

theorem Twins.note (twins : reading.Twins other) {choice : Choice} {value otherValue : Value}
    (optionTwins : OptionTwins (choice, value) (choice, otherValue)) :
    Alike Twins (reading.note choice value) (other.note choice otherValue) := by
  unfold Reading.note
  rw [← twins.has_eq]
  split
  · exact .error _
  · exact .ok ⟨⟨twins.given.scope, List.rel_append twins.given.values (.cons optionTwins .nil),
      twins.given.operands⟩, twins.waiting, twins.operandsOnly⟩

theorem Twins.noteText (twins : reading.Twins other) (form : OptionForm) (text : String) :
    Alike Twins (reading.noteText form text) (other.noteText form text) := by
  unfold Reading.noteText
  cases form.kind.read? text with
  | none => exact .error _
  | some value => exact twins.note (.same _)

theorem Twins.settle (twins : reading.Twins other) :
    Alike Twins reading.settle other.settle := by
  unfold Reading.settle
  rw [← twins.waiting]
  cases waiting : reading.waiting with
  | none => exact .ok twins
  | some waits =>
      obtain ⟨form, value⟩ := waits
      cases value with
      | none => exact .error _
      | some text =>
          have freed : Twins { reading with waiting := none } { other with waiting := none } :=
            ⟨twins.given, rfl, twins.operandsOnly⟩
          exact freed.noteText form text

theorem Twins.flag (twins : reading.Twins other) (choice : Choice) :
    Alike Twins (reading.flag choice) (other.flag choice) := by
  unfold Reading.flag
  apply twins.settle.bind
  intro settled otherSettled settledTwins
  split
  · exact .error _
  · split
    · exact .error _
    · exact settledTwins.note (.same _)

theorem Twins.option (twins : reading.Twins other) (form : OptionForm)
    (attached : Option String) :
    Alike Twins (reading.option form attached) (other.option form attached) := by
  unfold Reading.option
  apply twins.settle.bind
  intro settled otherSettled settledTwins
  cases attached with
  | some text => exact settledTwins.noteText form text
  | none => exact .ok ⟨settledTwins.given, rfl, settledTwins.operandsOnly⟩

theorem Twins.long (twins : reading.Twins other) (argument : List Char) :
    Alike Twins (reading.long argument) (other.long argument) := by
  unfold Reading.long
  rw [← twins.given.scope]
  dsimp only
  split
  · exact .error _
  · split
    · split
      · exact .error _
      · exact twins.flag _
    · exact twins.option _ _

theorem Twins.short (twins : reading.Twins other) (letters : List Char) :
    Alike Twins (reading.short letters) (other.short letters) := by
  induction letters generalizing reading other with
  | nil => exact .ok twins
  | cons letter rest induction =>
      unfold Reading.short
      rw [← twins.given.scope]
      split
      · exact .error _
      · split
        · exact (twins.flag _).bind fun _ _ flagTwins => induction flagTwins
        · split
          · exact twins.option _ none
          · exact twins.option _ _
          · exact twins.option _ _

theorem Twins.operand (twins : reading.Twins other) {argument otherArgument : String}
    (arguments : ArgumentTwins argument otherArgument) :
    Alike Twins (reading.operand argument) (other.operand otherArgument) := by
  unfold Reading.operand
  apply twins.settle.bind
  intro settled otherSettled settledTwins
  simp only [settledTwins.given.scope, settledTwins.given.operands_eq_nil]
  split
  · exact .ok ⟨⟨rfl, settledTwins.given.values, .cons arguments .nil⟩,
      settledTwins.waiting, settledTwins.operandsOnly⟩
  · exact .error _

/-- No scope but that of a login knows an option for a token. -/
theorem find?_tokenOption (scope : Scope) :
    scope.options.find? (·.long == "token") =
      if scope = .login then some ⟨.token, "token", none, .text⟩ else none := by
  cases scope <;> decide

theorem long_token (reading : Reading) (token : String) :
    reading.long ("token=".toList ++ token.toList) =
      if reading.given.scope = .login then
        reading.option ⟨.token, "token", none, .text⟩ (some token)
      else .error .misuse := by
  have name : String.ofList (("token=".toList ++ token.toList).takeWhile (· != '=')) =
      "token" := rfl
  have attached : ("token=".toList ++ token.toList).dropWhile (· != '=') =
      '=' :: token.toList := rfl
  unfold Reading.long
  rw [name, attached]
  dsimp only
  rw [find?_tokenOption, String.ofList_toList]
  by_cases login : reading.given.scope = .login
  · rw [if_pos login, if_pos login]
    rfl
  · rw [if_neg login, if_neg login]

/-- A token in one argument is read alike by twins. -/
theorem Twins.long_token (twins : reading.Twins other) {token otherToken : String}
    (isToken : IsToken token) (otherIsToken : IsToken otherToken) :
    Alike Twins (reading.long ("token=".toList ++ token.toList))
      (other.long ("token=".toList ++ otherToken.toList)) := by
  rw [Reading.long_token, Reading.long_token, ← twins.given.scope]
  split
  · exact twins.settle.bind fun _ _ settledTwins =>
      settledTwins.note (.token isToken otherIsToken)
  · exact .error _

theorem Twins.next (twins : reading.Twins other) {argument otherArgument : String}
    (arguments : ArgumentTwins argument otherArgument) :
    Alike Twins (reading.next argument) (other.next otherArgument) := by
  unfold Reading.next
  rw [← twins.operandsOnly]
  split
  · exact twins.operand arguments
  · cases arguments with
    | same =>
        rw [← twins.waiting]
        split
        · exact .ok ⟨twins.given, rfl, rfl⟩
        · exact twins.long _
        · exact twins.short _
        · split
          · exact .ok ⟨twins.given, rfl, rfl⟩
          · exact twins.operand (.same argument)
    | token isToken otherIsToken =>
        -- Two dashes in front make it an option even where another option waits for a value.
        simp only [String.toList_append]
        exact twins.long_token isToken otherIsToken

theorem Twins.finish (twins : reading.Twins other) :
    Alike Given.Twins reading.finish other.finish := by
  unfold Reading.finish
  apply twins.settle.bind
  intro settled otherSettled settledTwins
  simp only [settledTwins.given.scope, settledTwins.given.operands_eq_nil,
    settledTwins.has_eq]
  split
  · exact .error _
  · split
    · exact .error _
    · exact .ok settledTwins.given

end Reading

/-! ## Scopes inside scopes -/

/-- A token in one argument is no word that starts with something else than a dash. -/
theorem tokenArgument_ne (token : String) {word : String}
    (plain : word.toList.head? ≠ some '-') : "--token=" ++ token ≠ word := by
  rintro rfl
  rw [String.toList_append] at plain
  exact plain rfl

theorem ArgumentTwins.eq_help_iff {argument other : String}
    (twins : ArgumentTwins argument other) : argument = "help" ↔ other = "help" := by
  cases twins with
  | same => rfl
  | token => simp only [tokenArgument_ne _ (by decide : "help".toList.head? ≠ some '-')]

theorem command?_tokenArgument (scope : Scope) (token : String) :
    scope.command? ("--token=" ++ token) = none := by
  have plain : ∀ command ∈ scope.commands, command.1.toList.head? ≠ some '-' := by
    cases scope <;> decide
  rw [Scope.command?, Option.map_eq_none_iff, List.find?_eq_none]
  intro command member
  simpa using (tokenArgument_ne token (plain command member)).symm

/-- No command of a scope looks like an option. -/
theorem ArgumentTwins.command?_eq {argument other : String}
    (twins : ArgumentTwins argument other) (scope : Scope) :
    scope.command? argument = scope.command? other := by
  cases twins with
  | same => rfl
  | token => rw [command?_tokenArgument, command?_tokenArgument]

theorem Reading.Twins.mayEnter_eq {reading other : Reading} (twins : reading.Twins other) :
    reading.mayEnter = other.mayEnter := by
  rw [mayEnter, mayEnter, wantsValue, wantsValue, twins.waiting, twins.operandsOnly]

/-- The help that is asked for does not depend on tokens. -/
theorem helpAbout_twins {arguments others : List String}
    (twins : List.Forall₂ ArgumentTwins arguments others) (scope : Scope) :
    helpAbout scope arguments = helpAbout scope others := by
  induction twins generalizing scope with
  | nil => rfl
  | @cons argument other rest otherRest argumentTwins restTwins induction =>
      have sameEnd : rest = [] ↔ otherRest = [] := by
        cases restTwins <;> simp
      simp only [helpAbout, argumentTwins.command?_eq, argumentTwins.eq_help_iff, sameEnd,
        induction]

theorem finishEach_twins {readings others : List Reading}
    (twins : List.Forall₂ Reading.Twins readings others) :
    Alike (List.Forall₂ Given.Twins) (readings.mapM Reading.finish)
      (others.mapM Reading.finish) := by
  induction twins with
  | nil => exact .ok .nil
  | cons first _ induction =>
      rw [List.mapM_cons, List.mapM_cons]
      apply first.finish.bind
      intro given otherGiven givenTwins
      apply induction.bind
      intro further otherFurther furtherTwins
      exact .ok (.cons givenTwins furtherTwins)

theorem finishAll_twins {inner other : Reading} (twins : inner.Twins other)
    {outer others : List Reading} (outerTwins : List.Forall₂ Reading.Twins outer others) :
    Alike (List.Forall₂ Given.Twins) (finishAll inner outer) (finishAll other others) := by
  unfold finishAll
  rw [← twins.given.scope]
  split
  · exact .error _
  · apply twins.finish.bind
    intro given otherGiven givenTwins
    apply (finishEach_twins outerTwins).bind
    intro further otherFurther furtherTwins
    exact .ok (.cons givenTwins furtherTwins)

theorem Reading.Twins.start (scope : Scope) : (Reading.start scope).Twins (.start scope) :=
  ⟨⟨rfl, .nil, .nil⟩, rfl, rfl⟩

/-- Reading goes on alike from twins. -/
theorem readFrom_twins {arguments otherArguments : List String}
    (argumentTwins : List.Forall₂ ArgumentTwins arguments otherArguments)
    {reading other : Reading} (twins : reading.Twins other) {outer others : List Reading}
    (outerTwins : List.Forall₂ Reading.Twins outer others) :
    Alike (List.Forall₂ Given.Twins) (readFrom reading outer arguments)
      (readFrom other others otherArguments) := by
  induction argumentTwins generalizing reading other outer others with
  | nil => exact finishAll_twins twins outerTwins
  | cons first rest induction =>
      unfold readFrom
      -- Options with values decide nothing here, so that both sides take the same branch.
      simp only [← twins.mayEnter_eq, ← twins.given.scope, ← first.command?_eq,
        ← first.eq_help_iff]
      split
      · rw [helpAbout_twins rest]
        exact .error _
      · split
        · exact induction (.start _) (.cons twins outerTwins)
        · exact (twins.next first).bind fun _ _ nextTwins => induction nextTwins outerTwins

/-! ## Invocations -/

section

variable {givens others : List Given} (twins : List.Forall₂ Given.Twins givens others)

include twins

theorem any_has_eq (choice : Choice) : givens.any (·.has choice) = others.any (·.has choice) := by
  induction twins with
  | nil => rfl
  | cons first _ induction => rw [List.any_cons, List.any_cons, first.has_eq, induction]

theorem findSome?_format_eq :
    givens.findSome? (·.text? .format) = others.findSome? (·.text? .format) := by
  induction twins with
  | nil => rfl
  | cons first _ induction =>
      rw [List.findSome?_cons, List.findSome?_cons, Given.text?, Given.text?,
        first.value?_eq (by decide), induction]

/-- Twins ask for a login with the same options. -/
theorem invocation?_twins (login : ∀ invocation, invocation? givens = some invocation →
      ∃ token, invocation.command = .configLogin token) :
    Option.Rel Invocation.Twins (invocation? givens) (invocation? others) := by
  have format := findSome?_format_eq twins
  have flags := any_has_eq twins
  unfold invocation? at login ⊢
  rw [← format, ← flags .json, ← flags .pretty, ← flags .noColour, ← flags .verbose]
  cases twins with
  | nil => exact .none
  | @cons given other rest otherRest first restTwins =>
      simp only [List.head?_cons, Option.bind_eq_bind, Option.bind_some] at login ⊢
      have commands := first.command? (by
        intro command asked
        rw [asked] at login
        exact login _ rfl)
      generalize given.command? = command, other.command? = otherCommand at commands
      cases commands with
      | none => exact .none
      | some commandTwins => exact .some ⟨commandTwins, rfl, rfl, rfl, rfl, rfl⟩

end

/-- Arguments that differ in nothing but the token of a login. -/
inductive LineTwins : List String → List String → Prop where
  | same (arguments : List String) : LineTwins arguments arguments
  | login {arguments others : List String} (twins : List.Forall₂ ArgumentTwins arguments others)
      (login : ∀ invocation, parse arguments = .ok invocation →
        ∃ token, invocation.command = .configLogin token) :
      LineTwins arguments others

theorem parse_twins {arguments others : List String} (twins : LineTwins arguments others) :
    Alike Invocation.Twins (parse arguments) (parse others) := by
  cases twins with
  | same =>
      cases parse arguments with
      | error stop => exact .error stop
      | ok invocation => exact .ok ⟨.same _, rfl, rfl, rfl, rfl, rfl⟩
  | login twins login =>
      have given := readFrom_twins twins (.start .tool) .nil
      unfold parse at login ⊢
      unfold read at login ⊢
      generalize readFrom (.start .tool) [] arguments = result,
        readFrom (.start .tool) [] others = other at given login ⊢
      cases given with
      | error stop => exact .error stop
      | @ok givens otherGivens givenTwins =>
          simp only [bind, Except.bind] at login ⊢
          have invocations := invocation?_twins givenTwins (by
            intro invocation asked
            exact login invocation (by rw [asked]))
          generalize invocation? givens = invocation, invocation? otherGivens = other
            at invocations ⊢
          cases invocations with
          | none => exact .error _
          | some invocationTwins => exact .ok invocationTwins

end NodeAdmin.CommandLine
