import NodeAdmin.CommandLine.Scope

/-!
# Reading arguments

Arguments are read from left to right. The first one that cannot be read decides
how reading ends, and so does a request for help or for the version. What is only
known at the end, such as a missing operand or options that exclude each other,
is looked at when all arguments have been read.
-/

namespace NodeAdmin.CommandLine

/-- Why arguments do not name a command to run. -/
inductive Stop where
  | misuse
  | help
  | version
  deriving DecidableEq, Repr

/-- What a scope was given. -/
structure Given where
  scope : Scope
  values : List (Choice × Value)
  operands : List String
  deriving DecidableEq, Repr

/-- An option that waits for its value, or for the next argument after it. -/
structure Waiting where
  form : OptionForm
  value : Option String
  deriving DecidableEq, Repr

/-- A scope whose arguments are being read. Behind two dashes there are only
operands. -/
structure Reading where
  given : Given
  waiting : Option Waiting
  operandsOnly : Bool
  deriving DecidableEq, Repr

namespace Reading

def start (scope : Scope) : Reading := ⟨⟨scope, [], []⟩, none, false⟩

def has (choice : Choice) (reading : Reading) : Bool :=
  reading.given.values.any (·.1 == choice)

/-- Notes a value. Every option can be given once in a scope. -/
def note (choice : Choice) (value : Value) (reading : Reading) : Except Stop Reading :=
  if reading.has choice then .error .misuse
  else
    .ok { reading with given :=
      { reading.given with values := reading.given.values ++ [(choice, value)] } }

/-- Notes an option with the text of its value. -/
def noteText (form : OptionForm) (text : String) (reading : Reading) : Except Stop Reading :=
  match form.kind.read? text with
  | some value => reading.note form.choice value
  | none => .error .misuse

/-- Settles the option that waits: without a value it is misused. -/
def settle (reading : Reading) : Except Stop Reading :=
  match reading.waiting with
  | none => .ok reading
  | some ⟨form, some text⟩ => noteText form text { reading with waiting := none }
  | some ⟨_, none⟩ => .error .misuse

/-- Whether an option still waits for its value. -/
def wantsValue (reading : Reading) : Bool :=
  match reading.waiting with
  | some ⟨_, none⟩ => true
  | _ => false

/-- A flag; help and the version are given at once. -/
def flag (choice : Choice) (reading : Reading) : Except Stop Reading := do
  let reading ← reading.settle
  if choice = .help then .error .help
  else if choice = .version then .error .version
  else reading.note choice .flag

/-- An option with a value in the same argument, or one that waits for it. -/
def option (form : OptionForm) (attached : Option String) (reading : Reading) :
    Except Stop Reading := do
  let reading ← reading.settle
  match attached with
  | some text => reading.noteText form text
  | none => .ok { reading with waiting := some ⟨form, none⟩ }

/-- An argument that starts with two dashes, without them. -/
def long (argument : List Char) (reading : Reading) : Except Stop Reading :=
  let name := String.ofList (argument.takeWhile (· != '='))
  let attached := match argument.dropWhile (· != '=') with
    | _ :: value => some (String.ofList value)
    | [] => none
  match reading.given.scope.options.find? (·.long == name) with
  | none => .error .misuse
  | some form =>
      if form.kind = .flag then
        if attached.isSome then .error .misuse else reading.flag form.choice
      else reading.option form attached

/-- An argument that starts with one dash, without it: flags, and at the end
perhaps an option with its value. -/
def short (reading : Reading) : List Char → Except Stop Reading
  | [] => .ok reading
  | letter :: rest =>
      match reading.given.scope.options.find? (·.short == some letter) with
      | none => .error .misuse
      | some form =>
          if form.kind = .flag then do
            let reading ← reading.flag form.choice
            reading.short rest
          else
            match rest with
            | [] => reading.option form none
            | '=' :: value => reading.option form (some (String.ofList value))
            | value => reading.option form (some (String.ofList value))

/-- An argument that is no option. -/
def operand (argument : String) (reading : Reading) : Except Stop Reading := do
  let reading ← reading.settle
  if reading.given.scope.takesOperand ∧ reading.given.operands = [] then
    .ok { reading with given := { reading.given with operands := [argument] } }
  else .error .misuse

/-- The next argument, unless it names a command. -/
def next (argument : String) (reading : Reading) : Except Stop Reading :=
  if reading.operandsOnly then reading.operand argument
  else
    match argument.toList with
    | ['-', '-'] => .ok { reading with operandsOnly := true }
    | '-' :: '-' :: rest => reading.long rest
    | '-' :: letter :: rest => reading.short (letter :: rest)
    | _ =>
        match reading.waiting with
        | some ⟨form, none⟩ => .ok { reading with waiting := some ⟨form, some argument⟩ }
        | _ => reading.operand argument

/-- Whether an argument may name a command here. -/
def mayEnter (reading : Reading) : Bool :=
  !reading.operandsOnly && !reading.wantsValue

/-- What the scope was given, when nothing in it is missing or contradictory. -/
def finish (reading : Reading) : Except Stop Given := do
  let reading ← reading.settle
  if reading.given.scope.takesOperand ∧ reading.given.operands = [] then .error .misuse
  else if reading.given.scope.conflicts.any
      (fun pair => reading.has pair.1 && reading.has pair.2) then .error .misuse
  else .ok reading.given

end Reading

/-- Help about the command that names lead to. -/
def helpAbout (scope : Scope) : List String → Stop
  | [] => .help
  | name :: rest =>
      match scope.command? name with
      | some inner => helpAbout inner rest
      | none =>
          if name = "help" ∧ scope.commands ≠ [] ∧ rest = [] then .help else .misuse

/-- Finishes a scope without a further command and the scopes around it. -/
def finishAll (inner : Reading) (outer : List Reading) : Except Stop (List Given) :=
  if inner.given.scope.needsCommand then .error .misuse
  else do
    let last ← inner.finish
    let others ← outer.mapM Reading.finish
    .ok (last :: others)

/-- Reads the arguments of a scope inside others, the innermost first. -/
def readFrom (reading : Reading) (outer : List Reading) :
    List String → Except Stop (List Given)
  | [] => finishAll reading outer
  | argument :: rest =>
      let scope := reading.given.scope
      if reading.mayEnter ∧ argument = "help" ∧ scope.commands ≠ [] then
        .error (helpAbout scope rest)
      else
        match if reading.mayEnter then scope.command? argument else none with
        | some inner => readFrom (Reading.start inner) (reading :: outer) rest
        | none => do
            let reading ← reading.next argument
            readFrom reading outer rest

/-- What every scope on the way to the command was given, the command first. -/
def read (arguments : List String) : Except Stop (List Given) :=
  readFrom (Reading.start .tool) [] arguments

end NodeAdmin.CommandLine
