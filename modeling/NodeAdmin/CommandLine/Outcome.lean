import NodeAdmin.Api.Client
import NodeAdmin.Config.Storage
import NodeAdmin.Console.Output

/-!
# Outcomes

What one run of a command leaves behind: what it printed, how it ended, the
requests it made, and the configuration file.
-/

namespace NodeAdmin.CommandLine

/-- Why a command failed, with the causes behind it. -/
structure Failure where
  message : String
  causes : List String
  deriving DecidableEq, Repr

namespace Failure

def ofApi (error : Api.ApiError) : Failure := ⟨error.message, error.causes⟩

def ofConfig (error : ConfigError) : Failure := ⟨error.message, [error.reason]⟩

def ofEndpoint (error : EndpointError) : Failure := ⟨error.message, []⟩

/-- The failure of something larger. -/
def within (message : String) (failure : Failure) : Failure :=
  ⟨message, failure.message :: failure.causes⟩

/-- A text with its further lines indented like the first one. -/
def indented (indent text : String) : String :=
  Text.join ("\n" ++ indent) ((Text.pieces '\n' text.toList).map String.ofList)

/-- A cause with its number, right-aligned in five places. -/
def numbered (number : Nat) (cause : String) : String :=
  let digits := Nat.toDigits 10 number
  String.ofList (List.replicate (5 - digits.length) ' ' ++ digits) ++ ": " ++
    indented "       " cause

def numberedFrom (number : Nat) : List String → List String
  | [] => []
  | cause :: rest => numbered number cause :: numberedFrom (number + 1) rest

/-- The causes under a heading; several causes are numbered. -/
def causesText : List String → String
  | [] => ""
  | [cause] => "\n\nCaused by:\n    " ++ indented "    " cause
  | causes => "\n\nCaused by:\n" ++ Text.join "\n" (numberedFrom 0 causes)

/-- What is printed about a failure. -/
def text (failure : Failure) : String :=
  "Error: " ++ failure.message ++ causesText failure.causes ++ "\n"

end Failure

/-- How a run ended: well, with a failure to tell, or with a verdict that was
already told. -/
inductive Ending where
  | success
  | failure (failure : Failure)
  | rejected
  deriving DecidableEq, Repr

structure Outcome where
  ending : Ending
  printed : String
  noted : String
  dispatches : List Api.Dispatch
  file : StoredFile
  deriving DecidableEq, Repr

namespace Outcome

/-- A run that printed something and leaves a file. -/
def done (file : StoredFile) (printed : String) : Outcome :=
  ⟨.success, printed, "", [], file⟩

/-- A run that failed before it printed anything. -/
def failed (file : StoredFile) (failure : Failure) : Outcome :=
  ⟨.failure failure, "", "", [], file⟩

/-- A run that only had something to note. -/
def remark (file : StoredFile) (noted : String) : Outcome :=
  ⟨.success, "", noted, [], file⟩

/-- The run with the requests that were made before it. -/
def after (dispatches : List Api.Dispatch) (outcome : Outcome) : Outcome :=
  { outcome with dispatches := dispatches ++ outcome.dispatches }

def exitCode (outcome : Outcome) : Nat :=
  match outcome.ending with
  | .success => 0
  | .failure _ | .rejected => 1

def standardOutput (outcome : Outcome) : String := outcome.printed

/-- What was noted, and the failure behind it. The log of the tool goes the same way
and is left out: warnings, and the steps of a run where they are asked for, each with
the time of day. -/
def standardError (outcome : Outcome) : String :=
  match outcome.ending with
  | .failure failure => outcome.noted ++ failure.text
  | .success | .rejected => outcome.noted

/-- The requests that reached a node. -/
def arrivals (outcome : Outcome) : List Api.Request :=
  (outcome.dispatches.filter Api.Dispatch.arrived).map Api.Dispatch.request

end Outcome

end NodeAdmin.CommandLine
