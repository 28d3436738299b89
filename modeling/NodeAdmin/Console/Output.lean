import NodeAdmin.Json.Printer

/-!
# Output options

Answers are printed as text or as JSON. Colour needs the permission of the
command line and of the settings; unless it is always wanted, it also needs a
terminal and no objection from the environment.
-/

namespace NodeAdmin

inductive OutputFormat where
  | text
  | json
  deriving DecidableEq, Repr

/-- The format of a name; names that are not known stand for text. -/
def OutputFormat.ofName (name : String) : OutputFormat :=
  if name = "json" then .json else .text

structure OutputOptions where
  format : OutputFormat
  pretty : Bool
  colour : Bool
  verbose : Bool
  deriving DecidableEq, Repr

/-- What is known about where the output goes. -/
structure Destination where
  isTerminal : Bool
  refusesColour : Bool
  deriving DecidableEq, Repr

/-- Whether to print in colour. -/
def wantsColour (allowed : Bool) (setting : String) (destination : Destination) : Bool :=
  if !allowed || setting == "never" then false
  else if setting == "always" then true
  else destination.isTerminal && !destination.refusesColour

/-- A printed document, on one line unless it is to be pretty. -/
def OutputOptions.jsonLine (options : OutputOptions) (document : Json) : String :=
  (if options.pretty then document.pretty else document.compact) ++ "\n"

end NodeAdmin
