import NodeAdmin.Config.Document

/-!
# The configuration file

A configuration is kept in one file. No file stands for the usual configuration;
a file that is there but cannot be read is an error for everything but the choice
of how to print.
-/

namespace NodeAdmin

/-- What stands where the configuration is kept. -/
inductive StoredFile where
  | absent
  | text (content : String)
  /-- Bytes that are not UTF-8. -/
  | bytes (content : List UInt8)
  | directory
  /-- A file has the name of the folder that the configuration would need. -/
  | blocked
  deriving DecidableEq, Repr

/-- What the operating system says. -/
inductive FileProblem where
  | notText
  | isDirectory
  | nameTaken
  /-- Anything else that keeps a file from being written, in the words of the system. -/
  | other (words : String)
  deriving DecidableEq, Repr

/-- What comes of an attempt to write a file. The system refuses before it touches what
is there, or takes the whole text; a device that fails in the middle of a text is left
out. -/
inductive WriteOutcome where
  | carriedOut
  | refused (problem : FileProblem)
  deriving DecidableEq, Repr

inductive ConfigError where
  | file (problem : FileProblem)
  | malformed
  deriving DecidableEq, Repr

def FileProblem.message : FileProblem → String
  | notText => "stream did not contain valid UTF-8"
  | isDirectory => "Is a directory (os error 21)"
  | nameTaken => "File exists (os error 17)"
  | other words => words

namespace ConfigError

/-- What happened, without the part of the tool that it happened in. -/
def reason : ConfigError → String
  | file problem => problem.message
  | malformed => "TOML parse error"

def message : ConfigError → String
  | file problem => "Failed to read config: " ++ problem.message
  | malformed => "Failed to parse config: " ++ malformed.reason

end ConfigError

namespace StoredFile

/-- Whether anything stands under the name of the file. -/
def isPresent : StoredFile → Bool
  | absent | blocked => false
  | text _ | bytes _ | directory => true

/-- The configuration of a file. -/
def load : StoredFile → Except ConfigError Config
  | absent | blocked => .ok Config.standard
  | text content =>
      match Config.ofText? content with
      | some config => .ok config
      | none => .error .malformed
  | bytes _ => .error (.file .notText)
  | directory => .error (.file .isDirectory)

/-- The settings of a file; a file that cannot be read has the usual ones. -/
def settings (file : StoredFile) : Settings :=
  match file.load with
  | .ok config => config.settings
  | .error _ => Settings.standard

/-- The file after a configuration was written to it. The system has to take the text,
and there has to be room for a file of this name. -/
def save (writing : WriteOutcome) (config : Config) (file : StoredFile) :
    Except ConfigError StoredFile :=
  match writing, file with
  | .refused problem, _ => .error (.file problem)
  | .carriedOut, blocked => .error (.file .nameTaken)
  | .carriedOut, directory => .error (.file .isDirectory)
  | .carriedOut, absent | .carriedOut, text _ | .carriedOut, bytes _ =>
      .ok (.text config.toText)

end StoredFile

end NodeAdmin
