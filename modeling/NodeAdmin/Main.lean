import NodeAdmin.CommandLine.Run
import NodeAdmin.Config.Location

/-!
# The command line tool

Reads the surroundings of a run, has the library answer it, and carries the answer
out. The tool brings no transport of its own, so a request reaches no node.
-/

namespace NodeAdmin.Main

/-- What stands under the name of the configuration file. -/
def lookAt (path : String) : IO StoredFile := do
  let file := System.mkFilePath [path]
  if ← file.isDir then return .directory
  if ← file.pathExists then
    let content ← IO.FS.readBinFile file
    return match String.fromUTF8? content with
      | some text => .text text
      | none => .bytes content.toList
  match file.parent with
  | some folder =>
      if (← folder.pathExists) && !(← folder.isDir) then return .blocked
      return .absent
  | none => return .absent

/-- Writes the configuration file if it changed, and tells what came of it. -/
def keep (path : String) (before after : StoredFile) : IO WriteOutcome := do
  if before = after then return .carriedOut
  match after with
  | .text content =>
      let file := System.mkFilePath [path]
      try
        if let some folder := file.parent then IO.FS.createDirAll folder
        IO.FS.writeFile file content
        return .carriedOut
      catch problem => return .refused (.other (toString problem))
  | _ => return .carriedOut

def surroundings (path : String) : IO CommandLine.Surroundings := do
  let url ← IO.getEnv Session.urlVariable
  let token ← IO.getEnv Session.tokenVariable
  let refusesColour := (← IO.getEnv "NO_COLOR").isSome
  let isTerminal ← (← IO.getStdout).isTty
  return {
    path := path
    environment := ⟨url, token⟩
    destination := ⟨isTerminal, refusesColour⟩
    replies := fun _ => .failed ["there is no connection to the node"] }

def run (arguments : List String) : IO UInt32 := do
  let path := Config.location (← IO.getEnv "XDG_CONFIG_HOME") (← IO.getEnv "HOME")
  let file ← lookAt path
  let surroundings ← surroundings path
  let attempt := CommandLine.answer surroundings arguments file
  -- What is told about a file that could not be written depends on the attempt.
  let writing ← keep path file attempt.file
  let answer := CommandLine.answer { surroundings with writing := writing } arguments file
  IO.print answer.standardOutput
  IO.eprint answer.standardError
  return UInt32.ofNat answer.exitCode

end NodeAdmin.Main

def main (arguments : List String) : IO UInt32 := NodeAdmin.Main.run arguments
