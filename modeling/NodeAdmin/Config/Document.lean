import NodeAdmin.Config.Basic
import NodeAdmin.Toml.Document

/-!
# Configurations as TOML

A configuration has two tables; what a document leaves out has its usual value
and what it has beyond them is passed over. A table may also be given as an array
of its values in their usual order.
-/

namespace NodeAdmin

namespace Toml

/-- One value of a record that is given as a table or as an array. -/
def part (index : Nat) (key : String) : Toml → Option Toml
  | .table _ entries => lookup key entries
  | .array items => items[index]?
  | .tables items => items[index]?
  | _ => none

/-- Whether a value can stand for a record. Moments can, and have no parts. -/
def isRecord : Toml → Bool
  | .table _ _ | .array _ | .tables _ | .moment _ => true
  | _ => false

/-- A part of a record that must be a text, if it is there. -/
def textPart? (index : Nat) (key : String) (record : Toml) : Option (Option String) :=
  match record.part index key with
  | none => some none
  | some (.string text) => some (some text)
  | some _ => none

/-- A record under a key, or its usual value. -/
def record? {α : Type} (key : String) (read : Toml → Option α) (usual : α)
    (entries : Entries) : Option α :=
  match lookup key entries with
  | none => some usual
  | some value => if value.isRecord then read value else none

end Toml

def Settings.ofToml? (record : Toml) : Option Settings := do
  let format ← record.textPart? 0 "default_format"
  let colour ← record.textPart? 1 "color"
  some ⟨format.getD Settings.standard.defaultFormat, colour.getD Settings.standard.colour⟩

def NodeAccess.ofToml? (record : Toml) : Option NodeAccess := do
  let baseUrl ← record.textPart? 0 "base_url"
  let token ← record.textPart? 1 "token"
  some ⟨baseUrl.getD NodeAccess.standard.baseUrl, token⟩

namespace Config

/-- The configuration of a document. -/
def ofText? (text : String) : Option Config := do
  let entries ← Toml.document? text
  let settings ← Toml.record? "settings" Settings.ofToml? Settings.standard entries
  let node ← Toml.record? "node" NodeAccess.ofToml? NodeAccess.standard entries
  some ⟨settings, node⟩

/-- A line with a key and a text. -/
def entryLine (key value : String) : List Char :=
  key.toList ++ " = ".toList ++ Toml.Quoted.encode value.toList ++ ['\n']

/-- The document of a configuration. -/
def toText (config : Config) : String :=
  let token := match config.node.token with
    | some token => entryLine "token" token
    | none => []
  String.ofList
    ("[settings]\n".toList ++
      entryLine "default_format" config.settings.defaultFormat ++
      entryLine "color" config.settings.colour ++
      "\n[node]\n".toList ++
      entryLine "base_url" config.node.baseUrl ++ token)

end Config

end NodeAdmin
