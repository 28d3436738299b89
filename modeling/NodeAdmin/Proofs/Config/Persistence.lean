import NodeAdmin.Proofs.Config.RoundTrip
import NodeAdmin.Proofs.Toml.QuotedForms

/-!
# Configurations that are kept

Whatever texts a configuration holds, it can be written wherever a file can stand,
its lines have the forms that the rules of quoted texts ask for, and what is loaded
from the file is the configuration itself.
-/

namespace NodeAdmin

namespace Config

/-- The line of a token, which is left out where there is none. -/
inductive TokenLine : Option String → List Char → Prop where
  | absent : TokenLine none []
  | present {token : String} {quoted : List Char}
      (form : Toml.Quoted.Form token.toList quoted) :
      TokenLine (some token) ("token = ".toList ++ quoted ++ ['\n'])

/-- The document of a configuration, line by line. -/
inductive WrittenAs (config : Config) : List Char → Prop where
  | lines {format colour baseUrl token : List Char}
      (formatForm : Toml.Quoted.Form config.settings.defaultFormat.toList format)
      (colourForm : Toml.Quoted.Form config.settings.colour.toList colour)
      (baseUrlForm : Toml.Quoted.Form config.node.baseUrl.toList baseUrl)
      (tokenLine : TokenLine config.node.token token) :
      config.WrittenAs
        ("[settings]\n".toList ++ ("default_format = ".toList ++ format ++ ['\n']) ++
          ("color = ".toList ++ colour ++ ['\n']) ++ "\n[node]\n".toList ++
          ("base_url = ".toList ++ baseUrl ++ ['\n']) ++ token)

theorem writtenAs_toText (config : Config) : config.WrittenAs config.toText.toList := by
  unfold toText
  rw [String.toList_ofList]
  apply WrittenAs.lines (Toml.Quoted.encode_form config.settings.defaultFormat.toList)
    (Toml.Quoted.encode_form config.settings.colour.toList)
    (Toml.Quoted.encode_form config.node.baseUrl.toList)
  cases config.node.token with
  | none => exact .absent
  | some token => exact .present (Toml.Quoted.encode_form token.toList)

end Config

namespace StoredFile

/-- Every configuration is read back from the file that it was written to. -/
theorem save_keeps_config (config : Config) {file : StoredFile}
    (folderFree : file ≠ .blocked) (nameFree : file ≠ .directory) :
    ∃ content, file.save .carriedOut config = .ok (.text content) ∧
      (StoredFile.text content).load = .ok config ∧ config.WrittenAs content.toList := by
  have written : file.save .carriedOut config = .ok (.text config.toText) :=
    save_eq_ok_iff.mpr ⟨rfl, folderFree, nameFree, rfl⟩
  exact ⟨config.toText, written, load_save written, config.writtenAs_toText⟩

/-- A configuration whose texts need every style: line feeds in front, both kinds of
quotes in rows, control characters, and a token that is there but empty. -/
def manifoldConfig : Config :=
  ⟨⟨"\n'''\"\"\"\\", "it's \"so\"\t"⟩, ⟨"C:\\new\r\x7f", some ""⟩⟩

theorem save_keeps_config_manifoldConfig :
    StoredFile.bytes [255] ≠ .blocked ∧ StoredFile.bytes [255] ≠ .directory ∧
      ∃ content, (StoredFile.bytes [255]).save .carriedOut manifoldConfig = .ok (.text content) ∧
        (StoredFile.text content).load = .ok manifoldConfig ∧
        manifoldConfig.WrittenAs content.toList := by
  have folderFree : StoredFile.bytes [255] ≠ .blocked := by decide
  have nameFree : StoredFile.bytes [255] ≠ .directory := by decide
  exact ⟨folderFree, nameFree, save_keeps_config manifoldConfig folderFree nameFree⟩

end StoredFile

end NodeAdmin
