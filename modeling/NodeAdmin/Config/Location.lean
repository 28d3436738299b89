/-!
# Where the configuration is kept
-/

namespace NodeAdmin.Config

/-- A name inside a folder. -/
def inFolder (folder name : String) : String :=
  if folder.isEmpty || folder.endsWith "/" then folder ++ name else folder ++ "/" ++ name

/-- The configuration file: in the folder for configurations if the environment
names one, and otherwise in the usual place below the home folder. -/
def location (configHome home : Option String) : String :=
  let folder := configHome.getD (inFolder (home.getD "~") ".config")
  inFolder (inFolder folder "routstr-admin") "config.toml"

end NodeAdmin.Config
