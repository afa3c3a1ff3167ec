import Showcase.Catalog.Manifest
import Showcase.Disk.Tree
import Showcase.Settings.Basic

/-!
# Settings and manifests on the disk

Settings are looked for in the user's configuration directory, or read from a file that the user
names.  A manifest is read from a file; one whose name ends in `.json` is JSON and any other is
TOML.
-/

namespace Showcase

/-- The text of a settings or manifest file. -/
def readFile (d : Disk) (path : String) : Except Fault String :=
  match d.readText path with
  | .ok text => .ok text
  | .error failure => .error (.unreadableFile path failure)

/-- The format of a manifest file. -/
def Manifest.formatOf (path : String) : Manifest.Format :=
  if Disk.Path.extension? path = some "json" then .json else .toml

/-- The catalog of a manifest file. -/
def Catalog.ofFile (d : Disk) (path : String) : Except Fault Catalog :=
  (readFile d path).bind (Catalog.ofManifest (Manifest.formatOf path))

namespace Settings

/-- The settings of a file. -/
def ofFile (d : Disk) (path : String) : Except Fault Settings := (readFile d path).bind read

/-- What the environment says about the user's directories. -/
structure Places where
  /-- The home directory. -/
  home : String
  /-- The directory for configurations, if the environment names one. -/
  configHome : Option String := none

/-- The directory of the settings file: in the directory for configurations, which must be
absolute to count, or else in `.config` of the home directory. -/
def Places.dir (p : Places) : String :=
  let outer := match p.configHome with
    | some path => if Disk.Path.isAbsolute path then path else Disk.Path.join p.home ".config"
    | none => Disk.Path.join p.home ".config"
  Disk.Path.join outer "samplebrowser"

/-- The settings file. -/
def Places.file (p : Places) : String := Disk.Path.join p.dir "config.toml"

/-- The user's settings, or the defaults if there is no settings file. -/
def load (d : Disk) (p : Places) : Except Fault Settings :=
  if d.holds p.file then ofFile d p.file else .ok {}

end Settings

end Showcase
