import Showcase.Duration
import Showcase.Fault
import Showcase.Format.Toml.Document

/-!
# Settings

What a user can set, and how a settings text overrides it.  A text names some fields and leaves
the others at their defaults; a table for the log does the same one level down.  Names that are no
fields are passed over, and a value of the wrong kind refuses the whole text.
-/

namespace Showcase

/-- The directory in which the sample files are looked for. -/
inductive SampleDir where
  /-- The samples that come with the program. -/
  | shipped
  /-- A directory of the user. -/
  | path (path : String)
  deriving DecidableEq, Repr

/-- Where the log goes and what it holds. -/
structure LogSettings where
  /-- The directory of the log files. -/
  dir : String := "logs"
  /-- What the name of a log file starts with; the day follows. -/
  stem : String := "samples"
  /-- The directives that say what is logged. -/
  level : String := "info"
  deriving DecidableEq, Repr, Inhabited

/-- The name of the log file of a day. -/
def LogSettings.fileName (log : LogSettings) (day : String) : String :=
  if log.stem.isEmpty then day else log.stem ++ "." ++ day

/-- What a user can set. -/
structure Settings where
  /-- Where the sample files are. -/
  samplesDir : SampleDir := .shipped
  /-- Which files of that directory are samples. -/
  pattern : String := "*.rs"
  /-- What the place of every sample in the registry starts with. -/
  base : String := "samples"
  /-- A manifest in place of the built-in catalog. -/
  manifest : Option String := none
  /-- Whether every entry must have a loader. -/
  strict : Bool := false
  /-- How long a load may take. -/
  loadTimeout : Duration := .ofSeconds 5
  /-- How much time lies between two ticks. -/
  tickRate : Duration := .ofMillis 120
  /-- How long a notice that goes away by itself is shown, in milliseconds. -/
  infoMs : Nat := 3000
  /-- The log. -/
  log : LogSettings := {}
  deriving DecidableEq, Repr

namespace Settings

/-- The value of a field: what the rows say, read with `read`, or else the default. -/
def field? {α : Type} (rows : Toml.Rows) (name : String) (read : Toml.Node → Option α)
    (default : α) : Option α :=
  match rows.lookup name with
  | none => some default
  | some node => read node

/-- A duration in words. -/
def duration? (node : Toml.Node) : Option Duration := node.text?.bind Duration.read?

/-- The log settings that a TOML value gives: a table of fields, or the fields in order. -/
def log? (node : Toml.Node) : Option LogSettings :=
  match node.items? with
  | some items => do
    let nth (i : Nat) (default : String) : Option String :=
      match items[i]? with
      | none => some default
      | some node => node.text?
    return ⟨← nth 0 "logs", ← nth 1 "samples", ← nth 2 "info"⟩
  | none => do
    let rows ← node.rows?
    return ⟨← field? rows "dir" (·.text?) "logs", ← field? rows "file_prefix" (·.text?) "samples",
      ← field? rows "level" (·.text?) "info"⟩

/-- The settings that the rows of a settings text give. -/
def ofRows? (rows : Toml.Rows) : Option Settings := do
  let samplesDir ← field? rows "samples_dir" (fun node => node.text?.map .path) .shipped
  let pattern ← field? rows "asset_pattern" (·.text?) "*.rs"
  let base ← field? rows "virtual_base" (·.text?) "samples"
  let manifest ← field? rows "manifest" (fun node => node.text?.map some) none
  let strict ← field? rows "strict_registry" (·.bool?) false
  let loadTimeout ← field? rows "load_timeout" duration? (.ofSeconds 5)
  let tickRate ← field? rows "tick_rate" duration? (.ofMillis 120)
  let infoMs ← field? rows "info_dismiss_ms" (·.word?) 3000
  let log ← field? rows "logging" log? {}
  return { samplesDir, pattern, base, manifest, strict, loadTimeout, tickRate, infoMs, log }

/-- The settings of a text. -/
def read (s : String) : Except Fault Settings :=
  match (Toml.read? s).bind ofRows? with
  | some settings => .ok settings
  | none => .error (.unreadableToml "the text gives no settings")

end Settings

end Showcase
