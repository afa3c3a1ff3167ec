import Showcase.App.Journal
import Showcase.Catalog.Builtin
import Showcase.Journal.Directive
import Showcase.Registry.Discovery
import Showcase.Settings.File

/-!
# Starting the program

At the start the settings are read, the journal is opened, the catalog is read and the sample files
are looked for; then catalog and registry are compared and the screen is set up.  Anything that
goes wrong on the way ends the start with a report of causes, except two things: without its
usual settings file the program goes on with the defaults, and without sample files it goes on
without loaders and tells so on the screen.

`Startup.run` computes all of it from the disk and the environment: what is printed, what is
recorded and what the program begins with.
-/

namespace Showcase

open Journal

/-- What the program finds around itself. -/
structure Environment where
  /-- The settings file named on the command line. -/
  settingsFile : Option String := none
  /-- The directories of the user. -/
  places : Settings.Places
  /-- Directives for the journal. -/
  directives : Option String := none
  /-- The directory of the shipped samples. -/
  shippedDir : String
  /-- The failure that keeps the screen from being set up, if there is one. -/
  noScreen : Option Disk.Failure := none

/-- How a start went. -/
structure Startup where
  /-- What was printed on the way. -/
  printed : List String := []
  /-- The settings of the journal, if it was opened. -/
  log : Option LogSettings := none
  /-- What was recorded since then. -/
  records : List Record := []
  /-- What the program begins with, or the causes that ended the start, outermost first. -/
  result : Except (List String) (App FileLoader)

namespace Startup

/-- A part of a start: what it recorded, and what it brought or what ended it. -/
structure Part (α : Type) where
  /-- What was recorded. -/
  records : List Record := []
  /-- What it brought, or the causes that ended it. -/
  result : Except (List String) α

/-- Goes on with what a part brought. -/
def Part.andThen {α β : Type} (p : Part α) (next : α → Part β) : Part β :=
  match p.result with
  | .error causes => ⟨p.records, .error causes⟩
  | .ok a => ⟨p.records ++ (next a).records, (next a).result⟩

/-- A part that only records. -/
def note (level : Level) (area : Area) (message : String) : Part Unit :=
  ⟨[⟨level, area, message⟩], .ok ()⟩

/-- A part that records nothing: a result, with words for what was tried. -/
def attempt {α : Type} (tried : String) (r : Except Fault α) : Part α :=
  ⟨[], match r with
    | .ok a => .ok a
    | .error fault => .error (tried :: fault.causes)⟩

/-- The catalog: from a manifest, or the built-in one. -/
def catalog (d : Disk) (s : Settings) : Part Catalog :=
  let found : Part Catalog := match s.manifest with
    | none => ⟨[], .ok Catalog.builtin⟩
    | some path =>
      (attempt ("Failed to load manifest " ++ path) (Catalog.ofFile d path)).andThen fun c =>
        ⟨[⟨.info, .manifest,
          "Loaded catalog manifest " ++ path ++ " (" ++ toString c.size ++ " entries)"⟩], .ok c⟩
  found.andThen fun c =>
    ⟨[⟨.info, .program, "Catalog ready: " ++ toString c.size ++ " entries"⟩], .ok c⟩

/-- The directory of the samples. -/
def dirOf (env : Environment) (s : Settings) : String :=
  match s.samplesDir with
  | .shipped => env.shippedDir
  | .path path => path

/-- The record of a registry that was built. -/
def builtRecord (r : Registry FileLoader) : Record :=
  ⟨.debug, .registry,
    "Loader registry built with " ++ toString r.size ++ " entries under " ++ r.base⟩

/-- The loaders of the sample files; without them, an empty registry and the fault. -/
def loaders (d : Disk) (dir : String) (s : Settings) : Part (Registry FileLoader × Option Fault) :=
  match Sample.discover d dir s.pattern with
  | .ok samples =>
    let r := (Registry.empty s.base).putSamples samples
    ⟨samples.map (fun sample => ⟨.debug, .search, "Discovered asset " ++ sample.key⟩) ++
      [⟨.info, .discovery,
        "Discovered " ++ toString samples.length ++ " sample assets in " ++ dir ++ " matching " ++
          s.pattern⟩, builtRecord r], .ok (r, none)⟩
  | .error fault =>
    let r := Registry.empty s.base
    ⟨[⟨.warn, .program,
      "Asset discovery failed, continuing without loaders: " ++ fault.message⟩, builtRecord r],
      .ok (r, some fault)⟩

/-- What an audit records. -/
def auditRecords (audit : Registry.Audit) : List Record :=
  (if audit.isClean then []
    else [⟨.warn, .program,
      "Registry drift: " ++ toString audit.missing.length ++ " entries without loaders, " ++
        toString audit.orphans.length ++ " unused assets"⟩]) ++
  audit.missing.map (fun key =>
    ⟨.warn, .registry, "Catalog entry " ++ key ++ " has no registered loader"⟩) ++
  audit.orphans.map (fun path =>
    ⟨.debug, .registry, "Asset " ++ path ++ " is not referenced by the catalog"⟩)

/-- The state that the program begins with; what is amiss is told on the screen. -/
def state (s : Settings) (c : Catalog) (r : Registry FileLoader) (fault : Option Fault) :
    Part (App FileLoader) :=
  let audit := r.audit c
  let checked : Part Unit := ⟨auditRecords audit,
    (attempt "Loader registry does not cover the catalog" (audit.enforce s.strict)).result⟩
  checked.andThen fun _ =>
    let app := App.start c r s.loadTimeout { infoMs := s.infoMs }
    let told := app.reportAudit 0 audit
    match fault with
    | none => ⟨[app.filterRecord], .ok told⟩
    | some fault => ⟨[app.filterRecord, App.faultRecord fault], .ok (told.reportFault 0 fault)⟩

/-- Setting up the screen. -/
def screen (env : Environment) : Part Unit :=
  match env.noScreen with
  | none => note .info .program "Terminal setup complete"
  | some failure =>
    ⟨[], .error ["Failed to initialize terminal", "Failed to enable raw mode", failure.text]⟩

/-- Everything after the journal was opened. -/
def afterJournal (d : Disk) (env : Environment) (s : Settings) : Part (App FileLoader) :=
  (note .info .program "Starting sample browser").andThen fun _ =>
  (catalog d s).andThen fun c =>
  (loaders d (dirOf env s) s).andThen fun (r, fault) =>
  (state s c r fault).andThen fun app =>
  (screen env).andThen fun _ =>
  (note .info .program "Application initialized successfully").andThen fun _ =>
  ⟨[], .ok app⟩

/-- The settings: those of the file that was named must be there; the usual ones may fail, which
is printed. -/
def settings (d : Disk) (env : Environment) : List String × Except (List String) Settings :=
  match env.settingsFile with
  | some path =>
    ([], (attempt ("Failed to load config " ++ path) (Settings.ofFile d path)).result)
  | none =>
    match Settings.load d env.places with
    | .ok s => ([], .ok s)
    | .error fault => (["Failed to load config, using defaults: " ++ fault.message], .ok {})

/-- What the end of a start is reported as. -/
def failed {α : Type} (causes : List String) : Except (List String) α :=
  .error ("Failed to initialize application" :: causes)

/-- Starts the program. -/
def run (d : Disk) (env : Environment) : Startup :=
  let (printed, found) := settings d env
  match found with
  | .error causes => { printed, result := failed causes }
  | .ok s =>
    match d.makeDirs s.log.dir with
    | .error failure =>
      { printed
        result := failed ("Failed to initialize logging" :: (Fault.disk failure).causes) }
    | .ok d =>
      let rest := afterJournal d env s
      { printed
        log := some s.log
        records := rest.records
        result := match rest.result with
          | .error causes => failed causes
          | .ok app => .ok app }

end Startup

/-! ## Reports of causes -/

/-- The lines of a cause: the first one begins with `head`, the others with `next`. -/
def causeLines (head next cause : String) : List String :=
  match cause.splitOn "\n" with
  | [] => [head]
  | first :: others => (head ++ first) :: others.map (next ++ ·)

/-- A number with blanks before it, in five columns. -/
def fiveColumns (n : Nat) : String :=
  let digits := toString n
  String.ofList (List.replicate (5 - digits.length) ' ') ++ digits

/-- The report of causes, outermost first.  Causes behind the outermost one are numbered, unless
there is only one. -/
def causeReport (causes : List String) : List String :=
  match causes with
  | [] => []
  | [outer] => causeLines "Error: " "" outer
  | [outer, cause] =>
    causeLines "Error: " "" outer ++ ["", "Caused by:"] ++ causeLines "    " "    " cause
  | outer :: causes =>
    causeLines "Error: " "" outer ++ ["", "Caused by:"] ++
      (causes.mapIdx fun i cause => causeLines (fiveColumns i ++ ": ") "       " cause).flatten

end Showcase
