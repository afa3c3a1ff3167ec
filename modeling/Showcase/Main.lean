import Showcase.App.Input
import Showcase.Catalog.Shipped
import Showcase.Program
import Showcase.Screen.Paint

/-!
# The command line

The first argument, if there is one, names a settings file.  Here the files that a start may ask
for are copied from the disk, the terminal is read and written, and the journal is put into its
file; everything else is done by the modules on startup and on the program.

The terminal is expected to be in raw mode.  Its size is taken from the environment.
-/

namespace Showcase.CommandLine

/-- The disk with a copy of a file. -/
def copyFile (d : Disk) (path : String) : IO Disk := do
  try
    let bytes ← IO.FS.readBinFile path
    return d.put path (.file (String.fromUTF8? bytes))
  catch _ => return d

/-- The disk with a copy of a directory and of what is below it, so many levels deep. -/
def copyTree (depth : Nat) (d : Disk) (path : String) : IO Disk := do
  let here := (← IO.currentDir) / path
  if !(← here.isDir) then copyFile d path
  else
    match depth with
    | 0 => return d
    | depth + 1 =>
      let mut d := d.put path (.dir [])
      for entry in ← here.readDir do
        d ← copyTree depth d (Disk.Path.join path entry.fileName)
      return d

/-- The number of levels below a directory that are looked at. -/
def treeDepth : Nat := 40

/-- The disk before anything was copied: the shipped samples, and the working directory. -/
def bareDisk : IO Disk := do
  let here ← IO.currentDir
  let work := Disk.Path.parts here.toString
  let d : Disk := { work }
  return Shipped.files.foldl (fun d (name, text) =>
    d.put (Disk.Path.join Shipped.dir name) (.file (some text))) (d.putAt work (.dir []))

/-- The disk with the files that settings name. -/
def copyNamed (d : Disk) (s : Settings) : IO Disk := do
  let d ← match s.manifest with
    | some path => copyFile d path
    | none => pure d
  match s.samplesDir with
  | .path path => copyTree treeDepth d path
  | .shipped => return d

/-- What the program finds around itself. -/
def environment (args : List String) : IO Environment := do
  let hasScreen ← (← IO.getStdin).isTty
  return {
    settingsFile := args.head?
    places := { home := (← IO.getEnv "HOME").getD "", configHome := ← IO.getEnv "XDG_CONFIG_HOME" }
    directives := ← IO.getEnv "RUST_LOG"
    shippedDir := Shipped.dir
    noScreen := if hasScreen then none else some (.system 6) }

/-- The number in a variable of the environment. -/
def sizeIn (name : String) (usual : Nat) : IO Nat := do
  return ((← IO.getEnv name).bind (·.toNat?)).getD usual

/-- The day of the calendar. -/
def today : IO String := do
  let (_, path) ← IO.FS.createTempFile
  let data ← path.metadata
  IO.FS.removeFile path
  return Journal.dayAfter (data.modified.sec / 86400)

/-- Puts records into the file of the journal. -/
def writeJournal (log : LogSettings) (kept : List Journal.Record) : IO Unit := do
  IO.FS.createDirAll log.dir
  let path := Disk.Path.join log.dir (log.fileName (← today))
  let file ← IO.FS.Handle.mk path .append
  for (r, i) in kept.zipIdx do
    file.putStrLn (r.line (i + 1))

/-- How the times of loads are written: they run without waiting. -/
def times : LoadTimes := ⟨Duration.short ⟨0⟩, Duration.short ⟨0⟩⟩

/-- Shows the screen of a program. -/
def showScreen (p : Program) : IO Unit := do
  let out ← IO.getStdout
  out.putStr (p.app.screen ⟨0⟩ p.size.1 p.size.2).paint
  out.flush

/-- Takes what the terminal sends until the program ends. -/
partial def serve (s : Settings) (p : Program) : IO Program := do
  if !p.goesOn then return p
  showScreen p
  let sent ← (← IO.getStdin).read 64
  if sent.isEmpty then return p
  let now ← IO.monoMsNow
  let ticked := (p.perform now times .tick).1
  let ready := { ticked with disk := ← copyNamed ticked.disk s }
  let keys := keysOf ((String.fromUTF8? sent).getD "")
  serve s (keys.foldl (fun p key => p.onEvent now times key) ready)

/-- Runs a program that was started. -/
def runProgram (s : Settings) (d : Disk) (app : App FileLoader) : IO Program := do
  let size := (← sizeIn "COLUMNS" 80, ← sizeIn "LINES" 24)
  let out ← IO.getStdout
  out.putStr (Screen.escape ++ "?1049h")
  let p ← serve s (Program.begin d size times app)
  out.putStr (Screen.escape ++ "?1049l" ++ Screen.escape ++ "?25h")
  out.flush
  return p

/-- Prints lines to the error stream. -/
def complain (lines : List String) : IO Unit := do
  for line in lines do
    IO.eprintln line

/-- Runs the command line. -/
def run (args : List String) : IO UInt32 := do
  let env ← environment args
  let d ← copyFile (← bareDisk) (env.settingsFile.getD env.places.file)
  let s := (Startup.settings d env).2.toOption.getD {}
  let d ← copyNamed d s
  let start := Startup.run d env
  complain start.printed
  let keep (log : LogSettings) (rs : List Journal.Record) : List Journal.Record :=
    rs.filter (Journal.isKept (Journal.directives env.directives log.level))
  let record (rs : List Journal.Record) : IO Unit := match start.log with
    | some log => writeJournal log (keep log rs)
    | none => pure ()
  match start.result with
  | .error causes =>
    record start.records
    complain (causeReport causes)
    return 1
  | .ok app =>
    let p ← runProgram s d app
    record (start.records ++ p.records)
    return 0

end Showcase.CommandLine

/-- Starts the program. -/
def main (args : List String) : IO UInt32 := Showcase.CommandLine.run args
