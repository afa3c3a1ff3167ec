import Showcase.Cache
import Showcase.Disk.Walk
import Showcase.Glob
import Showcase.Registry.Basic

/-!
# Discovery

The sample files of a directory are found by walking it and keeping the files whose path below the
directory matches a pattern.  That path is the key of the sample.  The samples are listed by
increasing key, whatever order the walk met them in (`Sample.ofWalk`), and each gets a loader that
reads its file through the cache, under the place of the key in the registry.
-/

namespace Showcase

/-- A sample file found on the disk. -/
structure Sample where
  /-- The path below the directory of the samples. -/
  key : String
  /-- The path under which the file is read. -/
  path : String
  deriving DecidableEq, Repr

namespace Sample

/-- The key of a file met on a walk. -/
def keyOf (found : Disk.Found) : String := "/".intercalate found.names

/-- The samples among the files that a walk met, by increasing key. -/
def ofWalk (tokens : List Glob.Token) (walked : List Disk.Found) : List Sample :=
  ((walked.map fun found => ⟨keyOf found, found.path⟩).filter
    fun s => Glob.isMatch tokens s.key).mergeSort fun a b => decide (a.key ≤ b.key)

/-- The samples in a directory of a disk. -/
def discover (d : Disk) (dir pattern : String) : Except Fault (List Sample) :=
  match Glob.parse pattern with
  | .error fault =>
    .error (.discovery dir ("bad pattern " ++ Text.quoted pattern ++ ": " ++ fault.message))
  | .ok tokens =>
    match d.walk dir with
    | .error obstacle => .error (.discovery dir obstacle.message)
    | .ok walked => .ok (ofWalk tokens walked)

end Sample

/-- A loader that reads a file through the cache. -/
structure FileLoader where
  /-- The key under which the cache keeps the text. -/
  slot : String
  /-- The path of the file. -/
  path : String
  deriving DecidableEq, Repr

/-- What a loader finds on the disk. -/
def FileLoader.read (l : FileLoader) (d : Disk) : Except Fault String :=
  match d.readText l.path with
  | .ok text => .ok text
  | .error failure => .error (.disk failure)

/-- A load through the cache. -/
def FileLoader.run (l : FileLoader) (d : Disk) (c : Cache) : Except Fault String × Cache :=
  c.fetch l.slot (l.read d)

namespace Registry

/-- A registry with a loader for each sample, at the place of its key. -/
def putSamples (r : Registry FileLoader) (samples : List Sample) : Registry FileLoader :=
  samples.foldl (fun r s => r.putAt (r.place s.key) ⟨r.place s.key, s.path⟩) r

/-- The registry of the samples in a directory. -/
def ofDir (d : Disk) (dir pattern base : String) : Except Fault (Registry FileLoader) :=
  match Sample.discover d dir pattern with
  | .error fault => .error fault
  | .ok samples => .ok ((Registry.empty base).putSamples samples)

end Registry

end Showcase
