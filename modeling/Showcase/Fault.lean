import Showcase.Disk.Failure
import Showcase.Text.Quoted

/-!
# Faults

Everything that can go wrong, by cause.  `Fault.message` holds all the wording.

A fault can reach several readers: a load that many wait for fails once for all of them.  The
first reader's fault is copied for the others, and what a copy keeps is fixed by `Fault.shared`:
the cause and the message stay, a system number is lost, and the detail of a text that could not
be read becomes the message of an `other` fault.
-/

namespace Showcase

/-- What can go wrong. -/
inductive Fault where
  /-- A file or directory could not be used. -/
  | disk (failure : Disk.Failure)
  /-- No loader stands at the place of a key. -/
  | noLoader (key path : String)
  /-- The loader of an entry did not succeed. -/
  | loadFailed (title key reason : String)
  /-- The loader of an entry took longer than allowed. -/
  | loadTimedOut (key : String) (limitMs : Nat)
  /-- Two entries of a catalog share a key. -/
  | duplicateKey (key : String)
  /-- An entry of a catalog lacks something. -/
  | invalidEntry (field reason : String)
  /-- Entries of a catalog have no loader, and that is not allowed. -/
  | uncovered (missing : List String)
  /-- The sample files could not be found. -/
  | discovery (path reason : String)
  /-- A TOML text could not be read. -/
  | unreadableToml (detail : String)
  /-- A settings or manifest file could not be read from the disk. -/
  | unreadableFile (path : String) (failure : Disk.Failure)
  /-- A JSON text could not be read. -/
  | unreadableJson (detail : String)
  /-- The terminal failed. -/
  | terminal (detail : String)
  /-- Anything else. -/
  | other (detail : String)
  deriving DecidableEq, Repr

namespace Fault

/-- What a fault says to the reader. -/
def message : Fault → String
  | disk failure => "I/O error: " ++ failure.text
  | noLoader key path =>
    "No loader registered for \"" ++ key ++ "\" (looked up " ++ path ++ ")"
  | loadFailed title key reason =>
    "Failed to load \"" ++ title ++ "\" (" ++ key ++ "): " ++ reason
  | loadTimedOut key limitMs =>
    "Loading " ++ key ++ " timed out after " ++ toString limitMs ++ "ms"
  | duplicateKey key => "Duplicate catalog key: " ++ key
  | invalidEntry field reason => "Invalid catalog entry: " ++ field ++ " - " ++ reason
  | uncovered missing =>
    "Catalog and registry disagree; no loader for: " ++ ", ".intercalate missing
  | discovery path reason =>
    "Asset discovery failed in " ++ Text.quoted path ++ ": " ++ reason
  | unreadableToml detail => "Config parse error: " ++ detail
  | unreadableFile path failure =>
    "Failed to read config file " ++ Text.quoted path ++ ": " ++ failure.text
  | unreadableJson detail => "Serialization error: " ++ detail
  | terminal detail => "Terminal error: " ++ detail
  | other detail => "Unexpected error: " ++ detail

/-- Whether the fault is a catalog entry without a loader. -/
def isNoLoader : Fault → Bool
  | noLoader _ _ => true
  | _ => false

/-- The failure of the disk behind a fault, if there is one. -/
def diskFailure? : Fault → Option Disk.Failure
  | disk failure | unreadableFile _ failure => some failure
  | _ => none

/-- Whether a fault has a further cause behind it. -/
def hasCause : Fault → Bool
  | disk _ | unreadableToml _ | unreadableFile _ _ | unreadableJson _ => true
  | _ => false

/-- What a fault says and what its further cause says. -/
def causes (fault : Fault) : List String :=
  fault.message :: match fault with
    | disk failure | unreadableFile _ failure => [failure.text]
    | unreadableToml detail | unreadableJson detail => [detail]
    | _ => []

/-- A fault as a further reader gets it. -/
def shared : Fault → Fault
  | disk failure => disk failure.shared
  | unreadableFile path failure => unreadableFile path failure.shared
  | unreadableToml detail => other ("Config error: " ++ detail)
  | unreadableJson detail => other ("Serde error: " ++ detail)
  | fault => fault

end Fault

end Showcase
