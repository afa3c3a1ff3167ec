import Showcase.Catalog.Basic
import Showcase.Format.Json
import Showcase.Format.Toml.Document

/-!
# Manifests

A manifest is a text that lists the entries of a catalog, as TOML or as JSON.  In TOML each entry
is a table of the series `entry`; in JSON the text is an array of objects.  In both an entry may
also be given as an array of its fields in order, the description may be left out, and names that
are not fields of an entry are passed over.

The two differ in what they take from an entry given as an array of more than four items: TOML
passes over the rest, JSON refuses it.  JSON refuses a name that is given twice, and in TOML no
table has such a name.
-/

namespace Showcase

/-! ## JSON -/

/-- The only value of a name that an object gives at most once: `none` if it is given twice, and
`some none` if it is not given. -/
def Json.only? (name : String) (members : List (Json.Str × Json.Value)) :
    Option (Option Json.Value) :=
  match members.filter (·.1 == some name) with
  | [] => some none
  | [(_, value)] => some (some value)
  | _ => none

/-- The text of a JSON string. -/
def Json.Value.text? : Json.Value → Option String
  | .string text => text
  | _ => none

/-- The entry that a JSON value gives. -/
def Entry.ofJson? : Json.Value → Option Entry
  | .array [key, title, category] => do
    return ⟨← key.text?, ← title.text?, ← category.text?, ""⟩
  | .array [key, title, category, description] => do
    return ⟨← key.text?, ← title.text?, ← category.text?, ← description.text?⟩
  | .object members => do
    if members.any (·.1.isNone) then none
    let key ← Json.only? "key" members
    let title ← Json.only? "title" members
    let category ← Json.only? "category" members
    let description ← Json.only? "description" members
    let description ← match description with
      | none => some ""
      | some value => value.text?
    return ⟨← key.bind (·.text?), ← title.bind (·.text?), ← category.bind (·.text?), description⟩
  | _ => none

/-- The entries that a JSON manifest lists. -/
def Manifest.entriesOfJson? (s : String) : Option (List Entry) :=
  match Json.read? s with
  | some (.array items) => items.mapM Entry.ofJson?
  | _ => none

/-! ## TOML -/

/-- The entry that a TOML value gives. -/
def Entry.ofToml? (node : Toml.Node) : Option Entry :=
  match node.items? with
  | some (key :: title :: category :: rest) => do
    let description ← match rest with
      | [] => some ""
      | description :: _ => description.text?
    return ⟨← key.text?, ← title.text?, ← category.text?, description⟩
  | some _ => none
  | none => do
    let rows ← node.rows?
    let description ← match rows.lookup "description" with
      | none => some ""
      | some value => value.text?
    return ⟨← (rows.lookup "key").bind (·.text?), ← (rows.lookup "title").bind (·.text?),
      ← (rows.lookup "category").bind (·.text?), description⟩

/-- The entries that a TOML manifest lists. -/
def Manifest.entriesOfToml? (s : String) : Option (List Entry) := do
  let rows ← Toml.read? s
  match rows.lookup "entry" with
  | none => return []
  | some node => (← node.items?).mapM Entry.ofToml?

/-! ## Catalogs of manifests -/

/-- The formats a manifest may be written in. -/
inductive Manifest.Format where
  | toml
  | json
  deriving DecidableEq, Repr

/-- The catalog of a manifest. -/
def Catalog.ofManifest (format : Manifest.Format) (s : String) : Except Fault Catalog :=
  match format with
  | .json =>
    match Manifest.entriesOfJson? s with
    | some entries => Catalog.ofEntries entries
    | none => .error (.unreadableJson "the text is no list of entries")
  | .toml =>
    match Manifest.entriesOfToml? s with
    | some entries => Catalog.ofEntries entries
    | none => .error (.unreadableToml "the text is no list of entries")

end Showcase
