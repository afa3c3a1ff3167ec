import Showcase.Catalog.Entry

/-!
# Catalogs

A catalog is a list of usable entries with distinct keys, in the order of their author, which is
the order they are shown in.  `Catalog.ofEntries` checks the entries one after the other and
refuses the list at the first one that is not usable or repeats a key.
-/

namespace Showcase

/-- The entries to choose from, in their author's order. -/
structure Catalog where
  /-- The entries. -/
  entries : List Entry
  /-- Every entry can be looked up and grouped. -/
  usable : ∀ e ∈ entries, e.Usable
  /-- No two entries share a key. -/
  distinct : (entries.map (·.key)).Nodup

namespace Catalog

/-- The fault of the first entry that is not usable or has a key of `seen` or of an entry before
it. -/
def firstFault? (seen : List String) : List Entry → Option Fault
  | [] => none
  | e :: es =>
    match e.flaw? with
    | some fault => some fault
    | none =>
      if seen.contains e.key then some (.duplicateKey e.key)
      else firstFault? (e.key :: seen) es

/-- No fault is found exactly when every entry is usable and no key is met twice. -/
theorem firstFault?_eq_none_iff {seen : List String} {es : List Entry} :
    firstFault? seen es = none ↔
      (∀ e ∈ es, e.Usable) ∧ (es.map (·.key)).Nodup ∧ ∀ e ∈ es, e.key ∉ seen := by
  induction es generalizing seen with
  | nil => simp [firstFault?]
  | cons e es ih =>
    cases h : e.flaw? with
    | some fault =>
      have : ¬ e.Usable := fun hu => by simp [Entry.flaw?_eq_none_iff.2 hu] at h
      simp [firstFault?, h, this]
    | none =>
      have hu : e.Usable := Entry.flaw?_eq_none_iff.1 h
      by_cases hs : e.key ∈ seen
      · simp [firstFault?, h, hs]
      · simp only [firstFault?, h, List.contains_eq_mem, hs, decide_false, Bool.false_eq_true,
          if_false, ih, List.mem_cons, forall_eq_or_imp, hu, true_and, List.map_cons,
          List.nodup_cons, List.mem_map, not_exists, not_and, not_or, not_false_eq_true]
        constructor
        · rintro ⟨h1, h2, h3⟩
          exact ⟨h1, ⟨fun x hx => (h3 x hx).1, h2⟩, fun x hx => (h3 x hx).2⟩
        · rintro ⟨h1, ⟨h2, h3⟩, h4⟩
          exact ⟨h1, h3, fun x hx => ⟨h2 x hx, h4 x hx⟩⟩

/-- The catalog of a list of entries, or the fault of its first bad entry. -/
def ofEntries (es : List Entry) : Except Fault Catalog :=
  match h : firstFault? [] es with
  | some fault => .error fault
  | none =>
    .ok ⟨es, (firstFault?_eq_none_iff.1 h).1, (firstFault?_eq_none_iff.1 h).2.1⟩

/-- The catalog without entries. -/
def empty : Catalog := ⟨[], by simp, by simp⟩

/-- The number of entries. -/
def size (c : Catalog) : Nat := c.entries.length

/-- The keys of the entries, in order. -/
def keys (c : Catalog) : List String := c.entries.map (·.key)

/-- The entry with a key. -/
def get? (c : Catalog) (key : String) : Option Entry := c.entries.find? (·.key == key)

/-- The name of the category that holds every entry. -/
def everything : String := "All"

/-- Appends a name that is not there yet. -/
def addNew (names : List String) (name : String) : List String :=
  if names.contains name then names else names ++ [name]

/-- The categories to choose from: `All`, then each category where it is first met. -/
def categories (c : Catalog) : List String :=
  (c.entries.map (·.category)).foldl addNew [everything]

end Catalog

end Showcase
