import Showcase.Proofs.Duration
import Showcase.Proofs.Format.TomlTables
import Showcase.Settings.Basic

/-!
# What a settings text overrides

`Overrides` says which fields a settings text names and with which values.  `Overrides.GivenBy` says
which rows and tables give them: each name once, the named fields with their values in any order, and
beside them any other names with any values, for the log one level down.

Settings depend on the values under the known names only (`Settings.ofRows?_eq`), so a text that
gives some overrides is read as the defaults with exactly these fields replaced.  There is one
exception: a duration in milliseconds is refused, and with it the whole text, if its nanoseconds do
not fit into 64 bits.
-/

namespace Showcase

/-! ## Overrides -/

/-- The fields of the log that a text names, with their values. -/
structure LogOverrides where
  /-- The directory of the log files. -/
  dir : Option String := none
  /-- What the name of a log file starts with. -/
  stem : Option String := none
  /-- The directives that say what is logged. -/
  level : Option String := none

/-- The fields that a settings text names, with their values; durations in milliseconds. -/
structure Overrides where
  /-- Where the sample files are. -/
  samplesDir : Option String := none
  /-- Which files of that directory are samples. -/
  pattern : Option String := none
  /-- What the place of every sample in the registry starts with. -/
  base : Option String := none
  /-- A manifest in place of the built-in catalog. -/
  manifest : Option String := none
  /-- Whether every entry must have a loader. -/
  strict : Option Bool := none
  /-- How long a load may take. -/
  loadTimeout : Option Nat := none
  /-- How much time lies between two ticks. -/
  tickRate : Option Nat := none
  /-- How long a notice that goes away by itself is shown. -/
  infoMs : Option Nat := none
  /-- The log. -/
  log : LogOverrides := {}

namespace LogOverrides

/-- Log settings with the named fields replaced. -/
def applyTo (o : LogOverrides) (log : LogSettings) : LogSettings where
  dir := o.dir.getD log.dir
  stem := o.stem.getD log.stem
  level := o.level.getD log.level

/-- The known names of the log, each with the value that a text gives it. -/
def fields (o : LogOverrides) : List (String × Option Toml.Node) := [
  ("dir", o.dir.map fun text => .scalar (.string text)),
  ("file_prefix", o.stem.map fun text => .scalar (.string text)),
  ("level", o.level.map fun text => .scalar (.string text))]

end LogOverrides

namespace Overrides

/-- Settings with the named fields replaced. -/
def applyTo (o : Overrides) (settings : Settings) : Settings where
  samplesDir := (o.samplesDir.map .path).getD settings.samplesDir
  pattern := o.pattern.getD settings.pattern
  base := o.base.getD settings.base
  manifest := (o.manifest.map some).getD settings.manifest
  strict := o.strict.getD settings.strict
  loadTimeout := (o.loadTimeout.map .ofMillis).getD settings.loadTimeout
  tickRate := (o.tickRate.map .ofMillis).getD settings.tickRate
  infoMs := o.infoMs.getD settings.infoMs
  log := o.log.applyTo settings.log

/-- The known names, each with the value that a text gives it outside of any table. -/
def fields (o : Overrides) : List (String × Option Toml.Node) := [
  ("samples_dir", o.samplesDir.map fun text => .scalar (.string text)),
  ("asset_pattern", o.pattern.map fun text => .scalar (.string text)),
  ("virtual_base", o.base.map fun text => .scalar (.string text)),
  ("manifest", o.manifest.map fun text => .scalar (.string text)),
  ("strict_registry", o.strict.map fun flag => .scalar (.bool flag)),
  ("load_timeout", o.loadTimeout.map fun n => .scalar (.string (toString n ++ "ms"))),
  ("tick_rate", o.tickRate.map fun n => .scalar (.string (toString n ++ "ms"))),
  ("info_dismiss_ms", o.infoMs.map fun n : Nat => .scalar (.integer n)),
  ("logging", none)]

/-- Rows and tables give overrides: the known names have their values, and others do not matter. -/
structure GivenBy (o : Overrides) (rows : Toml.Rows) (tables : List (String × Toml.Rows)) : Prop where
  /-- No name is given twice. -/
  distinct : ((rows ++ tables.map Toml.tableRow).map (·.1)).Nodup
  /-- Neither is one inside a table. -/
  inside : ∀ table ∈ tables, (table.2.map (·.1)).Nodup
  /-- The known names have the values of the overrides. -/
  valued : ∀ field ∈ o.fields, ∀ node, (field.1, node) ∈ rows ↔ field.2 = some node
  /-- Of the known names only that of the log is the name of a table. -/
  headed : ∀ table ∈ tables, ∀ field ∈ o.fields, table.1 = field.1 → table.1 = "logging"
  /-- In the table of the log its known names have the values of the overrides. -/
  logged : ∀ field ∈ o.log.fields, ∀ node,
    (∃ inner, ("logging", inner) ∈ tables ∧ (field.1, node) ∈ inner) ↔ field.2 = some node

/-- The durations fit: their nanoseconds do into 64 bits. -/
def Fits (o : Overrides) : Prop :=
  ∀ n, o.loadTimeout = some n ∨ o.tickRate = some n → n * 1000000 < 2 ^ 64

end Overrides

/-! ## Reading fields -/

namespace Settings

/-- A field that is given has the value that is read, and its default otherwise. -/
theorem field?_eq_some {rows : Toml.Rows} {name : String} {α β : Type} {given : Option β}
    {node : β → Toml.Node} (found : rows.lookup name = given.map node)
    (read : Toml.Node → Option α) (value : β → α)
    (reads : ∀ b, given = some b → read (node b) = some (value b)) (default : α) :
    field? rows name read default = some ((given.map value).getD default) := by
  unfold field?
  rw [found]
  cases given with
  | none => rfl
  | some b => exact reads b rfl

theorem field?_text {rows : Toml.Rows} {name : String} {value : Option String}
    (found : rows.lookup name = value.map fun text => .scalar (.string text)) (default : String) :
    field? rows name (·.text?) default = some (value.getD default) := by
  rw [field?_eq_some found (·.text?) id fun _ _ => rfl, Option.map_id_fun, id]

section

variable {rows : Toml.Rows} {name : String} {given : Option Nat}
  (found : rows.lookup name = given.map fun n => .scalar (.string (toString n ++ "ms")))
include found

theorem field?_millis (fits : ∀ n, given = some n → n * 1000000 < 2 ^ 64) (default : Duration) :
    field? rows name duration? default = some ((given.map .ofMillis).getD default) := by
  refine field?_eq_some found duration? .ofMillis (fun n same => ?_) default
  exact (Duration.read?_millis n).trans (if_pos (fits n same))

theorem field?_of_large {n : Nat} (same : given = some n) (large : ¬ n * 1000000 < 2 ^ 64)
    (default : Duration) : field? rows name duration? default = none := by
  unfold field?
  rw [found, same]
  exact (Duration.read?_millis n).trans (if_neg large)

end

/-- Settings are given only if their durations are. -/
theorem durations_of_ofRows? {rows : Toml.Rows} {settings : Settings}
    (read : ofRows? rows = some settings) :
    field? rows "load_timeout" duration? (.ofSeconds 5) = some settings.loadTimeout ∧
      field? rows "tick_rate" duration? (.ofMillis 120) = some settings.tickRate := by
  simp only [ofRows?, Option.bind_eq_bind, Option.bind_eq_some_iff] at read
  obtain ⟨_, _, _, _, _, _, _, _, _, _, timeout, loadTimeout, rate, tickRate, _, _, _, _, same⟩ := read
  cases same
  exact ⟨loadTimeout, tickRate⟩

end Settings

namespace Overrides.GivenBy

variable {o : Overrides} {rows : Toml.Rows} {tables : List (String × Toml.Rows)}
  (given : o.GivenBy rows tables)
include given

/-- A known name is looked up with the value of the overrides. -/
theorem lookup_field {field : String × Option Toml.Node} (known : field ∈ o.fields)
    (noLog : field.1 ≠ "logging") :
    (rows ++ tables.map Toml.tableRow).lookup field.1 = field.2 := by
  have members (node : Toml.Node) :
      (field.1, node) ∈ rows ++ tables.map Toml.tableRow ↔ field.2 = some node := by
    rw [List.mem_append, given.valued field known, or_iff_left]
    intro member
    obtain ⟨table, among, same⟩ := List.mem_map.1 member
    have named : table.1 = field.1 := congrArg Prod.fst same
    exact noLog (named ▸ given.headed table among field known named)
  refine Option.ext fun node => ?_
  rw [← members node]
  exact ⟨mem_of_lookup_eq_some, fun member => lookup_eq_some_of_mem given.distinct member⟩

/-- The log is looked up as its table. -/
theorem lookup_log :
    (rows ++ tables.map Toml.tableRow).lookup "logging" =
      (tables.lookup "logging").map fun inner => .table .header inner := by
  have absent : "logging" ∉ rows.map (·.1) := by
    intro member
    obtain ⟨⟨name, node⟩, among, rfl⟩ := List.mem_map.1 member
    have nothing := (given.valued ("logging", none) (by simp [fields]) node).1 among
    cases nothing
  rw [List.lookup_append, lookup_eq_none_of_notMem absent, Option.none_or]
  exact lookup_map (fun inner => Toml.Node.table .header inner) tables "logging"

/-- A known name of the log is looked up with the value of the overrides, in an empty table if there
is none. -/
theorem lookup_logField {field : String × Option Toml.Node} (known : field ∈ o.log.fields) :
    ((tables.lookup "logging").getD []).lookup field.1 = field.2 := by
  have names : (tables.map (·.1)).Nodup := by
    have distinct := given.distinct
    rw [List.map_append, List.map_map] at distinct
    exact (List.nodup_append.1 distinct).2.1
  refine Option.ext fun node => ?_
  rw [← given.logged field known node]
  cases found : tables.lookup "logging" with
  | none =>
      refine iff_of_false (by simp) ?_
      rintro ⟨inner, member, _⟩
      cases found.symm.trans (lookup_eq_some_of_mem names member)
  | some inner =>
      have member := mem_of_lookup_eq_some found
      constructor
      · exact fun there => ⟨inner, member, mem_of_lookup_eq_some there⟩
      · rintro ⟨inner', member', there⟩
        cases found.symm.trans (lookup_eq_some_of_mem names member')
        exact lookup_eq_some_of_mem (given.inside _ member) there

/-- The log settings are the defaults with the named fields replaced. -/
theorem field?_log :
    Settings.field? (rows ++ tables.map Toml.tableRow) "logging" Settings.log? {} =
      some (o.log.applyTo {}) := by
  have known := fun field (member : field ∈ o.log.fields) => given.lookup_logField member
  simp only [LogOverrides.fields, List.forall_mem_cons] at known
  obtain ⟨dir, stem, level, _⟩ := known
  have table : Settings.log? (.table .header ((tables.lookup "logging").getD [])) =
      some (o.log.applyTo {}) := by
    simp only [Settings.log?, Toml.Node.items?, Toml.Node.rows?, Option.bind_eq_bind,
      Option.bind_some, Settings.field?_text dir, Settings.field?_text stem,
      Settings.field?_text level]
    rfl
  unfold Settings.field?
  rw [given.lookup_log]
  cases found : tables.lookup "logging" with
  | none =>
      rw [found] at table
      exact table
  | some inner =>
      rw [found] at table
      exact table

section

variable (small : ∀ n, o.infoMs = some n → n < 2 ^ 63)
include small

/-- Settings are the defaults with the named fields replaced, if the named durations fit. -/
theorem ofRows?_of_fits (fits : o.Fits) :
    Settings.ofRows? (rows ++ tables.map Toml.tableRow) = some (o.applyTo {}) := by
  have known := fun field (member : field ∈ o.fields) => given.lookup_field member
  simp only [fields, List.forall_mem_cons] at known
  obtain ⟨samplesDir, pattern, base, manifest, strict, loadTimeout, tickRate, infoMs, _⟩ := known
  have samplesDir := Settings.field?_eq_some (samplesDir (by decide))
    (fun node => node.text?.map SampleDir.path) .path (fun _ _ => rfl) .shipped
  have pattern := Settings.field?_text (pattern (by decide)) "*.rs"
  have base := Settings.field?_text (base (by decide)) "samples"
  have manifest := Settings.field?_eq_some (manifest (by decide))
    (fun node => node.text?.map some) some (fun _ _ => rfl) none
  have strict := Settings.field?_eq_some (strict (by decide)) (·.bool?) id (fun _ _ => rfl) false
  have loadTimeout := Settings.field?_millis (loadTimeout (by decide))
    (fun n same => fits n (Or.inl same)) (.ofSeconds 5)
  have tickRate := Settings.field?_millis (tickRate (by decide))
    (fun n same => fits n (Or.inr same)) (.ofMillis 120)
  have word (n : Nat) (same : o.infoMs = some n) :
      Toml.Node.word? (.scalar (.integer n)) = some n := by
    have := small n same
    rw [Toml.Node.word?, if_pos (by omega), Int.toNat_natCast]
  have infoMs := Settings.field?_eq_some (infoMs (by decide)) (·.word?) id word 3000
  simp only [Settings.ofRows?, samplesDir, pattern, base, manifest, strict, loadTimeout, tickRate,
    infoMs, given.field?_log, Option.bind_eq_bind, Option.bind_some, Option.map_id_fun, id]
  rfl

end

theorem ofRows?_of_large (large : ¬ o.Fits) :
    Settings.ofRows? (rows ++ tables.map Toml.tableRow) = none := by
  have known := fun field (member : field ∈ o.fields) => given.lookup_field member
  simp only [fields, List.forall_mem_cons] at known
  obtain ⟨_, _, _, _, _, loadTimeout, tickRate, _⟩ := known
  cases read : Settings.ofRows? (rows ++ tables.map Toml.tableRow) with
  | none => rfl
  | some settings =>
      obtain ⟨timeout, rate⟩ := Settings.durations_of_ofRows? read
      refine absurd (fun n named => ?_) large
      by_contra much
      rcases named with same | same
      · rw [Settings.field?_of_large (loadTimeout (by decide)) same much] at timeout
        cases timeout
      · rw [Settings.field?_of_large (tickRate (by decide)) same much] at rate
        cases rate

end Overrides.GivenBy

/-! ## Reading texts -/

namespace Settings

theorem read_eq_ok_iff {s : String} {settings : Settings} :
    read s = .ok settings ↔ (Toml.read? s).bind ofRows? = some settings := by
  unfold read
  split
  next found => rw [found, Except.ok.injEq, Option.some.injEq]
  next found => simp [found]

theorem exists_read_eq_error {s : String} (refused : (Toml.read? s).bind ofRows? = none) :
    ∃ reason, read s = .error (.unreadableToml reason) := by
  rw [read, refused]
  exact ⟨_, rfl⟩

section

variable {o : Overrides} {rows : Toml.Rows} {tables : List (String × Toml.Rows)}
  (given : o.GivenBy rows tables) {s : String}
  (written : Toml.WritesLines Toml.WritesValue (Toml.documentOf rows tables) s.toList)
include given written

theorem read_of_fits (small : ∀ n, o.infoMs = some n → n < 2 ^ 63) (fits : o.Fits) :
    read s = .ok (o.applyTo {}) := by
  rw [read_eq_ok_iff, Toml.read?_of_writesDocument given.distinct given.inside written]
  exact given.ofRows?_of_fits small fits

theorem read_of_large (large : ¬ o.Fits) : ∃ reason, read s = .error (.unreadableToml reason) := by
  apply exists_read_eq_error
  rw [Toml.read?_of_writesDocument given.distinct given.inside written]
  exact given.ofRows?_of_large large

end

end Settings

end Showcase
