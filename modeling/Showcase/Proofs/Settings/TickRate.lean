import Showcase.Proofs.Disk.Links
import Showcase.Proofs.Settings.Overrides
import Showcase.Startup

/-!
# A tick rate of zero

The time between two ticks must not be zero, since nothing can tick then.  Settings are not checked
for it: a text that words a tick rate of zero is accepted like any other.  This module says exactly
which texts do (`Settings.WordsNoTicks`), so that every other accepted text gives a tick rate
above zero.
-/

namespace Showcase.Settings

/-- A settings text words a tick rate of zero. -/
def WordsNoTicks (s : String) : Prop :=
  ∃ rows text, Toml.read? s = some rows ∧
    rows.lookup "tick_rate" = some (.scalar (.string text)) ∧ Duration.WordsZero text

/-- A duration is the default or what a text words. -/
theorem field?_duration_cases {rows : Toml.Rows} {name : String} {default d : Duration}
    (read : field? rows name duration? default = some d) :
    rows.lookup name = none ∧ d = default ∨
      ∃ text, rows.lookup name = some (.scalar (.string text)) ∧ Duration.read? text = some d := by
  unfold field? at read
  split at read
  next missing =>
    cases read
    exact Or.inl ⟨missing, rfl⟩
  next node found =>
    obtain ⟨text, isText, read⟩ := Option.bind_eq_some_iff.1 read
    refine Or.inr ⟨text, ?_, read⟩
    cases node with
    | scalar value =>
        cases value with
        | string other =>
            cases isText
            exact found
        | integer | float | bool | moment => cases isText
    | array | table | series => cases isText

/-- The tick rate of an accepted text is zero exactly if the text words it so. -/
theorem tickRate_eq_zero_iff {s : String} {settings : Settings} (accepted : read s = .ok settings) :
    settings.tickRate.nanos = 0 ↔ WordsNoTicks s := by
  obtain ⟨rows, parsed, given⟩ := Option.bind_eq_some_iff.1 (read_eq_ok_iff.1 accepted)
  rcases field?_duration_cases (durations_of_ofRows? given).2 with
    ⟨missing, same⟩ | ⟨text, found, worded⟩
  · rw [same]
    refine iff_of_false (by decide) ?_
    rintro ⟨rows', text, parsed', found, _⟩
    cases parsed.symm.trans parsed'
    cases missing.symm.trans found
  · rw [Duration.nanos_eq_zero_iff worded]
    constructor
    · exact fun zero => ⟨rows, text, parsed, found, zero⟩
    · rintro ⟨rows', text', parsed', found', zero⟩
      cases parsed.symm.trans parsed'
      cases found.symm.trans found'
      exact zero

theorem exists_text_of_ofFile {d : Disk} {path : String} {settings : Settings}
    (loaded : ofFile d path = .ok settings) :
    ∃ text, readFile d path = .ok text ∧ read text = .ok settings := by
  unfold ofFile at loaded
  cases opened : readFile d path with
  | error fault =>
      rw [opened] at loaded
      cases loaded
  | ok text =>
      rw [opened] at loaded
      exact ⟨text, rfl, loaded⟩

/-- The settings of a start are the defaults or those of the settings file. -/
theorem startup_settings_cases {d : Disk} {env : Environment} {settings : Settings}
    (found : (Startup.settings d env).2 = .ok settings) :
    settings = {} ∨
      ∃ text, readFile d (env.settingsFile.getD env.places.file) = .ok text ∧
        read text = .ok settings := by
  unfold Startup.settings at found
  cases named : env.settingsFile with
  | some path =>
      rw [named] at found
      cases loaded : ofFile d path with
      | error fault =>
          simp only [loaded, Startup.attempt] at found
          cases found
      | ok others =>
          simp only [loaded, Startup.attempt] at found
          cases found
          exact Or.inr (exists_text_of_ofFile loaded)
  | none =>
      rw [named] at found
      cases loaded : load d env.places with
      | error fault =>
          simp only [loaded] at found
          cases found
          exact Or.inl rfl
      | ok others =>
          simp only [loaded] at found
          cases found
          unfold load at loaded
          split at loaded
          next => exact Or.inr (exists_text_of_ofFile loaded)
          next =>
            cases loaded
            exact Or.inl rfl

/-- An accepted text gives a tick rate above zero unless it words one of zero, and so does the start
of the program with the settings file that it reads. -/
theorem tick_rate_is_above_zero_unless_worded (s : String) (d : Disk) (env : Environment)
    (settings : Settings) :
    (read s = .ok settings → (0 < settings.tickRate.nanos ↔ ¬ WordsNoTicks s)) ∧
    ((Startup.settings d env).2 = .ok settings →
      (0 < settings.tickRate.nanos ↔
        ¬ ∃ text, readFile d (env.settingsFile.getD env.places.file) = .ok text ∧
          read text = .ok settings ∧ WordsNoTicks text)) := by
  refine ⟨fun accepted => ?_, fun found => ?_⟩
  · rw [Nat.pos_iff_ne_zero, ne_eq, tickRate_eq_zero_iff accepted]
  · rw [Nat.pos_iff_ne_zero, ne_eq, not_iff_not]
    constructor
    · intro zero
      rcases startup_settings_cases found with rfl | ⟨text, opened, accepted⟩
      · cases zero
      · exact ⟨text, opened, accepted, (tickRate_eq_zero_iff accepted).1 zero⟩
    · rintro ⟨text, _, accepted, worded⟩
      exact (tickRate_eq_zero_iff accepted).2 worded

/-- A term of zero does not make a tick rate zero if another term adds a millisecond, neither in a
text nor in the settings file of a start. -/
theorem zero_and_a_millisecond_ticks :
    let s := "tick_rate = \"0s 1ms\"\n"
    let settings : Settings := { tickRate := ⟨1000000⟩ }
    let d : Disk := { root := [("settings.toml", .file (some s))] }
    let env : Environment :=
      { settingsFile := some "settings.toml", places := { home := "/home" }, shippedDir := "/s" }
    read s = .ok settings ∧ ¬ WordsNoTicks s ∧ (Startup.settings d env).2 = .ok settings ∧
      ¬ ∃ text, readFile d "settings.toml" = .ok text ∧ read text = .ok settings ∧
        WordsNoTicks text := by
  intro s settings d env
  have accepted : read s = .ok settings := by decide +kernel
  have there : d.locate "settings.toml" true = .ok (["settings.toml"], .file (some s)) :=
    Disk.locate_name (by decide) rfl rfl (by simp) true
  have started : (Startup.settings d env).2 = .ok settings := by
    simp only [Startup.settings, env, ofFile, readFile, Disk.readText, there, Startup.attempt,
      Except.bind, accepted]
  obtain ⟨ofText, ofStart⟩ := tick_rate_is_above_zero_unless_worded s d env settings
  exact ⟨accepted, (ofText accepted).1 (by decide), started, (ofStart started).1 (by decide)⟩

/-- A tick rate of zero is accepted. -/
theorem zero_tick_rate_is_accepted :
    ∃ settings, read "tick_rate = \"0s\"\n" = .ok settings ∧ ¬ 0 < settings.tickRate.nanos := by
  have accepted : read "tick_rate = \"0s\"\n" = .ok { tickRate := ⟨0⟩ } := by decide +kernel
  exact ⟨_, accepted, by decide⟩

end Showcase.Settings
