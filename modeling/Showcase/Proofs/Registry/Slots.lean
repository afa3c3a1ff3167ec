import Mathlib.Data.List.Basic
import Showcase.Proofs.Disk.Walk
import Showcase.Registry.Discovery

/-!
# The slots of a registry

Different keys have different places (`virtualPath_injective`), and a loader that is put at a place
is found there and changes no other place (`lookup_putSlot`).  So the loader of a key in the
registry of some samples is that of the last sample with the key (`resolve?_putSamples`).

The samples in a directory of a plain disk are the files in it that match (`exists_discovered`).
The key of a sample tells the names that lead to its file, so no two samples have one key.
-/

namespace Showcase

namespace Registry

/-- Different keys have different places. -/
theorem virtualPath_injective (base : String) : Function.Injective (virtualPath base) := by
  intro key other same
  unfold virtualPath at same
  split at same
  next => exact same
  next =>
    rw [String.ofList_inj, List.append_cancel_left_eq, List.cons.injEq] at same
    exact String.toList_inj.1 same.2

variable {α : Type}

/-- A loader that is put at a place changes that place only. -/
theorem lookup_putSlot (path other : String) (loader : α) (slots : List (String × α)) :
    (putSlot path loader slots).lookup other =
      if other = path then some loader else slots.lookup other := by
  induction slots with
  | nil => rw [putSlot, lookup_cons_eq_ite]
  | cons slot slots induction =>
      obtain ⟨p, old⟩ := slot
      rw [putSlot]
      split
      next => rw [lookup_cons_eq_ite]
      next =>
        split
        next same =>
          subst same
          rw [lookup_cons_eq_ite, lookup_cons_eq_ite]
          split <;> rfl
        next further =>
          rw [lookup_cons_eq_ite, lookup_cons_eq_ite, induction]
          by_cases here : other = p
          · subst here
            rw [if_pos rfl, if_neg (Ne.symm further), if_pos rfl]
          · rw [if_neg here, if_neg here]

theorem resolve?_put (r : Registry α) (key other : String) (loader : α) :
    (r.put key loader).resolve? other = if other = key then some loader else r.resolve? other := by
  unfold resolve? put putAt place
  rw [lookup_putSlot]
  exact if_congr (virtualPath_injective r.base).eq_iff rfl rfl

/-- The loader of a key is that of the last sample with the key. -/
theorem resolve?_putSamples (r : Registry FileLoader) (samples : List Sample) (key : String) :
    (r.putSamples samples).resolve? key =
      ((samples.reverse.find? (·.key == key)).map fun s => ⟨r.place key, s.path⟩).or
        (r.resolve? key) := by
  induction samples generalizing r with
  | nil => rfl
  | cons s samples induction =>
      have first : (r.putSamples (s :: samples)) =
          (r.put s.key ⟨r.place s.key, s.path⟩).putSamples samples := rfl
      rw [first, induction, resolve?_put, List.reverse_cons, List.find?_append]
      have placed : (r.put s.key ⟨r.place s.key, s.path⟩).place key = r.place key := rfl
      rw [placed]
      by_cases same : s.key = key
      · subst same
        cases samples.reverse.find? (·.key == s.key) <;> simp
      · cases samples.reverse.find? (·.key == key) <;> simp [same, Ne.symm same]

theorem base_putSamples (r : Registry FileLoader) (samples : List Sample) :
    (r.putSamples samples).base = r.base := by
  induction samples generalizing r with
  | nil => rfl
  | cons s samples induction => exact induction _

/-- Every loader keeps its text in the cache under the place of its key. -/
def Slotted (r : Registry FileLoader) : Prop :=
  ∀ ⦃key loader⦄, r.resolve? key = some loader → loader.slot = r.place key

section

variable (base : String) {samples : List Sample}

/-- Where no two samples have one key, each is loaded under its own. -/
theorem resolve?_of_mem (single : ∀ s ∈ samples, ∀ t ∈ samples, s.key = t.key → s = t) {s : Sample}
    (member : s ∈ samples) :
    ((Registry.empty base).putSamples samples).resolve? s.key =
      some ⟨virtualPath base s.key, s.path⟩ := by
  rw [resolve?_putSamples]
  cases found : samples.reverse.find? (·.key == s.key) with
  | none =>
      rw [List.find?_eq_none] at found
      exact absurd (beq_self_eq_true s.key) (found s (List.mem_reverse.2 member))
  | some t =>
      have same : t.key = s.key := by simpa using List.find?_some found
      obtain rfl := single t (List.mem_reverse.1 (List.mem_of_find?_eq_some found)) s member same
      rfl

theorem resolve?_eq_none_iff (key : String) :
    ((Registry.empty base).putSamples samples).resolve? key = none ↔
      ∀ s ∈ samples, s.key ≠ key := by
  rw [resolve?_putSamples]
  simp [resolve?, Registry.empty]

theorem slotted_putSamples : ((Registry.empty base).putSamples samples).Slotted := by
  intro key loader known
  rw [resolve?_putSamples] at known
  rw [place, base_putSamples]
  cases found : samples.reverse.find? (·.key == key) with
  | none =>
      rw [found] at known
      cases known
  | some s =>
      rw [found] at known
      cases known
      rfl

end

end Registry

namespace Sample

theorem mem_ofWalk_iff {tokens : List Glob.Token} {walked : List Disk.Found} {s : Sample} :
    s ∈ ofWalk tokens walked ↔
      (∃ found ∈ walked, s = ⟨keyOf found, found.path⟩) ∧ Glob.isMatch tokens s.key = true := by
  unfold ofWalk
  rw [List.mem_mergeSort, List.mem_filter, List.mem_map]
  simp only [eq_comm]

/-- The samples in a directory of a plain disk are the files in it whose names, with slashes between
them, match the pattern. -/
theorem exists_discovered {d : Disk} (plain : d.isPlain = true) {dir pattern : String}
    {tokens : List Glob.Token} (valid : Glob.parse pattern = .ok tokens) {start : Disk.Place}
    {item : Disk.Item} (there : d.locate dir true = .ok (start, item)) :
    ∃ samples, discover d dir pattern = .ok samples ∧
      ∀ s, s ∈ samples ↔
        (∃ below text, d.at? (start ++ below) = some (.file text) ∧
          s = ⟨"/".intercalate below, below.foldl Disk.Path.join dir⟩) ∧
        Glob.isMatch tokens s.key = true := by
  refine ⟨ofWalk tokens (item.files [] dir), ?_, fun s => ?_⟩
  · simp only [discover, valid, Disk.walk_eq_files plain there]
  · have here : d.tree.at? start = some item := Disk.at?_of_locate plain there
    have inside : ∀ below, d.at? (start ++ below) = item.at? below := by
      intro below
      rw [Disk.at?, Disk.Item.at?_append, here, Option.bind_some]
    rw [mem_ofWalk_iff]
    refine and_congr_left fun _ => ?_
    simp only [Disk.Item.mem_files_iff (Disk.Item.isPlain_of_at? plain here).1, inside, keyOf,
      List.nil_append]
    constructor
    · rintro ⟨found, ⟨below, text, file, rfl⟩, rfl⟩
      exact ⟨below, text, file, rfl⟩
    · rintro ⟨below, text, file, rfl⟩
      exact ⟨_, ⟨below, text, file, rfl⟩, rfl⟩

/-- The key of a file in a directory of a plain disk tells the names that lead to it. -/
theorem exists_file_at_key {d : Disk} (plain : d.isPlain = true) {dir : String}
    {start : Disk.Place} {s : Sample}
    (found : ∃ below text, d.at? (start ++ below) = some (.file text) ∧
      s = ⟨"/".intercalate below, below.foldl Disk.Path.join dir⟩) :
    ∃ text, d.at? (start ++ Disk.Path.names s.key) = some (.file text) ∧
      s = ⟨"/".intercalate (Disk.Path.names s.key),
        (Disk.Path.names s.key).foldl Disk.Path.join dir⟩ := by
  obtain ⟨below, text, file, rfl⟩ := found
  refine ⟨text, ?_⟩
  rw [Disk.Path.names_intercalate (Disk.isName_of_at? plain file)]
  exact ⟨file, rfl⟩

end Sample

end Showcase
