import Mathlib.Data.Set.Function
import Showcase.Proofs.Registry.Registrations
import Showcase.Selection.Basic

/-!
# Auditing a registry

An audit compares two lists without repetition: the keys of a catalog and the places of a registry
(`pairwise_paths`).  Since different keys have different places, the covered keys and the covered
places are equally many (`perm_covered`), and the rest on the two sides is what the audit names.
So the audit counts (`size_add_missing`), and it is clean exactly when keys and places correspond
one to one (`isClean_iff_bijOn`).

A key is named as missing exactly when selecting its entry ends in the fault of a missing loader
(`missing_eq`).
-/

namespace Showcase

namespace Registry

variable {α : Type}

/-! ## What an audit compares -/

theorem place_injective (r : Registry α) : Function.Injective r.place :=
  virtualPath_injective r.base

theorem mem_missing_iff {r : Registry α} {c : Catalog} {key : String} :
    key ∈ (r.audit c).missing ↔ key ∈ c.keys ∧ r.contains key = false := by
  simp [audit]

theorem mem_orphans_iff {r : Registry α} {c : Catalog} {path : String} :
    path ∈ (r.audit c).orphans ↔ path ∈ r.paths ∧ ∀ key ∈ c.keys, r.place key ≠ path := by
  simp [audit]

/-- The covered places are the places of the covered keys. -/
theorem perm_covered {r : Registry α} (increasing : r.paths.Pairwise (· < ·)) (c : Catalog) :
    ((c.keys.filter r.contains).map r.place).Perm
      (r.paths.filter ((c.keys.map r.place).contains ·)) := by
  have keys : c.keys.Nodup := c.distinct
  have places : r.paths.Nodup := increasing.imp ne_of_lt
  rw [List.perm_ext_iff_of_nodup ((keys.filter _).map r.place_injective) (places.filter _)]
  intro path
  simp only [List.mem_map, List.mem_filter, contains_iff, List.contains_iff_mem]
  constructor
  · rintro ⟨key, ⟨known, there⟩, rfl⟩
    exact ⟨there, key, known, rfl⟩
  · rintro ⟨there, key, known, rfl⟩
    exact ⟨key, ⟨known, there⟩, rfl⟩

/-- Loaders and missing keys are as many as entries and orphans. -/
theorem size_add_missing {r : Registry α} (increasing : r.paths.Pairwise (· < ·)) (c : Catalog) :
    r.size + (r.audit c).missing.length = c.size + (r.audit c).orphans.length := by
  have keys := List.length_eq_length_filter_add (l := c.keys) r.contains
  have places :=
    List.length_eq_length_filter_add (l := r.paths) ((c.keys.map r.place).contains ·)
  have covered := (perm_covered increasing c).length_eq
  rw [List.length_map] at covered
  have entries : c.keys.length = c.size := List.length_map _
  have loaders : r.paths.length = r.size := List.length_map _
  simp only [audit]
  omega

theorem isClean_iff_bijOn (r : Registry α) (c : Catalog) :
    (r.audit c).isClean = true ↔
      Set.BijOn r.place {key | key ∈ c.keys} {path | path ∈ r.paths} := by
  rw [Audit.isClean, Bool.and_eq_true, List.isEmpty_iff, List.isEmpty_iff,
    List.eq_nil_iff_forall_not_mem, List.eq_nil_iff_forall_not_mem]
  constructor
  · rintro ⟨noneMissing, noneOrphan⟩
    refine ⟨?_, r.place_injective.injOn, ?_⟩
    · intro key known
      by_contra absent
      apply noneMissing key
      rw [mem_missing_iff, ← Bool.not_eq_true, contains_iff]
      exact ⟨known, absent⟩
    · intro path there
      by_contra unreached
      apply noneOrphan path
      rw [mem_orphans_iff]
      exact ⟨there, fun key known same => unreached ⟨key, known, same⟩⟩
  · rintro ⟨covered, -, reached⟩
    constructor
    · intro key missing
      obtain ⟨known, absent⟩ := mem_missing_iff.1 missing
      rw [← Bool.not_eq_true, contains_iff] at absent
      exact absent (covered known)
    · intro path orphan
      obtain ⟨there, unreached⟩ := mem_orphans_iff.1 orphan
      obtain ⟨key, known, same⟩ := reached there
      exact unreached key known same

/-! ## What an audit foretells -/

/-- Selecting an entry ends in the fault of a missing loader exactly when its key has none. -/
theorem select_misses_iff (s : Selection) (r : Registry α) (e : Entry) :
    (s.select r e).1.state.fault?.any Fault.isNoLoader = !r.contains e.key := by
  cases found : r.resolve? e.key with
  | some loader =>
      rw [s.select_of_loader found, contains, found]
      rfl
  | none =>
      rw [s.select_of_no_loader found, contains, found]
      rfl

/-- The missing keys are those of the entries that cannot be selected, in the order of the
catalog. -/
theorem missing_eq (r : Registry α) (c : Catalog) (s : Selection) :
    (r.audit c).missing =
      (c.entries.filter fun e => (s.select r e).1.state.fault?.any Fault.isNoLoader).map
        (·.key) := by
  simp only [select_misses_iff, audit, Catalog.keys, List.filter_map]
  rfl

theorem enforce_eq_ok_iff (a : Audit) : a.enforce true = .ok () ↔ a.missing = [] := by
  cases missing : a.missing with
  | nil => simp [Audit.enforce, missing]
  | cons key keys => simp [Audit.enforce, missing]

theorem eq_uncovered_of_enforce {a : Audit} {fault : Fault}
    (refused : a.enforce true = .error fault) : fault = .uncovered a.missing := by
  unfold Audit.enforce at refused
  split at refused
  next => exact (Except.error.inj refused).symm
  next => cases refused

end Registry

end Showcase
