import Mathlib.Data.List.Dedup
import Mathlib.Data.List.Induction
import Mathlib.Data.String.Basic
import Showcase.Proofs.Registry.Slots

/-!
# Building a registry

A registry is built by registrations, each at the place of a key or at a place directly.  One at the
place of a key can be given as a loader or as the text itself (`Registry.Addition`).

However it is built, the loader of a key is that of the last registration at the place of the key
(`Registry.resolve?_ofRegistrations`), the places increase (`Registry.pairwise_paths`), so each is
there once, and they are those of the registrations (`Registry.mem_paths_iff`).

Two registrations are at one place when their keys are the same (`Registry.virtualPath_injective`)
or when one of them names the place of the other's key.  Slashes at the end of the base move no
place (`Registry.virtualPath_append_slashes`), so they change nothing in the registry but its base.
-/

namespace Showcase.Registry

variable {α : Type}

/-! ## Registrations -/

/-- A loader and where it is put. -/
inductive Registration (α : Type) where
  /-- At the place of a key. -/
  | atKey (key : String) (loader : α)
  /-- At a place directly. -/
  | atPath (path : String) (loader : α)

/-- The place of a registration under a base. -/
def Registration.place (base : String) : Registration α → String
  | atKey key _ => virtualPath base key
  | atPath path _ => path

/-- The loader of a registration. -/
def Registration.loader : Registration α → α
  | atKey _ loader | atPath _ loader => loader

/-- A registry after one more registration. -/
def register (r : Registry α) : Registration α → Registry α
  | .atKey key loader => r.put key loader
  | .atPath path loader => r.putAt path loader

/-- The registry of registrations under a base. -/
def ofRegistrations (base : String) (registrations : List (Registration α)) : Registry α :=
  registrations.foldl register (Registry.empty base)

/-- Something that is given to a registry. -/
inductive Addition (α : Type) where
  /-- A loader for a key. -/
  | loaderFor (key : String) (loader : α)
  /-- The text for a key. -/
  | textFor (key text : String)
  /-- A loader for a place. -/
  | loaderAt (path : String) (loader : α)

/-- What is registered when something is given.  The loader that brings a text is made by
`still`. -/
def Addition.registration (still : String → α) : Addition α → Registration α
  | loaderFor key loader => .atKey key loader
  | textFor key text => .atKey key (still text)
  | loaderAt path loader => .atPath path loader

/-! ## Places under a base -/

theorem trimSlashes_append_slashes (cs : List Char) (n : Nat) :
    trimSlashes (cs ++ List.replicate n '/') = trimSlashes cs := by
  have slashes : ∀ c ∈ List.replicate n '/', (c == '/') = true := by simp
  rw [trimSlashes, trimSlashes, List.reverse_append, List.reverse_replicate,
    List.dropWhile_append_of_pos slashes]

/-- Slashes at the end of the base make no difference to the place of a key. -/
theorem virtualPath_append_slashes (base : String) (n : Nat) (key : String) :
    virtualPath (base ++ String.ofList (List.replicate n '/')) key = virtualPath base key := by
  rw [virtualPath, virtualPath, String.toList_append, String.toList_ofList,
    trimSlashes_append_slashes]

theorem Registration.place_append_slashes (base : String) (n : Nat)
    (registration : Registration α) :
    registration.place (base ++ String.ofList (List.replicate n '/')) =
      registration.place base := by
  cases registration with
  | atKey key loader => exact virtualPath_append_slashes base n key
  | atPath path loader => rfl

theorem contains_iff {r : Registry α} {key : String} :
    r.contains key = true ↔ r.place key ∈ r.paths := by
  rw [contains, resolve?, List.lookup_isSome_iff, paths, List.mem_map]
  simp only [beq_iff_eq, eq_comm (b := r.place key)]

/-! ## One registration -/

theorem mem_map_fst_putSlot {path other : String} {loader : α} {slots : List (String × α)} :
    other ∈ (putSlot path loader slots).map (·.1) ↔ other = path ∨ other ∈ slots.map (·.1) := by
  induction slots with
  | nil => simp [putSlot]
  | cons slot slots induction =>
      obtain ⟨p, old⟩ := slot
      rw [putSlot]
      split
      next before => simp
      next notBefore =>
        split
        next same =>
          subst same
          simp
        next further =>
          rw [List.map_cons, List.mem_cons, induction, List.map_cons, List.mem_cons]
          exact or_left_comm

/-- A slot goes where the order of the places wants it. -/
theorem pairwise_putSlot {slots : List (String × α)}
    (increasing : (slots.map (·.1)).Pairwise (· < ·)) (path : String) (loader : α) :
    ((putSlot path loader slots).map (·.1)).Pairwise (· < ·) := by
  induction slots with
  | nil => exact List.pairwise_singleton _ _
  | cons slot slots induction =>
      obtain ⟨p, old⟩ := slot
      obtain ⟨first, rest⟩ := List.pairwise_cons.1 increasing
      rw [putSlot]
      split
      next before =>
        refine List.pairwise_cons.2 ⟨?_, increasing⟩
        intro other member
        rcases List.mem_cons.1 member with rfl | later
        · exact before
        · exact before.trans (first other later)
      next notBefore =>
        split
        next same =>
          subst same
          exact increasing
        next further =>
          refine List.pairwise_cons.2 ⟨?_, induction rest⟩
          intro other member
          rcases mem_map_fst_putSlot.1 member with rfl | later
          · exact lt_of_le_of_ne (not_lt.1 notBefore) (Ne.symm further)
          · exact first other later

/-- A registration is a loader put at its place. -/
theorem register_eq (r : Registry α) (registration : Registration α) :
    r.register registration = r.putAt (registration.place r.base) registration.loader := by
  cases registration <;> rfl

/-! ## All registrations -/

section

variable (base : String) (registrations : List (Registration α))

theorem base_ofRegistrations : (ofRegistrations base registrations).base = base := by
  apply List.foldlRecOn (motive := fun r : Registry α => r.base = base) registrations register rfl
  intro r kept registration _
  rw [register_eq]
  exact kept

theorem ofRegistrations_concat (last : Registration α) :
    ofRegistrations base (registrations ++ [last]) =
      (ofRegistrations base registrations).putAt (last.place base) last.loader := by
  rw [ofRegistrations, List.foldl_concat, ← ofRegistrations, register_eq, base_ofRegistrations]

/-- The places of a registry increase, so it has each of them once. -/
theorem pairwise_paths : (ofRegistrations base registrations).paths.Pairwise (· < ·) := by
  induction registrations using List.reverseRecOn with
  | nil => exact List.Pairwise.nil
  | append_singleton registrations last induction =>
      rw [ofRegistrations_concat]
      exact pairwise_putSlot induction _ _

/-- The places of a registry are those of its registrations. -/
theorem mem_paths_iff {path : String} :
    path ∈ (ofRegistrations base registrations).paths ↔
      ∃ registration ∈ registrations, registration.place base = path := by
  induction registrations using List.reverseRecOn with
  | nil => simp [ofRegistrations, Registry.empty, paths]
  | append_singleton registrations last induction =>
      rw [ofRegistrations_concat, paths, putAt, mem_map_fst_putSlot, ← paths, induction, or_comm]
      simp only [List.mem_append, List.mem_singleton, or_and_right, exists_or, exists_eq_left,
        eq_comm (a := path)]

theorem perm_paths_dedup :
    (ofRegistrations base registrations).paths.Perm (registrations.map (·.place base)).dedup := by
  have once := (pairwise_paths base registrations).imp ne_of_lt
  rw [List.perm_ext_iff_of_nodup once (List.nodup_dedup _)]
  intro path
  rw [mem_paths_iff, List.mem_dedup, List.mem_map]

/-- The loader of a key is that of the last registration at the place of the key. -/
theorem resolve?_ofRegistrations (key : String) :
    (ofRegistrations base registrations).resolve? key =
      (registrations.filter (·.place base == virtualPath base key)).getLast?.map
        Registration.loader := by
  rw [resolve?, place, base_ofRegistrations]
  induction registrations using List.reverseRecOn with
  | nil => rfl
  | append_singleton registrations last induction =>
      rw [ofRegistrations_concat, putAt, lookup_putSlot, induction, List.filter_append]
      by_cases here : virtualPath base key = last.place base
      · rw [if_pos here, List.filter_singleton, here, beq_self_eq_true]
        simp
      · rw [if_neg here, List.filter_singleton, beq_false_of_ne (Ne.symm here)]
        simp

/-- A place that is named outright takes the place of a key, under a base with slashes. -/
example :
    let r := ofRegistrations "s//" [.atKey "a" "first", .atPath "b" "free", .atPath "s/a" "last"]
    r.resolve? "a" = some "last" ∧ r.resolve? "b" = none ∧ r.paths = ["b", "s/a"] := by
  decide

/-- A key is known exactly when something was registered at its place. -/
theorem contains_ofRegistrations_iff (key : String) :
    (ofRegistrations base registrations).contains key = true ↔
      ∃ registration ∈ registrations, registration.place base = virtualPath base key := by
  rw [contains_iff, mem_paths_iff, place, base_ofRegistrations]

/-- Slashes at the end of the base put no loader elsewhere. -/
theorem slots_ofRegistrations_append_slashes (n : Nat) :
    (ofRegistrations (base ++ String.ofList (List.replicate n '/')) registrations).slots =
      (ofRegistrations base registrations).slots := by
  induction registrations using List.reverseRecOn with
  | nil => rfl
  | append_singleton registrations last induction =>
      rw [ofRegistrations_concat, ofRegistrations_concat, putAt, putAt, induction,
        last.place_append_slashes]

theorem resolve?_ofRegistrations_append_slashes (n : Nat) (key : String) :
    (ofRegistrations (base ++ String.ofList (List.replicate n '/')) registrations).resolve? key =
      (ofRegistrations base registrations).resolve? key := by
  rw [resolve?, resolve?, slots_ofRegistrations_append_slashes, place, place,
    base_ofRegistrations, base_ofRegistrations, virtualPath_append_slashes]

end

/-- Whatever is given to a registry in whatever order, the loader of a key is the last one that was
given for the place of the key, be it for the key or for the place, and the places are those for
which something was given, each once and in their order.  Different keys have different places.
Slashes at the end of the base change nothing. -/
theorem last_addition_to_a_place_stays (still : String → α) (base : String)
    (additions : List (Addition α)) :
    let added := additions.map (Addition.registration still)
    let r := ofRegistrations base added
    (∀ key, r.resolve? key =
      (added.filter (·.place base == virtualPath base key)).getLast?.map Registration.loader) ∧
    (∀ key, (r.contains key = true ↔ ∃ loader, r.resolve? key = some loader) ∧
      (r.contains key = true ↔ ∃ a ∈ added, a.place base = virtualPath base key)) ∧
    (r.paths.Pairwise (· < ·) ∧ (∀ path, path ∈ r.paths ↔ ∃ a ∈ added, a.place base = path) ∧
      r.size = r.paths.length ∧ r.size = (added.map (·.place base)).dedup.length) ∧
    (∀ key other, virtualPath base key = virtualPath base other ↔ key = other) ∧
    ∀ n,
      let longer := base ++ String.ofList (List.replicate n '/')
      let r' := ofRegistrations longer added
      (∀ key, virtualPath longer key = virtualPath base key ∧ r'.resolve? key = r.resolve? key ∧
        r'.contains key = r.contains key) ∧
      r'.paths = r.paths ∧ r'.size = r.size := by
  intro added r
  have places : r.size = r.paths.length := (List.length_map _).symm
  refine ⟨resolve?_ofRegistrations base added, fun key => ⟨?_, ?_⟩,
    ⟨pairwise_paths base added, fun path => mem_paths_iff base added, places, ?_⟩,
    fun key other => (virtualPath_injective base).eq_iff, fun n => ?_⟩
  · exact Option.isSome_iff_exists
  · exact contains_ofRegistrations_iff base added key
  · rw [places]
    exact (perm_paths_dedup base added).length_eq
  · intro longer r'
    have slots : r'.slots = r.slots := slots_ofRegistrations_append_slashes base added n
    have resolved : ∀ key, r'.resolve? key = r.resolve? key :=
      resolve?_ofRegistrations_append_slashes base added n
    refine ⟨fun key => ⟨virtualPath_append_slashes base n key, resolved key, ?_⟩, ?_, ?_⟩
    · rw [contains, contains, resolved]
    · rw [paths, paths, slots]
    · rw [size, size, slots]

end Showcase.Registry
