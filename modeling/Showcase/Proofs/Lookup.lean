/-!
# Looking up by name

Directories, registries and tables are lists of names with something under each.  The first one of
a name is what is looked up, so where names are different, each of them is looked up under its own.
-/

namespace Showcase

variable {α β : Type}

theorem lookup_cons_eq_ite (name other : String) (a : α) (slots : List (String × α)) :
    ((name, a) :: slots).lookup other = if other = name then some a else slots.lookup other := by
  by_cases same : other = name
  · rw [if_pos same, same, List.lookup_cons_self]
  · rw [if_neg same, List.lookup_cons, beq_false_of_ne same]

theorem mem_of_lookup_eq_some {slots : List (String × α)} {name : String} {a : α}
    (found : slots.lookup name = some a) : (name, a) ∈ slots := by
  obtain ⟨front, back, rfl, _⟩ := List.lookup_eq_some_iff.1 found
  simp

/-- Of slots with different names each is looked up under its own. -/
theorem lookup_eq_some_of_mem {slots : List (String × α)}
    (different : (slots.map (·.1)).Nodup) {slot : String × α} (member : slot ∈ slots) :
    slots.lookup slot.1 = some slot.2 := by
  induction slots with
  | nil => cases member
  | cons first slots induction =>
      rw [List.map_cons, List.nodup_cons] at different
      rcases List.mem_cons.1 member with rfl | later
      · exact List.lookup_cons_self
      · have other : slot.1 ≠ first.1 := fun same =>
          different.1 (same ▸ List.mem_map_of_mem later)
        rw [lookup_cons_eq_ite, if_neg other]
        exact induction different.2 later

theorem lookup_eq_none_of_notMem {slots : List (String × α)} {name : String}
    (absent : name ∉ slots.map (·.1)) : slots.lookup name = none := by
  cases found : slots.lookup name with
  | none => rfl
  | some a => exact absurd (List.mem_map_of_mem (mem_of_lookup_eq_some found)) absent

/-- A change of what stands under the names changes what is looked up. -/
theorem lookup_map (f : α → β) (slots : List (String × α)) (name : String) :
    (slots.map fun slot => (slot.1, f slot.2)).lookup name = (slots.lookup name).map f := by
  induction slots with
  | nil => rfl
  | cons slot slots induction =>
      obtain ⟨other, a⟩ := slot
      rw [List.map_cons, lookup_cons_eq_ite, lookup_cons_eq_ite, induction]
      split <;> rfl

end Showcase
