import Mathlib.Data.List.Induction
import Mathlib.Data.List.Nodup
import Mathlib.Data.List.Perm.Subperm
import Mathlib.Data.Nat.ModEq
import Mathlib.Tactic.Ring
import Showcase.Proofs.Catalog.Search

/-!
# Going round the categories

The categories of a catalog are `All` and then the categories of its entries, each where it is
first met (`Catalog.firstMet_categories`).  So none of them stands there twice, and the place of a
category in the list says everything about it.

A filter that stands on a category is moved by numbers of places, round and round
(`Filter.StandsOn.iterate`).  Going back is going forward by all places but one.  Both ways meet
every category before they come back, because either step has no divisor in common with the number
of places (`Filter.StandsOn.perm_visited`).

Main statement: `Catalog.categories_cover_the_entries`.
-/

namespace Showcase

namespace Catalog

/-! ## The list of categories -/

/-- Names picked from others: each name but one, in the order in which they are first met. -/
structure FirstMet (names : List String) (apart : String) (picked : List String) : Prop where
  mem_iff : ∀ name, name ∈ picked ↔ name ≠ apart ∧ name ∈ names
  ordered : picked.Pairwise fun a b => names.idxOf a < names.idxOf b

/-- A name that was met before is met first where it was. -/
theorem FirstMet.concat_old {names picked : List String} {apart name : String}
    (met : FirstMet names apart picked) (old : name = apart ∨ name ∈ picked) :
    FirstMet (names ++ [name]) apart picked where
  mem_iff := by
    intro other
    rw [met.mem_iff, List.mem_append, List.mem_singleton]
    constructor
    · rintro ⟨different, known⟩
      exact ⟨different, Or.inl known⟩
    · rintro ⟨different, known | rfl⟩
      · exact ⟨different, known⟩
      · exact ⟨different, ((met.mem_iff other).1 (old.resolve_left different)).2⟩
  ordered := by
    apply met.ordered.imp_of_mem
    intro a b memberA memberB before
    rwa [List.idxOf_append_of_mem ((met.mem_iff a).1 memberA).2,
      List.idxOf_append_of_mem ((met.mem_iff b).1 memberB).2]

/-- A name that was not met before is met after all the others. -/
theorem FirstMet.concat_new {names picked : List String} {apart name : String}
    (met : FirstMet names apart picked) (different : name ≠ apart) (new : name ∉ picked) :
    FirstMet (names ++ [name]) apart (picked ++ [name]) where
  mem_iff := by
    intro other
    rw [List.mem_append, List.mem_append, met.mem_iff, List.mem_singleton, and_or_left]
    have : other = name ↔ other ≠ apart ∧ other = name := by
      constructor
      · rintro rfl
        exact ⟨different, rfl⟩
      · exact And.right
    rw [← this]
  ordered := by
    have unmet : name ∉ names := fun known => new ((met.mem_iff name).2 ⟨different, known⟩)
    rw [List.pairwise_append]
    refine ⟨?_, List.pairwise_singleton .., ?_⟩
    · apply met.ordered.imp_of_mem
      intro a b memberA memberB before
      rwa [List.idxOf_append_of_mem ((met.mem_iff a).1 memberA).2,
        List.idxOf_append_of_mem ((met.mem_iff b).1 memberB).2]
    · intro a member b last
      obtain rfl := List.mem_singleton.1 last
      have known : a ∈ names := ((met.mem_iff a).1 member).2
      rw [List.idxOf_append_of_mem known, List.idxOf_append_of_notMem unmet]
      exact Nat.lt_add_right _ (List.idxOf_lt_length_iff.2 known)

theorem exists_firstMet_foldl (names : List String) :
    ∃ picked, names.foldl addNew [everything] = everything :: picked ∧
      FirstMet names everything picked := by
  -- Names are added at the end, so the induction takes them from there.
  induction names using List.reverseRecOn with
  | nil => exact ⟨[], rfl, by simp, .nil⟩
  | append_singleton names name induction =>
      obtain ⟨picked, added, met⟩ := induction
      rw [List.foldl_concat, added, addNew]
      split
      next known =>
        have old : name = everything ∨ name ∈ picked := by simpa using known
        exact ⟨picked, rfl, met.concat_old old⟩
      next unknown =>
        have new : name ≠ everything ∧ name ∉ picked := by simpa using unknown
        exact ⟨picked ++ [name], rfl, met.concat_new new.1 new.2⟩

/-- The categories are `All` and those of the entries in the order of their first appearance. -/
theorem firstMet_categories (c : Catalog) :
    ∃ picked, c.categories = everything :: picked ∧
      FirstMet (c.entries.map (·.category)) everything picked :=
  exists_firstMet_foldl _

theorem nodup_categories (c : Catalog) : c.categories.Nodup := by
  obtain ⟨picked, listed, met⟩ := c.firstMet_categories
  rw [listed, List.nodup_cons]
  refine ⟨fun member => ((met.mem_iff everything).1 member).1 rfl, met.ordered.imp ?_⟩
  rintro a b before rfl
  exact Nat.lt_irrefl _ before

theorem mem_categories_iff {c : Catalog} {name : String} :
    name ∈ c.categories ↔ name = everything ∨ ∃ e ∈ c.entries, e.category = name := by
  obtain ⟨picked, listed, met⟩ := c.firstMet_categories
  rw [listed, List.mem_cons, met.mem_iff, List.mem_map]
  constructor
  · rintro (rfl | ⟨_, known⟩)
    · exact Or.inl rfl
    · exact Or.inr known
  · rintro (rfl | known)
    · exact Or.inl rfl
    · by_cases same : name = everything
      · exact Or.inl same
      · exact Or.inr ⟨same, known⟩

end Catalog

namespace Filter

/-! ## Going round -/

/-- A filter stands on a place of a list of categories. -/
def StandsOn (f : Filter) (categories : List String) (i : Nat) : Prop :=
  categories[i]? = some f.category

@[simp] theorem query_stepCategory (f : Filter) (categories : List String) (step : Nat) :
    (f.stepCategory categories step).query = f.query := rfl

theorem query_iterate (f : Filter) (categories : List String) (step k : Nat) :
    ((·.stepCategory categories step)^[k] f).query = f.query := by
  induction k with
  | zero => rfl
  | succ k induction => rw [Function.iterate_succ_apply', query_stepCategory, induction]

/-- A category that is not in the list gives way to the first one. -/
theorem stepCategory_of_notMem {f : Filter} {first : String} {rest : List String}
    (unknown : f.category ∉ first :: rest) (step : Nat) :
    f.stepCategory (first :: rest) step = { f with category := first } := by
  have nowhere : (first :: rest).findIdx? (· == f.category) = none := by
    rw [List.findIdx?_eq_none_iff]
    intro name member
    exact beq_false_of_ne fun same => unknown (same ▸ member)
  rw [stepCategory, nowhere]
  rfl

namespace StandsOn

variable {f g : Filter} {categories : List String} {i : Nat}

theorem lt_length (stands : f.StandsOn categories i) : i < categories.length :=
  (List.getElem?_eq_some_iff.1 stands).1

/-- Filters on one place that search for the same are the same. -/
theorem eq (stands : f.StandsOn categories i) (other : g.StandsOn categories i)
    (typed : f.query = g.query) : f = g := by
  obtain ⟨category, query⟩ := f
  obtain ⟨category', query'⟩ := g
  obtain rfl : category = category' := Option.some.inj (stands.symm.trans other)
  obtain rfl : query = query' := typed
  rfl

variable (different : categories.Nodup)

include different

/-- Of different categories the first one that is the chosen one is the one it stands on. -/
theorem findIdx?_eq (stands : f.StandsOn categories i) :
    categories.findIdx? (· == f.category) = some i := by
  obtain ⟨inside, here⟩ := List.getElem?_eq_some_iff.1 stands
  refine List.findIdx?_eq_some_iff_getElem.2 ⟨inside, by simp [here], ?_⟩
  intro j earlier same
  have alike : categories[j] = categories[i] := by simpa [here] using same
  exact absurd ((different.getElem_inj_iff).1 alike) (Nat.ne_of_lt earlier)

theorem step (stands : f.StandsOn categories i) (step : Nat) :
    (f.stepCategory categories step).StandsOn categories ((i + step) % categories.length) := by
  have inside : (i + step) % categories.length < categories.length :=
    Nat.mod_lt _ (Nat.zero_lt_of_lt stands.lt_length)
  rw [StandsOn, stepCategory, stands.findIdx?_eq different, List.getElem?_eq_getElem inside]
  simp [List.getD_eq_getElem?_getD, List.getElem?_eq_getElem inside]

/-- So many steps in a row lead as far as one step of their sum. -/
theorem iterate (stands : f.StandsOn categories i) (step k : Nat) :
    ((·.stepCategory categories step)^[k] f).StandsOn categories
      ((i + k * step) % categories.length) := by
  induction k with
  | zero =>
      rw [Nat.zero_mul, Nat.add_zero, Nat.mod_eq_of_lt stands.lt_length]
      exact stands
  | succ k induction =>
      rw [Function.iterate_succ_apply']
      have moved := induction.step different step
      rwa [Nat.mod_add_mod, Nat.add_assoc, ← Nat.succ_mul] at moved

/-- Steps that add up to whole rounds lead back. -/
theorem iterate_eq (stands : f.StandsOn categories i) {step k : Nat}
    (rounds : categories.length ∣ k * step) : (·.stepCategory categories step)^[k] f = f := by
  refine StandsOn.eq ?_ stands (query_iterate ..)
  have moved := stands.iterate different step k
  rwa [Nat.add_mod, Nat.mod_eq_zero_of_dvd rounds, Nat.add_zero, Nat.mod_mod,
    Nat.mod_eq_of_lt stands.lt_length] at moved

/-- Steps that have no divisor in common with the number of places meet every category once before
they come back. -/
theorem perm_visited (stands : f.StandsOn categories i) {step : Nat}
    (coprime : categories.length.Coprime step) :
    ((List.range categories.length).map fun k =>
      ((·.stepCategory categories step)^[k] f).category).Perm categories := by
  refine List.Subperm.perm_of_length_le (List.subperm_of_subset ?_ ?_) (by simp)
  · rw [List.nodup_map_iff_inj_on List.nodup_range]
    intro k inRange k' inRange' same
    have place := stands.iterate different step k
    have place' := stands.iterate different step k'
    rw [StandsOn, ← same] at place'
    have together : (i + k * step) % categories.length = (i + k' * step) % categories.length :=
      (List.getElem?_inj place.lt_length different).1 (place.trans place'.symm)
    have steps : k * step ≡ k' * step [MOD categories.length] :=
      Nat.ModEq.add_left_cancel' i together
    exact (steps.cancel_right_of_coprime coprime).eq_of_lt_of_lt (List.mem_range.1 inRange)
      (List.mem_range.1 inRange')
  · intro name member
    obtain ⟨k, _, rfl⟩ := List.mem_map.1 member
    exact List.mem_of_getElem? (stands.iterate different step k)

end StandsOn

end Filter

/-- All places but one forward is one place back. -/
theorem toNat_sub_emod {n : Nat} (some : 0 < n) (i k : Nat) :
    (((i : Int) - k) % n).toNat = (i + k * (n - 1)) % n := by
  obtain ⟨others, rfl⟩ : ∃ others, n = others + 1 := Nat.exists_eq_add_one.2 some
  have round : (i : Int) - k = (i + k * others : Nat) + (others + 1 : Nat) * (-k : Int) := by
    push_cast
    ring
  rw [round, Int.add_mul_emod_self_left, Nat.add_sub_cancel]
  exact Int.toNat_natCast _

namespace Catalog

/-! ## The categories as a cover -/

theorem mem_indices_of_blank {es : List Entry} {category blank : String} {i : Nat}
    (nothing : Text.trim blank.toList = []) (narrow : category ≠ everything) :
    i ∈ ({ category, query := blank } : Filter).indices es ↔
      ∃ e, es[i]? = some e ∧ e.category = category := by
  simp [Filter.mem_indices_iff, Filter.keeps_iff, nothing, narrow]

theorem mem_select_of_blank {es : List Entry} {category blank : String} {e : Entry}
    (nothing : Text.trim blank.toList = []) (narrow : category ≠ everything) :
    e ∈ ({ category, query := blank } : Filter).select es ↔ e ∈ es ∧ e.category = category := by
  simp [Filter.select, Filter.keeps_iff, nothing, narrow]

/-- The categories of a catalog are `All` and then the categories of its entries in the order of
their first appearance, each once.  From a category of the list, going on leads through all of them
in this order and round again, going back leads through them the other way, and the one undoes the
other; a category that is not in the list gives way to `All`.  Without a search, each category but
`All` shows some entry, no two of them show the same one, and every entry of a category other than
`All` is shown under exactly one of them. -/
theorem categories_cover_the_entries (c : Catalog) :
    (∃ rest, c.categories = "All" :: rest ∧ c.categories.Nodup ∧
      (∀ name, name ∈ rest ↔ name ≠ "All" ∧ ∃ e ∈ c.entries, e.category = name) ∧
      rest.Pairwise fun a b =>
        (c.entries.map (·.category)).idxOf a < (c.entries.map (·.category)).idxOf b) ∧
    (∀ (f : Filter) (i : Nat), c.categories[i]? = some f.category →
      (∀ k : Nat,
        ((·.nextCategory c.categories)^[k] f).query = f.query ∧
        c.categories[(i + k) % c.categories.length]? =
          some ((·.nextCategory c.categories)^[k] f).category ∧
        ((·.prevCategory c.categories)^[k] f).query = f.query ∧
        c.categories[(((i : Int) - k) % c.categories.length).toNat]? =
          some ((·.prevCategory c.categories)^[k] f).category) ∧
      (f.nextCategory c.categories).prevCategory c.categories = f ∧
      (f.prevCategory c.categories).nextCategory c.categories = f ∧
      (·.nextCategory c.categories)^[c.categories.length] f = f ∧
      (·.prevCategory c.categories)^[c.categories.length] f = f ∧
      ((List.range c.categories.length).map fun k =>
        ((·.nextCategory c.categories)^[k] f).category).Perm c.categories ∧
      ((List.range c.categories.length).map fun k =>
        ((·.prevCategory c.categories)^[k] f).category).Perm c.categories) ∧
    (∀ f : Filter, f.category ∉ c.categories →
      f.nextCategory c.categories = { f with category := "All" } ∧
      f.prevCategory c.categories = { f with category := "All" }) ∧
    (∀ blank : String, Text.trim blank.toList = [] →
      let filter (category : String) : Filter := { category, query := blank }
      (∀ a ∈ c.categories, a ≠ "All" →
        (filter a).indices c.entries ≠ [] ∧ (filter a).select c.entries ≠ []) ∧
      (∀ a ∈ c.categories, ∀ b ∈ c.categories, a ≠ "All" → b ≠ "All" → a ≠ b →
        ((filter a).indices c.entries).Disjoint ((filter b).indices c.entries) ∧
        ((filter a).select c.entries).Disjoint ((filter b).select c.entries)) ∧
      (∀ i e, c.entries[i]? = some e → e.category ≠ "All" →
        ∃! a, a ∈ c.categories ∧ a ≠ "All" ∧ i ∈ (filter a).indices c.entries)) := by
  obtain ⟨rest, listed, met⟩ := c.firstMet_categories
  have different : c.categories.Nodup := c.nodup_categories
  have some : 0 < c.categories.length := by simp [listed]
  refine ⟨⟨rest, listed, different, ?_, met.ordered⟩, ?_, ?_, ?_⟩
  · intro name
    rw [met.mem_iff, List.mem_map, everything]
  · intro f i stands
    have stands : f.StandsOn c.categories i := stands
    refine ⟨?_, ?_, ?_, ?_, ?_, ?_, ?_⟩
    · intro k
      have onward := stands.iterate different 1 k
      have back := stands.iterate different (c.categories.length - 1) k
      rw [Nat.mul_one] at onward
      rw [← toNat_sub_emod some] at back
      exact ⟨f.query_iterate .., onward, f.query_iterate .., back⟩
    · have moved := (stands.step different 1).step different (c.categories.length - 1)
      refine Filter.StandsOn.eq ?_ stands rfl
      rwa [Nat.mod_add_mod, Nat.add_assoc, Nat.add_sub_cancel' some, Nat.add_mod_right,
        Nat.mod_eq_of_lt stands.lt_length] at moved
    · have moved := (stands.step different (c.categories.length - 1)).step different 1
      refine Filter.StandsOn.eq ?_ stands rfl
      rwa [Nat.mod_add_mod, Nat.add_assoc, Nat.sub_add_cancel some, Nat.add_mod_right,
        Nat.mod_eq_of_lt stands.lt_length] at moved
    · exact stands.iterate_eq different (Nat.dvd_mul_right ..)
    · exact stands.iterate_eq different (Nat.dvd_mul_right ..)
    · exact stands.perm_visited different (Nat.coprime_one_right _)
    · exact stands.perm_visited different
        ((Nat.coprime_self_sub_right some).2 (Nat.coprime_one_right _))
  · intro f unknown
    rw [listed] at unknown ⊢
    exact ⟨Filter.stepCategory_of_notMem unknown _, Filter.stepCategory_of_notMem unknown _⟩
  · intro blank nothing filter
    refine ⟨?_, ?_, ?_⟩
    · intro a member narrow
      obtain ⟨e, there, rfl⟩ := (mem_categories_iff.1 member).resolve_left narrow
      obtain ⟨i, place⟩ := List.mem_iff_getElem?.1 there
      exact ⟨List.ne_nil_of_mem ((mem_indices_of_blank nothing narrow).2 ⟨e, place, rfl⟩),
        List.ne_nil_of_mem ((mem_select_of_blank nothing narrow).2 ⟨there, rfl⟩)⟩
    · intro a _ b _ narrowA narrowB apart
      constructor
      · intro i shownA shownB
        obtain ⟨e, place, rfl⟩ := (mem_indices_of_blank nothing narrowA).1 shownA
        obtain ⟨e', place', rfl⟩ := (mem_indices_of_blank nothing narrowB).1 shownB
        exact apart (congrArg Entry.category (Option.some.inj (place.symm.trans place')))
      · intro e shownA shownB
        exact apart (((mem_select_of_blank nothing narrowA).1 shownA).2.symm.trans
          ((mem_select_of_blank nothing narrowB).1 shownB).2)
    · intro i e place narrow
      refine ⟨e.category, ⟨?_, narrow, ?_⟩, ?_⟩
      · exact mem_categories_iff.2 (Or.inr ⟨e, List.mem_of_getElem? place, rfl⟩)
      · exact (mem_indices_of_blank nothing narrow).2 ⟨e, place, rfl⟩
      · rintro a ⟨_, narrowA, shown⟩
        obtain ⟨e', place', rfl⟩ := (mem_indices_of_blank nothing narrowA).1 shown
        exact congrArg Entry.category (Option.some.inj (place'.symm.trans place))

/-- A catalog with an entry whose own category is `All`: that entry adds no category, one step back
from the first category leads to the last, and a category that is gone gives way to `All`. -/
theorem entry_of_category_all_adds_none :
    let es : List Entry :=
      [{ key := "z.rs", title := "", category := "Zeta" },
        { key := "x.rs", title := "", category := "All" },
        { key := "a.rs", title := "", category := "Alpha" },
        { key := "y.rs", title := "", category := "Zeta" }]
    ∃ c : Catalog, c.entries = es ∧ c.categories = ["All", "Zeta", "Alpha"] ∧
      (({} : Filter).prevCategory c.categories).category = "Alpha" ∧
      (({ category := "Alpha" } : Filter).nextCategory c.categories).prevCategory c.categories =
        { category := "Alpha" } ∧
      ({ category := "Gone", query := "q" } : Filter).nextCategory c.categories =
        { category := "All", query := "q" } ∧
      ({ category := "Zeta", query := " " } : Filter).indices c.entries ≠ [] := by
  intro es
  let c : Catalog := ⟨es, by decide +kernel, by decide +kernel⟩
  obtain ⟨_, round, gone, shown⟩ := categories_cover_the_entries c
  refine ⟨c, rfl, by decide, ?_, ?_, ?_, ?_⟩
  · have back := ((round {} 0 (by decide)).1 1).2.2.2
    exact (Option.some.inj back).symm
  · exact (round { category := "Alpha" } 2 (by decide)).2.1
  · exact (gone { category := "Gone", query := "q" } (by decide)).1
  · exact ((shown " " (by decide +kernel)).1 "Zeta" (by decide) (by decide)).1

end Catalog

end Showcase
