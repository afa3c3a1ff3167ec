import Mathlib.Data.List.Basic
import Showcase.Catalog.Filter

/-!
# Places and categories of a filter

A filter gives the kept entries by their places.  `Filter.mem_indices_iff` says which places these
are and `Filter.pairwise_indices` that they increase, so a list of places never points past the
entries it comes from and never names one twice.

The category of a filter moves along a list of categories.  It stays in that list once it is there
(`Filter.category_stepCategory_mem`), and the categories of a catalog always hold the one that a
filter starts with.
-/

namespace Showcase

namespace Filter

/-! ## Places -/

/-- The places of a list that starts at `start` are those of its kept entries. -/
theorem mem_indicesFrom_iff {f : Filter} {start i : Nat} {es : List Entry} :
    i ∈ f.indicesFrom start es ↔
      ∃ n e, i = start + n ∧ es[n]? = some e ∧ f.keeps e = true := by
  induction es generalizing start with
  | nil => simp [indicesFrom]
  | cons e es ih =>
      have first : i ∈ f.indicesFrom start (e :: es) ↔
          (i = start ∧ f.keeps e = true) ∨ i ∈ f.indicesFrom (start + 1) es := by
        simp only [indicesFrom]
        split
        next kept => simp [kept]
        next dropped => simp [dropped]
      rw [first, ih]
      constructor
      · rintro (⟨rfl, kept⟩ | ⟨n, found, rfl, there, kept⟩)
        · exact ⟨0, e, rfl, rfl, kept⟩
        · exact ⟨n + 1, found, by omega, there, kept⟩
      · rintro ⟨n, found, rfl, there, kept⟩
        cases n with
        | zero =>
            obtain rfl := Option.some.inj there
            exact Or.inl ⟨rfl, kept⟩
        | succ n => exact Or.inr ⟨n, found, by omega, there, kept⟩

/-- The places increase. -/
theorem pairwise_indicesFrom (f : Filter) (start : Nat) (es : List Entry) :
    (f.indicesFrom start es).Pairwise (· < ·) := by
  induction es generalizing start with
  | nil => exact .nil
  | cons e es ih =>
      simp only [indicesFrom]
      split
      next kept =>
        apply List.Pairwise.cons
        · intro i member
          obtain ⟨n, _, later, _⟩ := mem_indicesFrom_iff.1 member
          omega
        · exact ih (start + 1)
      next dropped => exact ih (start + 1)

theorem mem_indices_iff {f : Filter} {i : Nat} {es : List Entry} :
    i ∈ f.indices es ↔ ∃ e, es[i]? = some e ∧ f.keeps e = true := by
  simp [indices, mem_indicesFrom_iff]

theorem pairwise_indices (f : Filter) (es : List Entry) : (f.indices es).Pairwise (· < ·) :=
  f.pairwise_indicesFrom 0 es

/-- Every place is that of an entry. -/
theorem lt_of_mem_indices {f : Filter} {i : Nat} {es : List Entry} (member : i ∈ f.indices es) :
    i < es.length := by
  obtain ⟨e, there, _⟩ := mem_indices_iff.1 member
  exact (List.getElem?_eq_some_iff.1 there).1

/-! ## Categories -/

theorem category_pop? {f shorter : Filter} (dropped : f.pop? = some shorter) :
    shorter.category = f.category := by
  unfold pop? at dropped
  split at dropped
  next empty => cases dropped
  next cs typed =>
    obtain rfl := Option.some.inj dropped
    rfl

private theorem getD_mem {names : List String} {fallback : String} (member : fallback ∈ names)
    (n : Nat) : names.getD n fallback ∈ names := by
  rw [List.getD_eq_getElem?_getD]
  cases there : names[n]? with
  | none => exact member
  | some name => exact List.mem_of_getElem? there

/-- A filter whose category is in a list of categories stays in the list. -/
theorem category_stepCategory_mem {f : Filter} {categories : List String}
    (member : f.category ∈ categories) (step : Nat) :
    (f.stepCategory categories step).category ∈ categories :=
  getD_mem member _

end Filter

namespace Catalog

theorem mem_addNew_of_mem {names : List String} {old : String} (member : old ∈ names)
    (name : String) : old ∈ addNew names name := by
  unfold addNew
  split
  next known => exact member
  next new => exact List.mem_append_left _ member

/-- The category of every entry can always be chosen. -/
theorem everything_mem_categories (c : Catalog) : everything ∈ c.categories := by
  unfold categories
  apply List.foldlRecOn _ addNew (List.mem_singleton_self everything)
  intro names member name _
  exact mem_addNew_of_mem member name

end Catalog

end Showcase
