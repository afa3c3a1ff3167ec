import Showcase.Disk.Walk
import Showcase.Proofs.Disk.Places

/-!
# Walks of trees without links

A tree is plain if it has no links, the items of a directory have different names, and every name
is one that a path can give.  The walk of a directory of such a tree meets no obstacle and lists
exactly its files (`walk_eq_files`, `Item.mem_files_iff`).  Each is found under a path that leads
to its own place (`locate_below`).
-/

namespace Showcase.Disk

namespace Item

/-! ## Plain trees -/

mutual

/-- Whether an item has no links in it, and the items of each directory in it have different names
that can stand in a path. -/
def isPlain : Item → Bool
  | .file _ => true
  | .link _ => false
  | .dir items => (items.map (·.1)).Nodup && allPlain items

/-- Whether items have names that can stand in a path, and are plain. -/
def allPlain : List (String × Item) → Bool
  | [] => true
  | (name, item) :: items => Path.IsName name && item.isPlain && allPlain items

end

theorem count_le_countAll {items : List (String × Item)} {slot : String × Item}
    (member : slot ∈ items) : slot.2.count ≤ countAll items := by
  induction items with
  | nil => cases member
  | cons first items induction =>
      rw [countAll]
      rcases List.mem_cons.1 member with rfl | later
      · exact Nat.le_add_right _ _
      · exact Nat.le_add_left_of_le (induction later)

/-- What holds of files and links, and of a directory if it holds of the items in it, holds of
every item. -/
@[elab_as_elim]
theorem inside_induction {motive : Item → Prop} (file : ∀ text, motive (.file text))
    (link : ∀ target, motive (.link target))
    (dir : ∀ items, (∀ slot ∈ items, motive slot.2) → motive (.dir items)) (item : Item) :
    motive item :=
  match item with
  | .file text => file text
  | .link target => link target
  | .dir items => dir items fun slot _ => inside_induction file link dir slot.2
termination_by item.count
decreasing_by
  have smaller := @count_le_countAll items slot (by assumption)
  rw [count]
  omega

theorem allPlain_iff {items : List (String × Item)} :
    allPlain items = true ↔ ∀ slot ∈ items, Path.IsName slot.1 ∧ slot.2.isPlain = true := by
  induction items with
  | nil => simp [allPlain]
  | cons slot items induction =>
      obtain ⟨name, item⟩ := slot
      simp [allPlain, induction]

/-- What stands in a plain item is plain, and names that can stand in a path lead to it. -/
theorem isPlain_of_at? {item inner : Item} {place : Place} (plain : item.isPlain = true)
    (there : item.at? place = some inner) :
    inner.isPlain = true ∧ ∀ name ∈ place, Path.IsName name := by
  induction place generalizing item with
  | nil =>
      obtain rfl : item = inner := by simpa using there
      exact ⟨plain, by simp⟩
  | cons name place induction =>
      cases item with
      | file text => cases there
      | link target => cases there
      | dir items =>
          obtain ⟨next, here, deeper⟩ := Option.bind_eq_some_iff.1 there
          rw [isPlain, Bool.and_eq_true, allPlain_iff] at plain
          obtain ⟨proper, nextPlain⟩ := plain.2 (name, next) (mem_of_lookup_eq_some here)
          obtain ⟨innerPlain, others⟩ := induction nextPlain deeper
          exact ⟨innerPlain, List.forall_mem_cons.2 ⟨proper, others⟩⟩

/-! ## The files in an item -/

mutual

/-- The files in an item that is met under a path, in the order of the tree. -/
def files (names : List String) (path : String) : Item → List Found
  | .file _ => [⟨names, path⟩]
  | .link _ => []
  | .dir items => filesAll names path items

/-- The files in the items of a directory that is met under a path. -/
def filesAll (names : List String) (path : String) : List (String × Item) → List Found
  | [] => []
  | (name, item) :: items =>
    item.files (names ++ [name]) (Path.join path name) ++ filesAll names path items

end

theorem filesAll_eq_flatMap (names : List String) (path : String) (items : List (String × Item)) :
    filesAll names path items = items.flatMap fun slot =>
      slot.2.files (names ++ [slot.1]) (Path.join path slot.1) := by
  induction items with
  | nil => rfl
  | cons slot items induction => rw [filesAll, induction, List.flatMap_cons]

/-- The files in a plain item are those at its places. -/
theorem mem_files_iff {item : Item} (plain : item.isPlain = true) {names : List String}
    {path : String} {found : Found} :
    found ∈ item.files names path ↔ ∃ below text, item.at? below = some (.file text) ∧
      found = ⟨names ++ below, below.foldl Path.join path⟩ := by
  induction item using inside_induction generalizing names path with
  | file text =>
      constructor
      · intro member
        obtain rfl := List.mem_singleton.1 member
        exact ⟨[], text, at?_nil _, by rw [List.append_nil, List.foldl_nil]⟩
      · rintro ⟨below, text, there, rfl⟩
        cases below with
        | nil => rw [List.append_nil, List.foldl_nil, files, List.mem_singleton]
        | cons name below => cases there
  | link target => cases plain
  | dir items inside =>
      rw [isPlain, Bool.and_eq_true, decide_eq_true_iff, allPlain_iff] at plain
      obtain ⟨different, plain⟩ := plain
      rw [files, filesAll_eq_flatMap, List.mem_flatMap]
      constructor
      · rintro ⟨slot, member, listed⟩
        obtain ⟨below, text, there, rfl⟩ := (inside slot member (plain slot member).2).1 listed
        refine ⟨slot.1 :: below, text, ?_, by rw [List.append_assoc]; rfl⟩
        rw [at?_cons_dir, lookup_eq_some_of_mem different member]
        exact there
      · rintro ⟨below, text, there, rfl⟩
        cases below with
        | nil => cases there
        | cons name below =>
            obtain ⟨inner, here, deeper⟩ := Option.bind_eq_some_iff.1 there
            have member := mem_of_lookup_eq_some here
            refine ⟨(name, inner), member, ?_⟩
            refine (inside _ member (plain _ member).2).2 ⟨below, text, deeper, ?_⟩
            rw [List.append_assoc]
            rfl

theorem count_le_of_at? {item inner : Item} {place : Place}
    (there : item.at? place = some inner) : inner.count ≤ item.count := by
  induction place generalizing item with
  | nil =>
      obtain rfl : item = inner := by simpa using there
      exact Nat.le_refl _
  | cons name place induction =>
      cases item with
      | file text => cases there
      | link target => cases there
      | dir items =>
          obtain ⟨next, here, deeper⟩ := Option.bind_eq_some_iff.1 there
          have inside : next.count ≤ countAll items :=
            count_le_countAll (mem_of_lookup_eq_some here)
          have below := induction deeper
          rw [count]
          omega

end Item

/-! ## The walk -/

theorem mapM_eq_ok {α β ε : Type} {f : α → Except ε β} {g : α → β} {xs : List α}
    (each : ∀ x ∈ xs, f x = .ok (g x)) : xs.mapM f = .ok (xs.map g) := by
  induction xs with
  | nil => rfl
  | cons x xs induction =>
      rw [List.forall_mem_cons] at each
      rw [List.mapM_cons, each.1, induction each.2]
      rfl

/-- A walk through a plain item lists the files in it. -/
theorem visit_eq_files (d : Disk) {item : Item} (plain : item.isPlain = true) {depth : Nat}
    (enough : item.count ≤ depth) (above : List Ancestor) (names : List String) (path : String)
    (place : Place) : d.visit depth above names path place item = .ok (item.files names path) := by
  induction item using Item.inside_induction generalizing depth above names path place with
  | file text =>
      obtain ⟨depth, rfl⟩ := Nat.exists_eq_succ_of_ne_zero (Nat.ne_zero_of_lt enough)
      rfl
  | link target => cases plain
  | dir items inside =>
      rw [Item.count] at enough
      rw [Item.isPlain, Bool.and_eq_true, Item.allPlain_iff] at plain
      obtain ⟨depth, rfl⟩ := @Nat.exists_eq_succ_of_ne_zero depth (by omega)
      have met : ∀ slot ∈ items,
          d.visit depth (⟨place, path⟩ :: above) (names ++ [slot.1]) (Path.join path slot.1)
            (place ++ [slot.1]) slot.2 =
          .ok (slot.2.files (names ++ [slot.1]) (Path.join path slot.1)) := by
        intro slot member
        have smaller := Item.count_le_countAll member
        exact inside slot member (plain.2 slot member).2 (by omega) _ _ _ _
      rw [Item.files, Item.filesAll_eq_flatMap, List.flatMap_def]
      exact congrArg (fun inside => inside.bind fun found => Except.ok found.flatten)
        (mapM_eq_ok met)

/-- A disk has a plain tree. -/
def isPlain (d : Disk) : Bool := d.tree.isPlain

section

variable {d : Disk} (plain : d.isPlain = true)
include plain

theorem linkless_of_isPlain : d.Linkless := by
  intro place target link
  obtain ⟨item, there, isLink⟩ := Option.map_eq_some_iff.1 (d.shape?_eq_map place ▸ link)
  have inner := (Item.isPlain_of_at? plain there).1
  cases item with
  | link => cases inner
  | file text => cases isLink
  | dir items => cases isLink

theorem isName_of_at? {place below : Place} {item : Item}
    (there : d.at? (place ++ below) = some item) : ∀ name ∈ below, Path.IsName name := by
  intro name member
  exact (Item.isPlain_of_at? plain there).2 name (List.mem_append_right place member)

theorem at?_of_locate {path : String} {place : Place} {item : Item} {follow : Bool}
    (led : d.locate path follow = .ok (place, item)) : d.at? place = some item := by
  rw [(linkless_of_isPlain plain).locate_eq_descend (ne_empty_of_locate led)] at led
  exact at?_of_descend led

/-- A directory is walked without an obstacle, and the walk lists the files in it. -/
theorem walk_eq_files {path : String} {place : Place} {item : Item}
    (start : d.locate path true = .ok (place, item)) :
    d.walk path = .ok (item.files [] path) := by
  have here := at?_of_locate plain start
  have unfollowed : d.locate path false = .ok (place, item) := by
    have filled := ne_empty_of_locate start
    rw [(linkless_of_isPlain plain).locate_eq_descend filled] at start ⊢
    exact start
  have enough : item.count ≤ (d.tree.count + 1) * (d.tree.count + 1) := by
    have inside : item.count ≤ d.tree.count := Item.count_le_of_at? here
    exact Nat.le_trans (Nat.le_succ_of_le inside) (Nat.le_mul_self _)
  simp only [walk, unfollowed]
  exact d.visit_eq_files (Item.isPlain_of_at? plain here).1 enough [] [] path place

/-- The path under which a walk meets a file leads to the place of the file. -/
theorem locate_below {path : String} {place below : Place} {item inner : Item}
    (start : d.locate path true = .ok (place, item)) (there : d.at? (place ++ below) = some inner) :
    d.locate (below.foldl Path.join path) true = .ok (place ++ below, inner) := by
  have filled := ne_empty_of_locate start
  have proper := isName_of_at? plain there
  have linkless := linkless_of_isPlain plain
  by_cases inside : below = []
  · subst inside
    rw [List.append_nil] at there ⊢
    have here := at?_of_locate plain start
    rw [there] at here
    cases here
    exact start
  · obtain ⟨nonempty, _, starts⟩ := Path.foldl_join filled proper
    rw [linkless.locate_eq_descend filled] at start
    rw [linkless.locate_eq_descend nonempty, starts, Path.parts_foldl_join filled inside proper,
      descend_append]
    obtain ⟨item, led⟩ := exists_descend_names start
    rw [led]
    exact descend_names proper there

end

end Showcase.Disk
