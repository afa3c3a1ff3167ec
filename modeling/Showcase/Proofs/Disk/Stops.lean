import Mathlib.Logic.Relation
import Showcase.Proofs.Disk.Links

/-!
# Walks through links

A walk comes to stops, one inside the other.  What it does at a stop is said by `Stop.enter`, which
knows neither an order nor a bound: it goes to an item of a directory and follows it if it is a link,
or meets an obstacle.

Main statements: a bounded walk that succeeds has met no obstacle at any stop it can come to and lists
the files at them (`visit_eq_ok`); one that fails has met an obstacle at a stop, and not its bound
(`visit_eq_error`), because a link is never followed to a directory that the walk stands in.
-/

namespace Showcase.Disk

/-! ## Stops -/

/-- Where a walk has come to, with links followed. -/
structure Stop where
  /-- The directories above, innermost first. -/
  above : List Ancestor
  /-- The names from the start of the walk to here. -/
  names : List String
  /-- The path under which the walk came here. -/
  path : String
  /-- Where this really stands. -/
  place : Place
  /-- What stands here. -/
  item : Item

/-- What a walk finds in place of an item that it meets, once a link is followed. -/
def settle (d : Disk) (above : List Ancestor) (path : String) (place : Place) :
    Item → Except Obstacle (Place × Item)
  | .link _ => d.followLink above path
  | item => .ok (place, item)

namespace Stop

/-- The directories above what is inside a stop. -/
def inside (s : Stop) : List Ancestor := ⟨s.place, s.path⟩ :: s.above

/-- The stop at an item inside a stop, or the obstacle in its place. -/
def enter (d : Disk) (s : Stop) (name : String) (item : Item) : Except Obstacle Stop :=
  (d.settle s.inside (Path.join s.path name) (s.place ++ [name]) item).map fun (place, item) =>
    ⟨s.inside, s.names ++ [name], Path.join s.path name, place, item⟩

/-- One stop is entered from the other. -/
def Next (d : Disk) (s t : Stop) : Prop :=
  ∃ items name item, s.item = .dir items ∧ (name, item) ∈ items ∧ s.enter d name item = .ok t

/-- From a stop the walk comes to the other one. -/
abbrev Reaches (d : Disk) : Stop → Stop → Prop := Relation.ReflTransGen (Next d)

/-- A walk meets an obstacle at something inside a stop. -/
def Blocked (d : Disk) (s : Stop) (obstacle : Obstacle) : Prop :=
  ∃ items name item, s.item = .dir items ∧ (name, item) ∈ items ∧
    s.enter d name item = .error obstacle

/-- A file met at a stop. -/
def found (s : Stop) : Found := ⟨s.names, s.path⟩

end Stop

/-! ## Bounded walks -/

/-- The files in and below an item of a directory, by a bounded walk. -/
def visitSlot (d : Disk) (depth : Nat) (s : Stop) (slot : String × Item) :
    Except Obstacle (List Found) :=
  d.visit depth s.inside (s.names ++ [slot.1]) (Path.join s.path slot.1) (s.place ++ [slot.1])
    slot.2

/-- The files in and below a stop, by a bounded walk. -/
def visitInside (d : Disk) (depth : Nat) (s : Stop) : Except Obstacle (List Found) :=
  match s.item with
  | .file _ => .ok [s.found]
  | .link _ => .ok []
  | .dir items => (items.mapM (d.visitSlot depth s)).map List.flatten

theorem visit_succ (d : Disk) (depth : Nat) (above : List Ancestor) (names : List String)
    (path : String) (place : Place) (item : Item) :
    d.visit (depth + 1) above names path place item =
      (d.settle above path place item).bind fun (place, item) =>
        d.visitInside depth ⟨above, names, path, place, item⟩ := by
  have listed (inside : Except Obstacle (List (List Found))) :
      (inside >>= fun inside => pure inside.flatten) = inside.map List.flatten := by
    cases inside <;> rfl
  cases item with
  | file text => rfl
  | dir items => exact listed _
  | link target =>
      simp only [visit, settle]
      cases d.followLink above path with
      | error obstacle => rfl
      | ok found =>
          obtain ⟨place, item⟩ := found
          cases item with
          | file text => rfl
          | link target => rfl
          | dir items => exact listed _

/-! ### Items of a directory one after the other -/

section

variable {α β ε : Type} {f : α → Except ε (List β)}

theorem mapM_cons_eq_ok_iff {x : α} {xs : List α} {lists : List (List β)} :
    (x :: xs).mapM f = .ok lists ↔
      ∃ list more, f x = .ok list ∧ xs.mapM f = .ok more ∧ lists = list :: more := by
  rw [List.mapM_cons]
  cases first : f x with
  | error e => simp [bind, Except.bind]
  | ok list =>
      cases others : xs.mapM f with
      | error e => simp [bind, Except.bind]
      | ok more => simp [bind, Except.bind, pure, Except.pure, eq_comm]

theorem mapM_eq_ok_cases {xs : List α} {lists : List (List β)} (done : xs.mapM f = .ok lists) :
    (∀ x ∈ xs, ∃ list, f x = .ok list) ∧
      ∀ b, b ∈ lists.flatten ↔ ∃ x ∈ xs, ∃ list, f x = .ok list ∧ b ∈ list := by
  induction xs generalizing lists with
  | nil =>
      cases done
      simp
  | cons x xs induction =>
      obtain ⟨list, more, first, others, rfl⟩ := mapM_cons_eq_ok_iff.1 done
      obtain ⟨all, members⟩ := induction others
      refine ⟨List.forall_mem_cons.2 ⟨⟨list, first⟩, all⟩, fun b => ?_⟩
      simp [members, first]

theorem exists_of_mapM_eq_error {xs : List α} {e : ε} (failed : xs.mapM f = .error e) :
    ∃ x ∈ xs, f x = .error e := by
  induction xs with
  | nil => cases failed
  | cons x xs induction =>
      rw [List.mapM_cons] at failed
      cases first : f x with
      | error e' =>
          rw [first] at failed
          cases failed
          exact ⟨x, List.mem_cons_self, first⟩
      | ok list =>
          rw [first] at failed
          cases others : xs.mapM f with
          | error e' =>
              rw [others] at failed
              cases failed
              obtain ⟨y, member, failed⟩ := induction others
              exact ⟨y, List.mem_cons_of_mem x member, failed⟩
          | ok more =>
              rw [others] at failed
              cases failed

end

/-! ### Walks that succeed -/

section

variable {d : Disk}

theorem Stop.enter_eq_ok_iff {s t : Stop} {name : String} {item : Item} :
    s.enter d name item = .ok t ↔
      ∃ place inner, d.settle s.inside (Path.join s.path name) (s.place ++ [name]) item =
          .ok (place, inner) ∧
        t = ⟨s.inside, s.names ++ [name], Path.join s.path name, place, inner⟩ := by
  unfold Stop.enter
  cases settled : d.settle s.inside (Path.join s.path name) (s.place ++ [name]) item with
  | error obstacle => simp [Except.map]
  | ok found =>
      obtain ⟨place, inner⟩ := found
      simp [Except.map, eq_comm]

theorem Stop.enter_eq_error_iff {s : Stop} {name : String} {item : Item} {obstacle : Obstacle} :
    s.enter d name item = .error obstacle ↔
      d.settle s.inside (Path.join s.path name) (s.place ++ [name]) item = .error obstacle := by
  unfold Stop.enter
  cases d.settle s.inside (Path.join s.path name) (s.place ++ [name]) item <;> simp [Except.map]

/-- A walk from a stop lists exactly the files at the stops that it can come to, all of which are
open. -/
def Stop.Lists (d : Disk) (s : Stop) (walked : List Found) : Prop :=
  (∀ t obstacle, Stop.Reaches d s t → ¬ t.Blocked d obstacle) ∧
    ∀ f, f ∈ walked ↔ ∃ t text, Stop.Reaches d s t ∧ t.item = .file text ∧ f = t.found

/-- Nothing is inside what is no directory. -/
theorem Stop.eq_of_reaches {s t : Stop} (noDir : ∀ items, s.item ≠ .dir items)
    (reached : Stop.Reaches d s t) : t = s := by
  cases Relation.ReflTransGen.cases_head reached with
  | inl same => exact same.symm
  | inr further =>
      obtain ⟨_, ⟨items, _, _, isDir, _⟩, _⟩ := further
      exact absurd isDir (noDir items)

theorem Stop.Lists.of_no_dir {s : Stop} (noDir : ∀ items, s.item ≠ .dir items) {walked : List Found}
    (members : ∀ f, f ∈ walked ↔ ∃ text, s.item = .file text ∧ f = s.found) : s.Lists d walked := by
  refine ⟨?_, fun f => (members f).trans ⟨?_, ?_⟩⟩
  · rintro t obstacle reached ⟨items, _, _, isDir, _, _⟩
    rw [Stop.eq_of_reaches noDir reached] at isDir
    exact noDir items isDir
  · rintro ⟨text, isFile, rfl⟩
    exact ⟨s, text, .refl, isFile, rfl⟩
  · rintro ⟨t, text, reached, isFile, rfl⟩
    rw [Stop.eq_of_reaches noDir reached] at isFile ⊢
    exact ⟨text, isFile, rfl⟩

/-- What is listed at a directory is what is listed at its items. -/
theorem Stop.Lists.of_slots {s : Stop} {items : List (String × Item)} (here : s.item = .dir items)
    {visit : String × Item → Except Obstacle (List Found)}
    (entered : ∀ slot ∈ items, ∃ t part, s.enter d slot.1 slot.2 = .ok t ∧ t.Lists d part ∧
      visit slot = .ok part)
    {walked : List Found}
    (members : ∀ f, f ∈ walked ↔ ∃ slot ∈ items, ∃ part, visit slot = .ok part ∧ f ∈ part) :
    s.Lists d walked := by
  refine ⟨fun t obstacle reached => ?_, fun f => (members f).trans ⟨?_, ?_⟩⟩
  · rcases Relation.ReflTransGen.cases_head reached with rfl | ⟨u, next, further⟩
    · rintro ⟨items', name, item, isDir, member, blocked⟩
      cases here.symm.trans isDir
      obtain ⟨t, _, free, _⟩ := entered _ member
      cases blocked.symm.trans free
    · obtain ⟨items', name, item, isDir, member, same⟩ := next
      cases here.symm.trans isDir
      obtain ⟨t, _, free, lists, _⟩ := entered _ member
      cases same.symm.trans free
      exact lists.1 _ obstacle further
  · rintro ⟨slot, member, part, visited, listed⟩
    obtain ⟨t, part', free, lists, visited'⟩ := entered slot member
    cases visited.symm.trans visited'
    obtain ⟨u, text, further, isFile, rfl⟩ := (lists.2 f).1 listed
    exact ⟨u, text, .head ⟨items, slot.1, slot.2, here, member, free⟩ further, isFile, rfl⟩
  · rintro ⟨t, text, reached, isFile, rfl⟩
    rcases Relation.ReflTransGen.cases_head reached with rfl | ⟨u, next, further⟩
    · cases here.symm.trans isFile
    · obtain ⟨items', name, item, isDir, member, same⟩ := next
      cases here.symm.trans isDir
      obtain ⟨t', part, free, lists, visited⟩ := entered _ member
      cases same.symm.trans free
      exact ⟨(name, item), member, part, visited, (lists.2 _).2 ⟨t, text, further, isFile, rfl⟩⟩

theorem visit_succ_eq_ok_iff {depth : Nat} {above : List Ancestor} {names : List String}
    {path : String} {place : Place} {item : Item} {walked : List Found} :
    d.visit (depth + 1) above names path place item = .ok walked ↔
      ∃ place' item', d.settle above path place item = .ok (place', item') ∧
        d.visitInside depth ⟨above, names, path, place', item'⟩ = .ok walked := by
  rw [visit_succ]
  cases d.settle above path place item <;> simp [Except.bind, Prod.ext_iff, and_assoc]

section

variable {depth : Nat} {s : Stop} {items : List (String × Item)} (here : s.item = .dir items)
include here

theorem visitInside_eq_ok_iff {walked : List Found} :
    d.visitInside depth s = .ok walked ↔
      ∃ lists, items.mapM (d.visitSlot depth s) = .ok lists ∧ lists.flatten = walked := by
  simp only [visitInside, here]
  cases items.mapM (d.visitSlot depth s) <;> simp [Except.map]

theorem exists_of_visitInside_eq_error {obstacle : Obstacle}
    (failed : d.visitInside depth s = .error obstacle) :
    ∃ slot ∈ items, d.visitSlot depth s slot = .error obstacle := by
  apply exists_of_mapM_eq_error
  simp only [visitInside, here] at failed
  cases listed : items.mapM (d.visitSlot depth s) with
  | ok lists =>
      rw [listed] at failed
      cases failed
  | error obstacle' =>
      rw [listed] at failed
      cases failed
      rfl

end

/-- A walk that succeeds meets no obstacle and lists all files. -/
theorem visit_eq_ok {depth : Nat} {above : List Ancestor} {names : List String} {path : String}
    {place : Place} {item : Item} {walked : List Found}
    (done : d.visit depth above names path place item = .ok walked) :
    ∃ place' item', d.settle above path place item = .ok (place', item') ∧
      Stop.Lists d ⟨above, names, path, place', item'⟩ walked := by
  induction depth generalizing above names path place item walked with
  | zero => cases done
  | succ depth induction =>
      obtain ⟨place', item', settled, done⟩ := visit_succ_eq_ok_iff.1 done
      refine ⟨place', item', settled, ?_⟩
      cases item' with
      | file text =>
          cases done
          exact .of_no_dir (by simp) (by simp)
      | link target =>
          cases done
          exact .of_no_dir (by simp) (by simp)
      | dir items =>
          obtain ⟨lists, listed, rfl⟩ := (visitInside_eq_ok_iff rfl).1 done
          obtain ⟨all, members⟩ := mapM_eq_ok_cases listed
          -- What is inside the directory was walked without an obstacle.
          refine Stop.Lists.of_slots rfl (fun slot member => ?_) members
          obtain ⟨part, visited⟩ := all slot member
          obtain ⟨place, item, entered, lists⟩ := induction visited
          exact ⟨_, part, Stop.enter_eq_ok_iff.2 ⟨place, item, entered, rfl⟩, lists, visited⟩

/-! ### Walks that fail -/

theorem Item.count_pos (item : Item) : 0 < item.count := by
  cases item <;> simp only [count] <;> omega

/-- The places of a disk that a walk does not stand in. -/
def untrodden (d : Disk) (above : List Ancestor) : List Place :=
  d.tree.places.filter fun place => !above.any (·.place == place)

theorem followLink_eq_ok_iff {above : List Ancestor} {path : String} {found : Place × Item} :
    d.followLink above path = .ok found ↔ d.locate path true = .ok found ∧
      ∀ items, found.2 = .dir items → ∀ a ∈ above, a.place ≠ found.1 := by
  unfold followLink
  cases led : d.locate path true with
  | error failure => simp
  | ok reached =>
      obtain ⟨place, item⟩ := reached
      cases item with
      | file text => simp +contextual [eq_comm]
      | link target => simp +contextual [eq_comm]
      | dir items =>
          cases loop : above.find? (·.place == place) with
          | none =>
              have clear : ∀ a ∈ above, a.place ≠ place := by
                simpa using List.find?_eq_none.1 loop
              simp only [loop, Except.ok.injEq]
              constructor
              · rintro rfl
                exact ⟨rfl, fun _ _ => clear⟩
              · exact And.left
          | some a =>
              have member := List.mem_of_find?_eq_some loop
              have same : a.place = place := by simpa using List.find?_some loop
              simp only [loop, Except.ok.injEq, reduceCtorEq, false_iff, not_and]
              rintro rfl clear
              exact clear items rfl a member same

theorem untrodden_cons (d : Disk) (a : Ancestor) (above : List Ancestor) :
    d.untrodden (a :: above) = (d.untrodden above).filter (· ≠ a.place) := by
  unfold untrodden
  rw [List.filter_filter]
  refine List.filter_congr fun place _ => ?_
  rw [List.any_cons, Bool.not_or, Bool.beq_comm]
  by_cases same : place = a.place <;> simp [same]

theorem length_untrodden_cons_le (d : Disk) (a : Ancestor) (above : List Ancestor) :
    (d.untrodden (a :: above)).length ≤ (d.untrodden above).length := by
  rw [untrodden_cons]
  exact List.length_filter_le _ _

/-- A directory that a walk enters anew is one less to enter. -/
theorem length_untrodden_cons_lt {a : Ancestor} {above : List Ancestor} {item : Item}
    (there : d.at? a.place = some item) (new : ∀ b ∈ above, b.place ≠ a.place) :
    (d.untrodden (a :: above)).length < (d.untrodden above).length := by
  rw [untrodden_cons, List.length_filter_lt_length_iff_exists]
  refine ⟨a.place, ?_, by simp⟩
  rw [untrodden, List.mem_filter]
  exact ⟨Item.mem_places there, by simpa using new⟩

/-- What a walk goes on with stands where it says. -/
theorem at?_of_settle {above : List Ancestor} {path : String} {place place' : Place}
    {item item' : Item} (there : d.at? place = some item)
    (settled : d.settle above path place item = .ok (place', item')) :
    d.at? place' = some item' := by
  cases item with
  | link target => exact at?_of_located (followLink_eq_ok_iff.1 settled).1
  | file text =>
      cases settled
      exact there
  | dir items =>
      cases settled
      exact there

/-- What a bounded walk has left to do inside a directory that it enters is less than what it had to
do before. -/
theorem work_inside_lt {above : List Ancestor} {path : String} {place place' : Place}
    {item : Item} {items : List (String × Item)} {slot : String × Item}
    (settled : d.settle above path place item = .ok (place', .dir items)) (member : slot ∈ items) :
    slot.2.count + (d.untrodden (⟨place', path⟩ :: above)).length * (d.tree.count + 1) <
      item.count + (d.untrodden above).length * (d.tree.count + 1) := by
  have smaller : slot.2.count < (Item.dir items).count := by
    have := Item.count_le_countAll member
    rw [Item.count]
    omega
  cases item with
  | file text => cases settled
  | dir items =>
      cases settled
      have := Nat.mul_le_mul_right (d.tree.count + 1)
        (d.length_untrodden_cons_le ⟨place, path⟩ above)
      omega
  | link target =>
      obtain ⟨led, clear⟩ := followLink_eq_ok_iff.1 settled
      have here := at?_of_located led
      have new := length_untrodden_cons_lt (a := ⟨place', path⟩) here (clear items rfl)
      have less := Nat.mul_le_mul_right (d.tree.count + 1) (Nat.succ_le_of_lt new)
      have whole : (Item.dir items).count ≤ d.tree.count := Item.count_le_of_at? here
      rw [Nat.succ_mul] at less
      omega

/-- A bounded walk that fails has met an obstacle. -/
theorem visit_eq_error {depth : Nat} {above : List Ancestor} {names : List String} {path : String}
    {place : Place} {item : Item} {obstacle : Obstacle}
    (enough : item.count + (d.untrodden above).length * (d.tree.count + 1) ≤ depth)
    (failed : d.visit depth above names path place item = .error obstacle) :
    d.settle above path place item = .error obstacle ∨
      ∃ place' item' t, d.settle above path place item = .ok (place', item') ∧
        Stop.Reaches d ⟨above, names, path, place', item'⟩ t ∧ t.Blocked d obstacle := by
  induction depth generalizing above names path place item with
  | zero =>
      have := item.count_pos
      omega
  | succ depth induction =>
      rw [visit_succ] at failed
      cases settled : d.settle above path place item with
      | error obstacle' =>
          rw [settled] at failed
          cases failed
          exact Or.inl rfl
      | ok found =>
          obtain ⟨place', item'⟩ := found
          rw [settled] at failed
          refine Or.inr ⟨place', item', ?_⟩
          cases item' with
          | file text => cases failed
          | link target => cases failed
          | dir items =>
              obtain ⟨slot, member, failed⟩ := exists_of_visitInside_eq_error
                (s := ⟨above, names, path, place', .dir items⟩) rfl failed
              have less := work_inside_lt settled member
              rcases induction (Nat.le_of_lt_succ (Nat.lt_of_lt_of_le less enough)) failed with
                blocked | ⟨place, item, t, entered, further, blocked⟩
              · exact ⟨_, rfl, .refl, items, slot.1, slot.2, rfl, member,
                  Stop.enter_eq_error_iff.2 blocked⟩
              · exact ⟨t, rfl, .head ⟨items, slot.1, slot.2, rfl, member,
                  Stop.enter_eq_ok_iff.2 ⟨place, item, entered, rfl⟩⟩ further, blocked⟩

end

end Showcase.Disk
