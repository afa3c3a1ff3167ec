import Showcase.Proofs.Disk.Walk

/-!
# Paths that lead through links

On a disk with links a path leads somewhere in two parts: what its first names lead to, and from
there the others (`step_append`).  So a path that is continued by a name leads into the directory
that the path itself leads to (`locate_join`).

What a path leads to depends on the shapes at the places of the disk only (`Alike.outline_locate`),
and so not on the order in which a directory lists its items.
-/

namespace Showcase.Disk

/-! ## Places of an item -/

namespace Item

mutual

/-- The places inside an item. -/
def places : Item → List Place
  | .file _ | .link _ => [[]]
  | .dir items => [] :: placesAll items

/-- The places inside the items of a directory. -/
def placesAll : List (String × Item) → List Place
  | [] => []
  | (name, item) :: items => item.places.map (name :: ·) ++ placesAll items

end

theorem mem_placesAll {name : String} {inner : Item} {place : Place}
    (inside : place ∈ inner.places) {items : List (String × Item)} (member : (name, inner) ∈ items) :
    name :: place ∈ placesAll items := by
  induction items with
  | nil => cases member
  | cons slot items induction =>
      rw [placesAll, List.mem_append]
      rcases List.mem_cons.1 member with rfl | later
      · exact Or.inl (List.mem_map_of_mem inside)
      · exact Or.inr (induction later)

theorem mem_places {item inner : Item} {place : Place} (there : item.at? place = some inner) :
    place ∈ item.places := by
  induction place generalizing item with
  | nil => cases item <;> simp [places]
  | cons name place induction =>
      cases item with
      | file text => cases there
      | link target => cases there
      | dir items =>
          obtain ⟨next, here, deeper⟩ := Option.bind_eq_some_iff.1 there
          rw [places, List.mem_cons]
          exact Or.inr (mem_placesAll (induction deeper) (mem_of_lookup_eq_some here))

theorem length_places (item : Item) : item.places.length = item.count := by
  induction item using inside_induction with
  | file text => rfl
  | link target => rfl
  | dir items inside =>
      have all : (placesAll items).length = countAll items := by
        induction items with
        | nil => rfl
        | cons slot items induction =>
            rw [List.forall_mem_cons] at inside
            rw [placesAll, countAll, List.length_append, List.length_map, inside.1,
              induction inside.2]
      rw [places, count, List.length_cons, all, Nat.add_comm]

end Item

theorem Item.shape_eq_link_iff {item : Item} {target : String} :
    item.shape = .link target ↔ item = .link target := by
  cases item <;> simp [Item.shape]

/-! ## Names in directories -/

/-- The items of every directory have different names, which a path can give. -/
def Named (d : Disk) : Prop :=
  ∀ ⦃place items⦄, d.at? place = some (.dir items) →
    (items.map (·.1)).Nodup ∧ ∀ slot ∈ items, Path.IsName slot.1

/-- Whether an item, if it is a directory, has items of different names that a path can give. -/
def Item.hasNames : Item → Bool
  | .dir items => (items.map (·.1)).Nodup && items.all fun slot => Path.IsName slot.1
  | .file _ | .link _ => true

theorem named_iff {d : Disk} :
    d.Named ↔ ∀ place ∈ d.tree.places, ∀ item ∈ d.at? place, item.hasNames = true := by
  constructor
  · intro named place _ item there
    cases item with
    | file text => rfl
    | link target => rfl
    | dir items => simpa [Item.hasNames] using named there
  · intro all place items there
    simpa [Item.hasNames] using all place (Item.mem_places there) _ there

instance (d : Disk) : Decidable d.Named := decidable_of_iff' _ named_iff

/-! ## Steps -/

section

variable {d : Disk}

theorem at?_of_step {follow : Bool} {links : Nat} {place found : Place} {steps : List String}
    {item : Item} (led : d.step follow links place steps = .ok (found, item)) :
    d.at? found = some item := by
  fun_induction step d follow links place steps with
  | case6 links place name rest items here other up target link last =>
      cases led
      rw [at?_append_singleton here, link]
  | _ => simp_all

theorem at?_of_located {path : String} {follow : Bool} {place : Place} {item : Item}
    (led : d.locate path follow = .ok (place, item)) : d.at? place = some item := by
  unfold locate at led
  split at led
  · cases led
  · exact at?_of_step led

theorem step_of_not_dir {place : Place} {item : Item} (here : d.at? place = some item)
    (noDir : ∀ items, item ≠ .dir items) (follow : Bool) (links : Nat) (name : String)
    (rest : List String) : d.step follow links place (name :: rest) = .error .notDirectory := by
  cases item with
  | dir items => exact absurd rfl (noDir items)
  | file text => simp only [step, here]
  | link target => simp only [step, here]

section

variable {place : Place} {items : List (String × Item)} (here : d.at? place = some (.dir items))
include here

theorem step_dot (follow : Bool) (links : Nat) (rest : List String) :
    d.step follow links place ("." :: rest) = d.step follow links place rest := by
  rw [step, here]
  rfl

theorem step_up (follow : Bool) (links : Nat) (rest : List String) :
    d.step follow links place (".." :: rest) = d.step follow links place.dropLast rest := by
  rw [step, here]
  rfl

variable {name : String} (other : name ≠ ".") (up : name ≠ "..")
include other up

theorem step_of_missing (absent : items.lookup name = none) (follow : Bool) (links : Nat)
    (rest : List String) : d.step follow links place (name :: rest) = .error .missing := by
  simp only [step, here, other, up, absent, if_false]

/-- A step to something that is no link. -/
theorem step_of_solid {item : Item} (found : items.lookup name = some item)
    (solid : ∀ target, item ≠ .link target) (follow : Bool) (links : Nat) (rest : List String) :
    d.step follow links place (name :: rest) = d.step follow links (place ++ [name]) rest := by
  cases item with
  | link target => exact absurd rfl (solid target)
  | file text => simp only [step, here, other, up, found, if_false]
  | dir items => simp only [step, here, other, up, found, if_false]

end

/-- Following links makes a difference only where a path ends at one. -/
theorem step_unfollowed (d : Disk) (links : Nat) (place : Place) (steps : List String) :
    (∃ found target, d.step false links place steps = .ok (found, .link target)) ∨
      d.step true links place steps = d.step false links place steps := by
  fun_induction step d true links place steps with
  | case1 links place item here => exact Or.inr (by rw [step, here])
  | case2 links place nothing => exact Or.inr (by rw [step, nothing])
  | case3 links place rest items here induction =>
      rw [step_dot here]
      exact induction
  | case4 links place rest items here other induction =>
      rw [step_up here]
      exact induction
  | case5 links place name rest items here other up absent =>
      exact Or.inr (step_of_missing here other up absent false links rest).symm
  | case6 links place name rest items here other up target link last => simp at last
  | case7 place name rest items here other up target link last =>
      cases rest with
      | nil => exact Or.inl ⟨place ++ [name], target, by simp [step, here, other, up, link]⟩
      | cons next rest => exact Or.inr (by simp [step, here, other, up, link])
  | case8 place name rest items here other up target link last links induction =>
      cases rest with
      | nil => exact Or.inl ⟨place ++ [name], target, by simp [step, here, other, up, link]⟩
      | cons next rest => simpa [step, here, other, up, link] using induction
  | case9 links place name rest items here other up item solid found induction =>
      rw [step_of_solid here other up found solid]
      exact induction
  | case10 links place name rest item noDir here =>
      exact Or.inr (step_of_not_dir here noDir false links name rest).symm
  | case11 links place name rest nothing => exact Or.inr (by rw [step, nothing])

/-- What the first steps of some lead to decides what all of them lead to. -/
theorem step_append (d : Disk) (links : Nat) (place : Place) (front : List String) :
    (∃ found item less, d.step true links place front = .ok (found, item) ∧
      ∀ follow back, back ≠ [] →
        d.step follow links place (front ++ back) = d.step follow less found back) ∨
    ∃ failure, d.step true links place front = .error failure ∧
      ∀ follow back, back ≠ [] → d.step follow links place (front ++ back) = .error failure := by
  fun_induction step d true links place front with
  | case1 links place item here => exact Or.inl ⟨place, item, links, rfl, fun _ _ _ => rfl⟩
  | case2 links place nothing =>
      refine Or.inr ⟨.missing, rfl, fun follow back more => ?_⟩
      obtain ⟨name, rest, rfl⟩ := List.exists_cons_of_ne_nil more
      simp only [List.nil_append, step, nothing]
  | case3 links place rest items here induction =>
      simp only [List.cons_append, step_dot here]
      exact induction
  | case4 links place rest items here other induction =>
      simp only [List.cons_append, step_up here]
      exact induction
  | case5 links place name rest items here other up absent =>
      exact Or.inr ⟨_, rfl, fun follow back _ =>
        step_of_missing here other up absent follow links (rest ++ back)⟩
  | case6 links place name rest items here other up target link last => simp at last
  | case7 place name rest items here other up target link last =>
      refine Or.inr ⟨_, rfl, fun follow back more => ?_⟩
      simp [step, here, other, up, link, more]
  | case8 place name rest items here other up target link last links induction =>
      have further (follow : Bool) {back : List String} (more : back ≠ []) :
          d.step follow (links + 1) place (name :: (rest ++ back)) = d.step follow links
            (if Path.isAbsolute target then [] else place) (Path.parts target ++ rest ++ back) := by
        simp [step, here, other, up, link, more]
      rcases induction with ⟨found, item, less, led, goesOn⟩ | ⟨failure, failed, fails⟩
      · exact Or.inl ⟨found, item, less, led, fun follow back more =>
          (further follow more).trans (goesOn follow back more)⟩
      · exact Or.inr ⟨failure, failed, fun follow back more =>
          (further follow more).trans (fails follow back more)⟩
  | case9 links place name rest items here other up item solid found induction =>
      simp only [List.cons_append, step_of_solid here other up found solid]
      exact induction
  | case10 links place name rest item noDir here =>
      exact Or.inr ⟨_, rfl, fun follow back _ =>
        step_of_not_dir here noDir follow links name (rest ++ back)⟩
  | case11 links place name rest nothing =>
      exact Or.inr ⟨_, rfl, fun follow back _ => by rw [List.cons_append, step, nothing]⟩

/-! ## Paths that are continued -/

theorem step_stay (links : Nat) {place found : Place} {item : Item}
    (led : d.step true links place ["."] = .ok (found, item)) :
    found = place ∧ ∃ items, item = .dir items := by
  cases here : d.at? place with
  | none =>
      rw [step, here] at led
      cases led
  | some inner =>
      cases inner with
      | dir items =>
          rw [step_dot here, step, here] at led
          cases led
          exact ⟨rfl, items, rfl⟩
      | file text =>
          rw [step_of_not_dir here (by simp)] at led
          cases led
      | link target =>
          rw [step_of_not_dir here (by simp)] at led
          cases led

/-- Where the steps of a path start. -/
def origin (d : Disk) (path : String) : Place := if Path.isAbsolute path then [] else d.work

theorem locate_eq_step {path : String} (filled : path ≠ "") (follow : Bool) :
    d.locate path follow = d.step follow linkLimit (d.origin path) (Path.parts path) := by
  rw [locate, if_neg (by simpa using filled), origin]

/-- A name leads to the item of the working directory that has it. -/
theorem locate_name {name : String} (proper : Path.IsName name) {items : List (String × Item)}
    (here : d.at? d.work = some (.dir items)) {item : Item} (found : items.lookup name = some item)
    (solid : ∀ target, item ≠ .link target) (follow : Bool) :
    d.locate name follow = .ok (d.work ++ [name], item) := by
  have start : d.origin name = d.work := by
    rw [origin, Path.isAbsolute_of_isName proper]
    rfl
  have parts : Path.parts name = [name] := by
    have noSlash : name.toList.getLast? ≠ some '/' := fun last =>
      proper.2.1 (List.mem_of_getLast? last)
    rw [← Path.names_of_isName proper, Path.parts, if_neg noSlash]
    rfl
  rw [locate_eq_step proper.1, start, parts,
    step_of_solid here proper.2.2.1 proper.2.2.2 found solid, step, at?_append_singleton here, found]

section

variable {path name : String} (filled : path ≠ "") (proper : Path.IsName name)
include filled proper

theorem locate_join_eq_step (follow : Bool) :
    d.locate (Path.join path name) follow =
      d.step follow linkLimit (d.origin path) (Path.names path ++ [name]) := by
  rw [locate_eq_step (Path.join_ne_empty filled proper), origin,
    Path.isAbsolute_join filled proper, Path.parts_join filled proper, origin]

/-- A path that is continued by a name leads into the directory that the path leads to. -/
theorem locate_join {place : Place} {items : List (String × Item)}
    (led : d.locate path true = .ok (place, .dir items)) :
    ∃ less, ∀ follow, d.locate (Path.join path name) follow = d.step follow less place [name] := by
  rw [locate_eq_step filled] at led
  rcases step_append d linkLimit (d.origin path) (Path.names path) with
    ⟨found, item, less, front, goesOn⟩ | ⟨failure, failed, fails⟩
  · obtain rfl : found = place := by
      rcases Path.parts_eq_names_or path with same | dotted
      · rw [same, front] at led
        cases led
        rfl
      · rw [dotted, goesOn true ["."] (by simp)] at led
        exact (step_stay less led).1.symm
    refine ⟨less, fun follow => ?_⟩
    rw [locate_join_eq_step filled proper, goesOn follow [name] (by simp)]
  · rcases Path.parts_eq_names_or path with same | dotted
    · rw [same, failed] at led
      cases led
    · rw [dotted, fails true ["."] (by simp)] at led
      cases led

/-- A path that leads on leads to a directory first. -/
theorem exists_dir_of_locate_join {follow : Bool} {found : Place × Item}
    (led : d.locate (Path.join path name) follow = .ok found) :
    ∃ place items, d.locate path true = .ok (place, .dir items) := by
  rw [locate_join_eq_step filled proper] at led
  rcases step_append d linkLimit (d.origin path) (Path.names path) with
    ⟨place, item, less, front, goesOn⟩ | ⟨failure, failed, fails⟩
  · rw [goesOn follow [name] (by simp)] at led
    obtain ⟨items, rfl⟩ : ∃ items, item = .dir items := by
      cases item with
      | dir items => exact ⟨items, rfl⟩
      | file text =>
          rw [step_of_not_dir (at?_of_step front) (by simp)] at led
          cases led
      | link target =>
          rw [step_of_not_dir (at?_of_step front) (by simp)] at led
          cases led
    refine ⟨place, items, ?_⟩
    rw [locate_eq_step filled]
    rcases Path.parts_eq_names_or path with same | dotted
    · rw [same, front]
    · rw [dotted, goesOn true ["."] (by simp), step_dot (at?_of_step front), step,
        at?_of_step front]
  · rw [fails follow [name] (by simp)] at led
    cases led

variable {place : Place} {items : List (String × Item)}
  (led : d.locate path true = .ok (place, .dir items))
include led

theorem locate_join_of_missing (absent : items.lookup name = none) (follow : Bool) :
    d.locate (Path.join path name) follow = .error .missing := by
  obtain ⟨less, same⟩ := locate_join filled proper led
  rw [same, step_of_missing (at?_of_located led) proper.2.2.1 proper.2.2.2 absent]

theorem locate_join_of_solid {item : Item} (found : items.lookup name = some item)
    (solid : ∀ target, item ≠ .link target) (follow : Bool) :
    d.locate (Path.join path name) follow = .ok (place ++ [name], item) := by
  have here := at?_of_located led
  obtain ⟨less, same⟩ := locate_join filled proper led
  rw [same, step_of_solid here proper.2.2.1 proper.2.2.2 found solid, step,
    at?_append_singleton here, found]

/-- A link is what its path leads to when it is not followed. -/
theorem locate_join_of_link {target : String} (found : items.lookup name = some (.link target)) :
    d.locate (Path.join path name) false = .ok (place ++ [name], .link target) := by
  have here := at?_of_located led
  obtain ⟨less, same⟩ := locate_join filled proper led
  rw [same]
  simp [step, here, proper.2.2.1, proper.2.2.2, found]

theorem lookup_of_locate_join {here : Place} {target : String}
    (link : d.locate (Path.join path name) false = .ok (here, .link target)) :
    items.lookup name = some (.link target) := by
  cases found : items.lookup name with
  | none =>
      rw [locate_join_of_missing filled proper led found] at link
      cases link
  | some inner =>
      cases inner with
      | link target' =>
          rw [locate_join_of_link filled proper led found] at link
          cases link
          rfl
      | file text =>
          rw [locate_join_of_solid filled proper led found (by simp)] at link
          cases link
      | dir items =>
          rw [locate_join_of_solid filled proper led found (by simp)] at link
          cases link

end

theorem locate_unfollowed (path : String) :
    (∃ found target, d.locate path false = .ok (found, .link target)) ∨
      d.locate path true = d.locate path false := by
  by_cases empty : path = ""
  · subst empty
    exact Or.inr rfl
  · rw [locate_eq_step empty, locate_eq_step empty]
    exact step_unfollowed d linkLimit (d.origin path) (Path.parts path)

end

/-! ## The order of a directory -/

/-- The same things stand at the same places of two disks. -/
structure Alike (d d' : Disk) : Prop where
  /-- Relative paths start in the same directory. -/
  work : d.work = d'.work
  /-- The shapes at all places are the same. -/
  shapes : ∀ place, d.shape? place = d'.shape? place

/-- What a search for a path found, without what is inside a directory. -/
def outline (found : Except Failure (Place × Item)) : Except Failure (Place × Shape) :=
  found.map fun (place, item) => (place, item.shape)

section

variable {d d' : Disk} (alike : Alike d d')
include alike

theorem Alike.symm : Alike d' d := ⟨alike.work.symm, fun place => (alike.shapes place).symm⟩

theorem Alike.at?_eq_none {place : Place} (nothing : d.at? place = none) :
    d'.at? place = none := by
  have same := alike.shapes place
  rw [shape?_eq_map, shape?_eq_map, nothing] at same
  exact Option.map_eq_none_iff.1 same.symm

theorem Alike.exists_at? {place : Place} {item : Item} (here : d.at? place = some item) :
    ∃ item', d'.at? place = some item' ∧ item'.shape = item.shape := by
  have same := alike.shapes place
  rw [shape?_eq_map, shape?_eq_map, here] at same
  exact Option.map_eq_some_iff.1 same.symm

theorem Alike.exists_dir {place : Place} {items : List (String × Item)}
    (here : d.at? place = some (.dir items)) : ∃ items', d'.at? place = some (.dir items') := by
  obtain ⟨item', here', shape⟩ := alike.exists_at? here
  obtain ⟨items', rfl⟩ := Item.shape_eq_dir_iff.1 shape
  exact ⟨items', here'⟩

section

variable {place : Place} {items items' : List (String × Item)}
  (here : d.at? place = some (.dir items)) (here' : d'.at? place = some (.dir items'))
  {name : String}
include here here'

theorem Alike.lookup_eq_none (absent : items.lookup name = none) : items'.lookup name = none := by
  rw [← at?_append_singleton here] at absent
  rw [← at?_append_singleton here', alike.at?_eq_none absent]

theorem Alike.exists_lookup {item : Item} (found : items.lookup name = some item) :
    ∃ item', items'.lookup name = some item' ∧ item'.shape = item.shape := by
  rw [← at?_append_singleton here] at found
  rw [← at?_append_singleton here']
  exact alike.exists_at? found

theorem Alike.lookup_link {target : String} (link : items.lookup name = some (.link target)) :
    items'.lookup name = some (.link target) := by
  obtain ⟨item', found', shape⟩ := alike.exists_lookup here here' link
  obtain rfl := Item.shape_eq_link_iff.1 shape
  exact found'

end

/-- Steps lead to the same place on both disks. -/
theorem Alike.outline_step (follow : Bool) (links : Nat) (place : Place) (steps : List String) :
    outline (d.step follow links place steps) = outline (d'.step follow links place steps) := by
  fun_induction step d follow links place steps with
  | case1 links place item here =>
      obtain ⟨item', here', shape⟩ := alike.exists_at? here
      rw [step, here']
      simp only [outline, Except.map, shape]
  | case2 links place nothing => rw [step, alike.at?_eq_none nothing]
  | case3 links place rest items here induction =>
      obtain ⟨items', here'⟩ := alike.exists_dir here
      rw [step_dot here']
      exact induction
  | case4 links place rest items here other induction =>
      obtain ⟨items', here'⟩ := alike.exists_dir here
      rw [step_up here']
      exact induction
  | case5 links place name rest items here other up absent =>
      obtain ⟨items', here'⟩ := alike.exists_dir here
      rw [step_of_missing here' other up (alike.lookup_eq_none here here' absent)]
  | case6 links place name rest items here other up target link last =>
      obtain ⟨items', here'⟩ := alike.exists_dir here
      have link' := alike.lookup_link here here' link
      simp [step, here', other, up, link', last]
  | case7 place name rest items here other up target link last =>
      obtain ⟨items', here'⟩ := alike.exists_dir here
      have link' := alike.lookup_link here here' link
      simp [step, here', other, up, link', last]
  | case8 place name rest items here other up target link last links induction =>
      obtain ⟨items', here'⟩ := alike.exists_dir here
      have link' := alike.lookup_link here here' link
      rw [step]
      simp only [here', other, up, link', last, if_false]
      exact induction
  | case9 links place name rest items here other up item solid found induction =>
      obtain ⟨items', here'⟩ := alike.exists_dir here
      obtain ⟨item', found', shape⟩ := alike.exists_lookup here here' found
      have solid' : ∀ target, item' ≠ .link target := by
        rintro target rfl
        exact solid target (Item.shape_eq_link_iff.1 shape.symm)
      rw [step_of_solid here' other up found' solid']
      exact induction
  | case10 links place name rest item noDir here =>
      obtain ⟨item', here', shape⟩ := alike.exists_at? here
      have noDir' : ∀ items, item' ≠ .dir items := by
        rintro items rfl
        obtain ⟨items, isDir⟩ := Item.shape_eq_dir_iff.1 shape.symm
        exact noDir items isDir
      rw [step_of_not_dir here' noDir']
  | case11 links place name rest nothing => rw [step, alike.at?_eq_none nothing]

/-- A path leads to the same place on both disks, and the same thing stands there. -/
theorem Alike.outline_locate (path : String) (follow : Bool) :
    outline (d.locate path follow) = outline (d'.locate path follow) := by
  by_cases empty : path = ""
  · subst empty
    rfl
  · rw [locate_eq_step empty, locate_eq_step empty, origin, origin, alike.work]
    exact alike.outline_step follow linkLimit _ _

theorem Alike.exists_locate {path : String} {follow : Bool} {place : Place} {item : Item}
    (led : d.locate path follow = .ok (place, item)) :
    ∃ item', d'.locate path follow = .ok (place, item') ∧ item'.shape = item.shape := by
  have same := alike.outline_locate path follow
  rw [led] at same
  cases led' : d'.locate path follow with
  | error failure =>
      rw [led'] at same
      cases same
  | ok found =>
      rw [led'] at same
      obtain ⟨place', item'⟩ := found
      simp only [outline, Except.map, Except.ok.injEq, Prod.mk.injEq] at same
      obtain ⟨rfl, shape⟩ := same
      exact ⟨item', rfl, shape.symm⟩

theorem Alike.locate_file {path : String} {follow : Bool} {place : Place}
    {text : Option String} (led : d.locate path follow = .ok (place, .file text)) :
    d'.locate path follow = .ok (place, .file text) := by
  obtain ⟨item', led', shape⟩ := alike.exists_locate led
  rw [led', Item.shape_eq_file_iff.1 shape]

theorem Alike.locate_eq_error {path : String} {follow : Bool} {failure : Failure}
    (failed : d.locate path follow = .error failure) :
    d'.locate path follow = .error failure := by
  have same := alike.outline_locate path follow
  rw [failed] at same
  cases led' : d'.locate path follow with
  | error failure' =>
      rw [led'] at same
      cases same
      rfl
  | ok found =>
      rw [led'] at same
      cases same

end

end Showcase.Disk
