import Showcase.Disk.Tree
import Showcase.Proofs.Disk.Paths
import Showcase.Proofs.Lookup

/-!
# Places of a disk

The `Shape` of an item is what stands at its place, without what is inside a directory.  A disk is
seen through the shapes at its places: writing a file and removing a file each change the shape at
one place and at no other (`shape?_writeFile`, `shape?_removeFile`).

On a disk without links a path leads somewhere by its steps alone (`descend`).  While files are
written and removed, the directories stay and no links appear (`Kept`), so a path that led to a
file once leads to the same place ever after, whatever stands there now (`Kept.readText`).
-/

namespace Showcase

namespace Disk

/-! ## Shapes -/

/-- What stands at a place, without what is inside a directory. -/
inductive Shape where
  /-- A file and its text. -/
  | file (text : Option String)
  /-- A directory. -/
  | dir
  /-- A link. -/
  | link (target : String)
  deriving DecidableEq, Repr

namespace Item

/-- The shape of an item. -/
def shape : Item → Shape
  | .file text => .file text
  | .dir _ => .dir
  | .link target => .link target

/-- The shape at a place inside an item. -/
def shape? (place : Place) (item : Item) : Option Shape := (item.at? place).map shape

theorem shape_eq_dir_iff {item : Item} : item.shape = .dir ↔ ∃ items, item = .dir items := by
  cases item <;> simp [shape]

theorem shape_eq_file_iff {item : Item} {text : Option String} :
    item.shape = .file text ↔ item = .file text := by
  cases item <;> simp [shape]

@[simp] theorem at?_nil (item : Item) : item.at? [] = some item := by
  cases item <;> rfl

@[simp] theorem at?_cons_dir (name : String) (place : Place) (items : List (String × Item)) :
    (Item.dir items).at? (name :: place) = (items.lookup name).bind (at? place) := rfl

@[simp] theorem shape?_nil (item : Item) : item.shape? [] = some item.shape := by
  rw [shape?, at?_nil, Option.map_some]

@[simp] theorem shape?_cons_dir (name : String) (place : Place) (items : List (String × Item)) :
    (Item.dir items).shape? (name :: place) = (items.lookup name).bind (shape? place) := by
  simp only [shape?, at?_cons_dir, Option.map_bind]
  rfl

theorem shape?_file (text : Option String) (place : Place) :
    (Item.file text).shape? place = if place = [] then some (.file text) else none := by
  cases place <;> rfl

theorem at?_append (item : Item) (front back : Place) :
    item.at? (front ++ back) = (item.at? front).bind (at? back) := by
  induction front generalizing item with
  | nil => rw [List.nil_append, at?_nil, Option.bind_some]
  | cons name front induction =>
      cases item with
      | dir items =>
          rw [List.cons_append, at?_cons_dir, at?_cons_dir, Option.bind_assoc]
          exact Option.bind_congr fun inner _ => induction inner
      | file text => rfl
      | link target => rfl

/-! ## Changing an item -/

theorem lookup_set (name other : String) (item : Item) (items : List (String × Item)) :
    (set name item items).lookup other =
      if other = name then some item else items.lookup other := by
  induction items with
  | nil => rw [set, lookup_cons_eq_ite]
  | cons slot items induction =>
      obtain ⟨n, old⟩ := slot
      rw [set, lookup_cons_eq_ite]
      split
      next found =>
        subst found
        rw [lookup_cons_eq_ite]
        split <;> rfl
      next further =>
        rw [lookup_cons_eq_ite, induction]
        by_cases here : other = n
        · subst here
          rw [if_pos rfl, if_neg further, if_pos rfl]
        · rw [if_neg here, if_neg here]

theorem lookup_filter_ne (name other : String) (items : List (String × Item)) :
    (items.filter (·.1 ≠ name)).lookup other =
      if other = name then none else items.lookup other := by
  induction items with
  | nil => simp
  | cons slot items induction =>
      obtain ⟨n, item⟩ := slot
      by_cases found : n = name
      · subst found
        rw [List.filter_cons_of_neg (by simp), induction, lookup_cons_eq_ite]
        split <;> rfl
      · rw [List.filter_cons_of_pos (by simpa using found), lookup_cons_eq_ite, induction,
          lookup_cons_eq_ite]
        by_cases here : other = n
        · subst here
          rw [if_pos rfl, if_neg found, if_pos rfl]
        · rw [if_neg here, if_neg here]

/-- What stands inside an item stands in a directory. -/
theorem shape?_cons_eq_some {name : String} {place : Place} {item : Item} {shape : Shape}
    (there : item.shape? (name :: place) = some shape) :
    ∃ items inner, item = .dir items ∧ items.lookup name = some inner ∧
      inner.shape? place = some shape := by
  cases item with
  | dir items =>
      rw [shape?_cons_dir] at there
      obtain ⟨inner, here, there⟩ := Option.bind_eq_some_iff.1 there
      exact ⟨items, inner, rfl, here, there⟩
  | file text => cases there
  | link target => cases there

/-- A directory in which one item is changed at one place is changed at that place. -/
theorem shape?_dir_set {name : String} {items : List (String × Item)} {changed : Item}
    {place : Place} {shape : Option Shape}
    (inner : ∀ other, changed.shape? other =
      if other = place then shape else (items.lookup name).bind (shape? other)) (other : Place) :
    (Item.dir (set name changed items)).shape? other =
      if other = name :: place then shape else (Item.dir items).shape? other := by
  cases other with
  | nil => simp [Item.shape]
  | cons n other =>
      rw [shape?_cons_dir, shape?_cons_dir, lookup_set]
      by_cases same : n = name
      · subst same
        simp [inner]
      · simp [same]

/-- A file that is put in a directory, where nothing or a file stood, changes its own place
only. -/
theorem shape?_put_file (text : Option String) {place : Place} {item : Item}
    (inside : item.shape? place.dropLast = some .dir)
    (free : ∀ shape, item.shape? place = some shape → ∃ old, shape = .file old) (other : Place) :
    (put (.file text) place item).shape? other =
      if other = place then some (.file text) else item.shape? other := by
  induction place generalizing item other with
  | nil =>
      obtain ⟨old, isFile⟩ := free .dir inside
      cases isFile
  | cons name place induction =>
      cases place with
      | nil =>
          obtain ⟨items, rfl⟩ : ∃ items, item = .dir items := by
            simpa [shape_eq_dir_iff] using inside
          refine shape?_dir_set (fun other => ?_) other
          rw [put, shape?_file]
          split
          next => rfl
          next deeper =>
            -- a file stood here or nothing, so nothing stood further inside
            cases here : items.lookup name with
            | none => rfl
            | some inner =>
                obtain ⟨old, isFile⟩ := free inner.shape (by simp [here])
                obtain rfl := shape_eq_file_iff.1 isFile
                rw [Option.bind_some, shape?_file, if_neg deeper]
      | cons next place =>
          obtain ⟨items, inner, rfl, here, inside⟩ := shape?_cons_eq_some inside
          refine shape?_dir_set (fun other => ?_) other
          rw [here, Option.getD_some, Option.bind_some]
          exact induction inside (fun shape at' => free shape (by simpa [here] using at')) other

/-- Removing a file changes its own place only. -/
theorem shape?_erase_file {place : Place} {item : Item} {text : Option String}
    (there : item.shape? place = some (.file text)) (below : place ≠ []) (other : Place) :
    (erase place item).shape? other = if other = place then none else item.shape? other := by
  induction place generalizing item other with
  | nil => exact absurd rfl below
  | cons name place induction =>
      obtain ⟨items, inner, rfl, here, there⟩ := shape?_cons_eq_some there
      cases place with
      | nil =>
          obtain rfl : inner = .file text := by simpa [shape_eq_file_iff] using there
          cases other with
          | nil => simp [erase, shape]
          | cons n other =>
              simp only [erase, shape?_cons_dir, lookup_filter_ne, List.cons.injEq]
              by_cases same : n = name
              · subst same
                simp only [if_true, here, Option.bind_none, Option.bind_some, shape?_file, true_and]
                split <;> rfl
              · simp [same]
      | cons next place =>
          simp only [erase, here]
          refine shape?_dir_set (fun other => ?_) other
          rw [here, Option.bind_some]
          exact induction there (List.cons_ne_nil next place) other

end Item

/-! ## Writing and removing files -/

/-- The shape at a place of a disk. -/
def shape? (d : Disk) (place : Place) : Option Shape := d.tree.shape? place

theorem shape?_eq_map (d : Disk) (place : Place) :
    d.shape? place = (d.at? place).map Item.shape := rfl

theorem shape?_eq_dir_iff {d : Disk} {place : Place} :
    d.shape? place = some .dir ↔ ∃ items, d.at? place = some (.dir items) := by
  rw [shape?_eq_map, Option.map_eq_some_iff]
  simp only [Item.shape_eq_dir_iff]
  grind

/-- The text of the file at a place. -/
def textAt (d : Disk) (place : Place) : Except Failure String :=
  match d.shape? place with
  | some (.file (some text)) => .ok text
  | some (.file none) => .error .notText
  | some _ => .error .isDirectory
  | none => .error .missing

/-- Whether a file stands at a place. -/
def hasFile (d : Disk) (place : Place) : Bool :=
  match d.shape? place with
  | some (.file _) => true
  | _ => false

/-- Whether a file can be written at a place: in a directory, where nothing or a file stands. -/
def takesFile (d : Disk) (place : Place) : Bool :=
  d.shape? place.dropLast == some .dir && (d.shape? place == none || d.hasFile place)

/-- A disk with a file written at a place, if that is possible. -/
def writeFile (d : Disk) (place : Place) (text : Option String) : Disk :=
  if d.takesFile place then d.putAt place (.file text) else d

/-- A disk with the file at a place removed, if there is one. -/
def removeFile (d : Disk) (place : Place) : Disk :=
  if d.hasFile place then d.eraseAt place else d

theorem hasFile_iff {d : Disk} {place : Place} :
    d.hasFile place = true ↔ ∃ text, d.shape? place = some (.file text) := by
  unfold hasFile
  split <;> simp_all

theorem takesFile_iff {d : Disk} {place : Place} :
    d.takesFile place = true ↔ d.shape? place.dropLast = some .dir ∧
      ∀ shape, d.shape? place = some shape → ∃ text, shape = .file text := by
  rw [takesFile, Bool.and_eq_true, beq_iff_eq, Bool.or_eq_true, beq_iff_eq, hasFile_iff]
  refine and_congr_right fun _ => ?_
  cases d.shape? place <;> simp

theorem shape?_nil (d : Disk) : d.shape? [] = some .dir := rfl

theorem tree_putAt {place : Place} (below : place ≠ []) (d : Disk) (item : Item) :
    (d.putAt place item).tree = Item.put item place d.tree := by
  cases place with
  | nil => exact absurd rfl below
  | cons name place => rfl

theorem tree_eraseAt (d : Disk) (place : Place) :
    (d.eraseAt place).tree = d.tree.erase place := by
  have stays : ∃ items, d.tree.erase place = .dir items := by
    unfold tree
    match place with
    | [] => exact ⟨d.root, rfl⟩
    | [name] => exact ⟨_, rfl⟩
    | name :: next :: place =>
        cases here : d.root.lookup name with
        | none => exact ⟨d.root, by simp [Item.erase, here]⟩
        | some inner =>
            refine ⟨Item.set name (inner.erase (next :: place)) d.root, ?_⟩
            simp only [Item.erase, here]
  obtain ⟨items, erased⟩ := stays
  simp only [eraseAt, erased]
  rfl

/-- Writing a file changes its own place only. -/
theorem shape?_writeFile (d : Disk) (place : Place) (text : Option String) (other : Place) :
    (d.writeFile place text).shape? other =
      if other = place ∧ d.takesFile place = true then some (.file text) else d.shape? other := by
  unfold writeFile
  split
  next takes =>
    obtain ⟨inside, free⟩ := takesFile_iff.1 takes
    have below : place ≠ [] := by
      rintro rfl
      obtain ⟨text, isFile⟩ := free .dir d.shape?_nil
      cases isFile
    rw [shape?, tree_putAt below, Item.shape?_put_file text inside free]
    simp [takes, shape?]
  next refused => simp [refused]

/-- Removing a file changes its own place only. -/
theorem shape?_removeFile (d : Disk) (place : Place) (other : Place) :
    (d.removeFile place).shape? other =
      if other = place ∧ d.hasFile place = true then none else d.shape? other := by
  unfold removeFile
  split
  next has =>
    obtain ⟨text, there⟩ := hasFile_iff.1 has
    have below : place ≠ [] := by
      rintro rfl
      rw [shape?_nil] at there
      cases there
    rw [shape?, tree_eraseAt, Item.shape?_erase_file there below]
    simp [has, shape?]
  next refused => simp [refused]

@[simp] theorem work_writeFile (d : Disk) (place : Place) (text : Option String) :
    (d.writeFile place text).work = d.work := by
  unfold writeFile putAt
  split
  · split <;> rfl
  · rfl

@[simp] theorem work_removeFile (d : Disk) (place : Place) :
    (d.removeFile place).work = d.work := by
  unfold removeFile eraseAt
  split
  · split <;> rfl
  · rfl

/-! ## Paths without links -/

/-- A disk has no links. -/
def Linkless (d : Disk) : Prop := ∀ place target, d.shape? place ≠ some (.link target)

/-- Where one step from a directory leads, if it is no link. -/
def next (place : Place) (name : String) : Place :=
  if name = "." then place else if name = ".." then place.dropLast else place ++ [name]

/-- Where steps from a place lead, and what is there, if no link is on the way. -/
def descend (d : Disk) (place : Place) : List String → Except Failure (Place × Item)
  | [] =>
    match d.at? place with
    | some item => .ok (place, item)
    | none => .error .missing
  | name :: rest =>
    match d.at? place with
    | some (.dir _) => d.descend (next place name) rest
    | some _ => .error .notDirectory
    | none => .error .missing

theorem at?_append_singleton {d : Disk} {place : Place} {items : List (String × Item)}
    (here : d.at? place = some (.dir items)) (name : String) :
    d.at? (place ++ [name]) = items.lookup name := by
  unfold at? at here ⊢
  rw [Item.at?_append, here, Option.bind_some, Item.at?_cons_dir]
  cases items.lookup name <;> simp

/-- What something stands below is a directory. -/
theorem exists_dir_of_at?_append_cons {d : Disk} {place below : Place} {name : String} {item : Item}
    (there : d.at? (place ++ name :: below) = some item) :
    ∃ items, d.at? place = some (.dir items) := by
  unfold at? at there ⊢
  rw [Item.at?_append] at there
  obtain ⟨inner, here, deeper⟩ := Option.bind_eq_some_iff.1 there
  cases inner with
  | dir items => exact ⟨items, here⟩
  | file text => cases deeper
  | link target => cases deeper

theorem descend_of_at?_eq_none {d : Disk} {place : Place} (nothing : d.at? place = none)
    (steps : List String) : d.descend place steps = .error .missing := by
  cases steps <;> simp [descend, nothing]

theorem descend_cons {d : Disk} {place : Place} {items : List (String × Item)}
    (here : d.at? place = some (.dir items)) (name : String) (rest : List String) :
    d.descend place (name :: rest) = d.descend (next place name) rest := by
  simp only [descend, here]

/-- On a disk without links a path leads somewhere by its steps alone. -/
theorem Linkless.step_eq_descend {d : Disk} (linkless : d.Linkless) (follow : Bool) (links : Nat)
    (place : Place) (steps : List String) :
    d.step follow links place steps = d.descend place steps := by
  induction steps generalizing place with
  | nil => cases here : d.at? place <;> simp only [step, descend, here]
  | cons name rest induction =>
      cases here : d.at? place with
      | none => simp only [step, descend, here]
      | some item =>
          cases item with
          | file text => simp only [step, descend, here]
          | link target => simp only [step, descend, here]
          | dir items =>
              simp only [step, here, descend_cons here, induction, next]
              split
              next => rfl
              next =>
                split
                next => rfl
                next =>
                  rw [← at?_append_singleton here]
                  split
                  next nothing => rw [descend_of_at?_eq_none nothing]
                  next target link =>
                    refine absurd ?_ (linkless (place ++ [name]) target)
                    rw [shape?_eq_map, link]
                    rfl
                  next => rfl

theorem Linkless.locate_eq_descend {d : Disk} (linkless : d.Linkless) {path : String}
    (filled : path ≠ "") (follow : Bool) :
    d.locate path follow =
      d.descend (if Path.isAbsolute path then [] else d.work) (Path.parts path) := by
  rw [locate, if_neg (by simpa using filled), linkless.step_eq_descend]

theorem ne_empty_of_locate {d : Disk} {path : String} {follow : Bool} {found : Place × Item}
    (led : d.locate path follow = .ok found) : path ≠ "" := by
  rintro rfl
  cases led

theorem at?_of_descend {d : Disk} {place found : Place} {steps : List String} {item : Item}
    (led : d.descend place steps = .ok (found, item)) : d.at? found = some item := by
  induction steps generalizing place with
  | nil =>
      rw [descend] at led
      split at led
      next here => cases led; exact here
      next => cases led
  | cons name rest induction =>
      rw [descend] at led
      split at led
      next => exact induction led
      next => cases led
      next => cases led

/-- To stay where one is leads nowhere else. -/
theorem eq_of_descend_dot {d : Disk} {place found : Place} {item : Item}
    (led : d.descend place ["."] = .ok (found, item)) : found = place := by
  rw [descend] at led
  split at led
  next here =>
    rw [next, if_pos rfl, descend, here] at led
    cases led
    rfl
  next => cases led
  next => cases led

/-- Steps that were taken one after the other can be taken in two parts. -/
theorem descend_append (d : Disk) (place : Place) (front back : List String) :
    d.descend place (front ++ back) =
      (d.descend place front).bind fun found => d.descend found.1 back := by
  induction front generalizing place with
  | nil =>
      cases here : d.at? place with
      | none =>
          rw [descend_of_at?_eq_none here, descend_of_at?_eq_none here]
          rfl
      | some item =>
          simp only [List.nil_append, descend.eq_1, here]
          rfl
  | cons name front induction =>
      cases here : d.at? place with
      | none =>
          rw [descend_of_at?_eq_none here, descend_of_at?_eq_none here]
          rfl
      | some item =>
          cases item with
          | file text =>
              simp only [List.cons_append, descend, here]
              rfl
          | link target =>
              simp only [List.cons_append, descend, here]
              rfl
          | dir items =>
              rw [List.cons_append, descend_cons here, descend_cons here, induction]

/-- The names of a path lead where the path leads, with or without a slash at its end. -/
theorem exists_descend_names {d : Disk} {place found : Place} {path : String} {item : Item}
    (led : d.descend place (Path.parts path) = .ok (found, item)) :
    ∃ item, d.descend place (Path.names path) = .ok (found, item) := by
  rcases Path.parts_eq_names_or path with same | dotted
  · exact ⟨item, same ▸ led⟩
  · rw [dotted, descend_append] at led
    cases front : d.descend place (Path.names path) with
    | error failure =>
        rw [front] at led
        cases led
    | ok reached =>
        rw [front] at led
        obtain rfl := eq_of_descend_dot led
        exact ⟨reached.2, rfl⟩

/-- Names lead down to what stands below a place. -/
theorem descend_names {d : Disk} {place : Place} {below : List String} {item : Item}
    (proper : ∀ name ∈ below, Path.IsName name) (there : d.at? (place ++ below) = some item) :
    d.descend place below = .ok (place ++ below, item) := by
  induction below generalizing place with
  | nil =>
      rw [List.append_nil] at there ⊢
      simp only [descend, there]
  | cons name below induction =>
      rw [List.forall_mem_cons] at proper
      obtain ⟨⟨_, _, here, up⟩, others⟩ := proper
      obtain ⟨items, dir⟩ := exists_dir_of_at?_append_cons there
      rw [← List.singleton_append, ← List.append_assoc] at there ⊢
      rw [List.singleton_append, descend_cons dir, next, if_neg here, if_neg up]
      exact induction others there

/-! ## While files are written and removed -/

/-- A disk with the directories of an earlier one and no links. -/
structure Kept (before d : Disk) : Prop where
  /-- Relative paths start in the same directory. -/
  work : d.work = before.work
  /-- The directories are the same. -/
  dirs : ∀ place, d.shape? place = some .dir ↔ before.shape? place = some .dir
  /-- There are no links. -/
  linkless : d.Linkless

theorem Linkless.kept {d : Disk} (linkless : d.Linkless) : Kept d d where
  work := rfl
  dirs := fun _ => Iff.rfl
  linkless := linkless

theorem Kept.writeFile {before d : Disk} (kept : Kept before d) (place : Place)
    (text : Option String) : Kept before (d.writeFile place text) where
  work := by rw [work_writeFile, kept.work]
  dirs := by
    intro other
    rw [shape?_writeFile, ← kept.dirs]
    split
    next written =>
      -- no directory stood where a file can be written
      obtain ⟨rfl, takes⟩ := written
      obtain ⟨_, free⟩ := takesFile_iff.1 takes
      refine iff_of_false (by simp) fun dir => ?_
      obtain ⟨_, isFile⟩ := free .dir dir
      cases isFile
    next => rfl
  linkless := by
    intro other target link
    rw [shape?_writeFile] at link
    split at link
    · cases link
    · exact kept.linkless other target link

theorem Kept.removeFile {before d : Disk} (kept : Kept before d) (place : Place) :
    Kept before (d.removeFile place) where
  work := by rw [work_removeFile, kept.work]
  dirs := by
    intro other
    rw [shape?_removeFile, ← kept.dirs]
    split
    next removed =>
      obtain ⟨rfl, has⟩ := removed
      obtain ⟨text, there⟩ := hasFile_iff.1 has
      simp [there]
    next => rfl
  linkless := by
    intro other target link
    rw [shape?_removeFile] at link
    split at link
    · cases link
    · exact kept.linkless other target link

section

variable {before d : Disk} (kept : Kept before d)
include kept

/-- Steps that led to a place lead to it ever after. -/
theorem Kept.descend {place found : Place} {steps : List String} {item : Item}
    (led : before.descend place steps = .ok (found, item)) :
    d.descend place steps = d.descend found [] := by
  induction steps generalizing place with
  | nil =>
      rw [Disk.descend] at led
      split at led
      next => cases led; rfl
      next => cases led
  | cons name rest induction =>
      obtain ⟨items, here⟩ : ∃ items, before.at? place = some (.dir items) := by
        rw [Disk.descend] at led
        split at led
        next items here => exact ⟨items, here⟩
        next => cases led
        next => cases led
      obtain ⟨_, now⟩ : ∃ items, d.at? place = some (.dir items) :=
        shape?_eq_dir_iff.1 ((kept.dirs place).2 (shape?_eq_dir_iff.2 ⟨items, here⟩))
      rw [descend_cons here] at led
      rw [descend_cons now]
      exact induction led

/-- A path that led to a place reads what stands there now. -/
theorem Kept.readText (linkless : before.Linkless) {path : String} {place : Place} {item : Item}
    (led : before.locate path true = .ok (place, item)) : d.readText path = d.textAt place := by
  have now : d.locate path true = d.descend place [] := by
    have filled := ne_empty_of_locate led
    rw [linkless.locate_eq_descend filled] at led
    rw [kept.linkless.locate_eq_descend filled, kept.work]
    exact kept.descend led
  rw [Disk.readText, now, textAt, shape?_eq_map, Disk.descend]
  cases d.at? place with
  | none => rfl
  | some item =>
      cases item with
      | file text => cases text <;> rfl
      | dir items => rfl
      | link target => rfl

end

end Disk

end Showcase
