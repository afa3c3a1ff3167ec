import Mathlib.Data.List.Induction
import Showcase.Proofs.Disk.Stops

/-!
# What walks list

The stops of a walk are those to which paths below its start lead (`Stop.Sound.reaches` and
`Stop.exists_reaches`), and so neither the order of a directory nor the bound of the walk shows in
what it comes to.

Main statements, for a disk whose directories have proper names: a walk lists exactly the files to
which paths below its start lead (`mem_walk_iff`), each once (`nodup_names_of_walk`), and it fails
exactly if the start leads nowhere, or below it a link leads nowhere or back to a directory on the way
(`walk_fails_iff`).
-/

namespace Showcase.Disk

/-! ## Where paths lead -/

/-- The path of names below a directory. -/
def beneath (dir : String) (below : List String) : String := below.foldl Path.join dir

theorem beneath_concat (dir : String) (below : List String) (name : String) :
    beneath dir (below ++ [name]) = Path.join (beneath dir below) name :=
  List.foldl_concat ..

theorem beneath_ne_empty {dir : String} (filled : dir ≠ "") {below : List String}
    (proper : ∀ name ∈ below, Path.IsName name) : beneath dir below ≠ "" :=
  (Path.foldl_join filled proper).1

/-- A directory cannot be walked: its path leads nowhere, or below it a link leads nowhere, or a
link leads back to a directory on the way to it. -/
inductive Obstructed (d : Disk) (dir : String) : Prop where
  | absent {failure : Failure} : d.locate dir true = .error failure → Obstructed d dir
  | broken {below : List String} {name target : String} {place : Place} {failure : Failure} :
      (∀ n ∈ below ++ [name], Path.IsName n) →
      d.locate (beneath dir (below ++ [name])) false = .ok (place, .link target) →
      d.locate (beneath dir (below ++ [name])) true = .error failure → Obstructed d dir
  | loop {front below : List String} {name target : String} {place here : Place}
      {items items' : List (String × Item)} :
      (∀ n ∈ below ++ [name], Path.IsName n) →
      d.locate (beneath dir (below ++ [name])) false = .ok (here, .link target) →
      d.locate (beneath dir (below ++ [name])) true = .ok (place, .dir items) →
      front <+: below → d.locate (beneath dir front) true = .ok (place, .dir items') →
      Obstructed d dir

/-- What is known of a stop that a walk of a directory comes to: its path leads to it, and the
directories above it are those on the way. -/
structure Stop.Sound (d : Disk) (dir : String) (s : Stop) : Prop where
  /-- Its names can stand in a path. -/
  proper : ∀ name ∈ s.names, Path.IsName name
  /-- Its path has these names. -/
  path : s.path = beneath dir s.names
  /-- The path leads to it. -/
  led : d.locate s.path true = .ok (s.place, s.item)
  /-- The directories above are those to which shorter paths lead. -/
  above : ∀ place, (∃ a ∈ s.above, a.place = place) ↔
    ∃ front items, front <+: s.names ∧ front ≠ s.names ∧
      d.locate (beneath dir front) true = .ok (place, .dir items)

section

variable {d : Disk} {dir : String}

theorem settle_eq_ok_of_start {place : Place} {item : Item}
    (start : d.locate dir false = .ok (place, item)) {found : Place × Item} :
    d.settle [] dir place item = .ok found ↔ d.locate dir true = .ok found := by
  cases item with
  | link target => simp [settle, followLink_eq_ok_iff]
  | file text =>
      rcases d.locate_unfollowed dir with ⟨_, _, link⟩ | same
      · cases start.symm.trans link
      · simp only [settle, same, start, Except.ok.injEq]
  | dir items =>
      rcases d.locate_unfollowed dir with ⟨_, _, link⟩ | same
      · cases start.symm.trans link
      · simp only [settle, same, start, Except.ok.injEq]

theorem Stop.sound_start {place : Place} {item : Item}
    (led : d.locate dir true = .ok (place, item)) : Stop.Sound d dir ⟨[], [], dir, place, item⟩ where
  proper := by simp
  path := rfl
  led := led
  above := by simp

theorem length_untrodden_le (above : List Ancestor) :
    (d.untrodden above).length ≤ d.tree.count := by
  rw [← d.tree.length_places]
  exact List.length_filter_le _ _

theorem visit_of_walk {place : Place} {item : Item}
    (start : d.locate dir false = .ok (place, item)) :
    ∃ depth, item.count + (d.untrodden []).length * (d.tree.count + 1) ≤ depth ∧
      d.walk dir = d.visit depth [] [] dir place item := by
  refine ⟨(d.tree.count + 1) * (d.tree.count + 1), ?_, by simp only [walk, start]⟩
  have whole : item.count ≤ d.tree.count := Item.count_le_of_at? (at?_of_located start)
  have all := Nat.mul_le_mul_right (d.tree.count + 1) (d.length_untrodden_le [])
  rw [Nat.succ_mul]
  omega

/-- A walk that succeeds starts where its path leads, meets no obstacle and lists all files. -/
theorem exists_stop_of_walk {walked : List Found} (done : d.walk dir = .ok walked) :
    ∃ place item, d.locate dir true = .ok (place, item) ∧
      Stop.Lists d ⟨[], [], dir, place, item⟩ walked := by
  cases start : d.locate dir false with
  | error failure =>
      simp only [walk, start] at done
      cases done
  | ok found =>
      obtain ⟨depth, _, same⟩ := visit_of_walk start
      obtain ⟨place, item, settled, lists⟩ := visit_eq_ok (same.symm.trans done)
      exact ⟨place, item, (settle_eq_ok_of_start start).1 settled, lists⟩

variable (named : d.Named)
include named

/-- What stands in the directory of a stop, by its name. -/
theorem Stop.Sound.slot {s : Stop} (sound : s.Sound d dir) {items : List (String × Item)}
    (isDir : s.item = .dir items) {name : String} {item : Item} (member : (name, item) ∈ items) :
    Path.IsName name ∧ items.lookup name = some item := by
  have led := sound.led
  rw [isDir] at led
  obtain ⟨different, proper⟩ := named (at?_of_located led)
  exact ⟨proper _ member, lookup_eq_some_of_mem different member⟩

theorem Stop.Sound.next {s t : Stop} (sound : s.Sound d dir) (next : Stop.Next d s t) :
    t.Sound d dir := by
  obtain ⟨items, name, item, isDir, member, entered⟩ := next
  obtain ⟨place, inner, settled, rfl⟩ := Stop.enter_eq_ok_iff.1 entered
  obtain ⟨proper, found⟩ := sound.slot named isDir member
  have led := sound.led
  rw [isDir] at led
  have filled := ne_empty_of_locate led
  refine ⟨?_, ?_, ?_, fun other => ⟨?_, ?_⟩⟩
  · simpa [or_imp, forall_and] using ⟨sound.proper, proper⟩
  · rw [beneath_concat, ← sound.path]
  · cases item with
    | link target => exact (followLink_eq_ok_iff.1 settled).1
    | file text =>
        cases settled
        exact locate_join_of_solid filled proper led found (by simp) true
    | dir items =>
        cases settled
        exact locate_join_of_solid filled proper led found (by simp) true
  · rintro ⟨a, among, rfl⟩
    rcases List.mem_cons.1 among with rfl | further
    · exact ⟨s.names, items, List.prefix_append _ _, by simp, sound.path ▸ led⟩
    · obtain ⟨front, items, before, _, leads⟩ := (sound.above _).1 ⟨a, further, rfl⟩
      refine ⟨front, items, before.trans (List.prefix_append _ _), ?_, leads⟩
      rintro rfl
      have shorter := before.length_le
      rw [List.length_append, List.length_singleton] at shorter
      omega
  · rintro ⟨front, items', before, other, leads⟩
    have before := (List.prefix_concat_iff.1 before).resolve_left other
    by_cases here : front = s.names
    · rw [here, ← sound.path, led] at leads
      cases leads
      exact ⟨⟨s.place, s.path⟩, List.mem_cons_self, rfl⟩
    · obtain ⟨a, among, same⟩ := (sound.above _).2 ⟨front, items', before, here, leads⟩
      exact ⟨a, List.mem_cons_of_mem _ among, same⟩

theorem Stop.Sound.reaches {s t : Stop} (sound : s.Sound d dir) (reached : Stop.Reaches d s t) :
    t.Sound d dir := by
  induction reached with
  | refl => exact sound
  | tail _ next induction => exact induction.next named next

section

variable {s : Stop} (sound : s.Sound d dir) (start : s.names = [])
  (free : ∀ t obstacle, Stop.Reaches d s t → ¬ t.Blocked d obstacle)
include sound start free

/-- A walk without obstacles comes to everything that a path below its start leads to. -/
theorem Stop.exists_reaches {below : List String} (proper : ∀ name ∈ below, Path.IsName name)
    {place : Place} {item : Item} (leads : d.locate (beneath dir below) true = .ok (place, item)) :
    ∃ t, Stop.Reaches d s t ∧ t.names = below ∧ t.place = place ∧ t.item = item := by
  induction below using List.reverseRecOn generalizing place item with
  | nil =>
      have led := sound.led
      rw [sound.path, start, leads] at led
      cases led
      exact ⟨s, .refl, start, rfl, rfl⟩
  | append_singleton below name induction =>
      rw [List.forall_mem_append, List.forall_mem_singleton] at proper
      have filled : dir ≠ "" := by
        have := ne_empty_of_locate sound.led
        rwa [sound.path, start] at this
      have filled := beneath_ne_empty filled proper.1
      rw [beneath_concat] at leads
      obtain ⟨place', items, toDir⟩ := exists_dir_of_locate_join filled proper.2 leads
      obtain ⟨t, reached, rfl, rfl, isDir⟩ := induction proper.1 toDir
      cases found : items.lookup name with
      | none =>
          rw [locate_join_of_missing filled proper.2 toDir found] at leads
          cases leads
      | some inner =>
          have member := mem_of_lookup_eq_some found
          cases entered : t.enter d name inner with
          | error obstacle =>
              exact absurd ⟨items, name, inner, isDir, member, entered⟩ (free t obstacle reached)
          | ok u =>
              have next : Stop.Next d t u := ⟨items, name, inner, isDir, member, entered⟩
              obtain ⟨_, _, _, same⟩ := Stop.enter_eq_ok_iff.1 entered
              have names : u.names = t.names ++ [name] := by rw [same]
              have soundU := sound.reaches named (reached.tail next)
              have led := soundU.led
              rw [soundU.path, names, beneath_concat, leads] at led
              cases led
              exact ⟨u, reached.tail next, names, rfl, rfl⟩

end

/-- A walk lists exactly the files to which paths below its start lead. -/
theorem mem_walk_iff {walked : List Found} (done : d.walk dir = .ok walked) {f : Found} :
    f ∈ walked ↔ ∃ below, (∀ name ∈ below, Path.IsName name) ∧
      (∃ place text, d.locate (beneath dir below) true = .ok (place, .file text)) ∧
      f = ⟨below, beneath dir below⟩ := by
  obtain ⟨place, item, led, free, lists⟩ := exists_stop_of_walk done
  have sound := Stop.sound_start led
  rw [lists]
  constructor
  · rintro ⟨t, text, reached, isFile, rfl⟩
    have soundT := sound.reaches named reached
    refine ⟨t.names, soundT.proper, ⟨t.place, text, ?_⟩, ?_⟩
    · rw [← soundT.path, soundT.led, isFile]
    · rw [Stop.found, soundT.path]
  · rintro ⟨below, proper, ⟨place, text, leads⟩, rfl⟩
    obtain ⟨t, reached, rfl, rfl, isFile⟩ := Stop.exists_reaches named sound rfl free proper leads
    refine ⟨t, text, reached, isFile, ?_⟩
    rw [Stop.found, (sound.reaches named reached).path]

/-! ## Each file once -/

omit named in
/-- What is listed inside a stop has the names of the stop and then that of an item. -/
theorem exists_slot_of_listed {depth : Nat} {s : Stop} {items : List (String × Item)}
    (each : ∀ slot ∈ items, ∀ walked, d.visitSlot depth s slot = .ok walked →
      ∀ f ∈ walked, s.names ++ [slot.1] <+: f.names)
    {lists : List (List Found)} (done : items.mapM (d.visitSlot depth s) = .ok lists)
    {f : Found} (listed : f ∈ lists.flatten) : ∃ slot ∈ items, s.names ++ [slot.1] <+: f.names := by
  obtain ⟨slot, member, walked, visited, listed⟩ := ((mapM_eq_ok_cases done).2 f).1 listed
  exact ⟨slot, member, each slot member walked visited f listed⟩

omit named in
/-- Items of different names have nothing below them with the same names. -/
theorem nodup_names_of_mapM {depth : Nat} {s : Stop} {items : List (String × Item)}
    (different : (items.map (·.1)).Nodup)
    (once : ∀ slot ∈ items, ∀ walked, d.visitSlot depth s slot = .ok walked →
      (walked.map (·.names)).Nodup)
    (each : ∀ slot ∈ items, ∀ walked, d.visitSlot depth s slot = .ok walked →
      ∀ f ∈ walked, s.names ++ [slot.1] <+: f.names)
    {lists : List (List Found)} (done : items.mapM (d.visitSlot depth s) = .ok lists) :
    (lists.flatten.map (·.names)).Nodup := by
  induction items generalizing lists with
  | nil =>
      cases done
      exact List.nodup_nil
  | cons slot items induction =>
      obtain ⟨walked, more, first, others, rfl⟩ := mapM_cons_eq_ok_iff.1 done
      rw [List.map_cons, List.nodup_cons] at different
      rw [List.forall_mem_cons] at once each
      rw [List.flatten_cons, List.map_append, List.nodup_append]
      refine ⟨once.1 walked first, induction different.2 once.2 each.2 others, ?_⟩
      rintro _ here _ there rfl
      obtain ⟨f, member, rfl⟩ := List.mem_map.1 here
      obtain ⟨g, member', same⟩ := List.mem_map.1 there
      obtain ⟨slot', among, before'⟩ := exists_slot_of_listed each.2 others member'
      have before := each.1 walked first f member
      rw [same] at before'
      have equal := (List.prefix_of_prefix_length_le before before' (by simp)).eq_of_length (by simp)
      rw [List.append_cancel_left_eq, List.singleton_inj] at equal
      exact different.1 (equal ▸ List.mem_map_of_mem among)

theorem nodup_names_of_visit {depth : Nat} {above : List Ancestor} {names : List String}
    {path : String} {place : Place} {item : Item} {walked : List Found}
    (there : d.at? place = some item)
    (done : d.visit depth above names path place item = .ok walked) :
    (walked.map (·.names)).Nodup ∧ ∀ f ∈ walked, names <+: f.names := by
  induction depth generalizing above names path place item walked with
  | zero => cases done
  | succ depth induction =>
      obtain ⟨place', item', settled, done⟩ := visit_succ_eq_ok_iff.1 done
      have there := at?_of_settle there settled
      cases item' with
      | file text =>
          cases done
          simp [Stop.found]
      | link target =>
          cases done
          simp
      | dir items =>
          obtain ⟨lists, listed, rfl⟩ := (visitInside_eq_ok_iff rfl).1 done
          obtain ⟨different, _⟩ := named there
          have below (slot) (member : slot ∈ items) (walked)
              (visited : d.visitSlot depth ⟨above, names, path, place', .dir items⟩ slot = .ok walked) :
              (walked.map (·.names)).Nodup ∧ ∀ f ∈ walked, names ++ [slot.1] <+: f.names := by
            refine induction ?_ visited
            rw [at?_append_singleton there, lookup_eq_some_of_mem different member]
          have each (slot) (member : slot ∈ items) (walked) (visited) :=
            (below slot member walked visited).2
          refine ⟨nodup_names_of_mapM different (fun slot member walked visited =>
            (below slot member walked visited).1) each listed, fun f member => ?_⟩
          obtain ⟨slot, _, before⟩ := exists_slot_of_listed each listed member
          exact (List.prefix_append _ _).trans before

/-- A walk lists each file once. -/
theorem nodup_names_of_walk {walked : List Found} (done : d.walk dir = .ok walked) :
    (walked.map (·.names)).Nodup := by
  cases start : d.locate dir false with
  | error failure =>
      simp only [walk, start] at done
      cases done
  | ok found =>
      obtain ⟨depth, _, same⟩ := visit_of_walk start
      exact (nodup_names_of_visit named (at?_of_located start) (same.symm.trans done)).1

/-! ## Obstacles -/

/-- Where a walk meets an obstacle, a link leads nowhere or back. -/
theorem Stop.Sound.obstructed {s : Stop} (sound : s.Sound d dir) {obstacle : Obstacle}
    (blocked : s.Blocked d obstacle) : d.Obstructed dir := by
  obtain ⟨items, name, item, isDir, member, blocked⟩ := blocked
  rw [Stop.enter_eq_error_iff] at blocked
  obtain ⟨target, rfl⟩ : ∃ target, item = .link target := by
    cases item with
    | link target => exact ⟨target, rfl⟩
    | file text => cases blocked
    | dir items => cases blocked
  obtain ⟨proper, found⟩ := sound.slot named isDir member
  have led := sound.led
  rw [isDir] at led
  have unfollowed := locate_join_of_link (ne_empty_of_locate led) proper led found
  have proper : ∀ n ∈ s.names ++ [name], Path.IsName n := by
    simpa [or_imp, forall_and] using ⟨sound.proper, proper⟩
  rw [sound.path, ← beneath_concat] at unfollowed
  have refused (found : Place × Item) : d.followLink s.inside (Path.join s.path name) ≠ .ok found :=
    fun followed => by cases blocked.symm.trans followed
  simp only [ne_eq, followLink_eq_ok_iff, sound.path, ← beneath_concat] at refused
  cases followed : d.locate (beneath dir (s.names ++ [name])) true with
  | error failure => exact .broken proper unfollowed followed
  | ok found =>
      obtain ⟨place, item⟩ := found
      obtain ⟨items', rfl, a, among, rfl⟩ : ∃ items', item = .dir items' ∧
          ∃ a ∈ s.inside, a.place = place := by
        by_contra none
        refine refused (place, item) ⟨followed, fun items' isDir a among same => ?_⟩
        exact none ⟨items', isDir, a, among, same⟩
      rcases List.mem_cons.1 among with rfl | further
      · exact .loop proper unfollowed followed List.prefix_rfl (sound.path ▸ led)
      · obtain ⟨front, items'', before, _, leads⟩ := (sound.above _).1 ⟨a, further, rfl⟩
        exact .loop proper unfollowed followed before leads

theorem obstructed_of_walk {obstacle : Obstacle} (failed : d.walk dir = .error obstacle) :
    d.Obstructed dir := by
  cases start : d.locate dir false with
  | error failure =>
      rcases d.locate_unfollowed dir with ⟨_, _, link⟩ | same
      · cases start.symm.trans link
      · exact .absent (same.trans start)
  | ok found =>
      obtain ⟨depth, enough, same⟩ := visit_of_walk start
      rcases visit_eq_error enough (same.symm.trans failed) with
        refused | ⟨place, item, t, settled, reached, blocked⟩
      · cases led : d.locate dir true with
        | error failure => exact .absent led
        | ok found => cases refused.symm.trans ((settle_eq_ok_of_start start).2 led)
      · have sound := Stop.sound_start ((settle_eq_ok_of_start start).1 settled)
        exact (sound.reaches named reached).obstructed named blocked

/-- A link that a walk without obstacles comes to leads on, and not to a directory on the way. -/
theorem exists_followed_of_walk {walked : List Found} (done : d.walk dir = .ok walked)
    {below : List String} {name target : String} {here : Place}
    (proper : ∀ n ∈ below ++ [name], Path.IsName n)
    (link : d.locate (beneath dir (below ++ [name])) false = .ok (here, .link target)) :
    ∃ place item, d.locate (beneath dir (below ++ [name])) true = .ok (place, item) ∧
      ∀ items, item = .dir items → ∀ front items', front <+: below →
        d.locate (beneath dir front) true ≠ .ok (place, .dir items') := by
  rw [List.forall_mem_append, List.forall_mem_singleton] at proper
  obtain ⟨_, _, led, free, _⟩ := exists_stop_of_walk done
  have filled := beneath_ne_empty (ne_empty_of_locate led) proper.1
  have sound := Stop.sound_start led
  rw [beneath_concat] at link ⊢
  obtain ⟨place, items, toDir⟩ := exists_dir_of_locate_join filled proper.2 link
  obtain ⟨t, reached, rfl, rfl, isDir⟩ := Stop.exists_reaches named sound rfl free proper.1 toDir
  have soundT := sound.reaches named reached
  have found := lookup_of_locate_join filled proper.2 toDir link
  cases entered : t.enter d name (.link target) with
  | error obstacle =>
      exact absurd ⟨items, name, _, isDir, mem_of_lookup_eq_some found, entered⟩
        (free t obstacle reached)
  | ok u =>
      obtain ⟨place, item, settled, _⟩ := Stop.enter_eq_ok_iff.1 entered
      obtain ⟨led, clear⟩ := followLink_eq_ok_iff.1 settled
      rw [soundT.path] at led
      refine ⟨place, item, led, fun items' isDir' front items'' before leads => ?_⟩
      by_cases whole : front = t.names
      · rw [whole, toDir] at leads
        cases leads
        exact clear items' isDir' _ List.mem_cons_self rfl
      · obtain ⟨a, among, same⟩ := (soundT.above place).2 ⟨front, items'', before, whole, leads⟩
        exact clear items' isDir' a (List.mem_cons_of_mem _ among) same

/-- A walk fails exactly where the directory cannot be walked. -/
theorem walk_fails_iff : (∃ obstacle, d.walk dir = .error obstacle) ↔ d.Obstructed dir := by
  constructor
  · rintro ⟨obstacle, failed⟩
    exact obstructed_of_walk named failed
  · intro obstructed
    cases done : d.walk dir with
    | error obstacle => exact ⟨obstacle, rfl⟩
    | ok walked =>
        cases obstructed with
        | absent failed =>
            obtain ⟨_, _, led, _⟩ := exists_stop_of_walk done
            cases failed.symm.trans led
        | broken proper link failed =>
            obtain ⟨_, _, led, _⟩ := exists_followed_of_walk named done proper link
            cases failed.symm.trans led
        | loop proper link followed before leads =>
            obtain ⟨_, _, led, clear⟩ := exists_followed_of_walk named done proper link
            cases followed.symm.trans led
            exact absurd leads (clear _ rfl _ _ before)

end

/-- What keeps a directory from being walked does not depend on the order of a directory. -/
theorem Alike.obstructed {d d' : Disk} (alike : d.Alike d') {dir : String}
    (obstructed : d.Obstructed dir) : d'.Obstructed dir := by
  cases obstructed with
  | absent failed => exact .absent (alike.locate_eq_error failed)
  | broken proper link failed =>
      obtain ⟨item, link', shape⟩ := alike.exists_locate link
      rw [Item.shape_eq_link_iff.1 shape] at link'
      exact .broken proper link' (alike.locate_eq_error failed)
  | loop proper link followed before leads =>
      obtain ⟨item, link', shape⟩ := alike.exists_locate link
      rw [Item.shape_eq_link_iff.1 shape] at link'
      obtain ⟨inner, followed', shape⟩ := alike.exists_locate followed
      obtain ⟨items, rfl⟩ := Item.shape_eq_dir_iff.1 shape
      obtain ⟨outer, leads', shape⟩ := alike.exists_locate leads
      obtain ⟨items', rfl⟩ := Item.shape_eq_dir_iff.1 shape
      exact .loop proper link' followed' before leads'

end Showcase.Disk
