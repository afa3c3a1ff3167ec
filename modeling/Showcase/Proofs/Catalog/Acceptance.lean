import Mathlib.Data.List.Nodup
import Showcase.Catalog.Builtin
import Showcase.Proofs.Text.Search
import Showcase.Settings.File

/-!
# Which lists of entries make a catalog

A list is checked entry by entry, with the keys met so far at hand.  `Catalog.FaultAt` says what is
wrong at a place of the list without mentioning the check: a blank key, or else a blank category, or
else a key that stands at an earlier place.

Main statement: `Catalog.accepted_iff_wellFormed`.  A list makes a catalog exactly when no entry is
blank where it must not be and no two keys are equal; otherwise it is refused for the fault of its
first faulty place.  Every way of making a catalog goes through this check (`Catalog.Made`).

The check is followed along the list by `Catalog.firstFault?_eq_some`: the entries passed so far
stand before the rest, and none of their places has a fault.
-/

namespace Showcase

theorem Entry.usable_iff {e : Entry} :
    e.Usable ↔ Text.trim e.key.toList ≠ [] ∧ Text.trim e.category.toList ≠ [] := by
  simp only [Usable, ← Bool.not_eq_true, Text.isBlankText_iff, ne_eq]

namespace Catalog

/-! ## Well-formed lists and their faults -/

/-- Every entry has a key and a category that are not blank, and all keys are different. -/
def WellFormed (es : List Entry) : Prop :=
  (∀ e ∈ es, Text.trim e.key.toList ≠ [] ∧ Text.trim e.category.toList ≠ []) ∧
    (es.map (·.key)).Nodup

/-- What is wrong with the entry at a place of a list. -/
inductive FaultAt (es : List Entry) (i : Nat) : Fault → Prop where
  | blankKey {e : Entry} (there : es[i]? = some e) (blank : Text.trim e.key.toList = []) :
      FaultAt es i (.invalidEntry "key" "must not be empty")
  | blankCategory {e : Entry} (there : es[i]? = some e) (named : Text.trim e.key.toList ≠ [])
      (blank : Text.trim e.category.toList = []) :
      FaultAt es i (.invalidEntry "category" ("entry " ++ e.key ++ " has no category"))
  | repeated {e earlier : Entry} {j : Nat} (there : es[i]? = some e)
      (named : Text.trim e.key.toList ≠ []) (grouped : Text.trim e.category.toList ≠ [])
      (before : j < i) (known : es[j]? = some earlier) (same : earlier.key = e.key) :
      FaultAt es i (.duplicateKey e.key)

/-- The fault of the first place of a list that has one. -/
def FirstFault (es : List Entry) (fault : Fault) : Prop :=
  ∃ i, FaultAt es i fault ∧ ∀ j < i, ∀ other, ¬ FaultAt es j other

theorem mem_map_key_take {es : List Entry} {i : Nat} {key : String} :
    key ∈ (es.take i).map (·.key) ↔
      ∃ j earlier, j < i ∧ es[j]? = some earlier ∧ earlier.key = key := by
  rw [List.mem_map]
  simp only [List.mem_iff_getElem?, List.getElem?_take]
  constructor
  · rintro ⟨earlier, ⟨j, found⟩, same⟩
    split at found
    next before => exact ⟨j, earlier, before, found, same⟩
    next => cases found
  · rintro ⟨j, earlier, before, found, same⟩
    exact ⟨earlier, ⟨j, by rw [if_pos before, found]⟩, same⟩

/-- The fault at a place is the flaw of its entry or, where it has none, the repetition of a key of
the entries before it. -/
theorem faultAt_iff {es : List Entry} {i : Nat} {fault : Fault} :
    FaultAt es i fault ↔ ∃ e, es[i]? = some e ∧
      (e.flaw? = some fault ∨ e.flaw? = none ∧ e.key ∈ (es.take i).map (·.key) ∧
        fault = .duplicateKey e.key) := by
  constructor
  · intro faulty
    cases faulty with
    | @blankKey e there blank =>
        refine ⟨e, there, Or.inl ?_⟩
        rw [Entry.flaw?, if_pos (Text.isBlankText_iff.2 blank)]
    | @blankCategory e there named blank =>
        refine ⟨e, there, Or.inl ?_⟩
        rw [Entry.flaw?, if_neg (mt Text.isBlankText_iff.1 named),
          if_pos (Text.isBlankText_iff.2 blank)]
    | @repeated e earlier j there named grouped before known same =>
        have sound : e.flaw? = none :=
          Entry.flaw?_eq_none_iff.2 (Entry.usable_iff.2 ⟨named, grouped⟩)
        exact ⟨e, there, Or.inr ⟨sound, mem_map_key_take.2 ⟨j, earlier, before, known, same⟩, rfl⟩⟩
  · rintro ⟨e, there, flawed | ⟨sound, known, rfl⟩⟩
    · unfold Entry.flaw? at flawed
      split at flawed
      next blank =>
        cases flawed
        exact .blankKey there (Text.isBlankText_iff.1 blank)
      next named =>
        split at flawed
        next blank =>
          cases flawed
          exact .blankCategory there (mt Text.isBlankText_iff.2 named)
            (Text.isBlankText_iff.1 blank)
        next => cases flawed
    · obtain ⟨named, grouped⟩ := Entry.usable_iff.1 (Entry.flaw?_eq_none_iff.1 sound)
      obtain ⟨j, earlier, before, found, same⟩ := mem_map_key_take.1 known
      exact .repeated there named grouped before found same

theorem FaultAt.unique {es : List Entry} {i : Nat} {fault other : Fault}
    (one : FaultAt es i fault) (two : FaultAt es i other) : fault = other := by
  obtain ⟨e, there, cause⟩ := faultAt_iff.1 one
  obtain ⟨e', there', cause'⟩ := faultAt_iff.1 two
  obtain rfl : e = e' := Option.some.inj (there.symm.trans there')
  rcases cause with flawed | ⟨sound, _, rfl⟩ <;> rcases cause' with flawed' | ⟨sound', _, rfl⟩
  · exact Option.some.inj (flawed.symm.trans flawed')
  · cases flawed.symm.trans sound'
  · cases sound.symm.trans flawed'
  · rfl

theorem FirstFault.unique {es : List Entry} {fault other : Fault}
    (one : FirstFault es fault) (two : FirstFault es other) : fault = other := by
  obtain ⟨i, faulty, first⟩ := one
  obtain ⟨j, faulty', first'⟩ := two
  rcases Nat.lt_trichotomy i j with before | rfl | after
  · exact absurd faulty (first' i before fault)
  · exact faulty.unique faulty'
  · exact absurd faulty' (first j after other)

theorem WellFormed.not_faultAt {es : List Entry} (formed : WellFormed es) (i : Nat)
    (fault : Fault) : ¬ FaultAt es i fault := by
  intro faulty
  cases faulty with
  | blankKey there blank => exact (formed.1 _ (List.mem_of_getElem? there)).1 blank
  | blankCategory there _ blank => exact (formed.1 _ (List.mem_of_getElem? there)).2 blank
  | @repeated e earlier j there _ _ before known same =>
      have inside : i < (es.map (·.key)).length := by
        rw [List.length_map]
        exact (List.getElem?_eq_some_iff.1 there).1
      apply List.nodup_iff_getElem?_ne_getElem?.1 formed.2 j i before inside
      simp [there, known, same]

/-! ## The check along a list -/

theorem faultAt_length_iff {before rest : List Entry} {e : Entry} {fault : Fault} :
    FaultAt (before ++ e :: rest) before.length fault ↔
      e.flaw? = some fault ∨ e.flaw? = none ∧ e.key ∈ before.map (·.key) ∧
        fault = .duplicateKey e.key := by
  simp [faultAt_iff]

/-- The check of what is left of a list, after entries whose places have no fault, finds the first
fault of the whole list. -/
theorem firstFault?_eq_some {before rest : List Entry} {seen : List String} {fault : Fault}
    (known : ∀ key, key ∈ seen ↔ key ∈ before.map (·.key))
    (clean : ∀ j < before.length, ∀ other, ¬ FaultAt (before ++ rest) j other)
    (found : firstFault? seen rest = some fault) : FirstFault (before ++ rest) fault := by
  induction rest generalizing before seen with
  | nil => cases found
  | cons e rest induction =>
      have here : FaultAt (before ++ e :: rest) before.length fault →
          FirstFault (before ++ e :: rest) fault :=
        fun faulty => ⟨before.length, faulty, clean⟩
      rw [firstFault?] at found
      split at found
      next flaw flawed =>
        cases found
        exact here (faultAt_length_iff.2 (Or.inl flawed))
      next sound =>
        split at found
        next met =>
          cases found
          have repeats : e.key ∈ before.map (·.key) := (known e.key).1 (List.contains_iff_mem.1 met)
          exact here (faultAt_length_iff.2 (Or.inr ⟨sound, repeats, rfl⟩))
        next new =>
          have passed : ∀ other, ¬ FaultAt (before ++ e :: rest) before.length other := by
            intro other faulty
            rcases faultAt_length_iff.1 faulty with flawed | ⟨_, repeats, _⟩
            · cases sound.symm.trans flawed
            · exact new (List.contains_iff_mem.2 ((known e.key).2 repeats))
          rw [List.append_cons]
          refine induction (fun key => ?_) (fun j within other => ?_) found
          · simp [known key, or_comm, eq_comm]
          · rw [← List.append_cons]
            rw [List.length_append, List.length_singleton, Nat.lt_succ_iff_lt_or_eq] at within
            rcases within with before | rfl
            · exact clean j before other
            · exact passed other

theorem firstFault?_eq_none_iff_wellFormed {es : List Entry} :
    firstFault? [] es = none ↔ WellFormed es := by
  simp [firstFault?_eq_none_iff, WellFormed, Entry.usable_iff]

theorem firstFault?_eq_some_iff {es : List Entry} {fault : Fault} :
    firstFault? [] es = some fault ↔ FirstFault es fault := by
  have sound {other : Fault} (found : firstFault? [] es = some other) : FirstFault es other := by
    show FirstFault ([] ++ es) other
    exact firstFault?_eq_some (by simp) (by simp) found
  constructor
  · exact sound
  · intro first
    cases checked : firstFault? [] es with
    | none =>
        obtain ⟨i, faulty, _⟩ := first
        exact absurd faulty ((firstFault?_eq_none_iff_wellFormed.1 checked).not_faultAt i fault)
    | some other => rw [(sound checked).unique first]

/-! ## Catalogs of lists -/

theorem entries_of_ofEntries {es : List Entry} {c : Catalog} (made : ofEntries es = .ok c) :
    c.entries = es := by
  unfold ofEntries at made
  split at made
  · cases made
  · cases made
    rfl

theorem exists_ofEntries_eq_ok_iff {es : List Entry} :
    (∃ c, ofEntries es = .ok c) ↔ firstFault? [] es = none := by
  unfold ofEntries
  split
  next fault found => simp [found]
  next clean => simp [clean]

theorem ofEntries_eq_error_iff {es : List Entry} {fault : Fault} :
    ofEntries es = .error fault ↔ firstFault? [] es = some fault := by
  unfold ofEntries
  split
  next other found => simp [found]
  next clean => simp [clean]

/-- A list of entries is refused for an entry that lacks something or repeats a key, and for
nothing else. -/
theorem cause_of_ofEntries {es : List Entry} {fault : Fault}
    (refused : ofEntries es = .error fault) :
    (∃ field reason, fault = .invalidEntry field reason) ∨ ∃ key, fault = .duplicateKey key := by
  obtain ⟨i, faulty, _⟩ := firstFault?_eq_some_iff.1 (ofEntries_eq_error_iff.1 refused)
  cases faulty with
  | blankKey => exact Or.inl ⟨_, _, rfl⟩
  | blankCategory => exact Or.inl ⟨_, _, rfl⟩
  | repeated => exact Or.inr ⟨_, rfl⟩

theorem get?_eq_some_iff {c : Catalog} {key : String} {e : Entry} :
    c.get? key = some e ↔ e ∈ c.entries ∧ e.key = key := by
  have match_of_found {found : Entry} (got : c.get? key = some found) :
      found ∈ c.entries ∧ found.key = key :=
    ⟨List.mem_of_find?_eq_some got, by simpa using List.find?_some got⟩
  constructor
  · exact match_of_found
  · rintro ⟨member, same⟩
    cases got : c.get? key with
    | none => exact absurd same (by simpa using List.find?_eq_none.1 got e member)
    | some found =>
        obtain ⟨member', same'⟩ := match_of_found got
        rw [List.inj_on_of_nodup_map c.distinct member' member (same'.trans same.symm)]

theorem get?_eq_none_iff {c : Catalog} {key : String} :
    c.get? key = none ↔ ∀ e ∈ c.entries, e.key ≠ key := by
  simp [get?]

/-! ## Every way of making a catalog -/

/-- A catalog is made of a list, is the empty or the built-in one, or is read from a manifest, as a
text or from a file. -/
inductive Made : Catalog → Prop where
  | ofEntries {es : List Entry} {c : Catalog} (made : Catalog.ofEntries es = .ok c) : Made c
  | empty : Made Catalog.empty
  | builtin : Made Catalog.builtin
  | ofManifest {format : Manifest.Format} {s : String} {c : Catalog}
      (made : Catalog.ofManifest format s = .ok c) : Made c
  | ofFile {disk : Disk} {path : String} {c : Catalog}
      (made : Catalog.ofFile disk path = .ok c) : Made c

theorem exists_ofEntries_of_ofManifest {format : Manifest.Format} {s : String} {c : Catalog}
    (made : ofManifest format s = .ok c) : ∃ es, ofEntries es = .ok c := by
  cases format with
  | json =>
      simp only [ofManifest] at made
      split at made
      next es _ => exact ⟨es, made⟩
      next => cases made
  | toml =>
      simp only [ofManifest] at made
      split at made
      next es _ => exact ⟨es, made⟩
      next => cases made

theorem exists_ofManifest_of_ofFile {disk : Disk} {path : String} {c : Catalog}
    (made : ofFile disk path = .ok c) : ∃ s, ofManifest (Manifest.formatOf path) s = .ok c := by
  unfold ofFile at made
  cases text : readFile disk path with
  | error failure =>
      rw [text] at made
      cases made
  | ok s =>
      rw [text] at made
      exact ⟨s, made⟩

/-- Whatever way a catalog is made, its entries have passed the check. -/
theorem Made.exists_ofEntries {c : Catalog} (made : Made c) :
    ∃ es, Catalog.ofEntries es = .ok c := by
  cases made with
  | @ofEntries es _ made => exact ⟨es, made⟩
  | empty => exact ⟨[], rfl⟩
  | builtin =>
      obtain ⟨c, made⟩ := exists_ofEntries_eq_ok_iff.2 firstFault?_builtinEntries
      refine ⟨builtinEntries, made.trans (congrArg Except.ok ?_)⟩
      obtain ⟨entries, usable, distinct⟩ := c
      obtain rfl : entries = builtinEntries := entries_of_ofEntries made
      rfl
  | ofManifest made => exact exists_ofEntries_of_ofManifest made
  | ofFile made =>
      obtain ⟨s, made⟩ := exists_ofManifest_of_ofFile made
      exact exists_ofEntries_of_ofManifest made

/-- A list makes a catalog exactly when it is well formed.  The catalog then has the entries of the
list in their order, and looks a key up to the one entry that has it.  A list that is refused is
refused for the fault of the first place that has one.  So a catalog is well formed whatever way it
is made. -/
theorem accepted_iff_wellFormed (es : List Entry) :
    ((∃ c, ofEntries es = .ok c) ↔ WellFormed es) ∧
      (∀ c, ofEntries es = .ok c → c.entries = es ∧ ∀ key,
        (∀ e, c.get? key = some e ↔ e ∈ es ∧ e.key = key) ∧
          (c.get? key = none ↔ ∀ e ∈ es, e.key ≠ key)) ∧
      (∀ fault, ofEntries es = .error fault ↔ FirstFault es fault) ∧
      ∀ c, Made c → WellFormed c.entries := by
  have formed {list : List Entry} : (∃ c, ofEntries list = .ok c) ↔ WellFormed list :=
    exists_ofEntries_eq_ok_iff.trans firstFault?_eq_none_iff_wellFormed
  refine ⟨formed, fun c made => ?_, fun fault => ?_, fun c made => ?_⟩
  · obtain rfl := entries_of_ofEntries made
    exact ⟨rfl, fun key => ⟨fun e => get?_eq_some_iff, get?_eq_none_iff⟩⟩
  · exact ofEntries_eq_error_iff.trans firstFault?_eq_some_iff
  · obtain ⟨list, checked⟩ := made.exists_ofEntries
    rw [entries_of_ofEntries checked]
    exact formed.1 ⟨c, checked⟩

/-- The second entry repeats a key and has a blank category, and the third has a blank key: the list
is refused for the category.  With the category filled in it is refused for the key of the second,
and without that entry for the third. -/
theorem earlier_fault_hides_later_ones :
    let first : Entry := { key := "a", title := "", category := "A" }
    let second : Entry := { key := "a", title := "", category := "\u2003" }
    let third : Entry := { key := "\t", title := "", category := "" }
    ofEntries [first, second, third] =
        .error (.invalidEntry "category" "entry a has no category") ∧
      ofEntries [first, { second with category := "B" }, third] = .error (.duplicateKey "a") ∧
      ofEntries [first, third] = .error (.invalidEntry "key" "must not be empty") ∧
      ∃ c, ofEntries [first] = .ok c := by
  intro first second third
  have accepted : WellFormed [first] := by
    unfold WellFormed
    decide +kernel
  have clean (rest : List Entry) : ∀ j < 1, ∀ other, ¬ FaultAt (first :: rest) j other := by
    intro j only other faulty
    obtain rfl : j = 0 := Nat.lt_one_iff.1 only
    have sound : first.flaw? = none := by decide
    simp [faultAt_iff, sound] at faulty
  have refused {rest : List Entry} {fault : Fault} (faulty : FaultAt (first :: rest) 1 fault) :
      ofEntries (first :: rest) = .error fault :=
    ((accepted_iff_wellFormed (first :: rest)).2.2.1 fault).2 ⟨1, faulty, clean rest⟩
  refine ⟨refused ?_, refused ?_, refused ?_, (accepted_iff_wellFormed [first]).1.2 accepted⟩
  · exact .blankCategory (e := second) rfl (by decide) (by decide)
  · exact .repeated (e := { second with category := "B" }) rfl (by decide) (by decide) Nat.one_pos
      rfl rfl
  · exact .blankKey (e := third) rfl (by decide)

end Catalog

end Showcase
