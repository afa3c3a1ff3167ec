import Mathlib.Data.List.Nodup
import Mathlib.Data.String.Basic
import Showcase.Proofs.Disk.Listing
import Showcase.Proofs.Glob
import Showcase.Proofs.Registry.Slots

/-!
# Discovery through links

The samples in a directory of any disk with proper names are the files to which paths below the
directory lead and whose names, with slashes between them, match the pattern
(`Sample.mem_discover_iff`).  The key of a sample tells these names, so no two samples have one key,
and the samples are listed by strictly increasing key (`Sample.pairwise_ofWalk`).

Such a list is known from its members (`Sample.eq_of_mem_iff`).  So neither the order of a walk nor
that of a directory makes a difference, and neither does it for the registry, whose places are in the
order of the keys (`Registry.slots_putSamples`).

A pattern for one name finds files in the directory itself only, and with two stars and a slash in
front it finds those files and, below directories that are not hidden, the others with such a name
(`Sample.flat_patterns_stay_and_stars_descend`).
-/

namespace Showcase

namespace Registry

/-! ## Places in the order of their keys -/

theorem virtualPath_lt (base : String) {key other : String} (before : key < other) :
    virtualPath base key < virtualPath base other := by
  unfold virtualPath
  split
  next => exact before
  next cs _ =>
    rw [String.lt_iff_toList_lt] at before ⊢
    rw [String.toList_ofList, String.toList_ofList]
    exact List.append_left_lt (List.cons_lt_cons_iff.2 (Or.inr ⟨rfl, before⟩))

/-- A slot whose place comes after all others stands at the end. -/
theorem putSlot_of_last {α : Type} {path : String} {slots : List (String × α)}
    (last : ∀ slot ∈ slots, slot.1 < path) (loader : α) :
    putSlot path loader slots = slots ++ [(path, loader)] := by
  induction slots with
  | nil => rfl
  | cons slot slots induction =>
      rw [List.forall_mem_cons] at last
      rw [putSlot, if_neg (lt_asymm last.1), if_neg (ne_of_gt last.1), induction last.2]
      rfl

/-- Samples with increasing keys have their slots in the same order. -/
theorem slots_putSamples (base : String) {samples : List Sample}
    (increasing : samples.Pairwise fun s t => s.key < t.key) :
    ((Registry.empty base).putSamples samples).slots =
      samples.map fun s => (virtualPath base s.key, ⟨virtualPath base s.key, s.path⟩) := by
  induction samples using List.reverseRecOn with
  | nil => rfl
  | append_singleton samples s induction =>
      rw [List.pairwise_append] at increasing
      obtain ⟨others, _, last⟩ := increasing
      have place : ((Registry.empty base).putSamples samples).place s.key =
          virtualPath base s.key := by
        rw [Registry.place, base_putSamples]
        rfl
      have split : (Registry.empty base).putSamples (samples ++ [s]) =
          ((Registry.empty base).putSamples samples).putAt (virtualPath base s.key)
            ⟨virtualPath base s.key, s.path⟩ := by
        rw [← place]
        exact List.foldl_concat ..
      rw [split, putAt, putSlot_of_last, induction others, List.map_append]
      · rfl
      · rw [induction others, List.forall_mem_map]
        exact fun t member => virtualPath_lt base (last t member s List.mem_cons_self)

theorem ofDir_eq (d : Disk) (dir pattern base : String) :
    ofDir d dir pattern base =
      (Sample.discover d dir pattern).map (Registry.empty base).putSamples := by
  unfold ofDir
  cases Sample.discover d dir pattern <;> rfl

end Registry

namespace Sample

/-! ## Increasing keys -/

/-- Lists with increasing keys and the same members are the same. -/
theorem eq_of_mem_iff {samples others : List Sample}
    (increasing : samples.Pairwise fun s t => s.key < t.key)
    (increasing' : others.Pairwise fun s t => s.key < t.key)
    (same : ∀ s, s ∈ samples ↔ s ∈ others) : samples = others := by
  have different {list : List Sample} (increasing : list.Pairwise fun s t => s.key < t.key) :
      list.Nodup :=
    List.Nodup.of_map (·.key) ((List.pairwise_map.2 increasing).imp ne_of_lt)
  refine List.Perm.eq_of_pairwise (fun s t _ _ before after => ?_) increasing increasing'
    ((List.perm_ext_iff_of_nodup (different increasing) (different increasing')).2 same)
  exact absurd before (lt_asymm after)

section

variable {walked : List Disk.Found}
  (once : (walked.map (·.names)).Nodup)
  (proper : ∀ f ∈ walked, ∀ name ∈ f.names, Disk.Path.IsName name)
include once proper

/-- Files that are met once have different keys. -/
theorem nodup_keys : (walked.map keyOf).Nodup := by
  have back : (walked.map keyOf).map Disk.Path.names = walked.map (·.names) := by
    rw [List.map_map]
    exact List.map_congr_left fun f member => Disk.Path.names_intercalate (proper f member)
  exact List.Nodup.of_map _ (back ▸ once)

/-- The samples of a walk are listed by strictly increasing key. -/
theorem pairwise_ofWalk (tokens : List Glob.Token) :
    (ofWalk tokens walked).Pairwise fun s t => s.key < t.key := by
  have sorted : (ofWalk tokens walked).Pairwise fun s t => s.key ≤ t.key := by
    refine (List.pairwise_mergeSort ?_ ?_ _).imp of_decide_eq_true
    · simpa using fun a b c : Sample => le_trans (a := a.key) (b := b.key) (c := c.key)
    · simpa using fun a b : Sample => le_total a.key b.key
  have different : ((ofWalk tokens walked).map (·.key)).Nodup := by
    rw [ofWalk, ((List.mergeSort_perm _ _).map _).nodup_iff]
    refine List.Nodup.sublist (List.filter_sublist.map _) ?_
    rw [List.map_map]
    exact nodup_keys once proper
  rw [List.Nodup, List.pairwise_map] at different
  exact sorted.imp₂ (fun _ _ => lt_of_le_of_ne) different

/-- The order of a walk makes no difference to the samples. -/
theorem ofWalk_eq_of_perm (tokens : List Glob.Token) {order : List Disk.Found}
    (reordered : order.Perm walked) : ofWalk tokens order = ofWalk tokens walked := by
  have once' : (order.map (·.names)).Nodup := (reordered.map _).nodup_iff.2 once
  have proper' : ∀ f ∈ order, ∀ name ∈ f.names, Disk.Path.IsName name :=
    fun f member => proper f (reordered.mem_iff.1 member)
  refine eq_of_mem_iff (pairwise_ofWalk once' proper' tokens) (pairwise_ofWalk once proper tokens)
    fun s => ?_
  simp only [mem_ofWalk_iff, reordered.mem_iff]

end

/-! ## Samples in a directory -/

section

variable {d : Disk} {dir pattern : String}

theorem discover_eq_ok_iff {tokens : List Glob.Token} (valid : Glob.parse pattern = .ok tokens)
    {samples : List Sample} :
    discover d dir pattern = .ok samples ↔
      ∃ walked, d.walk dir = .ok walked ∧ ofWalk tokens walked = samples := by
  simp only [discover, valid]
  cases d.walk dir with
  | error obstacle => simp
  | ok walked => simp

/-- Discovery fails for a bad pattern and for a walk that fails. -/
theorem discover_fails_iff :
    (∃ fault, discover d dir pattern = .error fault) ↔
      (∃ flaw, Glob.parse pattern = .error flaw) ∨ ∃ obstacle, d.walk dir = .error obstacle := by
  unfold discover
  cases Glob.parse pattern with
  | error flaw => simp
  | ok tokens => cases d.walk dir <;> simp

theorem eq_discovery_of_discover {fault : Fault} (failed : discover d dir pattern = .error fault) :
    ∃ reason, fault = .discovery dir reason := by
  unfold discover at failed
  split at failed
  next =>
    cases failed
    exact ⟨_, rfl⟩
  next =>
    split at failed
    next =>
      cases failed
      exact ⟨_, rfl⟩
    next => cases failed

variable (named : d.Named)
include named

theorem proper_of_walk {walked : List Disk.Found} (done : d.walk dir = .ok walked) :
    ∀ f ∈ walked, ∀ name ∈ f.names, Disk.Path.IsName name := by
  intro f member
  obtain ⟨below, proper, _, rfl⟩ := (Disk.mem_walk_iff named done).1 member
  exact proper

variable {tokens : List Glob.Token} (valid : Glob.parse pattern = .ok tokens)
  {samples : List Sample} (done : discover d dir pattern = .ok samples)
include valid done

theorem pairwise_discover : samples.Pairwise fun s t => s.key < t.key := by
  obtain ⟨walked, reached, rfl⟩ := (discover_eq_ok_iff valid).1 done
  exact pairwise_ofWalk (Disk.nodup_names_of_walk named reached) (proper_of_walk named reached) tokens

/-- The samples in a directory are the files to which paths below it lead and whose names, with
slashes between them, match the pattern. -/
theorem mem_discover_iff {s : Sample} :
    s ∈ samples ↔
      ∃ below, (∀ name ∈ below, Disk.Path.IsName name) ∧
        (∃ place text, d.locate (Disk.beneath dir below) true = .ok (place, .file text)) ∧
        s = ⟨"/".intercalate below, Disk.beneath dir below⟩ ∧
        Glob.isMatch tokens s.key = true := by
  obtain ⟨walked, reached, rfl⟩ := (discover_eq_ok_iff valid).1 done
  rw [mem_ofWalk_iff]
  constructor
  · rintro ⟨⟨f, member, rfl⟩, matched⟩
    obtain ⟨below, proper, file, rfl⟩ := (Disk.mem_walk_iff named reached).1 member
    exact ⟨below, proper, file, rfl, matched⟩
  · rintro ⟨below, proper, file, rfl, matched⟩
    exact ⟨⟨_, (Disk.mem_walk_iff named reached).2 ⟨below, proper, file, rfl⟩, rfl⟩, matched⟩

/-- Discovery finds the same samples where directories list their items in another order. -/
theorem discover_of_alike {d' : Disk} (named' : d'.Named) (alike : d.Alike d') :
    discover d' dir pattern = .ok samples := by
  cases done' : discover d' dir pattern with
  | error fault =>
      obtain ⟨walked, reached, _⟩ := (discover_eq_ok_iff valid).1 done
      rcases discover_fails_iff.1 ⟨fault, done'⟩ with ⟨flaw, invalid⟩ | blocked
      · cases valid.symm.trans invalid
      · rw [Disk.walk_fails_iff named'] at blocked
        obtain ⟨obstacle, blocked⟩ := (Disk.walk_fails_iff named).2 (alike.symm.obstructed blocked)
        cases reached.symm.trans blocked
  | ok others =>
      rw [eq_of_mem_iff (pairwise_discover named' valid done') (pairwise_discover named valid done)]
      intro s
      rw [mem_discover_iff named' valid done', mem_discover_iff named valid done]
      refine exists_congr fun below => and_congr_right fun proper => and_congr_left fun _ => ?_
      constructor
      · rintro ⟨place, text, led⟩
        exact ⟨place, text, alike.symm.locate_file led⟩
      · rintro ⟨place, text, led⟩
        exact ⟨place, text, alike.locate_file led⟩

end

/-- Samples with increasing keys are told apart by them. -/
theorem eq_of_key_eq {samples : List Sample}
    (increasing : samples.Pairwise fun s t => s.key < t.key) :
    ∀ s ∈ samples, ∀ t ∈ samples, s.key = t.key → s = t :=
  List.inj_on_of_nodup_map ((List.pairwise_map.2 increasing).imp ne_of_lt)

end Sample

namespace Registry

/-- The loader of a key reads the file of the sample with the key. -/
theorem resolve?_eq_some_iff (base : String) {samples : List Sample}
    (increasing : samples.Pairwise fun s t => s.key < t.key) {key : String} {loader : FileLoader} :
    ((Registry.empty base).putSamples samples).resolve? key = some loader ↔
      ∃ s ∈ samples, s.key = key ∧ loader = ⟨virtualPath base key, s.path⟩ := by
  have single := Sample.eq_of_key_eq increasing
  constructor
  · intro known
    by_cases sampled : ∃ s ∈ samples, s.key = key
    · obtain ⟨s, member, rfl⟩ := sampled
      rw [resolve?_of_mem base single member] at known
      exact ⟨s, member, rfl, (Option.some.inj known).symm⟩
    · rw [(resolve?_eq_none_iff base key).2 (by simpa using sampled)] at known
      cases known
  · rintro ⟨s, member, rfl, rfl⟩
    exact resolve?_of_mem base single member

end Registry

namespace Sample

/-- Discovery either fails, for a bad pattern or an obstacle on the walk, or lists each matching file
once by strictly increasing key, and the registry has one loader for each, in any order in which the
directories list their items and in which the walk meets the files. -/
theorem discovery_is_complete_and_sorted {d : Disk} (named : d.Named) (dir pattern base : String) :
    ((∃ fault, discover d dir pattern = .error fault) ↔
      (∃ flaw, Glob.parse pattern = .error flaw) ∨ d.Obstructed dir) ∧
    (∀ fault, discover d dir pattern = .error fault →
      (∃ reason, fault = .discovery dir reason) ∧
      Registry.ofDir d dir pattern base = .error fault) ∧
    ∀ tokens samples, Glob.parse pattern = .ok tokens → discover d dir pattern = .ok samples →
      samples.Pairwise (fun s t => s.key < t.key) ∧
      (∀ s, s ∈ samples ↔
        ∃ below, (∀ name ∈ below, Disk.Path.IsName name) ∧
          (∃ place text, d.locate (Disk.beneath dir below) true = .ok (place, .file text)) ∧
          s = ⟨"/".intercalate below, Disk.beneath dir below⟩ ∧
          Glob.isMatch tokens s.key = true) ∧
      (∀ walked order, d.walk dir = .ok walked → order.Perm walked →
        ofWalk tokens order = samples) ∧
      (∀ d' : Disk, d'.Named → d.Alike d' → discover d' dir pattern = .ok samples) ∧
      ∃ r, Registry.ofDir d dir pattern base = .ok r ∧
        r.paths = samples.map (fun s => Registry.virtualPath base s.key) ∧
        (∀ key loader, r.resolve? key = some loader ↔
          ∃ s ∈ samples, s.key = key ∧ loader = ⟨Registry.virtualPath base key, s.path⟩) ∧
        ∀ d' : Disk, d'.Named → d.Alike d' → Registry.ofDir d' dir pattern base = .ok r := by
  refine ⟨?_, fun fault failed => ⟨eq_discovery_of_discover failed, ?_⟩,
    fun tokens samples valid done => ?_⟩
  · rw [discover_fails_iff, Disk.walk_fails_iff named]
  · rw [Registry.ofDir_eq, failed]
    rfl
  have increasing := pairwise_discover named valid done
  have alike (d' : Disk) (named' : d'.Named) (alike : d.Alike d') :
      discover d' dir pattern = .ok samples := discover_of_alike named valid done named' alike
  refine ⟨increasing, fun s => mem_discover_iff named valid done, fun walked order reached same => ?_,
    alike, (Registry.empty base).putSamples samples, ?_, ?_, ?_, fun d' named' same => ?_⟩
  · obtain ⟨walked', reached', rfl⟩ := (discover_eq_ok_iff valid).1 done
    cases reached.symm.trans reached'
    exact ofWalk_eq_of_perm (Disk.nodup_names_of_walk named reached) (proper_of_walk named reached)
      tokens same
  · rw [Registry.ofDir_eq, done]
    rfl
  · rw [Registry.paths, Registry.slots_putSamples base increasing, List.map_map]
    rfl
  · exact fun key loader => Registry.resolve?_eq_some_iff base increasing
  · rw [Registry.ofDir_eq, alike d' named' same]
    rfl

/-- A file behind a link is a sample as well, and stands where its key wants it. -/
theorem linked_file_is_discovered :
    let d : Disk := { root := [("s", .dir [("b.rs", .file (some "beta")), ("a", .link "/t")]),
      ("t", .dir [("c.rs", .file (some "gamma")), ("d.md", .file (some "delta"))])] }
    let walked : List Disk.Found := [⟨["b.rs"], "s/b.rs"⟩, ⟨["a", "c.rs"], "s/a/c.rs"⟩,
      ⟨["a", "d.md"], "s/a/d.md"⟩]
    let samples : List Sample := [⟨"a/c.rs", "s/a/c.rs"⟩, ⟨"b.rs", "s/b.rs"⟩]
    d.Named ∧ discover d "s" "**/*.rs" = .ok samples ∧
      ∀ order : List Disk.Found, order.Perm walked →
        ofWalk [.anyDirs, .anyRun, .char '.', .char 'r', .char 's'] order = samples := by
  intro d walked samples
  have named : d.Named := by decide
  have start : d.locate "s" false =
      .ok (["s"], .dir [("b.rs", .file (some "beta")), ("a", .link "/t")]) :=
    Disk.locate_name (by decide) rfl rfl (by simp) false
  have followed : d.followLink [⟨["s"], "s"⟩] (Disk.Path.join "s" "a") =
      .ok (["t"], .dir [("c.rs", .file (some "gamma")), ("d.md", .file (some "delta"))]) := by
    have names : Disk.Path.parts "s/a" = ["s", "a"] := by decide
    have target : Disk.Path.parts "/t" = ["t"] := by decide
    have joined : Disk.Path.join "s" "a" = "s/a" := by decide
    rw [joined]
    simp [Disk.followLink, Disk.locate, names, Disk.step, d, Disk.at?, Disk.tree,
      Disk.Path.isAbsolute, Disk.Item.at?, target, Disk.linkLimit, List.lookup_cons]
  obtain ⟨depth, enough⟩ : ∃ depth, (d.tree.count + 1) * (d.tree.count + 1) = depth + 3 :=
    ⟨61, by decide⟩
  have reached : d.walk "s" = .ok walked := by
    rw [Disk.walk, start, enough]
    simp [Disk.visit_succ, Disk.settle, Disk.visitInside, Disk.visitSlot, followed, Disk.Stop.inside,
      Disk.Stop.found, bind, Except.bind, pure, Except.pure, Except.map]
    decide
  have matching : (walked.map fun f => (⟨keyOf f, f.path⟩ : Sample)).filter (fun s =>
      Glob.isMatch [.anyDirs, .anyRun, .char '.', .char 'r', .char 's'] s.key) =
      samples.reverse := by decide
  have done : discover d "s" "**/*.rs" =
      .ok (ofWalk [.anyDirs, .anyRun, .char '.', .char 'r', .char 's'] walked) :=
    (discover_eq_ok_iff rfl).2 ⟨walked, reached, rfl⟩
  obtain ⟨_, _, found⟩ := discovery_is_complete_and_sorted named "s" "**/*.rs" ""
  obtain ⟨increasing, _, reordered, _⟩ := found _ _ rfl done
  have listed : ofWalk [.anyDirs, .anyRun, .char '.', .char 'r', .char 's'] walked = samples := by
    refine eq_of_mem_iff increasing (by decide) fun s => ?_
    rw [ofWalk, List.mem_mergeSort, matching, List.mem_reverse]
  exact ⟨named, listed ▸ done, fun order same => listed ▸ reordered walked order reached same⟩

/-- A pattern without slashes and two stars in a row stays in the directory, and with two stars and a
slash in front it descends into the directories that are not hidden. -/
theorem flat_patterns_stay_and_stars_descend {d : Disk} (named : d.Named) (dir : String)
    {pattern : String} (filled : pattern ≠ "") (free : '/' ∉ pattern.toList)
    (single : ¬ ['*', '*'] <:+: pattern.toList) {tokens : List Glob.Token}
    (valid : Glob.parse pattern = .ok tokens) :
    (∀ fault, discover d dir pattern = .error fault ↔
      discover d dir ("**/" ++ pattern) = .error fault) ∧
    ∀ top, discover d dir pattern = .ok top →
      (∀ s ∈ top, '/' ∉ s.key.toList) ∧
      ∃ deep, discover d dir ("**/" ++ pattern) = .ok deep ∧
        (∀ s, s ∈ deep ↔
          ∃ below, (∀ name ∈ below, Disk.Path.IsName name) ∧
            (∃ place text, d.locate (Disk.beneath dir below) true = .ok (place, .file text)) ∧
            s = ⟨"/".intercalate below, Disk.beneath dir below⟩ ∧
            Glob.isMatch tokens (below.getLastD "") = true ∧
            ∀ name ∈ below.dropLast, name.toList.head? ≠ some '.') ∧
        top = deep.filter fun s => '/' ∉ s.key.toList := by
  obtain ⟨flat, nonempty, descends⟩ := Glob.parse_of_flat filled free single valid
  refine ⟨fun fault => ?_, fun top done => ⟨fun s member => ?_, ?_⟩⟩
  · simp only [discover, valid, descends]
    cases d.walk dir <;> simp
  · obtain ⟨_, _, _, _, matched⟩ := (mem_discover_iff named valid done).1 member
    exact flat.slash_notMem matched
  obtain ⟨walked, reached, _⟩ := (discover_eq_ok_iff valid).1 done
  have done' := (discover_eq_ok_iff descends).2 ⟨walked, reached, rfl⟩
  refine ⟨ofWalk (.anyDirs :: tokens) walked, done', fun s => ?_, ?_⟩
  · rw [mem_discover_iff named descends done']
    refine exists_congr fun below => and_congr_right fun proper => and_congr_right fun _ => ?_
    refine and_congr_right fun same => ?_
    rw [same, flat.isMatch_anyDirs_iff nonempty proper]
  · refine eq_of_mem_iff (pairwise_discover named valid done)
      ((pairwise_discover named descends done').filter _) fun s => ?_
    rw [List.mem_filter, mem_discover_iff named valid done, mem_discover_iff named descends done',
      decide_eq_true_iff]
    constructor
    · rintro ⟨below, proper, file, same, matched⟩
      have noSlash := flat.slash_notMem matched
      exact ⟨⟨below, proper, file, same, (flat.isMatch_anyDirs_of_free nonempty noSlash).2 matched⟩,
        noSlash⟩
    · rintro ⟨⟨below, proper, file, same, matched⟩, noSlash⟩
      exact ⟨below, proper, file, same, (flat.isMatch_anyDirs_of_free nonempty noSlash).1 matched⟩

/-- The same pattern with and without two stars in front, on a directory with another one in it. -/
theorem nested_file_is_found_by_two_stars :
    let d : Disk := { root := [("s", .dir [("n", .dir [("c.rs", .file (some "gamma"))]),
      ("a.rs", .file none)])] }
    d.Named ∧ ∃ top deep, discover d "s" "*.rs" = .ok top ∧ discover d "s" "**/*.rs" = .ok deep ∧
      ⟨"n/c.rs", "s/n/c.rs"⟩ ∈ deep ∧ top = deep.filter fun s => '/' ∉ s.key.toList := by
  intro d
  have named : d.Named := by decide
  have start : d.locate "s" false =
      .ok (["s"], .dir [("n", .dir [("c.rs", .file (some "gamma"))]), ("a.rs", .file none)]) :=
    Disk.locate_name (by decide) rfl rfl (by simp) false
  have reached : d.walk "s" = .ok [⟨["n", "c.rs"], "s/n/c.rs"⟩, ⟨["a.rs"], "s/a.rs"⟩] := by
    rw [Disk.walk, start]
    decide
  have valid : Glob.parse "*.rs" = .ok [.anyRun, .char '.', .char 'r', .char 's'] := rfl
  obtain ⟨_, found⟩ := flat_patterns_stay_and_stars_descend named "s" (by decide) (by decide)
    (by decide) valid
  have done := (discover_eq_ok_iff valid).2 ⟨_, reached, rfl⟩
  obtain ⟨_, deep, done', members, restricted⟩ := found _ done
  obtain ⟨below, proper, file, same⟩ := (Disk.mem_walk_iff named reached).1 List.mem_cons_self
  cases same
  exact ⟨named, _, deep, done, done',
    (members _).2 ⟨["n", "c.rs"], proper, file, rfl, by decide, by decide⟩, restricted⟩

end Sample

end Showcase
