import Showcase.Proofs.Catalog.Filter
import Showcase.Proofs.Text.Lowercase
import Showcase.Proofs.Text.Search

/-!
# What a search finds

A filter keeps an entry by its category and by its texts, each compared in lowercase with the
search text (`Filter.keeps_iff`).  Three laws follow from that rule.

* The places of the kept entries and the kept entries themselves are two readings of one list
  (`Filter.places_and_entries_follow_the_rule`).
* A part of an entry's own text finds the entry wherever the capital sigmas of the part are lowered
  alike in the part and in the text (`Filter.own_text_is_found_where_sigmas_agree`).  The parts that
  always do so are the settled ones, and a part that is not settled misses some text it comes from.
* The case of letters from `A` to `Z` plays no role, in the search or in the entries
  (`Filter.letter_case_is_ignored`).
-/

namespace Showcase

/-- The texts of an entry that a search looks through. -/
def Entry.searched (e : Entry) : List String := [e.key, e.title, e.description]

namespace Filter

/-! ## The rule -/

theorem inCategory_iff {f : Filter} {e : Entry} :
    f.inCategory e = true ↔ f.category = Catalog.everything ∨ e.category = f.category := by
  simp [inCategory]

theorem answers_iff {f : Filter} {e : Entry} :
    f.answers e = true ↔ Text.trim f.query.toList = [] ∨
      ∃ text ∈ e.searched, Text.lowerChars f.query.toList <:+: Text.lowerChars text.toList := by
  simp [answers, mentions, Text.isBlankText_iff, Text.occursIn_iff, Entry.searched, or_assoc]

theorem keeps_iff {f : Filter} {e : Entry} :
    f.keeps e = true ↔
      (f.category = Catalog.everything ∨ e.category = f.category) ∧
        (Text.trim f.query.toList = [] ∨ ∃ text ∈ e.searched,
          Text.lowerChars f.query.toList <:+: Text.lowerChars text.toList) := by
  rw [keeps, Bool.and_eq_true, inCategory_iff, answers_iff]

/-! ## Places and entries -/

/-- The entries at the places of a list that starts at `start` are the kept ones. -/
theorem map_getElem?_indicesFrom (f : Filter) (start : Nat) (es : List Entry) :
    (f.indicesFrom start es).map (fun i => es[i - start]?) = (f.select es).map some := by
  induction es generalizing start with
  | nil => rfl
  | cons e es induction =>
      have later : (f.indicesFrom (start + 1) es).map (fun i => (e :: es)[i - start]?) =
          (f.select es).map some := by
        rw [← induction (start + 1)]
        apply List.map_congr_left
        intro i member
        obtain ⟨n, _, rfl, _⟩ := mem_indicesFrom_iff.1 member
        rw [show start + 1 + n - start = n + 1 by omega, Nat.add_sub_cancel_left]
        rfl
      rw [indicesFrom, select, List.filter_cons, ← select]
      split
      next kept => rw [List.map_cons, List.map_cons, later, Nat.sub_self, List.getElem?_cons_zero]
      next dropped => exact later

theorem map_getElem?_indices (f : Filter) (es : List Entry) :
    (f.indices es).map (fun i => es[i]?) = (f.select es).map some :=
  f.map_getElem?_indicesFrom 0 es

/-- A filter without a search text keeps whatever another of its category keeps. -/
theorem keeps_of_keeps {f : Filter} {e : Entry} (kept : f.keeps e = true) :
    ({ category := f.category } : Filter).keeps e = true :=
  keeps_iff.2 ⟨(keeps_iff.1 kept).1, Or.inl rfl⟩

/-- The places of a filter increase and are exactly those of the entries of its category, or of any
category for `All`, that answer the search: a blank one, or one whose lowercase form is part of the
lowercase form of the key, the title or the description.  The kept entries are those at these
places, in this order.  So a blank search in `All` keeps the whole list, a search only drops entries
of what its category keeps, and doing it twice changes nothing. -/
theorem places_and_entries_follow_the_rule (f : Filter) (es : List Entry) :
    (f.indices es).Pairwise (· < ·) ∧
      (∀ i, i ∈ f.indices es ↔ ∃ e, es[i]? = some e ∧
        (f.category = "All" ∨ e.category = f.category) ∧
          (Text.trim f.query.toList = [] ∨ ∃ text ∈ e.searched,
            Text.lowerChars f.query.toList <:+: Text.lowerChars text.toList)) ∧
      (f.indices es).map (fun i => es[i]?) = (f.select es).map some ∧
      (∀ blank : String, Text.trim blank.toList = [] →
        ({ category := "All", query := blank } : Filter).select es = es) ∧
      (f.select es).Sublist (({ category := f.category, query := "" } : Filter).select es) ∧
      f.select (f.select es) = f.select es := by
  refine ⟨f.pairwise_indices es, fun i => ?_, f.map_getElem?_indices es, fun blank nothing => ?_,
    ?_, ?_⟩
  · rw [mem_indices_iff]
    exact exists_congr fun e => and_congr_right fun _ => keeps_iff
  · rw [select, List.filter_eq_self]
    exact fun e _ => keeps_iff.2 ⟨Or.inl rfl, Or.inl nothing⟩
  · exact List.monotone_filter_right es fun e kept => keeps_of_keeps kept
  · simp only [select, List.filter_filter, Bool.and_self]

/-- An entry listed twice, found by its key and by its title; a padded search that only one
description answers; and a search of blanks, which keeps everything. -/
theorem repeated_entry_and_padded_search :
    let e : Entry := { key := "loop.rs", title := "LOOP", category := "A" }
    let spaced : Entry := { key := "b", title := "", category := "B", description := "A Loop ends" }
    let es := [e, spaced, e]
    ({ query := " lOOp" } : Filter).indices es = [1] ∧
      ({ category := "A", query := "oo" } : Filter).select es = [e, e] ∧
      ({ category := "All", query := " \t" } : Filter).select es = es := by
  intro e spaced es
  refine ⟨by decide +kernel, by decide +kernel, ?_⟩
  exact (places_and_entries_follow_the_rule {} es).2.2.2.1 " \t" (by decide +kernel)

/-! ## An entry's own text -/

/-- A search finds the entry at a place, among all entries and among those of its category. -/
def Finds (query : String) (es : List Entry) (i : Nat) (e : Entry) : Prop :=
  i ∈ ({ category := "All", query } : Filter).indices es ∧
    i ∈ ({ category := e.category, query } : Filter).indices es

theorem finds_iff {query : String} {es : List Entry} {i : Nat} {e : Entry}
    (there : es[i]? = some e) :
    Finds query es i e ↔ Text.trim query.toList = [] ∨
      ∃ text ∈ e.searched, Text.lowerChars query.toList <:+: Text.lowerChars text.toList := by
  have everywhere : ({ category := "All", query } : Filter).keeps e = true ↔ _ := keeps_iff
  have own : ({ category := e.category, query } : Filter).keeps e = true ↔ _ := keeps_iff
  simp [Finds, mem_indices_iff, there, everywhere, own, Catalog.everything]

/-- A blank text has no capital sigma. -/
theorem settled_of_blank {cs : List Char} (blank : Text.trim cs = []) : Text.Settled cs := by
  intro before after split
  have sigma : Text.isBlank 'Σ' = true := Text.trim_eq_nil_iff.1 blank 'Σ' (by simp [split])
  exact absurd sigma (by decide)

/-- An entry whose searched texts are all the same. -/
def ofText (cs : List Char) : Entry :=
  { key := String.ofList cs, title := String.ofList cs, category := "",
    description := String.ofList cs }

theorem mem_searched_ofText {cs : List Char} {text : String} :
    text ∈ (ofText cs).searched ↔ text = String.ofList cs := by
  simp [Entry.searched, ofText]

/-- A search that finds every entry it is a part of is settled: it finds the entries whose texts
are the search text with an `A` after it, and with one before it. -/
theorem settled_of_finds {query : String}
    (finds : ∀ (es : List Entry) (i : Nat) (e : Entry) (text : String), es[i]? = some e →
      text ∈ e.searched → query.toList <:+: text.toList → Finds query es i e) :
    Text.Settled query.toList := by
  by_cases blank : Text.trim query.toList = []
  · exact settled_of_blank blank
  · have found (cs : List Char) (part : query.toList <:+: cs) :
        Text.lowerChars query.toList <:+: Text.lowerChars cs := by
      have own : Finds query [ofText cs] 0 (ofText cs) :=
        finds _ 0 _ (String.ofList cs) rfl (mem_searched_ofText.2 rfl) (by rwa [String.toList_ofList])
      rcases (finds_iff rfl).1 own with nothing | ⟨text, searched, occurs⟩
      · exact absurd nothing blank
      · rwa [mem_searched_ofText.1 searched, String.toList_ofList] at occurs
    exact Text.settled_of_occurs (found _ (List.prefix_append ..).isInfix)
      (found _ (List.suffix_cons ..).isInfix)

/-- A part of a text of an entry finds the entry if each of its capital sigmas ends a word in the
part exactly when it does so in the text.  The parts that find every entry they are part of are the
settled ones, and no others. -/
theorem own_text_is_found_where_sigmas_agree (query : String) :
    (∀ (es : List Entry) (i : Nat) (e : Entry) (text : String) (pre post : List Char),
      es[i]? = some e → text ∈ e.searched → text.toList = pre ++ query.toList ++ post →
        Text.SigmasAgree pre query.toList post → Finds query es i e) ∧
      ((∀ (es : List Entry) (i : Nat) (e : Entry) (text : String), es[i]? = some e →
        text ∈ e.searched → query.toList <:+: text.toList → Finds query es i e) ↔
          Text.Settled query.toList) := by
  have found {es : List Entry} {i : Nat} {e : Entry} {text : String} {pre post : List Char}
      (there : es[i]? = some e) (searched : text ∈ e.searched)
      (split : text.toList = pre ++ query.toList ++ post)
      (agree : Text.SigmasAgree pre query.toList post) : Finds query es i e :=
    (finds_iff there).2 (Or.inr ⟨text, searched, split ▸ agree.occurs⟩)
  refine ⟨fun es i e text pre post => found, settled_of_finds, fun settled => ?_⟩
  rintro es i e text there searched ⟨pre, post, split⟩
  exact found there searched split.symm (settled.sigmasAgree pre post)

/-- The last four letters of a title find their entry, although the text before them is cut off: the
first of their two sigmas ends a word neither in them nor in the title, since a letter follows, and
the second one ends a word in both, since a letter stands before it and nothing behind. -/
theorem last_letters_find_their_title :
    let e : Entry := { key := "odyssey.rs", title := "ΟΔΥΣΣΕΑΣ", category := "Greek" }
    "ΟΔΥΣ".toList ++ "ΣΕΑΣ".toList ++ [] = e.title.toList ∧
      Text.SigmasAgree "ΟΔΥΣ".toList "ΣΕΑΣ".toList [] ∧ Finds "ΣΕΑΣ" [e] 0 e := by
  intro e
  have agree : Text.SigmasAgree "ΟΔΥΣ".toList "ΣΕΑΣ".toList [] :=
    Text.sigmasAgree_iff.2 (by decide +kernel)
  exact ⟨by decide, agree, (own_text_is_found_where_sigmas_agree "ΣΕΑΣ").1 [e] 0 e e.title _ _ rfl
    (by simp [Entry.searched]) (by decide) agree⟩

/-- The first four letters of a title, typed as they stand there, do not find it: the sigma ends a
word in them and not in the title. -/
theorem first_letters_miss_their_title :
    let e : Entry := { key := "odyssey.rs", title := "ΟΔΥΣΣΕΑΣ", category := "Greek" }
    "ΟΔΥΣ".toList <:+: e.title.toList ∧ Text.trim "ΟΔΥΣ".toList ≠ [] ∧ ¬ Finds "ΟΔΥΣ" [e] 0 e ∧
      0 ∉ ({ category := "All", query := "ΟΔΥΣ" } : Filter).indices [e] ∧
      0 ∉ ({ category := "Greek", query := "ΟΔΥΣ" } : Filter).indices [e] := by
  intro e
  have missed : 0 ∉ ({ category := "All", query := "ΟΔΥΣ" } : Filter).indices [e] := by
    decide +kernel
  exact ⟨⟨[], "ΣΕΑΣ".toList, by decide⟩, by decide +kernel, fun finds => missed finds.1, missed,
    by decide +kernel⟩

/-! ## Letter case -/

end Filter

/-- Two texts differ at most in the case of letters from `A` to `Z`. -/
def Text.SameButCase (s t : String) : Prop :=
  s.toList.map Char.toLower = t.toList.map Char.toLower

instance (s t : String) : Decidable (Text.SameButCase s t) := inferInstanceAs (Decidable (_ = _))

/-- Two entries of one category differ at most in the case of letters from `A` to `Z`. -/
structure Entry.SameButCase (e e' : Entry) : Prop where
  category : e.category = e'.category
  key : Text.SameButCase e.key e'.key
  title : Text.SameButCase e.title e'.title
  description : Text.SameButCase e.description e'.description

theorem Text.SameButCase.lowerChars_eq {s t : String} (same : SameButCase s t) :
    lowerChars s.toList = lowerChars t.toList := by
  rw [← lowerChars_map_toLower, same, lowerChars_map_toLower]

theorem Text.SameButCase.isBlankText_eq {s t : String} (same : SameButCase s t) :
    isBlankText s = isBlankText t := by
  have blank (cs : List Char) : (cs.map Char.toLower).all isBlank = cs.all isBlank := by
    have alike (c : Char) : isBlank c.toLower = isBlank c := apply_toLower (by decide +kernel) c
    simp only [List.all_map, Function.comp_def, alike]
  rw [isBlankText, ← blank, same, blank, isBlankText]

namespace Filter

theorem mentions_congr {query query' text text' : String} (typed : Text.SameButCase query query')
    (texts : Text.SameButCase text text') : mentions query text = mentions query' text' := by
  rw [mentions, typed.lowerChars_eq, texts.lowerChars_eq, mentions]

theorem keeps_congr {category query query' : String} {e e' : Entry} (entries : e.SameButCase e')
    (typed : Text.SameButCase query query') :
    ({ category, query } : Filter).keeps e =
      ({ category, query := query' } : Filter).keeps e' := by
  simp only [keeps, inCategory, answers, entries.category, typed.isBlankText_eq,
    mentions_congr typed entries.key, mentions_congr typed entries.title,
    mentions_congr typed entries.description]

theorem indicesFrom_congr {f f' : Filter} {es es' : List Entry} (start : Nat)
    (alike : List.Forall₂ (fun e e' => f.keeps e = f'.keeps e') es es') :
    f.indicesFrom start es = f'.indicesFrom start es' := by
  induction alike generalizing start with
  | nil => rfl
  | cons same _ induction => rw [indicesFrom, indicesFrom, same, induction]

/-- Entries and searches that differ only in the case of letters from `A` to `Z` give the same
places, in every category. -/
theorem letter_case_is_ignored {es es' : List Entry} {query query' : String}
    (entries : List.Forall₂ Entry.SameButCase es es') (typed : Text.SameButCase query query')
    (category : String) :
    ({ category, query } : Filter).indices es =
      ({ category, query := query' } : Filter).indices es' :=
  indicesFrom_congr 0 (entries.imp fun _ _ same => keeps_congr same typed)

/-- The letters around a capital sigma decide how it is lowered, and their case does not. -/
theorem case_next_to_a_sigma_is_ignored :
    let e : Entry := { key := "AΣ.rs", title := "İΣtanbul", category := "a" }
    let e' : Entry := { key := "aΣ.Rs", title := "İΣTANbul", category := "a" }
    ({ category := "a", query := "aΣ.r" } : Filter).indices [e] = [0] ∧
      ({ category := "a", query := "aΣ.r" } : Filter).indices [e] =
        ({ category := "a", query := "AΣ.R" } : Filter).indices [e'] := by
  intro e e'
  have entries : List.Forall₂ Entry.SameButCase [e] [e'] :=
    .cons ⟨rfl, by decide, by decide, by decide⟩ .nil
  exact ⟨by decide +kernel, letter_case_is_ignored entries (by decide) "a"⟩

end Filter

end Showcase
