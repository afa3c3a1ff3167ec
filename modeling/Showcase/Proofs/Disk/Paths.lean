import Mathlib.Data.List.Basic
import Showcase.Disk.Path

/-!
# The names of a path

`Path.names` reads the names off a path.  On names that can stand in a directory (`Path.IsName`)
it undoes both ways in which a path is put together: a path that is continued by a name has that
name after its own (`Path.names_join`), and names with slashes between them are read back
(`Path.names_intercalate`).  So two lists of names with slashes between them are different paths.
-/

namespace Showcase.Disk.Path

/-- The names of a path, without the request for a directory at its end. -/
def names (path : String) : List String :=
  ((split path.toList).filter (· ≠ [])).map String.ofList

/-- A name that an item of a directory can have. -/
def IsName (name : String) : Prop :=
  name ≠ "" ∧ '/' ∉ name.toList ∧ name ≠ "." ∧ name ≠ ".."

instance (name : String) : Decidable (IsName name) := inferInstanceAs (Decidable (_ ∧ _))

/-! ## Slashes -/

theorem split_ne_nil (cs : List Char) : split cs ≠ [] := by
  cases cs with
  | nil => simp [split]
  | cons c cs =>
      simp only [split, List.foldr_cons]
      split
      · simp
      · split <;> simp

theorem split_slash (cs : List Char) : split ('/' :: cs) = [] :: split cs := rfl

theorem split_cons {c : Char} (other : c ≠ '/') {cs part : List Char} {parts : List (List Char)}
    (rest : split cs = part :: parts) : split (c :: cs) = (c :: part) :: parts := by
  unfold split at rest ⊢
  rw [List.foldr_cons, if_neg other, rest]

/-- A slash divides the stretches before it from those after it. -/
theorem split_append_slash (cs ds : List Char) :
    split (cs ++ '/' :: ds) = split cs ++ split ds := by
  induction cs with
  | nil => rfl
  | cons c cs induction =>
      by_cases slash : c = '/'
      · subst slash
        rw [List.cons_append, split_slash, split_slash, induction, List.cons_append]
      · obtain ⟨part, parts, rest⟩ := List.exists_cons_of_ne_nil (split_ne_nil cs)
        have whole : split (cs ++ '/' :: ds) = part :: (parts ++ split ds) := by
          rw [induction, rest, List.cons_append]
        rw [List.cons_append, split_cons slash whole, split_cons slash rest, List.cons_append]

theorem split_of_not_mem {cs : List Char} (free : '/' ∉ cs) : split cs = [cs] := by
  induction cs with
  | nil => rfl
  | cons c cs induction =>
      rw [List.mem_cons, not_or] at free
      exact split_cons (Ne.symm free.1) (induction free.2)

/-! ## Reading names back -/

theorem names_append_slash (path rest : String) :
    names (path ++ "/" ++ rest) = names path ++ names rest := by
  have characters : (path ++ "/" ++ rest).toList = path.toList ++ '/' :: rest.toList := by
    simp
  simp only [names, characters, split_append_slash, List.filter_append, List.map_append]

theorem names_of_isName {name : String} (proper : IsName name) : names name = [name] := by
  obtain ⟨nonempty, free, _⟩ := proper
  simp [names, split_of_not_mem free, nonempty]

/-- Names with slashes between them are read back. -/
theorem names_intercalate {parts : List String} (proper : ∀ name ∈ parts, IsName name) :
    names ("/".intercalate parts) = parts := by
  induction parts with
  | nil => rfl
  | cons name parts induction =>
      rw [List.forall_mem_cons] at proper
      obtain ⟨first, others⟩ := proper
      cases parts with
      | nil => rw [String.intercalate_singleton, names_of_isName first]
      | cons next parts =>
          rw [String.intercalate_cons_cons, names_append_slash, names_of_isName first,
            induction others]
          rfl

/-! ## Continuing a path -/

theorem isAbsolute_of_isName {name : String} (proper : IsName name) : isAbsolute name = false := by
  obtain ⟨_, free, _⟩ := proper
  unfold isAbsolute
  cases characters : name.toList with
  | nil => rfl
  | cons c cs =>
      rw [characters, List.mem_cons, not_or] at free
      simpa using Ne.symm free.1

theorem getLast?_ne_slash_of_isName {name : String} (proper : IsName name) :
    name.toList.getLast? ≠ some '/' := fun last =>
  proper.2.1 (List.mem_of_getLast? last)

section

variable {path name : String} (nonempty : path ≠ "") (proper : IsName name)
include nonempty proper

/-- A slash stands between a path and the name after it. -/
theorem join_of_isName :
    ∃ stem, join path name = stem ++ "/" ++ name ∧ names stem = names path ∧
      (path.toList = stem.toList ∨ path.toList = stem.toList ++ ['/']) := by
  have kept : ¬(isAbsolute name || path.isEmpty) = true := by
    simp [isAbsolute_of_isName proper, nonempty]
  unfold join
  rw [if_neg kept]
  split
  next ends =>
    obtain ⟨cs, characters⟩ := List.getLast?_eq_some_iff.1 ends
    refine ⟨String.ofList cs, ?_, ?_, Or.inr (by simpa using characters)⟩
    · rw [← String.toList_inj]
      simp [characters]
    · simp [names, characters, split_append_slash, show split [] = [[]] from rfl]
  next => exact ⟨path, rfl, rfl, Or.inl rfl⟩

/-- A path that is continued by a name has that name after its own. -/
theorem names_join : names (join path name) = names path ++ [name] := by
  obtain ⟨stem, joined, same, _⟩ := join_of_isName nonempty proper
  rw [joined, names_append_slash, same, names_of_isName proper]

theorem parts_join : parts (join path name) = names path ++ [name] := by
  obtain ⟨stem, joined, _⟩ := join_of_isName nonempty proper
  have last : (join path name).toList.getLast? ≠ some '/' := by
    have characters : (join path name).toList = (stem.toList ++ ['/']) ++ name.toList := by
      rw [joined, String.toList_append, String.toList_append]
      rfl
    rw [characters, List.getLast?_append_of_ne_nil _ (by simpa using proper.1)]
    exact getLast?_ne_slash_of_isName proper
  rw [← names_join nonempty proper]
  exact if_neg last

theorem isAbsolute_join : isAbsolute (join path name) = isAbsolute path := by
  obtain ⟨stem, joined, _, characters⟩ := join_of_isName nonempty proper
  unfold isAbsolute
  rw [joined, String.toList_append, String.toList_append]
  cases front : stem.toList with
  | nil =>
      rcases characters with same | same
      · rw [front] at same
        exact absurd (String.toList_eq_nil_iff.1 same) nonempty
      · rw [same, front]
        rfl
  | cons c cs => rcases characters with same | same <;> rw [same, front] <;> rfl

theorem join_ne_empty : join path name ≠ "" := by
  obtain ⟨stem, joined, _⟩ := join_of_isName nonempty proper
  rw [joined]
  simp

end

/-- A path that is continued by names has them after its own. -/
theorem foldl_join {path : String} (nonempty : path ≠ "") {below : List String}
    (proper : ∀ name ∈ below, IsName name) :
    below.foldl join path ≠ "" ∧ names (below.foldl join path) = names path ++ below ∧
      isAbsolute (below.foldl join path) = isAbsolute path := by
  induction below generalizing path with
  | nil => exact ⟨nonempty, (List.append_nil _).symm, rfl⟩
  | cons name below induction =>
      rw [List.forall_mem_cons] at proper
      obtain ⟨first, others⟩ := proper
      obtain ⟨filled, read, starts⟩ := induction (join_ne_empty nonempty first) others
      refine ⟨filled, ?_, starts.trans (isAbsolute_join nonempty first)⟩
      rw [List.foldl_cons, read, names_join nonempty first, List.append_assoc]
      rfl

theorem parts_foldl_join {path : String} (nonempty : path ≠ "") {below : List String}
    (inside : below ≠ []) (proper : ∀ name ∈ below, IsName name) :
    parts (below.foldl join path) = names path ++ below := by
  obtain ⟨front, name, rfl⟩ : ∃ front name, below = front ++ [name] :=
    ⟨_, _, (List.dropLast_append_getLast inside).symm⟩
  rw [List.forall_mem_append, List.forall_mem_singleton] at proper
  obtain ⟨filled, read, _⟩ := foldl_join nonempty proper.1
  rw [List.foldl_append, List.foldl_cons, List.foldl_nil,
    parts_join filled proper.2, read, List.append_assoc]

/-- The steps of a path are its names, or its names and a stay where they lead to. -/
theorem parts_eq_names_or (path : String) :
    parts path = names path ∨ parts path = names path ++ ["."] := by
  unfold parts names
  dsimp only
  split
  · exact Or.inr rfl
  · exact Or.inl rfl

end Showcase.Disk.Path
