import Mathlib.Data.List.Forall2
import Showcase.Catalog.Manifest
import Showcase.Proofs.Catalog.Acceptance
import Showcase.Proofs.Format.Json
import Showcase.Proofs.Format.Toml

/-!
# Manifests of a list of entries

A manifest gives each entry as a table of its fields, in any order, and may leave an empty
description out.  `Manifest.IsJson` and `Manifest.IsToml` say which texts are manifests of a list of
entries in the two formats, with all the freedom the formats have.

Main statement: `Catalog.manifests_agree`, every manifest of a list gives the catalog of this list
in either format, or the fault that this list has.

Both formats look fields up by name, so what a table says about an entry is proved once, in
`Entry.GivenBy.lookup_required` and `Entry.GivenBy.lookup_description`.
-/

namespace Showcase

/-! ## Fields -/

namespace Entry

/-- The fields of an entry that must be given. -/
def required (e : Entry) : List (String × String) :=
  [("key", e.key), ("title", e.title), ("category", e.category)]

/-- Fields give an entry: all of its fields in any order, or all but an empty description. -/
def GivenBy (e : Entry) (fields : List (String × String)) : Prop :=
  fields.Perm (e.required ++ [("description", e.description)]) ∨
    fields.Perm e.required ∧ e.description = ""

theorem GivenBy.distinct {e : Entry} {fields : List (String × String)} (given : e.GivenBy fields) :
    (fields.map (·.1)).Nodup := by
  rcases given with all | ⟨most, _⟩
  · have names : (fields.map (·.1)).Perm ["key", "title", "category", "description"] := all.map _
    exact names.nodup_iff.2 (by decide)
  · have names : (fields.map (·.1)).Perm ["key", "title", "category"] := most.map _
    exact names.nodup_iff.2 (by decide)

theorem GivenBy.lookup_required {e : Entry} {fields : List (String × String)}
    (given : e.GivenBy fields) :
    fields.lookup "key" = some e.key ∧ fields.lookup "title" = some e.title ∧
      fields.lookup "category" = some e.category := by
  have found {name text : String} (field : (name, text) ∈ e.required) :
      fields.lookup name = some text := by
    have member : (name, text) ∈ fields := by
      rcases given with all | ⟨most, _⟩
      · exact all.mem_iff.2 (List.mem_append_left _ field)
      · exact most.mem_iff.2 field
    exact lookup_eq_some_of_mem given.distinct member
  exact ⟨found (by simp [required]), found (by simp [required]), found (by simp [required])⟩

theorem GivenBy.lookup_description {e : Entry} {fields : List (String × String)}
    (given : e.GivenBy fields) :
    fields.lookup "description" = some e.description ∨
      fields.lookup "description" = none ∧ e.description = "" := by
  have distinct := given.distinct
  rcases given with all | ⟨most, empty⟩
  · have member : ("description", e.description) ∈ fields := all.mem_iff.2 (by simp)
    exact Or.inl (lookup_eq_some_of_mem distinct member)
  · have names : (fields.map (·.1)).Perm ["key", "title", "category"] := most.map _
    have absent : "description" ∉ fields.map (·.1) := fun member =>
      absurd (names.mem_iff.1 member) (by decide)
    exact Or.inr ⟨lookup_eq_none_of_notMem absent, empty⟩

/-- The fields of an entry in their usual order; an empty description is left out on demand. -/
def fields (leaveOut : Entry → Bool) (e : Entry) : List (String × String) :=
  if leaveOut e ∧ e.description = "" then e.required
  else e.required ++ [("description", e.description)]

theorem givenBy_fields (leaveOut : Entry → Bool) (e : Entry) : e.GivenBy (e.fields leaveOut) := by
  unfold fields
  split
  next left => exact Or.inr ⟨.refl _, left.2⟩
  next => exact Or.inl (.refl _)

end Entry

/-! ## Entries of tables -/

/-- A name of different ones is given once or not at all. -/
theorem Json.filter_memberOf {fields : List (String × String)}
    (distinct : (fields.map (·.1)).Nodup) (name : String) :
    (fields.map Json.memberOf).filter (·.1 == some name) =
      ((fields.lookup name).map fun text => Json.memberOf (name, text)).toList := by
  induction fields with
  | nil => rfl
  | cons field fields induction =>
      obtain ⟨other, text⟩ := field
      rw [List.map_cons, List.nodup_cons] at distinct
      rw [List.map_cons, List.filter_cons, induction distinct.2, lookup_cons_eq_ite]
      by_cases same : name = other
      · subst same
        rw [lookup_eq_none_of_notMem distinct.1]
        simp [Json.memberOf]
      · have skipped : ((Json.memberOf (other, text)).1 == some name) = false := by
          simpa [Json.memberOf] using fun same' => same same'.symm
        simp [skipped, same]

theorem Json.only?_memberOf {fields : List (String × String)}
    (distinct : (fields.map (·.1)).Nodup) (name : String) :
    Json.only? name (fields.map Json.memberOf) =
      some ((fields.lookup name).map fun text => .string (some text)) := by
  rw [Json.only?, Json.filter_memberOf distinct]
  cases fields.lookup name <;> rfl

theorem Entry.ofJson?_objectOf {e : Entry} {fields : List (String × String)}
    (given : e.GivenBy fields) : Entry.ofJson? (Json.objectOf fields) = some e := by
  have texts : (fields.map Json.memberOf).any (·.1.isNone) = false := by simp [Json.memberOf]
  obtain ⟨key, title, category⟩ := given.lookup_required
  rcases given.lookup_description with description | ⟨description, empty⟩
  · simp [Json.objectOf, ofJson?, texts, Json.only?_memberOf given.distinct, key, title, category,
      description, Json.Value.text?]
  · simp [Json.objectOf, ofJson?, texts, Json.only?_memberOf given.distinct, key, title, category,
      description, Json.Value.text?, ← empty]

theorem Entry.ofToml?_tableOf {e : Entry} {fields : List (String × String)}
    (given : e.GivenBy fields) : Entry.ofToml? (Toml.tableOf fields) = some e := by
  obtain ⟨key, title, category⟩ := given.lookup_required
  rcases given.lookup_description with description | ⟨description, empty⟩
  · simp [Toml.tableOf, ofToml?, Toml.Node.items?, Toml.Node.rows?, Toml.lookup_rowOf, key, title,
      category, description, Toml.Node.text?]
  · simp [Toml.tableOf, ofToml?, Toml.Node.items?, Toml.Node.rows?, Toml.lookup_rowOf, key, title,
      category, description, Toml.Node.text?, ← empty]

/-! ## Texts of entries -/

theorem mapM_eq_some_of_forall₂ {α β : Type} {f : β → Option α} {as : List α} {bs : List β}
    (each : List.Forall₂ (fun a b => f b = some a) as bs) : bs.mapM f = some as := by
  induction each with
  | nil => rfl
  | cons first _ induction => simp [first, induction]

namespace Manifest

/-- A text is a JSON manifest of entries. -/
def IsJson (es : List Entry) (s : String) : Prop :=
  ∃ tables, List.Forall₂ Entry.GivenBy es tables ∧ Json.WritesTables tables s

/-- A text is a TOML manifest of entries. -/
def IsToml (es : List Entry) (s : String) : Prop :=
  ∃ tables, List.Forall₂ Entry.GivenBy es tables ∧ Toml.WritesTables "entry" tables s

/-- A JSON manifest of entries, without the empty descriptions that `leaveOut` chooses. -/
def writeJson (leaveOut : Entry → Bool) (es : List Entry) : String :=
  Json.writeTables (es.map (Entry.fields leaveOut))

/-- A TOML manifest of entries, without the empty descriptions that `leaveOut` chooses. -/
def writeToml (leaveOut : Entry → Bool) (es : List Entry) : String :=
  Toml.writeTables "entry" (es.map (Entry.fields leaveOut))

theorem forall₂_givenBy_fields (leaveOut : Entry → Bool) (es : List Entry) :
    List.Forall₂ Entry.GivenBy es (es.map (Entry.fields leaveOut)) := by
  rw [List.forall₂_map_right_iff, List.forall₂_same]
  exact fun e _ => Entry.givenBy_fields leaveOut e

theorem isJson_writeJson (leaveOut : Entry → Bool) (es : List Entry) :
    IsJson es (writeJson leaveOut es) :=
  ⟨_, forall₂_givenBy_fields leaveOut es, Json.writesTables_writeTables _⟩

theorem isToml_writeToml (leaveOut : Entry → Bool) (es : List Entry) :
    IsToml es (writeToml leaveOut es) :=
  ⟨_, forall₂_givenBy_fields leaveOut es, Toml.writesTables_writeTables _ _⟩

theorem entriesOfJson?_of_isJson {es : List Entry} {s : String} (written : IsJson es s) :
    entriesOfJson? s = some es := by
  obtain ⟨tables, given, text⟩ := written
  simp only [entriesOfJson?, Json.read?_of_writesTables text]
  refine mapM_eq_some_of_forall₂ ?_
  rw [List.forall₂_map_right_iff]
  exact given.imp fun _ _ => Entry.ofJson?_objectOf

theorem entriesOfToml?_of_isToml {es : List Entry} {s : String} (written : IsToml es s) :
    entriesOfToml? s = some es := by
  obtain ⟨tables, given, text⟩ := written
  have distinct : ∀ fields ∈ tables, (fields.map (·.1)).Nodup := by
    clear text
    induction given with
    | nil => simp
    | cons gives _ induction => exact List.forall_mem_cons.2 ⟨gives.distinct, induction⟩
  have entries : (tables.map Toml.tableOf).mapM Entry.ofToml? = some es := by
    refine mapM_eq_some_of_forall₂ ?_
    rw [List.forall₂_map_right_iff]
    exact given.imp fun _ _ => Entry.ofToml?_tableOf
  simp only [entriesOfToml?, Toml.read?_of_writesTables text distinct, Option.bind_eq_bind,
    Option.bind_some]
  cases tables with
  | nil =>
      cases given
      rfl
  | cons fields tables => exact entries

end Manifest

/-! ## Catalogs of manifests -/

namespace Catalog

/-- Every manifest of a list of entries gives what the list itself gives, in both formats: the
catalog of these entries in their order, or the fault of an entry.  Every list has a manifest in
both formats, whichever empty descriptions are left out. -/
theorem manifests_agree (es : List Entry) :
    (∀ s, Manifest.IsJson es s → ofManifest .json s = ofEntries es) ∧
      (∀ s, Manifest.IsToml es s → ofManifest .toml s = ofEntries es) ∧
      (∀ leaveOut, Manifest.IsJson es (Manifest.writeJson leaveOut es) ∧
        Manifest.IsToml es (Manifest.writeToml leaveOut es)) ∧
      (∀ c, ofEntries es = .ok c → c.entries = es) ∧
      ∀ fault, ofEntries es = .error fault →
        (∃ field reason, fault = .invalidEntry field reason) ∨
          ∃ key, fault = .duplicateKey key := by
  refine ⟨fun s json => ?_, fun s toml => ?_, fun leaveOut => ?_, fun c => entries_of_ofEntries,
    fun fault => cause_of_ofEntries⟩
  · simp only [ofManifest, Manifest.entriesOfJson?_of_isJson json]
  · simp only [ofManifest, Manifest.entriesOfToml?_of_isToml toml]
  · exact ⟨Manifest.isJson_writeJson leaveOut es, Manifest.isToml_writeToml leaveOut es⟩

/-- An entry whose texts need escapes, with blanks, comments and escapes that no text needs. -/
theorem escapes_in_both_formats_agree :
    let e : Entry := { key := "a\"\\", title := "\u0007", category := "😀" }
    let json := " [ \x7b\"title\":\"\\u0007\", \"category\" :\"\\ud83d\\ude00\"," ++
      "\"key\":\"\\u0061\\\"\\\\\"\x7d]\n"
    let toml := "# one entry\r\n[[ entry ]]\n\n\"key\"=\"a\\\"\\\\\" # quoted\n" ++
      "title = \"\\x07\"\r\ncategory = \"\\U0001f600\""
    ofManifest .json json = ofEntries [e] ∧ ofManifest .toml toml = ofEntries [e] ∧
      (ofEntries [e]).toOption.map (·.entries) = some [e] := by
  intro e json toml
  have isJson : Manifest.IsJson [e] json := by
    have key : Text.InQuotes Json.WritesChar "a\"\\" "\"\\u0061\\\"\\\\\"".toList :=
      ⟨_, .cons (.code (by decide) (Hex.writes_byte (by decide))) <|
        .cons (.letter (by decide)) <| .cons (.letter (by decide)) .nil, rfl⟩
    have title : Text.InQuotes Json.WritesChar "\u0007" "\"\\u0007\"".toList :=
      ⟨_, .cons (.code (by decide) (Hex.writes_byte (by decide))) .nil, rfl⟩
    have high : Hex.Writes 4 0xD83D "d83d".toList :=
      Hex.writes_digitChar 0xD <| Hex.writes_digitChar 8 <| Hex.writes_digitChar 3 <|
        Hex.writes_digitChar 0xD .nil
    have low : Hex.Writes 4 0xDE00 "de00".toList :=
      Hex.writes_digitChar 0xD <| Hex.writes_digitChar 0xE <| Hex.writes_digitChar 0 <|
        Hex.writes_digitChar 0 .nil
    have category : Text.InQuotes Json.WritesChar "😀" "\"\\ud83d\\ude00\"".toList :=
      ⟨_, .cons (.pair (by decide) high low) .nil, rfl⟩
    have blank : Json.Blank [' '] := by decide
    have fields : Json.Listed Json.WritesField
        [("title", "\u0007"), ("category", "😀"), ("key", "a\"\\")] _ :=
      .more Json.blank_nil
        (.mk (Json.inQuotes_writeString "title") Json.blank_nil Json.blank_nil title)
        Json.blank_nil <|
      .more blank (.mk (Json.inQuotes_writeString "category") blank Json.blank_nil category)
        Json.blank_nil <|
      .last Json.blank_nil
        (.mk (Json.inQuotes_writeString "key") Json.blank_nil Json.blank_nil key) Json.blank_nil
    exact ⟨_, .cons (Or.inr ⟨by decide +kernel, rfl⟩) .nil, [' '], _, ['\n'], blank,
      ⟨_, rfl, Or.inl (.last blank ⟨_, rfl, Or.inl fields⟩ Json.blank_nil)⟩, by decide,
      by decide +kernel⟩
  have isToml : Manifest.IsToml [e] toml := by
    have key : Text.InQuotes Toml.WritesChar "a\"\\" "\"a\\\"\\\\\"".toList :=
      Toml.inQuotes_writeString _
    have short : Hex.Writes 2 7 "07".toList :=
      Hex.writes_digitChar 0 <| Hex.writes_digitChar 7 .nil
    have long : Hex.Writes 8 0x1F600 "0001f600".toList :=
      Hex.writes_digitChar 0 <| Hex.writes_digitChar 0 <| Hex.writes_digitChar 0 <|
        Hex.writes_digitChar 1 <| Hex.writes_digitChar 0xF <| Hex.writes_digitChar 6 <|
        Hex.writes_digitChar 0 <| Hex.writes_digitChar 0 .nil
    have title : Text.InQuotes Toml.WritesChar "\u0007" "\"\\x07\"".toList :=
      ⟨_, .cons (.code (by decide : ('x', 2) ∈ Toml.codeLetters) short) .nil, rfl⟩
    have category : Text.InQuotes Toml.WritesChar "😀" "\"\\U0001f600\"".toList :=
      ⟨_, .cons (.code (by decide : ('U', 8) ∈ Toml.codeLetters) long) .nil, rfl⟩
    have blank : Toml.Blank [' '] := by decide
    have ends (rest : List Char) : Toml.EndsLine ('\r' :: '\n' :: rest) rest :=
      ⟨[], [], _, Toml.blank_nil, .nothing, .carriageReturn, rfl⟩
    have heading : Toml.Note "# one entry".toList := .comment (List.all_eq_true.1 (by decide))
    have remark : Toml.Note "# quoted".toList := .comment (List.all_eq_true.1 (by decide))
    have lines : Toml.WritesLines Toml.WritesText (Toml.statementsOf "entry" [e.required]) _ :=
      .skip ⟨[], _, _, Toml.blank_nil, heading, .carriageReturn, rfl⟩ <|
      .cons Toml.blank_nil (.series blank (.bare (by decide)) blank) (Toml.endsLine_lineFeed _) <|
      .skip (Toml.endsLine_lineFeed _) <|
      .cons Toml.blank_nil
        (.assign (.quoted (Toml.inQuotes_writeString "key")) Toml.blank_nil Toml.blank_nil (.mk key))
        ⟨[' '], _, _, blank, remark, .lineFeed, rfl⟩ <|
      .cons Toml.blank_nil (.assign (.bare (by decide)) blank blank (.mk title)) (ends _) <|
      .cons Toml.blank_nil (.assign (.bare (by decide)) blank blank (.mk category))
        ⟨[], [], [], Toml.blank_nil, .nothing, .atEnd, rfl⟩ .nil
    exact ⟨_, .cons (Or.inr ⟨.refl _, rfl⟩) .nil,
      (congrArg (Toml.WritesLines _ _) (by decide +kernel)).mp lines⟩
  refine ⟨(manifests_agree [e]).1 json isJson, (manifests_agree [e]).2.1 toml isToml, ?_⟩
  decide +kernel

end Catalog

end Showcase
