import IndexGateway.Catalog.Basic
import IndexGateway.Proofs.Instant.RoundTrip
import IndexGateway.Proofs.Json.ReadBack

/-!
# Index documents survive being written

A document is written as JSON and read back as the same document, so that the index that
is loaded from its text is the index of the document.

Whether a record survives is a matter of its fields: it is written with all of them, under
distinct names, so that each is found again, and each kind of field is read back.

## The model

`ReadsBack` says of a way of writing and a way of reading that the second undoes the
first, by way of the outline of what was written. It holds of the kinds of fields, carries
over to lists, and is proved record by record.
-/

namespace IndexGateway.Catalog

open Json

/-- Values that are written as JSON are read back. -/
structure ReadsBack {α : Type} (toJson : α → Json) (read : Outline → Option α) : Prop where
  /-- What is written holds no floating-point numbers, so that its text is read as its outline. -/
  floatless : ∀ a, IsFloatless (toJson a)
  /-- The outline is read as the value. -/
  read : ∀ a, read (toJson a).outline = some a

/-! ### Kinds of fields -/

namespace ReadsBack

theorem text : ReadsBack Json.str Field.text where
  floatless := .str
  read _ := rfl

theorem optionalText : ReadsBack Json.ofText? Field.text? where
  floatless s := by cases s <;> simp [ofText?]
  read s := by cases s <;> rfl

theorem bool : ReadsBack Json.bool Field.bool where
  floatless := .bool
  read _ := rfl

theorem int64 : ReadsBack Json.ofInt64 Field.int64 where
  floatless _ := .int _
  read n := Integer.toInt64?_ofInt64 n

theorem uint64 : ReadsBack Json.ofUInt64 Field.uint64 where
  floatless _ := .int _
  read n := Integer.toUInt64?_ofUInt64 n

theorem instant : ReadsBack (fun t : Instant => Json.str t.text) Field.instant where
  floatless _ := .str _
  read t := t.ofText?_text

variable {α : Type} {toJson : α → Json} {read : Outline → Option α}

/-- Lists are read back if their items are. -/
theorem list (h : ReadsBack toJson read) :
    ReadsBack (fun items => Json.arr (items.map toJson)) (Field.list read) where
  floatless items := by simpa using fun a _ => h.floatless a
  read items := by
    rw [outline, outlines_eq_map, Field.list]
    induction items with
    | nil => rfl
    | cons a items ih =>
      simp only [List.map_cons, List.mapM_cons, h.read a, ih]
      rfl

theorem texts : ReadsBack Json.ofTexts (Field.list Field.text) := text.list

end ReadsBack

/-! ### Records -/

/-- The values given for a name in what was written. -/
theorem given_entries (name : String) (fields : List (String × Json)) :
    Field.given name (entries fields) =
      fields.filterMap fun f => if f.1 = name then some f.2.outline else none := by
  rw [entries_eq_map, Field.given, List.filterMap_map]
  simp

/-- A field with a name of its own is found. -/
theorem given_of_mem {fields : List (String × Json)} (hnodup : (fields.map Prod.fst).Nodup)
    {f : String × Json} (hf : f ∈ fields) : Field.given f.1 (entries fields) = [f.2.outline] := by
  rw [given_entries]
  induction fields with
  | nil => cases hf
  | cons e fields ih =>
    obtain ⟨hname, hnodup⟩ := List.nodup_cons.mp hnodup
    rcases List.mem_cons.mp hf with rfl | hf
    · have hrest : (fields.filterMap fun e => if e.1 = f.1 then some e.2.outline else none) = [] := by
        refine List.filterMap_eq_nil_iff.mpr fun e he => if_neg fun heq => hname ?_
        exact heq ▸ List.mem_map_of_mem he
      simp [hrest]
    · have hne : e.1 ≠ f.1 := fun heq => hname (heq ▸ List.mem_map_of_mem hf)
      simp [hne, ih hnodup hf]

theorem mapM_of_zip {α β γ : Type} {f : α → Option γ} {g : β → γ} {xs : List α} {ys : List β}
    (hlength : xs.length = ys.length) (h : ∀ p ∈ xs.zip ys, f p.1 = some (g p.2)) :
    xs.mapM f = some (ys.map g) := by
  induction xs generalizing ys with
  | nil =>
    cases ys with
    | nil => rfl
    | cons y ys => cases hlength
  | cons x xs ih =>
    cases ys with
    | nil => cases hlength
    | cons y ys =>
      obtain ⟨hx, hxs⟩ := List.forall_mem_cons.mp h
      simp only [List.mapM_cons, hx, ih (Nat.succ.inj hlength) hxs, List.map_cons]
      rfl

/-- A record that is written with all its fields gives each of them. -/
theorem record_zip {names : List String} {values : List Json} (hnodup : names.Nodup)
    (hlength : names.length = values.length) :
    Field.record names (Json.obj (names.zip values)).outline =
      some (values.map fun v => some v.outline) := by
  have hnames : (names.zip values).map Prod.fst = names := List.map_fst_zip hlength.le
  have hall : (entries (names.zip values)).all (fun e => e.1.isSome) = true := by
    simp [entries_eq_map]
  have hgiven : ∀ f ∈ names.zip values,
      Field.given f.1 (entries (names.zip values)) = [f.2.outline] :=
    fun f hf => given_of_mem (by rwa [hnames]) hf
  rw [outline, Field.record, if_pos hall]
  exact mapM_of_zip hlength fun f hf => by rw [hgiven f hf]

/-- Reading a record that was written goes on with all its fields. -/
theorem bind_record {names : List String} {values : List Json} (hnodup : names.Nodup)
    (hlength : names.length = values.length) {α : Type} {next : List (Option Outline) → Option α}
    {a : α} (hnext : next (values.map fun v => some v.outline) = some a) :
    (Field.record names (Json.obj (names.zip values)).outline >>= next) = some a := by
  rw [record_zip hnodup hlength]
  exact hnext

theorem isFloatless_zip (names : List String) {values : List Json}
    (h : ∀ v ∈ values, IsFloatless v) : IsFloatless (.obj (names.zip values)) :=
  .obj fun f hf => h f.2 (List.of_mem_zip hf).2

namespace ReadsBack

section Bind

variable {α β : Type} {toJson : α → Json} {read : Outline → Option α} {a : α}
  {next : α → Option β} {b : β}

/-- A field that was written is read, and reading goes on with its value. -/
theorem bind (h : ReadsBack toJson read) {default : α} (hnext : next a = some b) :
    (Field.withDefault default read (some (toJson a).outline)).bind next = some b := by
  rw [Field.withDefault, h.read]
  exact hnext

theorem bind_required (h : ReadsBack toJson read) (hnext : next a = some b) :
    (Field.required read (some (toJson a).outline)).bind next = some b := by
  rw [Field.required, h.read]
  exact hnext

end Bind

theorem projectLink : ReadsBack ProjectLink.toJson ProjectLink.read where
  floatless l := by simp [ProjectLink.toJson]
  read l := by
    have hjson : l.toJson = .obj (["label", "url"].zip [.str l.label, .str l.url]) := rfl
    rw [hjson, ProjectLink.read]
    refine bind_record (by decide) rfl ?_
    refine text.bind_required ?_
    exact text.bind_required rfl

theorem file : ReadsBack File.toJson File.read where
  floatless f := isFloatless_zip _ (by simp [uint64.floatless, optionalText.floatless])
  read f := by
    rw [File.toJson, File.read]
    refine bind_record (by decide) rfl ?_
    iterate 3 refine text.bind_required ?_
    refine uint64.bind_required ?_
    iterate 2 refine text.bind_required ?_
    refine instant.bind_required ?_
    refine optionalText.bind ?_
    exact text.bind_required rfl

theorem release : ReadsBack Release.toJson Release.read where
  floatless r := isFloatless_zip _ (by
    simp [-isFloatless_arr_iff, int64.floatless, optionalText.floatless, texts.floatless,
      projectLink.list.floatless, file.list.floatless])
  read r := by
    rw [Release.toJson, Release.read]
    refine bind_record (by decide) rfl ?_
    refine text.bind ?_
    refine int64.bind ?_
    refine bool.bind ?_
    iterate 12 refine optionalText.bind ?_
    refine projectLink.list.bind ?_
    iterate 8 refine texts.bind ?_
    exact file.list.bind rfl

theorem project : ReadsBack Project.toJson Project.read where
  floatless p := isFloatless_zip _ (by
    simp [-isFloatless_arr_iff, int64.floatless, optionalText.floatless, release.list.floatless])
  read p := by
    rw [Project.toJson, Project.read]
    refine bind_record (by decide) rfl ?_
    refine text.bind_required ?_
    refine int64.bind ?_
    refine optionalText.bind ?_
    exact release.list.bind rfl

theorem role : ReadsBack Role.toJson Role.read where
  floatless r := isFloatless_zip _ (by simp)
  read r := by
    rw [Role.toJson, Role.read]
    refine bind_record (by decide) rfl ?_
    iterate 2 refine text.bind_required ?_
    exact text.bind_required rfl

theorem journalEntry : ReadsBack JournalEntry.toJson JournalEntry.read where
  floatless e := isFloatless_zip _ (by simp [int64.floatless, optionalText.floatless])
  read e := by
    rw [JournalEntry.toJson, JournalEntry.read]
    refine bind_record (by decide) rfl ?_
    refine int64.bind_required ?_
    refine text.bind_required ?_
    refine optionalText.bind ?_
    refine instant.bind_required ?_
    exact text.bind_required rfl

theorem document : ReadsBack Document.toJson Document.read where
  floatless d := isFloatless_zip _ (by
    simp [-isFloatless_arr_iff, project.list.floatless, role.list.floatless,
      journalEntry.list.floatless])
  read d := by
    rw [Document.toJson, Document.read]
    refine bind_record (by decide) rfl ?_
    refine project.list.bind ?_
    refine role.list.bind ?_
    exact journalEntry.list.bind rfl

end ReadsBack

/-! ### Documents -/

/-- The compact text of a value that is read back is read as the value's outline. -/
theorem ofChars?_compact {v : Json} (h : IsFloatless v) :
    Outline.ofChars? v.compact.toList = some v.outline := by
  rw [compact, chars_eq_laid 0, String.toList_ofList, ← List.append_nil (laid .compact 0 v)]
  exact ofChars?_laid .compact h 0 (List.forall_mem_nil _)

/-- **A document survives being written**: its text is read back as the document, and the index of
the text is the index of the document. -/
theorem ofText_text (d : Document) :
    Document.ofText? d.text = some d ∧ ofText d.text = .ok (ofDocument d) := by
  have hread : Document.ofText? d.text = some d := by
    rw [Document.ofText?, Document.text, ofChars?_compact (ReadsBack.document.floatless d)]
    exact ReadsBack.document.read d
  exact ⟨hread, by rw [ofText, hread]⟩

end IndexGateway.Catalog
