import IndexGateway.Catalog.Basic
import IndexGateway.Proofs.Sorting

/-!
# The projects of an index

Projects are loaded one after the other. A project whose canonical name is new gets a
place behind the others, and one whose canonical name is there already takes the place of
the project that has it, even if the two are displayed under different names.

## The model

`IsLoaded c seen` ties the parts of an index to the projects that were loaded so far: the
canonical names of its projects are theirs, in the order in which they appeared first; the
table leads from each name to its place; and at that place stands the last project of the
name. It holds of the index without projects, is kept by each further project
(`IsLoaded.place`), and so holds of the index of every document (`isLoaded_ofDocument`).

## What is proved

`projects_of_document` — an index holds one project for each canonical name of its
document, the last one, at the place where the name appeared first; every spelling of the
name leads to it, and no other name does.
-/

namespace IndexGateway.Catalog

variable {c : Catalog} {seen : List Project} {p : Project} {name : String} {slot : Nat}

/-! ### Last projects -/

/-- **A project is the last one of its canonical name** among some projects. -/
def IsLast (projects : List Project) (p : Project) : Prop :=
  ∃ before behind, projects = before ++ p :: behind ∧
    ∀ other ∈ behind, other.canonicalName ≠ p.canonicalName

/-- The last of some projects with a canonical name. -/
def lastOf? (projects : List Project) (name : String) : Option Project :=
  projects.reverse.find? fun p => p.canonicalName = name

theorem lastOf?_eq_some_iff :
    lastOf? seen name = some p ↔ p.canonicalName = name ∧ IsLast seen p := by
  simp only [lastOf?, List.find?_eq_some_iff_append, decide_eq_true_eq, Bool.not_eq_true',
    decide_eq_false_iff_not]
  refine and_congr_right fun hname => ?_
  subst hname
  constructor
  · rintro ⟨behind, before, hsplit, hbehind⟩
    refine ⟨before.reverse, behind.reverse, ?_, by simpa using hbehind⟩
    rw [← List.reverse_reverse seen, hsplit]
    simp
  · rintro ⟨before, behind, rfl, hbehind⟩
    exact ⟨behind.reverse, before.reverse, by simp, by simpa using hbehind⟩

theorem isSome_lastOf?_iff : (lastOf? seen name).isSome ↔ ∃ p ∈ seen, p.canonicalName = name := by
  simp [lastOf?]

theorem lastOf?_append_singleton (seen : List Project) (p : Project) (name : String) :
    lastOf? (seen ++ [p]) name = if p.canonicalName = name then some p else lastOf? seen name := by
  rw [lastOf?, lastOf?, List.reverse_append, List.reverse_singleton, List.singleton_append,
    List.find?_cons]
  by_cases h : p.canonicalName = name <;> simp [h]

/-! ### Places -/

/-- The canonical names of the projects, in order. -/
def canonicalNames (c : Catalog) : List String := c.projects.toList.map (·.canonicalName)

theorem getElem?_canonicalNames (c : Catalog) (slot : Nat) :
    c.canonicalNames[slot]? = (c.projects[slot]?).map (·.canonicalName) := by
  simp [canonicalNames]

theorem canonicalNames_eq_map (c : Catalog) :
    c.canonicalNames = c.projectNames.map ProjectName.canonical :=
  (List.map_map ..).symm

theorem place_of_some (h : c.slots[p.canonicalName]? = some slot) :
    c.place p = { c with projects := c.projects.setIfInBounds slot p } := by
  rw [place, h]

theorem place_of_none (h : c.slots[p.canonicalName]? = none) :
    c.place p = { c with
      projects := c.projects.push p
      slots := c.slots.insert p.canonicalName c.projects.size } := by
  rw [place, h]

/-- **What an index holds once some projects were loaded.** -/
structure IsLoaded (c : Catalog) (seen : List Project) : Prop where
  /-- Each canonical name stands where it appeared first. -/
  names : c.canonicalNames = (seen.map (·.canonicalName)).eraseDups
  /-- The table tells the place of every canonical name, and knows no other name. -/
  slots : ∀ (name : String) (slot : Nat),
    c.slots[name]? = some slot ↔ c.canonicalNames[slot]? = some name
  /-- Every project is the last one of its canonical name. -/
  last : ∀ (slot : Nat) (p : Project),
    c.projects[slot]? = some p → lastOf? seen p.canonicalName = some p

namespace IsLoaded

theorem empty (roles : List Role) (journal : List JournalEntry) :
    IsLoaded { Catalog.empty with roles, journal } [] where
  names := by simp [canonicalNames, Catalog.empty]
  slots := by simp [canonicalNames, Catalog.empty]
  last := by simp [Catalog.empty]

theorem slots_eq_some (h : IsLoaded c seen) (hp : c.projects[slot]? = some p) :
    c.slots[p.canonicalName]? = some slot := by
  rw [h.slots, getElem?_canonicalNames, hp]
  rfl

theorem slots_eq_none_iff (h : IsLoaded c seen) :
    c.slots[name]? = none ↔ ∀ p ∈ seen, p.canonicalName ≠ name := by
  have hmem : (∃ slot, c.slots[name]? = some slot) ↔ ∃ p ∈ seen, p.canonicalName = name := by
    simp only [h.slots, ← List.mem_iff_getElem?, h.names, List.mem_eraseDups, List.mem_map]
  rw [← Option.not_isSome_iff_eq_none, Option.isSome_iff_exists, hmem]
  simp

/-- A project that a new one does not replace has another name. -/
theorem last_append (h : IsLoaded c seen) {other : Project} (hother : c.projects[slot]? = some other)
    (hne : c.slots[p.canonicalName]? ≠ some slot) :
    lastOf? (seen ++ [p]) other.canonicalName = some other := by
  have hname : p.canonicalName ≠ other.canonicalName := by
    intro heq
    rw [heq] at hne
    exact hne (h.slots_eq_some hother)
  rw [lastOf?_append_singleton, if_neg hname]
  exact h.last slot other hother

theorem canonicalNames_place_of_some (h : IsLoaded c seen)
    (hslot : c.slots[p.canonicalName]? = some slot) :
    (c.place p).canonicalNames = c.canonicalNames := by
  have hname := (h.slots _ _).mp hslot
  rw [getElem?_canonicalNames] at hname
  rw [place_of_some hslot]
  refine List.ext_getElem? fun i => ?_
  rw [getElem?_canonicalNames, getElem?_canonicalNames, Array.getElem?_setIfInBounds]
  by_cases hi : slot = i
  · subst hi
    obtain ⟨old, hold, -⟩ := Option.map_eq_some_iff.mp hname
    obtain ⟨hlt, -⟩ := Array.getElem?_eq_some_iff.mp hold
    rw [if_pos rfl, if_pos hlt, hname]
    rfl
  · rw [if_neg hi]

/-- A project takes the place of one with the same canonical name. -/
theorem replace (h : IsLoaded c seen) (hslot : c.slots[p.canonicalName]? = some slot) :
    IsLoaded (c.place p) (seen ++ [p]) := by
  have hsame := h.canonicalNames_place_of_some hslot
  refine ⟨?_, ?_, ?_⟩
  · have hmem : p.canonicalName ∈ seen.map (·.canonicalName) := by
      rw [← List.mem_eraseDups, ← h.names]
      exact List.mem_of_getElem? ((h.slots _ _).mp hslot)
    rw [hsame, h.names, List.map_append, List.map_singleton, eraseDups_append_singleton, if_pos hmem]
  · intro name slot'
    rw [hsame, place_of_some hslot]
    exact h.slots name slot'
  · intro slot' p' hp'
    rw [place_of_some hslot, Array.getElem?_setIfInBounds] at hp'
    split at hp'
    · split at hp'
      · cases hp'
        rw [lastOf?_append_singleton, if_pos rfl]
      · cases hp'
    · next hne =>
      refine h.last_append hp' ?_
      rw [hslot]
      simpa using hne

/-- A project with a new canonical name is put behind the others. -/
theorem push (h : IsLoaded c seen) (hnone : c.slots[p.canonicalName]? = none) :
    IsLoaded (c.place p) (seen ++ [p]) := by
  refine ⟨?_, ?_, ?_⟩
  · have hnotMem : p.canonicalName ∉ seen.map (·.canonicalName) := by
      simpa using h.slots_eq_none_iff.mp hnone
    have hnames : (c.place p).canonicalNames = c.canonicalNames ++ [p.canonicalName] := by
      rw [place_of_none hnone]
      simp [canonicalNames]
    rw [hnames, h.names, List.map_append, List.map_singleton, eraseDups_append_singleton,
      if_neg hnotMem]
  · intro name slot
    have hold : c.slots[name]? = some slot ↔
        (c.projects[slot]?).map (·.canonicalName) = some name := by
      rw [h.slots, getElem?_canonicalNames]
    rw [getElem?_canonicalNames, place_of_none hnone, Std.HashMap.getElem?_insert,
      Array.getElem?_push]
    by_cases hname : p.canonicalName = name
    · subst hname
      by_cases hslot : slot = c.projects.size
      · simp [hslot]
      · simpa [hslot, hnone, eq_comm] using hold
    · by_cases hslot : slot = c.projects.size
      · simpa [hslot, hname] using hold
      · simpa [hslot, hname] using hold
  · intro slot p' hp'
    rw [place_of_none hnone, Array.getElem?_push] at hp'
    split at hp'
    · cases hp'
      rw [lastOf?_append_singleton, if_pos rfl]
    · refine h.last_append hp' ?_
      rw [hnone]
      exact nofun

/-- **Each further project keeps the index in order.** -/
theorem place (h : IsLoaded c seen) (p : Project) : IsLoaded (c.place p) (seen ++ [p]) := by
  cases hslot : c.slots[p.canonicalName]? with
  | some slot => exact h.replace hslot
  | none => exact h.push hslot

theorem foldl_place (h : IsLoaded c seen) (projects : List Project) :
    IsLoaded (projects.foldl Catalog.place c) (seen ++ projects) := by
  induction projects generalizing c seen with
  | nil => simpa using h
  | cons p projects ih =>
    rw [List.foldl_cons, List.append_cons]
    exact ih (h.place p)

/-- **A name finds the last project that has it**, in whatever spelling. -/
theorem project?_eq (h : IsLoaded c seen) (query : String) :
    c.project? query = lastOf? seen (ProjectName.canonical query) := by
  rw [project?]
  split
  · next slot hslot =>
    have hname := (h.slots _ _).mp hslot
    rw [getElem?_canonicalNames] at hname
    obtain ⟨p, hp, hcanonical⟩ := Option.map_eq_some_iff.mp hname
    rw [hp, ← hcanonical, h.last slot p hp]
  · next hnone =>
    have hno : ¬ (lastOf? seen (ProjectName.canonical query)).isSome := by
      rw [isSome_lastOf?_iff]
      simpa using h.slots_eq_none_iff.mp hnone
    exact (Option.not_isSome_iff_eq_none.mp hno).symm

theorem mem_projects_iff (h : IsLoaded c seen) : p ∈ c.projects ↔ IsLast seen p := by
  rw [Array.mem_iff_getElem?]
  constructor
  · rintro ⟨slot, hslot⟩
    exact (lastOf?_eq_some_iff.mp (h.last slot p hslot)).2
  · intro hlast
    have hp : lastOf? seen p.canonicalName = some p := lastOf?_eq_some_iff.mpr ⟨rfl, hlast⟩
    rw [Project.canonicalName, ← h.project?_eq, project?] at hp
    split at hp
    · exact ⟨_, hp⟩
    · cases hp

/-- A project is found under the name by which it is displayed. -/
theorem mem_projects_iff_project? (h : IsLoaded c seen) :
    p ∈ c.projects ↔ c.project? p.name = some p := by
  rw [h.mem_projects_iff, h.project?_eq, lastOf?_eq_some_iff]
  exact (and_iff_right rfl).symm

end IsLoaded

/-! ### Documents -/

theorem place_frame (c : Catalog) (p : Project) :
    (c.place p).roles = c.roles ∧ (c.place p).journal = c.journal := by
  rw [place]
  split <;> exact ⟨rfl, rfl⟩

/-- Projects are taken up without a change of the roles and the journal. -/
theorem foldl_place_frame (projects : List Project) (c : Catalog) :
    (projects.foldl place c).roles = c.roles ∧ (projects.foldl place c).journal = c.journal := by
  induction projects generalizing c with
  | nil => exact ⟨rfl, rfl⟩
  | cons p projects ih =>
    obtain ⟨hroles, hjournal⟩ := ih (c.place p)
    exact ⟨hroles.trans (place_frame c p).1, hjournal.trans (place_frame c p).2⟩

theorem roles_ofDocument (d : Document) : (ofDocument d).roles = d.roles := (foldl_place_frame _ _).1

theorem journal_ofDocument (d : Document) :
    (ofDocument d).journal = d.journal.mergeSort fun a b => a.id ≤ b.id :=
  (foldl_place_frame _ _).2

theorem isLoaded_ofDocument (d : Document) : IsLoaded (ofDocument d) d.projects :=
  (IsLoaded.empty d.roles _).foldl_place d.projects

theorem project?_ofDocument (d : Document) (query : String) :
    (ofDocument d).project? query = lastOf? d.projects (ProjectName.canonical query) :=
  (isLoaded_ofDocument d).project?_eq query

theorem canonicalName_of_project? {d : Document} {query : String}
    (h : (ofDocument d).project? query = some p) : p.canonicalName = ProjectName.canonical query := by
  rw [project?_ofDocument] at h
  exact (lastOf?_eq_some_iff.mp h).1

theorem nodup_canonicalNames (d : Document) : (ofDocument d).canonicalNames.Nodup := by
  rw [(isLoaded_ofDocument d).names]
  exact nodup_eraseDups _

/-- Projects with different canonical names are displayed under different names. -/
theorem nodup_projectNames (d : Document) : (ofDocument d).projectNames.Nodup := by
  have hnodup := nodup_canonicalNames d
  rw [canonicalNames_eq_map] at hnodup
  exact hnodup.of_map

/-- Projects with distinct canonical names are stored as they were loaded. -/
theorem projects_of_nodup {d : Document} (h : (d.projects.map (·.canonicalName)).Nodup) :
    (ofDocument d).projects.toList = d.projects := by
  have hloaded := isLoaded_ofDocument d
  have hnames : (ofDocument d).canonicalNames = d.projects.map (·.canonicalName) := by
    rw [hloaded.names, eraseDups_of_nodup h]
  refine List.ext_getElem (by simpa [canonicalNames] using congrArg List.length hnames) fun i hi hi' => ?_
  have hname := List.getElem_of_eq hnames (by simpa [canonicalNames] using hi)
  obtain ⟨before, behind, hsplit, -⟩ :=
    hloaded.mem_projects_iff.mp (Array.mem_toList_iff.mp (List.getElem_mem hi))
  refine List.inj_on_of_nodup_map h (by rw [hsplit]; simp) (List.getElem_mem hi') ?_
  simpa [canonicalNames] using hname

/-- **One project for each canonical name.** The canonical names of the projects of an index are
distinct; they are those of the projects in its document, in the order in which these appeared first.
The projects themselves are the last ones of their canonical names, with all that they hold. The
table leads from each canonical name to the place of its project, and from no other name anywhere. A
name is found in every spelling, and then it is the last project with this canonical name. The names
under which the projects are displayed are distinct as well. -/
theorem projects_of_document (d : Document) :
    let c := ofDocument d
    (c.canonicalNames = (d.projects.map (·.canonicalName)).eraseDups ∧ c.canonicalNames.Nodup ∧
      ∀ name, name ∈ c.canonicalNames ↔ ∃ p ∈ d.projects, p.canonicalName = name) ∧
    (∀ p, p ∈ c.projects ↔ IsLast d.projects p) ∧
    (∀ (name : String) (slot : Nat), c.slots[name]? = some slot ↔
      ∃ p, c.projects[slot]? = some p ∧ p.canonicalName = name) ∧
    (∀ query p, c.project? query = some p ↔
      p.canonicalName = ProjectName.canonical query ∧ IsLast d.projects p) ∧
    (∀ query, (c.project? query).isSome ↔
      ∃ p ∈ d.projects, p.canonicalName = ProjectName.canonical query) ∧
    c.projectNames.Nodup := by
  intro c
  have hloaded : IsLoaded c d.projects := isLoaded_ofDocument d
  refine ⟨⟨hloaded.names, nodup_canonicalNames d, fun name => ?_⟩,
    fun p => hloaded.mem_projects_iff, ?_, ?_, ?_, nodup_projectNames d⟩
  · rw [hloaded.names, List.mem_eraseDups, List.mem_map]
  · intro name slot
    rw [hloaded.slots, getElem?_canonicalNames, Option.map_eq_some_iff]
  · intro query p
    rw [hloaded.project?_eq, lastOf?_eq_some_iff]
  · intro query
    rw [hloaded.project?_eq, isSome_lastOf?_iff]

end IndexGateway.Catalog
