import IndexGateway.Proofs.Catalog.Projects
import IndexGateway.Proofs.Legacy.Replies
import Mathlib.Data.List.Perm.Subperm
import Mathlib.Data.Prod.Lex
import Mathlib.Data.String.Basic

/-!
# Browsing by classifiers

Releases are browsed by a list of classifiers, and those are meant that carry them all. An
index does not look for each classifier in turn: of the classifiers of a release, it counts
those that were asked for, each once, and compares the number with the length of the
list.

## What is proved

* `Catalog.carriesAll_iff` — a list without repetitions is as long as the part of it that a
  release carries exactly if the release carries all of it; a list with repetitions is
  longer than any part.
* `Legacy.browse_conjunction` — the answer names exactly the releases that carry all
  classifiers, in the order of names and versions, each once, whatever the order of the
  classifiers is.
-/

namespace IndexGateway

namespace Catalog

variable {c : Catalog} {classifiers classifiers' : List String} {r : Release} {name version : String}

/-! ### Counting classifiers -/

/-- A part without repetitions is as long as the whole exactly if it is the whole, and that has no
repetitions either. -/
theorem length_eq_iff_of_subset {α : Type} {xs ys : List α} (hnodup : xs.Nodup) (hsub : xs ⊆ ys) :
    xs.length = ys.length ↔ ys.Nodup ∧ ys ⊆ xs := by
  constructor
  · intro hlength
    have hperm : xs.Perm ys := (hnodup.subperm hsub).perm_of_length_le hlength.ge
    exact ⟨hperm.nodup_iff.mp hnodup, hperm.symm.subset⟩
  · rintro ⟨hnodup', hsub'⟩
    exact ((hnodup.subperm hsub).antisymm (hnodup'.subperm hsub')).length_eq

/-- **A release carries all of some classifiers** exactly if it has each of them in its own list,
wherever and how often; and lists that are empty or repeat themselves are refused. -/
theorem carriesAll_iff : carriesAll classifiers r = true ↔
    classifiers ≠ [] ∧ classifiers.Nodup ∧ classifiers ⊆ r.classifiers := by
  have hmem {s : String} : s ∈ (r.classifiers.filter (· ∈ classifiers)).eraseDups ↔
      s ∈ r.classifiers ∧ s ∈ classifiers := by
    rw [List.mem_eraseDups, List.mem_filter, decide_eq_true_eq]
  have hsub : (r.classifiers.filter (· ∈ classifiers)).eraseDups ⊆ classifiers :=
    fun s hs => (hmem.mp hs).2
  have hcarried : classifiers ⊆ (r.classifiers.filter (· ∈ classifiers)).eraseDups ↔
      classifiers ⊆ r.classifiers :=
    ⟨fun h s hs => (hmem.mp (h hs)).1, fun h s hs => hmem.mpr ⟨h hs, hs⟩⟩
  simp only [carriesAll, Bool.and_eq_true, Bool.not_eq_true', List.isEmpty_eq_false_iff,
    decide_eq_true_eq, length_eq_iff_of_subset (nodup_eraseDups _) hsub, hcarried]

theorem carriesAll_eq_of_perm (h : classifiers.Perm classifiers') :
    carriesAll classifiers = carriesAll classifiers' := by
  funext r
  have hne : classifiers ≠ [] ↔ classifiers' ≠ [] := by
    simp only [← List.isEmpty_eq_false_iff, h.isEmpty_eq]
  rw [Bool.eq_iff_iff, carriesAll_iff, carriesAll_iff, hne, h.nodup_iff, h.subset_congr_left]

/-! ### The releases found -/

/-- Names and versions go by the name first, and then by the version. -/
theorem comparesBy_pairLe : ComparesBy pairLe (toLex : String × String → String ×ₗ String) := by
  intro a b
  simp [pairLe, Prod.Lex.toLex_le_toLex]

theorem pairwise_releasesWithClassifiers (c : Catalog) (classifiers : List String) :
    (c.releasesWithClassifiers classifiers).Pairwise fun a b => a.1 < b.1 ∨ a.1 = b.1 ∧ a.2 < b.2 :=
  (comparesBy_pairLe.pairwise_eraseReps toLex.injective _).imp Prod.Lex.toLex_lt_toLex.mp

theorem mem_releasesWithClassifiers : (name, version) ∈ c.releasesWithClassifiers classifiers ↔
    ∃ p ∈ c.projects, p.name = name ∧
      ∃ r ∈ p.releases, r.version = version ∧ carriesAll classifiers r = true := by
  simp only [releasesWithClassifiers, mem_eraseReps, List.mem_mergeSort, List.mem_flatMap,
    List.mem_map, List.mem_filter, Prod.mk.injEq, Array.mem_toList_iff]
  constructor
  · rintro ⟨p, hp, r, ⟨hr, hcarries⟩, rfl, rfl⟩
    exact ⟨p, hp, rfl, r, hr, rfl, hcarries⟩
  · rintro ⟨p, hp, rfl, r, hr, rfl, hcarries⟩
    exact ⟨p, hp, r, ⟨hr, hcarries⟩, rfl, rfl⟩

theorem releasesWithClassifiers_eq_of_perm (c : Catalog) (h : classifiers.Perm classifiers') :
    c.releasesWithClassifiers classifiers = c.releasesWithClassifiers classifiers' := by
  rw [releasesWithClassifiers, releasesWithClassifiers, carriesAll_eq_of_perm h]

end Catalog

namespace Legacy

open Catalog (Release)

/-- **Browsing answers with the releases that carry all classifiers.** The rows of the answer are
names with versions. There is a row exactly if some classifier was asked for and none twice, and the
project that is displayed under the name has a release of the version that carries all of them, in
whatever order and however often. The rows increase strictly, by name and then by version; so none is
there twice. They do not depend on the order of the classifiers. -/
theorem browse_conjunction (d : Catalog.Document) (links : Links) (call : Call)
    (classifiers : List String) :
    let c := Catalog.ofDocument d
    let rows := c.releasesWithClassifiers classifiers
    Query.browse.replyTo c links call [.ofTexts classifiers] =
      .ok (.arr (rows.map fun (name, version) => .arr [.str name, .str version])) ∧
    (∀ name version, (name, version) ∈ rows ↔ classifiers ≠ [] ∧ classifiers.Nodup ∧
      ∃ p, c.project? name = some p ∧ p.name = name ∧
        ∃ r ∈ p.releases, r.version = version ∧ classifiers ⊆ r.classifiers) ∧
    rows.Pairwise (fun a b => a.1 < b.1 ∨ a.1 = b.1 ∧ a.2 < b.2) ∧ rows.Nodup ∧
    ∀ classifiers', classifiers'.Perm classifiers → c.releasesWithClassifiers classifiers' = rows := by
  intro c rows
  have hstrict := Catalog.pairwise_releasesWithClassifiers c classifiers
  refine ⟨Query.replyTo_browse classifiers, fun name version => ?_, hstrict, hstrict.imp ?_,
    fun _ hperm => Catalog.releasesWithClassifiers_eq_of_perm c hperm⟩
  · have hfound (p : Catalog.Project) :
        p ∈ c.projects ∧ p.name = name ↔ c.project? name = some p ∧ p.name = name := by
      refine and_congr_left fun hname => ?_
      rw [(Catalog.isLoaded_ofDocument d).mem_projects_iff_project?, hname]
    simp only [rows, Catalog.mem_releasesWithClassifiers, Catalog.carriesAll_iff, ← and_assoc, hfound]
    simp only [and_assoc]
    constructor
    · rintro ⟨p, hp, hname, r, hr, hversion, hne, hnodup, hsub⟩
      exact ⟨hne, hnodup, p, hp, hname, r, hr, hversion, hsub⟩
    · rintro ⟨hne, hnodup, p, hp, hname, r, hr, hversion, hsub⟩
      exact ⟨p, hp, hname, r, hr, hversion, hne, hnodup, hsub⟩
  · rintro a b (hlt | ⟨-, hlt⟩) rfl
    · exact lt_irrefl _ hlt
    · exact lt_irrefl _ hlt

/-- A release carries one of two classifiers twice; asked for in the other order, it is found. -/
theorem browse_conjunction_reversed :
    let p : Catalog.Project := { name := "Django", releases := [{ version := "4.2", classifiers :=
      ["Python :: 3", "Framework :: Django", "Python :: 3"] }] }
    let d : Catalog.Document :=
      { projects := [{ name := "Flask", releases := [{ version := "3.0" }] }, p] }
    let asked := ["Framework :: Django", "Python :: 3"]
    asked.reverse.Perm asked ∧
      ("Django", "4.2") ∈ (Catalog.ofDocument d).releasesWithClassifiers asked.reverse := by
  intro p d asked
  have hperm : asked.reverse.Perm asked := by decide
  have hproject : (Catalog.ofDocument d).project? "Django" = some p := by
    rw [Catalog.project?_ofDocument]
    decide +kernel
  obtain ⟨-, hrows, -, -, hsame⟩ := browse_conjunction d ⟨"pypi.test", ""⟩
    ⟨"mirror", "pypi", "browse", {}⟩ asked
  refine ⟨hperm, ?_⟩
  rw [hsame _ hperm, hrows]
  exact ⟨by decide, by decide, p, hproject, rfl, _, List.mem_singleton_self _, rfl, by decide⟩

end Legacy

end IndexGateway
