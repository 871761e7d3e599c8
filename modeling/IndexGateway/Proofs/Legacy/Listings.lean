import IndexGateway.Proofs.Catalog.Projects
import IndexGateway.Proofs.Json.Cleaning
import IndexGateway.Proofs.Legacy.AtWork

/-!
# The two listings of projects

One query lists the names of all projects, another one lists the names with the numbers of
the projects' last changes. The names are cleaned in both. In the list, names that became
equal stand side by side; in the object they are one key.

The object is built twice: from the names under which projects are displayed, and again
from the cleaned ones. The displayed names are distinct, so nothing is put together the
first time (`listPackagesWithSerial_eq`).

## What is proved

`project_listings_agree` — through an application at work, at any time, the keys of the
object are the names in the list without later repetitions, and each has the number of the
last project that is listed under it. If cleaning keeps the names apart, both have one
item for each project.
-/

namespace IndexGateway.Legacy

open Json
open Catalog (Project)

variable {c : Catalog} {links : Links} {call : Call}

/-- The name under which a project is listed. -/
def label (p : Project) : String := Text.clean p.name

/-! ### Replies -/

theorem reply_listPackages (h : call.params = {}) :
    Query.listPackages.reply (.ok c) links call = .ok (listPackages c) := by
  rw [Query.reply, h]
  rfl

theorem reply_listPackagesWithSerial (h : call.params = {}) :
    Query.listPackagesWithSerial.reply (.ok c) links call = .ok (listPackagesWithSerial c) := by
  rw [Query.reply, h]
  rfl

theorem clean_listPackages (c : Catalog) :
    (listPackages c).clean = .ofTexts (c.projects.toList.map label) := by
  simp only [listPackages, ofTexts, Catalog.projectNames, Json.clean, cleanItems_eq_map, List.map_map]
  rfl

/-- Distinct names are all kept as keys. -/
theorem listPackagesWithSerial_eq (h : c.projectNames.Nodup) : listPackagesWithSerial c =
    .obj (c.projects.toList.map fun p => (p.name, .ofInt64 p.lastSerial)) := by
  have hkeys : (keys (c.projects.toList.map fun p => (p.name, .ofInt64 p.lastSerial))).Nodup := by
    rwa [keys, List.map_map]
  rw [listPackagesWithSerial, Catalog.projectSerials, List.map_map]
  exact congrArg obj (collectFields_of_nodup hkeys)

theorem clean_listPackagesWithSerial (h : c.projectNames.Nodup) : (listPackagesWithSerial c).clean =
    .obj (collectFields (c.projects.toList.map fun p => (label p, .ofInt64 p.lastSerial))) := by
  rw [listPackagesWithSerial_eq h, Json.clean, cleanEntries_eq_map, List.map_map]
  rfl

/-! ### Both listings -/

/-- **The two listings of projects agree.** Let an application serve the table over the index of a
document. There is one object, of which the following holds at all times, whatever happened before.
An admitted request for the names, without arguments, is answered with the cleaned names of the
stored projects, in order; and one for the names with the numbers is answered with the object. Its
keys are these names without later repetitions, and each has the number of the last change of the
last stored project with this cleaned name. If cleaning keeps the names of stored projects apart,
both have one item for each project, with its name and its number. -/
theorem project_listings_agree {settings : Settings} {d : Catalog.Document} {started : Moment}
    {app : Application}
    (h : (Application.serving settings (Catalog.ofDocument d) started).1 = .ok app) :
    let projects := (Catalog.ofDocument d).projects.toList
    let names := projects.map label
    ∃ fields : List (String × Json),
      (∀ events now r, IsAdmitted (app.after events) now r → r.params = {} →
        (r.method = "list_packages" →
          ((app.after events).call now r).1.result.map (·.value) = .ok (.ofTexts names)) ∧
        (r.method = "list_packages_with_serial" →
          ((app.after events).call now r).1.result.map (·.value) = .ok (.obj fields))) ∧
      keys fields = names.eraseDups ∧
      (∀ key value, (key, value) ∈ fields ↔
        ∃ p, IsLastOf label projects key p ∧ Json.ofInt64 p.lastSerial = value) ∧
      ((∀ p ∈ projects, ∀ p' ∈ projects, label p = label p' → p.name = p'.name) →
        names.Nodup ∧ fields = projects.map fun p => (label p, .ofInt64 p.lastSerial)) := by
  intro projects names
  have hdisplayed : (Catalog.ofDocument d).projectNames.Nodup := Catalog.nodup_projectNames d
  have hkeys : keys (projects.map fun p => (label p, Json.ofInt64 p.lastSerial)) = names := by
    rw [keys, List.map_map]
    rfl
  refine ⟨collectFields (projects.map fun p => (label p, .ofInt64 p.lastSerial)),
    fun events now r hr hparams => ⟨fun hname => ?_, fun hname => ?_⟩, ?_,
    fun key value => mem_collectFields_map_iff, fun hapart => ?_⟩
  · rw [result_of_admitted (q := .listPackages) (isAtWork_after h events) hr hname,
      reply_listPackages hparams, ← clean_listPackages]
    rfl
  · rw [result_of_admitted (q := .listPackagesWithSerial) (isAtWork_after h events) hr hname,
      reply_listPackagesWithSerial hparams, ← clean_listPackagesWithSerial hdisplayed]
    rfl
  · rw [keys_collectFields, hkeys]
  · have hsame : ∀ p ∈ projects, ∀ p' ∈ projects, label p = label p' → p = p' :=
      fun p hp p' hp' hlabel => List.inj_on_of_nodup_map hdisplayed hp hp' (hapart p hp p' hp' hlabel)
    have hnames : names.Nodup := hdisplayed.of_map.map_on hsame
    exact ⟨hnames, collectFields_of_nodup (hkeys ▸ hnames)⟩

/-- Of three projects, the first and the last are listed under the same name. -/
theorem project_listings_agree_collapsed :
    let d : Catalog.Document := { projects :=
      [{ name := "Zoë", lastSerial := 3 }, { name := "Flask", lastSerial := 5 },
        { name := "Zo&#235;", lastSerial := 7 }] }
    let settings : Settings := { quota := { enabled := false } }
    let app := Application.assembled settings (Catalog.ofDocument d) 0
    let r : Request := { endpoint := "pypi", method := "list_packages_with_serial" }
    let events : List Application.Event := [.purge "all-projects"]
    (Application.serving settings (Catalog.ofDocument d) 0).1 = .ok app ∧
    IsAdmitted (app.after events) 1 r ∧
    ∃ fields, ((app.after events).call 1 r).1.result.map (·.value) = .ok (.obj fields) ∧
      keys fields = ["Zo&#235;", "Flask"] ∧ ("Zo&#235;", .ofInt64 7) ∈ fields := by
  intro d settings app r events
  have happ : (Application.serving settings (Catalog.ofDocument d) 0).1 = .ok app :=
    Application.serving_eq settings _ 0
  have hr : IsAdmitted (app.after events) 1 r := ⟨by decide, by decide, rfl⟩
  have hprojects : (Catalog.ofDocument d).projects.toList = d.projects :=
    Catalog.projects_of_nodup (by decide +kernel)
  obtain ⟨fields, hanswers, hkeys, hvalues, -⟩ := project_listings_agree happ
  rw [hprojects] at hkeys hvalues
  refine ⟨happ, hr, fields, (hanswers events 1 r hr rfl).2 rfl, ?_, (hvalues _ _).mpr ?_⟩
  · rw [hkeys]
    decide +kernel
  · exact ⟨{ name := "Zo&#235;", lastSerial := 7 },
      ⟨by decide +kernel, d.projects.take 2, [], rfl, nofun⟩, rfl⟩

end IndexGateway.Legacy
