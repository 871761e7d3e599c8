import IndexGateway.Proofs.Catalog.Projects
import IndexGateway.Proofs.Legacy.Replies
import Mathlib.Data.Int.Order.Basic

/-!
# Listings of releases

Four queries are about the releases of a project: two list versions, one gives the data of
a version, and one its files. The listings go through the releases sorted, the others
through the releases as loaded, and a project may hold a version more than once.

## The model

`Catalog.IsNewestFirst` says what a listing of releases is: it determines the listing, as
it fixes the order of releases with different orderings and that of releases with the same
one.

## What is proved

`release_methods_agree` — the listing of all versions is newest first; the latest version
is the first in it that was not withdrawn; a version is listed exactly if it has data, and
then its data and its files are those of the same release.
-/

namespace IndexGateway

namespace Catalog

variable {p : Project} {r : Release} {version : String}

/-! ### The order of releases -/

/-- **Releases stand newest first**: larger orderings come before smaller ones, and releases with the
same ordering stay as they were loaded. -/
structure IsNewestFirst (loaded sorted : List Release) : Prop where
  /-- No release is lost or added. -/
  perm : sorted.Perm loaded
  /-- The orderings do not increase. -/
  ordered : sorted.Pairwise fun a b => b.ordering ≤ a.ordering
  /-- The releases of an ordering are in the order in which they were loaded. -/
  stable : ∀ ordering : Int64, sorted.filter (·.ordering = ordering) =
    loaded.filter (·.ordering = ordering)

/-- What releases are sorted by. -/
def Release.key (r : Release) : ℤᵒᵈ := OrderDual.toDual r.ordering.toInt

theorem comparesBy_ordering :
    ComparesBy (fun a b : Release => b.ordering ≤ a.ordering) Release.key := by
  intro a b
  rw [decide_eq_true_eq, Int64.le_iff_toInt_le]
  rfl

theorem key_eq_toDual_iff {ordering : Int64} :
    r.key = OrderDual.toDual ordering.toInt ↔ r.ordering = ordering := by
  rw [Release.key, OrderDual.toDual_inj, Int64.toInt_inj]

theorem isNewestFirst_versions (p : Project) : IsNewestFirst p.releases p.versions := by
  obtain ⟨hperm, hordered, hstable⟩ := comparesBy_ordering.isSortedBy_mergeSort p.releases
  refine ⟨hperm, hordered.imp Int64.le_iff_toInt_le.mpr, fun ordering => ?_⟩
  have h := hstable (OrderDual.toDual ordering.toInt)
  simp only [key_eq_toDual_iff] at h
  exact h

/-! ### Versions -/

/-- A version is listed exactly if some release is the first of this version. -/
theorem mem_map_version_iff :
    version ∈ p.versions.map (·.version) ↔ ∃ r, p.release? version = some r := by
  simp only [List.mem_map, (isNewestFirst_versions p).perm.mem_iff, ← Option.isSome_iff_exists,
    Project.release?, List.find?_isSome, decide_eq_true_eq]

theorem latest?_eq_none_iff : p.latest? = none ↔ ∀ r ∈ p.releases, r.yanked = true := by
  simp [Project.latest?, (isNewestFirst_versions p).perm.mem_iff]

theorem latest?_eq_some_iff : p.latest? = some r ↔ r.yanked = false ∧
    ∃ before behind, p.versions = before ++ r :: behind ∧ ∀ newer ∈ before, newer.yanked = true := by
  simp [Project.latest?, List.find?_eq_some_iff_append]

end Catalog

namespace Legacy

open Catalog (Project Release IsNewestFirst)

variable {p : Project} {r : Release} {version : String} {links : Links}

/-! ### What is shown -/

/-- The latest version is the first in the listing that was not withdrawn, if there is one. -/
theorem shownVersions_false_cases (p : Project) :
    (∀ r ∈ p.releases, r.yanked = true) ∧ shownVersions p false = [] ∨
    ∃ before r behind, p.versions = before ++ r :: behind ∧ (∀ newer ∈ before, newer.yanked = true) ∧
      r.yanked = false ∧ shownVersions p false = [r.version] := by
  cases hlatest : p.latest? with
  | none => exact .inl ⟨Catalog.latest?_eq_none_iff.mp hlatest, by simp [shownVersions, hlatest]⟩
  | some r =>
    obtain ⟨hkept, before, behind, hsplit, hbefore⟩ := Catalog.latest?_eq_some_iff.mp hlatest
    exact .inr ⟨before, r, behind, hsplit, hbefore, hkept, by simp [shownVersions, hlatest]⟩

theorem shownVersions_false_eq_nil_iff :
    shownVersions p false = [] ↔ ∀ r ∈ p.releases, r.yanked = true := by
  rw [← Catalog.latest?_eq_none_iff]
  cases hlatest : p.latest? <;> simp [shownVersions, hlatest]

theorem exists_fields_releaseData (links : Links) (p : Project) (r : Release) :
    ∃ fields, releaseData links p r = .obj fields ∧ fields ≠ [] ∧
      Json.field? "name" fields = some (.str p.name) ∧
      Json.field? "version" fields = some (.str r.version) :=
  ⟨_, rfl, List.cons_ne_nil _ _, rfl, rfl⟩

/-- The fields of a file. -/
theorem fileData_eq (links : Links) (f : Catalog.File) : fileData links f = .obj [
    ("filename", .str f.filename), ("packagetype", .str f.packageType),
    ("python_version", .str f.pythonVersion), ("size", .ofUInt64 f.size),
    ("md5_digest", .str f.md5Digest), ("sha256_digest", .str f.sha256Digest),
    ("digests", .obj [("md5", .str f.md5Digest), ("sha256", .str f.sha256Digest)]),
    ("has_sig", .bool false), ("upload_time", .str f.uploadTime.uploadText),
    ("upload_time_iso_8601", .str f.uploadTime.uploadText),
    ("comment_text", f.commentText.elim .null .str), ("downloads", .ofInt64 (-1)),
    ("path", .str f.path), ("url", .str (links.file f.path))] := by
  cases hcomment : f.commentText <;> simp [fileData, Json.ofText?, hcomment, uncounted]

/-- **A version that is listed has data and files**, both of the first release of this version; and a
version that is not listed has neither. -/
theorem releaseOf_cases (links : Links) (p : Project) (version : String) :
    version ∉ p.versions.map (·.version) ∧ releaseDataOf links (some p) version = .obj [] ∧
      releaseUrlsOf links (some p) version = .arr [] ∨
    ∃ r, p.release? version = some r ∧ r.version = version ∧
      version ∈ p.versions.map (·.version) ∧ releaseDataOf links (some p) version = releaseData links p r ∧
      releaseUrlsOf links (some p) version = .arr (r.files.map (fileData links)) := by
  have hlisted := @Catalog.mem_map_version_iff p version
  cases hr : p.release? version with
  | none =>
    rw [hr] at hlisted
    exact .inl ⟨by simpa using hlisted, by rw [releaseDataOf, hr],
      by rw [releaseUrlsOf, Option.bind_some, hr]⟩
  | some r =>
    have hversion : r.version = version := by simpa using List.find?_some hr
    exact .inr ⟨r, rfl, hversion, hlisted.mpr ⟨r, hr⟩,
      by rw [releaseDataOf, hr], by rw [releaseUrlsOf, Option.bind_some, hr]⟩

/-- **The queries about releases agree with each other.** For a project that is unknown, both listings
are empty. For one that is known, the listing of all versions is newest first, and the listing of the
latest one holds the version of the first release in it that was not withdrawn; it is empty only if
all were withdrawn. A version is in the listing of all exactly if it has data that are not empty. Then
these are the data of the first release of the version that was loaded; they hold the version as it
was asked for and a name with the same canonical form, and the files that are listed are all those of
this release, in order, with all that is told of a file. Otherwise no files are listed. -/
theorem release_methods_agree (d : Catalog.Document) (links : Links) (call : Call)
    (name version : String) :
    let c := Catalog.ofDocument d
    let all := Query.packageReleases.replyTo c links call [.str name, .bool true]
    let latest := Query.packageReleases.replyTo c links call [.str name]
    let data := Query.releaseData.replyTo c links call [.str name, .str version]
    let urls := Query.releaseUrls.replyTo c links call [.str name, .str version]
    let row : Catalog.File → Json := fun f => .obj [
      ("filename", .str f.filename), ("packagetype", .str f.packageType),
      ("python_version", .str f.pythonVersion), ("size", .ofUInt64 f.size),
      ("md5_digest", .str f.md5Digest), ("sha256_digest", .str f.sha256Digest),
      ("digests", .obj [("md5", .str f.md5Digest), ("sha256", .str f.sha256Digest)]),
      ("has_sig", .bool false), ("upload_time", .str f.uploadTime.uploadText),
      ("upload_time_iso_8601", .str f.uploadTime.uploadText),
      ("comment_text", f.commentText.elim .null .str), ("downloads", .ofInt64 (-1)),
      ("path", .str f.path), ("url", .str (links.file f.path))]
    (c.project? name = none → all = .ok (.arr []) ∧ latest = .ok (.arr [])) ∧
    (∀ p, c.project? name = some p → ∃ sorted, IsNewestFirst p.releases sorted ∧
      all = .ok (.ofTexts (sorted.map (·.version))) ∧
      ((∀ r ∈ p.releases, r.yanked = true) ∧ latest = .ok (.arr []) ∨
        ∃ before r behind, sorted = before ++ r :: behind ∧
          (∀ newer ∈ before, newer.yanked = true) ∧ r.yanked = false ∧
          latest = .ok (.ofTexts [r.version]))) ∧
    (latest = .ok (.arr []) ↔ c.project? name = none ∨
      ∃ p, c.project? name = some p ∧ ∀ r ∈ p.releases, r.yanked = true) ∧
    ∃ versions : List String, all = .ok (.ofTexts versions) ∧
      (version ∈ versions ↔ data ≠ .ok (.obj [])) ∧
      (version ∉ versions → urls = .ok (.arr [])) ∧
      (version ∈ versions → ∃ p r fields, c.project? name = some p ∧
        p.releases.find? (fun r => r.version = version) = some r ∧
        data = .ok (.obj fields) ∧ releaseData links p r = .obj fields ∧
        Json.field? "version" fields = some (.str version) ∧
        (∃ shown, Json.field? "name" fields = some (.str shown) ∧
          ProjectName.canonical shown = ProjectName.canonical name) ∧
        urls = .ok (.arr (r.files.map row))) := by
  intro c all latest data urls row
  have hrow : fileData links = row := funext (fileData_eq links)
  have hall : all = .ok (.ofTexts ((c.project? name).elim [] (shownVersions · true))) :=
    Query.replyTo_packageReleases name true
  have hlatest : latest = .ok (.ofTexts ((c.project? name).elim [] (shownVersions · false))) :=
    (Query.replyTo_packageReleases_default name).trans (Query.replyTo_packageReleases name false)
  have hdata : data = .ok (releaseDataOf links (c.project? name) version) :=
    Query.replyTo_releaseData name version
  have hurls : urls = .ok (releaseUrlsOf links (c.project? name) version) :=
    Query.replyTo_releaseUrls name version
  clear_value all latest data urls
  subst hall hlatest hdata hurls
  cases hproject : c.project? name with
  | none =>
    refine ⟨fun _ => ⟨rfl, rfl⟩, nofun, iff_of_true rfl (.inl rfl), [], rfl, ?_, fun _ => rfl, nofun⟩
    exact iff_of_false List.not_mem_nil fun h => h rfl
  | some p =>
    have hname : p.canonicalName = ProjectName.canonical name :=
      Catalog.canonicalName_of_project? hproject
    refine ⟨nofun, ?_, ?_, p.versions.map (·.version), rfl, ?_⟩
    · rintro _ ⟨⟩
      refine ⟨p.versions, Catalog.isNewestFirst_versions p, rfl, ?_⟩
      rcases shownVersions_false_cases p with ⟨hyanked, hshown⟩ |
        ⟨before, r, behind, hsplit, hbefore, hkept, hshown⟩
      · exact .inl ⟨hyanked, by rw [Option.elim_some, hshown]; rfl⟩
      · exact .inr ⟨before, r, behind, hsplit, hbefore, hkept, by rw [Option.elim_some, hshown]⟩
    · simp [Json.ofTexts, shownVersions_false_eq_nil_iff]
    · rcases releaseOf_cases links p version with ⟨hnot, hdata, hurls⟩ |
        ⟨r, hr, rfl, hlisted, hdata, hurls⟩
      · rw [hdata, hurls]
        exact ⟨iff_of_false hnot fun h => h rfl, fun _ => rfl, fun h => absurd h hnot⟩
      · obtain ⟨fields, hfields, hne, hshown, hversion⟩ := exists_fields_releaseData links p r
        rw [hdata, hurls, hrow]
        refine ⟨iff_of_true hlisted ?_, fun h => absurd hlisted h, fun _ =>
          ⟨p, r, fields, rfl, hr, by rw [hfields], hfields, hversion, ⟨p.name, hshown, hname⟩, rfl⟩⟩
        rw [hfields]
        simpa using hne

/-- The newest release was withdrawn, and the version behind it is there twice, the second time with
another file. -/
theorem release_methods_agree_withdrawn :
    let file (filename : String) : Catalog.File :=
      { filename, packageType := "sdist", pythonVersion := "source", size := 3, md5Digest := "0a"
        sha256Digest := "0b", path := filename
        uploadTime := ⟨0, 0, by decide, by decide, by decide, by decide⟩ }
    let p : Project := { name := "Flask_X", releases := [
      { version := "1.0", ordering := 1, summary := some "first", files := [file "a.tar.gz"] },
      { version := "2.0", ordering := 2, yanked := true },
      { version := "1.0", ordering := 1, summary := some "second", files := [file "b.tar.gz"] }] }
    let c := Catalog.ofDocument { projects := [{ name := "flask-x" }, p] }
    let links : Links := ⟨"pypi.test", "https://files.pypi.test/\x7bpath\x7d"⟩
    let call : Call := ⟨"mirror", "pypi", "release_data", {}⟩
    c.project? "FLASK.x" = some p ∧
    Query.packageReleases.replyTo c links call [.str "FLASK.x"] = .ok (.ofTexts ["1.0"]) ∧
    (∃ fields, Query.releaseData.replyTo c links call [.str "FLASK.x", .str "1.0"] = .ok (.obj fields) ∧
      Json.field? "version" fields = some (.str "1.0") ∧
      Json.field? "summary" fields = some (.str "first")) ∧
    ∃ fields, Query.releaseUrls.replyTo c links call [.str "FLASK.x", .str "1.0"] =
        .ok (.arr [.obj fields]) ∧
      Json.field? "filename" fields = some (.str "a.tar.gz") ∧
      Json.field? "url" fields = some (.str "https://files.pypi.test/a.tar.gz") := by
  intro file p c links call
  have hproject : c.project? "FLASK.x" = some p := by
    rw [Catalog.project?_ofDocument]
    decide +kernel
  obtain ⟨-, hknown, -, versions, -, hdata, -, hlisted⟩ :=
    release_methods_agree { projects := [{ name := "flask-x" }, p] } links call "FLASK.x" "1.0"
  obtain ⟨sorted, hsorted, -, hlatest⟩ := hknown p hproject
  have hlast : "1.0" ∈ versions := by
    rw [hdata, Query.replyTo_releaseData]
    show Except.ok (releaseDataOf links (c.project? "FLASK.x") "1.0") ≠ _
    rw [hproject]
    exact nofun
  obtain ⟨p', r, fields, hp', hr, hfields, hrelease, hversion, -, hurls⟩ := hlisted hlast
  obtain rfl : p = p' := Option.some.inj (hproject.symm.trans hp')
  obtain rfl : _ = r := Option.some.inj hr
  have hurl : links.file "a.tar.gz" = "https://files.pypi.test/a.tar.gz" := by decide +kernel
  refine ⟨hproject, ?_, ⟨fields, hfields, hversion, ?_⟩, _, hurls, rfl,
    congrArg (some ∘ Json.str) hurl⟩
  · rcases hlatest with ⟨hyanked, -⟩ | ⟨before, r, behind, rfl, -, hkept, hlatest⟩
    · exact absurd hyanked (by decide)
    · have hversion : ∀ r ∈ p.releases, r.yanked = false → r.version = "1.0" := by decide
      have hr : r ∈ p.releases := hsorted.perm.mem_iff.mp (by simp)
      rw [hlatest, hversion r hr hkept]
  · cases hrelease
    rfl

end Legacy

end IndexGateway
