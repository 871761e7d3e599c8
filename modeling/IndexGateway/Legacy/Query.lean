import IndexGateway.Catalog.Basic
import IndexGateway.Gateway.Method
import IndexGateway.Instant.Printer
import IndexGateway.Legacy.Links

/-!
# Queries

The methods that answer from the package index. A query takes its arguments, asks
the index and lays out what it finds as a value. An index may be out of reach;
every question to it then fails with the same error.
-/

namespace IndexGateway

/-- A package index, or the error with which every question to it fails. -/
abbrev Catalog.Source := Except Catalog.Error Catalog

namespace Legacy

/-! ### Layout -/

/-- The number of journal entries that one answer holds at most. -/
def changelogLimit : Nat := 50000

/-- Minus one, which stands for a number that is not counted any more. -/
def uncounted : Json := .ofInt64 (-1)

/-- The data of a release. -/
def releaseData (links : Links) (p : Catalog.Project) (r : Catalog.Release) : Json :=
  .obj [
    ("name", .str p.name),
    ("version", .str r.version),
    ("stable_version", .null),
    ("bugtrack_url", .null),
    ("package_url", .str (links.project p.name)),
    ("release_url", .str (links.release p.name r.version)),
    ("docs_url", .ofText? p.documentationUrl),
    ("home_page", .ofText? r.homePage),
    ("download_url", .ofText? r.downloadUrl),
    ("project_url", .ofTexts (r.projectUrls.map fun l => l.label ++ ", " ++ l.url)),
    ("author", .ofText? r.author),
    ("author_email", .ofText? r.authorEmail),
    ("maintainer", .ofText? r.maintainer),
    ("maintainer_email", .ofText? r.maintainerEmail),
    ("summary", .ofText? r.summary),
    ("description", .ofText? r.description),
    ("license", .ofText? r.license),
    ("keywords", .ofText? r.keywords),
    ("platform", .ofText? r.platform),
    ("classifiers", .ofTexts r.classifiers),
    ("requires", .ofTexts r.requires),
    ("requires_dist", .ofTexts r.requiresDist),
    ("provides", .ofTexts r.provides),
    ("provides_dist", .ofTexts r.providesDist),
    ("obsoletes", .ofTexts r.obsoletes),
    ("obsoletes_dist", .ofTexts r.obsoletesDist),
    ("requires_python", .ofText? r.requiresPython),
    ("requires_external", .ofTexts r.requiresExternal),
    ("_pypi_ordering", .ofInt64 r.ordering),
    ("downloads", .obj
      [("last_day", uncounted), ("last_week", uncounted), ("last_month", uncounted)]),
    ("cheesecake_code_kwalitee_id", .null),
    ("cheesecake_documentation_id", .null),
    ("cheesecake_installability_id", .null)]

/-- The data of a file. -/
def fileData (links : Links) (f : Catalog.File) : Json :=
  .obj [
    ("filename", .str f.filename),
    ("packagetype", .str f.packageType),
    ("python_version", .str f.pythonVersion),
    ("size", .ofUInt64 f.size),
    ("md5_digest", .str f.md5Digest),
    ("sha256_digest", .str f.sha256Digest),
    ("digests", .obj [("md5", .str f.md5Digest), ("sha256", .str f.sha256Digest)]),
    ("has_sig", .bool false),
    ("upload_time", .str f.uploadTime.uploadText),
    ("upload_time_iso_8601", .str f.uploadTime.uploadText),
    ("comment_text", .ofText? f.commentText),
    ("downloads", uncounted),
    ("path", .str f.path),
    ("url", .str (links.file f.path))]

/-- A journal entry as a row: name, version, second and action, and its number if it is wanted. -/
def changelogRow (withId : Bool) (e : Catalog.JournalEntry) : Json :=
  .arr ([.str e.name, .ofText? e.version, .ofInt64 (Int64.ofInt e.submitted.seconds),
    .str e.action] ++ if withId then [.ofInt64 e.id] else [])

/-- A row of two texts. -/
def pair (a b : String) : Json := .ofTexts [a, b]

/-! ### Questions to the index -/

/-- The names of all projects. -/
def listPackages (c : Catalog) : Json := .ofTexts c.projectNames

/-- The names of all projects with the numbers of their last changes. -/
def listPackagesWithSerial (c : Catalog) : Json :=
  .obj (Json.collectFields (c.projectSerials.map fun (name, serial) => (name, .ofInt64 serial)))

/-- The roles of a user, with the projects. -/
def userPackages (c : Catalog) (username : String) : Json :=
  .arr ((c.userRoles username).map fun r => pair r.roleName r.project)

/-- The versions of a project that are shown: the latest, or all of them, newest first. -/
def shownVersions (p : Catalog.Project) (showHidden : Bool) : List String :=
  (if showHidden then p.versions else p.latest?.toList).map (·.version)

/-- The data of a version of a project, or nothing if the project has no such version. -/
def releaseDataOf (links : Links) (project? : Option Catalog.Project) (version : String) : Json :=
  match project? with
  | none => .obj []
  | some p =>
    match p.release? version with
    | none => .obj []
    | some r => releaseData links p r

/-- The files of a version of a project. -/
def releaseUrlsOf (links : Links) (project? : Option Catalog.Project) (version : String) : Json :=
  match project?.bind (·.release? version) with
  | none => .arr []
  | some r => .arr (r.files.map (fileData links))

/-- The roles on a project, with the users. -/
def packageRoles (c : Catalog) (name : String) : Json :=
  .arr ((c.projectRoles name).map fun r => pair r.roleName r.username)

/-- The number of the last change. -/
def changelogLastSerial (c : Catalog) : Json :=
  match c.lastSerial with
  | none => .null
  | some serial => .ofInt64 serial

/-- The first changes behind a number. -/
def changelogSinceSerial (c : Catalog) (serial : Int64) : Json :=
  .arr ((c.journalSinceSerial serial changelogLimit).map (changelogRow true))

/-- The first changes after an instant. -/
def changelog (c : Catalog) (since : Instant) (withIds : Bool) : Json :=
  .arr ((c.journalSince since changelogLimit).map (changelogRow withIds))

/-- The releases that carry all of some classifiers. -/
def browse (c : Catalog) (classifiers : List String) : Json :=
  .arr ((c.releasesWithClassifiers classifiers).map fun (name, version) => pair name version)

/-! ### Answers -/

/-- The queries. -/
inductive Query where
  /-- The names of all projects. -/
  | listPackages
  /-- The names of all projects with the numbers of their last changes. -/
  | listPackagesWithSerial
  /-- Where the files of a project are hosted, which is the same for all. -/
  | packageHostingMode
  /-- The roles of a user. -/
  | userPackages
  /-- The versions of a project. -/
  | packageReleases
  /-- The data of a release. -/
  | releaseData
  /-- The files of a release. -/
  | releaseUrls
  /-- The roles on a project. -/
  | packageRoles
  /-- The number of the last change. -/
  | changelogLastSerial
  /-- The changes behind a number. -/
  | changelogSinceSerial
  /-- The changes after a time. -/
  | changelog
  /-- The releases that carry some classifiers. -/
  | browse
  deriving DecidableEq, Repr

namespace Query

/-- Why a query has no result. -/
inductive Failure where
  /-- An argument cannot be used. -/
  | argument (fault : Fault)
  /-- The index gave no answer. -/
  | index (e : Catalog.Error)
  deriving DecidableEq, Repr

/-- Uses an argument. -/
def argument {α : Type} : Except Fault α → Except Failure α
  | .ok a => .ok a
  | .error fault => .error (.argument fault)

/-- Asks the index. -/
def ask {α : Type} (source : Catalog.Source) (question : Catalog → α) : Except Failure α :=
  match source with
  | .ok c => .ok (question c)
  | .error e => .error (.index e)

/-- The fault for a time that no instant has. -/
def outOfRange (seconds : Int64) : Fault :=
  .wrapped .value
    ("timestamp " ++ String.ofList (Text.Numeral.ofInt seconds.toInt) ++ " is out of range")

/-- The instant of a number of seconds. -/
def instantOf (seconds : Int64) : Except Failure Instant :=
  match Instant.ofSeconds? seconds.toInt with
  | some t => .ok t
  | none => .error (.argument (outOfRange seconds))

/-- The project that the arguments name. -/
def projectOf (source : Catalog.Source) (args : Arguments) :
    Except Failure (Option Catalog.Project) := do
  let name ← argument (args.text "package_name")
  ask source (·.project? name)

/-- The result of a query. -/
def result (source : Catalog.Source) (links : Links) (args : Arguments) :
    Query → Except Failure Json
  | listPackages => ask source Legacy.listPackages
  | listPackagesWithSerial => ask source Legacy.listPackagesWithSerial
  | packageHostingMode => .ok (.str "pypi-only")
  | userPackages => do
    let username ← argument (args.text "username")
    ask source (Legacy.userPackages · username)
  | packageReleases => do
    match ← projectOf source args with
    | none => return .arr []
    | some p =>
      let showHidden ← argument (args.bool "show_hidden")
      return .ofTexts (shownVersions p showHidden)
  | releaseData => do
    let version ← argument (args.text "version")
    let project? ← projectOf source args
    return releaseDataOf links project? version
  | releaseUrls => do
    let version ← argument (args.text "version")
    let project? ← projectOf source args
    return releaseUrlsOf links project? version
  | packageRoles => do
    let name ← argument (args.text "package_name")
    ask source (Legacy.packageRoles · name)
  | changelogLastSerial => ask source Legacy.changelogLastSerial
  | changelogSinceSerial => do
    let serial ← argument (args.int "serial")
    ask source (Legacy.changelogSinceSerial · serial)
  | changelog => do
    let seconds ← argument (args.int "since")
    let withIds ← argument (args.bool "with_ids")
    let since ← instantOf seconds
    ask source (Legacy.changelog · since withIds)
  | browse => do
    let classifiers ← argument (args.texts "classifiers")
    ask source (Legacy.browse · classifiers)

/-- What is logged about an index that gave no answer. -/
def lookupEntry (method : String) (e : Catalog.Error) : Log.Entry :=
  ⟨.warn, "package index lookup failed", [("method", .str method), ("err", .str e.message)]⟩

/-- The handler of a query. An index that gives no answer is reported, and the caller gets a fault
with the text of the error. -/
def handler (source : Catalog.Source) (links : Links) (q : Query) : Handler := fun call args =>
  match q.result source links args with
  | .ok v => { outcome := .ok v }
  | .error (.argument fault) => { outcome := .error fault }
  | .error (.index e) =>
    { outcome := .error (.wrapped .lookup e.message), log := [lookupEntry call.method e] }

end Query

end Legacy

end IndexGateway
