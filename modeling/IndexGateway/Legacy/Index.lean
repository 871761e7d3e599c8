import IndexGateway.Legacy.Table

/-!
# Any package index

The queries know a package index by what it answers: there are nine questions, each
answered or failed on its own. Here the queries are told over an index of any kind. An
index that is held in memory, or that is out of reach for every question, is one of
them (`Index.ofSource`), and over it they are the queries of the table
(`Query.handlerOver_ofSource`).
-/

namespace IndexGateway.Legacy

open Catalog

/-- **What a package index answers**, or the error with which a question fails. -/
structure Index where
  /-- The names of all projects. -/
  projectNames : Except Catalog.Error (List String)
  /-- The names of all projects with the numbers of their last changes. -/
  projectSerials : Except Catalog.Error (List (String × Int64))
  /-- The project of a name. -/
  project? : String → Except Catalog.Error (Option Project)
  /-- The roles of a user. -/
  userRoles : String → Except Catalog.Error (List Role)
  /-- The roles on a project. -/
  projectRoles : String → Except Catalog.Error (List Role)
  /-- The number of the last change. -/
  lastSerial : Except Catalog.Error (Option Int64)
  /-- The first changes behind a number, at most so many. -/
  journalSinceSerial : Int64 → Nat → Except Catalog.Error (List JournalEntry)
  /-- The first changes after an instant, at most so many. -/
  journalSince : Instant → Nat → Except Catalog.Error (List JournalEntry)
  /-- The projects and versions of the releases that carry some classifiers. -/
  releasesWithClassifiers : List String → Except Catalog.Error (List (String × String))

/-- An index in memory, or one that gives no answer. -/
def Index.ofSource (source : Catalog.Source) : Index where
  projectNames := source.map (·.projectNames)
  projectSerials := source.map (·.projectSerials)
  project? name := source.map (·.project? name)
  userRoles username := source.map (·.userRoles username)
  projectRoles name := source.map (·.projectRoles name)
  lastSerial := source.map (·.lastSerial)
  journalSinceSerial serial limit := source.map (·.journalSinceSerial serial limit)
  journalSince since limit := source.map (·.journalSince since limit)
  releasesWithClassifiers classifiers := source.map (·.releasesWithClassifiers classifiers)

namespace Query

/-- Uses an answer of the index. -/
def answer {α : Type} : Except Catalog.Error α → Except Failure α
  | .ok a => .ok a
  | .error e => .error (.index e)

/-- The project that the arguments name, looked up in an index. -/
def projectIn (index : Index) (args : Arguments) : Except Failure (Option Project) := do
  let name ← argument (args.text "package_name")
  answer (index.project? name)

/-- The result of a query over an index. -/
def resultOver (index : Index) (links : Links) (args : Arguments) : Query → Except Failure Json
  | listPackages => do
    let names ← answer index.projectNames
    return .ofTexts names
  | listPackagesWithSerial => do
    let serials ← answer index.projectSerials
    return .obj (Json.collectFields (serials.map fun (name, serial) => (name, .ofInt64 serial)))
  | packageHostingMode => return .str "pypi-only"
  | userPackages => do
    let username ← argument (args.text "username")
    let roles ← answer (index.userRoles username)
    return .arr (roles.map fun r => pair r.roleName r.project)
  | packageReleases => do
    match ← projectIn index args with
    | none => return .arr []
    | some p =>
      let showHidden ← argument (args.bool "show_hidden")
      return .ofTexts (shownVersions p showHidden)
  | releaseData => do
    let version ← argument (args.text "version")
    let project? ← projectIn index args
    return releaseDataOf links project? version
  | releaseUrls => do
    let version ← argument (args.text "version")
    let project? ← projectIn index args
    return releaseUrlsOf links project? version
  | packageRoles => do
    let name ← argument (args.text "package_name")
    let roles ← answer (index.projectRoles name)
    return .arr (roles.map fun r => pair r.roleName r.username)
  | changelogLastSerial => do
    match ← answer index.lastSerial with
    | none => return .null
    | some serial => return .ofInt64 serial
  | changelogSinceSerial => do
    let serial ← argument (args.int "serial")
    let entries ← answer (index.journalSinceSerial serial changelogLimit)
    return .arr (entries.map (changelogRow true))
  | changelog => do
    let seconds ← argument (args.int "since")
    let withIds ← argument (args.bool "with_ids")
    let since ← instantOf seconds
    let entries ← answer (index.journalSince since changelogLimit)
    return .arr (entries.map (changelogRow withIds))
  | browse => do
    let classifiers ← argument (args.texts "classifiers")
    let releases ← answer (index.releasesWithClassifiers classifiers)
    return .arr (releases.map fun (name, version) => pair name version)

/-- The handler of a query over an index. -/
def handlerOver (index : Index) (links : Links) (q : Query) : Handler := fun call args =>
  match q.resultOver index links args with
  | .ok v => { outcome := .ok v }
  | .error (.argument fault) => { outcome := .error fault }
  | .error (.index e) =>
    { outcome := .error (.wrapped .lookup e.message), log := [lookupEntry call.method e] }

end Query

end IndexGateway.Legacy
