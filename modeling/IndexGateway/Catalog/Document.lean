import IndexGateway.Catalog.Model
import IndexGateway.Instant.Parser
import IndexGateway.Instant.Printer
import IndexGateway.Json.Outline
import IndexGateway.Json.Printer

/-!
# Documents of a package index

A package index is loaded from a JSON document and can be written as one. A record
is written as an object with all its fields. It is read from an object, in which
fields that have a default may be missing, fields that are not the record's own are
skipped and no field may be given twice; or from a list of the fields in their
order, of which the last may be missing. A field that may be absent accepts null;
no other does.
-/

namespace IndexGateway.Catalog

open Json (Outline)

/-! ### Reading fields -/

namespace Field

/-- The values given for a name. -/
def given (name : String) (entries : List (Option String × Outline)) : List Outline :=
  entries.filterMap fun (key, value) => if key = some name then some value else none

/-- The values of the named fields of a record, in the order of the names. -/
def record (names : List String) : Outline → Option (List (Option Outline))
  | .arr items =>
    if items.length ≤ names.length then
      some (items.map some ++ List.replicate (names.length - items.length) none)
    else none
  | .obj entries =>
    if entries.all fun e => e.1.isSome then
      names.mapM fun name =>
        match given name entries with
        | [] => some none
        | [value] => some (some value)
        | _ => none
    else none
  | _ => none

/-- A field that must be given. -/
def required {α : Type} (read : Outline → Option α) : Option Outline → Option α
  | none => none
  | some value => read value

/-- A field that has a default. -/
def withDefault {α : Type} (default : α) (read : Outline → Option α) : Option Outline → Option α
  | none => some default
  | some value => read value

/-- A text. -/
def text : Outline → Option String
  | .str s? => s?
  | _ => none

/-- A text or null. -/
def text? : Outline → Option (Option String)
  | .null => some none
  | .str (some s) => some (some s)
  | _ => none

/-- A truth value. -/
def bool : Outline → Option Bool
  | .bool b => some b
  | _ => none

/-- A whole number of the signed 64-bit range. -/
def int64 : Outline → Option Int64
  | .num (some (.int n)) => n.toInt64?
  | _ => none

/-- A whole number of the unsigned 64-bit range. -/
def uint64 : Outline → Option UInt64
  | .num (some (.int n)) => n.toUInt64?
  | _ => none

/-- An instant. -/
def instant : Outline → Option Instant
  | .str (some s) => Instant.ofText? s
  | _ => none

/-- A list. -/
def list {α : Type} (read : Outline → Option α) : Outline → Option (List α)
  | .arr items => items.mapM read
  | _ => none

end Field

/-! ### Records -/

/-- A labelled link as a value. -/
def ProjectLink.toJson (l : ProjectLink) : Json := .obj [("label", .str l.label), ("url", .str l.url)]

/-- Reads a labelled link. -/
def ProjectLink.read (o : Outline) : Option ProjectLink := do
  let [label, url] ← Field.record ["label", "url"] o | none
  return {
    label := ← Field.required Field.text label
    url := ← Field.required Field.text url }

/-- The names of a file's fields. -/
def File.fieldNames : List String :=
  ["filename", "packagetype", "python_version", "size", "md5_digest", "sha256_digest",
    "upload_time", "comment_text", "path"]

/-- A file as a value. -/
def File.toJson (f : File) : Json :=
  .obj (File.fieldNames.zip [.str f.filename, .str f.packageType, .str f.pythonVersion,
    .ofUInt64 f.size, .str f.md5Digest, .str f.sha256Digest, .str f.uploadTime.text,
    .ofText? f.commentText, .str f.path])

/-- Reads a file. -/
def File.read (o : Outline) : Option File := do
  let [filename, packageType, pythonVersion, size, md5, sha256, uploaded, comment, path] ←
    Field.record File.fieldNames o | none
  return {
    filename := ← Field.required Field.text filename
    packageType := ← Field.required Field.text packageType
    pythonVersion := ← Field.required Field.text pythonVersion
    size := ← Field.required Field.uint64 size
    md5Digest := ← Field.required Field.text md5
    sha256Digest := ← Field.required Field.text sha256
    uploadTime := ← Field.required Field.instant uploaded
    commentText := ← Field.withDefault none Field.text? comment
    path := ← Field.required Field.text path }

/-- The names of a release's fields. -/
def Release.fieldNames : List String :=
  ["version", "ordering", "yanked", "summary", "description", "author", "author_email",
    "maintainer", "maintainer_email", "home_page", "download_url", "license", "keywords",
    "platform", "requires_python", "project_urls", "classifiers", "requires", "requires_dist",
    "provides", "provides_dist", "obsoletes", "obsoletes_dist", "requires_external", "files"]

/-- A release as a value. -/
def Release.toJson (r : Release) : Json :=
  .obj (Release.fieldNames.zip [.str r.version, .ofInt64 r.ordering, .bool r.yanked,
    .ofText? r.summary, .ofText? r.description, .ofText? r.author, .ofText? r.authorEmail,
    .ofText? r.maintainer, .ofText? r.maintainerEmail, .ofText? r.homePage, .ofText? r.downloadUrl,
    .ofText? r.license, .ofText? r.keywords, .ofText? r.platform, .ofText? r.requiresPython,
    .arr (r.projectUrls.map ProjectLink.toJson), .ofTexts r.classifiers, .ofTexts r.requires,
    .ofTexts r.requiresDist, .ofTexts r.provides, .ofTexts r.providesDist, .ofTexts r.obsoletes,
    .ofTexts r.obsoletesDist, .ofTexts r.requiresExternal, .arr (r.files.map File.toJson)])

/-- Reads a release. -/
def Release.read (o : Outline) : Option Release := do
  let [version, ordering, yanked, summary, description, author, authorEmail, maintainer,
    maintainerEmail, homePage, downloadUrl, license, keywords, platform, requiresPython,
    projectUrls, classifiers, requires, requiresDist, provides, providesDist, obsoletes,
    obsoletesDist, requiresExternal, files] ← Field.record Release.fieldNames o | none
  let optional := Field.withDefault none Field.text?
  let texts := Field.withDefault [] (Field.list Field.text)
  return {
    version := ← Field.withDefault "" Field.text version
    ordering := ← Field.withDefault 0 Field.int64 ordering
    yanked := ← Field.withDefault false Field.bool yanked
    summary := ← optional summary
    description := ← optional description
    author := ← optional author
    authorEmail := ← optional authorEmail
    maintainer := ← optional maintainer
    maintainerEmail := ← optional maintainerEmail
    homePage := ← optional homePage
    downloadUrl := ← optional downloadUrl
    license := ← optional license
    keywords := ← optional keywords
    platform := ← optional platform
    requiresPython := ← optional requiresPython
    projectUrls := ← Field.withDefault [] (Field.list ProjectLink.read) projectUrls
    classifiers := ← texts classifiers
    requires := ← texts requires
    requiresDist := ← texts requiresDist
    provides := ← texts provides
    providesDist := ← texts providesDist
    obsoletes := ← texts obsoletes
    obsoletesDist := ← texts obsoletesDist
    requiresExternal := ← texts requiresExternal
    files := ← Field.withDefault [] (Field.list File.read) files }

/-- The names of a project's fields. -/
def Project.fieldNames : List String := ["name", "last_serial", "documentation_url", "releases"]

/-- A project as a value. -/
def Project.toJson (p : Project) : Json :=
  .obj (Project.fieldNames.zip [.str p.name, .ofInt64 p.lastSerial, .ofText? p.documentationUrl,
    .arr (p.releases.map Release.toJson)])

/-- Reads a project. -/
def Project.read (o : Outline) : Option Project := do
  let [name, lastSerial, documentationUrl, releases] ← Field.record Project.fieldNames o | none
  return {
    name := ← Field.required Field.text name
    lastSerial := ← Field.withDefault 0 Field.int64 lastSerial
    documentationUrl := ← Field.withDefault none Field.text? documentationUrl
    releases := ← Field.withDefault [] (Field.list Release.read) releases }

/-- The names of a role's fields. -/
def Role.fieldNames : List String := ["role_name", "username", "project"]

/-- A role as a value. -/
def Role.toJson (r : Role) : Json :=
  .obj (Role.fieldNames.zip [.str r.roleName, .str r.username, .str r.project])

/-- Reads a role. -/
def Role.read (o : Outline) : Option Role := do
  let [roleName, username, project] ← Field.record Role.fieldNames o | none
  return {
    roleName := ← Field.required Field.text roleName
    username := ← Field.required Field.text username
    project := ← Field.required Field.text project }

/-- The names of a journal entry's fields. -/
def JournalEntry.fieldNames : List String := ["id", "name", "version", "submitted_date", "action"]

/-- A journal entry as a value. -/
def JournalEntry.toJson (e : JournalEntry) : Json :=
  .obj (JournalEntry.fieldNames.zip [.ofInt64 e.id, .str e.name, .ofText? e.version,
    .str e.submitted.text, .str e.action])

/-- Reads a journal entry. -/
def JournalEntry.read (o : Outline) : Option JournalEntry := do
  let [id, name, version, submitted, action] ← Field.record JournalEntry.fieldNames o | none
  return {
    id := ← Field.required Field.int64 id
    name := ← Field.required Field.text name
    version := ← Field.withDefault none Field.text? version
    submitted := ← Field.required Field.instant submitted
    action := ← Field.required Field.text action }

/-- The names of a document's fields. -/
def Document.fieldNames : List String := ["projects", "roles", "journal"]

/-- A document as a value. -/
def Document.toJson (d : Document) : Json :=
  .obj (Document.fieldNames.zip [.arr (d.projects.map Project.toJson),
    .arr (d.roles.map Role.toJson), .arr (d.journal.map JournalEntry.toJson)])

/-- Reads a document. -/
def Document.read (o : Outline) : Option Document := do
  let [projects, roles, journal] ← Field.record Document.fieldNames o | none
  return {
    projects := ← Field.withDefault [] (Field.list Project.read) projects
    roles := ← Field.withDefault [] (Field.list Role.read) roles
    journal := ← Field.withDefault [] (Field.list JournalEntry.read) journal }

/-- The text of a document. -/
def Document.text (d : Document) : String := d.toJson.compact

/-- The document that a text stands for. -/
def Document.ofText? (text : String) : Option Document :=
  match Outline.ofChars? text.toList with
  | none => none
  | some outline => Document.read outline

end IndexGateway.Catalog
