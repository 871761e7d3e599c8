import IndexGateway.Instant.Basic
import IndexGateway.ProjectName

/-!
# What a package index holds

Projects with their releases and files, the roles of users on projects, and a
journal of changes. A release has an ordering that says which release is newer;
several releases may have the same one, and a project may hold a version twice.
-/

namespace IndexGateway.Catalog

/-- A labelled link of a release. -/
structure ProjectLink where
  /-- The label. -/
  label : String
  /-- The address. -/
  url : String
  deriving DecidableEq, Repr

/-- A file of a release. -/
structure File where
  /-- The name of the file. -/
  filename : String
  /-- The kind of package. -/
  packageType : String
  /-- The version of the language for which it is built. -/
  pythonVersion : String
  /-- The size in bytes. -/
  size : UInt64
  /-- A digest of the content. -/
  md5Digest : String
  /-- Another digest of the content. -/
  sha256Digest : String
  /-- When the file was uploaded. -/
  uploadTime : Instant
  /-- A comment. -/
  commentText : Option String := none
  /-- Where the file is stored. -/
  path : String
  deriving DecidableEq, Repr

/-- A release of a project. -/
structure Release where
  /-- The version. -/
  version : String := ""
  /-- The place in the order of releases; a newer release has a larger one. -/
  ordering : Int64 := 0
  /-- Whether the release was withdrawn. -/
  yanked : Bool := false
  /-- A line about the release. -/
  summary : Option String := none
  /-- A text about the release. -/
  description : Option String := none
  /-- The author. -/
  author : Option String := none
  /-- The address of the author. -/
  authorEmail : Option String := none
  /-- The maintainer. -/
  maintainer : Option String := none
  /-- The address of the maintainer. -/
  maintainerEmail : Option String := none
  /-- The home page. -/
  homePage : Option String := none
  /-- Where the release can be had from elsewhere. -/
  downloadUrl : Option String := none
  /-- The licence. -/
  license : Option String := none
  /-- Key words. -/
  keywords : Option String := none
  /-- The platform for which the release is made. -/
  platform : Option String := none
  /-- The versions of the language that are needed. -/
  requiresPython : Option String := none
  /-- Labelled links. -/
  projectUrls : List ProjectLink := []
  /-- Classifiers. -/
  classifiers : List String := []
  /-- Required modules. -/
  requires : List String := []
  /-- Required projects. -/
  requiresDist : List String := []
  /-- Provided modules. -/
  provides : List String := []
  /-- Provided projects. -/
  providesDist : List String := []
  /-- Modules that are superseded. -/
  obsoletes : List String := []
  /-- Projects that are superseded. -/
  obsoletesDist : List String := []
  /-- Requirements outside the index. -/
  requiresExternal : List String := []
  /-- The files. -/
  files : List File := []
  deriving DecidableEq, Repr

/-- A project. -/
structure Project where
  /-- The name as it is displayed. -/
  name : String
  /-- The number of the last change. -/
  lastSerial : Int64 := 0
  /-- The address of the documentation. -/
  documentationUrl : Option String := none
  /-- The releases. -/
  releases : List Release := []
  deriving DecidableEq, Repr

namespace Project

/-- The canonical form of the name. -/
def canonicalName (p : Project) : String := ProjectName.canonical p.name

/-- The releases, newest first; releases with the same ordering stay as they are loaded. -/
def versions (p : Project) : List Release :=
  p.releases.mergeSort fun a b => b.ordering ≤ a.ordering

/-- The newest release that was not withdrawn. -/
def latest? (p : Project) : Option Release := p.versions.find? fun r => !r.yanked

/-- The first release of a version. -/
def release? (p : Project) (version : String) : Option Release :=
  p.releases.find? fun r => r.version = version

end Project

/-- A role of a user on a project. -/
structure Role where
  /-- The name of the role. -/
  roleName : String
  /-- The user. -/
  username : String
  /-- The project, in any spelling. -/
  project : String
  deriving DecidableEq, Repr

/-- A change, as the journal records it. -/
structure JournalEntry where
  /-- The number of the change. -/
  id : Int64
  /-- The project that changed. -/
  name : String
  /-- The version that changed, if the change is about one. -/
  version : Option String := none
  /-- When the change was made. -/
  submitted : Instant
  /-- What was done. -/
  action : String
  deriving DecidableEq, Repr

/-- Everything that is loaded. -/
structure Document where
  /-- The projects. -/
  projects : List Project := []
  /-- The roles. -/
  roles : List Role := []
  /-- The journal. -/
  journal : List JournalEntry := []
  deriving DecidableEq, Repr

end IndexGateway.Catalog
