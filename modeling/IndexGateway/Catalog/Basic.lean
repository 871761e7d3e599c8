import IndexGateway.Catalog.Document
import Std.Data.HashMap

/-!
# A package index in memory

An index answers questions about the projects, the roles and the journal that were
loaded into it. It holds one project for each canonical name: of several that are
loaded, the last takes the place of the first. The journal is ordered by the
numbers of the changes.

## The model

The projects are listed in the order in which their canonical names appeared
first, and a table leads from a canonical name to the place in that list.
-/

namespace IndexGateway

/-- A package index. -/
structure Catalog where
  /-- The projects, one for each canonical name. -/
  projects : Array Catalog.Project
  /-- The place of the project of a canonical name. -/
  slots : Std.HashMap String Nat
  /-- The roles, as they were loaded. -/
  roles : List Catalog.Role
  /-- The journal, by increasing numbers. -/
  journal : List Catalog.JournalEntry

namespace Catalog

/-- Why an index gives no answer. -/
inductive Error where
  /-- The index cannot be reached. -/
  | unavailable (reason : String)
  /-- The index is damaged. -/
  | corrupt (reason : String)
  deriving DecidableEq, Repr

/-- The text for an error. -/
def Error.message : Error → String
  | .unavailable reason => "index unavailable: " ++ reason
  | .corrupt reason => "corrupt index data: " ++ reason

/-- An index without content. -/
def empty : Catalog := { projects := #[], slots := ∅, roles := [], journal := [] }

/-- Takes up a project, in the place of one with the same canonical name. -/
def place (c : Catalog) (p : Project) : Catalog :=
  match c.slots[p.canonicalName]? with
  | some slot => { c with projects := c.projects.setIfInBounds slot p }
  | none => { c with
      projects := c.projects.push p
      slots := c.slots.insert p.canonicalName c.projects.size }

/-- The index of a document. -/
def ofDocument (d : Document) : Catalog :=
  let journal := d.journal.mergeSort fun a b => a.id ≤ b.id
  d.projects.foldl place { empty with roles := d.roles, journal }

/-- The index of a document's text. -/
def ofText (text : String) : Except Error Catalog :=
  match Document.ofText? text with
  | some d => .ok (ofDocument d)
  | none => .error (.corrupt "not an index document")

/-! ### Questions -/

/-- The number of projects. -/
def size (c : Catalog) : Nat := c.projects.size

/-- Whether there are no projects. -/
def isEmpty (c : Catalog) : Bool := c.projects.isEmpty

/-- The displayed names of the projects. -/
def projectNames (c : Catalog) : List String := c.projects.toList.map (·.name)

/-- The displayed names of the projects with the numbers of their last changes. -/
def projectSerials (c : Catalog) : List (String × Int64) :=
  c.projects.toList.map fun p => (p.name, p.lastSerial)

/-- The project of a name, in any spelling. -/
def project? (c : Catalog) (name : String) : Option Project :=
  match c.slots[ProjectName.canonical name]? with
  | some slot => c.projects[slot]?
  | none => none

/-- The order of a user's roles: by decreasing names, then by increasing projects. -/
def beforeForUser (a b : Role) : Bool :=
  b.roleName < a.roleName || (a.roleName = b.roleName && a.project ≤ b.project)

/-- The roles of a user. -/
def userRoles (c : Catalog) (username : String) : List Role :=
  (c.roles.filter fun r => r.username = username).mergeSort beforeForUser

/-- The order of a project's roles: by decreasing names, then by increasing users. -/
def beforeForProject (a b : Role) : Bool :=
  b.roleName < a.roleName || (a.roleName = b.roleName && a.username ≤ b.username)

/-- The roles on a project, in any spelling of its name. -/
def projectRoles (c : Catalog) (name : String) : List Role :=
  let wanted := ProjectName.canonical name
  (c.roles.filter fun r => ProjectName.canonical r.project = wanted).mergeSort beforeForProject

/-- The number of the last change. -/
def lastSerial (c : Catalog) : Option Int64 := c.journal.getLast?.map (·.id)

/-- The first changes behind a number, at most so many. -/
def journalSinceSerial (c : Catalog) (serial : Int64) (limit : Nat) : List JournalEntry :=
  (c.journal.filter fun e => serial < e.id).take limit

/-- The first changes made after an instant, at most so many. -/
def journalSince (c : Catalog) (since : Instant) (limit : Nat) : List JournalEntry :=
  (c.journal.filter fun e => e.submitted.isAfter since).take limit

/-- Whether a release carries as many of some classifiers as are asked for; a list that is empty or
repeats itself asks for more than any release carries. -/
def carriesAll (classifiers : List String) (r : Release) : Bool :=
  let carried := (r.classifiers.filter (· ∈ classifiers)).eraseDups
  !classifiers.isEmpty && carried.length = classifiers.length

/-- The order of names and versions. -/
def pairLe (a b : String × String) : Bool := a.1 < b.1 || (a.1 = b.1 && a.2 ≤ b.2)

/-- The projects and versions of the releases that carry all of some classifiers, in order and each
once. -/
def releasesWithClassifiers (c : Catalog) (classifiers : List String) : List (String × String) :=
  let found := c.projects.toList.flatMap fun p =>
    (p.releases.filter (carriesAll classifiers)).map fun r => (p.name, r.version)
  (found.mergeSort pairLe).eraseReps

end Catalog

end IndexGateway
