import IndexGateway.Proofs.Catalog.Projects
import IndexGateway.Proofs.Legacy.Replies
import Mathlib.Data.Prod.Lex
import Mathlib.Data.String.Basic

/-!
# Listings of roles

An index has one table of roles and lists it in two ways: the roles of a user, with the
projects, and the roles on a project, with the users. A user is matched as written, a
project by its canonical name; both listings are sorted by the name of the role, the
largest first, and then by what is shown beside it.

## What is proved

A row of a listing tells the key by which its role was sorted (`Role.key`). So the rows are
the same however the table was ordered when it was loaded (`rows_mergeSort_of_perm`),
although the roles behind equal rows may be different ones: two roles of a user on
different spellings of a project look the same where the project is listed.

Both listings count the roles of the same user and name on any spelling of the project
(`countP_userRows`, `count_projectRows`). That is all that `role_listings_agree` needs to
lead from a row of one listing to a row of the other.
-/

namespace IndexGateway

namespace Catalog

variable {c c' : Catalog} {roles roles' : List Role}

/-! ### Sorting -/

section Sorting

variable {before : Role → Role → Bool} {shown : Role → String}

/-- What roles are sorted by, if this is shown beside their names. -/
def Role.key (shown : Role → String) (r : Role) : Stringᵒᵈ ×ₗ String :=
  toLex (OrderDual.toDual r.roleName, shown r)

/-- The rows that list some roles. -/
def rows (shown : Role → String) (roles : List Role) : List (String × String) :=
  roles.map fun r => (r.roleName, shown r)

theorem comparesBy_beforeForUser : ComparesBy beforeForUser (Role.key (·.project)) := by
  intro a b
  simp [beforeForUser, Role.key, Prod.Lex.toLex_le_toLex]

theorem comparesBy_beforeForProject : ComparesBy beforeForProject (Role.key (·.username)) := by
  intro a b
  simp [beforeForProject, Role.key, Prod.Lex.toLex_le_toLex]

/-- Sorted roles go by decreasing names, and then by what is shown beside them. -/
theorem pairwise_mergeSort_roles (h : ComparesBy before (Role.key shown)) (roles : List Role) :
    (roles.mergeSort before).Pairwise fun a b =>
      b.roleName < a.roleName ∨ a.roleName = b.roleName ∧ shown a ≤ shown b := by
  refine (h.pairwise_mergeSort roles).imp fun hle => ?_
  simpa using Prod.Lex.toLex_le_toLex.mp hle

/-- **The rows of sorted roles do not depend on the order of the table.** -/
theorem rows_mergeSort_of_perm (h : ComparesBy before (Role.key shown)) (hperm : roles.Perm roles') :
    rows shown (roles.mergeSort before) = rows shown (roles'.mergeSort before) := by
  have hrows (roles : List Role) : rows shown roles =
      (roles.map (Role.key shown)).map fun k => (OrderDual.ofDual (ofLex k).1, (ofLex k).2) := by
    rw [List.map_map]
    rfl
  rw [hrows, hrows, h.map_mergeSort_of_perm hperm]

end Sorting

/-! ### Listings -/

/-- The rows that list the roles of a user. -/
def userRows (c : Catalog) (username : String) : List (String × String) :=
  rows (·.project) (c.userRoles username)

/-- The rows that list the roles on a project. -/
def projectRows (c : Catalog) (name : String) : List (String × String) :=
  rows (·.username) (c.projectRoles name)

theorem userRoles_perm (c : Catalog) (username : String) :
    (c.userRoles username).Perm (c.roles.filter (·.username = username)) :=
  List.mergeSort_perm _ _

theorem projectRoles_perm (c : Catalog) (name : String) : (c.projectRoles name).Perm
    (c.roles.filter fun r => ProjectName.canonical r.project = ProjectName.canonical name) :=
  List.mergeSort_perm _ _

theorem userRows_eq_of_perm (h : c.roles.Perm c'.roles) (username : String) :
    c.userRows username = c'.userRows username :=
  rows_mergeSort_of_perm comparesBy_beforeForUser (h.filter _)

theorem projectRows_eq_of_perm (h : c.roles.Perm c'.roles) (name : String) :
    c.projectRows name = c'.projectRows name :=
  rows_mergeSort_of_perm comparesBy_beforeForProject (h.filter _)

/-- A row for a user stands for the roles of this user and name on some spelling of the project. -/
theorem countP_userRows (c : Catalog) (username roleName name : String) :
    ((c.userRows username).countP fun row =>
      row.1 = roleName ∧ ProjectName.canonical row.2 = ProjectName.canonical name) =
    c.roles.countP fun r => r.roleName = roleName ∧ r.username = username ∧
      ProjectName.canonical r.project = ProjectName.canonical name := by
  rw [userRows, rows, List.countP_map, (userRoles_perm c username).countP_eq, List.countP_filter]
  refine List.countP_congr fun r _ => ?_
  simp only [Function.comp, Bool.and_eq_true, decide_eq_true_eq]
  tauto

/-- A row for a project stands for the roles of this user and name on some spelling of the project. -/
theorem count_projectRows (c : Catalog) (username roleName name : String) :
    (c.projectRows name).count (roleName, username) =
    c.roles.countP fun r => r.roleName = roleName ∧ r.username = username ∧
      ProjectName.canonical r.project = ProjectName.canonical name := by
  rw [projectRows, rows, List.count, List.countP_map, (projectRoles_perm c name).countP_eq,
    List.countP_filter]
  refine List.countP_congr fun r _ => ?_
  simp only [Function.comp, Bool.and_eq_true, decide_eq_true_eq, beq_iff_eq, Prod.mk.injEq]
  tauto

/-- **A row stands in one listing exactly if it stands in the other**, under some spelling of the
project. -/
theorem mem_projectRows_iff {username roleName name : String} :
    (roleName, username) ∈ c.projectRows name ↔
      ∃ name', (roleName, name') ∈ c.userRows username ∧
        ProjectName.canonical name' = ProjectName.canonical name := by
  rw [← List.count_pos_iff, count_projectRows, ← countP_userRows, List.countP_pos_iff]
  simp only [decide_eq_true_eq]
  constructor
  · rintro ⟨⟨_, name'⟩, hrow, rfl, hname⟩
    exact ⟨name', hrow, hname⟩
  · rintro ⟨name', hrow, hname⟩
    exact ⟨_, hrow, rfl, hname⟩

end Catalog

namespace Legacy

variable {links : Links} {call : Call}

theorem replyTo_userPackages_rows (c : Catalog) (username : String) :
    Query.userPackages.replyTo c links call [.str username] =
      .ok (.arr ((c.userRows username).map fun row => pair row.1 row.2)) := by
  rw [Query.replyTo_userPackages, userPackages, Catalog.userRows, Catalog.rows, List.map_map]
  rfl

theorem replyTo_packageRoles_rows (c : Catalog) (name : String) :
    Query.packageRoles.replyTo c links call [.str name] =
      .ok (.arr ((c.projectRows name).map fun row => pair row.1 row.2)) := by
  rw [Query.replyTo_packageRoles, packageRoles, Catalog.projectRows, Catalog.rows, List.map_map]
  rfl

/-- **The two listings of roles agree with each other.** The roles of a user are all those in the
table, by decreasing names and then by projects; the roles on a project are all those in the table
whose project has the same canonical name, by decreasing names and then by users. The replies are the
rows of these roles, and another order of the table leaves them as they are. A row of a user's listing
stands in the listing of its project, and a row of a project's listing stands in the listing of its
user, under some spelling of the project. It stands there as often, all spellings taken together. -/
theorem role_listings_agree (d : Catalog.Document) (links : Links) (call : Call) :
    let c := Catalog.ofDocument d
    let userRows := fun username => (c.userRoles username).map fun r => (r.roleName, r.project)
    let projectRows := fun name => (c.projectRoles name).map fun r => (r.roleName, r.username)
    (∀ username, (c.userRoles username).Perm (d.roles.filter (·.username = username)) ∧
      (c.userRoles username).Pairwise (fun a b =>
        b.roleName < a.roleName ∨ a.roleName = b.roleName ∧ a.project ≤ b.project) ∧
      Query.userPackages.replyTo c links call [.str username] =
        .ok (.arr ((userRows username).map fun (role, project) => .arr [.str role, .str project]))) ∧
    (∀ name, (c.projectRoles name).Perm
        (d.roles.filter fun r => ProjectName.canonical r.project = ProjectName.canonical name) ∧
      (c.projectRoles name).Pairwise (fun a b =>
        b.roleName < a.roleName ∨ a.roleName = b.roleName ∧ a.username ≤ b.username) ∧
      Query.packageRoles.replyTo c links call [.str name] =
        .ok (.arr ((projectRows name).map fun (role, username) => .arr [.str role, .str username]))) ∧
    (∀ d' : Catalog.Document, d'.roles.Perm d.roles → ∀ text,
      Query.userPackages.replyTo (Catalog.ofDocument d') links call [.str text] =
        Query.userPackages.replyTo c links call [.str text] ∧
      Query.packageRoles.replyTo (Catalog.ofDocument d') links call [.str text] =
        Query.packageRoles.replyTo c links call [.str text]) ∧
    ∀ username name roleName,
      ((roleName, name) ∈ userRows username → (roleName, username) ∈ projectRows name) ∧
      ((roleName, username) ∈ projectRows name → ∃ name', (roleName, name') ∈ userRows username ∧
        ProjectName.canonical name' = ProjectName.canonical name) ∧
      (projectRows name).count (roleName, username) = (userRows username).countP fun row =>
        row.1 = roleName ∧ ProjectName.canonical row.2 = ProjectName.canonical name := by
  intro c userRows projectRows
  have hroles : c.roles = d.roles := Catalog.roles_ofDocument d
  refine ⟨fun username => ⟨?_, ?_, replyTo_userPackages_rows c username⟩,
    fun name => ⟨?_, ?_, replyTo_packageRoles_rows c name⟩, fun d' hperm text => ?_,
    fun username name roleName => ⟨fun hrow => ?_, Catalog.mem_projectRows_iff.mp, ?_⟩⟩
  · rw [← hroles]
    exact Catalog.userRoles_perm c username
  · exact Catalog.pairwise_mergeSort_roles Catalog.comparesBy_beforeForUser _
  · rw [← hroles]
    exact Catalog.projectRoles_perm c name
  · exact Catalog.pairwise_mergeSort_roles Catalog.comparesBy_beforeForProject _
  · have hsame : (Catalog.ofDocument d').roles.Perm c.roles := by
      rwa [hroles, Catalog.roles_ofDocument]
    rw [replyTo_userPackages_rows, replyTo_userPackages_rows, replyTo_packageRoles_rows,
      replyTo_packageRoles_rows, Catalog.userRows_eq_of_perm hsame,
      Catalog.projectRows_eq_of_perm hsame]
    exact ⟨rfl, rfl⟩
  · exact Catalog.mem_projectRows_iff.mpr ⟨name, hrow, rfl⟩
  · exact (Catalog.count_projectRows c username roleName name).trans
      (Catalog.countP_userRows c username roleName name).symm

/-- One user owns two spellings of a project, and another user is asked about a third one. -/
theorem role_listings_agree_spellings :
    let roles : List Catalog.Role := [⟨"Maintainer", "bob", "flask.x"⟩,
      ⟨"Owner", "alice", "Flask_X"⟩, ⟨"Owner", "alice", "flask-x"⟩]
    let c := Catalog.ofDocument { roles }
    let c' := Catalog.ofDocument { roles := roles.reverse }
    let links : Links := ⟨"pypi.test", ""⟩
    let call : Call := ⟨"mirror", "pypi", "package_roles", {}⟩
    roles.reverse.Perm roles ∧
    Query.packageRoles.replyTo c' links call [.str "FLASK-X"] =
      Query.packageRoles.replyTo c links call [.str "FLASK-X"] ∧
    ∃ ofUser ofProject : List Json,
      Query.userPackages.replyTo c links call [.str "alice"] = .ok (.arr ofUser) ∧
      .arr [.str "Owner", .str "Flask_X"] ∈ ofUser ∧
      Query.packageRoles.replyTo c links call [.str "Flask_X"] = .ok (.arr ofProject) ∧
      .arr [.str "Owner", .str "alice"] ∈ ofProject := by
  intro roles c c' links call
  have hperm : roles.reverse.Perm roles := by decide
  obtain ⟨huser, hproject, hsame, hrows⟩ := role_listings_agree { roles } links call
  have hrole : (⟨"Owner", "alice", "Flask_X"⟩ : Catalog.Role) ∈ c.userRoles "alice" :=
    (huser "alice").1.mem_iff.mpr (by decide)
  have hrow : ("Owner", "Flask_X") ∈ (c.userRoles "alice").map fun r => (r.roleName, r.project) :=
    List.mem_map_of_mem hrole
  exact ⟨hperm, (hsame { roles := roles.reverse } hperm "FLASK-X").2, _, _, (huser "alice").2.2,
    List.mem_map.mpr ⟨_, hrow, rfl⟩, (hproject "Flask_X").2.2,
    List.mem_map.mpr ⟨_, (hrows "alice" "Flask_X" "Owner").1 hrow, rfl⟩⟩

end Legacy

end IndexGateway
