import IndexGateway.Gateway.Basic
import IndexGateway.Legacy.Query
import IndexGateway.Legacy.Retired

/-!
# The table of methods

The queries and the retired methods with their names, parameters and cache
policies, in the order in which they are registered. All of them are served at the
same three endpoints.
-/

namespace IndexGateway.Legacy

/-- The endpoints at which every method is served. -/
def endpoints : List String := ["RPC2", "pypi", "pypi_slash"]

namespace Query

/-- The name of a query's method. -/
def name : Query → String
  | listPackages => "list_packages"
  | listPackagesWithSerial => "list_packages_with_serial"
  | packageHostingMode => "package_hosting_mode"
  | userPackages => "user_packages"
  | packageReleases => "package_releases"
  | releaseData => "release_data"
  | releaseUrls => "release_urls"
  | packageRoles => "package_roles"
  | changelogLastSerial => "changelog_last_serial"
  | changelogSinceSerial => "changelog_since_serial"
  | changelog => "changelog"
  | browse => "browse"

/-- The parameters of a query. -/
def params : Query → List Param
  | listPackages => []
  | listPackagesWithSerial => []
  | packageHostingMode => [{ name := "package_name", type := .str }]
  | userPackages => [{ name := "username", type := .str }]
  | packageReleases =>
    [{ name := "package_name", type := .str },
      { name := "show_hidden", type := .bool, default := some (.bool false) }]
  | releaseData => [{ name := "package_name", type := .str }, { name := "version", type := .str }]
  | releaseUrls => [{ name := "package_name", type := .str }, { name := "version", type := .str }]
  | packageRoles => [{ name := "package_name", type := .str }]
  | changelogLastSerial => []
  | changelogSinceSerial => [{ name := "serial", type := .int }]
  | changelog =>
    [{ name := "since", type := .int },
      { name := "with_ids", type := .bool, default := some (.bool false) }]
  | browse => [{ name := "classifiers", type := .list .str }]

/-- The cache policy of a query. -/
def cache : Query → Option CachePolicy
  | listPackages => some .allProjects
  | listPackagesWithSerial => some .allProjects
  | packageReleases => some .byProject
  | releaseData => some .byProject
  | releaseUrls => some .byProject
  | packageRoles => some .byProject
  | _ => none

/-- The method of a query. -/
def method (source : Catalog.Source) (links : Links) (q : Query) : Method :=
  { name := q.name
    schema := .checked q.params
    cache := q.cache
    handler := q.handler source links }

end Query

/-- The methods, before they are given their endpoints. -/
def table (source : Catalog.Source) (links : Links) : List Method :=
  let query := Query.method source links
  let retired := Retired.method links.domain
  [ retired .search,
    query .listPackages,
    query .listPackagesWithSerial,
    query .packageHostingMode,
    query .userPackages,
    retired .topPackages,
    query .packageReleases,
    retired .packageData,
    query .releaseData,
    retired .packageUrls,
    query .releaseUrls,
    query .packageRoles,
    query .changelogLastSerial,
    query .changelogSinceSerial,
    query .changelog,
    query .browse,
    retired .multicall ]

/-- The methods. -/
def methods (source : Catalog.Source) (links : Links) : List Method :=
  (table source links).map fun m => { m with aliases := endpoints }

/-- What is logged when all methods are registered. -/
def registeredEntry (count : Nat) : Log.Entry :=
  ⟨.info, "registered legacy methods",
    [("methods", Log.count count), ("endpoints", .str (Text.Quoted.list endpoints))]⟩

/-- Registers the methods. -/
def register (g : Gateway) (source : Catalog.Source) (links : Links) :
    Option RegistrationError × Gateway × List Log.Entry :=
  let added := methods source links
  match g.registerAll added with
  | (none, g', log) => (none, g', log ++ [registeredEntry added.length])
  | refused => refused

end IndexGateway.Legacy
