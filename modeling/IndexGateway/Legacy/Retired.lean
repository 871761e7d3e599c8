import IndexGateway.Gateway.Method

/-!
# Retired methods

Some methods are not served any more. They keep their names, so that old clients
get an explanation instead of the fault for an unknown method. They take any
arguments and look at none of them.
-/

namespace IndexGateway.Legacy

/-- The methods that are not served any more. -/
inductive Retired where
  /-- Searching for projects. -/
  | search
  /-- The projects that are downloaded most. -/
  | topPackages
  /-- An old form of the data of a release. -/
  | packageData
  /-- An old form of the files of a release. -/
  | packageUrls
  /-- Several calls in one. -/
  | multicall
  deriving DecidableEq, Repr

namespace Retired

/-- Where callers can read more. -/
def helpPage : String := "https://warehouse.pypa.io/api-reference/xml-rpc.html#deprecated-methods"

/-- The name of a method. -/
def name : Retired → String
  | search => "search"
  | topPackages => "top_packages"
  | packageData => "package_data"
  | packageUrls => "package_urls"
  | multicall => "system.multicall"

/-- The fault that explains why an interface is gone. -/
def deprecated : Fault :=
  .wrapped .runtime ("This API has been deprecated. See " ++ helpPage ++ " for more information.")

/-- The explanation that callers get; searchers are sent to the search page of a domain. -/
def fault (domain : String) : Retired → Fault
  | search =>
    .wrapped .runtime ("PyPI no longer supports 'pip search' (or XML-RPC search). Please use https://" ++
      domain ++ "/search (via a browser) instead. See " ++ helpPage ++ " for more information.")
  | topPackages =>
    .wrapped .runtime ("This API has been removed. Use BigQuery instead. See " ++ helpPage ++
      " for more information.")
  | packageData => deprecated
  | packageUrls => deprecated
  | multicall =>
    .wrapped .value "MultiCall requests have been deprecated, use individual requests instead."

/-- The method that explains. -/
def method (domain : String) (r : Retired) : Method :=
  { name := r.name
    schema := .unchecked
    handler := fun _ _ => { outcome := .error (r.fault domain) } }

end Retired

end IndexGateway.Legacy
