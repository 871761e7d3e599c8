import IndexGateway.Text.Substitute

/-!
# Links in results

Results hold absolute links to the pages of projects and releases, and to files.
The links to files follow a pattern in which `{path}` stands for the place where
the file is stored.
-/

namespace IndexGateway.Legacy

/-- What links are made of. -/
structure Links where
  /-- The public domain. -/
  domain : String
  /-- The pattern of links to files. -/
  filesUrl : String
  deriving DecidableEq, Repr

namespace Links

/-- What stands for the path of a file. -/
def placeholder : List Char := ['{', 'p', 'a', 't', 'h', '}']

/-- The page of a project. -/
def project (l : Links) (name : String) : String :=
  "https://" ++ l.domain ++ "/project/" ++ name ++ "/"

/-- The page of a release. -/
def release (l : Links) (name version : String) : String :=
  "https://" ++ l.domain ++ "/project/" ++ name ++ "/" ++ version ++ "/"

/-- The link to a file. -/
def file (l : Links) (path : String) : String :=
  String.ofList (Text.replaceAll placeholder path.toList l.filesUrl.toList)

end Links

end IndexGateway.Legacy
