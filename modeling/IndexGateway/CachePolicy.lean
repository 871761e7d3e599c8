import IndexGateway.ProjectName
import IndexGateway.Schema.Arguments
import IndexGateway.Text.Substitute

/-!
# How long responses are kept, and with which others

A method may allow its responses to be kept for some time. All responses under
one tag become stale together. A tag is either fixed, or made of one of the bound
arguments, by default in the canonical form of project names, so that all
spellings of a project share a tag.
-/

namespace IndexGateway

/-- Where the variable part of a tag comes from. -/
inductive TagSource where
  /-- There is no variable part. -/
  | fixed
  /-- From the bound argument at a place. -/
  | argument (index : Nat)
  deriving DecidableEq, Repr

/-- The permission to keep responses. -/
structure CachePolicy where
  /-- The tag; `%s` stands for its variable part. -/
  template : String
  /-- How long a response may be kept. -/
  ttl : Duration
  /-- Where the variable part comes from. -/
  source : TagSource := .fixed
  /-- What is done to the argument before it becomes part of the tag. -/
  processor : String → String := ProjectName.canonical

namespace CachePolicy

/-- One tag for each project, named by the first argument; kept for two days. -/
def byProject : CachePolicy :=
  { template := "project/%s", ttl := Duration.ofSeconds (48 * 60 * 60), source := .argument 0 }

/-- One tag for everything that depends on the list of projects; kept for an hour. -/
def allProjects : CachePolicy :=
  { template := "all-projects", ttl := Duration.ofSeconds (60 * 60) }

/-- The variable part of a tag: a text as it is processed, another value by its compact text, and
nothing for an argument that is missing. -/
def variablePart (policy : CachePolicy) : Option Json → String
  | none => ""
  | some (.str s) => policy.processor s
  | some v => policy.processor v.compact

/-- The tag for bound arguments. -/
def resolve (policy : CachePolicy) (args : Arguments) : CacheTag :=
  match policy.source with
  | .fixed => ⟨policy.template, policy.ttl⟩
  | .argument index =>
    let part := policy.variablePart (args.nth? index)
    ⟨String.ofList (Text.replaceFirst ['%', 's'] part.toList policy.template.toList), policy.ttl⟩

end CachePolicy

end IndexGateway
