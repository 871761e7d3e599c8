import IndexGateway.Schema.ParamType

/-!
# Schemas

The parameters that a method declares, in order. A parameter with a default may
be left out of a call. A method may also leave its arguments unchecked; it is then
called with none, whatever the caller gave.
-/

namespace IndexGateway

/-- A declared parameter. -/
structure Param where
  /-- The name by which an argument can be given. -/
  name : String
  /-- The values that are accepted. -/
  type : ParamType
  /-- The value that stands in for a missing argument; a parameter without one is required. -/
  default : Option Json := none

/-- Whether a call must give an argument for the parameter. -/
def Param.isRequired (p : Param) : Bool := p.default.isNone

/-- What a method says about its arguments. -/
inductive Schema where
  /-- Nothing: every call is accepted, and its arguments are dropped. -/
  | unchecked
  /-- The parameters, in the order of positional arguments. -/
  | checked (params : List Param)

namespace Schema

/-- No parameters. -/
def empty : Schema := .checked []

/-- The declared parameters. -/
def params : Schema → List Param
  | .unchecked => []
  | .checked params => params

/-- Whether every call is accepted. -/
def isUnchecked : Schema → Bool
  | .unchecked => true
  | .checked _ => false

end Schema

end IndexGateway
