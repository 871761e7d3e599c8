import IndexGateway.Clock
import IndexGateway.Json.Basic

/-!
# Faults

A call that gets no result gets a fault: a numeric code and a text. There are
five causes; those that wrap an error of the application name its kind in front
of the detail. A call that is broken off gets nothing at all.
-/

namespace IndexGateway

/-- The kinds of application errors that a fault can wrap. -/
inductive ErrorKind where
  /-- The caller made more calls than its quota allows. -/
  | tooManyRequests
  /-- The method is not served any more. -/
  | runtime
  /-- An argument has a value that the method cannot use. -/
  | value
  /-- The package index could not be asked. -/
  | lookup
  deriving DecidableEq, Repr

namespace ErrorKind

/-- The name that a fault shows for the kind. -/
def name : ErrorKind → String
  | .tooManyRequests => "HTTPTooManyRequests"
  | .runtime => "RuntimeError"
  | .value => "ValueError"
  | .lookup => "LookupError"

end ErrorKind

/-- Why a call got no result. -/
inductive Fault where
  /-- The service is not there. -/
  | serviceUnavailable
  /-- The arguments do not fit the method; the detail lists every problem. -/
  | invalidParams (detail : String)
  /-- The application refused, with an error of a known kind. -/
  | wrapped (kind : ErrorKind) (detail : String)
  /-- The application refused. -/
  | application
  /-- No such method is served at the endpoint. -/
  | methodNotFound (method : String)
  deriving DecidableEq, Repr

namespace Fault

/-- The groups of causes that have a code of their own. -/
inductive Category where
  /-- The service is not there. -/
  | serviceUnavailable
  /-- The arguments do not fit. -/
  | invalidParams
  /-- The application refused. -/
  | applicationError
  /-- There is no such method. -/
  | methodNotFound
  deriving DecidableEq, Repr

/-- The group of a fault. -/
def category : Fault → Category
  | .serviceUnavailable => .serviceUnavailable
  | .invalidParams _ => .invalidParams
  | .wrapped _ _ => .applicationError
  | .application => .applicationError
  | .methodNotFound _ => .methodNotFound

/-- The code of a group. -/
def Category.code : Category → Int64
  | .serviceUnavailable => -32403
  | .invalidParams => -32602
  | .applicationError => -32500
  | .methodNotFound => -32601

/-- The code of a fault. -/
def code (f : Fault) : Int64 := f.category.code

/-- The text of a fault. -/
def message : Fault → String
  | .serviceUnavailable => "server error; service unavailable"
  | .invalidParams detail => "client error; " ++ detail
  | .wrapped kind detail => kind.name ++ ": " ++ detail
  | .application => "application error"
  | .methodNotFound _ => "server error; requested method not found"

/-- What a caller receives: the code and the text. -/
def body (f : Fault) : Json :=
  .obj [("faultCode", .ofInt64 f.code), ("faultString", .str f.message)]

end Fault

/-- How a call ends that gets no result. -/
inductive Ending where
  /-- It gets a fault. -/
  | fault (f : Fault)
  /-- It is broken off. -/
  | breakdown (why : Breakdown)
  deriving DecidableEq, Repr

instance : Coe Fault Ending := ⟨.fault⟩

end IndexGateway
