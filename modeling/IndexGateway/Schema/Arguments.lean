import IndexGateway.Fault
import IndexGateway.Request
import IndexGateway.Schema.Basic

/-!
# Binding arguments to parameters

Before a handler runs, the arguments of the call are bound to the declared
parameters. Positional arguments are seated from the front; a named argument
takes the seat of the first parameter of its name, whoever sits there; an empty
seat gets the default. Every problem is reported, not only the first: the surplus
positional arguments, then the unknown names, then parameter by parameter what is
missing or does not fit. An argument that lost its seat to a named one is not
looked at.

A handler asks for bound arguments by name and says what it expects them to be.
-/

namespace IndexGateway

/-- The arguments that a handler sees: one for each parameter, in the order of declaration. -/
structure Arguments where
  /-- The parameters' names with the values that were bound to them. -/
  bindings : List (String × Json) := []

namespace Arguments

/-- The value of the first parameter of a name. -/
def get? (args : Arguments) (name : String) : Option Json := Json.field? name args.bindings

/-- The value of the parameter at a place. -/
def nth? (args : Arguments) (index : Nat) : Option Json := (args.bindings[index]?).map (·.2)

/-- The number of bound parameters. -/
def size (args : Arguments) : Nat := args.bindings.length

/-- The fault of a handler that finds something else than it expects. -/
def mistyped (name expected : String) : Fault :=
  .wrapped .value ("argument '" ++ name ++ "' is not " ++ expected)

/-- The argument of a name, seen through a view of its value. -/
def expect {α : Type} (args : Arguments) (name : String) (view : Json → Option α)
    (expected : String) : Except Fault α :=
  match (args.get? name).bind view with
  | some a => .ok a
  | none => .error (mistyped name expected)

/-- The argument of a name, which is a text. -/
def text (args : Arguments) (name : String) : Except Fault String :=
  args.expect name Json.text? "a string"

/-- The argument of a name, which is a truth value. -/
def bool (args : Arguments) (name : String) : Except Fault Bool :=
  args.expect name Json.bool? "a boolean"

/-- The argument of a name, which is a whole number. -/
def int (args : Arguments) (name : String) : Except Fault Int64 :=
  args.expect name Json.int64? "an integer"

/-- The argument of a name, which is a whole number, null or missing. -/
def int? (args : Arguments) (name : String) : Except Fault (Option Int64) :=
  match args.get? name with
  | none => .ok none
  | some .null => .ok none
  | some _ => (args.int name).map some

/-- The argument of a name, which is a list of texts. -/
def texts (args : Arguments) (name : String) : Except Fault (List String) :=
  args.expect name Json.texts? "a list of strings"

end Arguments

/-- A parameter and the argument that was given for it, if any. -/
structure Seat where
  /-- The parameter. -/
  param : Param
  /-- The argument. -/
  given : Option Json

namespace Schema

/-- Seats positional arguments from the front; returns the arguments for which no seat is left. -/
def seat : List Param → List Json → List Seat × List Json
  | [], rest => ([], rest)
  | p :: ps, [] => (⟨p, none⟩ :: (seat ps []).1, [])
  | p :: ps, v :: vs => (⟨p, some v⟩ :: (seat ps vs).1, (seat ps vs).2)

/-- Gives a named argument the seat of the first parameter of its name, if there is one. -/
def reseat (name : String) (value : Json) : List Seat → Option (List Seat)
  | [] => none
  | s :: rest =>
    if s.param.name = name then some (⟨s.param, some value⟩ :: rest)
    else (reseat name value rest).map (s :: ·)

/-- Seats named arguments in the order of the call; returns also the names that are not declared. -/
def reseatAll : List (String × Json) → List Seat → List Seat × List String
  | [], seats => (seats, [])
  | (name, value) :: rest, seats =>
    match reseat name value seats with
    | some seats' => reseatAll rest seats'
    | none => ((reseatAll rest seats).1, name :: (reseatAll rest seats).2)

/-- The violations at a seat. -/
def Seat.violations (s : Seat) : List Violation :=
  match s.given, s.param.default with
  | some value, _ => s.param.type.check value s.param.name
  | none, some _ => []
  | none, none => [⟨s.param.name, .missing⟩]

/-- The value that is bound at a seat, if there is one. -/
def Seat.binding? (s : Seat) : Option (String × Json) :=
  match s.given, s.param.default with
  | some value, _ => some (s.param.name, value)
  | none, some value => some (s.param.name, value)
  | none, none => none

/-- The violations for positional arguments without a seat, the first of which has an index. -/
def surplus (index : Nat) (values : List Json) : List Violation :=
  values.zipIdx.map fun (_, i) =>
    ⟨String.ofList (Text.Numeral.ofNat (index + i)), .unexpectedPositional⟩

/-- All violations of declared parameters by the arguments of a call, and the seats they took. -/
def examine (params : List Param) (given : Params) : List Violation × List Seat :=
  let (seats, rest) := seat params given.positional
  let (seats', unknown) := reseatAll given.keyword seats
  (surplus params.length rest ++ unknown.map (⟨·, .unexpectedKeyword⟩) ++
    seats'.flatMap Seat.violations, seats')

/-- The text that lists violations. -/
def report (violations : List Violation) : String :=
  "; ".intercalate (violations.map Violation.message)

/-- Binds the arguments of a call to the parameters, or lists what is wrong with them. -/
def bind (schema : Schema) (given : Params) : Except Fault Arguments :=
  match schema with
  | .unchecked => .ok {}
  | .checked params =>
    match examine params given with
    | ([], seats) => .ok ⟨seats.filterMap Seat.binding?⟩
    | (violations, _) => .error (.invalidParams (report violations))

end Schema

end IndexGateway
