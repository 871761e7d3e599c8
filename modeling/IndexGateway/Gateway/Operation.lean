import IndexGateway.Gateway.Basic

/-!
# Operations on a gateway

What is done to a gateway before it goes to work, as data. Methods are registered
one by one or in a batch, and in between the store may change that methods get from
then on. A method that is refused leaves the gateway as it is, and ends its batch.
-/

namespace IndexGateway.Gateway

/-- Something that is done to a gateway before it goes to work. -/
inductive Operation where
  /-- Register a method. -/
  | register (m : Method)
  /-- Register methods up to the first that is refused. -/
  | registerAll (methods : List Method)
  /-- Give the methods that are registered from now on the store at a place. -/
  | withStore (place : Nat)

namespace Operation

/-- The methods that an operation asks to register, in order. -/
def methods : Operation → List Method
  | register m => [m]
  | registerAll methods => methods
  | withStore _ => []

/-- The place of the store that an operation sets. -/
def place? : Operation → Option Nat
  | withStore place => some place
  | _ => none

end Operation

/-- The error of an operation, if a method is refused, and the gateway afterwards. -/
def perform (g : Gateway) : Operation → Option RegistrationError × Gateway
  | .register m =>
    match g.register m with
    | .error e => (some e, g)
    | .ok (g', _) => (none, g')
  | .registerAll methods =>
    let (e?, g', _) := g.registerAll methods
    (e?, g')
  | .withStore place => (none, g.withStore place)

/-- The gateway after operations. -/
def performAll (g : Gateway) (ops : List Operation) : Gateway :=
  ops.foldl (fun g op => (g.perform op).2) g

end IndexGateway.Gateway
