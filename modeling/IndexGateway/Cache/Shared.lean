import IndexGateway.Cache.Operation
import IndexGateway.Cache.Responses

/-!
# A cache behind a lock

Those who share a cache hold its lock while they use it. Whoever breaks off meanwhile
poisons the lock: nobody can know what became of the cache, and from then on every
operation fails. A put breaks off if the clock cannot tell until when the text is to be
served, and it does so before it has changed anything.

The stores of a gateway hold their caches without a lock, since one call after the other
is answered there, and the times for which responses are kept come from a few policies.
-/

namespace IndexGateway

/-- A cache with its lock. -/
structure SharedCache where
  /-- The cache. -/
  cache : Cache
  /-- Whether somebody broke off while holding the lock. -/
  isPoisoned : Bool := false

namespace SharedCache

/-- An empty cache; a capacity of zero asks for the default. -/
def empty (capacity : Nat) : SharedCache := { cache := .empty capacity }

/-- Why an operation fails if the lock is poisoned. -/
def poisonedError : StoreError :=
  .outOfOrder "lock poisoned: poisoned lock: another task failed inside"

/-- What an operation yields. -/
inductive Outcome where
  /-- Nothing: it was done. -/
  | done
  /-- The text that is served, if there is one. -/
  | found (text? : Option String)
  /-- The number of entries that were taken out. -/
  | removed (n : Nat)
  /-- An error. -/
  | failed (e : StoreError)
  /-- Nothing, since the operation broke off. -/
  | breakdown (why : Breakdown)
  deriving DecidableEq, Repr

/-- Carries out an operation at a moment. -/
def perform (shared : SharedCache) (now : Moment) (op : Cache.Operation) : Outcome × SharedCache :=
  if shared.isPoisoned then (.failed poisonedError, shared)
  else
    match op with
    | .put key value tag =>
      match Moment.after now tag.ttl with
      | .error why => (.breakdown why, { shared with isPoisoned := true })
      | .ok _ => (.done, { shared with cache := shared.cache.put now key value tag })
    | .get key =>
      let (text?, cache) := shared.cache.get now key
      (.found text?, { shared with cache })
    | .purge tag =>
      let (removed, cache) := shared.cache.purge tag
      (.removed removed, { shared with cache })

/-- Carries out operations, each at its moment, and collects what they yield. -/
def performAll (shared : SharedCache) :
    List (Moment × Cache.Operation) → List Outcome × SharedCache
  | [] => ([], shared)
  | (now, op) :: rest =>
    let (outcome, shared') := shared.perform now op
    let (outcomes, shared'') := shared'.performAll rest
    (outcome :: outcomes, shared'')

/-- The number of entries, as far as it can be told. -/
def size (shared : SharedCache) : Nat := if shared.isPoisoned then 0 else shared.cache.size

/-- Whether there are no entries, as far as it can be told. -/
def isEmpty (shared : SharedCache) : Bool := shared.size = 0

/-- The number of entries of a tag, as far as it can be told. -/
def tagged (shared : SharedCache) (tag : String) : Nat :=
  if shared.isPoisoned then 0 else shared.cache.tagged tag

end SharedCache

end IndexGateway
