import IndexGateway.Cache.Basic
import IndexGateway.Json.Parser
import IndexGateway.Json.Printer
import IndexGateway.Log

/-!
# Stored responses

A response is stored as compact JSON text, under a key that is made of the name of
the method and the arguments as they were given. The key keeps the order of named
arguments and tells `1` from `"1"` and from `1.0`.

A store may also be one that is out of order: every request to it fails, and the
gateway has to do without.
-/

namespace IndexGateway

/-- The key of the response to a call. -/
def responseKey (method : String) (params : Params) : String :=
  method ++ ":" ++ params.toJson.compact

/-- Why a store did not do what it was asked for. -/
inductive StoreError where
  /-- What is kept under a key is not the text of a value. -/
  | undecodable (key : String)
  /-- The store is out of order. -/
  | outOfOrder (reason : String)
  deriving DecidableEq, Repr

/-- The text for an error. -/
def StoreError.message : StoreError → String
  | .undecodable key => "cache error: undecodable entry " ++ key
  | .outOfOrder reason => "cache error: " ++ reason

/-- What is logged about entries of a cache that are purged. -/
def Cache.purgedEntry (tag : String) (removed : Nat) : Log.Entry :=
  ⟨.trace, "purged cache tag", [("tag", .str tag), ("removed", Log.count removed)]⟩

namespace Responses

/-- What is logged about a key that was looked up. -/
def lookupEntry (key : String) (found : Bool) : Log.Entry :=
  ⟨.trace, if found then "cache hit" else "cache miss", [("key", .str key)]⟩

/-- What is logged about responses that are given up. -/
def invalidatedEntry (tag : String) (removed : Nat) : Log.Entry :=
  ⟨.debug, "invalidated cached responses", [("tag", .str tag), ("removed", Log.count removed)]⟩

/-- Looks up the response to a call. -/
def get (cache : Cache) (now : Moment) (method : String) (params : Params) :
    Except StoreError (Option Json) × Cache × List Log.Entry :=
  let key := responseKey method params
  match cache.get now key with
  | (none, cache') => (.ok none, cache', [lookupEntry key false])
  | (some text, cache') =>
    match Json.parse? text with
    | some value => (.ok (some value), cache', [lookupEntry key true])
    | none => (.error (.undecodable key), cache', [lookupEntry key true])

/-- Stores the response to a call, if it may be kept; returns whether it was. -/
def put (cache : Cache) (now : Moment) (method : String) (params : Params) (response : Response) :
    Bool × Cache :=
  match response.cache with
  | none => (false, cache)
  | some tag => (true, cache.put now (responseKey method params) response.value.compact tag)

/-- Gives up all responses of a tag; returns their number. -/
def purge (cache : Cache) (tag : String) : Nat × Cache × List Log.Entry :=
  let (removed, cache') := cache.purge tag
  (removed, cache', [Cache.purgedEntry tag removed, invalidatedEntry tag removed])

end Responses

/-- Where responses are stored. -/
inductive Store where
  /-- In a cache. -/
  | cached (cache : Cache)
  /-- Nowhere: the store is out of order. -/
  | outOfOrder (reason : String)

namespace Store

/-- Looks up the response to a call. -/
def get (store : Store) (now : Moment) (method : String) (params : Params) :
    Except StoreError (Option Json) × Store × List Log.Entry :=
  match store with
  | .cached cache =>
    let (found, cache', log) := Responses.get cache now method params
    (found, .cached cache', log)
  | .outOfOrder reason => (.error (.outOfOrder reason), store, [])

/-- Stores the response to a call. -/
def put (store : Store) (now : Moment) (method : String) (params : Params) (response : Response) :
    Except StoreError Bool × Store :=
  match store with
  | .cached cache =>
    let (stored, cache') := Responses.put cache now method params response
    (.ok stored, .cached cache')
  | .outOfOrder reason => (.error (.outOfOrder reason), store)

end Store

end IndexGateway
