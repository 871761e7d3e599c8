import IndexGateway.Cache.Basic

/-!
# Operations on a cache

What can be done to a cache, as data. A history lists operations with their moments;
what a cache has become after a history is the subject of the lemmas about it.
-/

namespace IndexGateway.Cache

/-- Something that is done to a cache. -/
inductive Operation where
  /-- Keep a text under a key and a tag. -/
  | put (key value : String) (tag : CacheTag)
  /-- Look up the text under a key. -/
  | get (key : String)
  /-- Take out all entries of a tag. -/
  | purge (tag : String)
  deriving DecidableEq, Repr

/-- The cache after an operation at a moment. -/
def perform (cache : Cache) (now : Moment) : Operation → Cache
  | .put key value tag => cache.put now key value tag
  | .get key => (cache.get now key).2
  | .purge tag => (cache.purge tag).2

/-- The cache after operations, each at its moment. -/
def performAll (cache : Cache) (history : List (Moment × Operation)) : Cache :=
  history.foldl (fun cache (now, op) => cache.perform now op) cache

end IndexGateway.Cache
