import IndexGateway.Clock
import IndexGateway.Request
import Std.Data.HashMap

/-!
# A bounded cache with tags

The cache keeps texts under keys. It has room for a fixed number of entries; when
it is full, a new entry takes the place of the one that was used least recently.
Every entry has a tag, and all entries of a tag can be purged at once; it also has
a moment from which on it is not served any more. Such an entry stays where it is
until somebody asks for it or its room is needed.

## The model

The entries are listed from the most recently to the least recently used one. The
keys of each tag are listed beside them, so that a purge does not have to search;
a tag without keys is not listed. Keeping the two in step is the business of this
module: every path on which an entry leaves takes its key from the tag as well.

A put takes for granted that the clock can tell until when its text is to be served, as
it can for the hours and days for which responses are kept. What comes of a put for which
it cannot is the matter of `SharedCache`.
-/

namespace IndexGateway

/-- What is kept under a key. -/
structure CacheEntry where
  /-- The text. -/
  value : String
  /-- The tag. -/
  tag : String
  /-- The moment from which on the entry is not served any more. -/
  expiresAt : Moment
  deriving DecidableEq, Repr

/-- The keys of each tag. -/
abbrev TagIndex := Std.HashMap String (List String)

namespace TagIndex

/-- The keys of a tag. -/
def keys (index : TagIndex) (tag : String) : List String := (index[tag]?).getD []

/-- Lists a key under a tag. -/
def add (index : TagIndex) (tag key : String) : TagIndex :=
  let keys := index.keys tag
  if key ∈ keys then index else index.insert tag (key :: keys)

/-- Takes a key from a tag. -/
def remove (index : TagIndex) (tag key : String) : TagIndex :=
  match index[tag]? with
  | none => index
  | some keys =>
    match keys.erase key with
    | [] => index.erase tag
    | keys' => index.insert tag keys'

end TagIndex

/-- A bounded cache. -/
structure Cache where
  /-- The number of entries for which there is room. -/
  capacity : Nat
  /-- The entries with their keys, the most recently used one first. -/
  entries : List (String × CacheEntry)
  /-- The keys of each tag. -/
  tags : TagIndex

namespace Cache

/-- The room of a cache for which none is asked. -/
def defaultCapacity : Nat := 1000

/-- An empty cache; a capacity of zero asks for the default. -/
def empty (capacity : Nat) : Cache :=
  { capacity := if capacity = 0 then defaultCapacity else capacity, entries := [], tags := ∅ }

/-- The number of entries, served or not. -/
def size (cache : Cache) : Nat := cache.entries.length

/-- Whether there are no entries. -/
def isEmpty (cache : Cache) : Bool := cache.entries.isEmpty

/-- The number of entries of a tag. -/
def tagged (cache : Cache) (tag : String) : Nat := (cache.tags.keys tag).length

/-- The entry under a key. -/
def entry? (cache : Cache) (key : String) : Option CacheEntry := cache.entries.lookup key

/-- The entries without the one under a key. -/
def without (key : String) (entries : List (String × CacheEntry)) : List (String × CacheEntry) :=
  entries.filter fun e => e.1 != key

/-- Takes out the entry under a key. -/
def evict (cache : Cache) (key : String) : Cache :=
  match cache.entry? key with
  | none => cache
  | some e => { cache with
      entries := without key cache.entries
      tags := cache.tags.remove e.tag key }

/-- The text under a key, if it is served at a moment. An entry that is found becomes the most
recently used one; one that is not served any more is taken out instead. -/
def get (cache : Cache) (now : Moment) (key : String) : Option String × Cache :=
  match cache.entry? key with
  | none => (none, cache)
  | some e =>
    if now < e.expiresAt then
      (some e.value, { cache with entries := (key, e) :: without key cache.entries })
    else (none, cache.evict key)

/-- The entry that has to leave before one is put under a key: the old one of that key, or else
the least recently used one if the cache is full. -/
def leaving (cache : Cache) (key : String) : Option (String × CacheEntry) :=
  match cache.entry? key with
  | some e => some (key, e)
  | none => if cache.entries.length < cache.capacity then none else cache.entries.getLast?

/-- Keeps a text under a key and a tag, from a moment on. -/
def put (cache : Cache) (now : Moment) (key value : String) (tag : CacheTag) : Cache :=
  let new : CacheEntry := { value, tag := tag.name, expiresAt := now + tag.ttl }
  match cache.leaving key with
  | none =>
    { cache with entries := (key, new) :: cache.entries, tags := cache.tags.add tag.name key }
  | some (oldKey, old) =>
    { cache with
      entries := (key, new) :: without oldKey cache.entries
      tags := (cache.tags.remove old.tag oldKey).add tag.name key }

/-- Takes out all entries of a tag; returns their number. -/
def purge (cache : Cache) (tag : String) : Nat × Cache :=
  let keys := cache.tags.keys tag
  let removed := keys.countP fun key => (cache.entry? key).isSome
  (removed, { cache with
    entries := cache.entries.filter fun e => !keys.contains e.1
    tags := cache.tags.erase tag })

end Cache

end IndexGateway
