import IndexGateway.Cache.Shared
import IndexGateway.Proofs.Cache.Recency

/-!
# What a shared cache does

A cache behind a lock does what the cache itself does, until somebody puts a text that is
to be served for longer than the clock lasts. Such a put breaks off with the lock in its
hands, and nothing happens to the cache from then on.

## The model

An operation is *timely* if it is not such a put. The state after a history is that of the
cache after the timely operations at its front, and the lock is poisoned if another
operation comes behind them.

## What is proved

* `performAll_snd` — this reading of a history.
* `tags_of_history` — entries and tags are in step in every state; as long as the lock is
  whole, the tags are counted and purged by their entries.
* `get_of_history` — a look-up serves the latest put and nothing else, and it serves it as
  long as the lock is whole and few other keys are used.
-/

namespace IndexGateway

/-- Whether the clock can tell until when a text is to be served, if one is put. -/
def Cache.Operation.isTimely (now : Moment) : Operation → Bool
  | .put _ _ tag => now + tag.ttl < Moment.horizon
  | _ => true

namespace SharedCache

open Cache

variable {shared : SharedCache} {now : Moment} {op : Operation}
  {history : List (Moment × Operation)}

/-! ### One operation -/

theorem perform_of_poisoned (h : shared.isPoisoned = true) (now : Moment) (op : Operation) :
    shared.perform now op = (.failed poisonedError, shared) :=
  if_pos h

/-- A timely put does what it does to the cache. -/
theorem perform_put (h : shared.isPoisoned = false) {tag : CacheTag}
    (htimely : now + tag.ttl < Moment.horizon) (key value : String) :
    shared.perform now (.put key value tag) =
      (.done, { cache := shared.cache.put now key value tag }) := by
  simp [perform, h, Moment.after_of_lt htimely]

/-- Another put poisons the lock and leaves the cache as it was. -/
theorem perform_put_of_le (h : shared.isPoisoned = false) {tag : CacheTag}
    (hbehind : Moment.horizon ≤ now + tag.ttl) (key value : String) :
    shared.perform now (.put key value tag) =
      (.breakdown .offClock, { shared with isPoisoned := true }) := by
  simp [perform, h, Moment.after_of_le hbehind]

/-- A whole lock does not stand in the way of a look-up. -/
theorem perform_get (h : shared.isPoisoned = false) (now : Moment) (key : String) :
    shared.perform now (.get key) =
      (.found (shared.cache.get now key).1, { cache := (shared.cache.get now key).2 }) := by
  simp [perform, h]

/-- A whole lock does not stand in the way of a purge. -/
theorem perform_purge (h : shared.isPoisoned = false) (now : Moment) (tag : String) :
    shared.perform now (.purge tag) =
      (.removed (shared.cache.purge tag).1, { cache := (shared.cache.purge tag).2 }) := by
  simp [perform, h]

/-- A timely operation does what it does to the cache. -/
theorem perform_of_timely (h : shared.isPoisoned = false) (htimely : op.isTimely now = true) :
    (shared.perform now op).2 = { cache := shared.cache.perform now op } := by
  cases op with
  | put key value tag =>
    rw [perform_put h (of_decide_eq_true htimely)]
    rfl
  | get key =>
    rw [perform_get h]
    rfl
  | purge tag =>
    rw [perform_purge h]
    rfl

/-- Another operation poisons the lock and leaves the cache as it was. -/
theorem perform_of_not_timely (h : shared.isPoisoned = false) (htimely : op.isTimely now = false) :
    shared.perform now op = (.breakdown .offClock, { shared with isPoisoned := true }) := by
  cases op with
  | put key value tag =>
    exact perform_put_of_le h (Nat.le_of_not_lt (of_decide_eq_false htimely)) key value
  | get key | purge tag => cases htimely

/-! ### A history -/

theorem performAll_of_poisoned (h : shared.isPoisoned = true) (history : List (Moment × Operation)) :
    (shared.performAll history).2 = shared := by
  induction history with
  | nil => rfl
  | cons x history ih =>
    unfold performAll
    rw [perform_of_poisoned h]
    exact ih

/-- **A history does to the cache what its timely operations do**, up to the first that is not
timely. -/
theorem performAll_snd (h : shared.isPoisoned = false) (history : List (Moment × Operation)) :
    (shared.performAll history).2 =
      { cache := shared.cache.performAll (history.takeWhile fun x => x.2.isTimely x.1)
        isPoisoned := !history.all fun x => x.2.isTimely x.1 } := by
  induction history generalizing shared with
  | nil =>
    obtain ⟨cache, isPoisoned⟩ := shared
    obtain rfl : isPoisoned = false := h
    rfl
  | cons x history ih =>
    unfold performAll
    dsimp only
    rw [List.takeWhile_cons, List.all_cons]
    cases htimely : x.2.isTimely x.1 with
    | true =>
      have hstep := perform_of_timely h htimely
      rw [ih (by rw [hstep]), hstep]
      rfl
    | false =>
      rw [perform_of_not_timely h htimely, performAll_of_poisoned rfl]
      rfl

/-- As long as the lock is whole, the cache is that after the history. -/
theorem performAll_snd_of_timely (capacity : Nat) (h : ∀ x ∈ history, x.2.isTimely x.1 = true) :
    ((empty capacity).performAll history).2 =
      { cache := (Cache.empty capacity).performAll history } := by
  have hall : (history.all fun x => x.2.isTimely x.1) = true := List.all_eq_true.mpr h
  rw [performAll_snd rfl, List.takeWhile_eq_self_iff.mpr h, hall]
  rfl

theorem timely_of_whole {capacity : Nat}
    (h : ((empty capacity).performAll history).2.isPoisoned = false) :
    ∀ x ∈ history, x.2.isTimely x.1 = true := by
  rw [performAll_snd rfl] at h
  exact List.all_eq_true.mp ((Bool.not_eq_false _).mp fun hall => by simp [hall] at h)

/-- **The lock is poisoned exactly by puts behind the end of the clock.** -/
theorem isPoisoned_performAll_iff (capacity : Nat) (history : List (Moment × Operation)) :
    ((empty capacity).performAll history).2.isPoisoned = true ↔
      ∃ now key value tag, (now, .put key value tag) ∈ history ∧ Moment.horizon ≤ now + tag.ttl := by
  rw [performAll_snd rfl]
  simp only [Bool.not_eq_true', List.all_eq_false, Bool.not_eq_true]
  constructor
  · rintro ⟨⟨now, op⟩, hmem, htimely⟩
    cases op with
    | put key value tag =>
      exact ⟨now, key, value, tag, hmem, Nat.le_of_not_lt (of_decide_eq_false htimely)⟩
    | get key | purge tag => cases htimely
  · rintro ⟨now, key, value, tag, hmem, hbehind⟩
    exact ⟨_, hmem, decide_eq_false (Nat.not_lt.mpr hbehind)⟩

/-! ### Entries and tags -/

/-- **Tags and entries never drift apart.** After every history of an empty cache, a key is listed
under a tag exactly if its entry has this tag, so under no two tags, and no tag is listed without
keys; there are no more entries than there is room for. The lock is poisoned exactly if a text was put
that was to be served beyond the end of the clock. Unless it is, the number that is told for a tag is
the number of its entries, and a purge of the tag returns this number and leaves the other entries as
they were and in their order. If it is, no number is told, and every operation fails and changes
nothing. -/
theorem tags_of_history (capacity : Nat) (history : List (Moment × Operation)) :
    let shared := ((empty capacity).performAll history).2
    let entries := shared.cache.entries
    (∀ tag key, key ∈ shared.cache.tags.keys tag ↔
      ∃ c, shared.cache.entry? key = some c ∧ c.tag = tag) ∧
    (∀ tag tag' key, key ∈ shared.cache.tags.keys tag → key ∈ shared.cache.tags.keys tag' →
      tag = tag') ∧
    (∀ tag : String, shared.cache.tags[tag]? ≠ some []) ∧
    (entries.map Prod.fst).Nodup ∧
    entries.length ≤ (if capacity = 0 then 1000 else capacity) ∧
    (shared.isPoisoned = true ↔ ∃ now key value tag,
      (now, .put key value tag) ∈ history ∧ Moment.horizon ≤ now + tag.ttl) ∧
    (shared.isPoisoned = false → shared.size = entries.length ∧ ∀ tag,
      shared.tagged tag = (entries.countP fun e => e.2.tag = tag) ∧
      ∀ now, ∃ after, shared.perform now (.purge tag) =
          (.removed (entries.countP fun e => e.2.tag = tag), { cache := after }) ∧
        after.entries = entries.filter fun e => e.2.tag ≠ tag) ∧
    (shared.isPoisoned = true → shared.size = 0 ∧ (∀ tag, shared.tagged tag = 0) ∧
      ∀ now op, shared.perform now op = (.failed poisonedError, shared)) := by
  intro shared entries
  have hcache : shared.cache =
      (Cache.empty capacity).performAll (history.takeWhile fun x => x.2.isTimely x.1) :=
    congrArg SharedCache.cache (performAll_snd rfl history)
  obtain ⟨hlisted, hunique, htidy, hnodup, hsize, htags⟩ :=
    tags_performAll capacity (history.takeWhile fun x => x.2.isTimely x.1)
  rw [← hcache] at hlisted hunique htidy hnodup hsize htags
  refine ⟨hlisted, hunique, htidy, hnodup, hsize, isPoisoned_performAll_iff capacity history,
    fun hwhole => ⟨?_, fun tag => ⟨?_, fun now => ⟨(shared.cache.purge tag).2, ?_, ?_⟩⟩⟩,
    fun hpoisoned => ⟨if_pos hpoisoned, fun tag => if_pos hpoisoned, ?_⟩⟩
  · exact if_neg (by simp [hwhole])
  · rw [tagged, if_neg (by simp [hwhole])]
    exact (htags tag).1
  · rw [perform_purge hwhole, (htags tag).2.1]
  · exact (htags tag).2.2
  · exact fun now op => perform_of_poisoned hpoisoned now op

/-! ### Look-ups -/

/-- **A look-up serves the latest put, and nothing else.** After an ordered history of an empty cache:

* what is served under a key is the text of its latest put, less than its time ago, and its tag was
  not purged since;
* if no text was put that was to be served beyond the end of the clock, the text of the latest put is
  served if less than its time has passed, its tag was not purged since, and since the last use of the
  key fewer other keys were used than there is room for; otherwise every look-up fails;
* if no such text was put and the cache is full, a put of a key without an entry takes out the last
  entry and nothing else, and all other keys were used since the last use of that one's key; it breaks
  off and takes out nothing if its text is to be served beyond the end of the clock. -/
theorem get_of_history (capacity : Nat) (history : List (Moment × Operation)) (now : Moment)
    (key : String) (ordered : (history.map Prod.fst ++ [now]).Pairwise (· ≤ ·)) :
    let room := if capacity = 0 then 1000 else capacity
    let shared := ((empty capacity).performAll history).2
    let log := (Cache.empty capacity).uses history
    let reachesEnd := ∃ now key value tag,
      (now, .put key value tag) ∈ history ∧ Moment.horizon ≤ now + tag.ttl
    (∀ value, (shared.perform now (.get key)).1 = .found (some value) →
      ∃ stored tag since, IsLatestPut history key stored value tag since ∧
        now - stored < tag.ttl ∧ ∀ x ∈ since, x.2 ≠ .purge tag.name) ∧
    (¬ reachesEnd → ∀ stored value tag since, IsLatestPut history key stored value tag since →
      now - stored < tag.ttl → (∀ x ∈ since, x.2 ≠ .purge tag.name) →
      (usesSince key log).dedup.length < room →
      (shared.perform now (.get key)).1 = .found (some value)) ∧
    (reachesEnd → (shared.perform now (.get key)).1 = .failed poisonedError) ∧
    (¬ reachesEnd → ∀ value tag, shared.size = room → shared.cache.entry? key = none →
      (now + tag.ttl < Moment.horizon → ∃ rest last after,
        shared.perform now (.put key value tag) = (.done, { cache := after }) ∧
        shared.cache.entries = rest ++ [last] ∧
        after.entries = (key, entryOf now value tag) :: rest ∧
        ∀ e ∈ rest, e.1 ∈ usesSince last.1 log) ∧
      (Moment.horizon ≤ now + tag.ttl → shared.perform now (.put key value tag) =
        (.breakdown .offClock, { shared with isPoisoned := true }))) := by
  intro room shared log reachesEnd
  have hpoisoned : shared.isPoisoned = true ↔ reachesEnd := isPoisoned_performAll_iff capacity history
  have hwhole : ¬ reachesEnd → shared.isPoisoned = false := fun h =>
    Bool.eq_false_iff.mpr (mt hpoisoned.mp h)
  have hcache : shared.isPoisoned = false → shared.cache = (Cache.empty capacity).performAll history :=
    fun h => congrArg SharedCache.cache (performAll_snd_of_timely capacity (timely_of_whole h))
  obtain ⟨hserved, hkept, hfull⟩ := get_performAll capacity history now key ordered
  refine ⟨fun value hget => ?_, fun h stored value tag since hlatest htime hpurged hfew => ?_,
    fun h => ?_, fun h value tag hsize hnew => ⟨fun htimely => ?_, fun hbehind => ?_⟩⟩
  · cases hlock : shared.isPoisoned with
    | true =>
      rw [perform_of_poisoned hlock] at hget
      cases hget
    | false =>
      rw [perform_get hlock, hcache hlock] at hget
      exact hserved value (Outcome.found.inj hget)
  · rw [perform_get (hwhole h), hcache (hwhole h),
      hkept stored value tag since hlatest htime hpurged hfew]
  · rw [perform_of_poisoned (hpoisoned.mpr h)]
  · have hsize' : shared.cache.size = room := by
      rw [← hsize, SharedCache.size, if_neg (by simp [hwhole h])]
    rw [hcache (hwhole h)] at hsize' hnew
    obtain ⟨rest, last, hentries, hput, hrecent⟩ := hfull value tag hsize' hnew
    refine ⟨rest, last, _, perform_put (hwhole h) htimely key value, ?_, ?_, hrecent⟩
    · rw [hcache (hwhole h)]
      exact hentries
    · rw [hcache (hwhole h)]
      exact hput
  · exact perform_put_of_le (hwhole h) hbehind key value

/-- With room for two, `"a"` outlives `"b"` because it was looked up in between, and a put of `"d"`
takes out `"a"`, which is the last in the order of use. After a put for as long as the clock lasts
nothing is served any more. -/
theorem get_of_history_pair :
    let history : List (Moment × Operation) :=
      [(0, .put "a" "1" ⟨"t", 10⟩), (1, .put "b" "2" ⟨"t", 10⟩), (2, .get "a"),
        (3, .put "c" "3" ⟨"u", 10⟩)]
    let shared := ((empty 2).performAll history).2
    let endless : CacheTag := ⟨"t", Moment.horizon⟩
    (history.map Prod.fst ++ [9]).Pairwise (· ≤ ·) ∧
    (shared.perform 9 (.get "a")).1 = .found (some "1") ∧
    (∃ rest last after, shared.perform 9 (.put "d" "4" ⟨"t", 10⟩) = (.done, { cache := after }) ∧
      shared.cache.entries = rest ++ [last] ∧
      after.entries = ("d", entryOf 9 "4" ⟨"t", 10⟩) :: rest ∧
      ∀ e ∈ rest, e.1 ∈ usesSince last.1 ["a", "b", "a", "c"]) ∧
    (((empty 2).performAll (history ++ [(4, .put "d" "4" endless)])).2.perform 9 (.get "a")).1 =
      .failed poisonedError := by
  intro history shared endless
  let longer := history ++ [(4, Operation.put "d" "4" endless)]
  have hordered : (history.map Prod.fst ++ [9]).Pairwise (· ≤ ·) := by
    show ([0, 1, 2, 3, 9] : List Nat).Pairwise (· ≤ ·)
    decide
  have hwhole : ¬ ∃ now key value tag,
      (now, .put key value tag) ∈ history ∧ Moment.horizon ≤ now + tag.ttl := by
    rw [← isPoisoned_performAll_iff 2 history]
    decide
  have hlog : (Cache.empty 2).uses history = ["a", "b", "a", "c"] := by decide
  have hlatest : IsLatestPut history "a" 0 "1" ⟨"t", 10⟩
      [(1, .put "b" "2" ⟨"t", 10⟩), (2, .get "a"), (3, .put "c" "3" ⟨"u", 10⟩)] :=
    ⟨⟨[], rfl⟩, by decide⟩
  refine ⟨hordered, ?_, ?_, ?_⟩
  · refine (get_of_history 2 history 9 "a" hordered).2.1 hwhole 0 "1" _ _ hlatest
      (by decide) (by decide) ?_
    rw [hlog]
    decide
  · have hfull := ((get_of_history 2 history 9 "d" hordered).2.2.2 hwhole "4" ⟨"t", 10⟩
      (by decide) (by decide)).1 (by decide)
    rwa [hlog] at hfull
  · have hlater : (longer.map Prod.fst ++ [9]).Pairwise (· ≤ ·) := by
      show ([0, 1, 2, 3, 4, 9] : List Nat).Pairwise (· ≤ ·)
      decide
    exact (get_of_history 2 longer 9 "a" hlater).2.2.1
      ⟨4, "d", "4", endless, by simp [longer], Nat.le_add_left Moment.horizon 4⟩

end SharedCache

end IndexGateway
