import IndexGateway.CommandLine.Run
import IndexGateway.Proofs.Json.ReadBack

/-!
# Stored responses read back

A response is stored as compact text and shown as pretty text. Either text stands for
the value it was written from, and for no other: it is read as that value, fields in
their order and whole numbers in their form, or it is refused because the value is
nested too deep. Only reading is limited so; such a value is stored, and found to be
undecodable.

## The model

The cache may be in any state, full or holding an older response to the call, and the
call may be any. A response is looked up before it expires, with nothing in between.
The value holds no floating-point number, and its objects map distinct keys to values.

## What is proved

* `Cache.get_put` — a text that was put is found under its key.
* `Responses.get_of_text` — a response is what that text is read as.
* `Responses.get_put_of_isFloatless` — so a stored response is read back, or undecodable;
  and what is shown of it is read back as well.
-/

namespace IndexGateway

open Json

namespace Cache

variable (cache : Cache) (now : Moment) (key value : String) (tag : CacheTag)

theorem entry?_put : Cache.entry? (cache.put now key value tag) key =
    some ⟨value, tag.name, now + tag.ttl⟩ := by
  unfold put
  split <;> exact List.lookup_cons_self

/-- What was put under a key is found there until it expires. -/
theorem get_put {later : Moment} (fresh : later < now + tag.ttl) :
    ((cache.put now key value tag).get later key).1 = some value := by
  rw [get, entry?_put]
  exact congrArg Prod.fst (if_pos fresh)

end Cache

namespace Responses

variable {cache : Cache} {now : Moment} {method : String} {params : Params}

/-- The response to a call is what the text under its key is read as. -/
theorem get_of_text {text : String} (h : (cache.get now (responseKey method params)).1 = some text) :
    (Responses.get cache now method params).1 =
      (parse? text).elim (.error (.undecodable (responseKey method params))) fun value =>
        .ok (some value) := by
  unfold Responses.get
  dsimp only
  generalize cache.get now (responseKey method params) = looked at h
  obtain ⟨found, cache'⟩ := looked
  subst h
  dsimp only
  cases parse? text <;> rfl

/-- **Stored responses read back.** A response with a tag is stored in any cache, whatever call it
answers. If its value is nested to fewer than 128 levels, it is found until it expires, and what is
shown of it is the text of its value as well. If its value is nested deeper, it is undecodable. -/
theorem get_put_of_isFloatless (cache : Cache) (now later : Moment) (method : String) (params : Params)
    (value : Json) (tag : CacheTag) (floatless : IsFloatless value) (distinct : HasDistinctKeys value)
    (fresh : later < now + tag.ttl) :
    let response : Response := { value, cache := some tag }
    let (stored, cache') := Responses.put cache now method params response
    stored = true ∧
    (value.nesting < 128 →
      (Responses.get cache' later method params).1 = .ok (some value) ∧
      parse? (CommandLine.outputOf (.ok response)).text = some value) ∧
    (128 ≤ value.nesting →
      (Responses.get cache' later method params).1 =
        .error (.undecodable (responseKey method params))) := by
  have hget := get_of_text (Cache.get_put cache now (responseKey method params) value.compact tag fresh)
  have hshown : parse? (value.pretty ++ "\n") = _ :=
    parse?_pretty floatless distinct (List.forall_mem_singleton.mpr rfl)
  rw [parse?_compact floatless distinct] at hget
  refine ⟨rfl, fun hle => ?_, fun hgt => ?_⟩
  · have hlimit : value.nesting ≤ nestingLimit := Nat.le_of_lt_succ hle
    rw [if_pos hlimit] at hget hshown
    exact ⟨hget, hshown⟩
  · have hlimit : ¬ value.nesting ≤ nestingLimit := Nat.not_le_of_lt hgt
    rw [if_neg hlimit] at hget
    exact hget

/-- A response that holds the largest number, a negative one, an empty list and a text that has to be
escaped is found a moment before it expires, with its keys in the order in which it has them. -/
theorem get_put_of_isFloatless_release :
    let value : Json := .obj [("size", .num (.int { val := 18446744073709551615 })),
      ("files", .arr [.arr [], .num (.int { val := -1 })]), ("by", .str "\"\n")]
    let response : Response := { value, cache := some ⟨"project/flask", 60⟩ }
    (99 < 40 + 60 ∧ value.nesting < 128) ∧
    (Responses.get (Responses.put (.empty 1) 40 "release_data" {} response).2 99 "release_data" {}).1 =
      .ok (some value) ∧
    parse? (CommandLine.outputOf (.ok response)).text = some value := by
  intro value response
  have floatless : IsFloatless value := by simp [value]
  have distinct : HasDistinctKeys value := by
    simp [value, hasDistinctKeys_obj_iff, hasDistinctKeys_arr_iff, keys, HasDistinctKeys.num,
      HasDistinctKeys.str]
  have hnesting : value.nesting < 128 := by decide
  obtain ⟨-, hread, -⟩ := get_put_of_isFloatless (.empty 1) 40 99 "release_data" {} value
    ⟨"project/flask", 60⟩ floatless distinct (by decide)
  exact ⟨⟨by decide, hnesting⟩, hread hnesting⟩

end Responses

end IndexGateway
