import IndexGateway.Proofs.Json.Safe

/-!
# Cleaning is a projection

Cleaning works on a text character by character and on a value part by part, and it has
nothing to do a second time. It does not matter here whether a text has references
already, or gets some: these are characters that are left as they are. Only the keys of an
object are not cleaned each on its own, since keys that become equal become one.

## What is proved

`clean_projection` puts together what cleaning makes of texts (`toList_clean`,
`cleanChar_eq`, `clean_append`) and of objects (`clean_obj`), and that doing it twice is
doing it once.
-/

namespace IndexGateway.Json

/-- **What cleaning makes of an object.** The keys are the clean keys, each where it came first, and
each has the clean value of the last entry whose key becomes it. -/
theorem clean_obj (fields : List (String × Json)) :
    ∃ cleaned, (obj fields).clean = .obj cleaned ∧
      keys cleaned = (fields.map fun f => Text.clean f.1).eraseDups ∧
      ∀ key value, (key, value) ∈ cleaned ↔
        ∃ f, IsLastOf (fun f => Text.clean f.1) fields key f ∧ f.2.clean = value := by
  refine ⟨collectFields (cleanEntries fields), rfl, ?_, fun key value => ?_⟩
  · rw [keys_collectFields, cleanEntries_eq_map, keys, List.map_map]
    rfl
  · rw [cleanEntries_eq_map]
    exact mem_collectFields_map_iff

/-- **Cleaning is a projection, one character at a time.** A clean text is made of the images of the
characters: a decimal reference to one beyond ASCII, nothing for an illegal one, and any other
itself. This is so, too, where no other text is built, for the safe texts. So texts are cleaned part
by part, and cleaning twice is cleaning once, of texts and of values. A list keeps its length and its
order, and what is no text, list or object is left as it is. An object has the clean keys without
later repetitions, each with the clean value of the last entry whose key becomes it. -/
theorem clean_projection (a b : String) (v : Json) :
    ((Text.clean a).toList = a.toList.flatMap fun c =>
      if Text.isAscii c then if Text.isIllegal c then [] else [c]
      else '&' :: '#' :: Text.Numeral.ofNat c.toNat ++ [';']) ∧
    (Text.rebuilt? a = none ↔ Text.IsSafe a) ∧
    Text.clean (a ++ b) = Text.clean a ++ Text.clean b ∧
    Text.clean (Text.clean a) = Text.clean a ∧
    v.clean.clean = v.clean ∧
    match v with
    | .str s => v.clean = .str (Text.clean s)
    | .arr items => v.clean = .arr (items.map clean)
    | .obj fields => ∃ cleaned, v.clean = .obj cleaned ∧
        keys cleaned = (fields.map fun f => Text.clean f.1).eraseDups ∧
        ∀ key value, (key, value) ∈ cleaned ↔
          ∃ f, IsLastOf (fun f => Text.clean f.1) fields key f ∧ f.2.clean = value
    | _ => v.clean = v := by
  refine ⟨?_, Text.rebuilt?_eq_none_iff, Text.clean_append a b, Text.clean_clean a, v.clean_clean, ?_⟩
  · rw [Text.toList_clean]
    exact List.flatMap_congr fun c _ => Text.cleanChar_eq c
  · cases v with
    | null => rfl
    | bool b => rfl
    | num n => rfl
    | str s => rfl
    | arr items => exact congrArg arr (cleanItems_eq_map items)
    | obj fields => exact clean_obj fields

example : (obj [("name", .str "first"), ("na\x01me", .str "Zo\u00EB"), ("other", .null)]).clean =
    .obj [("name", .str "Zo&#235;"), ("other", .null)] := by rfl

end IndexGateway.Json
