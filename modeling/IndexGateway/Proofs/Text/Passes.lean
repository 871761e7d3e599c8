import IndexGateway.Text.Clean
import Mathlib.Data.List.Basic

/-!
# Cleaning, one character at a time

A text is cleaned in two passes, each of which returns the text as it is where it finds
nothing to do. A pass with nothing to do would build the same text again, so all paths
agree: each character of a text is replaced by its image, and the images are put together.

## What is proved

* `toList_clean` — a clean text is made of the images of the characters, on every path.
* `clean_append` — the clean form of two texts put together is that of the one, then that
  of the other.
-/

namespace IndexGateway.Text

variable {s t : String}

/-- What cleaning makes of one character. -/
def cleanChar (c : Char) : List Char := (reference c).filter fun d => !isIllegal d

/-- The first pass writes references, also where it returns the text as it is. -/
theorem toList_escaped (s : String) : ((escaped? s).getD s).toList = s.toList.flatMap reference := by
  unfold escaped?
  split
  · next hascii =>
    have href : ∀ c ∈ s.toList, reference c = [c] := fun c hc =>
      if_pos (List.all_eq_true.mp hascii c hc)
    rw [Option.getD_none, List.flatMap_congr href]
    exact (List.flatMap_singleton' s.toList).symm
  · rw [Option.getD_some, String.toList_ofList]

/-- The second pass takes characters out, also where it returns the text as it is. -/
theorem toList_stripped (s : String) :
    ((stripped? s).getD s).toList = s.toList.filter fun c => !isIllegal c := by
  unfold stripped?
  split
  · rw [Option.getD_some, String.toList_ofList]
  · next hlegal =>
    have hall : ∀ c ∈ s.toList, (!isIllegal c) = true := by simpa using hlegal
    rw [Option.getD_none, List.filter_eq_self.mpr hall]

/-- Cleaning is the second pass over what the first one returns. -/
theorem clean_eq_passes (s : String) :
    clean s = (stripped? ((escaped? s).getD s)).getD ((escaped? s).getD s) := by
  rw [clean, rebuilt?]
  split
  · next hempty =>
    rw [String.isEmpty_iff.mp hempty]
    rfl
  · cases escaped? s with
    | none => rfl
    | some t => rfl

/-- **A clean text is made of the images of the characters of a text.** -/
theorem toList_clean (s : String) : (clean s).toList = s.toList.flatMap cleanChar := by
  rw [clean_eq_passes, toList_stripped, toList_escaped, List.filter_flatMap]
  rfl

/-- **Texts are cleaned part by part.** -/
theorem clean_append (s t : String) : clean (s ++ t) = clean s ++ clean t := by
  rw [← String.toList_inj]
  simp only [toList_clean, String.toList_append, List.flatMap_append]

end IndexGateway.Text
