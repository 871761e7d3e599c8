import IndexGateway.Text.Reader
import Mathlib.Data.List.Basic
import Mathlib.Data.List.TakeWhile

/-!
# Reading runs and items

A run of characters of a class is read up to the first character of another class. A list
is written by writing its items one behind the other. If each written item is read back
wherever what follows has some property, which the front of every written item has, then
so is the list: reading stops where no item follows.
-/

namespace IndexGateway.Text.Reader

/-! ### Runs -/

/-- Characters differ if a class tells them apart. -/
theorem ne_of_class {p : Char → Bool} {c d : Char} (hc : p c = true) (hd : p d = false) : c ≠ d := by
  rintro rfl
  exact Bool.false_ne_true (hd.symm.trans hc)

/-- A run of a class of characters ends where the next character is not of the class. -/
theorem takeWhile_append_of_stop {p : Char → Bool} {run rest : List Char} (hrun : ∀ c ∈ run, p c)
    (hrest : ∀ c, rest.head? = some c → p c = false) :
    (run ++ rest).takeWhile p = run ∧ (run ++ rest).dropWhile p = rest := by
  have hstop : rest.takeWhile p = [] ∧ rest.dropWhile p = rest := by
    cases rest with
    | nil => exact ⟨rfl, rfl⟩
    | cons c rest =>
      have := hrest c rfl
      simp [this]
  rw [List.takeWhile_append_of_pos hrun, List.dropWhile_append_of_pos hrun, hstop.1, hstop.2,
    List.append_nil]
  exact ⟨rfl, rfl⟩

theorem run1_append {p : Char → Bool} {run rest : List Char} (hne : run ≠ []) (hrun : ∀ c ∈ run, p c)
    (hrest : ∀ c, rest.head? = some c → p c = false) : run1 p (run ++ rest) = some (run, rest) := by
  obtain ⟨htake, hdrop⟩ := takeWhile_append_of_stop hrun hrest
  unfold run1
  rw [htake, hdrop]
  split
  · exact absurd rfl hne
  · rfl

/-! ### Items -/

variable {α β : Type} {item : Reader α} {written : β → List Char} {value : β → α}
  {Follows : List Char → Prop} {items : List β} {tail : List Char}

/-- Nothing is read where no item is. -/
theorem many_of_none {text : List Char} (h : item text = none) :
    many item text = some ([], text) := by
  unfold many
  cases text.length with
  | zero => rfl
  | succ n => simp [upTo, h]

theorem follows_flatMap (hfront : ∀ b ∈ items, ∀ rest, Follows (written b ++ rest))
    (htail : Follows tail) : Follows (items.flatMap written ++ tail) := by
  cases items with
  | nil => exact htail
  | cons b items =>
    rw [List.flatMap_cons, List.append_assoc]
    exact hfront b List.mem_cons_self _

/-- Written items are read one after the other. -/
theorem upTo_flatMap
    (hread : ∀ b ∈ items, ∀ rest, Follows rest → item (written b ++ rest) = some (value b, rest))
    (hfront : ∀ b ∈ items, ∀ rest, Follows (written b ++ rest)) (htail : Follows tail)
    (hend : item tail = none) {n : Nat} (hn : items.length ≤ n) :
    upTo item n (items.flatMap written ++ tail) = some (items.map value, tail) := by
  induction items generalizing n with
  | nil =>
    cases n with
    | zero => rfl
    | succ n => simp [upTo, hend]
  | cons b items ih =>
    obtain ⟨hb, hread⟩ := List.forall_mem_cons.mp hread
    obtain ⟨-, hfront⟩ := List.forall_mem_cons.mp hfront
    obtain ⟨n, rfl⟩ : ∃ m, n = m + 1 := ⟨n - 1, by rw [List.length_cons] at hn; omega⟩
    rw [List.flatMap_cons, List.append_assoc, upTo, hb _ (follows_flatMap hfront htail)]
    simp only [ih hread hfront (Nat.le_of_succ_le_succ hn), List.map_cons]

theorem length_le_flatMap (hne : ∀ b ∈ items, written b ≠ []) :
    items.length ≤ (items.flatMap written ++ tail).length := by
  induction items with
  | nil => exact Nat.zero_le _
  | cons b items ih =>
    obtain ⟨hb, hne⟩ := List.forall_mem_cons.mp hne
    have hpos := List.length_pos_iff.mpr hb
    have := ih hne
    simp only [List.flatMap_cons, List.append_assoc, List.length_append, List.length_cons] at this ⊢
    omega

/-- **A list that is written item by item is read back.** -/
theorem many_flatMap
    (hread : ∀ b ∈ items, ∀ rest, Follows rest → item (written b ++ rest) = some (value b, rest))
    (hfront : ∀ b ∈ items, ∀ rest, Follows (written b ++ rest)) (htail : Follows tail)
    (hend : item tail = none) (hne : ∀ b ∈ items, written b ≠ []) :
    many item (items.flatMap written ++ tail) = some (items.map value, tail) :=
  upTo_flatMap hread hfront htail hend (length_le_flatMap hne)

end IndexGateway.Text.Reader
