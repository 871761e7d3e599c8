import Mathlib.Data.List.Chain
import Mathlib.Data.List.Induction
import Mathlib.Data.List.Nodup
import Mathlib.Data.List.Perm.Basic
import Mathlib.Order.Lattice

/-!
# Sorted lists

The answers of an index are sorted: items are compared by a key, which is a number, a
text or a pair of these, and items with the same key stay in the order in which they
were loaded. A sorted list is then rid of its repetitions, which are neighbours.

## What is proved

* `ComparesBy.filter_mergeSort` — sorting keeps the items with a certain key, in order.
* `ComparesBy.map_mergeSort_of_perm` — the keys of a sorted list do not depend on the
  order in which its items were given.
* `ComparesBy.pairwise_eraseReps` — a sorted list increases strictly once repetitions are
  erased, if the key tells all about an item.
-/

namespace IndexGateway

/-! ### Lists without repetitions -/

section Repetitions

variable {α : Type} [BEq α] [LawfulBEq α]

theorem eraseRepsBy_loop_spec (a : α) (xs acc : List α) :
    ∃ rest, List.eraseRepsBy.loop (· == ·) a xs acc = acc.reverse ++ a :: rest ∧
      (a :: rest).Sublist (a :: xs) ∧ a :: xs ⊆ a :: rest ∧ (a :: rest).IsChain (· ≠ ·) := by
  induction xs generalizing a acc with
  | nil =>
    exact ⟨[], by simp [List.eraseRepsBy.loop], List.Sublist.refl _, List.Subset.refl _,
      List.isChain_singleton a⟩
  | cons b xs ih =>
    rw [List.eraseRepsBy.loop]
    cases hab : a == b with
    | true =>
      obtain rfl : a = b := eq_of_beq hab
      obtain ⟨rest, heq, hsub, hmem, hchain⟩ := ih a acc
      refine ⟨rest, heq, hsub.trans (List.sublist_cons_self a (a :: xs)), ?_, hchain⟩
      exact List.cons_subset.mpr ⟨List.mem_cons_self, hmem⟩
    | false =>
      obtain ⟨rest, heq, hsub, hmem, hchain⟩ := ih b (a :: acc)
      refine ⟨b :: rest, by simp [heq], hsub.cons_cons a, List.cons_subset_cons a hmem, ?_⟩
      exact List.isChain_cons_cons.mpr ⟨ne_of_beq_false hab, hchain⟩

/-- Erasing repetitions takes items away but loses none, and leaves no two equal neighbours. -/
theorem eraseReps_spec (xs : List α) :
    xs.eraseReps.Sublist xs ∧ xs ⊆ xs.eraseReps ∧ xs.eraseReps.IsChain (· ≠ ·) := by
  cases xs with
  | nil => exact ⟨List.Sublist.refl _, List.Subset.refl _, List.isChain_nil⟩
  | cons a xs =>
    obtain ⟨rest, heq, hrest⟩ := eraseRepsBy_loop_spec a xs []
    rwa [show (a :: xs).eraseReps = a :: rest from heq]

theorem eraseReps_sublist (xs : List α) : xs.eraseReps.Sublist xs := (eraseReps_spec xs).1

theorem mem_eraseReps {a : α} {xs : List α} : a ∈ xs.eraseReps ↔ a ∈ xs :=
  ⟨fun h => (eraseReps_sublist xs).subset h, fun h => (eraseReps_spec xs).2.1 h⟩

theorem eraseDups_append_singleton (xs : List α) (a : α) :
    (xs ++ [a]).eraseDups = if a ∈ xs then xs.eraseDups else xs.eraseDups ++ [a] := by
  rw [List.eraseDups_append]
  by_cases h : a ∈ xs <;> simp [List.removeAll, List.eraseDups_cons, h]

theorem nodup_eraseDups (xs : List α) : xs.eraseDups.Nodup := by
  induction xs using List.reverseRecOn with
  | nil => exact List.nodup_nil
  | append_singleton xs a ih =>
    rw [eraseDups_append_singleton]
    split
    · exact ih
    · next h => exact ih.append (List.nodup_singleton a) (by simpa [List.mem_eraseDups] using h)

/-- A list without repetitions is left as it is. -/
theorem eraseDups_of_nodup {xs : List α} (h : xs.Nodup) : xs.eraseDups = xs := by
  induction xs using List.reverseRecOn with
  | nil => rfl
  | append_singleton xs a ih =>
    have hcons : (a :: xs).Nodup := List.nodup_append_comm.mp h
    obtain ⟨ha, hxs⟩ := List.nodup_cons.mp hcons
    rw [eraseDups_append_singleton, if_neg ha, ih hxs]

end Repetitions

/-! ### Sorting by a key -/

/-- **A list is another one, sorted by a key**, with items of the same key as they were. -/
structure IsSortedBy {α κ : Type} [LinearOrder κ] (key : α → κ) (given sorted : List α) : Prop where
  /-- No item is lost or added. -/
  perm : sorted.Perm given
  /-- The keys do not decrease. -/
  ordered : sorted.Pairwise fun a b => key a ≤ key b
  /-- Items with the same key are in the order in which they were given. -/
  stable : ∀ k, sorted.filter (key · = k) = given.filter (key · = k)

/-- Some of the items of a sorted list are sorted. -/
theorem IsSortedBy.filter {α κ : Type} [LinearOrder κ] {key : α → κ} {given sorted : List α}
    (h : IsSortedBy key given sorted) (p : α → Bool) :
    IsSortedBy key (given.filter p) (sorted.filter p) where
  perm := h.perm.filter p
  ordered := h.ordered.filter p
  stable k := by rw [List.filter_comm, h.stable k, List.filter_comm]

/-- **A comparison goes by a key.** -/
def ComparesBy {α κ : Type} [LinearOrder κ] (le : α → α → Bool) (key : α → κ) : Prop :=
  ∀ a b, le a b = true ↔ key a ≤ key b

namespace ComparesBy

variable {α κ : Type} [LinearOrder κ] {le : α → α → Bool} {key : α → κ} {xs ys : List α}

theorem trans (h : ComparesBy le key) (a b c : α) (hab : le a b = true) (hbc : le b c = true) :
    le a c = true :=
  (h a c).mpr (le_trans ((h a b).mp hab) ((h b c).mp hbc))

theorem total (h : ComparesBy le key) (a b : α) : (le a b || le b a) = true := by
  rw [Bool.or_eq_true, h, h]
  exact le_total _ _

theorem pairwise_mergeSort (h : ComparesBy le key) (xs : List α) :
    (xs.mergeSort le).Pairwise fun a b => key a ≤ key b :=
  (List.pairwise_mergeSort h.trans h.total xs).imp (h _ _).mp

/-- **Items with the same key stay in order.** These items are sorted as they are, so they are still
there in this order; and there are no more of them than before. -/
theorem filter_mergeSort (h : ComparesBy le key) (xs : List α) (k : κ) :
    (xs.mergeSort le).filter (key · = k) = xs.filter (key · = k) := by
  have htied : (xs.filter (key · = k)).Pairwise fun a b => le a b = true := by
    refine List.pairwise_of_forall_mem_list fun a ha b hb => (h a b).mpr ?_
    rw [of_decide_eq_true (List.mem_filter.mp ha).2, of_decide_eq_true (List.mem_filter.mp hb).2]
  have hsub := (List.sublist_mergeSort h.trans h.total htied List.filter_sublist).filter (key · = k)
  rw [List.filter_filter] at hsub
  simp only [Bool.and_self] at hsub
  have hlength := ((List.mergeSort_perm xs le).filter (key · = k)).length_eq
  exact (hsub.eq_of_length hlength.symm).symm

theorem isSortedBy_mergeSort (h : ComparesBy le key) (xs : List α) :
    IsSortedBy key xs (xs.mergeSort le) where
  perm := List.mergeSort_perm xs le
  ordered := h.pairwise_mergeSort xs
  stable := h.filter_mergeSort xs

/-- **The keys of a sorted list depend on its items only.** -/
theorem map_mergeSort_of_perm (h : ComparesBy le key) (hperm : xs.Perm ys) :
    (xs.mergeSort le).map key = (ys.mergeSort le).map key := by
  have hsorted (zs : List α) : ((zs.mergeSort le).map key).Pairwise (· ≤ ·) :=
    List.pairwise_map.mpr (h.pairwise_mergeSort zs)
  have hsame : (xs.mergeSort le).Perm (ys.mergeSort le) :=
    ((List.mergeSort_perm xs le).trans hperm).trans (List.mergeSort_perm ys le).symm
  exact (hsame.map key).eq_of_pairwise (fun _ _ _ _ => le_antisymm) (hsorted xs) (hsorted ys)

/-- **A sorted list without repetitions increases strictly.** -/
theorem pairwise_eraseReps [BEq α] [LawfulBEq α] (h : ComparesBy le key)
    (hkey : Function.Injective key) (xs : List α) :
    (xs.mergeSort le).eraseReps.Pairwise fun a b => key a < key b := by
  obtain ⟨hsub, -, hne⟩ := eraseReps_spec (xs.mergeSort le)
  have hle := ((h.pairwise_mergeSort xs).sublist hsub).isChain
  have : Trans (key · < key ·) (key · < key ·) (key · < key ·) := ⟨lt_trans⟩
  refine List.isChain_iff_pairwise.mp (List.isChain_iff_getElem.mpr fun i hi => ?_)
  exact lt_of_le_of_ne (hle.getElem i hi) (hkey.ne (hne.getElem i hi))

end ComparesBy

end IndexGateway
