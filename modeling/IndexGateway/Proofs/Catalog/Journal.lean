import IndexGateway.Proofs.Catalog.Projects
import Mathlib.Data.List.Sort
import Mathlib.Data.List.Nodup

/-!
# The journal of an index

An index keeps the journal of its document in the order of the numbers of the changes;
nothing is lost or added, and changes with the same number stay in the order in which they
were loaded (`isSortedBy_journal`).

## What is proved

The changes behind a number (`behind`) are a final part of the journal. If the numbers
are distinct, they can be taken in portions: behind the last change of a portion stand
exactly the changes that the portion left over (`behind_of_getLast?_take`). So whoever
has one portion finds the next by the number of the last change it has seen. The last
change of the journal is the last one behind every number that it is behind
(`getLast?_behind`).
-/

namespace IndexGateway.Catalog

variable {c : Catalog} {d : Document} {serial : Int64} {limit : Nat} {last : JournalEntry}

/-! ### Loading -/

theorem comparesBy_id : ComparesBy (fun a b : JournalEntry => a.id ≤ b.id) (·.id.toInt) := by
  intro a b
  rw [decide_eq_true_eq, Int64.le_iff_toInt_le]

/-- The journal is that of the document, by increasing numbers. -/
theorem isSortedBy_journal (d : Document) :
    IsSortedBy (·.id.toInt) d.journal (ofDocument d).journal := by
  rw [journal_ofDocument]
  exact comparesBy_id.isSortedBy_mergeSort d.journal

/-- Loading keeps every entry of the journal as often as it is there. -/
theorem journal_perm (d : Document) : (ofDocument d).journal.Perm d.journal := (isSortedBy_journal d).perm

theorem pairwise_le_journal (d : Document) :
    (ofDocument d).journal.Pairwise fun a b => a.id ≤ b.id :=
  (isSortedBy_journal d).ordered.imp Int64.le_iff_toInt_le.mpr

/-- Distinct numbers increase along the journal. -/
theorem pairwise_lt_journal (h : (d.journal.map (·.id)).Nodup) :
    (ofDocument d).journal.Pairwise fun a b => a.id < b.id := by
  have hnodup : ((ofDocument d).journal.map (·.id)).Nodup := ((journal_perm d).map _).nodup_iff.mpr h
  have hne : (ofDocument d).journal.Pairwise fun a b => a.id ≠ b.id := List.pairwise_map.mp hnodup
  exact (pairwise_le_journal d).imp₂ (fun _ _ hle hne => Int64.lt_of_le_of_ne hle hne) hne

/-! ### Behind a number -/

/-- The changes behind a number. -/
def behind (c : Catalog) (serial : Int64) : List JournalEntry :=
  c.journal.filter fun e => serial < e.id

theorem mem_behind {e : JournalEntry} : e ∈ c.behind serial ↔ e ∈ c.journal ∧ serial < e.id := by
  simp [behind]

/-- What is behind a change that is itself behind a number is behind that number too. -/
theorem behind_eq_filter (h : serial < last.id) :
    c.behind last.id = (c.behind serial).filter fun e => last.id < e.id := by
  rw [behind, behind, List.filter_filter]
  refine List.filter_congr fun e _ => ?_
  have htrans : last.id < e.id → serial < e.id := Int64.lt_trans h
  simpa using htrans

/-- **Behind the last change of a portion is what the portion left over.** -/
theorem behind_of_getLast?_take (hstrict : c.journal.Pairwise fun a b => a.id < b.id)
    (hlast : ((c.behind serial).take limit).getLast? = some last) :
    c.behind last.id = (c.behind serial).drop limit := by
  obtain ⟨portion, hportion⟩ := List.getLast?_eq_some_iff.mp hlast
  have hsplit : c.behind serial = portion ++ last :: (c.behind serial).drop limit :=
    calc c.behind serial = (c.behind serial).take limit ++ (c.behind serial).drop limit :=
          (List.take_append_drop _ _).symm
      _ = portion ++ last :: (c.behind serial).drop limit := by simp [hportion]
  have hmem : last ∈ c.behind serial := by
    rw [hsplit]
    simp
  have hpairwise : (c.behind serial).Pairwise fun a b => a.id < b.id := hstrict.filter _
  rw [behind_eq_filter (mem_behind.mp hmem).2]
  rw [hsplit, List.pairwise_append, List.pairwise_cons] at hpairwise
  obtain ⟨-, ⟨hbehind, -⟩, hbefore⟩ := hpairwise
  have hportion' : portion.filter (fun e => last.id < e.id) = [] := by
    simp only [List.filter_eq_nil_iff, decide_eq_true_eq]
    exact fun e he => Int64.lt_asymm (hbefore e he last List.mem_cons_self)
  have hrest : ((c.behind serial).drop limit).filter (fun e => last.id < e.id) =
      (c.behind serial).drop limit := by
    simpa using hbehind
  conv_lhs => rw [hsplit]
  simp [hportion', hrest, Int64.lt_irrefl]

/-- The last change of the journal is the last one behind a number, if any is. -/
theorem getLast?_behind (hsorted : c.journal.Pairwise fun a b => a.id ≤ b.id)
    (h : c.behind serial ≠ []) : (c.behind serial).getLast? = c.journal.getLast? := by
  obtain ⟨e, he⟩ := List.exists_mem_of_ne_nil _ h
  obtain ⟨hmem, hlt⟩ := mem_behind.mp he
  obtain ⟨before, last, hjournal⟩ : ∃ before last, c.journal = before ++ [last] :=
    ⟨_, _, (List.dropLast_append_getLast (List.ne_nil_of_mem hmem)).symm⟩
  rw [hjournal] at hmem hsorted
  have hle : e.id ≤ last.id := by
    rcases List.mem_append.mp hmem with hbefore | hlast
    · exact (List.pairwise_append.mp hsorted).2.2 e hbefore last (List.mem_singleton_self last)
    · rw [List.mem_singleton.mp hlast]
      exact Int64.le_refl _
  have hlast : serial < last.id := Int64.lt_of_lt_of_le hlt hle
  simp [behind, hjournal, hlast]

/-- Nothing is behind the last number. -/
theorem behind_lastSerial (hsorted : c.journal.Pairwise fun a b => a.id ≤ b.id)
    (h : c.lastSerial = some serial) : c.behind serial = [] := by
  obtain ⟨last, hlast, rfl⟩ := Option.map_eq_some_iff.mp h
  by_contra hne
  have hmem := List.mem_of_getLast? ((getLast?_behind hsorted hne).trans hlast)
  exact Int64.lt_irrefl (mem_behind.mp hmem).2

end IndexGateway.Catalog
