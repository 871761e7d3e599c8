import IndexGateway.Proofs.Catalog.Journal
import IndexGateway.Proofs.Legacy.Replies

/-!
# Polling the journal

A mirror keeps up with the index by polling: it asks for the changes behind the last
number that it knows, and then for those behind the number in the last row it received,
until an answer is empty. An answer holds a limited number of rows, so the mirror may
have to ask many times; and all it knows of its progress is what the rows tell.

## The model

`Polls ask serial pages` says that a mirror that starts with a number receives these
pages from something that answers questions, and is done. It holds of finite lists of
pages only, so there being such pages means that polling comes to an end. The questions
are put to `changesBehind`, which is the query with its parameters.

## What is proved

`polls_of_nodup` — over a journal with distinct numbers, loaded in any order, polling
comes to an end, and its pages hold the rows of all changes behind the number it started
with, each once and in order; all pages are full but the last with rows and the empty
one; and the mirror ends up with the number of the last change, behind which nothing is
left.
-/

namespace IndexGateway.Legacy

open Catalog (JournalEntry)

/-! ### Mirrors -/

/-- The number in a row, which is its last column. -/
def rowSerial? : Json → Option Int64
  | .arr columns => columns.getLast?.bind Json.int64?
  | _ => none

/-- **A mirror that polls from a number on receives these pages**, the last of which is empty. -/
inductive Polls (ask : Int64 → Except Fault Json) : Int64 → List (List Json) → Prop
  /-- There is nothing behind the number. -/
  | done {serial : Int64} (hask : ask serial = .ok (.arr [])) : Polls ask serial [[]]
  /-- The mirror goes on behind the number in the last row. -/
  | more {serial next : Int64} {rows : List Json} {row : Json} {pages : List (List Json)}
      (hask : ask serial = .ok (.arr rows)) (hlast : rows.getLast? = some row)
      (hnext : rowSerial? row = some next) (hmore : Polls ask next pages) :
      Polls ask serial (rows :: pages)

section Polls

variable {ask : Int64 → Except Fault Json} {serial : Int64} {pages pages' : List (List Json)}

/-- Only the last page is empty. -/
theorem Polls.ne_nil_of_cons {rows more : List Json} (h : Polls ask serial (rows :: more :: pages)) :
    rows ≠ [] := by
  cases h with
  | more _ hlast _ _ =>
    rintro rfl
    cases hlast

/-- What a mirror receives is determined by the answers. -/
theorem Polls.eq (h : Polls ask serial pages) (h' : Polls ask serial pages') : pages = pages' := by
  induction h generalizing pages' with
  | done hask =>
    cases h' with
    | done _ => rfl
    | more hask' hlast _ _ =>
      rw [hask] at hask'
      cases hask'
      cases hlast
  | more hask hlast hnext _ ih =>
    cases h' with
    | done hask' =>
      rw [hask] at hask'
      cases hask'
      cases hlast
    | more hask' hlast' hnext' hmore' =>
      rw [hask] at hask'
      cases hask'
      rw [hlast] at hlast'
      cases hlast'
      rw [hnext] at hnext'
      cases hnext'
      rw [ih hmore']

end Polls

/-! ### What is asked -/

/-- The answer to a call for the changes behind a number. -/
def changesBehind (source : Catalog.Source) (links : Links) (call : Call) (serial : Int64) :
    Except Fault Json :=
  Query.changelogSinceSerial.reply source links
    { call with params := { positional := [.ofInt64 serial] } }

/-- The answer to a call for the number of the last change. -/
def lastChange (source : Catalog.Source) (links : Links) (call : Call) : Except Fault Json :=
  Query.changelogLastSerial.reply source links { call with params := {} }

variable {c : Catalog} {links : Links} {call : Call} {serial : Int64}

theorem changesBehind_eq (c : Catalog) (links : Links) (call : Call) (serial : Int64) :
    changesBehind (.ok c) links call serial =
      .ok (.arr (((c.behind serial).take changelogLimit).map (changelogRow true))) := by
  have hint : Arguments.int ⟨[("serial", .ofInt64 serial)]⟩ "serial" = .ok serial := by
    simp [Arguments.int, Arguments.expect, Arguments.get?, Json.field?]
  have hbind : Schema.bind (.checked Query.changelogSinceSerial.params)
      { positional := [.ofInt64 serial] } = .ok ⟨[("serial", .ofInt64 serial)]⟩ :=
    Schema.bind_singleton (ParamType.conforms_ofInt64 serial)
  rw [changesBehind, Query.reply, hbind]
  dsimp only
  rw [Query.handler, Query.result, hint]
  rfl

theorem lastChange_eq (c : Catalog) (links : Links) (call : Call) :
    lastChange (.ok c) links call = .ok (changelogLastSerial c) := rfl

theorem lastChange_of_lastSerial (h : c.lastSerial = some serial) :
    lastChange (.ok c) links call = .ok (.ofInt64 serial) := by
  rw [lastChange_eq, changelogLastSerial, h]

@[simp] theorem rowSerial?_changelogRow (e : JournalEntry) :
    rowSerial? (changelogRow true e) = some e.id := by
  simp [rowSerial?, changelogRow]

/-- The columns of a row. -/
theorem changelogRow_true (e : JournalEntry) : changelogRow true e =
    .arr [.str e.name, e.version.elim .null .str, .ofInt64 (Int64.ofInt e.submitted.seconds),
      .str e.action, .ofInt64 e.id] := by
  cases hversion : e.version <;> simp [changelogRow, Json.ofText?, hversion]

/-! ### A whole poll -/

/-- **Polling goes through the changes behind a number in portions.** The induction is on the number
of these changes: a page that is not empty takes some of them away. -/
theorem exists_polls (hstrict : c.journal.Pairwise fun a b => a.id < b.id) (links : Links)
    (call : Call) (serial : Int64) :
    ∃ portions : List (List JournalEntry),
      Polls (changesBehind (.ok c) links call) serial (portions.map (·.map (changelogRow true))) ∧
      portions.flatten = c.behind serial ∧
      ∀ portion ∈ portions.dropLast.dropLast, portion.length = changelogLimit := by
  induction hn : (c.behind serial).length using Nat.strongRecOn generalizing serial with
  | ind n ih =>
    subst hn
    have hask := changesBehind_eq c links call serial
    have hpositive : 0 < changelogLimit := by decide
    cases hlast : ((c.behind serial).take changelogLimit).getLast? with
    | none =>
      have hnil : c.behind serial = [] := by
        rw [List.getLast?_eq_none_iff, List.take_eq_nil_iff] at hlast
        exact hlast.resolve_left hpositive.ne'
      refine ⟨[[]], .done ?_, by simp [hnil], by simp⟩
      rw [hask, hnil]
      rfl
    | some last =>
      have hrest := Catalog.behind_of_getLast?_take hstrict hlast
      have hne : c.behind serial ≠ [] := by
        intro hnil
        simp [hnil] at hlast
      have hlt : (c.behind last.id).length < (c.behind serial).length := by
        have := List.length_pos_iff.mpr hne
        rw [hrest, List.length_drop]
        omega
      obtain ⟨portions, hpolls, hflatten, hfull⟩ := ih _ hlt last.id rfl
      have hrow : (((c.behind serial).take changelogLimit).map (changelogRow true)).getLast? =
          some (changelogRow true last) := by
        rw [List.getLast?_map, hlast]
        rfl
      refine ⟨(c.behind serial).take changelogLimit :: portions,
        .more hask hrow (rowSerial?_changelogRow last) hpolls, ?_, ?_⟩
      · rw [List.flatten_cons, hflatten, hrest, List.take_append_drop]
      intro portion hmem
      match portions with
      | [] => cases hmem
      | [second] => cases hmem
      | second :: third :: others =>
        simp only [List.dropLast_cons_cons, List.mem_cons] at hmem hfull
        rcases hmem with rfl | hmem
        · -- a page follows that is not empty, so this one was cut off
          have hsecond : second ≠ [] := by
            simpa using hpolls.ne_nil_of_cons
          have hleft : (c.behind serial).drop changelogLimit ≠ [] := by
            rw [← hrest, ← hflatten]
            simp [hsecond]
          have := List.length_pos_iff.mpr hleft
          rw [List.length_drop] at this
          rw [List.length_take]
          omega
        · exact hfull portion hmem

/-- **A mirror that polls misses nothing.** Over a journal with distinct numbers, loaded in any order,
a mirror that starts with a number receives one sequence of pages and is done: these hold the rows of
the changes behind the number, each once and in the order of their numbers. The columns of a row are
the name, the version, the second, the action and the number of the change. Every page but the last
two holds 50000 rows. If there was a row, the number in the last one is that of the last change; and
behind that number there is nothing. -/
theorem polls_of_nodup {d : Catalog.Document} (h : (d.journal.map (·.id)).Nodup) (links : Links)
    (call : Call) (serial : Int64) :
    let source : Catalog.Source := .ok (Catalog.ofDocument d)
    let row : JournalEntry → Json := fun e =>
      .arr [.str e.name, e.version.elim .null .str, .ofInt64 (Int64.ofInt e.submitted.seconds),
        .str e.action, .ofInt64 e.id]
    (∃ pages, Polls (changesBehind source links call) serial pages ∧
      (∀ pages', Polls (changesBehind source links call) serial pages' → pages' = pages) ∧
      (∃ entries : List JournalEntry, pages.flatten = entries.map row ∧
        entries.Perm (d.journal.filter fun e => serial < e.id) ∧
        entries.Pairwise fun a b => a.id < b.id) ∧
      (∀ page ∈ pages.dropLast.dropLast, page.length = 50000) ∧
      ∀ row, pages.flatten.getLast? = some row → ∃ last, rowSerial? row = some last ∧
        lastChange source links call = .ok (.ofInt64 last)) ∧
    (d.journal ≠ [] → ∃ last, lastChange source links call = .ok (.ofInt64 last) ∧
      changesBehind source links call last = .ok (.arr [])) := by
  intro source row
  have hrow : changelogRow true = row := funext changelogRow_true
  have hstrict := Catalog.pairwise_lt_journal h
  have hsorted := Catalog.pairwise_le_journal d
  refine ⟨?_, fun hne => ?_⟩
  · obtain ⟨portions, hpolls, hflatten, hfull⟩ := exists_polls hstrict links call serial
    have hrows : (portions.map (·.map (changelogRow true))).flatten =
        ((Catalog.ofDocument d).behind serial).map (changelogRow true) := by
      rw [← List.map_flatten, hflatten]
    refine ⟨_, hpolls, fun pages' hpolls' => hpolls'.eq hpolls,
      ⟨_, hrow ▸ hrows, (Catalog.journal_perm d).filter _, hstrict.filter _⟩, ?_, ?_⟩
    · intro page hmem
      rw [← List.map_dropLast, ← List.map_dropLast] at hmem
      obtain ⟨portion, hportion, rfl⟩ := List.mem_map.mp hmem
      rw [List.length_map]
      exact hfull portion hportion
    · intro shown hshown
      rw [hrows, List.getLast?_map, Option.map_eq_some_iff] at hshown
      obtain ⟨last, hlast, rfl⟩ := hshown
      have hne : (Catalog.ofDocument d).behind serial ≠ [] := by
        intro hnil
        simp [hnil] at hlast
      rw [Catalog.getLast?_behind hsorted hne] at hlast
      refine ⟨last.id, rowSerial?_changelogRow last, lastChange_of_lastSerial ?_⟩
      rw [Catalog.lastSerial, hlast]
      rfl
  · have hloaded : (Catalog.ofDocument d).journal ≠ [] := by
      simpa [← List.length_pos_iff, (Catalog.journal_perm d).length_eq] using hne
    obtain ⟨last, hlast⟩ : ∃ last, (Catalog.ofDocument d).lastSerial = some last := by
      rw [Catalog.lastSerial, List.getLast?_eq_some_getLast hloaded]
      exact ⟨_, rfl⟩
    refine ⟨last, lastChange_of_lastSerial hlast, ?_⟩
    rw [changesBehind_eq, Catalog.behind_lastSerial hsorted hlast]
    rfl

/-- Three changes are loaded out of order, and the mirror knows the one with the least number, which
is negative. -/
theorem polls_of_nodup_shuffled :
    let entry : Int64 → JournalEntry := fun id =>
      { id, name := "Flask", submitted := ⟨0, 0, by decide, by decide, by decide, by decide⟩
        action := "create" }
    let d : Catalog.Document := { journal := [entry 5, entry (-2), entry 3] }
    let links : Links := ⟨"pypi.test", ""⟩
    let call : Call := ⟨"mirror", "pypi", "changelog_since_serial", {}⟩
    let source : Catalog.Source := .ok (Catalog.ofDocument d)
    (d.journal.map (·.id)).Nodup ∧
    ∃ pages, Polls (changesBehind source links call) (-2) pages ∧
      pages.flatten = [.arr [.str "Flask", .null, .ofInt64 0, .str "create", .ofInt64 3],
        .arr [.str "Flask", .null, .ofInt64 0, .str "create", .ofInt64 5]] ∧
      ∃ last, lastChange source links call = .ok (.ofInt64 last) ∧
        changesBehind source links call last = .ok (.arr []) := by
  intro entry d links call source
  have hnodup : (d.journal.map (·.id)).Nodup := by decide
  obtain ⟨⟨pages, hpolls, -, ⟨entries, hrows, hperm, hstrict⟩, -⟩, hlast⟩ :=
    polls_of_nodup hnodup links call (-2)
  have hentries : entries = [entry 3, entry 5] := by
    have hbehind : (d.journal.filter fun e => (-2 : Int64) < e.id).Perm [entry 3, entry 5] := by
      decide
    have hsorted : [entry 3, entry 5].Pairwise fun a b => a.id < b.id := by decide
    refine (hperm.trans hbehind).eq_of_pairwise (fun a b _ _ hab hba => ?_) hstrict hsorted
    exact absurd (Int64.lt_trans hab hba) Int64.lt_irrefl
  refine ⟨hnodup, pages, hpolls, ?_, hlast (by simp [d])⟩
  rw [hrows, hentries]
  rfl

end IndexGateway.Legacy
