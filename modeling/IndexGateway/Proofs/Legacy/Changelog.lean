import IndexGateway.Proofs.Catalog.Journal
import IndexGateway.Proofs.Legacy.AtWork

/-!
# Changes after a time

A mirror may also ask for the changes after a time, which it gives in whole seconds. Three
orders meet in the answer. Changes are chosen by the instants at which they were submitted,
to the nanosecond; their rows tell the seconds of these instants only; and the rows stand in
the order of the numbers of the changes, which need not be that of the instants.

## What is proved

* `exists_ofSeconds?`, `ofSeconds?_eq_none` — the times that are the start of a second that
  can be represented.
* `changelog_by_time` — through an application at work, an answer holds the first changes
  after the start of the second, and a time that is none has its fault. So no row tells an
  earlier second than the one asked for, no change of a later second is missing, and the
  column of the numbers is all that they add.
-/

namespace IndexGateway

/-! ### Seconds -/

namespace Instant

variable {seconds : Int}

theorem exists_ofSeconds? (h : -8334601228800 ≤ seconds ∧ seconds ≤ 8210266876799) :
    ∃ start, ofSeconds? seconds = some start ∧ start.seconds = seconds ∧ start.nanos = 0 := by
  have hparts : -8334601228800 ≤ seconds ∧ seconds ≤ 8210266876799 ∧ 0 < 2000000000 ∧
      (1000000000 ≤ 0 → seconds % 60 = 59) := ⟨h.1, h.2, by decide, nofun⟩
  exact ⟨_, dif_pos hparts, rfl, rfl⟩

theorem ofSeconds?_eq_none (h : ¬ (-8334601228800 ≤ seconds ∧ seconds ≤ 8210266876799)) :
    ofSeconds? seconds = none :=
  dif_neg fun hparts => h ⟨hparts.1, hparts.2.1⟩

/-- The second of an instant is a signed 64-bit word. -/
theorem toInt_ofInt_seconds (t : Instant) : (Int64.ofInt t.seconds).toInt = t.seconds := by
  have hlower := t.lower
  have hupper := t.upper
  exact Int64.toInt_ofInt_of_le (by omega) (by omega)

end Instant

namespace Legacy

open Json
open Catalog (JournalEntry)

variable {c : Catalog} {links : Links} {call : Call} {since : Int64} {withIds : Bool} {e : JournalEntry}

/-! ### Requests -/

/-- **The arguments of a call ask for the changes after a time**, with or without their numbers. -/
def AsksForChanges (given : Params) (since : Int64) (withIds : Bool) : Prop :=
  ∃ args : Arguments, Schema.bind (.checked Query.changelog.params) given = .ok args ∧
    args.int "since" = .ok since ∧ args.bool "with_ids" = .ok withIds

theorem reply_changelog (h : AsksForChanges call.params since withIds) :
    Query.changelog.reply (.ok c) links call =
      match Instant.ofSeconds? since.toInt with
      | some start => .ok (changelog c start withIds)
      | none => .error (Query.outOfRange since) := by
  obtain ⟨args, hbound, hsince, hwithIds⟩ := h
  have hresult : Query.changelog.result (.ok c) links args =
      Query.instantOf since >>= fun start => .ok (changelog c start withIds) := by
    rw [Query.result, hsince, hwithIds]
    rfl
  rw [Query.reply, hbound]
  dsimp only
  rw [Query.handler, hresult, Query.instantOf]
  cases Instant.ofSeconds? since.toInt <;> rfl

/-! ### Rows -/

/-- The row of a change in an answer. -/
def changeRow (withIds : Bool) (e : JournalEntry) : Json := (changelogRow withIds e).clean

/-- The second that a row tells, in its third column. -/
def rowSecond? : Json → Option Int64
  | .arr columns => columns[2]?.bind Json.int64?
  | _ => none

/-- A row without its last column. -/
def withoutLast : Json → Json
  | .arr columns => .arr columns.dropLast
  | v => v

theorem changeRow_eq (withIds : Bool) (e : JournalEntry) : changeRow withIds e =
    .arr ([.str (Text.clean e.name), (Json.ofText? e.version).clean,
      .ofInt64 (Int64.ofInt e.submitted.seconds), .str (Text.clean e.action)] ++
      if withIds then [.ofInt64 e.id] else []) := by
  cases withIds <;> rfl

theorem rowSecond?_changeRow :
    rowSecond? (changeRow withIds e) = some (Int64.ofInt e.submitted.seconds) := by
  simp [changeRow_eq, rowSecond?]

theorem withoutLast_changeRow : withoutLast (changeRow true e) = changeRow false e := by
  simp [changeRow_eq, withoutLast]

theorem clean_changelog (c : Catalog) (start : Instant) (withIds : Bool) :
    (changelog c start withIds).clean =
      .arr ((c.journalSince start changelogLimit).map (changeRow withIds)) := by
  rw [changelog, Json.clean, cleanItems_eq_map, List.map_map]
  rfl

/-! ### Changes -/

/-- Whether a change was submitted after the start of a second, be it by a nanosecond. -/
def isLater (since : Int64) (e : JournalEntry) : Bool :=
  since.toInt < e.submitted.seconds || (since.toInt = e.submitted.seconds && 0 < e.submitted.nanos)

theorem isAfter_eq_isLater {start : Instant} (hseconds : start.seconds = since.toInt)
    (hnanos : start.nanos = 0) : e.submitted.isAfter start = isLater since e := by
  simp only [Instant.isAfter, isLater, hseconds, hnanos, eq_comm]

/-- A change that is shown was submitted in the second asked for, or in a later one. -/
theorem le_second_of_isLater (h : isLater since e = true) : since ≤ Int64.ofInt e.submitted.seconds := by
  rw [Int64.le_iff_toInt_le, e.submitted.toInt_ofInt_seconds]
  simp only [isLater, Bool.or_eq_true, Bool.and_eq_true, decide_eq_true_eq] at h
  omega

theorem isLater_of_lt_second (h : since < Int64.ofInt e.submitted.seconds) : isLater since e = true := by
  rw [Int64.lt_iff_toInt_lt, e.submitted.toInt_ofInt_seconds] at h
  simp [isLater, h]

/-- An item stands among the first ones, or these are as many as there may be. -/
theorem mem_take_or_length_eq {α : Type} {xs : List α} {a : α} (h : a ∈ xs) (limit : Nat) :
    a ∈ xs.take limit ∨ (xs.take limit).length = limit := by
  rcases Nat.lt_or_ge limit xs.length with hlt | hle
  · right
    rw [List.length_take]
    exact Nat.min_eq_left hlt.le
  · rw [List.take_of_length_le hle]
    exact .inl h

/-! ### Answers -/

/-- **The changes after a time are listed exactly.** Let an application serve the table over the index
of a document, and let any time be given as a signed 64-bit word. There is a list of the changes of
the document that were submitted after the start of that second, to the nanosecond and with leap
seconds, by increasing numbers and then in the order of loading. At all times, whatever happened
before, an admitted request for the changes after the time is answered with the rows of the first
50000 of them, or with the fault for the time if that is not in the range of instants. All rows tell
the second asked for or a later one. Every change whose row tells a later second is among those
shown, unless these are 50000. And the rows without numbers are those with numbers without their
last column. -/
theorem changelog_by_time {settings : Settings} {d : Catalog.Document} {started : Moment}
    {app : Application}
    (h : (Application.serving settings (Catalog.ofDocument d) started).1 = .ok app) (since : Int64) :
    ∃ changes : List JournalEntry,
      IsSortedBy (·.id.toInt) (d.journal.filter (isLater since)) changes ∧
      let shown := changes.take 50000
      let rows := fun withIds => shown.map (changeRow withIds)
      (∀ events now r withIds, IsAdmitted (app.after events) now r → r.method = "changelog" →
        AsksForChanges r.params since withIds →
        ((app.after events).call now r).1.result.map (·.value) =
          if -8334601228800 ≤ since.toInt ∧ since.toInt ≤ 8210266876799 then .ok (.arr (rows withIds))
          else .error (.fault (.wrapped .value
            ("timestamp " ++ String.ofList (Text.Numeral.ofInt since.toInt) ++ " is out of range")))) ∧
      (∀ withIds, ∀ row ∈ rows withIds, ∃ second, rowSecond? row = some second ∧ since ≤ second) ∧
      (∀ withIds, ∀ e ∈ d.journal, ∀ second, rowSecond? (changeRow withIds e) = some second →
        since < second → e ∈ shown ∨ shown.length = 50000) ∧
      rows false = (rows true).map withoutLast := by
  have hsorted := (Catalog.isSortedBy_journal d).filter (isLater since)
  refine ⟨_, hsorted, fun events now r withIds hr hname hasks => ?_, fun withIds row hrow => ?_,
    fun withIds e he second hsecond hlt => ?_, ?_⟩
  · rw [result_of_admitted (q := .changelog) (isAtWork_after h events) hr hname,
      reply_changelog hasks]
    split_ifs with hrange
    · obtain ⟨start, hstart, hseconds, hnanos⟩ := Instant.exists_ofSeconds? hrange
      have hchosen : (Catalog.ofDocument d).journalSince start changelogLimit =
          ((Catalog.ofDocument d).journal.filter (isLater since)).take 50000 := by
        rw [Catalog.journalSince, List.filter_congr fun e _ => isAfter_eq_isLater hseconds hnanos]
        rfl
      rw [hstart, ← hchosen, ← clean_changelog]
      rfl
    · rw [Instant.ofSeconds?_eq_none hrange]
      rfl
  · obtain ⟨e, he, rfl⟩ := List.mem_map.mp hrow
    have hlater := (List.mem_filter.mp (List.mem_of_mem_take he)).2
    exact ⟨_, rowSecond?_changeRow, le_second_of_isLater hlater⟩
  · rw [rowSecond?_changeRow] at hsecond
    obtain rfl := Option.some.inj hsecond
    have hmem := List.mem_filter.mpr ⟨he, isLater_of_lt_second hlt⟩
    exact mem_take_or_length_eq (hsorted.perm.mem_iff.mpr hmem) 50000
  · rw [List.map_map]
    exact List.map_congr_left fun e _ => withoutLast_changeRow.symm

/-- Of two changes with the same number, the first was made in the leap second behind the second asked
for. Another change was made right at its start, and one with a lesser number before it. -/
theorem changelog_by_time_leap :
    let entry (id : Int64) (name : String) (submitted : Instant) : JournalEntry :=
      { id, name, submitted, action := "create" }
    let start : Instant := ⟨59, 0, by decide, by decide, by decide, by decide⟩
    let leap : Instant := ⟨59, 1500000000, by decide, by decide, by decide, by decide⟩
    let before : Instant := ⟨-1, 999999999, by decide, by decide, by decide, by decide⟩
    let next : Instant := ⟨60, 0, by decide, by decide, by decide, by decide⟩
    let d : Catalog.Document := { journal :=
      [entry 9 "a" start, entry 7 "b" leap, entry (-3) "c" before, entry 7 "d" next] }
    let settings : Settings := { quota := { enabled := false } }
    let app := Application.assembled settings (Catalog.ofDocument d) 0
    let r : Request := { endpoint := "pypi", method := "changelog"
                         params := { keyword := [("with_ids", .bool true), ("since", .ofInt64 59)] } }
    (Application.serving settings (Catalog.ofDocument d) 0).1 = .ok app ∧
    IsAdmitted (app.after []) 1 r ∧ AsksForChanges r.params 59 true ∧
    ((app.after []).call 1 r).1.result.map (·.value) = .ok (.arr
      [.arr [.str "b", .null, .ofInt64 59, .str "create", .ofInt64 7],
        .arr [.str "d", .null, .ofInt64 60, .str "create", .ofInt64 7]]) := by
  intro entry start leap before next d settings app r
  have happ : (Application.serving settings (Catalog.ofDocument d) 0).1 = .ok app :=
    Application.serving_eq settings _ 0
  have hr : IsAdmitted (app.after []) 1 r := ⟨by decide, by decide, rfl⟩
  have hasks : AsksForChanges r.params 59 true := ⟨_, rfl, rfl, rfl⟩
  obtain ⟨changes, hsorted, hanswers, -⟩ := changelog_by_time happ 59
  have hlater : d.journal.filter (isLater 59) = [entry 7 "b" leap, entry 7 "d" next] := by decide
  rw [hlater] at hsorted
  have hids : ∀ e ∈ changes, decide (e.id.toInt = 7) = true := by
    intro e he
    have hmem := hsorted.perm.mem_iff.mp he
    simp only [List.mem_cons, List.not_mem_nil, or_false] at hmem
    rcases hmem with rfl | rfl <;> rfl
  have hchanges : changes = [entry 7 "b" leap, entry 7 "d" next] :=
    (List.filter_eq_self.mpr hids).symm.trans (hsorted.stable 7)
  refine ⟨happ, hr, hasks, ?_⟩
  rw [hanswers [] 1 r true hr rfl hasks, if_pos (by decide), hchanges]
  simp only [List.take, List.map_cons, List.map_nil, changeRow_eq, entry]
  rfl

end Legacy

end IndexGateway
