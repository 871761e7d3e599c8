import IndexGateway.Legacy.Table
import IndexGateway.Proofs.Json.ReadBack

/-!
# What queries answer

The results of the queries hold no floating-point number and are nested at most three
deep, so they survive being written and read again.
-/

namespace IndexGateway.Legacy

open Json

/-- A value without floating-point numbers whose nesting is bounded. -/
def IsPlain (n : Nat) (v : Json) : Prop := IsFloatless v ∧ v.nesting ≤ n

section Plain

variable {n : Nat}

@[simp] theorem isPlain_null : IsPlain n .null := ⟨.null, Nat.zero_le n⟩

@[simp] theorem isPlain_bool (b : Bool) : IsPlain n (.bool b) := ⟨.bool b, Nat.zero_le n⟩

@[simp] theorem isPlain_str (s : String) : IsPlain n (.str s) := ⟨.str s, Nat.zero_le n⟩

@[simp] theorem isPlain_ofInt64 (i : Int64) : IsPlain n (.ofInt64 i) := ⟨.int _, Nat.zero_le n⟩

@[simp] theorem isPlain_ofUInt64 (i : UInt64) : IsPlain n (.ofUInt64 i) := ⟨.int _, Nat.zero_le n⟩

@[simp] theorem isPlain_ofText? (s? : Option String) : IsPlain n (.ofText? s?) := by
  cases s? with
  | none => exact isPlain_null
  | some s => exact isPlain_str s

@[simp] theorem isPlain_arr_iff {items : List Json} :
    IsPlain (n + 1) (.arr items) ↔ ∀ v ∈ items, IsPlain n v := by
  unfold IsPlain
  rw [isFloatless_arr_iff, nesting_arr_le_iff]
  exact forall₂_and.symm

@[simp] theorem isPlain_obj_iff {fields : List (String × Json)} :
    IsPlain (n + 1) (.obj fields) ↔ ∀ f ∈ fields, IsPlain n f.2 := by
  unfold IsPlain
  rw [isFloatless_obj_iff, nesting_obj_le_iff]
  exact forall₂_and.symm

@[simp] theorem isPlain_ofTexts (texts : List String) : IsPlain (n + 1) (.ofTexts texts) := by
  rw [ofTexts, isPlain_arr_iff, List.forall_mem_map]
  exact fun s _ => isPlain_str s

theorem IsPlain.mono {m : Nat} {v : Json} (h : IsPlain n v) (hle : n ≤ m) : IsPlain m v :=
  ⟨h.1, Nat.le_trans h.2 hle⟩

end Plain

/-! ### The results of each query -/

theorem isPlain_releaseData (links : Links) (p : Catalog.Project) (r : Catalog.Release) :
    IsPlain 2 (releaseData links p r) := by
  simp [releaseData, uncounted]

theorem isPlain_fileData (links : Links) (f : Catalog.File) : IsPlain 2 (fileData links f) := by
  simp [fileData, uncounted]

theorem isPlain_listPackagesWithSerial (c : Catalog) : IsPlain 1 (listPackagesWithSerial c) := by
  rw [listPackagesWithSerial, isPlain_obj_iff]
  intro f hf
  obtain ⟨⟨name, serial⟩, -, rfl⟩ := List.mem_map.mp ((collectFields_spec _).2 f hf)
  exact isPlain_ofInt64 serial

theorem isPlain_releaseDataOf (links : Links) (project? : Option Catalog.Project) (version : String) :
    IsPlain 2 (releaseDataOf links project? version) := by
  unfold releaseDataOf
  split
  · simp
  · split
    · simp
    · exact isPlain_releaseData links _ _

theorem isPlain_releaseUrlsOf (links : Links) (project? : Option Catalog.Project) (version : String) :
    IsPlain 3 (releaseUrlsOf links project? version) := by
  unfold releaseUrlsOf
  split
  · simp
  · rw [isPlain_arr_iff, List.forall_mem_map]
    exact fun f _ => isPlain_fileData links f

/-- A list of rows is plain if its rows are. -/
theorem isPlain_rows {α : Type} {row : α → Json} {n : Nat} (h : ∀ a, IsPlain n (row a)) (found : List α) :
    IsPlain (n + 1) (.arr (found.map row)) := by
  rw [isPlain_arr_iff, List.forall_mem_map]
  exact fun a _ => h a

theorem isPlain_pair (a b : String) : IsPlain 1 (pair a b) := isPlain_ofTexts _

theorem isPlain_changelogRow (withId : Bool) (e : Catalog.JournalEntry) :
    IsPlain 1 (changelogRow withId e) := by
  cases withId <;> simp [changelogRow]

theorem isPlain_changelogLastSerial (c : Catalog) : IsPlain 0 (changelogLastSerial c) := by
  rw [changelogLastSerial]
  split <;> simp

theorem Query.eq_of_ask {α : Type} {source : Catalog.Source} {question : Catalog → α} {a : α}
    (h : Query.ask source question = .ok a) : ∃ c, a = question c := by
  cases source with
  | error e => cases h
  | ok c => exact ⟨c, (Except.ok.inj h).symm⟩

/-- A computation in steps has a result if its first step has one and the others go on from there. -/
theorem exists_of_bind_eq_ok {ε α β : Type} {x : Except ε α} {f : α → Except ε β} {b : β}
    (h : (x >>= f) = .ok b) : ∃ a, x = .ok a ∧ f a = .ok b := by
  cases x with
  | error e => cases h
  | ok a => exact ⟨a, rfl, h⟩

/-- **What a query answers is plain**: it holds no floating-point numbers and is nested at most three
deep. -/
theorem isPlain_of_result {source : Catalog.Source} {links : Links} {args : Arguments} {q : Query}
    {v : Json} (h : q.result source links args = .ok v) : IsPlain 3 v := by
  cases q with
  | listPackages =>
    obtain ⟨c, rfl⟩ := Query.eq_of_ask h
    exact isPlain_ofTexts _
  | listPackagesWithSerial =>
    obtain ⟨c, rfl⟩ := Query.eq_of_ask h
    exact (isPlain_listPackagesWithSerial c).mono (by decide)
  | packageHostingMode =>
    cases h
    exact isPlain_str _
  | userPackages =>
    obtain ⟨username, -, h⟩ := exists_of_bind_eq_ok h
    obtain ⟨c, rfl⟩ := Query.eq_of_ask h
    exact (isPlain_rows (fun r => isPlain_pair _ _) _).mono (by decide)
  | packageReleases =>
    obtain ⟨project?, -, h⟩ := exists_of_bind_eq_ok h
    cases project? with
    | none =>
      cases h
      simp
    | some p =>
      obtain ⟨showHidden, -, h⟩ := exists_of_bind_eq_ok h
      cases h
      exact isPlain_ofTexts _
  | releaseData =>
    obtain ⟨version, -, h⟩ := exists_of_bind_eq_ok h
    obtain ⟨project?, -, h⟩ := exists_of_bind_eq_ok h
    cases h
    exact (isPlain_releaseDataOf links project? version).mono (by decide)
  | releaseUrls =>
    obtain ⟨version, -, h⟩ := exists_of_bind_eq_ok h
    obtain ⟨project?, -, h⟩ := exists_of_bind_eq_ok h
    cases h
    exact isPlain_releaseUrlsOf links project? version
  | packageRoles =>
    obtain ⟨name, -, h⟩ := exists_of_bind_eq_ok h
    obtain ⟨c, rfl⟩ := Query.eq_of_ask h
    exact (isPlain_rows (fun r => isPlain_pair _ _) _).mono (by decide)
  | changelogLastSerial =>
    obtain ⟨c, rfl⟩ := Query.eq_of_ask h
    exact (isPlain_changelogLastSerial c).mono (by decide)
  | changelogSinceSerial =>
    obtain ⟨serial, -, h⟩ := exists_of_bind_eq_ok h
    obtain ⟨c, rfl⟩ := Query.eq_of_ask h
    exact (isPlain_rows (isPlain_changelogRow true) _).mono (by decide)
  | changelog =>
    obtain ⟨seconds, -, h⟩ := exists_of_bind_eq_ok h
    obtain ⟨withIds, -, h⟩ := exists_of_bind_eq_ok h
    obtain ⟨since, -, h⟩ := exists_of_bind_eq_ok h
    obtain ⟨c, rfl⟩ := Query.eq_of_ask h
    exact (isPlain_rows (isPlain_changelogRow withIds) _).mono (by decide)
  | browse =>
    obtain ⟨classifiers, -, h⟩ := exists_of_bind_eq_ok h
    obtain ⟨c, rfl⟩ := Query.eq_of_ask h
    exact (isPlain_rows (fun r => isPlain_pair _ _) _).mono (by decide)

end IndexGateway.Legacy
