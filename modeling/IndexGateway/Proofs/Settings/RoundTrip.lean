import IndexGateway.Proofs.Toml.Document
import IndexGateway.Settings.Document

/-!
# Settings survive being written

Settings can be written exactly if the window and the room are numbers of the signed 64-bit
range; the other numbers always are. The document then reads back as the settings it was
written for, whatever characters their texts hold, so that their flaws are the same too.
-/

namespace IndexGateway.Settings

open Toml

/-! ### Groups -/

theorem map_find?_contentOf {names : List String} {leaves : List Leaf} (hnodup : names.Nodup)
    (hlength : names.length = leaves.length) :
    names.map (fun name => Entries.find? name (contentOf (names.zip leaves))) =
      leaves.map fun leaf => some leaf.node := by
  induction names generalizing leaves with
  | nil =>
    cases leaves with
    | nil => rfl
    | cons leaf leaves => cases hlength
  | cons name names ih =>
    cases leaves with
    | nil => cases hlength
    | cons leaf leaves =>
      obtain ⟨hname, hnodup⟩ := List.nodup_cons.mp hnodup
      have hskip : ∀ other ∈ names,
          Entries.find? other (contentOf ((name :: names).zip (leaf :: leaves))) =
            Entries.find? other (contentOf (names.zip leaves)) := by
        intro other hother
        have hne : name ≠ other := fun h => hname (h ▸ hother)
        simp [contentOf, Entries.find?, hne]
      rw [List.map_cons, List.map_congr_left hskip, ih hnodup (Nat.succ.inj hlength), List.map_cons]
      simp [contentOf, Entries.find?]

/-- A group that is written with all its settings gives a node for each. -/
theorem group_contentOf {names : List String} {leaves : List Leaf} (hnodup : names.Nodup)
    (hlength : names.length = leaves.length) (origin : Toml.Origin) :
    group names (some (.table origin (contentOf (names.zip leaves)))) =
      some (leaves.map fun leaf => some leaf.node) :=
  congrArg some (map_find?_contentOf hnodup hlength)

/-! ### Numbers -/

/-- The largest number that can be written. -/
def largest : Nat := 2 ^ 63 - 1

theorem exists_count {n : Nat} (h : n ≤ largest) :
    ∃ m : Int64, count n = some (.int m) ∧ m.toInt = n := by
  have hlt : n < 9223372036854775808 := by
    have : largest = 9223372036854775807 := rfl
    omega
  refine ⟨Int64.ofInt n, ?_, Int64.toInt_ofInt_of_le ?_ ?_⟩
  · have hrange : -9223372036854775808 ≤ (n : Int) ∧ (n : Int) < 9223372036854775808 := by omega
    simp [count, int64?, hrange]
  · show -9223372036854775808 ≤ (n : Int)
    omega
  · show (n : Int) < 9223372036854775808
    omega

theorem count_eq_none {n : Nat} (h : ¬ n ≤ largest) : count n = none := by
  have hrange : ¬ (n : Int) < 9223372036854775808 := by
    have : largest = 9223372036854775807 := rfl
    omega
  simp [count, int64?, hrange]

theorem below_int {bound n : Nat} {m : Int64} (h : m.toInt = n) (hn : n < bound) :
    below bound (.int m) = some n := by
  simp [below, h, hn]

/-! ### The written groups -/

/-- The groups that are written, where the numbers are given as they are written. -/
def groups (s : Settings) (requests window port capacity : Int64) :
    List (String × List (String × Leaf)) := [
  ("gateway", linksNames.zip [.text s.links.domain, .text s.links.filesUrl]),
  ("rate_limit", quotaNames.zip [.bool s.quota.enabled, .int requests, .int window]),
  ("metrics",
    agentNames.zip [.bool s.agent.enabled, .text s.agent.host, .int port, .text s.agent.stem]),
  ("cache", roomNames.zip [.bool s.room.enabled, .int capacity]),
  ("logging", loggingNames.zip [.text s.logging.level, .text s.logging.format.name])]

section Groups

variable {s : Settings} {requests window port capacity : Int64}

theorem sections_eq_groups (hrequests : count s.quota.requests.toNat = some (.int requests))
    (hwindow : count s.quota.windowSeconds.toNat = some (.int window))
    (hport : count s.agent.port.toNat = some (.int port))
    (hcapacity : count s.room.capacity.toNat = some (.int capacity)) :
    s.sections = some (groups s requests window port capacity) := by
  simp [sections, groups, hrequests, hwindow, hport, hcapacity]

theorem hasBareKeys_zip {α : Type} {names : List String} {values : List α} (hnodup : names.Nodup)
    (hbare : ∀ name ∈ names, IsBare name) (hlength : names.length ≤ values.length) :
    HasBareKeys (names.zip values) where
  nodup := by rwa [List.map_fst_zip hlength]
  bare e he := hbare e.1 (List.of_mem_zip he).1

theorem hasBareKeys_groups : HasBareKeys (groups s requests window port capacity) where
  nodup := by simp [groups]
  bare := by
    simp only [groups, List.forall_mem_cons]
    decide +kernel

/-- The settings of each group have names that need no quotes. -/
theorem hasBareKeys_of_mem_groups {g : String × List (String × Leaf)}
    (h : g ∈ groups s requests window port capacity) : HasBareKeys g.2 := by
  simp only [groups, List.mem_cons, List.not_mem_nil, or_false] at h
  rcases h with rfl | rfl | rfl | rfl | rfl
  · exact hasBareKeys_zip (by decide) (by decide +kernel) (Nat.le_refl 2)
  · exact hasBareKeys_zip (by decide) (by decide +kernel) (Nat.le_refl 3)
  · exact hasBareKeys_zip (by decide) (by decide +kernel) (Nat.le_refl 4)
  · exact hasBareKeys_zip (by decide) (by decide +kernel) (Nat.le_refl 2)
  · exact hasBareKeys_zip (by decide) (by decide +kernel) (Nat.le_refl 2)

theorem readLinks_contentOf (links : Legacy.Links) (origin : Toml.Origin) :
    readLinks (some (.table origin (contentOf
      (linksNames.zip [.text links.domain, .text links.filesUrl])))) = some links := by
  rw [readLinks, group_contentOf (by decide) rfl]
  rfl

theorem readQuota_contentOf {q : Quota} (hrequests : requests.toInt = q.requests.toNat)
    (hwindow : window.toInt = q.windowSeconds.toNat) (origin : Toml.Origin) :
    readQuota (some (.table origin (contentOf
      (quotaNames.zip [.bool q.enabled, .int requests, .int window])))) = some q := by
  rw [readQuota, group_contentOf (by decide) rfl]
  simp [value, bool, Leaf.node, below_int hrequests q.requests.toNat_lt,
    below_int hwindow q.windowSeconds.toNat_lt]

theorem readAgent_contentOf {a : Agent} (hport : port.toInt = a.port.toNat) (origin : Toml.Origin) :
    readAgent (some (.table origin (contentOf
      (agentNames.zip [.bool a.enabled, .text a.host, .int port, .text a.stem])))) = some a := by
  rw [readAgent, group_contentOf (by decide) rfl]
  simp [value, bool, text, Leaf.node, below_int hport a.port.toNat_lt]

theorem readRoom_contentOf {r : Room} (hcapacity : capacity.toInt = r.capacity.toNat)
    (origin : Toml.Origin) :
    readRoom (some (.table origin (contentOf
      (roomNames.zip [.bool r.enabled, .int capacity])))) = some r := by
  rw [readRoom, group_contentOf (by decide) rfl]
  simp [value, bool, Leaf.node, below_int hcapacity r.capacity.toNat_lt]

theorem ofName?_name (f : LogFormat) : LogFormat.ofName? f.name = some f := by
  cases f <;> rfl

theorem readLogging_contentOf (l : Logging) (origin : Toml.Origin) :
    readLogging (some (.table origin (contentOf
      (loggingNames.zip [.text l.level, .text l.format.name])))) = some l := by
  rw [readLogging, group_contentOf (by decide) rfl]
  simp [value, text, format, Leaf.node, ofName?_name]

/-- What is written is read as the settings. -/
theorem ofEntries?_groups (hrequests : requests.toInt = s.quota.requests.toNat)
    (hwindow : window.toInt = s.quota.windowSeconds.toNat)
    (hport : port.toInt = s.agent.port.toNat) (hcapacity : capacity.toInt = s.room.capacity.toNat) :
    ofEntries? (tablesOf (groups s requests window port capacity)) = some s := by
  simp [ofEntries?, groups, tablesOf, Entries.find?, readLinks_contentOf,
    readQuota_contentOf hrequests hwindow, readAgent_contentOf hport, readRoom_contentOf hcapacity,
    readLogging_contentOf]

end Groups

/-! ### The round trip -/

/-- Settings whose numbers can be written read back. -/
theorem exists_toText? {s : Settings} (hwindow : s.quota.windowSeconds.toNat ≤ largest)
    (hcapacity : s.room.capacity.toNat ≤ largest) :
    ∃ text, s.toText? = some text ∧ ofText? text = some s := by
  have hrequests : s.quota.requests.toNat ≤ largest := by
    have := s.quota.requests.toNat_lt
    unfold largest
    omega
  have hport : s.agent.port.toNat ≤ largest := by
    have := s.agent.port.toNat_lt
    unfold largest
    omega
  obtain ⟨requests, hwriteRequests, hreadRequests⟩ := exists_count hrequests
  obtain ⟨window, hwriteWindow, hreadWindow⟩ := exists_count hwindow
  obtain ⟨port, hwritePort, hreadPort⟩ := exists_count hport
  obtain ⟨capacity, hwriteCapacity, hreadCapacity⟩ := exists_count hcapacity
  refine ⟨String.ofList (sectionsChars (groups s requests window port capacity)), ?_, ?_⟩
  · rw [toText?, sections_eq_groups hwriteRequests hwriteWindow hwritePort hwriteCapacity]
    rfl
  · have hparse : Toml.parse? (String.ofList (sectionsChars (groups s requests window port capacity))) =
        some (tablesOf (groups s requests window port capacity)) := by
      rw [Toml.parse?, String.toList_ofList]
      exact ofChars?_sectionsChars hasBareKeys_groups fun _ => hasBareKeys_of_mem_groups
    rw [ofText?, hparse]
    exact ofEntries?_groups hreadRequests hreadWindow hreadPort hreadCapacity

/-- A number that is too large stops the writing. -/
theorem toText?_eq_none {s : Settings} (h : ¬ (s.quota.windowSeconds.toNat ≤ largest ∧
    s.room.capacity.toNat ≤ largest)) : s.toText? = none := by
  rcases Decidable.not_and_iff_or_not.mp h with h | h <;> simp [toText?, sections, count_eq_none h]

/-- **Settings survive being written.** They can be written exactly if the window and the room are at
most `2 ^ 63 - 1`; and then what was written reads back as the same settings, which therefore have
the same flaw, if any. -/
theorem ofText?_toText? (s : Settings) :
    (s.toText?.isSome ↔
      s.quota.windowSeconds.toNat ≤ 2 ^ 63 - 1 ∧ s.room.capacity.toNat ≤ 2 ^ 63 - 1) ∧
    ∀ text, s.toText? = some text →
      ofText? text = some s ∧ (ofText? text).map flaw? = some s.flaw? := by
  by_cases h : s.quota.windowSeconds.toNat ≤ largest ∧ s.room.capacity.toNat ≤ largest
  · obtain ⟨text, hwrite, hread⟩ := exists_toText? h.1 h.2
    refine ⟨⟨fun _ => h, fun _ => by rw [hwrite]; rfl⟩, fun text' htext' => ?_⟩
    obtain rfl : text = text' := Option.some.inj (hwrite.symm.trans htext')
    exact ⟨hread, by rw [hread]; rfl⟩
  · have hnone := toText?_eq_none h
    refine ⟨⟨fun hsome => ?_, fun hle => absurd hle h⟩, fun text htext => ?_⟩
    · rw [hnone] at hsome
      cases hsome
    · rw [hnone] at htext
      cases htext

/-- The texts hold quotes of both kinds, backslashes, line ends and control characters, and the room
is the largest that can be written. -/
theorem ofText?_toText?_odd :
    let s : Settings := {
      links := ⟨"\"it's\"\\\x00", "'''\r\n\\\"\"\" \x7bpath\x7d\"\""⟩
      agent := { enabled := true, host := "\n", port := 65535, stem := "''\tC:\\''" }
      room := { capacity := 9223372036854775807 } }
    ∃ text, s.toText? = some text ∧ ofText? text = some s := by
  intro s
  obtain ⟨hwrite, hread⟩ := ofText?_toText? s
  obtain ⟨text, htext⟩ := Option.isSome_iff_exists.mp (hwrite.mpr (by decide))
  exact ⟨text, htext, (hread text htext).1⟩

end IndexGateway.Settings
