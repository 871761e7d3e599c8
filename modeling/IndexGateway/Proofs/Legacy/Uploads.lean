import IndexGateway.Proofs.Instant.RoundTrip
import IndexGateway.Proofs.Json.Safe
import IndexGateway.Proofs.Legacy.Replies

/-!
# Times of uploads

The files of a release are listed with the times of their upload, which are shown to the
microsecond. What is behind it is cut off, and nothing else: the text can be read as a
document would read it, in every year that can be represented and in leap seconds, and
stands for the instant without its last three digits.

A leap second is shown as the second 60, and it always has a fraction, since its
microseconds count on from one million.

## What is proved

* `Instant.ofText?_uploadText` — what is read from the time of an upload.
* `Instant.uploadText_eq_iff` — the instants that are shown alike.
* `upload_times_to_microsecond` — the rows that are answered show these texts, which are
  not changed when the answer is cleaned.
-/

namespace IndexGateway

open Text

namespace Instant

variable {t u : Instant}

/-! ### Microseconds -/

/-- The start of the microsecond of an instant. -/
def truncated (t : Instant) : Instant where
  seconds := t.seconds
  nanos := t.nanos / 1000 * 1000
  lower := t.lower
  upper := t.upper
  nanos_lt := by
    have := t.nanos_lt
    omega
  leap h := t.leap (by omega)

/-- Two instants lie in the same microsecond exactly if they are of the same second and have the same
number of whole microseconds. -/
theorem truncated_eq_iff :
    t.truncated = u.truncated ↔ t.seconds = u.seconds ∧ t.nanos / 1000 = u.nanos / 1000 := by
  simp only [truncated, Instant.mk.injEq]
  exact and_congr_right fun _ => Nat.mul_left_inj (by decide)

/-- The fraction of a second in the time of an upload. -/
def uploadFraction (t : Instant) : List Char :=
  if t.micros = 0 then [] else '.' :: Numeral.padded 6 (t.micros % 1000000)

theorem toList_uploadText (t : Instant) :
    t.uploadText.toList = t.wholeText ++ t.uploadFraction ++ ['Z'] := by
  rw [uploadText, String.toList_ofList]
  rfl

/-! ### What is read -/

/-- The fraction is read as the microseconds behind the second that is written. -/
theorem readFraction_uploadFraction (t : Instant) : readFraction (t.uploadFraction ++ ['Z']) =
    some (1000 * (t.micros % 1000000), ['Z']) := by
  unfold uploadFraction
  split
  · next h =>
    rw [h]
    rfl
  · exact readFraction_padded (by omega) (by decide) (by decide) []

/-- **The time of an upload is read back to the microsecond.** -/
theorem ofText?_uploadText (t : Instant) : ofText? t.uploadText = some t.truncated := by
  have hnanos : 1000 * (t.micros % 1000000) + t.nanos / 1000000000 * 1000000000 =
      t.truncated.nanos := by
    simp only [micros, truncated]
    omega
  rw [ofText?, toList_uploadText, ofChars?_wholeText t (readFraction_uploadFraction t), hnanos]
  exact ofParts?_eq t.truncated

/-- What is cut off does not show. -/
theorem uploadText_truncated (t : Instant) : t.truncated.uploadText = t.uploadText := by
  have hmicros : t.truncated.micros = t.micros := by
    simp only [micros, truncated]
    omega
  have hwhole : t.truncated.wholeText = t.wholeText := by
    have hsecond : t.truncated.nanos / 1000000000 = t.nanos / 1000000000 := by
      simp only [truncated]
      omega
    simp only [wholeText, clockText, hsecond]
    rfl
  rw [← String.toList_inj, toList_uploadText, toList_uploadText, hwhole, uploadFraction, hmicros]
  rfl

/-- **Two instants are shown alike exactly if they lie in the same microsecond.** -/
theorem uploadText_eq_iff : t.uploadText = u.uploadText ↔ t.truncated = u.truncated := by
  constructor
  · intro h
    have hread := ofText?_uploadText t
    rw [h, ofText?_uploadText u] at hread
    exact (Option.some.inj hread).symm
  · intro h
    rw [← uploadText_truncated t, h, uploadText_truncated]

/-- The leap second at the end of the year -1: its nanoseconds do not show, its fraction does. -/
example : uploadText ⟨-62167219201, 1000000999, by decide, by decide, by decide, by decide⟩ =
    "-0001-12-31T23:59:60.000000Z" := by rfl

/-! ### What is written -/

/-- A character of a date or a time of day. -/
def isStamp (c : Char) : Bool := c.isDigit || c = '-' || c = '+' || c = ':' || c = 'T'

theorem isStamp_of_mem_padded {width n : Nat} : ∀ c ∈ Numeral.padded width n, isStamp c = true := by
  intro c hc
  simp [isStamp, Numeral.isDigit_of_mem_padded hc]

theorem isStamp_of_mem_yearText (year : Int) : ∀ c ∈ yearText year, isStamp c = true := by
  unfold yearText
  split
  · exact isStamp_of_mem_padded
  · refine List.forall_mem_cons.mpr ⟨?_, isStamp_of_mem_padded⟩
    split <;> rfl

/-- A date and a time of day are written with digits, signs and separators. -/
theorem isStamp_of_mem_wholeText (t : Instant) : ∀ c ∈ t.wholeText, isStamp c = true := by
  have hmarks : isStamp '-' = true ∧ isStamp ':' = true ∧ isStamp 'T' = true := by decide
  simp only [wholeText, dateText, clockText, List.forall_mem_append, List.forall_mem_cons, hmarks,
    true_and]
  exact ⟨⟨⟨isStamp_of_mem_yearText _, isStamp_of_mem_padded⟩, isStamp_of_mem_padded⟩,
    ⟨isStamp_of_mem_padded, isStamp_of_mem_padded⟩, isStamp_of_mem_padded⟩

theorem isSafe_of_isStamp {c : Char} (h : isStamp c = true) : isSafe c = true := by
  simp only [isStamp, Bool.or_eq_true, decide_eq_true_eq] at h
  rcases h with (((h | rfl) | rfl) | rfl) | rfl
  · exact isSafe_of_isDigit h
  all_goals decide

/-- **The time of an upload has no fraction, or one of six digits**. -/
theorem uploadFraction_cases (t : Instant) : t.uploadFraction = [] ∨
    ∃ digits, t.uploadFraction = '.' :: digits ∧ digits.length = 6 ∧ ∀ c ∈ digits, c.isDigit := by
  unfold uploadFraction
  split
  · exact .inl rfl
  · exact .inr ⟨_, rfl, Numeral.length_padded (by omega) (by decide),
      fun c => Numeral.isDigit_of_mem_padded⟩

/-- The time of an upload is written with safe characters. -/
theorem isSafe_uploadText (t : Instant) : IsSafe t.uploadText := by
  have hfraction : ∀ c ∈ t.uploadFraction, isSafe c = true := by
    rcases uploadFraction_cases t with h | ⟨digits, h, -, hdigits⟩
    · rw [h]
      exact List.forall_mem_nil _
    · rw [h]
      exact List.forall_mem_cons.mpr ⟨by decide, fun c hc => isSafe_of_isDigit (hdigits c hc)⟩
  rw [IsSafe, toList_uploadText, List.forall_mem_append, List.forall_mem_append]
  exact ⟨⟨fun c hc => isSafe_of_isStamp (isStamp_of_mem_wholeText t c hc), hfraction⟩,
    List.forall_mem_singleton.mpr (by decide)⟩

end Instant

/-! ### Rows -/

namespace Json

theorem field?_map_snd (g : Json → Json) (key : String) (fields : List (String × Json)) :
    field? key (fields.map fun f => (f.1, g f.2)) = (field? key fields).map g := by
  induction fields with
  | nil => rfl
  | cons f rest ih =>
    rw [List.map_cons, field?, field?, ih]
    split <;> rfl

end Json

namespace Legacy

open Json

/-- What an answer shows of a file. -/
def fileRow (links : Links) (f : Catalog.File) : Json := (fileData links f).clean

/-- The text that a row shows under a key. -/
def shownText? (key : String) (row : Json) : Option String :=
  row.fields?.bind fun fields => (field? key fields).bind text?

theorem exists_fields_fileData (links : Links) (f : Catalog.File) :
    ∃ fields, fileData links f = .obj fields ∧ (keys fields).Nodup ∧
      (∀ key ∈ keys fields, Text.IsSafe key) ∧
      field? "upload_time" fields = some (.str f.uploadTime.uploadText) ∧
      field? "upload_time_iso_8601" fields = some (.str f.uploadTime.uploadText) := by
  refine ⟨_, rfl, ?_, ?_, rfl, rfl⟩
  · simp only [keys, List.map_cons, List.map_nil]
    decide
  · simp only [keys, List.map_cons, List.map_nil]
    decide

/-- A row shows the time of the upload, as it was before the answer was cleaned. -/
theorem shownText?_fileRow (links : Links) (f : Catalog.File) :
    shownText? "upload_time" (fileRow links f) = some f.uploadTime.uploadText ∧
      shownText? "upload_time_iso_8601" (fileRow links f) = some f.uploadTime.uploadText := by
  obtain ⟨fields, hfields, hdistinct, hsafe, htime, hiso⟩ := exists_fields_fileData links f
  have hclean : (Json.str f.uploadTime.uploadText).clean = .str f.uploadTime.uploadText := by
    rw [Json.clean, Text.clean_eq_self_iff.mpr f.uploadTime.isSafe_uploadText]
  simp [shownText?, fileRow, hfields, clean_obj_of_isSafe hdistinct hsafe, fields?, field?_map_snd,
    htime, hiso, hclean, text?]

/-- **Times of uploads lose nothing above a microsecond.** The files of a release are answered with one
row for each. A row shows the time of the upload twice. The text has no fraction or one of six
digits, and is read, as it would be in a document, as the instant without what is behind its
microseconds. So the rows of two files show the same text exactly if the files were uploaded in the
same microsecond of the same second. -/
theorem upload_times_to_microsecond (links : Links) :
    (∀ (c : Catalog) (call : Call) (name version : String),
      (Query.releaseUrls.replyTo c links call [.str name, .str version]).map Json.clean =
        .ok (.arr (((c.project? name).bind (·.release? version)).elim []
          fun r => r.files.map (fileRow links)))) ∧
    (∀ f : Catalog.File, ∃ shown : String,
      shownText? "upload_time" (fileRow links f) = some shown ∧
      shownText? "upload_time_iso_8601" (fileRow links f) = some shown ∧
      Instant.ofText? shown = some f.uploadTime.truncated ∧
      ∃ whole fraction, shown.toList = whole ++ fraction ++ ['Z'] ∧ '.' ∉ whole ∧
        (fraction = [] ∨ ∃ digits, fraction = '.' :: digits ∧ digits.length = 6 ∧
          ∀ c ∈ digits, c.isDigit)) ∧
    (∀ f f' : Catalog.File,
      shownText? "upload_time" (fileRow links f) = shownText? "upload_time" (fileRow links f') ↔
        f.uploadTime.seconds = f'.uploadTime.seconds ∧
          f.uploadTime.nanos / 1000 = f'.uploadTime.nanos / 1000) := by
  refine ⟨fun c call name version => ?_, fun f => ?_, fun f f' => ?_⟩
  · rw [Query.replyTo_releaseUrls, releaseUrlsOf]
    cases (c.project? name).bind (·.release? version) with
    | none => rfl
    | some r =>
      show Except.ok (Json.clean _) = _
      rw [Json.clean, cleanItems_eq_map, List.map_map]
      rfl
  · obtain ⟨htime, hiso⟩ := shownText?_fileRow links f
    refine ⟨_, htime, hiso, f.uploadTime.ofText?_uploadText, _, _, f.uploadTime.toList_uploadText, ?_,
      f.uploadTime.uploadFraction_cases⟩
    intro hdot
    have hstamp := f.uploadTime.isStamp_of_mem_wholeText '.' hdot
    exact absurd hstamp (by decide)
  · rw [(shownText?_fileRow links f).1, (shownText?_fileRow links f').1, Option.some.injEq,
      Instant.uploadText_eq_iff, Instant.truncated_eq_iff]

end Legacy

end IndexGateway
