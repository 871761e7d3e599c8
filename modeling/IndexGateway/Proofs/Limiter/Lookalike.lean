import IndexGateway.Limiter.Admission
import IndexGateway.Proofs.Limiter.View

/-!
# Limiters that look the same to a caller

Many callers share one table of hits, and whoever hits may be the one whose hit
sweeps it. Nevertheless a caller cannot tell from its own admissions what others do.
Two limiters *look alike* to a caller if they show the same hits of this caller from
some moment on. They go on to look alike when the caller asks both for admission, and
get the same answers (`judge_self`); and they still look alike when another caller
asks one of them (`judge_other`).
-/

namespace IndexGateway

namespace SlidingWindow

/-- Two windows with the same quota and length that show a caller the same hits from a moment on. -/
structure LooksAlike (caller : String) (since : Nat) (w w' : SlidingWindow) : Prop where
  /-- The quota is the same. -/
  quota : w.quota = w'.quota
  /-- The length is the same. -/
  length : w.length = w'.length
  /-- The caller's hits are the same, as far as they are still recent. -/
  view : ∀ later, since ≤ later → w.view later caller = w'.view later caller

namespace LooksAlike

variable {caller : String} {since now : Nat} {w w' : SlidingWindow}

theorem refl (caller : String) (since : Nat) (w : SlidingWindow) : LooksAlike caller since w w :=
  ⟨rfl, rfl, fun _ _ => rfl⟩

theorem symm (h : LooksAlike caller since w w') : LooksAlike caller since w' w where
  quota := h.quota.symm
  length := h.length.symm
  view later hle := (h.view later hle).symm

theorem mono (h : LooksAlike caller since w w') (hle : since ≤ now) : LooksAlike caller now w w' where
  quota := h.quota
  length := h.length
  view later hlater := h.view later (Nat.le_trans hle hlater)

/-- Looking at any caller changes nothing that is seen. -/
theorem refresh_left (h : LooksAlike caller now w w') (c : String) :
    LooksAlike caller now (w.refresh now c) w' where
  quota := (quota_refresh w now c).trans h.quota
  length := (length_refresh w now c).trans h.length
  view later hlater := (view_refresh hlater c).trans (h.view later hlater)

theorem refresh (h : LooksAlike caller now w w') (c : String) :
    LooksAlike caller now (w.refresh now c) (w'.refresh now c) :=
  ((h.refresh_left c).symm.refresh_left c).symm

/-- A hit of another caller changes nothing that is seen, whether it sweeps the table or not. -/
theorem hit_other (h : LooksAlike caller now w w') {c : String} (hc : c ≠ caller) :
    LooksAlike caller now (w.hit now c) w' where
  quota := (quota_sweepIfDue w now).trans h.quota
  length := (length_sweepIfDue w now).trans h.length
  view later hlater := by
    rw [view_hit hlater, if_neg hc]
    exact h.view later hlater

/-- A hit of the caller itself is added to both. -/
theorem hit_self (h : LooksAlike caller now w w') :
    LooksAlike caller now (w.hit now caller) (w'.hit now caller) where
  quota := (quota_sweepIfDue w now).trans (h.quota.trans (quota_sweepIfDue w' now).symm)
  length := (length_sweepIfDue w now).trans (h.length.trans (length_sweepIfDue w' now).symm)
  view later hlater := by
    rw [view_hit hlater, view_hit hlater, if_pos rfl, if_pos rfl, h.view now (Nat.le_refl now)]
    unfold recent isRecent trim
    rw [h.quota, h.length]

theorem test_eq (h : LooksAlike caller now w w') : w.test now caller = w'.test now caller := by
  rw [test_eq_view, test_eq_view, h.view now (Nat.le_refl now), h.quota]

theorem resetsIn_eq (h : LooksAlike caller now w w') :
    w.resetsIn now caller = w'.resetsIn now caller := by
  rw [resetsIn_eq_view, resetsIn_eq_view, h.view now (Nat.le_refl now), h.quota, h.length]

end LooksAlike

end SlidingWindow

namespace Limiter

/-- Two limiters of one kind that show a caller the same from a moment on. -/
inductive LooksAlike (caller : String) (since : Nat) : Limiter → Limiter → Prop where
  /-- Without limits there is nothing to see. -/
  | unlimited : LooksAlike caller since .unlimited .unlimited
  /-- Two windows with the same recent hits of the caller. -/
  | window {w w' : SlidingWindow} : w.LooksAlike caller since w' →
      LooksAlike caller since (.window w) (.window w')
  /-- The same answers are laid down. -/
  | fixed (allow : Bool) (resetsIn : Option Duration) :
      LooksAlike caller since (.fixed allow resetsIn) (.fixed allow resetsIn)

namespace LooksAlike

variable {caller : String} {since now : Nat} {l l' : Limiter}

theorem refl (caller : String) (since : Nat) (l : Limiter) : LooksAlike caller since l l := by
  cases l with
  | unlimited => exact .unlimited
  | window w => exact .window (.refl caller since w)
  | fixed allow resetsIn => exact .fixed allow resetsIn

theorem mono (h : LooksAlike caller since l l') (hle : since ≤ now) : LooksAlike caller now l l' := by
  cases h with
  | unlimited => exact .unlimited
  | window h => exact .window (h.mono hle)
  | fixed allow resetsIn => exact .fixed allow resetsIn

theorem refresh_left (h : LooksAlike caller now l l') (c : String) :
    LooksAlike caller now (l.refresh now c) l' := by
  cases h with
  | unlimited => exact .unlimited
  | window h => exact .window (h.refresh_left c)
  | fixed allow resetsIn => exact .fixed allow resetsIn

theorem refresh (h : LooksAlike caller now l l') (c : String) :
    LooksAlike caller now (l.refresh now c) (l'.refresh now c) := by
  cases h with
  | unlimited => exact .unlimited
  | window h => exact .window (h.refresh c)
  | fixed allow resetsIn => exact .fixed allow resetsIn

theorem hit_other (h : LooksAlike caller now l l') {c : String} (hc : c ≠ caller) :
    LooksAlike caller now (l.hit now c) l' := by
  cases h with
  | unlimited => exact .unlimited
  | window h => exact .window (h.hit_other hc)
  | fixed allow resetsIn => exact .fixed allow resetsIn

theorem hit_self (h : LooksAlike caller now l l') :
    LooksAlike caller now (l.hit now caller) (l'.hit now caller) := by
  cases h with
  | unlimited => exact .unlimited
  | window h => exact .window h.hit_self
  | fixed allow resetsIn => exact .fixed allow resetsIn

theorem test_eq (h : LooksAlike caller now l l') : l.test now caller = l'.test now caller := by
  cases h with
  | unlimited => rfl
  | window h => exact h.test_eq
  | fixed allow resetsIn => rfl

theorem resetsIn_eq (h : LooksAlike caller now l l') :
    l.resetsIn now caller = l'.resetsIn now caller := by
  cases h with
  | unlimited => rfl
  | window h => exact h.resetsIn_eq
  | fixed allow resetsIn => rfl

/-! ### Admission -/

open Admission

/-- **A caller gets the same decision** from limiters that look alike to it, reset hint included, and
they look alike afterwards. -/
theorem judge_self (h : LooksAlike caller now l l') :
    (judge l now caller).refused = (judge l' now caller).refused ∧
      LooksAlike caller now (judge l now caller).limiter (judge l' now caller).limiter := by
  have hhit := h.hit_self
  have hrefresh := hhit.refresh caller
  unfold judge
  dsimp only
  rw [hhit.test_eq, hrefresh.resetsIn_eq]
  split
  · exact ⟨rfl, hrefresh⟩
  · exact ⟨rfl, hrefresh.refresh caller⟩

/-- **What other callers ask for is not seen.** -/
theorem judge_other (h : LooksAlike caller now l l') {c : String} (hc : c ≠ caller) :
    LooksAlike caller now (judge l now c).limiter l' := by
  have hrefresh := (h.hit_other hc).refresh_left c
  unfold judge
  dsimp only
  split
  · exact hrefresh
  · exact hrefresh.refresh_left c

end LooksAlike

end Limiter

end IndexGateway
