import PerGo.Core.SQL
import PerGo.L3Chat.Reads

/-!
# The status of a chat, in SQL and in Go

A snooze ends without a write: `EffectiveStatus` derives the status of a chat at an instant, `EffectiveStatusSQL` is
the same for a column, and `StatusPredicate` filters a list by it. An empty status reads as open in the first two;
the predicate compares the column as it is.

* `effectiveStatusSQL_eval`: the expression is worth what Go gives.
* `status_predicate_iff`: the predicate selects by the effective status unless the stored one is empty and the target
  is `open` or empty.
* `empty_status_unlisted`: a chat that is shown as open is not in the list of open chats.
-/
namespace PerGo.L4.StatusParity

open PerGo.Core PerGo.Core.SQL PerGo.L2
open PerGo.L3.Reads (ChatRow ReadEnv statusText)

/-! ## Statuses as text -/

/-- `ChatStatus(s)`. -/
def statusOf (s : String) : ChatStatus :=
  if hs : s ∉ ["open", "pending", "closed", "snoozed"] then .other s hs
  else if s = "open" then .open_
  else if s = "pending" then .pending
  else if s = "closed" then .closed
  else .snoozed

theorem statusText_statusOf (s : String) : statusText (statusOf s) = s := by
  unfold statusOf
  split
  · rfl
  · rename_i hs
    have hmem : s = "open" ∨ s = "pending" ∨ s = "closed" ∨ s = "snoozed" := by simpa using not_not.mp hs
    rcases hmem with rfl | rfl | rfl | rfl <;> rfl

theorem statusOf_statusText (c : ChatStatus) : statusOf (statusText c) = c := by
  cases c with
  | other s h => exact dif_pos h
  | _ => decide

theorem statusOf_eq_iff (s : String) (c : ChatStatus) : statusOf s = c ↔ s = statusText c := by
  constructor
  · rintro rfl
    exact (statusText_statusOf s).symm
  · rintro rfl
    exact statusOf_statusText c

/-- mirrors domain/chat.go:63-66 -/
def effectiveStatus (status : ChatStatus) (snoozedUntil : Option Time) (now : Time) : ChatStatus :=
  (normalizeSnooze status snoozedUntil now).1

theorem statusText_effectiveStatus (status : String) (snoozedUntil : Option Time) (now : Time) :
    statusText (effectiveStatus (statusOf status) snoozedUntil now) =
      if status = "" then "open"
      else if status = "snoozed" ∧ ∃ u, snoozedUntil = some u ∧ u ≤ now then "open"
      else status := by
  have hunset : statusOf status = .unset ↔ status = "" := statusOf_eq_iff status .unset
  have hsnoozed : statusOf status = .snoozed ↔ status = "snoozed" := statusOf_eq_iff status .snoozed
  have hdue : (snoozedUntil.any fun u => decide (u ≤ now)) = true ↔ ∃ u, snoozedUntil = some u ∧ u ≤ now := by
    cases snoozedUntil <;> simp
  unfold effectiveStatus normalizeSnooze
  simp only [hunset, hsnoozed, hdue]
  split
  · rfl
  · split
    · rfl
    · exact statusText_statusOf status

/-! ## The generators -/

/-- mirrors activity/activity.go:184-189 -/
def effectiveStatusSQL (statusCol : Expr .text) (snoozedUntilCol nowExpr : Expr .timestamptz) : Expr .text :=
  .case (.and (.and (.eq statusCol (.text "snoozed")) (.isNotNull snoozedUntilCol)) (.le snoozedUntilCol nowExpr))
    (.text "open")
    (.case (.or (.eq statusCol (.text "")) (.isNull statusCol)) (.text "open") statusCol)

/-- mirrors activity.go:192-199 -/
def statusPredicate (statusCol : Expr .text) (snoozedUntilCol : Expr .timestamptz) (targetStatusExpr : Expr .text)
    (nowExpr : Expr .timestamptz) : Expr .bool :=
  .case (.eq targetStatusExpr (.text "open"))
    (.or (.eq statusCol (.text "open"))
      (.and (.and (.eq statusCol (.text "snoozed")) (.isNotNull snoozedUntilCol)) (.le snoozedUntilCol nowExpr)))
    (.case (.eq targetStatusExpr (.text "snoozed"))
      (.and (.eq statusCol (.text "snoozed")) (.or (.isNull snoozedUntilCol) (.gt snoozedUntilCol nowExpr)))
      (.eq statusCol targetStatusExpr))

section Parity

variable {row : SQL.Row} {statusCol targetStatusExpr : Expr .text} {snoozedUntilCol nowExpr : Expr .timestamptz}
  {status target : String} {snoozedUntil : Option Time} {now : Time}

theorem holds_eq_text {col : Expr .text} {s word : String} (h : col.eval row = some s) :
    Holds row (.eq col (.text word)) ↔ s = word := by
  rw [holds_eq, h]
  constructor
  · rintro ⟨x, hx, hw⟩
    exact (Option.some.inj hx).trans (Option.some.inj hw).symm
  · rintro rfl
    exact ⟨s, rfl, rfl⟩

theorem holds_due (hsnoozed : snoozedUntilCol.eval row = snoozedUntil) (hnow : nowExpr.eval row = some now) :
    Holds row (.isNotNull snoozedUntilCol) ∧ Holds row (.le snoozedUntilCol nowExpr) ↔
      ∃ u, snoozedUntil = some u ∧ u ≤ now := by
  rw [holds_isNotNull, holds_le, hsnoozed, hnow]
  constructor
  · rintro ⟨-, x, y, hx, hy, hle⟩
    cases hy
    exact ⟨x, hx, hle⟩
  · rintro ⟨u, hu, hle⟩
    exact ⟨⟨u, hu⟩, u, now, hu, rfl, hle⟩

theorem holds_pending (hsnoozed : snoozedUntilCol.eval row = snoozedUntil) (hnow : nowExpr.eval row = some now) :
    Holds row (.or (.isNull snoozedUntilCol) (.gt snoozedUntilCol nowExpr)) ↔
      ¬ ∃ u, snoozedUntil = some u ∧ u ≤ now := by
  rw [holds_or, holds_isNull, holds_gt, hsnoozed, hnow]
  cases snoozedUntil with
  | none => exact iff_of_true (.inl rfl) (by nofun)
  | some u =>
    constructor
    · rintro (h | ⟨x, y, hx, hy, hgt⟩) ⟨u', hu', hle⟩
      · cases h
      · cases hx
        cases hy
        cases hu'
        exact absurd hle (not_le.mpr hgt)
    · intro h
      exact .inr ⟨u, now, rfl, rfl, not_le.mp fun hle => h ⟨u, rfl, hle⟩⟩

theorem effectiveStatusSQL_eval (hstatus : statusCol.eval row = some status)
    (hsnoozed : snoozedUntilCol.eval row = snoozedUntil) (hnow : nowExpr.eval row = some now) :
    (effectiveStatusSQL statusCol snoozedUntilCol nowExpr).eval row =
      some (statusText (effectiveStatus (statusOf status) snoozedUntil now)) := by
  have hnull : ¬ Holds row (.isNull statusCol) := by
    rw [holds_isNull, hstatus]
    nofun
  unfold effectiveStatusSQL
  rw [eval_case, eval_case, statusText_effectiveStatus]
  simp only [holds_and, and_assoc, holds_due hsnoozed hnow, holds_or, holds_eq_text hstatus, hnull, or_false]
  by_cases hempty : status = ""
  · have hne : ¬ status = "snoozed" := by
      rw [hempty]
      decide
    rw [if_neg fun h => hne h.1, if_pos hempty, if_pos hempty]
    rfl
  · rw [if_neg hempty, if_neg hempty]
    split
    · rfl
    · exact hstatus

theorem holds_statusPredicate (hstatus : statusCol.eval row = some status)
    (hsnoozed : snoozedUntilCol.eval row = snoozedUntil) (hnow : nowExpr.eval row = some now)
    (htarget : targetStatusExpr.eval row = some target) :
    Holds row (statusPredicate statusCol snoozedUntilCol targetStatusExpr nowExpr) ↔
      if target = "open" then status = "open" ∨ status = "snoozed" ∧ ∃ u, snoozedUntil = some u ∧ u ≤ now
      else if target = "snoozed" then status = "snoozed" ∧ ¬ ∃ u, snoozedUntil = some u ∧ u ≤ now
      else status = target := by
  have heq : Holds row (.eq statusCol targetStatusExpr) ↔ status = target := by
    rw [holds_eq, hstatus, htarget]
    exact ⟨fun ⟨x, hx, ht⟩ => (Option.some.inj hx).trans (Option.some.inj ht).symm, fun h => ⟨status, rfl, h ▸ rfl⟩⟩
  unfold statusPredicate
  rw [holds_case, holds_case]
  simp only [holds_eq_text htarget, holds_or, holds_and, and_assoc, holds_eq_text hstatus, holds_due hsnoozed hnow, heq]
  have hpending := holds_pending hsnoozed hnow
  rw [holds_or] at hpending
  rw [hpending]

theorem stored_parity (status target : String) (due : Prop) [Decidable due] :
    (if target = "open" then status = "open" ∨ status = "snoozed" ∧ due
      else if target = "snoozed" then status = "snoozed" ∧ ¬ due
      else status = target) ↔
      (if status = "snoozed" ∧ due then "open" else status) = target := by
  by_cases hd : status = "snoozed" ∧ due
  · have hshown : (if status = "snoozed" ∧ due then "open" else status) = "open" := if_pos hd
    rw [hshown]
    by_cases ht : target = "open"
    · rw [if_pos ht]
      exact iff_of_true (.inr hd) ht.symm
    · rw [if_neg ht]
      refine iff_of_false ?_ fun he => ht he.symm
      split
      · exact fun h => h.2 hd.2
      · rename_i hs
        exact fun h => hs (h.symm.trans hd.1)
  · have hshown : (if status = "snoozed" ∧ due then "open" else status) = status := if_neg hd
    rw [hshown]
    by_cases ht : target = "open"
    · rw [if_pos ht, ht]
      exact ⟨fun h => h.resolve_right hd, .inl⟩
    · by_cases hs : target = "snoozed"
      · rw [if_neg ht, if_pos hs, hs]
        exact ⟨And.left, fun h => ⟨h, fun hdue => hd ⟨h, hdue⟩⟩⟩
      · rw [if_neg ht, if_neg hs]

/-- The list by status and the status shown agree unless the stored status is empty and the list is of the open
chats, or of the empty status; the expression shows what Go shows in any case. -/
theorem status_predicate_iff (hstatus : statusCol.eval row = some status)
    (hsnoozed : snoozedUntilCol.eval row = snoozedUntil) (hnow : nowExpr.eval row = some now)
    (htarget : targetStatusExpr.eval row = some target) :
    ((Holds row (statusPredicate statusCol snoozedUntilCol targetStatusExpr nowExpr) ↔
        statusText (effectiveStatus (statusOf status) snoozedUntil now) = target) ↔
      (status = "" → target ≠ "open" ∧ target ≠ "")) ∧
    (effectiveStatusSQL statusCol snoozedUntilCol nowExpr).eval row =
      some (statusText (effectiveStatus (statusOf status) snoozedUntil now)) := by
  refine ⟨?_, effectiveStatusSQL_eval hstatus hsnoozed hnow⟩
  rw [holds_statusPredicate hstatus hsnoozed hnow htarget, statusText_effectiveStatus]
  by_cases hempty : status = ""
  · subst hempty
    have hopen : ("" : String) ≠ "open" := by decide
    have hsnoozed : ("" : String) ≠ "snoozed" := by decide
    simp only [hopen, hsnoozed, false_and, or_false, if_true, forall_const]
    by_cases ht : target = "open"
    · simp [ht]
    · by_cases hs : target = "snoozed"
      · simp [hs]
      · rw [if_neg ht, if_neg hs]
        constructor
        · exact fun h => ⟨ht, fun he => ht (h.mp he.symm).symm⟩
        · exact fun h => iff_of_false (fun he => h.2 he.symm) (fun he => ht he.symm)
  · refine iff_of_true ?_ fun h => absurd h hempty
    rw [if_neg hempty]
    exact stored_parity _ _ _

end Parity

/-! ## The list of chats -/

/-- A row of `chats` as `ListChats` filters it: the status, the snooze, the clock, and the target as `$2`. -/
def chatRow (status : String) (snoozedUntil : Option Time) (now : Time) (target : String) : SQL.Row
  | .text, "status" => some status
  | .text, "$2" => some target
  | .timestamptz, "snoozed_until" => snoozedUntil
  | .timestamptz, "NOW()" => some now
  | _, _ => none

/-- mirrors repository/chat.go:277 -/
def listPredicate : Expr .bool :=
  statusPredicate (.column .text "status") (.column .timestamptz "snoozed_until") (.column .text "$2")
    (.column .timestamptz "NOW()")

theorem statusPredicate_iff_holds (env : ReadEnv) (c : ChatRow) (target : String) :
    L3.Reads.statusPredicate env c target = true ↔
      Holds (chatRow (statusText c.status) c.snoozedUntil env.sqlNow target) listPredicate := by
  have hword : ∀ w : ChatStatus, statusText c.status = statusText w ↔ c.status = w := by
    intro w
    rw [← statusOf_eq_iff, statusOf_statusText]
  have hopen : statusText c.status = "open" ↔ c.status = .open_ := hword .open_
  have hsnoozed : statusText c.status = "snoozed" ↔ c.status = .snoozed := hword .snoozed
  have hdue : (c.snoozedUntil.any fun u => decide (u ≤ env.sqlNow)) = true ↔
      ∃ u, c.snoozedUntil = some u ∧ u ≤ env.sqlNow := by
    cases c.snoozedUntil <;> simp
  have hpending : (c.snoozedUntil.all fun u => decide (env.sqlNow < u)) = true ↔
      ¬ ∃ u, c.snoozedUntil = some u ∧ u ≤ env.sqlNow := by
    cases c.snoozedUntil <;> simp
  have hpred : Holds (chatRow (statusText c.status) c.snoozedUntil env.sqlNow target) listPredicate ↔
      if target = "open" then
        statusText c.status = "open" ∨ statusText c.status = "snoozed" ∧ ∃ u, c.snoozedUntil = some u ∧ u ≤ env.sqlNow
      else if target = "snoozed" then
        statusText c.status = "snoozed" ∧ ¬ ∃ u, c.snoozedUntil = some u ∧ u ≤ env.sqlNow
      else statusText c.status = target := holds_statusPredicate rfl rfl rfl rfl
  rw [hpred, hopen, hsnoozed]
  unfold L3.Reads.statusPredicate
  split
  · simp only [Bool.or_eq_true, Bool.and_eq_true, decide_eq_true_eq, hdue]
  · split
    · simp only [Bool.and_eq_true, decide_eq_true_eq, hpending]
    · exact decide_eq_true_iff

/-- A snooze that ends now puts its chat among the open ones. -/
theorem snooze_over_listed : Holds (chatRow "snoozed" (some 100) 100 "open") listPredicate :=
  ((status_predicate_iff rfl rfl rfl rfl).1.mpr (by decide)).mpr (by decide)

/-- A chat with an empty status is shown as open and is missing from the list of open chats. -/
theorem empty_status_unlisted :
    statusText (effectiveStatus (statusOf "") none 100) = "open" ∧ ¬ Holds (chatRow "" none 100 "open") listPredicate := by
  decide

end PerGo.L4.StatusParity
