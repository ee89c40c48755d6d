import Mathlib.Tactic.Linarith
import PerGo.Core.LTS
import PerGo.L3Audit.AuditLogs

/-!
# The age of a detached partition

`EnsurePartitions` detaches the month in which the instant of 90 days ago lies. That month goes on after it,
so its last rows are up to a month younger than 90 days; only at the very last instant of a month are they
not. A month that lies wholly before was detached on one of its own days, 90 days later, when the
maintenance ran once a day; a month whose turn was over when the server started is never detached.

* `detachesOldRows_iff`: when a run detaches no row younger than 90 days.
* `aged_inductive`, `current_inductive`: what runs once a day keep, from any table.
* `partition_age`: all of it.
-/
namespace PerGo.L4.PartitionAge

open PerGo.Core PerGo.L1 PerGo.L2 PerGo.L3.Audit

def Placed (db : AuditLogs) : Prop := ∀ r ∈ db.rows, ∀ m ∈ r.partition, monthOf r.createdAt = m

def DetachesOldRows (now : Time) : Prop :=
  ∀ db : AuditLogs, Placed db → ∀ r ∈ db.rows, attached db.detached r = true →
    attached (db.ensurePartitions now).detached r = false → r.createdAt ≤ now - 90 * day

/-- Each instant up to the end of the next month is in one of the ranges. -/
def CoversNextMonth (now : Time) : Prop :=
  ∀ t, now ≤ t → t < monthBegin (monthOf now + 1 + 1) →
    ((partitionRanges now).countP fun r => r.1 ≤ t ∧ t < r.2) = 1

/-! ## One run -/

theorem coversNextMonth (now : Time) : CoversNextMonth now := by
  intro t hle hlt
  have hfirst : monthOf now ≤ monthOf t := monthOf_mono hle
  have hlast : monthOf t ≤ monthOf now + 1 := monthOf_le_iff.mpr hlt
  have hthis : (monthBegin (monthOf now) ≤ t ∧ t < monthBegin (monthOf now + 1)) ↔ monthOf t = monthOf now := mem_month_iff
  have hnext : (monthBegin (monthOf now + 1) ≤ t ∧ t < monthBegin (monthOf now + 1 + 1)) ↔ monthOf t = monthOf now + 1 :=
    mem_month_iff
  rw [partitionRanges_eq]
  by_cases h : monthOf t = monthOf now
  · simp [hthis, hnext, h]
  · have h' : monthOf t = monthOf now + 1 := by omega
    simp [hthis, hnext, h']

theorem detached_by_run {db : AuditLogs} {now : Time} {r : AuditEntry} (h : attached db.detached r = true)
    (h' : attached (db.ensurePartitions now).detached r = false) : r.partition = some (monthOf (now - 90 * day)) := by
  unfold attached at h h'
  cases hm : r.partition with
  | none =>
    rw [hm] at h'
    cases h'
  | some m =>
    rw [hm] at h h'
    simp only [Option.all_some, decide_eq_true_eq, decide_eq_false_iff_not, not_not] at h h'
    rcases mem_detached_ensurePartitions.mp h' with hold | ⟨rfl, -⟩
    · exact absurd hold h
    · rfl

def oneRow (t : Time) : AuditLogs :=
  ⟨[⟨1, 1, "inbound_message", [], t, some (monthOf t)⟩], [monthOf t], []⟩

theorem placed_oneRow (t : Time) : Placed (oneRow t) := by
  intro r hr m hm
  rw [List.mem_singleton.mp hr] at hm ⊢
  exact Option.some.inj hm

theorem detachesOldRows_iff (now : Time) : DetachesOldRows now ↔ monthOf (now - 90 * day + 1) ≠ monthOf (now - 90 * day) := by
  constructor
  · intro h heq
    -- the first row that is younger, alone in its partition
    have hrow := h (oneRow (now - 90 * day + 1)) (placed_oneRow _) _ (List.mem_singleton.mpr rfl) ?_ ?_
    · exact absurd hrow (Int.not_le.mpr (Int.lt_add_one_of_le (Int.le_refl _)))
    · simp [oneRow, attached]
    · simp only [attached, Option.all_some, decide_eq_false_iff_not, not_not]
      refine mem_detached_ensurePartitions.mpr (Or.inr ⟨heq, ?_⟩)
      exact mem_createPartition (mem_createPartition (List.mem_singleton.mpr rfl))
  · intro hlast db hplaced r hr hatt hdet
    have hmonth : monthOf r.createdAt = monthOf (now - 90 * day) := hplaced r hr _ (detached_by_run hatt hdet)
    by_contra hyoung
    have hge : now - 90 * day + 1 ≤ r.createdAt := Int.add_one_le_of_lt (Int.not_le.mp hyoung)
    have hle := monthOf_mono hge
    have hle' := monthOf_mono (show now - 90 * day ≤ now - 90 * day + 1 from Int.le_add_one (Int.le_refl _))
    omega

/-! ## Every day -/

structure St where
  now : Time
  logs : AuditLogs
  lastEnsure : Time

inductive Lbl
  | tick (d : Int)
  | insert (id ws : UUID) (eventType : String) (payload : Payload) (createdAt : Time)
  | ensurePartitions

/-- `NewWriter` runs `EnsurePartitions` on the table it finds. mirrors audit/batch.go:28-51 -/
def start (db : AuditLogs) (now : Time) : St := ⟨now, db.ensurePartitions now, now⟩

/-- Time passes up to the next run, and a row is of an event that was. -/
def step (s : St) : Lbl → Option St
  | .tick d => if 0 ≤ d ∧ s.now + d ≤ s.lastEnsure + day then some { s with now := s.now + d } else none
  | .insert id ws eventType payload createdAt =>
    if createdAt ≤ s.now then some { s with logs := s.logs.insert id ws eventType payload createdAt } else none
  | .ensurePartitions => some { s with logs := s.logs.ensurePartitions s.now, lastEnsure := s.now }

def daily (db : AuditLogs) (now : Time) : LTS St Lbl := LTS.ofFn (start db now) step

/-- Every partition that lies wholly more than 90 days back is detached. -/
def OldDetached (s : St) : Prop :=
  ∀ k ∈ s.logs.created, monthBegin (k + 1) ≤ s.now - 90 * day → k ∈ s.logs.detached

/-- A row of now, or of any time up to the end of the month after the last run, has a partition. -/
def Covered (s : St) : Prop :=
  ∀ t, s.lastEnsure ≤ t → t < monthBegin (monthOf s.lastEnsure + 1 + 1) → s.logs.partitionFor (monthOf t) = some (monthOf t)

/-- No attached partition is of a month whose turn was over when the server started. -/
def NoneOverdue (db : AuditLogs) (now : Time) : Prop :=
  ∀ k ∈ db.created, k ∉ db.detached → monthOf (now - 90 * day) ≤ k

structure NothingAhead (db : AuditLogs) (now : Time) : Prop where
  detached : ∀ k ∈ db.detached, k < monthOf now
  default : ∀ r ∈ db.rows, r.partition = none → monthOf r.createdAt < monthOf now

structure Aged (s : St) : Prop where
  clock : s.lastEnsure ≤ s.now ∧ s.now ≤ s.lastEnsure + day
  attached : ∀ k ∈ s.logs.created, k ∉ s.logs.detached → monthOf (s.lastEnsure - 90 * day) < k

structure Current (s : St) : Prop where
  clock : s.lastEnsure ≤ s.now ∧ s.now ≤ s.lastEnsure + day
  ahead : NothingAhead s.logs s.lastEnsure
  current : monthOf s.lastEnsure ∈ s.logs.created ∧ monthOf s.lastEnsure + 1 ∈ s.logs.created

theorem monthOf_day_later {t u : Time} (h : u ≤ t + day) : monthOf u ≤ monthOf t + 1 := by
  rw [monthOf_le_iff]
  have hlt := (mem_month_iff.mpr (rfl : monthOf t = monthOf t)).2
  have hlen := monthBegin_add_le (monthOf t + 1)
  have hday : (0 : Int) < day := by decide
  linarith

theorem monthOf_sub_lt (t : Time) : monthOf (t - 90 * day) < monthOf t := by
  have hlt := (mem_month_iff.mpr (rfl : monthOf t = monthOf t)).2
  have hlen := monthBegin_le_add (monthOf t)
  have hday : (0 : Int) < day := by decide
  have hle : monthOf (t - 90 * day) ≤ monthOf t - 1 := by
    rw [monthOf_le_iff, Int.sub_add_cancel]
    linarith
  omega

theorem clock_now (now : Time) : now ≤ now ∧ now ≤ now + day :=
  ⟨Int.le_refl _, Int.le_add_of_nonneg_right (by decide)⟩

theorem created_ensurePartitions (db : AuditLogs) (now : Time) : (db.ensurePartitions now).created =
    ((db.createPartition (monthOf now)).createPartition (monthOf now + 1)).created := by
  unfold AuditLogs.ensurePartitions AuditLogs.detachPartition
  split <;> rfl

theorem of_mem_createPartition {db : AuditLogs} {m k : Int} (h : k ∈ (db.createPartition m).created) :
    k ∈ db.created ∨ k = m := by
  unfold AuditLogs.createPartition at h
  split at h
  · exact Or.inl h
  · simpa using h

theorem of_mem_created {db : AuditLogs} {now : Time} {k : Int} (h : k ∈ (db.ensurePartitions now).created) :
    k ∈ db.created ∨ monthOf now ≤ k := by
  rw [created_ensurePartitions] at h
  rcases of_mem_createPartition h with h | rfl
  · exact (of_mem_createPartition h).imp_right fun h => h.ge
  · exact Or.inr (by omega)

theorem mem_createPartition_self {db : AuditLogs} {m : Int}
    (h : ∀ r ∈ db.rows, r.partition = none → monthOf r.createdAt ≠ m) : m ∈ (db.createPartition m).created := by
  unfold AuditLogs.createPartition
  split
  · rename_i hm
    refine hm.resolve_right ?_
    rintro ⟨r, hr, hpart, heq⟩
    exact h r hr hpart heq
  · simp

theorem aged_ensure {db : AuditLogs} {now : Time} (h : NoneOverdue db now) :
    Aged ⟨now, db.ensurePartitions now, now⟩ := by
  refine ⟨clock_now now, fun k hk hnot => ?_⟩
  dsimp only at hk hnot ⊢
  have hold := monthOf_sub_lt now
  rcases of_mem_created hk with hdb | hge
  · rw [mem_detached_ensurePartitions, not_or, ← created_ensurePartitions] at hnot
    have hle := h k hdb hnot.1
    have hne : k ≠ monthOf (now - 90 * day) := fun heq => hnot.2 ⟨heq, hk⟩
    omega
  · omega

theorem current_ensure {db : AuditLogs} {now : Time} (h : NothingAhead db now) :
    Current ⟨now, db.ensurePartitions now, now⟩ := by
  refine ⟨clock_now now, ⟨fun k hk => ?_, fun r hr hpart => ?_⟩, ?_⟩
  · rcases mem_detached_ensurePartitions.mp hk with hk | ⟨rfl, -⟩
    · exact h.detached k hk
    · exact monthOf_sub_lt now
  · dsimp only at hr
    rw [ensurePartitions_rows] at hr
    exact h.default r hr hpart
  · rw [created_ensurePartitions]
    refine ⟨mem_createPartition (mem_createPartition_self fun r hr hpart => ?_), mem_createPartition_self fun r hr hpart => ?_⟩
    · exact (h.default r hr hpart).ne
    · rw [createPartition_rows] at hr
      have := h.default r hr hpart
      omega

theorem Current.partitionFor {s : St} (h : Current s) {k : Int} (hle : monthOf s.lastEnsure ≤ k)
    (hk : k ≤ monthOf s.lastEnsure + 1) : s.logs.partitionFor k = some k := by
  have hmem : k ∈ s.logs.created := by
    rcases (show k = monthOf s.lastEnsure ∨ k = monthOf s.lastEnsure + 1 by omega) with rfl | rfl
    · exact h.current.1
    · exact h.current.2
  rw [AuditLogs.partitionFor, if_pos ⟨hmem, fun hdet => absurd (h.ahead.detached k hdet) (Int.not_lt.mpr hle)⟩]

/-- One case for each label. -/
theorem aged_inductive {db : AuditLogs} {now : Time} (h₀ : NoneOverdue db now) : (daily db now).Inductive Aged := by
  refine ⟨fun s hs => hs ▸ aged_ensure h₀, fun s l s' h hstep => ?_⟩
  cases l with
  | tick d =>
    obtain ⟨⟨hpos, hle⟩, hs'⟩ := Option.ite_none_right_eq_some.mp hstep
    cases hs'
    exact ⟨⟨h.clock.1.trans (Int.le_add_of_nonneg_right hpos), hle⟩, h.attached⟩
  | insert id ws eventType payload createdAt =>
    obtain ⟨-, hs'⟩ := Option.ite_none_right_eq_some.mp hstep
    cases hs'
    exact ⟨h.clock, h.attached⟩
  | ensurePartitions =>
    cases hstep
    refine aged_ensure fun k hk hnot => ?_
    have hlt := h.attached k hk hnot
    have hle := monthOf_day_later (show s.now - 90 * day ≤ s.lastEnsure - 90 * day + day by linarith [h.clock.2])
    omega

theorem current_inductive {db : AuditLogs} {now : Time} (h₀ : NothingAhead db now) :
    (daily db now).Inductive Current := by
  refine ⟨fun s hs => hs ▸ current_ensure h₀, fun s l s' h hstep => ?_⟩
  cases l with
  | tick d =>
    obtain ⟨⟨hpos, hle⟩, hs'⟩ := Option.ite_none_right_eq_some.mp hstep
    cases hs'
    exact ⟨⟨h.clock.1.trans (Int.le_add_of_nonneg_right hpos), hle⟩, h.ahead, h.current⟩
  | insert id ws eventType payload createdAt =>
    obtain ⟨hle, hs'⟩ := Option.ite_none_right_eq_some.mp hstep
    cases hs'
    refine ⟨h.clock, ⟨h.ahead.detached, fun r hr hpart => ?_⟩, h.current⟩
    rcases List.mem_append.mp hr with hr | hr
    · exact h.ahead.default r hr hpart
    · rw [List.mem_singleton.mp hr] at hpart ⊢
      dsimp only at hpart ⊢
      by_contra hge
      have hlast := (monthOf_mono hle).trans (monthOf_day_later h.clock.2)
      rw [h.partitionFor (by omega) hlast] at hpart
      cases hpart
  | ensurePartitions =>
    cases hstep
    have hmono := monthOf_mono h.clock.1
    exact current_ensure ⟨fun k hk => Int.lt_of_lt_of_le (h.ahead.detached k hk) hmono,
      fun r hr hpart => Int.lt_of_lt_of_le (h.ahead.default r hr hpart) hmono⟩

theorem Aged.old_detached {s : St} (h : Aged s) : OldDetached s := by
  intro k hk hend
  by_contra hnot
  have hlt := h.attached k hk hnot
  -- the month starts after the instant of 90 days before the last run, and has 28 days
  have hbegin := monthBegin_le_iff.mpr (show monthOf (s.lastEnsure - 90 * day) + 1 ≤ k by omega)
  have hafter := (mem_month_iff.mpr (rfl : monthOf (s.lastEnsure - 90 * day) = monthOf (s.lastEnsure - 90 * day))).2
  have hlen := monthBegin_add_le k
  have hclock := h.clock.2
  have hday : (0 : Int) < day := by decide
  linarith

theorem noneOverdue_of_oldDetached {db : AuditLogs} {now : Time} (h : OldDetached (start db now)) :
    NoneOverdue db now := by
  intro k hk hnot
  by_contra hlt
  have hend : monthBegin (k + 1) ≤ now - 90 * day :=
    (monthBegin_le_iff.mpr (by omega)).trans (mem_month_iff.mpr (rfl : monthOf (now - 90 * day) = _)).1
  rcases mem_detached_ensurePartitions.mp (h k (mem_created_ensurePartitions hk) hend) with hold | ⟨heq, -⟩
  · exact hnot hold
  · omega

/-- **The age of detached partitions**: a run detaches nothing younger exactly at the end of a month; from any
table, every run of the server gets the old partitions detached exactly when none was overdue at its start; and
it covers the time to come when nothing of it was detached or in the default partition. -/
theorem partition_age (db : AuditLogs) (start : Time) :
    (∀ now, DetachesOldRows now ∧ CoversNextMonth now ↔ monthOf (now - 90 * day + 1) ≠ monthOf (now - 90 * day)) ∧
      ((∀ s, (daily db start).Reachable s → OldDetached s) ↔ NoneOverdue db start) ∧
      (NothingAhead db start → ∀ s, (daily db start).Reachable s → Covered s) := by
  refine ⟨fun now => ?_, ⟨fun h => ?_, fun h s hs => ?_⟩, fun h s hs t hle hlt => ?_⟩
  · rw [detachesOldRows_iff]
    exact and_iff_left (coversNextMonth now)
  · exact noneOverdue_of_oldDetached (h _ ⟨_, [], rfl, .nil _⟩)
  · exact ((aged_inductive h).reachable hs).old_detached
  · exact ((current_inductive h).reachable hs).partitionFor (monthOf_mono hle) (monthOf_le_iff.mpr hlt)

/-! ## Examples -/

def june15 : Time := 739781 * day

/-- A partition of January, when the server first starts in June. -/
example : ¬ NoneOverdue ⟨[], [monthOf (june15 - 160 * day)], []⟩ june15 := fun h =>
  absurd (h _ (List.mem_singleton.mpr rfl) (by simp)) (by decide)

theorem march_detached_in_june :
    Placed (oneRow (june15 - 76 * day)) ∧ ∃ r ∈ (oneRow (june15 - 76 * day)).rows,
      attached (oneRow (june15 - 76 * day)).detached r = true ∧
        attached ((oneRow (june15 - 76 * day)).ensurePartitions june15).detached r = false ∧
          june15 - 90 * day < r.createdAt :=
  ⟨placed_oneRow _, by decide +kernel⟩

end PerGo.L4.PartitionAge
