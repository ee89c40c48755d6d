import PerGo.Core.Calendar
import PerGo.Core.Table
import PerGo.L2Domain.Message

/-!
# The table of audit logs

`audit_logs` is partitioned by the month of `created_at`, with a default partition for the rows no month
takes (migration 034). `EnsurePartitions` creates the partitions of this month and the next and detaches
the one of the month 90 days back: its rows stay where they are, and no statement on `audit_logs` sees
them. A month whose partition exists is not created again, also when that is detached.

Times are UTC and a month is counted from January of year 1, the year of the zero `time.Time`.
-/
namespace PerGo.L3.Audit

open PerGo.Core PerGo.L1 PerGo.L2

def day : Int := 24 * hour

/-- The month of `now.Year(), now.Month()`. -/
def monthOf (t : Time) : Int := Calendar.monthOf (t / day)

/-- A `map[string]any`, or a `JSONB` object. -/
abbrev Payload := List (String × Json)

/-- `payload->>'purged' = 'true'` -/
def purged (p : Payload) : Bool :=
  match p.lookup "purged" with
  | some (.str s) => s = "true"
  | some (.bool b) => b
  | _ => false

/-- mirrors repository/audit.go:15-22 -/
structure AuditEntry where
  id : UUID
  workspaceID : UUID
  eventType : String
  payload : Payload
  createdAt : Time
  /-- the month of the partition that holds the row, `none` for the default partition -/
  partition : Option Int
deriving DecidableEq

structure AuditLogs where
  rows : List AuditEntry
  /-- the months whose partition exists -/
  created : List Int
  detached : List Int
deriving DecidableEq

/-- A query on `audit_logs` sees the row. -/
def attached (detached : List Int) (r : AuditEntry) : Bool := r.partition.all fun m => m ∉ detached

namespace AuditLogs

variable (db : AuditLogs)

/-- The partition that takes a new row of the month. -/
def partitionFor (m : Int) : Option Int := if m ∈ db.created ∧ m ∉ db.detached then some m else none

/-- `CREATE TABLE IF NOT EXISTS … PARTITION OF audit_logs`, an error when the default partition has a row of
the month. mirrors audit/batch.go:110-118 -/
def createPartition (m : Int) : AuditLogs :=
  if m ∈ db.created ∨ ∃ r ∈ db.rows, r.partition = none ∧ monthOf r.createdAt = m then db
  else { db with created := db.created ++ [m] }

/-- `ALTER TABLE audit_logs DETACH PARTITION`, an error when the month has no partition there. -/
def detachPartition (m : Int) : AuditLogs :=
  if m ∈ db.created ∧ m ∉ db.detached then { db with detached := db.detached ++ [m] } else db

/-- mirrors batch.go:93-129 -/
def ensurePartitions (now : Time) : AuditLogs :=
  ((db.createPartition (monthOf now)).createPartition (monthOf now + 1)).detachPartition (monthOf (now - 90 * day))

/-- mirrors batch.go:207-231 -/
def insert (id workspaceID : UUID) (eventType : String) (payload : Payload) (createdAt : Time) : AuditLogs :=
  { db with rows := db.rows ++
      [⟨id, workspaceID, eventType, payload, createdAt, db.partitionFor (monthOf createdAt)⟩] }

end AuditLogs

def isMessage (r : AuditEntry) : Bool := r.eventType = "inbound_message" || r.eventType = "outbound_message"

/-- mirrors audit.go:183-186 -/
def expired (detached : List Int) (ws : UUID) (cutoff : Time) (r : AuditEntry) : Bool :=
  attached detached r && r.workspaceID = ws && r.createdAt < cutoff && isMessage r && !purged r.payload

/-- `none` is `ErrInvalidWorkspaceID`. mirrors audit.go:172-208 -/
def getExpiredMessages (db : AuditLogs) (workspaceID : UUID) (cutoff : Time) (limit : Nat) : Option (List AuditEntry) :=
  if workspaceID = UUID.Nil then none
  else
    let limit := if limit = 0 then 100 else limit
    let found := db.rows.filter (expired db.detached workspaceID cutoff)
    some ((found.insertionSort fun a b => a.createdAt ≤ b.createdAt).take limit)

def hasKey (detached : List Int) (id : UUID) (createdAt : Time) (r : AuditEntry) : Bool :=
  attached detached r && r.id = id && r.createdAt = createdAt

/-- `none` when no row has the key. mirrors audit.go:211-221 -/
def anonymizeAuditLog (db : AuditLogs) (id : UUID) (createdAt : Time) (sanitizedPayload : Payload) : Option AuditLogs :=
  if db.rows.any (hasKey db.detached id createdAt) then
    some { db with rows := updateWhere (hasKey db.detached id createdAt) (fun r => { r with payload := sanitizedPayload })
                    db.rows }
  else none

/-! ## Partitions -/

@[simp] theorem createPartition_rows (db : AuditLogs) (m : Int) : (db.createPartition m).rows = db.rows := by
  unfold AuditLogs.createPartition
  split <;> rfl

@[simp] theorem createPartition_detached (db : AuditLogs) (m : Int) : (db.createPartition m).detached = db.detached := by
  unfold AuditLogs.createPartition
  split <;> rfl

theorem mem_createPartition {db : AuditLogs} {m k : Int} (h : k ∈ db.created) : k ∈ (db.createPartition m).created := by
  unfold AuditLogs.createPartition
  split
  · exact h
  · exact List.mem_append_left _ h

@[simp] theorem ensurePartitions_rows (db : AuditLogs) (now : Time) : (db.ensurePartitions now).rows = db.rows := by
  unfold AuditLogs.ensurePartitions AuditLogs.detachPartition
  split <;> simp

theorem mem_detached_ensurePartitions {db : AuditLogs} {now : Time} {k : Int} :
    k ∈ (db.ensurePartitions now).detached ↔ k ∈ db.detached ∨
      (k = monthOf (now - 90 * day) ∧
        k ∈ ((db.createPartition (monthOf now)).createPartition (monthOf now + 1)).created) := by
  unfold AuditLogs.ensurePartitions AuditLogs.detachPartition
  generalize hdb' : (db.createPartition (monthOf now)).createPartition (monthOf now + 1) = db'
  have hdet : db'.detached = db.detached := by rw [← hdb']; simp
  split
  · rename_i hc
    simp only [List.mem_append, List.mem_singleton, hdet]
    refine or_congr_right ⟨fun h => ?_, fun h => h.1⟩
    subst h
    exact ⟨rfl, hc.1⟩
  · rename_i hc
    rw [hdet] at hc ⊢
    refine ⟨Or.inl, fun h => h.elim id ?_⟩
    rintro ⟨rfl, hk⟩
    by_contra hnot
    exact hc ⟨hk, hnot⟩

theorem mem_created_ensurePartitions {db : AuditLogs} {now : Time} {k : Int} (h : k ∈ db.created) :
    k ∈ (db.ensurePartitions now).created := by
  have hboth := mem_createPartition (m := monthOf now + 1) (mem_createPartition (m := monthOf now) h)
  unfold AuditLogs.ensurePartitions AuditLogs.detachPartition
  split
  · exact hboth
  · exact hboth

theorem partitionFor_eq {db : AuditLogs} {m k : Int} (h : db.partitionFor m = some k) :
    k = m ∧ m ∈ db.created ∧ m ∉ db.detached := by
  obtain ⟨hc, hsome⟩ := Option.ite_none_right_eq_some.mp h
  exact ⟨(Option.some.inj hsome).symm, hc⟩

theorem lt_of_monthOf_eq {t u : Time} (h : monthOf t = monthOf u) : t < u + 31 * day := by
  have hdays := Calendar.lt_of_monthOf_eq h
  have hday : (0 : Int) < day := by decide
  have hle : u / day * day ≤ u := Int.ediv_mul_le u hday.ne'
  calc t < (u / day + 31) * day := (Int.ediv_lt_iff_lt_mul hday).mp hdays
    _ = u / day * day + 31 * day := Int.add_mul _ _ _
    _ ≤ u + 31 * day := Int.add_le_add_right hle _

theorem monthOf_eq_iff {t : Time} {k : Int} :
    monthOf t = k ↔ Calendar.monthStart k * day ≤ t ∧ t < Calendar.monthStart (k + 1) * day := by
  have hday : (0 : Int) < day := by decide
  rw [monthOf, Calendar.monthOf_eq_iff, Int.le_ediv_iff_mul_le hday, Int.ediv_lt_iff_lt_mul hday]

end PerGo.L3.Audit

/-!
## The dates of the monthly partitions

`EnsurePartitions` computes with years, months and days as `time` does: `time.Date` takes a month past
December into the next year, and `AddDate` goes through it. `partitionRanges` are the bounds it writes into
its two `CREATE TABLE` statements, `oldMonth` the first day of the month it detaches.

* `partitionRanges_eq`, `oldMonth_eq`: they are the months that `AuditLogs.ensurePartitions` creates and
  detaches, each from its first day to the next month's.
-/
namespace PerGo.L3.Audit

open PerGo.Core PerGo.L2

/-- `t.Year()` -/
def year (t : Time) : Int := monthOf t / 12 + 1

/-- `t.Month()`, January being 1. -/
def month (t : Time) : Int := monthOf t % 12 + 1

/-- `time.Date(y, m, 1, 0, 0, 0, 0, time.UTC)`; a month past the twelfth is one of the next year. -/
def date (y m : Int) : Time := Calendar.monthStart (12 * (y - 1) + (m - 1)) * day

/-- `t.AddDate(0, 1, 0)`, of a first day. -/
def addMonth (t : Time) : Time := date (year t) (month t + 1)

/-- `t.AddDate(0, 0, n)` -/
def addDays (t : Time) (n : Int) : Time := t + n * day

/-- `FOR VALUES FROM (start) TO (end)`, of this month and the next. mirrors
batch.go:98-118 -/
def partitionRanges (now : Time) : List (Time × Time) :=
  [date (year now) (month now), date (year now) (month now + 1)].map fun m => (m, addMonth m)

/-- mirrors batch.go:124-126 -/
def oldMonth (now : Time) : Time :=
  let oldCutoff := addDays now (-90)
  date (year oldCutoff) (month oldCutoff)

def monthBegin (k : Int) : Time := Calendar.monthStart k * day

theorem monthOf_monthBegin (k : Int) : monthOf (monthBegin k) = k := by
  rw [monthOf_eq_iff]
  have hlen := (Calendar.monthStart_succ k).1
  have hday : (0 : Int) < day := by decide
  exact ⟨Int.le_refl _, Int.mul_lt_mul_of_pos_right (by omega) hday⟩

theorem date_year_month (t : Time) (n : Int) : date (year t) (month t + n) = monthBegin (monthOf t + n) := by
  have hmonth : 12 * (year t - 1) + (month t + n - 1) = monthOf t + n := by
    unfold year month
    omega
  rw [date, hmonth, monthBegin]

theorem addMonth_monthBegin (k : Int) : addMonth (monthBegin k) = monthBegin (k + 1) := by
  rw [addMonth, date_year_month, monthOf_monthBegin]

theorem partitionRanges_eq (now : Time) :
    partitionRanges now = [(monthBegin (monthOf now), monthBegin (monthOf now + 1)),
      (monthBegin (monthOf now + 1), monthBegin (monthOf now + 1 + 1))] := by
  have hthis : date (year now) (month now) = monthBegin (monthOf now) := by
    simpa using date_year_month now 0
  rw [partitionRanges, List.map_cons, List.map_singleton, hthis, date_year_month, addMonth_monthBegin, addMonth_monthBegin]

theorem oldMonth_eq (now : Time) : oldMonth now = monthBegin (monthOf (now - 90 * day)) := by
  have hcutoff : addDays now (-90) = now - 90 * day := by
    rw [addDays, Int.neg_mul, ← Int.sub_eq_add_neg]
  simpa [oldMonth, hcutoff] using date_year_month (now - 90 * day) 0

theorem mem_month_iff {t : Time} {k : Int} : monthBegin k ≤ t ∧ t < monthBegin (k + 1) ↔ monthOf t = k :=
  monthOf_eq_iff.symm

theorem monthBegin_add_le (k : Int) : monthBegin k + 28 * day ≤ monthBegin (k + 1) := by
  have hlen := (Calendar.monthStart_succ k).1
  have hday : (0 : Int) < day := by decide
  have hle := Int.mul_le_mul_of_nonneg_right hlen hday.le
  rw [Int.add_mul] at hle
  exact hle

theorem monthBegin_le_add (k : Int) : monthBegin (k + 1) ≤ monthBegin k + 31 * day := by
  have hlen := (Calendar.monthStart_succ k).2
  have hday : (0 : Int) < day := by decide
  have hle := Int.mul_le_mul_of_nonneg_right hlen hday.le
  rw [Int.add_mul] at hle
  exact hle

theorem monthBegin_le_iff {j k : Int} : monthBegin j ≤ monthBegin k ↔ j ≤ k := by
  have hday : (0 : Int) < day := by decide
  rw [monthBegin, monthBegin, Int.mul_le_mul_iff_of_pos_right hday, Calendar.monthStart_strictMono.le_iff_le]

theorem monthOf_le_iff {t : Time} {k : Int} : monthOf t ≤ k ↔ t < monthBegin (k + 1) := by
  obtain ⟨hle, hlt⟩ := mem_month_iff.mpr (rfl : monthOf t = monthOf t)
  constructor
  · intro h
    exact Int.lt_of_lt_of_le hlt (monthBegin_le_iff.mpr (by omega))
  · intro h
    by_contra hgt
    have hlater : monthBegin (k + 1) ≤ monthBegin (monthOf t) := monthBegin_le_iff.mpr (by omega)
    exact absurd (Int.le_trans hlater hle) (Int.not_le.mpr h)

theorem monthOf_mono {t u : Time} (h : t ≤ u) : monthOf t ≤ monthOf u := by
  rw [monthOf_le_iff]
  exact Int.lt_of_le_of_lt h (mem_month_iff.mpr rfl).2

end PerGo.L3.Audit
