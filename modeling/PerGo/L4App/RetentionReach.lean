import Mathlib.Tactic.Linarith
import Mathlib.Tactic.Ring
import PerGo.Core.LTS
import PerGo.L3Audit.Purger

/-!
# Retention and detached partitions

The retention daemon runs `PurgeAll` every hour, the batch writer `EnsurePartitions` every day, each at
least that often; rows are written and other workspaces change in between. A row is inserted some time
after its event was stamped: `bufSize` events wait for two workers that give up a batch of 100 within 21
seconds, so within an hour.

`EnsurePartitions` detaches the month of 90 days ago as soon as its first day is 90 days old. The rows of
its last day, when the month has 31, are then just over 59 days old: a retention period up to 58 days has
passed for all of them an hour before at the latest, a longer one not.

Results: `invariant`, and `retention_reaches_iff`.
-/
namespace PerGo.L4.RetentionReach

open PerGo.Core PerGo.L1 PerGo.L2 PerGo.L3.Audit PerGo.L3.Retention

structure St where
  now : Time
  logs : AuditLogs
  workspaces : List Workspace
  lastPurge : Time
  lastEnsure : Time

inductive Lbl
  | tick (d : Int)
  | insert (id ws : UUID) (eventType : String) (payload : Payload) (createdAt : Time)
  | purgeAll (deleteMedia : String → Bool)
  | ensurePartitions
  | setDays (id : UUID) (days : Int)
  | createWorkspace (ws : Workspace)
  | deleteWorkspace (id : UUID)

/-- mirrors repository/workspace.go:233-248 -/
def setMediaRetentionDays (workspaces : List Workspace) (id : UUID) (days : Int) : List Workspace :=
  updateWhere (fun ws => ws.id = id) (fun ws => { ws with mediaRetentionDays := days }) workspaces

section System

variable (p : Purger) (ws : Workspace)

/-- A server starts on an empty table: `NewWriter` runs `EnsurePartitions`, the daemon its first purge.
mirrors audit/batch.go:28-51 and retention/daemon.go:45-47 -/
def start (now : Time) (workspaces : List Workspace) : St :=
  ⟨now, (⟨[], [], []⟩ : AuditLogs).ensurePartitions now, workspaces, now, now⟩

/-- Time passes up to the next purge and the next maintenance run, the period of `ws` stays, a new row has
a key of its own and no writer sets `purged`. -/
def step (s : St) : Lbl → Option St
  | .tick d =>
    if 0 ≤ d ∧ s.now + d ≤ s.lastPurge + hour ∧ s.now + d ≤ s.lastEnsure + day then some { s with now := s.now + d }
    else none
  | .insert id w eventType payload createdAt =>
    if createdAt ≤ s.now ∧ s.now ≤ createdAt + hour ∧ payload.lookup "purged" = none ∧
        (id, createdAt) ∉ s.logs.rows.map key then
      some { s with logs := s.logs.insert id w eventType payload createdAt }
    else none
  | .purgeAll deleteMedia =>
    some { s with logs := (purgeAll p deleteMedia s.now s.workspaces s.logs).2, lastPurge := s.now }
  | .ensurePartitions => some { s with logs := s.logs.ensurePartitions s.now, lastEnsure := s.now }
  | .setDays id days =>
    if id = ws.id then none else some { s with workspaces := setMediaRetentionDays s.workspaces id days }
  | .createWorkspace w =>
    if w.id ∈ s.workspaces.map (·.id) then none else some { s with workspaces := s.workspaces ++ [w] }
  | .deleteWorkspace id =>
    if id = ws.id then none else some { s with workspaces := s.workspaces.filter fun w => w.id ≠ id }

def sys : LTS St Lbl where
  init s := ∃ now workspaces, ws ∈ workspaces ∧ s = start now workspaces
  step s l s' := step p ws s l = some s'

/-- Every message of the workspace older than its retention period and an hour is anonymised. -/
def Reached (s : St) : Prop :=
  ∀ r ∈ s.logs.rows, r.workspaceID = ws.id → isMessage r = true →
    r.createdAt + ws.mediaRetentionDays * day + hour < s.now → Anonymised r.payload

end System

/-! ## Up to 58 days -/

section Bounded

variable {p : Purger} {ws : Workspace}

def Ours (ws : Workspace) (r : AuditEntry) : Prop := r.workspaceID = ws.id ∧ isMessage r = true

structure Inv (ws : Workspace) (s : St) : Prop where
  listed : ws ∈ s.workspaces
  keys : (s.logs.rows.map key).Nodup
  clock : s.lastPurge ≤ s.now ∧ s.now ≤ s.lastPurge + hour
  months : ∀ r ∈ s.logs.rows, ∀ m ∈ r.partition, monthOf r.createdAt = m
  sealed : ∀ r ∈ s.logs.rows, purged r.payload = true → Anonymised r.payload
  due : ∀ r ∈ s.logs.rows, Ours ws r → r.createdAt < s.lastPurge - ws.mediaRetentionDays * day → Anonymised r.payload
  unseen : ∀ r ∈ s.logs.rows, Ours ws r → attached s.logs.detached r = false → Anonymised r.payload

theorem inv_start {now : Time} {workspaces : List Workspace} (h : ws ∈ workspaces) : Inv ws (start now workspaces) := by
  have hrows : (start now workspaces).logs.rows = [] := by simp [start]
  refine ⟨h, ?_, ⟨Int.le_refl _, ?_⟩, ?_, ?_, ?_, ?_⟩
  · rw [hrows]
    exact List.nodup_nil
  · exact Int.le_add_of_nonneg_right (by decide)
  all_goals
    rw [hrows]
    exact fun _ hr => nomatch hr

theorem all_partitionFor (db : AuditLogs) (m : Int) : (db.partitionFor m).all (fun m => m ∉ db.detached) = true := by
  cases hm : db.partitionFor m with
  | none => rfl
  | some k =>
    obtain ⟨rfl, -, hnot⟩ := partitionFor_eq hm
    simpa using hnot

theorem Inv.insert {s : St} (h : Inv ws s) (hpos : 0 < ws.mediaRetentionDays) {id w : UUID} {eventType : String}
    {payload : Payload} {createdAt : Time} (hlate : s.now ≤ createdAt + hour) (hmark : payload.lookup "purged" = none)
    (hfresh : (id, createdAt) ∉ s.logs.rows.map key) :
    Inv ws { s with logs := s.logs.insert id w eventType payload createdAt } := by
  have hmem {P : AuditEntry → Prop} (hold : ∀ r ∈ s.logs.rows, P r)
      (hnew : P ⟨id, w, eventType, payload, createdAt, s.logs.partitionFor (monthOf createdAt)⟩) :
      ∀ r ∈ (s.logs.insert id w eventType payload createdAt).rows, P r := by
    intro r hr
    rcases List.mem_append.mp hr with hr | hr
    · exact hold r hr
    · rw [List.mem_singleton.mp hr]
      exact hnew
  have hunmarked : purged payload = false := by simp [purged, hmark]
  refine ⟨h.listed, ?_, h.clock, hmem h.months ?_, hmem h.sealed ?_, hmem h.due ?_, hmem h.unseen ?_⟩
  · exact nodup_concat h.keys fun r hr hk => hfresh (List.mem_map.mpr ⟨r, hr, hk⟩)
  · intro m hm
    exact (partitionFor_eq hm).1.symm
  · intro hp
    rw [hunmarked] at hp
    cases hp
  · -- an hour ago is not a day ago
    intro _ hdue
    have hold : createdAt < s.lastPurge - ws.mediaRetentionDays * day := hdue
    have hclock := h.clock.1
    have hdays : 1 * day ≤ ws.mediaRetentionDays * day := Int.mul_le_mul_of_nonneg_right hpos (by decide)
    have hlt : hour < day := by decide
    linarith
  · intro _ hdet
    have hseen : (s.logs.partitionFor (monthOf createdAt)).all (fun m => m ∉ s.logs.detached) = false := hdet
    rw [all_partitionFor] at hseen
    cases hseen

theorem Inv.purgeAll {s : St} (h : Inv ws s) (hpos : 0 < ws.mediaRetentionDays) (deleteMedia : String → Bool) :
    Inv ws { s with logs := (purgeAll p deleteMedia s.now s.workspaces s.logs).2, lastPurge := s.now } := by
  rw [purgeAll_logs p deleteMedia s.now s.workspaces s.logs h.keys]
  have hactive : ws ∈ listActiveRetentionPolicies s.workspaces := List.mem_filter.mpr ⟨h.listed, by simpa using hpos⟩
  generalize listActiveRetentionPolicies s.workspaces = active at hactive ⊢
  have hmem {P : AuditEntry → Prop}
      (hsame : ∀ r ∈ s.logs.rows, expungeAll p s.now s.logs.detached active r = r → P r)
      (hanon : ∀ r ∈ s.logs.rows, P { r with payload := anonymizePayload (p.rfc3339 s.now) r.payload }) :
      ∀ r ∈ s.logs.rows.map (expungeAll p s.now s.logs.detached active), P r := by
    intro r hr
    obtain ⟨r₀, hr₀, rfl⟩ := List.mem_map.mp hr
    rcases expungeAll_cases p s.now s.logs.detached active r₀ with heq | heq
    · rw [heq]
      exact hsame r₀ hr₀ heq
    · rw [heq]
      exact hanon r₀ hr₀
  refine ⟨h.listed, ?_, ⟨Int.le_refl _, Int.le_add_of_nonneg_right (by decide)⟩, hmem (fun r hr _ => h.months r hr) h.months,
    hmem (fun r hr _ => h.sealed r hr) ?_, hmem ?_ ?_, hmem (fun r hr _ => h.unseen r hr) ?_⟩
  · have hkeys : (s.logs.rows.map (expungeAll p s.now s.logs.detached active)).map key = s.logs.rows.map key := by
      rw [List.map_map]
      refine List.map_congr_left fun r _ => ?_
      rw [Function.comp_apply]
      rcases expungeAll_cases p s.now s.logs.detached active r with heq | heq
      · rw [heq]
      · rw [heq]
        rfl
    exact hkeys ▸ h.keys
  · exact fun r _ _ => anonymizePayload_anonymised _ _
  · intro r hr hsame hours hdue
    cases hp : purged r.payload with
    | true => exact h.sealed r hr hp
    | false =>
      cases hatt : attached s.logs.detached r with
      | false => exact h.unseen r hr hours hatt
      | true =>
        have hexp : expired s.logs.detached ws.id (s.now - ws.mediaRetentionDays * day) r = true := by
          simp [expired, hatt, hours.1, hours.2, hp]
          exact hdue
        have hanon := expungeAll_expired p s.now hactive hexp
        rw [hsame] at hanon
        rw [hanon]
        exact anonymizePayload_anonymised _ _
  · exact fun r _ _ _ => anonymizePayload_anonymised _ _
  · exact fun r _ _ _ => anonymizePayload_anonymised _ _

theorem Inv.ensurePartitions {s : St} (h : Inv ws s) (hdays : ws.mediaRetentionDays ≤ 58) :
    Inv ws { s with logs := s.logs.ensurePartitions s.now, lastEnsure := s.now } := by
  have hrows := ensurePartitions_rows s.logs s.now
  refine ⟨h.listed, ?_, h.clock, ?_, ?_, ?_, ?_⟩
  · exact hrows ▸ h.keys
  · exact hrows ▸ h.months
  · exact hrows ▸ h.sealed
  · exact hrows ▸ h.due
  · intro r hr hours hdet
    rw [hrows] at hr
    cases hatt : attached s.logs.detached r with
    | false => exact h.unseen r hr hours hatt
    | true =>
      obtain ⟨m, hm, hmem⟩ : ∃ m ∈ r.partition, m ∈ (s.logs.ensurePartitions s.now).detached := by
        simpa [attached, Option.all_eq_false] using hdet
      have hmonth : monthOf r.createdAt = monthOf (s.now - 90 * day) := by
        rw [h.months r hr m hm]
        rcases mem_detached_ensurePartitions.mp hmem with hold | hnew
        · have hnot : m ∉ s.logs.detached := by
            rw [attached, hm] at hatt
            simpa using hatt
          exact absurd hold hnot
        · exact hnew.1
      have hage := lt_of_monthOf_eq hmonth
      refine h.due r hr hours ?_
      have hclock := h.clock.2
      have hperiod : ws.mediaRetentionDays * day ≤ 58 * day := Int.mul_le_mul_of_nonneg_right hdays (by decide)
      have hlt : hour < day := by decide
      linarith

theorem invariant (hpos : 0 < ws.mediaRetentionDays) (hdays : ws.mediaRetentionDays ≤ 58) :
    (sys p ws).Inductive (Inv ws) := by
  refine ⟨?_, ?_⟩
  · rintro s ⟨now, workspaces, hws, rfl⟩
    exact inv_start hws
  · intro s l s' h hstep
    change step p ws s l = some s' at hstep
    cases l with
    | tick d =>
      obtain ⟨⟨hd, hpurge, -⟩, hs⟩ := Option.ite_none_right_eq_some.mp hstep
      obtain rfl := Option.some.inj hs
      have hclock := h.clock.1
      exact ⟨h.listed, h.keys, ⟨by dsimp only; linarith, hpurge⟩, h.months, h.sealed, h.due, h.unseen⟩
    | insert id w eventType payload createdAt =>
      obtain ⟨⟨-, hlate, hmark, hfresh⟩, hs⟩ := Option.ite_none_right_eq_some.mp hstep
      obtain rfl := Option.some.inj hs
      exact h.insert hpos hlate hmark hfresh
    | purgeAll deleteMedia =>
      obtain rfl := Option.some.inj hstep
      exact h.purgeAll hpos deleteMedia
    | ensurePartitions =>
      obtain rfl := Option.some.inj hstep
      exact h.ensurePartitions hdays
    | setDays id days =>
      obtain ⟨hid, hs⟩ := Option.ite_none_left_eq_some.mp hstep
      obtain rfl := Option.some.inj hs
      have hkept : ws ∈ setMediaRetentionDays s.workspaces id days :=
        List.mem_map.mpr ⟨ws, h.listed, by simp [Ne.symm hid]⟩
      exact ⟨hkept, h.keys, h.clock, h.months, h.sealed, h.due, h.unseen⟩
    | createWorkspace w =>
      obtain ⟨-, hs⟩ := Option.ite_none_left_eq_some.mp hstep
      obtain rfl := Option.some.inj hs
      exact ⟨List.mem_append_left _ h.listed, h.keys, h.clock, h.months, h.sealed, h.due, h.unseen⟩
    | deleteWorkspace id =>
      obtain ⟨hid, hs⟩ := Option.ite_none_left_eq_some.mp hstep
      obtain rfl := Option.some.inj hs
      have hkept : ws ∈ s.workspaces.filter fun w => w.id ≠ id :=
        List.mem_filter.mpr ⟨h.listed, by simpa using Ne.symm hid⟩
      exact ⟨hkept, h.keys, h.clock, h.months, h.sealed, h.due, h.unseen⟩

theorem Inv.reached {s : St} (h : Inv ws s) : Reached ws s := by
  intro r hr hws hmsg hold
  refine h.due r hr ⟨hws, hmsg⟩ ?_
  have hclock := h.clock.2
  linarith

end Bounded

/-! ## From 59 days on -/

section Escape

variable (p : Purger) (ws : Workspace)

def january : Int := 12 * 2024

def january_end : Time := Calendar.monthStart (january + 1) * day

def lateRow : AuditEntry :=
  ⟨1, ws.id, "inbound_message", [("body", .str "ola")], january_end - hour, some january⟩

/-- `n` hours into February, with a purge every hour and a maintenance run every midnight: the row is still there
and is as it was written; on the 59th day its partition is detached. -/
structure Escaping (n : Nat) (s : St) : Prop where
  now : s.now = january_end + n * hour
  purge : s.lastPurge = s.now
  ensure : s.lastEnsure = january_end + (n / 24 : Nat) * day
  workspaces : s.workspaces = [ws]
  rows : s.logs.rows = [lateRow ws]
  created : january ∈ s.logs.created
  detached : january ∈ s.logs.detached ↔ 24 * 59 ≤ n

theorem isMessage_lateRow : isMessage (lateRow ws) = true := by simp [isMessage, lateRow]

theorem purged_lateRow : purged (lateRow ws).payload = false := by
  have hlookup : List.lookup "purged" [("body", Json.str "ola")] = none := by decide +kernel
  simp only [purged, lateRow, hlookup]

/-- The hour has passed, and neither the purge nor the maintenance run, if it is midnight, is done. -/
structure Ticked (n : Nat) (s : St) : Prop where
  now : s.now = january_end + n * hour
  ensure : ¬ 24 ∣ n → s.lastEnsure = january_end + (n / 24 : Nat) * day
  workspaces : s.workspaces = [ws]
  rows : s.logs.rows = [lateRow ws]
  created : january ∈ s.logs.created
  detached : january ∈ s.logs.detached ↔ 24 * 59 < n

variable {p ws}

theorem expungeAll_lateRow (hdays : 59 ≤ ws.mediaRetentionDays) {n : Nat} {now : Time} {detached : List Int}
    (hnow : now = january_end + n * hour) (hdet : n < 24 * 59 ∨ january ∈ detached) :
    expungeAll p now detached [ws] (lateRow ws) = lateRow ws := by
  refine expungeAll_of_not_expired p now (List.forall_mem_singleton.mpr ?_)
  rcases hdet with hn | hdet
  · have hhours : (n + 1) * hour ≤ 24 * 59 * hour := Int.mul_le_mul_of_nonneg_right (by omega) (by decide)
    have hperiod : 59 * day ≤ ws.mediaRetentionDays * day := Int.mul_le_mul_of_nonneg_right hdays (by decide)
    have hday : day = 24 * hour := rfl
    have hnot : ¬ (lateRow ws).createdAt < now - ws.mediaRetentionDays * day := by
      simp only [lateRow, hnow, not_lt]
      linarith
    simp [expired, hnot]
  · have hatt : attached detached (lateRow ws) = false := by simp [attached, lateRow, hdet]
    simp [expired, hatt]

theorem monthOf_eq_january {n : Nat} {now : Time} (hnow : now = january_end + n * hour) :
    january = monthOf (now - 90 * day) ↔ 24 * 59 ≤ n ∧ n < 24 * 90 := by
  have hlen : january_end = Calendar.monthStart january * day + 31 * day := by decide +kernel
  have hday : day = 24 * hour := rfl
  have hhour : (0 : Int) < hour := by decide
  rw [eq_comm, monthOf_eq_iff]
  show Calendar.monthStart january * day ≤ _ ∧ _ < january_end ↔ _
  rw [hnow, hlen, hday]
  generalize Calendar.monthStart january * (24 * hour) = begin
  constructor
  · rintro ⟨hle, hlt⟩
    have hlo : 24 * 59 * hour ≤ n * hour := by linarith
    have hhi : n * hour < 24 * 90 * hour := by linarith
    have hlo' := Int.le_of_mul_le_mul_right hlo hhour
    have hhi' := Int.lt_of_mul_lt_mul_right hhi hhour.le
    omega
  · rintro ⟨hle, hlt⟩
    have hlo : 24 * 59 * hour ≤ n * hour := Int.mul_le_mul_of_nonneg_right (by omega) hhour.le
    have hhi : n * hour < 24 * 90 * hour := Int.mul_lt_mul_of_pos_right (by omega) hhour
    exact ⟨by linarith, by linarith⟩

theorem mem_detached_midnight {db : AuditLogs} {n : Nat} {now : Time} (hnow : now = january_end + n * hour)
    (h24 : 24 ∣ n) (hcreated : january ∈ db.created) (hdet : january ∈ db.detached ↔ 24 * 59 < n) :
    january ∈ (db.ensurePartitions now).detached ↔ 24 * 59 ≤ n := by
  rw [mem_detached_ensurePartitions, hdet, monthOf_eq_january hnow]
  have hmem := mem_createPartition (m := monthOf now + 1) (mem_createPartition (m := monthOf now) hcreated)
  constructor
  · rintro (hlt | ⟨hmonth, -⟩)
    · omega
    · exact hmonth.1
  · intro hle
    by_cases hlt : 24 * 59 < n
    · exact Or.inl hlt
    · exact Or.inr ⟨⟨hle, by omega⟩, hmem⟩

theorem Escaping.purgeAll (hdays : 59 ≤ ws.mediaRetentionDays) {n : Nat} {s : St} (hs : (sys p ws).Reachable s)
    (hnow : s.now = january_end + n * hour) (hensure : s.lastEnsure = january_end + (n / 24 : Nat) * day)
    (hws : s.workspaces = [ws]) (hrows : s.logs.rows = [lateRow ws]) (hcreated : january ∈ s.logs.created)
    (hdet : january ∈ s.logs.detached ↔ 24 * 59 ≤ n) : ∃ s, (sys p ws).Reachable s ∧ Escaping ws n s := by
  have hkeys : (s.logs.rows.map key).Nodup := by
    rw [hrows]
    exact List.nodup_singleton _
  have hactive : listActiveRetentionPolicies s.workspaces = [ws] := by
    have hpos : 0 < ws.mediaRetentionDays := by omega
    rw [hws]
    simp [listActiveRetentionPolicies, hpos]
  refine ⟨_, hs.step (l := .purgeAll fun _ => true) rfl, ?_⟩
  rw [purgeAll_logs p _ _ _ _ hkeys, hactive]
  refine ⟨hnow, rfl, hensure, hws, ?_, hcreated, hdet⟩
  have hrow := expungeAll_lateRow (p := p) hdays hnow ((Nat.lt_or_ge n (24 * 59)).imp_right hdet.mpr)
  simp [hrows, hrow]

theorem Ticked.escaping (hdays : 59 ≤ ws.mediaRetentionDays) {n : Nat} {s : St} (hs : (sys p ws).Reachable s)
    (h : Ticked ws n s) : ∃ s, (sys p ws).Reachable s ∧ Escaping ws n s := by
  by_cases h24 : 24 ∣ n
  · have hnow : s.now = january_end + (n / 24 : Nat) * day := by
      obtain ⟨m, rfl⟩ := h24
      have hday : day = 24 * hour := rfl
      rw [h.now, Nat.mul_div_cancel_left m (by omega), hday]
      push_cast
      ring
    refine Escaping.purgeAll hdays (hs.step (l := .ensurePartitions) rfl) h.now hnow h.workspaces ?_ ?_ ?_
    · exact (ensurePartitions_rows _ _).trans h.rows
    · exact mem_created_ensurePartitions h.created
    · exact mem_detached_midnight h.now h24 h.created h.detached
  · refine Escaping.purgeAll hdays hs h.now (h.ensure h24) h.workspaces h.rows h.created (h.detached.trans ?_)
    omega

theorem Escaping.tick {n : Nat} {s : St} (hs : (sys p ws).Reachable s) (h : Escaping ws n s) :
    ∃ s, (sys p ws).Reachable s ∧ Ticked ws (n + 1) s := by
  have hgo : 0 ≤ hour ∧ s.now + hour ≤ s.lastPurge + hour ∧ s.now + hour ≤ s.lastEnsure + day := by
    refine ⟨by decide, by rw [h.purge], ?_⟩
    have hhours : (n + 1) * hour ≤ ((n / 24 : Nat) * 24 + 24) * hour :=
      Int.mul_le_mul_of_nonneg_right (by omega) (by decide)
    have hday : day = 24 * hour := rfl
    rw [h.now, h.ensure, hday]
    linarith
  refine ⟨_, hs.step (l := .tick hour) (if_pos hgo), ?_, ?_, h.workspaces, h.rows, h.created, ?_⟩
  · show s.now + hour = _
    rw [h.now]
    push_cast
    ring
  · intro h24
    have hsame : (n + 1) / 24 = n / 24 := by omega
    rw [hsame]
    exact h.ensure
  · exact h.detached.trans (by omega)

/-- The message is written an hour before the month ends, with the server just started. -/
def written (ws : Workspace) : St :=
  ⟨january_end - hour, ⟨[lateRow ws], [january, january + 1], []⟩, [ws], january_end - hour, january_end - hour⟩

theorem reachable_written : (sys p ws).Reachable (written ws) := by
  have hlogs : (⟨[], [], []⟩ : AuditLogs).ensurePartitions (january_end - hour) = ⟨[], [january, january + 1], []⟩ := by
    decide +kernel
  have hstart : start (january_end - hour) [ws] =
      ⟨january_end - hour, ⟨[], [january, january + 1], []⟩, [ws], january_end - hour, january_end - hour⟩ := by
    rw [start, hlogs]
  have hmonth : monthOf (january_end - hour) = january := by decide +kernel
  have hlate : january_end - hour ≤ january_end - hour + hour := by decide +kernel
  have hmark : List.lookup "purged" [("body", Json.str "ola")] = none := by decide +kernel
  refine LTS.Reachable.step (s := start (january_end - hour) [ws])
    (l := .insert 1 ws.id "inbound_message" [("body", .str "ola")] (january_end - hour)) ?_ ?_
  · exact ⟨_, [], ⟨_, [ws], List.mem_singleton_self ws, rfl⟩, .nil _⟩
  · show step p ws _ _ = some (written ws)
    rw [hstart, step, if_pos ⟨Int.le_refl _, hlate, hmark, List.not_mem_nil⟩, AuditLogs.insert, hmonth]
    rfl

theorem exists_ticked_zero (p : Purger) (ws : Workspace) : ∃ s, (sys p ws).Reachable s ∧ Ticked ws 0 s := by
  have hgo : january_end - hour + hour ≤ january_end - hour + day := by decide +kernel
  have htick : step p ws (written ws) (.tick hour) = some { written ws with now := january_end - hour + hour } := by
    rw [step, written, if_pos ⟨by decide, Int.le_refl _, hgo⟩]
  refine ⟨_, reachable_written.step htick, ?_⟩
  refine ⟨?_, fun h24 => absurd (Nat.dvd_zero 24) h24, rfl, rfl, List.mem_cons_self, ?_⟩
  · show january_end - hour + hour = january_end + (0 : Nat) * hour
    decide +kernel
  · simp [written]

theorem exists_escaping (hdays : 59 ≤ ws.mediaRetentionDays) (n : Nat) :
    ∃ s, (sys p ws).Reachable s ∧ Escaping ws n s := by
  induction n with
  | zero =>
    obtain ⟨s, hs, h⟩ := exists_ticked_zero p ws
    exact h.escaping hdays hs
  | succ n ih =>
    obtain ⟨s, hs, h⟩ := ih
    obtain ⟨s', hs', h'⟩ := h.tick hs
    exact h'.escaping hdays hs'

theorem Escaping.not_reached {n : Nat} {s : St} (h : Escaping ws n s)
    (hn : ws.mediaRetentionDays * 24 < n) : ¬ Reached ws s := by
  intro hreached
  have hrow : lateRow ws ∈ s.logs.rows := h.rows ▸ List.mem_singleton_self _
  have hold : (lateRow ws).createdAt + ws.mediaRetentionDays * day + hour < s.now := by
    have hday : day = 24 * hour := rfl
    have hhour : (0 : Int) < hour := by decide
    have hhours : (ws.mediaRetentionDays * 24 + 1) * hour ≤ n * hour := Int.mul_le_mul_of_nonneg_right (by omega) (by decide)
    rw [h.now, hday, lateRow]
    linarith
  have hanon := (hreached _ hrow rfl (isMessage_lateRow ws) hold).marked
  rw [purged_lateRow] at hanon
  cases hanon

theorem exists_not_reached (p : Purger) (hdays : 59 ≤ ws.mediaRetentionDays) : ∃ s, (sys p ws).Reachable s ∧ ¬ Reached ws s := by
  obtain ⟨s, hs, h⟩ := exists_escaping (p := p) hdays (ws.mediaRetentionDays.toNat * 24 + 1)
  exact ⟨s, hs, h.not_reached (by omega)⟩

end Escape

/-- Exactly the periods up to 58 days reach every message. -/
theorem retention_reaches_iff (p : Purger) (ws : Workspace) (hpos : 0 < ws.mediaRetentionDays) :
    (∀ s, (sys p ws).Reachable s → Reached ws s) ↔ ws.mediaRetentionDays ≤ 58 := by
  constructor
  · intro hreach
    by_contra hdays
    obtain ⟨s, hs, hnot⟩ := exists_not_reached p (Int.not_le.mp hdays)
    exact hnot (hreach s hs)
  · intro hdays s hs
    exact ((invariant hpos hdays).reachable hs).reached

def samplePurger : Purger := newPurger fun _ => "2025-04-01T00:00:00Z"

theorem retention_reaches_default :
    (⟨1, 30, by decide⟩ : Workspace).mediaRetentionDays ≤ 58 ∧
      ∀ s, (sys samplePurger ⟨1, 30, by decide⟩).Reachable s → Reached ⟨1, 30, by decide⟩ s :=
  ⟨by decide, (retention_reaches_iff samplePurger ⟨1, 30, by decide⟩ (by decide)).mpr (by decide)⟩

/-- Ninety days are not reached. -/
theorem retention_escapes : ¬ ∀ (p : Purger) (ws : Workspace), 0 < ws.mediaRetentionDays →
    ∀ s, (sys p ws).Reachable s → Reached ws s := by
  intro hall
  have hdays : 59 ≤ (⟨1, 90, by decide⟩ : Workspace).mediaRetentionDays := by decide
  obtain ⟨s, hs, hnot⟩ := exists_not_reached samplePurger hdays
  exact hnot (hall samplePurger ⟨1, 90, by decide⟩ (by decide) s hs)

end PerGo.L4.RetentionReach
