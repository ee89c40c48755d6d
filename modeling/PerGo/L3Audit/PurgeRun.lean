import PerGo.Core.LTS
import PerGo.Core.Loop
import PerGo.L3Audit.Purger

/-!
# A purge that meets failures

`PurgeWorkspace` as it runs against rows of any payload, a store that refuses updates and a media storage
that refuses deletions: a row that cannot be read is counted and passed over, a deletion that fails is
logged, an update that fails is counted, and the row is fetched again with the next batch.

* `Inv`: what holds between the entries of a batch, kept by `processEntry_inv`.
* `batch_tries`: a row that can be read is tried when its turn comes.
* `batch_stays`: a row that cannot be purged stays.
-/
namespace PerGo.L3.Retention

open PerGo.Core PerGo.Core.Result PerGo.L1 PerGo.L2 PerGo.L3.Audit

/-! ## Rows -/

/-- A row of `audit_logs`: `payload JSONB`, which may be `NULL`. mirrors repository/audit.go:15-22 -/
structure AuditRow where
  id : UUID
  workspaceID : UUID
  eventType : String
  payload : Option Json
  createdAt : Time
deriving DecidableEq

abbrev Key := UUID × Time

def AuditRow.key (r : AuditRow) : Key := (r.id, r.createdAt)

/-- `COALESCE(payload->>'purged', 'false') = 'true'` -/
def isPurged : Option Json → Bool
  | some (.obj kvs) => purged kvs
  | _ => false

/-- mirrors audit.go:183-186 -/
def isExpired (ws : UUID) (cutoff : Time) (r : AuditRow) : Bool :=
  r.workspaceID = ws && r.createdAt < cutoff && (r.eventType = "inbound_message" || r.eventType = "outbound_message") &&
    !isPurged r.payload

/-- The rows that the statements on `audit_logs` see. -/
structure AuditTable where
  rows : List AuditRow
  keyed : (rows.map AuditRow.key).Nodup

section Unmarshal

variable (float64 : Dec → Option Dec)

mutual
/-- Each number read into a `float64`. -/
def readNumbers : Json → Option Json
  | .num n => (float64 n).map .num
  | .arr xs => (readElements xs).map .arr
  | .obj kvs => (readFields kvs).map .obj
  | .null => some .null
  | .bool b => some (.bool b)
  | .str s => some (.str s)
def readElements : List Json → Option (List Json)
  | [] => some []
  | x :: xs => (readNumbers x).bind fun x => (readElements xs).map (x :: ·)
def readFields : List (String × Json) → Option (List (String × Json))
  | [] => some []
  | (k, x) :: kvs => (readNumbers x).bind fun x => (readFields kvs).map ((k, x) :: ·)
end

/-- `json.Unmarshal(entry.Payload, &payload)` into a `map[string]any`: `none` is an error, `some none` the
map that stays nil at a `null`. -/
def unmarshal : Option Json → Option (Option Payload)
  | some .null => some none
  | some (.obj kvs) => (readFields float64 kvs).map some
  | _ => none

end Unmarshal

/-! ## The run -/

/-- The calls of a run, in order. -/
inductive Event
  | fetched (entries : List Key)
  | deleted (mediaURL : String) (ok : Bool)
  | updated (key : Key) (payload sanitized : Payload) (ok : Bool)
deriving DecidableEq

def attempts (log : List Event) (k : Key) : Nat :=
  log.countP fun e => match e with
    | .updated k' _ _ _ => k' = k
    | _ => false

inductive PurgeError
  | cancelled
  | query

structure Env where
  /-- `time.Now().UTC().Format(time.RFC3339)` -/
  purgedAt : List Event → String
  /-- a number read into a `float64` and written again, `none` out of its range -/
  float64 : Dec → Option Dec
  /-- the context is done before the next batch, or the query for it fails -/
  interrupts : List Event → Option PurgeError
  /-- `ORDER BY created_at ASC`: the order of the rows of one time is the database's -/
  order : List Event → List AuditRow → List AuditRow
  order_perm : ∀ log rows, (order log rows).Perm rows
  order_sorted : ∀ log rows, (order log rows).Pairwise fun a b => a.createdAt ≤ b.createdAt
  /-- whether `DeleteMedia` succeeds; `none` when `p.media` is nil -/
  media : Option (List Event → String → Bool)
  /-- whether the `n`-th `AnonymizeAuditLog` on the row succeeds -/
  updates : Key → Nat → Bool

structure PurgeState where
  stats : PurgeStats
  rows : List AuditRow
  log : List Event

variable (env : Env)

/-- mirrors retention/purger.go:143-154 -/
def deleteMedia (st : PurgeState) (mURL : String) : PurgeState :=
  match env.media with
  | none => st
  | some deletes =>
    if mURL = "" then st
    else if deletes st.log mURL then
      { st with
        stats := { st.stats with mediaFilesDeleted := st.stats.mediaFilesDeleted + 1 }
        log := st.log ++ [.deleted mURL true] }
    else { st with log := st.log ++ [.deleted mURL false] }

/-- mirrors audit.go:210-221 -/
def setPayload (k : Key) (sanitized : Payload) (rows : List AuditRow) : List AuditRow :=
  updateWhere (fun r => r.key = k) (fun r => { r with payload := some (.obj sanitized) }) rows

/-- mirrors purger.go:129-181 -/
def processEntry (st : PurgeState) (entry : AuditRow) : Result Empty PurgeState :=
  match unmarshal env.float64 entry.payload with
  | none => .ok { st with stats := { st.stats with errors := st.stats.errors + 1 } }
  | some payload =>
    let st := (extractMediaURLs (payload.getD [])).foldl (deleteMedia env) st
    match payload with
    -- `payload["purged"] = "true"` in a nil map
    | none => .panic
    | some payload =>
      let sanitized := anonymizePayload (env.purgedAt st.log) payload
      if env.updates entry.key (attempts st.log entry.key) then
        .ok { stats := { st.stats with messagesAnonymized := st.stats.messagesAnonymized + 1 }
              rows := setPayload entry.key sanitized st.rows
              log := st.log ++ [.updated entry.key payload sanitized true] }
      else
        .ok { stats := { st.stats with errors := st.stats.errors + 1 }
              rows := st.rows
              log := st.log ++ [.updated entry.key payload sanitized false] }

variable (p : Purger) (ws : UUID) (cutoff : Time)

/-- mirrors audit.go:172-208 -/
def fetchExpired (st : PurgeState) : List AuditRow :=
  (env.order st.log (st.rows.filter (isExpired ws cutoff))).take p.batchSize

def fetched (st : PurgeState) : PurgeState :=
  { st with log := st.log ++ [.fetched ((fetchExpired env p ws cutoff st).map AuditRow.key)] }

/-- One turn of the loop; what it returns with is the state and the error. mirrors
purger.go:114-187 -/
def purgeRound (st : PurgeState) : Result Empty (Next PurgeState (PurgeState × Option PurgeError)) :=
  match env.interrupts st.log with
  | some err => .ok (.leave (st, some err))
  | none =>
    let entries := fetchExpired env p ws cutoff st
    if entries = [] then .ok (.leave (fetched env p ws cutoff st, none))
    else do
      let st ← entries.foldlM (processEntry env) (fetched env p ws cutoff st)
      if entries.length < p.batchSize then .ok (.leave (st, none)) else .ok (.again st)

def PurgeState.start (table : AuditTable) : PurgeState := ⟨⟨0, 0, 0⟩, table.rows, []⟩

/-- `PurgeWorkspace` returns with this state and this error. mirrors purger.go:106-190 -/
def PurgeWorkspaceReturns (now : Time) (ws : Workspace) (table : AuditTable) (r : PurgeState × Option PurgeError) : Prop :=
  if ws.mediaRetentionDays ≤ 0 then r = (.start table, none)
  else Returns (purgeRound env p ws.id (now - ws.mediaRetentionDays * day)) (.start table) r

/-! ## One entry -/

variable {env p ws cutoff}

@[simp] theorem deleteMedia_rows (st : PurgeState) (mURL : String) : (deleteMedia env st mURL).rows = st.rows := by
  unfold deleteMedia
  split
  · rfl
  · split
    · rfl
    · split <;> rfl

@[simp] theorem attempts_append_updated (log : List Event) (k k' : Key) (payload sanitized : Payload) (ok : Bool) :
    attempts (log ++ [.updated k' payload sanitized ok]) k = attempts log k + if k' = k then 1 else 0 := by
  simp [attempts, List.countP_append]

@[simp] theorem attempts_append_deleted (log : List Event) (k : Key) (mURL : String) (ok : Bool) :
    attempts (log ++ [.deleted mURL ok]) k = attempts log k := by
  simp [attempts, List.countP_append]

@[simp] theorem attempts_append_fetched (log : List Event) (k : Key) (entries : List Key) :
    attempts (log ++ [.fetched entries]) k = attempts log k := by
  simp [attempts, List.countP_append]

@[simp] theorem deleteMedia_attempts (st : PurgeState) (mURL : String) (k : Key) :
    attempts (deleteMedia env st mURL).log k = attempts st.log k := by
  unfold deleteMedia
  split
  · rfl
  · split
    · rfl
    · split <;> simp

theorem deleteAll_rows (urls : List String) (st : PurgeState) : (urls.foldl (deleteMedia env) st).rows = st.rows := by
  induction urls generalizing st with
  | nil => rfl
  | cons u urls ih => rw [List.foldl_cons, ih, deleteMedia_rows]

theorem deleteAll_attempts (urls : List String) (st : PurgeState) (k : Key) :
    attempts (urls.foldl (deleteMedia env) st).log k = attempts st.log k := by
  induction urls generalizing st with
  | nil => rfl
  | cons u urls ih => rw [List.foldl_cons, ih, deleteMedia_attempts]

structure Tried (env : Env) (st : PurgeState) (entry : AuditRow) (payload : Payload) (st' : PurgeState) : Prop where
  reads : unmarshal env.float64 entry.payload = some (some payload)
  log : st'.log = ((extractMediaURLs payload).foldl (deleteMedia env) st).log ++
    [.updated entry.key payload
      (anonymizePayload (env.purgedAt ((extractMediaURLs payload).foldl (deleteMedia env) st).log) payload)
      (env.updates entry.key (attempts st.log entry.key))]
  rows : st'.rows =
    if env.updates entry.key (attempts st.log entry.key) then
      setPayload entry.key
        (anonymizePayload (env.purgedAt ((extractMediaURLs payload).foldl (deleteMedia env) st).log) payload) st.rows
    else st.rows

theorem processEntry_cases {st st' : PurgeState} {entry : AuditRow} (h : processEntry env st entry = .ok st') :
    (unmarshal env.float64 entry.payload = none ∧ st'.rows = st.rows ∧ st'.log = st.log) ∨
      ∃ payload, Tried env st entry payload st' := by
  unfold processEntry at h
  cases hread : unmarshal env.float64 entry.payload with
  | none =>
    rw [hread] at h
    cases h
    exact Or.inl ⟨rfl, rfl, rfl⟩
  | some payload =>
    rw [hread] at h
    cases payload with
    | none => cases h
    | some payload =>
      simp only [Option.getD_some, deleteAll_attempts] at h
      right
      split at h
      · rename_i hok
        cases h
        exact ⟨payload, hread, by simp [hok], by simp [hok, deleteAll_rows]⟩
      · rename_i hok
        cases h
        exact ⟨payload, hread, by simp [hok], by simp [hok, deleteAll_rows]⟩

theorem processEntry_ok {st : PurgeState} {entry : AuditRow} (h : unmarshal env.float64 entry.payload ≠ some none) :
    ∃ st', processEntry env st entry = .ok st' := by
  unfold processEntry
  cases hread : unmarshal env.float64 entry.payload with
  | none => exact ⟨_, rfl⟩
  | some payload =>
    cases payload with
    | none => exact absurd hread h
    | some payload =>
      dsimp only
      split
      · exact ⟨_, rfl⟩
      · exact ⟨_, rfl⟩

theorem processEntry_panic {st : PurgeState} {entry : AuditRow} (h : unmarshal env.float64 entry.payload = some none) :
    processEntry env st entry = .panic := by
  rw [processEntry, h]

theorem processEntry_attempts {st st' : PurgeState} {entry : AuditRow} (h : processEntry env st entry = .ok st') (k : Key) :
    attempts st.log k ≤ attempts st'.log k ∧
      (entry.key = k → unmarshal env.float64 entry.payload ≠ none → attempts st.log k + 1 ≤ attempts st'.log k) := by
  rcases processEntry_cases h with ⟨hread, -, hlog⟩ | ⟨payload, htried⟩
  · rw [hlog]
    exact ⟨Nat.le_refl _, fun _ hne => absurd hread hne⟩
  · rw [htried.log, attempts_append_updated, deleteAll_attempts]
    refine ⟨Nat.le_add_right _ _, fun hk _ => ?_⟩
    rw [if_pos hk]

/-! ## What holds between the entries -/

/-- The row was fetched with `r`, and anonymised. -/
def AnonymisedFrom (env : Env) (r r' : AuditRow) : Prop :=
  ∃ payload purgedAt, unmarshal env.float64 r.payload = some (some payload) ∧
    r' = { r with payload := some (.obj (anonymizePayload purgedAt payload)) }

structure Inv (env : Env) (ws : UUID) (cutoff : Time) (table : AuditTable) (st : PurgeState) : Prop where
  keys : st.rows.map AuditRow.key = table.rows.map AuditRow.key
  from_table : ∀ r ∈ st.rows, r ∈ table.rows ∨ ∃ r₀ ∈ table.rows, AnonymisedFrom env r₀ r
  refused : ∀ r ∈ st.rows, isExpired ws cutoff r = true → ∀ n < attempts st.log r.key, env.updates r.key n = false

theorem inv_start (table : AuditTable) : Inv env ws cutoff table (.start table) where
  keys := rfl
  from_table := fun _ hr => Or.inl hr
  refused := fun _ _ _ n hn => absurd hn (Nat.not_lt_zero n)

@[simp] theorem isExpired_anonymised (r : AuditRow) (purgedAt : String) (payload : Payload) :
    isExpired ws cutoff { r with payload := some (.obj (anonymizePayload purgedAt payload)) } = false := by
  simp [isExpired, isPurged]

theorem not_expired_of_anonymisedFrom {r r' : AuditRow} (h : AnonymisedFrom env r r') : isExpired ws cutoff r' = false := by
  obtain ⟨payload, purgedAt, -, rfl⟩ := h
  exact isExpired_anonymised r purgedAt payload

theorem Inv.mem_table {table : AuditTable} {st : PurgeState} (h : Inv env ws cutoff table st) {r : AuditRow} (hr : r ∈ st.rows)
    (hexp : isExpired ws cutoff r = true) : r ∈ table.rows := by
  rcases h.from_table r hr with htable | ⟨r₀, -, hanon⟩
  · exact htable
  · rw [not_expired_of_anonymisedFrom hanon] at hexp
    cases hexp

theorem mem_setPayload {k : Key} {sanitized : Payload} {rows : List AuditRow} {r : AuditRow} (h : r ∈ setPayload k sanitized rows) :
    (r ∈ rows ∧ r.key ≠ k) ∨ ∃ r₀ ∈ rows, r₀.key = k ∧ r = { r₀ with payload := some (.obj sanitized) } := by
  obtain ⟨r₀, hr₀, heq⟩ := mem_updateWhere h
  by_cases hk : r₀.key = k
  · rw [if_pos (decide_eq_true hk)] at heq
    exact Or.inr ⟨r₀, hr₀, hk, heq⟩
  · rw [if_neg (by simpa using hk)] at heq
    subst heq
    exact Or.inl ⟨hr₀, hk⟩

theorem keys_setPayload (k : Key) (sanitized : Payload) (rows : List AuditRow) :
    (setPayload k sanitized rows).map AuditRow.key = rows.map AuditRow.key := by
  refine map_updateWhere ?_ rows
  exact fun _ => rfl

theorem processEntry_expired {st st' : PurgeState} {entry r : AuditRow} (h : processEntry env st entry = .ok st')
    (hr : r ∈ st'.rows) (hexp : isExpired ws cutoff r = true) : r ∈ st.rows := by
  rcases processEntry_cases h with ⟨-, hrows, -⟩ | ⟨payload, htried⟩
  · rwa [hrows] at hr
  · rw [htried.rows] at hr
    split at hr
    · rcases mem_setPayload hr with ⟨hmem, -⟩ | ⟨r₀, -, -, rfl⟩
      · exact hmem
      · rw [isExpired_anonymised] at hexp
        cases hexp
    · exact hr

theorem processEntry_inv {table : AuditTable} {st st' : PurgeState} {entry : AuditRow} (hinv : Inv env ws cutoff table st)
    (hentry : entry ∈ table.rows) (h : processEntry env st entry = .ok st') : Inv env ws cutoff table st' := by
  rcases processEntry_cases h with ⟨-, hrows, hlog⟩ | ⟨payload, htried⟩
  · refine ⟨?_, ?_, ?_⟩
    · rw [hrows]
      exact hinv.keys
    · rw [hrows]
      exact hinv.from_table
    · rw [hrows, hlog]
      exact hinv.refused
  · refine ⟨?_, ?_, ?_⟩
    · rw [htried.rows]
      split
      · rw [keys_setPayload]
        exact hinv.keys
      · exact hinv.keys
    · intro r hr
      rw [htried.rows] at hr
      split at hr
      · rcases mem_setPayload hr with ⟨hmem, -⟩ | ⟨r₀, hr₀, hk, rfl⟩
        · exact hinv.from_table r hmem
        · -- the row of the entry's key is the entry, or was anonymised from it
          right
          refine ⟨entry, hentry, payload,
            env.purgedAt ((extractMediaURLs payload).foldl (deleteMedia env) st).log, htried.reads, ?_⟩
          rcases hinv.from_table r₀ hr₀ with htable | ⟨r₁, hr₁, payload₁, purgedAt₁, -, rfl⟩
          · rw [eq_of_key_eq table.keyed htable hentry hk]
          · rw [eq_of_key_eq table.keyed hr₁ hentry hk]
      · exact hinv.from_table r hr
    · intro r hr hexp n hn
      rw [htried.log, attempts_append_updated, deleteAll_attempts] at hn
      have hold := hinv.refused r (processEntry_expired h hr hexp) hexp n
      by_cases hk : entry.key = r.key
      · rw [if_pos hk] at hn
        rcases Nat.lt_succ_iff_lt_or_eq.mp hn with hlt | rfl
        · exact hold hlt
        · -- the update failed, or the row would be purged
          rw [htried.rows] at hr
          rw [hk] at hr
          cases hok : env.updates r.key (attempts st.log r.key) with
          | false => rfl
          | true =>
            rw [hok, if_pos rfl] at hr
            rcases mem_setPayload hr with ⟨-, hne⟩ | ⟨r₀, -, -, rfl⟩
            · exact absurd rfl hne
            · rw [isExpired_anonymised] at hexp
              cases hexp
      · rw [if_neg hk] at hn
        exact hold hn

/-! ## Rows that cannot be purged -/

def Stuck (env : Env) (ws : UUID) (cutoff : Time) (r : AuditRow) : Prop :=
  isExpired ws cutoff r = true ∧
    ((∀ payload, unmarshal env.float64 r.payload ≠ some (some payload)) ∨ ∀ n, env.updates r.key n = false)

theorem processEntry_stays {table : AuditTable} {st st' : PurgeState} {entry r : AuditRow} (hentry : entry ∈ table.rows)
    (hr : r ∈ table.rows) (hstuck : Stuck env ws cutoff r) (hmem : r ∈ st.rows) (h : processEntry env st entry = .ok st') :
    r ∈ st'.rows := by
  rcases processEntry_cases h with ⟨-, hrows, -⟩ | ⟨payload, htried⟩
  · rwa [hrows]
  · rw [htried.rows]
    split
    · rename_i hok
      have hne : r.key ≠ entry.key := by
        intro hk
        obtain rfl := eq_of_key_eq table.keyed hr hentry hk
        rcases hstuck.2 with hunread | hnever
        · exact hunread payload htried.reads
        · rw [hnever] at hok
          cases hok
      refine List.mem_map.mpr ⟨r, hmem, ?_⟩
      rw [if_neg (by simpa using hne)]
    · exact hmem

/-! ## One batch -/

theorem mem_fetchExpired {st : PurgeState} {r : AuditRow} (h : r ∈ fetchExpired env p ws cutoff st) :
    r ∈ st.rows ∧ isExpired ws cutoff r = true :=
  List.mem_filter.mp ((env.order_perm _ _).mem_iff.mp (List.mem_of_mem_take h))

theorem fetchExpired_nodup {table : AuditTable} {st : PurgeState} (h : st.rows.map AuditRow.key = table.rows.map AuditRow.key) :
    (fetchExpired env p ws cutoff st).Nodup := by
  have hrows : st.rows.Nodup := (h ▸ table.keyed).of_map AuditRow.key
  exact (List.take_sublist _ _).nodup ((env.order_perm _ _).nodup_iff.mpr (hrows.filter _))

theorem length_fetchExpired (st : PurgeState) :
    (fetchExpired env p ws cutoff st).length = min p.batchSize (st.rows.filter (isExpired ws cutoff)).length := by
  rw [fetchExpired, List.length_take, (env.order_perm _ _).length_eq]

theorem mem_fetchExpired_of_lt {st : PurgeState} {r : AuditRow} (hlt : (fetchExpired env p ws cutoff st).length < p.batchSize)
    (hr : r ∈ st.rows) (hexp : isExpired ws cutoff r = true) : r ∈ fetchExpired env p ws cutoff st := by
  rw [length_fetchExpired] at hlt
  rw [fetchExpired, List.take_of_length_le]
  · exact (env.order_perm _ _).mem_iff.mpr (List.mem_filter.mpr ⟨hr, hexp⟩)
  · rw [(env.order_perm _ _).length_eq]
    omega

theorem fetched_inv {table : AuditTable} {st : PurgeState} (h : Inv env ws cutoff table st) :
    Inv env ws cutoff table (fetched env p ws cutoff st) where
  keys := h.keys
  from_table := h.from_table
  refused := fun r hr hexp n hn => h.refused r hr hexp n (by simpa [fetched] using hn)

section Batch

variable {table : AuditTable} {st st' : PurgeState} {entries : List AuditRow}

theorem batch_inv (hinv : Inv env ws cutoff table st) (hentries : ∀ e ∈ entries, e ∈ table.rows)
    (h : entries.foldlM (processEntry env) st = .ok st') : Inv env ws cutoff table st' :=
  foldlM_inv (fun e he _ _ hs hstep => processEntry_inv hs (hentries e he) hstep) hinv h

theorem batch_attempts (h : entries.foldlM (processEntry env) st = .ok st') (k : Key) :
    attempts st.log k ≤ attempts st'.log k :=
  foldlM_inv (I := fun s => attempts st.log k ≤ attempts s.log k)
    (fun _ _ _ _ hs hstep => hs.trans (processEntry_attempts hstep k).1) (Nat.le_refl _) h

theorem batch_tries {e : AuditRow} (he : e ∈ entries) (hread : unmarshal env.float64 e.payload ≠ none)
    (h : entries.foldlM (processEntry env) st = .ok st') : attempts st.log e.key < attempts st'.log e.key := by
  refine foldlM_of_mem (I := fun s => attempts st.log e.key ≤ attempts s.log e.key)
    (Q := fun s => attempts st.log e.key < attempts s.log e.key) he ?_ ?_ ?_ (Nat.le_refl _) h
  · exact fun _ _ _ _ hs hstep => hs.trans (processEntry_attempts hstep e.key).1
  · exact fun _ _ _ _ hs hstep => hs.trans_le (processEntry_attempts hstep e.key).1
  · exact fun _ _ hs hstep => (Nat.succ_le_succ hs).trans ((processEntry_attempts hstep e.key).2 rfl hread)

theorem batch_expired (h : entries.foldlM (processEntry env) st = .ok st') {r : AuditRow} (hr : r ∈ st'.rows)
    (hexp : isExpired ws cutoff r = true) : r ∈ st.rows :=
  foldlM_inv (I := fun s => ∀ r ∈ s.rows, isExpired ws cutoff r = true → r ∈ st.rows)
    (fun _ _ _ _ hs hstep r hr hexp => hs r (processEntry_expired hstep hr hexp) hexp) (fun _ hr _ => hr) h r hr hexp

theorem batch_stays (hentries : ∀ e ∈ entries, e ∈ table.rows) {r : AuditRow} (hr : r ∈ table.rows)
    (hstuck : Stuck env ws cutoff r) (hmem : r ∈ st.rows) (h : entries.foldlM (processEntry env) st = .ok st') : r ∈ st'.rows :=
  foldlM_inv (I := fun s => r ∈ s.rows)
    (fun e he _ _ hs hstep => processEntry_stays (hentries e he) hr hstuck hs hstep) hmem h

theorem batch_panics {e : AuditRow} (he : e ∈ entries) (hnull : unmarshal env.float64 e.payload = some none) :
    entries.foldlM (processEntry env) st ≠ .ok st' := by
  intro h
  refine foldlM_of_mem (I := fun _ => True) (Q := fun _ => False) he ?_ ?_ ?_ trivial h
  · exact fun _ _ _ _ _ _ => trivial
  · exact fun _ _ _ _ hs _ => hs
  · intro s s' _ hstep
    rw [processEntry_panic hnull] at hstep
    cases hstep

end Batch

/-- Surroundings in which nothing fails but the deletions and the updates that are named. -/
def Env.failing (undeleted : String → Bool) (refused : Key → Bool) : Env where
  purgedAt := fun _ => "2026-07-01T00:00:00Z"
  float64 := some
  interrupts := fun _ => none
  order := fun _ rows => rows.insertionSort fun a b => a.createdAt ≤ b.createdAt
  order_perm := fun _ _ => List.perm_insertionSort _ _
  order_sorted := fun _ _ => List.pairwise_insertionSort _ _
  media := some fun _ u => !undeleted u
  updates := fun k _ => !refused k

end PerGo.L3.Retention
