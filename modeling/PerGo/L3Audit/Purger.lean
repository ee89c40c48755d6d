import PerGo.L3Audit.AuditLogs

/-!
# The retention purge

`PurgeAll` walks the workspaces with a retention period; `PurgeWorkspace` takes the expired messages of
one in batches, deletes their media, and replaces the content of each by `[EXPURGADO]` under its primary
key. Whether the media could be deleted changes the counts only.

* `purgeLoop` ends: a batch that is not empty marks its rows, and a marked row is not taken again.
* `purgeLoop_logs`: with distinct keys, each row that has expired is anonymised and no other changes;
  `purgeAll_logs` with `expungeAll_cases` and `expungeAll_expired`: the same for all workspaces.
* `anonymizePayload_anonymised`: nothing is left at the paths of `contentPaths`.
-/
namespace PerGo.L3.Retention

open PerGo.Core PerGo.L1 PerGo.L2 PerGo.L3.Audit

/-! ## Payloads -/

def ExpungedMarker : String := "[EXPURGADO]"

/-- `m[k] = v` -/
def setKey (m : Payload) (k : String) (v : Json) : Payload := m.filter (fun kv => kv.1 ≠ k) ++ [(k, v)]

/-- `if _, ok := m[k]; ok { m[k] = ExpungedMarker }` -/
def expunge (k : String) (m : Payload) : Payload :=
  if (m.lookup k).isSome then setKey m k (.str ExpungedMarker) else m

/-- `if raw, ok := m[k].(map[string]any); ok { f(raw) }` -/
def inObject (k : String) (f : Payload → Payload) (m : Payload) : Payload :=
  match m.lookup k with
  | some (.obj kvs) => setKey m k (.obj (f kvs))
  | _ => m

/-- mirrors retention/purger.go:224-268 -/
def anonymizePayload (purgedAt : String) (payload : Payload) : Payload :=
  let payload := expunge "body" payload
  let payload := inObject "media" (fun media => expunge "media_url" (expunge "caption" media)) payload
  let payload := inObject "request" (fun req =>
    let req := expunge "media_url" (expunge "body" req)
    inObject "media" (fun media => expunge "media_url" (expunge "caption" media)) req) payload
  let payload := inObject "story_event" (expunge "media_url") payload
  setKey (setKey payload "purged" (.str "true")) "purged_at" (.str purgedAt)

/-- `m[k].(map[string]any)` -/
def objectAt (m : Payload) (k : String) : Option Payload :=
  match m.lookup k with
  | some (.obj kvs) => some kvs
  | _ => none

/-- `m["media_url"]`, when it is a text other than `""` and `ExpungedMarker`. -/
def mediaURL (m : Payload) : List String :=
  match m.lookup "media_url" with
  | some (.str u) => if u ≠ "" ∧ u ≠ ExpungedMarker then [u] else []
  | _ => []

/-- mirrors purger.go:193-221 -/
def extractMediaURLs (payload : Payload) : List String :=
  ((objectAt payload "media").map mediaURL).getD [] ++
  ((objectAt payload "request").map fun req =>
    mediaURL req ++ ((objectAt req "media").map mediaURL).getD []).getD [] ++
  mediaURL payload

/-! ## The purge -/

/-- mirrors purger.go:34-38 -/
structure PurgeStats where
  messagesAnonymized : Nat
  mediaFilesDeleted : Nat
  errors : Nat

/-- mirrors repository/workspace.go:19-28 -/
structure Workspace where
  id : UUID
  mediaRetentionDays : Int
  /-- the id is drawn by the database -/
  id_ne : id ≠ UUID.Nil

/-- `SetBatchSize` keeps the size positive. mirrors purger.go:41-63 -/
structure Purger where
  rfc3339 : Time → String
  batchSize : Nat
  pos : 0 < batchSize

def newPurger (rfc3339 : Time → String) : Purger := ⟨rfc3339, 100, by decide⟩

section Purge

variable (p : Purger) (deleteMedia : String → Bool) (now : Time)

/-- mirrors purger.go:130-181 -/
def purgeEntry (acc : PurgeStats × AuditLogs) (entry : AuditEntry) : PurgeStats × AuditLogs :=
  let stats := { acc.1 with
    mediaFilesDeleted := acc.1.mediaFilesDeleted + (extractMediaURLs entry.payload).countP deleteMedia }
  match anonymizeAuditLog acc.2 entry.id entry.createdAt (anonymizePayload (p.rfc3339 now) entry.payload) with
  | none => ({ stats with errors := stats.errors + 1 }, acc.2)
  | some db => ({ stats with messagesAnonymized := stats.messagesAnonymized + 1 }, db)

end Purge

theorem lookup_setKey (m : Payload) (k k' : String) (v : Json) :
    (setKey m k v).lookup k' = if k' = k then some v else m.lookup k' :=
  Assoc.lookup_setKey m k k' v

@[simp] theorem purged_anonymizePayload (purgedAt : String) (payload : Payload) :
    purged (anonymizePayload purgedAt payload) = true := by
  unfold purged anonymizePayload
  simp [lookup_setKey]

/-! ## One row -/

section Row

variable (detached : List Int) (purgedAt : String)

def overwrite (entry r : AuditEntry) : AuditEntry :=
  if hasKey detached entry.id entry.createdAt r then { r with payload := anonymizePayload purgedAt entry.payload } else r

def expungeRow (ws : UUID) (cutoff : Time) (r : AuditEntry) : AuditEntry :=
  if expired detached ws cutoff r then { r with payload := anonymizePayload purgedAt r.payload } else r

variable {detached purgedAt} {ws : UUID} {cutoff : Time}

theorem foldl_overwrite_of_expired {es : List AuditEntry} {r : AuditEntry}
    (h : expired detached ws cutoff (es.foldl (fun r e => overwrite detached purgedAt e r) r) = true) :
    es.foldl (fun r e => overwrite detached purgedAt e r) r = r ∧
      ∀ e ∈ es, hasKey detached e.id e.createdAt r = false := by
  induction es generalizing r with
  | nil => exact ⟨rfl, fun _ he => nomatch he⟩
  | cons e es ih =>
    rw [List.foldl_cons] at h ⊢
    obtain ⟨hsame, hkeys⟩ := ih h
    rw [hsame] at h ⊢
    cases hk : hasKey detached e.id e.createdAt r with
    | true => simp [overwrite, hk, expired] at h
    | false =>
      have hr : overwrite detached purgedAt e r = r := by simp [overwrite, hk]
      rw [hr] at hkeys ⊢
      exact ⟨rfl, List.forall_mem_cons.mpr ⟨hk, hkeys⟩⟩

end Row

/-! ## One batch -/

section Purge

variable (p : Purger) (deleteMedia : String → Bool) (now : Time)

theorem purgeEntry_logs (acc : PurgeStats × AuditLogs) (entry : AuditEntry) :
    (purgeEntry p deleteMedia now acc entry).2 =
      { acc.2 with rows := acc.2.rows.map (overwrite acc.2.detached (p.rfc3339 now) entry) } := by
  unfold purgeEntry anonymizeAuditLog
  by_cases hany : acc.2.rows.any (hasKey acc.2.detached entry.id entry.createdAt) = true
  · rw [if_pos hany]
    rfl
  · rw [if_neg hany]
    have hnone : ∀ r ∈ acc.2.rows, hasKey acc.2.detached entry.id entry.createdAt r = false := by
      simpa [List.any_eq_false] using hany
    have hsame : acc.2.rows.map (overwrite acc.2.detached (p.rfc3339 now) entry) = acc.2.rows := updateWhere_of_none hnone
    rw [hsame]

theorem batch_logs (es : List AuditEntry) (acc : PurgeStats × AuditLogs) :
    (es.foldl (purgeEntry p deleteMedia now) acc).2 =
      { acc.2 with
        rows := acc.2.rows.map (fun r => es.foldl (fun r e => overwrite acc.2.detached (p.rfc3339 now) e r) r) } := by
  induction es generalizing acc with
  | nil => simp
  | cons e es ih =>
    rw [List.foldl_cons, ih, purgeEntry_logs]
    simp [List.map_map, Function.comp_def]

theorem mem_getExpiredMessages {db : AuditLogs} {ws : UUID} {cutoff : Time} {limit : Nat} {es : List AuditEntry}
    (h : getExpiredMessages db ws cutoff limit = some es) {e : AuditEntry} (he : e ∈ es) :
    e ∈ db.rows ∧ expired db.detached ws cutoff e = true := by
  obtain ⟨-, hes⟩ := Option.ite_none_left_eq_some.mp h
  obtain rfl := Option.some.inj hes
  have hfound := (List.mem_insertionSort _).mp (List.mem_of_mem_take he)
  exact List.mem_filter.mp hfound

theorem hasKey_of_expired {detached : List Int} {ws : UUID} {cutoff : Time} {e : AuditEntry}
    (h : expired detached ws cutoff e = true) : hasKey detached e.id e.createdAt e = true := by
  simp only [expired, Bool.and_eq_true] at h
  simp [hasKey, h.1.1.1.1]

theorem batch_countP_lt {ws : UUID} {cutoff : Time} {es : List AuditEntry} {acc : PurgeStats × AuditLogs}
    (h : getExpiredMessages acc.2 ws cutoff p.batchSize = some es) (hne : es ≠ []) :
    (es.foldl (purgeEntry p deleteMedia now) acc).2.rows.countP
        (expired (es.foldl (purgeEntry p deleteMedia now) acc).2.detached ws cutoff) <
      acc.2.rows.countP (expired acc.2.detached ws cutoff) := by
  obtain ⟨e, he⟩ := List.exists_mem_of_ne_nil es hne
  obtain ⟨hmem, hexp⟩ := mem_getExpiredMessages h he
  rw [batch_logs]
  refine countP_map_lt (fun r hr => ?_) hmem hexp ?_
  · rw [(foldl_overwrite_of_expired hr).1] at hr
    exact hr
  · by_contra hcon
    have hkeys := (foldl_overwrite_of_expired (Bool.not_eq_false _ ▸ hcon)).2 e he
    rw [hasKey_of_expired hexp] at hkeys
    cases hkeys

/-- mirrors purger.go:114-189 -/
def purgeLoop (ws : UUID) (cutoff : Time) (acc : PurgeStats × AuditLogs) : PurgeStats × AuditLogs :=
  match _ : getExpiredMessages acc.2 ws cutoff p.batchSize with
  | none => acc
  | some entries =>
    if _ : entries = [] then acc
    else
      let acc' := entries.foldl (purgeEntry p deleteMedia now) acc
      if entries.length < p.batchSize then acc' else purgeLoop ws cutoff acc'
termination_by acc.2.rows.countP (expired acc.2.detached ws cutoff)
decreasing_by exact batch_countP_lt p deleteMedia now ‹_› ‹_›

/-- mirrors purger.go:106-190 -/
def purgeWorkspace (ws : Workspace) (db : AuditLogs) : PurgeStats × AuditLogs :=
  if ws.mediaRetentionDays ≤ 0 then (⟨0, 0, 0⟩, db)
  else purgeLoop p deleteMedia now ws.id (now - ws.mediaRetentionDays * day) (⟨0, 0, 0⟩, db)

/-- mirrors workspace.go:251-272 -/
def listActiveRetentionPolicies (workspaces : List Workspace) : List Workspace :=
  workspaces.filter fun ws => 0 < ws.mediaRetentionDays

/-- An error of one workspace is logged and the next is purged. mirrors purger.go:66-103 -/
def purgeAll (workspaces : List Workspace) (db : AuditLogs) : List (UUID × PurgeStats) × AuditLogs :=
  (listActiveRetentionPolicies workspaces).foldl
    (fun acc ws =>
      let purged := purgeWorkspace p deleteMedia now ws acc.2
      (acc.1 ++ [(ws.id, purged.1)], purged.2))
    ([], db)

/-! ## What the purge leaves -/

def key (r : AuditEntry) : UUID × Time := (r.id, r.createdAt)

theorem key_of_hasKey {detached : List Int} {e r : AuditEntry} (h : hasKey detached e.id e.createdAt r = true) :
    key e = key r := by
  simp only [hasKey, Bool.and_eq_true, decide_eq_true_eq] at h
  rw [key, key, h.1.2, h.2]

theorem foldl_overwrite_of_none {detached : List Int} {purgedAt : String} {es : List AuditEntry} {r : AuditEntry}
    (h : ∀ e ∈ es, hasKey detached e.id e.createdAt r = false) :
    es.foldl (fun r e => overwrite detached purgedAt e r) r = r := by
  induction es with
  | nil => rfl
  | cons e es ih =>
    obtain ⟨he, hes⟩ := List.forall_mem_cons.mp h
    have hr : overwrite detached purgedAt e r = r := by simp [overwrite, he]
    rw [List.foldl_cons, hr, ih hes]

theorem foldl_overwrite {detached : List Int} {purgedAt : String} {rows es : List AuditEntry} (hn : (rows.map key).Nodup)
    (hes : es.Nodup) (hsub : ∀ e ∈ es, e ∈ rows) {r : AuditEntry} (hr : r ∈ rows)
    (hkey : hasKey detached r.id r.createdAt r = true) :
    es.foldl (fun r e => overwrite detached purgedAt e r) r =
      if r ∈ es then { r with payload := anonymizePayload purgedAt r.payload } else r := by
  have hother : ∀ e ∈ es, e ≠ r → hasKey detached e.id e.createdAt r = false := by
    intro e he hne
    cases hk : hasKey detached e.id e.createdAt r with
    | false => rfl
    | true => exact absurd (eq_of_key_eq hn (hsub e he) hr (key_of_hasKey hk)) hne
  split
  · rename_i hmem
    obtain ⟨pre, post, rfl⟩ := List.append_of_mem hmem
    rw [List.nodup_middle, List.nodup_cons, List.mem_append, not_or] at hes
    have hpre : pre.foldl (fun r e => overwrite detached purgedAt e r) r = r :=
      foldl_overwrite_of_none fun e he => hother e (List.mem_append_left _ he) fun heq => hes.1.1 (heq ▸ he)
    have hself : overwrite detached purgedAt r r = { r with payload := anonymizePayload purgedAt r.payload } := by
      rw [overwrite, if_pos hkey]
    rw [List.foldl_append, List.foldl_cons, hpre, hself]
    refine foldl_overwrite_of_none fun e he => ?_
    exact hother e (List.mem_append_right _ (List.mem_cons_of_mem _ he)) fun heq => hes.1.2 (heq ▸ he)
  · rename_i hmem
    exact foldl_overwrite_of_none fun e he => hother e he fun heq => hmem (heq ▸ he)

theorem getExpiredMessages_nodup {db : AuditLogs} {ws : UUID} {cutoff : Time} {limit : Nat} {es : List AuditEntry}
    (h : getExpiredMessages db ws cutoff limit = some es) (hn : (db.rows.map key).Nodup) : es.Nodup := by
  obtain ⟨-, hes⟩ := Option.ite_none_left_eq_some.mp h
  obtain rfl := Option.some.inj hes
  have hrows : db.rows.Nodup := hn.of_map key
  have hsorted := (List.perm_insertionSort (fun a b : AuditEntry => a.createdAt ≤ b.createdAt) _).nodup_iff.mpr
    (hrows.filter (expired db.detached ws cutoff))
  exact (List.take_sublist _ _).nodup hsorted

theorem mem_of_length_lt {db : AuditLogs} {ws : UUID} {cutoff : Time} {limit : Nat} {es : List AuditEntry}
    (h : getExpiredMessages db ws cutoff limit = some es) (hlt : es.length < limit) {r : AuditEntry} (hr : r ∈ db.rows)
    (hexp : expired db.detached ws cutoff r = true) : r ∈ es := by
  obtain ⟨-, hes⟩ := Option.ite_none_left_eq_some.mp h
  obtain rfl := Option.some.inj hes
  have hlimit : limit ≠ 0 := by omega
  rw [if_neg hlimit] at hlt ⊢
  rw [List.length_take] at hlt
  rw [List.take_of_length_le (by omega)]
  exact (List.mem_insertionSort _).mpr (List.mem_filter.mpr ⟨hr, hexp⟩)

theorem key_expungeRow (detached : List Int) (purgedAt : String) (ws : UUID) (cutoff : Time) (r : AuditEntry) :
    key (expungeRow detached purgedAt ws cutoff r) = key r := by
  unfold expungeRow
  split <;> rfl

theorem foldl_overwrite_of_batch {db : AuditLogs} {ws : UUID} {cutoff : Time} {limit : Nat} {es : List AuditEntry}
    (h : getExpiredMessages db ws cutoff limit = some es) (hn : (db.rows.map key).Nodup) (purgedAt : String)
    {r : AuditEntry} (hr : r ∈ db.rows) :
    es.foldl (fun r e => overwrite db.detached purgedAt e r) r =
      if r ∈ es then expungeRow db.detached purgedAt ws cutoff r else r := by
  have hsub : ∀ e ∈ es, e ∈ db.rows := fun e he => (mem_getExpiredMessages h he).1
  by_cases hexp : expired db.detached ws cutoff r = true
  · rw [foldl_overwrite hn (getExpiredMessages_nodup h hn) hsub hr (hasKey_of_expired hexp), expungeRow, if_pos hexp]
  · have hmem : r ∉ es := fun hin => hexp (mem_getExpiredMessages h hin).2
    rw [if_neg hmem]
    refine foldl_overwrite_of_none fun e he => ?_
    cases hk : hasKey db.detached e.id e.createdAt r with
    | false => rfl
    | true => exact absurd (eq_of_key_eq hn (hsub e he) hr (key_of_hasKey hk) ▸ he) hmem

theorem expired_expungeRow {detached : List Int} {purgedAt : String} {ws : UUID} {cutoff : Time} (r : AuditEntry) :
    expired detached ws cutoff (expungeRow detached purgedAt ws cutoff r) = false := by
  unfold expungeRow
  split
  · simp [expired]
  · rename_i h
    exact Bool.eq_false_iff.mpr h

theorem purgeLoop_logs {ws : UUID} (hws : ws ≠ UUID.Nil) (cutoff : Time) (acc : PurgeStats × AuditLogs)
    (hn : (acc.2.rows.map key).Nodup) :
    (purgeLoop p deleteMedia now ws cutoff acc).2 =
      { acc.2 with rows := acc.2.rows.map (expungeRow acc.2.detached (p.rfc3339 now) ws cutoff) } := by
  fun_induction purgeLoop p deleteMedia now ws cutoff acc with
  | case1 acc hfound => exact absurd hfound (by simp [getExpiredMessages, hws])
  | case2 acc hfound =>
    have hsame : acc.2.rows.map (expungeRow acc.2.detached (p.rfc3339 now) ws cutoff) = acc.2.rows := by
      conv_rhs => rw [← List.map_id acc.2.rows]
      refine List.map_congr_left fun r hr => ?_
      have hnot : ¬ expired acc.2.detached ws cutoff r = true :=
        fun hexp => List.not_mem_nil (mem_of_length_lt hfound p.pos hr hexp)
      rw [expungeRow, if_neg hnot, id]
    rw [hsame]
  | case3 acc entries hfound hne acc' hlt =>
    have hrows : acc'.2 = _ := batch_logs p deleteMedia now entries acc
    rw [hrows]
    refine congrArg (fun rows => { acc.2 with rows := rows }) (List.map_congr_left fun r hr => ?_)
    rw [foldl_overwrite_of_batch hfound hn _ hr]
    split
    · rfl
    · rename_i hmem
      rw [expungeRow, if_neg fun hexp => hmem (mem_of_length_lt hfound hlt hr hexp)]
  | case4 acc entries hfound hne acc' hge ih =>
    have hrows : acc'.2 = _ := batch_logs p deleteMedia now entries acc
    have hrow : ∀ r ∈ acc.2.rows, entries.foldl (fun r e => overwrite acc.2.detached (p.rfc3339 now) e r) r = _ :=
      fun r hr => foldl_overwrite_of_batch hfound hn _ hr
    have hkeys : acc'.2.rows.map key = acc.2.rows.map key := by
      rw [hrows, List.map_map]
      refine List.map_congr_left fun r hr => ?_
      rw [Function.comp_apply, hrow r hr]
      split
      · exact key_expungeRow _ _ _ _ r
      · rfl
    rw [ih (hkeys ▸ hn), hrows, List.map_map]
    refine congrArg (fun rows => { acc.2 with rows := rows }) (List.map_congr_left fun r hr => ?_)
    rw [Function.comp_apply, hrow r hr]
    split
    · rw [expungeRow, expired_expungeRow]
      rfl
    · rfl

/-- mirrors `PurgeWorkspace`, row by row. -/
def expungeFor (detached : List Int) (ws : Workspace) (r : AuditEntry) : AuditEntry :=
  expungeRow detached (p.rfc3339 now) ws.id (now - ws.mediaRetentionDays * day) r

theorem purgeWorkspace_logs (ws : Workspace) (hpos : 0 < ws.mediaRetentionDays) (db : AuditLogs)
    (hn : (db.rows.map key).Nodup) :
    (purgeWorkspace p deleteMedia now ws db).2 = { db with rows := db.rows.map (expungeFor p now db.detached ws) } := by
  rw [purgeWorkspace, if_neg (by omega)]
  exact purgeLoop_logs p deleteMedia now ws.id_ne _ _ hn

/-- What `PurgeAll` makes of a row. -/
def expungeAll (detached : List Int) (workspaces : List Workspace) (r : AuditEntry) : AuditEntry :=
  workspaces.foldl (fun r ws => expungeFor p now detached ws r) r

theorem purgeAll_logs (workspaces : List Workspace) (db : AuditLogs) (hn : (db.rows.map key).Nodup) :
    (purgeAll p deleteMedia now workspaces db).2 =
      { db with
        rows := db.rows.map (expungeAll p now db.detached (listActiveRetentionPolicies workspaces)) } := by
  have hactive : ∀ ws ∈ listActiveRetentionPolicies workspaces, 0 < ws.mediaRetentionDays := fun ws hws => by
    simpa using (List.mem_filter.mp hws).2
  unfold purgeAll
  generalize listActiveRetentionPolicies workspaces = active at hactive ⊢
  generalize hacc : (([] : List (UUID × PurgeStats)), db) = acc
  obtain rfl : acc.2 = db := by rw [← hacc]
  clear hacc
  induction active generalizing acc with
  | nil =>
    have hid : expungeAll p now acc.2.detached [] = id := rfl
    rw [hid, List.map_id]
    rfl
  | cons ws active ih =>
    obtain ⟨hpos, hrest⟩ := List.forall_mem_cons.mp hactive
    have hws := purgeWorkspace_logs p deleteMedia now ws hpos acc.2 hn
    have hkeys : (purgeWorkspace p deleteMedia now ws acc.2).2.rows.map key = acc.2.rows.map key := by
      rw [hws, List.map_map]
      exact List.map_congr_left fun r _ => key_expungeRow _ _ _ _ r
    rw [List.foldl_cons, ih hrest _ (hkeys ▸ hn)]
    dsimp only
    rw [hws, List.map_map]
    rfl

theorem expungeAll_of_purged {detached : List Int} {workspaces : List Workspace} {r : AuditEntry} (h : purged r.payload = true) :
    expungeAll p now detached workspaces r = r := by
  induction workspaces with
  | nil => rfl
  | cons ws workspaces ih =>
    have hws : expungeFor p now detached ws r = r := by simp [expungeFor, expungeRow, expired, h]
    rw [expungeAll, List.foldl_cons, hws]
    exact ih

/-- A row is left as it is or anonymised, and then for good. -/
theorem expungeAll_cases (detached : List Int) (workspaces : List Workspace) (r : AuditEntry) :
    expungeAll p now detached workspaces r = r ∨
      expungeAll p now detached workspaces r = { r with payload := anonymizePayload (p.rfc3339 now) r.payload } := by
  induction workspaces with
  | nil => exact Or.inl rfl
  | cons ws workspaces ih =>
    rw [expungeAll, List.foldl_cons, ← expungeAll]
    by_cases hexp : expired detached ws.id (now - ws.mediaRetentionDays * day) r = true
    · right
      rw [expungeFor, expungeRow, if_pos hexp]
      exact expungeAll_of_purged p now (purged_anonymizePayload _ _)
    · rw [expungeFor, expungeRow, if_neg hexp]
      exact ih

theorem expungeAll_expired {detached : List Int} {workspaces : List Workspace} {ws : Workspace} (hws : ws ∈ workspaces) {r : AuditEntry}
    (hexp : expired detached ws.id (now - ws.mediaRetentionDays * day) r = true) :
    expungeAll p now detached workspaces r = { r with payload := anonymizePayload (p.rfc3339 now) r.payload } := by
  induction workspaces with
  | nil => cases hws
  | cons ws' workspaces ih =>
    rw [expungeAll, List.foldl_cons, ← expungeAll]
    by_cases hexp' : expired detached ws'.id (now - ws'.mediaRetentionDays * day) r = true
    · rw [expungeFor, expungeRow, if_pos hexp']
      exact expungeAll_of_purged p now (purged_anonymizePayload _ _)
    · have hrest : ws ∈ workspaces := by
        rcases List.mem_cons.mp hws with rfl | hrest
        · exact absurd hexp hexp'
        · exact hrest
      rw [expungeFor, expungeRow, if_neg hexp']
      exact ih hrest

theorem expungeAll_of_not_expired {detached : List Int} {workspaces : List Workspace} {r : AuditEntry}
    (h : ∀ ws ∈ workspaces, expired detached ws.id (now - ws.mediaRetentionDays * day) r = false) :
    expungeAll p now detached workspaces r = r := by
  induction workspaces with
  | nil => rfl
  | cons ws workspaces ih =>
    obtain ⟨hws, hrest⟩ := List.forall_mem_cons.mp h
    have hsame : expungeFor p now detached ws r = r := by rw [expungeFor, expungeRow, hws, if_neg Bool.false_ne_true]
    rw [expungeAll, List.foldl_cons, hsame]
    exact ih hrest

end Purge

/-! ## What is anonymised -/

def valueAt : List String → Json → Option Json
  | [], j => some j
  | k :: ks, .obj kvs => (kvs.lookup k).bind (valueAt ks)
  | _ :: _, _ => none

/-- Where a payload holds what was written or sent. -/
def contentPaths : List (List String) :=
  [["body"], ["media", "caption"], ["media", "media_url"], ["request", "body"], ["request", "media_url"],
   ["request", "media", "caption"], ["request", "media", "media_url"], ["story_event", "media_url"]]

structure Anonymised (payload : Payload) : Prop where
  marked : purged payload = true
  expunged : ∀ path ∈ contentPaths, ∀ v ∈ valueAt path (.obj payload), v = .str ExpungedMarker

theorem lookup_expunge (k k' : String) (m : Payload) :
    (expunge k m).lookup k' = if k' = k then (m.lookup k).map fun _ => .str ExpungedMarker else m.lookup k' := by
  unfold expunge
  cases hk : m.lookup k with
  | none =>
    by_cases hkk : k' = k
    · simp [hkk, hk]
    · simp [hkk]
  | some v =>
    rw [Option.isSome_some, if_pos rfl, lookup_setKey]
    rfl

/-- `f` inside an object; other values stay. -/
def onObject (f : Payload → Payload) : Json → Json
  | .obj kvs => .obj (f kvs)
  | j => j

theorem lookup_inObject (k k' : String) (f : Payload → Payload) (m : Payload) :
    (inObject k f m).lookup k' = if k' = k then (m.lookup k).map (onObject f) else m.lookup k' := by
  unfold inObject
  split
  · rename_i kvs hk
    rw [lookup_setKey, hk]
    rfl
  · rename_i hk
    by_cases hkk : k' = k
    · subst hkk
      rw [if_pos rfl]
      cases hv : m.lookup k' with
      | none => rfl
      | some v =>
        cases v with
        | obj kvs => exact absurd hv (hk kvs)
        | null | bool | num | str | arr => rfl
    · rw [if_neg hkk]

/-- What is found inside a value that `f` went over, was found in an object. -/
theorem valueAt_onObject {f : Payload → Payload} {o : Option Json} {k : String} {ks : List String} {v : Json}
    (h : (o.map (onObject f)).bind (valueAt (k :: ks)) = some v) :
    ∃ kvs, ((f kvs).lookup k).bind (valueAt ks) = some v := by
  obtain ⟨j', hj', hv⟩ := Option.bind_eq_some_iff.mp h
  obtain ⟨j, -, rfl⟩ := Option.map_eq_some_iff.mp hj'
  cases j with
  | obj kvs => exact ⟨kvs, hv⟩
  | null | bool | num | str | arr => cases hv

theorem anonymizePayload_anonymised (purgedAt : String) (payload : Payload) :
    Anonymised (anonymizePayload purgedAt payload) := by
  refine ⟨purged_anonymizePayload purgedAt payload, ?_⟩
  intro path hpath v hv
  simp only [contentPaths, List.mem_cons, List.not_mem_nil, or_false] at hpath
  rcases hpath with rfl | rfl | rfl | rfl | rfl | rfl | rfl | rfl <;>
    simp [valueAt, anonymizePayload, lookup_setKey, lookup_inObject, lookup_expunge] at hv
  · exact hv.2.symm
  · obtain ⟨media, hv⟩ := valueAt_onObject hv
    simp [valueAt, lookup_expunge] at hv
    exact hv.2.symm
  · obtain ⟨media, hv⟩ := valueAt_onObject hv
    simp [valueAt, lookup_expunge] at hv
    exact hv.2.symm
  · obtain ⟨req, hv⟩ := valueAt_onObject hv
    simp [valueAt, lookup_inObject, lookup_expunge] at hv
    exact hv.2.symm
  · obtain ⟨req, hv⟩ := valueAt_onObject hv
    simp [valueAt, lookup_inObject, lookup_expunge] at hv
    exact hv.2.symm
  · obtain ⟨req, hv⟩ := valueAt_onObject hv
    simp [lookup_inObject, lookup_expunge] at hv
    obtain ⟨media, hv⟩ := valueAt_onObject hv
    simp [valueAt, lookup_expunge] at hv
    exact hv.2.symm
  · obtain ⟨req, hv⟩ := valueAt_onObject hv
    simp [lookup_inObject, lookup_expunge] at hv
    obtain ⟨media, hv⟩ := valueAt_onObject hv
    simp [valueAt, lookup_expunge] at hv
    exact hv.2.symm
  · obtain ⟨story, hv⟩ := valueAt_onObject hv
    simp [valueAt, lookup_expunge] at hv
    exact hv.2.symm

end PerGo.L3.Retention
