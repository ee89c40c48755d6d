import Mathlib.Algebra.Order.BigOperators.Group.List
import PerGo.L3Audit.PurgeRun

/-!
# When a purge comes to an end

The loop of `PurgeWorkspace` takes the oldest rows again until a batch is not full, so rows that cannot be
purged come back with every batch: once they fill one, the loop goes on for ever and no row after them is
reached. A payload that is `null` is read into a nil map, and writing to it ends the process.

* `stuck_never_returns`, `null_never_returns`, `few_stuck_returns`: the three cases.
* `purge_ends_iff`: the purge ends, with every row that can be anonymised anonymised, exactly when fewer
  rows than a batch are stuck and no payload is `null`.
* `full_batch_for_ever`: a hundred rows that hold a list.
-/
namespace PerGo.L4.PurgeTermination

open PerGo.Core PerGo.Core.Result PerGo.L1 PerGo.L2 PerGo.L3.Audit PerGo.L3.Retention

variable {env : Env} {p : Purger} {ws : UUID} {cutoff : Time} {table : AuditTable}

/-- Neither the context nor the query ends the run. -/
def Serves (env : Env) : Prop := ∀ log, env.interrupts log = none

/-! ## One round -/

theorem purgeRound_again (hserves : Serves env) {st st' : PurgeState} (h : purgeRound env p ws cutoff st = .ok (.again st')) :
    (fetchExpired env p ws cutoff st).length = p.batchSize ∧
      (fetchExpired env p ws cutoff st).foldlM (processEntry env) (fetched env p ws cutoff st) = .ok st' := by
  unfold purgeRound at h
  rw [hserves] at h
  dsimp only at h
  split at h
  · cases h
  · obtain ⟨st₁, hbatch, hrest⟩ := bind_eq_ok_iff.mp h
    split at hrest
    · cases hrest
    · rename_i hfull
      cases hrest
      refine ⟨?_, hbatch⟩
      have hle := @length_fetchExpired env p ws cutoff st
      omega

theorem purgeRound_leave (hserves : Serves env) {st : PurgeState} {r : PurgeState × Option PurgeError}
    (h : purgeRound env p ws cutoff st = .ok (.leave r)) :
    r.2 = none ∧ (fetchExpired env p ws cutoff st).length < p.batchSize ∧
      (fetchExpired env p ws cutoff st).foldlM (processEntry env) (fetched env p ws cutoff st) = .ok r.1 := by
  unfold purgeRound at h
  rw [hserves] at h
  dsimp only at h
  split at h
  · rename_i hempty
    cases h
    rw [hempty]
    exact ⟨rfl, p.pos, rfl⟩
  · obtain ⟨st₁, hbatch, hrest⟩ := bind_eq_ok_iff.mp h
    split at hrest
    · rename_i hlt
      cases hrest
      exact ⟨rfl, hlt, hbatch⟩
    · cases hrest

theorem fetched_in_table {st : PurgeState} (hinv : Inv env ws cutoff table st) {e : AuditRow}
    (he : e ∈ fetchExpired env p ws cutoff st) : e ∈ table.rows :=
  hinv.mem_table (mem_fetchExpired he).1 (mem_fetchExpired he).2

theorem purgeRound_inv (hserves : Serves env) {st st' : PurgeState} (hinv : Inv env ws cutoff table st)
    (h : purgeRound env p ws cutoff st = .ok (.again st')) : Inv env ws cutoff table st' :=
  batch_inv (fetched_inv hinv) (fun _ he => fetched_in_table hinv he) (purgeRound_again hserves h).2

/-! ## The loop -/

/-- The rows that cannot be purged do not fill a batch. -/
def FewStuck (env : Env) (p : Purger) (ws : UUID) (cutoff : Time) (table : AuditTable) : Prop :=
  ∀ rows : List AuditRow, rows.Nodup → (∀ r ∈ rows, r ∈ table.rows ∧ Stuck env ws cutoff r) → rows.length < p.batchSize

theorem stuck_never_returns (hserves : Serves env) {rows : List AuditRow} (hn : rows.Nodup)
    (hrows : ∀ r ∈ rows, r ∈ table.rows ∧ Stuck env ws cutoff r) (hfull : p.batchSize ≤ rows.length)
    (r : PurgeState × Option PurgeError) : ¬ Returns (purgeRound env p ws cutoff) (.start table) r := by
  refine not_returns_of_inv (I := fun st => Inv env ws cutoff table st ∧ ∀ r ∈ rows, r ∈ st.rows) ?_ ?_
    ⟨inv_start table, fun r hr => (hrows r hr).1⟩ r
  · rintro st st' ⟨hinv, hstay⟩ h
    refine ⟨purgeRound_inv hserves hinv h, fun r hr => ?_⟩
    have hmem : r ∈ (fetched env p ws cutoff st).rows := hstay r hr
    exact batch_stays (fun _ he => fetched_in_table hinv he) (hrows r hr).1 (hrows r hr).2 hmem
      (purgeRound_again hserves h).2
  · rintro st r ⟨-, hstay⟩ h
    have hshort := (purgeRound_leave hserves h).2.1
    have hle : rows.length ≤ (st.rows.filter (isExpired ws cutoff)).length :=
      (List.subperm_of_subset hn fun r hr => List.mem_filter.mpr ⟨hstay r hr, (hrows r hr).2.1⟩).length_le
    rw [length_fetchExpired] at hshort
    omega

theorem null_never_returns (hserves : Serves env) {r : AuditRow} (hr : r ∈ table.rows)
    (hexp : isExpired ws cutoff r = true) (hnull : r.payload = some .null) (res : PurgeState × Option PurgeError) :
    ¬ Returns (purgeRound env p ws cutoff) (.start table) res := by
  have hread : unmarshal env.float64 r.payload = some none := by rw [hnull, unmarshal]
  have hstuck : Stuck env ws cutoff r := ⟨hexp, Or.inl fun payload hp => by rw [hread] at hp; cases hp⟩
  refine not_returns_of_inv (I := fun st => Inv env ws cutoff table st ∧ r ∈ st.rows) ?_ ?_ ⟨inv_start table, hr⟩ res
  · rintro st st' ⟨hinv, hstay⟩ h
    have hmem : r ∈ (fetched env p ws cutoff st).rows := hstay
    exact ⟨purgeRound_inv hserves hinv h,
      batch_stays (fun _ he => fetched_in_table hinv he) hr hstuck hmem (purgeRound_again hserves h).2⟩
  · rintro st res ⟨-, hstay⟩ h
    obtain ⟨-, hlt, hbatch⟩ := purgeRound_leave hserves h
    exact batch_panics (mem_fetchExpired_of_lt hlt hstay hexp) hread hbatch

theorem readable_of_not_null {r : AuditRow} (h : r.payload ≠ some .null) : unmarshal env.float64 r.payload ≠ some none := by
  intro hread
  unfold unmarshal at hread
  split at hread
  · exact h ‹_›
  · cases hf : readFields env.float64 ‹_› with
    | none => simp [hf] at hread
    | some kvs => simp [hf] at hread
  · cases hread

theorem purgeRound_ok {st : PurgeState} (hinv : Inv env ws cutoff table st)
    (hnull : ∀ r ∈ table.rows, isExpired ws cutoff r = true → r.payload ≠ some .null) :
    ∃ next, purgeRound env p ws cutoff st = .ok next := by
  unfold purgeRound
  split
  · exact ⟨_, rfl⟩
  · dsimp only
    split
    · exact ⟨_, rfl⟩
    · obtain ⟨st', hst'⟩ := foldlM_ok (f := processEntry env) (l := fetchExpired env p ws cutoff st)
        (fun e he st => processEntry_ok (readable_of_not_null
          (hnull e (fetched_in_table hinv he) (mem_fetchExpired he).2))) (fetched env p ws cutoff st)
      rw [hst', ok_bind]
      split
      · exact ⟨_, rfl⟩
      · exact ⟨_, rfl⟩

theorem few_stuck_returns (hserves : Serves env) (hfew : FewStuck env p ws cutoff table)
    (hnull : ∀ r ∈ table.rows, isExpired ws cutoff r = true → r.payload ≠ some .null) :
    ∃ res, Returns (purgeRound env p ws cutoff) (.start table) res := by
  -- an update of each row that succeeds, if one does
  have hsucceeds : ∀ k, ∃ b, (∃ n, env.updates k n = true) → env.updates k b = true := by
    intro k
    by_cases h : ∃ n, env.updates k n = true
    · obtain ⟨n, hn⟩ := h
      exact ⟨n, fun _ => hn⟩
    · exact ⟨0, fun hex => absurd hex h⟩
  choose b hb using hsucceeds
  -- the updates that are left until then
  let size : PurgeState → Nat := fun st => (table.rows.map fun r => b r.key + 1 - attempts st.log r.key).sum
  refine @returns_of_size _ _ _ _ (Inv env ws cutoff table) size ?_ ?_ _ (inv_start table)
  · exact fun st hinv => purgeRound_ok hinv hnull
  · intro st st' hinv h
    refine ⟨purgeRound_inv hserves hinv h, ?_⟩
    obtain ⟨hfull, hbatch⟩ := purgeRound_again hserves h
    have hmono : ∀ k, attempts st.log k ≤ attempts st'.log k := by
      intro k
      have := batch_attempts hbatch k
      simpa [fetched] using this
    -- a full batch has a row that can be purged
    obtain ⟨e, he, hfree⟩ : ∃ e ∈ fetchExpired env p ws cutoff st, ¬ Stuck env ws cutoff e := by
      by_contra hall
      push Not at hall
      have := hfew _ (fetchExpired_nodup hinv.keys) fun r hr => ⟨fetched_in_table hinv hr, hall r hr⟩
      omega
    have hexp := (mem_fetchExpired he).2
    simp only [Stuck, hexp, true_and, not_or, not_forall, not_not, Bool.not_eq_false] at hfree
    obtain ⟨⟨payload, hread⟩, hsome⟩ := hfree
    have htried : attempts st.log e.key < attempts st'.log e.key := by
      have := batch_tries he (by rw [hread]; exact Option.some_ne_none _) hbatch
      simpa [fetched] using this
    have hleft : attempts st.log e.key ≤ b e.key := by
      by_contra hgt
      have hrefused := hinv.refused e (mem_fetchExpired he).1 hexp (b e.key) (by omega)
      rw [hb e.key hsome] at hrefused
      cases hrefused
    refine List.sum_lt_sum _ _ (fun r _ => ?_) ⟨e, fetched_in_table hinv he, ?_⟩
    · have := hmono r.key
      omega
    · omega

theorem anonymised_of_returns (hserves : Serves env) {res : PurgeState × Option PurgeError}
    (h : Returns (purgeRound env p ws cutoff) (.start table) res) {r : AuditRow} (hr : r ∈ table.rows)
    (hexp : isExpired ws cutoff r = true) (hread : unmarshal env.float64 r.payload ≠ none) (hok : env.updates r.key 0 = true) :
    ∃ r' ∈ res.1.rows, AnonymisedFrom env r r' := by
  refine h.inv (I := Inv env ws cutoff table) (Q := fun res => ∃ r' ∈ res.1.rows, AnonymisedFrom env r r')
    (fun _ _ hinv => purgeRound_inv hserves hinv) ?_ (inv_start table)
  intro st res hinv hleave
  obtain ⟨-, hlt, hbatch⟩ := purgeRound_leave hserves hleave
  have hinv' : Inv env ws cutoff table res.1 := batch_inv (fetched_inv hinv) (fun _ he => fetched_in_table hinv he) hbatch
  have hkey : r.key ∈ res.1.rows.map AuditRow.key := by
    rw [hinv'.keys]
    exact List.mem_map_of_mem hr
  obtain ⟨r', hr', hk⟩ := List.mem_map.mp hkey
  rcases hinv'.from_table r' hr' with htable | ⟨r₀, hr₀, hanon⟩
  · -- the row is as it was, and the last batch had it
    exfalso
    obtain rfl := eq_of_key_eq table.keyed htable hr hk
    have hmem : r' ∈ st.rows := batch_expired hbatch hr' hexp
    have htried := batch_tries (mem_fetchExpired_of_lt hlt hmem hexp) hread hbatch
    have hrefused := hinv'.refused r' hr' hexp 0 (by omega)
    rw [hok] at hrefused
    cases hrefused
  · have hkeys : r₀.key = r'.key := by
      obtain ⟨payload, purgedAt, -, rfl⟩ := hanon
      rfl
    rw [eq_of_key_eq table.keyed hr₀ hr (hkeys.trans hk)] at hanon
    exact ⟨r', hr', hanon⟩

/-- The purge returns, and every row whose payload is an object and whose update succeeds is anonymised. -/
def PurgeEnds (env : Env) (p : Purger) (now : Time) (ws : Workspace) (table : AuditTable) : Prop :=
  ∃ st, PurgeWorkspaceReturns env p now ws table (st, none) ∧
    ∀ r ∈ table.rows, isExpired ws.id (now - ws.mediaRetentionDays * day) r = true → ∀ kvs, r.payload = some (.obj kvs) →
      env.updates r.key 0 = true → ∃ r' ∈ st.rows, AnonymisedFrom env r r'

theorem purge_ends_iff {now : Time} {ws : Workspace} (hserves : Serves env) (hpos : 0 < ws.mediaRetentionDays) :
    PurgeEnds env p now ws table ↔
      FewStuck env p ws.id (now - ws.mediaRetentionDays * day) table ∧
        ∀ r ∈ table.rows, isExpired ws.id (now - ws.mediaRetentionDays * day) r = true →
          r.payload ≠ some .null ∧
            ∀ kvs, r.payload = some (.obj kvs) → env.updates r.key 0 = true → readFields env.float64 kvs ≠ none := by
  have hreturns : ∀ res, PurgeWorkspaceReturns env p now ws table res ↔
      Returns (purgeRound env p ws.id (now - ws.mediaRetentionDays * day)) (.start table) res := by
    intro res
    rw [PurgeWorkspaceReturns, if_neg (by omega)]
  constructor
  · rintro ⟨st, hst, hdone⟩
    rw [hreturns] at hst
    refine ⟨?_, fun r hr hexp => ⟨?_, ?_⟩⟩
    · intro rows hn hrows
      by_contra hfull
      exact stuck_never_returns hserves hn hrows (by omega) _ hst
    · exact fun hnull => null_never_returns hserves hr hexp hnull _ hst
    · intro kvs hkvs hok hunread
      obtain ⟨r', -, payload, purgedAt, hread, -⟩ := hdone r hr hexp kvs hkvs hok
      rw [hkvs, unmarshal, hunread] at hread
      cases hread
  · rintro ⟨hfew, hrows⟩
    obtain ⟨res, hres⟩ := few_stuck_returns hserves hfew fun r hr hexp => (hrows r hr hexp).1
    have hnone : res.2 = none :=
      hres.inv (I := fun _ => True) (Q := fun res => res.2 = none) (fun _ _ _ _ => trivial)
        (fun _ _ _ hleave => (purgeRound_leave hserves hleave).1) trivial
    obtain ⟨st, err⟩ := res
    obtain rfl : err = none := hnone
    refine ⟨st, (hreturns _).mpr hres, fun r hr hexp kvs hkvs hok => ?_⟩
    refine anonymised_of_returns hserves hres hr hexp ?_ hok
    have hread := (hrows r hr hexp).2 kvs hkvs hok
    rw [hkvs, unmarshal]
    cases hf : readFields env.float64 kvs with
    | none => exact absurd hf hread
    | some fields => simp

/-! ## Examples -/

def thirtyDays : Workspace := ⟨1, 30, by decide⟩

/-- One message, and one whose payload is a list. -/
def twoRows : AuditTable where
  rows := [⟨1, 1, "inbound_message", some (.obj [("body", .str "hi")]), 0⟩, ⟨2, 1, "inbound_message", some (.arr []), 0⟩]
  keyed := by decide

theorem two_rows_purged : PurgeEnds (.failing (fun _ => false) fun _ => false) (newPurger fun _ => "") (60 * day) thirtyDays twoRows := by
  refine (purge_ends_iff (fun _ => rfl) (by decide)).mpr ⟨?_, ?_⟩
  · intro rows hn hrows
    have hle := (List.subperm_of_subset hn fun r hr => (hrows r hr).1).length_le
    have hlen : twoRows.rows.length = 2 := rfl
    have hbatch : (newPurger fun _ => "").batchSize = 100 := rfl
    omega
  · intro r hr _
    simp only [twoRows, List.mem_cons, List.not_mem_nil, or_false] at hr
    rcases hr with rfl | rfl
    · refine ⟨by decide, ?_⟩
      rintro kvs ⟨⟩ -
      decide
    · refine ⟨by decide, ?_⟩
      rintro kvs ⟨⟩

/-- A hundred rows whose payload is a list, and a message after them. -/
def hundredLists : AuditTable where
  rows := (List.range 100).map (fun i => ⟨i + 1, 1, "inbound_message", some (.arr []), i⟩) ++
    [⟨101, 1, "inbound_message", some (.obj [("body", .str "hi")]), 100⟩]
  keyed := by decide +kernel

theorem full_batch_for_ever :
    Serves (.failing (fun _ => false) fun _ => false) ∧ 0 < thirtyDays.mediaRetentionDays ∧
      ∀ res, ¬ PurgeWorkspaceReturns (.failing (fun _ => false) fun _ => false) (newPurger fun _ => "") (60 * day) thirtyDays hundredLists res := by
  refine ⟨fun _ => rfl, by decide, fun res => ?_⟩
  rw [PurgeWorkspaceReturns, if_neg (by decide)]
  have hn : (hundredLists.rows.take 100).Nodup :=
    (List.take_sublist _ _).nodup (hundredLists.keyed.of_map AuditRow.key)
  refine stuck_never_returns (fun _ => rfl) hn ?_ ?_ res
  · intro r hr
    refine ⟨List.mem_of_mem_take hr, ?_⟩
    have hall : ∀ r ∈ hundredLists.rows.take 100,
        isExpired 1 (60 * day - 30 * day) r = true ∧ r.payload = some (.arr []) := by decide +kernel
    refine ⟨(hall r hr).1, Or.inl fun payload hread => ?_⟩
    rw [(hall r hr).2] at hread
    cases hread
  · decide

end PerGo.L4.PurgeTermination
