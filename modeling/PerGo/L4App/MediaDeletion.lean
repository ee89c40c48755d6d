import PerGo.L3Audit.PurgeRun

/-!
# Media URLs that a purge erases

`extractMediaURLs` and `anonymizePayload` walk a payload separately. The first finds the URL of `media_url`,
which the second leaves; the second erases the URL of `story_event.media_url`, which the first does not find.
And a `DeleteMedia` that fails, or a purger without a media storage, does not keep the row from being
anonymised.

The purge is a system of two steps, a batch and an entry, over all its calls: a batch may follow any other.

* `mem_extractMediaURLs_iff`: the URLs that are found.
* `erased_after_deletion`: in every run in which each row that is anonymised has its media deleted, no URL
  is erased before its file.
* `reachable_of_returns`: what a call of `PurgeWorkspace` leaves is a state of the system.
* `undeleted_erased`: a deletion that fails, and the URL of a story.
-/
namespace PerGo.L4.MediaDeletion

open PerGo.Core PerGo.Core.Result PerGo.L1 PerGo.L2 PerGo.L3.Audit PerGo.L3.Retention

/-! ## Where a payload has media -/

def collectedPaths : List (List String) :=
  [["media", "media_url"], ["request", "media_url"], ["request", "media", "media_url"], ["media_url"]]

def mediaPaths : List (List String) := collectedPaths ++ [["story_event", "media_url"]]

def IsURL (u : String) : Prop := u ≠ "" ∧ u ≠ ExpungedMarker

instance (u : String) : Decidable (IsURL u) := inferInstanceAs (Decidable (u ≠ "" ∧ u ≠ ExpungedMarker))

def HoldsURL (payload : Payload) (u : String) : Prop :=
  IsURL u ∧ ∃ path ∈ mediaPaths, valueAt path (.obj payload) = some (.str u)

theorem mem_mediaURL_iff {m : Payload} {u : String} : u ∈ mediaURL m ↔ IsURL u ∧ m.lookup "media_url" = some (.str u) := by
  unfold mediaURL
  split
  · rename_i v hv
    split
    · rename_i hurl
      rw [List.mem_singleton, hv]
      constructor
      · rintro rfl
        exact ⟨hurl, rfl⟩
      · rintro ⟨-, hsame⟩
        cases hsame
        rfl
    · rename_i hnot
      rw [hv]
      constructor
      · intro h
        cases h
      · rintro ⟨hurl, hsame⟩
        cases hsame
        exact absurd hurl hnot
  · rename_i hno
    constructor
    · intro h
      cases h
    · rintro ⟨-, hstr⟩
      exact absurd hstr (hno u)

theorem mem_objectAt_iff {m : Payload} {k : String} {f : Payload → List String} {u : String} :
    u ∈ ((objectAt m k).map f).getD [] ↔ ∃ kvs, m.lookup k = some (.obj kvs) ∧ u ∈ f kvs := by
  unfold objectAt
  split
  · rename_i kvs hkvs
    rw [hkvs]
    constructor
    · exact fun h => ⟨kvs, rfl, h⟩
    · rintro ⟨kvs', hsame, h⟩
      cases hsame
      exact h
  · rename_i hno
    constructor
    · intro h
      cases h
    · rintro ⟨kvs, hkvs, -⟩
      exact absurd hkvs (hno kvs)

theorem valueAt_cons_str_iff {k : String} {ks : List String} {m : Payload} {u : String} (hks : ks ≠ []) :
    valueAt (k :: ks) (.obj m) = some (.str u) ↔
      ∃ kvs, m.lookup k = some (.obj kvs) ∧ valueAt ks (.obj kvs) = some (.str u) := by
  rw [valueAt, Option.bind_eq_some_iff]
  constructor
  · rintro ⟨j, hj, hu⟩
    cases j with
    | obj kvs => exact ⟨kvs, hj, hu⟩
    | null | bool | num | str | arr =>
      cases ks with
      | nil => exact absurd rfl hks
      | cons k' ks' => cases hu
  · rintro ⟨kvs, hkvs, hu⟩
    exact ⟨.obj kvs, hkvs, hu⟩

theorem valueAt_singleton {k : String} {m : Payload} : valueAt [k] (.obj m) = m.lookup k := by
  rw [valueAt]
  cases m.lookup k <;> rfl

theorem mem_extractMediaURLs_iff {payload : Payload} {u : String} :
    u ∈ extractMediaURLs payload ↔ IsURL u ∧ ∃ path ∈ collectedPaths, valueAt path (.obj payload) = some (.str u) := by
  have hone : ["media_url"] ≠ [] := by simp
  have htwo : ["media", "media_url"] ≠ [] := by simp
  simp only [extractMediaURLs, List.mem_append, mem_objectAt_iff, mem_mediaURL_iff, collectedPaths, List.mem_cons,
    List.not_mem_nil, or_false, exists_eq_or_imp, exists_eq_left, valueAt_cons_str_iff hone, valueAt_cons_str_iff htwo,
    valueAt_singleton]
  grind

/-! ## What is read is what is stored -/

theorem lookup_readFields {float64 : Dec → Option Dec} {kvs fields : List (String × Json)}
    (h : readFields float64 kvs = some fields) (k : String) :
    Option.Rel (fun v v' => readNumbers float64 v = some v') (kvs.lookup k) (fields.lookup k) := by
  induction kvs generalizing fields with
  | nil =>
    cases h
    exact .none
  | cons kv kvs ih =>
    obtain ⟨k', v⟩ := kv
    rw [readFields] at h
    obtain ⟨v', hv', h⟩ := Option.bind_eq_some_iff.mp h
    obtain ⟨rest, hrest, rfl⟩ := Option.map_eq_some_iff.mp h
    rw [List.lookup_cons, List.lookup_cons]
    cases k == k' with
    | true => exact .some hv'
    | false => exact ih hrest

theorem readNumbers_eq_str {float64 : Dec → Option Dec} {j : Json} {u : String} :
    readNumbers float64 j = some (.str u) ↔ j = .str u := by
  cases j with
  | str s => simp [readNumbers]
  | null | bool => simp [readNumbers]
  | num n => cases float64 n <;> simp [readNumbers, *]
  | arr xs => cases h : readElements float64 xs <;> simp [readNumbers, h]
  | obj kvs => cases h : readFields float64 kvs <;> simp [readNumbers, h]

theorem readNumbers_eq_obj {float64 : Dec → Option Dec} {j : Json} {fields : Payload} :
    readNumbers float64 j = some (.obj fields) ↔ ∃ kvs, j = .obj kvs ∧ readFields float64 kvs = some fields := by
  cases j with
  | obj kvs => simp [readNumbers]
  | null | bool | str => simp [readNumbers]
  | num n => cases float64 n <;> simp [readNumbers, *]
  | arr xs => cases h : readElements float64 xs <;> simp [readNumbers, h]

theorem valueAt_readFields {float64 : Dec → Option Dec} {path : List String} {kvs fields : Payload} {u : String}
    (h : readFields float64 kvs = some fields) (hpath : path ≠ []) :
    valueAt path (.obj fields) = some (.str u) ↔ valueAt path (.obj kvs) = some (.str u) := by
  induction path generalizing kvs fields with
  | nil => exact absurd rfl hpath
  | cons k ks ih =>
    have hfield := lookup_readFields h k
    by_cases hks : ks = []
    · subst hks
      rw [valueAt_singleton, valueAt_singleton]
      generalize kvs.lookup k = v, fields.lookup k = v' at hfield
      cases hfield with
      | none => simp
      | some hread =>
        constructor
        · rintro ⟨⟩
          rw [readNumbers_eq_str.mp hread]
        · rintro ⟨⟩
          rw [readNumbers] at hread
          exact hread.symm
    · rw [valueAt_cons_str_iff hks, valueAt_cons_str_iff hks]
      generalize kvs.lookup k = v, fields.lookup k = v' at hfield
      cases hfield with
      | none => simp
      | some hread =>
        constructor
        · rintro ⟨inner, ⟨⟩, hu⟩
          obtain ⟨kvs', rfl, hfields⟩ := readNumbers_eq_obj.mp hread
          exact ⟨kvs', rfl, (ih hfields hks).mp hu⟩
        · rintro ⟨inner, ⟨⟩, hu⟩
          rw [readNumbers] at hread
          obtain ⟨fields', hfields', hsame⟩ := Option.map_eq_some_iff.mp hread
          exact ⟨fields', by rw [← hsame], (ih hfields' hks).mpr hu⟩

/-! ## The system -/

inductive PurgeStep
  | batch
  | entry

section System

variable (env : Env) (p : Purger) (ws : UUID) (cutoff : Time) (table : AuditTable)

/-- A state and the entries of the batch that are left. -/
abbrev Purging := PurgeState × List AuditRow

def purgeStep (s : Purging) (l : PurgeStep) : Option Purging :=
  match l, s with
  | .batch, (st, []) => some (fetched env p ws cutoff st, fetchExpired env p ws cutoff st)
  | .entry, (st, e :: es) =>
    match processEntry env st e with
    | .ok st' => some (st', es)
    | _ => none
  | _, _ => none

def purges : LTS Purging PurgeStep := .ofFn (.start table, []) (purgeStep env p ws cutoff)

/-- Every call of `DeleteMedia` for the URLs succeeds. -/
def DeletesAll (env : Env) (log : List Event) : List String → Prop
  | [] => True
  | u :: urls =>
    match env.media with
    | none => False
    | some deletes => deletes log u = true ∧ DeletesAll env (log ++ [Event.deleted u true]) urls

/-- An entry that is anonymised has its media deleted: `DeleteMedia` succeeds for what is found, and the
URL of a story is found in another place. -/
def DeletesMedia (s : Purging) (_ : PurgeStep) : Prop :=
  ∀ e ∈ s.2.head?, ∀ payload, unmarshal env.float64 e.payload = some (some payload) →
    env.updates e.key (attempts s.1.log e.key) = true →
      DeletesAll env s.1.log (extractMediaURLs payload) ∧
        ∀ u, IsURL u → valueAt ["story_event", "media_url"] (.obj payload) = some (.str u) → u ∈ extractMediaURLs payload

/-- A URL is erased after its file, and a row whose media is not deleted stays as it is. -/
structure MediaGone (st : PurgeState) : Prop where
  erased : ∀ before k old new, before ++ [Event.updated k old new true] <+: st.log → ∀ path ∈ mediaPaths, ∀ u, IsURL u →
    valueAt path (.obj old) = some (.str u) → valueAt path (.obj new) = some (.str ExpungedMarker) → .deleted u true ∈ before
  kept : ∀ r ∈ table.rows, ∀ payload, r.payload = some (.obj payload) → ∀ u, HoldsURL payload u →
    .deleted u true ∉ st.log → r ∈ st.rows

end System

/-! ## Deletions -/

section Run

variable {env : Env} {p : Purger} {ws : UUID} {cutoff : Time} {table : AuditTable}

theorem deleteAll_log {urls : List String} {st : PurgeState} (hne : ∀ u ∈ urls, u ≠ "") (h : DeletesAll env st.log urls) :
    (urls.foldl (deleteMedia env) st).log = st.log ++ urls.map fun u => .deleted u true := by
  induction urls generalizing st with
  | nil => simp
  | cons u urls ih =>
    rw [DeletesAll] at h
    cases hmedia : env.media with
    | none =>
      rw [hmedia] at h
      cases h
    | some deletes =>
      rw [hmedia] at h
      obtain ⟨hu, hrest⟩ := h
      have hfirst : (deleteMedia env st u).log = st.log ++ [Event.deleted u true] := by
        simp [deleteMedia, hmedia, hne u List.mem_cons_self, hu]
      rw [List.foldl_cons, ih (fun v hv => hne v (List.mem_cons_of_mem u hv)) (hfirst ▸ hrest), hfirst]
      simp

theorem deleteAll_events (urls : List String) (st : PurgeState) :
    ∃ events, (urls.foldl (deleteMedia env) st).log = st.log ++ events ∧ ∀ e ∈ events, ∃ u ok, e = .deleted u ok := by
  induction urls generalizing st with
  | nil => exact ⟨[], by simp, by simp⟩
  | cons u urls ih =>
    obtain ⟨events, hlog, hevents⟩ := ih (deleteMedia env st u)
    have hfirst : (deleteMedia env st u).log = st.log ∨ ∃ ok, (deleteMedia env st u).log = st.log ++ [Event.deleted u ok] := by
      unfold deleteMedia
      split
      · exact Or.inl rfl
      · split
        · exact Or.inl rfl
        · split
          · exact Or.inr ⟨true, rfl⟩
          · exact Or.inr ⟨false, rfl⟩
    rw [List.foldl_cons, hlog]
    rcases hfirst with hsame | ⟨ok, hone⟩
    · exact ⟨events, by rw [hsame], hevents⟩
    · refine ⟨.deleted u ok :: events, by rw [hone, List.append_assoc]; rfl, ?_⟩
      intro e he
      rcases List.mem_cons.mp he with rfl | he
      · exact ⟨u, ok, rfl⟩
      · exact hevents e he

theorem prefix_append_deleted {before log events : List Event} {k : Key} {old new : Payload} {ok : Bool}
    (hevents : ∀ e ∈ events, ∃ u ok, e = .deleted u ok) (h : before ++ [Event.updated k old new ok] <+: log ++ events) :
    before ++ [Event.updated k old new ok] <+: log := by
  induction events using List.reverseRecOn with
  | nil => simpa using h
  | append_singleton events e ih =>
    rw [← List.append_assoc, List.prefix_concat_iff] at h
    rcases h with hend | hin
    · obtain ⟨-, hsame⟩ := List.append_inj' hend rfl
      obtain ⟨u, ok', he⟩ := hevents e (by simp)
      rw [he] at hsame
      simp at hsame
    · exact ih (fun e he => hevents e (by simp [he])) hin

/-! ## Runs -/

/-- What the restricted system keeps. -/
structure Deleted (env : Env) (ws : UUID) (cutoff : Time) (table : AuditTable) (s : Purging) : Prop where
  inv : Inv env ws cutoff table s.1
  pending : ∀ e ∈ s.2, e ∈ table.rows
  before : ∀ before k old new, before ++ [Event.updated k old new true] <+: s.1.log → ∀ u, HoldsURL old u → .deleted u true ∈ before
  rows : ∀ r ∈ table.rows, r ∈ s.1.rows ∨ ∃ before payload new,
    unmarshal env.float64 r.payload = some (some payload) ∧ before ++ [Event.updated r.key payload new true] <+: s.1.log

theorem deleted_batch {st : PurgeState} (h : Deleted env ws cutoff table (st, [])) :
    Deleted env ws cutoff table (fetched env p ws cutoff st, fetchExpired env p ws cutoff st) where
  inv := fetched_inv h.inv
  pending := fun _ he => h.inv.mem_table (mem_fetchExpired he).1 (mem_fetchExpired he).2
  before := by
    intro before k old new hpre
    rw [fetched, List.prefix_concat_iff] at hpre
    rcases hpre with hend | hin
    · obtain ⟨-, hsame⟩ := List.append_inj' hend rfl
      simp at hsame
    · exact h.before before k old new hin
  rows := by
    intro r hr
    rcases h.rows r hr with hmem | ⟨before, payload, new, hread, hpre⟩
    · exact Or.inl hmem
    · exact Or.inr ⟨before, payload, new, hread, hpre.trans (List.prefix_append _ _)⟩

theorem deleted_of_holds {st : PurgeState} {payload : Payload} {u : String}
    (hall : DeletesAll env st.log (extractMediaURLs payload))
    (hstory : ∀ u, IsURL u → valueAt ["story_event", "media_url"] (.obj payload) = some (.str u) → u ∈ extractMediaURLs payload)
    (hu : HoldsURL payload u) : .deleted u true ∈ ((extractMediaURLs payload).foldl (deleteMedia env) st).log := by
  have hfound : u ∈ extractMediaURLs payload := by
    obtain ⟨hurl, path, hpath, hvalue⟩ := hu
    rcases List.mem_append.mp hpath with hcollected | hlast
    · exact mem_extractMediaURLs_iff.mpr ⟨hurl, path, hcollected, hvalue⟩
    · rw [List.mem_singleton.mp hlast] at hvalue
      exact hstory u hurl hvalue
  rw [deleteAll_log (fun v hv => (mem_extractMediaURLs_iff.mp hv).1.1) hall]
  exact List.mem_append_right _ (List.mem_map_of_mem hfound)

theorem deleted_entry {st st' : PurgeState} {e : AuditRow} {es : List AuditRow} (h : Deleted env ws cutoff table (st, e :: es))
    (hguard : DeletesMedia env (st, e :: es) .entry) (hstep : processEntry env st e = .ok st') :
    Deleted env ws cutoff table (st', es) := by
  have he : e ∈ table.rows := h.pending e List.mem_cons_self
  have hinv : Inv env ws cutoff table st' := processEntry_inv h.inv he hstep
  have hpending : ∀ e ∈ es, e ∈ table.rows := fun e' he' => h.pending e' (List.mem_cons_of_mem e he')
  rcases processEntry_cases hstep with ⟨-, hrows, hlog⟩ | ⟨payload, htried⟩
  · refine ⟨hinv, hpending, ?_, ?_⟩
    · dsimp only
      rw [hlog]
      exact h.before
    · dsimp only
      rw [hlog, hrows]
      exact h.rows
  · obtain ⟨events, hevents, hdeletions⟩ := @deleteAll_events env (extractMediaURLs payload) st
    refine ⟨hinv, hpending, ?_, ?_⟩
    · intro before k old new hpre u hu
      rw [htried.log, List.prefix_concat_iff] at hpre
      rcases hpre with hend | hin
      · -- the update of this entry
        obtain ⟨rfl, hsame⟩ := List.append_inj' hend rfl
        simp only [List.cons.injEq, Event.updated.injEq, and_true] at hsame
        obtain ⟨-, rfl, -, hok⟩ := hsame
        obtain ⟨hall, hstory⟩ := hguard e (by simp) old htried.reads hok.symm
        exact deleted_of_holds hall hstory hu
      · rw [hevents] at hin
        exact h.before before k old new (prefix_append_deleted hdeletions hin) u hu
    · intro r hr
      rcases h.rows r hr with hmem | ⟨before, payload', new, hread, hpre⟩
      · dsimp only
        rw [htried.rows]
        split
        · rename_i hok
          by_cases hk : r.key = e.key
          · right
            obtain rfl := eq_of_key_eq table.keyed hr he hk
            have hlog := htried.log
            rw [hok] at hlog
            exact ⟨_, payload, _, htried.reads, [], by rw [List.append_nil, hlog]⟩
          · left
            refine List.mem_map.mpr ⟨r, hmem, ?_⟩
            rw [if_neg (by simpa using hk)]
        · exact Or.inl hmem
      · refine Or.inr ⟨before, payload', new, hread, hpre.trans ?_⟩
        dsimp only
        rw [htried.log, hevents, List.append_assoc]
        exact List.prefix_append _ _

theorem purges_inductive :
    ((purges env p ws cutoff table).restrict (DeletesMedia env)).Inductive (Deleted env ws cutoff table) := by
  refine LTS.Inductive.of_restrict ?_ ?_
  · rintro s rfl
    refine ⟨inv_start table, by simp, ?_, fun r hr => Or.inl hr⟩
    intro before k old new hpre
    simp [PurgeState.start] at hpre
  · rintro ⟨st, pending⟩ l s' h hguard hstep
    cases l with
    | batch =>
      cases pending with
      | nil =>
        cases hstep
        exact deleted_batch h
      | cons e es => cases hstep
    | entry =>
      cases pending with
      | nil => cases hstep
      | cons e es =>
        simp only [purges, LTS.ofFn, purgeStep] at hstep
        split at hstep
        · rename_i st' hentry
          cases hstep
          exact deleted_entry h hguard hentry
        · cases hstep

theorem erased_after_deletion {s : Purging}
    (h : ((purges env p ws cutoff table).restrict (DeletesMedia env)).Reachable s) : MediaGone table s.1 := by
  have hdel := purges_inductive.reachable h
  refine ⟨?_, ?_⟩
  · intro before k old new hpre path hpath u hurl hvalue _
    exact hdel.before before k old new hpre u ⟨hurl, path, hpath, hvalue⟩
  · intro r hr payload hpayload u hu hno
    rcases hdel.rows r hr with hmem | ⟨before, fields, new, hread, hpre⟩
    · exact hmem
    · exfalso
      rw [hpayload, unmarshal] at hread
      obtain ⟨fields', hfields', hsame⟩ := Option.map_eq_some_iff.mp hread
      cases hsame
      obtain ⟨hurl, path, hpath, hvalue⟩ := hu
      have hne : path ≠ [] := by
        rintro rfl
        exact absurd hpath (by decide)
      have hheld : HoldsURL fields u := ⟨hurl, path, hpath, (valueAt_readFields hfields' hne).mpr hvalue⟩
      have hbefore := hdel.before before r.key fields new hpre u hheld
      exact hno (((List.prefix_append _ _).trans hpre).subset hbefore)

/-! ## What a call of the purge does -/

theorem reachable_of_batch {st st' : PurgeState} {es : List AuditRow} (h : (purges env p ws cutoff table).Reachable (st, es))
    (hbatch : es.foldlM (processEntry env) st = .ok st') : (purges env p ws cutoff table).Reachable (st', []) := by
  induction es generalizing st with
  | nil =>
    cases hbatch
    exact h
  | cons e es ih =>
    rw [List.foldlM_cons] at hbatch
    obtain ⟨st₁, hfirst, hrest⟩ := bind_eq_ok_iff.mp hbatch
    refine ih (h.step (l := .entry) ?_) hrest
    simp [purges, LTS.ofFn, purgeStep, hfirst]

theorem reachable_of_round {st : PurgeState} {next : Next PurgeState (PurgeState × Option PurgeError)}
    (h : (purges env p ws cutoff table).Reachable (st, [])) (hround : purgeRound env p ws cutoff st = .ok next) :
    (purges env p ws cutoff table).Reachable
      (match next with
        | .again st' => (st', [])
        | .leave res => (res.1, [])) := by
  have hfetched : (purges env p ws cutoff table).Reachable (fetched env p ws cutoff st, fetchExpired env p ws cutoff st) :=
    h.step (l := .batch) rfl
  unfold purgeRound at hround
  split at hround
  · cases hround
    exact h
  · dsimp only at hround
    split at hround
    · rename_i hempty
      cases hround
      rw [hempty] at hfetched
      exact hfetched
    · obtain ⟨st', hbatch, hrest⟩ := bind_eq_ok_iff.mp hround
      have hdone := reachable_of_batch hfetched hbatch
      split at hrest
      · cases hrest
        exact hdone
      · cases hrest
        exact hdone

/-- What a call of `PurgeWorkspace` leaves is a state of the system. -/
theorem reachable_of_returns {res : PurgeState × Option PurgeError}
    (h : Returns (purgeRound env p ws cutoff) (.start table) res) :
    (purges env p ws cutoff table).Reachable (res.1, []) := by
  refine h.inv (I := fun st => (purges env p ws cutoff table).Reachable (st, []))
    (Q := fun res => (purges env p ws cutoff table).Reachable (res.1, [])) ?_ ?_ ⟨_, [], rfl, .nil _⟩
  · exact fun _ _ hst hround => reachable_of_round hst hround
  · exact fun _ _ hst hround => reachable_of_round hst hround

end Run

/-! ## Examples -/

def photo : Payload := [("body", .str "hi"), ("media", .obj [("media_url", .str "/media/1/a.jpg")])]

def story : Payload := [("story_event", .obj [("media_url", .str "/media/1/b.jpg")])]

def photoTable (payload : Payload) : AuditTable := ⟨[⟨1, 1, "inbound_message", some (.obj payload), 0⟩], by simp⟩

section

variable (undeleted : String → Bool) (payload : Payload)

/-- The rows of one batch, with the calls that were made. -/
def photoPurged : Option Purging :=
  LTS.exec (purgeStep (.failing undeleted fun _ => false) (newPurger fun _ => "") 1 day) (.start (photoTable payload), [])
    [.batch, .entry]

end

theorem photo_deleted :
    ∃ s, photoPurged (fun _ => false) photo = some s ∧ (photoTable photo).rows ≠ s.1.rows ∧ MediaGone (photoTable photo) s.1 := by
  have hrun : ∃ s, photoPurged (fun _ => false) photo = some s ∧ (photoTable photo).rows ≠ s.1.rows :=
    ⟨_, rfl, by decide +kernel⟩
  obtain ⟨s, hs, hrows⟩ := hrun
  refine ⟨s, hs, hrows, erased_after_deletion (LTS.exec_restrict_reachable hs ?_)⟩
  refine ⟨by simp [DeletesMedia], ?_⟩
  intro s' hs'
  cases hs'
  refine ⟨?_, fun _ _ => trivial⟩
  intro e he fields hread _
  have hrow := (mem_fetchExpired (List.mem_of_mem_head? he)).1
  obtain rfl := List.mem_singleton.mp hrow
  obtain rfl : photo = fields := Option.some.inj (Option.some.inj hread)
  have hurls : extractMediaURLs photo = ["/media/1/a.jpg"] := by decide +kernel
  refine ⟨by rw [hurls]; exact ⟨rfl, trivial⟩, fun u _ hstory => ?_⟩
  have hnone : valueAt ["story_event", "media_url"] (.obj photo) = none := by decide +kernel
  rw [hnone] at hstory
  cases hstory

/-- A deletion that failed, and the URL of a story: the row is anonymised. -/
theorem undeleted_erased :
    (∃ s, (purges (.failing (fun _ => true) fun _ => false) (newPurger fun _ => "") 1 day (photoTable photo)).Reachable s ∧
      ¬ MediaGone (photoTable photo) s.1) ∧
    ∃ s, (purges (.failing (fun _ => false) fun _ => false) (newPurger fun _ => "") 1 day (photoTable story)).Reachable s ∧
      ¬ MediaGone (photoTable story) s.1 := by
  have hphoto : ∃ s, photoPurged (fun _ => true) photo = some s ∧ .deleted "/media/1/a.jpg" true ∉ s.1.log ∧
      ⟨1, 1, "inbound_message", some (.obj photo), 0⟩ ∉ s.1.rows := ⟨_, rfl, by decide +kernel, by decide +kernel⟩
  have hstory : ∃ s, photoPurged (fun _ => false) story = some s ∧ .deleted "/media/1/b.jpg" true ∉ s.1.log ∧
      ⟨1, 1, "inbound_message", some (.obj story), 0⟩ ∉ s.1.rows := ⟨_, rfl, by decide +kernel, by decide +kernel⟩
  constructor
  · obtain ⟨s, hs, hlog, hrows⟩ := hphoto
    refine ⟨s, LTS.exec_reachable hs, fun hgone => hrows ?_⟩
    refine hgone.kept _ (List.mem_singleton.mpr rfl) photo rfl "/media/1/a.jpg" ?_ hlog
    exact ⟨by decide, ["media", "media_url"], by decide, by decide⟩
  · obtain ⟨s, hs, hlog, hrows⟩ := hstory
    refine ⟨s, LTS.exec_reachable hs, fun hgone => hrows ?_⟩
    refine hgone.kept _ (List.mem_singleton.mpr rfl) story rfl "/media/1/b.jpg" ?_ hlog
    exact ⟨by decide, ["story_event", "media_url"], by decide, by decide⟩

end PerGo.L4.MediaDeletion
