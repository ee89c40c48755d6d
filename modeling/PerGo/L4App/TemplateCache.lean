import PerGo.L3Channel.TemplateRepository

/-!
# The template cache and the table

`Transparent`: with no call in progress, `GetByNameAndLanguage` answers what the table says.

A statement returns the row it wrote and the call puts it in the cache later, as a lookup
that missed puts what it read; the bulk load swaps in what it read. `Undisturbed` is the
condition: a row is written, or its delete begins, while no other call holds a copy of it,
and neither read nor written while another is deleting it; and what is put while the cache
serves has no `_` in name and language, at which the key could be parted otherwise.

That what is put is the row follows from what the statements return, and that nothing is left
of a deleted one from `Delete`'s own removal (`Inv`).

* `template_cache_transparent`: in every run under the condition the cache is transparent;
* `template_lookup_current`: a run through all operations;
* `other_name_served`: one template, cached, is found under a name that no template has.
-/
namespace PerGo.L4.TemplateCache

open PerGo.Core PerGo.L1 PerGo.L2 PerGo.L3.TemplateRepository

/-- The copies of rows that a call has. -/
def held : Pc → List WABATemplate
  | .loadSwap snapshot => snapshot
  | .put t | .deletePut t => [t]
  | _ => []

def holds (id : UUID) (pc : Pc) : Bool := (held pc).any fun t => t.id = id

/-- A `Delete` of the row that has looked into the cache. -/
def deleting (id : UUID) : Pc → Bool
  | .deleteSelect id' | .deleteRemove _ id' | .deleteRow id' => id' = id
  | .deletePut t => t.id = id
  | _ => false

/-- A `Delete` of the row that has found nothing in the cache, or left nothing there. -/
def removed (id : UUID) : Pc → Bool
  | .deleteSelect id' | .deleteRow id' => id' = id
  | _ => false

def Plain (t : WABATemplate) : Prop := '_' ∉ t.name.toList ∧ '_' ∉ t.language.toList

instance (t : WABATemplate) : Decidable (Plain t) := inferInstanceAs (Decidable (_ ∧ _))

def Kept (s : St) (i : Nat) (id : UUID) : Prop := ∀ pc ∈ others s.pool i, deleting id pc = false

/-- No other call has a copy of the row, or is deleting it. -/
def Free (s : St) (i : Nat) (id : UUID) : Prop := ∀ pc ∈ others s.pool i, holds id pc = false ∧ deleting id pc = false

/-- The calls that overlap, and the names. -/
def Undisturbed (s : St) : Lbl → Prop
  | .start _ => True
  | .run i env => match s.pool[i]? with
    | some .loadSelect => ∀ r ∈ s.rows, Kept s i r.id
    | some (.idSelect id) => Kept s i id
    | some (.nameSelect connectionID name language) => ∀ r ∈ s.rows, r.slot = (connectionID, name, language) → Kept s i r.id
    | some (.createInsert _) => Free s i env.id
    | some (.upsertRow t) => Free s i (upsertID env.id t s.rows)
    | some (.statusRow u) => Free s i u.id
    | some (.deleteGet id) => Free s i id
    | some (.loadSwap snapshot) => ∀ t ∈ snapshot, Plain t
    | some (.put t) | some (.deletePut t) => s.cacheLoaded = true → Plain t
    | _ => True

instance (s : St) (i : Nat) (id : UUID) : Decidable (Kept s i id) := inferInstanceAs (Decidable (∀ _ ∈ _, _))

instance (s : St) (i : Nat) (id : UUID) : Decidable (Free s i id) := inferInstanceAs (Decidable (∀ _ ∈ _, _))

instance (s : St) : ∀ l, Decidable (Undisturbed s l)
  | .start _ => inferInstanceAs (Decidable True)
  | .run i _ => by
    unfold Undisturbed
    dsimp only
    generalize s.pool[i]? = pc
    rcases pc with _ | pc
    · infer_instance
    · cases pc <;> infer_instance

def Transparent (s : St) : Prop := ∀ connectionID name language,
  getByNameAndLanguage s connectionID name language = s.rows.find? fun r => r.slot = (connectionID, name, language)

/-! ## Keys -/

theorem cacheKey_inj {connectionID : UUID} {name language : String} {t : WABATemplate} (ht : Plain t)
    (h : cacheKey connectionID name language = t.key) : t.slot = (connectionID, name, language) := by
  simp only [WABATemplate.key, cacheKey, Prod.mk.injEq] at h
  obtain ⟨hconn, htext⟩ := h
  have hchars : t.name.toList ++ '_' :: t.language.toList = name.toList ++ '_' :: language.toList := by
    have := congrArg String.toList htext
    simpa [String.toList_append] using this.symm
  obtain ⟨hname, -, hlanguage⟩ := (List.append_cons_inj_of_notMem ht.1 ht.2).mp hchars
  simp only [WABATemplate.slot, hconn, String.toList_inj.mp hname, String.toList_inj.mp hlanguage]

theorem key_of_slot {t t' : WABATemplate} (h : t.slot = t'.slot) : t.key = t'.key := by
  simp only [WABATemplate.slot, Prod.mk.injEq] at h
  simp only [WABATemplate.key, h.1, h.2.1, h.2.2]

/-! ## The invariant -/

/-- The row of an entry is as it was put, or about to be put. -/
structure Fresh (pool : List Pc) (t r : WABATemplate) : Prop where
  id : r.id = t.id
  slot : r.slot = t.slot
  row : t = r ∨ .put r ∈ pool

def Tracks (rows : List WABATemplate) (pool : List Pc) (t : WABATemplate) : Prop :=
  Plain t ∧ ∃ r ∈ rows, Fresh pool t r

/-- A row that one deletes, no other has a copy of or deletes. -/
structure Apart (a b : Pc) : Prop where
  left : ∀ id, deleting id a = true → holds id b = false ∧ deleting id b = false
  right : ∀ id, deleting id b = true → holds id a = false ∧ deleting id a = false

structure Settled (rows : List WABATemplate) (cache : Cache) (loaded : Bool) (pc : Pc) : Prop where
  held : ∀ t ∈ held pc, t ∈ rows
  connection : ∀ connectionID id, pc = .deleteRemove connectionID id → ∀ r ∈ rows, r.id = id → r.connectionID = connectionID
  gone : ∀ id, removed id pc = true → loaded = true → ∀ e ∈ cache, e.2.id ≠ id

structure Inv (s : St) : Prop where
  schema : Schema s.rows
  keys : ∀ e ∈ s.cache, e.1 = e.2.key
  apart : s.pool.Pairwise Apart
  settled : ∀ pc ∈ s.pool, Settled s.rows s.cache s.cacheLoaded pc
  tracks : s.cacheLoaded = true → ∀ e ∈ s.cache, Tracks s.rows s.pool e.2

theorem Apart.symm {a b : Pc} (h : Apart a b) : Apart b a := ⟨h.right, h.left⟩

theorem deleting_of_removed {id : UUID} {pc : Pc} (h : removed id pc = true) : deleting id pc = true := by
  cases pc <;> first | exact h | cases h

theorem holds_of_mem {pc : Pc} {t : WABATemplate} (h : t ∈ held pc) : holds t.id pc = true :=
  List.any_eq_true.mpr ⟨t, h, decide_eq_true rfl⟩

def idle : Pc → Bool
  | .loadSwap _ | .put _ | .deletePut _ | .deleteSelect _ | .deleteRemove .. | .deleteRow _ => false
  | _ => true

theorem idle_apart {pc : Pc} (h : idle pc = true) (pc' : Pc) : Apart pc pc' := by
  have hnone : ∀ id, holds id pc = false ∧ deleting id pc = false := fun id => by
    cases pc <;> cases h <;> exact ⟨rfl, rfl⟩
  refine ⟨fun id hid => ?_, fun id _ => hnone id⟩
  rw [(hnone id).2] at hid
  cases hid

theorem idle_settled {pc : Pc} (h : idle pc = true) (rows : List WABATemplate) (cache : Cache) (loaded : Bool) :
    Settled rows cache loaded pc := by
  cases pc <;> cases h <;>
    exact ⟨fun _ h => (by cases h), fun _ _ h => (by cases h), fun _ h => (by cases h)⟩

theorem Fresh.mono {pool pool' : List Pc} {t r : WABATemplate} (h : Fresh pool t r)
    (hput : .put r ∈ pool → .put r ∈ pool') : Fresh pool' t r := ⟨h.id, h.slot, h.row.imp_right hput⟩

section Step

variable {s : St} {i : Nat} {pc : Pc}

def swapped (s : St) (i : Nat) (next : Option Pc) : List Pc := s.pool.take i ++ next.toList ++ s.pool.drop (i + 1)

theorem put_swapped (hpc : s.pool[i]? = some pc) {t : WABATemplate} (hold : pc ≠ .put t) (next : Option Pc)
    (h : .put t ∈ s.pool) : .put t ∈ swapped s i next :=
  (mem_swapped_iff _).mpr (Or.inl (((mem_iff_others hpc _).mp h).resolve_right hold.symm))

/-- What a step has to keep. -/
theorem Inv.swap (hi : Inv s) (hpc : s.pool[i]? = some pc) {rows : List WABATemplate} {cache : Cache} {loaded : Bool}
    {next : Option Pc} (hschema : Schema rows) (hkeys : ∀ e ∈ cache, e.1 = e.2.key)
    (hapart : ∀ pc' ∈ next, ∀ y ∈ others s.pool i, Apart pc' y)
    (hothers : ∀ pc' ∈ others s.pool i, Settled rows cache loaded pc') (hnext : ∀ pc' ∈ next, Settled rows cache loaded pc')
    (htracks : loaded = true → ∀ e ∈ cache, Tracks rows (swapped s i next) e.2) :
    Inv ⟨rows, cache, loaded, swapped s i next⟩ := by
  refine ⟨hschema, hkeys, pairwise_swapped Apart.symm (split_at hpc ▸ hi.apart) _ hapart, fun pc' h => ?_, htracks⟩
  exact ((mem_swapped_iff pc').mp h).elim (hothers pc') (hnext pc')

theorem Inv.kept (hi : Inv s) (hpc : s.pool[i]? = some pc) (hold : ∀ t, pc ≠ .put t) {cache : Cache} {next : Option Pc}
    (hcache : ∀ e ∈ cache, e ∈ s.cache) (hapart : ∀ pc' ∈ next, ∀ y ∈ others s.pool i, Apart pc' y)
    (hnext : ∀ pc' ∈ next, Settled s.rows cache s.cacheLoaded pc') :
    Inv ⟨s.rows, cache, s.cacheLoaded, swapped s i next⟩ := by
  refine hi.swap hpc hi.schema (fun e he => hi.keys e (hcache e he)) hapart (fun pc' hmem => ?_) hnext
    fun hloaded e he => ?_
  · have hset := hi.settled pc' ((mem_iff_others hpc pc').mpr (Or.inl hmem))
    exact ⟨hset.held, hset.connection, fun id hid hl e he => hset.gone id hid hl e (hcache e he)⟩
  · obtain ⟨hplain, r, hr, hfresh⟩ := hi.tracks hloaded e (hcache e he)
    exact ⟨hplain, r, hr, hfresh.mono (put_swapped hpc (hold r) next)⟩

theorem Inv.moved (hi : Inv s) (hpc : s.pool[i]? = some pc) (hold : ∀ t, pc ≠ .put t) {next : Option Pc}
    (hnext : ∀ pc' ∈ next, idle pc' = true) : Inv ⟨s.rows, s.cache, s.cacheLoaded, swapped s i next⟩ :=
  hi.kept hpc hold (fun _ h => h) (fun pc' h _ _ => idle_apart (hnext pc' h) _)
    fun pc' h => idle_settled (hnext pc' h) _ _ _

theorem Inv.ended (hi : Inv s) (hpc : s.pool[i]? = some pc) (hold : ∀ t, pc ≠ .put t) :
    Inv ⟨s.rows, s.cache, s.cacheLoaded, swapped s i none⟩ :=
  hi.moved hpc hold fun _ h => by cases h

theorem hold_apart {pc' : Pc} (hidle : ∀ id, deleting id pc' = false) (hfree : ∀ t ∈ held pc', Kept s i t.id) :
    ∀ y ∈ others s.pool i, Apart pc' y := by
  intro y hy
  refine ⟨fun id h => ?_, fun id h => ⟨Bool.eq_false_iff.mpr fun hheld => ?_, hidle id⟩⟩
  · rw [hidle] at h
    cases h
  · obtain ⟨t, ht, hid⟩ := List.any_eq_true.mp hheld
    rw [← of_decide_eq_true hid, hfree t ht y hy] at h
    cases h

theorem Inv.read (hi : Inv s) (hpc : s.pool[i]? = some pc) (hold : ∀ t, pc ≠ .put t) {next : Pc}
    (hidle : ∀ id, deleting id next = false) (hrows : ∀ t ∈ held next, t ∈ s.rows) (hfree : ∀ t ∈ held next, Kept s i t.id) :
    Inv ⟨s.rows, s.cache, s.cacheLoaded, swapped s i (some next)⟩ := by
  refine hi.kept hpc hold (fun _ h => h) (fun pc' h => ?_) fun pc' h => ?_
  · cases h
    exact hold_apart hidle hfree
  · cases h
    refine ⟨hrows, fun connectionID id h => ?_, fun id h => ?_⟩
    · have hdel := hidle id
      rw [h] at hdel
      simp [deleting] at hdel
    · have hdel := deleting_of_removed h
      rw [hidle id] at hdel
      cases hdel

/-! ## One step -/

theorem Inv.write (hi : Inv s) (hpc : s.pool[i]? = some pc) (hold : ∀ t, pc ≠ .put t) {fails : Bool}
    {written : Option Written} (hw : ∀ w, written = some w → Writes s.rows w ∧ Free s i w.1.id) :
    Inv { (s.write fails written).1 with pool := swapped s i (s.write fails written).2 } := by
  unfold St.write
  split
  · rename_i w
    obtain ⟨hwrites, hfree⟩ := hw w rfl
    refine hi.swap hpc hwrites.schema hi.keys (fun pc' h => ?_) (fun pc' hmem => ?_) (fun pc' h => ?_) fun hloaded e he => ?_
    · cases h
      refine hold_apart (fun _ => rfl) fun t ht pc' hpc' => ?_
      rw [List.mem_singleton.mp ht]
      exact (hfree pc' hpc').2
    · have hset := hi.settled pc' ((mem_iff_others hpc pc').mpr (Or.inl hmem))
      obtain ⟨hheld, hdel⟩ := hfree pc' hmem
      refine ⟨fun t ht => ?_, fun connectionID id heq r hr hid => ?_, hset.gone⟩
      · refine (hwrites.kept t (hset.held t ht)).resolve_right fun hover => ?_
        rw [← hover.1, holds_of_mem ht] at hheld
        cases hheld
      · rcases hwrites.only r hr with hr | rfl
        · exact hset.connection connectionID id heq r hr hid
        · rw [heq, hid] at hdel
          simp [deleting] at hdel
    · cases h
      refine ⟨fun t ht => ?_, fun _ _ h => (by cases h), fun _ h => (by cases h)⟩
      rw [List.mem_singleton.mp ht]
      exact hwrites.returned
    · -- a row that is overwritten is that of the call's own put
      obtain ⟨hplain, r, hr, hfresh⟩ := hi.tracks hloaded e he
      rcases hwrites.kept r hr with hr | ⟨hid, hslot⟩
      · exact ⟨hplain, r, hr, hfresh.mono (put_swapped hpc (hold r) _)⟩
      · exact ⟨hplain, w.1, hwrites.returned, hid.symm.trans hfresh.id, hslot.symm.trans hfresh.slot,
          Or.inr ((mem_swapped_iff _).mpr (Or.inr rfl))⟩
  · exact hi.moved hpc hold fun _ h => by cases h

theorem Inv.put (hi : Inv s) (hpc : s.pool[i]? = some pc) {t : WABATemplate} (hheld : held pc = [t])
    (hplain : s.cacheLoaded = true → Plain t) {next : Option Pc} (hapart : ∀ pc' ∈ next, ∀ y ∈ others s.pool i, Apart pc' y)
    (hnext : ∀ pc' ∈ next, Settled s.rows (s.cache.put t) s.cacheLoaded pc') :
    Inv ⟨s.rows, s.cache.put t, s.cacheLoaded, swapped s i next⟩ := by
  have hmem : t ∈ held pc := by simp [hheld]
  have hrow := (hi.settled pc (List.mem_of_getElem? hpc)).held t hmem
  refine hi.swap hpc hi.schema (fun e he => ?_) hapart (fun pc' hmem' => ?_) hnext fun hloaded e he => ?_
  · rcases mem_put he with rfl | ⟨he, -⟩
    · rfl
    · exact hi.keys e he
  · have hset := hi.settled pc' ((mem_iff_others hpc pc').mpr (Or.inl hmem'))
    refine ⟨hset.held, hset.connection, fun id hid hloaded e he => ?_⟩
    rcases mem_put he with rfl | ⟨he, -⟩
    · -- no other call is deleting the row
      rintro rfl
      have hnot := ((pairwise_others Apart.symm hi.apart hpc pc' hmem').right _ (deleting_of_removed hid)).1
      rw [holds_of_mem hmem] at hnot
      cases hnot
    · exact hset.gone id hid hloaded e he
  · rcases mem_put he with rfl | ⟨he, hne⟩
    · exact ⟨hplain hloaded, t, hrow, rfl, rfl, Or.inl rfl⟩
    · -- an entry that waits for this put has its key
      obtain ⟨hplain, r, hr, hfresh⟩ := hi.tracks hloaded e he
      refine ⟨hplain, r, hr, hfresh.mono fun hput => put_swapped hpc (fun heq => ?_) next hput⟩
      rw [heq] at hheld
      cases hheld
      rw [hi.keys e he] at hne
      exact hne (key_of_slot hfresh.slot).symm

theorem Inv.loadSwap {snapshot : List WABATemplate} (hi : Inv s) (hpc : s.pool[i]? = some (.loadSwap snapshot))
    (hplain : ∀ t ∈ snapshot, Plain t) : Inv ⟨s.rows, newCache snapshot, true, swapped s i none⟩ := by
  refine hi.swap hpc hi.schema (fun e he => (mem_newCache he).1) (fun _ h => by cases h) (fun pc' hmem => ?_)
    (fun _ h => by cases h) fun _ e he => ?_
  · have hset := hi.settled pc' ((mem_iff_others hpc pc').mpr (Or.inl hmem))
    refine ⟨hset.held, hset.connection, fun id hid _ e he => ?_⟩
    rintro rfl
    have hnot := ((pairwise_others Apart.symm hi.apart hpc pc' hmem).right _ (deleting_of_removed hid)).1
    rw [holds_of_mem (show e.2 ∈ held (.loadSwap snapshot) from (mem_newCache he).2)] at hnot
    cases hnot
  · have hmem := (mem_newCache he).2
    exact ⟨hplain e.2 hmem, e.2, (hi.settled _ (List.mem_of_getElem? hpc)).held e.2 hmem, rfl, rfl, Or.inl rfl⟩

/-! ### Deletes -/

theorem findCached_none {id : UUID} {pick : Nat} (h : findCached s id pick = some none) (hloaded : s.cacheLoaded = true) :
    ∀ e ∈ s.cache, e.2.id ≠ id := by
  unfold findCached at h
  simp only at h
  split at h
  · rename_i hnone
    have hnone := hnone.resolve_left (by simp [hloaded])
    exact fun e he hid => List.filter_eq_nil_iff.mp hnone e he (decide_eq_true hid)
  · obtain ⟨e, -, he⟩ := Option.map_eq_some_iff.mp h
    cases he

theorem findCached_some {id : UUID} {pick : Nat} {t : WABATemplate} (h : findCached s id pick = some (some t)) :
    s.cacheLoaded = true ∧ t.id = id ∧ ∃ e ∈ s.cache, e.2 = t := by
  unfold findCached at h
  simp only at h
  split at h
  · cases h
  · rename_i hsome
    obtain ⟨e, he, heq⟩ := Option.map_eq_some_iff.mp h
    obtain ⟨hmem, hid⟩ := List.mem_filter.mp (List.mem_of_getElem? he)
    cases heq
    exact ⟨by simpa using (not_or.mp hsome).1, of_decide_eq_true hid, e, hmem, rfl⟩

theorem delete_apart {id : UUID} {pc' : Pc} (hdel : ∀ id', deleting id' pc' = true → id' = id) (hheld : held pc' = [])
    (hfree : Free s i id) : ∀ y ∈ others s.pool i, Apart pc' y := by
  intro y hy
  refine ⟨fun id' h => ?_, fun id' h => ⟨by rw [holds, hheld]; rfl, Bool.eq_false_iff.mpr fun hmine => ?_⟩⟩
  · rw [hdel id' h]
    exact hfree y hy
  · rw [hdel id' hmine, (hfree y hy).2] at h
    cases h

theorem delete_goes_on (hi : Inv s) (hpc : s.pool[i]? = some pc) {pc' : Pc}
    (hdel : ∀ id, deleting id pc' = true → deleting id pc = true) (hheld : ∀ id, holds id pc' = true → deleting id pc = true) :
    ∀ y ∈ others s.pool i, Apart pc' y := by
  intro y hy
  have hapart := pairwise_others Apart.symm hi.apart hpc y hy
  refine ⟨fun id h => hapart.left id (hdel id h), fun id h => ?_⟩
  have hnot : deleting id pc ≠ true := Bool.eq_false_iff.mp (hapart.right id h).2
  exact ⟨Bool.eq_false_iff.mpr fun h => hnot (hheld id h), Bool.eq_false_iff.mpr fun h => hnot (hdel id h)⟩

theorem removeOne_gone (hi : Inv s) (hloaded : s.cacheLoaded = true) {connectionID id : UUID} {pick : Nat} {cache : Cache}
    (hconn : ∀ r ∈ s.rows, r.id = id → r.connectionID = connectionID)
    (h : s.cache.removeOne connectionID id pick = some cache) : ∀ e ∈ cache, e.2.id ≠ id := by
  -- the connection of an entry of the template
  have hkey : ∀ e ∈ s.cache, e.2.id = id → ∃ r ∈ s.rows, r.id = id ∧ e.1 = r.key ∧ e.1.1 = connectionID := by
    intro e he hid
    obtain ⟨-, r, hr, hfresh⟩ := hi.tracks hloaded e he
    have hk : e.1 = r.key := (hi.keys e he).trans (key_of_slot hfresh.slot).symm
    refine ⟨r, hr, hfresh.id.trans hid, hk, ?_⟩
    rw [hk]
    exact hconn r hr (hfresh.id.trans hid)
  unfold Cache.removeOne at h
  simp only at h
  split at h
  · rename_i hnone
    cases h
    intro e he hid
    obtain ⟨-, -, -, -, hc⟩ := hkey e he hid
    exact List.filter_eq_nil_iff.mp hnone e he (by simp [hc, hid])
  · obtain ⟨e', he', rfl⟩ := Option.map_eq_some_iff.mp h
    intro e he hid
    obtain ⟨he', hid'⟩ := List.mem_filter.mp (List.mem_of_getElem? he')
    obtain ⟨he, hne⟩ := List.mem_filter.mp he
    simp only [Bool.and_eq_true, decide_eq_true_eq] at hid'
    obtain ⟨r, hr, hrid, hk, -⟩ := hkey e he hid
    obtain ⟨r', hr', hrid', hk', -⟩ := hkey e' he' hid'.2
    have hsame : r = r' := eq_of_key_eq hi.schema.id hr hr' (hrid.trans hrid'.symm)
    rw [hk, hk', hsame] at hne
    simp at hne

theorem Inv.deleteFound {id : UUID} {pick : Nat} {t : WABATemplate} (hi : Inv s) (hpc : s.pool[i]? = some (.deleteGet id))
    (hfree : Free s i id) (hfound : findCached s id pick = some (some t)) :
    Inv ⟨s.rows, s.cache, s.cacheLoaded, swapped s i (some (.deleteRemove t.connectionID id))⟩ := by
  refine hi.kept hpc (fun _ h => by cases h) (fun _ h => h) (fun pc' h => ?_) fun pc' h => ?_
  · cases h
    exact delete_apart (fun id' h => (of_decide_eq_true h).symm) rfl hfree
  · cases h
    refine ⟨fun _ h => (by cases h), fun connectionID id' heq r hr hrid => ?_, fun _ h => (by cases h)⟩
    cases heq
    obtain ⟨hloaded, htid, e, he, rfl⟩ := findCached_some hfound
    obtain ⟨-, r', hr', hfresh⟩ := hi.tracks hloaded e he
    have hsame : r = r' := eq_of_key_eq hi.schema.id hr hr' (hrid.trans (htid.symm.trans hfresh.id.symm))
    rw [hsame]
    exact congrArg Prod.fst hfresh.slot

theorem Inv.deleteMissed {id : UUID} {pick : Nat} (hi : Inv s) (hpc : s.pool[i]? = some (.deleteGet id))
    (hfree : Free s i id) (hfound : findCached s id pick = some none) :
    Inv ⟨s.rows, s.cache, s.cacheLoaded, swapped s i (some (.deleteSelect id))⟩ := by
  refine hi.kept hpc (fun _ h => by cases h) (fun _ h => h) (fun pc' h => ?_) fun pc' h => ?_
  · cases h
    exact delete_apart (fun id' h => (of_decide_eq_true h).symm) rfl hfree
  · cases h
    refine ⟨fun _ h => (by cases h), fun _ _ h => (by cases h), fun id' h hloaded => ?_⟩
    rw [← of_decide_eq_true h]
    exact findCached_none hfound hloaded

theorem Inv.deleteSelect {id : UUID} (hi : Inv s) (hpc : s.pool[i]? = some (.deleteSelect id)) {next : Pc}
    (hnext : next = .deleteRow id ∨ ∃ t ∈ s.rows, t.id = id ∧ next = .deletePut t) :
    Inv ⟨s.rows, s.cache, s.cacheLoaded, swapped s i (some next)⟩ := by
  have hset := hi.settled _ (List.mem_of_getElem? hpc)
  refine hi.kept hpc (fun _ h => by cases h) (fun _ h => h) (fun pc' h => ?_) fun pc' h => ?_
  · cases h
    rcases hnext with rfl | ⟨t, -, rfl, rfl⟩
    · exact delete_goes_on hi hpc (fun _ h => h) fun _ h => by cases h
    · refine delete_goes_on hi hpc (fun _ h => h) fun id h => ?_
      obtain ⟨t', ht', hid⟩ := List.any_eq_true.mp h
      rw [List.mem_singleton.mp ht'] at hid
      exact hid
  · cases h
    rcases hnext with rfl | ⟨t, ht, rfl, rfl⟩
    · exact ⟨fun _ h => (by cases h), fun _ _ h => (by cases h), hset.gone⟩
    · refine ⟨fun t' ht' => ?_, fun _ _ h => (by cases h), fun _ h => (by cases h)⟩
      rw [List.mem_singleton.mp ht']
      exact ht

theorem Inv.deletePut {t : WABATemplate} (hi : Inv s) (hpc : s.pool[i]? = some (.deletePut t))
    (hplain : s.cacheLoaded = true → Plain t) :
    Inv ⟨s.rows, s.cache.put t, s.cacheLoaded, swapped s i (some (.deleteRemove t.connectionID t.id))⟩ := by
  have hrow := (hi.settled _ (List.mem_of_getElem? hpc)).held t List.mem_cons_self
  refine hi.put hpc rfl hplain (fun pc' h => ?_) fun pc' h => ?_
  · cases h
    exact delete_goes_on hi hpc (fun _ h => h) fun _ h => by cases h
  · cases h
    refine ⟨fun _ h => (by cases h), fun connectionID id h r hr hid => ?_, fun _ h => (by cases h)⟩
    cases h
    rw [eq_of_key_eq hi.schema.id hr hrow hid]

theorem Inv.deleteRemove {connectionID id : UUID} {pick : Nat} {cache : Cache} (hi : Inv s)
    (hpc : s.pool[i]? = some (.deleteRemove connectionID id))
    (hcache : s.cache.removeOne connectionID id pick = some cache) :
    Inv ⟨s.rows, cache, s.cacheLoaded, swapped s i (some (.deleteRow id))⟩ := by
  have hset := hi.settled _ (List.mem_of_getElem? hpc)
  refine hi.kept hpc (fun _ h => by cases h) (fun e he => mem_removeOne hcache he) (fun pc' h => ?_) fun pc' h => ?_
  · cases h
    exact delete_goes_on hi hpc (fun _ h => h) fun _ h => by cases h
  · cases h
    refine ⟨fun _ h => (by cases h), fun _ _ h => (by cases h), fun id' h hloaded => ?_⟩
    rw [← of_decide_eq_true h]
    exact removeOne_gone hi hloaded (hset.connection connectionID id rfl) hcache

theorem Inv.deleteRow {id : UUID} (hi : Inv s) (hpc : s.pool[i]? = some (.deleteRow id)) :
    Inv ⟨deleteTemplate id s.rows, s.cache, s.cacheLoaded, swapped s i none⟩ := by
  have hset := hi.settled _ (List.mem_of_getElem? hpc)
  have hkeep : ∀ r ∈ s.rows, r.id ≠ id → r ∈ deleteTemplate id s.rows := fun r hr hne =>
    List.mem_filter.mpr ⟨hr, decide_eq_true hne⟩
  refine hi.swap hpc (schema_deleteTemplate hi.schema id) hi.keys (fun _ h => by cases h) (fun pc' hmem => ?_)
    (fun _ h => by cases h) fun hloaded e he => ?_
  · have hset' := hi.settled pc' ((mem_iff_others hpc pc').mpr (Or.inl hmem))
    refine ⟨fun t ht => hkeep t (hset'.held t ht) ?_, fun connectionID id' h r hr => ?_, hset'.gone⟩
    · rintro rfl
      have hnot := ((pairwise_others Apart.symm hi.apart hpc pc' hmem).left _ (decide_eq_true rfl)).1
      rw [holds_of_mem ht] at hnot
      cases hnot
    · exact hset'.connection connectionID id' h r (List.mem_of_mem_filter hr)
  · obtain ⟨hplain, r, hr, hfresh⟩ := hi.tracks hloaded e he
    have hne : r.id ≠ id := by
      rw [hfresh.id]
      exact hset.gone id (decide_eq_true rfl) hloaded e he
    exact ⟨hplain, r, hkeep r hr hne, hfresh.mono (put_swapped hpc (fun h => by cases h) _)⟩

end Step

/-! ## Runs -/

theorem selected {κ : Type} [DecidableEq κ] {c : WABATemplate → κ} {rows : List WABATemplate} {fails : Bool} {k : κ}
    {r : WABATemplate} (h : (if fails then none else rows.find? fun r => c r = k) = some r) : r ∈ rows ∧ c r = k := by
  split at h
  · cases h
  · exact ⟨List.mem_of_find?_eq_some h, by simpa using List.find?_some h⟩

theorem inv_run {s : St} {i : Nat} {env : StepEnv} {pc : Pc} {r : St × Option Pc} (hi : Inv s)
    (hpc : s.pool[i]? = some pc) (hg : Undisturbed s (.run i env)) (h : pc.run env s = some r) :
    Inv { r.1 with pool := swapped s i r.2 } := by
  simp only [Undisturbed, hpc] at hg
  cases pc with
  | loadSelect =>
    simp only [Pc.run] at h
    split at h
    · cases h
      exact hi.ended hpc fun _ h => by cases h
    · split at h
      · rename_i horder
        cases h
        exact hi.read hpc (fun _ h => by cases h) (fun _ => rfl) (fun t ht => horder.mem_iff.mp ht)
          fun t ht => hg t (horder.mem_iff.mp ht)
      · cases h
  | loadSwap snapshot =>
    cases h
    exact hi.loadSwap hpc hg
  | createInsert t =>
    cases h
    refine hi.write hpc (fun _ h => by cases h) fun w hw => ?_
    obtain ⟨hwrites, hid⟩ := insertTemplate_writes hw hi.schema
    exact ⟨hwrites, hid ▸ hg⟩
  | upsertRow t =>
    cases h
    refine hi.write hpc (fun _ h => by cases h) fun w hw => ?_
    obtain ⟨hwrites, hid⟩ := upsertTemplate_writes hw hi.schema
    exact ⟨hwrites, hid ▸ hg⟩
  | statusRow u =>
    cases h
    refine hi.write hpc (fun _ h => by cases h) fun w hw => ?_
    obtain ⟨hwrites, hid⟩ := updateStatusRow_writes hw hi.schema
    exact ⟨hwrites, hid ▸ hg⟩
  | idCache id =>
    obtain ⟨found, -, rfl⟩ := Option.map_eq_some_iff.mp h
    cases found with
    | none => exact hi.moved hpc (fun _ h => by cases h) fun _ h => by cases h; rfl
    | some t => exact hi.ended hpc fun _ h => by cases h
  | idSelect id =>
    simp only [Pc.run] at h
    split at h
    · cases h
      exact hi.ended hpc fun _ h => by cases h
    · rename_i r hfind
      cases h
      obtain ⟨hr, hid⟩ := selected hfind
      exact hi.read hpc (fun _ h => by cases h) (fun _ => rfl) (fun t ht => List.mem_singleton.mp ht ▸ hr)
        fun t ht => List.mem_singleton.mp ht ▸ hid ▸ hg
  | nameCache connectionID name language =>
    simp only [Pc.run] at h
    split at h
    · cases h
      exact hi.ended hpc fun _ h => by cases h
    · cases h
      exact hi.moved hpc (fun _ h => by cases h) fun _ h => by cases h; rfl
  | nameSelect connectionID name language =>
    simp only [Pc.run] at h
    split at h
    · cases h
      exact hi.ended hpc fun _ h => by cases h
    · rename_i r hfind
      cases h
      obtain ⟨hr, hslot⟩ := selected hfind
      exact hi.read hpc (fun _ h => by cases h) (fun _ => rfl) (fun t ht => List.mem_singleton.mp ht ▸ hr)
        fun t ht => List.mem_singleton.mp ht ▸ hg r hr hslot
  | put t =>
    cases h
    exact hi.put hpc rfl hg (fun _ h => by cases h) fun _ h => by cases h
  | deleteGet id =>
    obtain ⟨found, hfound, rfl⟩ := Option.map_eq_some_iff.mp h
    cases found with
    | none => exact hi.deleteMissed hpc hg hfound
    | some t => exact hi.deleteFound hpc hg hfound
  | deleteSelect id =>
    simp only [Pc.run] at h
    split at h
    · cases h
      exact hi.deleteSelect hpc (Or.inl rfl)
    · rename_i r hfind
      cases h
      obtain ⟨hr, hid⟩ := selected hfind
      exact hi.deleteSelect hpc (Or.inr ⟨r, hr, hid, rfl⟩)
  | deletePut t =>
    cases h
    exact hi.deletePut hpc hg
  | deleteRemove connectionID id =>
    obtain ⟨cache, hcache, rfl⟩ := Option.map_eq_some_iff.mp h
    exact hi.deleteRemove hpc hcache
  | deleteRow id =>
    cases h
    cases hfails : env.fails with
    | true => exact hi.ended hpc fun _ h => by cases h
    | false => exact hi.deleteRow hpc

theorem idle_start {call : Call} {pc : Pc} (h : call.start = some pc) : idle pc = true := by
  cases call <;> simp only [Call.start] at h <;> (try split at h) <;> cases h <;> rfl

theorem inv_start {s s' : St} {call : Call} (hi : Inv s) (h : step s (.start call) = some s') : Inv s' := by
  obtain ⟨pc, hpc, rfl⟩ := Option.map_eq_some_iff.mp h
  have hidle := idle_start hpc
  refine ⟨hi.schema, hi.keys, ?_, fun pc' hmem => ?_, fun hloaded e he => ?_⟩
  · refine List.pairwise_append.mpr ⟨hi.apart, List.pairwise_singleton _ _, fun a _ b hb => ?_⟩
    rw [List.mem_singleton.mp hb]
    exact (idle_apart hidle a).symm
  · rcases List.mem_append.mp hmem with hmem | hmem
    · exact hi.settled pc' hmem
    · rw [List.mem_singleton.mp hmem]
      exact idle_settled hidle _ _ _
  · obtain ⟨hplain, r, hr, hfresh⟩ := hi.tracks hloaded e he
    exact ⟨hplain, r, hr, hfresh.mono fun h => List.mem_append_left _ h⟩

theorem inv_inductive {rows : List WABATemplate} (hs : Schema rows) :
    ((sys rows).restrict Undisturbed).Inductive Inv :=
  .of_restrict
    (by
      rintro s rfl
      exact ⟨hs, fun _ h => (by cases h), List.Pairwise.nil, fun _ h => (by cases h), fun h => by cases h⟩)
    (by
      intro s l s' hi hg hstep
      have hstep : step s l = some s' := hstep
      cases l with
      | start call => exact inv_start hi hstep
      | run i env =>
        simp only [step] at hstep
        split at hstep
        · cases hstep
        · rename_i pc hpc
          obtain ⟨r, hr, rfl⟩ := Option.map_eq_some_iff.mp hstep
          exact inv_run hi hpc hg hr)

theorem transparent_of_inv {s : St} (hi : Inv s) (hidle : s.pool = []) : Transparent s := by
  intro connectionID name language
  unfold getByNameAndLanguage
  split
  · rename_i t hlookup
    unfold lookupCached at hlookup
    split at hlookup
    · rename_i hloaded
      obtain ⟨before, after, hcache, -⟩ := List.lookup_eq_some_iff.mp hlookup
      have hmem : (cacheKey connectionID name language, t) ∈ s.cache := by simp [hcache]
      obtain ⟨hplain, r, hr, hfresh⟩ := hi.tracks hloaded _ hmem
      -- no put is to come
      have hrow : t = r := hfresh.row.resolve_right fun hput => by
        rw [hidle] at hput
        cases hput
      rw [← hrow] at hr
      have hslot := cacheKey_inj hplain (hi.keys _ hmem)
      exact ((find?_key_iff hi.schema.slot).mpr ⟨hr, hslot⟩).symm
    · cases hlookup
  · rfl

theorem template_cache_transparent {rows : List WABATemplate} (hs : Schema rows) {s : St}
    (hr : ((sys rows).restrict Undisturbed).Reachable s) (hidle : s.pool = []) : Transparent s :=
  transparent_of_inv ((inv_inductive hs).reachable hr) hidle

def greeting (id : UUID) (name language : String) : WABATemplate :=
  ⟨id, 1, 5, "m", name, language, "APPROVED", "UTILITY", some "[]", none, none⟩

/-- Nothing fails; the bulk load meets `order`. -/
def quiet (order : List WABATemplate) : StepEnv := ⟨false, 8, order, 0⟩

def alone (call : Call) (steps : Nat) : List Lbl := .start call :: List.replicate steps (.run 0 (quiet []))

def everyOperation : List Lbl :=
  [Lbl.start .loadCache, .run 0 (quiet [greeting 7 "welcome" "en"]), .run 0 (quiet [])] ++
    alone (.create (greeting 0 "invoice" "pt")) 2 ++ alone (.getByNameAndLanguage 5 "welcome" "en") 1 ++
    alone (.upsert { greeting 0 "welcome" "en" with status := "PAUSED" }) 2 ++
    alone (.updateStatus ⟨8, "REJECTED", some "policy", none⟩) 2 ++ alone (.delete 7) 3 ++ alone (.getByID 8) 1 ++
    [Lbl.start (.getByNameAndLanguage 5 "welcome" "en"), .start (.updateStatus ⟨8, "APPROVED", none, none⟩),
      .run 1 (quiet []), .run 0 (quiet []), .run 1 (quiet []), .run 0 (quiet [])]

theorem template_lookup_current :
    ∃ s, ((sys [greeting 7 "welcome" "en"]).restrict Undisturbed).Reachable s ∧ s.cacheLoaded = true ∧
      s.cache.map (fun e => (e.2.id, e.2.status)) = [(8, "APPROVED")] ∧ Transparent s := by
  have hschema : Schema [greeting 7 "welcome" "en"] := ⟨by decide, by decide⟩
  have hrun : (LTS.exec step (init [greeting 7 "welcome" "en"]) everyOperation).any (fun s => s.pool = [] &&
      s.cacheLoaded && s.cache.map (fun e => (e.2.id, e.2.status)) = [(8, "APPROVED")]) = true := by decide +kernel
  have hguard : LTS.Guarded step Undisturbed (init [greeting 7 "welcome" "en"]) everyOperation := by decide +kernel
  obtain ⟨s, hs, hend⟩ := (Option.any_eq_true _ _).mp hrun
  simp only [Bool.and_eq_true, decide_eq_true_eq] at hend
  obtain ⟨⟨hidle, hloaded⟩, hcached⟩ := hend
  have hreach := LTS.exec_restrict_reachable hs hguard
  exact ⟨s, hreach, hloaded, hcached, template_cache_transparent hschema hreach hidle⟩

/-- `hello` in `en_US` has the key of `hello_en` in `US`. -/
theorem other_name_served : ∃ s, (sys [greeting 7 "hello" "en_US"]).Reachable s ∧ s.pool = [] ∧ ¬Transparent s := by
  have hrun : (LTS.exec step (init [greeting 7 "hello" "en_US"])
      [.start .loadCache, .run 0 (quiet [greeting 7 "hello" "en_US"]), .run 0 (quiet [])]).any (fun s => s.pool = [] &&
      getByNameAndLanguage s 5 "hello_en" "US" ≠ s.rows.find? fun r => r.slot = (5, "hello_en", "US")) = true := by
    decide +kernel
  obtain ⟨s, hs, hend⟩ := (Option.any_eq_true _ _).mp hrun
  simp only [Bool.and_eq_true, decide_eq_true_eq] at hend
  exact ⟨s, LTS.exec_reachable hs, hend.1, fun h => hend.2 (h 5 "hello_en" "US")⟩

end PerGo.L4.TemplateCache
