import Mathlib.Data.List.Perm.Basic
import PerGo.Core.LTS
import PerGo.Core.Pool
import PerGo.Core.Table
import PerGo.L2Domain.Message

/-!
# Template repository

`repository/waba_template.go` over the table `waba_templates` and the cache of one
repository. A call is a thread that takes one SQL statement or one section under the lock of
the cache at a time.

* Timestamps are left out, and the JSON of `components` is a text: the cache holds what a
  statement returned.
* `gen_random_uuid()`, the order of the rows of the bulk load and the entry that `range`
  meets first are in `StepEnv`.
* The two levels of the map are one key: connection and `name_language`.
-/
namespace PerGo.L3.TemplateRepository

open PerGo.Core PerGo.L1 PerGo.L2

/-- mirrors waba_template.go:23-37 -/
structure WABATemplate where
  id : UUID
  workspaceID : UUID
  connectionID : UUID
  metaTemplateID : String
  name : String
  language : String
  status : String
  category : String
  components : Option String
  rejectionReason : Option String
  qualityScore : Option String
deriving DecidableEq

/-- What is unique in the table besides the id. -/
def WABATemplate.slot (t : WABATemplate) : UUID × String × String := (t.connectionID, t.name, t.language)

abbrev CacheKey := UUID × String

/-- mirrors waba_template.go:77, 104, 206 -/
def cacheKey (connectionID : UUID) (name language : String) : CacheKey := (connectionID, name ++ "_" ++ language)

def WABATemplate.key (t : WABATemplate) : CacheKey := cacheKey t.connectionID t.name t.language

/-! ## Statements -/

/-- mirrors migrations/005_create_waba_templates.sql:3 and
022_add_connection_id_to_waba_templates.sql:35-37 -/
structure Schema (rows : List WABATemplate) : Prop where
  id : (rows.map (·.id)).Nodup
  slot : (rows.map (·.slot)).Nodup

/-- The row a statement returned, and the table after it. -/
abbrev Written := WABATemplate × List WABATemplate

/-- `none` when a constraint is violated. mirrors waba_template.go:131-134 -/
def insertTemplate (id : UUID) (t : WABATemplate) (rows : List WABATemplate) : Option Written :=
  let row := { t with id := id }
  if rows.any fun r => r.id = id || r.slot = t.slot then none else some (row, rows ++ [row])

/-- The columns of `ON CONFLICT DO UPDATE`. -/
def overwrite (t r : WABATemplate) : WABATemplate :=
  { r with metaTemplateID := t.metaTemplateID, status := t.status, category := t.category, components := t.components,
           rejectionReason := t.rejectionReason, qualityScore := t.qualityScore }

/-- mirrors waba_template.go:153-163 -/
def upsertTemplate (id : UUID) (t : WABATemplate) (rows : List WABATemplate) : Option Written :=
  match rows.find? fun r => r.slot = t.slot with
  | some r => some (overwrite t r, updateWhere (fun r => r.slot = t.slot) (overwrite t) rows)
  | none => insertTemplate id t rows

/-- What `UpdateStatus` writes. -/
structure StatusUpdate where
  id : UUID
  status : String
  rejectionReason : Option String
  qualityScore : Option String

def StatusUpdate.apply (u : StatusUpdate) (r : WABATemplate) : WABATemplate :=
  { r with status := u.status, rejectionReason := u.rejectionReason, qualityScore := u.qualityScore }

/-- `none` when there is no such row. mirrors waba_template.go:298-303 -/
def updateStatusRow (u : StatusUpdate) (rows : List WABATemplate) : Option Written :=
  (rows.find? fun r => r.id = u.id).map fun r => (u.apply r, updateWhere (fun r => r.id = u.id) u.apply rows)

/-- mirrors waba_template.go:318 -/
def deleteTemplate (id : UUID) (rows : List WABATemplate) : List WABATemplate := rows.filter fun r => r.id ≠ id

/-! ## The cache -/

abbrev Cache := List (CacheKey × WABATemplate)

/-- mirrors waba_template.go:91-107 -/
def Cache.put (cache : Cache) (t : WABATemplate) : Cache := (t.key, t) :: cache.filter fun e => e.1 ≠ t.key

/-- A row with the key of an earlier one takes its place. mirrors waba_template.go:66-80 -/
def newCache (snapshot : List WABATemplate) : Cache := snapshot.foldl Cache.put []

/-- mirrors waba_template.go:109-120 -/
def Cache.removeOne (cache : Cache) (connectionID id : UUID) (pick : Nat) : Option Cache :=
  let entries := cache.filter fun e => e.1.1 = connectionID && e.2.id = id
  if entries = [] then some cache
  else (entries[pick]?).map fun e => cache.filter fun e' => e'.1 ≠ e.1

/-! ## Calls -/

/-- Where a call is: the statement or the section it takes next. -/
inductive Pc
  | loadSelect
  | loadSwap (snapshot : List WABATemplate)
  | createInsert (t : WABATemplate)
  | upsertRow (t : WABATemplate)
  | statusRow (u : StatusUpdate)
  | idCache (id : UUID)
  | idSelect (id : UUID)
  | nameCache (connectionID : UUID) (name language : String)
  | nameSelect (connectionID : UUID) (name language : String)
  | put (t : WABATemplate)
  | deleteGet (id : UUID)
  | deleteSelect (id : UUID)
  | deletePut (t : WABATemplate)
  | deleteRemove (connectionID id : UUID)
  | deleteRow (id : UUID)

inductive Call
  | loadCache
  | create (t : WABATemplate)
  | upsert (t : WABATemplate)
  | updateStatus (u : StatusUpdate)
  | delete (id : UUID)
  | getByID (id : UUID)
  | getByNameAndLanguage (connectionID : UUID) (name language : String)

/-- mirrors waba_template.go:124-129, 147-152 -/
def prepare (t : WABATemplate) : WABATemplate :=
  if t.components = none then { t with components := some "[]" } else t

/-- `none`: the call is refused before it does anything. -/
def Call.start : Call → Option Pc
  | .loadCache => some .loadSelect
  | .create t => if t.workspaceID = UUID.Nil then none else some (.createInsert (prepare t))
  | .upsert t => if t.workspaceID = UUID.Nil then none else some (.upsertRow (prepare t))
  | .updateStatus u => some (.statusRow u)
  | .delete id => some (.deleteGet id)
  | .getByID id => some (.idCache id)
  | .getByNameAndLanguage connectionID name language => some (.nameCache connectionID name language)

structure St where
  rows : List WABATemplate
  cache : Cache
  cacheLoaded : Bool
  pool : List Pc

structure StepEnv where
  fails : Bool
  /-- the new id -/
  id : UUID
  /-- the rows in the order the bulk load meets them -/
  order : List WABATemplate
  pick : Nat

/-- What the cached section of `GetByID` finds; the outer `none`: `pick` is no such entry.
mirrors waba_template.go:174-186 -/
def findCached (s : St) (id : UUID) (pick : Nat) : Option (Option WABATemplate) :=
  let entries := s.cache.filter fun e => e.2.id = id
  if s.cacheLoaded = false ∨ entries = [] then some none else (entries[pick]?).map fun e => some e.2

/-- What the cached section of `GetByNameAndLanguage` finds.
mirrors waba_template.go:203-213 -/
def lookupCached (s : St) (connectionID : UUID) (name language : String) : Option WABATemplate :=
  if s.cacheLoaded then s.cache.lookup (cacheKey connectionID name language) else none

/-- A statement that returns a row, which the call then puts in the cache. -/
def St.write (s : St) (fails : Bool) (written : Option Written) : St × Option Pc :=
  match written, fails with
  | some w, false => ({ s with rows := w.2 }, some (.put w.1))
  | _, _ => (s, none)

/-- One step of a call: the state after it, and where the call is then; `none` inside: it has returned. -/
def Pc.run (env : StepEnv) (s : St) : Pc → Option (St × Option Pc)
  | .loadSelect =>
    if env.fails then some (s, none)
    else if env.order.Perm s.rows then some (s, some (.loadSwap env.order))
    else none
  | .loadSwap snapshot => some ({ s with cache := newCache snapshot, cacheLoaded := true }, none)
  | .createInsert t => some (s.write env.fails (insertTemplate env.id t s.rows))
  | .upsertRow t => some (s.write env.fails (upsertTemplate env.id t s.rows))
  | .statusRow u => some (s.write env.fails (updateStatusRow u s.rows))
  | .idCache id => (findCached s id env.pick).map fun
    | some _ => (s, none)
    | none => (s, some (.idSelect id))
  | .idSelect id =>
    match if env.fails then none else s.rows.find? fun r => r.id = id with
    | none => some (s, none)
    | some r => some (s, some (.put r))
  | .nameCache connectionID name language =>
    match lookupCached s connectionID name language with
    | some _ => some (s, none)
    | none => some (s, some (.nameSelect connectionID name language))
  | .nameSelect connectionID name language =>
    match if env.fails then none else s.rows.find? fun r => r.slot = (connectionID, name, language) with
    | none => some (s, none)
    | some r => some (s, some (.put r))
  | .put t => some ({ s with cache := s.cache.put t }, none)
  | .deleteGet id => (findCached s id env.pick).map fun
    | some t => (s, some (.deleteRemove t.connectionID id))
    | none => (s, some (.deleteSelect id))
  | .deleteSelect id =>
    match if env.fails then none else s.rows.find? fun r => r.id = id with
    | none => some (s, some (.deleteRow id))
    | some r => some (s, some (.deletePut r))
  | .deletePut t => some ({ s with cache := s.cache.put t }, some (.deleteRemove t.connectionID t.id))
  | .deleteRemove connectionID id =>
    (s.cache.removeOne connectionID id env.pick).map fun cache => ({ s with cache := cache }, some (.deleteRow id))
  | .deleteRow id => some (if env.fails then s else { s with rows := deleteTemplate id s.rows }, none)

inductive Lbl
  | start (call : Call)
  | run (i : Nat) (env : StepEnv)

def step (s : St) : Lbl → Option St
  | .start call => call.start.map fun pc => { s with pool := s.pool ++ [pc] }
  | .run i env => match s.pool[i]? with
    | none => none
    | some pc => (pc.run env s).map fun r => { r.1 with pool := s.pool.take i ++ r.2.toList ++ s.pool.drop (i + 1) }

def init (rows : List WABATemplate) : St := ⟨rows, [], false, []⟩

def sys (rows : List WABATemplate) : LTS St Lbl := LTS.ofFn (init rows) step

/-- What `GetByNameAndLanguage` answers when no other call runs; `none` is not found.
mirrors waba_template.go:202-228 -/
def getByNameAndLanguage (s : St) (connectionID : UUID) (name language : String) : Option WABATemplate :=
  match lookupCached s connectionID name language with
  | some t => some t
  | none => s.rows.find? fun r => r.slot = (connectionID, name, language)

/-! ## What the statements write -/

/-- The row returned is in the table, new or in the place of the row it overwrites. -/
structure Writes (rows : List WABATemplate) (w : Written) : Prop where
  schema : Schema w.2
  returned : w.1 ∈ w.2
  kept : ∀ r ∈ rows, r ∈ w.2 ∨ r.id = w.1.id ∧ r.slot = w.1.slot
  only : ∀ r ∈ w.2, r ∈ rows ∨ r = w.1

theorem insertTemplate_writes {id : UUID} {t : WABATemplate} {rows : List WABATemplate} {w : Written}
    (h : insertTemplate id t rows = some w) (hs : Schema rows) : Writes rows w ∧ w.1.id = id := by
  unfold insertTemplate at h
  simp only at h
  split at h
  · cases h
  rename_i hfree
  cases h
  have hne : ∀ r ∈ rows, r.id ≠ id ∧ r.slot ≠ t.slot := by simpa [not_or] using hfree
  refine ⟨⟨⟨nodup_concat hs.id fun r hr => (hne r hr).1, nodup_concat hs.slot fun r hr => (hne r hr).2⟩, by simp,
    fun r hr => .inl (List.mem_append_left _ hr), fun r hr => ?_⟩, rfl⟩
  exact (List.mem_append.mp hr).imp_right List.mem_singleton.mp

theorem updateWhere_writes {κ : Type} [DecidableEq κ] {c : WABATemplate → κ} {f : WABATemplate → WABATemplate}
    {rows : List WABATemplate} {r : WABATemplate} (hid : ∀ r, (f r).id = r.id) (hslot : ∀ r, (f r).slot = r.slot)
    (hs : Schema rows) (hn : (rows.map c).Nodup) (hr : r ∈ rows) :
    Writes rows (f r, updateWhere (fun r' => c r' = c r) f rows) := by
  have hmem : ∀ r' ∈ rows, (if decide (c r' = c r) then f r' else r') ∈ updateWhere (fun r' => c r' = c r) f rows :=
    fun r' hr' => List.mem_map_of_mem hr'
  refine ⟨⟨?_, ?_⟩, ?_, fun r' hr' => ?_, fun r' hr' => ?_⟩
  · rw [map_updateWhere hid]
    exact hs.id
  · rw [map_updateWhere hslot]
    exact hs.slot
  · simpa using hmem r hr
  · by_cases hk : c r' = c r
    · right
      rw [eq_of_key_eq hn hr' hr hk]
      exact ⟨(hid r).symm, (hslot r).symm⟩
    · left
      simpa [hk] using hmem r' hr'
  · obtain ⟨r₀, hr₀, rfl⟩ := List.mem_map.mp hr'
    by_cases hk : c r₀ = c r
    · right
      rw [eq_of_key_eq hn hr₀ hr hk]
      exact if_pos (decide_eq_true rfl)
    · left
      simpa [hk] using hr₀

def upsertID (id : UUID) (t : WABATemplate) (rows : List WABATemplate) : UUID :=
  match rows.find? fun r => r.slot = t.slot with
  | some r => r.id
  | none => id

theorem upsertTemplate_writes {id : UUID} {t : WABATemplate} {rows : List WABATemplate} {w : Written}
    (h : upsertTemplate id t rows = some w) (hs : Schema rows) : Writes rows w ∧ w.1.id = upsertID id t rows := by
  unfold upsertTemplate at h
  unfold upsertID
  split at h
  · rename_i r hfind
    obtain ⟨hr, hslot⟩ := (find?_key_iff hs.slot).mp hfind
    cases h
    rw [← hslot]
    exact ⟨updateWhere_writes (fun _ => rfl) (fun _ => rfl) hs hs.slot hr, rfl⟩
  · exact insertTemplate_writes h hs

theorem updateStatusRow_writes {u : StatusUpdate} {rows : List WABATemplate} {w : Written}
    (h : updateStatusRow u rows = some w) (hs : Schema rows) : Writes rows w ∧ w.1.id = u.id := by
  obtain ⟨r, hfind, rfl⟩ := Option.map_eq_some_iff.mp h
  obtain ⟨hr, hid⟩ := (find?_key_iff hs.id).mp hfind
  refine ⟨?_, hid⟩
  rw [← hid]
  exact updateWhere_writes (fun _ => rfl) (fun _ => rfl) hs hs.id hr

theorem schema_deleteTemplate {rows : List WABATemplate} (hs : Schema rows) (id : UUID) :
    Schema (deleteTemplate id rows) := by
  have hsub : (deleteTemplate id rows).Sublist rows := List.filter_sublist
  exact ⟨hs.id.sublist (hsub.map _), hs.slot.sublist (hsub.map _)⟩

/-! ## What the cache holds -/

theorem mem_put {cache : Cache} {t : WABATemplate} {e : CacheKey × WABATemplate} (h : e ∈ cache.put t) :
    e = (t.key, t) ∨ e ∈ cache ∧ e.1 ≠ t.key := by
  rcases List.mem_cons.mp h with rfl | h
  · exact .inl rfl
  · obtain ⟨hmem, hne⟩ := List.mem_filter.mp h
    exact .inr ⟨hmem, by simpa using hne⟩

theorem mem_newCache {snapshot : List WABATemplate} {e : CacheKey × WABATemplate} (h : e ∈ newCache snapshot) :
    e.1 = e.2.key ∧ e.2 ∈ snapshot := by
  have hfold : ∀ (cache : Cache), e ∈ snapshot.foldl Cache.put cache → e ∈ cache ∨ e.1 = e.2.key ∧ e.2 ∈ snapshot := by
    clear h
    induction snapshot with
    | nil => exact fun cache h => .inl h
    | cons t snapshot ih =>
      intro cache h
      rcases ih (cache.put t) h with hput | ⟨hkey, hmem⟩
      · rcases mem_put hput with rfl | ⟨hmem, -⟩
        · exact .inr ⟨rfl, List.mem_cons_self⟩
        · exact .inl hmem
      · exact .inr ⟨hkey, List.mem_cons_of_mem _ hmem⟩
  exact (hfold [] h).resolve_left List.not_mem_nil

theorem mem_removeOne {cache cache' : Cache} {connectionID id : UUID} {pick : Nat}
    (h : cache.removeOne connectionID id pick = some cache') {e : CacheKey × WABATemplate} (he : e ∈ cache') :
    e ∈ cache := by
  unfold Cache.removeOne at h
  simp only at h
  split at h
  · cases h
    exact he
  · obtain ⟨_, -, rfl⟩ := Option.map_eq_some_iff.mp h
    exact List.mem_of_mem_filter he

end PerGo.L3.TemplateRepository
