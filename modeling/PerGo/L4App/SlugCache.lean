import PerGo.L3Channel.ConnectionRepository

/-!
# The slug cache and the table

`Transparent`: with no call in progress, `GetBySlug` answers what the table says.

Every operation writes the cache and the table in two steps of its own, and a `GetBySlug`
that missed puts what it read some time ago. A copy of a row is an entry of the cache, or
what a call is about to put there. `Undisturbed` is the condition: a call that changes a row
does not overlap one that has read it, a column is written by one call at a time, and no
statement fails, or clears a flag, behind the back of the cache.

That the copies are those of the rows follows from what each call does in the cache (`Inv`):
an entry has the columns that a call has written there and is about to write in the table,
and a call that is about to rename or delete a row has taken its entries away.

* `slug_cache_transparent`: in every run under the condition the cache is transparent;
* `every_operation_transparent`: a run through all operations;
* `failed_update_served`: `UpdateStatus` fails in the table and stays in the cache.
-/
namespace PerGo.L4.SlugCache

open PerGo.Core PerGo.L1 PerGo.L2 PerGo.L3.ConnectionRepository

/-- The entry a call is about to put. -/
def copyOf : Pc → Option (Key × Conn)
  | .createPut c => if c.slug ≠ "" then some (c.key, c) else none
  | .getPut ws slug conn => some ((ws, slug), conn)
  | _ => none

def copies (s : St) : List (Key × Conn) := s.cache ++ s.pool.filterMap copyOf

def pendingOf : Pc → Option (UUID × Column)
  | .writeRow id w => some (id, w.column)
  | _ => none

def changes (id : UUID) : Pc → Bool
  | .writeRow id' _ | .slugRow id' _ | .deleteConn id' => id' = id
  | _ => false

/-- The call has taken the row's entries from the cache. -/
def removes (id : UUID) : Pc → Bool
  | .slugRow id' _ | .deleteConn id' => id' = id
  | _ => false

/-- The call is about to put a copy of the row. -/
def holds (id : UUID) (pc : Pc) : Bool := (copyOf pc).any fun e => e.2.id = id

/-- The statements that fail, and the calls that overlap. -/
def Undisturbed (s : St) : Lbl → Prop
  | .start _ => True
  | .run i env => match s.pool[i]? with
    | some (.createUnset c) => env.fails = true ∨ ∀ e ∈ copies s,
        e.2.workspaceID = c.workspaceID → e.2.channel = c.channel → e.2.isDefault = false
    | some (.createInsert c _) => ∀ pc ∈ others s.pool i, changes c.id pc = false
    | some (.getSelect ws slug) =>
      ∀ r ∈ s.rows, r.key = (ws, slug) → ∀ pc ∈ others s.pool i, changes r.id pc = false
    | some (.writeCache id w) =>
      ∀ pc ∈ others s.pool i, holds id pc = false ∧ pendingOf pc ≠ some (id, w.column)
    | some (.writeRow id _) => env.fails = true → ∀ e ∈ s.cache, e.2.id ≠ id
    | some (.slugCache id _) | some (.deleteCache id) => ∀ pc ∈ others s.pool i, holds id pc = false
    | _ => True

instance (s : St) : ∀ l, Decidable (Undisturbed s l)
  | .start _ => inferInstanceAs (Decidable True)
  | .run i _ => by
    unfold Undisturbed
    dsimp only
    generalize s.pool[i]? = pc
    rcases pc with _ | pc
    · infer_instance
    · cases pc <;> infer_instance

def Transparent (s : St) : Prop := ∀ ws slug, getBySlug s ws slug = s.rows.find? fun r => r.key = (ws, slug)

/-! ## Copies and their rows -/

def base (c : Conn) : Conn := { c with status := "", proxyURL := none, credentials := none }

/-- The columns of the copy `c` of a row: where a write is to come, what it will write. -/
structure Columns (pool : List Pc) (c r : Conn) : Prop where
  written : ∀ w, .writeRow r.id w ∈ pool → c.get w.column = (w.apply r).get w.column
  same : ∀ col, (∀ w, .writeRow r.id w ∈ pool → w.column ≠ col) → c.get col = r.get col

/-- The entry `c` under `k` is that of a row. -/
def Tracks (rows : List Conn) (pool : List Pc) (k : Key) (c : Conn) : Prop :=
  ∃ r ∈ rows, r.key = k ∧ base c = base r ∧ Columns pool c r

/-- No call changes the row another holds, and none writes the column another writes. -/
structure Apart (a b : Pc) : Prop where
  left : ∀ id, changes id a = true → holds id b = false
  right : ∀ id, changes id b = true → holds id a = false
  columns : ∀ x, pendingOf a = some x → pendingOf b ≠ some x

/-- What a call holds is a row, and what it has removed is not in the cache. -/
structure Settled (rows : List Conn) (cache : SlugCache) (pc : Pc) : Prop where
  held : ∀ e, copyOf pc = some e → e.2 ∈ rows ∧ e.2.key = e.1
  gone : ∀ id, removes id pc = true → ∀ e ∈ cache, e.2.id ≠ id

structure Inv (s : St) : Prop where
  schema : Schema s.rows
  apart : s.pool.Pairwise Apart
  settled : ∀ pc ∈ s.pool, Settled s.rows s.cache pc
  tracks : ∀ e ∈ s.cache, Tracks s.rows s.pool e.1 e.2

theorem Apart.symm {a b : Pc} (h : Apart a b) : Apart b a :=
  ⟨h.right, h.left, fun x hb ha => h.columns x ha hb⟩

/-- A call that neither changes a row next nor holds one. -/
def idle : Pc → Bool
  | .createPut _ | .getPut .. | .writeRow .. | .slugRow .. | .deleteConn _ => false
  | _ => true

theorem idle_apart {pc : Pc} (h : idle pc = true) (pc' : Pc) : Apart pc pc' := by
  cases pc <;> cases h <;> exact ⟨fun _ h => (by cases h), fun _ _ => rfl, fun _ h => (by cases h)⟩

theorem idle_settled {pc : Pc} (h : idle pc = true) (rows : List Conn) (cache : SlugCache) :
    Settled rows cache pc := by
  cases pc <;> cases h <;> exact ⟨fun _ h => (by cases h), fun _ h => (by cases h)⟩

theorem changes_of_removes {id : UUID} {pc : Pc} (h : removes id pc = true) : changes id pc = true := by
  cases pc <;> first | exact h | cases h

theorem id_of_base {c d : Conn} (h : base c = base d) : c.id = d.id := congrArg (·.id) h

theorem eq_of_columns {c d : Conn} (hb : base c = base d) (hc : ∀ col, c.get col = d.get col) : c = d := by
  have hstatus := Option.some.inj (hc .status)
  have hproxy := hc .proxyURL
  have hcreds := hc .credentials
  cases c
  cases d
  simp only [base, Conn.mk.injEq] at hb
  simp only [Conn.get] at hproxy hcreds
  simp only [Conn.mk.injEq]
  exact ⟨hb.1, hb.2.1, hb.2.2.1, hb.2.2.2.1, hb.2.2.2.2.1, hb.2.2.2.2.2.1, hstatus, hb.2.2.2.2.2.2.2.1, hcreds,
    hb.2.2.2.2.2.2.2.2.2.1, hproxy⟩

theorem base_apply (w : Write) (c : Conn) : base (w.apply c) = base c := by
  cases w with
  | status s =>
    unfold Write.apply
    simp only
    split <;> rfl
  | proxyURL url => rfl
  | credentials p => rfl

theorem get_apply_of_ne {w : Write} {col : Column} (h : col ≠ w.column) (c : Conn) : (w.apply c).get col = c.get col := by
  cases w with
  | status s =>
    unfold Write.apply
    simp only
    split
    · rfl
    · cases col with
      | status => exact absurd rfl h
      | proxyURL => rfl
      | credentials => rfl
  | proxyURL url =>
    cases col with
    | proxyURL => exact absurd rfl h
    | status => rfl
    | credentials => rfl
  | credentials p =>
    cases col with
    | credentials => exact absurd rfl h
    | status => rfl
    | proxyURL => rfl

theorem key_of_base {c d : Conn} (h : base c = base d) : c.key = d.key :=
  show (base c).key = (base d).key from congrArg Conn.key h

theorem key_apply (w : Write) (c : Conn) : (w.apply c).key = c.key := key_of_base (base_apply w c)

theorem sender_apply (w : Write) (c : Conn) : (w.apply c).senderIdentity = c.senderIdentity :=
  show (base (w.apply c)).senderIdentity = (base c).senderIdentity from congrArg _ (base_apply w c)

theorem id_apply (w : Write) (c : Conn) : (w.apply c).id = c.id := id_of_base (base_apply w c)

theorem get_apply_congr {w : Write} {c d : Conn} (h : c.get w.column = d.get w.column) :
    (w.apply c).get w.column = (w.apply d).get w.column := by
  cases w with
  | status s =>
    have hstatus : c.status = d.status := Option.some.inj h
    unfold Write.apply
    simp only [hstatus]
    split
    · exact congrArg some hstatus
    · rfl
  | proxyURL url => rfl
  | credentials p => rfl

theorem Columns.congr {pool pool' : List Pc} {c r : Conn} (h : Columns pool c r)
    (hw : ∀ w, .writeRow r.id w ∈ pool' ↔ .writeRow r.id w ∈ pool) : Columns pool' c r :=
  ⟨fun w hmem => h.written w ((hw w).mp hmem), fun col hcol => h.same col fun w hmem => hcol w ((hw w).mpr hmem)⟩

section Step

variable {s : St} {i : Nat} {pc : Pc}

def swapped (s : St) (i : Nat) (next : Option Pc) : List Pc := s.pool.take i ++ next.toList ++ s.pool.drop (i + 1)

theorem writes_swapped (hpc : s.pool[i]? = some pc) {next : Option Pc} {id : UUID} {w : Write}
    (hold : pc ≠ .writeRow id w) (hnew : next ≠ some (.writeRow id w)) :
    .writeRow id w ∈ swapped s i next ↔ .writeRow id w ∈ s.pool := by
  rw [swapped, mem_swapped_iff, mem_iff_others hpc, or_iff_left hnew, or_iff_left hold.symm]

/-- What a step has to keep. -/
theorem Inv.swap (hi : Inv s) (hpc : s.pool[i]? = some pc) {rows : List Conn} {cache : SlugCache} {next : Option Pc}
    {failures : List (List UUID)} (hschema : Schema rows)
    (hapart : ∀ pc' ∈ next, ∀ y ∈ others s.pool i, Apart pc' y)
    (hothers : ∀ pc' ∈ others s.pool i, Settled rows cache pc') (hnext : ∀ pc' ∈ next, Settled rows cache pc')
    (htracks : ∀ e ∈ cache, Tracks rows (swapped s i next) e.1 e.2) :
    Inv ⟨rows, cache, swapped s i next, failures⟩ := by
  refine ⟨hschema, pairwise_swapped Apart.symm (split_at hpc ▸ hi.apart) _ hapart, fun pc' h => ?_, htracks⟩
  exact ((mem_swapped_iff pc').mp h).elim (hothers pc') (hnext pc')

theorem Inv.statement (hi : Inv s) (hpc : s.pool[i]? = some pc) (hold : ∀ id w, pc ≠ .writeRow id w)
    {rows : List Conn} {next : Option Pc} {failures : List (List UUID)} (hschema : Schema rows)
    (hkeep : ∀ r ∈ s.rows, ∀ e ∈ s.cache ++ (others s.pool i).filterMap copyOf, base e.2 = base r → r ∈ rows)
    (hnew : ∀ id w, next ≠ some (.writeRow id w)) (hapart : ∀ pc' ∈ next, ∀ y ∈ others s.pool i, Apart pc' y)
    (hnext : ∀ pc' ∈ next, Settled rows s.cache pc') : Inv ⟨rows, s.cache, swapped s i next, failures⟩ := by
  refine hi.swap hpc hschema hapart (fun pc' hmem => ?_) hnext fun e he => ?_
  · have hset := hi.settled pc' ((mem_iff_others hpc pc').mpr (Or.inl hmem))
    refine ⟨fun e he => ?_, hset.gone⟩
    obtain ⟨hrow, hkey⟩ := hset.held e he
    exact ⟨hkeep _ hrow e (List.mem_append_right _ (List.mem_filterMap.mpr ⟨pc', hmem, he⟩)) rfl, hkey⟩
  · obtain ⟨r, hr, hk, hb, hcols⟩ := hi.tracks e he
    exact ⟨r, hkeep r hr e (List.mem_append_left _ he) hb, hk, hb,
      hcols.congr fun w => writes_swapped hpc (hold _ _) (hnew _ _)⟩

theorem Inv.moved (hi : Inv s) (hpc : s.pool[i]? = some pc) (hold : ∀ id w, pc ≠ .writeRow id w)
    {next : Option Pc} {failures : List (List UUID)} (hnext : ∀ pc' ∈ next, idle pc' = true) :
    Inv ⟨s.rows, s.cache, swapped s i next, failures⟩ :=
  hi.statement hpc hold hi.schema (fun _ hr _ _ _ => hr)
    (fun id w h => by have := hnext _ h; cases this)
    (fun pc' h _ _ => idle_apart (hnext pc' h) _) fun pc' h => idle_settled (hnext pc' h) _ _

theorem Inv.ended (hi : Inv s) (hpc : s.pool[i]? = some pc) (hold : ∀ id w, pc ≠ .writeRow id w)
    {failures : List (List UUID)} : Inv ⟨s.rows, s.cache, swapped s i none, failures⟩ :=
  hi.moved hpc hold fun _ h => by cases h

theorem mem_put {cache : SlugCache} {k : Key} {c : Conn} {e : Key × Conn} (h : e ∈ cache.put k c) :
    e = (k, c) ∨ e ∈ cache :=
  (List.mem_cons.mp h).imp_right List.mem_of_mem_filter

theorem mem_removeOne {cache cache' : SlugCache} {id : UUID} {pick : Nat} (h : cache.removeOne id pick = some cache')
    {e : Key × Conn} (he : e ∈ cache') : e ∈ cache := by
  unfold SlugCache.removeOne at h
  simp only at h
  split at h
  · cases h
    exact he
  · obtain ⟨_, -, rfl⟩ := Option.map_eq_some_iff.mp h
    exact List.mem_of_mem_filter he

theorem removeOne_gone (hi : Inv s) {cache : SlugCache} {id : UUID} {pick : Nat}
    (h : s.cache.removeOne id pick = some cache) : ∀ e ∈ cache, e.2.id ≠ id := by
  unfold SlugCache.removeOne at h
  simp only at h
  split at h
  · rename_i hnone
    cases h
    intro e he hid
    exact List.filter_eq_nil_iff.mp hnone e he (by simpa using hid)
  · obtain ⟨e', he', rfl⟩ := Option.map_eq_some_iff.mp h
    intro e he hid
    obtain ⟨he', hid'⟩ := List.mem_filter.mp (List.mem_of_getElem? he')
    obtain ⟨he, hkey⟩ := List.mem_filter.mp he
    obtain ⟨r, hr, hk, hb, -⟩ := hi.tracks e he
    obtain ⟨r', hr', hk', hb', -⟩ := hi.tracks e' he'
    have hsame : r = r' := List.inj_on_of_nodup_map hi.schema.id hr hr' (by
      rw [← id_of_base hb, ← id_of_base hb', hid, of_decide_eq_true hid'])
    rw [← hk, ← hk', hsame] at hkey
    simp at hkey

/-! ## One step -/

theorem Inv.createUnset {c : Conn} (hi : Inv s) (hpc : s.pool[i]? = some (.createUnset c))
    (hflag : ∀ e ∈ copies s, e.2.workspaceID = c.workspaceID → e.2.channel = c.channel → e.2.isDefault = false)
    (cleared : List UUID) :
    Inv ⟨unsetDefaults c.workspaceID c.channel s.rows, s.cache, swapped s i (some (.createInsert c cleared)),
      s.failures⟩ := by
  refine hi.statement hpc (fun _ _ h => by cases h) (schema_unsetDefaults hi.schema _ _) (fun r hr e he hb => ?_)
    (fun _ _ h => by cases h) (fun pc' h _ _ => by cases h; exact idle_apart rfl _)
    fun pc' h => by cases h; exact idle_settled rfl _ _
  -- a row whose flag is cleared has no copy with the flag, so it had none itself
  have hsame : (if r.workspaceID = c.workspaceID && r.channel = c.channel then { r with isDefault := false } else r) = r := by
    split
    · rename_i hmatch
      simp only [Bool.and_eq_true, decide_eq_true_eq] at hmatch
      have hws : e.2.workspaceID = r.workspaceID := congrArg (·.workspaceID) hb
      have hchannel : e.2.channel = r.channel := congrArg (·.channel) hb
      have hdefault : e.2.isDefault = r.isDefault := congrArg (·.isDefault) hb
      have hcopy : e ∈ copies s := by
        refine (List.Sublist.append_left (List.Sublist.filterMap _ ?_) _).mem he
        conv_rhs => rw [split_at hpc]
        exact (List.sublist_cons_self _ _).append_left _
      have hoff := hflag e hcopy (hws.trans hmatch.1) (hchannel.trans hmatch.2)
      rw [hdefault] at hoff
      cases r
      simp_all
    · rfl
  have hmem : _ ∈ unsetDefaults c.workspaceID c.channel s.rows := List.mem_map_of_mem hr
  simpa only [hsame] using hmem

theorem hold_apart {pc' : Pc} {id : UUID} (hcopy : ∀ id', holds id' pc' = true → id' = id)
    (hidle : ∀ id', changes id' pc' = false) (hpend : pendingOf pc' = none)
    (hfree : ∀ y ∈ others s.pool i, changes id y = false) : ∀ y ∈ others s.pool i, Apart pc' y := by
  intro y hy
  refine ⟨fun id' h => ?_, fun id' h => ?_, fun x h => ?_⟩
  · rw [hidle] at h
    cases h
  · refine Bool.eq_false_iff.mpr fun hheld => ?_
    rw [hcopy id' hheld, hfree y hy] at h
    cases h
  · rw [hpend] at h
    cases h

theorem change_apart {pc' : Pc} {id : UUID} (hrow : ∀ id', changes id' pc' = true → id' = id) (hcopy : copyOf pc' = none)
    (hfree : ∀ y ∈ others s.pool i, holds id y = false)
    (hcols : ∀ y ∈ others s.pool i, ∀ x, pendingOf pc' = some x → pendingOf y ≠ some x) :
    ∀ y ∈ others s.pool i, Apart pc' y := by
  intro y hy
  refine ⟨fun id' h => ?_, fun id' _ => ?_, hcols y hy⟩
  · rw [hrow id' h]
    exact hfree y hy
  · rw [holds, hcopy]
    rfl

theorem Inv.createInsert {c : Conn} {cleared : List UUID} (hi : Inv s)
    (hpc : s.pool[i]? = some (.createInsert c cleared)) {rows : List Conn} (h : insertConnection c s.rows = some rows)
    (hfree : ∀ y ∈ others s.pool i, changes c.id y = false) :
    Inv ⟨rows, s.cache, swapped s i (some (.createPut c)), s.failures⟩ := by
  obtain ⟨rfl, hschema⟩ := insertConnection_spec h hi.schema
  have hcopy : ∀ e, copyOf (.createPut c) = some e → e = (c.key, c) := fun e he => by
    simp only [copyOf] at he
    split at he
    · exact (Option.some.inj he).symm
    · cases he
  refine hi.statement hpc (fun _ _ h => by cases h) hschema (fun r hr _ _ _ => List.mem_append_left _ hr)
    (fun _ _ h => by cases h) (fun pc' h => ?_) fun pc' h => ?_
  · cases h
    refine hold_apart (fun id' hheld => ?_) (fun _ => rfl) rfl hfree
    obtain ⟨e, he, hid⟩ := Option.any_eq_true _ _ |>.mp hheld
    rw [hcopy e he] at hid
    exact (of_decide_eq_true hid).symm
  · cases h
    refine ⟨fun e he => ?_, fun _ h => by cases h⟩
    rw [hcopy e he]
    exact ⟨List.mem_append_right _ List.mem_cons_self, rfl⟩

theorem Inv.getSelect {ws : UUID} {slug : String} {r : Conn} (hi : Inv s)
    (hpc : s.pool[i]? = some (.getSelect ws slug)) (hfind : (s.rows.find? fun r => r.key = (ws, slug)) = some r)
    (hfree : ∀ y ∈ others s.pool i, changes r.id y = false) :
    Inv ⟨s.rows, s.cache, swapped s i (some (.getPut ws slug r)), s.failures⟩ := by
  -- what was read is the row itself
  obtain ⟨hmem, hkey⟩ := (find?_key_iff hi.schema.slug).mp hfind
  refine hi.statement hpc (fun _ _ h => by cases h) hi.schema (fun _ hr _ _ _ => hr) (fun _ _ h => by cases h)
    (fun pc' h => ?_) fun pc' h => ?_
  · cases h
    exact hold_apart (fun id' hheld => (of_decide_eq_true hheld).symm) (fun _ => rfl) rfl hfree
  · cases h
    refine ⟨fun e he => ?_, fun _ h => by cases h⟩
    cases he
    exact ⟨hmem, hkey⟩

theorem Inv.put (hi : Inv s) (hpc : s.pool[i]? = some pc) (hold : ∀ id w, pc ≠ .writeRow id w) {k : Key} {c : Conn}
    (hcopy : copyOf pc = some (k, c)) : Inv ⟨s.rows, s.cache.put k c, swapped s i none, s.failures⟩ := by
  have hapart := pairwise_others Apart.symm hi.apart hpc
  have hheld : holds c.id pc = true := by simp [holds, hcopy]
  obtain ⟨hrow, hkey⟩ := (hi.settled pc (List.mem_of_getElem? hpc)).held _ hcopy
  refine hi.swap hpc hi.schema (fun _ h => by cases h) (fun pc' hmem => ?_) (fun _ h => by cases h) fun e he => ?_
  · have hset := hi.settled pc' ((mem_iff_others hpc pc').mpr (Or.inl hmem))
    refine ⟨hset.held, fun id hid e he => ?_⟩
    rcases mem_put he with rfl | he
    · -- the call that took the entries away changes the row next, so this one does not hold it
      rintro rfl
      rw [(hapart pc' hmem).right _ (changes_of_removes hid)] at hheld
      cases hheld
    · exact hset.gone id hid e he
  · rcases mem_put he with rfl | he
    · refine ⟨c, hrow, hkey, rfl, fun w hmem => ?_, fun _ _ => rfl⟩
      rcases (mem_swapped_iff _).mp hmem with hmem | hmem
      · rw [(hapart _ hmem).right _ (by simp [changes])] at hheld
        cases hheld
      · cases hmem
    · obtain ⟨r, hr, hk, hb, hcols⟩ := hi.tracks e he
      exact ⟨r, hr, hk, hb, hcols.congr fun w => writes_swapped hpc (hold _ _) (fun h => by cases h)⟩

theorem Inv.writeCache {id : UUID} {w : Write} (hi : Inv s) (hpc : s.pool[i]? = some (.writeCache id w))
    (hfree : ∀ y ∈ others s.pool i, holds id y = false ∧ pendingOf y ≠ some (id, w.column)) :
    Inv ⟨s.rows, s.cache.updateColumn id w, swapped s i (some (.writeRow id w)), s.failures⟩ := by
  refine hi.swap hpc hi.schema (fun pc' h => ?_) (fun pc' hmem => ?_) (fun pc' h => ?_) fun e he => ?_
  · cases h
    refine change_apart (fun id' h => (of_decide_eq_true h).symm) rfl (fun y hy => (hfree y hy).1) fun y hy x hx => ?_
    cases hx
    exact (hfree y hy).2
  · have hset := hi.settled pc' ((mem_iff_others hpc pc').mpr (Or.inl hmem))
    refine ⟨hset.held, fun id' hid e he => ?_⟩
    obtain ⟨e₀, he₀, rfl⟩ := List.mem_map.mp he
    have hgone := hset.gone id' hid e₀ he₀
    split
    · simpa only [id_apply] using hgone
    · exact hgone
  · cases h
    exact ⟨fun _ h => (by cases h), fun _ h => (by cases h)⟩
  · obtain ⟨e₀, he₀, rfl⟩ := List.mem_map.mp he
    obtain ⟨r, hr, hk, hb, hcols⟩ := hi.tracks e₀ he₀
    split
    · rename_i hid
      have hrid : r.id = id := (id_of_base hb).symm.trans hid
      refine ⟨r, hr, hk, (base_apply w e₀.2).trans hb, fun w' hmem => ?_, fun col hcol => ?_⟩
      · rcases (mem_swapped_iff _).mp hmem with hmem | hmem
        · -- the columns other calls are about to write
          have hne : w'.column ≠ w.column := fun heq => (hfree _ hmem).2 (by rw [← heq, ← hrid]; rfl)
          rw [get_apply_of_ne hne]
          exact hcols.written w' ((mem_iff_others hpc _).mpr (Or.inl hmem))
        · cases hmem
          refine get_apply_congr (hcols.same _ fun w' hmem heq => ?_)
          rcases (mem_iff_others hpc _).mp hmem with hmem | hmem
          · exact (hfree _ hmem).2 (by rw [← heq]; exact congrArg some (by rw [hrid]))
          · cases hmem
      · have hne : w.column ≠ col := hcol w ((mem_swapped_iff _).mpr (Or.inr (by rw [hrid])))
        rw [get_apply_of_ne hne.symm]
        refine hcols.same col fun w' hmem => ?_
        rcases (mem_iff_others hpc _).mp hmem with hmem | hmem
        · exact hcol w' ((mem_swapped_iff _).mpr (Or.inl hmem))
        · cases hmem
    · rename_i hid
      refine ⟨r, hr, hk, hb, hcols.congr fun w' => writes_swapped hpc (fun h => by cases h) fun h => ?_⟩
      cases h
      exact hid (id_of_base hb)

theorem Inv.writeRow {id : UUID} {w : Write} (hi : Inv s) (hpc : s.pool[i]? = some (.writeRow id w)) :
    Inv ⟨updateColumn id w s.rows, s.cache, swapped s i none, s.failures⟩ := by
  have hapart := pairwise_others Apart.symm hi.apart hpc
  have hrows : ∀ r ∈ s.rows, (if decide (r.id = id) then w.apply r else r) ∈ updateColumn id w s.rows :=
    fun r hr => List.mem_map_of_mem hr
  refine hi.swap hpc (schema_updateWhere (id_apply w) (key_apply w) (sender_apply w) hi.schema)
    (fun _ h => by cases h) (fun pc' hmem => ?_) (fun _ h => by cases h) fun e he => ?_
  · have hset := hi.settled pc' ((mem_iff_others hpc pc').mpr (Or.inl hmem))
    refine ⟨fun e he => ?_, hset.gone⟩
    obtain ⟨hrow, hkey⟩ := hset.held e he
    have hne : e.2.id ≠ id := by
      rintro rfl
      have hheld := (hapart pc' hmem).left _ (decide_eq_true rfl)
      simp [holds, he] at hheld
    have hmem := hrows e.2 hrow
    rw [decide_eq_false hne] at hmem
    exact ⟨hmem, hkey⟩
  · obtain ⟨r, hr, hk, hb, hcols⟩ := hi.tracks e he
    have hmem := hrows r hr
    by_cases hid : r.id = id
    · rw [decide_eq_true hid] at hmem
      refine ⟨w.apply r, hmem, (key_apply w r).trans hk, hb.trans (base_apply w r).symm, fun w' hw' => ?_,
        fun col hcol => ?_⟩
      · rw [id_apply] at hw'
        rcases (mem_swapped_iff _).mp hw' with hw' | hw'
        · have hne : w'.column ≠ w.column := fun heq =>
            (hapart _ hw').columns (id, w.column) rfl (by rw [← heq, ← hid]; rfl)
          rw [hcols.written w' ((mem_iff_others hpc _).mpr (Or.inl hw'))]
          exact (get_apply_congr (get_apply_of_ne hne r)).symm
        · cases hw'
      · by_cases hne : col = w.column
        · rw [hne]
          exact hcols.written w ((mem_iff_others hpc _).mpr (Or.inr (by rw [hid])))
        · rw [get_apply_of_ne hne]
          refine hcols.same col fun w' hmem => ?_
          rcases (mem_iff_others hpc _).mp hmem with hmem | hmem
          · exact hcol w' (by rw [id_apply]; exact (mem_swapped_iff _).mpr (Or.inl hmem))
          · cases hmem
            exact Ne.symm hne
    · rw [decide_eq_false hid] at hmem
      refine ⟨r, hmem, hk, hb, hcols.congr fun w' => writes_swapped hpc (fun h => ?_) fun h => by cases h⟩
      cases h
      exact hid rfl

theorem Inv.writeFailed {id : UUID} {w : Write} (hi : Inv s) (hpc : s.pool[i]? = some (.writeRow id w))
    (hnone : ∀ e ∈ s.cache, e.2.id ≠ id) : Inv ⟨s.rows, s.cache, swapped s i none, s.failures⟩ := by
  refine hi.swap hpc hi.schema (fun _ h => by cases h)
    (fun pc' hmem => hi.settled pc' ((mem_iff_others hpc pc').mpr (Or.inl hmem))) (fun _ h => by cases h)
    fun e he => ?_
  obtain ⟨r, hr, hk, hb, hcols⟩ := hi.tracks e he
  refine ⟨r, hr, hk, hb, hcols.congr fun w' => writes_swapped hpc (fun h => ?_) fun h => by cases h⟩
  cases h
  exact hnone e he (id_of_base hb)

theorem Inv.removed (hi : Inv s) (hpc : s.pool[i]? = some pc) (hold : ∀ id w, pc ≠ .writeRow id w) {id : UUID}
    {cache : SlugCache} (hsub : ∀ e ∈ cache, e ∈ s.cache) (hgone : ∀ e ∈ cache, e.2.id ≠ id) {next : Pc}
    (hrow : ∀ id', changes id' next = true → id' = id) (hcopy : copyOf next = none) (hpend : pendingOf next = none)
    (hfree : ∀ y ∈ others s.pool i, holds id y = false) :
    Inv ⟨s.rows, cache, swapped s i (some next), s.failures⟩ := by
  refine hi.swap hpc hi.schema (fun pc' h => ?_) (fun pc' hmem => ?_) (fun pc' h => ?_) fun e he => ?_
  · cases h
    refine change_apart hrow hcopy hfree fun y hy x hx => ?_
    rw [hpend] at hx
    cases hx
  · have hset := hi.settled pc' ((mem_iff_others hpc pc').mpr (Or.inl hmem))
    exact ⟨hset.held, fun id' hid e he => hset.gone id' hid e (hsub e he)⟩
  · cases h
    refine ⟨fun e he => ?_, fun id' hid e he => ?_⟩
    · rw [hcopy] at he
      cases he
    · rw [hrow id' (changes_of_removes hid)]
      exact hgone e he
  · obtain ⟨r, hr, hk, hb, hcols⟩ := hi.tracks e (hsub e he)
    refine ⟨r, hr, hk, hb, hcols.congr fun w => writes_swapped hpc (hold _ _) fun h => ?_⟩
    cases h
    cases hpend

theorem Inv.uncopied (hi : Inv s) (hpc : s.pool[i]? = some pc) (hold : ∀ id w, pc ≠ .writeRow id w) {id : UUID}
    (hrow : changes id pc = true) (hremoved : removes id pc = true) {rows : List Conn} (hschema : Schema rows)
    (hkeep : ∀ r ∈ s.rows, r.id ≠ id → r ∈ rows) : Inv ⟨rows, s.cache, swapped s i none, s.failures⟩ := by
  refine hi.statement hpc hold hschema (fun r hr e he hb => hkeep r hr fun hid => ?_) (fun _ _ h => by cases h)
    (fun _ h => by cases h) fun _ h => by cases h
  have hid : e.2.id = id := (id_of_base hb).trans hid
  rcases List.mem_append.mp he with he | he
  · exact (hi.settled pc (List.mem_of_getElem? hpc)).gone id hremoved e he hid
  · obtain ⟨pc', hmem, hcopy⟩ := List.mem_filterMap.mp he
    have hheld := (pairwise_others Apart.symm hi.apart hpc pc' hmem).left id hrow
    simp [holds, hcopy, hid] at hheld

end Step

/-! ## Runs -/

theorem inv_run {s : St} {i : Nat} {env : StepEnv} {pc : Pc} {r : St × Option Pc} (hi : Inv s)
    (hpc : s.pool[i]? = some pc) (hg : Undisturbed s (.run i env)) (h : pc.run env s = some r) :
    Inv { r.1 with pool := swapped s i r.2 } := by
  simp only [Undisturbed, hpc] at hg
  cases pc with
  | createUnset c =>
    simp only [Pc.run] at h
    split at h
    · cases h
      exact hi.ended hpc fun _ _ h => by cases h
    · rename_i hfails
      cases h
      exact hi.createUnset hpc (hg.resolve_left hfails) _
  | createInsert c cleared =>
    simp only [Pc.run] at h
    split at h
    · rename_i hrows _
      cases h
      exact hi.createInsert hpc hrows hg
    · cases h
      exact hi.ended hpc fun _ _ h => by cases h
  | createPut c =>
    simp only [Pc.run] at h
    split at h
    · rename_i hslug
      cases h
      exact hi.put hpc (fun _ _ h => by cases h) (if_pos hslug)
    · cases h
      exact hi.ended hpc fun _ _ h => by cases h
  | getCache ws slug =>
    simp only [Pc.run] at h
    split at h
    · cases h
      exact hi.ended hpc fun _ _ h => by cases h
    · cases h
      refine hi.moved hpc (fun _ _ h => by cases h) fun pc' h => ?_
      cases h
      rfl
  | getSelect ws slug =>
    simp only [Pc.run] at h
    split at h
    · cases h
      exact hi.ended hpc fun _ _ h => by cases h
    split at h
    · cases h
      exact hi.ended hpc fun _ _ h => by cases h
    · rename_i r hfind
      cases h
      obtain ⟨hmem, hkey⟩ := (find?_key_iff hi.schema.slug).mp hfind
      exact hi.getSelect hpc hfind (hg r hmem hkey)
  | getPut ws slug conn =>
    cases h
    exact hi.put hpc (fun _ _ h => by cases h) rfl
  | writeCache id w =>
    cases h
    exact hi.writeCache hpc hg
  | writeRow id w =>
    cases h
    cases hfails : env.fails with
    | true => exact hi.writeFailed hpc (hg hfails)
    | false => exact hi.writeRow hpc
  | slugCache id newSlug =>
    obtain ⟨cache, hcache, rfl⟩ := Option.map_eq_some_iff.mp h
    exact hi.removed hpc (fun _ _ h => by cases h) (fun e he => mem_removeOne hcache he) (removeOne_gone hi hcache)
      (fun id' h => (of_decide_eq_true h).symm) rfl rfl hg
  | slugRow id newSlug =>
    simp only [Pc.run] at h
    split at h
    · rename_i rows hrows _
      cases h
      obtain ⟨rfl, hschema⟩ := updateSlugRow_spec hrows hi.schema
      refine hi.uncopied hpc (fun _ _ h => by cases h) (decide_eq_true rfl) (decide_eq_true rfl) hschema fun r hr hne => ?_
      exact List.mem_map.mpr ⟨r, hr, if_neg (by simpa using hne)⟩
    · cases h
      exact hi.ended hpc fun _ _ h => by cases h
  | deleteCache id =>
    cases h
    exact hi.removed hpc (fun _ _ h => by cases h) (fun e he => List.mem_of_mem_filter he)
      (fun e he => of_decide_eq_true (List.mem_filter.mp he).2) (fun id' h => (of_decide_eq_true h).symm) rfl rfl hg
  | deleteConn id =>
    cases h
    cases hfails : env.fails with
    | true => exact hi.ended hpc fun _ _ h => by cases h
    | false =>
      exact hi.uncopied hpc (fun _ _ h => by cases h) (decide_eq_true rfl) (decide_eq_true rfl)
        (schema_deleteRow hi.schema id) fun r hr hne => List.mem_filter.mpr ⟨hr, decide_eq_true hne⟩

theorem idle_start {call : Call} {pc : Pc} (h : call.start = some pc) : idle pc = true := by
  cases call <;> simp only [Call.start] at h <;> (try split at h) <;> (try split at h) <;> cases h <;> rfl

theorem inv_start {s s' : St} {call : Call} (hi : Inv s) (h : step s (.start call) = some s') : Inv s' := by
  obtain ⟨pc, hpc, rfl⟩ := Option.map_eq_some_iff.mp h
  have hidle := idle_start hpc
  have hwrite : ∀ id w, .writeRow id w ∈ s.pool ++ [pc] ↔ .writeRow id w ∈ s.pool := fun id w => by
    rw [List.mem_append, or_iff_left]
    intro hmem
    rw [← List.mem_singleton.mp hmem] at hidle
    cases hidle
  refine ⟨hi.schema, ?_, fun pc' hmem => ?_, fun e he => ?_⟩
  · refine List.pairwise_append.mpr ⟨hi.apart, List.pairwise_singleton _ _, fun a _ b hb => ?_⟩
    rw [List.mem_singleton.mp hb]
    exact (idle_apart hidle a).symm
  · rcases List.mem_append.mp hmem with hmem | hmem
    · exact hi.settled pc' hmem
    · rw [List.mem_singleton.mp hmem]
      exact idle_settled hidle _ _
  · obtain ⟨r, hr, hk, hb, hcols⟩ := hi.tracks e he
    exact ⟨r, hr, hk, hb, hcols.congr (hwrite r.id)⟩

theorem inv_inductive {rows : List Conn} (hs : Schema rows) : ((sys rows).restrict Undisturbed).Inductive Inv :=
  .of_restrict
    (by
      rintro s rfl
      exact ⟨hs, List.Pairwise.nil, fun _ h => (by cases h), fun _ h => (by cases h)⟩)
    (by
      intro s l s' hi hg hstep
      have hstep : step s l = some s' := hstep
      cases l with
      | start call => exact inv_start hi hstep
      | run i env =>
        simp only [step] at hstep
        split at hstep
        · cases hstep
        · rename_i pc hpc
          obtain ⟨r, hr, rfl⟩ := Option.map_eq_some_iff.mp hstep
          exact inv_run hi hpc hg hr)

theorem transparent_of_inv {s : St} (hi : Inv s) (hidle : s.pool = []) : Transparent s := by
  intro ws slug
  unfold getBySlug
  split
  · rename_i conn hlookup
    obtain ⟨before, after, hcache, -⟩ := List.lookup_eq_some_iff.mp hlookup
    have hmem : ((ws, slug), conn) ∈ s.cache := by simp [hcache]
    obtain ⟨r, hr, hk, hb, hcols⟩ := hi.tracks _ hmem
    -- nothing is pending
    have hcol : ∀ col, conn.get col = r.get col := fun col => hcols.same col fun w hw => by
      rw [hidle] at hw
      cases hw
    have heq : conn = r := eq_of_columns hb hcol
    rw [heq]
    exact ((find?_key_iff hi.schema.slug).mpr ⟨hr, hk⟩).symm
  · rfl

theorem slug_cache_transparent {rows : List Conn} (hs : Schema rows) {s : St}
    (hr : ((sys rows).restrict Undisturbed).Reachable s) (hidle : s.pool = []) : Transparent s :=
  transparent_of_inv ((inv_inductive hs).reachable hr) hidle

def shopLine (id : UUID) (slug : String) : Conn :=
  ⟨id, 1, slug, slug, "telegram", slug, "connected", false, some "token", none, none⟩

def quiet : StepEnv := ⟨false, 0⟩

/-- A call alone, with nothing failing. -/
def alone (call : Call) (steps : Nat) : List Lbl := .start call :: List.replicate steps (.run 0 quiet)

/-- Every operation once, a lookup before and after, a creation that another lookup overlaps, and a status
that fails to be written when nothing is cached. -/
def everyOperation : List Lbl :=
  [Lbl.start (.updateStatus 7 "terminal"), .run 0 quiet, .run 0 ⟨true, 0⟩] ++ alone (.getBySlug 1 "sales") 3 ++
    alone (.updateStatus 7 "terminal") 2 ++ alone (.updateStatus 7 "disconnected") 2 ++
    alone (.updateProxyURL 7 (some "socks5://p")) 2 ++ alone (.saveCredentials 7 "rotated") 2 ++
    alone (.updateSlug 7 "desk") 2 ++ alone (.getBySlug 1 "desk") 3 ++
    [Lbl.start (.create { shopLine 8 "" with name := "Front Desk", isDefault := true, senderIdentity := "front" }),
      .run 0 quiet, .start (.getBySlug 1 "front-desk"), .run 1 quiet, .run 0 quiet, .run 1 quiet, .run 0 quiet,
      .run 0 quiet] ++
    alone (.delete 7) 2

theorem every_operation_transparent : ∃ s, ((sys [shopLine 7 "sales"]).restrict Undisturbed).Reachable s ∧
    s.cache.map (·.1) = [(1, "front-desk")] ∧ s.rows.map (·.id) = [8] ∧ Transparent s := by
  have hschema : Schema [shopLine 7 "sales"] := ⟨by decide, by decide, by decide⟩
  have hrun : (LTS.exec step (init [shopLine 7 "sales"]) everyOperation).any (fun s =>
      s.pool = [] && s.cache.map (·.1) = [(1, "front-desk")] && s.rows.map (·.id) = [8]) = true := by decide +kernel
  have hguard : LTS.Guarded step Undisturbed (init [shopLine 7 "sales"]) everyOperation := by decide +kernel
  obtain ⟨s, hs, hend⟩ := (Option.any_eq_true _ _).mp hrun
  simp only [Bool.and_eq_true, decide_eq_true_eq] at hend
  have hreach := LTS.exec_restrict_reachable hs hguard
  exact ⟨s, hreach, hend.1.2, hend.2, slug_cache_transparent hschema hreach hend.1.1⟩

/-- The status is in the cache, the statement fails, and lookups answer the status that was never stored. -/
theorem failed_update_served : ∃ s, (sys [shopLine 7 "sales"]).Reachable s ∧ s.pool = [] ∧ ¬Transparent s := by
  have hrun : (LTS.exec step (init [shopLine 7 "sales"]) (alone (.getBySlug 1 "sales") 3 ++
      [Lbl.start (.updateStatus 7 "terminal"), .run 0 quiet, .run 0 ⟨true, 0⟩])).any (fun s =>
      s.pool = [] && getBySlug s 1 "sales" ≠ s.rows.find? fun r => r.key = (1, "sales")) = true := by decide +kernel
  obtain ⟨s, hs, hend⟩ := (Option.any_eq_true _ _).mp hrun
  simp only [Bool.and_eq_true, decide_eq_true_eq] at hend
  exact ⟨s, LTS.exec_reachable hs, hend.1, fun h => hend.2 (h 1 "sales")⟩

end PerGo.L4.SlugCache
