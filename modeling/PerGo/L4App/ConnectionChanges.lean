import PerGo.L3Channel.ConnectionRepository
import PerGo.L2Domain.Chat

/-!
# The default connection

`Create` of a default connection clears the flag of the others with one statement and
inserts with another. Between the two another `Create` may insert its own default, and when
the second fails the first stays done.

`Guarded lost` is the condition: no two creations of a default connection overlap on one
workspace and channel, and the channel of an insertion that fails (`lost`) had no default
when its creation began.

The runs are those of the whole repository, of which the runs of `Create` alone are some; no
other operation gives a connection the flag.

* `one_default`: in every run under the condition each workspace and channel has at most one
  default, and a `Create` that failed has left every flag;
* `default_replaced`: a default is created over an old one, and a creation fails;
* `default_lost`: a creation that fails over a default.
-/
namespace PerGo.L4.DefaultConnection

open PerGo.Core PerGo.L1 PerGo.L2 PerGo.L3.ConnectionRepository

def OneDefault (rows : List Conn) : Prop := ∀ ws channel, (defaults rows ws channel).length ≤ 1

/-- No `Create` that failed has cleared a flag. -/
def FlagsKept (s : St) : Prop := ∀ cleared ∈ s.failures, cleared = []

def inserting (ws : UUID) (channel : String) : Pc → Bool
  | .createInsert c _ => c.isDefault && c.workspaceID = ws && c.channel = channel
  | _ => false

/-- The schedule, and the insertions that fail. -/
def Guarded (lost : UUID → Bool) (s : St) : Lbl → Prop
  | .start _ => True
  | .run i env => match s.pool[i]? with
    | some (.createUnset c) => env.fails = true ∨
        (∀ pc ∈ others s.pool i, inserting c.workspaceID c.channel pc = false) ∧
          (lost c.id = true → defaults s.rows c.workspaceID c.channel = [])
    | some (.createInsert c _) =>
      c.isDefault = true → (env.fails = true ∨ insertConnection c s.rows = none) → lost c.id = true
    | _ => True

instance (lost : UUID → Bool) (s : St) (l : Lbl) : Decidable (Guarded lost s l) := by
  unfold Guarded
  split
  · infer_instance
  · split <;> infer_instance

/-! ## Statements -/

def NoMore (rows rows' : List Conn) : Prop :=
  ∀ ws channel, (defaults rows' ws channel).length ≤ (defaults rows ws channel).length

theorem NoMore.one {rows rows' : List Conn} (h : NoMore rows rows') (h1 : OneDefault rows) : OneDefault rows' :=
  fun ws channel => (h ws channel).trans (h1 ws channel)

theorem NoMore.refl (rows : List Conn) : NoMore rows rows := fun _ _ => Nat.le_refl _

theorem noMore_updateWhere {p : Conn → Bool} {f : Conn → Conn} (hws : ∀ r, (f r).workspaceID = r.workspaceID)
    (hchannel : ∀ r, (f r).channel = r.channel) (hflag : ∀ r, (f r).isDefault = true → r.isDefault = true)
    (rows : List Conn) : NoMore rows (updateWhere p f rows) := by
  intro ws channel
  unfold defaults updateWhere
  rw [← List.countP_eq_length_filter, ← List.countP_eq_length_filter, List.countP_map]
  apply List.countP_mono_left
  intro r _ hr
  simp only [Function.comp_apply] at hr
  split at hr
  · rw [hws, hchannel] at hr
    simp only [Bool.and_eq_true] at hr ⊢
    exact ⟨hr.1, hflag r hr.2⟩
  · exact hr

theorem noMore_unsetDefaults (ws : UUID) (channel : String) (rows : List Conn) :
    NoMore rows (unsetDefaults ws channel rows) := by
  unfold unsetDefaults
  refine noMore_updateWhere ?_ ?_ ?_ rows
  · exact fun _ => rfl
  · exact fun _ => rfl
  · exact fun _ h => by cases h

theorem apply_columns (w : Write) (c : Conn) :
    (w.apply c).workspaceID = c.workspaceID ∧ (w.apply c).channel = c.channel ∧ (w.apply c).isDefault = c.isDefault := by
  cases w with
  | status s =>
    unfold Write.apply
    simp only
    split <;> exact ⟨rfl, rfl, rfl⟩
  | proxyURL url => exact ⟨rfl, rfl, rfl⟩
  | credentials p => exact ⟨rfl, rfl, rfl⟩

theorem noMore_updateColumn (id : UUID) (w : Write) (rows : List Conn) : NoMore rows (updateColumn id w rows) :=
  noMore_updateWhere (fun r => (apply_columns w r).1) (fun r => (apply_columns w r).2.1)
    (fun r h => by rwa [(apply_columns w r).2.2] at h) rows

theorem noMore_updateSlugRow {id : UUID} {newSlug : String} {rows rows' : List Conn}
    (h : updateSlugRow id newSlug rows = some rows') : NoMore rows rows' := by
  unfold updateSlugRow at h
  simp only at h
  split at h
  · cases h
    refine noMore_updateWhere ?_ ?_ ?_ rows
    · exact fun _ => rfl
    · exact fun _ => rfl
    · exact fun _ h => h
  · cases h

theorem noMore_deleteRow (id : UUID) (rows : List Conn) : NoMore rows (deleteRow id rows) := by
  intro ws channel
  exact (List.filter_sublist.filter _).length_le

theorem NoMore.none {rows rows' : List Conn} (h : NoMore rows rows') {ws : UUID} {channel : String}
    (h0 : defaults rows ws channel = []) : defaults rows' ws channel = [] :=
  List.eq_nil_of_length_eq_zero (Nat.le_zero.mp ((h ws channel).trans (by rw [h0]; rfl)))

theorem defaults_unsetDefaults (ws : UUID) (channel : String) (rows : List Conn) :
    defaults (unsetDefaults ws channel rows) ws channel = [] := by
  unfold defaults unsetDefaults updateWhere
  rw [List.filter_eq_nil_iff]
  rintro r' hr'
  obtain ⟨r, -, rfl⟩ := List.mem_map.mp hr'
  split
  · simp
  · rename_i h
    simp only [Bool.and_eq_true, decide_eq_true_eq] at h ⊢
    exact fun hr => h hr.1

theorem defaults_insertConnection {c : Conn} {rows rows' : List Conn} (h : insertConnection c rows = some rows')
    {ws : UUID} {channel : String} (hother : c.isDefault = true → ¬(c.workspaceID = ws ∧ c.channel = channel)) :
    defaults rows' ws channel = defaults rows ws channel := by
  unfold insertConnection at h
  split at h
  · cases h
  cases h
  unfold defaults
  rw [List.filter_append, List.append_right_eq_self, List.filter_eq_nil_iff]
  rintro r hr
  rw [List.mem_singleton.mp hr]
  simp only [Bool.and_eq_true, decide_eq_true_eq]
  exact fun hc => hother hc.2 hc.1

theorem one_insertConnection {c : Conn} {rows rows' : List Conn} (h : insertConnection c rows = some rows')
    (h1 : OneDefault rows) (hfree : c.isDefault = true → defaults rows c.workspaceID c.channel = []) :
    OneDefault rows' := by
  unfold insertConnection at h
  split at h
  · cases h
  cases h
  intro ws channel
  unfold defaults
  rw [List.filter_append, List.length_append]
  have hold : (rows.filter fun r => r.workspaceID = ws && r.channel = channel && r.isDefault).length ≤ 1 := h1 ws channel
  by_cases hc : (c.workspaceID = ws && c.channel = channel && c.isDefault) = true
  · simp only [Bool.and_eq_true, decide_eq_true_eq] at hc
    obtain ⟨⟨rfl, rfl⟩, hflag⟩ := hc
    have hnone : rows.filter (fun r => r.workspaceID = c.workspaceID && r.channel = c.channel && r.isDefault) = [] :=
      hfree hflag
    rw [hnone]
    exact Nat.le_trans (Nat.add_le_add_left (List.length_filter_le _ _) _) (by simp)
  · rw [List.filter_singleton, Bool.eq_false_iff.mpr hc]
    simpa using hold

/-! ## Runs -/

def Apart (a b : Pc) : Prop := ∀ ws channel, inserting ws channel a = true → inserting ws channel b = false

theorem Apart.symm {a b : Pc} (h : Apart a b) : Apart b a := by
  intro ws channel hb
  cases ha : inserting ws channel a with
  | false => rfl
  | true => rw [h ws channel ha] at hb; cases hb

/-- What the `UPDATE` has left to the insertion. -/
def Ready (lost : UUID → Bool) (rows : List Conn) : Pc → Prop
  | .createUnset c => c.isDefault = true
  | .createInsert c cleared => (c.isDefault = true → defaults rows c.workspaceID c.channel = []) ∧
      ((c.isDefault = true → lost c.id = true) → cleared = [])
  | _ => True

structure Inv (lost : UUID → Bool) (s : St) : Prop where
  one : OneDefault s.rows
  kept : FlagsKept s
  apart : s.pool.Pairwise Apart
  ready : ∀ pc ∈ s.pool, Ready lost s.rows pc

theorem Ready.noMore {lost : UUID → Bool} {rows rows' : List Conn} (h : NoMore rows rows') {pc : Pc}
    (hr : Ready lost rows pc) : Ready lost rows' pc := by
  cases pc with
  | createInsert c cleared => exact ⟨fun hd => h.none (hr.1 hd), hr.2⟩
  | _ => trivial

theorem apart_of_idle {pc : Pc} (h : ∀ ws channel, inserting ws channel pc = false) (pc' : Pc) : Apart pc pc' := by
  intro ws channel hpc
  rw [h] at hpc
  cases hpc

section Step

variable {lost : UUID → Bool} {s : St} {i : Nat} {pc : Pc}

theorem Inv.idle (hi : Inv lost s) (hpc : s.pool[i]? = some pc) {rows : List Conn} {cache : SlugCache}
    {failures : List (List UUID)} {next : Option Pc} (hrows : NoMore s.rows rows)
    (hfail : ∀ cleared ∈ failures, cleared = []) (hnext : ∀ pc' ∈ next, ∀ ws channel, inserting ws channel pc' = false)
    (hready : ∀ pc' ∈ next, Ready lost rows pc') :
    Inv lost ⟨rows, cache, s.pool.take i ++ next.toList ++ s.pool.drop (i + 1), failures⟩ := by
  refine ⟨hrows.one hi.one, hfail, ?_, ?_⟩
  · exact pairwise_swapped Apart.symm (split_at hpc ▸ hi.apart) _ fun pc' h _ _ => apart_of_idle (hnext pc' h) _
  · refine forall_swapped (split_at hpc ▸ fun pc' h => (hi.ready pc' h).noMore hrows) fun pc' h => ?_
    exact hready pc' (Option.mem_toList.mp h)

theorem Inv.unset (hi : Inv lost s) {c : Conn} (hpc : s.pool[i]? = some (.createUnset c))
    (hfree : ∀ pc ∈ others s.pool i, inserting c.workspaceID c.channel pc = false)
    (hlost : lost c.id = true → defaults s.rows c.workspaceID c.channel = []) :
    Inv lost { s with
      rows := unsetDefaults c.workspaceID c.channel s.rows
      pool := s.pool.take i ++ [.createInsert c ((defaults s.rows c.workspaceID c.channel).map (·.id))] ++
        s.pool.drop (i + 1) } := by
  have hmore := noMore_unsetDefaults c.workspaceID c.channel s.rows
  refine ⟨hmore.one hi.one, hi.kept, ?_, ?_⟩
  · refine pairwise_swapped Apart.symm (split_at hpc ▸ hi.apart) (some _) fun pc' h pc hmem ws channel hins => ?_
    cases h
    simp only [inserting, Bool.and_eq_true, decide_eq_true_eq] at hins
    rw [← hins.1.2, ← hins.2]
    exact hfree pc hmem
  · refine forall_swapped (split_at hpc ▸ fun pc' h => (hi.ready pc' h).noMore hmore) fun pc' h => ?_
    cases List.mem_singleton.mp h
    refine ⟨fun _ => defaults_unsetDefaults _ _ _, fun h => ?_⟩
    rw [hlost (h (hi.ready _ (List.mem_of_getElem? hpc))), List.map_nil]

theorem Inv.insert (hi : Inv lost s) {c : Conn} {cleared : List UUID}
    (hpc : s.pool[i]? = some (.createInsert c cleared)) {rows : List Conn} (h : insertConnection c s.rows = some rows) :
    Inv lost { s with rows := rows, pool := s.pool.take i ++ [.createPut c] ++ s.pool.drop (i + 1) } := by
  have hready := hi.ready _ (List.mem_of_getElem? hpc)
  have hothers := pairwise_others Apart.symm hi.apart hpc
  refine ⟨one_insertConnection h hi.one hready.1, hi.kept, ?_, fun pc hmem => ?_⟩
  · exact pairwise_swapped Apart.symm (split_at hpc ▸ hi.apart) (some (.createPut c))
      fun pc' h _ _ => by cases h; exact apart_of_idle (fun _ _ => rfl) _
  · have hmem' : pc ∈ others s.pool i ∨ pc = .createPut c := by
      simp only [List.mem_append, List.mem_singleton] at hmem
      rcases hmem with (hmem | hmem) | hmem
      · exact Or.inl (List.mem_append_left _ hmem)
      · exact Or.inr hmem
      · exact Or.inl (List.mem_append_right _ hmem)
    rcases hmem' with hmem | rfl
    · have hold := hi.ready pc (by rw [split_at hpc]; exact (List.sublist_cons_self _ _).append_left _ |>.mem hmem)
      cases pc with
      | createInsert c' cleared' =>
        refine ⟨fun hd => ?_, hold.2⟩
        rw [defaults_insertConnection h fun hc hsame => ?_]
        · exact hold.1 hd
        · have hapart := hothers _ hmem c.workspaceID c.channel (by simp [inserting, hc])
          simp [inserting, hd, hsame] at hapart
      | createUnset c' => exact hold
      | _ => trivial
    · trivial

end Step

theorem inv_run {lost : UUID → Bool} {s : St} {i : Nat} {env : StepEnv} {pc : Pc} {r : St × Option Pc}
    (hi : Inv lost s) (hpc : s.pool[i]? = some pc) (hg : Guarded lost s (.run i env)) (h : pc.run env s = some r) :
    Inv lost { r.1 with pool := s.pool.take i ++ r.2.toList ++ s.pool.drop (i + 1) } := by
  have hclean : ∀ cleared ∈ ([] : List UUID) :: s.failures, cleared = [] := fun cleared hc =>
    (List.mem_cons.mp hc).elim (fun h => h) (hi.kept cleared)
  have hnext : ∀ {rows cache} {next : Option Pc}, NoMore s.rows rows →
      (∀ pc' ∈ next, (∀ ws channel, inserting ws channel pc' = false) ∧ Ready lost rows pc') →
      Inv lost ⟨rows, cache, s.pool.take i ++ next.toList ++ s.pool.drop (i + 1), s.failures⟩ :=
    fun hrows h => hi.idle hpc hrows hi.kept (fun pc' hmem => (h pc' hmem).1) fun pc' hmem => (h pc' hmem).2
  have hsame := NoMore.refl s.rows
  cases pc with
  | createUnset c =>
    simp only [Guarded, hpc] at hg
    simp only [Pc.run] at h
    split at h
    · cases h
      exact hi.idle hpc hsame hclean (fun _ h => by cases h) fun _ h => by cases h
    · rename_i hfails
      cases h
      obtain ⟨hfree, hlost⟩ := hg.resolve_left hfails
      exact hi.unset hpc hfree hlost
  | createInsert c cleared =>
    simp only [Guarded, hpc] at hg
    simp only [Pc.run] at h
    split at h
    · rename_i rows hrows hfails
      cases h
      exact hi.insert hpc hrows
    · rename_i hfailed
      cases h
      have hcond : env.fails = true ∨ insertConnection c s.rows = none := by
        cases hrows : insertConnection c s.rows with
        | none => exact .inr rfl
        | some rows => exact .inl (by simpa using hfailed rows hrows)
      rw [(hi.ready _ (List.mem_of_getElem? hpc)).2 fun hd => hg hd hcond]
      exact hi.idle hpc hsame hclean (fun _ h => by cases h) fun _ h => by cases h
  | createPut c =>
    cases h
    split <;> exact hnext hsame fun _ h => by cases h
  | getCache ws slug =>
    simp only [Pc.run] at h
    split at h <;> cases h <;> exact hnext hsame fun _ h => by cases h <;> exact ⟨fun _ _ => rfl, trivial⟩
  | getSelect ws slug =>
    simp only [Pc.run] at h
    split at h
    · cases h
      exact hnext hsame fun _ h => by cases h
    · split at h <;> cases h <;> exact hnext hsame fun _ h => by cases h <;> exact ⟨fun _ _ => rfl, trivial⟩
  | getPut ws slug conn =>
    cases h
    exact hnext hsame fun _ h => by cases h
  | writeCache id w =>
    cases h
    exact hnext hsame fun _ h => by cases h; exact ⟨fun _ _ => rfl, trivial⟩
  | writeRow id w =>
    cases h
    split
    · exact hnext hsame fun _ h => by cases h
    · exact hnext (noMore_updateColumn id w _) fun _ h => by cases h
  | slugCache id newSlug =>
    obtain ⟨cache, -, rfl⟩ := Option.map_eq_some_iff.mp h
    exact hnext hsame fun _ h => by cases h; exact ⟨fun _ _ => rfl, trivial⟩
  | slugRow id newSlug =>
    simp only [Pc.run] at h
    split at h
    · rename_i rows hrows _
      cases h
      exact hnext (noMore_updateSlugRow hrows) fun _ h => by cases h
    · cases h
      exact hnext hsame fun _ h => by cases h
  | deleteCache id =>
    cases h
    exact hnext hsame fun _ h => by cases h; exact ⟨fun _ _ => rfl, trivial⟩
  | deleteConn id =>
    cases h
    split
    · exact hnext hsame fun _ h => by cases h
    · exact hnext (noMore_deleteRow id _) fun _ h => by cases h

theorem start_idle {call : Call} {pc : Pc} (h : call.start = some pc) (lost : UUID → Bool) (rows : List Conn) :
    (∀ ws channel, inserting ws channel pc = false) ∧ Ready lost rows pc := by
  cases call with
  | create c =>
    have hd : (prepare c).isDefault = c.isDefault := by
      unfold prepare
      split <;> rfl
    simp only [Call.start] at h
    split at h
    · cases h
    split at h
    · rename_i hflag
      cases h
      exact ⟨fun _ _ => rfl, hd.trans hflag⟩
    · rename_i hflag
      cases h
      rw [← hd] at hflag
      exact ⟨fun _ _ => by simp [inserting, hflag], fun h => absurd h hflag, fun _ => rfl⟩
  | getBySlug ws slug =>
    simp only [Call.start] at h
    split at h <;> cases h
    exact ⟨fun _ _ => rfl, trivial⟩
  | saveCredentials id plaintext =>
    simp only [Call.start] at h
    split at h <;> cases h
    exact ⟨fun _ _ => rfl, trivial⟩
  | _ =>
    cases h
    exact ⟨fun _ _ => rfl, trivial⟩

theorem inv_inductive (lost : UUID → Bool) {rows : List Conn} (h1 : OneDefault rows) :
    ((sys rows).restrict (Guarded lost)).Inductive (Inv lost) :=
  .of_restrict
    (by
      rintro s rfl
      exact ⟨h1, fun _ hc => absurd hc List.not_mem_nil, .nil, fun _ hpc => absurd hpc List.not_mem_nil⟩)
    (by
      intro s l s' hi hg hstep
      have hstep : step s l = some s' := hstep
      cases l with
      | start call =>
        obtain ⟨pc, hpc, rfl⟩ := Option.map_eq_some_iff.mp hstep
        obtain ⟨hidle, hready⟩ := start_idle hpc lost s.rows
        refine ⟨hi.one, hi.kept, List.pairwise_append.mpr ⟨hi.apart, List.pairwise_singleton _ _, ?_⟩, fun pc' h => ?_⟩
        · intro pc' _ pc'' h
          rw [List.mem_singleton.mp h]
          exact (apart_of_idle hidle pc').symm
        · rcases List.mem_append.mp h with h | h
          · exact hi.ready pc' h
          · rw [List.mem_singleton.mp h]
            exact hready
      | run i env =>
        simp only [step] at hstep
        split at hstep
        · cases hstep
        · rename_i pc hpc
          obtain ⟨r, hr, rfl⟩ := Option.map_eq_some_iff.mp hstep
          exact inv_run hi hpc hg hr)

/-- **One default connection, and no flag lost**, in every run in which the creations of default connections of one
channel do not overlap, and those that fail (`lost`) begin where no connection has the flag. -/
theorem one_default (lost : UUID → Bool) {rows : List Conn} (h1 : OneDefault rows) {s : St}
    (hr : ((sys rows).restrict (Guarded lost)).Reachable s) : OneDefault s.rows ∧ FlagsKept s :=
  have hi := (inv_inductive lost h1).reachable hr
  ⟨hi.one, hi.kept⟩


/-- A connection of workspace 1. -/
def shopLine (id : UUID) (slug : String) : Conn :=
  ⟨id, 1, slug, slug, "telegram", slug, "connected", true, some "token", none, none⟩

def quiet : StepEnv := ⟨false, 0⟩

/-- A default over another; one on WhatsApp, where there is none, fails on the slug. -/
def twoCreations : List Lbl :=
  [.start (.create (shopLine 8 "desk")), .run 0 quiet, .run 0 quiet, .run 0 quiet,
    .start (.create { shopLine 9 "desk" with channel := "whatsapp" }), .run 0 quiet, .run 0 quiet]

theorem default_replaced : ∃ s, ((sys [shopLine 7 "sales"]).restrict (Guarded fun id => id = 9)).Reachable s ∧
    s.rows.map (fun r => (r.id, r.isDefault)) = [(7, false), (8, true)] ∧ s.failures.length = 1 ∧
    OneDefault s.rows ∧ FlagsKept s := by
  have h1 : OneDefault [shopLine 7 "sales"] := fun ws channel => List.length_filter_le _ _
  have hrun : (LTS.exec step (init [shopLine 7 "sales"]) twoCreations).any (fun s =>
      s.rows.map (fun r => (r.id, r.isDefault)) = [(7, false), (8, true)] ∧ s.failures.length = 1) = true := by
    decide +kernel
  have hguard : LTS.Guarded step (Guarded fun id => id = 9) (init [shopLine 7 "sales"]) twoCreations := by
    decide +kernel
  obtain ⟨s, hs, hend⟩ := (Option.any_eq_true _ _).mp hrun
  have hreach := LTS.exec_restrict_reachable hs hguard
  have hend := of_decide_eq_true hend
  exact ⟨s, hreach, hend.1, hend.2, one_default (fun id => id = 9) h1 hreach⟩

/-- The creation fails on the slug, after the default of the channel has lost its flag. -/
theorem default_lost : ∃ s, (sys [shopLine 7 "sales"]).Reachable s ∧ defaults s.rows 1 "telegram" = [] ∧
    ¬FlagsKept s := by
  have hrun : (LTS.exec step (init [shopLine 7 "sales"]) [.start (.create { shopLine 8 "sales" with senderIdentity := "desk" }),
      .run 0 quiet, .run 0 quiet]).any (fun s => defaults s.rows 1 "telegram" = [] && s.failures = [[7]]) = true := by
    decide +kernel
  obtain ⟨s, hs, hend⟩ := (Option.any_eq_true _ _).mp hrun
  simp only [Bool.and_eq_true, decide_eq_true_eq] at hend
  refine ⟨s, LTS.exec_reachable hs, hend.1, fun h => ?_⟩
  exact absurd (h [7] (by rw [hend.2]; exact List.mem_singleton_self _)) (by decide)

end PerGo.L4.DefaultConnection

/-!
## Removal of connections

`ConnectionRepository.Delete` over every table with a reference to `connections(id)`. The
references of `chats` and `campaigns` are `ON DELETE SET NULL`, the others `ON DELETE
CASCADE`. A chat is unique in workspace, connection and contact, and no connection is a
value like any other (`NULLS NOT DISTINCT`): the referential action fails when a contact
whose chat loses the connection has such a chat already, and the statement with it. The
cache is purged before the statement.

`Removed` is about one call, `Removable` about the state before it.

* `removed_iff`: in a sequence of deletions every call removes its connection, or fails
  and changes nothing, iff every call meets the condition;
* `removal_keeps_chats`: two deletions;
* `second_removal_blocked`: a contact had chats on two connections, and the second cannot be
  deleted any more.
-/
namespace PerGo.L4.ConnectionRemoval

open PerGo.Core PerGo.L1 PerGo.L2
open PerGo.L3.ConnectionRepository (Conn SlugCache deleteRow)

/-! ## The tables and the call -/

inductive OwnedTable
  | wabaTemplates
  | chatwootMappings
  | typebotSessions

structure ConnDB where
  connections : List Conn
  chats : List ChatState
  messages : List ChatMessage
  owned : List (OwnedTable × UUID)
  /-- campaign and connection -/
  campaigns : List (UUID × Option UUID)

structure Store where
  db : ConnDB
  cache : SlugCache

/-- mirrors migrations/053_create_chats_and_messages.sql:18 -/
def chatKey (c : ChatState) : UUID × Option UUID × UUID := (c.workspaceID, c.connectionID, c.contactID)

/-- The constraints of the tables. -/
structure Schema (db : ConnDB) : Prop where
  connections : (db.connections.map (·.id)).Nodup
  chats : (db.chats.map chatKey).Nodup
  chatConnections : ∀ c ∈ db.chats, ∀ id, c.connectionID = some id → ∃ r ∈ db.connections, r.id = id

def clearConnection (id : UUID) (c : ChatState) : ChatState :=
  if c.connectionID = some id then { c with connectionID := none } else c

/-- `DELETE FROM connections WHERE id = …` and its referential actions; `none` when a constraint is violated. -/
def deleteStatement (id : UUID) (db : ConnDB) : Option ConnDB :=
  let chats := db.chats.map (clearConnection id)
  if (chats.map chatKey).Nodup then
    some {
      connections := deleteRow id db.connections, chats := chats, messages := db.messages,
      owned := db.owned.filter fun o => o.2 ≠ id,
      campaigns := db.campaigns.map fun c => if c.2 = some id then (c.1, none) else c }
  else none

/-- A call; `fails`: the database fails for another reason. -/
structure Deletion where
  id : UUID
  fails : Bool

/-- Whether the call succeeds, and the state after it. mirrors repository/connection.go:333-345 -/
def Deletion.run (d : Deletion) (s : Store) : Bool × Store :=
  let purged := { s with cache := s.cache.remove d.id }
  match deleteStatement d.id s.db, d.fails with
  | some db, false => (true, { purged with db := db })
  | _, _ => (false, purged)

/-- The state after a call. -/
def after (s : Store) (d : Deletion) : Store := (d.run s).2

/-! ## What a call does -/

structure Removed (s : Store) (d : Deletion) : Prop where
  succeeds : d.fails = false → (d.run s).1 = true
  chats : (d.run s).1 = true → (d.run s).2.db.chats = s.db.chats.map (clearConnection d.id)
  messages : (d.run s).1 = true → (d.run s).2.db.messages = s.db.messages
  gone : (d.run s).1 = true → ∀ r ∈ (d.run s).2.db.connections, r.id ≠ d.id
  unchanged : (d.run s).1 = false → (d.run s).2 = s

/-- No contact with a chat on the connection has a chat without one in the workspace; and when the
database fails, no entry of the connection is in the cache. -/
def Removable (s : Store) (d : Deletion) : Prop :=
  if d.fails then ∀ e ∈ s.cache, e.2.id ≠ d.id
  else ∀ c ∈ s.db.chats, c.connectionID = some d.id → ∀ c' ∈ s.db.chats, c'.connectionID = none →
    c'.workspaceID = c.workspaceID → c'.contactID ≠ c.contactID

instance (s : Store) (d : Deletion) : Decidable (Removable s d) := by
  unfold Removable
  split <;> infer_instance

/-! ## The referential action -/

theorem chatKey_clear (id : UUID) (c : ChatState) : chatKey (clearConnection id c) =
    (c.workspaceID, if c.connectionID = some id then none else c.connectionID, c.contactID) := by
  unfold clearConnection chatKey
  split <;> rfl

theorem nodup_cleared_iff {chats : List ChatState} (hn : (chats.map chatKey).Nodup) (id : UUID) :
    ((chats.map (clearConnection id)).map chatKey).Nodup ↔ ∀ c ∈ chats, c.connectionID = some id →
      ∀ c' ∈ chats, c'.connectionID = none → c'.workspaceID = c.workspaceID → c'.contactID ≠ c.contactID := by
  rw [List.map_map]
  constructor
  · intro hcleared c hc hon c' hc' hnone hws hcontact
    have hkeys : chatKey (clearConnection id c') = chatKey (clearConnection id c) := by
      rw [chatKey_clear, chatKey_clear, hon, hnone, hws, hcontact]
      simp
    have heq : c' = c := List.inj_on_of_nodup_map hcleared hc' hc hkeys
    rw [heq, hon] at hnone
    cases hnone
  · intro hfree
    refine (List.nodup_map_iff_inj_on (List.Nodup.of_map _ hn)).mpr fun c hc c' hc' hkeys => ?_
    simp only [Function.comp_apply, chatKey_clear, Prod.mk.injEq] at hkeys
    obtain ⟨hws, hconn, hcontact⟩ := hkeys
    refine List.inj_on_of_nodup_map hn hc hc' ?_
    have hsame : c.connectionID = c'.connectionID := by
      by_cases hon : c.connectionID = some id <;> by_cases hon' : c'.connectionID = some id
      · rw [hon, hon']
      · rw [if_pos hon, if_neg hon'] at hconn
        exact absurd hcontact.symm (hfree c hc hon c' hc' hconn.symm hws.symm)
      · rw [if_neg hon, if_pos hon'] at hconn
        exact absurd hcontact (hfree c' hc' hon' c hc hconn hws)
      · rwa [if_neg hon, if_neg hon'] at hconn
    simp only [chatKey, hws, hsame, hcontact]

theorem deleteStatement_spec {id : UUID} {db db' : ConnDB} (h : deleteStatement id db = some db') :
    db'.connections = deleteRow id db.connections ∧ db'.chats = db.chats.map (clearConnection id) ∧
      db'.messages = db.messages ∧ (db'.chats.map chatKey).Nodup := by
  unfold deleteStatement at h
  simp only at h
  split at h
  · cases h
    exact ⟨rfl, rfl, rfl, ‹_›⟩
  · cases h

theorem deleteStatement_schema {id : UUID} {db db' : ConnDB} (hs : Schema db) (h : deleteStatement id db = some db') :
    Schema db' := by
  obtain ⟨hconns, hchats, -, hkeys⟩ := deleteStatement_spec h
  refine ⟨?_, hkeys, ?_⟩
  · rw [hconns]
    exact hs.connections.sublist (List.filter_sublist.map _)
  · rw [hconns, hchats]
    intro c' hc' conn hconn
    obtain ⟨c, hc, rfl⟩ := List.mem_map.mp hc'
    unfold clearConnection at hconn
    split at hconn
    · cases hconn
    · rename_i hne
      obtain ⟨r, hr, hid⟩ := hs.chatConnections c hc conn hconn
      refine ⟨r, List.mem_filter.mpr ⟨hr, ?_⟩, hid⟩
      rw [decide_eq_true_eq, hid]
      rintro rfl
      exact hne hconn

/-! ## A call -/

theorem run_schema {s : Store} (hs : Schema s.db) (d : Deletion) : Schema (d.run s).2.db := by
  unfold Deletion.run
  simp only
  split
  · rename_i db hdb _
    exact deleteStatement_schema hs hdb
  · exact hs

theorem remove_eq_self_iff {cache : SlugCache} {id : UUID} : cache.remove id = cache ↔ ∀ e ∈ cache, e.2.id ≠ id := by
  unfold SlugCache.remove
  rw [List.filter_eq_self]
  simp only [decide_eq_true_eq]

theorem removed_call_iff {s : Store} (hs : Schema s.db) (d : Deletion) : Removed s d ↔ Removable s d := by
  have hkeys := nodup_cleared_iff hs.chats d.id
  unfold Removable
  cases hfails : d.fails with
  | true =>
    have hrun : d.run s = (false, { s with cache := s.cache.remove d.id }) := by simp [Deletion.run, hfails]
    rw [if_pos rfl, ← remove_eq_self_iff]
    constructor
    · intro h
      have := h.unchanged (by rw [hrun])
      rw [hrun] at this
      exact congrArg Store.cache this
    · intro hcache
      refine ⟨fun h => ?_, fun h => ?_, fun h => ?_, fun h => ?_, fun _ => ?_⟩
      · rw [hfails] at h
        cases h
      · rw [hrun] at h
        cases h
      · rw [hrun] at h
        cases h
      · rw [hrun] at h
        cases h
      · rw [hrun, hcache]
  | false =>
    rw [if_neg (by simp), ← hkeys]
    constructor
    · intro h
      have hok := h.succeeds hfails
      unfold Deletion.run at hok
      simp only at hok
      split at hok
      · rename_i db hdb _
        obtain ⟨-, hchats, -, hnodup⟩ := deleteStatement_spec hdb
        rwa [hchats] at hnodup
      · cases hok
    · intro hnodup
      obtain ⟨db, hdb⟩ : ∃ db, deleteStatement d.id s.db = some db := ⟨_, if_pos hnodup⟩
      have hrun : d.run s = (true, ⟨db, s.cache.remove d.id⟩) := by simp [Deletion.run, hfails, hdb]
      obtain ⟨hconns, hchats, hmessages, -⟩ := deleteStatement_spec hdb
      refine ⟨fun _ => ?_, fun _ => ?_, fun _ => ?_, fun _ r hr => ?_, fun h => ?_⟩
      · rw [hrun]
      · rw [hrun, ← hchats]
      · rw [hrun, ← hmessages]
      · rw [hrun] at hr
        rw [hconns] at hr
        simpa using List.of_mem_filter hr
      · rw [hrun] at h
        cases h

/-! ## Sequences -/

theorem removed_iff {s : Store} (hs : Schema s.db) (ds : List Deletion) :
    EveryCall after Removed s ds ↔ EveryCall after Removable s ds :=
  everyCall_congr (I := fun s => Schema s.db) (fun _ d hs => run_schema hs d) (fun _ d hs => removed_call_iff hs d) hs ds

def shopLine (id : UUID) (slug : String) : Conn :=
  ⟨id, 1, slug, slug, "telegram", slug, "connected", false, none, none, none⟩

def shopChat (id : UUID) (connectionID : Option UUID) (contactID : UUID) : ChatState :=
  ⟨id, 1, connectionID, contactID, "telegram", .open_, none, ⟨.active, none⟩, none, .standard, 0, 0, none, none⟩

/-- Two connections; `chats` are on them. -/
def shop (chats : List ChatState) : Store :=
  ⟨⟨[shopLine 5 "sales", shopLine 6 "desk"], chats, [], [], []⟩, [((1, "sales"), shopLine 5 "sales")]⟩

theorem removal_keeps_chats :
    EveryCall after Removed (shop [shopChat 20 (some 5) 10, shopChat 21 (some 6) 11]) [⟨6, true⟩, ⟨5, false⟩, ⟨6, false⟩] :=
  (removed_iff ⟨by decide, by decide, by decide⟩ _).mpr (by decide +kernel)

theorem second_removal_blocked : ∃ s, Schema s.db ∧ ¬EveryCall after Removed s [⟨5, false⟩, ⟨6, false⟩] := by
  refine ⟨shop [shopChat 20 (some 5) 10, shopChat 21 (some 6) 10], ⟨by decide, by decide, by decide⟩, ?_⟩
  rintro ⟨-, hsecond, -⟩
  exact absurd (hsecond.succeeds rfl) (by decide +kernel)

end PerGo.L4.ConnectionRemoval
