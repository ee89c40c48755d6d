import PerGo.Core.LTS
import PerGo.Core.Pool
import PerGo.Core.Table
import PerGo.L2Domain.Message

/-!
# Connection repository

`repository/connection.go` over the table `connections` and the slug cache of one
repository. A call is a thread that takes one SQL statement or one section under the lock of
the cache at a time.

* The credentials are the plaintext: `Decrypt` undoes `Encrypt`. Timestamps, `key_id` and
  `key_version` are left out.
* The key of the cache is `workspace_id:slug`. The text of a workspace has one length, so a
  key is the pair.
* `Create` gives a connection without an id a new one: `c.id` is the one it has then.
* `range` over the cache takes the entries in any order; `UpdateSlug` stops at the first.
-/
namespace PerGo.L3.ConnectionRepository

open PerGo.Core PerGo.L1 PerGo.L2

/-- mirrors connection.go:22-39 -/
structure Conn where
  id : UUID
  workspaceID : UUID
  name : String
  slug : String
  channel : String
  senderIdentity : String
  status : String
  isDefault : Bool
  credentials : Option String
  jid : Option String
  proxyURL : Option String
deriving DecidableEq

abbrev Key := UUID × String

def Conn.key (c : Conn) : Key := (c.workspaceID, c.slug)

/-! ## Statements -/

/-- The constraints of the table. mirrors migrations/012_consolidate_connections.sql:3-28
and 030_connection_slugs.sql:42 -/
structure Schema (rows : List Conn) : Prop where
  id : (rows.map (·.id)).Nodup
  slug : (rows.map Conn.key).Nodup
  senderIdentity : (rows.map (·.senderIdentity)).Nodup

/-- mirrors connection.go:98-101 -/
def unsetDefaults (ws : UUID) (channel : String) (rows : List Conn) : List Conn :=
  updateWhere (fun r => r.workspaceID = ws && r.channel = channel) (fun r => { r with isDefault := false }) rows

/-- `none` when a constraint is violated. mirrors connection.go:107-115 -/
def insertConnection (c : Conn) (rows : List Conn) : Option (List Conn) :=
  if rows.any fun r => r.id = c.id || r.key = c.key || r.senderIdentity = c.senderIdentity then none
  else some (rows ++ [c])

/-- A column that is written in the cache first and then in the table. -/
inductive Column
  | status
  | proxyURL
  | credentials
deriving DecidableEq

/-- What `UpdateStatus`, `UpdateProxyURL` and `SaveCredentials` write. -/
inductive Write
  | status (status : String)
  | proxyURL (url : Option String)
  | credentials (plaintext : String)

def Write.column : Write → Column
  | .status _ => .status
  | .proxyURL _ => .proxyURL
  | .credentials _ => .credentials

def Conn.get (c : Conn) : Column → Option String
  | .status => some c.status
  | .proxyURL => c.proxyURL
  | .credentials => c.credentials

/-- A disconnect goes not over a final status.
mirrors connection.go:279-283, 293-300, 316-318, 375-377 -/
def Write.apply : Write → Conn → Conn
  | .status s, c =>
    if s = "disconnected" ∧ (c.status = "terminal" ∨ c.status = "disconnected_banned") then c else { c with status := s }
  | .proxyURL url, c => { c with proxyURL := url }
  | .credentials plaintext, c => { c with credentials := some plaintext }

/-- mirrors connection.go:293-312, 322-327, 382-388 -/
def updateColumn (id : UUID) (w : Write) (rows : List Conn) : List Conn :=
  updateWhere (fun r => r.id = id) w.apply rows

/-- `none` when the slug is taken. mirrors connection.go:361-365 -/
def updateSlugRow (id : UUID) (newSlug : String) (rows : List Conn) : Option (List Conn) :=
  let updated := updateWhere (fun r => r.id = id) (fun r => { r with slug := newSlug }) rows
  if (updated.map Conn.key).Nodup then some updated else none

/-- mirrors connection.go:343 -/
def deleteRow (id : UUID) (rows : List Conn) : List Conn := rows.filter fun r => r.id ≠ id

/-! ### What the statements keep -/

theorem schema_updateWhere {p : Conn → Bool} {f : Conn → Conn} (hid : ∀ c, (f c).id = c.id)
    (hkey : ∀ c, (f c).key = c.key) (hsender : ∀ c, (f c).senderIdentity = c.senderIdentity) {rows : List Conn}
    (h : Schema rows) : Schema (updateWhere p f rows) := by
  refine ⟨?_, ?_, ?_⟩
  · rw [map_updateWhere hid]
    exact h.id
  · rw [map_updateWhere hkey]
    exact h.slug
  · rw [map_updateWhere hsender]
    exact h.senderIdentity

theorem schema_unsetDefaults {rows : List Conn} (h : Schema rows) (ws : UUID) (channel : String) :
    Schema (unsetDefaults ws channel rows) := by
  unfold unsetDefaults
  refine schema_updateWhere ?_ ?_ ?_ h <;> exact fun _ => rfl

theorem insertConnection_spec {c : Conn} {rows rows' : List Conn} (h : insertConnection c rows = some rows')
    (hs : Schema rows) : rows' = rows ++ [c] ∧ Schema rows' := by
  unfold insertConnection at h
  split at h
  · cases h
  rename_i hfree
  cases h
  have hne : ∀ r ∈ rows, r.id ≠ c.id ∧ r.key ≠ c.key ∧ r.senderIdentity ≠ c.senderIdentity := by
    simpa [not_or, and_assoc] using hfree
  exact ⟨rfl, nodup_concat hs.id fun r hr => (hne r hr).1, nodup_concat hs.slug fun r hr => (hne r hr).2.1,
    nodup_concat hs.senderIdentity fun r hr => (hne r hr).2.2⟩

theorem updateSlugRow_spec {id : UUID} {newSlug : String} {rows rows' : List Conn}
    (h : updateSlugRow id newSlug rows = some rows') (hs : Schema rows) :
    rows' = updateWhere (fun r => r.id = id) (fun r => { r with slug := newSlug }) rows ∧ Schema rows' := by
  unfold updateSlugRow at h
  simp only at h
  split at h
  · rename_i hkeys
    cases h
    have hid : ∀ r : Conn, ({ r with slug := newSlug } : Conn).id = r.id := fun _ => rfl
    have hsender : ∀ r : Conn, ({ r with slug := newSlug } : Conn).senderIdentity = r.senderIdentity := fun _ => rfl
    refine ⟨rfl, ?_, hkeys, ?_⟩
    · rw [map_updateWhere hid]
      exact hs.id
    · rw [map_updateWhere hsender]
      exact hs.senderIdentity
  · cases h

theorem schema_deleteRow {rows : List Conn} (h : Schema rows) (id : UUID) : Schema (deleteRow id rows) := by
  have hsub : (deleteRow id rows).Sublist rows := List.filter_sublist
  exact ⟨h.id.sublist (hsub.map _), h.slug.sublist (hsub.map _), h.senderIdentity.sublist (hsub.map _)⟩

/-! ## The cache -/

abbrev SlugCache := List (Key × Conn)

/-- mirrors connection.go:121-123, 167-169 -/
def SlugCache.put (cache : SlugCache) (key : Key) (c : Conn) : SlugCache := (key, c) :: cache.filter fun e => e.1 ≠ key

def SlugCache.updateColumn (cache : SlugCache) (id : UUID) (w : Write) : SlugCache :=
  cache.map fun e => if e.2.id = id then (e.1, w.apply e.2) else e

/-- mirrors connection.go:335-341 -/
def SlugCache.remove (cache : SlugCache) (id : UUID) : SlugCache := cache.filter fun e => e.2.id ≠ id

/-- The entry that `range` meets first is `pick`; `none` when there is no such one.
mirrors connection.go:349-359 -/
def SlugCache.removeOne (cache : SlugCache) (id : UUID) (pick : Nat) : Option SlugCache :=
  let entries := cache.filter fun e => e.2.id = id
  if entries = [] then some cache
  else (entries[pick]?).map fun e => cache.filter fun e' => e'.1 ≠ e.1

/-! ## Calls -/

/-- mirrors slug/slug.go:16-24 -/
def generate (name : String) : String :=
  let hyphened := (toLower name).toList.map fun c => if c = ' ' ∨ c = '_' then '-' else c
  let kept := hyphened.filter fun c => ('a' ≤ c ∧ c ≤ 'z') ∨ ('0' ≤ c ∧ c ≤ '9') ∨ c = '-'
  let single := kept.destutter fun a b => ¬(a = '-' ∧ b = '-')
  String.ofList ((single.dropWhile (· = '-')).reverse.dropWhile (· = '-')).reverse

/-- The connection to be inserted. mirrors connection.go:74-76 -/
def prepare (c : Conn) : Conn := if c.slug = "" then { c with slug := generate c.name } else c

/-- Where a call is: the statement or the section it takes next. `cleared` are the connections whose
default flag the call has cleared. -/
inductive Pc
  | createUnset (c : Conn)
  | createInsert (c : Conn) (cleared : List UUID)
  | createPut (c : Conn)
  | getCache (ws : UUID) (slug : String)
  | getSelect (ws : UUID) (slug : String)
  | getPut (ws : UUID) (slug : String) (conn : Conn)
  | writeCache (id : UUID) (w : Write)
  | writeRow (id : UUID) (w : Write)
  | slugCache (id : UUID) (newSlug : String)
  | slugRow (id : UUID) (newSlug : String)
  | deleteCache (id : UUID)
  | deleteConn (id : UUID)

inductive Call
  | create (c : Conn)
  | getBySlug (ws : UUID) (slug : String)
  | updateStatus (id : UUID) (status : String)
  | updateProxyURL (id : UUID) (url : Option String)
  | updateSlug (id : UUID) (newSlug : String)
  | saveCredentials (id : UUID) (plaintext : String)
  | delete (id : UUID)

/-- `none`: the call is refused before it does anything.
mirrors connection.go:67-96, 148-151, 270-348, 369-379 -/
def Call.start : Call → Option Pc
  | .create c =>
    if c.workspaceID = UUID.Nil then none
    else if c.isDefault then some (.createUnset (prepare c))
    else some (.createInsert (prepare c) [])
  | .getBySlug ws slug => if ws = UUID.Nil then none else some (.getCache ws slug)
  | .updateStatus id status => some (.writeCache id (.status status))
  | .updateProxyURL id url => some (.writeCache id (.proxyURL url))
  | .updateSlug id newSlug => some (.slugCache id newSlug)
  | .saveCredentials id plaintext => if plaintext = "" then none else some (.writeCache id (.credentials plaintext))
  | .delete id => some (.deleteCache id)

structure St where
  rows : List Conn
  cache : SlugCache
  pool : List Pc
  /-- for each `Create` that returned an error, the connections whose default flag it had cleared -/
  failures : List (List UUID)

/-- What a step meets: the statement fails, and the entry that `range` meets first. -/
structure StepEnv where
  fails : Bool
  pick : Nat

/-- mirrors connection.go:201-214 -/
def defaults (rows : List Conn) (ws : UUID) (channel : String) : List Conn :=
  rows.filter fun r => r.workspaceID = ws && r.channel = channel && r.isDefault

/-- One step of a call: the state after it, and where the call is then; `none` inside: it has returned. -/
def Pc.run (env : StepEnv) (s : St) : Pc → Option (St × Option Pc)
  | .createUnset c =>
    if env.fails then some ({ s with failures := [] :: s.failures }, none)
    else
      let cleared := (defaults s.rows c.workspaceID c.channel).map (·.id)
      some ({ s with rows := unsetDefaults c.workspaceID c.channel s.rows }, some (.createInsert c cleared))
  | .createInsert c cleared =>
    match insertConnection c s.rows, env.fails with
    | some rows, false => some ({ s with rows := rows }, some (.createPut c))
    | _, _ => some ({ s with failures := cleared :: s.failures }, none)
  | .createPut c => some (if c.slug ≠ "" then { s with cache := s.cache.put c.key c } else s, none)
  | .getCache ws slug => match s.cache.lookup (ws, slug) with
    | some _ => some (s, none)
    | none => some (s, some (.getSelect ws slug))
  | .getSelect ws slug =>
    if env.fails then some (s, none)
    else match s.rows.find? fun r => r.key = (ws, slug) with
      | none => some (s, none)
      | some r => some (s, some (.getPut ws slug r))
  | .getPut ws slug conn => some ({ s with cache := s.cache.put (ws, slug) conn }, none)
  | .writeCache id w => some ({ s with cache := s.cache.updateColumn id w }, some (.writeRow id w))
  | .writeRow id w => some (if env.fails then s else { s with rows := updateColumn id w s.rows }, none)
  | .slugCache id newSlug =>
    (s.cache.removeOne id env.pick).map fun cache => ({ s with cache := cache }, some (.slugRow id newSlug))
  | .slugRow id newSlug => match updateSlugRow id newSlug s.rows, env.fails with
    | some rows, false => some ({ s with rows := rows }, none)
    | _, _ => some (s, none)
  | .deleteCache id => some ({ s with cache := s.cache.remove id }, some (.deleteConn id))
  | .deleteConn id => some (if env.fails then s else { s with rows := deleteRow id s.rows }, none)

inductive Lbl
  | start (call : Call)
  | run (i : Nat) (env : StepEnv)

def step (s : St) : Lbl → Option St
  | .start call => call.start.map fun pc => { s with pool := s.pool ++ [pc] }
  | .run i env => match s.pool[i]? with
    | none => none
    | some pc => (pc.run env s).map fun r => { r.1 with pool := s.pool.take i ++ r.2.toList ++ s.pool.drop (i + 1) }

def init (rows : List Conn) : St := ⟨rows, [], [], []⟩

def sys (rows : List Conn) : LTS St Lbl := LTS.ofFn (init rows) step

/-- What `GetBySlug` answers when no other call runs; `none` is not found.
mirrors connection.go:147-172 -/
def getBySlug (s : St) (ws : UUID) (slug : String) : Option Conn :=
  match s.cache.lookup (ws, slug) with
  | some conn => some conn
  | none => s.rows.find? fun r => r.key = (ws, slug)

end PerGo.L3.ConnectionRepository
