import PerGo.Core.LTS
import PerGo.Core.Pool
import PerGo.L3Chat.Recorder

/-!
# Resolving a contact

`ContactRepository.ResolveContact` of `repository/contact.go` over `contacts` and
`contact_identities`: `resolveContact` is a call alone, and the system below is any number
of calls at once, one statement at a time.

* A transaction sees what is committed and what it wrote (`READ COMMITTED`). An insertion
  that meets a row another transaction has not committed waits for it: the step is not
  possible yet.
* The code goes on after a failed lookup or a failed insertion of a username or phone, but
  the transaction is aborted and its commit fails: a failing statement ends the call.
* `uuid.New()` is an id that no contact has, stored or about to be. No deadlock is detected
  but by `fails`.
* A lookup without `ORDER BY` that several rows match takes any of them (`pick`).
-/
namespace PerGo.L3.ContactResolve

open PerGo.Core PerGo.L1 PerGo.L2 PerGo.L3.Recorder

structure Profile where
  id : UUID
  workspaceID : UUID
  name : String

structure Store where
  contacts : List Profile
  identities : List ContactIdentity

structure Args where
  workspaceID : UUID
  channel : String
  senderIdentity : String
  name : String
  username : String
  phone : String
deriving DecidableEq

abbrev Slot := UUID × String × String

def slot (i : ContactIdentity) : Slot := (i.workspaceID, i.channel, i.senderIdentity)

def Args.slot (a : Args) : Slot := (a.workspaceID, a.channel, a.senderIdentity)

/-- The constraints of the tables.
mirrors migrations/024_omnichannel_contact_merging.sql:5-25 -/
structure Schema (db : Store) : Prop where
  contacts : (db.contacts.map (·.id)).Nodup
  slots : (db.identities.map slot).Nodup
  owners : ∀ i ∈ db.identities, ∃ p ∈ db.contacts, p.id = i.contactID

/-! ## Statements -/

/-- mirrors contact.go:158-161, 178-181 -/
def findIdentity (db : Store) (s : Slot) : Option UUID := (db.identities.find? fun i => slot i = s).map (·.contactID)

def pickRow (rows : List ContactIdentity) (pick : Nat) : Option ContactIdentity := rows[pick % rows.length]?

/-- mirrors contact.go:190, 233 -/
def cleanUser (username : String) : String := toLower (trimPrefix username "@")

def Args.hasUsername (a : Args) : Bool := a.channel = "telegram" && a.username ≠ ""

/-- mirrors contact.go:189-195 -/
def usernameRow (db : Store) (a : Args) (pick : Nat) : Option ContactIdentity :=
  if a.hasUsername then
    pickRow (db.identities.filter fun i => i.workspaceID = a.workspaceID && i.channel = "telegram_username" &&
      toLower i.senderIdentity = cleanUser a.username) pick
  else none

/-- mirrors contact.go:197-202 -/
def phoneRow (db : Store) (a : Args) (pick : Nat) : Option ContactIdentity :=
  if a.phone ≠ "" then
    pickRow (db.identities.filter fun i => i.workspaceID = a.workspaceID &&
      (i.channel = "phone" || i.channel = "whatsapp" || i.channel = "whatsapp_cloud") && i.senderIdentity = a.phone) pick
  else none

theorem usernameRow_some {db : Store} {a : Args} {pick : Nat} {i : ContactIdentity}
    (h : usernameRow db a pick = some i) :
    i ∈ db.identities ∧ a.hasUsername = true ∧ i.workspaceID = a.workspaceID ∧ i.channel = "telegram_username" ∧
      toLower i.senderIdentity = cleanUser a.username := by
  unfold usernameRow at h
  split at h
  · rename_i huser
    obtain ⟨hmem, hmatch⟩ := List.mem_filter.mp (List.mem_of_getElem? h)
    simp only [Bool.and_eq_true, decide_eq_true_eq] at hmatch
    exact ⟨hmem, huser, hmatch.1.1, hmatch.1.2, hmatch.2⟩
  · cases h

theorem phoneRow_some {db : Store} {a : Args} {pick : Nat} {i : ContactIdentity} (h : phoneRow db a pick = some i) :
    i ∈ db.identities ∧ a.phone ≠ "" ∧ i.workspaceID = a.workspaceID ∧
      i.channel ∈ ["phone", "whatsapp", "whatsapp_cloud"] ∧ i.senderIdentity = a.phone := by
  unfold phoneRow at h
  split at h
  · rename_i hphone
    obtain ⟨hmem, hmatch⟩ := List.mem_filter.mp (List.mem_of_getElem? h)
    simp only [Bool.and_eq_true, Bool.or_eq_true, decide_eq_true_eq] at hmatch
    refine ⟨hmem, hphone, hmatch.1.1, ?_, hmatch.2⟩
    simpa [or_assoc] using hmatch.1.2
  · cases h

/-- mirrors contact.go:206-210 -/
def Args.profile (a : Args) (id : UUID) : Profile :=
  ⟨id, a.workspaceID, if a.name = "" then a.senderIdentity else a.name⟩

/-- The rows a call links, in their order. mirrors contact.go:221-248 -/
def Args.primary (a : Args) (contactID : UUID) : ContactIdentity :=
  ⟨contactID, a.workspaceID, a.channel, a.senderIdentity⟩

def Args.usernameLink (a : Args) (contactID : UUID) : ContactIdentity :=
  ⟨contactID, a.workspaceID, "telegram_username", cleanUser a.username⟩

def Args.phoneLink (a : Args) (contactID : UUID) : ContactIdentity := ⟨contactID, a.workspaceID, "phone", a.phone⟩

/-- `ON CONFLICT DO NOTHING`. -/
def link (row : ContactIdentity) (identities : List ContactIdentity) : List ContactIdentity :=
  if identities.any fun i => slot i = slot row then identities else identities ++ [row]

/-- `none` is not found. mirrors contact.go:34-60 -/
def getByID (db : Store) (workspaceID id : UUID) : Option UUID :=
  if db.contacts.any fun p => p.id = id && p.workspaceID = workspaceID then some id else none

/-! ## A call alone -/

structure ResolveEnv where
  fails : Bool
  newID : UUID
  usernamePick : Nat
  phonePick : Nat

/-- The contact that username or phone are linked to. mirrors contact.go:188-202 -/
def crossLinked (env : ResolveEnv) (db : Store) (a : Args) : UUID :=
  let byUsername := ((usernameRow db a env.usernamePick).map (·.contactID)).getD UUID.Nil
  if byUsername = UUID.Nil then ((phoneRow db a env.phonePick).map (·.contactID)).getD UUID.Nil else byUsername

/-- mirrors contact.go:221-248 -/
def linkAll (a : Args) (contactID : UUID) (identities : List ContactIdentity) : List ContactIdentity :=
  let identities := link (a.primary contactID) identities
  let identities := if a.hasUsername then link (a.usernameLink contactID) identities else identities
  if a.phone ≠ "" then link (a.phoneLink contactID) identities else identities

def linked (db : Store) (a : Args) (contacts : List Profile) (contactID : UUID) : Option UUID × Store :=
  let db := ⟨contacts, linkAll a contactID db.identities⟩
  (getByID db a.workspaceID contactID, db)

/-- The contact, `none` on an error, and the tables. mirrors contact.go:147-255 -/
def resolveContact (env : ResolveEnv) (db : Store) (a : Args) : Option UUID × Store :=
  if a.workspaceID = UUID.Nil ∨ env.fails = true then (none, db)
  else match findIdentity db a.slot with
    | some c => (getByID db a.workspaceID c, db)
    | none =>
      let found := crossLinked env db a
      if found ≠ UUID.Nil then linked db a db.contacts found
      else if db.contacts.any fun p => p.id = env.newID then (none, db)
      else linked db a (db.contacts ++ [a.profile env.newID]) env.newID

/-! ## Calls at once -/

/-- A transaction: the contact it links, and what it has written. -/
structure Tx where
  args : Args
  contactID : UUID
  contacts : List Profile
  identities : List ContactIdentity

/-- Where a call is: the statement it takes next, if it takes it at all. -/
inductive Pc
  | find (a : Args)
  | recheck (a : Args)
  | byUsername (a : Args)
  | byPhone (a : Args) (contactID : UUID)
  | insertContact (a : Args)
  | linkPrimary (t : Tx)
  | linkUsername (t : Tx)
  | linkPhone (t : Tx)
  | commit (t : Tx)
  | get (a : Args) (contactID : UUID)

def contactsOf : Pc → List Profile
  | .linkPrimary t | .linkUsername t | .linkPhone t | .commit t => t.contacts
  | _ => []

def rowsOf : Pc → List ContactIdentity
  | .linkPrimary t | .linkUsername t | .linkPhone t | .commit t => t.identities
  | _ => []

structure St where
  db : Store
  pool : List Pc
  /-- what the calls that succeeded were asked and returned -/
  returned : List (Args × UUID)

structure StepEnv where
  fails : Bool
  newID : UUID
  pick : Nat

/-- An insertion of a transaction; `none`: it waits for another. -/
def Tx.link (db : Store) (others : List Pc) (t : Tx) (row : ContactIdentity) : Option Tx :=
  if (db.identities ++ t.identities).any fun i => slot i = slot row then some t
  else if (others.flatMap rowsOf).any fun i => slot i = slot row then none
  else some { t with identities := t.identities ++ [row] }

/-- One step of a call: the state after it, and where the call is then; `none` inside: it has returned.
mirrors contact.go:147-255 -/
def Pc.run (env : StepEnv) (s : St) (others : List Pc) (pc : Pc) : Option (St × Option Pc) :=
  if env.fails then some (s, none)
  else match pc with
    | .find a => match findIdentity s.db a.slot with
      | some c => some (s, some (.get a c))
      | none => some (s, some (.recheck a))
    | .recheck a => match findIdentity s.db a.slot with
      | some c => some (s, some (.get a c))
      | none => some (s, some (.byUsername a))
    | .byUsername a => some (s, some (.byPhone a (((usernameRow s.db a env.pick).map (·.contactID)).getD UUID.Nil)))
    | .byPhone a c =>
      let c := if c = UUID.Nil then ((phoneRow s.db a env.pick).map (·.contactID)).getD UUID.Nil else c
      some (s, some (if c = UUID.Nil then .insertContact a else .linkPrimary ⟨a, c, [], []⟩))
    | .insertContact a =>
      if env.newID = UUID.Nil ∨ (s.db.contacts ++ others.flatMap contactsOf).any fun p => p.id = env.newID then none
      else some (s, some (.linkPrimary ⟨a, env.newID, [a.profile env.newID], []⟩))
    | .linkPrimary t => (t.link s.db others (t.args.primary t.contactID)).map fun t => (s, some (.linkUsername t))
    | .linkUsername t =>
      if t.args.hasUsername then
        (t.link s.db others (t.args.usernameLink t.contactID)).map fun t => (s, some (.linkPhone t))
      else some (s, some (.linkPhone t))
    | .linkPhone t =>
      if t.args.phone ≠ "" then
        (t.link s.db others (t.args.phoneLink t.contactID)).map fun t => (s, some (.commit t))
      else some (s, some (.commit t))
    | .commit t =>
      some ({ s with db := ⟨s.db.contacts ++ t.contacts, s.db.identities ++ t.identities⟩ },
        some (.get t.args t.contactID))
    | .get a c => match getByID s.db a.workspaceID c with
      | some c => some ({ s with returned := (a, c) :: s.returned }, none)
      | none => some (s, none)

inductive Lbl
  | start (a : Args)
  | run (i : Nat) (env : StepEnv)

def step (s : St) : Lbl → Option St
  | .start a => if a.workspaceID = UUID.Nil then none else some { s with pool := s.pool ++ [.find a] }
  | .run i env => match s.pool[i]? with
    | none => none
    | some pc => (pc.run env s (s.pool.take i ++ s.pool.drop (i + 1))).map fun r =>
        { r.1 with pool := s.pool.take i ++ r.2.toList ++ s.pool.drop (i + 1) }

def init (db : Store) : St := ⟨db, [], []⟩

def sys (db : Store) : LTS St Lbl := LTS.ofFn (init db) step

end PerGo.L3.ContactResolve
