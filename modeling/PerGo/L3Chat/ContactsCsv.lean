import PerGo.L1Encoding.Csv
import PerGo.L2Domain.Campaign
import PerGo.L3Chat.ContactResolve
import PerGo.L3Chat.Tags

/-!
# Contacts as a file

`WriteContactsCSV` (domain/contact.go:36-102), and the two handlers on either side of it,
`ImportContactsCSV` and `ExportContactsCSV` (admin/tag.go:231-399), over the tables of
contacts, identities and tags. The import resolves, tags and updates one contact for each record
(`ResolveContact`, `AddTagsByName`, `UpdateAttributes`).

* `columns_sound`: a column that the import reads has one of its headers.
* `contacts_resolve`: the contacts after `ResolveContact`: as before, or one more, which is the result.

The statements of these calls do not fail, and texts are of the lengths that the tables take. A selection
without `ORDER BY` has the order of the table. Answers other than the file and the tables are left out.
-/
namespace PerGo.L3.ContactsCsv

open PerGo.Core PerGo.L1 PerGo.L2
open PerGo.L3.Recorder (ContactIdentity)
open PerGo.L3.Tags (Tag TagDB TagEnv)

/-! ## The file -/

/-- mirrors domain/contact.go:14-24; `none` is the zero time -/
structure Contact where
  id : UUID
  name : String
  email : Option String
  attributes : StrMap
  tags : List String
  createdAt : Option Time
  identities : List ChannelIdentity

def fixedHeaders : List String := ["id", "name", "email", "channel", "sender_identity", "tags", "created_at"]

/-- The keys of all the contacts, sorted. mirrors domain/contact.go:41-53 -/
def attrKeys (contacts : List Contact) : List String :=
  (contacts.flatMap fun c => c.attributes.map (·.1)).dedup.insertionSort (· ≤ ·)

/-- mirrors domain/contact.go:62-96 -/
def contactRow (rfc3339 : Time → String) (attrKeys : List String) (contact : Contact) : List String :=
  let first := contact.identities.head?
  let channelStr := (first.map (·.channel)).getD ""
  let identityStr := (first.map (·.senderIdentity)).getD ""
  [contact.id.string, contact.name, contact.email.getD "", channelStr, identityStr, ",".intercalate contact.tags,
    (contact.createdAt.map rfc3339).getD ""] ++ attrKeys.map fun k => (contact.attributes.lookup k).getD ""

def contactRows (rfc3339 : Time → String) (contacts : List Contact) : List (List String) :=
  (fixedHeaders ++ attrKeys contacts) :: contacts.map (contactRow rfc3339 (attrKeys contacts))

/-- mirrors domain/contact.go:36-102 -/
def writeContactsCSV (rfc3339 : Time → String) (contacts : List Contact) : List Char :=
  Csv.writeAll ',' (contactRows rfc3339 contacts)

/-! ## The tables -/

structure ContactRecord where
  id : UUID
  workspaceID : UUID
  name : String
  email : Option String
  attributes : StrMap
  createdAt : Time
  updatedAt : Time
deriving DecidableEq

structure ContactDB where
  contacts : List ContactRecord
  identities : List ContactIdentity
  tags : List Tag
  /-- contact and tag -/
  contactTags : List (UUID × UUID)
deriving DecidableEq

structure Env where
  tagEnv : TagEnv
  now : Time
  rfc3339 : Time → String
  parseUUID : String → Option UUID
  /-- of the record with this number -/
  resolveEnv : Nat → ContactResolve.ResolveEnv

section Tables

variable (env : Env) (db : ContactDB)

/-- What `ResolveContact` works on. -/
def ContactDB.store : ContactResolve.Store := ⟨db.contacts.map fun r => ⟨r.id, r.workspaceID, r.name⟩, db.identities⟩

def ContactDB.tagDB : TagDB := ⟨db.contacts.map fun r => ⟨r.id, r.workspaceID, r.updatedAt⟩, db.tags, db.contactTags⟩

/-- The columns that an insertion leaves out have their defaults. -/
def newRecord (now : Time) (p : ContactResolve.Profile) : ContactRecord := ⟨p.id, p.workspaceID, p.name, none, [], now, now⟩

/-- mirrors repository/contact.go:147-255 -/
def ContactDB.resolve (n : Nat) (a : ContactResolve.Args) : Option UUID × ContactDB :=
  let (found, store) := ContactResolve.resolveContact (env.resolveEnv n) db.store a
  (found, { db with
    contacts := db.contacts ++ (store.contacts.drop db.contacts.length).map (newRecord env.now)
    identities := store.identities })

def isContact (ws contact : UUID) (r : ContactRecord) : Bool := r.workspaceID = ws && r.id = contact

/-- An error leaves the tables, and is not looked at. mirrors repository/tag.go:401-403 -/
def ContactDB.addTagsByName (ws contact : UUID) (names : List String) : ContactDB :=
  match Tags.mutateContactTags env.tagEnv db.tagDB env.now ws contact none names [] with
  | .error _ => db
  | .ok (_, tagDB) =>
    { db with
      contacts := updateWhere (isContact ws contact) (fun r => { r with updatedAt := env.now }) db.contacts
      tags := tagDB.tags
      contactTags := tagDB.contactTags }

/-- The attributes are replaced. mirrors repository/contact.go:296-321 -/
def ContactDB.updateAttributes (ws contact : UUID) (attributes : StrMap) : ContactDB :=
  { db with
    contacts := updateWhere (isContact ws contact)
      (fun r => { r with attributes := attributes, updatedAt := env.now }) db.contacts }

/-! ## The import -/

inductive Column
  | name
  | phone
  | channel
  | email
  | tags
deriving DecidableEq

/-- mirrors admin/tag.go:269-280 -/
def columnOf (lower : String) : Option Column :=
  if lower = "name" ∨ lower = "nome" then some .name
  else if lower = "phone" ∨ lower = "telefone" ∨ lower = "sender_identity" ∨ lower = "identity" then some .phone
  else if lower = "channel" ∨ lower = "canal" then some .channel
  else if lower = "email" then some .email
  else if lower = "tags" ∨ lower = "etiquetas" then some .tags
  else none

/-- `strings.ToLower(strings.TrimSpace(h))`. -/
def headerKey (h : String) : String := env.tagEnv.toLower (trimSpace h)

def addColumn (idx : Column → Option Nat) (h : String × Nat) : Column → Option Nat :=
  match columnOf (headerKey env h.1) with
  | some col => fun c => if c = col then some h.2 else idx c
  | none => idx

/-- The indices of the columns; the last header counts. `none` is -1.
mirrors admin/tag.go:266-281 -/
def columns (headers : List String) : Column → Option Nat := headers.zipIdx.foldl (addColumn env) fun _ => none

def column (idx : Option Nat) (record : List String) : String :=
  match idx.bind (record[·]?) with
  | some field => trimSpace field
  | none => ""

/-- mirrors admin/tag.go:336-338 -/
def isMapped (idx : Column → Option Nat) (i : Nat) : Bool :=
  some i = idx .name || some i = idx .phone || some i = idx .channel || some i = idx .email ||
    (idx .tags).any fun tagsIdx => tagsIdx ≤ i

def addAttribute (idx : Column → Option Nat) (record : List String) (attrs : StrMap) (h : String × Nat) : StrMap :=
  if isMapped idx h.2 then attrs
  else
    let val := column (some h.2) record
    if val ≠ "" then setVariable attrs (headerKey env h.1) val else attrs

/-- mirrors admin/tag.go:333-347 -/
def customAttributes (headers : List String) (idx : Column → Option Nat) (record : List String) : StrMap :=
  headers.zipIdx.foldl (addAttribute env idx record) []

/-- All the fields from the column of the tags on. mirrors admin/tag.go:326-331 -/
def rawTags (tagsIdx : Nat) (record : List String) : List String :=
  ((",".intercalate (record.drop tagsIdx)).toList.splitOn ',').map String.ofList

structure ImportResult where
  totalProcessed : Nat
  imported : Nat
  errors : Nat
deriving DecidableEq

/-- A record that was read. mirrors admin/tag.go:298-355 -/
def importRecord (ws : UUID) (headers : List String) (phoneIdx n : Nat) (record : List String) : ContactDB × Bool :=
  let idx := columns env headers
  let senderIdentity := column (some phoneIdx) record
  if senderIdentity = "" then (db, false)
  else
    let name := if column (idx .name) record ≠ "" then column (idx .name) record else senderIdentity
    let channel :=
      if column (idx .channel) record ≠ "" then env.tagEnv.toLower (column (idx .channel) record) else "whatsapp"
    let email := column (idx .email) record
    match db.resolve env n ⟨ws, channel, senderIdentity, name, "", email⟩ with
    | (none, db) => (db, false)
    | (some contact, db) =>
      let db := match idx .tags with
        | some tagsIdx =>
          if tagsIdx < record.length then db.addTagsByName env ws contact (rawTags tagsIdx record) else db
        | none => db
      let attrs := customAttributes env headers idx record
      (if attrs ≠ [] then db.updateAttributes env ws contact attrs else db, true)

/-- The loop over the records; `n` counts them. mirrors admin/tag.go:287-356 -/
def importRecords (ws : UUID) (headers : List String) (phoneIdx : Nat) :
    Nat → ContactDB → ImportResult → List Csv.Record → ContactDB × ImportResult
  | _, db, result, [] => (db, result)
  | n, db, result, .error _ :: rest =>
    importRecords ws headers phoneIdx (n + 1) db { result with errors := result.errors + 1 } rest
  | n, db, result, .ok record :: rest =>
    let result := { result with totalProcessed := result.totalProcessed + 1 }
    match importRecord env db ws headers phoneIdx n record with
    | (db, true) => importRecords ws headers phoneIdx (n + 1) db { result with imported := result.imported + 1 } rest
    | (db, false) => importRecords ws headers phoneIdx (n + 1) db { result with errors := result.errors + 1 } rest

inductive ImportError
  | invalidWorkspaceID
  | invalidFormat
  | noPhone
deriving DecidableEq

def ImportError.text : ImportError → String
  | .invalidWorkspaceID => "invalid workspace ID"
  | .invalidFormat => "invalid csv format or empty file"
  | .noPhone => "csv must contain a 'phone' or 'sender_identity' column"

def importReader : Csv.Reader := { comma := ',', lazyQuotes := false, trimLeadingSpace := true, sameFields := false }

/-- mirrors admin/tag.go:231-360 -/
def importContactsCSV (ws : UUID) (text : List Char) : Except ImportError (ContactDB × ImportResult) :=
  if ws = UUID.Nil then .error .invalidWorkspaceID
  else match Csv.records importReader text with
    | [] => .error .invalidFormat
    | .error _ :: _ => .error .invalidFormat
    | .ok headers :: rest =>
      match columns env headers .phone with
      | none => .error .noPhone
      | some phoneIdx => .ok (importRecords env ws headers phoneIdx 0 db ⟨0, 0, 0⟩ rest)

/-! ## The export -/

def hasTag (ws tag : UUID) (r : ContactRecord) : Bool := r.workspaceID = ws && (r.id, tag) ∈ db.contactTags

/-- mirrors repository/tag.go:431-455 -/
def contactOf (identities : List ChannelIdentity) (r : ContactRecord) : Contact :=
  { id := r.id, name := r.name, email := r.email, attributes := r.attributes, createdAt := some r.createdAt
    tags := Tags.tagNames env.tagEnv db.tagDB r.workspaceID r.id, identities := identities }

/-- mirrors repository/tag.go:469-496 -/
def identitiesOf (ws contact : UUID) : List ChannelIdentity :=
  (db.identities.filter fun i => i.workspaceID = ws && i.contactID = contact).map fun i => ⟨i.channel, i.senderIdentity⟩

/-- The empty list is the nil slice. mirrors repository/tag.go:420-500 -/
def listContactsByTag (ws tag : UUID) : List Contact :=
  ((db.contacts.filter (hasTag db ws tag)).mergeSort fun a b => decide (b.createdAt ≤ a.createdAt)).map fun r =>
    contactOf env db (identitiesOf db ws r.id) r

def searchable (ws : UUID) (r : ContactRecord) : Bool := r.workspaceID = ws && r.id ≠ UUID.Nil

/-- With the empty query. mirrors repository/contact.go:500-540 -/
def searchContacts (ws : UUID) (limit : Nat) : List Contact :=
  ((db.contacts.filter (searchable ws)).take limit).map (contactOf env db [])

/-- The contacts that are written. mirrors admin/tag.go:373-392 -/
def exportedContacts (ws : UUID) (tagIDStr : String) : List Contact :=
  let contacts :=
    if tagIDStr ≠ "" then
      match env.parseUUID tagIDStr with
      | some tagID => listContactsByTag env db ws tagID
      | none => []
    else []
  if contacts = [] then searchContacts env db ws 10000 else contacts

/-- mirrors admin/tag.go:363-399 -/
def exportContactsCSV (ws : UUID) (tagIDStr : String) : Except ImportError (List Char) :=
  if ws = UUID.Nil then .error .invalidWorkspaceID
  else .ok (writeContactsCSV env.rfc3339 (exportedContacts env db ws tagIDStr))

end Tables

variable {env : Env} {db : ContactDB}

/-! ## The columns of the import -/

theorem addColumn_eq_some {idx : Column → Option Nat} {h : String × Nat} {col : Column} {i : Nat}
    (hcol : addColumn env idx h col = some i) :
    idx col = some i ∨ h.2 = i ∧ columnOf (headerKey env h.1) = some col := by
  unfold addColumn at hcol
  cases hkey : columnOf (headerKey env h.1) with
  | none =>
    rw [hkey] at hcol
    exact Or.inl hcol
  | some col' =>
    rw [hkey] at hcol
    dsimp only at hcol
    split at hcol
    · rename_i heq
      exact Or.inr ⟨Option.some.inj hcol, by rw [heq]⟩
    · exact Or.inl hcol

theorem columns_sound {headers : List String} {col : Column} {i : Nat} (h : columns env headers col = some i) :
    ∃ header, headers[i]? = some header ∧ columnOf (headerKey env header) = some col := by
  have hfold : ∀ (hs : List (String × Nat)) (idx : Column → Option Nat), hs.foldl (addColumn env) idx col = some i →
      idx col = some i ∨ ∃ h ∈ hs, h.2 = i ∧ columnOf (headerKey env h.1) = some col := by
    intro hs
    induction hs with
    | nil => exact fun idx h => Or.inl h
    | cons first hs ih =>
      intro idx h
      rw [List.foldl_cons] at h
      rcases ih _ h with hidx | ⟨h', hmem, hrest⟩
      · rcases addColumn_eq_some hidx with hidx | hfirst
        · exact Or.inl hidx
        · exact Or.inr ⟨first, List.mem_cons_self, hfirst⟩
      · exact Or.inr ⟨h', List.mem_cons_of_mem _ hmem, hrest⟩
  unfold columns at h
  rcases hfold _ _ h with hnone | ⟨entry, hmem, rfl, hcol⟩
  · cases hnone
  · exact ⟨entry.1, List.mem_zipIdx_iff_getElem?.mp hmem, hcol⟩

/-! ## The contacts after a call -/

theorem resolveContact_contacts (env : ContactResolve.ResolveEnv) (store : ContactResolve.Store) (a : ContactResolve.Args) :
    (ContactResolve.resolveContact env store a).2.contacts = store.contacts ∨
      (ContactResolve.resolveContact env store a).1 = some env.newID ∧
        (ContactResolve.resolveContact env store a).2.contacts = store.contacts ++ [a.profile env.newID] := by
  unfold ContactResolve.resolveContact
  split
  · exact Or.inl rfl
  · split
    · exact Or.inl rfl
    · dsimp only
      split
      · exact Or.inl rfl
      · split
        · exact Or.inl rfl
        · refine Or.inr ⟨?_, rfl⟩
          simp [ContactResolve.linked, ContactResolve.getByID, ContactResolve.Args.profile]

theorem contacts_resolve (env : Env) (db : ContactDB) (n : Nat) (a : ContactResolve.Args) :
    (db.resolve env n a).2.contacts = db.contacts ∨
      ∃ id, (db.resolve env n a).1 = some id ∧
        (db.resolve env n a).2.contacts = db.contacts ++ [newRecord env.now (a.profile id)] := by
  have hlength : db.store.contacts.length = db.contacts.length := List.length_map _
  rcases resolveContact_contacts (env.resolveEnv n) db.store a with hsame | ⟨hfound, hnew⟩
  · left
    show db.contacts ++ (List.drop _ (ContactResolve.resolveContact _ _ _).2.contacts).map _ = db.contacts
    rw [hsame, List.drop_of_length_le (Nat.le_of_eq hlength), List.map_nil, List.append_nil]
  · right
    refine ⟨_, hfound, ?_⟩
    show db.contacts ++ (List.drop _ (ContactResolve.resolveContact _ _ _).2.contacts).map _ = _
    rw [hnew, List.drop_left' hlength]
    rfl

end PerGo.L3.ContactsCsv
