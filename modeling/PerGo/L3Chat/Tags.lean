import Mathlib.Data.Set.Basic
import PerGo.Core.Fallible
import PerGo.Core.Paired
import PerGo.Core.Table
import PerGo.L2Domain.Message
import PerGo.L2Domain.Variables

/-!
# Tags

`repository/tag.go`: the tags of a workspace and the contacts that have them. A tag is
looked up by its name in lower case, which an index keeps unique in its workspace; a name that is
not there is inserted on demand. `MutateContactTags` runs in one transaction, so an error leaves
the tables as they were.

Lower case is made in two places: `strings.ToLower` by the code, `LOWER` by the database.
-/
namespace PerGo.L3.Tags

open PerGo.Core PerGo.L1 PerGo.L2

structure Tag where
  id : UUID
  workspaceID : UUID
  name : String
  color : String
deriving DecidableEq

structure ContactRow where
  id : UUID
  workspaceID : UUID
  updatedAt : Time

structure TagDB where
  contacts : List ContactRow
  tags : List Tag
  /-- contact and tag -/
  contactTags : List (UUID × UUID)

structure TagEnv where
  casing : Casing
  /-- `LOWER` in the locale of the database -/
  LOWER : String → String
  /-- `<=` in its collation -/
  collate : String → String → Bool

inductive TagError
  | invalidWorkspaceID
  | contactNotFound
  | tagNotFound
  | tagAlreadyExists
  | text (s : String)

/-- A parameter that PostgreSQL takes as text. -/
def validText (s : String) : Bool := '\x00' ∉ s.toList

/-- A text that a `VARCHAR(n)` takes. -/
def fits (n : Nat) (s : String) : Bool := validText s && s.toList.length ≤ n

section Calls

variable (env : TagEnv) (db : TagDB)

def TagEnv.toLower (s : String) : String := env.casing.toLower s

/-- `SELECT id FROM tags WHERE workspace_id = $1 AND LOWER(name) = LOWER($2)`. -/
def findTag (ws : UUID) (name : String) : Option Tag :=
  db.tags.find? fun t => t.workspaceID = ws && env.LOWER t.name = env.LOWER name

def insertTag (ws : UUID) (name color : String) : Tag × TagDB :=
  let t : Tag := ⟨freshKey (db.tags.map (·.id)), ws, name, color⟩
  (t, { db with tags := db.tags ++ [t] })

/-- `INSERT INTO contact_tags … ON CONFLICT DO NOTHING`. -/
def TagDB.link (contact tag : UUID) : TagDB :=
  if (contact, tag) ∈ db.contactTags then db else { db with contactTags := db.contactTags ++ [(contact, tag)] }

/-- `DELETE FROM contact_tags WHERE p`. -/
def TagDB.unlink (p : UUID × UUID → Bool) : TagDB := { db with contactTags := db.contactTags.filter fun l => !p l }

/-! ## Names -/

def cleanNames (seen : List String) : List String → List String
  | [] => []
  | raw :: names =>
    let clean := trimSpace raw
    if clean = "" then cleanNames seen names
    else if env.toLower clean ∈ seen then cleanNames seen names
    else clean :: cleanNames (env.toLower clean :: seen) names

/-- mirrors tag.go:214-233 -/
def cleanTagNames (names : List String) : List String := cleanNames env [] names

/-- mirrors tag.go:235-259 -/
def ensureTagID (ws : UUID) (name : String) : Except TagError (UUID × TagDB) :=
  if !validText name then .error (.text "lookup tag")
  else match findTag env db ws name with
    | some t => .ok (t.id, db)
    | none =>
      if !fits 64 name then .error (.text "ensure tag")
      else
        let (t, db') := insertTag db ws name "#6B7280"
        .ok (t.id, db')

def ensureTagIDs (ws : UUID) : List String → TagDB → Except TagError (List UUID × TagDB)
  | [], db => .ok ([], db)
  | name :: names, db => do
    let (tagID, db) ← ensureTagID env db ws name
    let (tagIDs, db) ← ensureTagIDs ws names db
    pure (tagID :: tagIDs, db)

/-! ## Mutations -/

/-- mirrors tag.go:296-331 -/
def setTags (ws contact : UUID) (set : List String) : Except TagError TagDB := do
  let (tagIDs, db) ← ensureTagIDs env ws (cleanTagNames env set) db
  pure (if tagIDs = [] then db.unlink fun l => l.1 = contact
    else tagIDs.foldl (fun db tagID => db.link contact tagID) (db.unlink fun l => l.1 = contact && l.2 ∉ tagIDs))

def addTags (ws contact : UUID) (removeLower : List String) : List String → TagDB → Except TagError TagDB
  | [], db => .ok db
  | name :: names, db =>
    if env.toLower name ∈ removeLower then addTags ws contact removeLower names db
    else do
      let (tagID, db) ← ensureTagID env db ws name
      addTags ws contact removeLower names (db.link contact tagID)

/-- `DELETE FROM contact_tags ct USING tags t`. -/
def removeTags (ws contact : UUID) (removeLower : List String) : Except TagError TagDB :=
  if removeLower = [] then .ok db
  else if removeLower.any fun s => !validText s then .error (.text "remove contact tags")
  else .ok (db.unlink fun l => l.1 = contact &&
    db.tags.any fun t => l.2 = t.id && t.workspaceID = ws && env.LOWER t.name ∈ removeLower)

/-- mirrors tag.go:332-368 -/
def addRemoveTags (ws contact : UUID) (add remove : List String) : Except TagError TagDB := do
  let removeLower := (cleanTagNames env remove).map env.toLower
  let db ← addTags env ws contact removeLower (cleanTagNames env add) db
  removeTags env db ws contact removeLower

/-- The two modes; `set` is `none` for the nil slice. -/
def mutated (ws contact : UUID) (set : Option (List String)) (add remove : List String) : Except TagError TagDB :=
  match set with
  | some set => setTags env db ws contact set
  | none => addRemoveTags env db ws contact add remove

def contactExists (ws contact : UUID) : Bool := db.contacts.any fun r => r.workspaceID = ws && r.id = contact

/-- `ARRAY_AGG(t.name ORDER BY t.name ASC)`. -/
def tagNames (ws contact : UUID) : List String :=
  ((db.tags.filter fun t => t.workspaceID = ws && (contact, t.id) ∈ db.contactTags).map (·.name)).mergeSort env.collate

/-- `UPDATE contacts SET updated_at = NOW()`. -/
def TagDB.touch (now : Time) (ws contact : UUID) : TagDB :=
  let touched := fun r : ContactRow => { r with updatedAt := now }
  { db with contacts := updateWhere (fun r => r.workspaceID = ws && r.id = contact) touched db.contacts }

/-- mirrors tag.go:264-397 -/
def mutateContactTags (now : Time) (ws contact : UUID) (set : Option (List String)) (add remove : List String) :
    Except TagError (List String × TagDB) :=
  if ws = UUID.Nil then .error .invalidWorkspaceID
  else if contact = UUID.Nil then .error .contactNotFound
  else if !contactExists db ws contact then .error .contactNotFound
  else do
    let db ← mutated env db ws contact set add remove
    let db := db.touch now ws contact
    pure (tagNames env db ws contact, db)

/-! ## The other calls on tags -/

/-- mirrors tag.go:38-65 -/
def createTag (ws : UUID) (name color : String) : Except TagError (Tag × TagDB) :=
  if ws = UUID.Nil then .error .invalidWorkspaceID
  else
    let name := trimSpace name
    if name = "" then .error (.text "tag name cannot be empty")
    else
      let color := if color = "" then "#6B7280" else color
      if !fits 64 name || !fits 7 color then .error (.text "failed to create tag")
      else if (findTag env db ws name).isSome then .error .tagAlreadyExists
      else .ok (insertTag db ws name color)

/-- mirrors tag.go:68-86 -/
def getTagByID (ws tag : UUID) : Except TagError Tag :=
  if ws = UUID.Nil then .error .invalidWorkspaceID
  else match db.tags.find? fun t => t.workspaceID = ws && t.id = tag with
    | some t => .ok t
    | none => .error .tagNotFound

/-- The links of a tag go with it. mirrors tag.go:116-130 -/
def deleteTag (ws tag : UUID) : Except TagError TagDB :=
  if ws = UUID.Nil then .error .invalidWorkspaceID
  else
    let gone := fun t : Tag => t.workspaceID = ws && t.id = tag
    if !db.tags.any gone then .error .tagNotFound
    else .ok { db with
      tags := db.tags.filter fun t => !gone t, contactTags := db.contactTags.filter fun l => l.2 ≠ tag }

/-- mirrors tag.go:133-165 -/
def addTagToContact (ws contact tag : UUID) : Except TagError TagDB := do
  let _ ← getTagByID db ws tag
  if !contactExists db ws contact then .error (.text "contact not found in workspace")
  else .ok (db.link contact tag)

/-- mirrors tag.go:168-184 -/
def removeTagFromContact (ws contact tag : UUID) : Except TagError TagDB :=
  if ws = UUID.Nil then .error .invalidWorkspaceID
  else if (contact, tag) ∉ db.contactTags ∨ !db.tags.any (fun t => t.id = tag && t.workspaceID = ws) then
    .error (.text "tag or association not found")
  else .ok (db.unlink fun l => l = (contact, tag))

end Calls

/-! ## What holds of the tables -/

/-- What `LOWER` and `strings.ToLower` are taken to have in common. -/
def TagEnv.Agree (env : TagEnv) : Prop := ∀ s, env.LOWER s = env.toLower s

/-- A tag's name as it is compared. -/
def TagEnv.key (env : TagEnv) (t : Tag) : String := env.toLower (trimSpace t.name)

/-- The constraints of the tables, and what their writers add: a name is trimmed, and the tags of a contact are of its
workspace. -/
structure Schema (env : TagEnv) (db : TagDB) : Prop where
  contacts : (db.contacts.map (·.id)).Nodup
  tags : (db.tags.map (·.id)).Nodup
  names : (db.tags.map fun t => (t.workspaceID, env.key t)).Nodup
  trimmed : ∀ t ∈ db.tags, trimSpace t.name = t.name
  links : db.contactTags.Nodup
  linked : ∀ l ∈ db.contactTags, ∃ r ∈ db.contacts, ∃ t ∈ db.tags, r.id = l.1 ∧ t.id = l.2 ∧ r.workspaceID = t.workspaceID

/-- The row of a tag, by its workspace and its name as it is compared. -/
def Named (env : TagEnv) (db : TagDB) (ws id : UUID) (k : String) : Prop :=
  ∃ t ∈ db.tags, t.id = id ∧ t.workspaceID = ws ∧ env.key t = k

structure Extends (env : TagEnv) (db db' : TagDB) : Prop where
  contacts : db'.contacts = db.contacts
  links : db'.contactTags = db.contactTags
  tags : db.tags <+: db'.tags
  schema : Schema env db'

theorem Extends.refl {env : TagEnv} {db : TagDB} (h : Schema env db) : Extends env db db :=
  ⟨rfl, rfl, List.prefix_rfl, h⟩

theorem Extends.trans {env : TagEnv} {db db' db'' : TagDB} (h : Extends env db db') (h' : Extends env db' db'') :
    Extends env db db'' :=
  ⟨h'.contacts.trans h.contacts, h'.links.trans h.links, h.tags.trans h'.tags, h'.schema⟩

section Rows

variable {env : TagEnv} {db db' : TagDB} {ws id id' : UUID} {k k' : String}

theorem Named.mono (h : Named env db ws id k) (hsub : db.tags <+: db'.tags) : Named env db' ws id k := by
  obtain ⟨t, ht, hrest⟩ := h
  exact ⟨t, hsub.subset ht, hrest⟩

theorem Named.id_eq (hs : Schema env db) (h : Named env db ws id k) (h' : Named env db ws id' k) : id = id' := by
  obtain ⟨t, ht, rfl, hws, hk⟩ := h
  obtain ⟨t', ht', rfl, hws', hk'⟩ := h'
  rw [eq_of_key_eq hs.names ht ht' (by rw [hws, hws', hk, hk'])]

theorem Named.key_eq {ws' : UUID} (hs : Schema env db) (h : Named env db ws id k) (h' : Named env db ws' id k') :
    ws = ws' ∧ k = k' := by
  obtain ⟨t, ht, hid, rfl, rfl⟩ := h
  obtain ⟨t', ht', hid', rfl, rfl⟩ := h'
  rw [eq_of_key_eq hs.tags ht ht' (hid.trans hid'.symm)]
  exact ⟨rfl, rfl⟩

theorem key_of_trimmed {t : Tag} (hs : Schema env db) (ht : t ∈ db.tags) : env.key t = env.toLower t.name := by
  rw [TagEnv.key, hs.trimmed t ht]

theorem findTag_some_iff {name : String} {t : Tag} (ha : env.Agree) (hs : Schema env db) :
    findTag env db ws name = some t ↔ t ∈ db.tags ∧ t.workspaceID = ws ∧ env.key t = env.toLower name := by
  have hcond : findTag env db ws name = db.tags.find? fun t => (t.workspaceID, env.key t) = (ws, env.toLower name) := by
    unfold findTag
    refine List.find?_congr fun t ht => ?_
    rw [ha, ha, key_of_trimmed hs ht]
    simp [Bool.decide_and]
  rw [hcond, find?_key_iff (c := fun t : Tag => (t.workspaceID, env.key t)) hs.names, Prod.mk.injEq]

theorem insertTag_extends {name color : String} (hs : Schema env db) (htrim : trimSpace name = name)
    (hnew : ∀ t ∈ db.tags, ¬ (t.workspaceID = ws ∧ env.key t = env.toLower name)) :
    Extends env db (insertTag db ws name color).2 ∧
      Named env (insertTag db ws name color).2 ws (insertTag db ws name color).1.id (env.toLower name) := by
  have hkey : env.key (insertTag db ws name color).1 = env.toLower name := congrArg env.toLower htrim
  refine ⟨⟨rfl, rfl, List.prefix_append _ _, ?_⟩, ⟨_, List.mem_append_right _ (List.mem_singleton.mpr rfl), rfl, rfl, hkey⟩⟩
  refine { contacts := hs.contacts, tags := ?_, names := ?_, trimmed := ?_, links := hs.links, linked := ?_ }
  · refine nodup_concat hs.tags fun t ht heq => freshKey_not_mem (db.tags.map (·.id)) ?_
    have hmem : t.id ∈ db.tags.map (·.id) := List.mem_map_of_mem ht
    exact (show t.id = freshKey (db.tags.map (·.id)) from heq) ▸ hmem
  · refine nodup_concat hs.names fun t ht heq => hnew t ht ?_
    obtain ⟨hws, hk⟩ := Prod.mk.inj heq
    exact ⟨hws, hk.trans hkey⟩
  · intro t ht
    rcases List.mem_append.mp ht with ht | ht
    · exact hs.trimmed t ht
    · rw [List.mem_singleton.mp ht]
      exact htrim
  · intro l hl
    obtain ⟨r, hr, t, ht, hrest⟩ := hs.linked l hl
    exact ⟨r, hr, t, List.mem_append_left _ ht, hrest⟩

theorem ensureTagID_ok {name : String} (ha : env.Agree) (hs : Schema env db) (htrim : trimSpace name = name)
    (h : ensureTagID env db ws name = .ok (id, db')) :
    validText name = true ∧ Extends env db db' ∧ Named env db' ws id (env.toLower name) := by
  unfold ensureTagID at h
  cases hvalid : validText name with
  | false =>
    rw [hvalid] at h
    cases h
  | true =>
    rw [hvalid] at h
    simp only [Bool.not_true, Bool.false_eq_true, if_false] at h
    refine ⟨rfl, ?_⟩
    cases hfind : findTag env db ws name with
    | some t =>
      rw [hfind] at h
      cases h
      obtain ⟨ht, hws, hk⟩ := (findTag_some_iff ha hs).mp hfind
      exact ⟨Extends.refl hs, t, ht, rfl, hws, hk⟩
    | none =>
      rw [hfind] at h
      have hnew : ∀ t ∈ db.tags, ¬ (t.workspaceID = ws ∧ env.key t = env.toLower name) := by
        intro t ht hkey
        have := (findTag_some_iff ha hs).mpr ⟨ht, hkey⟩
        rw [hfind] at this
        cases this
      simp only [Bool.not_eq_true'] at h
      split at h
      · cases h
      · cases h
        exact insertTag_extends hs htrim hnew

theorem ensureTagID_of_named {name : String} (ha : env.Agree) (hs : Schema env db) (hvalid : validText name = true)
    (h : Named env db ws id (env.toLower name)) : ensureTagID env db ws name = .ok (id, db) := by
  obtain ⟨t, ht, rfl, hws, hk⟩ := h
  have hfind : findTag env db ws name = some t := (findTag_some_iff ha hs).mpr ⟨ht, hws, hk⟩
  simp [ensureTagID, hvalid, hfind]

theorem ensureTagID_of_fits {name : String} (h : fits 64 name = true) :
    ∃ r, ensureTagID env db ws name = .ok r := by
  have hvalid : validText name = true := (Bool.and_eq_true_iff.mp h).1
  unfold ensureTagID
  simp only [hvalid, Bool.not_true, Bool.false_eq_true, if_false, h]
  cases findTag env db ws name with
  | some t => exact ⟨_, rfl⟩
  | none => exact ⟨_, rfl⟩

end Rows

/-! ## Links -/

section Links

variable {env : TagEnv} {db db' : TagDB} {ws contact id : UUID} {k : String}

theorem mem_link {l : UUID × UUID} :
    l ∈ (db.link contact id).contactTags ↔ l ∈ db.contactTags ∨ l = (contact, id) := by
  unfold TagDB.link
  split
  · rename_i h
    refine ⟨Or.inl, ?_⟩
    rintro (hl | rfl)
    · exact hl
    · exact h
  · rw [List.mem_append, List.mem_singleton]

theorem mem_unlink {p : UUID × UUID → Bool} {l : UUID × UUID} :
    l ∈ (db.unlink p).contactTags ↔ l ∈ db.contactTags ∧ p l = false := by
  simp [TagDB.unlink]

@[simp] theorem link_tags (contact id : UUID) : (db.link contact id).tags = db.tags := by
  unfold TagDB.link
  split <;> rfl

@[simp] theorem link_contacts (contact id : UUID) : (db.link contact id).contacts = db.contacts := by
  unfold TagDB.link
  split <;> rfl

theorem link_eq_self (h : (contact, id) ∈ db.contactTags) : db.link contact id = db := if_pos h

theorem unlink_eq_self {p : UUID × UUID → Bool} (h : ∀ l ∈ db.contactTags, p l = false) : db.unlink p = db := by
  unfold TagDB.unlink
  rw [List.filter_eq_self.mpr fun l hl => by rw [h l hl]; rfl]

theorem contactExists_iff : contactExists db ws contact = true ↔ ∃ r ∈ db.contacts, r.id = contact ∧ r.workspaceID = ws := by
  simp [contactExists, and_comm]

theorem schema_link (hs : Schema env db) (hc : contactExists db ws contact = true) (hn : Named env db ws id k) :
    Schema env (db.link contact id) := by
  refine { contacts := ?_, tags := ?_, names := ?_, trimmed := ?_, links := ?_, linked := ?_ }
  · rw [link_contacts]
    exact hs.contacts
  · rw [link_tags]
    exact hs.tags
  · rw [link_tags]
    exact hs.names
  · rw [link_tags]
    exact hs.trimmed
  · unfold TagDB.link
    split
    · exact hs.links
    · rename_i hnew
      rw [List.nodup_append]
      refine ⟨hs.links, List.nodup_singleton _, ?_⟩
      intro l hl l' hl' heq
      rw [List.mem_singleton.mp hl'] at heq
      exact hnew (heq ▸ hl)
  · intro l hl
    rw [link_tags, link_contacts]
    rcases mem_link.mp hl with hl | rfl
    · exact hs.linked l hl
    · obtain ⟨r, hr, hid, hws⟩ := contactExists_iff.mp hc
      obtain ⟨t, ht, htid, htws, -⟩ := hn
      exact ⟨r, hr, t, ht, hid, htid, hws.trans htws.symm⟩

theorem schema_unlink (hs : Schema env db) (p : UUID × UUID → Bool) : Schema env (db.unlink p) :=
  { hs with
    links := hs.links.filter _,
    linked := fun l hl => hs.linked l (mem_unlink.mp hl).1 }

end Links

/-! ## Clean names -/

def TagEnv.keysOf (env : TagEnv) (names : List String) : Set String :=
  {k | ∃ raw ∈ names, trimSpace raw ≠ "" ∧ env.toLower (trimSpace raw) = k}

section Names

variable {env : TagEnv}

theorem trimmed_of_mem_cleanNames {seen names : List String} {name : String} (h : name ∈ cleanNames env seen names) :
    trimSpace name = name := by
  induction names generalizing seen with
  | nil => cases h
  | cons raw names ih =>
    simp only [cleanNames] at h
    split at h
    · exact ih h
    · split at h
      · exact ih h
      · rcases List.mem_cons.mp h with rfl | h
        · exact trimSpace_trimSpace raw
        · exact ih h

theorem exists_raw_of_mem_cleanNames {seen names : List String} {name : String} (h : name ∈ cleanNames env seen names) :
    ∃ raw ∈ names, trimSpace raw = name := by
  induction names generalizing seen with
  | nil => cases h
  | cons raw names ih =>
    simp only [cleanNames] at h
    split at h
    · exact (ih h).imp fun _ hraw => ⟨List.mem_cons_of_mem _ hraw.1, hraw.2⟩
    · split at h
      · exact (ih h).imp fun _ hraw => ⟨List.mem_cons_of_mem _ hraw.1, hraw.2⟩
      · rcases List.mem_cons.mp h with rfl | h
        · exact ⟨raw, List.mem_cons_self, rfl⟩
        · exact (ih h).imp fun _ hraw => ⟨List.mem_cons_of_mem _ hraw.1, hraw.2⟩

theorem keys_cleanNames (seen names : List String) (k : String) :
    (∃ name ∈ cleanNames env seen names, env.toLower name = k) ↔ k ∉ seen ∧ k ∈ env.keysOf names := by
  induction names generalizing seen with
  | nil => simp [cleanNames, TagEnv.keysOf]
  | cons raw names ih =>
    have hkeys : k ∈ env.keysOf (raw :: names) ↔
        (trimSpace raw ≠ "" ∧ env.toLower (trimSpace raw) = k) ∨ k ∈ env.keysOf names := by
      simp [TagEnv.keysOf]
    rw [hkeys]
    simp only [cleanNames]
    split
    · rename_i hblank
      rw [ih]
      simp [hblank]
    · rename_i hblank
      split
      · rename_i hseen
        rw [ih]
        refine and_congr_right fun hk => ⟨Or.inr, ?_⟩
        rintro (⟨-, rfl⟩ | h)
        · exact absurd hseen hk
        · exact h
      · rename_i hseen
        have hrest := ih (env.toLower (trimSpace raw) :: seen)
        rw [List.mem_cons, not_or] at hrest
        constructor
        · rintro ⟨name, hname, rfl⟩
          rcases List.mem_cons.mp hname with rfl | hname
          · exact ⟨hseen, Or.inl ⟨hblank, rfl⟩⟩
          · obtain ⟨⟨-, hns⟩, hmem⟩ := hrest.mp ⟨name, hname, rfl⟩
            exact ⟨hns, Or.inr hmem⟩
        · rintro ⟨hk, ⟨-, rfl⟩ | hmem⟩
          · exact ⟨_, List.mem_cons_self, rfl⟩
          · by_cases heq : k = env.toLower (trimSpace raw)
            · exact ⟨_, List.mem_cons_self, heq.symm⟩
            · obtain ⟨name, hname, hk'⟩ := hrest.mpr ⟨⟨heq, hk⟩, hmem⟩
              exact ⟨name, List.mem_cons_of_mem _ hname, hk'⟩

theorem keys_cleanTagNames (names : List String) (k : String) :
    (∃ name ∈ cleanTagNames env names, env.toLower name = k) ↔ k ∈ env.keysOf names := by
  unfold cleanTagNames
  rw [keys_cleanNames]
  simp

end Names

/-! ## What a mutation does to the links -/

/-- The links of one contact are rewritten, so that it has the tags that meet `has`. -/
structure Relinked (env : TagEnv) (db db' : TagDB) (contact : UUID) (has : UUID → Prop) : Prop where
  contacts : db'.contacts = db.contacts
  tags : db.tags <+: db'.tags
  schema : Schema env db'
  others : ∀ l, l.1 ≠ contact → (l ∈ db'.contactTags ↔ l ∈ db.contactTags)
  own : ∀ id, (contact, id) ∈ db'.contactTags ↔ has id

def Ensured (env : TagEnv) (db : TagDB) (ws : UUID) (name : String) (id : UUID) : Prop :=
  validText name = true ∧ Named env db ws id (env.toLower name)

section Mutations

variable {env : TagEnv} {db db' : TagDB} {ws contact : UUID}

theorem Ensured.mono {names : List String} {ids : List UUID} (h : List.Forall₂ (Ensured env db ws) names ids)
    (hsub : db.tags <+: db'.tags) : List.Forall₂ (Ensured env db' ws) names ids :=
  h.imp fun _ _ hn => ⟨hn.1, hn.2.mono hsub⟩

theorem ensureTagIDs_ok {names : List String} {ids : List UUID} (ha : env.Agree) (hs : Schema env db)
    (htrim : ∀ name ∈ names, trimSpace name = name) (h : ensureTagIDs env ws names db = .ok (ids, db')) :
    Extends env db db' ∧ List.Forall₂ (Ensured env db' ws) names ids := by
  induction names generalizing db ids with
  | nil =>
    cases h
    exact ⟨Extends.refl hs, .nil⟩
  | cons name names ih =>
    obtain ⟨⟨id, db₁⟩, hone, h⟩ := bind_ok h
    obtain ⟨⟨rest, db₂⟩, hmore, h⟩ := bind_ok h
    cases h
    obtain ⟨hvalid, hext, hnamed⟩ := ensureTagID_ok ha hs (htrim name List.mem_cons_self) hone
    obtain ⟨hext', hall⟩ := ih hext.schema (fun n hn => htrim n (List.mem_cons_of_mem _ hn)) hmore
    exact ⟨hext.trans hext', .cons ⟨hvalid, hnamed.mono hext'.tags⟩ hall⟩

theorem ensureTagIDs_of_ensured {names : List String} {ids : List UUID} (ha : env.Agree) (hs : Schema env db)
    (h : List.Forall₂ (Ensured env db ws) names ids) : ensureTagIDs env ws names db = .ok (ids, db) := by
  induction h with
  | nil => rfl
  | cons hone _ ih =>
    simp only [ensureTagIDs, ensureTagID_of_named ha hs hone.1 hone.2, ih, bind, Except.bind, pure, Except.pure]

theorem ensureTagIDs_of_fits {names : List String} (h : ∀ name ∈ names, fits 64 name = true) :
    ∃ r, ensureTagIDs env ws names db = .ok r := by
  induction names generalizing db with
  | nil => exact ⟨_, rfl⟩
  | cons name names ih =>
    obtain ⟨⟨id, db₁⟩, hone⟩ := @ensureTagID_of_fits env db ws name (h name List.mem_cons_self)
    obtain ⟨r, hr⟩ := @ih db₁ fun n hn => h n (List.mem_cons_of_mem _ hn)
    simp only [ensureTagIDs, hone, hr, bind, Except.bind]
    exact ⟨_, rfl⟩

theorem relinked_foldl {ids : List UUID} (hs : Schema env db) (hc : contactExists db ws contact = true)
    (h : ∀ id ∈ ids, ∃ k, Named env db ws id k) :
    Relinked env db (ids.foldl (fun db id => db.link contact id) db) contact fun id =>
      (contact, id) ∈ db.contactTags ∨ id ∈ ids := by
  induction ids generalizing db with
  | nil => exact ⟨rfl, List.prefix_rfl, hs, fun _ _ => Iff.rfl, fun _ => by simp⟩
  | cons id ids ih =>
    obtain ⟨k, hn⟩ := h id List.mem_cons_self
    have hc' : contactExists (db.link contact id) ws contact = true := by
      rw [contactExists, link_contacts]
      exact hc
    have hrest := ih (schema_link hs hc hn) hc' fun id' hid' => by
      obtain ⟨k', hn'⟩ := h id' (List.mem_cons_of_mem _ hid')
      exact ⟨k', hn'.mono (link_tags contact id ▸ List.prefix_rfl)⟩
    refine ⟨?_, ?_, hrest.schema, ?_, ?_⟩
    · exact hrest.contacts.trans (link_contacts _ _)
    · have := hrest.tags
      rwa [link_tags] at this
    · intro l hl
      rw [List.foldl_cons, hrest.others l hl, mem_link]
      refine or_iff_left ?_
      rintro rfl
      exact hl rfl
    · intro id'
      rw [List.foldl_cons, hrest.own id', mem_link, List.mem_cons, Prod.mk.injEq]
      simp [or_assoc]

theorem setTags_ok {set : List String} (ha : env.Agree) (hs : Schema env db) (hc : contactExists db ws contact = true)
    (h : setTags env db ws contact set = .ok db') :
    ∃ ids, List.Forall₂ (Ensured env db' ws) (cleanTagNames env set) ids ∧
      Relinked env db db' contact fun id => id ∈ ids := by
  obtain ⟨⟨ids, db₁⟩, hens, h⟩ := bind_ok h
  cases h
  obtain ⟨hext, hall⟩ := ensureTagIDs_ok ha hs (fun _ hn => trimmed_of_mem_cleanNames hn) hens
  have hc₁ : contactExists db₁ ws contact = true := by
    rw [contactExists, hext.contacts]
    exact hc
  refine ⟨ids, ?_⟩
  split
  · rename_i hnil
    subst hnil
    refine ⟨hall, hext.contacts, hext.tags, schema_unlink hext.schema _, ?_, ?_⟩
    · intro l hl
      rw [mem_unlink, hext.links]
      simp [hl]
    · intro id
      rw [mem_unlink]
      simp
  · have hnamed : ∀ id ∈ ids, ∃ k, Named env (db₁.unlink fun l => l.1 = contact && l.2 ∉ ids) ws id k := by
      intro id hid
      obtain ⟨name, -, hn⟩ := forall₂_right hall hid
      exact ⟨_, hn.2⟩
    have hfold := relinked_foldl (schema_unlink hext.schema _) hc₁ hnamed
    refine ⟨Ensured.mono hall hfold.tags, hfold.contacts.trans hext.contacts, hext.tags.trans hfold.tags,
      hfold.schema, ?_, ?_⟩
    · intro l hl
      rw [hfold.others l hl, mem_unlink, hext.links]
      simp [hl]
    · intro id
      rw [hfold.own id, mem_unlink]
      simp only [decide_true, Bool.true_and, decide_eq_false_iff_not, not_not]
      tauto

/-- The names of `names` that are not to be removed. -/
def kept (env : TagEnv) (removeLower names : List String) : List String :=
  names.filter fun name => env.toLower name ∉ removeLower

theorem kept_cons_of_mem {removeLower names : List String} {name : String} (h : env.toLower name ∈ removeLower) :
    kept env removeLower (name :: names) = kept env removeLower names :=
  List.filter_cons_of_neg (by simpa using h)

theorem kept_cons_of_not_mem {removeLower names : List String} {name : String} (h : env.toLower name ∉ removeLower) :
    kept env removeLower (name :: names) = name :: kept env removeLower names :=
  List.filter_cons_of_pos (by simpa using h)

theorem addTags_ok {removeLower names : List String} (ha : env.Agree) (hs : Schema env db)
    (hc : contactExists db ws contact = true) (htrim : ∀ name ∈ names, trimSpace name = name)
    (h : addTags env ws contact removeLower names db = .ok db') :
    ∃ ids, List.Forall₂ (Ensured env db' ws) (kept env removeLower names) ids ∧
      Relinked env db db' contact fun id => (contact, id) ∈ db.contactTags ∨ id ∈ ids := by
  induction names generalizing db with
  | nil =>
    cases h
    exact ⟨[], .nil, rfl, List.prefix_rfl, hs, fun _ _ => Iff.rfl, fun _ => by simp⟩
  | cons name names ih =>
    have htrim' : ∀ n ∈ names, trimSpace n = n := fun n hn => htrim n (List.mem_cons_of_mem _ hn)
    rw [addTags] at h
    split at h
    · rename_i hmem
      rw [kept_cons_of_mem hmem]
      exact ih hs hc htrim' h
    · rename_i hmem
      obtain ⟨⟨id, db₁⟩, hone, h⟩ := bind_ok h
      obtain ⟨hvalid, hext, hnamed⟩ := ensureTagID_ok ha hs (htrim name List.mem_cons_self) hone
      have hc₁ : contactExists db₁ ws contact = true := by
        rw [contactExists, hext.contacts]
        exact hc
      have hc₂ : contactExists (db₁.link contact id) ws contact = true := by
        rw [contactExists, link_contacts]
        exact hc₁
      obtain ⟨ids, hall, hrest⟩ := ih (schema_link hext.schema hc₁ hnamed) hc₂ htrim' h
      have htags := hrest.tags
      rw [link_tags] at htags
      rw [kept_cons_of_not_mem hmem]
      refine ⟨id :: ids, .cons ⟨hvalid, hnamed.mono htags⟩ hall, ?_, hext.tags.trans htags, hrest.schema, ?_, ?_⟩
      · rw [hrest.contacts, link_contacts, hext.contacts]
      · intro l hl
        rw [hrest.others l hl, mem_link, hext.links]
        refine or_iff_left ?_
        rintro rfl
        exact hl rfl
      · intro id'
        rw [hrest.own id', mem_link, hext.links, List.mem_cons, Prod.mk.injEq]
        simp [or_assoc]

theorem removeTags_ok {removeLower : List String} (ha : env.Agree) (hs : Schema env db)
    (h : removeTags env db ws contact removeLower = .ok db') :
    Relinked env db db' contact fun id =>
      (contact, id) ∈ db.contactTags ∧ ¬ ∃ k ∈ removeLower, Named env db ws id k := by
  unfold removeTags at h
  split at h
  · rename_i hnil
    cases h
    exact ⟨rfl, List.prefix_rfl, hs, fun _ _ => Iff.rfl, fun _ => by simp [hnil]⟩
  · split at h
    · cases h
    · cases h
      refine ⟨rfl, List.prefix_rfl, schema_unlink hs _, ?_, ?_⟩
      · intro l hl
        rw [mem_unlink]
        simp [hl]
      · intro id
        rw [mem_unlink]
        refine and_congr_right fun _ => ?_
        rw [← Bool.not_eq_true, not_iff_not]
        simp only [decide_true, Bool.true_and, List.any_eq_true, Bool.and_eq_true, decide_eq_true_eq]
        constructor
        · rintro ⟨t, ht, ⟨rfl, hws⟩, hk⟩
          rw [ha, ← key_of_trimmed hs ht] at hk
          exact ⟨_, hk, t, ht, rfl, hws, rfl⟩
        · rintro ⟨k, hk, t, ht, rfl, hws, rfl⟩
          rw [key_of_trimmed hs ht, ← ha] at hk
          exact ⟨t, ht, ⟨rfl, hws⟩, hk⟩

theorem addRemoveTags_ok {add remove : List String} (ha : env.Agree) (hs : Schema env db)
    (hc : contactExists db ws contact = true) (h : addRemoveTags env db ws contact add remove = .ok db') :
    ∃ ids, List.Forall₂ (Ensured env db' ws)
        (kept env ((cleanTagNames env remove).map env.toLower) (cleanTagNames env add)) ids ∧
      Relinked env db db' contact fun id => ((contact, id) ∈ db.contactTags ∨ id ∈ ids) ∧
        ¬ ∃ k ∈ (cleanTagNames env remove).map env.toLower, Named env db' ws id k := by
  obtain ⟨db₁, hadd, hremove⟩ := bind_ok h
  obtain ⟨ids, hall, hlinked⟩ := addTags_ok ha hs hc (fun _ hn => trimmed_of_mem_cleanNames hn) hadd
  have hcut := removeTags_ok ha hlinked.schema hremove
  have htags : db'.tags = db₁.tags := by
    unfold removeTags at hremove
    split at hremove
    · cases hremove
      rfl
    · split at hremove
      · cases hremove
      · cases hremove
        rfl
  refine ⟨ids, Ensured.mono hall hcut.tags, hcut.contacts.trans hlinked.contacts, hlinked.tags.trans hcut.tags,
    hcut.schema, ?_, ?_⟩
  · intro l hl
    rw [hcut.others l hl, hlinked.others l hl]
  · intro id
    rw [hcut.own id, hlinked.own id]
    simp only [Named, htags]

/-! ## Mutations that change nothing -/

theorem setTags_fixed {set : List String} {ids : List UUID} (ha : env.Agree) (hs : Schema env db)
    (hall : List.Forall₂ (Ensured env db ws) (cleanTagNames env set) ids)
    (hown : ∀ id, (contact, id) ∈ db.contactTags ↔ id ∈ ids) : setTags env db ws contact set = .ok db := by
  have hlink : ∀ l : List UUID, (∀ id ∈ l, id ∈ ids) → l.foldl (fun db id => db.link contact id) db = db := by
    intro l hl
    induction l with
    | nil => rfl
    | cons id l ih =>
      rw [List.foldl_cons, link_eq_self ((hown id).mpr (hl id List.mem_cons_self))]
      exact ih fun id' hid' => hl id' (List.mem_cons_of_mem _ hid')
  have hall_ids : ∀ l ∈ db.contactTags, l.1 = contact → l.2 ∈ ids := by
    rintro ⟨c, id⟩ hl rfl
    exact (hown id).mp hl
  unfold setTags
  rw [ensureTagIDs_of_ensured ha hs hall]
  show Except.ok _ = _
  split
  · rename_i hnil
    rw [unlink_eq_self fun l hl => ?_]
    have := hall_ids l hl
    rw [hnil] at this
    simpa using this
  · rw [unlink_eq_self fun l hl => ?_, hlink ids fun _ h => h]
    have := hall_ids l hl
    simpa using this

theorem addTags_fixed {removeLower names : List String} {ids : List UUID} (ha : env.Agree) (hs : Schema env db)
    (hall : List.Forall₂ (Ensured env db ws) (kept env removeLower names) ids)
    (hown : ∀ id ∈ ids, (contact, id) ∈ db.contactTags) : addTags env ws contact removeLower names db = .ok db := by
  induction names generalizing ids with
  | nil => rfl
  | cons name names ih =>
    rw [addTags]
    split
    · rename_i hmem
      rw [kept_cons_of_mem hmem] at hall
      exact ih hall hown
    · rename_i hmem
      rw [kept_cons_of_not_mem hmem] at hall
      cases hall with
      | cons hone hrest =>
        rw [ensureTagID_of_named ha hs hone.1 hone.2]
        show addTags env ws contact removeLower names (db.link contact _) = _
        rw [link_eq_self (hown _ List.mem_cons_self)]
        exact ih hrest fun id hid => hown id (List.mem_cons_of_mem _ hid)

theorem removeTags_fixed {removeLower : List String} (ha : env.Agree) (hs : Schema env db)
    (hvalid : removeLower = [] ∨ removeLower.any (fun s => !validText s) = false)
    (hnone : ∀ id, (contact, id) ∈ db.contactTags → ¬ ∃ k ∈ removeLower, Named env db ws id k) :
    removeTags env db ws contact removeLower = .ok db := by
  unfold removeTags
  split
  · rfl
  · rename_i hne
    rw [hvalid.resolve_left hne, if_neg (by decide), unlink_eq_self]
    rintro ⟨c, id⟩ hl
    by_cases hc : c = contact
    · subst hc
      rw [← Bool.not_eq_true]
      simp only [decide_true, Bool.true_and, List.any_eq_true, Bool.and_eq_true, decide_eq_true_eq]
      rintro ⟨t, ht, ⟨rfl, hws⟩, hk⟩
      rw [ha, ← key_of_trimmed hs ht] at hk
      exact hnone _ hl ⟨_, hk, t, ht, rfl, hws, rfl⟩
    · simp [hc]

theorem valid_of_removeTags {removeLower : List String} (h : removeTags env db ws contact removeLower = .ok db') :
    removeLower = [] ∨ removeLower.any (fun s => !validText s) = false := by
  unfold removeTags at h
  split at h
  · exact Or.inl ‹_›
  · split at h
    · cases h
    · rename_i hvalid
      exact Or.inr (Bool.eq_false_of_not_eq_true hvalid)

end Mutations

end PerGo.L3.Tags
