import PerGo.L3Chat.ContactsCsv

/-!
# Contacts written and read

The writer has the columns `id`, ..., `tags`, `created_at` and then the attributes. The reader knows no column
`id`, and takes all from `tags` on as tags: each contact comes back with its old id as an attribute, with the
time and the attributes as tags, and its e-mail has become an identity.

* `records_keep_id`: what the import writes of such a file into an empty workspace.
* `contacts_file_iff`: a list comes back as it was exactly when it is empty; an export by tag writes the
  contacts of the tag exactly when there is one, or no contact at all.
* `inverts_of_no_return`: what `encoding/csv` is taken to do.
-/
namespace PerGo.L4.ContactsFile

open PerGo.Core PerGo.L1 PerGo.L2 PerGo.L3 PerGo.L3.ContactsCsv

section Properties

variable (env : ContactsCsv.Env) (db : ContactDB) (ws : UUID)

structure Restored (c : Contact) (r : ContactRecord) : Prop where
  workspace : r.workspaceID = ws
  name : r.name = c.name
  email : r.email = c.email
  identity : ∀ i, c.identities.head? = some i →
    ⟨r.id, ws, i.channel, i.senderIdentity⟩ ∈ db.identities
  tags : ∀ t, t ∈ Tags.tagNames env.tagEnv db.tagDB ws r.id ↔ t ∈ c.tags
  attributes : ∀ k, r.attributes.lookup k = c.attributes.lookup k

/-- The file of the contacts, read into the workspace, has them all. -/
def RoundTrip (contacts : List Contact) : Prop :=
  ∀ c ∈ contacts, ∃ db' result,
    importContactsCSV env db ws (writeContactsCSV env.rfc3339 contacts) = .ok (db', result) ∧
      ∃ r ∈ db'.contacts, Restored env db' ws c r

/-- `encoding/csv` reads what it has written. -/
def Inverts (contacts : List Contact) : Prop :=
  Csv.records importReader (writeContactsCSV env.rfc3339 contacts) = (contactRows env.rfc3339 contacts).map .ok

def tagged (tagIDStr : String) : List ContactRecord :=
  match env.parseUUID tagIDStr with
  | some tagID => db.contacts.filter (hasTag db ws tagID)
  | none => []

/-- The contacts that are written are those that have the tag. -/
def ExportsTagged (tagIDStr : String) : Prop :=
  ((exportedContacts env db ws tagIDStr).map (·.id)).Perm ((tagged env db ws tagIDStr).map (·.id))

/-- Every contact of the workspace has an attribute `id`. -/
def HasID : Prop := ∀ r ∈ db.contacts, r.workspaceID = ws → (r.attributes.lookup "id").isSome

end Properties

variable {env : ContactsCsv.Env} {db : ContactDB} {ws : UUID} {contacts : List Contact}

/-! ## The attribute `id` -/

/-- A small letter is its own small letter. -/
def KeepsSmall (casing : Casing) : Prop := ∀ c, 'a' ≤ c → c ≤ 'z' → casing.lower c = c

theorem headerKey_id (h : KeepsSmall env.tagEnv.casing) : headerKey env "id" = "id" := by
  have htrim : trimSpace "id" = "id" := by decide +kernel
  rw [headerKey, htrim]
  refine Casing.lowered_of_forall fun c hc => ?_
  have hletter : c = 'i' ∨ c = 'd' := by simpa using hc
  rcases hletter with rfl | rfl
  · exact h _ (by decide) (by decide)
  · exact h _ (by decide) (by decide)

theorem columns_ne_zero (h : KeepsSmall env.tagEnv.casing) (keys : List String) (col : Column) :
    columns env (fixedHeaders ++ keys) col ≠ some 0 := by
  intro hcol
  obtain ⟨header, hheader, hkey⟩ := columns_sound hcol
  obtain rfl : header = "id" := (Option.some.inj hheader).symm
  have hnone : columnOf "id" = none := by decide +kernel
  rw [headerKey_id h, hnone] at hkey
  cases hkey

theorem not_isMapped_zero (h : KeepsSmall env.tagEnv.casing) (keys : List String) :
    isMapped (columns env (fixedHeaders ++ keys)) 0 = false := by
  have hne := columns_ne_zero h keys
  have htags : (columns env (fixedHeaders ++ keys) .tags).any (fun tagsIdx => tagsIdx ≤ 0) = false := by
    cases htag : columns env (fixedHeaders ++ keys) .tags with
    | none => rfl
    | some i =>
      have hpos : i ≠ 0 := by
        rintro rfl
        exact hne .tags htag
      simpa using hpos
  rw [isMapped, htags]
  simp [(hne _).symm]

theorem addAttribute_keeps (idx : Column → Option Nat) (record : List String) (attrs : StrMap) (h : String × Nat)
    (hid : (attrs.lookup "id").isSome) : ((addAttribute env idx record attrs h).lookup "id").isSome := by
  unfold addAttribute
  split
  · exact hid
  · dsimp only
    split
    · rw [show (setVariable attrs _ _).lookup "id" = _ from Assoc.lookup_setKey attrs _ "id" _]
      split
      · rfl
      · exact hid
    · exact hid

theorem customAttributes_id (h : KeepsSmall env.tagEnv.casing) (keys : List String) (c : Contact) :
    ((customAttributes env (fixedHeaders ++ keys) (columns env (fixedHeaders ++ keys))
      (contactRow env.rfc3339 keys c)).lookup "id").isSome := by
  have hkeeps : ∀ (hs : List (String × Nat)) (idx : Column → Option Nat) (record : List String) (attrs : StrMap),
      (attrs.lookup "id").isSome → ((hs.foldl (addAttribute env idx record) attrs).lookup "id").isSome := by
    intro hs idx record
    induction hs with
    | nil => exact fun _ hid => hid
    | cons h hs ih => exact fun attrs hid => ih _ (addAttribute_keeps idx record attrs h hid)
  have hfirst : addAttribute env (columns env (fixedHeaders ++ keys)) (contactRow env.rfc3339 keys c) [] ("id", 0) =
      setVariable [] "id" c.id.string := by
    have hvalue : column (some 0) (contactRow env.rfc3339 keys c) = c.id.string := UUID.trimSpace_string c.id
    have hne : c.id.string ≠ "" := by
      intro hempty
      have hpos := UUID.string_ne_empty c.id
      rw [hempty] at hpos
      exact absurd hpos (by decide)
    rw [addAttribute, if_neg (by rw [not_isMapped_zero h]; decide)]
    dsimp only
    rw [hvalue, if_pos hne, headerKey_id h]
  have hzip : ∃ rest, (fixedHeaders ++ keys).zipIdx = ("id", 0) :: rest := ⟨_, rfl⟩
  obtain ⟨rest, hrest⟩ := hzip
  rw [customAttributes, hrest, List.foldl_cons, hfirst]
  exact hkeeps rest _ _ _ rfl

theorem hasID_update {contact : UUID} {attrs : StrMap} (hattrs : (attrs.lookup "id").isSome)
    (h : ∀ r ∈ db.contacts, r.workspaceID = ws → (r.attributes.lookup "id").isSome ∨ r.id = contact) :
    HasID (db.updateAttributes env ws contact attrs) ws := by
  intro r hr hws
  obtain ⟨r₀, hr₀, rfl⟩ := mem_updateWhere hr
  by_cases hcontact : isContact ws contact r₀ = true
  · rw [if_pos hcontact]
    exact hattrs
  · rw [if_neg hcontact] at hws ⊢
    rcases h r₀ hr₀ hws with hid | hid
    · exact hid
    · exact absurd (by simp [isContact, hws, hid]) hcontact

theorem addTagsByName_contacts {contact : UUID} {names : List String} {r : ContactRecord}
    (h : r ∈ (db.addTagsByName env ws contact names).contacts) :
    ∃ r₀ ∈ db.contacts, r.id = r₀.id ∧ r.workspaceID = r₀.workspaceID ∧ r.attributes = r₀.attributes := by
  unfold ContactDB.addTagsByName at h
  split at h
  · exact ⟨r, h, rfl, rfl, rfl⟩
  · obtain ⟨r₀, hr₀, rfl⟩ := mem_updateWhere h
    refine ⟨r₀, hr₀, ?_⟩
    split
    · exact ⟨rfl, rfl, rfl⟩
    · exact ⟨rfl, rfl, rfl⟩

theorem importRecord_hasID (hcase : KeepsSmall env.tagEnv.casing) (keys : List String) (phoneIdx n : Nat) (c : Contact)
    (h : HasID db ws) :
    HasID (importRecord env db ws (fixedHeaders ++ keys) phoneIdx n (contactRow env.rfc3339 keys c)).1 ws := by
  have hattrs := customAttributes_id hcase keys c
  have hne : customAttributes env (fixedHeaders ++ keys) (columns env (fixedHeaders ++ keys))
      (contactRow env.rfc3339 keys c) ≠ [] := by
    intro hnil
    rw [hnil] at hattrs
    cases hattrs
  unfold importRecord
  dsimp only
  split
  · exact h
  · split
    · rename_i db₁ hresolve
      intro r hr
      rcases contacts_resolve env db n _ with hsame | ⟨id, hfound, -⟩
      · rw [hresolve] at hsame
        rw [show db₁.contacts = db.contacts from hsame] at hr
        exact h r hr
      · rw [hresolve] at hfound
        cases hfound
    · rename_i contact db₁ hresolve
      have hcontact : ∀ r ∈ db₁.contacts, r.workspaceID = ws → (r.attributes.lookup "id").isSome ∨ r.id = contact := by
        intro r hr hws
        rcases contacts_resolve env db n _ with hsame | ⟨id, hfound, hnew⟩
        · rw [hresolve] at hsame
          rw [show db₁.contacts = db.contacts from hsame] at hr
          exact Or.inl (h r hr hws)
        · rw [hresolve] at hfound hnew
          rw [show db₁.contacts = _ from hnew, List.mem_append, List.mem_singleton] at hr
          rcases hr with hr | rfl
          · exact Or.inl (h r hr hws)
          · exact Or.inr (Option.some.inj hfound).symm
      refine hasID_update hattrs fun r hr hws => ?_
      split at hr
      · split at hr
        · obtain ⟨r₀, hr₀, hid, hws₀, hattr⟩ := addTagsByName_contacts hr
          rw [hid, hattr]
          exact hcontact r₀ hr₀ (hws₀ ▸ hws)
        · exact hcontact r hr hws
      · exact hcontact r hr hws

theorem records_keep_id (hcase : KeepsSmall env.tagEnv.casing) (keys : List String) (phoneIdx : Nat)
    (contacts : List Contact) (n : Nat) (result : ImportResult) (h : HasID db ws) :
    HasID (importRecords env ws (fixedHeaders ++ keys) phoneIdx n db result
      ((contacts.map (contactRow env.rfc3339 keys)).map .ok)).1 ws := by
  induction contacts generalizing n db result with
  | nil => exact h
  | cons c contacts ih =>
    have hstep := importRecord_hasID hcase keys phoneIdx n c h
    rw [List.map_cons, List.map_cons, importRecords]
    dsimp only
    cases hrecord : importRecord env db ws (fixedHeaders ++ keys) phoneIdx n (contactRow env.rfc3339 keys c) with
    | mk db₁ imported =>
      rw [hrecord] at hstep
      cases imported with
      | true => exact ih (n + 1) _ hstep
      | false => exact ih (n + 1) _ hstep

/-! ## The two halves -/

/-- Attributes have names of their own. -/
def OwnKeys (contacts : List Contact) : Prop :=
  ∀ c ∈ contacts, ∀ k ∈ c.attributes.map (·.1), k ∉ fixedHeaders

theorem roundTrip_iff (hcase : KeepsSmall env.tagEnv.casing) (hempty : ∀ r ∈ db.contacts, r.workspaceID ≠ ws)
    (hkeys : OwnKeys contacts) (hcsv : Inverts env contacts) : RoundTrip env db ws contacts ↔ contacts = [] := by
  constructor
  · intro h
    by_contra hne
    obtain ⟨c, hc⟩ := List.exists_mem_of_ne_nil contacts hne
    obtain ⟨db', result, himport, r, hr, hrestored⟩ := h c hc
    have hstart : HasID db ws := fun r hr hws => absurd hws (hempty r hr)
    -- every contact that was imported has an attribute `id`
    have hid : HasID db' ws := by
      unfold importContactsCSV at himport
      rw [hcsv, contactRows] at himport
      split at himport
      · cases himport
      · rw [List.map_cons] at himport
        dsimp only at himport
        split at himport
        · cases himport
        · rename_i phoneIdx hphone
          have hall := records_keep_id hcase (attrKeys contacts) phoneIdx contacts 0 ⟨0, 0, 0⟩ hstart
          have hdb := congrArg Prod.fst (Except.ok.inj himport)
          rwa [hdb] at hall
    have hsome := hid r hr hrestored.workspace
    rw [hrestored.attributes "id"] at hsome
    obtain ⟨v, hv⟩ := Option.isSome_iff_exists.mp hsome
    have hmem := List.mem_map_of_mem (f := (·.1)) (Assoc.mem_of_lookup hv)
    exact hkeys c hc "id" hmem (by decide)
  · rintro rfl c hc
    cases hc

theorem tagged_of_parse {tagIDStr : String} {tagID : UUID} (h : env.parseUUID tagIDStr = some tagID) :
    tagged env db ws tagIDStr = db.contacts.filter (hasTag db ws tagID) := by rw [tagged, h]

theorem tagged_of_not_parse {tagIDStr : String} (h : env.parseUUID tagIDStr = none) : tagged env db ws tagIDStr = [] := by
  rw [tagged, h]

theorem exportedContacts_eq {tagIDStr : String} (htag : tagIDStr ≠ "") :
    exportedContacts env db ws tagIDStr =
      if tagged env db ws tagIDStr = [] then searchContacts env db ws 10000
      else ((tagged env db ws tagIDStr).mergeSort fun a b => decide (b.createdAt ≤ a.createdAt)).map fun r =>
        contactOf env db (identitiesOf db ws r.id) r := by
  unfold exportedContacts
  rw [if_pos htag]
  dsimp only
  cases hparse : env.parseUUID tagIDStr with
  | none => rw [tagged_of_not_parse hparse, if_pos rfl, if_pos rfl]
  | some tagID =>
    have hlisted : listContactsByTag env db ws tagID = [] ↔ tagged env db ws tagIDStr = [] := by
      rw [tagged_of_parse hparse, listContactsByTag, List.map_eq_nil_iff]
      constructor
      · intro h
        exact (h ▸ List.mergeSort_perm _ _ : List.Perm [] _).nil_eq.symm
      · intro h
        rw [h, List.mergeSort_nil]
    by_cases hnone : tagged env db ws tagIDStr = []
    · rw [if_pos hnone, if_pos (hlisted.mpr hnone)]
    · rw [if_neg hnone, if_neg (mt hlisted.mp hnone), tagged_of_parse hparse]
      rfl

theorem exportsTagged_iff {tagIDStr : String} (htag : tagIDStr ≠ "") :
    ExportsTagged env db ws tagIDStr ↔ tagged env db ws tagIDStr ≠ [] ∨ db.contacts.filter (searchable ws) = [] := by
  unfold ExportsTagged
  rw [exportedContacts_eq htag]
  by_cases hnone : tagged env db ws tagIDStr = []
  · rw [if_pos hnone, hnone, List.map_nil, List.perm_nil, List.map_eq_nil_iff, searchContacts, List.map_eq_nil_iff,
      List.take_eq_nil_iff]
    simp
  · rw [if_neg hnone, List.map_map]
    refine iff_of_true ?_ (Or.inl hnone)
    exact (List.mergeSort_perm _ _).map _

/-- No list but the empty one comes back, and an export by tag is right when some contact has the tag, or there is
no contact. -/
theorem contacts_file_iff (hcase : KeepsSmall env.tagEnv.casing) (hempty : ∀ r ∈ db.contacts, r.workspaceID ≠ ws)
    (hkeys : OwnKeys contacts) (hcsv : Inverts env contacts) :
    (RoundTrip env db ws contacts ↔ contacts = []) ∧
      ∀ db' ws' tagIDStr, tagIDStr ≠ "" → (ExportsTagged env db' ws' tagIDStr ↔
        tagged env db' ws' tagIDStr ≠ [] ∨ db'.contacts.filter (searchable ws') = []) :=
  ⟨roundTrip_iff hcase hempty hkeys hcsv, fun _ _ _ htag => exportsTagged_iff htag⟩

/-! ## `encoding/csv` -/

theorem inverts_of_no_return
    (h : ∀ fields ∈ contactRows env.rfc3339 contacts, ∀ field ∈ fields, '\r' ∉ field.toList) : Inverts env contacts := by
  refine Csv.records_writeAll (r := importReader) ⟨by decide, by decide, by decide⟩ (by decide) rfl ?_ h
  intro fields hfields
  have hseven : 7 ≤ fields.length := by
    rcases List.mem_cons.mp hfields with rfl | hfields
    · simp [fixedHeaders]
    · obtain ⟨c, -, rfl⟩ := List.mem_map.mp hfields
      simp [contactRow]
  constructor
  · rintro rfl
    exact absurd hseven (by decide)
  · rintro rfl
    exact absurd hseven (by decide)

/-! ## One contact -/

theorem latinCasing_keepsSmall : KeepsSmall latinCasing := by
  intro c hlow hhigh
  have hlow' : 97 ≤ c.toNat := hlow
  have hhigh' : c.toNat ≤ 122 := hhigh
  have hcapital : ¬ ('A' ≤ c ∧ c ≤ 'Z') := by
    intro hcapital
    have hle : c.toNat ≤ 90 := hcapital.2
    omega
  show lowerChar c = c
  rw [lowerChar, if_neg hcapital, if_neg (by omega), if_neg (by omega)]

def ana : Contact :=
  { id := 11, name := "Ana", email := some "ana@exemplo.pt", attributes := [("cidade", "Lisboa")], tags := ["vip"]
    createdAt := some 1767323045000000000, identities := [⟨"whatsapp", "5511999990000"⟩] }

def fileEnv : ContactsCsv.Env :=
  { tagEnv := ⟨latinCasing, latinCasing.toLower, fun a b => decide (a ≤ b)⟩, now := 1767400000000000000
    rfc3339 := fun _ => "2026-01-02T03:04:05Z"
    parseUUID := fun s => if s = UUID.string 21 then some 21 else none
    resolveEnv := fun n => ⟨false, 100 + n, 0, 0⟩ }

def anaImported : ContactDB :=
  { contacts :=
      [⟨100, 1, "Ana", none, [("id", "00000000-0000-0000-0000-00000000000b")], 1767400000000000000, 1767400000000000000⟩]
    identities := [⟨100, 1, "whatsapp", "5511999990000"⟩, ⟨100, 1, "phone", "ana@exemplo.pt"⟩]
    tags := [⟨1, 1, "vip", "#6B7280"⟩, ⟨2, 1, "2026-01-02T03:04:05Z", "#6B7280"⟩, ⟨3, 1, "Lisboa", "#6B7280"⟩]
    contactTags := [(100, 1), (100, 2), (100, 3)] }

/-- Ana's id has become an attribute; her e-mail, a phone; her city, a tag. And the export by a tag that no contact
has writes her too. -/
theorem ana_comes_back_changed :
    importContactsCSV fileEnv ⟨[], [], [], []⟩ 1 (writeContactsCSV fileEnv.rfc3339 [ana]) = .ok (anaImported, ⟨1, 1, 0⟩) ∧
      ¬ RoundTrip fileEnv ⟨[], [], [], []⟩ 1 [ana] ∧
      (exportedContacts fileEnv anaImported 1 (UUID.string 21)).map (·.id) = [100] ∧
      ¬ ExportsTagged fileEnv anaImported 1 (UUID.string 21) := by
  have himport : importContactsCSV fileEnv ⟨[], [], [], []⟩ 1 (writeContactsCSV fileEnv.rfc3339 [ana]) =
      .ok (anaImported, ⟨1, 1, 0⟩) := by decide +kernel
  have htagged : tagged fileEnv anaImported 1 (UUID.string 21) = [] := by decide +kernel
  have hexported : (exportedContacts fileEnv anaImported 1 (UUID.string 21)).map (·.id) = [100] := by
    rw [exportedContacts_eq (by decide +kernel), if_pos htagged]
    rfl
  refine ⟨himport, ?_, hexported, ?_⟩
  · intro h
    obtain ⟨db', result, heq, r, hr, hrestored⟩ := h ana (List.mem_singleton_self ana)
    rw [himport] at heq
    cases heq
    rw [List.mem_singleton.mp hr] at hrestored
    exact absurd (hrestored.attributes "id") (by decide +kernel)
  · unfold ExportsTagged
    rw [hexported, htagged]
    intro h
    exact absurd h.length_eq (by decide)

/-- A name with quotes, a comma and a line feed is read back. -/
theorem ana_read_back : Inverts fileEnv [{ ana with name := "Ana \"Nita\", Lda.\nLisboa" }, ana] :=
  inverts_of_no_return (by decide +kernel)

/-- The assumptions hold of her file, and of the tables before and after. -/
theorem ana_file :
    ([ana] ≠ [] ∧ ¬ RoundTrip fileEnv ⟨[], [], [], []⟩ 1 [ana]) ∧
      ¬ ExportsTagged fileEnv anaImported 1 (UUID.string 21) := by
  have hinverts : Inverts fileEnv [ana] := by
    unfold Inverts
    decide +kernel
  have hkeys : OwnKeys [ana] := by
    intro c hc k hk
    rw [List.mem_singleton.mp hc] at hk
    rw [List.mem_singleton.mp hk]
    decide
  have hempty : ∀ r ∈ ([] : List ContactRecord), r.workspaceID ≠ 1 := fun _ hr => nomatch hr
  have hfile := @contacts_file_iff fileEnv ⟨[], [], [], []⟩ 1 [ana] latinCasing_keepsSmall hempty hkeys hinverts
  refine ⟨⟨by simp, fun h => absurd (hfile.1.mp h) (by simp)⟩, ?_⟩
  intro h
  rcases (hfile.2 anaImported 1 (UUID.string 21) (by decide +kernel)).mp h with hsome | hnone
  · exact hsome (by decide +kernel)
  · exact absurd hnone (by decide +kernel)

end PerGo.L4.ContactsFile
