import Mathlib.Data.Set.Image
import Mathlib.Tactic.FinCases
import PerGo.Core.LTS
import PerGo.L3Chat.Tags

/-!
# The tags of a contact

The calls that write contacts, tags and their links, one after the other. In every state they
reach, `MutateContactTags` is set algebra on the names of a contact's tags, trimmed and in lower
case, for names that the tables take: at most 64 characters, none of them NUL. A name that they
do not take fails the call, which then changes nothing.

* `schema_reachable`: the constraints hold throughout.
* `mutation_algebra`: a call that succeeds leaves the set, or adds and removes; names that fit
  succeed.
-/
namespace PerGo.L4.ContactTags

open PerGo.Core PerGo.L1 PerGo.L2 PerGo.L3.Tags

/-! ## The system -/

def newContact (db : TagDB) (ws : UUID) (now : Time) : TagDB :=
  { db with contacts := db.contacts ++ [⟨freshKey (db.contacts.map (·.id)), ws, now⟩] }

/-- A contact goes with its links. mirrors repository/contact.go:350-365 -/
def deleteContact (db : TagDB) (ws contact : UUID) : TagDB :=
  if ws ≠ UUID.Nil ∧ contactExists db ws contact then
    { db with
      contacts := db.contacts.filter fun r => !(r.workspaceID = ws && r.id = contact),
      contactTags := db.contactTags.filter fun l => l.1 ≠ contact }
  else db

/-- What a merge does to the links. mirrors contact.go:479-495 -/
def mergeContacts (db : TagDB) (ws primary secondary : UUID) : TagDB :=
  if ws ≠ UUID.Nil ∧ primary ≠ secondary ∧ contactExists db ws primary ∧ contactExists db ws secondary then
    let carried := (db.contactTags.filter fun l => l.1 = secondary).map fun l => (primary, l.2)
    let db := { db with contactTags := db.contactTags ++ carried.filter fun l => l ∉ db.contactTags }
    deleteContact db ws secondary
  else db

/-- Contacts, tags and their links go with the workspace. mirrors repository/workspace.go:275-284 -/
def deleteWorkspace (db : TagDB) (ws : UUID) : TagDB :=
  { contacts := db.contacts.filter fun r => r.workspaceID ≠ ws,
    tags := db.tags.filter fun t => t.workspaceID ≠ ws,
    contactTags := db.contactTags.filter fun l => !(db.tags.any fun t => t.id = l.2 && t.workspaceID = ws) }

inductive Call
  | newContact (ws : UUID) (now : Time)
  | deleteContact (ws contact : UUID)
  | mergeContacts (ws primary secondary : UUID)
  | deleteWorkspace (ws : UUID)
  | createTag (ws : UUID) (name color : String)
  | deleteTag (ws tag : UUID)
  | addTagToContact (ws contact tag : UUID)
  | removeTagFromContact (ws contact tag : UUID)
  | mutateContactTags (now : Time) (ws contact : UUID) (set : Option (List String)) (add remove : List String)

/-- The tables after a call that may fail. -/
def orUnchanged {α : Type} (db : TagDB) (after_ : α → TagDB) : Except TagError α → TagDB
  | .ok a => after_ a
  | .error _ => db

def step (env : TagEnv) (db : TagDB) : Call → TagDB
  | .newContact ws now => newContact db ws now
  | .deleteContact ws contact => deleteContact db ws contact
  | .mergeContacts ws primary secondary => mergeContacts db ws primary secondary
  | .deleteWorkspace ws => deleteWorkspace db ws
  | .createTag ws name color => orUnchanged db Prod.snd (createTag env db ws name color)
  | .deleteTag ws tag => orUnchanged db id (deleteTag db ws tag)
  | .addTagToContact ws contact tag => orUnchanged db id (addTagToContact db ws contact tag)
  | .removeTagFromContact ws contact tag => orUnchanged db id (removeTagFromContact db ws contact tag)
  | .mutateContactTags now ws contact set add remove =>
    orUnchanged db Prod.snd (mutateContactTags env db now ws contact set add remove)

def system (env : TagEnv) : LTS TagDB Call := LTS.ofFn ⟨[], [], []⟩ fun db call => some (step env db call)

/-! ## The constraints -/

section Schema

variable {env : TagEnv} {db db' : TagDB}

theorem schema_filter (hs : Schema env db) (p : ContactRow → Bool) (q : Tag → Bool) (keep : UUID × UUID → Bool)
    (h : ∀ l ∈ db.contactTags, keep l = true → ∀ r ∈ db.contacts, ∀ t ∈ db.tags, r.id = l.1 → t.id = l.2 →
      r.workspaceID = t.workspaceID → p r = true ∧ q t = true) :
    Schema env ⟨db.contacts.filter p, db.tags.filter q, db.contactTags.filter keep⟩ := by
  refine { contacts := ?_, tags := ?_, names := ?_, trimmed := ?_, links := ?_, linked := ?_ }
  · exact hs.contacts.sublist (List.filter_sublist.map _)
  · exact hs.tags.sublist (List.filter_sublist.map _)
  · exact hs.names.sublist (List.filter_sublist.map _)
  · exact fun t ht => hs.trimmed t (List.mem_of_mem_filter ht)
  · exact hs.links.filter _
  · intro l hl
    obtain ⟨hmem, hkeep⟩ := List.mem_filter.mp hl
    obtain ⟨r, hr, t, ht, hrid, htid, hws⟩ := hs.linked l hmem
    obtain ⟨hp, hq⟩ := h l hmem hkeep r hr t ht hrid htid hws
    exact ⟨r, List.mem_filter.mpr ⟨hr, hp⟩, t, List.mem_filter.mpr ⟨ht, hq⟩, hrid, htid, hws⟩

theorem schema_newContact (hs : Schema env db) (ws : UUID) (now : Time) : Schema env (newContact db ws now) := by
  refine { hs with contacts := ?_, linked := ?_ }
  · refine nodup_concat hs.contacts fun r hr heq => freshKey_not_mem (db.contacts.map (·.id)) ?_
    have hmem : r.id ∈ db.contacts.map (·.id) := List.mem_map_of_mem hr
    exact (show r.id = freshKey (db.contacts.map (·.id)) from heq) ▸ hmem
  · intro l hl
    obtain ⟨r, hr, hrest⟩ := hs.linked l hl
    exact ⟨r, List.mem_append_left _ hr, hrest⟩

theorem schema_deleteContact (hs : Schema env db) (ws contact : UUID) : Schema env (deleteContact db ws contact) := by
  unfold deleteContact
  split
  · have h := schema_filter hs (fun r => !(r.workspaceID = ws && r.id = contact)) (fun _ => true)
      (fun l => l.1 ≠ contact) ?_
    · rwa [List.filter_true] at h
    · intro l _ hl r _ t _ hr _ _
      have hne : r.id ≠ contact := hr ▸ of_decide_eq_true hl
      exact ⟨by simp [hne], rfl⟩
  · exact hs

theorem schema_deleteWorkspace (hs : Schema env db) (ws : UUID) : Schema env (deleteWorkspace db ws) := by
  refine schema_filter hs (fun r => r.workspaceID ≠ ws) (fun t => t.workspaceID ≠ ws) _ ?_
  intro l _ hl r _ t ht _ htid hws
  have hne : t.workspaceID ≠ ws := by
    intro heq
    have hany : (db.tags.any fun t => t.id = l.2 && t.workspaceID = ws) = true :=
      List.any_eq_true.mpr ⟨t, ht, by simp [htid, heq]⟩
    rw [hany] at hl
    cases hl
  exact ⟨decide_eq_true (hws ▸ hne), decide_eq_true hne⟩

theorem schema_deleteTag {ws tag : UUID} (hs : Schema env db) (h : deleteTag db ws tag = .ok db') : Schema env db' := by
  unfold deleteTag at h
  split at h
  · cases h
  · simp only at h
    split at h
    · cases h
    · cases h
      have hkept := schema_filter hs (fun _ => true) (fun t => !(t.workspaceID = ws && t.id = tag)) (fun l => l.2 ≠ tag) ?_
      · rwa [List.filter_true] at hkept
      · intro l _ hl r _ t _ _ ht _
        have hne : t.id ≠ tag := ht ▸ of_decide_eq_true hl
        exact ⟨rfl, by simp [hne]⟩

theorem schema_mergeContacts (hs : Schema env db) (ws primary secondary : UUID) :
    Schema env (mergeContacts db ws primary secondary) := by
  unfold mergeContacts
  split
  · rename_i hok
    obtain ⟨-, -, hp, hsec⟩ := hok
    obtain ⟨rp, hrp, hrpid, hrpws⟩ := contactExists_iff.mp hp
    obtain ⟨rs, hrs, hrsid, hrsws⟩ := contactExists_iff.mp hsec
    refine schema_deleteContact ?_ ws secondary
    refine { hs with links := ?_, linked := ?_ }
    · rw [List.nodup_append]
      refine ⟨hs.links, ?_, ?_⟩
      · refine List.Nodup.filter _ ((hs.links.filter _).map_on ?_)
        rintro ⟨c, t⟩ hl ⟨c', t'⟩ hl' heq
        have hc : c = secondary := of_decide_eq_true (List.mem_filter.mp hl).2
        have hc' : c' = secondary := of_decide_eq_true (List.mem_filter.mp hl').2
        obtain rfl : t = t' := (Prod.mk.inj heq).2
        rw [hc, hc']
      · intro l hl l' hl' heq
        exact of_decide_eq_true (List.mem_filter.mp hl').2 (heq ▸ hl)
    · intro l hl
      rcases List.mem_append.mp hl with hl | hl
      · exact hs.linked l hl
      · obtain ⟨l₀, hl₀, rfl⟩ := List.mem_map.mp (List.mem_filter.mp hl).1
        obtain ⟨hmem, hsecond⟩ := List.mem_filter.mp hl₀
        obtain ⟨r, hr, t, ht, hrid, htid, hws⟩ := hs.linked l₀ hmem
        have hrs_eq : r = rs := eq_of_key_eq hs.contacts hr hrs (by
          rw [hrid, hrsid]
          exact of_decide_eq_true hsecond)
        exact ⟨rp, hrp, t, ht, hrpid, htid, by rw [hrpws, ← hrsws, ← hrs_eq, hws]⟩
  · exact hs

theorem schema_createTag {ws : UUID} {name color : String} {t : Tag} (ha : env.Agree) (hs : Schema env db)
    (h : createTag env db ws name color = .ok (t, db')) : Schema env db' := by
  unfold createTag at h
  split at h
  · cases h
  · simp only at h
    generalize (if color = "" then "#6B7280" else color) = color at h
    split at h
    · cases h
    · split at h
      · cases h
      · split at h
        · cases h
        · rename_i hnone
          cases h
          refine (insertTag_extends hs (trimSpace_trimSpace name) ?_).1.schema
          intro t ht hkey
          refine hnone ?_
          rw [(findTag_some_iff ha hs).mpr ⟨ht, hkey⟩]
          rfl

theorem getTagByID_ok {ws tag : UUID} {t : Tag} (h : getTagByID db ws tag = .ok t) :
    t ∈ db.tags ∧ t.id = tag ∧ t.workspaceID = ws := by
  unfold getTagByID at h
  split at h
  · cases h
  · cases hfind : db.tags.find? fun t => t.workspaceID = ws && t.id = tag with
    | none =>
      rw [hfind] at h
      cases h
    | some t' =>
      rw [hfind] at h
      cases h
      have hcond := List.find?_some hfind
      rw [Bool.and_eq_true, decide_eq_true_eq, decide_eq_true_eq] at hcond
      exact ⟨List.mem_of_find?_eq_some hfind, hcond.2, hcond.1⟩

theorem schema_addTagToContact {ws contact tag : UUID} (hs : Schema env db)
    (h : addTagToContact db ws contact tag = .ok db') : Schema env db' := by
  obtain ⟨t, ht, h⟩ := bind_ok h
  obtain ⟨hmem, hid, hws⟩ := getTagByID_ok ht
  cases hc : contactExists db ws contact with
  | false =>
    rw [hc] at h
    cases h
  | true =>
    rw [hc] at h
    cases h
    exact schema_link hs hc ⟨t, hmem, hid, hws, rfl⟩

theorem schema_removeTagFromContact {ws contact tag : UUID} (hs : Schema env db)
    (h : removeTagFromContact db ws contact tag = .ok db') : Schema env db' := by
  unfold removeTagFromContact at h
  split at h
  · cases h
  · split at h
    · cases h
    · cases h
      exact schema_unlink hs _

theorem mutateContactTags_ok {now : Time} {ws contact : UUID} {set : Option (List String)} {add remove names : List String}
    (h : mutateContactTags env db now ws contact set add remove = .ok (names, db')) :
    (ws ≠ UUID.Nil ∧ contact ≠ UUID.Nil ∧ contactExists db ws contact = true) ∧
      ∃ db₁, mutated env db ws contact set add remove = .ok db₁ ∧
        db' = db₁.touch now ws contact ∧ names = tagNames env db' ws contact := by
  unfold mutateContactTags at h
  split at h
  · cases h
  · rename_i hws
    split at h
    · cases h
    · rename_i hcontact
      split at h
      · cases h
      · rename_i hc
        obtain ⟨db₁, hrun, h⟩ := bind_ok h
        cases h
        exact ⟨⟨hws, hcontact, by simpa using hc⟩, db₁, hrun, rfl, rfl⟩

theorem mutateContactTags_of_mutated (now : Time) {ws contact : UUID} {set : Option (List String)}
    {add remove : List String} (hids : ws ≠ UUID.Nil ∧ contact ≠ UUID.Nil ∧ contactExists db ws contact = true)
    (h : mutated env db ws contact set add remove = .ok db') :
    mutateContactTags env db now ws contact set add remove =
      .ok (tagNames env (db'.touch now ws contact) ws contact, db'.touch now ws contact) := by
  obtain ⟨hws, hcontact, hc⟩ := hids
  unfold mutateContactTags
  rw [if_neg hws, if_neg hcontact, hc, h]
  rfl

theorem schema_touch (hs : Schema env db) (now : Time) (ws contact : UUID) :
    Schema env (db.touch now ws contact) := by
  refine { hs with contacts := ?_, linked := ?_ }
  · show (List.map (fun r : ContactRow => r.id) (updateWhere _ _ db.contacts)).Nodup
    have hkeep : ∀ r : ContactRow, (fun r : ContactRow => r.id) { r with updatedAt := now } = r.id := fun _ => rfl
    rw [map_updateWhere hkeep]
    exact hs.contacts
  · intro l hl
    obtain ⟨r, hr, t, ht, hid, hrest⟩ := hs.linked l hl
    refine ⟨_, List.mem_map_of_mem hr, t, ht, ?_, ?_⟩
    · split
      · exact hid
      · exact hid
    · split
      · exact hrest
      · exact hrest

theorem schema_mutateContactTags {now : Time} {ws contact : UUID} {set : Option (List String)}
    {add remove names : List String} (ha : env.Agree) (hs : Schema env db)
    (h : mutateContactTags env db now ws contact set add remove = .ok (names, db')) : Schema env db' := by
  obtain ⟨⟨-, -, hc⟩, db₁, hrun, rfl, -⟩ := mutateContactTags_ok h
  refine schema_touch ?_ now ws contact
  cases set with
  | some set =>
    obtain ⟨ids, -, hrel⟩ := setTags_ok ha hs hc hrun
    exact hrel.schema
  | none =>
    obtain ⟨ids, -, hrel⟩ := addRemoveTags_ok ha hs hc hrun
    exact hrel.schema

theorem orUnchanged_keeps {α : Type} {r : Except TagError α} {after_ : α → TagDB} (hs : Schema env db)
    (h : ∀ a, r = .ok a → Schema env (after_ a)) : Schema env (orUnchanged db after_ r) := by
  cases r with
  | error => exact hs
  | ok a => exact h a rfl

theorem schema_step (ha : env.Agree) (hs : Schema env db) (call : Call) : Schema env (step env db call) := by
  cases call with
  | newContact ws now => exact schema_newContact hs ws now
  | deleteContact ws contact => exact schema_deleteContact hs ws contact
  | mergeContacts ws primary secondary => exact schema_mergeContacts hs ws primary secondary
  | deleteWorkspace ws => exact schema_deleteWorkspace hs ws
  | createTag ws name color => exact orUnchanged_keeps hs fun _ h => schema_createTag ha hs h
  | deleteTag ws tag => exact orUnchanged_keeps hs fun _ h => schema_deleteTag hs h
  | addTagToContact ws contact tag => exact orUnchanged_keeps hs fun _ h => schema_addTagToContact hs h
  | removeTagFromContact ws contact tag => exact orUnchanged_keeps hs fun _ h => schema_removeTagFromContact hs h
  | mutateContactTags now ws contact set add remove =>
    exact orUnchanged_keeps hs fun _ h => schema_mutateContactTags ha hs h

theorem schema_reachable (ha : env.Agree) (hr : (system env).Reachable db) : Schema env db := by
  have hind : (system env).Inductive (Schema env) := by
    refine ⟨?_, ?_⟩
    · rintro _ rfl
      exact { contacts := List.nodup_nil, tags := List.nodup_nil, names := List.nodup_nil,
              trimmed := List.forall_mem_nil _, links := List.nodup_nil, linked := List.forall_mem_nil _ }
    · intro s call s' hs hstep
      obtain rfl := Option.some.inj hstep
      exact schema_step ha hs call
  exact hind.reachable hr

end Schema

/-! ## Set algebra -/

def tagsOf (db : TagDB) (contact : UUID) : Set Tag := {t | t ∈ db.tags ∧ (contact, t.id) ∈ db.contactTags}

/-- Their names as they are compared. -/
def tagKeys (env : TagEnv) (db : TagDB) (contact : UUID) : Set String := env.key '' tagsOf db contact

/-- The names a mutation asks for. -/
def asked (env : TagEnv) (old : Set String) (set : Option (List String)) (add remove : List String) : Set String :=
  match set with
  | some set => env.keysOf set
  | none => (old ∪ env.keysOf add) \ env.keysOf remove

section Algebra

variable {env : TagEnv} {db db' db₁ : TagDB} {ws contact : UUID}

theorem mem_tagKeys {k : String} :
    k ∈ tagKeys env db contact ↔ ∃ ws id, (contact, id) ∈ db.contactTags ∧ Named env db ws id k := by
  constructor
  · rintro ⟨t, ⟨ht, hl⟩, rfl⟩
    exact ⟨t.workspaceID, t.id, hl, t, ht, rfl, rfl, rfl⟩
  · rintro ⟨ws, id, hl, t, ht, rfl, -, rfl⟩
    exact ⟨t, ⟨ht, hl⟩, rfl⟩

theorem named_ws (hs : Schema env db) (hc : contactExists db ws contact = true) {id : UUID}
    (hl : (contact, id) ∈ db.contactTags) : ∃ k, Named env db ws id k := by
  obtain ⟨r, hr, t, ht, hrid, htid, hws⟩ := hs.linked _ hl
  obtain ⟨r', hr', hid', hws'⟩ := contactExists_iff.mp hc
  obtain rfl : r = r' := eq_of_key_eq hs.contacts hr hr' (hrid.trans hid'.symm)
  exact ⟨_, t, ht, htid, hws.symm.trans hws', rfl⟩

theorem tagsOf_other {has : UUID → Prop} (hs : Schema env db) (h : Relinked env db db' contact has) {c : UUID}
    (hc : c ≠ contact) : tagsOf db' c = tagsOf db c := by
  ext t
  constructor
  · rintro ⟨ht, hl⟩
    have hl₀ := (h.others (c, t.id) hc).mp hl
    obtain ⟨-, -, t₀, ht₀, -, hid, -⟩ := hs.linked _ hl₀
    obtain rfl : t₀ = t := eq_of_key_eq h.schema.tags (h.tags.subset ht₀) ht hid
    exact ⟨ht₀, hl₀⟩
  · rintro ⟨ht, hl⟩
    exact ⟨h.tags.subset ht, (h.others (c, t.id) hc).mpr hl⟩

theorem inj_key (hs : Schema env db) : Set.InjOn env.key (tagsOf db contact) := by
  rintro t ⟨ht, hl⟩ t' ⟨ht', hl'⟩ hk
  obtain ⟨r, hr, t₀, ht₀, hrid, hid, hws⟩ := hs.linked _ hl
  obtain ⟨r', hr', t₁, ht₁, hrid', hid', hws'⟩ := hs.linked _ hl'
  obtain rfl : r = r' := eq_of_key_eq hs.contacts hr hr' (hrid.trans hrid'.symm)
  obtain rfl : t₀ = t := eq_of_key_eq hs.tags ht₀ ht hid
  obtain rfl : t₁ = t' := eq_of_key_eq hs.tags ht₁ ht' hid'
  exact eq_of_key_eq hs.names ht ht' (by rw [hk, ← hws, hws'])

theorem exists_name {names : List String} {ids : List UUID} {id ws' : UUID} {k : String} (hs : Schema env db)
    (hall : List.Forall₂ (Ensured env db ws) names ids) (hid : id ∈ ids) (hn : Named env db ws' id k) :
    ∃ name ∈ names, env.toLower name = k := by
  obtain ⟨name, hname, -, hn'⟩ := forall₂_right hall hid
  exact ⟨name, hname, (Named.key_eq hs hn' hn).2⟩

theorem keys_setTags {set : List String} (ha : env.Agree) (hs : Schema env db)
    (hc : contactExists db ws contact = true) (h : setTags env db ws contact set = .ok db₁) :
    tagKeys env db₁ contact = env.keysOf set := by
  obtain ⟨ids, hall, hrel⟩ := setTags_ok ha hs hc h
  ext k
  rw [mem_tagKeys, ← keys_cleanTagNames]
  constructor
  · rintro ⟨ws', id, hl, hn⟩
    exact exists_name hrel.schema hall ((hrel.own id).mp hl) hn
  · rintro ⟨name, hname, rfl⟩
    obtain ⟨id, hid, -, hn⟩ := forall₂_left hall hname
    exact ⟨ws, id, (hrel.own id).mpr hid, hn⟩

theorem mem_removeLower {remove : List String} {k : String} :
    k ∈ (cleanTagNames env remove).map env.toLower ↔ k ∈ env.keysOf remove := by
  rw [List.mem_map, keys_cleanTagNames]

theorem keys_addRemoveTags {add remove : List String} (ha : env.Agree) (hs : Schema env db)
    (hc : contactExists db ws contact = true) (h : addRemoveTags env db ws contact add remove = .ok db₁) :
    tagKeys env db₁ contact = (tagKeys env db contact ∪ env.keysOf add) \ env.keysOf remove := by
  obtain ⟨ids, hall, hrel⟩ := addRemoveTags_ok ha hs hc h
  ext k
  rw [mem_tagKeys, Set.mem_sdiff, Set.mem_union, mem_tagKeys]
  constructor
  · rintro ⟨ws', id, hl, hn⟩
    obtain ⟨hfrom, hkept⟩ := (hrel.own id).mp hl
    rcases hfrom with hold | hadded
    · obtain ⟨k₀, hn₀⟩ := named_ws hs hc hold
      obtain ⟨rfl, rfl⟩ := Named.key_eq hrel.schema (hn₀.mono hrel.tags) hn
      exact ⟨Or.inl ⟨_, id, hold, hn₀⟩, fun hk => hkept ⟨_, mem_removeLower.mpr hk, hn⟩⟩
    · obtain ⟨name, hname, hn'⟩ := forall₂_right hall hadded
      obtain ⟨rfl, rfl⟩ := Named.key_eq hrel.schema hn'.2 hn
      have hclean := (keys_cleanTagNames add _).mp ⟨name, List.mem_of_mem_filter hname, rfl⟩
      exact ⟨Or.inr hclean, fun hk => hkept ⟨_, mem_removeLower.mpr hk, hn⟩⟩
  · rintro ⟨hfrom, hkept⟩
    have hstay : ∀ id, Named env db₁ ws id k →
        ¬ ∃ k' ∈ (cleanTagNames env remove).map env.toLower, Named env db₁ ws id k' := by
      rintro id hn ⟨k', hk', hn'⟩
      obtain ⟨-, rfl⟩ := Named.key_eq hrel.schema hn hn'
      exact hkept (mem_removeLower.mp hk')
    rcases hfrom with ⟨ws', id, hl, hn⟩ | hadd
    · obtain ⟨k₀, hn₀⟩ := named_ws hs hc hl
      obtain ⟨rfl, rfl⟩ := Named.key_eq hs hn₀ hn
      have hn₁ := hn.mono hrel.tags
      exact ⟨_, id, (hrel.own id).mpr ⟨Or.inl hl, hstay id hn₁⟩, hn₁⟩
    · obtain ⟨name, hname, rfl⟩ := (keys_cleanTagNames add k).mpr hadd
      have hmem : name ∈ kept env ((cleanTagNames env remove).map env.toLower) (cleanTagNames env add) :=
        List.mem_filter.mpr ⟨hname, decide_eq_true fun hk => hkept (mem_removeLower.mp hk)⟩
      obtain ⟨id, hid, -, hn⟩ := forall₂_left hall hmem
      exact ⟨ws, id, (hrel.own id).mpr ⟨Or.inr hid, hstay id hn⟩, hn⟩

theorem contactExists_touch (now : Time) (c : UUID) :
    contactExists (db.touch now ws contact) ws c = contactExists db ws c := by
  unfold contactExists TagDB.touch updateWhere
  rw [List.any_map]
  congr 1
  funext r
  simp only [Function.comp]
  split
  · rfl
  · rfl

theorem mutated_again {set : Option (List String)} {add remove : List String} (ha : env.Agree) (hs : Schema env db)
    (hc : contactExists db ws contact = true) (h : mutated env db ws contact set add remove = .ok db₁) (now : Time) :
    mutated env (db₁.touch now ws contact) ws contact set add remove = .ok (db₁.touch now ws contact) := by
  cases set with
  | some set =>
    obtain ⟨ids, hall, hrel⟩ := setTags_ok ha hs hc h
    exact setTags_fixed ha (schema_touch hrel.schema now ws contact) hall hrel.own
  | none =>
    obtain ⟨ids, hall, hrel⟩ := addRemoveTags_ok ha hs hc h
    obtain ⟨db₀, -, hremove⟩ := bind_ok h
    have hs' := schema_touch hrel.schema now ws contact
    have hadded : ∀ id ∈ ids, (contact, id) ∈ db₁.contactTags := by
      intro id hid
      refine (hrel.own id).mpr ⟨Or.inr hid, ?_⟩
      rintro ⟨k, hk, hn⟩
      obtain ⟨name, hname, hn'⟩ := forall₂_right hall hid
      obtain ⟨-, rfl⟩ := Named.key_eq hrel.schema hn'.2 hn
      exact of_decide_eq_true (List.mem_filter.mp hname).2 hk
    have hadd : addTags env ws contact _ _ (db₁.touch now ws contact) = .ok (db₁.touch now ws contact) :=
      addTags_fixed ha hs' hall hadded
    show (addTags env ws contact _ _ (db₁.touch now ws contact) >>= fun db => removeTags env db ws contact _) = _
    rw [hadd]
    exact removeTags_fixed ha hs' (valid_of_removeTags hremove) fun id hl => ((hrel.own id).mp hl).2

end Algebra

/-! ## The calls that succeed -/

/-- The tables take the names: at most 64 characters to be inserted, and no NUL. -/
def Storable (env : TagEnv) (set : Option (List String)) (add remove : List String) : Prop :=
  match set with
  | some set => ∀ raw ∈ set, fits 64 (trimSpace raw) = true
  | none => (∀ raw ∈ add, fits 64 (trimSpace raw) = true) ∧
      ∀ raw ∈ remove, validText (env.toLower (trimSpace raw)) = true

section Success

variable {env : TagEnv} {db : TagDB} {ws contact : UUID}

theorem fits_of_mem_cleanTagNames {names : List String} (h : ∀ raw ∈ names, fits 64 (trimSpace raw) = true) :
    ∀ name ∈ cleanTagNames env names, fits 64 name = true := by
  intro name hname
  obtain ⟨raw, hraw, rfl⟩ := exists_raw_of_mem_cleanNames hname
  exact h raw hraw

theorem removeTags_of_valid {removeLower : List String}
    (h : removeLower.any (fun s => !validText s) = false) : ∃ db', removeTags env db ws contact removeLower = .ok db' := by
  unfold removeTags
  split
  · exact ⟨_, rfl⟩
  · rw [h]
    exact ⟨_, rfl⟩

theorem addTags_of_fits {removeLower names : List String} (h : ∀ name ∈ names, fits 64 name = true) :
    ∃ db', addTags env ws contact removeLower names db = .ok db' := by
  induction names generalizing db with
  | nil => exact ⟨db, rfl⟩
  | cons name names ih =>
    have hrest : ∀ n ∈ names, fits 64 n = true := fun n hn => h n (List.mem_cons_of_mem _ hn)
    rw [addTags]
    split
    · exact ih hrest
    · obtain ⟨⟨id, db₁⟩, hone⟩ := @ensureTagID_of_fits env db ws name (h name List.mem_cons_self)
      obtain ⟨db', h'⟩ := @ih (db₁.link contact id) hrest
      exact ⟨db', by rw [hone]; exact h'⟩

theorem mutated_of_storable {set : Option (List String)} {add remove : List String}
    (h : Storable env set add remove) : ∃ db', mutated env db ws contact set add remove = .ok db' := by
  cases set with
  | some set =>
    obtain ⟨⟨ids, db₁⟩, hens⟩ := @ensureTagIDs_of_fits env db ws _ (@fits_of_mem_cleanTagNames env _ h)
    simp only [mutated, setTags, hens]
    exact ⟨_, rfl⟩
  | none =>
    obtain ⟨db₁, hadd⟩ := @addTags_of_fits env db ws contact ((cleanTagNames env remove).map env.toLower) _
      (@fits_of_mem_cleanTagNames env _ h.1)
    have hvalid : ((cleanTagNames env remove).map env.toLower).any (fun s => !validText s) = false := by
      rw [← Bool.not_eq_true, List.any_eq_true]
      rintro ⟨k, hk, hbad⟩
      obtain ⟨name, hname, rfl⟩ := List.mem_map.mp hk
      obtain ⟨raw, hraw, rfl⟩ := exists_raw_of_mem_cleanNames hname
      rw [h.2 raw hraw] at hbad
      cases hbad
    obtain ⟨db', hremove⟩ := @removeTags_of_valid env db₁ ws contact _ hvalid
    exact ⟨db', by rw [mutated, addRemoveTags, hadd]; exact hremove⟩

end Success

/-- What a mutation that succeeds does. -/
structure Algebra (env : TagEnv) (db db' : TagDB) (ws contact : UUID) (set : Option (List String))
    (add remove names : List String) : Prop where
  own : tagKeys env db' contact = asked env (tagKeys env db contact) set add remove
  distinct : Set.InjOn env.key (tagsOf db' contact)
  again : ∀ now, ∃ db'', mutateContactTags env db' now ws contact set add remove = .ok (names, db'') ∧
    db''.tags = db'.tags ∧ db''.contactTags = db'.contactTags
  catalogue : ∀ t ∈ db.tags, t ∈ db'.tags
  others : ∀ c, c ≠ contact → tagsOf db' c = tagsOf db c

theorem relinked_mutated {env : TagEnv} {db db₁ : TagDB} {ws contact : UUID} {set : Option (List String)}
    {add remove : List String} (ha : env.Agree) (hs : Schema env db) (hc : contactExists db ws contact = true)
    (h : mutated env db ws contact set add remove = .ok db₁) : ∃ has, Relinked env db db₁ contact has := by
  cases set with
  | some set =>
    obtain ⟨ids, -, hrel⟩ := setTags_ok ha hs hc h
    exact ⟨_, hrel⟩
  | none =>
    obtain ⟨ids, -, hrel⟩ := addRemoveTags_ok ha hs hc h
    exact ⟨_, hrel⟩

/-- Mutations are set algebra, and names that the tables take can be asked for. -/
theorem mutation_algebra {env : TagEnv} {db : TagDB} (ha : env.Agree) (hr : (system env).Reachable db) (now : Time)
    (ws contact : UUID) (set : Option (List String)) (add remove : List String) :
    (∀ names db', mutateContactTags env db now ws contact set add remove = .ok (names, db') →
      Algebra env db db' ws contact set add remove names) ∧
    (ws ≠ UUID.Nil → contact ≠ UUID.Nil → contactExists db ws contact = true → Storable env set add remove →
      ∃ names db', mutateContactTags env db now ws contact set add remove = .ok (names, db')) := by
  have hs := schema_reachable ha hr
  refine ⟨?_, ?_⟩
  · intro names db' h
    have hs' := schema_mutateContactTags ha hs h
    obtain ⟨⟨hws, hcontact, hc⟩, db₁, hrun, rfl, rfl⟩ := mutateContactTags_ok h
    obtain ⟨has, hrel⟩ := relinked_mutated ha hs hc hrun
    refine { own := ?_, distinct := inj_key hs', again := ?_, catalogue := hrel.tags.subset, others := ?_ }
    · show tagKeys env db₁ contact = _
      cases set with
      | some set => exact keys_setTags ha hs hc hrun
      | none => exact keys_addRemoveTags ha hs hc hrun
    · intro now'
      have hc₁ : contactExists (db₁.touch now ws contact) ws contact = true := by
        rw [contactExists_touch, contactExists, hrel.contacts]
        exact hc
      have hagain := mutateContactTags_of_mutated now' ⟨hws, hcontact, hc₁⟩ (mutated_again ha hs hc hrun now)
      exact ⟨_, hagain, rfl, rfl⟩
    · intro c hne
      exact tagsOf_other hs hrel hne
  · intro hws hcontact hc hstore
    obtain ⟨db₁, hrun⟩ := @mutated_of_storable env db ws contact _ _ _ hstore
    exact ⟨_, _, mutateContactTags_of_mutated now ⟨hws, hcontact, hc⟩ hrun⟩

/-! ## Samples -/

def latinEnv : TagEnv := ⟨latinCasing, latinCasing.toLower, fun a b => a ≤ b⟩

def oneContact : TagDB := newContact ⟨[], [], []⟩ 1 0

theorem oneContact_reachable : (system latinEnv).Reachable oneContact :=
  ⟨_, [.newContact 1 0], rfl, .cons rfl (.nil _)⟩

theorem spellings_algebra :
    ∃ names db', mutateContactTags latinEnv oneContact 1 1 1 (some [" VIP ", "vip", ""]) [] [] = .ok (names, db') ∧
      tagKeys latinEnv db' 1 = latinEnv.keysOf [" VIP ", "vip", ""] := by
  have h := mutation_algebra (fun _ => rfl) oneContact_reachable 1 1 1 (some [" VIP ", "vip", ""]) [] []
  obtain ⟨names, db', hrun⟩ := h.2 (by decide) (by decide) (by decide) (by
    intro raw hraw
    fin_cases hraw <;> decide +kernel)
  exact ⟨names, db', hrun, (h.1 names db' hrun).own⟩

def longName : String := String.ofList (List.replicate 65 'a')

theorem longName_toList : longName.toList = List.replicate 65 'a' := String.toList_ofList

theorem ensureTagID_longName : ensureTagID latinEnv oneContact 1 longName = .error (.text "ensure tag") := by
  have hvalid : validText longName = true := by
    rw [validText, longName_toList]
    decide
  have hfits : fits 64 longName = false := by
    rw [fits, hvalid, longName_toList]
    decide
  rw [ensureTagID, hvalid, hfits]
  rfl

/-- A name of 65 characters fails the call. -/
theorem long_name_refused :
    ¬ ∀ env db, TagEnv.Agree env → (system env).Reachable db → ∀ now ws contact set add remove,
      contactExists db ws contact = true →
        ∃ names db', mutateContactTags env db now ws contact set add remove = .ok (names, db') ∧
          tagKeys env db' contact = asked env (tagKeys env db contact) set add remove := by
  intro h
  obtain ⟨names, db', hrun, -⟩ := h latinEnv oneContact (fun _ => rfl) oneContact_reachable 1 1 1 (some [longName]) [] []
    (by decide)
  obtain ⟨-, db₁, hset, -⟩ := mutateContactTags_ok hrun
  have htrim : trimSpace longName = longName := trimSpace_ofList (by decide)
  have hclean : cleanTagNames latinEnv [longName] = [longName] := by
    have hne : longName ≠ "" := by
      intro heq
      have hchars := congrArg String.toList heq
      rw [longName_toList] at hchars
      exact absurd hchars (by simp)
    simp only [cleanTagNames, cleanNames, htrim, hne, if_false, List.not_mem_nil]
  obtain ⟨⟨ids, db₂⟩, hens, -⟩ := bind_ok hset
  rw [hclean] at hens
  obtain ⟨⟨id, db₃⟩, hone, -⟩ := bind_ok hens
  rw [ensureTagID_longName] at hone
  cases hone

end PerGo.L4.ContactTags
