import PerGo.L3Chat.ContactMerge

/-!
# What a contact merge conserves

`Conserved` is what an operator who merges two contacts expects of the tables: the primary
has every message, identity and tag of both, nothing refers to the secondary, and nobody
else notices.

The statements of `MergeContacts` move the identities and chats of the secondary *in the
workspace of the merge*; the deletion of the contact takes the rest with it. `Inside` says
that there is no rest. No constraint says so: an outbound message recorded for the contact of
another workspace makes a chat of the sender's workspace with that contact.

* `conversations_conserved`: a failed merge changes nothing, a successful one conserves
  everything exactly when the secondary's identities and messages are `Inside`;
* `overlapping_merge` and `merge_loses_foreign_chat`: runs with and without it.
-/
namespace PerGo.L4.MergedContact

open PerGo.Core PerGo.L1 PerGo.L2 PerGo.L3.Recorder PerGo.L3.ContactMerge

def attributesOf (db : ContactDB) (id : UUID) : StrMap :=
  ((db.contacts.find? fun c => c.id = id).map (·.attributes)).getD []

/-- Where a message of the chat `c` is afterwards: `chatID` is the id of its chat. -/
def Rehomed (db' : ContactDB) (primary secondary : UUID) (c : ChatState) (chatID : UUID) : Prop :=
  if c.contactID = primary ∨ c.contactID = secondary then
    ∃ c' ∈ db'.chats, c'.id = chatID ∧ c'.contactID = primary ∧ c'.workspaceID = c.workspaceID ∧
      c'.connectionID = c.connectionID
  else chatID = c.id

/-- The two contacts are one in `db'`. -/
structure Conserved (db db' : ContactDB) (primary secondary : UUID) : Prop where
  /-- the messages are the same but for their chat -/
  messages : ∃ chatOf : ChatMessage → UUID,
    db'.messages = db.messages.map (fun m => { m with chatID := chatOf m }) ∧
      ∀ m ∈ db.messages, ∀ c ∈ db.chats, c.id = m.chatID → Rehomed db' primary secondary c (chatOf m)
  identities : ∀ i ∈ db.identities, i.contactID = primary ∨ i.contactID = secondary →
    { i with contactID := primary } ∈ db'.identities
  tags : ∀ t ∈ db.tags, t.1 = primary ∨ t.1 = secondary → (primary, t.2) ∈ db'.tags
  noContact : ∀ c ∈ db'.contacts, c.id ≠ secondary
  noIdentity : ∀ i ∈ db'.identities, i.contactID ≠ secondary
  noChat : ∀ c ∈ db'.chats, c.contactID ≠ secondary
  noTag : ∀ t ∈ db'.tags, t.1 ≠ secondary
  noRef : ∀ r ∈ db'.refs, r.contactID ≠ secondary
  unique : Schema db'
  attributes : ∀ key, (attributesOf db' primary).lookup key =
    ((attributesOf db primary).lookup key).or ((attributesOf db secondary).lookup key)
  /-- the rows of the other contacts -/
  others : ∀ id, id ≠ primary → id ≠ secondary →
    db'.contacts.filter (fun c => c.id = id) = db.contacts.filter (fun c => c.id = id) ∧
    db'.identities.filter (fun i => i.contactID = id) = db.identities.filter (fun i => i.contactID = id) ∧
    db'.chats.filter (fun c => c.contactID = id) = db.chats.filter (fun c => c.contactID = id) ∧
    db'.tags.filter (fun t => t.1 = id) = db.tags.filter (fun t => t.1 = id) ∧
    db'.refs.filter (fun r => r.contactID = id) = db.refs.filter (fun r => r.contactID = id)

instance (db : ContactDB) (ws secondary : UUID) (m : ChatMessage) : Decidable (Stray db ws secondary m) :=
  inferInstanceAs (Decidable (∃ c ∈ db.chats, c.id = m.chatID ∧ c.contactID = secondary ∧ c.workspaceID ≠ ws))

/-- The identities of the secondary, and its chats with a message, are rows of `ws`. -/
structure Inside (db : ContactDB) (ws secondary : UUID) : Prop where
  identities : ∀ i ∈ db.identities, i.contactID = secondary → i.workspaceID = ws
  messages : ∀ m ∈ db.messages, ¬Stray db ws secondary m

theorem lookup_concatAttributes (left right : StrMap) (key : String) :
    (concatAttributes left right).lookup key = (right.lookup key).or (left.lookup key) := by
  have hleft : (left.filter fun e => right.lookup e.1 = none).lookup key =
      if right.lookup key = none then left.lookup key else none := by
    induction left with
    | nil => simp
    | cons e left ih =>
      obtain ⟨k, v⟩ := e
      by_cases hk : key = k
      · subst hk
        by_cases hr : right.lookup key = none
        · simp [hr]
        · simp [hr, ih]
      · have hkb : (key == k) = false := by simpa using hk
        by_cases hr : right.lookup k = none
        · simp [hr, List.lookup_cons, hkb, ih]
        · simp [hr, List.lookup_cons, hkb, ih]
  unfold concatAttributes
  rw [List.lookup_append, hleft]
  cases right.lookup key with
  | none => simp
  | some v => simp

section Merge

variable {db : ContactDB} {ws primary secondary : UUID}

theorem newChatOf_spec (hdb : Schema db) (hne : primary ≠ secondary) {m : ChatMessage} {c : ChatState}
    (hc : c ∈ db.chats) (hid : c.id = m.chatID) (hstray : ¬Stray db ws secondary m) :
    Rehomed (merged db ws primary secondary) primary secondary c (newChatOf db ws primary secondary m) := by
  have hfind : db.chats.find? (fun d => d.id = m.chatID) = some c := (find?_key_iff hdb.chats).mpr ⟨hc, hid⟩
  cases htwin : twin db ws primary secondary c with
  | some d =>
    obtain ⟨hcs, hcw, hd, hslot⟩ := twin_some htwin
    have hnew : newChatOf db ws primary secondary m = d.id := by simp [newChatOf, hfind, htwin]
    have hdp : d.contactID = primary := congrArg (fun k => k.2.2) hslot
    have hds : d.contactID ≠ secondary := by rw [hdp]; exact hne
    unfold Rehomed
    rw [if_pos (.inr hcs), hnew]
    refine ⟨d, mem_merged_chats.mpr ⟨d, hd, twin_other hds, (reassigned_other hds).symm, hds⟩, rfl, hdp, ?_, ?_⟩
    · exact (congrArg (fun k => k.1) hslot).trans hcw.symm
    · exact congrArg (fun k => k.2.1) hslot
  | none =>
    have hnew : newChatOf db ws primary secondary m = c.id := by simp [newChatOf, hfind, htwin, hid]
    unfold Rehomed
    rw [hnew]
    split
    · rename_i hps
      obtain ⟨hrid, hrw, hrconn⟩ := reassigned_spec ws primary secondary c
      have hcontact : (reassigned ws primary secondary c).contactID = primary := by
        rcases hps with hp | hs
        · have hcs : c.contactID ≠ secondary := by rw [hp]; exact hne
          rw [reassigned_other hcs, hp]
        · have hw : c.workspaceID = ws := by
            by_contra hw
            exact hstray ⟨c, hc, hid, hs, hw⟩
          unfold reassigned
          rw [if_pos ⟨hs, hw⟩]
      refine ⟨reassigned ws primary secondary c, mem_merged_chats.mpr ⟨c, hc, htwin, rfl, ?_⟩, hrid, hcontact, hrw,
        hrconn⟩
      rw [hcontact]
      exact hne
    · rfl

theorem merged_schema (hdb : Schema db) (hne : primary ≠ secondary) : Schema (merged db ws primary secondary) where
  contacts := by
    have hids : (mergeAttributes db ws primary secondary).contacts.map (·.id) = db.contacts.map (·.id) := by
      apply map_updateWhere
      intro c
      rfl
    have hnodup : ((mergeAttributes db ws primary secondary).contacts.map (·.id)).Nodup := by
      rw [hids]
      exact hdb.contacts
    exact hnodup.sublist (List.Sublist.map _ List.filter_sublist)
  chats := by
    have hids : ((db.chats.filter fun c => !(twin db ws primary secondary c).isSome).map
        (reassigned ws primary secondary)).map (·.id) =
        (db.chats.filter fun c => !(twin db ws primary secondary c).isSome).map (·.id) := by
      rw [List.map_map]
      exact List.map_congr_left fun c _ => (reassigned_spec ws primary secondary c).1
    rw [merged_chats]
    refine List.Nodup.sublist (List.Sublist.map _ List.filter_sublist) ?_
    rw [hids]
    exact hdb.chats.sublist (List.Sublist.map _ List.filter_sublist)
  slots := by
    rw [merged_chats]
    refine List.Nodup.sublist (List.Sublist.map _ List.filter_sublist) ?_
    rw [List.map_map]
    have hchats : db.chats.Nodup := List.Nodup.of_map _ hdb.chats
    refine List.Nodup.map_on ?_ (hchats.filter _)
    intro c hc d hd h
    obtain ⟨hc, hct⟩ := List.mem_filter.mp hc
    obtain ⟨hd, hdt⟩ := List.mem_filter.mp hd
    exact reassigned_inj hdb hc hd (by simpa using hct) (by simpa using hdt) h
  identities := by
    rw [merged_identities hdb hne]
    refine List.Nodup.sublist (List.Sublist.map _ List.filter_sublist) ?_
    rw [map_updateWhere (by intro i; rfl)]
    exact hdb.identities
  tags := by
    rw [merged_tags]
    refine List.Nodup.sublist List.filter_sublist (List.nodup_append'.mpr ⟨hdb.tags, ?_, ?_⟩)
    · refine List.Nodup.filter _ (List.Nodup.map_on ?_ (hdb.tags.filter _))
      intro t ht t' ht' h
      have hs : t.1 = secondary := by simpa using (List.mem_filter.mp ht).2
      have hs' : t'.1 = secondary := by simpa using (List.mem_filter.mp ht').2
      exact Prod.ext (hs.trans hs'.symm) (Prod.mk.inj h).2
    · intro t ht ht'
      have hnew : t ∉ db.tags := by simpa using (List.mem_filter.mp ht').2
      exact hnew ht

theorem merged_attributes (hne : primary ≠ secondary) (hp : workspaceOf db primary = some ws)
    (key : String) :
    (attributesOf (merged db ws primary secondary) primary).lookup key =
      ((attributesOf db primary).lookup key).or ((attributesOf db secondary).lookup key) := by
  obtain ⟨p, hfind, hpw⟩ := Option.map_eq_some_iff.mp hp
  have hpid : p.id = primary := by simpa using List.find?_some hfind
  have hupd : (mergeAttributes db ws primary secondary).contacts.find? (fun c => c.id = primary) =
      some { p with attributes := concatAttributes (attributesOf db secondary) p.attributes } := by
    unfold mergeAttributes
    refine (find?_updateWhere (by intro c; rfl) _).trans ?_
    rw [hfind]
    simp only [Option.map_some, hpid, hpw, decide_true, Bool.and_self, if_true]
    rfl
  have hkeep : (merged db ws primary secondary).contacts.find? (fun c => c.id = primary) =
      (mergeAttributes db ws primary secondary).contacts.find? (fun c => c.id = primary) := by
    have hform : (merged db ws primary secondary).contacts =
        (mergeAttributes db ws primary secondary).contacts.filter
          fun c => !(decide (c.id = secondary) && decide (c.workspaceID = ws)) := rfl
    rw [hform, List.find?_filter]
    congr 1
    funext c
    by_cases hc : c.id = primary
    · have hcs : c.id ≠ secondary := by rw [hc]; exact hne
      simp [hc, hne]
    · simp [hc]
  unfold attributesOf at hupd ⊢
  rw [hkeep, hupd, hfind]
  exact lookup_concatAttributes ..

theorem no_contact (hdb : Schema db) (hs : workspaceOf db secondary = some ws) :
    ∀ c ∈ (merged db ws primary secondary).contacts, c.id ≠ secondary := by
  intro c' hc' hid
  obtain ⟨hc', hkept⟩ := List.mem_filter.mp
    (show c' ∈ (mergeAttributes db ws primary secondary).contacts.filter
      fun c => !(decide (c.id = secondary) && decide (c.workspaceID = ws)) from hc')
  obtain ⟨c, hc, hupd⟩ := mem_updateWhere hc'
  -- an update leaves the id and the workspace
  have hcols : c'.id = c.id ∧ c'.workspaceID = c.workspaceID := by
    rw [hupd]
    split <;> exact ⟨rfl, rfl⟩
  obtain ⟨r, hfind, hrw⟩ := Option.map_eq_some_iff.mp hs
  have hrid : r.id = secondary := by simpa using List.find?_some hfind
  have hcr : c = r :=
    eq_of_key_eq hdb.contacts hc (List.mem_of_find?_eq_some hfind) (hcols.1.symm.trans (hid.trans hrid.symm))
  have hws : c'.workspaceID = ws := hcols.2.trans ((congrArg ContactRow.workspaceID hcr).trans hrw)
  simp [hid, hws] at hkept

theorem others_unchanged (hdb : Schema db) (hne : primary ≠ secondary) {id : UUID} (hp : id ≠ primary)
    (hs : id ≠ secondary) :
    let db' := merged db ws primary secondary
    db'.contacts.filter (fun c => c.id = id) = db.contacts.filter (fun c => c.id = id) ∧
    db'.identities.filter (fun i => i.contactID = id) = db.identities.filter (fun i => i.contactID = id) ∧
    db'.chats.filter (fun c => c.contactID = id) = db.chats.filter (fun c => c.contactID = id) ∧
    db'.tags.filter (fun t => t.1 = id) = db.tags.filter (fun t => t.1 = id) ∧
    db'.refs.filter (fun r => r.contactID = id) = db.refs.filter (fun r => r.contactID = id) := by
  intro db'
  have hkeep : ∀ x : UUID, decide (x = id) = true → (!decide (x = secondary)) = true := by
    intro x hx
    have hxid : x = id := by simpa using hx
    simp [hxid, hs]
  refine ⟨?_, ?_, ?_, ?_, ?_⟩
  · have hdeleted : db'.contacts.filter (fun c => c.id = id) =
        (mergeAttributes db ws primary secondary).contacts.filter fun c => c.id = id := by
      apply filter_filter_of_imp
      intro c _ hc
      have hcid : c.id = id := by simpa using hc
      simp [hcid, hs]
    rw [hdeleted]
    apply filter_updateWhere
    intro c _ hc
    have hcp : c.id = primary := by simpa using (Bool.and_eq_true_iff.mp hc).1
    simp [hcp, Ne.symm hp]
  · rw [show db'.identities = _ from merged_identities hdb hne, filter_filter_of_imp fun i _ => hkeep i.contactID]
    apply filter_updateWhere
    intro i _ hi
    have his : i.contactID = secondary := by simpa using (Bool.and_eq_true_iff.mp hi).1
    simp [his, Ne.symm hs, Ne.symm hp]
  · have hdeleted : db'.chats.filter (fun c => c.contactID = id) =
        (updateWhere (fun c => c.contactID = secondary && c.workspaceID = ws)
          (fun c : ChatState => { c with contactID := primary })
          (db.chats.filter fun c => !(twin db ws primary secondary c).isSome)).filter
          fun c => c.contactID = id := filter_filter_of_imp fun c _ => hkeep c.contactID
    rw [hdeleted, filter_updateWhere]
    · apply filter_filter_of_imp
      intro c _ hc
      have hcid : c.contactID = id := by simpa using hc
      have hcs : c.contactID ≠ secondary := by rw [hcid]; exact hs
      simp [twin_other hcs]
    · intro c _ hc
      have hcs : c.contactID = secondary := by simpa using (Bool.and_eq_true_iff.mp hc).1
      simp [hcs, Ne.symm hs, Ne.symm hp]
  · rw [show db'.tags = _ from merged_tags, filter_filter_of_imp fun t _ => hkeep t.1, List.filter_append]
    have hcarried : ((((db.tags.filter fun t => t.1 = secondary).map fun t => (primary, t.2)).filter
        fun t => t ∉ db.tags).filter fun t => t.1 = id) = [] := by
      rw [List.filter_eq_nil_iff]
      intro t ht
      obtain ⟨t', -, rfl⟩ := List.mem_map.mp (List.mem_filter.mp ht).1
      simp [Ne.symm hp]
    rw [hcarried, List.append_nil]
  · exact filter_filter_of_imp fun r _ => hkeep r.contactID

theorem identity_moved (hdb : Schema db) (hne : primary ≠ secondary) {i : ContactIdentity} (hi : i ∈ db.identities)
    (hps : i.contactID = primary ∨ i.contactID = secondary) :
    { i with contactID := primary } ∈ (merged db ws primary secondary).identities ↔
      (i.contactID = secondary → i.workspaceID = ws) := by
  rw [merged_identities hdb hne, List.mem_filter]
  constructor
  · rintro ⟨hmem, -⟩ his
    obtain ⟨j, hj, hij⟩ := mem_updateWhere hmem
    split at hij
    · rename_i hmoved
      have hjw : j.workspaceID = ws := by simpa using (Bool.and_eq_true_iff.mp hmoved).2
      exact (congrArg ContactIdentity.workspaceID hij).trans hjw
    · -- a row of the primary with the key of the secondary's
      have hkey : (j.workspaceID, j.channel, j.senderIdentity) = (i.workspaceID, i.channel, i.senderIdentity) := by
        rw [← hij]
      have hji := eq_of_key_eq hdb.identities hj hi hkey
      have hp : primary = j.contactID := congrArg ContactIdentity.contactID hij
      exact absurd (hp.trans ((congrArg ContactIdentity.contactID hji).trans his)) hne
  · intro hw
    refine ⟨List.mem_map.mpr ⟨i, hi, ?_⟩, by simp [hne]⟩
    by_cases his : i.contactID = secondary
    · simp [his, hw his]
    · have hip : i.contactID = primary := hps.resolve_right his
      simp [his, ← hip]

theorem tag_carried (hne : primary ≠ secondary) {t : UUID × UUID} (ht : t ∈ db.tags)
    (hps : t.1 = primary ∨ t.1 = secondary) : (primary, t.2) ∈ (merged db ws primary secondary).tags := by
  rw [merged_tags, List.mem_filter, List.mem_append]
  refine ⟨?_, by simp [hne]⟩
  rcases hps with hp | hs
  · exact .inl (by rw [← hp]; exact ht)
  · by_cases hold : (primary, t.2) ∈ db.tags
    · exact .inl hold
    · refine .inr (List.mem_filter.mpr ⟨List.mem_map.mpr ⟨t, List.mem_filter.mpr ⟨ht, by simpa using hs⟩, rfl⟩, ?_⟩)
      simpa using hold

theorem messages_kept_iff (hdb : Schema db) (hne : primary ≠ secondary) :
    (merged db ws primary secondary).messages =
        db.messages.map (fun m => { m with chatID := newChatOf db ws primary secondary m }) ↔
      ∀ m ∈ db.messages, ¬Stray db ws secondary m := by
  rw [merged_messages, List.filter_eq_self, List.forall_mem_map]
  exact forall₂_congr fun m _ => survives_iff hdb hne m

theorem conserved_iff (hdb : Schema db) (hne : primary ≠ secondary) (hp : workspaceOf db primary = some ws)
    (hs : workspaceOf db secondary = some ws) :
    Conserved db (merged db ws primary secondary) primary secondary ↔ Inside db ws secondary := by
  constructor
  · intro h
    refine ⟨fun i hi his => (identity_moved hdb hne hi (.inr his)).mp (h.identities i hi (.inr his)) his, ?_⟩
    -- the cascades only delete messages, so none was deleted
    obtain ⟨chatOf, hmsgs, -⟩ := h.messages
    rw [← messages_kept_iff hdb hne, merged_messages]
    apply List.Sublist.eq_of_length List.filter_sublist
    rw [← merged_messages, hmsgs, List.length_map, List.length_map]
  · intro h
    have hno : ∀ x : UUID, (!decide (x = secondary)) = true → x ≠ secondary := by simp
    exact {
      messages := ⟨_, (messages_kept_iff hdb hne).mpr h.messages,
        fun m hm c hc hid => newChatOf_spec hdb hne hc hid (h.messages m hm)⟩
      identities := fun i hi hps => (identity_moved hdb hne hi hps).mpr (h.identities i hi)
      tags := fun t ht hps => tag_carried hne ht hps
      noContact := no_contact hdb hs
      noIdentity := fun i hi => by
        rw [merged_identities hdb hne] at hi
        exact hno _ (List.mem_filter.mp hi).2
      noChat := fun c hc => by
        obtain ⟨-, -, -, -, hcs⟩ := mem_merged_chats.mp hc
        exact hcs
      noTag := fun t ht => by
        rw [merged_tags] at ht
        exact hno _ (List.mem_filter.mp ht).2
      noRef := fun r hr => hno _ (List.mem_filter.mp hr).2
      unique := merged_schema hdb hne
      attributes := merged_attributes hne hp
      others := fun id hidp hids => others_unchanged hdb hne hidp hids }

end Merge

/-- A merge that fails changes nothing; one that succeeds makes the two contacts one, exactly
when all the secondary has is in the workspace of the merge. -/
theorem conversations_conserved (db : ContactDB) (hdb : Schema db) (ws primary secondary : UUID)
    (dbErr : Option String) :
    (∀ e, (mergeContacts db ws primary secondary dbErr).1 = .error e →
      (mergeContacts db ws primary secondary dbErr).2 = db) ∧
    ((mergeContacts db ws primary secondary dbErr).1 = .ok () →
      (Conserved db (mergeContacts db ws primary secondary dbErr).2 primary secondary ↔ Inside db ws secondary)) := by
  refine ⟨fun e he => mergeContacts_error he, ?_⟩
  intro hok
  obtain ⟨hne, hp, hs, hdb'⟩ := mergeContacts_ok hok
  rw [hdb']
  exact conserved_iff hdb hne hp hs

def chatRow (id ws contact : UUID) : ChatState :=
  { id := id, workspaceID := ws, connectionID := some 5, contactID := contact, channel := "telegram", status := .open_,
    snoozedUntil := none, ai := ⟨.active, none⟩, serviceWindowExpiresAt := none, entryPointType := .standard,
    unreadCount := 0, lastMessageAt := 0, lastInboundAt := none, lastOutboundAt := none }

def messageRow (id chat ws : UUID) (uid : String) : ChatMessage :=
  { id := id, chatID := chat, workspaceID := ws, uid := uid, direction := .inbound, senderType := .contact,
    senderName := "Ana", senderID := "+5511", body := "oi", mediaURL := none, mediaType := none, isPrivate := false,
    reactions := [], replyToUID := none, metadata := [], createdAt := 0 }

def overlapping : ContactDB :=
  { contacts := [⟨10, 1, [("city", "Recife")]⟩, ⟨11, 1, [("city", "Natal"), ("plan", "pro")]⟩],
    identities := [⟨10, 1, "telegram", "ana"⟩, ⟨11, 1, "whatsapp_cloud", "5511"⟩],
    chats := [chatRow 20 1 10, chatRow 21 1 11], messages := [messageRow 30 20 1 "a", messageRow 31 21 1 "b"],
    tags := [(10, 40), (11, 40), (11, 41)], refs := [⟨.typebotSessions, 11⟩] }

theorem overlapping_merge :
    (mergeContacts overlapping 1 10 11 none).1 = .ok () ∧
      Conserved overlapping (mergeContacts overlapping 1 10 11 none).2 10 11 := by
  have hdb : Schema overlapping :=
    ⟨by decide +kernel, by decide +kernel, by decide +kernel, by decide +kernel, by decide +kernel⟩
  have hok : (mergeContacts overlapping 1 10 11 none).1 = .ok () := by decide +kernel
  have hin : Inside overlapping 1 11 := ⟨by decide +kernel, by decide +kernel⟩
  exact ⟨hok, ((conversations_conserved overlapping hdb 1 10 11 none).2 hok).mpr hin⟩

/-- Workspace 2 has written to contact 11 of workspace 1. -/
def foreignChat : ContactDB :=
  { contacts := [⟨10, 1, []⟩, ⟨11, 1, []⟩], identities := [⟨11, 1, "telegram", "bia"⟩], chats := [chatRow 21 2 11],
    messages := [messageRow 31 21 2 "b"], tags := [], refs := [] }

theorem merge_loses_foreign_chat :
    Schema foreignChat ∧ (mergeContacts foreignChat 1 10 11 none).1 = .ok () ∧
      (mergeContacts foreignChat 1 10 11 none).2.messages = [] ∧
      ¬Conserved foreignChat (mergeContacts foreignChat 1 10 11 none).2 10 11 := by
  have hdb : Schema foreignChat :=
    ⟨by decide +kernel, by decide +kernel, by decide +kernel, by decide +kernel, by decide +kernel⟩
  have hgone : (mergeContacts foreignChat 1 10 11 none).2.messages = [] := by decide +kernel
  refine ⟨hdb, by decide +kernel, hgone, ?_⟩
  intro h
  obtain ⟨chatOf, hmsgs, -⟩ := h.messages
  rw [hgone] at hmsgs
  cases hmsgs

end PerGo.L4.MergedContact

/-!
## What a merged chat knows

A merge folds a chat of the secondary into the chat the primary has on the same connection:
its messages are moved, its row is deleted. `FactsKept` asks the row that is left for what
both rows knew: the later times, the unread messages of both, and the AI held back by either.

No statement of `MergeContacts` writes these columns, so the row that is left is the
primary's as it was.

* `facts_kept`: a successful merge keeps the facts exactly when every folded chat had none
  that the primary's does not have already, and the secondary has no chat elsewhere;
* `newer_primary_merge` and `merge_forgets_window`: a merge with it and one without.
-/
namespace PerGo.L4.MergedFacts

open PerGo.Core PerGo.L1 PerGo.L2 PerGo.L3.Recorder PerGo.L3.ContactMerge

def later : Option Time → Option Time → Option Time
  | none, b => b
  | a, none => a
  | some a, some b => some (max a b)

/-- The chat lets the AI act. mirrors activity/activity.go:226-236 -/
def mayAct (c : ChatState) (now : Time) : Prop := (c.ai.effective now).isEngaged = true

/-- `d'` knows what `c` and `d` knew. -/
structure Combines (c d d' : ChatState) : Prop where
  serviceWindow : d'.serviceWindowExpiresAt = later c.serviceWindowExpiresAt d.serviceWindowExpiresAt
  lastInbound : d'.lastInboundAt = later c.lastInboundAt d.lastInboundAt
  lastOutbound : d'.lastOutboundAt = later c.lastOutboundAt d.lastOutboundAt
  lastMessage : d'.lastMessageAt = max c.lastMessageAt d.lastMessageAt
  unread : d'.unreadCount = c.unreadCount + d.unreadCount
  ai : ∀ now, mayAct d' now → mayAct c now ∧ mayAct d now

structure SameFacts (c c' : ChatState) : Prop where
  serviceWindow : c'.serviceWindowExpiresAt = c.serviceWindowExpiresAt
  lastInbound : c'.lastInboundAt = c.lastInboundAt
  lastOutbound : c'.lastOutboundAt = c.lastOutboundAt
  lastMessage : c'.lastMessageAt = c.lastMessageAt
  unread : c'.unreadCount = c.unreadCount
  ai : c'.ai = c.ai

/-- `c` of the secondary is folded into `d` of the primary. -/
def Folded (ws primary secondary : UUID) (c d : ChatState) : Prop :=
  chatSlot c = (ws, c.connectionID, secondary) ∧ chatSlot d = (ws, c.connectionID, primary)

instance (ws primary secondary : UUID) (c d : ChatState) : Decidable (Folded ws primary secondary c d) :=
  inferInstanceAs (Decidable (_ ∧ _))

structure FactsKept (db db' : ContactDB) (ws primary secondary : UUID) : Prop where
  folded : ∀ c ∈ db.chats, ∀ d ∈ db.chats, Folded ws primary secondary c d →
    ∃ d' ∈ db'.chats, d'.id = d.id ∧ Combines c d d'
  others : ∀ c ∈ db.chats, (∀ d ∈ db.chats, ¬Folded ws primary secondary c d ∧ ¬Folded ws primary secondary d c) →
    ∃ c' ∈ db'.chats, c'.id = c.id ∧ SameFacts c c'

/-- `b` is there and not before `a`, if `a` is there. -/
def NotBefore (a b : Option Time) : Prop := ∀ t, a = some t → ∃ u, b = some u ∧ t ≤ u

/-- `c` knows nothing that `d` does not. -/
structure NothingNew (c d : ChatState) : Prop where
  serviceWindow : NotBefore c.serviceWindowExpiresAt d.serviceWindowExpiresAt
  lastInbound : NotBefore c.lastInboundAt d.lastInboundAt
  lastOutbound : NotBefore c.lastOutboundAt d.lastOutboundAt
  lastMessage : c.lastMessageAt ≤ d.lastMessageAt
  unread : c.unreadCount = 0
  ai : ∀ now, mayAct d now → mayAct c now

structure NothingToCarry (db : ContactDB) (ws primary secondary : UUID) : Prop where
  folded : ∀ c ∈ db.chats, ∀ d ∈ db.chats, Folded ws primary secondary c d → NothingNew c d
  inside : ∀ c ∈ db.chats, c.contactID = secondary → c.workspaceID = ws

theorem later_eq_right {a b : Option Time} : b = later a b ↔ NotBefore a b := by
  cases a with
  | none =>
    refine iff_of_true rfl fun t ht => ?_
    cases ht
  | some s =>
    cases b with
    | none =>
      refine iff_of_false (by simp [later]) fun h => ?_
      obtain ⟨u, hu, -⟩ := h s rfl
      cases hu
    | some u =>
      have hmax : some u = later (some s) (some u) ↔ s ≤ u := by
        show some u = some (max s u) ↔ s ≤ u
        rw [Option.some.injEq, eq_comm]
        exact max_eq_right_iff
      rw [hmax]
      constructor
      · intro h t ht
        cases ht
        exact ⟨u, rfl, h⟩
      · intro h
        obtain ⟨u', hu, hle⟩ := h s rfl
        cases hu
        exact hle

theorem combines_self {c d : ChatState} : Combines c d d ↔ NothingNew c d := by
  constructor
  · intro h
    refine ⟨later_eq_right.mp h.serviceWindow, later_eq_right.mp h.lastInbound, later_eq_right.mp h.lastOutbound,
      max_eq_right_iff.mp h.lastMessage.symm, ?_, fun now hd => (h.ai now hd).1⟩
    have := h.unread
    omega
  · intro h
    refine ⟨later_eq_right.mpr h.serviceWindow, later_eq_right.mpr h.lastInbound, later_eq_right.mpr h.lastOutbound,
      (max_eq_right h.lastMessage).symm, ?_, fun now hd => ⟨h.ai now hd, hd⟩⟩
    rw [h.unread]
    omega

section Merge

variable {db : ContactDB} {ws primary secondary : UUID}

theorem row_before (hdb : Schema db) {c c' : ChatState} (hc : c ∈ db.chats)
    (hc' : c' ∈ (merged db ws primary secondary).chats) (hid : c'.id = c.id) :
    c' = reassigned ws primary secondary c ∧ twin db ws primary secondary c = none ∧ c'.contactID ≠ secondary := by
  obtain ⟨e, he, htwin, rfl, hne⟩ := mem_merged_chats.mp hc'
  rw [(reassigned_spec ws primary secondary e).1] at hid
  have heq := eq_of_key_eq hdb.chats he hc hid
  rw [heq] at htwin hne ⊢
  exact ⟨rfl, htwin, hne⟩

theorem reassigned_facts (c : ChatState) : SameFacts c (reassigned ws primary secondary c) := by
  unfold reassigned
  split <;> exact ⟨rfl, rfl, rfl, rfl, rfl, rfl⟩

theorem primary_chat_kept (hne : primary ≠ secondary) {d : ChatState} (hd : d ∈ db.chats)
    (hp : d.contactID = primary) : d ∈ (merged db ws primary secondary).chats := by
  have hds : d.contactID ≠ secondary := by rw [hp]; exact hne
  exact mem_merged_chats.mpr ⟨d, hd, twin_other hds, (reassigned_other hds).symm, hds⟩

theorem facts_kept_iff (hdb : Schema db) (hne : primary ≠ secondary) :
    FactsKept db (merged db ws primary secondary) ws primary secondary ↔ NothingToCarry db ws primary secondary := by
  constructor
  · intro h
    refine ⟨fun c hc d hd hfold => ?_, fun c hc hcs => ?_⟩
    · obtain ⟨d', hd', hid, hcomb⟩ := h.folded c hc d hd hfold
      have hdp : d.contactID = primary := congrArg (fun k => k.2.2) hfold.2
      have hds : d.contactID ≠ secondary := by rw [hdp]; exact hne
      obtain ⟨rfl, -, -⟩ := row_before hdb hd hd' hid
      rw [reassigned_other hds] at hcomb
      exact combines_self.mp hcomb
    · -- a chat of another workspace is not folded, and goes with the contact
      by_contra hw
      have hout : ∀ d ∈ db.chats, ¬Folded ws primary secondary c d ∧ ¬Folded ws primary secondary d c := by
        intro d _
        refine ⟨fun hf => hw (congrArg (fun k => k.1) hf.1), fun hf => hw (congrArg (fun k => k.1) hf.2)⟩
      obtain ⟨c', hc', hid, -⟩ := h.others c hc hout
      obtain ⟨rfl, -, hcne⟩ := row_before hdb hc hc' hid
      unfold reassigned at hcne
      rw [if_neg fun hcw => hw hcw.2] at hcne
      exact hcne hcs
  · intro h
    refine ⟨fun c hc d hd hfold => ?_, fun c hc hout => ?_⟩
    · have hdp : d.contactID = primary := congrArg (fun k => k.2.2) hfold.2
      exact ⟨d, primary_chat_kept hne hd hdp, rfl, combines_self.mpr (h.folded c hc d hd hfold)⟩
    · have htwin : twin db ws primary secondary c = none := by
        cases hd : twin db ws primary secondary c with
        | none => rfl
        | some d =>
          obtain ⟨hcs, hcw, hmem, hslot⟩ := twin_some hd
          refine absurd ⟨?_, hslot⟩ (hout d hmem).1
          unfold chatSlot
          rw [hcs, hcw]
      refine ⟨reassigned ws primary secondary c, mem_merged_chats.mpr ⟨c, hc, htwin, rfl, ?_⟩,
        (reassigned_spec ws primary secondary c).1, reassigned_facts c⟩
      unfold reassigned
      split
      · exact hne
      · rename_i hcw
        exact fun hcs => hcw ⟨hcs, h.inside c hc hcs⟩

end Merge

/-- A successful merge keeps what the chats know exactly when the chats it folds know nothing
new, and the secondary has no chat of another workspace. -/
theorem facts_kept (db : ContactDB) (hdb : Schema db) (ws primary secondary : UUID) (dbErr : Option String)
    (hok : (mergeContacts db ws primary secondary dbErr).1 = .ok ()) :
    FactsKept db (mergeContacts db ws primary secondary dbErr).2 ws primary secondary ↔
      NothingToCarry db ws primary secondary := by
  obtain ⟨hne, -, -, hdb'⟩ := mergeContacts_ok hok
  rw [hdb']
  exact facts_kept_iff hdb hne

/-- A chat on connection 5 of workspace 1, last written to at `at_`. -/
def factRow (id contact : UUID) (ai : AIEngagement) (window : Option Time) (unread : Int) (at_ : Time) : ChatState :=
  { id := id, workspaceID := 1, connectionID := some 5, contactID := contact, channel := "whatsapp_cloud",
    status := .open_, snoozedUntil := none, ai := ai, serviceWindowExpiresAt := window, entryPointType := .standard,
    unreadCount := unread, lastMessageAt := at_, lastInboundAt := some at_, lastOutboundAt := none }

def pair (c d : ChatState) : ContactDB :=
  { contacts := [⟨10, 1, []⟩, ⟨11, 1, []⟩], identities := [], chats := [d, c], messages := [], tags := [], refs := [] }

/-- The secondary's chat is older, read, and open to the AI. -/
theorem newer_primary_merge :
    FactsKept (pair (factRow 21 11 ⟨.active, none⟩ (some 50) 0 40) (factRow 20 10 ⟨.off, none⟩ (some 90) 2 80))
      (mergeContacts (pair (factRow 21 11 ⟨.active, none⟩ (some 50) 0 40) (factRow 20 10 ⟨.off, none⟩ (some 90) 2 80))
        1 10 11 none).2 1 10 11 := by
  refine (facts_kept _ ⟨by decide, by decide, by decide, by decide, by decide⟩ 1 10 11 none (by decide +kernel)).mpr
    ⟨?_, by decide⟩
  intro c hc d hd hfold
  have hcs : c.contactID = 11 := congrArg (fun k => k.2.2) hfold.1
  have hdp : d.contactID = 10 := congrArg (fun k => k.2.2) hfold.2
  have hc : c = factRow 21 11 ⟨.active, none⟩ (some 50) 0 40 := by
    rcases List.mem_cons.mp hc with rfl | hc
    · cases hcs
    · exact List.mem_singleton.mp hc
  have hd : d = factRow 20 10 ⟨.off, none⟩ (some 90) 2 80 := by
    rcases List.mem_cons.mp hd with hd | hd
    · exact hd
    · rw [List.mem_singleton.mp hd] at hdp
      cases hdp
  subst hc hd
  have hbefore : ∀ s u : Time, s ≤ u → NotBefore (some s) (some u) := fun s u h t ht => ⟨u, rfl, by cases ht; exact h⟩
  refine ⟨hbefore 50 90 (by decide), hbefore 40 80 (by decide), fun t ht => ?_, by decide, rfl, fun now h => ?_⟩
  · cases ht
  · unfold mayAct at h
    cases h

/-- The secondary's chat has the open window, three unread messages and a human who took over. -/
def takenOver : ContactDB :=
  pair (factRow 21 11 ⟨.off, none⟩ (some 90) 3 80) (factRow 20 10 ⟨.active, none⟩ (some 50) 0 40)

theorem merge_forgets_window :
    Schema takenOver ∧ (mergeContacts takenOver 1 10 11 none).1 = .ok () ∧
      (mergeContacts takenOver 1 10 11 none).2.chats = [factRow 20 10 ⟨.active, none⟩ (some 50) 0 40] ∧
      ¬FactsKept takenOver (mergeContacts takenOver 1 10 11 none).2 1 10 11 := by
  have hchats : (mergeContacts takenOver 1 10 11 none).2.chats = [factRow 20 10 ⟨.active, none⟩ (some 50) 0 40] := by
    decide +kernel
  refine ⟨⟨by decide, by decide, by decide, by decide, by decide⟩, by decide +kernel, hchats, fun h => ?_⟩
  obtain ⟨d', hd', -, hcomb⟩ := h.folded (factRow 21 11 ⟨.off, none⟩ (some 90) 3 80)
    (List.mem_cons_of_mem _ List.mem_cons_self) (factRow 20 10 ⟨.active, none⟩ (some 50) 0 40) List.mem_cons_self
    (by decide)
  rw [hchats] at hd'
  have hunread := hcomb.unread
  rw [List.mem_singleton.mp hd'] at hunread
  cases hunread

end PerGo.L4.MergedFacts
