import PerGo.L3Chat.Recorder

/-!
# Merging contacts

`ContactRepository.MergeContacts` of `repository/contact.go`: eight statements in
one transaction, over the tables that refer to a contact. A failed statement rolls
everything back.

* `chats.contact_id` and the other references to `contacts(id)` are `ON DELETE CASCADE`, as
  is `chat_messages.chat_id`: what still refers to the secondary contact when its row is
  deleted goes with it, in every workspace.
* No constraint ties the workspace of such a row to that of its contact.
* `Schema` is what the constraints of the tables guarantee.
-/
namespace PerGo.L3.ContactMerge

open PerGo.Core PerGo.L1 PerGo.L2 PerGo.L3.Recorder

/-- The columns of `contacts` that a merge reads or writes. -/
structure ContactRow where
  id : UUID
  workspaceID : UUID
  attributes : StrMap

inductive RefTable
  | chatwootMappings
  | typebotSessions
  | campaignRecipients

structure RefRow where
  table : RefTable
  contactID : UUID

structure ContactDB where
  contacts : List ContactRow
  identities : List ContactIdentity
  chats : List ChatState
  messages : List ChatMessage
  /-- contact and tag -/
  tags : List (UUID × UUID)
  refs : List RefRow

inductive MergeError
  | invalidWorkspaceID
  | sameContact
  | primaryNotFound
  | secondaryNotFound
  | otherWorkspace
  | db (text : String)
deriving DecidableEq

/-- `left || right` of two JSON objects. -/
def concatAttributes (left right : StrMap) : StrMap := left.filter (fun e => right.lookup e.1 = none) ++ right

/-- What makes two rows the same chat. -/
def chatSlot (c : ChatState) : UUID × Option UUID × UUID := (c.workspaceID, c.connectionID, c.contactID)

section Merge

variable (db : ContactDB) (ws primary secondary : UUID)

def workspaceOf (id : UUID) : Option UUID := (db.contacts.find? fun c => c.id = id).map (·.workspaceID)

/-- Statement 1. mirrors contact.go:397-412 -/
def deleteDuplicateIdentities : ContactDB :=
  let duplicate := fun i : ContactIdentity => db.identities.any fun j =>
    j.contactID = primary && j.workspaceID = ws && j.channel = i.channel && j.senderIdentity = i.senderIdentity
  { db with
    identities := db.identities.filter fun i => !(i.contactID = secondary && i.workspaceID = ws && duplicate i) }

/-- Statement 2. mirrors contact.go:414-422 -/
def rebindIdentities : ContactDB :=
  let rebind := fun i : ContactIdentity => { i with contactID := primary }
  { db with identities := updateWhere (fun i => i.contactID = secondary && i.workspaceID = ws) rebind db.identities }

/-- Statement 3. mirrors contact.go:424-434 -/
def mergeAttributes : ContactDB :=
  let attributes := ((db.contacts.find? fun c => c.id = secondary).map (·.attributes)).getD []
  let merge := fun c : ContactRow => { c with attributes := concatAttributes attributes c.attributes }
  { db with contacts := updateWhere (fun c => c.id = primary && c.workspaceID = ws) merge db.contacts }

def twin (c : ChatState) : Option ChatState :=
  if c.contactID = secondary ∧ c.workspaceID = ws then db.chats.find? fun d => chatSlot d = (ws, c.connectionID, primary)
  else none

def newChatOf (m : ChatMessage) : UUID :=
  match (db.chats.find? fun c => c.id = m.chatID).bind (twin db ws primary secondary) with
  | some d => d.id
  | none => m.chatID

/-- Statement 4. mirrors contact.go:436-451 -/
def reassignMessages : ContactDB :=
  { db with messages := db.messages.map fun m => { m with chatID := newChatOf db ws primary secondary m } }

/-- `DELETE FROM chats`, and with them their messages. -/
def deleteChats (p : ChatState → Bool) : ContactDB :=
  { db with
    chats := db.chats.filter fun c => !p c,
    messages := db.messages.filter fun m => !db.chats.any fun c => p c && c.id = m.chatID }

/-- Statement 5. mirrors contact.go:453-467 -/
def deleteDuplicateChats : ContactDB := deleteChats db fun c => (twin db ws primary secondary c).isSome

/-- Statement 6. mirrors contact.go:469-477 -/
def reassignChats : ContactDB :=
  let reassign := fun c : ChatState => { c with contactID := primary }
  { db with chats := updateWhere (fun c => c.contactID = secondary && c.workspaceID = ws) reassign db.chats }

/-- Statement 7. mirrors contact.go:479-489 -/
def carryTags : ContactDB :=
  let carried := (db.tags.filter fun t => t.1 = secondary).map fun t => (primary, t.2)
  { db with tags := db.tags ++ carried.filter fun t => t ∉ db.tags }

/-- Statement 8 and its cascades. mirrors contact.go:491-495 -/
def deleteContact : ContactDB :=
  let gone := fun id => id = secondary
  let db := deleteChats db fun c => gone c.contactID
  { db with
    contacts := db.contacts.filter fun c => !(gone c.id && c.workspaceID = ws),
    identities := db.identities.filter fun i => !gone i.contactID, tags := db.tags.filter fun t => !gone t.1,
    refs := db.refs.filter fun r => !gone r.contactID }

def merged : ContactDB :=
  let db := deleteDuplicateIdentities db ws primary secondary
  let db := rebindIdentities db ws primary secondary
  let db := mergeAttributes db ws primary secondary
  let db := reassignMessages db ws primary secondary
  let db := deleteDuplicateChats db ws primary secondary
  let db := reassignChats db ws primary secondary
  let db := carryTags db primary secondary
  deleteContact db ws secondary

/-- The result, and the tables after the call; `dbErr`: some statement fails.
mirrors contact.go:368-498 -/
def mergeContacts (dbErr : Option String) : Except MergeError Unit × ContactDB :=
  if ws = UUID.Nil then (.error .invalidWorkspaceID, db)
  else if primary = secondary then (.error .sameContact, db)
  else match dbErr, workspaceOf db primary, workspaceOf db secondary with
    | some e, _, _ => (.error (.db e), db)
    | none, none, _ => (.error .primaryNotFound, db)
    | none, some _, none => (.error .secondaryNotFound, db)
    | none, some w, some w' =>
      if w ≠ ws ∨ w' ≠ ws then (.error .otherWorkspace, db) else (.ok (), merged db ws primary secondary)

end Merge

/-- The constraints of the tables. -/
structure Schema (db : ContactDB) : Prop where
  contacts : (db.contacts.map (·.id)).Nodup
  chats : (db.chats.map (·.id)).Nodup
  slots : (db.chats.map chatSlot).Nodup
  identities : (db.identities.map fun i => (i.workspaceID, i.channel, i.senderIdentity)).Nodup
  tags : db.tags.Nodup

/-! ## The tables after a merge -/

section Merged

variable {db : ContactDB} {ws primary secondary : UUID}

theorem twin_some {c d : ChatState} (h : twin db ws primary secondary c = some d) :
    c.contactID = secondary ∧ c.workspaceID = ws ∧ d ∈ db.chats ∧ chatSlot d = (ws, c.connectionID, primary) := by
  unfold twin at h
  split at h
  · rename_i hc
    have hd := List.find?_some h
    exact ⟨hc.1, hc.2, List.mem_of_find?_eq_some h, by simpa using hd⟩
  · cases h

theorem twin_none {c d : ChatState} (h : twin db ws primary secondary c = none) (hc : c.contactID = secondary)
    (hw : c.workspaceID = ws) (hd : d ∈ db.chats) : chatSlot d ≠ (ws, c.connectionID, primary) := by
  unfold twin at h
  rw [if_pos ⟨hc, hw⟩, List.find?_eq_none] at h
  simpa using h d hd

/-- The row of a chat that is not folded into another. -/
def reassigned (ws primary secondary : UUID) (c : ChatState) : ChatState :=
  if c.contactID = secondary ∧ c.workspaceID = ws then { c with contactID := primary } else c

theorem merged_chats :
    (merged db ws primary secondary).chats =
      ((db.chats.filter fun c => !(twin db ws primary secondary c).isSome).map (reassigned ws primary secondary)).filter
        fun c => !decide (c.contactID = secondary) := by
  have hform : (fun d : ChatState => if (decide (d.contactID = secondary) && decide (d.workspaceID = ws)) = true
      then { d with contactID := primary } else d) = reassigned ws primary secondary := by
    funext d
    simp only [reassigned, Bool.and_eq_true, decide_eq_true_eq]
  rw [← hform]
  rfl

theorem mem_merged_chats {c' : ChatState} :
    c' ∈ (merged db ws primary secondary).chats ↔
      ∃ c ∈ db.chats, twin db ws primary secondary c = none ∧ c' = reassigned ws primary secondary c ∧
        c'.contactID ≠ secondary := by
  rw [merged_chats, List.mem_filter]
  constructor
  · rintro ⟨hmem, hne⟩
    obtain ⟨c, hc, rfl⟩ := List.mem_map.mp hmem
    obtain ⟨hc, htwin⟩ := List.mem_filter.mp hc
    exact ⟨c, hc, by simpa using htwin, rfl, by simpa using hne⟩
  · rintro ⟨c, hc, htwin, rfl, hne⟩
    exact ⟨List.mem_map_of_mem (List.mem_filter.mpr ⟨hc, by simp [htwin]⟩), by simpa using hne⟩

theorem reassigned_other {c : ChatState} (h : c.contactID ≠ secondary) : reassigned ws primary secondary c = c := by
  unfold reassigned
  rw [if_neg fun hc => h hc.1]

theorem twin_other {c : ChatState} (h : c.contactID ≠ secondary) : twin db ws primary secondary c = none := by
  unfold twin
  rw [if_neg fun hc => h hc.1]

variable (ws primary secondary) in
theorem reassigned_spec (c : ChatState) :
    (reassigned ws primary secondary c).id = c.id ∧ (reassigned ws primary secondary c).workspaceID = c.workspaceID ∧
      (reassigned ws primary secondary c).connectionID = c.connectionID := by
  unfold reassigned
  split <;> exact ⟨rfl, rfl, rfl⟩

def Stray (db : ContactDB) (ws secondary : UUID) (m : ChatMessage) : Prop :=
  ∃ c ∈ db.chats, c.id = m.chatID ∧ c.contactID = secondary ∧ c.workspaceID ≠ ws

def survives (db : ContactDB) (ws primary secondary : UUID) (m : ChatMessage) : Bool :=
  !(db.chats.any fun c => (twin db ws primary secondary c).isSome && c.id = m.chatID) &&
    !((updateWhere (fun c => c.contactID = secondary && c.workspaceID = ws)
        (fun c : ChatState => { c with contactID := primary })
        (db.chats.filter fun c => !(twin db ws primary secondary c).isSome)).any
        fun c => decide (c.contactID = secondary) && c.id = m.chatID)

theorem merged_messages :
    (merged db ws primary secondary).messages =
      (db.messages.map fun m => { m with chatID := newChatOf db ws primary secondary m }).filter
        (survives db ws primary secondary) := by
  have h : (merged db ws primary secondary).messages =
      ((db.messages.map fun m => { m with chatID := newChatOf db ws primary secondary m }).filter
        fun m => !(db.chats.any fun c => (twin db ws primary secondary c).isSome && c.id = m.chatID)).filter
        fun m => !((updateWhere (fun c => c.contactID = secondary && c.workspaceID = ws)
          (fun c : ChatState => { c with contactID := primary })
          (db.chats.filter fun c => !(twin db ws primary secondary c).isSome)).any
          fun c => decide (c.contactID = secondary) && c.id = m.chatID) := rfl
  rw [h, List.filter_filter]
  congr 1
  funext m
  exact Bool.and_comm ..

theorem survives_of {m : ChatMessage} (hdb : Schema db) {c : ChatState} (hc : c ∈ db.chats) (hid : m.chatID = c.id)
    (htwin : twin db ws primary secondary c = none) :
    survives db ws primary secondary m = true ↔ (reassigned ws primary secondary c).contactID ≠ secondary := by
  have heq : ∀ d ∈ db.chats, d.id = m.chatID → d = c := fun d hd hdid =>
    eq_of_key_eq hdb.chats hd hc (hdid.trans hid)
  have hfold : (db.chats.any fun d => (twin db ws primary secondary d).isSome && d.id = m.chatID) = false := by
    rw [List.any_eq_false]
    intro d hd hp
    simp only [Bool.and_eq_true, decide_eq_true_eq] at hp
    rw [heq d hd hp.2, htwin] at hp
    cases hp.1
  have hform : ∀ d : ChatState, (if (decide (d.contactID = secondary) && decide (d.workspaceID = ws)) = true
      then { d with contactID := primary } else d) = reassigned ws primary secondary d := by
    intro d
    simp only [reassigned, Bool.and_eq_true, decide_eq_true_eq]
  unfold survives
  rw [hfold, Bool.not_false, Bool.true_and, Bool.not_eq_true', List.any_eq_false]
  constructor
  · intro hall hcon
    refine hall (reassigned ws primary secondary c) ?_ ?_
    · exact List.mem_map.mpr ⟨c, List.mem_filter.mpr ⟨hc, by simp [htwin]⟩, hform c⟩
    · simp [hcon, (reassigned_spec ws primary secondary c).1, hid]
  · intro hcon d' hd' hp
    obtain ⟨d, hd, rfl⟩ := mem_updateWhere hd'
    rw [hform d] at hp
    simp only [Bool.and_eq_true, decide_eq_true_eq, (reassigned_spec ws primary secondary d).1] at hp
    rw [heq d (List.mem_filter.mp hd).1 hp.2] at hp
    exact hcon hp.1

theorem survives_iff (hdb : Schema db) (hne : primary ≠ secondary) (m : ChatMessage) :
    survives db ws primary secondary { m with chatID := newChatOf db ws primary secondary m } = true ↔
      ¬Stray db ws secondary m := by
  cases hfind : db.chats.find? fun c => c.id = m.chatID with
  | none =>
    -- no chat has the message
    have hno : ∀ c ∈ db.chats, c.id ≠ m.chatID := by simpa using List.find?_eq_none.mp hfind
    have hnew : newChatOf db ws primary secondary m = m.chatID := by simp [newChatOf, hfind]
    have hstray : ¬Stray db ws secondary m := fun ⟨c, hc, hid, _⟩ => hno c hc hid
    simp only [hstray, not_false_eq_true, iff_true, hnew, survives, Bool.and_eq_true, Bool.not_eq_true',
      List.any_eq_false]
    constructor
    · intro c hc hp
      simp only [decide_eq_true_eq] at hp
      exact hno c hc hp.2
    · intro c' hc' hp
      obtain ⟨c, hc, rfl⟩ := mem_updateWhere hc'
      simp only [Bool.and_eq_true, decide_eq_true_eq] at hp
      refine hno c (List.mem_filter.mp hc).1 (Eq.trans ?_ hp.2)
      split <;> rfl
  | some c =>
    have hc := List.mem_of_find?_eq_some hfind
    have hid : c.id = m.chatID := by simpa using List.find?_some hfind
    have hstray : Stray db ws secondary m ↔ c.contactID = secondary ∧ c.workspaceID ≠ ws := by
      constructor
      · rintro ⟨d, hd, hdid, hdc⟩
        rw [eq_of_key_eq hdb.chats hd hc (hdid.trans hid.symm)] at hdc
        exact hdc
      · intro h
        exact ⟨c, hc, hid, h⟩
    rw [hstray]
    cases htwin : twin db ws primary secondary c with
    | some d =>
      obtain ⟨hcs, hcw, hd, hslot⟩ := twin_some htwin
      have hdp : d.contactID = primary := congrArg (fun k => k.2.2) hslot
      have hnew : newChatOf db ws primary secondary m = d.id := by simp [newChatOf, hfind, htwin]
      have hds : d.contactID ≠ secondary := by rw [hdp]; exact hne
      rw [survives_of hdb hd hnew (twin_other hds), reassigned_other hds, hdp]
      exact ⟨fun _ h => h.2 hcw, fun _ => hne⟩
    | none =>
      have hnew : newChatOf db ws primary secondary m = c.id := by simp [newChatOf, hfind, htwin, hid]
      rw [survives_of hdb hc hnew htwin]
      unfold reassigned
      split
      · rename_i hcw
        exact ⟨fun _ h => h.2 hcw.2, fun _ => hne⟩
      · rename_i hcw
        constructor
        · intro hcs h
          exact hcs h.1
        · intro h hcs
          exact h ⟨hcs, fun hw => hcw ⟨hcs, hw⟩⟩

theorem reassigned_inj (hdb : Schema db) {c d : ChatState} (hc : c ∈ db.chats) (hd : d ∈ db.chats)
    (hct : twin db ws primary secondary c = none) (hdt : twin db ws primary secondary d = none)
    (h : chatSlot (reassigned ws primary secondary c) = chatSlot (reassigned ws primary secondary d)) : c = d := by
  have hmoved : ∀ e : ChatState, e.contactID = secondary ∧ e.workspaceID = ws →
      chatSlot (reassigned ws primary secondary e) = (ws, e.connectionID, primary) := by
    intro e he
    unfold reassigned
    rw [if_pos he]
    exact congrArg (fun w => (w, e.connectionID, primary)) he.2
  have hkept : ∀ e : ChatState, ¬(e.contactID = secondary ∧ e.workspaceID = ws) →
      reassigned ws primary secondary e = e := fun e he => if_neg he
  by_cases hcs : c.contactID = secondary ∧ c.workspaceID = ws
  · by_cases hds : d.contactID = secondary ∧ d.workspaceID = ws
    · rw [hmoved c hcs, hmoved d hds] at h
      have hconn : c.connectionID = d.connectionID := congrArg (fun k => k.2.1) h
      have hslot : chatSlot c = chatSlot d := by
        unfold chatSlot
        rw [hcs.1, hcs.2, hds.1, hds.2, hconn]
      exact eq_of_key_eq hdb.slots hc hd hslot
    · rw [hmoved c hcs, hkept d hds] at h
      exact absurd h.symm (twin_none hct hcs.1 hcs.2 hd)
  · by_cases hds : d.contactID = secondary ∧ d.workspaceID = ws
    · rw [hmoved d hds, hkept c hcs] at h
      exact absurd h (twin_none hdt hds.1 hds.2 hc)
    · rw [hkept c hcs, hkept d hds] at h
      exact eq_of_key_eq hdb.slots hc hd h

theorem merged_identities (hdb : Schema db) (hne : primary ≠ secondary) :
    (merged db ws primary secondary).identities =
      (updateWhere (fun i => i.contactID = secondary && i.workspaceID = ws)
        (fun i : ContactIdentity => { i with contactID := primary }) db.identities).filter
        fun i => !decide (i.contactID = secondary) := by
  have hnone : (deleteDuplicateIdentities db ws primary secondary).identities = db.identities := by
    unfold deleteDuplicateIdentities
    rw [List.filter_eq_self]
    intro i hi
    rw [Bool.not_eq_true', Bool.eq_false_iff]
    intro hdup
    simp only [Bool.and_eq_true, decide_eq_true_eq, List.any_eq_true] at hdup
    obtain ⟨⟨his, hiw⟩, j, hj, ⟨⟨hjp, hjw⟩, hjc⟩, hjs⟩ := hdup
    have hkey : (j.workspaceID, j.channel, j.senderIdentity) = (i.workspaceID, i.channel, i.senderIdentity) := by
      rw [hjw, hiw, hjc, hjs]
    have hji := eq_of_key_eq hdb.identities hj hi hkey
    exact hne (hjp.symm.trans ((congrArg ContactIdentity.contactID hji).trans his))
  have h : (merged db ws primary secondary).identities =
      (updateWhere (fun i => i.contactID = secondary && i.workspaceID = ws)
        (fun i : ContactIdentity => { i with contactID := primary })
        (deleteDuplicateIdentities db ws primary secondary).identities).filter
        fun i => !decide (i.contactID = secondary) := rfl
  rw [h, hnone]

theorem merged_tags :
    (merged db ws primary secondary).tags =
      (db.tags ++ ((db.tags.filter fun t => t.1 = secondary).map fun t => (primary, t.2)).filter
        fun t => t ∉ db.tags).filter fun t => !decide (t.1 = secondary) := rfl

theorem mergeContacts_ok {dbErr : Option String} (h : (mergeContacts db ws primary secondary dbErr).1 = .ok ()) :
    primary ≠ secondary ∧ workspaceOf db primary = some ws ∧ workspaceOf db secondary = some ws ∧
      (mergeContacts db ws primary secondary dbErr).2 = merged db ws primary secondary := by
  unfold mergeContacts at h ⊢
  by_cases hws : ws = UUID.Nil
  · rw [if_pos hws] at h
    cases h
  rw [if_neg hws] at h ⊢
  by_cases hsame : primary = secondary
  · rw [if_pos hsame] at h
    cases h
  rw [if_neg hsame] at h ⊢
  cases dbErr with
  | some e => cases h
  | none =>
    cases hp : workspaceOf db primary with
    | none =>
      rw [hp] at h
      cases h
    | some w =>
      cases hs : workspaceOf db secondary with
      | none =>
        rw [hp, hs] at h
        cases h
      | some w' =>
        simp only [hp, hs] at h ⊢
        by_cases hw : w ≠ ws ∨ w' ≠ ws
        · rw [if_pos hw] at h
          cases h
        · rw [if_neg hw]
          simp only [not_or, not_not] at hw
          exact ⟨hsame, by rw [hw.1], by rw [hw.2], rfl⟩

theorem mergeContacts_error {dbErr : Option String} {e : MergeError}
    (h : (mergeContacts db ws primary secondary dbErr).1 = .error e) :
    (mergeContacts db ws primary secondary dbErr).2 = db := by
  unfold mergeContacts at h ⊢
  split
  · rfl
  rename_i hws
  rw [if_neg hws] at h
  split
  · rfl
  rename_i hsame
  rw [if_neg hsame] at h
  split
  · rfl
  · rfl
  · rfl
  · rename_i w w' hp hs
    simp only [hp, hs] at h
    split
    · rfl
    · rename_i hw
      rw [if_neg hw] at h
      cases h

end Merged

end PerGo.L3.ContactMerge
