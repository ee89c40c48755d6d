import PerGo.L3Chat.ContactResolve
import PerGo.L3Inbound.Telegram

/-!
# On what evidence a Telegram chat is attached to a contact

`Parse` writes a username and a phone number into the metadata of the event, and
`ResolveContact` attaches a chat it does not know to the contact that has either. The
adapter takes the sender's username before the chat's, also in a group, and the phone number
of any contact card; it decodes neither the kind of the chat nor the user of the card. Here
both come with the update, as what Telegram says of it.

A row an update adds may tell of somebody else: the username of a member, on the contact of
a group; the number of a third party's card, on the contact of who shared it. `Known` keeps
with the tables the rows that are their contact's own (`own`): those it starts with and, of
the added ones, a username from a private chat and a number from the sender's own card there.

`OnEvidence` says of one update: a contact that was there gets the chat only when the chat is
private, and an own row of the contact has the username it goes by, or the phone number of a
card that is the sender's own. `OwnEvidence` is the condition on the update and the tables.

* `attached_on_evidence_iff`: in a sequence of updates each attaches on evidence iff each meets
  the condition;
* `own_evidence_attaches`: a username and a card in private chats, and a group;
* `group_attached_to_member`: a known member writes first in a group, somebody shares the card
  of another, and somebody's own card follows its being shared by another.
-/
namespace PerGo.L4.ContactEvidence

open PerGo.Core PerGo.L1 PerGo.L2 PerGo.L3.Recorder PerGo.L3.ContactResolve

/-! ## From an update to the tables -/

/-- mirrors inbound/processor.go:158-166 -/
def isGroup (ev : InboundEvent) : Bool := ev.metadata.get "is_group" = "true" || hasSuffix ev.from_ "@g.us"

/-- mirrors processor.go:487-498 -/
def resolveArgs (ev : InboundEvent) : Args :=
  { workspaceID := ev.workspaceID, channel := ev.channel, senderIdentity := ev.from_, name := ev.senderName,
    username := ev.metadata.get "username",
    phone := if !isGroup ev && (ev.channel = "whatsapp" || ev.channel = "whatsapp_cloud") then ev.from_
      else ev.metadata.get "phone_number" }

/-- The contact of an event, and the tables after it.
mirrors processor.go:373-376, 384, 440, 484-502 -/
def contactOf (env : ResolveEnv) (db : Store) (ev : InboundEvent) : Option UUID × Store :=
  if ev.workspaceID = UUID.Nil ∨ ev.reaction.isSome = true ∨ ev.metadata.get "type" = "status_update" then (none, db)
  else L3.ContactResolve.resolveContact env db (resolveArgs ev)

/-- An update that a bot of a connection receives. -/
structure Delivery where
  conn : Connection
  receivedToken : String
  update : L3.Telegram.Update
  download : String → String → Option (List UInt8)
  env : ResolveEnv
  /-- `chat.type` is `private` -/
  isPrivate : Bool
  /-- `contact.user_id` is the sender's -/
  ownCard : Bool

/-- mirrors telegram/inbound.go:141-402 -/
def Delivery.event (d : Delivery) : Option InboundEvent :=
  match L3.Telegram.parse d.download d.conn d.receivedToken (some d.update) with
  | .ok events => events.head?
  | .error _ => none

/-- The tables after an update. -/
def receive (db : Store) (d : Delivery) : Store :=
  match d.event with
  | none => db
  | some ev => (contactOf d.env db ev).2

def Delivery.tellsOfSender (d : Delivery) (i : ContactIdentity) : Bool :=
  if i.channel = "telegram_username" then d.isPrivate
  else if i.channel ∈ ["phone", "whatsapp", "whatsapp_cloud"] then d.isPrivate && d.ownCard
  else true

/-- The tables, and the rows that are their contact's own. -/
structure Known where
  db : Store
  own : List ContactIdentity

def Known.receive (s : Known) (d : Delivery) : Known :=
  let db := ContactEvidence.receive s.db d
  ⟨db, s.own ++ db.identities.filter fun i => i ∉ s.db.identities && d.tellsOfSender i⟩

/-! ## On what evidence -/

def HasUsername (rows : List ContactIdentity) (a : Args) (contactID : UUID) : Prop :=
  a.hasUsername = true ∧ ∃ i ∈ rows, i.contactID = contactID ∧ i.workspaceID = a.workspaceID ∧
    i.channel = "telegram_username" ∧ toLower i.senderIdentity = cleanUser a.username

def HasPhone (rows : List ContactIdentity) (a : Args) (contactID : UUID) : Prop :=
  a.phone ≠ "" ∧ ∃ i ∈ rows, i.contactID = contactID ∧ i.workspaceID = a.workspaceID ∧
    i.channel ∈ ["phone", "whatsapp", "whatsapp_cloud"] ∧ i.senderIdentity = a.phone

def SamePerson (s : Known) (d : Delivery) (a : Args) (contactID : UUID) : Prop :=
  d.isPrivate = true ∧ (HasUsername s.own a contactID ∨ d.ownCard = true ∧ HasPhone s.own a contactID)

def KnownChat (db : Store) (a : Args) : Prop := ∃ i ∈ db.identities, slot i = a.slot

def OnEvidence (s : Known) (d : Delivery) : Prop :=
  ∀ ev, d.event = some ev → ¬KnownChat s.db (resolveArgs ev) → ∀ k ∈ s.db.contacts,
    (∃ i ∈ (s.receive d).db.identities, slot i = (resolveArgs ev).slot ∧ i.contactID = k.id) →
    SamePerson s d (resolveArgs ev) k.id

/-! ## The condition -/

instance (rows : List ContactIdentity) (a : Args) (c : UUID) : Decidable (HasUsername rows a c) :=
  inferInstanceAs (Decidable (_ ∧ _))

instance (rows : List ContactIdentity) (a : Args) (c : UUID) : Decidable (HasPhone rows a c) :=
  inferInstanceAs (Decidable (_ ∧ _))

instance (s : Known) (d : Delivery) (a : Args) (c : UUID) : Decidable (SamePerson s d a c) :=
  inferInstanceAs (Decidable (_ ∧ _))

instance (db : Store) (a : Args) : Decidable (KnownChat db a) := inferInstanceAs (Decidable (∃ _ ∈ _, _))

def FirstMessage (db : Store) (env : ResolveEnv) (ev : InboundEvent) : Prop :=
  ev.workspaceID ≠ UUID.Nil ∧ ev.reaction = none ∧ ev.metadata.get "type" ≠ "status_update" ∧ env.fails = false ∧
    ¬KnownChat db (resolveArgs ev)

instance (db : Store) (env : ResolveEnv) (ev : InboundEvent) : Decidable (FirstMessage db env ev) :=
  inferInstanceAs (Decidable (_ ∧ _ ∧ _ ∧ _ ∧ _))

def Proven (s : Known) (d : Delivery) (a : Args) : Prop :=
  match (usernameRow s.db a d.env.usernamePick).filter fun i => i.contactID ≠ UUID.Nil with
  | some i => SamePerson s d a i.contactID
  | none => match (phoneRow s.db a d.env.phonePick).filter fun i => i.contactID ≠ UUID.Nil with
    | some i => SamePerson s d a i.contactID
    | none => True

instance (s : Known) (d : Delivery) (a : Args) : Decidable (Proven s d a) := by
  unfold Proven
  split
  · infer_instance
  · split <;> infer_instance

def OwnEvidence (s : Known) (d : Delivery) : Prop :=
  match d.event with
  | none => True
  | some ev => FirstMessage s.db d.env ev → Proven s d (resolveArgs ev)

instance (s : Known) (d : Delivery) : Decidable (OwnEvidence s d) := by
  unfold OwnEvidence
  split <;> infer_instance

/-! ## What a call links -/

theorem mem_link {row i : ContactIdentity} {rows : List ContactIdentity} (h : i ∈ link row rows) : i ∈ rows ∨ i = row := by
  unfold link at h
  split at h
  · exact .inl h
  · simpa using h

theorem subset_link {row i : ContactIdentity} {rows : List ContactIdentity} (h : i ∈ rows) : i ∈ link row rows := by
  unfold link
  split
  · exact h
  · exact List.mem_append_left _ h

theorem mem_linkAll {a : Args} {c : UUID} {rows : List ContactIdentity} {i : ContactIdentity}
    (h : i ∈ linkAll a c rows) : i ∈ rows ∨ i.contactID = c := by
  have hprimary : ∀ j, j ∈ link (a.primary c) rows → j ∈ rows ∨ j.contactID = c := fun j hj =>
    (mem_link hj).imp_right fun h => by
      rw [h]
      rfl
  have husername : ∀ j, j ∈ (if a.hasUsername then link (a.usernameLink c) (link (a.primary c) rows)
      else link (a.primary c) rows) → j ∈ rows ∨ j.contactID = c := by
    intro j hj
    split at hj
    · rcases mem_link hj with hj | rfl
      · exact hprimary j hj
      · exact .inr rfl
    · exact hprimary j hj
  unfold linkAll at h
  simp only at h
  split at h
  · rcases mem_link h with h | rfl
    · exact husername i h
    · exact .inr rfl
  · exact husername i h

theorem primary_linkAll {a : Args} {c : UUID} {db : Store} (h : ¬KnownChat db a) :
    a.primary c ∈ linkAll a c db.identities := by
  have hnew : a.primary c ∈ link (a.primary c) db.identities := by
    unfold link
    rw [if_neg]
    · simp
    · intro hany
      obtain ⟨i, hi, hs⟩ := List.any_eq_true.mp hany
      exact h ⟨i, hi, (of_decide_eq_true hs).trans rfl⟩
  unfold linkAll
  simp only
  split
  · refine subset_link ?_
    split
    · exact subset_link hnew
    · exact hnew
  · split
    · exact subset_link hnew
    · exact hnew

/-- The contact a first message goes to. -/
def target (env : ResolveEnv) (db : Store) (a : Args) : UUID :=
  if crossLinked env db a ≠ UUID.Nil then crossLinked env db a else env.newID

theorem findIdentity_none {db : Store} {a : Args} : findIdentity db a.slot = none ↔ ¬KnownChat db a := by
  unfold findIdentity KnownChat
  rw [Option.map_eq_none_iff, List.find?_eq_none]
  simp

theorem resolveContact_rows {env : ResolveEnv} {db : Store} {a : Args} {i : ContactIdentity}
    (h : i ∈ (L3.ContactResolve.resolveContact env db a).2.identities) : i ∈ db.identities ∨ i.contactID = target env db a ∧
      (crossLinked env db a = UUID.Nil → ∀ p ∈ db.contacts, p.id ≠ env.newID) := by
  unfold L3.ContactResolve.resolveContact at h
  split at h
  · exact .inl h
  split at h
  · exact .inl h
  simp only at h
  split at h
  · rename_i hfound
    refine (mem_linkAll h).imp_right fun hc => ⟨?_, fun hnil => absurd hnil hfound⟩
    rw [hc, target, if_pos hfound]
  · rename_i hfound
    split at h
    · exact .inl h
    · rename_i hfree
      refine (mem_linkAll h).imp_right fun hc => ⟨?_, fun _ p hp hid => hfree (List.any_eq_true.mpr ⟨p, hp, by simpa using hid⟩)⟩
      rw [hc, target, if_neg hfound]

theorem resolveContact_attached {env : ResolveEnv} {db : Store} {a : Args} (hws : a.workspaceID ≠ UUID.Nil)
    (hfails : env.fails = false) (hnew : ¬KnownChat db a) (hfound : crossLinked env db a ≠ UUID.Nil) :
    a.primary (crossLinked env db a) ∈ (L3.ContactResolve.resolveContact env db a).2.identities := by
  unfold L3.ContactResolve.resolveContact
  rw [if_neg (by simp [hws, hfails]), findIdentity_none.mpr hnew]
  simp only
  rw [if_pos hfound]
  exact primary_linkAll hnew

/-! ## What the lookups find -/

/-- How the contact of the lookups comes about. -/
inductive Found (env : ResolveEnv) (db : Store) (a : Args) : Prop
  | byUsername (i : ContactIdentity)
      (hrow : (usernameRow db a env.usernamePick).filter (fun i => i.contactID ≠ UUID.Nil) = some i)
      (hmem : i ∈ db.identities) (hfound : crossLinked env db a = i.contactID)
      (hne : i.contactID ≠ UUID.Nil)
  | byPhone (i : ContactIdentity)
      (hnone : (usernameRow db a env.usernamePick).filter (fun i => i.contactID ≠ UUID.Nil) = none)
      (hrow : (phoneRow db a env.phonePick).filter (fun i => i.contactID ≠ UUID.Nil) = some i)
      (hmem : i ∈ db.identities) (hfound : crossLinked env db a = i.contactID)
      (hne : i.contactID ≠ UUID.Nil)
  | nothing (hnone : (usernameRow db a env.usernamePick).filter (fun i => i.contactID ≠ UUID.Nil) = none)
      (hnone' : (phoneRow db a env.phonePick).filter (fun i => i.contactID ≠ UUID.Nil) = none)
      (hfound : crossLinked env db a = UUID.Nil)

theorem rowContact_eq (row : Option ContactIdentity) : (row.map (·.contactID)).getD UUID.Nil =
    ((row.filter fun i => i.contactID ≠ UUID.Nil).map (·.contactID)).getD UUID.Nil := by
  cases row with
  | none => rfl
  | some i => by_cases h : i.contactID = UUID.Nil <;> simp [Option.filter, h]

theorem found (env : ResolveEnv) (db : Store) (a : Args) : Found env db a := by
  have hcross : ∀ c, (let byUsername := (((usernameRow db a env.usernamePick).filter fun i =>
        i.contactID ≠ UUID.Nil).map (·.contactID)).getD UUID.Nil
      if byUsername = UUID.Nil then (((phoneRow db a env.phonePick).filter fun i =>
        i.contactID ≠ UUID.Nil).map (·.contactID)).getD UUID.Nil else byUsername) = c → crossLinked env db a = c := by
    intro c hc
    unfold crossLinked
    rwa [rowContact_eq (usernameRow db a env.usernamePick), rowContact_eq (phoneRow db a env.phonePick)]
  cases husername : (usernameRow db a env.usernamePick).filter fun i => i.contactID ≠ UUID.Nil with
  | some i =>
    obtain ⟨hrow, hne⟩ := Option.filter_eq_some_iff.mp husername
    have hne : i.contactID ≠ UUID.Nil := by simpa using hne
    refine .byUsername i husername (usernameRow_some hrow).1 (hcross _ ?_) hne
    simp only [husername, Option.map_some, Option.getD_some, hne, if_false]
  | none =>
    cases hphone : (phoneRow db a env.phonePick).filter fun i => i.contactID ≠ UUID.Nil with
    | some i =>
      obtain ⟨hrow, hne⟩ := Option.filter_eq_some_iff.mp hphone
      refine .byPhone i husername hphone (phoneRow_some hrow).1 (hcross _ ?_) (by simpa using hne)
      simp only [husername, hphone, Option.map_some, Option.map_none, Option.getD_some, Option.getD_none, if_true]
    | none =>
      refine .nothing husername hphone (hcross _ ?_)
      simp only [husername, hphone, Option.map_none, Option.getD_none, if_true]

/-! ## One update -/

def Owned (db : Store) : Prop := ∀ i ∈ db.identities, ∃ p ∈ db.contacts, p.id = i.contactID

theorem receive_first {db : Store} {d : Delivery} {ev : InboundEvent} (hev : d.event = some ev)
    (hfirst : FirstMessage db d.env ev) : receive db d = (L3.ContactResolve.resolveContact d.env db (resolveArgs ev)).2 := by
  obtain ⟨hws, hreaction, htype, -, -⟩ := hfirst
  simp only [receive, hev, contactOf]
  rw [if_neg (by simp [hws, hreaction, htype])]

theorem receive_other {db : Store} {d : Delivery} {ev : InboundEvent} (hev : d.event = some ev)
    (hnew : ¬KnownChat db (resolveArgs ev)) (hother : ¬FirstMessage db d.env ev) : receive db d = db := by
  simp only [receive, hev, contactOf]
  split
  · rfl
  · rename_i hmessage
    simp only [not_or, Bool.not_eq_true, Option.isSome_eq_false_iff, Option.isNone_iff_eq_none] at hmessage
    have hfails : d.env.fails = true := by
      by_contra hfails
      exact hother ⟨hmessage.1, hmessage.2.1, hmessage.2.2, by simpa using hfails, hnew⟩
    simp [L3.ContactResolve.resolveContact, hfails]

theorem onEvidence_iff {s : Known} (hs : Owned s.db) (d : Delivery) : OnEvidence s d ↔ OwnEvidence s d := by
  unfold OnEvidence OwnEvidence
  cases hev : d.event with
  | none => simp
  | some ev =>
    constructor
    · intro h hfirst
      have hnew := hfirst.2.2.2.2
      -- what is found is attached
      have hattached : ∀ i ∈ s.db.identities, crossLinked d.env s.db (resolveArgs ev) = i.contactID →
          i.contactID ≠ UUID.Nil → SamePerson s d (resolveArgs ev) i.contactID := by
        intro i hi hfound hne
        obtain ⟨k, hk, hid⟩ := hs i hi
        have hrow := resolveContact_attached hfirst.1 hfirst.2.2.2.1 hnew (by rwa [hfound])
        rw [← receive_first hev hfirst] at hrow
        rw [← hid]
        exact h ev rfl hnew k hk ⟨_, hrow, rfl, by rw [hid, ← hfound]; rfl⟩
      unfold Proven
      cases found d.env s.db (resolveArgs ev) with
      | byUsername i hrow hmem hfound hne =>
        rw [hrow]
        exact hattached i hmem hfound hne
      | byPhone i hnone hrow hmem hfound hne =>
        rw [hnone, hrow]
        exact hattached i hmem hfound hne
      | nothing hnone hnone' hfound =>
        rw [hnone, hnone']
        trivial
    · intro h ev' hev' hnew k hk hattached
      cases hev'
      obtain ⟨i, hi, hslot, hid⟩ := hattached
      have hi : i ∈ (receive s.db d).identities := hi
      have hfirst : FirstMessage s.db d.env ev := by
        by_contra hother
        rw [receive_other hev hnew hother] at hi
        exact hnew ⟨i, hi, hslot⟩
      have hproven := h hfirst
      rw [receive_first hev hfirst] at hi
      rcases resolveContact_rows hi with hi | ⟨htarget, hfresh⟩
      · exact absurd ⟨i, hi, hslot⟩ hnew
      rw [hid] at htarget
      unfold target at htarget
      unfold Proven at hproven
      cases found d.env s.db (resolveArgs ev) with
      | byUsername j hrow hmem hfound hne =>
        rw [hrow] at hproven
        rw [hfound, if_pos hne] at htarget
        rw [htarget]
        exact hproven
      | byPhone j hnone hrow hmem hfound hne =>
        rw [hnone, hrow] at hproven
        rw [hfound, if_pos hne] at htarget
        rw [htarget]
        exact hproven
      | nothing hnone hnone' hfound =>
        rw [if_neg (not_not_intro hfound)] at htarget
        exact absurd htarget (hfresh hfound k hk)

/-! ## Sequences -/

theorem linked_owned {db : Store} {a : Args} {contacts : List Profile} {c : UUID} (hs : Owned db)
    (hcontacts : ∀ p ∈ db.contacts, p ∈ contacts) (hc : ∃ p ∈ contacts, p.id = c) :
    Owned (linked db a contacts c).2 := by
  intro i hi
  rcases mem_linkAll hi with hi | hi
  · obtain ⟨p, hp, hid⟩ := hs i hi
    exact ⟨p, hcontacts p hp, hid⟩
  · rw [hi]
    exact hc

theorem receive_owned {db : Store} (hs : Owned db) (d : Delivery) : Owned (receive db d) := by
  unfold receive
  split
  · exact hs
  · rename_i ev _
    unfold contactOf
    split
    · exact hs
    unfold L3.ContactResolve.resolveContact
    split
    · exact hs
    split
    · exact hs
    simp only
    split
    · rename_i hne
      refine linked_owned hs (fun _ h => h) ?_
      cases found d.env db (resolveArgs ev) with
      | byUsername i _ hmem hfound _ => rw [hfound]; exact hs i hmem
      | byPhone i _ _ hmem hfound _ => rw [hfound]; exact hs i hmem
      | nothing _ _ hfound => exact absurd hfound hne
    · split
      · exact hs
      · exact linked_owned hs (fun _ h => List.mem_append_left _ h) ⟨_, List.mem_append_right _ (List.mem_singleton_self _), rfl⟩

theorem attached_on_evidence_iff {s : Known} (hs : Schema s.db) (ds : List Delivery) :
    EveryCall Known.receive OnEvidence s ds ↔ EveryCall Known.receive OwnEvidence s ds :=
  everyCall_congr (I := fun s : Known => Owned s.db) (fun _ d h => receive_owned h d) (fun _ d h => onEvidence_iff h d)
    (show Owned s.db from hs.owners) ds

def shopContacts : Store :=
  ⟨[⟨10, 1, "Bob"⟩, ⟨11, 1, "Ana"⟩],
    [⟨10, 1, "telegram", "700"⟩, ⟨10, 1, "telegram_username", "bob"⟩, ⟨11, 1, "phone", "5511"⟩]⟩

/-- Every stored row is its contact's own. -/
def shopKnown : Known := ⟨shopContacts, shopContacts.identities⟩

theorem shopContacts_schema : Schema shopContacts := ⟨by decide, by decide, by decide⟩

def shopBot : Connection :=
  ⟨5, 1, "bot", "telegram", "@shop_bot", false, some ⟨[("token", .str "tok"), ("secret_token", .str "s")], by decide⟩⟩

/-- A message of `user` in the chat `chat`, with a contact card perhaps. -/
def shopUpdate (user : L3.Telegram.User) (chat : Int) (card : Option String) (isPrivate ownCard : Bool) : Delivery :=
  { conn := shopBot, receivedToken := "s",
    update :=
      { updateID := 1,
        message := some
          { date := 0, messageThreadID := 0, sender := some user, chat := some ⟨chat, "", "", ""⟩, text := "hi",
            caption := "", photo := [], document := none, audio := none, video := none, location := none,
            contact := card.map fun phone => ⟨phone, "", ""⟩ },
        callbackQuery := none, messageReaction := none },
    download := fun _ _ => none, env := ⟨false, user.id.toNat, 0, 0⟩, isPrivate := isPrivate, ownCard := ownCard }

/-- Bob writes from another account with his old username, Ana shares her card, and a stranger writes in a group. -/
theorem own_evidence_attaches : EveryCall Known.receive OnEvidence shopKnown
    [shopUpdate ⟨701, "Bob", "", "Bob"⟩ 701 none true false, shopUpdate ⟨702, "Ana", "", ""⟩ 702 (some "5511") true true,
      shopUpdate ⟨703, "Eve", "", "eve"⟩ (-100) none false false] :=
  (attached_on_evidence_iff shopContacts_schema _).mpr (by decide +kernel)

/-- Bob is the first to write in a group, or somebody shares Ana's card; or Eve shares the card of Lia, whose own
card comes later. -/
theorem group_attached_to_member : ∃ s, Schema s.db ∧
    ¬EveryCall Known.receive OnEvidence s [shopUpdate ⟨700, "Bob", "", "bob"⟩ (-100) none false false] ∧
    ¬EveryCall Known.receive OnEvidence s [shopUpdate ⟨703, "Eve", "", "eve"⟩ 703 (some "5511") true false] ∧
    ¬EveryCall Known.receive OnEvidence s [shopUpdate ⟨703, "Eve", "", "eve"⟩ 703 (some "5522") true false,
      shopUpdate ⟨704, "Lia", "", ""⟩ 704 (some "5522") true true] := by
  refine ⟨shopKnown, shopContacts_schema, fun h => ?_, fun h => ?_, fun h => ?_⟩
  · exact absurd ((onEvidence_iff (s := shopKnown) shopContacts_schema.owners _).mp h.1) (by decide +kernel)
  · exact absurd ((onEvidence_iff (s := shopKnown) shopContacts_schema.owners _).mp h.1) (by decide +kernel)
  · have howned := receive_owned shopContacts_schema.owners (shopUpdate ⟨703, "Eve", "", "eve"⟩ 703 (some "5522") true false)
    exact absurd ((onEvidence_iff (s := shopKnown.receive _) howned _).mp h.2.1) (by decide +kernel)

end PerGo.L4.ContactEvidence
