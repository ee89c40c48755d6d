import PerGo.L3Chat.RecorderSpec

/-!
# The gate of an outbound turn

`Recorder.Outbound` looks its chat up without creating it, asks for an open window, and only then creates a chat
and stores the message. The lookup may bind a chat to a connection; an error rolls that back with the rest.

* `addressed`: the chat a reference names. `effectiveChannel`: the channel the gate judges.
* `outbound_iff`: on WhatsApp Cloud or an unknown channel a new turn that is no template succeeds exactly on an open
  window of a chat that is there.
* `outbound_gated`: so it is, and an error changes no table, and a success adds one message to the chat that is
  addressed and leaves every window as it was.
-/
namespace PerGo.L4.OutboundGate

open PerGo.Core PerGo.L1 PerGo.L2 PerGo.L3.Recorder

/-! ## The chat and the channel -/

section Lookup

variable (db : ChatDB) (ws : UUID) (ref : ChatRef)

def addressed : Option ChatState :=
  if ref.id ≠ UUID.Nil then db.chats.find? fun c => c.workspaceID = ws && c.id = ref.id
  else if refContact db ws ref = UUID.Nil then none
  else findChat db ws (refContact db ws ref) (refConnection db ref)

def chatConnection (row : ChatState) : UUID :=
  (if ref.id ≠ UUID.Nil then row.connectionID else row.connectionID.or (refConnection db ref)).getD UUID.Nil

def effectiveChannel (turn : OutboundTurn) : String :=
  let named := turnChannel db (refOf turn.chat turn.channel) turn
  match addressed db ws (refOf turn.chat turn.channel) with
  | none => named
  | some row => if named = "" then connChannel db (chatConnection db (refOf turn.chat turn.channel) row) else named

def windows : List (UUID × Option Time) := db.chats.map fun c => (c.id, c.serviceWindowExpiresAt)

variable {db ws ref} {env : ActEnv} {db' : ChatDB} {allowCreate : Bool} {st : ChatState}

theorem windows_updateChat (ws id : UUID) {f : ChatState → ChatState}
    (hf : ∀ c, (f c).id = c.id ∧ (f c).serviceWindowExpiresAt = c.serviceWindowExpiresAt) :
    windows (updateChat db ws id f) = windows db := by
  unfold windows updateChat
  apply map_updateWhere
  intro c
  rw [(hf c).1, (hf c).2]

theorem adoptChat_row (db : ChatDB) (ref : ChatRef) (row : ChatState) :
    (adoptChat db ref row).1.id = row.id ∧ (adoptChat db ref row).1.workspaceID = row.workspaceID ∧
      (adoptChat db ref row).1.serviceWindowExpiresAt = row.serviceWindowExpiresAt ∧
      (adoptChat db ref row).1.connectionID = row.connectionID.or (refConnection db ref) ∧
      windows (adoptChat db ref row).2 = windows db ∧ (adoptChat db ref row).2.connections = db.connections ∧
      (adoptChat db ref row).2.identities = db.identities ∧ (adoptChat db ref row).2.messages = db.messages := by
  unfold adoptChat scanChatState
  cases hr : refConnection db ref with
  | none => exact ⟨rfl, rfl, rfl, Option.or_none.symm, rfl, rfl, rfl, rfl⟩
  | some conn =>
    dsimp only
    cases hc : row.connectionID with
    | some conn' => exact ⟨rfl, rfl, rfl, rfl, rfl, rfl, rfl, rfl⟩
    | none => exact ⟨rfl, rfl, rfl, rfl, windows_updateChat _ _ fun c => ⟨rfl, rfl⟩, rfl, rfl, rfl⟩

theorem adoptChat_channel {row : ChatState} (h : refChannel db ref = "") :
    (adoptChat db ref row).1.channel = connChannel db ((row.connectionID.or (refConnection db ref)).getD UUID.Nil) := by
  have hne : ¬ refChannel db ref ≠ "" := not_not_intro h
  unfold adoptChat scanChatState
  cases hr : refConnection db ref with
  | none =>
    dsimp only
    rw [if_neg hne, Option.or_none]
  | some conn =>
    dsimp only
    cases hc : row.connectionID with
    | some conn' =>
      dsimp only
      rw [if_neg hne]
      rfl
    -- binding the chat leaves the connections alone
    | none => exact if_neg hne

theorem resolve_none (hws : ws ≠ UUID.Nil) (h : addressed db ws ref = none) :
    resolveAndLockChat db env ws ref false = .error .chatNotFound := by
  unfold addressed at h
  unfold resolveAndLockChat
  rw [if_neg hws]
  split at h
  · rename_i hid
    rw [if_pos hid, h]
  · rename_i hid
    rw [if_neg hid]
    split at h
    · rename_i hcontact
      exact if_pos hcontact
    · rename_i hcontact
      dsimp only
      rw [if_neg hcontact, h]
      rfl

/-- What a lookup tells of the chat it found. -/
structure Found (db : ChatDB) (ws : UUID) (ref : ChatRef) (row st : ChatState) (db' : ChatDB) : Prop where
  id : st.id = row.id
  workspace : st.workspaceID = ws
  window : st.serviceWindowExpiresAt = row.serviceWindowExpiresAt
  connection : st.connectionID.getD UUID.Nil = chatConnection db ref row
  windows : OutboundGate.windows db' = OutboundGate.windows db
  connections : db'.connections = db.connections
  identities : db'.identities = db.identities
  messages : db'.messages = db.messages

theorem resolve_some (env : ActEnv) {row : ChatState} (hws : ws ≠ UUID.Nil) (h : addressed db ws ref = some row) (allowCreate : Bool) :
    ∃ st db', resolveAndLockChat db env ws ref allowCreate = .ok (st, db') ∧ Found db ws ref row st db' ∧
      (refChannel db ref = "" → st.channel = connChannel db (chatConnection db ref row)) := by
  unfold addressed at h
  unfold resolveAndLockChat
  rw [if_neg hws]
  split at h
  · rename_i hid
    have hp := List.find?_some h
    simp only [Bool.and_eq_true, decide_eq_true_eq] at hp
    have hconn : chatConnection db ref row = row.connectionID.getD UUID.Nil := by
      unfold chatConnection
      rw [if_pos hid]
    rw [if_pos hid, h, hconn]
    exact ⟨_, _, rfl, ⟨rfl, hp.1, rfl, hconn.symm, rfl, rfl, rfl, rfl⟩, fun _ => rfl⟩
  · rename_i hid
    rw [if_neg hid]
    split at h
    · cases h
    · rename_i hcontact
      have hchat : chatConnection db ref row = (row.connectionID.or (refConnection db ref)).getD UUID.Nil := by
        unfold chatConnection
        rw [if_neg hid]
      obtain ⟨-, hrow⟩ := findChat_mem h
      obtain ⟨hid', hws', hwin, hconn, hwins, hconns, hids, hmsgs⟩ := adoptChat_row db ref row
      dsimp only
      rw [if_neg hcontact, h]
      refine ⟨(adoptChat db ref row).1, (adoptChat db ref row).2, rfl,
        ⟨hid', hws'.trans hrow, hwin, ?_, hwins, hconns, hids, hmsgs⟩, fun hch => ?_⟩
      · rw [hchat, hconn]
      · rw [hchat]
        exact adoptChat_channel hch

theorem resolve_ok (h : resolveAndLockChat db env ws ref allowCreate = .ok (st, db')) :
    (∃ row, addressed db ws ref = some row ∧ Found db ws ref row st db') ∨
      (addressed db ws ref = none ∧ ref.contactID ≠ UUID.Nil ∧ st.id = env.newChatID ∧ st.workspaceID = ws ∧
        windows db' = windows db ++ [(env.newChatID, none)] ∧ db'.connections = db.connections ∧
        db'.identities = db.identities ∧ db'.messages = db.messages) := by
  have hws : ws ≠ UUID.Nil := by
    intro h0
    unfold resolveAndLockChat at h
    rw [if_pos h0] at h
    cases h
  cases hrow : addressed db ws ref with
  | some row =>
    obtain ⟨st', db'', hres, hfound, -⟩ := resolve_some env hws hrow allowCreate
    rw [h] at hres
    obtain ⟨rfl, rfl⟩ := Prod.mk.inj (Except.ok.inj hres)
    exact .inl ⟨row, rfl, hfound⟩
  | none =>
    refine .inr ⟨rfl, ?_⟩
    unfold addressed at hrow
    unfold resolveAndLockChat at h
    rw [if_neg hws] at h
    split at hrow
    · rename_i hid
      rw [if_pos hid, hrow] at h
      cases h
    · rename_i hid
      rw [if_neg hid] at h
      dsimp only at h
      split at hrow
      · rename_i hcontact
        rw [if_pos hcontact] at h
        cases h
      · rename_i hcontact
        rw [if_neg hcontact, hrow] at h
        dsimp only at h
        split at h
        · cases h
        · rename_i hallow
          obtain ⟨rfl, rfl⟩ := Prod.mk.inj (Except.ok.inj h)
          have hc : ref.contactID ≠ UUID.Nil := by
            intro h0
            exact hallow (by simp [h0])
          refine ⟨hc, rfl, rfl, ?_, rfl, rfl, rfl⟩
          show (db.chats ++ [_]).map _ = _
          rw [List.map_append]
          rfl

end Lookup

/-! ## The gate -/

/-- The channels on which the gate asks for a window: WhatsApp Cloud, and one that is unknown. -/
def Gated (channel : String) : Prop := toLower (trimSpace channel) = "" ∨ toLower (trimSpace channel) = "whatsapp_cloud"

instance (channel : String) : Decidable (Gated channel) := inferInstanceAs (Decidable (_ ∨ _))

def IsTemplate (turn : OutboundTurn) : Prop := equalFold (trimSpace (gateType turn)) "template" = true

instance (turn : OutboundTurn) : Decidable (IsTemplate turn) := inferInstanceAs (Decidable (_ = true))

theorem requireOpenWindow_gated {state : ChatState} {exists_ : Bool} {at_ : Time} {msgType : String}
    (hgated : Gated state.channel) (htype : equalFold (trimSpace msgType) "template" = false) :
    requireOpenWindow (window state exists_ at_) msgType = true ↔
      exists_ = true ∧ ∃ exp, state.serviceWindowExpiresAt = some exp ∧ at_ < exp := by
  have hnot : ¬ (toLower (trimSpace state.channel) ≠ "" ∧ toLower (trimSpace state.channel) ≠ "whatsapp_cloud") := by
    rcases hgated with h | h
    · exact fun hn => hn.1 h
    · exact fun hn => hn.2 h
  have hfold : equalFold "whatsapp_cloud" "whatsapp_cloud" = true := by decide +kernel
  have hchannel : (window state exists_ at_).channel = toLower (trimSpace state.channel) := by
    unfold window
    dsimp only
    rw [if_neg hnot]
    split
    · split <;> rfl
    · rfl
  have hopen : (window state exists_ at_).isOpen = true ↔
      exists_ = true ∧ ∃ exp, state.serviceWindowExpiresAt = some exp ∧ at_ < exp := by
    unfold window
    dsimp only
    rw [if_neg hnot]
    cases exists_ with
    | false => simp
    | true =>
      cases hexp : state.serviceWindowExpiresAt with
      | none => simp
      | some exp =>
        by_cases hlt : at_ < exp <;> simp [hlt]
  unfold requireOpenWindow
  rw [hchannel]
  have hpass : ¬ (toLower (trimSpace state.channel) ≠ "" ∧
      (!equalFold (toLower (trimSpace state.channel)) "whatsapp_cloud") = true) := by
    rcases hgated with h | h
    · exact fun hn => hn.1 h
    · rw [h, hfold]
      exact fun hn => by cases hn.2
  rw [if_neg hpass, htype, if_neg (by decide)]
  exact hopen

section Turn

variable {db : ChatDB} {env : ActEnv} {ws : UUID} {turn : OutboundTurn}

structure Fresh (db : ChatDB) (turn : OutboundTurn) : Prop where
  nonempty : trimSpace turn.uid ≠ ""
  new : ∀ m ∈ db.messages, m.uid ≠ trimSpace turn.uid

/-- The tables after the call; an error rolls the transaction back. -/
def outboundDB (db : ChatDB) (env : ActEnv) (ws : UUID) (turn : OutboundTurn) : ChatDB :=
  match outbound db env ws turn with
  | .ok (_, db') => db'
  | .error _ => db

theorem storeOutbound_fresh (hfresh : ∀ m ∈ db.messages, m.uid ≠ trimSpace turn.uid) (st : ChatState) (at_ : Time)
    (channel : String) : ∃ r db', storeOutbound db env st at_ channel turn = .ok (r, db') := by
  have hany : db.messages.any (fun m => m.uid = trimSpace turn.uid) = false := by
    rw [List.any_eq_false]
    intro m hm
    simpa using hfresh m hm
  unfold storeOutbound insertChatMessage
  have huid : (outboundMessage env.apply st (outboundActivity at_ channel turn)).uid = trimSpace turn.uid := rfl
  simp only [huid, hany, Bool.false_eq_true, if_false, bind, Except.bind, pure, Except.pure]
  exact ⟨_, _, rfl⟩

theorem loadMessageByUID_fresh {db' : ChatDB} (hfresh : Fresh db turn) (hmsgs : db'.messages = db.messages) (ws : UUID) :
    loadMessageByUID db' ws (trimSpace turn.uid) = none := by
  unfold loadMessageByUID
  rw [List.find?_eq_none, hmsgs]
  intro m hm
  simp [hfresh.new m hm]

theorem refChannel_of_unnamed {ref : ChatRef} (h : turnChannel db ref turn = "") : refChannel db ref = "" := by
  unfold turnChannel at h
  dsimp only at h
  have hempty : ref.channel = "" ∧ connChannel db ref.connID = "" := by
    by_cases hturn : trimSpace turn.channel = ""
    · by_cases href : ref.channel = ""
      · rw [if_pos hturn, if_pos href] at h
        exact ⟨href, h⟩
      · rw [if_pos hturn, if_neg href] at h
        exact absurd h href
    · rw [if_neg hturn, if_neg hturn] at h
      exact absurd h hturn
  unfold refChannel
  rw [if_neg (not_not_intro hempty.1)]
  split
  · rename_i conn hconn
    unfold refConnection at hconn
    split at hconn
    · cases hconn
      exact hempty.2
    · cases hconn
  · rfl

theorem gate_channel {row st : ChatState} {db' : ChatDB} (hrow : addressed db ws (refOf turn.chat turn.channel) = some row)
    (hfound : Found db ws (refOf turn.chat turn.channel) row st db')
    (hst : refChannel db (refOf turn.chat turn.channel) = "" →
      st.channel = connChannel db (chatConnection db (refOf turn.chat turn.channel) row)) :
    (let channel := turnChannel db (refOf turn.chat turn.channel) turn
     let channel := if channel = "" then st.channel else channel
     if channel = "" then connChannel db' (st.connectionID.getD UUID.Nil) else channel) =
      effectiveChannel db ws turn := by
  have hconns : ∀ id, connChannel db' id = connChannel db id := by
    intro id
    unfold connChannel
    rw [hfound.connections]
  unfold effectiveChannel
  rw [hrow, hconns, hfound.connection]
  dsimp only
  by_cases hnamed : turnChannel db (refOf turn.chat turn.channel) turn = ""
  · rw [if_pos hnamed, if_pos hnamed, hst (refChannel_of_unnamed hnamed)]
    split <;> rfl
  · rw [if_neg hnamed, if_neg hnamed]

def WindowOpen (db : ChatDB) (env : ActEnv) (ws : UUID) (turn : OutboundTurn) : Prop :=
  ∃ c exp, addressed db ws (refOf turn.chat turn.channel) = some c ∧ c.serviceWindowExpiresAt = some exp ∧
    atOf env.apply turn.at_ < exp

theorem outbound_iff (hws : ws ≠ UUID.Nil) (hdb : env.dbErr = none) (hfresh : Fresh db turn)
    (hgated : Gated (effectiveChannel db ws turn)) (htype : ¬ IsTemplate turn) :
    (∃ out, outbound db env ws turn = .ok out) ↔ WindowOpen db env ws turn := by
  have htype' : equalFold (trimSpace (gateType turn)) "template" = false := Bool.eq_false_iff.mpr htype
  cases hrow : addressed db ws (refOf turn.chat turn.channel) with
  | none =>
    have hchannel : turnChannel db (refOf turn.chat turn.channel) turn = effectiveChannel db ws turn := by
      unfold effectiveChannel
      rw [hrow]
    constructor
    · rintro ⟨out, hout⟩
      unfold outbound at hout
      rw [if_neg hws, if_neg hfresh.nonempty, hdb] at hout
      dsimp only at hout
      rw [resolve_none hws hrow, hchannel] at hout
      dsimp only at hout
      split at hout
      · cases hout
      · rename_i hpass
        have hopen := by simpa using hpass
        obtain ⟨hfalse, -⟩ := (requireOpenWindow_gated (by exact hgated) htype').mp hopen
        cases hfalse
    · rintro ⟨c, exp, hc, -⟩
      rw [hrow] at hc
      cases hc
  | some row =>
    obtain ⟨st, db', hres, hfound, hst⟩ := resolve_some env hws hrow false
    have hchannel := gate_channel hrow hfound hst
    have hload := loadMessageByUID_fresh hfresh hfound.messages st.workspaceID
    let state : ChatState := { st with channel := effectiveChannel db ws turn }
    have hgate : requireOpenWindow (window state true (atOf env.apply turn.at_)) (gateType turn) = true ↔
        true = true ∧ ∃ exp, state.serviceWindowExpiresAt = some exp ∧ atOf env.apply turn.at_ < exp :=
      requireOpenWindow_gated hgated htype'
    have hopen : WindowOpen db env ws turn ↔
        ∃ exp, state.serviceWindowExpiresAt = some exp ∧ atOf env.apply turn.at_ < exp := by
      unfold WindowOpen
      show _ ↔ ∃ exp, st.serviceWindowExpiresAt = some exp ∧ atOf env.apply turn.at_ < exp
      rw [hrow, hfound.window]
      constructor
      · rintro ⟨c, exp, hc, hexp, hlt⟩
        cases hc
        exact ⟨exp, hexp, hlt⟩
      · rintro ⟨exp, hexp, hlt⟩
        exact ⟨row, exp, rfl, hexp, hlt⟩
    have hout : outbound db env ws turn =
        if requireOpenWindow (window state true (atOf env.apply turn.at_)) (gateType turn) then
          storeOutbound db' env state (atOf env.apply turn.at_) (effectiveChannel db ws turn) turn
        else .error (.templateRequired (window state true (atOf env.apply turn.at_))) := by
      unfold outbound
      rw [if_neg hws, if_neg hfresh.nonempty, hdb]
      dsimp only
      rw [hres]
      dsimp only
      rw [hload]
      dsimp only at hchannel ⊢
      rw [hchannel]
    rw [hout, hopen]
    split
    · rename_i hpass
      have hnew : ∀ m ∈ db'.messages, m.uid ≠ trimSpace turn.uid := by
        rw [hfound.messages]
        exact hfresh.new
      obtain ⟨r, db'', hstore⟩ := storeOutbound_fresh hnew state (atOf env.apply turn.at_)
        (effectiveChannel db ws turn)
      exact iff_of_true ⟨_, hstore⟩ (hgate.mp hpass).2
    · rename_i hclosed
      refine iff_of_false (fun ⟨out, hout⟩ => by cases hout) fun h => hclosed (hgate.mpr ⟨rfl, h⟩)

/-- One message more, in the chat that is addressed or in the one that was created for the contact that the turn
names, and every window as it was. -/
structure Recorded (db : ChatDB) (env : ActEnv) (ws : UUID) (turn : OutboundTurn) (msg : ChatMessage) (db' : ChatDB) :
    Prop where
  messages : db'.messages = db.messages ++ [msg]
  uid : msg.uid = trimSpace turn.uid
  contacts : db'.identities = db.identities
  chat : (∃ row, addressed db ws (refOf turn.chat turn.channel) = some row ∧ msg.chatID = row.id ∧
      windows db' = windows db) ∨
    (addressed db ws (refOf turn.chat turn.channel) = none ∧ turn.chat.contactID ≠ UUID.Nil ∧
      msg.chatID = env.newChatID ∧ windows db' = windows db ++ [(env.newChatID, none)])

theorem storeOutbound_windows {db' : ChatDB} {st : ChatState} {at_ : Time} {channel : String} {r : OutboundReceipt}
    (h : storeOutbound db env st at_ channel turn = .ok (r, db')) :
    windows db' = windows db ∧ db'.identities = db.identities := by
  unfold storeOutbound at h
  obtain ⟨db₂, hins, h⟩ := bind_ok h
  obtain ⟨rfl, -⟩ := insertChatMessage_ok hins
  obtain ⟨-, rfl⟩ := Prod.mk.inj (Except.ok.inj h)
  exact ⟨windows_updateChat _ _ fun c => ⟨rfl, rfl⟩, rfl⟩

theorem outbound_recorded_once {r : OutboundReceipt} {db' : ChatDB} (hfresh : Fresh db turn)
    (h : outbound db env ws turn = .ok (r, db')) : Recorded db env ws turn r.message db' := by
  obtain ⟨-, -, -, st, db₁, allowCreate, hres, hcase⟩ := outbound_cases h
  have href : (refOf turn.chat turn.channel).contactID = turn.chat.contactID := by
    unfold refOf
    split <;> rfl
  have hmsgs : db₁.messages = db.messages := (resolveAndLockChat_ok hres).messages
  rcases hcase with ⟨hload, -⟩ | ⟨own, channel, hstore⟩
  · rw [loadMessageByUID_fresh hfresh hmsgs] at hload
    cases hload
  obtain ⟨hsto, huid, -⟩ := storeOutbound_ok hstore
  obtain ⟨hwins, hids⟩ := storeOutbound_windows hstore
  have hchat : r.message.chatID = st.id := hsto.chat
  rcases resolve_ok hres with ⟨row, hrow, hfound⟩ | ⟨hnone, hcontact, hid, -, hwins₁, -, hids₁, -⟩
  · exact ⟨by rw [hsto.messages, hmsgs], huid, hids.trans hfound.identities,
      .inl ⟨row, hrow, hchat.trans hfound.id, hwins.trans hfound.windows⟩⟩
  · exact ⟨by rw [hsto.messages, hmsgs], huid, hids.trans hids₁,
      .inr ⟨hnone, href ▸ hcontact, hchat.trans hid, hwins.trans hwins₁⟩⟩

/-- A new turn: an error changes no table; on WhatsApp Cloud or an unknown channel one that is no template succeeds
exactly on an open window, given a workspace and a database; a success adds one message and moves no window. -/
theorem outbound_gated (hfresh : Fresh db turn) :
    (∀ e, outbound db env ws turn = .error e → outboundDB db env ws turn = db) ∧
    (Gated (effectiveChannel db ws turn) → ¬ IsTemplate turn →
      ((∃ out, outbound db env ws turn = .ok out) ↔
        ws ≠ UUID.Nil ∧ env.dbErr = none ∧ WindowOpen db env ws turn)) ∧
    ∀ r db', outbound db env ws turn = .ok (r, db') →
      outboundDB db env ws turn = db' ∧ Recorded db env ws turn r.message db' := by
  refine ⟨fun e he => ?_, fun hgated htype => ⟨fun ⟨out, hout⟩ => ?_, fun ⟨hws, hdb, hopen⟩ => ?_⟩, fun r db' h => ⟨?_, ?_⟩⟩
  · unfold outboundDB
    rw [he]
  · obtain ⟨r, db'⟩ := out
    obtain ⟨hws, -, hdb, -⟩ := outbound_cases hout
    exact ⟨hws, hdb, (outbound_iff hws hdb hfresh hgated htype).mp ⟨_, hout⟩⟩
  · exact (outbound_iff hws hdb hfresh hgated htype).mpr hopen
  · unfold outboundDB
    rw [h]
  · exact outbound_recorded_once hfresh h

end Turn

/-! ## A reply within the window -/

section Sample

/-- A chat of workspace 1 on the WhatsApp Cloud connection 7, bound to no connection yet; its window ends at 100. -/
def unboundChat : ChatState :=
  { newChat 50 1 40 none 10 with serviceWindowExpiresAt := some 100, lastInboundAt := some 10 }

def cloudShop : ChatDB :=
  { connections := [(7, "whatsapp_cloud")], identities := [⟨40, 1, "whatsapp_cloud", "5511999990000"⟩],
    chats := [unboundChat], messages := [] }

/-- A reply at time `t` over connection 7 to the address of the customer. -/
def replyAt (t : Time) : OutboundTurn :=
  { chat := ChatAt 7 "5511999990000", uid := "reply-1", senderType := "human_agent", senderName := "Ana", senderID := "",
    replyToUID := none, body := "oi", media := none, product := none, templateName := "", language := "",
    messageType := "", channel := "", to_ := "5511999990000", metadata := [], at_ := t }

def cloudEnv : ActEnv := ⟨⟨20, 77, fun _ => none⟩, 60, none⟩

theorem freshReply (t : Time) : Fresh cloudShop (replyAt t) where
  nonempty := by
    show trimSpace "reply-1" ≠ ""
    decide +kernel
  new := fun m hm => by cases hm

/-- The reply is accepted until the window ends, although the lookup binds the chat. -/
theorem reply_within_window :
    (∃ out, outbound cloudShop cloudEnv 1 (replyAt 99) = .ok out) ∧
      ¬ ∃ out, outbound cloudShop cloudEnv 1 (replyAt 100) = .ok out := by
  have haddressed : ∀ t, addressed cloudShop 1 (refOf (replyAt t).chat (replyAt t).channel) = some unboundChat := by
    intro t
    show addressed cloudShop 1 (refOf (ChatAt 7 "5511999990000") "") = some unboundChat
    decide +kernel
  have hgated : ∀ t, Gated (effectiveChannel cloudShop 1 (replyAt t)) := by
    intro t
    have hnamed : turnChannel cloudShop (refOf (replyAt t).chat (replyAt t).channel) (replyAt t) = "whatsapp_cloud" := by
      show turnChannel cloudShop (refOf (ChatAt 7 "5511999990000") "") (replyAt 0) = "whatsapp_cloud"
      decide +kernel
    unfold effectiveChannel
    rw [haddressed, hnamed]
    show Gated "whatsapp_cloud"
    decide +kernel
  have htype : ∀ t, ¬ IsTemplate (replyAt t) := by
    intro t
    show ¬ IsTemplate (replyAt 0)
    decide +kernel
  constructor
  · refine ((outbound_gated (freshReply 99)).2.1 (hgated 99) (htype 99)).mpr ?_
    exact ⟨by decide, rfl, unboundChat, 100, haddressed 99, rfl, by decide⟩
  · intro h
    obtain ⟨-, -, c, exp, hc, hexp, hlt⟩ := ((outbound_gated (freshReply 100)).2.1 (hgated 100) (htype 100)).mp h
    rw [haddressed] at hc
    cases hc
    cases hexp
    exact absurd hlt (by decide)

end Sample

end PerGo.L4.OutboundGate
