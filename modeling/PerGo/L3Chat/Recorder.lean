import PerGo.Core.Table
import PerGo.L2Domain.Chat

/-!
# Chat Activity recorder

`activity/activity.go`: `Recorder.Inbound` and
`Recorder.Outbound`, each one transaction over the tables `connections`,
`contact_identities`, `chats` and `chat_messages`. An error rolls everything
back, so a failed call has no tables to return.

* A chat is addressed by its id, by connection and contact (the only form that
  may create it), or by connection and address.
* `chat_messages.uid` is unique over all workspaces
  (migrations/053_create_chats_and_messages.sql:28), while the idempotency check
  looks for the uid in one workspace.
* A row of `chats` is a `ChatState`; the channel is not a column and reads as empty.
* A statement that fails for a reason of its own (the connection is lost, a value
  does not fit its column) is `ActEnv.dbErr`.
-/
namespace PerGo.L3.Recorder

open PerGo.Core PerGo.L1 PerGo.L2

/-- A row of `contact_identities`. -/
structure ContactIdentity where
  contactID : UUID
  workspaceID : UUID
  channel : String
  senderIdentity : String
deriving DecidableEq

/-- The tables. `connections` holds id and channel. -/
structure ChatDB where
  connections : List (UUID × String)
  identities : List ContactIdentity
  chats : List ChatState
  messages : List ChatMessage

/-- mirrors activity.go:129-135 -/
structure ChatRef where
  id : UUID := UUID.Nil
  connID : UUID := UUID.Nil
  contactID : UUID := UUID.Nil
  address : String := ""
  channel : String := ""

/-- mirrors activity.go:138-140 -/
def ChatID (id : UUID) : ChatRef := { id := id }

/-- mirrors activity.go:144-146 -/
def ChatOf (connID contactID : UUID) : ChatRef := { connID := connID, contactID := contactID }

/-- mirrors activity.go:150-152 -/
def ChatAt (connID : UUID) (address : String) : ChatRef := { connID := connID, address := trimSpace address }

/-- mirrors activity.go:155-158 -/
def ChatRef.withChannel (r : ChatRef) (channel : String) : ChatRef := { r with channel := trimSpace channel }

inductive ActivityError
  | invalidWorkspaceID
  | invalidUID
  | chatNotFound
  | templateRequired (w : ServiceWindow)
  | db (text : String)
deriving DecidableEq

structure ActEnv where
  apply : ApplyEnv
  /-- `gen_random_uuid()` for a new chat -/
  newChatID : UUID
  dbErr : Option String

/-- `LTRIM(s, '+')`. -/
def ltrimPlus (s : String) : String := String.ofList (s.toList.dropWhile (· = '+'))

section Chats

variable (db : ChatDB)

/-- `SELECT channel FROM connections WHERE id = $1`, empty when there is no row. -/
def connChannel (id : UUID) : String := (db.connections.lookup id).getD ""

def pickIdentity (rows : List ContactIdentity) (address : String) : UUID :=
  match rows.find? (fun r => r.senderIdentity = address) with
  | some r => r.contactID
  | none => ((rows.find? fun r => ltrimPlus r.senderIdentity = ltrimPlus address).map (·.contactID)).getD UUID.Nil

/-- mirrors activity.go:869-900 -/
def lookupContactIDByAddress (ws : UUID) (channel address : String) : UUID :=
  let address := trimSpace address
  if address = "" ∨ ws = UUID.Nil then UUID.Nil
  else
    let own := db.identities.filter fun r => r.workspaceID = ws
    let onChannel := if channel ≠ "" then pickIdentity (own.filter fun r => r.channel = channel) address else UUID.Nil
    if onChannel ≠ UUID.Nil then onChannel else pickIdentity own address

def latestChat : List ChatState → Option ChatState
  | [] => none
  | c :: cs => match latestChat cs with
    | none => some c
    | some d => if c.lastMessageAt < d.lastMessageAt then some d else some c

/-- The query of activity.go:959-970: the chat of the connection, else one that is
bound to none; without a connection any chat of the contact, bound ones first. -/
def findChat (ws contactID : UUID) (conn : Option UUID) : Option ChatState :=
  let own := db.chats.filter fun c => c.workspaceID = ws && c.contactID = contactID
  match conn with
  | some conn =>
    (own.find? fun c => c.connectionID = some conn).or (own.find? fun c => c.connectionID = none)
  | none => (latestChat (own.filter fun c => c.connectionID.isSome)).or (own.find? fun c => c.connectionID = none)

/-- `UPDATE chats … WHERE workspace_id = … AND id = …`. -/
def updateChat (ws id : UUID) (f : ChatState → ChatState) : ChatDB :=
  { db with chats := updateWhere (fun c => c.workspaceID = ws && c.id = id) f db.chats }

/-- The row `INSERT INTO chats` makes. -/
def newChat (id ws contactID : UUID) (conn : Option UUID) (now : Time) : ChatState :=
  { id := id, workspaceID := ws, connectionID := conn, contactID := contactID, channel := "", status := .open_,
    snoozedUntil := none, ai := ⟨.active, none⟩, serviceWindowExpiresAt := none, entryPointType := .standard,
    unreadCount := 0, lastMessageAt := now, lastInboundAt := none, lastOutboundAt := none }

/-- `scanChatState`: an empty mode reads as active. mirrors activity.go:1017-1052 -/
def scanChatState (row : ChatState) : ChatState :=
  { row with channel := "", ai := defaultedAI row.ai, entryPointType := row.entryPointType.normalize }

/-- The connection a reference names, if it has a row. mirrors activity.go:929-937 -/
def refConnection (ref : ChatRef) : Option UUID :=
  if ref.connID ≠ UUID.Nil ∧ (db.connections.lookup ref.connID).isSome then some ref.connID else none

/-- mirrors activity.go:939-942 -/
def refChannel (ref : ChatRef) : String :=
  if ref.channel ≠ "" then ref.channel
  else match refConnection db ref with
    | some conn => connChannel db conn
    | none => ""

/-- mirrors activity.go:944-957 -/
def refContact (ws : UUID) (ref : ChatRef) : UUID :=
  if ref.contactID = UUID.Nil ∧ ref.address ≠ "" then lookupContactIDByAddress db ws (refChannel db ref) ref.address
  else ref.contactID

/-- A chat bound to no connection is bound to the one it was found through.
mirrors activity.go:972-988 -/
def adoptChat (ref : ChatRef) (row : ChatState) : ChatState × ChatDB :=
  let st := scanChatState row
  let (st, db) := match refConnection db ref, st.connectionID with
    | some conn, none =>
      ({ st with connectionID := some conn },
        updateChat db st.workspaceID st.id fun c => { c with connectionID := some conn })
    | _, _ => (st, db)
  let channel := refChannel db ref
  ({ st with channel := if channel ≠ "" then channel else connChannel db (st.connectionID.getD UUID.Nil) }, db)

/-- mirrors activity.go:902-1015 -/
def resolveAndLockChat (env : ActEnv) (ws : UUID) (ref : ChatRef) (allowCreate : Bool) :
    Except ActivityError (ChatState × ChatDB) :=
  if ws = UUID.Nil then .error .invalidWorkspaceID
  else if ref.id ≠ UUID.Nil then
    match db.chats.find? fun c => c.workspaceID = ws && c.id = ref.id with
    | none => .error .chatNotFound
    | some row =>
      let st := scanChatState row
      .ok ({ st with channel := connChannel db (st.connectionID.getD UUID.Nil) }, db)
  else
    let contactID := refContact db ws ref
    if contactID = UUID.Nil then .error .chatNotFound
    else match findChat db ws contactID (refConnection db ref) with
      | some row => .ok (adoptChat db ref row)
      | none =>
        -- an address never creates a chat
        if !allowCreate || ref.contactID = UUID.Nil then .error .chatNotFound
        else
          let row := newChat env.newChatID ws contactID (refConnection db ref) env.apply.now
          .ok ({ row with status := .unset, channel := refChannel db ref }, { db with chats := db.chats ++ [row] })

end Chats

section Messages

variable (db : ChatDB)

/-- mirrors activity.go:1054-1082 -/
def loadMessageByUID (ws : UUID) (uid : String) : Option ChatMessage :=
  db.messages.find? fun m => m.workspaceID = ws && m.uid = uid

/-- `uid` is unique over the whole table. mirrors activity.go:1085-1123 -/
def insertChatMessage (msg : ChatMessage) : Except ActivityError ChatDB :=
  if db.messages.any (fun m => m.uid = msg.uid) then
    .error (.db "insert chat message: duplicate key value violates unique constraint")
  else .ok { db with messages := db.messages ++ [msg] }

/-- The later of a stored time and a new one. -/
def greatest (old : Option Time) (t : Time) : Option Time := some (max (old.getD t) t)

/-- mirrors activity.go:1125-1159 -/
def updateInboundChatState (state : ChatState) (now : Time) : ChatDB :=
  let inAt := (state.lastInboundAt.filter (· ≠ 0)).getD now
  updateChat db state.workspaceID state.id fun c => { c with
    status := state.status, snoozedUntil := state.snoozedUntil, ai := defaultedAI state.ai,
    unreadCount := state.unreadCount, serviceWindowExpiresAt := state.serviceWindowExpiresAt,
    entryPointType := state.entryPointType.normalize, lastInboundAt := greatest c.lastInboundAt inAt,
    lastMessageAt := if state.lastMessageAt = 0 then now else state.lastMessageAt }

/-- mirrors activity.go:1161-1191 -/
def updateOutboundChatState (state : ChatState) (now : Time) : ChatDB :=
  let outAt := (state.lastOutboundAt.filter (· ≠ 0)).getD now
  updateChat db state.workspaceID state.id fun c => { c with
    status := state.status, snoozedUntil := state.snoozedUntil, ai := defaultedAI state.ai,
    unreadCount := state.unreadCount, lastOutboundAt := greatest c.lastOutboundAt outAt,
    lastMessageAt := if state.lastMessageAt = 0 then now else state.lastMessageAt }

end Messages

/-! ## Turns -/

/-- mirrors activity.go:202-215 -/
structure InboundTurn where
  chat : ChatRef
  uid : String
  senderName : String
  senderID : String
  replyToUID : Option String
  body : String
  mediaURL : Option String
  mediaType : Option String
  channel : String
  entryPointType : EntryPointType
  metadata : List (String × GoVal)
  at_ : Time

/-- mirrors activity.go:239-256 -/
structure OutboundTurn where
  chat : ChatRef
  uid : String
  senderType : String
  senderName : String
  senderID : String
  replyToUID : Option String
  body : String
  media : Option Media
  product : Option ProductPayload
  templateName : String
  language : String
  messageType : String
  channel : String
  to_ : String
  metadata : StrMap
  at_ : Time

/-- mirrors activity.go:218-224 -/
structure InboundReceipt where
  chat : ChatState
  message : ChatMessage
  duplicate : Bool
  at_ : Time
  prevLastOutboundAt : Option Time

/-- mirrors activity.go:259-263 -/
structure OutboundReceipt where
  chat : ChatState
  message : ChatMessage
  duplicate : Bool

/-- The reference with the turn's channel, when it has none of its own.
mirrors activity.go:370-373, 474-477 -/
def refOf (chat : ChatRef) (channel : String) : ChatRef :=
  if chat.channel = "" ∧ channel ≠ "" then { chat with channel := channel } else chat

def entryPointWord : EntryPointType → String
  | .standard => "standard"
  | .ctwa => "ctwa"
  | .other s _ => s

/-- mirrors activity.go:400-423 -/
def inboundActivity (db : ChatDB) (env : ActEnv) (state : ChatState) (ref : ChatRef) (turn : InboundTurn) :
    L2.InboundTurn :=
  let channel := trimSpace turn.channel
  let channel := if channel = "" then ref.channel else channel
  let channel := if channel = "" then state.channel else channel
  let channel := if channel = "" then connChannel db (state.connectionID.getD UUID.Nil) else channel
  { id := UUID.Nil, at_ := atOf env.apply turn.at_, uid := trimSpace turn.uid, senderName := turn.senderName,
    senderID := turn.senderID, replyToUID := turn.replyToUID, body := turn.body, mediaURL := turn.mediaURL,
    mediaType := turn.mediaType, channel := channel, entryPointType := entryPointWord turn.entryPointType,
    metadata := turn.metadata }

/-- mirrors activity.go:347-446 -/
def inbound (db : ChatDB) (env : ActEnv) (ws : UUID) (turn : InboundTurn) :
    Except ActivityError (InboundReceipt × ChatDB) :=
  if ws = UUID.Nil then .error .invalidWorkspaceID
  else if trimSpace turn.uid = "" then .error .invalidUID
  else match env.dbErr with
    | some e => .error (.db e)
    | none => do
      let at_ := atOf env.apply turn.at_
      let ref := refOf turn.chat turn.channel
      let (state, db) ← resolveAndLockChat db env ws ref (ref.contactID ≠ UUID.Nil)
      match loadMessageByUID db state.workspaceID (trimSpace turn.uid) with
      | some msg => return (⟨state, msg, true, at_, state.lastOutboundAt⟩, db)
      | none =>
        let act := inboundActivity db env state ref turn
        let next := inboundState env.apply state act
        let msg := inboundMessage env.apply state act
        let db ← insertChatMessage db msg
        return (⟨next, msg, false, at_, state.lastOutboundAt⟩, updateInboundChatState db next at_)

/-- `template` for a named template, `text` for a turn without a type.
mirrors activity.go:487-493 -/
def gateType (turn : OutboundTurn) : String :=
  if trimSpace turn.templateName ≠ "" then "template"
  else if trimSpace turn.messageType = "" then "text"
  else trimSpace turn.messageType

/-- mirrors activity.go:479-485 -/
def turnChannel (db : ChatDB) (ref : ChatRef) (turn : OutboundTurn) : String :=
  let channel := trimSpace turn.channel
  let channel := if channel = "" then ref.channel else channel
  if channel = "" then connChannel db ref.connID else channel

/-- mirrors activity.go:550-566 -/
def outboundActivity (at_ : Time) (channel : String) (turn : OutboundTurn) : OutboundActivity :=
  { id := UUID.Nil, at_ := at_, uid := trimSpace turn.uid, senderType := turn.senderType,
    senderName := turn.senderName, senderID := turn.senderID, replyToUID := turn.replyToUID, body := turn.body,
    media := turn.media, product := turn.product, templateName := turn.templateName, language := turn.language,
    messageType := turn.messageType, channel := channel, to_ := turn.to_, metadata := turn.metadata }

/-- mirrors activity.go:550-575 -/
def storeOutbound (db : ChatDB) (env : ActEnv) (state : ChatState) (at_ : Time) (channel : String)
    (turn : OutboundTurn) : Except ActivityError (OutboundReceipt × ChatDB) := do
  let act := outboundActivity at_ channel turn
  let next := outboundState env.apply state act
  let msg := outboundMessage env.apply state act
  let db ← insertChatMessage db msg
  return (⟨next, msg, false⟩, updateOutboundChatState db next at_)

/-- The gate is passed before a chat is created and before the message is stored; a uid that is stored
already passes without it. mirrors activity.go:451-587 -/
def outbound (db : ChatDB) (env : ActEnv) (ws : UUID) (turn : OutboundTurn) :
    Except ActivityError (OutboundReceipt × ChatDB) :=
  if ws = UUID.Nil then .error .invalidWorkspaceID
  else if trimSpace turn.uid = "" then .error .invalidUID
  else match env.dbErr with
    | some e => .error (.db e)
    | none =>
      let at_ := atOf env.apply turn.at_
      let ref := refOf turn.chat turn.channel
      let channel := turnChannel db ref turn
      match resolveAndLockChat db env ws ref false with
      | .ok (state, db) =>
        let channel := if channel = "" then state.channel else channel
        let channel := if channel = "" then connChannel db (state.connectionID.getD UUID.Nil) else channel
        let state := { state with channel := channel }
        match loadMessageByUID db state.workspaceID (trimSpace turn.uid) with
        | some msg => .ok (⟨state, msg, true⟩, db)
        | none =>
          let w := window state true at_
          if requireOpenWindow w (gateType turn) then storeOutbound db env state at_ channel turn
          else .error (.templateRequired w)
      | .error .chatNotFound =>
        let w := window { newChat UUID.Nil UUID.Nil UUID.Nil none 0 with channel := channel } false at_
        if !requireOpenWindow w (gateType turn) then .error (.templateRequired w)
        else if ref.contactID = UUID.Nil then .error .chatNotFound
        else do
          let (state, db) ← resolveAndLockChat db env ws ref true
          storeOutbound db env { state with channel := channel } at_ channel turn
      | .error e => .error e

/-! ## What an inbound turn leaves behind -/

def chatKey (c : ChatState) : UUID × UUID × Option UUID × UUID := (c.id, c.workspaceID, c.connectionID, c.contactID)

/-- A row of `chats` with the given key. -/
def HasChat (db : ChatDB) (id ws conn contact : UUID) : Prop :=
  (id, ws, some conn, contact) ∈ db.chats.map chatKey

theorem updateInboundChatState_keys (db : ChatDB) (state : ChatState) (now : Time) :
    (updateInboundChatState db state now).chats.map chatKey = db.chats.map chatKey := by
  simp only [updateInboundChatState, updateChat]
  apply map_updateWhere
  intro c
  rfl

section Inbound

variable (env : ActEnv) {db : ChatDB} {ws conn contact : UUID} {ref : ChatRef}

theorem findChat_spec {c : ChatState} (h : findChat db ws contact (some conn) = some c) :
    c ∈ db.chats ∧ c.workspaceID = ws ∧ c.contactID = contact ∧
      (c.connectionID = some conn ∨ c.connectionID = none) := by
  simp only [findChat, Option.or_eq_some_iff] at h
  obtain h | ⟨-, h⟩ := h
  · have hmem := List.mem_of_find?_eq_some h
    have hp := List.find?_some h
    simp only [List.mem_filter, Bool.and_eq_true, decide_eq_true_eq] at hmem hp
    exact ⟨hmem.1, hmem.2.1, hmem.2.2, Or.inl hp⟩
  · have hmem := List.mem_of_find?_eq_some h
    have hp := List.find?_some h
    simp only [List.mem_filter, Bool.and_eq_true, decide_eq_true_eq] at hmem hp
    exact ⟨hmem.1, hmem.2.1, hmem.2.2, Or.inr hp⟩

def Bound (db : ChatDB) : Prop := ∀ c ∈ db.chats, c.connectionID ≠ none

/-- What a transaction that touches one chat keeps of the tables. -/
structure Extends (db db' : ChatDB) : Prop where
  connections : db'.connections = db.connections
  keys : ∀ k ∈ db.chats.map chatKey, k ∈ db'.chats.map chatKey
  bound : Bound db → Bound db'

theorem resolveAndLockChat_spec (hws : ws ≠ UUID.Nil) (hid : ref.id = UUID.Nil)
    (hconn : refConnection db ref = some conn) (hcontact : ref.contactID = contact) (hne : contact ≠ UUID.Nil)
    (hb : Bound db) :
    ∃ st db', resolveAndLockChat db env ws ref true = .ok (st, db') ∧ st.workspaceID = ws ∧
      HasChat db' st.id ws conn contact ∧ Extends db db' ∧ db'.messages = db.messages := by
  have hcon : refContact db ws ref = contact := by
    unfold refContact
    rw [if_neg (fun h => hne (hcontact ▸ h.1)), hcontact]
  simp only [resolveAndLockChat, if_neg hws, hid, ne_eq, not_true_eq_false, if_false, hcon, if_neg hne, hconn]
  cases hf : findChat db ws contact (some conn) with
  | some row =>
    obtain ⟨hmem, hrws, hrc, hrconn⟩ := findChat_spec hf
    have hrow : row.connectionID = some conn := by
      obtain h | h := hrconn
      · exact h
      · exact absurd h (hb row hmem)
    refine ⟨_, _, rfl, ?_⟩
    simp only [hconn, scanChatState, hrow]
    refine ⟨hrws, List.mem_map.mpr ⟨row, hmem, ?_⟩, ⟨rfl, fun k hk => hk, id⟩, trivial⟩
    simp only [chatKey, hrws, hrow, hrc]
  | none =>
    have hcreate : (!true || decide (ref.contactID = UUID.Nil)) = false := by simp [hcontact, hne]
    simp only [hcreate, Bool.false_eq_true, if_false]
    refine ⟨_, _, rfl, rfl, ?_, ⟨rfl, ?_, ?_⟩, rfl⟩
    · simp [HasChat, chatKey, newChat]
    · intro k hk
      simp only [List.map_append, List.mem_append]
      exact Or.inl hk
    · intro hbound c hc
      simp only [List.mem_append, List.mem_singleton] at hc
      obtain hc | rfl := hc
      · exact hbound c hc
      · simp [newChat]

def inboundDB (db : ChatDB) (env : ActEnv) (ws : UUID) (turn : InboundTurn) : ChatDB :=
  match inbound db env ws turn with
  | .ok (_, db') => db'
  | .error _ => db

theorem updateInboundChatState_extends (db : ChatDB) (state : ChatState) (now : Time) :
    Extends db (updateInboundChatState db state now) := by
  have hkeys := updateInboundChatState_keys db state now
  refine ⟨rfl, fun k hk => hkeys ▸ hk, ?_⟩
  intro hb c hc
  have hk : chatKey c ∈ db.chats.map chatKey := hkeys ▸ List.mem_map_of_mem hc
  obtain ⟨c₀, hc₀, he⟩ := List.mem_map.mp hk
  have hconn : c₀.connectionID = c.connectionID := congrArg (fun k => k.2.2.1) he
  exact hconn ▸ hb c₀ hc₀

theorem Extends.trans {db db' db'' : ChatDB} (h : Extends db db') (h' : Extends db' db'') : Extends db db'' :=
  ⟨h'.connections.trans h.connections, fun k hk => h'.keys k (h.keys k hk), fun hb => h'.bound (h.bound hb)⟩

variable (turn : InboundTurn)

theorem inboundDB_spec (hws : ws ≠ UUID.Nil) (huid : trimSpace turn.uid ≠ "") (hdb : env.dbErr = none)
    (hchat : turn.chat = ChatOf conn contact) (hconn : conn ≠ UUID.Nil)
    (hrow : (db.connections.lookup conn).isSome) (hne : contact ≠ UUID.Nil) (hb : Bound db) :
    Extends db (inboundDB db env ws turn) ∧
    if trimSpace turn.uid ∈ db.messages.map (·.uid) then (inboundDB db env ws turn).messages = db.messages
    else ∃ msg, (inboundDB db env ws turn).messages = db.messages ++ [msg] ∧ msg.uid = trimSpace turn.uid ∧
      msg.workspaceID = ws ∧ msg.body = turn.body ∧ HasChat (inboundDB db env ws turn) msg.chatID ws conn contact := by
  have href : refConnection db (refOf turn.chat turn.channel) = some conn ∧
      (refOf turn.chat turn.channel).contactID = contact ∧ (refOf turn.chat turn.channel).id = UUID.Nil := by
    rw [hchat]
    unfold refOf
    split <;> simp [refConnection, ChatOf, hconn, hrow]
  obtain ⟨hrc, hrk, hid⟩ := href
  obtain ⟨st, db₁, hres, hst, hhas, hext, hmsgs⟩ := resolveAndLockChat_spec env hws hid hrc hrk hne hb
  have hallow : decide ((refOf turn.chat turn.channel).contactID ≠ UUID.Nil) = true := by simp [hrk, hne]
  unfold inboundDB inbound
  rw [if_neg hws, if_neg huid, hdb]
  simp only [hallow, hres, Except.bind, bind, hst]
  cases hload : loadMessageByUID db₁ ws (trimSpace turn.uid) with
  | some msg =>
    have hin : trimSpace turn.uid ∈ db.messages.map (·.uid) := by
      have hmem := List.mem_of_find?_eq_some hload
      have hp := List.find?_some hload
      simp only [Bool.and_eq_true, decide_eq_true_eq] at hp
      rw [hmsgs] at hmem
      exact hp.2 ▸ List.mem_map_of_mem hmem
    rw [if_pos hin]
    exact ⟨hext, hmsgs⟩
  | none =>
    generalize hact : inboundActivity db₁ env st (refOf turn.chat turn.channel) turn = act
    have hmu : (inboundMessage env.apply st act).uid = trimSpace turn.uid := by rw [← hact]; rfl
    have hbody : (inboundMessage env.apply st act).body = turn.body := by rw [← hact]; rfl
    simp only [insertChatMessage, hmu]
    by_cases hin : trimSpace turn.uid ∈ db.messages.map (·.uid)
    · have hany : db₁.messages.any (fun m => m.uid = trimSpace turn.uid) = true := by
        obtain ⟨m, hm, hmu⟩ := List.mem_map.mp hin
        rw [hmsgs]
        exact List.any_eq_true.mpr ⟨m, hm, decide_eq_true hmu⟩
      simp only [hany, if_true, if_pos hin]
      exact ⟨⟨rfl, fun k hk => hk, id⟩, trivial⟩
    · have hany : db₁.messages.any (fun m => m.uid = trimSpace turn.uid) = false := by
        rw [hmsgs, List.any_eq_false]
        intro m hm hmu
        exact hin (of_decide_eq_true hmu ▸ List.mem_map_of_mem hm)
      simp only [hany, Bool.false_eq_true, if_false, if_neg hin, pure, Except.pure]
      have hstored : Extends db₁ { db₁ with messages := db₁.messages ++ [inboundMessage env.apply st act] } :=
        ⟨rfl, fun k hk => hk, id⟩
      refine ⟨hext.trans (hstored.trans (updateInboundChatState_extends _ _ _)), inboundMessage env.apply st act, congrArg (· ++ _) hmsgs, hmu, hst, hbody, ?_⟩
      unfold HasChat
      rw [updateInboundChatState_keys]
      exact hhas

end Inbound

end PerGo.L3.Recorder
