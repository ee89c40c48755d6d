import PerGo.Core.Fallible
import PerGo.L3Chat.Recorder
import PerGo.L3MCP.Engine

/-!
# The reads of the chat engine

`ResolveChat`, `List`, `ListMessages`, `ListThread` and `GetMessage` of
`chat/engine.go`, with the queries of `repository/chat.go` and
`contact.go` they make.

* `ReadDB` is the store. A contact's tag has the workspace of its tag row; the uid of a
  message is unique over all workspaces.
* `ReadEnv` has the two clocks, which queries fail, and `ILIKE`.
* An `ORDER BY` leaves rows it does not order as they are in the table.

The columns that no read compares (AI mode, service window, metadata, timestamps) are left
out, as is the reset of the unread counter that `ListThread` ends with on request.
-/
namespace PerGo.L3.Reads

open PerGo.Core PerGo.L1 PerGo.L2 PerGo.L3.Recorder
open PerGo.L3.MCP (enforceScope)

structure ChatRow where
  id : UUID
  workspaceID : UUID
  connectionID : Option UUID
  contactID : UUID
  status : ChatStatus
  snoozedUntil : Option Time
  assignedEmail : Option String
  unreadCount : Int
  lastMessageAt : Time
deriving DecidableEq

/-- What is read of a chat. -/
structure Chat extends ChatRow where
  tags : List String

structure ContactRow where
  id : UUID
  workspaceID : UUID
  name : String
deriving DecidableEq

structure Contact extends ContactRow where
  identities : List ContactIdentity

structure ConnectionRow where
  id : UUID
  workspaceID : UUID
  channel : String
deriving DecidableEq

/-- A row of `contact_tags` with its tag. -/
structure TagRow where
  workspaceID : UUID
  contactID : UUID
  name : String
deriving DecidableEq

structure DispatchRow where
  workspaceID : UUID
  traceID : String
  status : String
  updatedAt : Time
deriving DecidableEq

structure ReadDB where
  chats : List ChatRow
  messages : List ChatMessage
  contacts : List ContactRow
  identities : List ContactIdentity
  connections : List ConnectionRow
  tags : List TagRow
  dispatches : List DispatchRow
  uids : (messages.map (·.uid)).Nodup
deriving DecidableEq

inductive Query
  | getChat
  | getChatByID
  | getChatByContact
  | listChats
  | getChatMessageByUID
  | findMessageByUID
  | listChatMessages
  | listThreadByContact
  | getContact (id : UUID)
  | getContacts
  | getIdentities

structure ReadEnv where
  /-- the clock of the database -/
  sqlNow : Time
  /-- `time.Now()` -/
  now : Time
  fails : Query → Option String
  /-- `identity ILIKE '%' || phone || '%'` -/
  ilike : String → String → Bool

inductive RepoError
  | invalidWorkspaceID
  | chatNotFound
  | messageNotFound
  | contactNotFound
  | missing (text : String)
  | db (text : String)

/-- mirrors domain/chat.go:230-240 -/
structure ChatFilter where
  status : String := ""
  channel : String := ""
  unread : Option Bool := none
  phone : String := ""
  contactID : Option UUID := none
  connectionID : Option UUID := none
  assignedEmail : Option String := none
  unassigned : Option Bool := none
  tag : String := ""

/-- mirrors engine.go:149-156 -/
structure ChatRef where
  chatID : UUID := UUID.Nil
  contactID : UUID := UUID.Nil
  connectionID : Option UUID := none
  messageUID : String := ""
  channel : String := ""
  phone : String := ""

def statusText : ChatStatus → String
  | .open_ => "open"
  | .pending => "pending"
  | .closed => "closed"
  | .snoozed => "snoozed"
  | .other s _ => s

/-! ## Queries -/

section Repository

variable (env : ReadEnv) (db : ReadDB)

/-- The row as the repository returns it. mirrors repository/chat.go:38-53, 141, 274 -/
def hydrateChat (c : ChatRow) : Chat :=
  let names := (db.tags.filter fun t => t.workspaceID = c.workspaceID && t.contactID = c.contactID).map (·.name)
  let effective := normalizeSnooze c.status c.snoozedUntil env.now
  { c with status := effective.1, snoozedUntil := effective.2, tags := names.insertionSort (· ≤ ·) }

/-- mirrors repository/chat.go:129-162 -/
def getChat (ws id : UUID) : Except RepoError Chat :=
  if ws = UUID.Nil then .error .invalidWorkspaceID
  else match env.fails .getChat with
    | some e => .error (.db e)
    | none => match db.chats.find? fun c => c.workspaceID = ws && c.id = id with
      | none => .error .chatNotFound
      | some c => .ok (hydrateChat env db c)

/-- mirrors repository/chat.go:207-241 -/
def getChatByID (id : UUID) : Except RepoError Chat :=
  if id = UUID.Nil then .error (.missing "chat_id is required")
  else match env.fails .getChatByID with
    | some e => .error (.db e)
    | none => match db.chats.find? fun c => c.id = id with
      | none => .error .chatNotFound
      | some c => .ok (hydrateChat env db c)

/-- `ORDER BY (connection_id IS NOT NULL) DESC, last_message_at DESC`. -/
def connectedFirst (a b : ChatRow) : Bool :=
  if a.connectionID.isSome = b.connectionID.isSome then b.lastMessageAt ≤ a.lastMessageAt else a.connectionID.isSome

/-- mirrors repository/chat.go:165-204 -/
def getChatByContact (ws contactID : UUID) : Except RepoError Chat :=
  if ws = UUID.Nil then .error .invalidWorkspaceID
  else if contactID = UUID.Nil then .error (.missing "contact_id is required")
  else match env.fails .getChatByContact with
    | some e => .error (.db e)
    | none =>
      let rows := db.chats.filter fun c => c.workspaceID = ws && c.contactID = contactID
      match (rows.insertionSort fun a b => connectedFirst a b).head? with
      | none => .error .chatNotFound
      | some c => .ok (hydrateChat env db c)

/-- mirrors activity/activity.go:192-199 -/
def statusPredicate (c : ChatRow) (target : String) : Bool :=
  if target = "open" then c.status = .open_ || (c.status = .snoozed && c.snoozedUntil.any (· ≤ env.sqlNow))
  else if target = "snoozed" then c.status = .snoozed && c.snoozedUntil.all (env.sqlNow < ·)
  else statusText c.status = target

def onChannel (ws : UUID) (channel : String) (c : ChatRow) : Bool :=
  (db.connections.any fun r => r.workspaceID = ws && c.connectionID = some r.id && r.channel = channel) ||
    db.identities.any fun i => i.workspaceID = ws && i.contactID = c.contactID && i.channel = channel

def hasPhone (ws : UUID) (phone : String) (c : ChatRow) : Bool :=
  db.identities.any fun i => i.workspaceID = ws && i.contactID = c.contactID && env.ilike i.senderIdentity phone

def hasTag (tag : String) (c : ChatRow) : Bool :=
  db.tags.any fun t => t.workspaceID = c.workspaceID && t.contactID = c.contactID && toLower t.name = toLower tag

/-- The conditions after `workspace_id = $1`. mirrors repository/chat.go:274-340 -/
def matchesFilter (ws : UUID) (f : ChatFilter) (c : ChatRow) : Bool :=
  (f.status = "" || statusPredicate env c f.status) &&
  (f.channel = "" || onChannel db ws f.channel c) &&
  (f.unread.all fun u => if u then 0 < c.unreadCount else c.unreadCount = 0) &&
  ((f.contactID.filter (· ≠ UUID.Nil)).all fun id => c.contactID = id) &&
  ((f.connectionID.filter (· ≠ UUID.Nil)).all fun id => c.connectionID = some id) &&
  (f.phone = "" || hasPhone env db ws f.phone c) &&
  ((f.assignedEmail.filter (· ≠ "")).all fun email => c.assignedEmail = some email) &&
  (f.unassigned ≠ some true || c.assignedEmail.getD "" = "") &&
  (f.tag = "" || hasTag db (trimSpace f.tag) c)

def clampLimit (limit : Int) : Nat := if limit ≤ 0 then 50 else if limit > 100 then 100 else limit.toNat

def selectChats (ws : UUID) (f : ChatFilter) (limit offset : Int) : List ChatRow :=
  let rows := db.chats.filter fun c => c.workspaceID = ws && matchesFilter env db ws f c
  ((rows.insertionSort fun a b => b.lastMessageAt ≤ a.lastMessageAt).drop offset.toNat).take (clampLimit limit)

/-- mirrors repository/chat.go:244-370 -/
def listChats (ws : UUID) (f : ChatFilter) (limit offset : Int) : Except RepoError (List Chat) :=
  if ws = UUID.Nil then .error .invalidWorkspaceID
  else match env.fails .listChats with
    | some e => .error (.db e)
    | none => .ok ((selectChats env db ws f limit offset).map (hydrateChat env db))

/-- `ORDER BY created_at, id`. -/
def olderOrSame (a b : ChatMessage) : Bool :=
  a.createdAt < b.createdAt || (a.createdAt = b.createdAt && a.id ≤ b.id)

/-- `(a.created_at, a.id) < (b.created_at, b.id)`. -/
def older (a b : ChatMessage) : Bool := olderOrSame a b && !olderOrSame b a

def ascending (rows : List ChatMessage) : List ChatMessage := rows.insertionSort fun a b => olderOrSame a b

/-- mirrors repository/chat.go:505-617 -/
def listChatMessages (ws chatID : UUID) (beforeUID afterUID : String) (limit : Int) :
    Except RepoError (List ChatMessage) :=
  if ws = UUID.Nil then .error .invalidWorkspaceID
  else if chatID = UUID.Nil then .error (.missing "chat_id is required")
  else match env.fails .listChatMessages with
    | some e => .error (.db e)
    | none =>
      let rows := db.messages.filter fun m => m.workspaceID = ws && m.chatID = chatID
      let cursor := fun uid => db.messages.find? fun m => m.workspaceID = ws && m.uid = uid
      -- of a cursor that no row has, nothing is before or after
      if beforeUID ≠ "" then
        let rows := rows.filter fun m => (cursor beforeUID).any (older m ·)
        .ok ((ascending rows).reverse.take (clampLimit limit)).reverse
      else if afterUID ≠ "" then
        let rows := rows.filter fun m => (cursor afterUID).any (older · m)
        .ok ((ascending rows).take (clampLimit limit))
      else .ok ((ascending rows).reverse.take (clampLimit limit)).reverse

/-- mirrors repository/chat.go:620-659 -/
def getChatMessageByUID (ws : UUID) (uid : String) : Except RepoError ChatMessage :=
  if ws = UUID.Nil then .error .invalidWorkspaceID
  else match env.fails .getChatMessageByUID with
    | some e => .error (.db e)
    | none => match db.messages.find? fun m => m.workspaceID = ws && m.uid = uid with
      | none => .error .messageNotFound
      | some m => .ok m

/-- mirrors repository/chat.go:662-701 -/
def findMessageByUID (uid : String) : Except RepoError ChatMessage :=
  if uid = "" then .error (.missing "uid is required")
  else match env.fails .findMessageByUID with
    | some e => .error (.db e)
    | none => match db.messages.find? fun m => m.uid = uid with
      | none => .error .messageNotFound
      | some m => .ok m

structure ThreadMessage where
  message : ChatMessage
  status : Option String

/-- The latest dispatch row of an outbound message. mirrors repository/chat.go:1125, 1141-1147 -/
def dispatchStatus (m : ChatMessage) : Option String :=
  let rows := db.dispatches.filter fun d => d.workspaceID = m.workspaceID && d.traceID = m.uid
  if m.direction = .outbound then
    ((rows.insertionSort fun a b => b.updatedAt ≤ a.updatedAt).head?).map (·.status)
  else none

/-- mirrors repository/chat.go:1113-1165 -/
def listThreadByContact (ws contactID : UUID) (afterID : Option UUID) : Except RepoError (List ThreadMessage) :=
  if ws = UUID.Nil then .error .invalidWorkspaceID
  else match env.fails .listThreadByContact with
    | some e => .error (.db e)
    | none =>
      let rows := db.messages.filter fun m => m.workspaceID = ws && db.chats.any fun c =>
        c.workspaceID = m.workspaceID && c.id = m.chatID && c.contactID = contactID
      let rows := match afterID with
        | none => rows
        | some id =>
          let cursor := db.messages.find? fun m => m.workspaceID = ws && m.id = id
          rows.filter fun m => cursor.any (older · m)
      .ok ((ascending rows).map fun m => ⟨m, dispatchStatus db m⟩)

def withIdentities (ws : UUID) (c : ContactRow) : Contact :=
  { c with identities := db.identities.filter fun i => i.workspaceID = ws && i.contactID = c.id }

/-- mirrors repository/contact.go:34-80 -/
def getContact (ws id : UUID) : Except RepoError Contact :=
  if ws = UUID.Nil then .error .invalidWorkspaceID
  else match env.fails (.getContact id) with
    | some e => .error (.db e)
    | none => match db.contacts.find? fun c => c.workspaceID = ws && c.id = id with
      | none => .error .contactNotFound
      | some c => .ok (withIdentities db ws c)

/-- What the batch finds for one of its ids. mirrors contact.go:83-145 -/
def getContacts (ws id : UUID) : Option Contact :=
  if ws = UUID.Nil ∨ (env.fails .getContacts).isSome then none
  else (db.contacts.find? fun c => c.workspaceID = ws && c.id = id).map fun c =>
    if (env.fails .getIdentities).isSome then { c with identities := [] } else withIdentities db ws c

end Repository

/-! ## The engine -/

inductive EngineError
  | chatNotFound
  | messageNotFound
  | scope (text : String)
  | repo (e : RepoError)

def orNotFound : Except RepoError Chat → Except EngineError Chat
  | .ok c => .ok c
  | .error .chatNotFound => .error .chatNotFound
  | .error e => .error (.repo e)

def passOver : Except RepoError Chat → Except EngineError (Option Chat)
  | .ok c => .ok (some c)
  | .error .chatNotFound => .ok none
  | .error e => .error (.repo e)

def orFail {α : Type} : Except RepoError α → Except EngineError α
  | .ok a => .ok a
  | .error e => .error (.repo e)

section Engine

variable (contactRepo : Bool) (env : ReadEnv) (ctx : Ctx) (db : ReadDB)

/-- mirrors engine.go:513-520 -/
def deriveEffectiveStatus (c : Chat) : Chat :=
  let effective := normalizeSnooze c.status c.snoozedUntil env.now
  { c with status := effective.1, snoozedUntil := effective.2 }

def inScope (ws : UUID) : Bool := (enforceScope ctx ws).toOption.isSome

/-- mirrors engine.go:584-613 -/
def resolveByID (ws id : UUID) : Except EngineError Chat :=
  if ws = UUID.Nil then do
    let c ← orNotFound (getChatByID env db id)
    if inScope ctx c.workspaceID then pure (deriveEffectiveStatus env c) else .error .chatNotFound
  else do
    let c ← orNotFound (getChat env db ws id)
    if c.workspaceID = ws then pure (deriveEffectiveStatus env c) else .error .chatNotFound

/-- `*c.ConnectionID == *ref.ConnectionID`, when the reference has one. -/
def wanted (connection : Option UUID) (c : Chat) : Bool := connection.all fun id => c.connectionID = some id

/-- mirrors engine.go:615-659 -/
def resolveByContact (ws contactID : UUID) (connection : Option UUID) : Except EngineError Chat := do
  let latest ← (if connection.isNone then passOver (getChatByContact env db ws contactID) else pure none)
  match latest.filter fun c => c.workspaceID = ws with
  | some c => pure (deriveEffectiveStatus env c)
  | none => do
    let chats ← orFail (listChats env db ws { contactID := some contactID, connectionID := connection } 20 0)
    match chats.find? fun c => c.workspaceID = ws && c.contactID = contactID && wanted connection c with
    | some c => pure (deriveEffectiveStatus env c)
    | none => do
      let latest ← (if connection.isSome then passOver (getChatByContact env db ws contactID) else pure none)
      match latest.filter fun c => c.workspaceID = ws && wanted connection c with
      | some c => pure (deriveEffectiveStatus env c)
      | none => .error .chatNotFound

/-- mirrors engine.go:661-694 -/
def resolveByMessage (ws : UUID) (uid : String) : Except EngineError Chat := do
  let found := if ws ≠ UUID.Nil then getChatMessageByUID env db ws uid else findMessageByUID env db uid
  match found with
  | .error .messageNotFound => .error .chatNotFound
  | .error e => .error (.repo e)
  | .ok msg =>
    if msg.chatID = UUID.Nil then .error .chatNotFound
    else if ws ≠ UUID.Nil ∧ msg.workspaceID ≠ ws then .error .chatNotFound
    else if !inScope ctx msg.workspaceID then .error .chatNotFound
    else do
      let c ← orNotFound (getChat env db msg.workspaceID msg.chatID)
      pure (deriveEffectiveStatus env c)

/-- mirrors engine.go:737-752 -/
def matchesContactPhone (contact : Contact) (channel phone : String) : Bool :=
  let clean := trimPrefix (trimSpace phone) "+"
  contact.identities.any fun i =>
    (channel = "" || equalFold i.channel channel) &&
      (equalFold i.senderIdentity phone || (clean ≠ "" && trimPrefix (trimSpace i.senderIdentity) "+" = clean))

/-- mirrors engine.go:696-731 -/
def resolveByPhone (ws : UUID) (channel phone : String) (connection : Option UUID) : Except EngineError Chat := do
  let channel := toLower (trimSpace channel)
  let chats ← orFail (listChats env db ws { channel := channel, phone := phone, connectionID := connection } 50 0)
  let known := fun c : Chat => match getContact env db ws c.contactID with
    | .ok contact => matchesContactPhone contact channel phone
    | .error _ => false
  match chats.find? fun c => c.workspaceID = ws && wanted connection c && (!contactRepo || known c) with
  | some c => pure (deriveEffectiveStatus env c)
  | none => .error .chatNotFound

/-- mirrors engine.go:573-734 -/
def resolveChat (workspaceID : UUID) (ref : ChatRef) : Except EngineError Chat :=
  match enforceScope ctx workspaceID with
  | .error _ => .error .chatNotFound
  | .ok ws =>
    let connection := ref.connectionID.filter (· ≠ UUID.Nil)
    if ref.chatID ≠ UUID.Nil then resolveByID env ctx db ws ref.chatID
    else if ref.contactID ≠ UUID.Nil ∧ ws ≠ UUID.Nil then resolveByContact env db ws ref.contactID connection
    else if trimSpace ref.messageUID ≠ "" then resolveByMessage env ctx db ws (trimSpace ref.messageUID)
    else if trimSpace ref.phone ≠ "" ∧ ws ≠ UUID.Nil then
      resolveByPhone contactRepo env db ws ref.channel (trimSpace ref.phone) connection
    else .error .chatNotFound

/-- mirrors engine.go:159-164 -/
structure ChatSummary where
  chat : Chat
  contactName : String
  contactPhone : String
  identities : List String

/-- mirrors engine.go:918-937 -/
def summarize (ws : UUID) (c : Chat) : ChatSummary :=
  let contact := if contactRepo ∧ c.contactID ≠ UUID.Nil then
      (getContacts env db ws c.contactID).orElse fun _ => (getContact env db ws c.contactID).toOption
    else none
  match contact with
  | none => ⟨c, "", "", []⟩
  | some contact =>
    let phones := (contact.identities.filter fun i => i.channel = "whatsapp" || i.channel = "whatsapp_cloud").map
      (·.senderIdentity)
    ⟨c, contact.name, (phones.find? (· ≠ "")).getD "",
      contact.identities.map fun i => i.channel ++ ":" ++ i.senderIdentity⟩

/-- The chat is still of the status asked for. mirrors engine.go:912-915 -/
def statusKept (f : ChatFilter) (c : Chat) : Bool :=
  f.status = "" || equalFold (statusText (deriveEffectiveStatus env c).status) f.status

/-- mirrors engine.go:880-942 -/
def list (ws : UUID) (f : ChatFilter) (limit offset : Int) : Except EngineError (List ChatSummary) := do
  let chats ← orFail (listChats env db ws f limit offset)
  pure ((chats.filter (statusKept env f)).map fun c => summarize contactRepo env db ws (deriveEffectiveStatus env c))

/-- mirrors engine.go:1039-1059 -/
def listMessages (workspaceID : UUID) (ref : ChatRef) (beforeUID afterUID : String) (limit : Int) :
    Except EngineError (Chat × List ChatMessage) := do
  let c ← resolveChat contactRepo env ctx db workspaceID ref
  let messages ← orFail (listChatMessages env db c.workspaceID c.id beforeUID afterUID (clampLimit limit))
  pure (c, messages)

/-- mirrors engine.go:849-878 -/
def listThread (workspaceID contactID : UUID) (afterID : Option UUID) : Except EngineError (List ThreadMessage) :=
  if contactID = UUID.Nil then .ok []
  else match enforceScope ctx workspaceID with
    | .error e => .error (.scope e)
    | .ok ws =>
      if ws = UUID.Nil then .ok []
      else match resolveChat contactRepo env ctx db ws { contactID := contactID } with
        | .ok _ | .error .chatNotFound => orFail (listThreadByContact env db ws contactID afterID)
        | .error e => .error e

/-- mirrors engine.go:984-1038 -/
def getMessage (workspaceID : UUID) (messageUID : String) :
    Except EngineError (ChatMessage × Option Chat × Option Contact) :=
  match enforceScope ctx workspaceID with
  | .error e => .error (.scope e)
  | .ok ws =>
    let uid := trimSpace messageUID
    if uid = "" then .error .messageNotFound
    else
      let own := if ws ≠ UUID.Nil then (getChatMessageByUID env db ws uid).toOption else none
      let msg := own.orElse fun _ =>
        (findMessageByUID env db uid).toOption.filter fun m => ws = UUID.Nil || m.workspaceID = ws
      match msg with
      | none => .error .messageNotFound
      | some msg =>
        if ws ≠ UUID.Nil ∧ msg.workspaceID ≠ ws then .error .messageNotFound
        else match enforceScope ctx msg.workspaceID with
          | .error e => .error (.scope e)
          | .ok _ =>
            let chat := if msg.chatID ≠ UUID.Nil then
                (getChat env db msg.workspaceID msg.chatID).toOption.map (deriveEffectiveStatus env)
              else none
            let contact := (chat.filter fun c => contactRepo && c.contactID ≠ UUID.Nil).bind fun c =>
              (getContact env db c.workspaceID c.contactID).toOption
            .ok (msg, chat, contact)

end Engine

/-! ## A chat that is returned is a row -/

section Rows

variable {contactRepo : Bool} {env : ReadEnv} {ctx : Ctx} {db : ReadDB} {ws : UUID} {c : Chat}

def FromRow (db : ReadDB) (c : Chat) : Prop := ∃ row ∈ db.chats, row.id = c.id

theorem orNotFound_ok {x : Except RepoError Chat} {c : Chat} (h : orNotFound x = .ok c) : x = .ok c := by
  unfold orNotFound at h
  split at h
  · exact congrArg _ (Except.ok.inj h)
  · cases h
  · cases h

theorem passOver_ok {x : Except RepoError Chat} {c : Chat} (h : passOver x = .ok (some c)) : x = .ok c := by
  unfold passOver at h
  split at h
  · cases h
    rfl
  · cases h
  · cases h

theorem orFail_ok {α : Type} {x : Except RepoError α} {a : α} (h : orFail x = .ok a) : x = .ok a := by
  unfold orFail at h
  split at h
  · exact congrArg _ (Except.ok.inj h)
  · cases h

theorem getChat_row {id : UUID} (h : getChat env db ws id = .ok c) : FromRow db c := by
  unfold getChat at h
  split at h
  · cases h
  split at h
  · cases h
  split at h
  · cases h
  · rename_i row hrow
    cases h
    exact ⟨row, List.mem_of_find?_eq_some hrow, rfl⟩

theorem getChatByID_row {id : UUID} (h : getChatByID env db id = .ok c) : FromRow db c := by
  unfold getChatByID at h
  split at h
  · cases h
  split at h
  · cases h
  split at h
  · cases h
  · rename_i row hrow
    cases h
    exact ⟨row, List.mem_of_find?_eq_some hrow, rfl⟩

theorem getChatByContact_row {id : UUID} (h : getChatByContact env db ws id = .ok c) : FromRow db c := by
  unfold getChatByContact at h
  split at h
  · cases h
  split at h
  · cases h
  split at h
  · cases h
  simp only at h
  split at h
  · cases h
  · rename_i row hrow
    cases h
    have hmem := (List.mem_insertionSort _).mp (List.mem_of_mem_head? hrow)
    exact ⟨row, (List.mem_filter.mp hmem).1, rfl⟩

theorem listChats_row {f : ChatFilter} {limit offset : Int} {chats : List Chat}
    (h : listChats env db ws f limit offset = .ok chats) (hc : c ∈ chats) : FromRow db c := by
  unfold listChats at h
  split at h
  · cases h
  split at h
  · cases h
  · cases h
    obtain ⟨row, hrow, rfl⟩ := List.mem_map.mp hc
    unfold selectChats at hrow
    have hmem := (List.mem_insertionSort _).mp (List.mem_of_mem_drop (List.mem_of_mem_take hrow))
    exact ⟨row, (List.mem_filter.mp hmem).1, rfl⟩

theorem resolveByID_row {id : UUID} (h : resolveByID env ctx db ws id = .ok c) : FromRow db c := by
  unfold resolveByID at h
  split at h
  · obtain ⟨c₀, hget, h⟩ := bind_ok h
    split at h
    · cases h
      show FromRow db c₀
      exact getChatByID_row (orNotFound_ok hget)
    · cases h
  · obtain ⟨c₀, hget, h⟩ := bind_ok h
    split at h
    · cases h
      show FromRow db c₀
      exact getChat_row (orNotFound_ok hget)
    · cases h

theorem latest_row {b : Prop} [Decidable b] {id : UUID} {latest : Option Chat} {p : Chat → Bool}
    (h : (if b then passOver (getChatByContact env db ws id) else pure none) = .ok latest)
    (hc : latest.filter p = some c) : FromRow db c := by
  obtain ⟨hlatest, -⟩ := Option.filter_eq_some_iff.mp hc
  rw [hlatest] at h
  split at h
  · exact getChatByContact_row (passOver_ok h)
  · cases h

theorem resolveByContact_row {contactID : UUID} {connection : Option UUID}
    (h : resolveByContact env db ws contactID connection = .ok c) : FromRow db c := by
  unfold resolveByContact at h
  obtain ⟨latest, hlatest, h⟩ := bind_ok h
  split at h
  · rename_i c₀ hc₀
    cases h
    show FromRow db c₀
    exact latest_row hlatest hc₀
  obtain ⟨chats, hchats, h⟩ := bind_ok h
  split at h
  · rename_i c₀ hc₀
    cases h
    show FromRow db c₀
    exact listChats_row (orFail_ok hchats) (List.mem_of_find?_eq_some hc₀)
  obtain ⟨latest', hlatest', h⟩ := bind_ok h
  split at h
  · rename_i c₀ hc₀
    cases h
    show FromRow db c₀
    exact latest_row hlatest' hc₀
  · cases h

theorem resolveByMessage_row {uid : String} (h : resolveByMessage env ctx db ws uid = .ok c) : FromRow db c := by
  unfold resolveByMessage at h
  simp only at h
  split at h
  · cases h
  · cases h
  split at h
  · cases h
  split at h
  · cases h
  split at h
  · cases h
  obtain ⟨c₀, hget, h⟩ := bind_ok h
  cases h
  show FromRow db c₀
  exact getChat_row (orNotFound_ok hget)

theorem resolveByPhone_row {channel phone : String} {connection : Option UUID}
    (h : resolveByPhone contactRepo env db ws channel phone connection = .ok c) : FromRow db c := by
  unfold resolveByPhone at h
  obtain ⟨chats, hchats, h⟩ := bind_ok h
  simp only at h
  split at h
  · rename_i c₀ hc₀
    cases h
    show FromRow db c₀
    exact listChats_row (orFail_ok hchats) (List.mem_of_find?_eq_some hc₀)
  · cases h

theorem resolveChat_row {workspaceID : UUID} {ref : ChatRef}
    (h : resolveChat contactRepo env ctx db workspaceID ref = .ok c) : FromRow db c := by
  unfold resolveChat at h
  split at h
  · cases h
  simp only at h
  split at h
  · exact resolveByID_row h
  split at h
  · exact resolveByContact_row h
  split at h
  · exact resolveByMessage_row h
  split at h
  · exact resolveByPhone_row h
  · cases h

end Rows

end PerGo.L3.Reads
