import PerGo.L3Chat.Reads
import PerGo.L3Outbound.Processor

/-!
# Replies

`Engine.SendMessage` of `chat/engine.go` with `Processor.Ingest` as its ingestor.
The engine finds the chat, its connection, the recipient and the channel, and hands a
`CreateMessageRequest` on; the ingestor routes that request over the same store.

* `Store` has the tables and the slug cache of the connection repository, whose entries may
  be stale. `readDB` and `chatDB` are what the reads and the recorder see of it.
* What the repositories answer after the message is published (`persisted`, `reloaded`,
  `resolvedAgain`, `created`) is in `SendEnv`: it decides the chat that the result names.
* The audit entry and the AI column of the result are left out.
-/
namespace PerGo.L3.SendMessage

open PerGo.Core PerGo.L1 PerGo.L2 PerGo.L3.Outbound
open PerGo.L3.Reads (ReadDB ReadEnv ContactRow TagRow DispatchRow Chat Contact EngineError resolveChat getContact)
open PerGo.L3.Recorder (ChatDB ContactIdentity)
open PerGo.L3.MCP (enforceScope)

/-! ## The store -/

/-- A row of `chats`. -/
structure StoredChat extends ChatState where
  assignedEmail : Option String

structure Store where
  connections : List Connection
  slugCache : List ((UUID × String) × Connection)
  chats : List StoredChat
  messages : List ChatMessage
  contacts : List ContactRow
  /-- the attributes of the contacts that have some -/
  attributes : List (UUID × StrMap)
  identities : List ContactIdentity
  tags : List TagRow
  dispatches : List DispatchRow
  ids : (connections.map (·.id)).Nodup
  senders : (connections.map (·.senderIdentity)).Nodup
  uids : (messages.map (·.uid)).Nodup
  /-- ids are random -/
  connIDs : ∀ c ∈ connections, c.id ≠ UUID.Nil
  chatIDs : ∀ c ∈ chats, c.id ≠ UUID.Nil

def StoredChat.row (c : StoredChat) : Reads.ChatRow :=
  { id := c.id, workspaceID := c.workspaceID, connectionID := c.connectionID, contactID := c.contactID,
    status := c.status, snoozedUntil := c.snoozedUntil, assignedEmail := c.assignedEmail,
    unreadCount := c.unreadCount, lastMessageAt := c.lastMessageAt }

def Store.readDB (st : Store) : ReadDB :=
  { chats := st.chats.map StoredChat.row, messages := st.messages, contacts := st.contacts,
    identities := st.identities, connections := st.connections.map fun c => ⟨c.id, c.workspaceID, c.channel⟩,
    tags := st.tags, dispatches := st.dispatches, uids := st.uids }

def Store.chatDB (st : Store) : ChatDB :=
  { connections := st.connections.map fun c => (c.id, c.channel), identities := st.identities,
    chats := st.chats.map (·.toChatState), messages := st.messages }

/-- The queries on `connections`. -/
inductive Lookup
  | byID (id : UUID)
  | bySenderIdentity
  | bySlug
  | defaultOfChannel

section Lookups

variable (err : Lookup → Option String) (st : Store)

def orNoRow (q : Lookup) (row : Option Connection) : Except LookupError Connection :=
  match err q, row with
  | some e, _ => .error (.other e)
  | none, none => .error .notFound
  | none, some conn => .ok conn

/-- mirrors repository/connection.go:130-139 -/
def getByID (id : UUID) : Except LookupError Connection :=
  orNoRow err (.byID id) (st.connections.find? fun c => c.id = id)

/-- mirrors connection.go:175-187 -/
def getBySenderIdentity (ws : UUID) (senderIdentity : String) : Except LookupError Connection :=
  if ws = UUID.Nil then .error (.other "invalid workspace id")
  else orNoRow err .bySenderIdentity
    (st.connections.find? fun c => c.workspaceID = ws && c.senderIdentity = senderIdentity)

/-- The cache answers first. mirrors connection.go:142-172 -/
def getBySlug (ws : UUID) (slug : String) : Except LookupError Connection :=
  if ws = UUID.Nil then .error (.other "invalid workspace id")
  else match st.slugCache.lookup (ws, slug) with
    | some conn => .ok conn
    | none => orNoRow err .bySlug (st.connections.find? fun c => c.workspaceID = ws && c.slug = slug)

/-- mirrors connection.go:202-214 -/
def getDefaultChannelConnection (ws : UUID) (channel : String) : Except LookupError Connection :=
  if ws = UUID.Nil then .error (.other "invalid workspace id")
  else orNoRow err .defaultOfChannel
    (st.connections.find? fun c => c.workspaceID = ws && c.channel = channel && c.isDefault)

end Lookups

/-! ## The request and the call -/

/-- mirrors engine.go:188-209 -/
structure SendRequest where
  ref : Reads.ChatRef
  body : String
  media : Option Media
  senderName : String
  senderType : String
  replyToUID : Option String
  templateName : String
  language : String
  components : List TemplateComponent
  interactive : Option Interactive
  channelOverrides : List (String × Json)
  fallbackChannels : List String
  fallbackBehavior : String
  type : String
  product : Option ProductPayload
  connectionID : Option UUID
  senderIdentity : String
  traceIDPrefix : String
  metadata : StrMap

/-- The dependencies that may be nil. -/
structure Engine where
  connRepo : Bool
  contactRepo : Bool
  ingestor : Option Processor

structure SendEnv where
  reads : ReadEnv
  /-- which queries of the engine fail, and which of the ingestor -/
  lookupErr : Lookup → Option String
  ingestErr : Lookup → Option String
  /-- all but the connections -/
  ingest : IngestEnv
  /-- `uuid.New()` -/
  newUUID : UUID
  persisted : Option ChatMessage
  reloaded : UUID → Option Chat
  resolvedAgain : Option Chat
  created : Except String (Option Chat)

def SendEnv.forIngest (env : SendEnv) (st : Store) : IngestEnv :=
  { env.ingest with
    getByID := fun id => (getByID env.ingestErr st id).map some,
    getBySenderIdentity := getBySenderIdentity env.ingestErr st,
    getBySlug := getBySlug env.ingestErr st,
    getDefaultChannelConnection := getDefaultChannelConnection env.ingestErr st }

inductive SendError
  | emptyBody
  | chatNotFound
  | engine (e : EngineError)
  | noIngestor
  | noRecipient
  | serviceWindowExpired (e : Option IngestError)
  | ingest (e : IngestError)
  | db (text : String)

/-- mirrors engine.go:212-227 -/
structure SendResult where
  traceID : String
  queuedAt : Time
  chatID : UUID
  contactID : UUID
  connectionID : UUID
  channel : String
  from_ : String
  to_ : String
  body : String
  replyToUID : Option String
  message : Option ChatMessage

/-- What a call that succeeds returns, queues and leaves in the tables. -/
structure Sent where
  result : SendResult
  queued : QueueMessage
  db : ChatDB

def setKey (m : StrMap) (k v : String) : StrMap := (k, v) :: m.filter (·.1 ≠ k)

structure Scope where
  ws : UUID
  chat : Option Chat
  contact : Option Contact

structure Route where
  connID : UUID
  senderIdentity : String
  channel : String

section Engine

variable (e : Engine) (env : SendEnv) (ctx : Ctx) (st : Store)

def contactOf (ws id : UUID) : Option Contact :=
  if e.contactRepo ∧ id ≠ UUID.Nil then (getContact env.reads st.readDB ws id).toOption else none

/-- A contact or a phone stands in for a chat that is not there. mirrors engine.go:1588-1606 -/
def scopeOf (workspaceID : UUID) (ref : Reads.ChatRef) : Except SendError Scope :=
  match resolveChat e.contactRepo env.reads ctx st.readDB workspaceID ref with
  | .ok c => .ok ⟨c.workspaceID, some c, contactOf e env st c.workspaceID c.contactID⟩
  | .error .chatNotFound =>
    if ref.contactID = UUID.Nil ∧ trimSpace ref.phone = "" then .error .chatNotFound
    else match enforceScope ctx workspaceID with
      | .error _ => .error .chatNotFound
      | .ok ws => if ws = UUID.Nil then .error .chatNotFound
        else .ok ⟨ws, none, contactOf e env st ws ref.contactID⟩
  | .error err => .error (.engine err)

def readConnection (id : UUID) : Option Connection :=
  if e.connRepo then (getByID env.lookupErr st id).toOption else none

def routeTo (id : UUID) (conn : Option Connection) : Route :=
  match conn with
  | some conn => ⟨conn.id, conn.senderIdentity, conn.channel⟩
  | none => ⟨id, "", ""⟩

/-- The connection the request names, else the chat's. mirrors engine.go:1613-1632 -/
def namedRoute (ws : UUID) (chat : Option Chat) (req : SendRequest) : Route :=
  match req.connectionID.filter (· ≠ UUID.Nil) with
  | some id => routeTo id ((readConnection e env st id).filter fun conn => conn.workspaceID = ws)
  | none => match (chat.bind (·.connectionID)).filter (· ≠ UUID.Nil) with
    | some id => routeTo id (readConnection e env st id)
    | none => ⟨UUID.Nil, "", ""⟩

def isChatChannel (channel : String) : Bool :=
  channel = "whatsapp_cloud" || channel = "whatsapp" || channel = "telegram"

/-- One source of the recipient, asked while there is none; it may set the channel too. -/
def orIdentity (identity : Option ContactIdentity) (r : String × String) : String × String :=
  match identity with
  | some i => if r.1 = "" then (i.senderIdentity, if r.2 = "" then i.channel else r.2) else r
  | none => r

/-- The recipient and the channel. mirrors engine.go:1634-1668 -/
def recipientOf (ref : Reads.ChatRef) (contact : Option Contact) (channel : String) : String × String :=
  let r := (trimSpace ref.phone, channel)
  match contact with
  | none => r
  | some contact =>
    let ids := contact.identities
    let r := orIdentity (if channel ≠ "" then ids.find? fun i => i.channel = channel else none) r
    let r := orIdentity (ids.find? fun i => isChatChannel i.channel) r
    let r := orIdentity ids.head? r
    let phone := trimSpace (((st.attributes.lookup contact.id).getD []).get "phone")
    if r.1 = "" ∧ phone ≠ "" then (phone, r.2) else r

/-- Without a connection: the sender the request names, else the default of the channel.
mirrors engine.go:1670-1689 -/
def otherRoute (ws : UUID) (req : SendRequest) (r : Route) : Route :=
  let sender := trimSpace req.senderIdentity
  let named := if r.connID = UUID.Nil ∧ e.connRepo ∧ sender ≠ "" then
      (getBySenderIdentity env.lookupErr st ws sender).toOption
    else none
  let r : Route := match named with
    | some conn => ⟨conn.id, conn.senderIdentity, if r.channel = "" then conn.channel else r.channel⟩
    | none => r
  let r := if r.channel = "" then { r with channel := req.ref.channel } else r
  let default_ := if r.connID = UUID.Nil ∧ e.connRepo ∧ r.channel ≠ "" then
      (getDefaultChannelConnection env.lookupErr st ws r.channel).toOption
    else none
  match default_ with
  | some conn => { r with connID := conn.id, senderIdentity := conn.senderIdentity }
  | none => r

/-- The recipient and the route of a call. mirrors engine.go:1608-1705 -/
def routeOf (scope : Scope) (req : SendRequest) : String × Route :=
  let named := namedRoute e env st scope.ws scope.chat req
  let (to_, channel) := recipientOf st req.ref scope.contact named.channel
  let r := otherRoute e env st scope.ws req { named with channel := channel }
  (to_, { r with
    senderIdentity := if r.senderIdentity = "" then req.senderIdentity else r.senderIdentity,
    channel := if r.channel = "" then "whatsapp" else r.channel })

def senderNameOf (req : SendRequest) : String :=
  if trimSpace req.senderName = "" then "Agent" else trimSpace req.senderName

def senderTypeOf (req : SendRequest) : String :=
  let word := senderWord (normalizeSenderType req.senderType)
  if word = "" then "human_agent" else word

/-- mirrors engine.go:1717-1721 -/
def traceIDOf (req : SendRequest) : String :=
  (if trimSpace req.traceIDPrefix = "" then "api-chat" else trimSpace req.traceIDPrefix) ++ "-" ++ env.newUUID.string

def displayBody (req : SendRequest) : String :=
  if trimSpace req.body = "" ∧ req.templateName ≠ "" then
    if req.language ≠ "" then "[Template: " ++ req.templateName ++ " (" ++ req.language ++ ")]"
    else "[Template: " ++ req.templateName ++ "]"
  else trimSpace req.body

/-- mirrors engine.go:1733-1748 -/
def metadataOf (scope : Scope) (req : SendRequest) (connID : UUID) : StrMap :=
  let m := match scope.chat with
    | some c => setKey req.metadata "chat_id" c.id.string
    | none => req.metadata
  let m := setKey (setKey m "sender_type" (senderTypeOf req)) "sender_name" (senderNameOf req)
  let m := if connID ≠ UUID.Nil then setKey m "connection_id" connID.string else m
  match req.replyToUID with
  | some uid => if uid ≠ "" then setKey m "reply_to_uid" uid else m
  | none => m

/-- The connection is handed on as its sender identity. mirrors engine.go:1750-1775 -/
def createRequest (scope : Scope) (req : SendRequest) (to_ : String) (r : Route) : CreateMessageRequest :=
  { chatID := scope.chat.map (·.id), connectionID := none, contactID := none, replyToUID := req.replyToUID,
    senderType := senderTypeOf req, senderName := senderNameOf req, campaignID := none, variablesJSON := [],
    to_ := to_, from_ := r.senderIdentity, channel := r.channel, body := trimSpace req.body, media := req.media,
    metadata := metadataOf scope req r.connID, ttlSeconds := none, templateName := req.templateName,
    language := req.language, components := req.components, fallbackChannels := req.fallbackChannels,
    interactive := req.interactive, channelOverrides := req.channelOverrides,
    fallbackBehavior := req.fallbackBehavior, type := req.type, product := req.product }

/-- The chat the result names. mirrors engine.go:1782-1829 -/
def settleChat (scope : Scope) (req : SendRequest) (channel : String) : Except SendError Chat :=
  let known := match env.persisted.filter (·.chatID ≠ UUID.Nil), scope.chat with
    | some msg, c => (env.reloaded msg.chatID).or c
    | none, some c => (env.reloaded c.id).or (some c)
    | none, none => none
  match known.or env.resolvedAgain with
  | some c => .ok c
  | none =>
    if channel = "whatsapp_cloud" ∧ trimSpace req.templateName = "" ∧ !equalFold (trimSpace req.type) "template" then
      .error (.serviceWindowExpired none)
    else match env.created with
      | .error text => .error (.db text)
      | .ok none => .error .chatNotFound
      | .ok (some c) => .ok c

/-- An error of the ingestor as the engine returns it. mirrors engine.go:1778-1784 -/
def ingestFailure : IngestError → SendError
  | .activity (.templateRequired w) => .serviceWindowExpired (some (.activity (.templateRequired w)))
  | err => .ingest err

/-- mirrors engine.go:1580-1895 -/
def sendMessage (workspaceID : UUID) (req : SendRequest) : Except SendError Sent :=
  if trimSpace req.body = "" ∧ req.media.isNone ∧ trimSpace req.templateName = "" ∧ req.interactive.isNone ∧
      req.product.isNone then .error .emptyBody
  else do
    let scope ← scopeOf e env ctx st workspaceID req.ref
    let (to_, r) := routeOf e env st scope req
    match e.ingestor with
    | none => .error .noIngestor
    | some p =>
      if to_ = "" then .error .noRecipient
      else do
        let trace := traceIDOf env req
        let create := createRequest scope req to_ r
        let (q, db) ← (ingest p (env.forIngest st) st.chatDB scope.ws trace create).mapError ingestFailure
        let c ← settleChat env scope req r.channel
        pure { result := { traceID := trace, queuedAt := q.queuedAt, chatID := c.id, contactID := c.contactID,
                           connectionID := r.connID, channel := r.channel, from_ := r.senderIdentity, to_ := to_,
                           body := displayBody req, replyToUID := req.replyToUID, message := env.persisted },
               queued := q, db := db }

end Engine

end PerGo.L3.SendMessage
