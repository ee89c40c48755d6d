import PerGo.L2Domain.Request
import PerGo.L2Domain.Variables
import PerGo.L4App.ContactEvidence

/-!
# Forwarding to Typebot

`SyncInboundMessage` of `typebot/forwarder.go` and the two calls of its `client.go`, for the
messages of one contact on one connection: the table of sessions is the row of the two. What the database, the
Typebot server and the activity recorder answer comes with the message (`Env`).

The bot that a message starts is the first of the connection that has the message for a trigger word, else a default
bot (`startBot`); the bot whose token a session is continued with is the first of the connection (`activeBot`).
-/
namespace PerGo.L4.TypebotForwarder

open PerGo.Core PerGo.L1 PerGo.L2 PerGo.L4.ContactEvidence

/-! ## Configuration and messages -/

/-- mirrors typebot/client.go:13-20 -/
structure BotConfig where
  connectionID : String
  botID : String
  publicToken : String
  triggerWords : List String
  isDefault : Bool

/-- mirrors client.go:23-26 -/
structure Config where
  apiURL : String
  bots : List BotConfig

inductive ConfigColumn
  | empty
  | malformed (err : String)
  | json (cfg : Config)

/-- mirrors repository/integration.go:19-30 -/
structure Integration where
  active : Bool
  config : ConfigColumn

/-- mirrors repository/typebot_session.go:17-24 -/
structure TypebotSession where
  workspaceID : UUID
  contactID : UUID
  connectionID : UUID
  typebotSessionID : String

/-- What `domain.Contact` has of it. -/
structure Contact where
  id : UUID
  name : String

/-- A message of Typebot. A block of rich text is the texts of its children, or `none` where it does not decode to
them. mirrors client.go:28-36 -/
structure Message where
  type : String
  contentType : String
  richText : List (Option (List String))

/-- `pergo_metadata`, by the map literal it is made with. -/
inductive PergoMetadata
  | media (mediaURL mediaType : String)
  | button (id title : String)
  | list (id title description : String)
  | flow (flowToken screen : String) (data : List (String × GoVal))
  | order (catalogID : String) (items : List OrderProductItem) (totalPrice : Dec) (currency : String)

/-- mirrors client.go:38-42 -/
structure StartChatRequest where
  sessionID : String
  message : String
  /-- the variables `Name` and `Phone` -/
  name : String
  phone : String
  pergoMetadata : Option PergoMetadata

/-! ## The client -/

/-- What becomes of a request: it fails, or is answered with a status, a body, and what the body decodes to. -/
inductive Answer (α : Type)
  | failed (err : String)
  | answered (status : Nat) (body : String) (decoded : Except String α)

/-- mirrors client.go:70-104 -/
def startChat (answer : Answer (String × List Message)) : Except String (String × List Message) :=
  match answer with
  | .failed err => .error err
  | .answered status body decoded =>
    if 400 ≤ status then .error ("typebot API error (startChat): status " ++ formatInt status ++ " body " ++ body)
    else decoded

/-- mirrors client.go:106-147 -/
def continueChat (answer : Answer (List Message)) : Except String (List Message) :=
  match answer with
  | .failed err => .error err
  | .answered status body decoded =>
    if status = 404 then .error "session expired: status 404"
    else if 400 ≤ status then
      .error ("typebot API error (continueChat): status " ++ formatInt status ++ " body " ++ body)
    else decoded

/-! ## The forwarder -/

/-- Which of its parts a `Forwarder` has. mirrors forwarder.go:20-26 -/
structure Forwarder where
  activity : Bool
  integRepo : Bool
  ingestor : Bool

inductive LookupError
  | notFound
  | other (text : String)

/-- What the calls of one message are answered. -/
structure Env where
  now : Time
  snapshot : Except String AIEngagement
  integration : Except LookupError Integration
  /-- the error of the query for the session -/
  readError : Option String
  continued : Answer (List Message)
  started : Answer (String × List Message)
  /-- whether the statements take effect; their errors change nothing -/
  touched : Bool
  deleted : Bool
  stored : Bool

/-- What the forwarder does to the outside. -/
inductive Call
  | continueChat (apiURL sessionID publicToken messageText : String)
  | startChat (apiURL botID publicToken : String) (req : StartChatRequest)
  | deleteSession (took : Bool)
  | upsertSession (session : TypebotSession) (took : Bool)
  | ingest (workspaceID : UUID) (req : CreateMessageRequest)

structure Synced where
  row : Option TypebotSession
  calls : List Call
  err : Option String

/-- mirrors integration.go:92-103 -/
def getByProvider (ws : UUID) (answer : Except LookupError Integration) : Except LookupError Integration :=
  if ws = UUID.Nil then .error (.other "invalid workspace id") else answer

/-- The configuration; `none` ends the call without an error.
mirrors forwarder.go:94-114 -/
def configOf (f : Forwarder) (env : Env) (ws : UUID) : Except (Option String) Config :=
  if f.integRepo then
    match getByProvider ws env.integration with
    | .error .notFound => .error none
    | .error (.other text) => .error (some ("failed to get typebot integration: " ++ text))
    | .ok integ =>
      if !integ.active then .error none
      else match integ.config with
        | .empty => .error none
        | .malformed err => .error (some ("failed to unmarshal typebot config: " ++ err))
        | .json cfg => .ok cfg
  else .error none

/-- The same, when the chat is one the AI is engaged in.
mirrors forwarder.go:83-114 -/
def engagedConfig (f : Forwarder) (env : Env) (ws : UUID) : Except (Option String) Config :=
  if f.activity then
    match env.snapshot with
    | .error err => .error (some ("failed to snapshot chat state for typebot: " ++ err))
    | .ok ai => if (ai.effective env.now).isEngaged then configOf f env ws else .error none
  else configOf f env ws

/-- The text that is sent, and what is told with it. mirrors forwarder.go:140-205 -/
def messageText (event : InboundEvent) : String × Option PergoMetadata :=
  match event.media, event.location, event.contacts, event.interactive with
  | some m, _, _, _ => ("[Media Attachment]", some (.media m.mediaURL m.mediaType))
  | none, some _, _, _ => ("[Unsupported message: location]", none)
  | none, none, _ :: _, _ => ("[Unsupported message: contact]", none)
  | none, none, [], none => (event.body, none)
  | none, none, [], some i =>
    let (text, told) : String × Option PergoMetadata :=
      match i.type, i.buttonReply, i.listReply, i.nfmReply, i.order with
      | "button_reply", some r, _, _, _ => (if r.title ≠ "" then r.title else r.id, some (.button r.id r.title))
      | "list_reply", _, some r, _, _ => (if r.title ≠ "" then r.title else r.id, some (.list r.id r.title r.description))
      | "nfm_reply", _, _, some r, _ => (event.body, some (.flow r.flowToken r.screen r.data))
      | "order", _, _, _, some r => (event.body, some (.order r.catalogID r.productItems r.totalPrice r.currency))
      | _, _, _, _, _ => ("", none)
    (if text = "" then event.body else text, told)

section Bots

variable (casing : Casing)

/-- The loop over the bots: the bot that answers a trigger word, and the default it has met.
mirrors forwarder.go:116-138 -/
def selectBot (conn bodyLower : String) : List BotConfig → Option BotConfig → Option BotConfig × Option BotConfig
  | [], defaultBot => (none, defaultBot)
  | b :: bots, defaultBot =>
    if b.connectionID = conn then
      let defaultBot := if b.isDefault then some b else defaultBot
      if b.triggerWords.any fun tw => casing.toLower tw = bodyLower then (some b, defaultBot)
      else selectBot conn bodyLower bots defaultBot
    else selectBot conn bodyLower bots defaultBot

/-- The bot that a message starts. mirrors forwarder.go:116-138, 252-257 -/
def startBot (cfg : Config) (event : InboundEvent) : Option BotConfig :=
  let (matchingBot, defaultBot) :=
    selectBot casing event.connectionID.string (casing.toLower (trimSpace event.body)) cfg.bots none
  matchingBot.or defaultBot

/-- The bot whose token a session is continued with. mirrors forwarder.go:224-230 -/
def activeBot (cfg : Config) (conn : UUID) : Option BotConfig := cfg.bots.find? (·.connectionID = conn.string)

end Bots

/-- mirrors forwarder.go:321-343 -/
def extractText (m : Message) : String :=
  if m.type = "text" ∧ m.contentType = "richText" then
    "\n".intercalate (m.richText.flatMap fun block => block.getD [])
  else ""

/-- mirrors forwarder.go:298-310 -/
def ingestRequest (contact : Contact) (event : InboundEvent) (body : String) : CreateMessageRequest :=
  { chatID := none, connectionID := some event.connectionID, contactID := some contact.id, replyToUID := none,
    senderType := "ai_agent", senderName := "Typebot", campaignID := none, variablesJSON := [], to_ := event.from_,
    from_ := "", channel := event.channel, body := body, media := none, metadata := [], ttlSeconds := none,
    templateName := "", language := "", components := [], fallbackChannels := [], interactive := none,
    channelOverrides := [], fallbackBehavior := "", type := "", product := none }

/-- The replies of the bot. mirrors forwarder.go:291-316 -/
def ingestAll (f : Forwarder) (contact : Contact) (event : InboundEvent) (messages : List Message) : List Call :=
  if f.ingestor then
    ((messages.map extractText).filter (· ≠ "")).map fun body =>
      .ingest event.workspaceID (ingestRequest contact event body)
  else []

/-- mirrors typebot_session.go:42-63 -/
def getSession (ws : UUID) (readError : Option String) (row : Option TypebotSession) :
    Except String (Option TypebotSession) :=
  if ws = UUID.Nil then .error "invalid workspace id"
  else match readError with
    | some err => .error ("failed to get typebot session: " ++ err)
    | none => .ok row

section Sync

variable (casing : Casing) (f : Forwarder) (env : Env) (cfg : Config) (contact : Contact) (event : InboundEvent)

/-- mirrors forwarder.go:207, 259-271 -/
def startRequest : StartChatRequest :=
  { sessionID := event.connectionID.string ++ ":" ++ event.from_, message := (messageText event).1, name := contact.name,
    phone := event.from_, pergoMetadata := (messageText event).2 }

/-- A chat is started, behind the calls that were made. mirrors forwarder.go:251-289 -/
def start (row : Option TypebotSession) (calls : List Call) : Synced :=
  match startBot casing cfg event with
  | none => ⟨row, calls, none⟩
  | some bot =>
    let calls := calls ++ [.startChat cfg.apiURL bot.botID bot.publicToken (startRequest contact event)]
    match startChat env.started with
    | .error err => ⟨row, calls, some ("failed to start typebot chat: " ++ err)⟩
    | .ok (typebotSessionID, messages) =>
      let session : TypebotSession := ⟨event.workspaceID, contact.id, event.connectionID, typebotSessionID⟩
      ⟨if env.stored then some session else row,
        calls ++ .upsertSession session env.stored :: ingestAll f contact event messages, none⟩

/-- A session is continued. The first bot of the connection stands for the bot of the session, which the row does not
name. mirrors forwarder.go:219-248 -/
def continueSession (session : TypebotSession) (row : Option TypebotSession) : Synced :=
  match activeBot cfg event.connectionID with
  | none => ⟨row, [], none⟩
  | some bot =>
    let call := Call.continueChat cfg.apiURL session.typebotSessionID bot.publicToken (messageText event).1
    match continueChat env.continued with
    | .ok messages =>
      ⟨if env.touched then some session else row,
        call :: .upsertSession session env.touched :: ingestAll f contact event messages, none⟩
    | .error err =>
      -- any error whose text has the digits
      if containsStr err "404" then
        start casing f env cfg contact event (if env.deleted then none else row) [call, .deleteSession env.deleted]
      else ⟨row, [call], some err⟩

def forward (row : Option TypebotSession) : Synced :=
  match getSession event.workspaceID env.readError row with
  | .error err => ⟨row, [], some ("failed to get typebot session: " ++ err)⟩
  | .ok none => start casing f env cfg contact event row []
  | .ok (some session) => continueSession casing f env cfg contact event session row

end Sync

/-- mirrors forwarder.go:73-319 -/
def syncInboundMessage (casing : Casing) (f : Forwarder) (env : Env) (contact : Option Contact)
    (event : Option InboundEvent) (row : Option TypebotSession) : Synced :=
  match event, contact with
  | some event, some contact =>
    if isGroup event then ⟨row, [], none⟩
    else match engagedConfig f env event.workspaceID with
      | .error err => ⟨row, [], err⟩
      | .ok cfg => forward casing f env cfg contact event row
  | _, _ => ⟨row, [], none⟩

end PerGo.L4.TypebotForwarder
