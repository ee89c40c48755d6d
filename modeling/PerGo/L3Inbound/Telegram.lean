import PerGo.L2Domain.Inbound

/-!
# Telegram updates

`telegram/inbound.go`: `TelegramInboundAdapter.Parse` turns one
webhook update of a bot into at most one inbound event. The acknowledgement of a
callback query is sent in the background and has no part in the result;
`downloadTelegramFile` is a parameter.
-/
namespace PerGo.L3.Telegram

open PerGo.L1 PerGo.L2

/-- mirrors inbound.go:44-49 -/
structure User where
  id : Int
  firstName : String
  lastName : String
  username : String

/-- mirrors inbound.go:127-132 -/
structure Chat where
  id : Int
  username : String
  firstName : String
  lastName : String

/-- A file of a message; `filename` is set for a document only.
mirrors inbound.go:95-114 -/
structure File where
  fileID : String
  filename : String

/-- mirrors inbound.go:121-125 -/
structure Contact where
  phoneNumber : String
  firstName : String
  lastName : String

/-- mirrors inbound.go:79-93 -/
structure Message where
  messageID : Int := 0
  date : Int
  messageThreadID : Int
  sender : Option User
  chat : Option Chat
  text : String
  caption : String
  photo : List File
  document : Option File
  audio : Option File
  video : Option File
  location : Option (Dec × Dec)
  contact : Option Contact

/-- mirrors inbound.go:51-56 -/
structure CallbackQuery where
  sender : Option User
  message : Option Message
  data : String

/-- `newReaction` holds the emojis. mirrors inbound.go:63-70 -/
structure MessageReaction where
  chat : Option Chat
  messageID : Int
  user : Option User
  date : Int
  newReaction : List String

/-- mirrors inbound.go:72-77 -/
structure Update where
  updateID : Int
  message : Option Message
  callbackQuery : Option CallbackQuery
  messageReaction : Option MessageReaction

/-- mirrors inbound.go:134-138 -/
structure Config where
  token : String
  secretToken : String
  botUsername : String

def Config.unmarshal (d : Document) : Option Config := do
  return {
    token := ← d.string "token"
    secretToken := ← d.string "secret_token"
    botUsername := ← d.string "bot_username" }

/-- What `Parse` takes out of an update before it builds the event.
mirrors inbound.go:170-186 -/
structure Content where
  chat : Option Chat := none
  sender : Option User := none
  messageThreadID : Int := 0
  date : Int := 0
  text : String := ""
  caption : String := ""
  photo : List File := []
  document : Option File := none
  audio : Option File := none
  video : Option File := none
  location : Option (Dec × Dec) := none
  contact : Option Contact := none
  callbackData : Option String := none
  reaction : Option InboundReaction := none

/-- A reaction goes before a callback query, and that before a message.
mirrors inbound.go:187-241 -/
def Update.content (u : Update) : Content :=
  match u.messageReaction, u.callbackQuery, u.message with
  | some r, _, _ =>
    { chat := r.chat, sender := r.user, date := r.date,
      reaction := some
        { messageUID := formatInt r.messageID, emoji := r.newReaction.head?.getD "",
          action := if r.newReaction = [] then "remove" else "add" } }
  | none, some q, _ =>
    { chat := q.message.bind (·.chat), sender := q.sender, callbackData := some q.data,
      messageThreadID := (q.message.map (·.messageThreadID)).getD 0, date := (q.message.map (·.date)).getD 0 }
  | none, none, some m =>
    { chat := m.chat, sender := m.sender, messageThreadID := m.messageThreadID, date := m.date, text := m.text,
      caption := m.caption, photo := m.photo, document := m.document, audio := m.audio, video := m.video,
      location := m.location, contact := m.contact }
  | none, none, none => {}

/-- mirrors inbound.go:305-326 -/
def Content.file (c : Content) : String × String × String :=
  match c.photo.getLast?, c.document, c.audio, c.video with
  | some p, _, _, _ => (p.fileID, "image", "")
  | none, some d, _, _ => (d.fileID, "document", d.filename)
  | none, none, some a, _ => (a.fileID, "audio", "")
  | none, none, none, some v => (v.fileID, "video", "")
  | none, none, none, none => ("", "", "")

/-- The sender's own value, else the chat's. mirrors inbound.go:259-273 -/
def ownOr (own : Option String) (chat : String) : String :=
  if own.getD "" ≠ "" then own.getD "" else chat

section Parse

variable (downloadTelegramFile : String → String → Option (List UInt8))

/-- mirrors inbound.go:328-341 -/
def Content.media (c : Content) (token : String) : Option InboundMedia :=
  let (fileID, mediaType, filename) := c.file
  if fileID = "" ∨ token = "" then none
  else (downloadTelegramFile fileID token).map fun bytes =>
    { bytes := bytes, mediaType := mediaType, filename := filename, caption := c.caption, mediaURL := "" }

/-- mirrors inbound.go:275-277, 294-303, 379-381 -/
def Content.metadata (c : Content) (username : String) : StrMap :=
  let phone := (c.contact.map (·.phoneNumber)).getD ""
  (if username ≠ "" then [("username", username)] else []) ++
  (if phone ≠ "" then [("phone_number", phone)] else []) ++
  (if c.messageThreadID ≠ 0 then [("thread_id", formatInt c.messageThreadID)] else []) ++
  (if c.reaction.isSome then [("type", "reaction")] else [])

/-- mirrors inbound.go:279-292 -/
def senderName (firstName lastName username chatID : String) : String :=
  let full := trimSpace (if firstName ≠ "" ∧ lastName ≠ "" then firstName ++ " " ++ lastName else firstName ++ lastName)
  if full ≠ "" then full else if username ≠ "" then username else chatID

/-- The event of an update that belongs to a chat. mirrors inbound.go:247-402 -/
def event (conn : Connection) (config : Config) (u : Update) (c : Content) (chat : Chat) : InboundEvent :=
  let username := ownOr (c.sender.map (·.username)) chat.username
  let firstName := ownOr (c.sender.map (·.firstName)) chat.firstName
  let lastName := ownOr (c.sender.map (·.lastName)) chat.lastName
  { workspaceID := conn.workspaceID, connectionID := conn.id, messageID := formatInt u.updateID, traceID := "",
    channel := "telegram", from_ := formatInt chat.id,
    to_ := if config.botUsername = "" then "@bot" else config.botUsername, body := c.text,
    media := c.media downloadTelegramFile config.token,
    location := c.location.map fun l => { latitude := l.1, longitude := l.2, name := "", address := "" },
    contacts := (c.contact.map fun k =>
      { name := if k.lastName ≠ "" then k.firstName ++ " " ++ k.lastName else k.firstName,
        phone := k.phoneNumber }).toList,
    interactive := c.callbackData.map fun data =>
      { type := "button_reply", buttonReply := some ⟨data, data⟩, listReply := none, nfmReply := none, order := none },
    story := none, reaction := c.reaction, senderName := senderName firstName lastName username (formatInt chat.id),
    occurredAt := if 0 < c.date then c.date * second else 0, entryPointType := "",
    metadata := c.metadata username }

/-- mirrors inbound.go:141-402 -/
def parse (conn : Connection) (receivedToken : String) (payload : Option Update) :
    Except String (List InboundEvent) :=
  if receivedToken = "" then .error "missing secret token header"
  else match conn.credentials.bind Config.unmarshal with
    | none => .error "failed to unmarshal connection credentials"
    | some config =>
      if config.secretToken ≠ receivedToken then .error "secret token mismatch"
      else match payload with
        | none => .error "failed to parse telegram update"
        | some u =>
          match u.content.chat with
          | none => .ok []
          | some chat => .ok [event downloadTelegramFile conn config u u.content chat]

end Parse

end PerGo.L3.Telegram
