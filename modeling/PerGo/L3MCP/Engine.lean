import PerGo.Core.Access
import PerGo.L2Domain.UUID
import PerGo.L3Auth.Middleware

/-!
# Rows, tenants and chats behind the MCP tools

What a tool handler reads and changes is kept as the list of workspaces whose
rows it touches (`Access`): a row found by its id alone touches its own
workspace, also when the handler then refuses it, and a query or a change under
a workspace id touches that workspace if it exists.

* `MCPRows` is the database as one request sees it. A row may name a connection
  or a subscription of another workspace.
* `resolveChat`, `getMessage`, `createNote`, `react` and `sendMessage` are the
  methods of `chat/engine.go` that look for a row.

All repositories are configured. `Call.invalid` is the error of a handler's
checks on arguments that are not strings (booleans, payloads) or not compared
with a row (URLs, a template's approval), and `Call.rest` the error that whatever
follows the row accesses ends with, if any.
-/
namespace PerGo.L3.MCP

open PerGo.Core PerGo.L1 PerGo.L2

structure ConnectionRow where
  id : UUID
  workspaceID : UUID
  channel : String
  senderIdentity : String
  status : String
  isDefault : Bool

structure ChatRow where
  id : UUID
  workspaceID : UUID
  connectionID : Option UUID
  /-- the phone numbers its contact is known by -/
  phones : List String

structure MessageRow where
  workspaceID : UUID
  chatID : UUID
  uid : String

structure SubscriptionRow where
  id : UUID
  workspaceID : UUID

structure DLQRow where
  id : UUID
  workspaceID : UUID
  subscriptionID : UUID

structure TemplateRow where
  id : UUID
  workspaceID : UUID
  connectionID : UUID
  name : String
  language : String

/-- `workspaces` is in the order of `WorkspaceRepository.List`, newest first. -/
structure MCPRows where
  workspaces : List UUID
  connections : List ConnectionRow
  chats : List ChatRow
  messages : List MessageRow
  subscriptions : List SubscriptionRow
  dlq : List DLQRow
  templates : List TemplateRow
  connectionIDs : (connections.map (·.id)).Nodup

/-- A `tools/call` request as its handler sees it. An argument that is absent or not a string is `none`. -/
structure Call where
  ctx : Ctx
  args : String → Option String
  rows : MCPRows
  parseUUID : String → Option UUID
  /-- the text of the error of `uuid.Parse` -/
  parseError : String → String
  /-- the id a new workspace gets -/
  newID : UUID
  invalid : Option String
  rest : Option String

/-- The workspaces a handler touches, and the error it answers with. -/
abbrev Tool := Access UUID String

section Arguments

variable (c : Call)

/-- `request.GetString(key, fallback)`. -/
def Call.getString (key fallback : String) : String := (c.args key).getD fallback

/-- `strings.TrimSpace(request.GetString(key, ""))`. -/
def Call.trimmed (key : String) : String := trimSpace (c.getString key "")

/-- `request.RequireString(key)`. -/
def Call.requireString (key message : String) : Tool String := Access.orFail (c.args key) message

def Call.requireText (key message : String) : Tool Unit := do
  let s ← c.requireString key message
  Access.require (trimSpace s ≠ "") message

def failWith : Option String → Tool Unit
  | none => pure ()
  | some e => Access.fail e

def Call.checked : Tool Unit := failWith c.invalid

def Call.finish : Tool Unit := failWith c.rest

/-- The id in an argument, as it is. -/
def Call.requireID (key missing invalid : String) : Tool UUID := do
  let s ← c.requireString key missing
  Access.orFail (c.parseUUID s) (invalid ++ c.parseError s)

def Call.rowsOf (ws : UUID) : Tool Unit := if ws ∈ c.rows.workspaces then Access.touch ws else pure ()

/-- `WorkspaceRepository.GetByID`. -/
def Call.getWorkspace (ws : UUID) (message : String) : Tool Unit :=
  if ws ∈ c.rows.workspaces then Access.touch ws else Access.fail message

def Call.getConnection (id : UUID) : Tool (Option ConnectionRow) :=
  Access.fetch (·.workspaceID) (c.rows.connections.find? fun r => r.id = id)

def Call.getSubscription (id : UUID) : Tool (Option SubscriptionRow) :=
  Access.fetch (·.workspaceID) (c.rows.subscriptions.find? fun r => r.id = id)

end Arguments

/-! ## The workspace of a call -/

/-- `tenant.WorkspaceIDFrom`, if it is set and not nil. -/
def tenantID (ctx : Ctx) : Option UUID := ctx.tenant.filter (· ≠ UUID.Nil)

section Workspace

variable (c : Call)

/-- The opening of every handler of `server.go` that takes a workspace.
mirrors mcp/server.go:1256-1265 -/
def requireWorkspaceID : Tool UUID :=
  c.requireID "workspace_id" "missing or invalid workspace_id argument" "invalid workspace_id UUID: "

/-- mirrors server.go:1930-1950 -/
def resolveWorkspaceID : Tool UUID := do
  let wsID ← (if c.trimmed "workspace_id" ≠ "" then
      Access.orFail (c.parseUUID (c.trimmed "workspace_id")) "invalid workspace_id: must be a valid UUID"
    else Access.orFail (tenantID c.ctx) "missing workspace_id parameter")
  Access.require ((tenantID c.ctx).all (· = wsID)) "workspace_id mismatch with authenticated token"
  pure wsID

/-- mirrors server.go:1953-1971 -/
def resolveWorkspaceIDOptional : Tool UUID := do
  let wsID ← (if c.trimmed "workspace_id" ≠ "" then
      Access.orFail (c.parseUUID (c.trimmed "workspace_id")) "invalid workspace_id: must be a valid UUID"
    else pure ((tenantID c.ctx).getD UUID.Nil))
  Access.require (wsID = UUID.Nil || (tenantID c.ctx).all (· = wsID))
    "workspace_id mismatch with authenticated token"
  pure wsID

end Workspace

def authWorkspace (ctx : Ctx) : Option UUID :=
  match (ctx.scope.map (·.workspaceID)).filter (· ≠ UUID.Nil) with
  | some ws => some ws
  | none => tenantID ctx

/-- mirrors engine.go:497-511 -/
def enforceScope (ctx : Ctx) (workspaceID : UUID) : Except String UUID :=
  match authWorkspace ctx with
  | none => .ok workspaceID
  | some authWS =>
    if workspaceID ≠ UUID.Nil ∧ workspaceID ≠ authWS then .error "workspace_id does not match authenticated context"
    else .ok authWS

/-! ## Chats -/

def errChatNotFound : String := "chat not found"
def errMessageNotFound : String := "message not found"

/-- mirrors engine.go `ChatRef` -/
structure ChatRef where
  chatID : UUID
  messageUID : String
  phone : String
  connectionID : Option UUID

def ChatRef.byID (id : UUID) : ChatRef := ⟨id, "", "", none⟩

section Chats

variable (c : Call)

/-- mirrors repository/chat.go:129-145 -/
def getChat (ws id : UUID) : Tool ChatRow := do
  Access.require (ws ≠ UUID.Nil) "invalid workspace id"
  let chat ← Access.fetch (·.workspaceID) (c.rows.chats.find? fun r => r.workspaceID = ws && r.id = id)
  Access.orFail chat errChatNotFound

/-- mirrors chat.go:207-224 -/
def getChatByID (id : UUID) : Tool ChatRow := do
  Access.require (id ≠ UUID.Nil) "chat_id is required"
  let chat ← Access.fetch (·.workspaceID) (c.rows.chats.find? fun r => r.id = id)
  Access.orFail chat errChatNotFound

/-- mirrors chat.go:620-632 -/
def getChatMessageByUID (ws : UUID) (uid : String) : Tool (Option MessageRow) :=
  if ws = UUID.Nil then pure none
  else Access.fetch (·.workspaceID) (c.rows.messages.find? fun r => r.workspaceID = ws && r.uid = uid)

/-- mirrors chat.go:662-674 -/
def findMessageByUID (uid : String) : Tool (Option MessageRow) :=
  if uid = "" then pure none else Access.fetch (·.workspaceID) (c.rows.messages.find? fun r => r.uid = uid)

/-- Fails unless the context may see the workspace. -/
def checkScope (ws : UUID) (message : String) : Tool Unit :=
  match enforceScope c.ctx ws with
  | .error _ => Access.fail message
  | .ok _ => pure ()

/-- mirrors engine.go:584-611 -/
def resolveByID (ws id : UUID) : Tool ChatRow :=
  if ws = UUID.Nil then do
    let chat ← getChatByID c id
    checkScope c chat.workspaceID errChatNotFound
    pure chat
  else getChat c ws id

/-- mirrors engine.go:662-693 -/
def resolveByMessage (ws : UUID) (uid : String) : Tool ChatRow := do
  let msg ← (if ws ≠ UUID.Nil then getChatMessageByUID c ws uid else findMessageByUID c uid)
  let msg ← Access.orFail (msg.filter (·.chatID ≠ UUID.Nil)) errChatNotFound
  Access.require (ws = UUID.Nil || msg.workspaceID = ws) errChatNotFound
  checkScope c msg.workspaceID errChatNotFound
  getChat c msg.workspaceID msg.chatID

/-- The chats of the workspace, then their contacts. mirrors engine.go:696-727 -/
def resolveByPhone (ws : UUID) (phone : String) (connectionID : Option UUID) : Tool ChatRow := do
  c.rowsOf ws
  Access.orFail
    (c.rows.chats.find? fun r => r.workspaceID = ws && r.phones.contains phone &&
      (connectionID.isNone || r.connectionID = connectionID))
    errChatNotFound

/-- No tool passes a contact id. mirrors engine.go:573-730 -/
def resolveChat (workspaceID : UUID) (ref : ChatRef) : Tool ChatRow :=
  match enforceScope c.ctx workspaceID with
  | .error _ => Access.fail errChatNotFound
  | .ok ws =>
    if ref.chatID ≠ UUID.Nil then resolveByID c ws ref.chatID
    else if trimSpace ref.messageUID ≠ "" then resolveByMessage c ws (trimSpace ref.messageUID)
    else if trimSpace ref.phone ≠ "" ∧ ws ≠ UUID.Nil then resolveByPhone c ws (trimSpace ref.phone) ref.connectionID
    else Access.fail errChatNotFound

/-- A chat with its contact and its connection. mirrors engine.go:946-980 -/
def get (ws : UUID) (ref : ChatRef) : Tool ChatRow := do
  let chat ← resolveChat c ws ref
  c.rowsOf chat.workspaceID
  match chat.connectionID with
  | none => pure chat
  | some id => do
    let _ ← c.getConnection id
    pure chat

/-- What the other methods do with a chat: they read and change rows of its workspace.
mirrors engine.go:1041-1340, chat/summarize.go:20-39 -/
def onChat (ws : UUID) (ref : ChatRef) : Tool ChatRow := do
  let chat ← resolveChat c ws ref
  c.rowsOf chat.workspaceID
  pure chat

/-- mirrors engine.go:984-1037 -/
def getMessage (workspaceID : UUID) (messageUID : String) : Tool MessageRow :=
  match enforceScope c.ctx workspaceID with
  | .error e => Access.fail e
  | .ok ws => do
    Access.require (trimSpace messageUID ≠ "") errMessageNotFound
    let inWorkspace ← getChatMessageByUID c ws (trimSpace messageUID)
    let msg ← (match inWorkspace with
      | some m => pure (some m)
      | none => do
        -- the second lookup is over all workspaces; a foreign row is read and dropped
        let m ← findMessageByUID c (trimSpace messageUID)
        pure (m.filter fun m => ws = UUID.Nil || m.workspaceID = ws))
    let msg ← Access.orFail msg errMessageNotFound
    checkScope c msg.workspaceID "workspace_id does not match authenticated context"
    let _ ← (getChat c msg.workspaceID msg.chatID).attempt
    c.rowsOf msg.workspaceID
    pure msg

/-- Only called with a chat id. mirrors engine.go:1342-1412, chat.go:422-445 -/
def createNote (workspaceID chatID : UUID) : Tool Unit :=
  match enforceScope c.ctx workspaceID with
  | .error _ => Access.fail errChatNotFound
  | .ok ws => do
    Access.require (chatID ≠ UUID.Nil) "chat_id is required"
    let chat ← (if ws ≠ UUID.Nil then getChat c ws chatID else getChatByID c chatID)
    c.rowsOf chat.workspaceID
    checkScope c chat.workspaceID "workspace_id does not match authenticated context"
    c.rowsOf (if ws = UUID.Nil then chat.workspaceID else ws)

/-- Only called without a chat. mirrors engine.go:1418-1517 -/
def react (workspaceID : UUID) (messageUID : String) : Tool Unit :=
  match enforceScope c.ctx workspaceID with
  | .error e => Access.fail e
  | .ok ws => do
    let ws ← (if ws = UUID.Nil then do
        let msg ← findMessageByUID c messageUID
        let msg ← Access.orFail msg errMessageNotFound
        pure msg.workspaceID
      else pure ws)
    checkScope c ws "workspace_id does not match authenticated context"
    let msg ← getChatMessageByUID c ws messageUID
    let _ ← Access.orFail msg errMessageNotFound
    c.rowsOf ws

/-- The connection, the contact and the ingestion, once the workspace is known.
mirrors engine.go:1608-1897 -/
def dispatchFrom (ws : UUID) (connectionID : Option UUID) : Tool Unit := do
  match connectionID.filter (· ≠ UUID.Nil) with
  | some id => do
    let _ ← c.getConnection id
    c.rowsOf ws
  | none => c.rowsOf ws
  c.finish

/-- mirrors engine.go:1580-1898 -/
def sendMessage (workspaceID : UUID) (ref : ChatRef) (connectionID : Option UUID) : Tool Unit := do
  let chat ← (resolveChat c workspaceID ref).attempt
  match chat with
  | .ok chat => dispatchFrom c chat.workspaceID ((connectionID.filter (· ≠ UUID.Nil)).orElse fun _ => chat.connectionID)
  | .error e =>
    if e ≠ errChatNotFound ∨ trimSpace ref.phone = "" then Access.fail e
    else match enforceScope c.ctx workspaceID with
      | .error _ => Access.fail errChatNotFound
      | .ok ws => do
        Access.require (ws ≠ UUID.Nil) errChatNotFound
        dispatchFrom c ws connectionID

end Chats

end PerGo.L3.MCP
