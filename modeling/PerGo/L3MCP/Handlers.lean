import PerGo.L3MCP.Engine

/-!
# The MCP tool handlers

Every tool registered in `internal/api/mcp`, as the rows it touches. Three
families differ in how they come to their workspace:

* the handlers of `server.go` take the argument `workspace_id` as it is;
* most chat and WABA handlers compare it with the tenant of the request;
* the chat handlers that may do without a workspace find their row by its id in
  any workspace when neither the argument nor the request has one.
-/
namespace PerGo.L3.MCP

open PerGo.Core PerGo.L1 PerGo.L2

variable (c : Call)

/-! ## Workspaces, connections and webhooks: `server.go` -/

/-- mirrors mcp/server.go:795-846 -/
def handleCreateWorkspace : Tool Unit := do
  c.requireText "name" "missing or invalid name argument"
  Access.touch c.newID
  c.finish

/-- mirrors server.go:851-873 -/
def handleGetWorkspace : Tool Unit := do
  let ws ← requireWorkspaceID c
  c.getWorkspace ws "failed to get workspace: workspace not found"

/-- `List(ctx, 100)`. mirrors server.go:1242-1254 -/
def handleListWorkspaces : Tool Unit := do
  let _ ← Access.fetchAll id (c.rows.workspaces.take 100)

/-- mirrors mcp/queue_health.go:269-295 -/
def handleInspectQueueHealth : Tool Unit := do
  if c.trimmed "workspace_id" ≠ "" then
    let _ ← Access.orFail (c.parseUUID (c.trimmed "workspace_id"))
      ("invalid workspace_id: " ++ c.parseError (c.trimmed "workspace_id"))
  c.finish

def onWorkspace (check : Tool Unit) : Tool Unit := do
  let ws ← requireWorkspaceID c
  check
  c.rowsOf ws
  c.finish

/-- mirrors server.go:1256-1297 -/
def handleListConnections : Tool Unit := onWorkspace c (pure ())

/-- mirrors server.go:1299-1324 -/
def handleSearchContacts : Tool Unit := onWorkspace c (pure ())

/-- mirrors server.go:1326-1419 -/
def handleSendMessage : Tool Unit := onWorkspace c do
  let _ ← c.requireString "to" "missing or invalid to argument"
  let _ ← c.requireString "channel" "missing or invalid channel argument"
  let _ ← c.requireString "body" "missing or invalid body argument"

/-- mirrors server.go:1421-1470 -/
def handleGetAuditLogs : Tool Unit := onWorkspace c (pure ())

/-- mirrors server.go:1579-1624 -/
def handleListWebhookSubscriptions : Tool Unit := onWorkspace c (pure ())

def onExistingWorkspace (missing : String) (body : UUID → Tool Unit) : Tool Unit := do
  let ws ← requireWorkspaceID c
  c.getWorkspace ws missing
  body ws
  c.finish

/-- mirrors server.go:875-1024 -/
def handleCreateConnection : Tool Unit := onExistingWorkspace c "workspace not found: workspace not found" fun ws => do
  c.requireText "name" "missing or invalid name argument"
  c.requireText "channel" "missing or invalid channel argument"
  let channel := toLower (c.trimmed "channel")
  Access.require (channel = "whatsapp" || channel = "whatsapp_cloud" || channel = "telegram")
    "unsupported channel: must be 'whatsapp', 'whatsapp_cloud', or 'telegram'"
  Access.require (channel ≠ "whatsapp" || c.trimmed "sender_identity" ≠ "")
    "sender_identity (phone number) is required for whatsapp connection"
  c.rowsOf ws

/-- mirrors server.go:1472-1577 -/
def handleCreateWebhookSubscription : Tool Unit :=
  onExistingWorkspace c "workspace not found: workspace not found" fun ws => do
    c.requireText "url" "missing or invalid url argument"
    c.checked
    c.rowsOf ws

/-- mirrors server.go:1839-1918 -/
def handleGenerateAdminSSOURL : Tool Unit :=
  onExistingWorkspace c "workspace not found: workspace not found" fun _ => pure ()

/-- The connection or the subscription in an argument, if it is of the workspace. -/
def ownRow {ρ : Type} (get : UUID → Tool (Option ρ)) (owner : ρ → UUID) (ws id : UUID) (message : String) : Tool ρ := do
  let row ← get id
  Access.orFail (row.filter fun r => owner r = ws) message

def ownConnection (ws id : UUID) : Tool ConnectionRow :=
  ownRow c.getConnection (·.workspaceID) ws id "connection not found for workspace"

def ownSubscription (ws id : UUID) : Tool SubscriptionRow :=
  ownRow c.getSubscription (·.workspaceID) ws id "webhook subscription not found for workspace"

def onConnection (body : ConnectionRow → Tool Unit) : Tool Unit := do
  let ws ← requireWorkspaceID c
  let id ← c.requireID "connection_id" "missing or invalid connection_id argument" "invalid connection_id UUID: "
  let conn ← ownConnection c ws id
  body conn
  c.finish

/-- mirrors server.go:1026-1112 -/
def handleGetConnectionStatus : Tool Unit := onConnection c fun _ => pure ()

/-- mirrors server.go:1114-1180 -/
def handleGetConnectionQRCode : Tool Unit := onConnection c fun conn =>
  Access.require (conn.channel = "whatsapp") "QR code pairing is only supported for whatsapp connections"

/-- mirrors server.go:1183-1240 -/
def handleDisconnectConnection : Tool Unit := onConnection c fun conn => c.rowsOf conn.workspaceID

/-- The workspace is read before the connection. mirrors mcp/connection_health.go:326-433 -/
def handleDiagnoseConnectionHealth : Tool Unit := do
  let ws ← requireWorkspaceID c
  let id ← c.requireID "connection_id" "missing or invalid connection_id argument" "invalid connection_id UUID: "
  c.getWorkspace ws "workspace not found: workspace not found"
  let _ ← ownConnection c ws id
  c.finish

def onSubscription (body : SubscriptionRow → Tool Unit) : Tool Unit := do
  let ws ← requireWorkspaceID c
  let id ← c.requireID "subscription_id" "missing or invalid subscription_id argument" "invalid subscription_id UUID: "
  let sub ← ownSubscription c ws id
  body sub
  c.finish

/-- mirrors server.go:1626-1674 -/
def handleDeleteWebhookSubscription : Tool Unit := onSubscription c fun sub => c.rowsOf sub.workspaceID

/-- mirrors server.go:1676-1739 -/
def handleRotateWebhookSecret : Tool Unit := onSubscription c fun sub => c.rowsOf sub.workspaceID

/-- mirrors server.go:1741-1839 -/
def handleTestPingWebhook : Tool Unit := onSubscription c fun _ => pure ()

def optionalSubscription (ws : UUID) : Tool (Option UUID) :=
  if c.trimmed "subscription_id" = "" then pure none
  else do
    let id ← Access.orFail (c.parseUUID (c.trimmed "subscription_id"))
      ("invalid subscription_id UUID: " ++ c.parseError (c.trimmed "subscription_id"))
    let _ ← ownSubscription c ws id
    pure (some id)

/-- mirrors mcp/webhook_simulator.go:28-251 -/
def handleSimulateWebhookEvent : Tool Unit := do
  c.requireText "workspace_id" "missing or invalid workspace_id argument"
  onExistingWorkspace c "workspace not found" fun ws => do
    c.requireText "event_type" "missing or invalid event_type argument"
    c.checked
    let _ ← optionalSubscription c ws
    c.rowsOf ws

/-- The dead letter in the argument, with its subscription. mirrors mcp/webhook_dlq_replay.go:113-131 -/
def ownDLQ (ws : UUID) : Tool Unit := do
  let id ← Access.orFail (c.parseUUID (c.trimmed "dlq_id"))
    ("invalid dlq_id UUID: " ++ c.parseError (c.trimmed "dlq_id"))
  let item ← Access.fetch (·.workspaceID) (c.rows.dlq.find? fun r => r.id = id)
  let item ← Access.orFail item "DLQ item not found: no rows in result set"
  Access.require (item.workspaceID = ws) "DLQ item does not belong to the specified workspace"
  let _ ← c.getSubscription item.subscriptionID

/-- mirrors webhook_dlq_replay.go:46-287 -/
def handleReplayWebhookDLQ : Tool Unit := do
  c.requireText "workspace_id" "missing or invalid workspace_id argument"
  onExistingWorkspace c "workspace not found" fun ws => do
    let action := toLower (trimSpace (c.getString "action" "re-enqueue"))
    Access.require (action = "" || action = "re-enqueue" || action = "dispatch_immediate")
      "invalid action: must be 're-enqueue' or 'dispatch_immediate'"
    c.checked
    let _ ← optionalSubscription c ws
    if c.trimmed "dlq_id" ≠ "" then ownDLQ c ws else c.rowsOf ws
    c.rowsOf ws

/-! ## Chats of the tenant: `chat_tools.go`, `waba_tools.go` -/

def onTenant (check : Tool Unit) : Tool Unit := do
  let ws ← resolveWorkspaceID c
  check
  c.rowsOf ws
  c.finish

/-- mirrors mcp/chat_tools.go:525-593 -/
def handleListChats : Tool Unit := onTenant c (pure ())

/-- mirrors chat_tools.go:841-888 -/
def handleWorkspaceQuotas : Tool Unit := onTenant c (pure ())

/-- mirrors chat_tools.go:891-976 -/
def handleWorkspaceTeam : Tool Unit := onTenant c (pure ())

/-- mirrors chat_tools.go:1451-1514 -/
def handleWorkspaceWhatsAppAccounts : Tool Unit := onTenant c (pure ())

/-- mirrors mcp/waba_tools.go:518-579 -/
def handleWABAAccounts : Tool Unit := onTenant c (pure ())

/-- An optional `connection_id` that is only parsed, or compared with the rows of the workspace. -/
def optionalConnectionID : Tool (Option UUID) :=
  if c.trimmed "connection_id" = "" then pure none
  else do
    let id ← Access.orFail (c.parseUUID (c.trimmed "connection_id")) "invalid connection_id: must be a valid UUID"
    pure (some id)

/-- mirrors waba_tools.go:590-690 -/
def handleWABAListChats : Tool Unit := onTenant c do
  let _ ← optionalConnectionID c

/-- The templates of a connection are read before they are compared with the workspace.
mirrors waba_tools.go:723-798 -/
def handleWABATemplates : Tool Unit := do
  let ws ← resolveWorkspaceID c
  let conn ← optionalConnectionID c
  match conn with
  | some id => do
    let _ ← Access.fetchAll (·.workspaceID) (c.rows.templates.filter fun t => t.connectionID = id)
  | none => c.rowsOf ws
  c.finish

/-- The template an id, or a connection, name and language, stand for.
mirrors waba_tools.go:810-831 -/
def namedTemplate : Tool (Option TemplateRow) :=
  if c.trimmed "template_id" ≠ "" then do
    let id ← Access.orFail (c.parseUUID (c.trimmed "template_id")) "invalid template_id: must be a valid UUID"
    Access.fetch (·.workspaceID) (c.rows.templates.find? fun t => t.id = id)
  else if c.trimmed "name" ≠ "" ∧ c.trimmed "language" ≠ "" ∧ c.trimmed "connection_id" ≠ "" then do
    let id ← Access.orFail (c.parseUUID (c.trimmed "connection_id")) "invalid connection_id: must be a valid UUID"
    Access.fetch (·.workspaceID) (c.rows.templates.find? fun t =>
      t.connectionID = id && t.name = c.trimmed "name" && t.language = c.trimmed "language")
  else Access.fail "must provide either template_id OR (connection_id, name, and language)"

/-- mirrors waba_tools.go:800-865 -/
def handleWABATemplateDetails : Tool Unit := do
  let ws ← resolveWorkspaceID c
  let tmpl ← namedTemplate c
  let tmpl ← Access.orFail tmpl "template not found"
  Access.require (tmpl.workspaceID = ws) "template not found in specified workspace"
  c.finish

/-- mirrors chat_tools.go:606-613 -/
def requireChatID : Tool UUID := do
  let s ← c.requireString "chat_id" "missing chat_id parameter"
  Access.orFail (c.parseUUID (trimSpace s)) "invalid chat_id: must be a valid UUID"

def chatError (missing failed : String) (id : UUID) (e : String) : String :=
  if e = errChatNotFound then missing ++ id.string else failed ++ e

def onTenantChat (check : Tool Unit) (missing failed : String) : Tool Unit := do
  let ws ← resolveWorkspaceID c
  let id ← requireChatID c
  check
  let _ ← (onChat c ws (.byID id)).mapError (chatError missing failed id)
  c.finish

/-- mirrors chat_tools.go:597-649 -/
def handleChatDetails : Tool Unit := do
  let ws ← resolveWorkspaceID c
  let id ← requireChatID c
  let _ ← (get c ws (.byID id)).mapError (chatError "chat not found: " "failed to get chat: " id)
  c.finish

/-- A missing chat has no wording of its own. mirrors chat_tools.go:651-701 -/
def handleChatHistory : Tool Unit := do
  let ws ← resolveWorkspaceID c
  let id ← requireChatID c
  let _ ← (onChat c ws (.byID id)).mapError ("failed to list chat messages: " ++ ·)
  c.finish

/-- mirrors chat_tools.go:703-747 -/
def handleChatEnableAI : Tool Unit :=
  onTenantChat c c.checked "chat not found: " "failed to update chat AI status: "

/-- mirrors chat_tools.go:978-1041 -/
def handleChatAssign : Tool Unit :=
  onTenantChat c
    (do
      let email ← c.requireString "email" "missing email parameter"
      Access.require (trimSpace email ≠ "") "email cannot be empty")
    "chat not found: " "failed to assign chat: "

/-- mirrors chat_tools.go:1043-1082 -/
def handleChatUnassign : Tool Unit := onTenantChat c (pure ()) "chat not found: " "failed to unassign chat: "

def requireLabel : Tool Unit :=
  Access.require (c.trimmed "label" ≠ "" || c.trimmed "tag" ≠ "") "missing label parameter"

/-- mirrors chat_tools.go:1083-1131 -/
def handleChatSetLabel : Tool Unit := onTenantChat c (requireLabel c) "chat not found: " "failed to set chat tags: "

/-- mirrors chat_tools.go:1133-1180 -/
def handleChatRemoveLabel : Tool Unit := onTenantChat c (requireLabel c) "chat not found: " "failed to set chat tags: "

/-- mirrors chat_tools.go:1182-1219 -/
def handleChatOpen : Tool Unit := onTenantChat c (pure ()) "chat not found: " "failed to open chat: "

/-- mirrors chat_tools.go:1221-1258 -/
def handleChatClose : Tool Unit := onTenantChat c (pure ()) "chat not found: " "failed to close chat: "

/-- mirrors waba_tools.go:1154-1218 -/
def handleWABAChatDetails : Tool Unit := do
  let ws ← resolveWorkspaceID c
  let id ← requireChatID c
  let _ ← (get c ws (.byID id)).mapError (chatError "waba chat not found: " "failed to get waba chat: " id)
  c.finish

/-- mirrors waba_tools.go:867-941 -/
def handleWABAChatSendMessage : Tool Unit := do
  let ws ← resolveWorkspaceID c
  let id ← requireChatID c
  c.requireText "message" "missing or empty message parameter"
  (sendMessage c ws (.byID id) none).mapError (chatError "chat not found: " "failed to dispatch message: " id)

/-- The template of a connection. mirrors waba_tools.go:1019-1031, 1327-1338 -/
def approvedTemplate (conn : UUID) (missing : String) : Tool Unit := do
  let tmpl ← Access.fetch (·.workspaceID) (c.rows.templates.find? fun t =>
    t.connectionID = conn && t.name = c.trimmed "template_name" && t.language = c.trimmed "language")
  let _ ← Access.orFail tmpl missing
  c.checked

/-- The chat's connection, else a WABA connection of the workspace. mirrors waba_tools.go:995-1010 -/
def templateConnection (ws : UUID) (chat : ChatRow) : Tool (Option ConnectionRow) := do
  let conn ← (match chat.connectionID with
    | some id => c.getConnection id
    | none => pure none)
  match conn with
  | some conn => pure (some conn)
  | none => do
    c.rowsOf ws
    pure (c.rows.connections.find? fun r => r.workspaceID = ws && r.channel = "whatsapp_cloud" &&
      (r.status = "active" || r.status = "connected" || r.isDefault))

/-- mirrors waba_tools.go:945-1069 -/
def handleWABAChatSendTemplate : Tool Unit := do
  let ws ← resolveWorkspaceID c
  let id ← requireChatID c
  c.requireText "template_name" "missing template_name parameter"
  c.requireText "language" "missing language parameter"
  let chat ← (resolveChat c ws (.byID id)).mapError (chatError "chat not found: " "failed to get chat: " id)
  let conn ← templateConnection c ws chat
  match conn with
  | some conn =>
    approvedTemplate c conn.id
      ("template '" ++ c.trimmed "template_name" ++ "' (" ++ c.trimmed "language" ++ ") not found for connection")
  | none => c.checked
  (sendMessage c ws (.byID id) (conn.map (·.id))).mapError ("failed to dispatch template message: " ++ ·)

/-- mirrors waba_tools.go:1271-1400 -/
def handleWABAStartChat : Tool Unit := do
  let ws ← resolveWorkspaceID c
  let s ← c.requireString "connection_id" "missing connection_id parameter"
  let id ← Access.orFail (c.parseUUID (trimSpace s)) "invalid connection_id: must be a valid UUID"
  let conn ← c.getConnection id
  let conn ← Access.orFail conn ("connection not found: " ++ id.string)
  Access.require (conn.workspaceID = ws) "connection does not belong to specified workspace"
  Access.require (conn.channel = "whatsapp_cloud")
    ("connection " ++ conn.id.string ++ " is channel '" ++ conn.channel ++ "', expected 'whatsapp_cloud'")
  c.requireText "phone" "missing or empty phone parameter"
  c.requireText "template_name" "missing or empty template_name parameter"
  c.requireText "language" "missing or empty language parameter"
  approvedTemplate c conn.id
    ("template '" ++ c.trimmed "template_name" ++ "' (" ++ c.trimmed "language" ++ ") not found for connection " ++
      conn.id.string)
  (sendMessage c ws ⟨UUID.Nil, "", c.trimmed "phone", some conn.id⟩ (some conn.id)).mapError
    ("failed to dispatch template message: " ++ ·)

/-! ## Chats that may come without a workspace -/

/-- How a chat tool that takes an optional workspace words an error of the engine. -/
def scopeError (foreign missing failed : String) (e : String) : String :=
  if containsStr e "workspace_id" then foreign
  else if containsStr e "not found" then missing
  else failed ++ e

/-- mirrors chat_tools.go:747-805 -/
def handleChatCreateDraftNote : Tool Unit := do
  let id ← requireChatID c
  let body ← c.requireString "body" "missing body parameter"
  Access.require (trimSpace body ≠ "") "body parameter cannot be empty"
  let ws ← resolveWorkspaceIDOptional c
  (createNote c ws id).mapError (scopeError "workspace_id mismatch with authenticated token"
    ("chat not found: " ++ id.string) "failed to create draft note: ")
  c.finish

/-- mirrors chat_tools.go:1263-1327 -/
def handleMessageReact : Tool Unit := do
  c.requireText "message_uid" "missing or invalid message_uid parameter"
  c.requireText "emoji" "missing or invalid emoji parameter"
  let ws ← resolveWorkspaceIDOptional c
  let action := toLower (trimSpace (c.getString "action" "add"))
  Access.require (action = "" || action = "add" || action = "remove" || action = "toggle")
    "invalid action: must be 'add', 'remove', or 'toggle'"
  (react c ws (c.trimmed "message_uid")).mapError (scopeError "workspace_id does not match authenticated context"
    ("message not found: " ++ c.trimmed "message_uid") "failed to update message reaction: ")
  c.finish

/-- mirrors chat_tools.go:1329-1371 -/
def handleChatSummarize : Tool Unit := do
  let id ← requireChatID c
  let ws ← resolveWorkspaceIDOptional c
  let _ ← (onChat c ws (.byID id)).mapError (scopeError "workspace_id does not match authenticated context"
    ("chat not found: " ++ id.string) "failed to summarize chat: ")
  c.finish

def requireMessageText (message : String) : Tool Unit :=
  Access.require (c.trimmed "message" ≠ "" || c.trimmed "body" ≠ "") message

/-- mirrors chat_tools.go:1373-1449 -/
def handleChatSendMessage : Tool Unit := do
  let id ← requireChatID c
  requireMessageText c "missing or empty message parameter"
  let ws ← resolveWorkspaceIDOptional c
  (sendMessage c ws (.byID id) none).mapError (scopeError "workspace_id does not match authenticated context"
    ("chat not found: " ++ id.string) "failed to dispatch message: ")

def optionalChatID : Tool UUID :=
  if c.trimmed "chat_id" = "" then pure UUID.Nil
  else Access.orFail (c.parseUUID (c.trimmed "chat_id")) "invalid chat_id: must be a valid UUID"

/-- Without a workspace, the chat's. mirrors chat_tools.go:1542-1550 -/
def workspaceOfChat (ws chatID : UUID) : Tool UUID :=
  if ws = UUID.Nil ∧ chatID ≠ UUID.Nil then do
    let chat ← (resolveChat c UUID.Nil (.byID chatID)).attempt
    match chat with
    | .ok chat => pure chat.workspaceID
    | .error _ => pure ws
  else pure ws

/-- mirrors chat_tools.go:1516-1623 -/
def handleMessageDetails : Tool Unit := do
  c.requireText "message_uid" "missing or empty message_uid parameter"
  let ws ← resolveWorkspaceIDOptional c
  let chatID ← optionalChatID c
  let ws ← workspaceOfChat c ws chatID
  Access.require (ws ≠ UUID.Nil) "missing workspace_id parameter"
  let msg ← (getMessage c ws (c.trimmed "message_uid")).mapError fun e =>
    if containsStr e "workspace_id does not match authenticated context" then e
    else "message not found: " ++ c.trimmed "message_uid"
  Access.require (chatID = UUID.Nil || msg.chatID = chatID)
    ("message " ++ c.trimmed "message_uid" ++ " does not belong to chat " ++ chatID.string)

def noConnection : String :=
  "could not resolve a valid WhatsApp connection; provide connection_id or sender_identity"

/-- mirrors repository/connection.go:202-214 -/
def defaultConnection (ws : UUID) (channel : String) : Option ConnectionRow :=
  c.rows.connections.find? fun r => r.workspaceID = ws && r.channel = channel && r.isDefault

/-- The connection to send from, with the workspace it settles. mirrors chat_tools.go:1650-1692 -/
def sendingConnection (ws : UUID) : Tool (UUID × ConnectionRow) :=
  if c.trimmed "connection_id" ≠ "" then do
    let id ← Access.orFail (c.parseUUID (c.trimmed "connection_id")) "invalid connection_id: must be a valid UUID"
    let conn ← c.getConnection id
    let conn ← Access.orFail conn "connection not found: connection not found"
    Access.require (ws = UUID.Nil || conn.workspaceID = ws) "connection does not belong to specified workspace"
    pure (conn.workspaceID, conn)
  else if c.trimmed "sender_identity" ≠ "" then do
    Access.require (ws ≠ UUID.Nil) "workspace_id is required when locating connection by sender_identity"
    c.rowsOf ws
    let conn ← Access.orFail
      (c.rows.connections.find? fun r => r.workspaceID = ws && r.senderIdentity = c.trimmed "sender_identity")
      ("connection with sender_identity '" ++ c.trimmed "sender_identity" ++ "' not found: connection not found")
    pure (ws, conn)
  else do
    Access.require (ws ≠ UUID.Nil) noConnection
    c.rowsOf ws
    let conn ← Access.orFail
      ((defaultConnection c ws "whatsapp").orElse fun _ => defaultConnection c ws "whatsapp_cloud") noConnection
    pure (ws, conn)

/-- mirrors chat_tools.go:1625-1749 -/
def handleWhatsAppAccountSendMessage : Tool Unit := do
  Access.require (c.trimmed "to" ≠ "") "missing or empty 'to' destination phone number"
  requireMessageText c "missing or empty message body"
  let ws ← resolveWorkspaceIDOptional c
  let (ws, conn) ← sendingConnection c ws
  Access.require (conn.channel = "whatsapp" || conn.channel = "whatsapp_cloud")
    ("connection " ++ conn.id.string ++ " is channel '" ++ conn.channel ++ "', expected a WhatsApp channel")
  Access.require ((tenantID c.ctx).all (· = ws)) "workspace_id does not match authenticated context"
  (sendMessage c ws ⟨UUID.Nil, "", c.trimmed "to", some conn.id⟩ (some conn.id)).mapError
    ("failed to dispatch message: " ++ ·)

/-- mirrors chat_tools.go:1756-1834 -/
def handleMessageReply : Tool Unit := do
  c.requireText "reply_to_uid" "missing or empty reply_to_uid parameter"
  requireMessageText c "missing or empty message parameter"
  let ws ← resolveWorkspaceIDOptional c
  let chatID ← optionalChatID c
  Access.require (chatID ≠ UUID.Nil || ws ≠ UUID.Nil) "missing chat_id or workspace_id parameter to locate message"
  if chatID = UUID.Nil then
    let msg ← getChatMessageByUID c ws (c.trimmed "reply_to_uid")
    let _ ← Access.orFail msg ("parent message to reply to not found: " ++ c.trimmed "reply_to_uid")
  (sendMessage c ws ⟨chatID, c.trimmed "reply_to_uid", "", none⟩ none).mapError
    (scopeError "workspace_id does not match authenticated context" ("chat not found: " ++ chatID.string)
      "failed to dispatch message: ")

/-! ## The registry -/

/-- The registered tools, by the names of `server.go:295-789`, `chat_tools.go:21-518` and
`waba_tools.go:47-500`. -/
inductive ToolName
  | create_workspace | get_workspace | list_workspaces | create_connection | get_connection_status
  | get_connection_qr_code | disconnect_connection | diagnose_connection_health | list_connections
  | search_contacts | send_message | get_audit_logs | create_webhook_subscription
  | list_webhook_subscriptions | delete_webhook_subscription | rotate_webhook_secret | test_ping_webhook
  | generate_admin_sso_url | simulate_webhook_event | inspect_queue_health | replay_webhook_dlq
  | workspace_quotas | workspace_team | chat_assign | chat_unassign | chat_set_label | chat_remove_label
  | chat_open | chat_close | list_chats | chat_details | chat_history | chat_enable_ai
  | chat_create_draft_note | message_react | chat_summarize | chat_send_message
  | workspace_whatsapp_accounts | message_details | whatsapp_account_send_message | message_reply
  | waba_accounts | waba_list_chats | waba_templates | waba_template_details | waba_chat_send_message
  | waba_chat_send_template | waba_chat_details | waba_chat_history | waba_message_details
  | waba_start_chat | waba_message_react | waba_chat_open | waba_chat_close | waba_chat_assign
  | waba_chat_unassign | waba_chat_set_label | waba_chat_remove_label
deriving DecidableEq

/-- The handler of a tool; nine WABA tools share the handler of their chat tool.
mirrors server.go:293-789, waba_tools.go:1233-1269 -/
def handler : ToolName → Call → Tool Unit
  | .create_workspace => handleCreateWorkspace
  | .get_workspace => handleGetWorkspace
  | .list_workspaces => handleListWorkspaces
  | .create_connection => handleCreateConnection
  | .get_connection_status => handleGetConnectionStatus
  | .get_connection_qr_code => handleGetConnectionQRCode
  | .disconnect_connection => handleDisconnectConnection
  | .diagnose_connection_health => handleDiagnoseConnectionHealth
  | .list_connections => handleListConnections
  | .search_contacts => handleSearchContacts
  | .send_message => handleSendMessage
  | .get_audit_logs => handleGetAuditLogs
  | .create_webhook_subscription => handleCreateWebhookSubscription
  | .list_webhook_subscriptions => handleListWebhookSubscriptions
  | .delete_webhook_subscription => handleDeleteWebhookSubscription
  | .rotate_webhook_secret => handleRotateWebhookSecret
  | .test_ping_webhook => handleTestPingWebhook
  | .generate_admin_sso_url => handleGenerateAdminSSOURL
  | .simulate_webhook_event => handleSimulateWebhookEvent
  | .inspect_queue_health => handleInspectQueueHealth
  | .replay_webhook_dlq => handleReplayWebhookDLQ
  | .workspace_quotas => handleWorkspaceQuotas
  | .workspace_team => handleWorkspaceTeam
  | .chat_assign | .waba_chat_assign => handleChatAssign
  | .chat_unassign | .waba_chat_unassign => handleChatUnassign
  | .chat_set_label | .waba_chat_set_label => handleChatSetLabel
  | .chat_remove_label | .waba_chat_remove_label => handleChatRemoveLabel
  | .chat_open | .waba_chat_open => handleChatOpen
  | .chat_close | .waba_chat_close => handleChatClose
  | .list_chats => handleListChats
  | .chat_details => handleChatDetails
  | .chat_history | .waba_chat_history => handleChatHistory
  | .chat_enable_ai => handleChatEnableAI
  | .chat_create_draft_note => handleChatCreateDraftNote
  | .message_react | .waba_message_react => handleMessageReact
  | .chat_summarize => handleChatSummarize
  | .chat_send_message => handleChatSendMessage
  | .workspace_whatsapp_accounts => handleWorkspaceWhatsAppAccounts
  | .message_details | .waba_message_details => handleMessageDetails
  | .whatsapp_account_send_message => handleWhatsAppAccountSendMessage
  | .message_reply => handleMessageReply
  | .waba_accounts => handleWABAAccounts
  | .waba_list_chats => handleWABAListChats
  | .waba_templates => handleWABATemplates
  | .waba_template_details => handleWABATemplateDetails
  | .waba_chat_send_message => handleWABAChatSendMessage
  | .waba_chat_send_template => handleWABAChatSendTemplate
  | .waba_chat_details => handleWABAChatDetails
  | .waba_start_chat => handleWABAStartChat

end PerGo.L3.MCP
