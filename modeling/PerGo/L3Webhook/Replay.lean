import PerGo.L3Webhook.Worker

/-!
# Replaying dead letters

The two handlers that bring a row of `webhook_dlqs` back: the MCP tool
`replay_webhook_dlq` (`mcp/webhook_dlq_replay.go`) and the admin
page's `RetryDLQ` (`admin/webhook_dlq.go`). Both rebuild
the delivery task by hand; the tool can also post the row itself. Latencies and
response texts of the tool's report are left out.
-/
namespace PerGo.L3.Webhook

open PerGo.Core PerGo.L1 PerGo.L2

/-! ## The table -/

/-- mirrors repository/webhook_dlq.go:73-109: newest first -/
def listDLQ (s : WebhookSt) (workspaceID : UUID) (limit offset : Nat) : Option (List WebhookDLQ) :=
  if workspaceID = UUID.Nil then none
  else some (((s.dlq.reverse.filter fun r => r.workspaceID = workspaceID).drop offset).take limit)

/-- mirrors repository/webhook_dlq.go:112-130 -/
def getDLQByID (s : WebhookSt) (id : UUID) : Option WebhookDLQ := s.dlq.find? fun r => r.id = id

/-- mirrors repository/webhook_dlq.go:133-139 -/
def deleteDLQ (s : WebhookSt) (id : UUID) : WebhookSt := { s with dlq := s.dlq.filter fun r => r.id ≠ id }

theorem listDLQ_mem {s : WebhookSt} {ws : UUID} {limit offset : Nat} {items : List WebhookDLQ}
    (h : listDLQ s ws limit offset = some items) {r : WebhookDLQ} (hr : r ∈ items) : r ∈ s.dlq := by
  unfold listDLQ at h
  split at h
  · cases h
  · cases h
    have hr := List.mem_of_mem_drop (List.mem_of_mem_take hr)
    exact List.mem_reverse.mp (List.mem_filter.mp hr).1

theorem getDLQByID_mem {s : WebhookSt} {id : UUID} {r : WebhookDLQ} (h : getDLQByID s id = some r) : r ∈ s.dlq :=
  List.mem_of_find?_eq_some h

/-! ## Back to the queue -/

/-- The task both handlers build from a row.
mirrors webhook_dlq_replay.go:186-195 and admin/webhook_dlq.go:580-589 -/
def replayTask (item : WebhookDLQ) (id : UUID) : WebhookDeliveryTask :=
  ⟨id, item.subscriptionID, item.workspaceID, item.eventType, item.traceID, item.messageID, item.payload, .outbound⟩

def reenqueue (s : WebhookSt) (now : Time) (item : WebhookDLQ) (deleted : Bool) : WebhookSt :=
  let task := replayTask item s.newTaskID
  let stored := { s.publishTask now task with
    log := if s.Dropped now task then s.log else .replayed item task :: s.log }
  if deleted then deleteDLQ stored item.id else stored

/-! ## The MCP tool -/

inductive ReplayAction
  | reEnqueue
  | dispatchImmediate
deriving DecidableEq

/-- The arguments of the call as text; a missing one is `none`. -/
structure ReplayRequest where
  workspaceID : Option String
  action : Option String
  limit : Option Int
  targetURL : Option String
  subscriptionID : Option String
  dlqID : Option String

structure ReplayEnv extends DispatchEnv where
  parseUUID : String → Except String UUID
  /-- the scheme `url.ParseRequestURI` finds -/
  scheme : String → Option String
  hasDLQRepo : Bool
  hasSubRepo : Bool
  hasPublisher : Bool
  /-- a failing read of `webhook_dlqs` -/
  readErr : Option String
  /-- per row, the error of `Publish` and whether the delete succeeds -/
  publishErr : UUID → Option String
  deleteOk : UUID → Bool

structure ReplayItemResult where
  dlqID : UUID
  subscriptionID : UUID
  eventType : String
  traceID : String
  messageID : String
  targetURL : String
  subject : String
  statusCode : Nat
  success : Bool
  deletedFromDLQ : Bool
  error : String

def ReplayItemResult.of (item : WebhookDLQ) : ReplayItemResult :=
  ⟨item.id, item.subscriptionID, item.eventType, item.traceID, item.messageID, "", "", 0, false, false, ""⟩

def httpScheme (env : ReplayEnv) (url : String) : Bool :=
  env.scheme url = some "http" || env.scheme url = some "https"

/-- mirrors mcp/webhook_dispatch_helper.go:108-116 -/
def resolveWebhookSecret (subSecret : String) (ws : Option WebhookWorkspace) : String :=
  if subSecret ≠ "" then subSecret else (ws.bind (·.webhookSecret)).getD ""

/-- mirrors webhook_dlq_replay.go:238-244 -/
def replaySecret (env : ReplayEnv) (ws : Option WebhookWorkspace) (item : WebhookDLQ) : String :=
  let subSecret :=
    if env.hasSubRepo ∧ item.subscriptionID ≠ UUID.Nil then
      match env.getSub item.subscriptionID with
      | .ok (some sub) => sub.secret
      | _ => ""
    else ""
  resolveWebhookSecret subSecret ws

/-- mirrors webhook_dlq_replay.go:182-221 -/
def replayReEnqueue (env : ReplayEnv) (s : WebhookSt) (item : WebhookDLQ) : WebhookSt × ReplayItemResult :=
  let result := { ReplayItemResult.of item with
    subject := WebhookSt.deliverySubject item.workspaceID item.subscriptionID }
  match env.publishErr item.id with
  | some e => (s, { result with error := "failed to publish to JetStream: " ++ e })
  | none =>
    (reenqueue s env.now item (env.deleteOk item.id),
      { result with success := true, deletedFromDLQ := env.deleteOk item.id })

/-- mirrors webhook_dlq_replay.go:222-278 and webhook_dispatch_helper.go:39-105 -/
def replayImmediate (env : ReplayEnv) (ws : Option WebhookWorkspace) (targetURL : String) (s : WebhookSt)
    (item : WebhookDLQ) : WebhookSt × ReplayItemResult :=
  let destURL := if targetURL = "" then item.webhookURL else targetURL
  let result := { ReplayItemResult.of item with targetURL := destURL }
  if destURL = "" then (s, { result with error := "no destination webhook URL configured for item" })
  else if !httpScheme env destURL then
    (s, { result with error := "invalid destination URL \"" ++ destURL ++ "\": scheme must be http or https" })
  else
    match env.newRequest destURL with
    | some e => (s, { result with error := "failed to create HTTP request: " ++ e })
    | none =>
      let post : Post := ⟨destURL, replaySecret env ws item, item.traceID, item.payload⟩
      let s := { s with log := .postedRow item (env.wsOptIn item.workspaceID) post :: s.log }
      match env.client post with
      | .error e => (s, { result with error := "dispatch error: " ++ e })
      | .ok (statusCode, status) =>
        if 200 ≤ statusCode ∧ statusCode < 300 then (s, { result with statusCode := statusCode, success := true })
        else (s, { result with statusCode := statusCode, error := "HTTP " ++ status })

/-- The rows of one subscription, page by page, up to `limit`.
mirrors webhook_dlq_replay.go:129-153 -/
def collectItems (list : Nat → List WebhookDLQ) (subID : UUID) (limit batchSize : Nat) :
    Nat → Nat → List WebhookDLQ → List WebhookDLQ
  | 0, _, items => items
  | fuel + 1, offset, items =>
    if limit ≤ items.length then items
    else
      let batch := list offset
      let items := items ++ (batch.filter fun r => r.subscriptionID = subID).take (limit - items.length)
      if batch = [] ∨ batch.length < batchSize then items
      else collectItems list subID limit batchSize fuel (offset + batch.length) items

/-- mirrors webhook_dlq_replay.go:82-88 -/
def replayLimit (limit : Option Int) : Nat :=
  let limit := limit.getD 10
  if limit ≤ 0 then 10 else if limit > 50 then 50 else limit.toNat

/-- mirrors webhook_dlq_replay.go:113-163 -/
def replayItems (env : ReplayEnv) (s : WebhookSt) (req : ReplayRequest) (workspaceID filterSubID : UUID) :
    Except String (List WebhookDLQ) :=
  let dlqIDStr := trimSpace (req.dlqID.getD "")
  let limit := replayLimit req.limit
  if dlqIDStr ≠ "" then
    match env.parseUUID dlqIDStr with
    | .error e => .error ("invalid dlq_id UUID: " ++ e)
    | .ok dlqID =>
      match env.readErr, getDLQByID s dlqID with
      | some e, _ => .error ("DLQ item not found: " ++ e)
      | none, none => .error "DLQ item not found: webhook DLQ item not found"
      | none, some item =>
        if item.workspaceID ≠ workspaceID then .error "DLQ item does not belong to the specified workspace"
        else if filterSubID ≠ UUID.Nil ∧ item.subscriptionID ≠ filterSubID then .ok []
        else .ok [item]
  else
    match env.readErr with
    | some e => .error ("failed to list DLQ items: " ++ e)
    | none =>
      match listDLQ s workspaceID limit 0 with
      | none => .error "failed to list DLQ items: invalid workspace id"
      | some items =>
        if filterSubID ≠ UUID.Nil then
          let batchSize := max 50 limit
          let list := fun offset => (listDLQ s workspaceID batchSize offset).getD []
          .ok (collectItems list filterSubID limit batchSize (s.dlq.length + 1) 0 [])
        else .ok items

/-- mirrors webhook_dlq_replay.go:98-111 -/
def replayFilter (env : ReplayEnv) (req : ReplayRequest) (workspaceID : UUID) : Except String UUID :=
  let subIDStr := trimSpace (req.subscriptionID.getD "")
  if subIDStr = "" then .ok UUID.Nil
  else
    match env.parseUUID subIDStr with
    | .error e => .error ("invalid subscription_id UUID: " ++ e)
    | .ok subID =>
      if env.hasSubRepo then
        match env.getSub subID with
        | .ok (some sub) =>
          if sub.workspaceID ≠ workspaceID then .error "webhook subscription not found for workspace" else .ok subID
        | _ => .error "webhook subscription not found for workspace"
      else .ok subID

/-- mirrors webhook_dlq_replay.go:67-80 -/
def replayAction (env : ReplayEnv) (req : ReplayRequest) : Except String ReplayAction :=
  let action := toLower (trimSpace (req.action.getD "re-enqueue"))
  if action = "" ∨ action = "re-enqueue" then
    if env.hasPublisher then .ok .reEnqueue
    else .error "JetStream publisher is not configured on this MCP server for re-enqueueing"
  else if action = "dispatch_immediate" then .ok .dispatchImmediate
  else .error "invalid action: must be 're-enqueue' or 'dispatch_immediate'"

/-- mirrors webhook_dlq_replay.go:46-65 -/
def replayWorkspace (env : ReplayEnv) (req : ReplayRequest) : Except String (UUID × Option WebhookWorkspace) :=
  match req.workspaceID with
  | none => .error "missing or invalid workspace_id argument"
  | some wsIDStr =>
    if trimSpace wsIDStr = "" then .error "missing or invalid workspace_id argument"
    else
      match env.parseUUID wsIDStr with
      | .error e => .error ("invalid workspace_id UUID: " ++ e)
      | .ok workspaceID =>
        match env.wsStore with
        | none => .ok (workspaceID, none)
        | some getByID =>
          match getByID workspaceID with
          | none => .error "workspace not found"
          | some ws => .ok (workspaceID, some ws)

/-- What the checks let through. -/
structure ReplayPlan where
  ws : Option WebhookWorkspace
  action : ReplayAction
  targetURL : String
  items : List WebhookDLQ

/-- mirrors webhook_dlq_replay.go:46-163 -/
def replayPlan (env : ReplayEnv) (s : WebhookSt) (req : ReplayRequest) : Except String ReplayPlan := do
  if !env.hasDLQRepo then throw "webhook DLQ repository is not configured on this MCP server"
  let (workspaceID, ws) ← replayWorkspace env req
  let action ← replayAction env req
  let targetURL := trimSpace (req.targetURL.getD "")
  if targetURL ≠ "" && !httpScheme env targetURL then
    throw ("invalid target_url \"" ++ targetURL ++ "\": scheme must be http or https")
  let filterSubID ← replayFilter env req workspaceID
  let items ← replayItems env s req workspaceID filterSubID
  return ⟨ws, action, targetURL, items⟩

/-! Only rows of the table are replayed. -/

theorem collectItems_mem {list : Nat → List WebhookDLQ} {rows : List WebhookDLQ}
    (hl : ∀ offset, ∀ r ∈ list offset, r ∈ rows) {subID : UUID} {limit batchSize : Nat} (fuel offset : Nat)
    {items : List WebhookDLQ} (hi : ∀ r ∈ items, r ∈ rows) :
    ∀ r ∈ collectItems list subID limit batchSize fuel offset items, r ∈ rows := by
  induction fuel generalizing offset items with
  | zero => exact hi
  | succ fuel ih =>
    unfold collectItems
    split
    · exact hi
    · have hi' : ∀ r ∈ items ++ ((list offset).filter fun r => r.subscriptionID = subID).take (limit - items.length),
          r ∈ rows := by
        intro r hr
        rcases List.mem_append.mp hr with hr | hr
        · exact hi r hr
        · exact hl offset r (List.mem_filter.mp (List.mem_of_mem_take hr)).1
      dsimp only
      split
      · exact hi'
      · exact ih _ hi'

theorem replayItems_mem {env : ReplayEnv} {s : WebhookSt} {req : ReplayRequest} {ws sub : UUID}
    {items : List WebhookDLQ} (h : replayItems env s req ws sub = .ok items) : ∀ item ∈ items, item ∈ s.dlq := by
  unfold replayItems at h
  dsimp only at h
  split at h
  · split at h
    · cases h
    · split at h
      · cases h
      · cases h
      · rename_i item hget
        split at h
        · cases h
        · split at h
          · cases h
            simp
          · cases h
            intro i hi
            rw [List.mem_singleton.mp hi]
            exact getDLQByID_mem hget
  · split at h
    · cases h
    · split at h
      · cases h
      · rename_i items' hlist
        split at h
        · cases h
          refine collectItems_mem (fun offset r hr => ?_) _ _ (fun r hr => by cases hr)
          cases hl : listDLQ s ws (max 50 (replayLimit req.limit)) offset with
          | none => simp [hl] at hr
          | some batch => exact listDLQ_mem hl (by simpa [hl] using hr)
        · cases h
          exact fun r hr => listDLQ_mem hlist hr

theorem replayPlan_mem {env : ReplayEnv} {s : WebhookSt} {req : ReplayRequest} {plan : ReplayPlan}
    (h : replayPlan env s req = .ok plan) : ∀ item ∈ plan.items, item ∈ s.dlq := by
  unfold replayPlan at h
  simp only [bind, Except.bind, pure, Except.pure, throw, throwThe, MonadExceptOf.throw] at h
  split at h
  · cases h
  · split at h
    · cases h
    · split at h
      · cases h
      · split at h
        · cases h
        · split at h
          · cases h
          · split at h
            · cases h
            · rename_i items hitems
              cases h
              exact replayItems_mem hitems

def replayItem (env : ReplayEnv) (plan : ReplayPlan) (s : WebhookSt) (item : WebhookDLQ) :
    WebhookSt × ReplayItemResult :=
  match plan.action with
  | .reEnqueue => replayReEnqueue env s item
  | .dispatchImmediate => replayImmediate env plan.ws plan.targetURL s item

/-- mirrors webhook_dlq_replay.go:173-279 -/
def replayLoop (env : ReplayEnv) (plan : ReplayPlan) :
    List WebhookDLQ → WebhookSt → WebhookSt × List ReplayItemResult
  | [], s => (s, [])
  | item :: items, s =>
    let (s, result) := replayItem env plan s item
    let (s, results) := replayLoop env plan items s
    (s, result :: results)

theorem replayLoop_cons (env : ReplayEnv) (plan : ReplayPlan) (item : WebhookDLQ) (items : List WebhookDLQ)
    (s : WebhookSt) :
    (replayLoop env plan (item :: items) s).1 = (replayLoop env plan items (replayItem env plan s item).1).1 := rfl

/-- `TotalProcessed`, `SuccessCount` and `FailureCount` are the lengths of the results and of their parts.
mirrors webhook_dlq_replay.go:46-287 -/
def handleReplayWebhookDLQ (env : ReplayEnv) (s : WebhookSt) (req : ReplayRequest) :
    WebhookSt × Except String (List ReplayItemResult) :=
  match replayPlan env s req with
  | .error e => (s, .error e)
  | .ok plan =>
    let (s, results) := replayLoop env plan plan.items s
    (s, .ok results)

/-! ## The admin page -/

/-- mirrors admin/webhook_dlq.go:562-610 -/
def retryDLQ (env : ReplayEnv) (s : WebhookSt) (dlqID : String) : WebhookSt × Nat × String :=
  match env.parseUUID dlqID with
  | .error _ => (s, 400, "invalid DLQ ID")
  | .ok id =>
    match env.readErr, getDLQByID s id with
    | some _, _ | none, none => (s, 404, "DLQ log not found")
    | none, some item =>
      match env.publishErr item.id with
      | some _ => (s, 500, "failed to retry webhook delivery: please check your connection and try again.")
      | none => (reenqueue s env.now item (env.deleteOk item.id), 200, "✓ Re-enqueued for delivery")

end PerGo.L3.Webhook
