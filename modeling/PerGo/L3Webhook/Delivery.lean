import PerGo.Core.Table
import PerGo.L2Domain.UUID
import PerGo.L3Queue.JetStream
import PerGo.L3Webhook.Breaker

/-!
# Webhook deliveries

`webhook/dispatcher.go` and the delivery half of
`queue/webhook_worker.go`: an event is fanned out into one
delivery task per subscription, a task is dispatched (safety filter, PII
redaction, POST) and, when it cannot be delivered, archived in `webhook_dlqs`.

A task travels through the queue as JSON and comes back as it was. `uuid.New()`
and `gen_random_uuid()` give an id that was never given before. The response's
messaging verbs are not modelled; they post no webhook.
-/
namespace PerGo.L3.Webhook

open PerGo.Core PerGo.L1 PerGo.L2

/-! ## Records -/

/-- The values `WebhookDeliveryTask.Mode` takes: the workers' names. -/
inductive DeliveryMode
  | outbound
  | inbound
  | reaction
deriving DecidableEq

/-- mirrors dispatcher.go:67-76 -/
structure WebhookDeliveryTask where
  id : UUID
  subscriptionID : UUID
  workspaceID : UUID
  event : String
  traceID : String
  messageID : String
  payload : Document
  mode : DeliveryMode
deriving DecidableEq

structure WebhookSubscription where
  id : UUID
  workspaceID : UUID
  url : String
  secret : String
  eventTypes : List String
  active : Bool
deriving DecidableEq

/-- The columns of `workspaces` a delivery reads. -/
structure WebhookWorkspace where
  piiOptIn : Bool
  webhookSecret : Option String

/-- mirrors repository/webhook_dlq.go:31-45 -/
structure WebhookDLQ where
  id : UUID
  workspaceID : UUID
  subscriptionID : UUID
  traceID : String
  messageID : String
  eventType : String
  payload : Document
  webhookURL : String
  failureReason : String
  attempts : Nat
deriving DecidableEq

/-- What goes over the wire; an empty secret leaves the request unsigned. -/
structure Post where
  url : String
  secret : String
  traceID : String
  body : Document

/-! ## Patterns -/

/-- mirrors webhook/wildcard.go:8-17 -/
def matchEvent (pattern eventName : String) : Bool :=
  if pattern = "*" then true else (pathMatch pattern eventName).getD (pattern = eventName)

/-- mirrors wildcard.go:20-27 -/
def matchesAny (patterns : List String) (eventName : String) : Bool := patterns.any (matchEvent · eventName)

/-! ## The body -/

/-- Internal notes and private drafts. A payload that does not read as the two fields is none.
mirrors dispatcher.go:164-172 and webhook_worker.go:188-197 -/
def safetyCheck (payload : Document) : Bool :=
  match payload.bool "is_private", payload.string "direction" with
  | some isPrivate, some direction => isPrivate || direction = "internal_note"
  | _, _ => false

/-- mirrors dispatcher.go:185-203 -/
structure InboundPayload where
  event : String
  traceID : String
  messageID : String
  channel : String
  timestamp : String
  workspaceID : String
  «from» : String
  «to» : String
  body : String
  media : Option Json
  location : Option Json
  contacts : Option Json
  interactive : Option Json
  story : Option Json
  timing : Option Json
  senderName : String
  metadata : StrMap

def InboundPayload.unmarshal (d : Document) : Option InboundPayload := do
  return {
    event := ← d.string "event"
    traceID := ← d.string "trace_id"
    messageID := ← d.string "message_id"
    channel := ← d.string "channel"
    timestamp := ← d.string "timestamp"
    workspaceID := ← d.string "workspace_id"
    «from» := ← d.string "from"
    «to» := ← d.string "to"
    body := ← d.string "body"
    media := d.any "media"
    location := d.any "location"
    contacts := d.any "contacts"
    interactive := d.any "interactive"
    story := d.any "story_event"
    timing := d.any "timing"
    senderName := ← d.string "sender_name"
    metadata := ← d.stringMap "metadata" }

theorem InboundPayload.marshal_names : (["event", "trace_id", "message_id", "channel", "timestamp", "workspace_id", "from",
    "to", "body", "media", "location", "contacts", "interactive", "story_event", "timing", "sender_name",
    "metadata"].map foldName).Nodup := by
  simp only [List.map_cons, List.map_nil]
  decide +kernel

/-- The fields in the order `json.Marshal` writes them. An `any` value is written back as it was read. -/
def InboundPayload.marshal (p : InboundPayload) : Document :=
  Document.ofEntries
    [("event", some (.str p.event)),
     ("trace_id", some (.str p.traceID)),
     ("message_id", some (.str p.messageID)),
     ("channel", some (.str p.channel)),
     ("timestamp", some (.str p.timestamp)),
     ("workspace_id", some (.str p.workspaceID)),
     ("from", some (.str p.from)),
     ("to", omitEmpty p.to),
     ("body", omitEmpty p.body),
     ("media", p.media),
     ("location", p.location),
     ("contacts", p.contacts),
     ("interactive", p.interactive),
     ("story_event", p.story),
     ("timing", p.timing),
     ("sender_name", omitEmpty p.senderName),
     ("metadata", omitEmptyMap p.metadata)]
    InboundPayload.marshal_names

def metaParticipant : String := "participant"

section Dispatch

-- hexadecimal SHA-256
variable (sha256Hex : String → String)

/-- mirrors dispatcher.go:206-221 -/
def InboundPayload.redact (p : InboundPayload) : InboundPayload :=
  { p with
    «from» := sha256Hex p.from
    location := none
    contacts := none
    metadata :=
      if StrMap.get p.metadata metaParticipant ≠ "" then
        p.metadata.map fun kv => if kv.1 = metaParticipant then (kv.1, sha256Hex kv.2) else kv
      else p.metadata }

/-- A payload that does not read as an inbound event stays as it is.
mirrors dispatcher.go:204-224 -/
def redactPayload (payload : Document) : Document :=
  match InboundPayload.unmarshal payload with
  | some p => (p.redact sha256Hex).marshal
  | none => payload

/-- The body `Dispatch` posts for a task once it gets there; `none`: it posts nothing.
mirrors dispatcher.go:161-226 -/
def webhookBody (wsOptIn : Bool) (task : WebhookDeliveryTask) : Option Document :=
  if safetyCheck task.payload then none
  else if task.mode = .inbound ∧ wsOptIn = false then some (redactPayload sha256Hex task.payload)
  else some task.payload

/-! ## Dispatch -/

/-- What `Dispatch` learns from outside. -/
structure DispatchEnv where
  now : Time
  /-- `subStore.Get`: `none` inside is not found, the error any other failure -/
  getSub : UUID → Except String (Option WebhookSubscription)
  /-- `wsStore`, when there is one; `none` inside is no row or a failed read -/
  wsStore : Option (UUID → Option WebhookWorkspace)
  /-- the error of `http.NewRequest` -/
  newRequest : String → Option String
  /-- `client.Do`: status code and status text -/
  client : Post → Except String (Nat × String)

def DispatchEnv.workspace (env : DispatchEnv) (id : UUID) : Option WebhookWorkspace :=
  env.wsStore.bind fun getByID => getByID id

/-- mirrors dispatcher.go:177-182 -/
def DispatchEnv.wsOptIn (env : DispatchEnv) (id : UUID) : Bool :=
  match env.workspace id with
  | some ws => ws.piiOptIn
  | none => false

/-- mirrors dispatcher.go:229-234 -/
def DispatchEnv.secretOf (env : DispatchEnv) (sub : WebhookSubscription) (id : UUID) : String :=
  if sub.secret = "" then ((env.workspace id).bind (·.webhookSecret)).getD "" else sub.secret

inductive DispatchError
  | subscriptionNotFound
  | subscriptionInactive
  | circuitOpen
  | http (statusCode : Nat) (status : String)
  | other (text : String)

def DispatchError.text : DispatchError → String
  | .subscriptionNotFound => "webhook subscription not found"
  | .subscriptionInactive => "webhook subscription is inactive"
  | .circuitOpen => "circuit breaker is open"
  | .http _ status => "http status " ++ status
  | .other text => text

/-- The breaker, the request that was sent, and the error. -/
structure DispatchResult where
  breaker : CircuitBreaker
  post : Option Post
  err : Option DispatchError

/-- mirrors dispatcher.go:229-268 -/
def postBody (cb : CircuitBreaker) (env : DispatchEnv) (sub : WebhookSubscription) (task : WebhookDeliveryTask)
    (body : Document) : DispatchResult :=
  match env.newRequest sub.url with
  | some e => ⟨cb, none, some (.other ("create request: " ++ e))⟩
  | none =>
    let post : Post := ⟨sub.url, env.secretOf sub task.workspaceID, task.traceID, body⟩
    match env.client post with
    | .error e => ⟨cb.recordFailure env.now sub.url, some post, some (.other ("http dispatch error: " ++ e))⟩
    | .ok (statusCode, status) =>
      if statusCode < 200 ∨ 300 ≤ statusCode then
        ⟨cb.recordFailure env.now sub.url, some post, some (.http statusCode status)⟩
      else ⟨cb.recordSuccess sub.url, some post, none⟩

/-- `Dispatch` with the body as a parameter. mirrors dispatcher.go:142-297 -/
def dispatchWith (bodyOf : Bool → WebhookDeliveryTask → Option Document) (cb : CircuitBreaker) (env : DispatchEnv)
    (task : WebhookDeliveryTask) : DispatchResult :=
  match env.getSub task.subscriptionID with
  | .error e => ⟨cb, none, some (.other e)⟩
  | .ok none => ⟨cb, none, some .subscriptionNotFound⟩
  | .ok (some sub) =>
    if !sub.active then ⟨cb, none, some .subscriptionInactive⟩
    else
      let (cb, allowed) := cb.allow env.now sub.url
      if !allowed then ⟨cb, none, some .circuitOpen⟩
      else
        match bodyOf (env.wsOptIn task.workspaceID) task with
        | none => ⟨cb, none, none⟩
        | some body => postBody cb env sub task body

def dispatch (cb : CircuitBreaker) (env : DispatchEnv) (task : WebhookDeliveryTask) : DispatchResult :=
  dispatchWith (webhookBody sha256Hex) cb env task

theorem dispatchWith_post {bodyOf : Bool → WebhookDeliveryTask → Option Document} {cb : CircuitBreaker}
    {env : DispatchEnv} {task : WebhookDeliveryTask} {post : Post}
    (h : (dispatchWith bodyOf cb env task).post = some post) :
    bodyOf (env.wsOptIn task.workspaceID) task = some post.body := by
  unfold dispatchWith at h
  split at h
  · cases h
  · cases h
  · split at h
    · cases h
    · dsimp only at h
      split at h
      · cases h
      · split at h
        · cases h
        · rename_i body hbody
          rw [hbody]
          unfold postBody at h
          split at h
          · cases h
          · dsimp only at h
            split at h
            · cases h
              rfl
            · split at h <;> cases h <;> rfl

theorem dispatch_post {cb : CircuitBreaker} {env : DispatchEnv} {task : WebhookDeliveryTask} {post : Post}
    (h : (dispatch sha256Hex cb env task).post = some post) :
    webhookBody sha256Hex (env.wsOptIn task.workspaceID) task = some post.body :=
  dispatchWith_post h

end Dispatch

end PerGo.L3.Webhook
