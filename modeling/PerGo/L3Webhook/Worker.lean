import PerGo.L3Webhook.Delivery

/-!
# Webhook worker

`queue/webhook_worker.go` over the stream
`WEBHOOK_DELIVERIES` and the table `webhook_dlqs`. `log` records, newest first,
what was posted, archived and replayed; no function reads it.

`J` is the column type of `webhook_dlqs.payload`.
-/
namespace PerGo.L3.Webhook

open PerGo.Core PerGo.L1 PerGo.L2

inductive WebhookEv
  /-- `Dispatch` posted for a task, in a workspace with this opt-in -/
  | posted (task : WebhookDeliveryTask) (wsOptIn : Bool) (post : Post)
  | archived (task : WebhookDeliveryTask) (row : WebhookDLQ)
  /-- a task rebuilt from a row was stored in the stream -/
  | replayed (row : WebhookDLQ) (task : WebhookDeliveryTask)
  /-- a row was posted without a task -/
  | postedRow (row : WebhookDLQ) (wsOptIn : Bool) (post : Post)

structure WebhookSt where
  breaker : CircuitBreaker
  /-- everything `WEBHOOK_DELIVERIES` has stored -/
  stream : List (DedupStream.Msg WebhookDeliveryTask)
  /-- what is not acked yet, with the number of deliveries so far -/
  pending : List (WebhookDeliveryTask × Nat)
  dlq : List WebhookDLQ
  /-- the ids `gen_random_uuid()` gave -/
  rowIDs : List UUID
  log : List WebhookEv

namespace WebhookSt

/-- mirrors webhook/dispatcher.go:97-107 (the breaker) -/
def new : WebhookSt := ⟨CircuitBreaker.new 5 (300 * second), [], [], [], [], []⟩

/-- `uuid.New()` for a task. -/
def newTaskID (s : WebhookSt) : UUID := freshKey (s.stream.map (·.payload.id))

/-- mirrors webhook_worker.go:241 and mcp/webhook_dlq_replay.go:183 -/
def deliverySubject (workspaceID subscriptionID : UUID) : String :=
  "webhooks.deliveries." ++ workspaceID.string ++ "." ++ subscriptionID.string

theorem streamOf_deliverySubject (workspaceID subscriptionID : UUID) :
    streamOf (deliverySubject workspaceID subscriptionID) = some "WEBHOOK_DELIVERIES" := by
  have hm : subjectMatches "webhooks.deliveries.>" (deliverySubject workspaceID subscriptionID) = true := by
    unfold deliverySubject
    rw [String.append_assoc, String.append_assoc]
    refine subjectMatches_below (by decide) (by decide) ?_
    have := workspaceID.string_ne_empty
    rw [String.toList_append, List.length_append]
    omega
  have hl : (deliverySubject workspaceID subscriptionID).toList.take 10 = "webhooks.d".toList := by
    unfold deliverySubject
    rw [String.append_assoc, String.append_assoc, String.toList_append]
    rfl
  generalize deliverySubject workspaceID subscriptionID = subject at hm hl
  -- no filter of an earlier stream begins like the subject
  have hno : ∀ filter : String, 10 ≤ filter.toList.length - 1 → filter.toList.take 10 ≠ "webhooks.d".toList →
      subjectMatches filter subject = false := by
    intro filter hlen hne
    refine Bool.eq_false_iff.mpr fun h => hne ?_
    rw [← subjectMatches_take h hlen, hl]
  have h1 := hno "messages.outbound" (by decide) (by decide)
  have h2 := hno "messages.outbound.>" (by decide) (by decide)
  have h3 := hno "webhooks.events" (by decide) (by decide)
  simp only [streamOf, streams, List.find?_cons, List.any_cons, List.any_nil, h1, h2, h3, hm, Bool.or_false,
    Option.map_some]

def taskMsg (now : Time) (task : WebhookDeliveryTask) : DedupStream.Msg WebhookDeliveryTask :=
  publishMsg (deliverySubject task.workspaceID task.subscriptionID) task task.id.string now

theorem taskMsg_payload (now : Time) (task : WebhookDeliveryTask) : (taskMsg now task).payload = task := rfl

theorem taskMsg_topic (now : Time) (task : WebhookDeliveryTask) :
    (taskMsg now task).topic = some "WEBHOOK_DELIVERIES" := by
  simp only [taskMsg, publishMsg, streamOf_deliverySubject]

/-- The server finds the message among those it keeps for deduplication and drops it. -/
def Dropped (s : WebhookSt) (now : Time) (task : WebhookDeliveryTask) : Prop :=
  ∃ m ∈ s.stream, DedupStream.Hides duplicateWindow m (taskMsg now task)

instance (s : WebhookSt) (now : Time) (task : WebhookDeliveryTask) : Decidable (s.Dropped now task) :=
  inferInstanceAs (Decidable (∃ m ∈ s.stream, _))

/-- A `Publish` of a task that returns nil. -/
def publishTask (s : WebhookSt) (now : Time) (task : WebhookDeliveryTask) : WebhookSt :=
  if s.Dropped now task then s
  else { s with stream := s.stream ++ [taskMsg now task], pending := s.pending ++ [(task, 0)] }

theorem not_dropped {s : WebhookSt} {now : Time} {task : WebhookDeliveryTask} (h : task.id = s.newTaskID)
    (hs : ∀ m ∈ s.stream, ∃ t, m = taskMsg t m.payload) : ¬ s.Dropped now task := by
  intro ⟨m, hm, hhides⟩
  obtain ⟨t, ht⟩ := hs m hm
  obtain ⟨_, hne, hid, _⟩ := hhides
  rw [ht] at hid
  -- both ids are texts of UUIDs, and a fresh UUID is not among those of the stream
  have hstr : m.payload.id.string = task.id.string := by
    simp only [taskMsg, publishMsg] at hid hne
    split at hid
    · split at hid
      · exact Option.some.inj hid
      · cases hid
    · split at hne
      · split at hid
        · cases hid
        · contradiction
      · exact absurd rfl hne
  have hmem : task.id ∈ s.stream.map (·.payload.id) := by
    rw [← UUID.string_inj hstr]
    exact List.mem_map_of_mem hm
  rw [h] at hmem
  exact freshKey_not_mem _ hmem

end WebhookSt

/-! ## Fan-out -/

inductive WorkerAck
  | ack
  | nakWithDelay (delay : Time)
deriving DecidableEq

structure EventEnv where
  now : Time
  parseUUID : String → Except String UUID
  listByWorkspace : UUID → Except String (List WebhookSubscription)
  /-- the error of `Publish` for a subscription -/
  publishErr : UUID → Option String

/-- The fields of `WebhookEvent` a task carries.
mirrors webhook_worker.go:20-29 -/
structure WebhookEvent where
  event : String
  traceID : String
  messageID : String
  workspaceID : String

/-- `MessageID` falls back to `MessageUID`.
mirrors webhook_worker.go:177-186 -/
def WebhookEvent.unmarshal (d : Document) : Option WebhookEvent := do
  let event ← d.string "event"
  let traceID ← d.string "trace_id"
  let messageID ← d.string "message_id"
  let messageUID ← d.string "message_uid"
  let _ ← d.string "channel"
  let _ ← d.string "timestamp"
  let workspaceID ← d.string "workspace_id"
  let _ ← d.string "error"
  return ⟨event, traceID, if messageID = "" ∧ messageUID ≠ "" then messageUID else messageID, workspaceID⟩

def WebhookEvent.task (evt : WebhookEvent) (id wsID : UUID) (sub : WebhookSubscription) (mode : DeliveryMode)
    (payload : Document) : WebhookDeliveryTask :=
  ⟨id, sub.id, wsID, evt.event, evt.traceID, evt.messageID, payload, mode⟩

/-- mirrors webhook_worker.go:218-251 -/
def fanOut (env : EventEnv) (evt : WebhookEvent) (wsID : UUID) (mode : DeliveryMode) (payload : Document) :
    List WebhookSubscription → WebhookSt → WebhookSt × WorkerAck
  | [], s => (s, .ack)
  | sub :: subs, s =>
    if sub.active && matchesAny sub.eventTypes evt.event then
      match env.publishErr sub.id with
      | some _ => (s, .nakWithDelay (5 * second))
      | none =>
        fanOut env evt wsID mode payload subs
          (s.publishTask env.now (evt.task s.newTaskID wsID sub mode payload))
    else fanOut env evt wsID mode payload subs s

/-- mirrors webhook_worker.go:177-253 -/
def processEvent (env : EventEnv) (s : WebhookSt) (mode : DeliveryMode) (payload : Document) :
    WebhookSt × WorkerAck :=
  match WebhookEvent.unmarshal payload with
  | none => (s, .ack)
  | some evt =>
    if safetyCheck payload then (s, .ack)
    else
      match env.parseUUID evt.workspaceID with
      | .error _ => (s, .ack)
      | .ok wsID =>
        match env.listByWorkspace wsID with
        | .error _ => (s, .nakWithDelay (5 * second))
        | .ok subs => fanOut env evt wsID mode payload subs s

/-! ## Delivery -/

section Deliver

variable (sha256Hex : String → String) (J : Jsonb)

structure DeliverEnv extends DispatchEnv where
  /-- `msg.Metadata()` gives the number of deliveries -/
  metadata : Bool
  /-- the archive step's own read -/
  getSubDLQ : UUID → Except String (Option WebhookSubscription)
  insertDLQ : Bool

/-- mirrors repository/webhook_dlq.go:60-70 with the arguments of
webhook_worker.go:299-309 -/
def archiveRow (s : WebhookSt) (task : WebhookDeliveryTask) (url : String) (attempts : Nat)
    (failReason : String) : WebhookDLQ where
  id := freshKey s.rowIDs
  workspaceID := task.workspaceID
  subscriptionID := task.subscriptionID
  traceID := task.traceID
  messageID := task.messageID
  eventType := task.event
  payload := J.norm task.payload
  webhookURL := url
  failureReason := failReason
  attempts := attempts

/-- `none` is an error.
mirrors dispatcher.go:300-327 -/
def writeToDLQ (env : DeliverEnv) (s : WebhookSt) (task : WebhookDeliveryTask) (attempts : Nat)
    (failReason : String) : Option WebhookSt :=
  match env.getSubDLQ task.subscriptionID with
  | .ok (some sub) =>
    if task.workspaceID = UUID.Nil ∨ env.insertDLQ = false then none
    else
      let row := archiveRow J s task sub.url attempts failReason
      some { s with dlq := s.dlq ++ [row], rowIDs := row.id :: s.rowIDs, log := .archived task row :: s.log }
  | _ => none

/-- mirrors webhook_worker.go:283-291 -/
def terminalErr : DispatchError → Bool
  | .http code _ => code = 400 || code = 401 || code = 403 || code = 404
  | .subscriptionNotFound | .subscriptionInactive => true
  | _ => false

/-- mirrors webhook_worker.go:320-327 -/
def retryDelay (numDelivered : Nat) : Time := min (2 ^ (numDelivered - 1) * second) (600 * second)

/-- mirrors webhook_worker.go:276-328 -/
def handleDeliveryRetry (env : DeliverEnv) (s : WebhookSt) (numDelivered : Nat) (err : DispatchError)
    (task : WebhookDeliveryTask) : WebhookSt × WorkerAck :=
  if terminalErr err ∨ 10 ≤ numDelivered then
    match writeToDLQ J env s task numDelivered err.text with
    | none => (s, .nakWithDelay (5 * second))
    | some s => (s, .ack)
  else (s, .nakWithDelay (retryDelay numDelivered))

/-- The state with what `Dispatch` did. -/
def WebhookSt.afterDispatch (s : WebhookSt) (env : DispatchEnv) (task : WebhookDeliveryTask) (r : DispatchResult) :
    WebhookSt :=
  { s with
    breaker := r.breaker
    log := (r.post.map (.posted task (env.wsOptIn task.workspaceID))).toList ++ s.log }

/-- `numDelivered` is this delivery's number.
mirrors webhook_worker.go:255-272 -/
def processDelivery (env : DeliverEnv) (s : WebhookSt) (numDelivered : Nat) (task : WebhookDeliveryTask) :
    WebhookSt × WorkerAck :=
  let r := dispatch sha256Hex s.breaker env.toDispatchEnv task
  let s := s.afterDispatch env.toDispatchEnv task r
  match r.err with
  | none => (s, .ack)
  | some err => handleDeliveryRetry J env s (if env.metadata then numDelivered else 1) err task

end Deliver

end PerGo.L3.Webhook
