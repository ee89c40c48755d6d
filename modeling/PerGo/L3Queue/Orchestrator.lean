import PerGo.L2Domain.Campaign
import PerGo.L3Queue.DispatchTable

/-!
# DispatchOrchestrator

`queue/orchestrator.go`. One call of `Process` takes a queue
message through private-note filter, database idempotency check, in-memory
dedup, TTL, the fallback loop over the channels and the ack/nak at the end.

* `Orchestrator` holds the injected dependencies. A dependency that may be nil
  is a `Bool` (or `Option`); what a dependency answers during one call is in
  `Env`, so every dispatcher outcome, database error and clock reading is
  covered by quantifying over `Env`.
* `World` is what a call reads and writes: the in-memory `dispatched` set, the
  dispatch table, and `out`, the calls made on the outside so far (events
  published, audit rows, dispatcher invocations, acks and naks), in order.
* `process` returns the new world and the error `Process` returns.

A database call that fails leaves the table as it was.
-/
namespace PerGo.L3

open PerGo.Core PerGo.L1 PerGo.L2

/-- What a dispatcher returns: response text and error. -/
structure DispatchResult where
  resp : String
  err : Option GoError
deriving DecidableEq

/-- The event body. mirrors orchestrator.go:490-506 -/
structure WebhookEvent where
  event : String
  traceID : String
  messageID : UUID
  channel : String
  timestamp : Time
  workspaceID : UUID
  error : String
deriving DecidableEq

/-- The payloads of the audit rows `Process` writes; the first two have action
`outbound_fallback_transition`, the last `outbound_message`. -/
inductive AuditPayload
  | skippedNoIdentity (channel recipient : String) (fallbackIndex : Nat)
  | fallbackTransition (fromChannel toChannel targetIdentity : String) (fallbackIndex : Nat)
  | outboundMessage (request : QueueMessage) (response status : String) (error : Option String)
      (channel : String)
deriving DecidableEq

/-- What a call does to the outside. `exhausted` is the log line with which
`handleFailure` gives a message up. -/
inductive Effect
  | publish (subject : String) (payload : WebhookEvent) (msgID : String)
  | audit (workspaceID : UUID) (traceID : String) (payload : AuditPayload)
  | invoke (index : Nat) (payload : MessagePayload) (res : DispatchResult)
  | exhausted (attempt : Int)
  | ack
  | nak (delay : Int)
  | decrement (workspaceID : UUID)
deriving DecidableEq

/-- The injected dependencies; `dispatchers = none` is the nil registry, else
the registered channel names. mirrors orchestrator.go:35-48 -/
structure Orchestrator where
  dispatchers : Option (List String)
  dispatchRepo : Bool
  publisher : Bool
  queueDepth : Bool
  auditWriter : Bool
  contactRepo : Bool
  maxRetries : Int
  maxBackoff : Int

def orchDefaultMaxRetries : Int := 5
def orchDefaultMaxBackoff : Int := 60 * second
def orchDefaultBaseBackoff : Int := second

/-- mirrors orchestrator.go:51-78 -/
def newDispatchOrchestrator (dispatchers : Option (List String))
    (dispatchRepo publisher queueDepth auditWriter contactRepo : Bool) (maxRetries maxBackoff : Int) :
    Orchestrator :=
  { dispatchers, dispatchRepo, publisher, queueDepth, auditWriter, contactRepo,
    maxRetries := if maxRetries ≤ 0 then orchDefaultMaxRetries else maxRetries,
    maxBackoff := if maxBackoff ≤ 0 then orchDefaultMaxBackoff else maxBackoff }

/-- The orchestrator of the server. mirrors cmd/pergo/main.go:346-352, 1222-1231 -/
def serverOrchestrator : Orchestrator :=
  newDispatchOrchestrator
    (some ["whatsapp_cloud", "telegram", "whatsapp", "instagram", "email", "email_smtp"])
    true true true true true 5 (60 * second)

/-- What the dependencies answer during one call. -/
structure Env where
  now : Time
  /-- `GetOrCreateDispatch` fails in the database -/
  getOrCreateErr : Option GoError
  /-- `FindIdentityForChannel` for the message's recipient, by channel -/
  findIdentity : String → Except GoError (Option String)
  /-- `ResolveTelegramChatID` of an address, `none` when it fails or is empty -/
  resolveTelegramChatID : String → Option String
  /-- `UpdateDispatchStatus(…, "sending", …)` at a channel index fails -/
  sendingErr : Nat → Option GoError
  /-- the update of the row to `sent` fails -/
  sentErr : Bool
  /-- the update of the row to `failed_transient` or `failed` fails -/
  statusErr : Bool
  /-- `UpdateProviderMessageID` fails in the database -/
  providerErr : Bool
  /-- the dispatcher's answer at a channel index -/
  dispatch : Nat → MessagePayload → DispatchResult
  /-- `NakWithDelay` fails -/
  nakErr : Bool

structure World where
  dispatched : List String
  table : Dispatches
  out : List Effect

namespace World

def emit (w : World) (e : Effect) : World := { w with out := w.out ++ [e] }

@[simp] theorem emit_dispatched (w : World) (e : Effect) : (w.emit e).dispatched = w.dispatched := rfl
@[simp] theorem emit_table (w : World) (e : Effect) : (w.emit e).table = w.table := rfl
@[simp] theorem emit_out (w : World) (e : Effect) : (w.emit e).out = w.out ++ [e] := rfl

end World

section Process

variable (o : Orchestrator) (env : Env)

/-- mirrors orchestrator.go:427-433 -/
def ack (w : World) (ws : UUID) : World :=
  let w := w.emit .ack
  if o.queueDepth && ws ≠ UUID.Nil then w.emit (.decrement ws) else w

/-- `2^attempt` seconds in `int64` nanoseconds, at most `maxBackoff`. -/
def backoff (attempt : Int) : Int :=
  let delay := if attempt < 0 then 0 else Int.bmod (2 ^ attempt.toNat * orchDefaultBaseBackoff) (2 ^ 64)
  if delay > o.maxBackoff then o.maxBackoff else delay

/-- mirrors orchestrator.go:436-454 -/
def handleFailure (w : World) (ws : UUID) (attempt : Int) : World :=
  if attempt ≥ o.maxRetries then ack o (w.emit (.exhausted attempt)) ws
  else
    let w := w.emit (.nak (backoff o attempt))
    if env.nakErr then ack o w ws else w

/-- mirrors orchestrator.go:457-466 -/
def isExpired (qMsg : QueueMessage) : Bool :=
  match qMsg.ttlSeconds with
  | none => false
  | some ttl =>
    if ttl ≤ 0 then false
    else if qMsg.queuedAt = 0 then false
    else env.now > qMsg.queuedAt + Int.bmod (ttl * second) (2 ^ 64)

/-- mirrors orchestrator.go:485-520 -/
def publishWebhookEvent (w : World) (ws : UUID) (trace : String) (dispatchID : UUID)
    (event chan : String) (errMsg : Option String) : World :=
  if o.publisher then
    w.emit (.publish "webhooks.events"
      { event := event, traceID := trace, messageID := dispatchID, channel := chan,
        timestamp := env.now, workspaceID := ws, error := errMsg.getD "" } trace)
  else w

/-- mirrors orchestrator.go:325-366. The two telegram
branches at the end of that case both return the trimmed address, which is not
empty there. -/
def resolveRecipientForChannel (ws : UUID) (originalTo targetChannel : String) : Option String :=
  let found := if o.contactRepo && ws ≠ UUID.Nil then
      match env.findIdentity targetChannel with
      | .ok (some r) => if r ≠ "" then some r else none
      | _ => none
    else none
  match found with
  | some r => some r
  | none =>
    let clean := trimSpace originalTo
    if clean = "" then none
    else if targetChannel = "whatsapp" ∨ targetChannel = "whatsapp_cloud" then
      if (sanitizePhone clean).2 then some (sanitizePhone clean).1
      else if !o.contactRepo && !containsChar clean '@' then some clean
      else none
    else if targetChannel = "telegram" then
      if o.contactRepo && ws ≠ UUID.Nil then none else some clean
    else if targetChannel = "email" ∨ targetChannel = "email_ses" ∨ targetChannel = "email_smtp" ∨
        targetChannel = "email_mautic" then
      if containsChar clean '@' then some clean else none
    else some clean

def registered (chan : String) : Bool :=
  match o.dispatchers with
  | none => false
  | some names => names.contains chan

def toPayload (q : QueueMessage) (chan : String) : MessagePayload :=
  { messageID := q.traceID, connectionID := q.connectionID, senderIdentity := q.senderIdentity,
    traceID := q.traceID, to_ := q.to_, channel := chan, body := q.body, media := q.media,
    metadata := q.metadata, templateName := q.templateName, language := q.language,
    components := q.components, interactive := q.interactive, channelOverrides := q.channelOverrides,
    fallbackBehavior := q.fallbackBehavior, type := q.type, product := q.product }

/-- The message with a telegram address looked up; it is written back, so the
audit row has it too. mirrors orchestrator.go:397-404 -/
def dispatchTarget (chan : String) (q : QueueMessage) : QueueMessage :=
  if chan = "telegram" && o.contactRepo then
    match env.resolveTelegramChatID q.to_ with
    | some id => { q with to_ := id }
    | none => q
  else q

/-- Returns the message as the call leaves it, the result, and the world. A
channel without a dispatcher answers `("", nil)`.
mirrors orchestrator.go:386-425 -/
def dispatchToChannel (w : World) (i : Nat) (chan : String) (q : QueueMessage) :
    QueueMessage × DispatchResult × World :=
  if registered o chan then
    let q := dispatchTarget o env chan q
    let res := env.dispatch i (toPayload q chan)
    (q, res, w.emit (.invoke i (toPayload q chan) res))
  else (q, ⟨"", none⟩, w)

/-! ## The fallback loop -/

/-- The variables the loop carries. mirrors orchestrator.go:163-167 -/
structure LoopVars where
  finalErr : Option GoError
  lastAttemptedChannel : String
  lastAttemptedIndex : Nat
  lastChannel : String
  currentIndex : Nat

/-- How the loop ends: `Process` returns from inside it, or every channel is used up. -/
inductive LoopExit
  | returned (err : Option GoError)
  | finished (v : LoopVars)

def audit (w : World) (ws : UUID) (trace : String) (p : AuditPayload) : World :=
  if o.auditWriter then w.emit (.audit ws trace p) else w

/-- `UpdateDispatchStatus` with its error dropped, then the status event; only
when there is a dispatch row. -/
def setStatus (w : World) (q : QueueMessage) (dispatch : Option MessageDispatch)
    (status chan : String) (idx : Nat) (err : Option String) : World :=
  match dispatch with
  | none => w
  | some d =>
    let w := if env.statusErr then w
      else { w with table := w.table.updateDispatchStatus d.id status chan idx err }
    publishWebhookEvent o env w q.workspaceID q.traceID d.id status chan err

/-- The table after the two row writes of a successful dispatch: status `sent`
and, for `whatsapp_cloud`, the provider id.
mirrors orchestrator.go:233-239 -/
def sentTable (table : Dispatches) (id : UUID) (chan : String) (i : Nat) (resp : String) : Dispatches :=
  let table := if env.sentErr then table else table.updateDispatchStatus id "sent" chan i none
  if chan = "whatsapp_cloud" ∧ resp ≠ "" ∧ env.providerErr = false then
    (table.updateProviderMessageID id resp).getD table
  else table

/-- mirrors orchestrator.go:232-241 -/
def markSent (w : World) (q : QueueMessage) (dispatch : Option MessageDispatch) (chan : String)
    (i : Nat) (resp : String) : World :=
  match dispatch with
  | none => w
  | some d =>
    let w := { w with table := sentTable env w.table d.id chan i resp }
    publishWebhookEvent o env w q.workspaceID q.traceID d.id "sent" chan none

/-- The steps of one iteration up to the dispatch: fallback audit, then the row
becomes `sending`. `error` when the row update fails.
mirrors orchestrator.go:195-224 -/
def beginAttempt (w : World) (q : QueueMessage) (dispatch : Option MessageDispatch)
    (all : List String) (startIndex i : Nat) (v : LoopVars) (chan resolvedTo : String) :
    World × Option GoError :=
  let w := if i > startIndex then
      let fromChan := if v.lastAttemptedChannel = "" ∧ i > 0 then all.getD (i - 1) "" else v.lastAttemptedChannel
      audit o w q.workspaceID q.traceID (.fallbackTransition fromChan chan resolvedTo i)
    else w
  match dispatch with
  | none => (w, none)
  | some d =>
    match env.sendingErr i with
    | some e => (w, some e)
    | none =>
      let w := { w with table := w.table.updateDispatchStatus d.id "sending" chan i none }
      (publishWebhookEvent o env w q.workspaceID q.traceID d.id "sending" chan none, none)

def noIdentityErr (recipient chan : String) : GoError :=
  ⟨"recipient " ++ recipient ++ " has no valid identity for channel " ++ chan, false⟩

/-- The loop over the channels from index `i` on.
mirrors orchestrator.go:169-301 -/
def fallbackLoop (q : QueueMessage) (attempt : Int) (dispatch : Option MessageDispatch)
    (all : List String) (startIndex : Nat) :
    List String → Nat → LoopVars → World → World × LoopExit
  | [], _, v, w => (w, .finished v)
  | chan :: rest, i, v, w =>
    let v := { v with lastChannel := chan, currentIndex := i }
    match resolveRecipientForChannel o env q.workspaceID q.to_ chan with
    | none =>
      let w := audit o w q.workspaceID q.traceID (.skippedNoIdentity chan q.to_ i)
      fallbackLoop q attempt dispatch all startIndex rest (i + 1)
        { v with finalErr := some (noIdentityErr q.to_ chan) } w
    | some resolvedTo =>
      match beginAttempt o env w q dispatch all startIndex i v chan resolvedTo with
      | (w, some e) => (handleFailure o env w q.workspaceID attempt, .returned (some e))
      | (w, none) =>
        let v := { v with lastAttemptedChannel := chan, lastAttemptedIndex := i }
        let (qc, res, w) := dispatchToChannel o env w i chan { q with to_ := resolvedTo, channel := chan }
        match res.err with
        | none =>
          let w := markSent o env w q dispatch chan i res.resp
          let w := audit o w q.workspaceID q.traceID (.outboundMessage qc res.resp "sent" none chan)
          (ack o w q.workspaceID, .returned none)
        | some e =>
          if e.terminal then
            let w := audit o w q.workspaceID q.traceID
              (.outboundMessage qc res.resp "failed" (some e.text) chan)
            fallbackLoop q attempt dispatch all startIndex rest (i + 1) { v with finalErr := some e } w
          else
            let w := setStatus o env w q dispatch "failed_transient" chan i (some e.text)
            let w := audit o w q.workspaceID q.traceID
              (.outboundMessage qc res.resp "failed_transient" (some e.text) chan)
            (handleFailure o env w q.workspaceID attempt, .returned (some e))

/-- After the loop: the row becomes `failed` and the message is acked.
mirrors orchestrator.go:303-321 -/
def allChannelsFailed (w : World) (q : QueueMessage) (dispatch : Option MessageDispatch) (v : LoopVars) :
    World :=
  let errMsg := match v.finalErr with
    | none => "all channels failed"
    | some e => "all channels failed" ++ ": " ++ e.text
  let (failedChannel, failedIndex) := if v.lastAttemptedChannel = "" then (v.lastChannel, v.currentIndex)
    else (v.lastAttemptedChannel, v.lastAttemptedIndex)
  let w := setStatus o env w q dispatch "failed" failedChannel failedIndex (some errMsg)
  ack o w q.workspaceID

/-! ## Process -/

/-- Private messages and internal notes never leave.
mirrors orchestrator.go:93-99 -/
def isPrivateNote (q : QueueMessage) : Bool :=
  q.metadata.get "is_private" = "true" || q.metadata.get "direction" = "internal_note"

def allChannels (q : QueueMessage) : List String := q.channel :: q.fallbackChannels

/-- mirrors orchestrator.go:151-154 -/
def startIndex : Option MessageDispatch → Nat
  | none => 0
  | some d => d.fallbackIndex

/-- From the in-memory dedup on; `dispatch` is the row read before, if any.
mirrors orchestrator.go:129-321 -/
def processClaimed (w : World) (q : QueueMessage) (attempt : Int) (dispatch : Option MessageDispatch) :
    World × Option GoError :=
  if q.traceID ≠ "" ∧ q.traceID ∈ w.dispatched then (ack o w q.workspaceID, none)
  else
    let w := if q.traceID ≠ "" then { w with dispatched := q.traceID :: w.dispatched } else w
    if isExpired env q then
      let w := match dispatch with
        | none => w
        | some d => setStatus o env w q dispatch "failed" d.currentChannel d.fallbackIndex
            (some "message expired (TTL)")
      (ack o w q.workspaceID, none)
    else
      if startIndex dispatch ≥ (allChannels q).length then (ack o w q.workspaceID, none)
      else
        let s := startIndex dispatch
        match fallbackLoop o env q attempt dispatch (allChannels q) s ((allChannels q).drop s) s
            ⟨none, "", s, "", s⟩ w with
        | (w, .returned err) => (w, err)
        | (w, .finished v) => (allChannelsFailed o env w q dispatch v, v.finalErr)

def errInvalidWorkspaceID : GoError := ⟨"invalid workspace id", false⟩

/-- mirrors orchestrator.go:83-321 -/
def process (w : World) (q : QueueMessage) (attempt : Int) : World × Option GoError :=
  if isPrivateNote q then (ack o w q.workspaceID, none)
  else if o.dispatchRepo ∧ q.traceID ≠ "" then
    if q.workspaceID = UUID.Nil then
      (handleFailure o env w q.workspaceID attempt, some errInvalidWorkspaceID)
    else match env.getOrCreateErr with
      | some e => (handleFailure o env w q.workspaceID attempt, some e)
      | none =>
        let (d, table) := w.table.getOrCreateDispatch q.workspaceID q.traceID q.channel q.campaignID
          (if q.templateName ≠ "" then some q.templateName else none) q.variablesJSON
        let w := { w with table := table }
        if d.status = "sent" then (ack o w q.workspaceID, none)
        else
          let w := if d.status = "queued" then
              publishWebhookEvent o env w q.workspaceID q.traceID d.id "queued" q.channel none
            else w
          processClaimed o env w q attempt (some d)
  else processClaimed o env w q attempt none

end Process

end PerGo.L3
