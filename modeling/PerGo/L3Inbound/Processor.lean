import PerGo.L3Queue.DispatchTable
import PerGo.L3Chat.Recorder

/-!
# InboundProcessor

`inbound/processor.go`: one call of `Process` on one event. Reactions
and provider status updates leave early; everything else is a message, which
passes the dedup insert, the media upload, the chat activity and the publish, in
this order and each in a commit of its own.

As for the orchestrator, `InboundProcessor` says which dependencies are
configured, `InEnv` what they answer during one call, and `InWorld` what a call
reads and writes, with `out` the calls it made on the outside.

Of `Recorder.Inbound` (activity/activity.go:347-446) this module
has what the processor sees of it: the idempotency on `(workspace_id, uid)` and
the globally unique `uid` column. `json.Unmarshal` of an order in the metadata
is part of `InEnv`.
-/
namespace PerGo.L3

open PerGo.Core PerGo.L1 PerGo.L2

/-- mirrors processor.go:245-258 -/
structure InboundProcessor where
  dedupRepo : Bool
  wsRepo : Bool
  mediaEngine : Bool
  publisher : Bool
  auditWriter : Bool
  contactRepo : Bool
  dispatchRepo : Bool
  router : Bool
  chatRepo : Bool
  debouncer : Bool
  activity : Bool
  reactionWebhookDispatcher : Bool

/-- The processor of the server, without Redis. mirrors cmd/pergo/main.go:359-370 -/
def serverInboundProcessor : InboundProcessor :=
  { dedupRepo := true, wsRepo := true, mediaEngine := true, publisher := true, auditWriter := true,
    contactRepo := true, dispatchRepo := true, router := true, chatRepo := true, debouncer := false,
    activity := true, reactionWebhookDispatcher := true }

/-- What `Recorder.Inbound` reports besides whether the turn is a duplicate. -/
structure Receipt where
  chatID : UUID
  prevLastOutboundAt : Option Time
  aiMayAct : Bool
deriving DecidableEq

/-- What the dependencies answer during one call. -/
structure InEnv where
  now : Time
  /-- `uuid.New().String()` -/
  freshTraceID : String
  /-- `MutateReaction`: chat, resolved action and reactions, or an error -/
  mutateReaction : Option (UUID × String × List Reaction)
  /-- `GetByProviderMessageID` fails in the database -/
  getByProviderErr : Option GoError
  /-- `UpdateDispatchStatus` fails -/
  updateStatusErr : Option GoError
  /-- `ResolveContact`: the contact's id, `none` on an error -/
  contact : Option UUID
  /-- `InsertAndCheck` fails -/
  dedupErr : Option GoError
  /-- `GetChatMessageByUID` fails -/
  getMessageErr : Bool
  /-- `ProcessInbound`: the stored URL -/
  upload : Except GoError String
  /-- `ExtractAudioTelemetry` -/
  audioTelemetry : Option AudioTelemetry
  /-- `Recorder.Inbound` fails before its commit -/
  activityErr : Option GoError
  receipt : Receipt
  /-- `PIIOptIn` of the workspace row, `none` when it cannot be read -/
  piiOptIn : Option Bool
  /-- `json.Marshal` of the event payload fails -/
  marshalErr : Option GoError
  /-- the publish of the event fails -/
  publishErr : Option GoError
  /-- the publish of a flow or order event fails -/
  secondPublishErr : Bool
  /-- `json.Unmarshal` of `metadata["order_json"]` -/
  unmarshalOrder : String → Option OrderCreatedEvent

/-- Every dependency of the inbound processor answers. -/
def inboundAnswers : InEnv :=
  { now := 1700000000 * second, freshTraceID := "fresh", mutateReaction := none, getByProviderErr := none,
    updateStatusErr := none, contact := some 5, dedupErr := none, getMessageErr := false,
    upload := .ok "https://media/1", audioTelemetry := none, activityErr := none,
    receipt := ⟨9, none, true⟩, piiOptIn := some false, marshalErr := none, publishErr := none,
    secondPublishErr := false, unmarshalOrder := fun _ => none }

/-- What is published, by its JSON type. -/
inductive InPayload
  | reactionUpdated (p : ReactionUpdatedPayload)
  | statusUpdated (p : MessageStatusUpdatedPayload)
  | inboundMessage (p : InboundEventPayload)
  | flowCompleted (workspaceID : UUID) (ev : FlowCompletedEvent)
  | orderCreated (workspaceID : UUID) (ev : OrderCreatedEvent)
deriving DecidableEq

/-- `publish` carries whether the server took the message. -/
inductive InEffect
  | publish (subject : String) (payload : InPayload) (msgID : String) (ok : Bool)
  | dispatchReaction (workspaceID : UUID) (messageUID : String) (payload : ReactionUpdatedPayload) (traceID : String)
  | audit (workspaceID : UUID) (traceID action : String) (payload : InPayload)
  | debounce (messageID traceID : String) (chatID contactID : UUID) (body : String)
  | route (contactID : UUID)

/-- The three tables a call touches and what it did. `dedups` holds
`(workspace_id, channel, provider_message_id)`, `messages` the `(workspace_id, uid)` of
`chat_messages`. -/
structure InWorld where
  dedups : List (UUID × String × String)
  messages : List (UUID × String)
  table : Dispatches
  out : List InEffect

def InWorld.emit (w : InWorld) (e : InEffect) : InWorld := { w with out := w.out ++ [e] }

section Process

variable (p : InboundProcessor) (env : InEnv) (ev : InboundEvent)

def publishEffect (w : InWorld) (subject : String) (payload : InPayload) (msgID : String) (ok : Bool) : InWorld :=
  if p.publisher then w.emit (.publish subject payload msgID ok) else w

def auditEffect (w : InWorld) (ws : UUID) (trace action : String) (payload : InPayload) : InWorld :=
  if p.auditWriter then w.emit (.audit ws trace action payload) else w

/-- mirrors processor.go:387-390, 502-505 -/
def occurredAtOf : Time := if ev.occurredAt = 0 then env.now else ev.occurredAt

/-- mirrors processor.go:386-436 -/
def processReaction (w : InWorld) (trace : String) (r : InboundReaction) : InWorld :=
  let action := if r.action = "" then (if r.emoji = "" then "remove" else "add") else r.action
  let recorded := if p.chatRepo then env.mutateReaction else none
  let (chatID, action, reactions) := match recorded with
    | none => ("", action, [])
    | some (cID, resolved, rx) =>
      (if cID ≠ UUID.Nil then cID.string else "", if resolved ≠ "" then resolved else action, rx)
  let payload : ReactionUpdatedPayload :=
    { event := "message.reaction.updated", workspaceID := ev.workspaceID, chatID := chatID,
      messageUID := r.messageUID, emoji := r.emoji, sender := ev.from_, action := action,
      reactions := reactions, timestamp := occurredAtOf env ev }
  let w := publishEffect p w "messages.events.reaction_updated" (.reactionUpdated payload) trace true
  let w := if p.reactionWebhookDispatcher then
      w.emit (.dispatchReaction ev.workspaceID r.messageUID payload trace) else w
  auditEffect p w ev.workspaceID trace "reaction_updated" (.reactionUpdated payload)

/-- mirrors processor.go:439-484 -/
def processStatusUpdate (w : InWorld) (trace : String) : InWorld × Option GoError :=
  if !p.dispatchRepo then (w, none)
  else match env.getByProviderErr with
    | some e => (w, some ⟨"inbound processor: failed to get dispatch by provider message ID: " ++ e.text, false⟩)
    | none =>
      match w.table.getByProviderMessageID ev.messageID with
      | none => (w, none)
      | some d =>
        match env.updateStatusErr with
        | some e => (w, some ⟨"inbound processor: failed to update dispatch status: " ++ e.text, false⟩)
        | none =>
          let w := { w with table :=
            w.table.updateDispatchStatus d.id ev.body d.currentChannel d.fallbackIndex none }
          if !p.publisher then (w, none)
          else
            let payload : MessageStatusUpdatedPayload :=
              { workspaceID := d.workspaceID, dispatchID := d.id, messageID := ev.messageID, status := ev.body,
                timestamp := occurredAtOf env ev }
            let statusTraceID := if d.traceID = "" then trace else d.traceID
            match env.publishErr with
            | some e =>
              (publishEffect p w "messages.status_updated" (.statusUpdated payload) statusTraceID false,
                some ⟨"inbound processor: failed to publish status update to NATS: " ++ e.text, false⟩)
            | none =>
              (publishEffect p w "messages.status_updated" (.statusUpdated payload) statusTraceID true, none)

/-- mirrors processor.go:509-527 -/
def messageBody : String :=
  if ev.body ≠ "" then ev.body
  else match ev.interactive with
    | none => ""
    | some i =>
      match i.buttonReply, i.listReply, i.nfmReply with
      | some b, _, _ => b.title
      | none, some l, _ => l.title
      | none, none, some n => if n.body ≠ "" then n.body else "[Flow Submission: " ++ n.name ++ "]"
      | none, none, none => ""

/-- The dedup insert runs unless there is no repository or an earlier stage did it.
mirrors processor.go:530-531 -/
def dedupActive : Bool :=
  p.dedupRepo && ev.messageID ≠ "" && ev.metadata.get "deduplicated" ≠ "true"

inductive DedupResult
  | failed (e : GoError)
  | duplicate
  | proceed (w : InWorld)

/-- mirrors processor.go:530-540 and repository/inbound_dedup.go:25-40 -/
def dedupCheck (w : InWorld) : DedupResult :=
  if dedupActive p ev then
    match env.dedupErr with
    | some e => .failed ⟨"inbound: deduplication check failed: " ++ e.text, false⟩
    | none =>
      if (ev.workspaceID, ev.channel, ev.messageID) ∈ w.dedups then .duplicate
      else .proceed { w with dedups := (ev.workspaceID, ev.channel, ev.messageID) :: w.dedups }
  else .proceed w

/-- mirrors media/audio.go:21-33 -/
def isAudio (mediaType filename : String) : Bool :=
  let mt := toLower (trimSpace mediaType)
  mt = "audio" || mt = "voice" || hasPrefix mt "audio/" ||
    [".ogg", ".oga", ".opus", ".mp3", ".wav", ".m4a", ".aac", ".flac"].any (hasSuffix (toLower filename))

/-- The stored media of the event, if it has bytes, is not recorded yet, and the upload succeeds.
mirrors processor.go:543-583 -/
def uploadMedia (w : InWorld) (msgUID : String) : Option EventMedia :=
  match ev.media with
  | none => none
  | some m =>
    let alreadyRecorded := p.chatRepo && !env.getMessageErr && decide ((ev.workspaceID, msgUID) ∈ w.messages)
    if m.bytes = [] || alreadyRecorded || !p.mediaEngine then none
    else match env.upload with
      | .error _ => none
      | .ok url =>
        let base : EventMedia :=
          { mediaURL := url, mediaType := m.mediaType, filename := m.filename, caption := m.caption,
            durationMS := 0, rmsEnergy := none, telemetry := none }
        if isAudio m.mediaType m.filename then
          match env.audioTelemetry with
          | none => some base
          | some t =>
            some { base with durationMS := t.durationMS, rmsEnergy := some t.rmsEnergy, telemetry := some t }
        else some base

inductive ActivityResult
  | failed
  | duplicate
  | recorded (r : Receipt)
deriving DecidableEq

/-- What the processor sees of `Recorder.Inbound`. A turn whose `uid` another workspace has cannot be
inserted. mirrors activity.go:347-446 (idempotency part) -/
def recorderInbound (w : InWorld) (uid : String) : ActivityResult × InWorld :=
  let uid := trimSpace uid
  if uid = "" then (.failed, w)
  else match env.activityErr with
    | some _ => (.failed, w)
    | none =>
      if (ev.workspaceID, uid) ∈ w.messages then (.duplicate, w)
      else if uid ∈ w.messages.map (·.2) then (.failed, w)
      else (.recorded env.receipt, { w with messages := (ev.workspaceID, uid) :: w.messages })

/-- mirrors processor.go:645-656 -/
def eventTiming (occurredAt : Time) : Option Receipt → Option EventTiming
  | none => none
  | some r =>
    match r.prevLastOutboundAt with
    | none => none
    | some t =>
      if t = 0 then none
      else
        let diff := occurredAt - t
        some ⟨some (if diff > 0 then diff / 1000000 else 0), t⟩

/-- mirrors processor.go:659-689 -/
def buildPayload (trace : String) (occurredAt : Time) (uploaded : Option EventMedia)
    (receipt : Option Receipt) : InboundEventPayload :=
  let piiOptIn := p.wsRepo && env.piiOptIn.getD false
  { event := "inbound_message", traceID := trace, messageID := ev.messageID, channel := ev.channel,
    timestamp := occurredAt, workspaceID := ev.workspaceID, from_ := ev.from_, to_ := ev.to_,
    body := ev.body, media := uploaded, location := if piiOptIn then ev.location else none,
    contacts := if piiOptIn then ev.contacts else [], interactive := ev.interactive, story := ev.story,
    timing := eventTiming occurredAt receipt, senderName := ev.senderName, metadata := ev.metadata }

/-- mirrors processor.go:692 -/
def payloadEmpty (e : InboundEventPayload) : Bool :=
  e.body = "" && e.media.isNone && e.location.isNone && e.contacts.isEmpty && e.interactive.isNone &&
    e.story.isNone

def inboundSubject (ws : UUID) : String := "inbound.events." ++ ws.string

/-- The event published besides the message itself, with its message id.
mirrors processor.go:717-753, 806-864 -/
def secondEvent (trace : String) : Option (InPayload × String) :=
  match ev.interactive with
  | some i =>
    if i.type = "nfm_reply" then
      match i.nfmReply with
      | none => none
      | some n => some (.flowCompleted ev.workspaceID
          { screen := n.screen, data := n.data, flowToken := n.flowToken, contactID := ev.from_,
            wamid := ev.messageID, traceID := trace }, trace)
    else if i.type = "order" then
      match i.order with
      | none => none
      | some o => some (.orderCreated ev.workspaceID
          { orderID := ev.messageID, catalogID := o.catalogID, items := o.productItems,
            totalPrice := o.totalPrice, currency := o.currency, wamid := ev.messageID,
            contactID := ev.from_, traceID := trace }, trace)
    else none
  | none =>
    if ev.metadata.get "type" = "order" ∧ ev.metadata.get "order_json" ≠ "" then
      match env.unmarshalOrder (ev.metadata.get "order_json") with
      | none => none
      | some o =>
        let o := if o.traceID = "" then { o with traceID := trace } else o
        some (.orderCreated ev.workspaceID o, o.traceID)
    else none

/-- mirrors processor.go:697-754 -/
def publishMessage (w : InWorld) (trace : String) (payload : InboundEventPayload) : InWorld × Option GoError :=
  if !p.publisher then (w, none)
  else match env.marshalErr with
    | some e => (w, some ⟨"inbound: failed to marshal event payload: " ++ e.text, false⟩)
    | none =>
      match env.publishErr with
      | some e =>
        (w.emit (.publish (inboundSubject ev.workspaceID) (.inboundMessage payload) trace false),
          some ⟨"inbound: failed to publish event to NATS: " ++ e.text, false⟩)
      | none =>
        let w := w.emit (.publish (inboundSubject ev.workspaceID) (.inboundMessage payload) trace true)
        let w := auditEffect p w ev.workspaceID trace "inbound_message" (.inboundMessage payload)
        match secondEvent env ev trace with
        | none => (w, none)
        | some (second, id) =>
          (w.emit (.publish (inboundSubject ev.workspaceID) second id (!env.secondPublishErr)), none)

/-- The debounce buffer and the router; errors of both are only logged.
mirrors processor.go:757-803 -/
def forwardMessage (w : InWorld) (trace msgUID : String) (contact : Option UUID) (receipt : Option Receipt) :
    InWorld :=
  match contact with
  | none => w
  | some c =>
    let w := match receipt with
      | none => w
      | some r => if p.debouncer && r.aiMayAct then w.emit (.debounce msgUID trace r.chatID c (messageBody ev)) else w
    let mayRoute := match receipt with
      | none => true
      | some r => r.aiMayAct
    if p.router && mayRoute then w.emit (.route c) else w

/-- The chat activity is recorded only for a resolved contact.
mirrors processor.go:586-642 -/
def recordActivity (w : InWorld) (contact : Option UUID) (msgUID : String) : Option ActivityResult × InWorld :=
  match contact with
  | none => (none, w)
  | some _ =>
    if p.activity then
      let (r, w) := recorderInbound env ev w msgUID
      (some r, w)
    else (none, w)

def ActivityResult.receipt : ActivityResult → Option Receipt
  | .recorded r => some r
  | _ => none

/-- `ResolveContact`, when there is a contact store. -/
def resolvedContact : Option UUID := if p.contactRepo then env.contact else none

/-- mirrors processor.go:504-507 -/
def messageUID (trace : String) : String := if ev.messageID = "" then trace else ev.messageID

/-- From the payload on. mirrors processor.go:644-803 -/
def finishMessage (w : InWorld) (trace msgUID : String) (uploaded : Option EventMedia)
    (receipt : Option Receipt) : InWorld × Option GoError :=
  let payload := buildPayload p env ev trace (occurredAtOf env ev) uploaded receipt
  if payloadEmpty payload then (w, none)
  else match publishMessage p env ev w trace payload with
    | (w, some e) => (w, some e)
    | (w, none) => (forwardMessage p ev w trace msgUID (resolvedContact p env) receipt, none)

/-- mirrors processor.go:486-803 -/
def processMessage (w : InWorld) (trace : String) : InWorld × Option GoError :=
  let msgUID := messageUID ev trace
  match dedupCheck p env ev w with
  | .failed e => (w, some e)
  | .duplicate => (w, none)
  | .proceed w =>
    let uploaded := uploadMedia p env ev w msgUID
    let (result, w) := recordActivity p env ev w (resolvedContact p env) msgUID
    if result = some .duplicate then (w, none)
    else finishMessage p env ev w trace msgUID uploaded (result.bind ActivityResult.receipt)

/-- mirrors processor.go:372-384 -/
def traceOf : String := if ev.traceID = "" then env.freshTraceID else ev.traceID

/-- mirrors processor.go:372-803 -/
def processInbound (w : InWorld) : InWorld × Option GoError :=
  if ev.workspaceID = UUID.Nil then (w, some ⟨"inbound: workspace ID is required", false⟩)
  else match ev.reaction with
    | some r => (processReaction p env ev w (traceOf env ev) r, none)
    | none =>
      if ev.metadata.get "type" = "status_update" then processStatusUpdate p env ev w (traceOf env ev)
      else processMessage p env ev w (traceOf env ev)

end Process

end PerGo.L3

/-!
## The inbound processor over the recorder's tables

`Processor` says what one call does, with the recorder cut down to the two
columns the processor sees of it. Here the call writes the recorder's own
tables: which chat a message is stored in, and whether it is stored at all.
`Store.view` is what `Processor` keeps of a `Store`.
-/
namespace PerGo.L3

open PerGo.Core PerGo.L1 PerGo.L2

structure Store where
  dedups : List (UUID × String × String)
  db : Recorder.ChatDB

/-- The tables as `Processor` has them, the newest message first. -/
def Store.view (st : Store) : InWorld :=
  { dedups := st.dedups, messages := (st.db.messages.map fun m => (m.workspaceID, m.uid)).reverse, table := .empty,
    out := [] }

section Process

variable (p : InboundProcessor) (env : InEnv) (act : Recorder.ActEnv) (ev : InboundEvent)

/-- mirrors processor.go:168-185 -/
def senderDisplayName : String :=
  if ev.senderName ≠ "" then ev.senderName
  else if ev.metadata.get "sender_push_name" ≠ "" then ev.metadata.get "sender_push_name"
  else ev.metadata.get "participant"

/-- The turn the processor hands to the recorder. mirrors processor.go:588-632 -/
def inboundTurn (contact : UUID) (msgUID : String) (uploaded : Option EventMedia) : Recorder.InboundTurn :=
  let mediaURL := match uploaded with
    | some u => u.mediaURL
    | none => (ev.media.map (·.mediaURL)).getD ""
  let entryPoint := if ev.entryPointType ≠ "" then ev.entryPointType else ev.metadata.get "entry_point_type"
  { chat := Recorder.ChatOf ev.connectionID contact, uid := msgUID, senderName := senderDisplayName ev,
    senderID := ev.from_, replyToUID := none, body := messageBody ev,
    mediaURL := ev.media.bind fun _ => if mediaURL ≠ "" then some mediaURL else none,
    mediaType := (ev.media.map (·.mediaType)).filter (· ≠ ""), channel := ev.channel,
    entryPointType := normalizeEntryPointType entryPoint,
    metadata := setMetaIfMissing
      (setMetaIfMissing (ev.metadata.map fun (k, v) => (k, GoVal.string v)) "channel" ev.channel) "to" ev.to_,
    at_ := occurredAtOf env ev }

/-- What a message leaves in the tables. mirrors processor.go:486-642 -/
def storeMessage (st : Store) (trace : String) : Store :=
  match dedupCheck p env ev st.view with
  | .failed _ | .duplicate => st
  | .proceed w =>
    let st := { st with dedups := w.dedups }
    match resolvedContact p env with
    | none => st
    | some c =>
      if p.activity then
        let uploaded := uploadMedia p env ev w (messageUID ev trace)
        { st with
          db := Recorder.inboundDB st.db act ev.workspaceID (inboundTurn env ev c (messageUID ev trace) uploaded) }
      else st

/-- Reactions and status updates write other tables. mirrors processor.go:372-803 -/
def storeInbound (st : Store) : Store :=
  if ev.workspaceID = UUID.Nil then st
  else if ev.reaction.isSome ∨ ev.metadata.get "type" = "status_update" then st
  else storeMessage p env act ev st (traceOf env ev)

end Process

end PerGo.L3
