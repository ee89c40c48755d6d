import PerGo.Core.Fallible
import PerGo.L3Chat.Recorder
import PerGo.L3Outbound.TemplateParams

/-!
# Outbound ingestion

`Processor.Ingest` of `outbound/processor.go`: backpressure, routing, the checks,
media, the template and the catalog, the turn recorded in the chat, and the publish to
`messages.outbound`.

* `Processor` says which dependencies are configured; what they answer during one call is
  in `IngestEnv`. The connection repository answers from a cache and the database, so
  its answers are parameters, as are the template repository's and the media store's.
* `ingest` returns the message it published and the chat tables after the call. What a
  request that is refused leaves behind is not modelled, nor the queue depth.
-/
namespace PerGo.L3.Outbound

open PerGo.Core PerGo.L1 PerGo.L2 PerGo.L3.Recorder

/-- The dependencies that may be nil. mirrors processor.go:48-60 -/
structure Processor where
  tracker : Bool
  resolver : Bool
  publisher : Bool
  mediaEngine : Bool
  templateRepo : Bool
  contactRepo : Bool
  activity : Bool

/-- Whether a lookup failed because there is no row. -/
inductive LookupError
  | notFound
  | other (text : String)

inductive MediaFailure
  | sizeExceeded
  | failed

/-- The columns `Ingest` reads. mirrors repository/waba_template.go:22-36 -/
structure StoredTemplate where
  status : String
  rejectionReason : Option String
  components : RawComponents

structure IngestEnv where
  /-- the workspace has 1000 messages queued -/
  exceeds : Bool
  getByID : UUID → Except LookupError (Option Connection)
  getBySenderIdentity : UUID → String → Except LookupError Connection
  getBySlug : UUID → String → Except LookupError Connection
  getDefaultChannelConnection : UUID → String → Except LookupError Connection
  processOutbound : String → Except MediaFailure String
  getByNameAndLanguage : UUID → String → String → Except LookupError StoredTemplate
  /-- `ResolveContact` of the recipient, `none` when it fails -/
  resolveContact : Option UUID
  /-- `time.Now()` -/
  now : Time
  /-- `uuid.NewString()` -/
  newUID : String
  act : ActEnv
  publishErr : Option String

inductive IngestError
  | queueFull
  | route (message : String)
  | validation (response : ErrorResponse)
  | media (code message field : String)
  | templateNotFound
  | templateLookup (text : String)
  | templateNotApproved (status : String) (rejectionReason : Option String)
  | invalidTemplateParameters (message : String)
  | missingCatalogID
  | activity (err : ActivityError)
  | marshal
  | publish (text : String)
deriving DecidableEq

section Ingest

variable (p : Processor) (env : IngestEnv)

/-! ## Routing -/

/-- mirrors processor.go:133-143 -/
def validateConnectionChannelMatch (conn : Connection) (reqChannel : String) : Except IngestError Unit :=
  if conn.channel ≠ "" ∧ conn.channel ≠ reqChannel ∧ conn.slug ≠ reqChannel then
    .error (.validation ⟨"route_not_found", "connection channel does not match request channel", []⟩)
  else .ok ()

/-- The connection a request names; its channel is the default of the request's.
mirrors processor.go:164-191 -/
def namedConnection (ws : UUID) (req : CreateMessageRequest) :
    Except IngestError (CreateMessageRequest × Option Connection) :=
  match req.connectionID.filter (· ≠ UUID.Nil) with
  | none => .ok (req, none)
  | some id =>
    if !p.resolver then .error (.route "route resolver is not configured")
    else match env.getByID id with
      | .error _ | .ok none => .error (.route "no matching connection route resolved for connection_id")
      | .ok (some conn) =>
        if conn.workspaceID ≠ ws then .error (.route "connection does not belong to workspace")
        else if req.channel = "" then .ok ({ req with channel := conn.channel }, some conn)
        else do
          validateConnectionChannelMatch conn req.channel
          pure (req, some conn)

/-- The connection of a request that names none. mirrors processor.go:243-276 -/
def resolveRoute (ws : UUID) (req : CreateMessageRequest) : Except IngestError Connection :=
  if !p.resolver then .error (.route "route resolver is not configured")
  else if req.from_ ≠ "" then
    match env.getBySenderIdentity ws req.from_ with
    | .error _ => .error (.route "no matching connection route resolved for the specified sender identity")
    | .ok conn => do
      validateConnectionChannelMatch conn req.channel
      pure conn
  else match env.getBySlug ws req.channel with
    | .ok conn => .ok conn
    | .error .notFound =>
      match env.getDefaultChannelConnection ws req.channel with
      | .ok conn => .ok conn
      | .error _ => .error (.route "no connection route resolved for channel or slug")
    | .error (.other _) => .error (.route "failed to resolve connection route by slug")

def connectionFor (ws : UUID) (named : Option Connection) (req : CreateMessageRequest) : Except IngestError Connection :=
  match named with
  | some conn => .ok conn
  | none => resolveRoute p env ws req

/-! ## The message -/

/-- mirrors processor.go:199-208 -/
def rejectPrivate (req : CreateMessageRequest) : Except IngestError Unit :=
  if req.metadata.get "is_private" = "true" ∨ req.metadata.get "direction" = "internal_note" then
    .error (.validation ⟨"forbidden_dispatch",
      "internal notes and private messages are strictly excluded from external channel dispatch", []⟩)
  else .ok ()

/-- The media is stored, and its URL becomes the internal one. mirrors processor.go:211-240 -/
def processMedia (req : CreateMessageRequest) : Except IngestError CreateMessageRequest :=
  match req.media with
  | none => .ok req
  | some m =>
    if !p.mediaEngine then .error (.media "internal_error" "media storage configuration error" "")
    else match env.processOutbound m.mediaURL with
      | .error .sizeExceeded => .error (.media "media_size_exceeded"
          "the downloaded file exceeds the maximum size boundary of 25MB" "media.media_url")
      | .error .failed => .error (.media "media_download_failed"
          "failed to download media from the specified URL" "media.media_url")
      | .ok url => .ok { req with media := some { m with mediaURL := url } }

def normalizeComponents : List TemplateComponent → Except IngestError (List TemplateComponent)
  | [] => .ok []
  | c :: cs => match normalizeTemplateParams c.parameters with
    | .error text => .error (.invalidTemplateParameters text)
    | .ok params => (normalizeComponents cs).map ({ c with parameters := .params params } :: ·)

/-- mirrors processor.go:279-316 -/
def checkTemplate (conn : Connection) (req : CreateMessageRequest) : Except IngestError CreateMessageRequest :=
  if req.templateName = "" ∨ !p.templateRepo then .ok req
  else match env.getByNameAndLanguage conn.id req.templateName req.language with
    | .error .notFound => .error .templateNotFound
    | .error (.other text) => .error (.templateLookup text)
    | .ok tmpl =>
      if tmpl.status ≠ "APPROVED" then .error (.templateNotApproved tmpl.status tmpl.rejectionReason)
      else do
        let components ← normalizeComponents req.components
        match (countTemplateVariables tmpl.components).bind (validateParameterCounts components) with
        | some text => .error (.invalidTemplateParameters text)
        | none => pure { req with components := components }

def catalogOf (conn : Connection) (req : CreateMessageRequest) : String :=
  let own := (req.product.map (·.catalogID)).getD ""
  if own ≠ "" then own else (conn.credentials.bind (·.string "default_catalog_id")).getD ""

def productType (type : String) (product : ProductPayload) : String :=
  if type ≠ "" then type else if product.sections ≠ [] then messageTypeProductList else messageTypeProduct

/-- mirrors processor.go:319-362 -/
def resolveCatalog (conn : Connection) (req : CreateMessageRequest) : Except IngestError CreateMessageRequest :=
  if !hasProduct req.type req.product then .ok req
  else if catalogOf conn req = "" then .error .missingCatalogID
  else
    let product := { (req.product.getD ⟨"", "", "", "", "", []⟩) with catalogID := catalogOf conn req }
    let type := productType req.type product
    let details := validateProductPayload (some product) type
    if details = [] then .ok { req with product := some product, type := type }
    else .error (.validation ⟨"invalid_product_payload", "request body validation failed", details⟩)

/-- mirrors processor.go:364-399 -/
def queueMessage (ws : UUID) (trace : String) (conn : Connection) (req : CreateMessageRequest) : QueueMessage :=
  { workspaceID := ws, connectionID := conn.id, senderIdentity := conn.senderIdentity, traceID := trace,
    to_ := req.to_, channel := if conn.channel = "" then req.channel else conn.channel, body := req.body,
    media := req.media, metadata := req.metadata, ttlSeconds := req.ttlSeconds, queuedAt := env.now,
    fallbackChannels := req.fallbackChannels, templateName := req.templateName, language := req.language,
    components := req.components, campaignID := req.campaignID, variablesJSON := req.variablesJSON,
    interactive := req.interactive, channelOverrides := req.channelOverrides,
    fallbackBehavior := if req.fallbackBehavior = "" then "degrade" else req.fallbackBehavior,
    type := req.type, product := req.product }

/-! ## The recorded turn -/

def senderWord : SenderType → String
  | .contact => "contact"
  | .humanAgent => "human_agent"
  | .aiAgent => "ai_agent"
  | .system => "system"
  | .other s _ => s

def orMeta (s : String) (req : CreateMessageRequest) (key : String) : String :=
  if trimSpace s = "" then trimSpace (req.metadata.get key) else trimSpace s

def replyTo (req : CreateMessageRequest) : Option String :=
  let uid := orMeta (req.replyToUID.getD "") req "reply_to_uid"
  if uid = "" then none else some uid

/-- A template by name, or by type. mirrors processor.go:473 -/
def isTemplate (q : QueueMessage) : Bool :=
  trimSpace q.templateName ≠ "" || equalFold (trimSpace q.type) "template"

/-- The chat a turn is recorded in. mirrors processor.go:475-494 -/
def chatRef (req : CreateMessageRequest) (conn : Connection) (q : QueueMessage) (channel : String) : ChatRef :=
  match req.chatID.filter (· ≠ UUID.Nil), req.contactID.filter (· ≠ UUID.Nil) with
  | some id, _ => (ChatID id).withChannel channel
  | none, some contact => (ChatOf conn.id contact).withChannel channel
  | none, none =>
    if channel = "whatsapp_cloud" ∧ !isTemplate q then (ChatAt conn.id q.to_).withChannel channel
    else match (if p.contactRepo ∧ q.to_ ≠ "" then env.resolveContact.filter (· ≠ UUID.Nil) else none) with
      | some contact => (ChatOf conn.id contact).withChannel channel
      | none => (ChatAt conn.id q.to_).withChannel channel

/-- mirrors processor.go:434-515 -/
def outboundTurn (trace : String) (req : CreateMessageRequest) (conn : Connection) (q : QueueMessage) : OutboundTurn :=
  let sender := senderWord (normalizeSenderType (orMeta req.senderType req "sender_type"))
  let channel := if q.channel = "" then conn.channel else q.channel
  { chat := chatRef p env req conn q channel, uid := if trace = "" then env.newUID else trace,
    senderType := if sender = "" then "ai_agent" else sender, senderName := orMeta req.senderName req "sender_name",
    senderID := conn.senderIdentity, replyToUID := replyTo req, body := q.body, media := q.media,
    product := q.product, templateName := q.templateName, language := q.language, messageType := q.type,
    channel := channel, to_ := q.to_, metadata := req.metadata, at_ := q.queuedAt }

/-- mirrors processor.go:401-405, 517-526 -/
def recordOutboundTurn (db : ChatDB) (ws : UUID) (trace : String) (req : CreateMessageRequest) (conn : Connection)
    (q : QueueMessage) : Except IngestError ChatDB :=
  if !p.activity then .ok db
  else match outbound db env.act ws (outboundTurn p env trace req conn q) with
    | .ok (_, db) => .ok db
    | .error e => .error (.activity e)

/-- mirrors processor.go:407-425 -/
def publishMessage (q : QueueMessage) : Except IngestError Unit :=
  if !p.publisher then .ok ()
  else if q.requeued = none then .error .marshal
  else match env.publishErr with
    | some text => .error (.publish text)
    | none => .ok ()

/-- The request as `Ingest` has it when it builds the message, and the connection. -/
def prepare (ws : UUID) (req : CreateMessageRequest) : Except IngestError (CreateMessageRequest × Connection) := do
  let (req, named) ← namedConnection p env ws req
  let req ← (validateMessage req).mapError .validation
  rejectPrivate req
  let req ← processMedia p env req
  let conn ← connectionFor p env ws named req
  let req ← checkTemplate p env conn req
  let req ← resolveCatalog conn req
  pure (req, conn)

/-- mirrors processor.go:147-432 -/
def ingest (db : ChatDB) (ws : UUID) (trace : String) (req : CreateMessageRequest) :
    Except IngestError (QueueMessage × ChatDB) :=
  if p.tracker && ws ≠ UUID.Nil && env.exceeds then .error .queueFull
  else do
    let (req, conn) ← prepare p env ws req
    let q := queueMessage env ws trace conn req
    let db ← recordOutboundTurn p env db ws trace req conn q
    publishMessage p env q
    pure (q, db)

end Ingest

/-! ## What an accepted request keeps -/

section Accepted

variable {p : Processor} {env : IngestEnv} {ws : UUID} {trace : String} {db db' : ChatDB} {q : QueueMessage}
variable {req req' req'' : CreateMessageRequest} {conn : Connection}

/-- The fields that `Ingest` passes on as they are, and the two it may fill in. -/
structure Prepared (req req' : CreateMessageRequest) : Prop where
  to_ : req'.to_ = req.to_
  templateName : req'.templateName = req.templateName
  metadata : req'.metadata = req.metadata
  chatID : req'.chatID = req.chatID
  contactID : req'.contactID = req.contactID
  channelOverrides : req'.channelOverrides = req.channelOverrides
  media : req'.media.isSome = req.media.isSome
  /-- a product without a type is given one -/
  type : req'.type = req.type ∨ req'.type = messageTypeProduct ∨ req'.type = messageTypeProductList

theorem Prepared.refl (req : CreateMessageRequest) : Prepared req req := ⟨rfl, rfl, rfl, rfl, rfl, rfl, rfl, Or.inl rfl⟩

theorem Prepared.trans (h : Prepared req req') (h' : Prepared req' req'') : Prepared req req'' where
  to_ := h'.to_.trans h.to_
  templateName := h'.templateName.trans h.templateName
  metadata := h'.metadata.trans h.metadata
  chatID := h'.chatID.trans h.chatID
  contactID := h'.contactID.trans h.contactID
  channelOverrides := h'.channelOverrides.trans h.channelOverrides
  media := h'.media.trans h.media
  type := by
    rcases h'.type with ht | ht
    · rw [ht]
      exact h.type
    · exact Or.inr ht

theorem namedConnection_ok {named : Option Connection} (h : namedConnection p env ws req = .ok (req', named)) :
    Prepared req req' ∧ req'.components = req.components := by
  unfold namedConnection at h
  split at h
  · cases h
    exact ⟨.refl req, rfl⟩
  · split at h
    · cases h
    · split at h
      · cases h
      · cases h
      · split at h
        · cases h
        · split at h
          · cases h
            exact ⟨⟨rfl, rfl, rfl, rfl, rfl, rfl, rfl, Or.inl rfl⟩, rfl⟩
          · obtain ⟨_, _, h⟩ := bind_ok h
            cases h
            exact ⟨.refl req, rfl⟩

theorem validateMessage_ok (h : (validateMessage req).mapError IngestError.validation = .ok req') :
    Prepared req req' ∧ req'.components = req.components := by
  unfold validateMessage at h
  split at h
  · cases h
    exact ⟨⟨rfl, rfl, rfl, rfl, rfl, rfl, Option.isSome_map, Or.inl rfl⟩, rfl⟩
  · cases h

theorem processMedia_ok (h : processMedia p env req = .ok req') :
    Prepared req req' ∧ req'.components = req.components := by
  unfold processMedia at h
  split at h
  · cases h
    exact ⟨.refl req, rfl⟩
  · rename_i m hm
    split at h
    · cases h
    · split at h
      · cases h
      · cases h
      · cases h
        exact ⟨⟨rfl, rfl, rfl, rfl, rfl, rfl, by simp [hm], Or.inl rfl⟩, rfl⟩

theorem normalizeComponents_types {cs cs' : List TemplateComponent} (h : normalizeComponents cs = .ok cs') :
    cs'.map (·.type) = cs.map (·.type) := by
  induction cs generalizing cs' with
  | nil =>
    cases h
    rfl
  | cons c cs ih =>
    unfold normalizeComponents at h
    split at h
    · cases h
    · cases hn : normalizeComponents cs with
      | error e =>
        rw [hn] at h
        cases h
      | ok rest =>
        rw [hn] at h
        cases h
        simp [ih hn]

theorem checkTemplate_ok (h : checkTemplate p env conn req = .ok req') :
    Prepared req req' ∧
      if req.templateName = "" ∨ !p.templateRepo then req'.components = req.components
      else normalizeComponents req.components = .ok req'.components := by
  unfold checkTemplate at h
  split at h
  · rename_i hc
    cases h
    exact ⟨.refl req, by rw [if_pos hc]⟩
  · rename_i hc
    rw [if_neg hc]
    split at h
    · cases h
    · cases h
    · split at h
      · cases h
      · obtain ⟨components, hn, h⟩ := bind_ok h
        split at h
        · cases h
        · cases h
          exact ⟨⟨rfl, rfl, rfl, rfl, rfl, rfl, rfl, Or.inl rfl⟩, hn⟩

theorem resolveCatalog_ok (h : resolveCatalog conn req = .ok req') :
    Prepared req req' ∧ req'.components = req.components := by
  unfold resolveCatalog at h
  split at h
  · cases h
    exact ⟨.refl req, rfl⟩
  · split at h
    · cases h
    · simp only at h
      split at h
      · cases h
        refine ⟨⟨rfl, rfl, rfl, rfl, rfl, rfl, rfl, ?_⟩, rfl⟩
        unfold productType
        split
        · exact Or.inl rfl
        · split
          · exact Or.inr (Or.inr rfl)
          · exact Or.inr (Or.inl rfl)
      · cases h

theorem prepare_ok (h : prepare p env ws req = .ok (req', conn)) :
    Prepared req req' ∧
      if req.templateName = "" ∨ !p.templateRepo then req'.components = req.components
      else normalizeComponents req.components = .ok req'.components := by
  obtain ⟨⟨r1, named⟩, h1, h⟩ := bind_ok h
  obtain ⟨r2, h2, h⟩ := bind_ok h
  obtain ⟨-, -, h⟩ := bind_ok h
  obtain ⟨r3, h3, h⟩ := bind_ok h
  obtain ⟨conn', -, h⟩ := bind_ok h
  obtain ⟨r4, h4, h⟩ := bind_ok h
  obtain ⟨r5, h5, h⟩ := bind_ok h
  cases h
  obtain ⟨p1, c1⟩ := namedConnection_ok h1
  obtain ⟨p2, c2⟩ := validateMessage_ok h2
  obtain ⟨p3, c3⟩ := processMedia_ok h3
  obtain ⟨p4, c4⟩ := checkTemplate_ok h4
  obtain ⟨p5, c5⟩ := resolveCatalog_ok h5
  have before := (p1.trans p2).trans p3
  refine ⟨(before.trans p4).trans p5, ?_⟩
  rw [before.templateName, c3, c2, c1] at c4
  rw [c5]
  exact c4

theorem prepare_types (h : prepare p env ws req = .ok (req', conn)) :
    req'.components.map (·.type) = req.components.map (·.type) := by
  have hc := (prepare_ok h).2
  split at hc
  · rw [hc]
  · exact normalizeComponents_types hc

theorem prepare_route (hid : req.connectionID.filter (· ≠ UUID.Nil) = none) (h : prepare p env ws req = .ok (req', conn)) :
    resolveRoute p env ws req = .ok conn := by
  obtain ⟨⟨r1, named⟩, h1, h⟩ := bind_ok h
  obtain ⟨r2, h2, h⟩ := bind_ok h
  obtain ⟨-, -, h⟩ := bind_ok h
  obtain ⟨r3, h3, h⟩ := bind_ok h
  obtain ⟨conn', h4, h⟩ := bind_ok h
  obtain ⟨r4, -, h⟩ := bind_ok h
  obtain ⟨r5, -, h⟩ := bind_ok h
  cases h
  unfold namedConnection at h1
  rw [hid] at h1
  cases h1
  have hvalid : r2.from_ = req.from_ ∧ r2.channel = req.channel := by
    unfold validateMessage at h2
    split at h2
    · cases h2
      exact ⟨rfl, rfl⟩
    · cases h2
  have hmedia : r3.from_ = r2.from_ ∧ r3.channel = r2.channel := by
    unfold processMedia at h3
    split at h3
    · cases h3
      exact ⟨rfl, rfl⟩
    · split at h3
      · cases h3
      · split at h3
        · cases h3
        · cases h3
        · cases h3
          exact ⟨rfl, rfl⟩
  have hsame : resolveRoute p env ws r3 = resolveRoute p env ws req := by
    unfold resolveRoute
    rw [hmedia.1, hmedia.2, hvalid.1, hvalid.2]
  rw [← hsame]
  exact h4

theorem ingest_ok (h : ingest p env db ws trace req = .ok (q, db')) :
    ∃ req' conn, prepare p env ws req = .ok (req', conn) ∧ q = queueMessage env ws trace conn req' ∧
      recordOutboundTurn p env db ws trace req' conn q = .ok db' := by
  unfold ingest at h
  split at h
  · cases h
  · obtain ⟨⟨req', conn⟩, hprep, h⟩ := bind_ok h
    obtain ⟨db'', hrec, h⟩ := bind_ok h
    obtain ⟨-, -, h⟩ := bind_ok h
    cases h
    exact ⟨req', conn, hprep, rfl, hrec⟩

end Accepted

end PerGo.L3.Outbound

/-!
## Idempotency keys of `POST /messages`

The statements of `repository/idempotency.go` and what
`handler/message.go` does around `Ingest`. The table has one row for a
workspace and key hash (the constraint of migration 037), so it is a function of the two.
The ingress ledger, a second table that nothing here reads, is left out.
-/
namespace PerGo.L3.Outbound

open PerGo.L1 PerGo.L2

/-- mirrors domain/message.go:260-264 -/
structure CreateMessageResponse where
  messageID : UUID
  status : String
  queuedAt : Time
deriving DecidableEq

/-- The columns the handler reads or writes; a row is inserted without a response.
mirrors idempotency.go:16-26 -/
structure IdempotencyEntry where
  traceID : String
  statusCode : Option Nat
  responseBody : Option CreateMessageResponse
  expiresAt : Time

abbrev IdemKey := UUID × String

/-- The table `message_idempotency`. -/
abbrev IdemTable := IdemKey → Option IdempotencyEntry

namespace IdemTable

variable (table : IdemTable) (key : IdemKey)

def set (row : Option IdempotencyEntry) : IdemTable := fun k => if k = key then row else table k

/-- mirrors idempotency.go:67-85 -/
def getByIdempotencyKey (now : Time) : Option IdempotencyEntry := (table key).filter fun e => now < e.expiresAt

/-- Whether the row was inserted, and the table; `ON CONFLICT DO NOTHING` keeps any row, also an expired one.
mirrors idempotency.go:49-65 -/
def checkAndStore (trace : String) (ttl now : Time) : Bool × IdemTable :=
  let ttl := if ttl ≤ 0 then 24 * hour else ttl
  match table key with
  | some _ => (false, table)
  | none => (true, table.set key (some ⟨trace, none, none, now + ttl⟩))

/-- mirrors idempotency.go:87-94 -/
def updateResponse (code : Nat) (body : CreateMessageResponse) : IdemTable :=
  table.set key ((table key).map fun e => { e with statusCode := some code, responseBody := some body })

/-- mirrors idempotency.go:121-128 -/
def cleanupExpired (now : Time) : IdemTable := fun k => (table k).filter fun e => now < e.expiresAt

@[simp] theorem set_self (row : Option IdempotencyEntry) : table.set key row key = row := if_pos rfl

theorem set_of_ne {k : IdemKey} (row : Option IdempotencyEntry) (h : k ≠ key) : table.set key row k = table k :=
  if_neg h

end IdemTable

/-! ## The handler -/

/-- The header's hash, or the body's when there is none; `sha256` is the hexadecimal digest.
mirrors handler/message.go:277-287 -/
def hashIdempotencyKey (sha256 : String → String) (header body : String) : String :=
  if header ≠ "" then sha256 header else sha256 body

/-- The response the table answers with: that of an unexpired row with a status. `ok`: the statement did not fail.
mirrors handler/message.go:297-302 -/
def cachedResponse (table : IdemTable) (key : IdemKey) (now : Time) (ok : Bool) :
    Option (Nat × Option CreateMessageResponse) :=
  if !ok then none
  else (table.getByIdempotencyKey key now).bind fun e => e.statusCode.map fun code => (code, e.responseBody)

/-- The handler logs a failure and does not look at whether the row was inserted.
mirrors handler/message.go:304-306 -/
def storeKey (table : IdemTable) (key : IdemKey) (trace : String) (now : Time) (ok : Bool) : IdemTable :=
  if !ok then table else (table.checkAndStore key trace (24 * hour) now).2

/-- mirrors handler/message.go:326-328 -/
def recordIdempotencyCompletion (table : IdemTable) (key : IdemKey) (body : CreateMessageResponse) (ok : Bool) :
    IdemTable :=
  if !ok then table else table.updateResponse key 202 body

/-- mirrors handler/message.go:92-97 -/
def withSenderType (req : CreateMessageRequest) : CreateMessageRequest :=
  let sender := if req.senderType = "" then req.metadata.get "sender_type" else req.senderType
  { req with senderType := if sender = "" then "ai_agent" else sender }

/-- mirrors handler/message.go:264-268 -/
def acceptedResponse (msgID : UUID) (q : QueueMessage) : CreateMessageResponse := ⟨msgID, "queued", q.queuedAt⟩

/-! ## The row of one key -/

section Row

variable {table : IdemTable} {key : IdemKey} {trace : String} {now : Time} {body : CreateMessageResponse}
variable {row : IdempotencyEntry}

theorem storeKey_of_none (h : table key = none) :
    storeKey table key trace now true = table.set key (some ⟨trace, none, none, now + 24 * hour⟩) := by
  simp only [storeKey, Bool.not_true, Bool.false_eq_true, if_false, IdemTable.checkAndStore, h]
  rw [if_neg (by decide)]

theorem recordIdempotencyCompletion_of_some (h : table key = some row) :
    recordIdempotencyCompletion table key body true =
      table.set key (some { row with statusCode := some 202, responseBody := some body }) := by
  simp only [recordIdempotencyCompletion, Bool.not_true, Bool.false_eq_true, if_false, IdemTable.updateResponse, h,
    Option.map_some]

theorem cleanupExpired_of_lt {k : IdemKey} (h : table k = some row) (ht : now < row.expiresAt) :
    table.cleanupExpired now k = some row := by
  simp only [IdemTable.cleanupExpired, h, Option.filter_some, ht, decide_true, if_true]

theorem cachedResponse_of_lt (h : table key = some row) (ht : now < row.expiresAt) {code : Nat}
    (hc : row.statusCode = some code) :
    cachedResponse table key now true = some (code, row.responseBody) := by
  simp only [cachedResponse, Bool.not_true, Bool.false_eq_true, if_false, IdemTable.getByIdempotencyKey, h,
    Option.filter_some, ht, decide_true, if_true, Option.bind_some, hc, Option.map_some]

end Row

end PerGo.L3.Outbound
