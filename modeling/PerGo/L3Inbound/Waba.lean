import PerGo.L2Domain.Dynamic
import PerGo.L2Domain.Inbound

/-!
# Cloud API updates

`whatsapp/waba_inbound.go`: `WABAInboundAdapter.Parse` turns one webhook
update into events, one for each status and each message.

`Graph` is what `Parse` has from elsewhere: the download of a file, the decryption of a
flow response, `float64` arithmetic and the text of `json.Marshal`. The contact profiles of
an update, and a file's MIME type and digest, are read by nothing and left out.
-/
namespace PerGo.L3.WabaInbound

open PerGo.L1 PerGo.L2

/-- mirrors waba_inbound.go:142-148 -/
structure MediaObj where
  id : String
  filename : String
  caption : String
deriving DecidableEq

/-- mirrors waba_inbound.go:150-156 -/
structure ReferralObj where
  sourceURL : String
  sourceID : String
  sourceType : String
deriving DecidableEq

structure NFMReply where
  responseJSON : String
  name : String
  body : String
deriving DecidableEq

/-- mirrors waba_inbound.go:83-99 -/
structure Interactive where
  type : String
  buttonReply : Option InboundButtonReply
  listReply : Option InboundListReply
  nfmReply : Option NFMReply
deriving DecidableEq

/-- Quantity and price are texts. mirrors waba_inbound.go:103-108 -/
structure ProductItem where
  productRetailerID : String
  quantity : String
  itemPrice : String
  currency : String
deriving DecidableEq

structure Order where
  catalogID : String
  text : String
  productItems : List ProductItem
deriving DecidableEq

/-- A contact card is a name with its phones.
mirrors waba_inbound.go:71-133 -/
structure Message where
  «from» : String
  id : String
  timestamp : String
  type : String
  text : Option String
  /-- payload and text -/
  button : Option (String × String)
  interactive : Option Interactive
  order : Option Order
  image : Option MediaObj
  document : Option MediaObj
  audio : Option MediaObj
  video : Option MediaObj
  location : Option InboundLocation
  contacts : List (String × List String)
  /-- message id and emoji -/
  reaction : Option (String × String)
  referral : Option ReferralObj
deriving DecidableEq

structure Status where
  id : String
  status : String
  recipientID : String
  timestamp : String
deriving DecidableEq

/-- mirrors waba_inbound.go:59-140 -/
structure ValueData where
  displayPhoneNumber : String
  phoneNumberID : String
  messages : List Message
  statuses : List Status
deriving DecidableEq

/-- The changes of each entry. mirrors waba_inbound.go:48-57 -/
structure Payload where
  entry : List (List ValueData)

/-- The token of the credentials. mirrors waba_inbound.go:43-46 -/
def unmarshalCreds (d : Document) : Option String := do
  let _ ← d.string "verify_token"
  d.string "token"

structure FlowResponse where
  flowToken : String
  screen : String
  data : List (String × GoVal)

structure Graph where
  /-- `fetchWABADownloadURL` and `downloadWABAFile` of a media id with a token -/
  download : String → String → Option (List UInt8)
  /-- the response JSON, decrypted with the connection's key when it is encrypted -/
  flowResponse : Connection → String → FlowResponse
  /-- mirrors waba_inbound.go:561-570 -/
  parseQuantity : String → Int
  /-- mirrors waba_inbound.go:572-578 -/
  parsePrice : String → Dec
  /-- the sum of `float64(qty) * price` -/
  totalPrice : List OrderProductItem → Dec
  /-- `%.2f` -/
  money : Dec → String
  /-- `json.Marshal`, which fails on a price that is no number -/
  marshalOrder : OrderCreatedEvent → Option String
  /-- `contact_id`, as `json.Unmarshal` reads it -/
  orderContact : String → String
  marshalOrder_contact : ∀ o s, marshalOrder o = some s → orderContact s = o.contactID

/-- mirrors inbound/processor.go:21-32 -/
def parseUnixTimestamp (ts : String) : Time :=
  match parseInt64 ts with
  | none => 0
  | some sec => if sec ≤ 0 then 0 else sec * second

section Parse

variable (g : Graph) (conn : Connection) (token : String)

/-- mirrors waba_inbound.go:208-224 -/
def Message.mediaObj (m : Message) : Option MediaObj :=
  if m.type = "image" then m.image
  else if m.type = "document" then m.document
  else if m.type = "audio" then m.audio
  else if m.type = "video" then m.video
  else none

/-- mirrors waba_inbound.go:226-244 -/
def Message.media (m : Message) : Option InboundMedia :=
  match m.mediaObj with
  | none => none
  | some obj =>
    if token = "" then none
    else (g.download obj.id token).map fun bytes =>
      { bytes := bytes, mediaType := m.type, filename := obj.filename, caption := obj.caption, mediaURL := "" }

/-- mirrors waba_inbound.go:256-266 -/
def Message.cards (m : Message) : List InboundContact :=
  m.contacts.flatMap fun c => c.2.map fun phone => { name := c.1, phone := phone }

/-- mirrors waba_inbound.go:273-278 -/
def Message.entryPointType (m : Message) : String :=
  if m.referral.any fun r => r.sourceType = "ad" || r.sourceID ≠ "" || r.sourceURL ≠ "" then "ctwa" else "standard"

/-- What a reply of the user becomes: its body, its `metadata["type"]` and the interactive itself. -/
structure Reply where
  body : String
  type : String
  interactive : InboundInteractive

/-- mirrors waba_inbound.go:286-303, 400-416 -/
def buttonReply (id title : String) : Reply :=
  { body := "🔘 *Selected*: " ++ if title ≠ "" then title else id, type := "button_reply",
    interactive :=
      { type := "button_reply", buttonReply := some ⟨id, title⟩, listReply := none, nfmReply := none, order := none } }

/-- mirrors waba_inbound.go:304-323 -/
def listReply (l : InboundListReply) : Reply :=
  { body := "🔘 *Selected*: " ++ l.title ++ if l.description ≠ "" then "\n" ++ l.description else "",
    type := "list_reply",
    interactive := { type := "list_reply", buttonReply := none, listReply := some l, nfmReply := none, order := none } }

/-- mirrors waba_inbound.go:369-384 -/
def formSummary (r : FlowResponse) : String :=
  let entries := r.data.insertionSort fun a b => a.1 ≤ b.1
  trimSpace ("📄 *Form Submitted*" ++ (if r.screen ≠ "" then "\nScreen: " ++ r.screen else "") ++
    String.join (entries.map fun kv => "\n- " ++ kv.1 ++ ": " ++ kv.2.format))

/-- mirrors waba_inbound.go:324-398 -/
def flowReply (n : NFMReply) : Reply :=
  let r := g.flowResponse conn n.responseJSON
  { body := formSummary r, type := "nfm_reply",
    interactive :=
      { type := "nfm_reply", buttonReply := none, listReply := none,
        nfmReply := some ⟨n.name, n.body, n.responseJSON, r.flowToken, r.screen, r.data⟩, order := none } }

/-- A button counts only where there is no interactive.
mirrors waba_inbound.go:282-416 -/
def Message.reply (m : Message) : Option Reply :=
  match m.interactive with
  | some i =>
    if i.type = "button_reply" then i.buttonReply.map fun b => buttonReply b.id b.title
    else if i.type = "list_reply" then i.listReply.map listReply
    else if i.type = "nfm_reply" then i.nfmReply.map (flowReply g conn)
    else none
  | none => if m.type = "button" then m.button.map fun b => buttonReply b.1 b.2 else none

def Order.items (o : Order) : List OrderProductItem :=
  o.productItems.map fun i => ⟨i.productRetailerID, g.parseQuantity i.quantity, g.parsePrice i.itemPrice, i.currency⟩

def Order.currency (o : Order) : String := ((o.productItems.map (·.currency)).find? (· ≠ "")).getD ""

/-- mirrors waba_inbound.go:438-446 -/
def Order.event (o : Order) (m : Message) : OrderCreatedEvent :=
  { orderID := m.id, catalogID := o.catalogID, items := o.items g, totalPrice := g.totalPrice (o.items g),
    currency := o.currency, wamid := m.id, contactID := m.from, traceID := "" }

/-- mirrors waba_inbound.go:453-463 -/
def Order.summary (o : Order) : String :=
  trimSpace ("🛒 Order Received (Catalog: " ++ o.catalogID ++ ")\n" ++
    (if o.text ≠ "" then "Note: " ++ o.text ++ "\n" else "") ++ "Items:\n" ++
    String.join ((o.items g).map fun i =>
      "- " ++ i.productRetailerID ++ ": " ++ formatInt i.quantity ++ " x " ++ g.money i.itemPrice ++ " " ++
        i.currency ++ "\n") ++
    "Total: " ++ g.money (g.totalPrice (o.items g)) ++ " " ++ o.currency)

def Order.interactive (o : Order) : InboundInteractive :=
  { type := "order", buttonReply := none, listReply := none, nfmReply := none,
    order := some
      { catalogID := o.catalogID, text := o.text, productItems := o.items g, totalPrice := g.totalPrice (o.items g),
        currency := o.currency } }

def Message.ordered (m : Message) : Option Order := if m.type = "order" then m.order else none

/-- `metadata["order_json"]`. mirrors waba_inbound.go:448-451 -/
def Message.orderJSON (m : Message) : Option String := m.ordered.bind fun o => g.marshalOrder (o.event g m)

/-- mirrors waba_inbound.go:477-489 -/
def Message.inboundReaction (m : Message) : Option InboundReaction :=
  if m.type = "reaction" then m.reaction.map fun r => ⟨r.1, r.2, if r.2 = "" then "remove" else "add"⟩ else none

/-- The last of the assignments to `metadata["type"]`. -/
def Message.metaType (m : Message) : Option String :=
  if (m.inboundReaction).isSome then some "reaction"
  else if (m.orderJSON g).isSome then some "order"
  else (m.reply g conn).map (·.type)

def Message.metadata (m : Message) : StrMap :=
  ("entry_point_type", m.entryPointType) :: (m.metaType g conn).toList.map ("type", ·) ++
    (m.orderJSON g).toList.map ("order_json", ·)

/-- An order's summary goes over a reply, and that over the text.
mirrors waba_inbound.go:268-271, 282-475 -/
def Message.body (m : Message) : String :=
  match m.ordered, m.reply g conn with
  | some o, _ => o.summary g
  | none, some r => r.body
  | none, none => m.text.getD ""

/-- mirrors waba_inbound.go:491-509 -/
def Message.event (m : Message) (recipient : String) : InboundEvent :=
  { workspaceID := conn.workspaceID, connectionID := conn.id, messageID := m.id, traceID := "",
    channel := "whatsapp_cloud", from_ := m.from, to_ := recipient, body := m.body g conn,
    media := m.media g token, location := m.location, contacts := m.cards,
    interactive := match m.ordered with
      | some o => some (o.interactive g)
      | none => (m.reply g conn).map (·.interactive)
    story := none, reaction := m.inboundReaction, senderName := "", occurredAt := parseUnixTimestamp m.timestamp,
    entryPointType := m.entryPointType, metadata := m.metadata g conn }

/-- mirrors waba_inbound.go:188-201 -/
def Status.event (s : Status) (recipient : String) : InboundEvent :=
  { workspaceID := conn.workspaceID, connectionID := conn.id, messageID := s.id, traceID := "",
    channel := "whatsapp_cloud", from_ := s.recipientID, to_ := recipient, body := s.status, media := none,
    location := none, contacts := [], interactive := none, story := none, reaction := none, senderName := "",
    occurredAt := parseUnixTimestamp s.timestamp, entryPointType := "", metadata := [("type", "status_update")] }

/-- mirrors waba_inbound.go:179-185 -/
def ValueData.recipient (v : ValueData) : String :=
  if conn.senderIdentity ≠ "" then conn.senderIdentity
  else if v.displayPhoneNumber ≠ "" then v.displayPhoneNumber
  else v.phoneNumberID

/-- The messages of a change that has no statuses. -/
def ValueData.read (v : ValueData) : List Message := if v.statuses = [] then v.messages else []

/-- mirrors waba_inbound.go:187-511 -/
def ValueData.events (v : ValueData) : List InboundEvent :=
  v.statuses.map (·.event conn (v.recipient conn)) ++ v.read.map fun m => m.event g conn token (v.recipient conn)

end Parse

/-- mirrors waba_inbound.go:159-515 -/
def parse (g : Graph) (conn : Connection) (payload : Option Payload) : Except String (List InboundEvent) :=
  match payload with
  | none => .error "failed to parse WABA payload"
  | some u =>
    match conn.credentials.bind unmarshalCreds with
    | none => .error "failed to unmarshal credentials"
    | some token => .ok (u.entry.flatten.flatMap (·.events g conn token))

end PerGo.L3.WabaInbound

/-!
## The Cloud API webhook

`HandlePost` of `handler/waba_webhook.go`. Template updates in the body go to
the template repository and yield no event; they are left out, as is the size limit.

* The body is decoded three times; `payload` is what it says, `none` when a decoding fails.
* `verifies` is `VerifyWABASignature` of the body and its header with a secret.
* `process` is whether `InboundProcessor.Process` takes an event.
-/
namespace PerGo.L3.WabaWebhook

open PerGo.L1 PerGo.L2 PerGo.L3.WabaInbound

structure PostEnv where
  verifySignature : Bool
  hasSignature : Bool
  verifies : String → Bool
  process : InboundEvent → Bool

def credential (conn : Connection) (name : String) : String := ((conn.credentials.bind fun d => d.string name).getD "")

/-- mirrors waba_webhook.go:197-203 -/
def lastNonEmpty (xs : List String) : String := xs.foldl (fun last x => if x ≠ "" then x else last) ""

/-- mirrors waba_webhook.go:210-216 -/
def names (conn : Connection) (phoneID display : String) : Bool :=
  (phoneID ≠ "" && (conn.senderIdentity = phoneID || credential conn "phone_number_id" = phoneID)) ||
    (display ≠ "" && (conn.senderIdentity = display || trimPrefix conn.senderIdentity "+" = trimPrefix display "+"))

/-- mirrors waba_webhook.go:206-224 -/
def matchingConn (phoneID display : String) : Option Connection → List Connection → Option Connection
  | acc, [] => acc
  | acc, conn :: conns =>
    if conn.channel ≠ "whatsapp_cloud" then matchingConn phoneID display acc conns
    else if (phoneID ≠ "" ∨ display ≠ "") ∧ names conn phoneID display = true then some conn
    else matchingConn phoneID display (acc.or (some conn)) conns

/-- mirrors waba_webhook.go:238-249 -/
def secret (conn : Connection) : String :=
  let appSecret := credential conn "app_secret"
  let verifyToken := credential conn "verify_token"
  if appSecret ≠ "" then appSecret else if verifyToken ≠ "" then verifyToken else credential conn "token"

/-- mirrors waba_webhook.go:231-254 -/
def signatureOK (env : PostEnv) (conn : Connection) : Bool :=
  !env.verifySignature || (env.hasSignature && secret conn ≠ "" && env.verifies (secret conn))

/-- `Parse`, with the change each event is from. -/
def parseFrom (g : Graph) (conn : Connection) (payload : Option Payload) :
    Except String (List (ValueData × InboundEvent)) :=
  match payload with
  | none => .error "failed to parse WABA payload"
  | some u =>
    match conn.credentials.bind unmarshalCreds with
    | none => .error "failed to unmarshal credentials"
    | some token => .ok (u.entry.flatten.flatMap fun v => (v.events g conn token).map (v, ·))

/-- The events handed to the processor, up to the first that it does not take.
mirrors waba_webhook.go:332-341 -/
def handOver (process : InboundEvent → Bool) : List (ValueData × InboundEvent) → List (ValueData × InboundEvent) × Bool
  | [] => ([], true)
  | e :: es =>
    if process e.2 then
      let rest := handOver process es
      (e :: rest.1, rest.2)
    else ([e], false)

inductive Response
  | ok
  | unauthorized
  | forbidden
  | internalServerError

/-- mirrors waba_webhook.go:171-343 -/
def handlePost (g : Graph) (env : PostEnv) (conns : List Connection) (payload : Option Payload) :
    Response × List (ValueData × InboundEvent) :=
  let changes := (payload.map fun u => u.entry.flatten).getD []
  let phoneID := lastNonEmpty (changes.map (·.phoneNumberID))
  let display := lastNonEmpty (changes.map (·.displayPhoneNumber))
  match matchingConn phoneID display none conns with
  | none => (.forbidden, [])
  | some conn =>
    if !signatureOK env conn then (.unauthorized, [])
    else match parseFrom g conn payload with
      | .error _ => (.forbidden, [])
      | .ok events =>
        let handed := handOver env.process events
        (if handed.2 then .ok else .internalServerError, handed.1)

end PerGo.L3.WabaWebhook
