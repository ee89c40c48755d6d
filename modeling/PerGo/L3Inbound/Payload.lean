import PerGo.L2Domain.Dynamic
import PerGo.L3Inbound.Processor

/-!
# Inbound payloads as JSON

What `json.Marshal` writes of the events `InboundProcessor` publishes, each as a document.
A map that is empty reads as nil, and a slice that is empty as nil.

`TimeText` is how a time is written. An interactive is the one part that may fail to be
written, by a value of its form data.
-/
namespace PerGo.L3

open PerGo.L1 PerGo.L2

structure TimeText where
  rfc3339 : Time → String
  /-- `time.Time` in JSON -/
  json : Time → String

/-- A nested struct: its fields in order, less those `omitempty` drops. -/
def jsonStruct (entries : List (String × Option Json)) : Json := .obj (Document.present entries)

/-- `json:",omitempty"` on an integer. -/
def omitZero (n : Int) : Option Json := if n = 0 then none else some (.num (Dec.ofInt n))

/-- `json:",omitempty"` on a float. -/
def omitZeroDec (d : Dec) : Option Json := if d.mant = 0 then none else some (.num d)

/-- A slice; nil is `null`. -/
def jsonSlice (xs : List Json) : Json := if xs = [] then .null else .arr xs

/-- A map with its keys in order; nil is `null`. -/
def jsonMap (kvs : List (String × Json)) : Json :=
  if kvs = [] then .null else .obj (kvs.insertionSort fun a b => a.1 ≤ b.1)

/-- `json:",omitempty"` on anything that has a `null`. -/
def omitNull (j : Json) : Option Json := if j = .null then none else some j

namespace Payload

/-- mirrors media/audio.go:85-92 -/
def telemetry (t : AudioTelemetry) : Json :=
  jsonStruct
    [("duration_ms", some (.num (Dec.ofInt t.durationMS))), ("voiced_duration_ms", omitZero t.voicedDurationMS),
     ("rms_energy", some (.num t.rmsEnergy)), ("sample_rate", omitZero t.sampleRate),
     ("channels", omitZero t.channels), ("format", omitEmpty t.format)]

/-- mirrors inbound/processor.go:223-231 -/
def media (m : EventMedia) : Json :=
  jsonStruct
    [("media_url", some (.str m.mediaURL)), ("media_type", some (.str m.mediaType)),
     ("filename", omitEmpty m.filename), ("caption", omitEmpty m.caption), ("duration_ms", omitZero m.durationMS),
     ("rms_energy", m.rmsEnergy.map .num), ("telemetry", m.telemetry.map telemetry)]

/-- mirrors processor.go:68-73 -/
def location (l : InboundLocation) : Json :=
  jsonStruct
    [("latitude", some (.num l.latitude)), ("longitude", some (.num l.longitude)), ("name", omitEmpty l.name),
     ("address", omitEmpty l.address)]

/-- mirrors processor.go:76-79 -/
def contact (c : InboundContact) : Json := jsonStruct [("name", some (.str c.name)), ("phone", some (.str c.phone))]

/-- mirrors domain/event.go:19-24 -/
def orderItem (i : OrderProductItem) : Json :=
  jsonStruct
    [("product_retailer_id", some (.str i.productRetailerID)), ("quantity", some (.num (Dec.ofInt i.quantity))),
     ("item_price", some (.num i.itemPrice)), ("currency", some (.str i.currency))]

/-- mirrors processor.go:95-102 -/
def nfmReply (n : InboundNFMReply) : Option Json := do
  let data ← GoVal.encodeMap n.data
  return jsonStruct
    [("name", omitEmpty n.name), ("body", omitEmpty n.body), ("response_json", omitEmpty n.responseJSON),
     ("flow_token", omitEmpty n.flowToken), ("screen", omitEmpty n.screen), ("data", omitNull (jsonMap data))]

/-- mirrors processor.go:105-111 -/
def order (o : InboundOrder) : Json :=
  jsonStruct
    [("catalog_id", some (.str o.catalogID)), ("text", omitEmpty o.text),
     ("product_items", some (jsonSlice (o.productItems.map orderItem))), ("total_price", omitZeroDec o.totalPrice),
     ("currency", omitEmpty o.currency)]

/-- mirrors processor.go:114-120 -/
def interactive (i : InboundInteractive) : Option Json := do
  let nfm ← match i.nfmReply with
    | none => some none
    | some n => (nfmReply n).map some
  return jsonStruct
    [("type", some (.str i.type)),
     ("button_reply", i.buttonReply.map fun b => jsonStruct [("id", some (.str b.id)), ("title", some (.str b.title))]),
     ("list_reply", i.listReply.map fun l => jsonStruct
       [("id", some (.str l.id)), ("title", some (.str l.title)), ("description", omitEmpty l.description)]),
     ("nfm_reply", nfm), ("order", i.order.map order)]

/-- mirrors processor.go:123-126 -/
def story (s : InboundStoryEvent) : Json :=
  jsonStruct [("subtype", some (.str s.subtype)), ("media_url", omitEmpty s.mediaURL)]

section Documents

variable (tt : TimeText)

/-- mirrors processor.go:209-212 -/
def timing (t : EventTiming) : Json :=
  jsonStruct
    [("response_latency_ms", t.responseLatencyMS.map fun ms => .num (Dec.ofInt ms)),
     ("last_outbound_at", omitEmpty (tt.rfc3339 t.lastOutboundAt))]

/-- The fields of an event, its interactive written already. mirrors processor.go:187-206 -/
def messageEntries (p : InboundEventPayload) (interactive : Option Json) : List (String × Option Json) :=
  [("event", some (.str p.event)), ("trace_id", some (.str p.traceID)), ("message_id", some (.str p.messageID)),
   ("channel", some (.str p.channel)), ("timestamp", some (.str (tt.rfc3339 p.timestamp))),
   ("workspace_id", some (.str p.workspaceID.string)), ("from", some (.str p.from_)), ("to", some (.str p.to_)),
   ("body", omitEmpty p.body), ("media", p.media.map media), ("location", p.location.map location),
   ("contacts", omitNull (jsonSlice (p.contacts.map contact))), ("interactive", interactive),
   ("story_event", p.story.map story), ("timing", p.timing.map (timing tt)), ("sender_name", omitEmpty p.senderName),
   ("metadata", omitEmptyMap p.metadata)]

def messageDoc (p : InboundEventPayload) (interactive : Option Json) : Document :=
  Document.ofEntries (messageEntries tt p interactive) (by
    simp only [messageEntries, List.map_cons, List.map_nil]
    decide +kernel)

/-- mirrors processor.go:698 -/
def message (p : InboundEventPayload) : Option Document := do
  let interactive ← match p.interactive with
    | none => some none
    | some i => (interactive i).map some
  return messageDoc tt p interactive

/-- The embedded struct comes after the two fields of its own.
mirrors processor.go:806-829 and event.go:10-17 -/
def flowEntries (ws : UUID) (e : FlowCompletedEvent) (data : List (String × Json)) : List (String × Option Json) :=
  [("event", some (.str "flow.completed")), ("workspace_id", some (.str ws.string)), ("screen", some (.str e.screen)),
   ("data", some (jsonMap data)), ("flow_token", some (.str e.flowToken)), ("contact_id", some (.str e.contactID)),
   ("wamid", some (.str e.wamid)), ("trace_id", omitEmpty e.traceID)]

def flowDoc (ws : UUID) (e : FlowCompletedEvent) (data : List (String × Json)) : Document :=
  Document.ofEntries (flowEntries ws e data) (by
    simp only [flowEntries, List.map_cons, List.map_nil]
    decide +kernel)

/-- mirrors processor.go:841-864 and event.go:26-35 -/
def orderEntries (ws : UUID) (e : OrderCreatedEvent) : List (String × Option Json) :=
  [("event", some (.str "order.created")), ("workspace_id", some (.str ws.string)),
   ("order_id", some (.str e.orderID)), ("catalog_id", some (.str e.catalogID)),
   ("items", some (jsonSlice (e.items.map orderItem))), ("total_price", some (.num e.totalPrice)),
   ("currency", some (.str e.currency)), ("wamid", some (.str e.wamid)), ("contact_id", some (.str e.contactID)),
   ("trace_id", some (.str e.traceID))]

def orderDoc (ws : UUID) (e : OrderCreatedEvent) : Document :=
  Document.ofEntries (orderEntries ws e) (by
    simp only [orderEntries, List.map_cons, List.map_nil]
    decide +kernel)

/-- mirrors domain/chat.go:80-84 -/
def reaction (r : Reaction) : Json :=
  jsonStruct
    [("emoji", some (.str r.emoji)), ("sender", some (.str r.sender)), ("created_at", some (.str (tt.json r.createdAt)))]

/-- mirrors chat.go:87-97 -/
def reactionEntries (p : ReactionUpdatedPayload) : List (String × Option Json) :=
  [("event", some (.str p.event)), ("workspace_id", some (.str p.workspaceID.string)), ("chat_id", omitEmpty p.chatID),
   ("message_uid", some (.str p.messageUID)), ("emoji", some (.str p.emoji)), ("sender", some (.str p.sender)),
   ("action", some (.str p.action)), ("reactions", some (jsonSlice (p.reactions.map (reaction tt)))),
   ("timestamp", some (.str (tt.rfc3339 p.timestamp)))]

def reactionDoc (p : ReactionUpdatedPayload) : Document :=
  Document.ofEntries (reactionEntries tt p) (by
    simp only [reactionEntries, List.map_cons, List.map_nil]
    decide +kernel)

/-- mirrors processor.go:215-221 -/
def statusDoc (p : MessageStatusUpdatedPayload) : Document :=
  Document.ofEntries
    [("workspace_id", some (.str p.workspaceID.string)), ("dispatch_id", some (.str p.dispatchID.string)),
     ("message_id", some (.str p.messageID)), ("status", some (.str p.status)),
     ("timestamp", some (.str (tt.rfc3339 p.timestamp)))]
    (by
      simp only [List.map_cons, List.map_nil]
      decide +kernel)

end Documents

end Payload

/-- `json.Marshal`; `none` when it fails. -/
def InPayload.marshal (tt : TimeText) : InPayload → Option Document
  | .reactionUpdated p => some (Payload.reactionDoc tt p)
  | .statusUpdated p => some (Payload.statusDoc tt p)
  | .inboundMessage p => Payload.message tt p
  | .flowCompleted ws e => (GoVal.encodeMap e.data).map (Payload.flowDoc ws e)
  | .orderCreated ws e => some (Payload.orderDoc ws e)

end PerGo.L3
