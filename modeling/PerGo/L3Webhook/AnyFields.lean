import PerGo.L3Webhook.Redaction

/-!
# Fields the redaction reads into `any`

The struct of the redaction has `media`, `location`, `contacts`, `interactive`, `story_event` and `timing` as `any`.
A number read into `any` is a `float64` and is written back as one: `float` is what comes of it, the number itself
where it is a `float64`, a neighbour where it is an integer beyond `2^53` that is none. A value is compared up to the
order of its keys.

`dispatched` is `Dispatch` with those numbers; with `float` the identity it is `dispatch` (`dispatched_id`).
-/
namespace PerGo.L3.Webhook

open PerGo.L1

section Numbers

variable (float : Dec → Dec)

mutual
/-- A value read into `any` and written back. -/
def anyValue : Json → Json
  | .null => .null
  | .bool b => .bool b
  | .num n => .num (float n)
  | .str s => .str s
  | .arr xs => .arr (anySlice xs)
  | .obj kvs => .obj (anyMap kvs)

def anySlice : List Json → List Json
  | [] => []
  | x :: xs => anyValue x :: anySlice xs

def anyMap : List (String × Json) → List (String × Json)
  | [] => []
  | (k, x) :: kvs => (k, anyValue x) :: anyMap kvs
end

def InboundPayload.anyFields (p : InboundPayload) : InboundPayload :=
  { p with
    media := p.media.map (anyValue float)
    location := p.location.map (anyValue float)
    contacts := p.contacts.map (anyValue float)
    interactive := p.interactive.map (anyValue float)
    story := p.story.map (anyValue float)
    timing := p.timing.map (anyValue float) }

/-- The fields `marshal` writes. -/
def InboundPayload.entries (p : InboundPayload) : List (String × Option Json) :=
  [("event", some (.str p.event)), ("trace_id", some (.str p.traceID)), ("message_id", some (.str p.messageID)),
   ("channel", some (.str p.channel)), ("timestamp", some (.str p.timestamp)),
   ("workspace_id", some (.str p.workspaceID)), ("from", some (.str p.from)), ("to", omitEmpty p.to),
   ("body", omitEmpty p.body), ("media", p.media), ("location", p.location), ("contacts", p.contacts),
   ("interactive", p.interactive), ("story_event", p.story), ("timing", p.timing),
   ("sender_name", omitEmpty p.senderName), ("metadata", omitEmptyMap p.metadata)]

theorem InboundPayload.mem_marshal {p : InboundPayload} {name : String} {v : Json} :
    (name, v) ∈ p.marshal.fields ↔ (name, some v) ∈ p.entries := @Document.mem_present p.entries name v

theorem InboundPayload.marshal_field {p : InboundPayload} (n : Nat) {name : String} {v : Option Json}
    (h : p.entries[n]? = some (name, v)) : p.marshal.get? name = v := Document.get?_ofEntries (List.mem_of_getElem? h)

theorem InboundPayload.marshal_absent {p : InboundPayload} {name : String}
    (h : foldName name ∉ p.entries.map fun kv => foldName kv.1) : p.marshal.get? name = none :=
  Document.get?_ofEntries_absent h

mutual
theorem anyValue_id : ∀ v, anyValue id v = v
  | .null | .bool _ | .num _ | .str _ => rfl
  | .arr xs => congrArg Json.arr (anySlice_id xs)
  | .obj kvs => congrArg Json.obj (anyMap_id kvs)

theorem anySlice_id : ∀ xs, anySlice id xs = xs
  | [] => rfl
  | x :: xs => congrArg₂ List.cons (anyValue_id x) (anySlice_id xs)

theorem anyMap_id : ∀ kvs, anyMap id kvs = kvs
  | [] => rfl
  | (k, x) :: kvs => congrArg₂ (fun v rest => (k, v) :: rest) (anyValue_id x) (anyMap_id kvs)
end

theorem InboundPayload.anyFields_id (p : InboundPayload) : p.anyFields id = p := by
  have hid : anyValue id = id := funext anyValue_id
  unfold InboundPayload.anyFields
  simp only [hid, Option.map_id, id_eq]

section Dispatch

variable (sha256Hex : String → String)

/-- mirrors webhook/dispatcher.go:184-224 -/
def redactAny (payload : Document) : Document :=
  match InboundPayload.unmarshal payload with
  | some p => ((p.anyFields float).redact sha256Hex).marshal
  | none => payload

/-- mirrors dispatcher.go:161-226 -/
def postedBody (wsOptIn : Bool) (task : WebhookDeliveryTask) : Option Document :=
  if safetyCheck task.payload then none
  else if task.mode = .inbound ∧ wsOptIn = false then some (redactAny float sha256Hex task.payload)
  else some task.payload

/-- mirrors dispatcher.go:142-297 -/
def dispatched (cb : CircuitBreaker) (env : DispatchEnv) (task : WebhookDeliveryTask) : DispatchResult :=
  dispatchWith (postedBody float sha256Hex) cb env task

theorem postedBody_id : postedBody id sha256Hex = webhookBody sha256Hex := by
  have hredact : redactAny id sha256Hex = redactPayload sha256Hex := by
    funext payload
    unfold redactAny redactPayload
    cases InboundPayload.unmarshal payload with
    | none => rfl
    | some p =>
      show ((p.anyFields id).redact sha256Hex).marshal = _
      rw [InboundPayload.anyFields_id]
  funext wsOptIn task
  unfold postedBody webhookBody
  rw [hredact]

theorem dispatched_id (cb : CircuitBreaker) (env : DispatchEnv) (task : WebhookDeliveryTask) :
    dispatched id sha256Hex cb env task = dispatch sha256Hex cb env task := by
  unfold dispatched
  rw [postedBody_id]
  rfl

variable {float sha256Hex}

theorem post_redacted {cb : CircuitBreaker} {env : DispatchEnv} {task : WebhookDeliveryTask} {post : Post}
    (h : (dispatched float sha256Hex cb env task).post = some post) (hmode : task.mode = .inbound)
    (hopt : env.wsOptIn task.workspaceID = false) : post.body = redactAny float sha256Hex task.payload := by
  have hbody := dispatchWith_post h
  unfold postedBody at hbody
  split at hbody
  · cases hbody
  · rw [if_pos ⟨hmode, hopt⟩] at hbody
    exact (Option.some.inj hbody).symm

end Dispatch

end Numbers

end PerGo.L3.Webhook
