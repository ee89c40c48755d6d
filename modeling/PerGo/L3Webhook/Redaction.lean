import PerGo.L3Inbound.Payload
import PerGo.L3Webhook.Worker

/-!
# What redaction leaves

The documents of `InboundProcessor` as the webhook worker and the redaction of
`webhook/dispatcher.go` read them. `SameButHashes` compares two bodies up to the hashed
`from` and the hashed `metadata.participant`.

A message keeps its metadata. Of a flow or an order event the redaction keeps only the names that
an inbound event has, so that `contact_id` goes.
-/
namespace PerGo.L3.Webhook

open PerGo.Core PerGo.L1 PerGo.L2

/-! ## Bodies up to their hashes -/

def hideParticipant (kv : String × Json) : String × Json := if kv.1 = metaParticipant then (kv.1, .null) else kv

def hideIn : Json → Json
  | .obj kvs => .obj (kvs.map hideParticipant)
  | v => v

/-- A field of a body without what is hashed of it. -/
def hideHashed (kv : String × Json) : String × Json :=
  (kv.1, if kv.1 = "from" then .null else if kv.1 = "metadata" then hideIn kv.2 else kv.2)

def entryIn (key : String) : Json → Option Json
  | .obj kvs => (kvs.find? fun kv => kv.1 = key).map (·.2)
  | _ => none

def metadataOf (d : Document) (key : String) : Option Json := (d.get? "metadata").bind (entryIn key)

section Bodies

variable (sha256Hex : String → String)

def EqualOrHashed (v v' : Option Json) : Prop :=
  v = v' ∨ ∃ s s', v = some (.str (sha256Hex s)) ∧ v' = some (.str (sha256Hex s'))

structure SameButHashes (d d' : Document) : Prop where
  rest : d.fields.map hideHashed = d'.fields.map hideHashed
  sender : EqualOrHashed sha256Hex (d.get? "from") (d'.get? "from")
  participant : EqualOrHashed sha256Hex (metadataOf d metaParticipant) (metadataOf d' metaParticipant)

variable {sha256Hex}

theorem SameButHashes.refl (d : Document) : SameButHashes sha256Hex d d := ⟨rfl, .inl rfl, .inl rfl⟩

theorem find?_hideHashed (fields : List (String × Json)) (name : String) :
    ((fields.map hideHashed).find? fun kv => foldName kv.1 = foldName name) =
      (fields.find? fun kv => foldName kv.1 = foldName name).map hideHashed := by
  rw [List.find?_map]
  rfl

theorem SameButHashes.find? {d d' : Document} (h : SameButHashes sha256Hex d d') (name : String) :
    (d.fields.find? fun kv => foldName kv.1 = foldName name).map hideHashed =
      (d'.fields.find? fun kv => foldName kv.1 = foldName name).map hideHashed := by
  rw [← find?_hideHashed, ← find?_hideHashed, h.rest]

theorem SameButHashes.get? {d d' : Document} (h : SameButHashes sha256Hex d d') {name : String}
    (hfrom : foldName name ≠ foldName "from") (hmeta : foldName name ≠ foldName "metadata") :
    d.get? name = d'.get? name := by
  have hkeep : ∀ kvs : List (String × Json),
      ((kvs.find? fun kv => foldName kv.1 = foldName name).map hideHashed).map (·.2) =
        (kvs.find? fun kv => foldName kv.1 = foldName name).map (·.2) := by
    intro kvs
    cases hfind : kvs.find? fun kv => foldName kv.1 = foldName name with
    | none => rfl
    | some kv =>
      have hfold : foldName kv.1 = foldName name := by simpa using List.find?_some hfind
      have hf : kv.1 ≠ "from" := fun he => hfrom (by rw [← hfold, he])
      have hm : kv.1 ≠ "metadata" := fun he => hmeta (by rw [← hfold, he])
      simp [hideHashed, hf, hm]
  unfold Document.get?
  rw [← hkeep, ← hkeep, h.find? name]

theorem find?_map_key {β : Type} {m : List (String × β)} {key : String} {f : String × β → String × β}
    (hkeys : ∀ kv, (f kv).1 = kv.1) (hkeep : ∀ kv, kv.1 = key → f kv = kv) :
    ((m.map f).find? fun kv => kv.1 = key) = m.find? fun kv => kv.1 = key := by
  induction m with
  | nil => rfl
  | cons kv m ih =>
    rw [List.map_cons, List.find?_cons, List.find?_cons, hkeys, ih]
    by_cases hk : kv.1 = key
    · rw [hkeep kv hk]
    · simp [hk]

theorem entryIn_hideIn {key : String} (hkey : key ≠ metaParticipant) (v : Json) : entryIn key (hideIn v) = entryIn key v := by
  cases v with
  | obj kvs =>
    refine congrArg (Option.map (·.2)) (find?_map_key (fun kv => ?_) fun kv hk => ?_)
    · unfold hideParticipant
      split <;> rfl
    · exact if_neg (hk ▸ hkey)
  | _ => rfl

theorem SameButHashes.metadataOf {d d' : Document} (h : SameButHashes sha256Hex d d') {key : String}
    (hkey : key ≠ metaParticipant) : metadataOf d key = metadataOf d' key := by
  have hkeep : ∀ d : Document, Webhook.metadataOf d key =
      (((d.fields.find? fun kv => foldName kv.1 = foldName "metadata").map hideHashed).map (·.2)).bind (entryIn key) := by
    intro d
    unfold Webhook.metadataOf Document.get?
    cases hfind : d.fields.find? fun kv => foldName kv.1 = foldName "metadata" with
    | none => rfl
    | some kv =>
      have hfold : foldName kv.1 = foldName "metadata" := by simpa using List.find?_some hfind
      have hf : kv.1 ≠ "from" := fun he => absurd hfold (by rw [he]; decide)
      by_cases hm : kv.1 = "metadata"
      · simp [hideHashed, hm, entryIn_hideIn hkey]
      · simp [hideHashed, hf, hm]
  rw [hkeep, hkeep, h.find?]

end Bodies

/-! ## Written entries -/

section Written

variable {entries entries' : List (String × Option Json)} {h : (entries.map fun kv => foldName kv.1).Nodup}
  {h' : (entries'.map fun kv => foldName kv.1).Nodup}

theorem metadataOf_omitEmptyMap {d : Document} {m : StrMap} (hm : (m.map (·.1)).Nodup)
    (hget : d.get? "metadata" = omitEmptyMap m) (key : String) :
    metadataOf d key = (m.find? fun kv => kv.1 = key).map (Json.str ·.2) := by
  unfold metadataOf
  rw [hget]
  unfold omitEmptyMap
  by_cases hnil : m = []
  · subst hnil
    rfl
  · rw [if_neg hnil]
    have hperm := List.perm_insertionSort (fun a b : String × String => a.1 ≤ b.1) m
    have hfind := find?_perm_of_nodup (·.1) hperm ((hperm.map _).nodup_iff.mpr hm) key
    show (((m.insertionSort fun a b => a.1 ≤ b.1).map fun kv => (kv.1, Json.str kv.2)).find? _).map (·.2) = _
    rw [List.find?_map, Option.map_map, ← hfind]
    rfl

end Written

/-! ## What the worker reads -/

/-- The worker takes the event of the document. -/
structure Readable (d : Document) (evt : WebhookEvent) : Prop where
  event : WebhookEvent.unmarshal d = some evt
  safe : safetyCheck d = false

theorem safe_of_absent {d : Document} (hp : d.get? "is_private" = none) (hd : d.get? "direction" = none) :
    safetyCheck d = false := by
  unfold safetyCheck Document.bool Document.string
  rw [hp, hd]
  rfl

/-! ## Messages -/

section Message

variable (tt : TimeText) (p : InboundEventPayload) (interactive : Option Json)

def asInbound : InboundPayload :=
  { event := p.event, traceID := p.traceID, messageID := p.messageID, channel := p.channel,
    timestamp := tt.rfc3339 p.timestamp, workspaceID := p.workspaceID.string, «from» := p.from_, «to» := p.to_,
    body := p.body, media := p.media.map Payload.media, location := p.location.map Payload.location,
    contacts := omitNull (jsonSlice (p.contacts.map Payload.contact)), interactive := interactive,
    story := p.story.map Payload.story, timing := p.timing.map (Payload.timing tt), senderName := p.senderName,
    metadata := p.metadata.insertionSort fun a b => a.1 ≤ b.1 }

theorem jsonStruct_ne_null (entries : List (String × Option Json)) : jsonStruct entries ≠ .null := by
  unfold jsonStruct
  nofun

theorem map_ne_null {α : Type} {f : α → Json} (hf : ∀ a, f a ≠ .null) (o : Option α) : o.map f ≠ some .null := by
  intro h
  obtain ⟨a, -, ha⟩ := Option.map_eq_some_iff.mp h
  exact hf a ha

theorem omitNull_ne_null (j : Json) : omitNull j ≠ some .null := by
  unfold omitNull
  split
  · nofun
  · rename_i hj
    exact fun h => hj (Option.some.inj h)

variable {tt p interactive}

theorem message_field (n : Nat) {name : String} {v : Option Json}
    (h : (Payload.messageEntries tt p interactive)[n]? = some (name, v)) :
    (Payload.messageDoc tt p interactive).get? name = v := Document.get?_ofEntries (List.mem_of_getElem? h)

theorem unmarshal_message (hm : (p.metadata.map (·.1)).Nodup) (hi : interactive ≠ some .null) :
    InboundPayload.unmarshal (Payload.messageDoc tt p interactive) = some (asInbound tt p interactive) := by
  unfold InboundPayload.unmarshal
  rw [Document.string_of_str (message_field 0 rfl), Document.string_of_str (message_field 1 rfl),
    Document.string_of_str (message_field 2 rfl), Document.string_of_str (message_field 3 rfl),
    Document.string_of_str (message_field 4 rfl), Document.string_of_str (message_field 5 rfl),
    Document.string_of_str (message_field 6 rfl), Document.string_of_str (message_field 7 rfl),
    Document.string_of_omitEmpty (message_field 8 rfl),
    Document.any_of_get? (message_field 9 rfl) (map_ne_null (f := Payload.media) (fun _ => jsonStruct_ne_null _) _),
    Document.any_of_get? (message_field 10 rfl) (map_ne_null (f := Payload.location) (fun _ => jsonStruct_ne_null _) _),
    Document.any_of_get? (message_field 11 rfl) (omitNull_ne_null _),
    Document.any_of_get? (message_field 12 rfl) hi,
    Document.any_of_get? (message_field 13 rfl) (map_ne_null (f := Payload.story) (fun _ => jsonStruct_ne_null _) _),
    Document.any_of_get? (message_field 14 rfl) (map_ne_null (f := Payload.timing tt) (fun _ => jsonStruct_ne_null _) _),
    Document.string_of_omitEmpty (message_field 15 rfl), Document.stringMap_of_omitEmptyMap hm (message_field 16 rfl)]
  rfl

theorem message_absent {name : String} (h : name ∈ ["message_uid", "error", "is_private", "direction"]) :
    (Payload.messageDoc tt p interactive).get? name = none := by
  have hnames : ∀ name ∈ ["message_uid", "error", "is_private", "direction"], foldName name ∉
      ["event", "trace_id", "message_id", "channel", "timestamp", "workspace_id", "from", "to", "body", "media",
        "location", "contacts", "interactive", "story_event", "timing", "sender_name", "metadata"].map foldName := by
    decide +kernel
  exact Document.get?_ofEntries_absent (hnames name h)

theorem readable_message : Readable (Payload.messageDoc tt p interactive)
    ⟨p.event, p.traceID, p.messageID, p.workspaceID.string⟩ where
  event := by
    unfold WebhookEvent.unmarshal
    rw [Document.string_of_str (message_field 0 rfl), Document.string_of_str (message_field 1 rfl),
      Document.string_of_str (message_field 2 rfl), Document.string_of_none (message_absent (by simp)),
      Document.string_of_str (message_field 3 rfl), Document.string_of_str (message_field 4 rfl),
      Document.string_of_str (message_field 5 rfl), Document.string_of_none (message_absent (by simp))]
    simp
  safe := safe_of_absent (message_absent (by simp)) (message_absent (by simp))

theorem redact_message (sha256Hex : String → String) (hm : (p.metadata.map (·.1)).Nodup) (hi : interactive ≠ some .null) :
    redactPayload sha256Hex (Payload.messageDoc tt p interactive) = ((asInbound tt p interactive).redact sha256Hex).marshal := by
  unfold redactPayload
  rw [unmarshal_message hm hi]

theorem metadata_marshal (q : InboundPayload) : q.marshal.get? "metadata" = omitEmptyMap q.metadata :=
  Document.get?_ofEntries (List.mem_of_getElem? (i := 16) rfl)

theorem InboundPayload.metadataOf_redact {q : InboundPayload} (hq : (q.metadata.map (·.1)).Nodup)
    (sha256Hex : String → String) {key : String} (hkey : key ≠ metaParticipant) :
    metadataOf (q.redact sha256Hex).marshal key = (q.metadata.find? fun kv => kv.1 = key).map (Json.str ·.2) := by
  have hkeys : ∀ kv : String × String, (if kv.1 = metaParticipant then (kv.1, sha256Hex kv.2) else kv).1 = kv.1 := by
    intro kv
    split <;> rfl
  have hnodup : ((q.redact sha256Hex).metadata.map (·.1)).Nodup := by
    unfold InboundPayload.redact
    dsimp only
    split
    · rw [List.map_map]
      exact (List.map_congr_left fun kv _ => hkeys kv) ▸ hq
    · exact hq
  rw [metadataOf_omitEmptyMap hnodup (metadata_marshal _)]
  unfold InboundPayload.redact
  dsimp only
  split
  · rw [find?_map_key hkeys fun kv hk => if_neg (hk ▸ hkey)]
  · rfl

theorem asInbound_metadata_nodup (hm : (p.metadata.map (·.1)).Nodup) :
    ((asInbound tt p interactive).metadata.map (·.1)).Nodup :=
  ((List.perm_insertionSort (fun a b : String × String => a.1 ≤ b.1) p.metadata).map _).nodup_iff.mpr hm

theorem asInbound_metadata_find? (hm : (p.metadata.map (·.1)).Nodup) (key : String) :
    ((asInbound tt p interactive).metadata.find? fun kv => kv.1 = key) = p.metadata.find? fun kv => kv.1 = key := by
  have hn : ((asInbound tt p interactive).metadata.map (·.1)).Nodup := asInbound_metadata_nodup hm
  exact find?_perm_of_nodup (·.1) (List.perm_insertionSort (fun a b : String × String => a.1 ≤ b.1) p.metadata) hn key

theorem metadataOf_redact (sha256Hex : String → String) (hm : (p.metadata.map (·.1)).Nodup)
    (hi : interactive ≠ some .null) {key : String} (hkey : key ≠ metaParticipant) :
    metadataOf (redactPayload sha256Hex (Payload.messageDoc tt p interactive)) key =
      (p.metadata.find? fun kv => kv.1 = key).map (Json.str ·.2) := by
  rw [redact_message sha256Hex hm hi, InboundPayload.metadataOf_redact (asInbound_metadata_nodup hm) sha256Hex hkey,
    asInbound_metadata_find? hm key]

end Message

/-! ## Events without the fields of a message -/

def messageNames : List String :=
  ["message_id", "message_uid", "channel", "timestamp", "error", "is_private", "direction", "from", "to", "body",
   "media", "location", "contacts", "interactive", "story_event", "timing", "sender_name", "metadata"]

structure Bare (d : Document) (event trace ws : String) : Prop where
  event : d.string "event" = some event
  trace : d.string "trace_id" = some trace
  ws : d.string "workspace_id" = some ws
  absent : ∀ name ∈ messageNames, d.get? name = none

theorem Bare.string_none {d : Document} {event trace ws name : String} (h : Bare d event trace ws)
    (hname : name ∈ messageNames) : d.string name = some "" := Document.string_of_none (h.absent name hname)

theorem Bare.any_none {d : Document} {event trace ws name : String} (h : Bare d event trace ws)
    (hname : name ∈ messageNames) : d.any name = none := Document.any_of_none (h.absent name hname)

theorem Bare.readable {d : Document} {event trace ws : String} (h : Bare d event trace ws) :
    Readable d ⟨event, trace, "", ws⟩ where
  event := by
    unfold WebhookEvent.unmarshal
    rw [h.event, h.trace, h.ws, h.string_none (by decide), h.string_none (by decide), h.string_none (by decide),
      h.string_none (by decide), h.string_none (by decide)]
    rfl
  safe := safe_of_absent (h.absent _ (by decide)) (h.absent _ (by decide))

theorem Bare.unmarshal {d : Document} {event trace ws : String} (h : Bare d event trace ws) :
    InboundPayload.unmarshal d =
      some ⟨event, trace, "", "", "", ws, "", "", "", none, none, none, none, none, none, "", []⟩ := by
  unfold InboundPayload.unmarshal
  rw [h.event, h.trace, h.ws, h.string_none (by decide), h.string_none (by decide), h.string_none (by decide),
    h.string_none (by decide), h.string_none (by decide), h.string_none (by decide), h.string_none (by decide),
    h.any_none (by decide), h.any_none (by decide), h.any_none (by decide), h.any_none (by decide),
    h.any_none (by decide), h.any_none (by decide), Document.stringMap_of_none (h.absent _ (by decide))]
  rfl

theorem Bare.redact {d : Document} {event trace ws : String} (h : Bare d event trace ws)
    (sha256Hex : String → String) :
    redactPayload sha256Hex d =
      ((InboundPayload.mk event trace "" "" "" ws "" "" "" none none none none none none "" []).redact sha256Hex).marshal := by
  unfold redactPayload
  rw [h.unmarshal]

theorem bare_flow (ws : UUID) (e : FlowCompletedEvent) (data : List (String × Json)) :
    Bare (Payload.flowDoc ws e data) "flow.completed" e.traceID ws.string where
  event := Document.string_of_str (Document.get?_ofEntries (List.mem_of_getElem? (i := 0) rfl))
  trace := Document.string_of_omitEmpty (Document.get?_ofEntries (List.mem_of_getElem? (i := 7) rfl))
  ws := Document.string_of_str (Document.get?_ofEntries (List.mem_of_getElem? (i := 1) rfl))
  absent := by
    have hnames : ∀ name ∈ messageNames, foldName name ∉
        ["event", "workspace_id", "screen", "data", "flow_token", "contact_id", "wamid", "trace_id"].map foldName := by
      decide +kernel
    exact fun name h => Document.get?_ofEntries_absent (hnames name h)

theorem bare_order (ws : UUID) (e : OrderCreatedEvent) :
    Bare (Payload.orderDoc ws e) "order.created" e.traceID ws.string where
  event := Document.string_of_str (Document.get?_ofEntries (List.mem_of_getElem? (i := 0) rfl))
  trace := Document.string_of_str (Document.get?_ofEntries (List.mem_of_getElem? (i := 9) rfl))
  ws := Document.string_of_str (Document.get?_ofEntries (List.mem_of_getElem? (i := 1) rfl))
  absent := by
    have hnames : ∀ name ∈ messageNames, foldName name ∉
        ["event", "workspace_id", "order_id", "catalog_id", "items", "total_price", "currency", "wamid", "contact_id",
          "trace_id"].map foldName := by
      decide +kernel
    exact fun name h => Document.get?_ofEntries_absent (hnames name h)

end PerGo.L3.Webhook
