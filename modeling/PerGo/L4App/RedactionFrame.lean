import PerGo.L3Webhook.AnyFields

/-!
# What redaction leaves of an event

The redaction decodes every event of `inbound.events` into the struct of a message, and encodes that. So of
`flow.completed` it loses the screen and the data and of `order.created` the whole order; of a message it loses
nothing but an empty `to`, which the event writes and the struct omits, and the integers that are no `float64`.

* `Framed`: every field but the personal ones is in the body with its value, and so is every entry of the
  metadata but the participant.
* `redaction_framed_iff`: what `Dispatch` posts without the opt-in is framed exactly for a message with a `to`
  whose numbers stay as they are.
* `submission_lost`: the data of a form submission is not posted.
-/
namespace PerGo.L4.RedactionFrame

open PerGo.L1 PerGo.L2 PerGo.L3 PerGo.L3.Webhook

/-- The fields redaction may change, but for the participant. -/
def personalFields : List String := ["from", "location", "contacts", "contact_id"]

structure Framed (event body : Document) : Prop where
  rest : ∀ name v, (name, v) ∈ event.fields → name ∉ personalFields → name ≠ "metadata" → (name, v) ∈ body.fields
  metadata : (event.get? "metadata").isSome → (body.get? "metadata").isSome
  entries : ∀ key, key ≠ metaParticipant → metadataOf body key = metadataOf event key

/-- An event published on `inbound.events`. The metadata of a message is a Go map. -/
inductive PublishedEvent
  | inboundMessage (p : InboundEventPayload) (distinct : (p.metadata.map (·.1)).Nodup)
  | flowCompleted (workspaceID : UUID) (ev : FlowCompletedEvent)
  | orderCreated (workspaceID : UUID) (ev : OrderCreatedEvent)

def PublishedEvent.payload : PublishedEvent → InPayload
  | .inboundMessage p _ => .inboundMessage p
  | .flowCompleted ws ev => .flowCompleted ws ev
  | .orderCreated ws ev => .orderCreated ws ev

/-- The other fields the redaction reads into `any`. -/
def anyNames : List String := ["media", "interactive", "story_event", "timing"]

def NumbersKept (float : Dec → Dec) (event : Document) : Prop :=
  ∀ name ∈ anyNames, ∀ v, event.get? name = some v → anyValue float v = v

/-- The events whose fields all have a place in the struct of the redaction. -/
def PublishedEvent.Covered (float : Dec → Dec) (event : Document) : PublishedEvent → Prop
  | .inboundMessage p _ => p.to_ ≠ "" ∧ NumbersKept float event
  | .flowCompleted _ _ => False
  | .orderCreated _ _ => False

/-! ## Fields one by one -/

/-- An entry written again under its name, with its value unless it is personal. -/
def KeptEntry (a b : String × Option Json) : Prop :=
  a.1 = b.1 ∧ (a.1 ∉ personalFields → a.1 ≠ "metadata" → ∀ v, a.2 = some v → b.2 = some v)

theorem mem_of_keptEntries {xs ys : List (String × Option Json)} (h : List.Forall₂ KeptEntry xs ys) {name : String}
    {v : Json} (hmem : (name, some v) ∈ xs) (hpersonal : name ∉ personalFields) (hmeta : name ≠ "metadata") :
    (name, some v) ∈ ys := by
  induction h with
  | nil => cases hmem
  | @cons a b xs ys hab _ ih =>
    rcases List.mem_cons.mp hmem with rfl | hrest
    · obtain ⟨bname, bvalue⟩ := b
      obtain ⟨hname, hvalue⟩ := hab
      have hb : bvalue = some v := hvalue hpersonal hmeta v rfl
      have hn : name = bname := hname
      rw [hn, hb]
      exact List.mem_cons_self
    · exact List.mem_cons_of_mem _ (ih hrest)

section Message

variable {float : Dec → Dec} {sha256Hex : String → String} {tt : TimeText} {p : InboundEventPayload}
  {interactive : Option Json}

variable (float sha256Hex tt p interactive) in
def postedMessage : InboundPayload := ((asInbound tt p interactive).anyFields float).redact sha256Hex

theorem redactAny_message (hm : (p.metadata.map (·.1)).Nodup) (hi : interactive ≠ some .null) :
    redactAny float sha256Hex (Payload.messageDoc tt p interactive) =
      (postedMessage float sha256Hex tt p interactive).marshal := by
  unfold redactAny
  rw [unmarshal_message hm hi]
  rfl

theorem anyValue_of_kept {event body : Document} {name : String} {o : Option Json} (hframe : Framed event body)
    (hevent : event.get? name = o) (hmem : ∀ v, o = some v → (name, v) ∈ event.fields)
    (hbody : body.get? name = o.map (anyValue float)) (hpersonal : name ∉ personalFields) (hmeta : name ≠ "metadata")
    {v : Json} (hv : event.get? name = some v) : anyValue float v = v := by
  have ho : o = some v := hevent.symm.trans hv
  have hkept : body.get? name = some v := Document.get?_of_mem (hframe.rest name v (hmem v ho) hpersonal hmeta)
  rw [hbody, ho] at hkept
  exact Option.some.inj hkept

theorem mem_messageDoc {name : String} {v : Json} :
    (name, v) ∈ (Payload.messageDoc tt p interactive).fields ↔ (name, some v) ∈ Payload.messageEntries tt p interactive :=
  Document.mem_present

theorem keptEntries (hto : p.to_ ≠ "") (hnum : NumbersKept float (Payload.messageDoc tt p interactive)) :
    List.Forall₂ KeptEntry (Payload.messageEntries tt p interactive)
      (postedMessage float sha256Hex tt p interactive).entries := by
  have hsame : ∀ {name : String} {o : Option Json}, KeptEntry (name, o) (name, o) := ⟨rfl, fun _ _ _ h => h⟩
  have hpersonal : ∀ {name : String} {o o' : Option Json}, name ∈ personalFields → KeptEntry (name, o) (name, o') :=
    fun hname => ⟨rfl, fun h => absurd hname h⟩
  have hany : ∀ {name : String} {o : Option Json}, name ∈ anyNames →
      (Payload.messageDoc tt p interactive).get? name = o → KeptEntry (name, o) (name, o.map (anyValue float)) := by
    intro name o hname ho
    refine ⟨rfl, fun _ _ v hv => ?_⟩
    have hov : o = some v := hv
    show o.map (anyValue float) = some v
    rw [hov, Option.map_some, hnum name hname v (ho.trans hov)]
  have hfield : KeptEntry ("to", some (.str p.to_)) ("to", omitEmpty p.to_) := by
    refine ⟨rfl, fun _ _ v hv => ?_⟩
    show omitEmpty p.to_ = some v
    rw [← hv]
    exact if_neg hto
  exact .cons hsame (.cons hsame (.cons hsame (.cons hsame (.cons hsame (.cons hsame
    (.cons (hpersonal (by decide)) (.cons hfield (.cons hsame (.cons (hany (by decide) (message_field 9 rfl))
    (.cons (hpersonal (by decide)) (.cons (hpersonal (by decide)) (.cons (hany (by decide) (message_field 12 rfl))
    (.cons (hany (by decide) (message_field 13 rfl)) (.cons (hany (by decide) (message_field 14 rfl)) (.cons hsame
    (.cons ⟨rfl, fun _ h => absurd rfl h⟩ .nil))))))))))))))))

theorem omitEmptyMap_isSome (m : StrMap) : (omitEmptyMap m).isSome ↔ m ≠ [] := by
  unfold omitEmptyMap
  by_cases hm : m = []
  · simp [hm]
  · simp [hm]

theorem redact_metadata_ne_nil {q : InboundPayload} : (q.redact sha256Hex).metadata ≠ [] ↔ q.metadata ≠ [] := by
  unfold InboundPayload.redact
  dsimp only
  split
  · rw [ne_eq, List.map_eq_nil_iff]
  · exact Iff.rfl

theorem asInbound_metadata_ne_nil : (asInbound tt p interactive).metadata ≠ [] ↔ p.metadata ≠ [] := by
  have hperm := List.perm_insertionSort (fun a b : String × String => a.1 ≤ b.1) p.metadata
  exact not_congr ⟨fun h => List.nil_perm.mp (h ▸ hperm), fun h => List.perm_nil.mp (hperm.trans (h ▸ .nil))⟩

theorem framed_message (hm : (p.metadata.map (·.1)).Nodup) (hto : p.to_ ≠ "")
    (hnum : NumbersKept float (Payload.messageDoc tt p interactive)) :
    Framed (Payload.messageDoc tt p interactive) (postedMessage float sha256Hex tt p interactive).marshal where
  rest := by
    intro name v hmem hpersonal hmeta
    exact InboundPayload.mem_marshal.mpr
      (mem_of_keptEntries (keptEntries hto hnum) (mem_messageDoc.mp hmem) hpersonal hmeta)
  metadata := by
    intro h
    rw [message_field 16 rfl, omitEmptyMap_isSome] at h
    rw [metadata_marshal, omitEmptyMap_isSome]
    have hread : (asInbound tt p interactive).metadata ≠ [] := asInbound_metadata_ne_nil.mpr h
    exact (redact_metadata_ne_nil (q := (asInbound tt p interactive).anyFields float)).mpr hread
  entries := by
    intro key hkey
    have hn : ((asInbound tt p interactive).metadata.map (·.1)).Nodup := asInbound_metadata_nodup hm
    have hread : ((asInbound tt p interactive).metadata.find? fun kv => kv.1 = key) =
        p.metadata.find? fun kv => kv.1 = key := asInbound_metadata_find? hm key
    rw [metadataOf_omitEmptyMap hm (message_field 16 rfl), ← hread]
    exact InboundPayload.metadataOf_redact (q := (asInbound tt p interactive).anyFields float) hn sha256Hex hkey

theorem covered_of_framed
    (h : Framed (Payload.messageDoc tt p interactive) (postedMessage float sha256Hex tt p interactive).marshal) :
    p.to_ ≠ "" ∧ NumbersKept float (Payload.messageDoc tt p interactive) := by
  have hmem : ∀ (n : Nat) {name : String} {o : Option Json},
      (Payload.messageEntries tt p interactive)[n]? = some (name, o) → ∀ v, o = some v →
        (name, v) ∈ (Payload.messageDoc tt p interactive).fields :=
    fun n name o hn v hv => mem_messageDoc.mpr (hv ▸ List.mem_of_getElem? hn)
  constructor
  · intro hto
    have hkept := h.rest "to" (.str p.to_) (hmem 7 rfl _ rfl) (by decide) (by decide)
    have hget := Document.get?_of_mem hkept
    rw [InboundPayload.marshal_field 7 rfl] at hget
    have hempty : omitEmpty p.to_ = none := if_pos hto
    cases hempty.symm.trans hget
  · intro name hname v hv
    simp only [anyNames, List.mem_cons, List.not_mem_nil, or_false] at hname
    rcases hname with rfl | rfl | rfl | rfl
    · exact anyValue_of_kept h (message_field 9 rfl) (hmem 9 rfl) (InboundPayload.marshal_field 9 rfl) (by decide)
        (by decide) hv
    · exact anyValue_of_kept h (message_field 12 rfl) (hmem 12 rfl) (InboundPayload.marshal_field 12 rfl) (by decide)
        (by decide) hv
    · exact anyValue_of_kept h (message_field 13 rfl) (hmem 13 rfl) (InboundPayload.marshal_field 13 rfl) (by decide)
        (by decide) hv
    · exact anyValue_of_kept h (message_field 14 rfl) (hmem 14 rfl) (InboundPayload.marshal_field 14 rfl) (by decide)
        (by decide) hv

end Message

/-! ## Events without a place in the struct -/

theorem not_framed {d : Document} {q : InboundPayload} {name : String} {v : Json} (hmem : (name, v) ∈ d.fields)
    (hname : name ∈ ["screen", "order_id"]) : ¬ Framed d q.marshal := by
  have hnames : ∀ name ∈ ["screen", "order_id"], foldName name ∉
        ["event", "trace_id", "message_id", "channel", "timestamp", "workspace_id", "from", "to", "body", "media",
          "location", "contacts", "interactive", "story_event", "timing", "sender_name", "metadata"].map foldName ∧
      name ∉ personalFields ∧ name ≠ "metadata" := by
    decide +kernel
  obtain ⟨habsent, hpersonal, hmeta⟩ := hnames name hname
  intro h
  have hget := Document.get?_of_mem (h.rest name v hmem hpersonal hmeta)
  rw [InboundPayload.marshal_absent habsent] at hget
  cases hget

theorem redactAny_bare {d : Document} {event trace ws : String} (h : Bare d event trace ws) (float : Dec → Dec)
    (sha256Hex : String → String) : ∃ q : InboundPayload, redactAny float sha256Hex d = q.marshal := by
  unfold redactAny
  rw [h.unmarshal]
  exact ⟨_, rfl⟩

theorem not_framed_flow (ws : UUID) (ev : FlowCompletedEvent) (data : List (String × Json)) (float : Dec → Dec)
    (sha256Hex : String → String) :
    ¬ Framed (Payload.flowDoc ws ev data) (redactAny float sha256Hex (Payload.flowDoc ws ev data)) := by
  obtain ⟨q, hq⟩ := redactAny_bare (bare_flow ws ev data) float sha256Hex
  rw [hq]
  exact not_framed (Document.mem_present.mpr (List.mem_of_getElem? (i := 2) rfl)) (by decide)

theorem not_framed_order (ws : UUID) (ev : OrderCreatedEvent) (float : Dec → Dec) (sha256Hex : String → String) :
    ¬ Framed (Payload.orderDoc ws ev) (redactAny float sha256Hex (Payload.orderDoc ws ev)) := by
  obtain ⟨q, hq⟩ := redactAny_bare (bare_order ws ev) float sha256Hex
  rw [hq]
  exact not_framed (Document.mem_present.mpr (List.mem_of_getElem? (i := 2) rfl)) (by decide)

/-! ## What is posted -/

theorem interactive_ne_null {i : InboundInteractive} {j : Json} (h : Payload.interactive i = some j) : j ≠ .null := by
  unfold Payload.interactive at h
  cases hnfm : i.nfmReply with
  | none =>
    rw [hnfm] at h
    cases h
    exact jsonStruct_ne_null _
  | some n =>
    rw [hnfm] at h
    obtain ⟨nfm, -, h⟩ := Option.bind_eq_some_iff.mp h
    cases h
    exact jsonStruct_ne_null _

theorem message_doc {tt : TimeText} {p : InboundEventPayload} {d : Document} (h : Payload.message tt p = some d) :
    ∃ interactive, interactive ≠ some .null ∧ d = Payload.messageDoc tt p interactive := by
  unfold Payload.message at h
  cases hi : p.interactive with
  | none =>
    rw [hi] at h
    cases h
    exact ⟨none, by nofun, rfl⟩
  | some i =>
    rw [hi] at h
    obtain ⟨interactive, hmap, h⟩ := Option.bind_eq_some_iff.mp h
    obtain ⟨j, hj, rfl⟩ := Option.map_eq_some_iff.mp hmap
    cases h
    exact ⟨some j, fun hnull => interactive_ne_null hj (Option.some.inj hnull), rfl⟩

/-- Of the events of `inbound.events`, without the opt-in, exactly the covered ones are posted framed. -/
theorem redaction_framed_iff {float : Dec → Dec} {sha256Hex : String → String} {tt : TimeText}
    {cb : CircuitBreaker} {env : DispatchEnv} {task : WebhookDeliveryTask} {post : Post} {e : PublishedEvent}
    (hevent : e.payload.marshal tt = some task.payload) (hmode : task.mode = .inbound)
    (hopt : env.wsOptIn task.workspaceID = false)
    (hpost : (dispatched float sha256Hex cb env task).post = some post) :
    Framed task.payload post.body ↔ e.Covered float task.payload := by
  rw [post_redacted hpost hmode hopt]
  cases e with
  | inboundMessage p hm =>
    obtain ⟨interactive, hi, hdoc⟩ := message_doc hevent
    rw [hdoc, redactAny_message hm hi]
    exact ⟨covered_of_framed, fun ⟨hto, hnum⟩ => framed_message hm hto hnum⟩
  | flowCompleted ws ev =>
    obtain ⟨data, -, hdoc⟩ := Option.map_eq_some_iff.mp hevent
    rw [← hdoc]
    exact iff_of_false (not_framed_flow ws ev data float sha256Hex) id
  | orderCreated ws ev =>
    have hdoc : Payload.orderDoc ws ev = task.payload := Option.some.inj hevent
    rw [← hdoc]
    exact iff_of_false (not_framed_order ws ev float sha256Hex) id

section Sample

/-- SHA-256 of the two senders below. -/
def sampleSha256 : String → String
  | "5511999990000" => "fdf907652d0eba55c4f9fba1638451dba1c13080e0b5aa89d1f661cd0752a4ab"
  | "" => "e3b0c44298fc1c149afbf4c8996fb92427ae41e4649b934ca495991b7852b855"
  | s => s

/-- A subscriber that answers 200, in a workspace without the opt-in. -/
def noOptIn : DispatchEnv where
  now := 0
  getSub := fun _ => .ok (some ⟨20, 7, "https://hooks.example/in", "secret", ["*"], true⟩)
  wsStore := some fun _ => some ⟨false, none⟩
  newRequest := fun _ => none
  client := fun _ => .ok (200, "200 OK")

def taskOf (event : String) (payload : Document) : WebhookDeliveryTask := ⟨1, 20, 7, event, "t-1", "m-1", payload, .inbound⟩

theorem posted_noOptIn {event : String} {payload : Document} (hsafe : safetyCheck payload = false) :
    (dispatched id sampleSha256 (CircuitBreaker.new 5 0) noOptIn (taskOf event payload)).post =
      some ⟨"https://hooks.example/in", "secret", "t-1", redactAny id sampleSha256 payload⟩ := by
  have hbody : postedBody id sampleSha256 false (taskOf event payload) = some (redactAny id sampleSha256 payload) := by
    unfold postedBody
    rw [if_neg (by simpa [taskOf] using hsafe)]
    rfl
  have hopt : noOptIn.wsOptIn (taskOf event payload).workspaceID = false := rfl
  show (dispatchWith (fun _ _ => postedBody id sampleSha256 (noOptIn.wsOptIn (taskOf event payload).workspaceID)
    (taskOf event payload)) (CircuitBreaker.new 5 0) noOptIn (taskOf event payload)).post = _
  rw [hopt, hbody]
  rfl

def noonText : TimeText := ⟨fun _ => "2023-11-14T12:00:00Z", fun _ => "2023-11-14T12:00:00Z"⟩

def oiMessage : InboundEventPayload :=
  { event := "inbound_message", traceID := "t-1", messageID := "wamid.1", channel := "whatsapp_cloud", timestamp := 0,
    workspaceID := 7, from_ := "5511999990000", to_ := "5511888880000", body := "oi", media := none, location := none,
    contacts := [], interactive := none, story := none, timing := none, senderName := "Ana",
    metadata := [("kind", "text")] }

theorem message_framed :
    (dispatched id sampleSha256 (CircuitBreaker.new 5 0) noOptIn
        (taskOf "inbound_message" (Payload.messageDoc noonText oiMessage none))).post =
      some ⟨"https://hooks.example/in", "secret", "t-1",
        redactAny id sampleSha256 (Payload.messageDoc noonText oiMessage none)⟩ ∧
    Framed (Payload.messageDoc noonText oiMessage none)
      (redactAny id sampleSha256 (Payload.messageDoc noonText oiMessage none)) := by
  have hread : Readable (Payload.messageDoc noonText oiMessage none) _ := readable_message
  have hpost : (dispatched id sampleSha256 (CircuitBreaker.new 5 0) noOptIn (taskOf "inbound_message" _)).post = _ :=
    posted_noOptIn hread.safe
  have hcovered : (PublishedEvent.inboundMessage oiMessage (by decide)).Covered id
      (Payload.messageDoc noonText oiMessage none) := ⟨by decide, fun _ _ v _ => anyValue_id v⟩
  exact ⟨hpost, (redaction_framed_iff rfl rfl rfl hpost).mpr hcovered⟩

def addressForm : FlowCompletedEvent :=
  { screen := "ADDRESS", data := [("street", .string "Rua A, 10")], flowToken := "token-1",
    contactID := "5511999990000", wamid := "wamid.2", traceID := "t-1" }

/-- A form submission arrives without its screen and its data. -/
theorem submission_lost :
    ∃ payload post, (InPayload.flowCompleted 7 addressForm).marshal noonText = some payload ∧
      (dispatched id sampleSha256 (CircuitBreaker.new 5 0) noOptIn (taskOf "flow.completed" payload)).post = some post ∧
      ("screen", Json.str "ADDRESS") ∈ payload.fields ∧ payload.get? "data" = some (.obj [("street", .str "Rua A, 10")]) ∧
      post.body.get? "screen" = none ∧ post.body.get? "data" = none ∧ ¬ Framed payload post.body := by
  have hbare := bare_flow 7 addressForm [("street", .str "Rua A, 10")]
  obtain ⟨q, hq⟩ := redactAny_bare hbare id sampleSha256
  have habsent : ∀ name ∈ ["screen", "data"], foldName name ∉
      ["event", "trace_id", "message_id", "channel", "timestamp", "workspace_id", "from", "to", "body", "media",
        "location", "contacts", "interactive", "story_event", "timing", "sender_name", "metadata"].map foldName := by
    decide +kernel
  refine ⟨_, _, rfl, posted_noOptIn hbare.readable.safe,
    Document.mem_present.mpr (List.mem_of_getElem? (i := 2) rfl),
    Document.get?_ofEntries (List.mem_of_getElem? (i := 3) rfl), ?_, ?_,
    not_framed_flow 7 addressForm _ id sampleSha256⟩
  · rw [hq]
    exact InboundPayload.marshal_absent (habsent "screen" (by decide))
  · rw [hq]
    exact InboundPayload.marshal_absent (habsent "data" (by decide))

end Sample

end PerGo.L4.RedactionFrame
