import PerGo.L3Channel.Waba
import PerGo.L3Chat.RecorderSpec
import PerGo.L3Outbound.Processor
import PerGo.L4App.FallbackCredentials

/-!
# The template gate and the WhatsApp Cloud adapter

`Ingest` lets a message pass without an open service window when its template name or
its type says template; `WABAAdapter.Dispatch` decides later, from other fields, what goes
over the wire. They disagree: a request of type `template` without a name is sent as text,
a template with media is sent as media, an override is sent as it is; the gate is not
asked about a fallback to `whatsapp_cloud`, is asked about the chat that `chat_id` or
`contact_id` name, and passes a trace id it has seen.

* `sendsTemplate`: the request goes out as a template.
* `GateAsked`: the gate was asked about the recipient's own chat.
* `gate_matches_wire`: where one of the two holds, a message that goes out on WhatsApp Cloud
  is a template or had an open window. Any other message goes out whatever the window is.
-/
namespace PerGo.L4.TemplateGate

open PerGo.Core PerGo.L1 PerGo.L2 PerGo.L3 PerGo.L3.Recorder PerGo.L3.Outbound PerGo.L3.Channel

/-- `Dispatch` sends the request as a template: by an override of that type, or with a template name and neither
override nor media. -/
def sendsTemplate (req : CreateMessageRequest) : Bool :=
  match req.channelOverrides.lookup "whatsapp_cloud" with
  | some override => (WabaRequest.raw override).type = "template"
  | none => req.media.isNone && (req.templateName ≠ "" || req.metadata.get "template_name" ≠ "")

/-- `At`, the time the gate goes by. -/
def ingestTime (env : IngestEnv) : Time := atOf env.act.apply env.now

/-- What the gate is asked about when the turn is no template. -/
def askedRef (req : CreateMessageRequest) (conn : UUID) : ChatRef :=
  match req.chatID.filter (· ≠ UUID.Nil), req.contactID.filter (· ≠ UUID.Nil) with
  | some id, _ => ChatID id
  | none, some contact => ChatOf conn contact
  | none, none => ChatAt conn req.to_

/-- The gate is asked about the chat of the recipient: the turn is recorded on the first channel, is no template by
name or type, its uid is new, and `chat_id`, `contact_id` or the address lead to the recipient's chat. -/
structure GateAsked (p : Processor) (env : IngestEnv) (db : ChatDB) (ws : UUID) (trace : String)
    (req : CreateMessageRequest) (conn : UUID) (i : Nat) : Prop where
  recorded : p.activity = true
  first : i = 0
  noName : trimSpace req.templateName = ""
  noType : equalFold (trimSpace req.type) "template" = false
  newUID : loadMessageByUID db ws (trimSpace (if trace = "" then env.newUID else trace)) = none
  own : refChat db ws ((askedRef req conn).withChannel "whatsapp_cloud") = recipientChat db ws conn req.to_

/-! ## The gate -/

section Gate

variable {p : Processor} {env : IngestEnv} {db db' : ChatDB} {ws : UUID} {trace : String}
variable {req req' : CreateMessageRequest} {conn : Connection} {q : QueueMessage}

theorem prepared_noType (h : Prepared req req') (ht : equalFold (trimSpace req.type) "template" = false) :
    equalFold (trimSpace req'.type) "template" = false := by
  rcases h.type with h | h | h
  · rw [h]
    exact ht
  · rw [h]
    decide +kernel
  · rw [h]
    decide +kernel

theorem windowOpen_of_recorded (hq : q = queueMessage env ws trace conn req') (hprep : Prepared req req')
    (hcloud : q.channel = "whatsapp_cloud") {i : Nat} (ha : GateAsked p env db ws trace req conn.id i)
    (hrec : recordOutboundTurn p env db ws trace req' conn q = .ok db') :
    WindowOpen db ws conn.id req.to_ (ingestTime env) := by
  have hto : q.to_ = req.to_ := by rw [hq]; exact hprep.to_
  have hname : trimSpace q.templateName = "" := by
    rw [hq]
    exact (congrArg trimSpace hprep.templateName).trans ha.noName
  have htype : equalFold (trimSpace q.type) "template" = false := by
    rw [hq]
    exact prepared_noType hprep ha.noType
  have hnot : isTemplate q = false := by simp [isTemplate, hname, htype]
  have hchannel : (if q.channel = "" then conn.channel else q.channel) = "whatsapp_cloud" := by
    rw [hcloud, if_neg (by decide)]
  have hchat : (outboundTurn p env trace req' conn q).chat = (askedRef req conn.id).withChannel "whatsapp_cloud" := by
    simp only [outboundTurn, chatRef, askedRef, hchannel, hprep.chatID, hprep.contactID, hnot, hto]
    cases req.chatID.filter (· ≠ UUID.Nil) <;> cases req.contactID.filter (· ≠ UUID.Nil) <;> simp
  have hgate : equalFold (trimSpace (gateType (outboundTurn p env trace req' conn q))) "template" = false := by
    have hg : gateType (outboundTurn p env trace req' conn q) =
        if trimSpace q.type = "" then "text" else trimSpace q.type := by
      unfold gateType
      rw [if_neg (not_not_intro (show trimSpace (outboundTurn p env trace req' conn q).templateName = "" from hname))]
      rfl
    rw [hg]
    by_cases h : trimSpace q.type = ""
    · rw [if_pos h]
      decide +kernel
    · rw [if_neg h, trimSpace_trimSpace]
      exact htype
  have hat : atOf env.act.apply (outboundTurn p env trace req' conn q).at_ = ingestTime env := by
    simp [outboundTurn, hq, queueMessage, ingestTime]
  unfold recordOutboundTurn at hrec
  simp only [ha.recorded, Bool.not_true, Bool.false_eq_true, if_false] at hrec
  cases hout : outbound db env.act ws (outboundTurn p env trace req' conn q) with
  | error e => rw [hout] at hrec; cases hrec
  | ok out =>
    obtain ⟨c, exp, hc, hexp, hlt⟩ := outbound_window hout hchat hchannel hgate ha.newUID
    exact ⟨c, exp, ha.own ▸ hc, hexp, hat ▸ hlt⟩

end Gate

/-! ## The whole way -/

theorem wire_type {p : Processor} {env : IngestEnv} {db db' : ChatDB} {ws : UUID} {trace : String}
    {req : CreateMessageRequest} {q q' : QueueMessage} {o : Orchestrator} {denv : Env} {chan to_ : String}
    {wenv : WabaEnv} {config : WABAConfig} {request : WabaRequest}
    (hin : ingest p env db ws trace req = .ok (q, db')) (hq : q.requeued = some q')
    (hr : wabaRequest wenv (attemptPayload o denv q' chan to_) config = .ok request) :
    request.type = "template" ↔ sendsTemplate req = true := by
  obtain ⟨req', conn, hprep, hqm, -⟩ := ingest_ok hin
  obtain ⟨hp, -⟩ := prepare_ok hprep
  obtain ⟨interactive, heq, -⟩ := QueueMessage.requeued_eq hq
  obtain ⟨address, hpay⟩ := attemptPayload_eq o denv q' chan to_
  rw [wabaRequest_type hr, hpay, templateNameOf_ne_iff]
  have hover : q'.channelOverrides = req.channelOverrides := by
    rw [heq, hqm]
    exact hp.channelOverrides
  have hmedia : q'.media.isSome = req.media.isSome := by
    rw [heq, hqm]
    exact hp.media
  have hname : q'.templateName = req.templateName := by
    rw [heq, hqm]
    exact hp.templateName
  have hmeta : q'.metadata = req.metadata := by
    rw [heq, hqm]
    exact hp.metadata
  simp only [toPayload, hover, hname, hmeta, sendsTemplate]
  cases req.channelOverrides.lookup "whatsapp_cloud" with
  | some override => simp
  | none =>
    have hnone : q'.media = none ↔ req.media.isNone = true := by
      rw [← Option.not_isSome_iff_eq_none, hmedia]
      simp
    simp [hnone]

/-- **The gate and the wire agree** on a message that goes out on WhatsApp Cloud as a template, or about whose
recipient the gate was asked. -/
theorem gate_matches_wire {p : Processor} {env : IngestEnv} {db db' : ChatDB} {ws : UUID} {trace : String}
    {req : CreateMessageRequest} {q q' : QueueMessage} (hin : ingest p env db ws trace req = .ok (q, db'))
    (hq : q.requeued = some q') {o : Orchestrator} {denv : Env} {w : World} {attempt : Int} {i : Nat}
    {payload : MessagePayload} {res : DispatchResult} (hx : (i, payload, res) ∈ callInvocations o denv q' w attempt)
    (hcloud : payload.channel = "whatsapp_cloud") {wenv : WabaEnv} {conns : Connections} {config : WABAConfig}
    {request : WabaRequest} (hreq : dispatchWaba wenv conns payload = .ok (some (config, request))) :
    (request.type = "template" ↔ sendsTemplate req = true) ∧
      (sendsTemplate req = true ∨ GateAsked p env db ws trace req q.connectionID i →
        request.type ≠ "template" → WindowOpen db ws q.connectionID req.to_ (ingestTime env)) := by
  rw [mem_callInvocations] at hx
  obtain ⟨j, chan, to_, hreach, hxeq⟩ := hx
  cases hxeq
  have hwire := wire_type hin hq (dispatchWaba_ok hreq)
  refine ⟨hwire, ?_⟩
  rintro (ht | ha) hfree
  · exact absurd (hwire.mpr ht) hfree
  · obtain ⟨req', conn, hprep, hqm, hrec⟩ := ingest_ok hin
    obtain ⟨interactive, heq, -⟩ := QueueMessage.requeued_eq hq
    -- at index 0 the channel is the message's own
    have hchan : chan = "whatsapp_cloud" := by
      obtain ⟨address, hpay⟩ := attemptPayload_eq o denv q' chan to_
      rw [hpay] at hcloud
      exact hcloud
    have hfirst : (allChannels q')[0]? = some chan := ha.first ▸ hreach.at_
    have hq0 : q.channel = "whatsapp_cloud" := by
      rw [heq] at hfirst
      simp only [allChannels, List.getElem?_cons_zero, Option.some.injEq] at hfirst
      rw [hfirst, hchan]
    have hid : q.connectionID = conn.id := by rw [hqm]; rfl
    rw [hid] at ha ⊢
    exact windowOpen_of_recorded hqm (prepare_ok hprep).1 hq0 ha hrec

/-! ## A shop and one of its customers -/

open PerGo.L4.FallbackCredentials

/-- Everything is configured but the media engine and the template store. -/
def shopProcessor : Processor :=
  { tracker := true, resolver := true, publisher := true, mediaEngine := false, templateRepo := false,
    contactRepo := true, activity := true }

def shopIngest : IngestEnv :=
  { exceeds := false, getByID := fun _ => .ok none, getBySenderIdentity := fun _ _ => .error .notFound,
    getBySlug := fun _ _ => .error .notFound, getDefaultChannelConnection := fun _ _ => .ok metaConnection,
    processOutbound := .ok, getByNameAndLanguage := fun _ _ _ => .error .notFound, resolveContact := some 40,
    now := 10, newUID := "u-1", act := ⟨⟨10, 70, fun _ => none⟩, 60, none⟩, publishErr := none }

def customerChat (window : Option Time) : ChatState :=
  { id := 50, workspaceID := 1, connectionID := some 7, contactID := 40, channel := "whatsapp_cloud", status := .open_,
    snoozedUntil := none, ai := ⟨.active, none⟩, serviceWindowExpiresAt := window, entryPointType := .standard,
    unreadCount := 0, lastMessageAt := 1, lastInboundAt := some 1, lastOutboundAt := none }

/-- The customer's chat, its window open until `window`. -/
def shopChats (window : Option Time) : ChatDB :=
  { connections := [(7, "whatsapp_cloud")], identities := [⟨40, 1, "whatsapp_cloud", "5511999990000"⟩],
    chats := [customerChat window], messages := [] }

def shopRequest (type : String) : CreateMessageRequest :=
  { chatID := none, connectionID := none, contactID := none, replyToUID := none, senderType := "", senderName := "",
    campaignID := none, variablesJSON := [], to_ := "5511999990000", from_ := "", channel := "whatsapp_cloud",
    body := "hello", media := none, metadata := [], ttlSeconds := none, templateName := "", language := "",
    components := [], fallbackChannels := [], interactive := none, channelOverrides := [], fallbackBehavior := "",
    type := type, product := none }

/-- The message of `shopRequest`. -/
def shopQueued (type : String) : QueueMessage := { shopMessage [] with queuedAt := 10, type := type }

def shopWaba : WabaEnv := ⟨noFailure, "", fun _ _ => none⟩

/-- The account of `metaConnection`. -/
def shopAccount : WABAConfig := ⟨"1055", "EAAG", "", "", "", ""⟩

def shopPayload (type : String) : MessagePayload := toPayload (shopQueued type) "whatsapp_cloud"

/-- A plain text into an open window: the gate was asked. -/
theorem open_window_text :
    ∃ db' config request,
      ingest shopProcessor shopIngest (shopChats (some 20)) 1 "t-1" (shopRequest "") = .ok (shopQueued "", db') ∧
      (0, shopPayload "", ⟨"", some ⟨"HTTP error 400: ", true⟩⟩) ∈
        callInvocations serverOrchestrator firstRefuses (shopQueued "") freshWorld 0 ∧
      dispatchWaba shopWaba shopConnections (shopPayload "") = .ok (some (config, request)) ∧
      (request.type ≠ "template" →
        WindowOpen (shopChats (some 20)) 1 7 "5511999990000" (ingestTime shopIngest)) := by
  obtain ⟨db', hin⟩ : ∃ db', ingest shopProcessor shopIngest (shopChats (some 20)) 1 "t-1" (shopRequest "") =
      .ok (shopQueued "", db') := ok_of_map_fst (by decide +kernel)
  have hcall : (0, shopPayload "", ⟨"", some ⟨"HTTP error 400: ", true⟩⟩) ∈
      callInvocations serverOrchestrator firstRefuses (shopQueued "") freshWorld 0 := by decide +kernel
  have hsend : dispatchWaba shopWaba shopConnections (shopPayload "") =
      .ok (some (shopAccount, .message "5511999990000" (.text "hello"))) := by decide +kernel
  refine ⟨db', _, _, hin, hcall, hsend, ?_⟩
  have hqueue : (shopQueued "").requeued = some (shopQueued "") := by decide +kernel
  refine (gate_matches_wire hin hqueue hcall rfl hsend).2 (Or.inr ?_)
  exact ⟨rfl, rfl, by decide +kernel, by decide +kernel, by decide +kernel, by decide +kernel⟩

/-- A request of type `template` without a template name goes out as text into a closed window. -/
theorem text_on_closed_window :
    ∃ db' config request,
      ingest shopProcessor shopIngest (shopChats none) 1 "t-1" (shopRequest "template") =
        .ok (shopQueued "template", db') ∧
      (shopQueued "template").requeued = some (shopQueued "template") ∧
      (0, shopPayload "template", ⟨"", some ⟨"HTTP error 400: ", true⟩⟩) ∈
        callInvocations serverOrchestrator firstRefuses (shopQueued "template") freshWorld 0 ∧
      dispatchWaba shopWaba shopConnections (shopPayload "template") = .ok (some (config, request)) ∧
      request.type = "text" ∧
      ¬ WindowOpen (shopChats none) 1 7 "5511999990000" (ingestTime shopIngest) := by
  obtain ⟨db', hin⟩ : ∃ db', ingest shopProcessor shopIngest (shopChats none) 1 "t-1" (shopRequest "template") =
      .ok (shopQueued "template", db') := ok_of_map_fst (by decide +kernel)
  have hsend : dispatchWaba shopWaba shopConnections (shopPayload "template") =
      .ok (some (shopAccount, .message "5511999990000" (.text "hello"))) := by decide +kernel
  refine ⟨db', _, _, hin, by decide +kernel, by decide +kernel, hsend, rfl, ?_⟩
  rintro ⟨c, exp, hc, hexp, -⟩
  have hchat : recipientChat (shopChats none) 1 7 "5511999990000" = some (customerChat none) := by decide +kernel
  rw [hchat] at hc
  cases hc
  cases hexp

end PerGo.L4.TemplateGate

/-!
## Template parameters through the queue

`Ingest` stores the normalised parameters of a component as a
`[]domain.TemplateParameter` in a field of type `interface{}`. The worker unmarshals the
message, and the field is then an `[]interface{}` of maps; `WABAAdapter.Dispatch` asks
for the typed slice, does not find it and sends the component without parameters.

* `CarriesParameters`: the template has the components of the request with their
  normalised parameters.
* `wire_components`: what is sent of the components after the queue.
* `parameters_survive`: a template request arrives with its parameters exactly when it
  has none, in its components or in the metadata that stand in for components.
-/
namespace PerGo.L4.TemplateRoundTrip

open PerGo.Core PerGo.L1 PerGo.L2 PerGo.L3 PerGo.L3.Recorder PerGo.L3.Outbound PerGo.L3.Channel

structure CarriesParameters (req : CreateMessageRequest) (t : WabaTemplate) : Prop where
  types : t.components.map (·.type) = req.components.map (·.type)
  parameters : ∀ (i : Nat) c ps sent, req.components[i]? = some c → normalizeTemplateParams c.parameters = .ok ps →
    t.components[i]? = some sent → sent.parameters.getD [] = (ps.getD []).map wabaParameter

/-- The request has no parameters that could be lost or taken from the metadata. -/
structure NoParameters (req : CreateMessageRequest) : Prop where
  components : ∀ c ∈ req.components, ∀ ps, normalizeTemplateParams c.parameters = .ok ps → ps.getD [] = []
  metadata : req.components = [] → req.metadata.lookup "param1" = none

theorem carriesParameters_iff {req : CreateMessageRequest} {t : WabaTemplate}
    (ht : t.components = if req.components ≠ [] then req.components.map (fun c => ⟨c.type, none⟩)
      else if req.metadata.lookup "param1" = none then []
      else [⟨"body", some (metadataParams req.metadata req.metadata.length 1)⟩]) :
    CarriesParameters req t ↔ NoParameters req := by
  by_cases hne : req.components = []
  · rw [if_neg (not_not_intro hne)] at ht
    constructor
    · intro h
      refine ⟨by simp [hne], fun _ => ?_⟩
      by_contra hsome
      have htypes := h.types
      rw [ht, if_neg hsome, hne] at htypes
      cases htypes
    · intro h
      rw [if_pos (h.metadata hne)] at ht
      exact ⟨by simp [ht, hne], by simp [hne]⟩
  · rw [if_pos hne] at ht
    constructor
    · intro h
      refine ⟨fun c hc ps hps => ?_, fun he => absurd he hne⟩
      obtain ⟨i, hi⟩ := List.mem_iff_getElem?.mp hc
      have hsent : t.components[i]? = some ⟨c.type, none⟩ := by simp [ht, hi]
      simpa using h.parameters i c ps _ hi hps hsent
    · intro h
      refine ⟨by simp [ht, Function.comp_def], fun i c ps sent hi hps hsent => ?_⟩
      rw [ht, List.getElem?_map, hi] at hsent
      cases hsent
      simp [h.components c (List.mem_of_getElem? hi) ps hps]

section Queue

variable {p : Processor} {env : IngestEnv} {db db' : ChatDB} {ws : UUID} {trace : String}
variable {req : CreateMessageRequest} {q q' : QueueMessage}

theorem wire_components (hin : ingest p env db ws trace req = .ok (q, db')) (hq : q.requeued = some q') :
    q'.components.map wabaComponent = req.components.map (fun c => ⟨c.type, none⟩) := by
  obtain ⟨req', conn, hprep, hqm, -⟩ := ingest_ok hin
  obtain ⟨interactive, -, hcomp⟩ := QueueMessage.requeued_eq hq
  have hbare := map_of_mapM (fun c c' => wabaComponent_of_requeued) hcomp
  have hreq : q.components = req'.components := by rw [hqm]; rfl
  have htypes := congrArg (List.map fun type => (⟨type, none⟩ : WabaComponent)) (prepare_types hprep)
  rw [List.map_map, List.map_map] at htypes
  rw [hbare, hreq]
  exact htypes

/-- **Parameters survive the queue** exactly when there are none, and the request is sent as a template at all. -/
theorem parameters_survive (hin : ingest p env db ws trace req = .ok (q, db')) (htemplate : req.templateName ≠ "")
    (hq : q.requeued = some q') {o : Orchestrator} {denv : Env} {w : World} {attempt : Int} {i : Nat}
    {payload : MessagePayload} {res : DispatchResult} (hx : (i, payload, res) ∈ callInvocations o denv q' w attempt)
    {wenv : WabaEnv} {conns : Connections} {config : WABAConfig} {request : WabaRequest}
    (hreq : dispatchWaba wenv conns payload = .ok (some (config, request))) :
    (∃ to_ t, request = .message to_ (.template t) ∧ CarriesParameters req t) ↔
      req.channelOverrides.lookup "whatsapp_cloud" = none ∧ req.media = none ∧ NoParameters req := by
  rw [mem_callInvocations] at hx
  obtain ⟨j, chan, to_, -, hxeq⟩ := hx
  cases hxeq
  have hwire := wire_components hin hq
  obtain ⟨req', conn, hprep, hqm, -⟩ := ingest_ok hin
  obtain ⟨hp, -⟩ := prepare_ok hprep
  obtain ⟨interactive, heq, -⟩ := QueueMessage.requeued_eq hq
  obtain ⟨address, hpay⟩ := attemptPayload_eq o denv q' chan to_
  rw [hpay] at hreq
  have hname : q'.templateName = req.templateName := by
    rw [heq, hqm]
    exact hp.templateName
  have hover : q'.channelOverrides = req.channelOverrides := by
    rw [heq, hqm]
    exact hp.channelOverrides
  have hmedia : q'.media = none ↔ req.media = none := by
    rw [← Option.not_isSome_iff_eq_none, ← Option.not_isSome_iff_eq_none, heq, hqm]
    exact not_congr (Bool.coe_iff_coe.mpr hp.media)
  have hmeta : q'.metadata = req.metadata := by
    rw [heq, hqm]
    exact hp.metadata
  have hempty : q'.components = [] ↔ req.components = [] := by
    rw [← List.map_eq_nil_iff (f := wabaComponent), hwire, List.map_eq_nil_iff]
  have hnonempty : templateNameOf { toPayload q' chan with to_ := address } ≠ "" := by
    rw [templateNameOf_ne_iff]
    have hn : q'.templateName ≠ "" := by rw [hname]; exact htemplate
    exact Or.inl hn
  rw [wabaRequest_template (dispatchWaba_ok hreq) hnonempty]
  refine and_congr (by rw [← hover]; rfl) (and_congr hmedia (carriesParameters_iff ?_))
  simp only [wabaTemplate, toPayload, hmeta, hwire, ne_eq, hempty, metadataParams_nil_iff]

end Queue

/-! ## An approved template -/

open PerGo.L4.FallbackCredentials PerGo.L4.TemplateGate

def templateProcessor : Processor := { shopProcessor with templateRepo := true }

/-- The template repository has an approved template with the body `text`. -/
def templateIngest (text : String) : IngestEnv :=
  { shopIngest with
    getByNameAndLanguage := fun _ _ _ =>
      .ok ⟨"APPROVED", none, .document (.arr [.obj [("type", .str "BODY"), ("text", .str text)]])⟩ }

def templateRequest (parameters : GoVal) : CreateMessageRequest :=
  { shopRequest "" with templateName := "order_ready", language := "pt_BR", components := [⟨"body", parameters⟩] }

/-- The message of `templateRequest`. -/
def templateQueued (parameters : GoVal) : QueueMessage :=
  { shopQueued "" with templateName := "order_ready", language := "pt_BR", components := [⟨"body", parameters⟩] }

def templatePayload (parameters : GoVal) : MessagePayload := toPayload (templateQueued parameters) "whatsapp_cloud"

/-- What goes out for either request. -/
def bareTemplate : WabaRequest :=
  .message "5511999990000" (.template ⟨"order_ready", "pt_BR", [⟨"body", none⟩]⟩)

theorem template_without_parameters :
    ∃ db' to_ t,
      ingest templateProcessor (templateIngest "Your order is ready") (shopChats none) 1 "t-1" (templateRequest .nil) =
        .ok (templateQueued (.params none), db') ∧
      (templateQueued (.params none)).requeued = some (templateQueued .nil) ∧
      (0, templatePayload .nil, ⟨"", some ⟨"HTTP error 400: ", true⟩⟩) ∈
        callInvocations serverOrchestrator firstRefuses (templateQueued .nil) freshWorld 0 ∧
      dispatchWaba shopWaba shopConnections (templatePayload .nil) =
        .ok (some (shopAccount, .message to_ (.template t))) ∧
      CarriesParameters (templateRequest .nil) t := by
  obtain ⟨db', hin⟩ : ∃ db', ingest templateProcessor (templateIngest "Your order is ready") (shopChats none) 1 "t-1"
      (templateRequest .nil) = .ok (templateQueued (.params none), db') := ok_of_map_fst (by decide +kernel)
  have hqueue : (templateQueued (.params none)).requeued = some (templateQueued .nil) := by decide +kernel
  have hcall : (0, templatePayload .nil, ⟨"", some ⟨"HTTP error 400: ", true⟩⟩) ∈
      callInvocations serverOrchestrator firstRefuses (templateQueued .nil) freshWorld 0 := by decide +kernel
  have hsend : dispatchWaba shopWaba shopConnections (templatePayload .nil) =
      .ok (some (shopAccount, bareTemplate)) := by decide +kernel
  have hnone : NoParameters (templateRequest .nil) := by
    refine ⟨fun c hc ps hps => ?_, fun he => by cases he⟩
    cases List.mem_singleton.mp hc
    cases hps
    rfl
  obtain ⟨to_, t, heq, ht⟩ :=
    (parameters_survive hin (by decide) hqueue hcall hsend).mpr ⟨rfl, rfl, hnone⟩
  exact ⟨db', to_, t, hin, hqueue, hcall, heq ▸ hsend, ht⟩

/-- The parameter of a template with one placeholder is not sent. -/
theorem parameter_lost :
    ∃ db',
      ingest templateProcessor (templateIngest "Hello \x7b\x7b1\x7d\x7d") (shopChats none) 1 "t-1"
        (templateRequest (.slice [.string "John"])) = .ok (templateQueued (.params (some [⟨"text", "John"⟩])), db') ∧
      (templateQueued (.params (some [⟨"text", "John"⟩]))).requeued =
        some (templateQueued (.slice [.map [("type", .string "text"), ("text", .string "John")]])) ∧
      (0, templatePayload (.slice [.map [("type", .string "text"), ("text", .string "John")]]),
          ⟨"", some ⟨"HTTP error 400: ", true⟩⟩) ∈
        callInvocations serverOrchestrator firstRefuses
          (templateQueued (.slice [.map [("type", .string "text"), ("text", .string "John")]])) freshWorld 0 ∧
      dispatchWaba shopWaba shopConnections
          (templatePayload (.slice [.map [("type", .string "text"), ("text", .string "John")]])) =
        .ok (some (shopAccount, bareTemplate)) ∧
      ¬ ∃ to_ t, bareTemplate = .message to_ (.template t) ∧
        CarriesParameters (templateRequest (.slice [.string "John"])) t := by
  obtain ⟨db', hin⟩ : ∃ db', ingest templateProcessor (templateIngest "Hello \x7b\x7b1\x7d\x7d") (shopChats none) 1
      "t-1" (templateRequest (.slice [.string "John"])) =
        .ok (templateQueued (.params (some [⟨"text", "John"⟩])), db') := ok_of_map_fst (by decide +kernel)
  refine ⟨db', hin, by decide +kernel, by decide +kernel, by decide +kernel, ?_⟩
  rintro ⟨to_, t, heq, ht⟩
  cases heq
  have hnormal : normalizeTemplateParams (.slice [.string "John"]) = .ok (some [⟨"text", "John"⟩]) := by
    decide +kernel
  have hlost := ht.parameters 0 _ _ _ rfl hnormal rfl
  cases hlost

end PerGo.L4.TemplateRoundTrip
