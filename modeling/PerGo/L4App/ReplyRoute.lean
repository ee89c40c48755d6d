import PerGo.L3Chat.RecorderSpec
import PerGo.L3Chat.SendMessage

/-!
# The connection a reply leaves through

`SendMessage` for a chat that is bound to a connection `X`, or a request that names `X`. The
engine reads `X` and hands on its sender identity; the ingestor looks the connection up
again, by that identity, or by slug and channel default when there is none.

* `recorded`: with the recorder wired, a reply is recorded in its chat, or where there is no
  chat yet in one of the connection it went through.
* `conn_of_sender`: a sender identity has one connection, so the lookup by it comes back
  to `X`. Without one it finds what the slugs and the defaults of the workspace say.

* `leaves_through_iff`: a reply leaves through `X` and is recorded in its chat exactly when the
  recorder is wired and the route leads back to `X` (`LeadsBack`);
* `leaves_through_own` and `leaves_through_default`: one call of each kind.
-/
namespace PerGo.L4.ReplyRoute

open PerGo.Core PerGo.L1 PerGo.L2 PerGo.L3.Outbound PerGo.L3.SendMessage
open PerGo.L3.Reads (ReadDB ReadEnv Chat hydrateChat resolveChat)
open PerGo.L3.Recorder (ChatDB HasChat ChatFor refConnection outbound_recorded)

variable {e : Engine} {env : SendEnv} {ctx : L3.Ctx} {st : Store} {workspaceID : UUID} {req : SendRequest}
variable {scope : Scope} {X : Connection} {out : Sent}

/-! ## What is asked of a reply -/

/-- `X` is a connection of the workspace, which the request names, or the chat is bound to. -/
structure Names (st : Store) (scope : Scope) (req : SendRequest) (X : Connection) : Prop where
  row : X ∈ st.connections
  workspace : X.workspaceID = scope.ws
  named : req.connectionID.filter (· ≠ UUID.Nil) = some X.id ∨
    req.connectionID.filter (· ≠ UUID.Nil) = none ∧ scope.chat.bind (·.connectionID) = some X.id

/-- The turn with the given uid is in the chat, or where there was none in one that is bound to `X`. -/
def RecordedIn (scope : Scope) (X : Connection) (uid : String) (db : ChatDB) : Prop :=
  ∃ m ∈ db.messages, m.uid = uid ∧ m.workspaceID = scope.ws ∧ m.direction = .outbound ∧
    match scope.chat with
    | some c => m.chatID = c.id
    | none => ∃ contact, HasChat db m.chatID scope.ws X.id contact

/-- The reply is queued for `X` and recorded in its chat. -/
structure LeavesThrough (env : SendEnv) (scope : Scope) (req : SendRequest) (X : Connection) (out : Sent) : Prop where
  connection : out.queued.connectionID = X.id
  recorded : RecordedIn scope X (trimSpace (traceIDOf env req)) out.db

/-! ## The route the engine hands on -/

section Route

variable (e : Engine) (env : SendEnv) (st : Store) (scope : Scope) (req : SendRequest) (X : Connection)

/-- The engine reads `X`, and `X` has a sender identity. -/
def Identified : Prop := (readConnection e env st X.id).isSome = true ∧ X.senderIdentity ≠ ""

instance : Decidable (Identified e env st X) := inferInstanceAs (Decidable (_ ∧ _))

/-- The channel of `X`, else what the recipient or the request has. -/
def channelFor : String :=
  let own := if (readConnection e env st X.id).isSome then X.channel else ""
  let channel := (recipientOf st req.ref scope.contact own).2
  let channel := if channel = "" then req.ref.channel else channel
  if channel = "" then "whatsapp" else channel

def byChannel (ws : UUID) (channel : String) : Option Connection :=
  match getBySlug env.ingestErr st ws channel with
  | .ok conn => some conn
  | .error .notFound => (getDefaultChannelConnection env.ingestErr st ws channel).toOption
  | .error (.other _) => none

/-- The way back to `X`: its own identity; else the one the request has, which must be the identity of `X`; and
without any the slugs and defaults of the workspace. -/
def LeadsBack : Prop :=
  if Identified e env st X then True
  else if req.senderIdentity ≠ "" then X.senderIdentity = req.senderIdentity
  else (byChannel env st scope.ws (channelFor e env st scope req X)).map (·.id) = some X.id

instance : Decidable (LeadsBack e env st scope req X) := by
  unfold LeadsBack
  split
  · infer_instance
  · split <;> infer_instance

end Route

theorem Names.ne_nil (h : Names st scope req X) : X.id ≠ UUID.Nil := st.connIDs X h.row

theorem readConnection_eq (hrow : X ∈ st.connections) {conn : Connection}
    (h : readConnection e env st X.id = some conn) : conn = X := by
  unfold readConnection at h
  split at h
  · unfold getByID orNoRow at h
    split at h
    · cases h
    · cases h
    · rename_i conn' _ hfind
      obtain ⟨hmem, hid⟩ := (find?_key_iff st.ids).mp hfind
      cases h
      exact eq_of_key_eq st.ids hmem hrow hid
  · cases h

theorem namedRoute_eq (h : Names st scope req X) : namedRoute e env st scope.ws scope.chat req =
    ⟨X.id, if (readConnection e env st X.id).isSome then X.senderIdentity else "",
      if (readConnection e env st X.id).isSome then X.channel else ""⟩ := by
  have hread : routeTo X.id (readConnection e env st X.id) =
      ⟨X.id, if (readConnection e env st X.id).isSome then X.senderIdentity else "",
        if (readConnection e env st X.id).isSome then X.channel else ""⟩ := by
    cases hread : readConnection e env st X.id with
    | none => rfl
    | some conn =>
      obtain rfl := readConnection_eq h.row hread
      rfl
  rw [← hread]
  unfold namedRoute
  rcases h.named with hreq | ⟨hreq, hchat⟩
  · rw [hreq]
    simp only
    cases hread : readConnection e env st X.id with
    | none => rfl
    | some conn =>
      rw [readConnection_eq h.row hread, Option.filter_some, if_pos (decide_eq_true h.workspace)]
  · rw [hreq, hchat]
    simp only
    rw [Option.filter_some, if_pos (decide_eq_true h.ne_nil)]

theorem otherRoute_named {ws : UUID} {r : Route} (h : r.connID ≠ UUID.Nil) :
    otherRoute e env st ws req r = { r with channel := if r.channel = "" then req.ref.channel else r.channel } := by
  have hnamed : ∀ b : Prop, ¬ (r.connID = UUID.Nil ∧ b) := fun b hb => h hb.1
  unfold otherRoute
  by_cases hc : r.channel = ""
  · simp only [if_neg (hnamed _), if_pos hc]
  · simp only [if_neg (hnamed _), if_neg hc]

theorem routeOf_eq (h : Names st scope req X) :
    (routeOf e env st scope req).2 =
      ⟨X.id, if Identified e env st X then X.senderIdentity else req.senderIdentity, channelFor e env st scope req X⟩ := by
  unfold routeOf channelFor
  rw [namedRoute_eq h]
  simp only
  generalize recipientOf st req.ref scope.contact _ = r
  rw [otherRoute_named h.ne_nil]
  simp only [Route.mk.injEq, true_and, and_true]
  unfold Identified
  by_cases hread : (readConnection e env st X.id).isSome = true
  · by_cases hs : X.senderIdentity = "" <;> simp [hread, hs]
  · simp [hread]

/-! ## The way back -/

theorem orNoRow_ok {err : Lookup → Option String} {q : Lookup} {row : Option Connection} {conn : Connection}
    (h : orNoRow err q row = .ok conn) : row = some conn := by
  unfold orNoRow at h
  split at h
  · cases h
  · cases h
  · cases h
    rfl

theorem conn_of_sender {err : Lookup → Option String} {ws : UUID} {s : String} {conn : Connection}
    (h : getBySenderIdentity err st ws s = .ok conn) : conn ∈ st.connections ∧ conn.senderIdentity = s := by
  unfold getBySenderIdentity at h
  split at h
  · cases h
  · have hfind := orNoRow_ok h
    have hp := List.find?_some hfind
    simp only [Bool.and_eq_true, decide_eq_true_eq] at hp
    exact ⟨List.mem_of_find?_eq_some hfind, hp.2⟩

theorem sender_leads_iff (hrow : X ∈ st.connections) {err : Lookup → Option String} {ws : UUID} {s : String}
    {conn : Connection} (h : getBySenderIdentity err st ws s = .ok conn) : conn.id = X.id ↔ X.senderIdentity = s := by
  obtain ⟨hmem, rfl⟩ := conn_of_sender h
  constructor
  · intro hid
    rw [eq_of_key_eq st.ids hmem hrow hid]
  · intro hs
    rw [eq_of_key_eq st.senders hrow hmem hs]

theorem resolveRoute_ok {p : Processor} {ws : UUID} {create : CreateMessageRequest} {conn : Connection}
    (h : resolveRoute p (env.forIngest st) ws create = .ok conn) :
    (create.from_ ≠ "" → getBySenderIdentity env.ingestErr st ws create.from_ = .ok conn) ∧
      (create.from_ = "" → byChannel env st ws create.channel = some conn) := by
  unfold resolveRoute at h
  split at h
  · cases h
  split at h
  · rename_i hfrom
    refine ⟨fun _ => ?_, fun hempty => absurd hempty hfrom⟩
    split at h
    · cases h
    · rename_i conn' hget
      obtain ⟨-, -, h⟩ := bind_ok h
      cases h
      exact hget
  · rename_i hfrom
    refine ⟨fun hne => absurd hne hfrom, fun _ => ?_⟩
    unfold byChannel
    simp only [SendEnv.forIngest] at h
    cases hslug : getBySlug env.ingestErr st ws create.channel with
    | ok conn' =>
      simp only [hslug] at h
      cases h
      rfl
    | error err =>
      simp only [hslug] at h
      cases err with
      | other text => cases h
      | notFound =>
        simp only at h
        cases hdef : getDefaultChannelConnection env.ingestErr st ws create.channel with
        | error _ =>
          simp only [hdef] at h
          cases h
        | ok conn' =>
          simp only [hdef] at h
          cases h
          rfl

theorem connection_iff (hX : Names st scope req X) {p : Processor} {to_ : String} {conn : Connection}
    (h : resolveRoute p (env.forIngest st) scope.ws (createRequest scope req to_ (routeOf e env st scope req).2) =
      .ok conn) : conn.id = X.id ↔ LeadsBack e env st scope req X := by
  obtain ⟨hsender, hchannel⟩ := resolveRoute_ok h
  rw [routeOf_eq hX] at hsender hchannel
  unfold LeadsBack
  by_cases hown : Identified e env st X
  · have hfrom : (if Identified e env st X then X.senderIdentity else req.senderIdentity) = X.senderIdentity := if_pos hown
    simp only [createRequest, hfrom] at hsender
    rw [if_pos hown]
    exact iff_true_intro ((sender_leads_iff hX.row (hsender hown.2)).mpr rfl)
  · have hfrom : (if Identified e env st X then X.senderIdentity else req.senderIdentity) = req.senderIdentity :=
      if_neg hown
    simp only [createRequest, hfrom] at hsender hchannel
    rw [if_neg hown]
    by_cases hreq : req.senderIdentity = ""
    · rw [if_neg (Classical.not_not.mpr hreq), hchannel hreq]
      simp
    · rw [if_pos hreq]
      exact sender_leads_iff hX.row (hsender hreq)

/-! ## The recorded turn -/

theorem scopeOf_chat {c : Chat} (hscope : scopeOf e env ctx st workspaceID req.ref = .ok scope)
    (hc : scope.chat = some c) : c.id ≠ UUID.Nil := by
  unfold scopeOf at hscope
  split at hscope
  · rename_i c' hres
    cases hscope
    cases hc
    obtain ⟨row, hmem, hid⟩ := L3.Reads.resolveChat_row hres
    obtain ⟨stored, hstored, rfl⟩ := List.mem_map.mp hmem
    rw [← hid]
    exact st.chatIDs stored hstored
  · split at hscope
    · cases hscope
    split at hscope
    · cases hscope
    split at hscope
    · cases hscope
    · cases hscope
      cases hc
  · cases hscope

/-- The tables of the recorder have a row of `X`. -/
theorem lookup_connection (hrow : X ∈ st.connections) : (st.chatDB.connections.lookup X.id).isSome = true := by
  have hmem : (X.id, X.channel) ∈ st.chatDB.connections := List.mem_map.mpr ⟨X, hrow, rfl⟩
  rw [List.lookup_isSome_iff]
  exact ⟨(X.id, X.channel), hmem, by simp⟩

theorem chatRef_spec (p : Processor) (ienv : IngestEnv) (conn : Connection) (q : QueueMessage) (channel : String)
    {create : CreateMessageRequest} (hcontact : create.contactID = none) :
    match create.chatID.filter (· ≠ UUID.Nil) with
    | some id => (chatRef p ienv create conn q channel).id = id
    | none => (chatRef p ienv create conn q channel).id = UUID.Nil ∧
        (chatRef p ienv create conn q channel).connID = conn.id := by
  unfold chatRef
  rw [hcontact]
  cases create.chatID.filter (· ≠ UUID.Nil) with
  | some id => rfl
  | none =>
    simp only [Option.filter_none]
    split
    · exact ⟨rfl, rfl⟩
    · split <;> exact ⟨rfl, rfl⟩

theorem traceIDOf_ne_empty (env : SendEnv) (req : SendRequest) : traceIDOf env req ≠ "" := by
  intro h
  have hlen := congrArg (fun s => s.toList.length) h
  simp [traceIDOf, String.toList_append] at hlen

theorem outboundTurn_uid {p : Processor} {ienv : IngestEnv} {trace : String} {create : CreateMessageRequest}
    {conn : Connection} {q : QueueMessage} (h : trace ≠ "") :
    (outboundTurn p ienv trace create conn q).uid = trace := if_neg h

theorem recorded {p : Processor} {conn : Connection} {q : QueueMessage} {db' : ChatDB} {to_ : String} {r : Route}
    {req' : CreateMessageRequest} (hscope : scopeOf e env ctx st workspaceID req.ref = .ok scope)
    (hX : Names st scope req X) (hid : conn.id = X.id)
    (hnew : ∀ m ∈ st.messages, m.uid ≠ trimSpace (traceIDOf env req)) (hact : p.activity = true)
    (hprep : Prepared (createRequest scope req to_ r) req')
    (hrec : recordOutboundTurn p (env.forIngest st) st.chatDB scope.ws (traceIDOf env req) req' conn q = .ok db') :
    RecordedIn scope X (trimSpace (traceIDOf env req)) db' := by
  unfold recordOutboundTurn at hrec
  rw [hact] at hrec
  simp only [Bool.not_true, Bool.false_eq_true, if_false] at hrec
  split at hrec
  · rename_i receipt db₁ hout
    cases hrec
    generalize hturn : outboundTurn p (env.forIngest st) (traceIDOf env req) req' conn q = turn at hout
    have huid : turn.uid = traceIDOf env req := by
      rw [← hturn]
      exact outboundTurn_uid (traceIDOf_ne_empty env req)
    have href := chatRef_spec p (env.forIngest st) conn q (if q.channel = "" then conn.channel else q.channel)
      (hprep.contactID.trans rfl)
    have hchat : chatRef p (env.forIngest st) req' conn q (if q.channel = "" then conn.channel else q.channel) =
        turn.chat := by
      rw [← hturn]
      rfl
    rw [hchat, hprep.chatID] at href
    simp only [createRequest] at href
    have hrow : turn.chat.id = UUID.Nil → refConnection st.chatDB turn.chat = some X.id := by
      intro hnil
      have hconnID : turn.chat.connID = X.id := by
        split at href
        · rename_i id hsome
          have hne := (Option.filter_eq_some_iff.mp hsome).2
          exact absurd (href.symm.trans hnil) (of_decide_eq_true hne)
        · exact href.2.trans hid
      unfold refConnection
      rw [hconnID, if_pos ⟨hX.ne_nil, lookup_connection hX.row⟩]
    have hnew' : ∀ m ∈ st.chatDB.messages, m.uid ≠ trimSpace turn.uid := by
      rw [huid]
      exact hnew
    obtain ⟨hmem, hmuid, hws, hdir, hfor⟩ := outbound_recorded hrow hnew' hout
    rw [huid] at hmuid
    refine ⟨receipt.message, hmem, hmuid, hws, hdir, ?_⟩
    unfold ChatFor at hfor
    cases hc : scope.chat with
    | some c =>
      have hne := scopeOf_chat hscope hc
      rw [hc, Option.map_some, Option.filter_some, if_pos (decide_eq_true hne)] at href
      rw [href, if_pos hne] at hfor
      exact hfor
    | none =>
      rw [hc] at href
      rw [href.1, if_neg (Classical.not_not.mpr rfl)] at hfor
      exact hfor
  · cases hrec

/-! ## The result -/

theorem sendMessage_ok (hscope : scopeOf e env ctx st workspaceID req.ref = .ok scope)
    (h : sendMessage e env ctx st workspaceID req = .ok out) :
    ∃ p, e.ingestor = some p ∧ ingest p (env.forIngest st) st.chatDB scope.ws (traceIDOf env req)
      (createRequest scope req (routeOf e env st scope req).1 (routeOf e env st scope req).2) =
        .ok (out.queued, out.db) := by
  unfold sendMessage at h
  split at h
  · cases h
  rw [hscope] at h
  obtain ⟨scope', hok, h⟩ := bind_ok h
  cases hok
  simp only at h
  split at h
  · cases h
  · rename_i p hp
    refine ⟨p, hp, ?_⟩
    split at h
    · cases h
    obtain ⟨⟨q, db⟩, hing, h⟩ := bind_ok h
    obtain ⟨c, -, h⟩ := bind_ok h
    obtain rfl := Except.ok.inj h
    cases hres : ingest p (env.forIngest st) st.chatDB scope.ws (traceIDOf env req)
        (createRequest scope req (routeOf e env st scope req).1 (routeOf e env st scope req).2) with
    | ok x =>
      rw [hres] at hing
      cases hing
      rfl
    | error err =>
      rw [hres] at hing
      cases hing

/-- The recorder is wired into the ingestor. -/
def Records (e : Engine) : Prop := (e.ingestor.any (·.activity)) = true

instance : Decidable (Records e) := inferInstanceAs (Decidable (_ = true))

/-- A reply leaves through `X`, and is recorded in its chat, exactly when turns are recorded and the way from what the
engine hands on leads back to `X`. -/
theorem leaves_through_iff (hscope : scopeOf e env ctx st workspaceID req.ref = .ok scope) (hX : Names st scope req X)
    (hnew : ∀ m ∈ st.messages, m.uid ≠ trimSpace (traceIDOf env req))
    (h : sendMessage e env ctx st workspaceID req = .ok out) :
    LeavesThrough env scope req X out ↔ Records e ∧ LeadsBack e env st scope req X := by
  obtain ⟨p, hp, hing⟩ := sendMessage_ok hscope h
  obtain ⟨req', conn, hprep, hq, hrec⟩ := ingest_ok hing
  have hroute := prepare_route rfl hprep
  have hconn : out.queued.connectionID = conn.id := by rw [hq]; rfl
  have hback := connection_iff hX hroute
  constructor
  · intro hl
    refine ⟨?_, hback.mp (hconn.symm.trans hl.connection)⟩
    unfold Records
    rw [hp, Option.any_some]
    cases hact : p.activity with
    | true => rfl
    | false =>
      -- nothing is recorded, so the uid is still new
      unfold recordOutboundTurn at hrec
      rw [hact] at hrec
      have hdb : st.chatDB = out.db := Except.ok.inj hrec
      obtain ⟨m, hm, huid, -⟩ := hl.recorded
      rw [← hdb] at hm
      exact absurd huid (hnew m hm)
  · rintro ⟨hact, hlead⟩
    have hid := hback.mpr hlead
    unfold Records at hact
    rw [hp, Option.any_some] at hact
    exact ⟨hconn.trans hid, recorded hscope hX hid hnew hact (prepare_ok hprep).1 hrec⟩

/-! ## A workspace with two Telegram connections -/

def shop (identity : String) : Connection := ⟨1, 7, "shop", "telegram", identity, false, none⟩

def support : Connection := ⟨2, 7, "support", "telegram", "@support", true, none⟩

def customer : StoredChat :=
  { id := 5, workspaceID := 7, connectionID := some 1, contactID := 9, channel := "", status := .open_,
    snoozedUntil := none, ai := ⟨.active, none⟩, serviceWindowExpiresAt := none, entryPointType := .standard,
    unreadCount := 0, lastMessageAt := 1, lastInboundAt := some 1, lastOutboundAt := none, assignedEmail := none }

def store (identity : String) (h : identity ≠ "@support") : Store :=
  { connections := [shop identity, support], slugCache := [], chats := [customer], messages := [],
    contacts := [⟨9, 7, "Ana"⟩], attributes := [], identities := [⟨9, 7, "telegram", "31415"⟩], tags := [],
    dispatches := [], ids := by simp [shop, support], senders := by simp [shop, support, h], uids := by decide,
    connIDs := by simp [shop, support, UUID.Nil], chatIDs := by simp [customer, UUID.Nil] }

def engine : Engine :=
  { connRepo := true, contactRepo := true, ingestor := some ⟨false, true, true, false, false, true, true⟩ }

def quiet : SendEnv :=
  { reads := ⟨0, 0, fun _ => none, fun _ _ => false⟩, lookupErr := fun _ => none, ingestErr := fun _ => none,
    ingest := ⟨false, fun _ => .ok none, fun _ _ => .error .notFound, fun _ _ => .error .notFound,
      fun _ _ => .error .notFound, .ok, fun _ _ _ => .error .notFound, none, 10, "u-1",
      ⟨⟨10, 70, fun _ => none⟩, 60, none⟩, none⟩,
    newUUID := 77, persisted := none, reloaded := fun _ => none, resolvedAgain := none, created := .ok none }

def reply : SendRequest :=
  { ref := { chatID := 5 }, body := "hello", media := none, senderName := "", senderType := "", replyToUID := none,
    templateName := "", language := "", components := [], interactive := none, channelOverrides := [],
    fallbackChannels := [], fallbackBehavior := "", type := "", product := none, connectionID := none,
    senderIdentity := "", traceIDPrefix := "", metadata := [] }

/-- The chat is found, and is bound to `shop`. -/
theorem customer_scope (identity : String) (h : identity ≠ "@support") :
    ∃ scope, scopeOf engine quiet .empty (store identity h) 7 reply.ref = .ok scope ∧
      Names (store identity h) scope reply (shop identity) := by
  refine ⟨_, rfl, ⟨List.mem_cons_self, rfl, Or.inr ⟨rfl, rfl⟩⟩⟩

/-- With an identity of its own. -/
theorem leaves_through_own : ∃ scope out, sendMessage engine quiet .empty (store "@shop" (by decide)) 7 reply = .ok out ∧
    LeavesThrough quiet scope reply (shop "@shop") out := by
  obtain ⟨scope, hscope, hX⟩ := customer_scope "@shop" (by decide)
  have hrun : (sendMessage engine quiet .empty (store "@shop" (by decide)) 7 reply).toOption.isSome = true := by
    decide +kernel
  cases hsent : sendMessage engine quiet .empty (store "@shop" (by decide)) 7 reply with
  | error err =>
    rw [hsent] at hrun
    cases hrun
  | ok out =>
    have hnew : ∀ m ∈ (store "@shop" (by decide)).messages, m.uid ≠ trimSpace (traceIDOf quiet reply) := by simp [store]
    have hlead : Records engine ∧ LeadsBack engine quiet (store "@shop" (by decide)) scope reply (shop "@shop") := by
      refine ⟨by decide, ?_⟩
      unfold LeadsBack
      rw [if_pos (by decide)]
      trivial
    exact ⟨scope, out, rfl, (leaves_through_iff hscope hX hnew hsent).mpr hlead⟩

/-- Without one, the reply leaves through the default of the channel. -/
theorem leaves_through_default : ∃ scope out,
    scopeOf engine quiet .empty (store "" (by decide)) 7 reply.ref = .ok scope ∧
    Names (store "" (by decide)) scope reply (shop "") ∧
    sendMessage engine quiet .empty (store "" (by decide)) 7 reply = .ok out ∧
    out.result.connectionID = (shop "").id ∧ out.queued.connectionID = support.id ∧
    ¬ LeavesThrough quiet scope reply (shop "") out := by
  obtain ⟨scope, hscope, hX⟩ := customer_scope "" (by decide)
  have hrun : (sendMessage engine quiet .empty (store "" (by decide)) 7 reply).toOption.any (fun out =>
      out.result.connectionID = 1 && out.queued.connectionID = 2) = true := by
    decide +kernel
  cases hsent : sendMessage engine quiet .empty (store "" (by decide)) 7 reply with
  | error err =>
    rw [hsent] at hrun
    cases hrun
  | ok out =>
    rw [hsent] at hrun
    simp only [Except.toOption, Option.any_some, Bool.and_eq_true, decide_eq_true_eq] at hrun
    refine ⟨scope, out, hscope, hX, rfl, hrun.1, hrun.2, fun hl => ?_⟩
    have hid := hrun.2.symm.trans hl.connection
    cases hid

end PerGo.L4.ReplyRoute
