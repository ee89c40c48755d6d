import PerGo.Core.LTS
import PerGo.L3Inbound.Processor

/-!
# Provider retries of one inbound message

A provider repeats a webhook until it is answered without an error, so
`InboundProcessor.Process` runs any number of times on the same event. The
state is the tables and a log of the calls; a step is one call, its label the
answers of the dependencies.

The dedup row, the chat message and the published event are three commits in
this order. When the last one fails, the call returns an error, but the first
two stay, and each of them makes the provider's retry a no-op
(`failed_publish_is_lost`).

* `RetriesPublish`: once a call returned an error, a later call without
  failures leaves the event published.
* `retries_publish`: this holds in every run in which each call that claims the
  message (inserts its dedup row or, where the dedup insert is skipped, records
  its chat message) also gets it published.
-/
namespace PerGo.L4.InboundRetry

open PerGo.Core PerGo.L1 PerGo.L2 PerGo.L3

/-- One `Process` call: the inboundAnswers it got, what it returned, and whether it published the event. -/
structure Call where
  env : InEnv
  err : Option GoError
  published : Bool

structure St where
  dedups : List (UUID × String × String)
  messages : List (UUID × String)
  table : Dispatches
  log : List Call

def St.world (s : St) : InWorld := ⟨s.dedups, s.messages, s.table, []⟩

/-- The server took an `inbound_message` event. -/
def isPublished : InEffect → Bool
  | .publish _ (.inboundMessage _) _ ok => ok
  | _ => false

section Model

variable (p : InboundProcessor) (ev : InboundEvent)

def call (s : St) (env : InEnv) : St :=
  let r := processInbound p env ev s.world
  { dedups := r.1.dedups, messages := r.1.messages, table := r.1.table,
    log := s.log ++ [⟨env, r.2, r.1.out.any isPublished⟩] }

/-- The event has not been seen: no dedup row and no chat message for it. -/
def Unseen (dedups : List (UUID × String × String)) (messages : List (UUID × String)) : Prop :=
  (ev.workspaceID, ev.channel, ev.messageID) ∉ dedups ∧ (ev.workspaceID, ev.messageID) ∉ messages ∧
  (ev.workspaceID, trimSpace ev.messageID) ∉ messages

def sys : LTS St InEnv where
  init s := Unseen ev s.dedups s.messages ∧ s.log = []
  step s env s' := s' = call p ev s env

/-- An inbound message: neither a reaction nor a provider status. -/
structure IsMessage : Prop where
  workspace : ev.workspaceID ≠ UUID.Nil
  messageID : ev.messageID ≠ ""
  noReaction : ev.reaction = none
  noStatus : ev.metadata.get "type" ≠ "status_update"

def carriesContent (env : InEnv) : Bool :=
  ev.body ≠ "" || ev.interactive.isSome || ev.story.isSome ||
  (match ev.media, env.upload with
    | some m, .ok _ => m.bytes ≠ [] && p.mediaEngine
    | _, _ => false) ||
  (p.wsRepo && env.piiOptIn.getD false && (ev.location.isSome || !ev.contacts.isEmpty))

/-- No step of the call fails. -/
structure Clean (env : InEnv) : Prop where
  dedup : env.dedupErr = none
  contact : env.contact.isSome = true
  upload : ∃ url, env.upload = .ok url
  activity : env.activityErr = none
  workspace : env.piiOptIn.isSome = true
  marshal : env.marshalErr = none
  publish : env.publishErr = none

/-- After a call that returned an error, a later call without failures leaves the event published. -/
def RetriesPublish (s : St) : Prop :=
  ∀ before c mid c' after, s.log = before ++ c :: mid ++ c' :: after → c.err ≠ none →
    Clean c'.env → carriesContent p ev c'.env = true →
    ∃ k ∈ before ++ c :: mid ++ [c'], k.published = true

/-- The call inserts the dedup row or, where that insert is skipped, records the chat message. -/
def Claims (s : St) (env : InEnv) : Prop :=
  if dedupActive p ev then
    env.dedupErr = none ∧ (ev.workspaceID, ev.channel, ev.messageID) ∉ s.dedups
  else
    p.activity = true ∧ (resolvedContact p env).isSome = true ∧ trimSpace ev.messageID ≠ "" ∧
    env.activityErr = none ∧ trimSpace ev.messageID ∉ s.messages.map (·.2)

/-- A call that claims the message gets it published. -/
def ClaimPublishes (s : St) (env : InEnv) : Prop :=
  Claims p ev s env → carriesContent p ev env = true ∧ env.marshalErr = none ∧ env.publishErr = none

end Model

/-! ## One call -/

section OneCall

variable (p : InboundProcessor) (ev : InboundEvent) (env : InEnv)

theorem processInbound_message {ev : InboundEvent} (hm : IsMessage ev) (w : InWorld) :
    processInbound p env ev w = processMessage p env ev w (traceOf env ev) := by
  unfold processInbound
  rw [if_neg hm.workspace, hm.noReaction]
  exact if_neg hm.noStatus

theorem messageUID_of_ne {ev : InboundEvent} (h : ev.messageID ≠ "") (trace : String) : messageUID ev trace = ev.messageID := by
  rw [messageUID, if_neg h]

theorem recordActivity_messages (w : InWorld) (contact : Option UUID) (uid : String) :
    (recordActivity p env ev w contact uid).2.dedups = w.dedups ∧
    ((recordActivity p env ev w contact uid).2.messages = w.messages ∨
      (p.activity = true ∧ contact.isSome = true ∧ trimSpace uid ≠ "" ∧ env.activityErr = none ∧
        trimSpace uid ∉ w.messages.map (·.2) ∧
        (recordActivity p env ev w contact uid).2.messages =
          (ev.workspaceID, trimSpace uid) :: w.messages)) ∧
    ((recordActivity p env ev w contact uid).1 = some .duplicate →
      (ev.workspaceID, trimSpace uid) ∈ w.messages) := by
  unfold recordActivity
  cases contact with
  | none => exact ⟨rfl, Or.inl rfl, fun h => by cases h⟩
  | some c =>
    cases hact : p.activity with
    | false => exact ⟨rfl, Or.inl rfl, fun h => by cases h⟩
    | true =>
      simp only [if_true, recorderInbound]
      by_cases hu : trimSpace uid = ""
      · rw [if_pos hu]
        exact ⟨rfl, Or.inl rfl, fun h => by cases h⟩
      · rw [if_neg hu]
        cases herr : env.activityErr with
        | some e => exact ⟨rfl, Or.inl rfl, fun h => by cases h⟩
        | none =>
          by_cases hdup : (ev.workspaceID, trimSpace uid) ∈ w.messages
          · simp only [if_pos hdup]
            exact ⟨trivial, Or.inl trivial, fun _ => hdup⟩
          · by_cases hglob : trimSpace uid ∈ w.messages.map (·.2)
            · simp only [if_neg hdup, if_pos hglob]
              exact ⟨trivial, Or.inl trivial, fun h => by cases h⟩
            · simp only [if_neg hdup, if_neg hglob]
              exact ⟨trivial, Or.inr ⟨trivial, rfl, hu, trivial, hglob, trivial⟩, fun h => by cases h⟩

theorem publishMessage_tables (w : InWorld) (trace : String) (payload : InboundEventPayload) :
    (publishMessage p env ev w trace payload).1.dedups = w.dedups ∧
    (publishMessage p env ev w trace payload).1.messages = w.messages := by
  unfold publishMessage
  split
  · exact ⟨rfl, rfl⟩
  split
  · exact ⟨rfl, rfl⟩
  split
  · exact ⟨rfl, rfl⟩
  simp only [auditEffect]
  split <;> split <;> exact ⟨rfl, rfl⟩

theorem forwardMessage_tables (w : InWorld) (trace uid : String) (contact : Option UUID)
    (receipt : Option Receipt) :
    (forwardMessage p ev w trace uid contact receipt).dedups = w.dedups ∧
    (forwardMessage p ev w trace uid contact receipt).messages = w.messages := by
  unfold forwardMessage
  cases contact with
  | none => exact ⟨rfl, rfl⟩
  | some c =>
    cases receipt with
    | none =>
      simp only
      split <;> exact ⟨rfl, rfl⟩
    | some r =>
      simp only
      split <;> split <;> exact ⟨rfl, rfl⟩

theorem finishMessage_tables (w : InWorld) (trace uid : String) (uploaded : Option EventMedia)
    (receipt : Option Receipt) :
    (finishMessage p env ev w trace uid uploaded receipt).1.dedups = w.dedups ∧
    (finishMessage p env ev w trace uid uploaded receipt).1.messages = w.messages := by
  simp only [finishMessage]
  split
  · exact ⟨rfl, rfl⟩
  have hpub := publishMessage_tables p ev env w trace
    (buildPayload p env ev trace (occurredAtOf env ev) uploaded receipt)
  generalize publishMessage p env ev w trace _ = pm at hpub ⊢
  obtain ⟨w₁, _ | e⟩ := pm
  · obtain ⟨h1, h2⟩ := forwardMessage_tables p ev w₁ trace uid (resolvedContact p env) receipt
    exact ⟨h1.trans hpub.1, h2.trans hpub.2⟩
  · exact hpub

theorem processMessage_tables (trace : String) {w w₁ : InWorld} (hd : dedupCheck p env ev w = .proceed w₁) :
    (processMessage p env ev w trace).1.dedups = w₁.dedups ∧
    (processMessage p env ev w trace).1.messages =
      (recordActivity p env ev w₁ (resolvedContact p env) (messageUID ev trace)).2.messages := by
  have hra := (recordActivity_messages p ev env w₁ (resolvedContact p env) (messageUID ev trace)).1
  simp only [processMessage, hd]
  generalize recordActivity p env ev w₁ (resolvedContact p env) (messageUID ev trace) = ra at hra ⊢
  obtain ⟨result, w₂⟩ := ra
  simp only at hra ⊢
  split
  · exact ⟨hra, rfl⟩
  · obtain ⟨h1, h2⟩ := finishMessage_tables p ev env w₂ trace (messageUID ev trace)
      (uploadMedia p env ev w₁ (messageUID ev trace)) (result.bind ActivityResult.receipt)
    exact ⟨h1.trans hra, h2⟩

theorem unclaimed_tables {ev : InboundEvent} (hm : IsMessage ev) {s : St} (h : ¬ Claims p ev s env) :
    (call p ev s env).dedups = s.dedups ∧ (call p ev s env).messages = s.messages := by
  simp only [call, processInbound_message p env hm]
  unfold Claims at h
  cases hact : dedupActive p ev with
  | true =>
    -- the insert fails or finds the row
    rw [hact, if_pos rfl, not_and_or, not_not] at h
    cases herr : env.dedupErr with
    | some e =>
      simp only [processMessage, dedupCheck, hact, herr, if_true]
      exact ⟨rfl, rfl⟩
    | none =>
      have hin : (ev.workspaceID, ev.channel, ev.messageID) ∈ s.world.dedups := by
        rcases h with h | h
        · exact absurd herr h
        · exact h
      simp only [processMessage, dedupCheck, hact, herr, hin, if_true]
      exact ⟨rfl, rfl⟩
  | false =>
    rw [hact, if_neg (by decide)] at h
    have hd : dedupCheck p env ev s.world = .proceed s.world := by simp [dedupCheck, hact]
    obtain ⟨h1, h2⟩ := processMessage_tables p ev env (traceOf env ev) hd
    rw [messageUID_of_ne hm.messageID] at h2
    refine ⟨h1, h2.trans ?_⟩
    obtain ⟨_, hmsg, _⟩ := recordActivity_messages p ev env s.world (resolvedContact p env) ev.messageID
    rcases hmsg with hmsg | ⟨ha, hc, hu, he, hg, _⟩
    · exact hmsg
    · exact absurd ⟨ha, hc, hu, he, hg⟩ h

theorem any_emit {f : InEffect → Bool} {w : InWorld} (h : w.out.any f = true) (e : InEffect) :
    (w.emit e).out.any f = true := by
  simp [InWorld.emit, h]

theorem publishMessage_published (hp : p.publisher = true) (hmar : env.marshalErr = none)
    (hpub : env.publishErr = none) (w : InWorld) (trace : String) (payload : InboundEventPayload) :
    ∃ w', publishMessage p env ev w trace payload = (w', none) ∧ w'.out.any isPublished = true := by
  have h1 : (w.emit (.publish (inboundSubject ev.workspaceID) (.inboundMessage payload) trace true)).out.any
      isPublished = true := by
    simp [InWorld.emit, isPublished]
  have h2 : (auditEffect p (w.emit (.publish (inboundSubject ev.workspaceID) (.inboundMessage payload) trace
      true)) ev.workspaceID trace "inbound_message" (.inboundMessage payload)).out.any isPublished = true := by
    unfold auditEffect
    split
    · exact any_emit h1 _
    · exact h1
  simp only [publishMessage, hp, hmar, hpub, Bool.not_true, Bool.false_eq_true, if_false]
  cases secondEvent env ev trace with
  | none => exact ⟨_, rfl, h2⟩
  | some second => exact ⟨_, rfl, any_emit h2 _⟩

theorem any_emit_ite {f : InEffect → Bool} {w : InWorld} (h : w.out.any f = true) (c : Bool) (e : InEffect) :
    (if c then w.emit e else w).out.any f = true := by
  cases c with
  | true => exact any_emit h e
  | false => exact h

theorem forwardMessage_published {w : InWorld} (h : w.out.any isPublished = true) (trace uid : String)
    (contact : Option UUID) (receipt : Option Receipt) :
    (forwardMessage p ev w trace uid contact receipt).out.any isPublished = true := by
  unfold forwardMessage
  cases contact with
  | none => exact h
  | some c =>
    cases receipt with
    | none => exact any_emit_ite h _ _
    | some r => exact any_emit_ite (any_emit_ite h _ _) _ _

theorem content_not_empty {w : InWorld} (hc : carriesContent p ev env = true)
    (hnew : (ev.workspaceID, ev.messageID) ∉ w.messages) (trace : String) (t : Time)
    (receipt : Option Receipt) :
    payloadEmpty (buildPayload p env ev trace t (uploadMedia p env ev w ev.messageID) receipt) = false := by
  simp only [carriesContent, Bool.or_eq_true, decide_eq_true_eq] at hc
  simp only [payloadEmpty, buildPayload]
  rcases hc with (((hb | hi) | hs) | hmedia) | hpii
  · simp [hb]
  · cases hx : ev.interactive with
    | none => simp [hx] at hi
    | some i => simp
  · cases hx : ev.story with
    | none => simp [hx] at hs
    | some x => simp
  · cases hm : ev.media with
    | none => simp [hm] at hmedia
    | some m =>
      cases hu : env.upload with
      | error e => simp [hm, hu] at hmedia
      | ok url =>
        simp only [hm, hu, Bool.and_eq_true, decide_eq_true_eq] at hmedia
        have hup : (uploadMedia p env ev w ev.messageID).isNone = false := by
          simp only [uploadMedia, hm, hu, hmedia.1, hnew, decide_false, Bool.and_false, Bool.or_false, hmedia.2,
            Bool.not_true, Bool.false_eq_true, if_false]
          split
          · cases env.audioTelemetry <;> rfl
          · rfl
        simp [hup]
  · simp only [Bool.and_eq_true, Bool.or_eq_true] at hpii
    obtain ⟨⟨hw, ho⟩, hl | hl⟩ := hpii
    · simp only [hw, ho, Bool.and_self, if_true]
      cases hx : ev.location with
      | none => simp [hx] at hl
      | some l => simp
    · have : ev.contacts.isEmpty = false := by simpa using hl
      simp [hw, ho, this]

theorem unseen_published {ev : InboundEvent} (hm : IsMessage ev) (hp : p.publisher = true) {s : St}
    (hu : Unseen ev s.dedups s.messages) (hd : dedupActive p ev = true → env.dedupErr = none)
    (hc : carriesContent p ev env = true) (hmar : env.marshalErr = none) (hpub : env.publishErr = none) :
    (processInbound p env ev s.world).1.out.any isPublished = true := by
  obtain ⟨hu1, hu2, hu3⟩ := hu
  obtain ⟨w₁, hw₁, hmsg⟩ : ∃ w₁, dedupCheck p env ev s.world = .proceed w₁ ∧ w₁.messages = s.messages := by
    unfold dedupCheck
    cases hact : dedupActive p ev with
    | true =>
      have hin : (ev.workspaceID, ev.channel, ev.messageID) ∉ s.world.dedups := hu1
      simp only [if_true, hd hact, hin, if_false]
      exact ⟨_, rfl, rfl⟩
    | false => exact ⟨_, rfl, rfl⟩
  rw [← hmsg] at hu2 hu3
  rw [processInbound_message p env hm]
  simp only [processMessage, hw₁, messageUID_of_ne hm.messageID]
  obtain ⟨_, _, hdup⟩ := recordActivity_messages p ev env w₁ (resolvedContact p env) ev.messageID
  generalize recordActivity p env ev w₁ (resolvedContact p env) ev.messageID = ra at hdup ⊢
  obtain ⟨result, w₂⟩ := ra
  rw [if_neg (fun h => hu3 (hdup h))]
  have hne := content_not_empty p ev env hc hu2 (traceOf env ev) (occurredAtOf env ev)
    (result.bind ActivityResult.receipt)
  obtain ⟨w₃, hw₃, hout⟩ := publishMessage_published p ev env hp hmar hpub w₂ (traceOf env ev)
    (buildPayload p env ev (traceOf env ev) (occurredAtOf env ev) (uploadMedia p env ev w₁ ev.messageID)
      (result.bind ActivityResult.receipt))
  simp only [finishMessage, hne, Bool.false_eq_true, if_false, hw₃]
  exact forwardMessage_published p ev hout _ _ _ _

end OneCall

/-! ## Runs -/

section Runs

variable {p : InboundProcessor} {ev : InboundEvent}

/-- Some call published the event, or nothing in the tables would stop a call from doing so. -/
def PublishedOrUnseen (s : St) (ev : InboundEvent) : Prop :=
  (∃ k ∈ s.log, k.published = true) ∨ Unseen ev s.dedups s.messages

theorem retriesPublish_append {s s' : St} {c : Call} (hlog : s'.log = s.log ++ [c])
    (h : RetriesPublish p ev s)
    (hc : Clean c.env → carriesContent p ev c.env = true → ∃ k ∈ s'.log, k.published = true) :
    RetriesPublish p ev s' := by
  intro before x mid y after hsplit hx hclean hcontent
  rw [hlog] at hsplit
  rcases List.eq_nil_or_concat after with rfl | ⟨after', z, rfl⟩
  · have hy := List.append_inj' hsplit rfl
    have hcy : c = y := by simpa using hy.2
    rw [← hcy] at hclean hcontent ⊢
    rw [← hy.1, ← hlog]
    exact hc hclean hcontent
  · rw [List.concat_eq_append, ← List.cons_append, ← List.append_assoc] at hsplit
    exact h before x mid y after' (List.append_inj' hsplit rfl).1 hx hclean hcontent

theorem call_log (s : St) (env : InEnv) :
    (call p ev s env).log =
      s.log ++ [⟨env, (processInbound p env ev s.world).2,
        (processInbound p env ev s.world).1.out.any isPublished⟩] := rfl

theorem publishedOrUnseen_step (hm : IsMessage ev) (hp : p.publisher = true) {s : St} {env : InEnv}
    (h : PublishedOrUnseen s ev) (hg : ClaimPublishes p ev s env) :
    PublishedOrUnseen (call p ev s env) ev := by
  rcases h with ⟨k, hk, hpub⟩ | hu
  · refine Or.inl ⟨k, ?_, hpub⟩
    rw [call_log]
    exact List.mem_append_left _ hk
  · by_cases hcl : Claims p ev s env
    · obtain ⟨hc, hmar, hpe⟩ := hg hcl
      have hd : dedupActive p ev = true → env.dedupErr = none := by
        intro hact
        rw [Claims, if_pos hact] at hcl
        exact hcl.1
      refine Or.inl ⟨_, List.mem_append_right _ (List.mem_singleton.2 rfl), ?_⟩
      exact unseen_published p env hm hp hu hd hc hmar hpe
    · obtain ⟨h1, h2⟩ := unclaimed_tables p env hm hcl
      exact Or.inr (by rwa [h1, h2])

theorem retriesPublish_step (hm : IsMessage ev) (hp : p.publisher = true) {s : St} {env : InEnv}
    (h : RetriesPublish p ev s) (hu : PublishedOrUnseen s ev) :
    RetriesPublish p ev (call p ev s env) := by
  refine retriesPublish_append (call_log s env) h ?_
  intro hclean hcontent
  rw [call_log]
  rcases hu with ⟨k, hk, hpub⟩ | hu
  · exact ⟨k, List.mem_append_left _ hk, hpub⟩
  · exact ⟨_, List.mem_append_right _ (List.mem_singleton.2 rfl),
      unseen_published p env hm hp hu (fun _ => hclean.dedup) hcontent hclean.marshal hclean.publish⟩

theorem sys_inductive (hm : IsMessage ev) (hp : p.publisher = true) :
    ((sys p ev).restrict (ClaimPublishes p ev)).Inductive
      (fun s => RetriesPublish p ev s ∧ PublishedOrUnseen s ev) := by
  apply LTS.Inductive.of_restrict
  · intro s ⟨hu, hlog⟩
    refine ⟨?_, Or.inr hu⟩
    intro before c mid c' after hsplit
    rw [hlog] at hsplit
    simp at hsplit
  · intro s env s' ⟨hr, hu⟩ hg hs
    subst hs
    exact ⟨retriesPublish_step hm hp hr hu, publishedOrUnseen_step hm hp hu hg⟩

/-- **Retries publish.** However often the provider repeats a message and whichever steps fail, a call
without failures after a call that returned an error leaves the event published, provided every call
that claims the message also gets it published. -/
theorem retries_publish (hm : IsMessage ev) (hp : p.publisher = true) {s : St}
    (h : ((sys p ev).restrict (ClaimPublishes p ev)).Reachable s) : RetriesPublish p ev s :=
  ((sys_inductive hm hp).reachable h).1

end Runs

/-! ## A retry that publishes, and one that is ignored -/

def inboundText : InboundEvent :=
  { workspaceID := 7, connectionID := 3, messageID := "wamid.in.1", traceID := "t-1",
    channel := "whatsapp_cloud", from_ := "5511999990000", to_ := "5511888880000", body := "hello",
    media := none, location := none, contacts := [], interactive := none, story := none, reaction := none,
    senderName := "Ana", occurredAt := 0, entryPointType := "", metadata := [] }

def dedupFails : InEnv := { inboundAnswers with dedupErr := some ⟨"connection refused", false⟩ }

def publishFails : InEnv := { inboundAnswers with publishErr := some ⟨"nats: timeout", false⟩ }

def fresh : St := ⟨[], [], Dispatches.empty, []⟩

/-- The state after the calls `envs`. -/
def calls (envs : List InEnv) : St := envs.foldl (call serverInboundProcessor inboundText) fresh

theorem inboundText_isMessage : IsMessage inboundText := ⟨by decide, by decide, rfl, by decide⟩

theorem fresh_init : (sys serverInboundProcessor inboundText).init fresh :=
  ⟨⟨List.not_mem_nil, List.not_mem_nil, List.not_mem_nil⟩, rfl⟩

theorem inboundAnswers_clean : Clean inboundAnswers := ⟨rfl, rfl, ⟨_, rfl⟩, rfl, rfl, rfl, rfl⟩

/-- A failed dedup insert, then a call without failures. -/
theorem retries_publish_after_dedup_error :
    RetriesPublish serverInboundProcessor inboundText (calls [dedupFails, inboundAnswers]) ∧
    (calls [dedupFails, inboundAnswers]).log.map (fun c => (c.err.isSome, c.published)) =
      [(true, false), (false, true)] := by
  refine ⟨retries_publish inboundText_isMessage rfl ⟨fresh, [dedupFails, inboundAnswers], fresh_init, ?_⟩,
    by decide +kernel⟩
  refine LTS.Run.cons ⟨?_, rfl⟩ (LTS.Run.cons ⟨?_, rfl⟩ (LTS.Run.nil _))
  · intro hcl
    rw [Claims, if_pos (by decide)] at hcl
    cases hcl.1
  · intro _
    exact ⟨by decide, rfl, rfl⟩

/-- The publish fails after the dedup row and the chat message are committed: the call returns an
error, and the provider's retry finds the dedup row and does nothing. -/
theorem failed_publish_is_lost :
    ∃ s, (sys serverInboundProcessor inboundText).Reachable s ∧
      ¬ RetriesPublish serverInboundProcessor inboundText s := by
  refine ⟨calls [publishFails, inboundAnswers], ⟨fresh, [publishFails, inboundAnswers], fresh_init, ?_⟩, ?_⟩
  · exact LTS.Run.cons rfl (LTS.Run.cons rfl (LTS.Run.nil _))
  · intro h
    obtain ⟨k, hk, hpub⟩ := h [] _ [] _ [] rfl (by decide +kernel) inboundAnswers_clean (by decide)
    have hnone : ∀ k ∈ (calls [publishFails, inboundAnswers]).log, k.published = false := by decide +kernel
    rw [hnone k hk] at hpub
    cases hpub

end PerGo.L4.InboundRetry
