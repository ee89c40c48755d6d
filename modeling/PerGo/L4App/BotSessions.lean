import PerGo.L4App.TypebotForwarder

/-!
# A bot conversation and its bot

A session of Typebot belongs to the bot it was started with, and is continued with the token of that bot. The row of
the session does not name the bot, and `SyncInboundMessage` looks for one again: a message starts the first bot of the
connection that has it for a trigger word, or else the last default, and continues with the first bot of the list.

`Stays` is the property of one message: a session is continued with the token that it was started with, and where
there is none, or it has ended, a bot is started exactly when one has the message for a trigger word or is a default.

* `sessions_stay_iff`: this holds of every message in every sequence exactly when each bot that a text can start has
  the token of the first bot of the connection;
* `continued_with_other_token`: a default bot, and one that answers to a word.
-/
namespace PerGo.L4.BotSessions

open PerGo.Core PerGo.L1 PerGo.L2 PerGo.L4.ContactEvidence PerGo.L4.TypebotForwarder

/-! ## Conversations -/

/-- The session, and the token of the chat that it was started with. -/
structure St where
  row : Option TypebotSession
  creator : Option String

structure Msg where
  env : Env
  contact : Option Contact
  event : Option InboundEvent

def track : Option String × Option String → Call → Option String × Option String
  | (creator, _), .startChat _ _ token _ => (creator, some token)
  | (creator, started), .upsertSession _ took => (if took then started.or creator else creator, started)
  | (creator, started), .deleteSession took => (if took then none else creator, started)
  | s, _ => s

section Conversation

variable (casing : Casing) (f : Forwarder)

def sync (s : St) (m : Msg) : Synced := syncInboundMessage casing f m.env m.contact m.event s.row

def step (s : St) (m : Msg) : St :=
  ⟨(sync casing f s m).row, ((sync casing f s m).calls.foldl track (s.creator, none)).1⟩

def botsOf (cfg : Config) (conn : UUID) : List BotConfig := cfg.bots.filter (·.connectionID = conn.string)

def answers (text : String) (b : BotConfig) : Bool :=
  b.triggerWords.any fun tw => casing.toLower tw = casing.toLower (trimSpace text)

/-- The message is one of the contact on the connection, and finds the configuration, if it finds one. -/
structure OfChat (cfg : Config) (ws contactID conn : UUID) (m : Msg) : Prop where
  event : ∀ e, m.event = some e → e.workspaceID = ws ∧ e.connectionID = conn
  contact : ∀ c, m.contact = some c → c.id = contactID
  config : ∀ integ c, m.env.integration = .ok integ → integ.config = .json c → c = cfg

structure Handled (cfg : Config) (m : Msg) (event : InboundEvent) : Prop where
  message : m.event = some event
  person : m.contact.isSome
  single : isGroup event = false
  config : engagedConfig f m.env event.workspaceID = .ok cfg
  read : m.env.readError = none

structure Stays (cfg : Config) (conn : UUID) (s : St) (m : Msg) : Prop where
  same_bot : ∀ apiURL sessionID token text,
    .continueChat apiURL sessionID token text ∈ (sync casing f s m).calls → s.creator = some token
  starts : ∀ event, Handled f cfg m event →
    (s.row = none ∨ ∃ took, .deleteSession took ∈ (sync casing f s m).calls) →
      ((∃ apiURL botID token req, .startChat apiURL botID token req ∈ (sync casing f s m).calls) ↔
        ∃ b ∈ botsOf cfg conn, answers casing event.body b = true ∨ b.isDefault = true)

def Starts (cfg : Config) (conn : UUID) (text : String) (b : BotConfig) : Prop :=
  ((botsOf cfg conn).find? (answers casing text)).or (((botsOf cfg conn).filter (·.isDefault)).getLast?) = some b

/-- Each bot that a text can start has the token of the first bot of the connection. -/
def OneToken (cfg : Config) (conn : UUID) : Prop :=
  ∀ text b first, Starts casing cfg conn text b → (botsOf cfg conn).head? = some first →
    b.publicToken = first.publicToken

end Conversation

variable {casing : Casing} {f : Forwarder}

/-! ## The bots -/

theorem selectBot_eq (conn : UUID) (text : String) (bots : List BotConfig) (defaultBot : Option BotConfig) :
    (selectBot casing conn.string (casing.toLower (trimSpace text)) bots defaultBot).1 =
        (bots.filter (·.connectionID = conn.string)).find? (answers casing text) ∧
      ((bots.filter (·.connectionID = conn.string)).find? (answers casing text) = none →
        (selectBot casing conn.string (casing.toLower (trimSpace text)) bots defaultBot).2 =
          (((bots.filter (·.connectionID = conn.string)).filter (·.isDefault)).getLast?).or defaultBot) := by
  induction bots generalizing defaultBot with
  | nil => exact ⟨rfl, fun _ => rfl⟩
  | cons b bots ih =>
    rw [selectBot]
    by_cases hconn : b.connectionID = conn.string
    · rw [if_pos hconn, List.filter_cons_of_pos (by simpa using hconn)]
      simp only
      cases hanswers : answers casing text b with
      | true =>
        have hany : b.triggerWords.any (fun tw => casing.toLower tw = casing.toLower (trimSpace text)) = true := hanswers
        rw [if_pos hany, List.find?_cons_of_pos hanswers]
        exact ⟨rfl, fun hnone => by cases hnone⟩
      | false =>
        have hnone : ¬ b.triggerWords.any (fun tw => casing.toLower tw = casing.toLower (trimSpace text)) = true :=
          Bool.eq_false_iff.mp hanswers
        rw [if_neg hnone, List.find?_cons_of_neg (by simp [hanswers])]
        obtain ⟨hfound, hdefault⟩ := ih (if b.isDefault then some b else defaultBot)
        refine ⟨hfound, fun h => ?_⟩
        rw [hdefault h]
        cases hb : b.isDefault with
        | true =>
          rw [List.filter_cons_of_pos hb, List.getLast?_cons]
          cases ((bots.filter (·.connectionID = conn.string)).filter (·.isDefault)).getLast? with
          | none => rfl
          | some last => rfl
        | false => rw [List.filter_cons_of_neg (by simp [hb])]; rfl
    · rw [if_neg hconn, List.filter_cons_of_neg (by simpa using hconn)]
      exact ih defaultBot

theorem startBot_eq (cfg : Config) (event : InboundEvent) :
    startBot casing cfg event = ((botsOf cfg event.connectionID).find? (answers casing event.body)).or
      (((botsOf cfg event.connectionID).filter (·.isDefault)).getLast?) := by
  obtain ⟨hfound, hdefault⟩ := @selectBot_eq casing event.connectionID event.body cfg.bots none
  unfold startBot
  simp only [hfound]
  cases hbot : (botsOf cfg event.connectionID).find? (answers casing event.body) with
  | some b =>
    have hsame : (cfg.bots.filter (·.connectionID = event.connectionID.string)).find? (answers casing event.body) =
        some b := hbot
    rw [hsame]
    rfl
  | none =>
    have hsame : (cfg.bots.filter (·.connectionID = event.connectionID.string)).find? (answers casing event.body) =
        none := hbot
    rw [hsame, hdefault hsame, Option.or_none]
    rfl

theorem starts_mem {cfg : Config} {conn : UUID} {text : String} {b : BotConfig} (h : Starts casing cfg conn text b) :
    b ∈ botsOf cfg conn := by
  rcases Option.or_eq_some_iff.mp h with hfound | ⟨-, hdefault⟩
  · exact List.mem_of_find?_eq_some hfound
  · exact (List.mem_filter.mp (List.mem_of_getLast? hdefault)).1

theorem exists_starts_iff {cfg : Config} {conn : UUID} {text : String} :
    (∃ b, Starts casing cfg conn text b) ↔
      ∃ b ∈ botsOf cfg conn, answers casing text b = true ∨ b.isDefault = true := by
  constructor
  · rintro ⟨b, hb⟩
    refine ⟨b, starts_mem hb, ?_⟩
    rcases Option.or_eq_some_iff.mp hb with hfound | ⟨-, hdefault⟩
    · exact Or.inl (List.find?_some hfound)
    · exact Or.inr (List.mem_filter.mp (List.mem_of_getLast? hdefault)).2
  · intro ⟨b, hmem, hb⟩
    by_contra hnone
    have hor : ((botsOf cfg conn).find? (answers casing text)).or (((botsOf cfg conn).filter (·.isDefault)).getLast?) =
        none := by
      rw [Option.eq_none_iff_forall_ne_some]
      exact fun b' hb' => hnone ⟨b', hb'⟩
    obtain ⟨hfound, hdefault⟩ := Option.or_eq_none_iff.mp hor
    rcases hb with hanswers | hisDefault
    · exact List.find?_eq_none.mp hfound b hmem hanswers
    · have hempty := List.getLast?_eq_none_iff.mp hdefault
      exact List.not_mem_nil (hempty ▸ List.mem_filter.mpr ⟨hmem, hisDefault⟩)

theorem activeBot_eq (cfg : Config) (conn : UUID) : activeBot cfg conn = (botsOf cfg conn).head? := by
  rw [activeBot, botsOf, List.head?_filter]

/-! ## What a message does -/

theorem mem_ingestAll {contact : Contact} {event : InboundEvent} {messages : List Message} {call : Call}
    (h : call ∈ ingestAll f contact event messages) : ∃ ws req, call = .ingest ws req := by
  unfold ingestAll at h
  split at h
  · obtain ⟨body, -, rfl⟩ := List.mem_map.mp h
    exact ⟨_, _, rfl⟩
  · exact absurd h List.not_mem_nil

theorem track_ingestAll (contact : Contact) (event : InboundEvent) (messages : List Message)
    (s : Option String × Option String) : (ingestAll f contact event messages).foldl track s = s := by
  have hall : ∀ calls : List Call, (∀ call ∈ calls, ∃ ws req, call = .ingest ws req) → calls.foldl track s = s := by
    intro calls
    induction calls with
    | nil => exact fun _ => rfl
    | cons call calls ih =>
      intro hcalls
      obtain ⟨ws, req, rfl⟩ := hcalls call List.mem_cons_self
      rw [List.foldl_cons]
      exact ih fun c hc => hcalls c (List.mem_cons_of_mem _ hc)
  exact hall _ fun call => mem_ingestAll

theorem not_continue_ingest {contact : Contact} {event : InboundEvent} {messages : List Message}
    {apiURL sessionID token text : String} :
    Call.continueChat apiURL sessionID token text ∉ ingestAll f contact event messages := by
  intro hmem
  obtain ⟨ws, req, hcall⟩ := mem_ingestAll hmem
  cases hcall

section Sync

variable (casing f) (env : Env) (cfg : Config) (contact : Contact) (event : InboundEvent)

inductive Started (row : Option TypebotSession) (calls : List Call) : Synced → Prop
  | nobody : startBot casing cfg event = none → Started row calls ⟨row, calls, none⟩
  | failed (bot : BotConfig) (err : String) : startBot casing cfg event = some bot →
      Started row calls
        ⟨row, calls ++ [.startChat cfg.apiURL bot.botID bot.publicToken (startRequest contact event)], some err⟩
  | started (bot : BotConfig) (session : TypebotSession) (messages : List Message) :
      startBot casing cfg event = some bot →
      Started row calls ⟨if env.stored then some session else row,
        calls ++ .startChat cfg.apiURL bot.botID bot.publicToken (startRequest contact event) ::
          .upsertSession session env.stored :: ingestAll f contact event messages, none⟩

theorem start_started (row : Option TypebotSession) (calls : List Call) :
    Started casing f env cfg contact event row calls
      (start casing f env cfg contact event row calls) := by
  unfold start
  cases hbot : startBot casing cfg event with
  | none => exact .nobody hbot
  | some bot =>
    simp only
    cases hstart : startChat env.started with
    | error err => exact .failed bot _ hbot
    | ok answer =>
      simp only [List.append_assoc, List.singleton_append]
      exact .started bot _ answer.2 hbot

inductive Continued (session : TypebotSession) : Synced → Prop
  | nobody : activeBot cfg event.connectionID = none → Continued session ⟨some session, [], none⟩
  | went (bot : BotConfig) (messages : List Message) : activeBot cfg event.connectionID = some bot →
      Continued session ⟨some session,
        .continueChat cfg.apiURL session.typebotSessionID bot.publicToken (messageText event).1 ::
          .upsertSession session env.touched :: ingestAll f contact event messages, none⟩
  | failed (bot : BotConfig) (err : String) : activeBot cfg event.connectionID = some bot →
      Continued session ⟨some session,
        [.continueChat cfg.apiURL session.typebotSessionID bot.publicToken (messageText event).1], some err⟩
  | ended (bot : BotConfig) (out : Synced) : activeBot cfg event.connectionID = some bot →
      Started casing f env cfg contact event (if env.deleted then none else some session)
        [.continueChat cfg.apiURL session.typebotSessionID bot.publicToken (messageText event).1,
          .deleteSession env.deleted] out →
      Continued session out

theorem continueSession_continued (session : TypebotSession) :
    Continued casing f env cfg contact event session
      (continueSession casing f env cfg contact event session (some session)) := by
  unfold continueSession
  cases hbot : activeBot cfg event.connectionID with
  | none => exact .nobody hbot
  | some bot =>
    simp only
    cases hcontinue : continueChat env.continued with
    | ok messages =>
      simp only [ite_self]
      exact .went bot messages hbot
    | error err =>
      simp only
      split
      · exact .ended bot _ hbot (start_started casing f env cfg contact event _ _)
      · exact .failed bot err hbot

end Sync

/-- What a message does. -/
inductive Effect (casing : Casing) (f : Forwarder) (s : St) (m : Msg) : Synced → Prop
  | stopped (err : Option String) : (∀ cfg event, Handled f cfg m event → False) → Effect casing f s m ⟨s.row, [], err⟩
  | started (cfg : Config) (contact : Contact) (event : InboundEvent) (out : Synced) : m.event = some event →
      engagedConfig f m.env event.workspaceID = .ok cfg → s.row = none →
      Started casing f m.env cfg contact event none [] out → Effect casing f s m out
  | continued (cfg : Config) (contact : Contact) (event : InboundEvent) (session : TypebotSession) (out : Synced) :
      m.event = some event → engagedConfig f m.env event.workspaceID = .ok cfg → s.row = some session →
      Continued casing f m.env cfg contact event session out → Effect casing f s m out

theorem configOf_nil (f : Forwarder) (env : Env) (cfg : Config) : configOf f env UUID.Nil ≠ .ok cfg := by
  intro h
  unfold configOf getByProvider at h
  rw [if_pos rfl] at h
  split at h
  · cases h
  · cases h

theorem engagedConfig_ok {env : Env} {ws : UUID} {cfg : Config} (h : engagedConfig f env ws = .ok cfg) :
    configOf f env ws = .ok cfg := by
  unfold engagedConfig at h
  split at h
  · split at h
    · cases h
    · split at h
      · exact h
      · cases h
  · exact h

theorem configOf_config {env : Env} {ws : UUID} {cfg : Config} (h : configOf f env ws = .ok cfg) :
    ∃ integ, env.integration = .ok integ ∧ integ.config = .json cfg := by
  unfold configOf getByProvider at h
  split at h
  · split at h
    · cases h
    · cases h
    · rename_i integ hfound
      split at hfound
      · cases hfound
      · split at h
        · cases h
        · split at h
          · cases h
          · cases h
          · rename_i hjson
            cases h
            exact ⟨integ, hfound, hjson⟩
  · cases h

theorem sync_effect (s : St) (m : Msg) : Effect casing f s m (sync casing f s m) := by
  unfold sync syncInboundMessage
  cases hevent : m.event with
  | none => exact .stopped none fun cfg event h => by cases hevent.symm.trans h.message
  | some event =>
    have hthis : ∀ {cfg e}, Handled f cfg m e → e = event := fun h => Option.some.inj (h.message.symm.trans hevent)
    cases hcontact : m.contact with
    | none =>
      exact .stopped none fun cfg event h => by
        have hperson := h.person
        rw [hcontact] at hperson
        cases hperson
    | some contact =>
      simp only
      cases hgroup : isGroup event with
      | true =>
        refine .stopped none fun cfg e h => ?_
        have hsingle := h.single
        rw [hthis h, hgroup] at hsingle
        cases hsingle
      | false =>
        cases hconfig : engagedConfig f m.env event.workspaceID with
        | error err =>
          refine .stopped err fun cfg e h => ?_
          have hok := h.config
          rw [hthis h, hconfig] at hok
          cases hok
        | ok cfg =>
          have hws : event.workspaceID ≠ UUID.Nil := by
            intro hnil
            have hok := engagedConfig_ok hconfig
            rw [hnil] at hok
            exact configOf_nil f m.env cfg hok
          simp only [Bool.false_eq_true, if_false]
          unfold forward getSession
          rw [if_neg hws]
          cases hread : m.env.readError with
          | some err =>
            refine .stopped _ fun cfg e h => ?_
            have hnone := h.read
            rw [hread] at hnone
            cases hnone
          | none =>
            cases hrow : s.row with
            | none => exact .started cfg contact event _ hevent hconfig hrow (start_started ..)
            | some session =>
              exact .continued cfg contact event session _ hevent hconfig hrow (continueSession_continued ..)

theorem Started.continue_mem {env : Env} {cfg : Config} {contact : Contact} {event : InboundEvent}
    {row : Option TypebotSession} {calls : List Call} {out : Synced}
    (h : Started casing f env cfg contact event row calls out) {apiURL sessionID token text : String}
    (hmem : .continueChat apiURL sessionID token text ∈ out.calls) :
    .continueChat apiURL sessionID token text ∈ calls := by
  cases h with
  | nobody hbot => exact hmem
  | failed bot err hbot => simpa using hmem
  | started bot session messages hbot => simpa [not_continue_ingest] using hmem

theorem Started.start_mem_iff {env : Env} {cfg : Config} {contact : Contact} {event : InboundEvent}
    {row : Option TypebotSession} {calls : List Call} {out : Synced}
    (h : Started casing f env cfg contact event row calls out)
    (hcalls : ∀ apiURL botID token req, .startChat apiURL botID token req ∉ calls) :
    (∃ apiURL botID token req, .startChat apiURL botID token req ∈ out.calls) ↔
      ∃ b, startBot casing cfg event = some b := by
  cases h with
  | nobody hbot =>
    refine iff_of_false ?_ ?_
    · rintro ⟨apiURL, botID, token, req, hmem⟩
      exact hcalls _ _ _ _ hmem
    · rintro ⟨b, hb⟩
      cases hbot.symm.trans hb
  | failed bot err hbot =>
    exact iff_of_true ⟨_, _, _, _, List.mem_append_right _ List.mem_cons_self⟩ ⟨bot, hbot⟩
  | started bot session messages hbot =>
    exact iff_of_true ⟨_, _, _, _, List.mem_append_right _ List.mem_cons_self⟩ ⟨bot, hbot⟩

/-! ## The token of the session -/

def Owned (cfg : Config) (conn : UUID) (row : Option TypebotSession) (creator : Option String) : Prop :=
  row.isSome = true → ∃ first, (botsOf cfg conn).head? = some first ∧ creator = some first.publicToken

theorem starts_token {cfg : Config} {conn : UUID} (h : OneToken casing cfg conn) {text : String} {b : BotConfig}
    (hb : Starts casing cfg conn text b) :
    ∃ first, (botsOf cfg conn).head? = some first ∧ b.publicToken = first.publicToken := by
  have hmem := starts_mem hb
  cases hbots : botsOf cfg conn with
  | nil =>
    rw [hbots] at hmem
    exact absurd hmem List.not_mem_nil
  | cons first bots => exact ⟨first, rfl, h text b first hb (by rw [hbots]; rfl)⟩

theorem Started.owned {env : Env} {cfg : Config} {contact : Contact} {event : InboundEvent}
    {row : Option TypebotSession} {calls : List Call} {out : Synced}
    (h : Started casing f env cfg contact event row calls out)
    (htoken : OneToken casing cfg event.connectionID) {creator creator' : Option String}
    (hcalls : calls.foldl track (creator, none) = (creator', none))
    (howned : Owned cfg event.connectionID row creator') :
    Owned cfg event.connectionID out.row (out.calls.foldl track (creator, none)).1 := by
  cases h with
  | nobody hbot =>
    rw [hcalls]
    exact howned
  | failed bot err hbot =>
    rw [List.foldl_append, hcalls]
    exact howned
  | started bot session messages hbot =>
    rw [List.foldl_append, hcalls, List.foldl_cons, List.foldl_cons, track_ingestAll]
    cases hstored : env.stored with
    | false => simpa [track] using howned
    | true =>
      intro _
      have hstarts : Starts casing cfg event.connectionID event.body bot := (startBot_eq cfg event).symm.trans hbot
      obtain ⟨first, hfirst, htok⟩ := starts_token htoken hstarts
      exact ⟨first, hfirst, by simp [track, htok]⟩

theorem Continued.owned {env : Env} {cfg : Config} {contact : Contact} {event : InboundEvent}
    {session : TypebotSession} {out : Synced}
    (h : Continued casing f env cfg contact event session out)
    (htoken : OneToken casing cfg event.connectionID) {creator : Option String}
    (howned : Owned cfg event.connectionID (some session) creator) :
    Owned cfg event.connectionID out.row (out.calls.foldl track (creator, none)).1 := by
  cases h with
  | nobody hbot => exact howned
  | went bot messages hbot =>
    rw [List.foldl_cons, List.foldl_cons, track_ingestAll]
    simpa [track] using howned
  | failed bot err hbot => exact howned
  | ended bot out hbot hstarted =>
    have hcalls : ([.continueChat cfg.apiURL session.typebotSessionID bot.publicToken (messageText event).1,
        .deleteSession env.deleted] : List Call).foldl track (creator, none) =
        (if env.deleted then none else creator, none) := rfl
    refine hstarted.owned htoken hcalls ?_
    cases env.deleted with
    | true => exact fun hnone => by cases hnone
    | false => exact howned

theorem Continued.continue_mem {env : Env} {cfg : Config} {contact : Contact} {event : InboundEvent}
    {session : TypebotSession} {out : Synced}
    (h : Continued casing f env cfg contact event session out) {apiURL sessionID token text : String}
    (hmem : .continueChat apiURL sessionID token text ∈ out.calls) :
    ∃ first, (botsOf cfg event.connectionID).head? = some first ∧ token = first.publicToken := by
  cases h with
  | nobody hbot => exact absurd hmem List.not_mem_nil
  | went bot messages hbot =>
    have hcall : token = bot.publicToken := by
      simp only [List.mem_cons, reduceCtorEq, not_continue_ingest, or_false, Call.continueChat.injEq] at hmem
      exact hmem.2.2.1
    exact ⟨bot, (activeBot_eq cfg _).symm.trans hbot, hcall⟩
  | failed bot err hbot =>
    have hcall : token = bot.publicToken := by
      simp only [List.mem_singleton, Call.continueChat.injEq] at hmem
      exact hmem.2.2.1
    exact ⟨bot, (activeBot_eq cfg _).symm.trans hbot, hcall⟩
  | ended bot out hbot hstarted =>
    have hcall : token = bot.publicToken := by
      have hfront := hstarted.continue_mem hmem
      simp only [List.mem_cons, reduceCtorEq, List.not_mem_nil, or_false, Call.continueChat.injEq] at hfront
      exact hfront.2.2.1
    exact ⟨bot, (activeBot_eq cfg _).symm.trans hbot, hcall⟩

/-! ## One message -/

theorem OfChat.eq {cfg cfg' : Config} {ws contactID conn : UUID} {m : Msg} {event : InboundEvent}
    (h : OfChat cfg ws contactID conn m) (hevent : m.event = some event)
    (hconfig : engagedConfig f m.env event.workspaceID = .ok cfg') : cfg' = cfg ∧ event.connectionID = conn := by
  obtain ⟨integ, hinteg, hjson⟩ := configOf_config (engagedConfig_ok hconfig)
  exact ⟨h.config integ cfg' hinteg hjson, (h.event event hevent).2⟩

theorem owned_step {cfg : Config} {ws contactID conn : UUID} (htoken : OneToken casing cfg conn) {s : St} {m : Msg}
    (hchat : OfChat cfg ws contactID conn m) (howned : Owned cfg conn s.row s.creator) :
    Owned cfg conn (step casing f s m).row (step casing f s m).creator := by
  unfold step
  generalize hout : sync casing f s m = out
  have heffect : Effect casing f s m out := hout ▸ sync_effect s m
  cases heffect with
  | stopped err hnot => exact howned
  | started cfg' contact event out hevent hconfig hrow hout =>
    obtain ⟨rfl, rfl⟩ := hchat.eq hevent hconfig
    exact hout.owned htoken rfl fun hnone => by cases hnone
  | continued cfg' contact event session out hevent hconfig hrow hout =>
    obtain ⟨rfl, rfl⟩ := hchat.eq hevent hconfig
    exact hout.owned htoken (hrow ▸ howned)

theorem starts_iff {cfg : Config} {ws contactID conn : UUID} {s : St} {m : Msg} (hchat : OfChat cfg ws contactID conn m)
    {event : InboundEvent} (hhandled : Handled f cfg m event)
    (hended : s.row = none ∨ ∃ took, .deleteSession took ∈ (sync casing f s m).calls) :
    (∃ apiURL botID token req, .startChat apiURL botID token req ∈ (sync casing f s m).calls) ↔
      ∃ b ∈ botsOf cfg conn, answers casing event.body b = true ∨ b.isDefault = true := by
  obtain ⟨-, rfl⟩ := hchat.eq hhandled.message hhandled.config
  have hbots : (∃ b, startBot casing cfg event = some b) ↔
      ∃ b ∈ botsOf cfg event.connectionID, answers casing event.body b = true ∨ b.isDefault = true := by
    rw [← exists_starts_iff]
    simp only [startBot_eq, Starts]
  rw [← hbots]
  generalize hout : sync casing f s m = out at hended ⊢
  have heffect : Effect casing f s m out := hout ▸ sync_effect s m
  cases heffect with
  | stopped err hnot => exact absurd hhandled (hnot cfg event)
  | started cfg' contact event' out hevent hconfig hrow hstarted =>
    obtain rfl : event' = event := Option.some.inj (hevent.symm.trans hhandled.message)
    obtain rfl : cfg' = cfg := Except.ok.inj (hconfig.symm.trans hhandled.config)
    exact hstarted.start_mem_iff fun _ _ _ _ => List.not_mem_nil
  | continued cfg' contact event' session out hevent hconfig hrow hcontinued =>
    obtain rfl : event' = event := Option.some.inj (hevent.symm.trans hhandled.message)
    obtain rfl : cfg' = cfg := Except.ok.inj (hconfig.symm.trans hhandled.config)
    have hdeleted : ∃ took, .deleteSession took ∈ out.calls := by
      rcases hended with hnone | hdeleted
      · cases hrow.symm.trans hnone
      · exact hdeleted
    obtain ⟨took, hmem⟩ := hdeleted
    cases hcontinued with
    | nobody hbot => exact absurd hmem List.not_mem_nil
    | went bot messages hbot =>
      exfalso
      simp only [List.mem_cons, reduceCtorEq, false_or] at hmem
      obtain ⟨_, _, hcall⟩ := mem_ingestAll hmem
      cases hcall
    | failed bot err hbot => simp at hmem
    | ended bot out hbot hstarted => exact hstarted.start_mem_iff fun _ _ _ _ h => by simp at h

theorem stays_of_owned {cfg : Config} {ws contactID conn : UUID} {s : St} {m : Msg}
    (hchat : OfChat cfg ws contactID conn m) (howned : Owned cfg conn s.row s.creator) : Stays casing f cfg conn s m := by
  refine ⟨fun apiURL sessionID token text hmem => ?_, fun event hhandled hended => starts_iff hchat hhandled hended⟩
  generalize hout : sync casing f s m = out at hmem
  have heffect : Effect casing f s m out := hout ▸ sync_effect s m
  cases heffect with
  | stopped err hnot => exact absurd hmem List.not_mem_nil
  | started cfg' contact event out hevent hconfig hrow hstarted =>
    exact absurd (hstarted.continue_mem hmem) List.not_mem_nil
  | continued cfg' contact event session out hevent hconfig hrow hcontinued =>
    obtain ⟨rfl, rfl⟩ := hchat.eq hevent hconfig
    obtain ⟨first, hfirst, htoken⟩ := hcontinued.continue_mem hmem
    obtain ⟨first', hfirst', hcreator⟩ := howned (by rw [hrow]; rfl)
    cases hfirst.symm.trans hfirst'
    rw [hcreator, htoken]

/-! ## A bot with another token -/

def plainEvent (conn : UUID) (text : String) : InboundEvent :=
  { workspaceID := 1, connectionID := conn, messageID := "", traceID := "", channel := "whatsapp", from_ := "",
    to_ := "", body := text, media := none, location := none, contacts := [], interactive := none, story := none, reaction := none,
    senderName := "", occurredAt := 0, entryPointType := "", metadata := [] }

/-- A message that gets to the sessions, with answers of Typebot that are fine. -/
def plainMsg (cfg : Config) (conn : UUID) (text : String) : Msg where
  env := { now := 0, snapshot := .error "", integration := .ok ⟨true, .json cfg⟩, readError := none,
           continued := .answered 200 "" (.ok []), started := .answered 200 "" (.ok ("session", [])), touched := true,
           deleted := true, stored := true }
  contact := some ⟨1, ""⟩
  event := some (plainEvent conn text)

def plainForwarder : Forwarder := ⟨false, true, false⟩

theorem plainMsg_ofChat (cfg : Config) (conn : UUID) (text : String) : OfChat cfg 1 1 conn (plainMsg cfg conn text) := by
  refine ⟨fun e he => ?_, fun c hc => ?_, fun integ c hinteg hjson => ?_⟩
  · cases he
    exact ⟨rfl, rfl⟩
  · cases hc
    rfl
  · cases hinteg
    cases hjson
    rfl

theorem not_stays {cfg : Config} {conn : UUID} {text : String} {b first : BotConfig}
    (hstarts : Starts casing cfg conn text b) (hfirst : (botsOf cfg conn).head? = some first) (hne : b.publicToken ≠ first.publicToken) (text' : String) :
    ¬ EveryCall (step casing plainForwarder) (Stays casing plainForwarder cfg conn) ⟨none, none⟩
      [plainMsg cfg conn text, plainMsg cfg conn text'] := by
  have hbot : startBot casing cfg (plainEvent conn text) = some b := (startBot_eq cfg _).trans hstarts
  have hsync : sync casing plainForwarder ⟨none, none⟩ (plainMsg cfg conn text) =
      start casing plainForwarder (plainMsg cfg conn text).env cfg ⟨1, ""⟩ (plainEvent conn text) none [] := rfl
  have hstep : step casing plainForwarder ⟨none, none⟩ (plainMsg cfg conn text) =
      ⟨some ⟨1, 1, conn, "session"⟩, some b.publicToken⟩ := by
    unfold step
    rw [hsync, start, hbot]
    rfl
  have hnext : sync casing plainForwarder ⟨some ⟨1, 1, conn, "session"⟩, some b.publicToken⟩ (plainMsg cfg conn text') =
      continueSession casing plainForwarder (plainMsg cfg conn text').env cfg ⟨1, ""⟩ (plainEvent conn text')
        ⟨1, 1, conn, "session"⟩ (some ⟨1, 1, conn, "session"⟩) := rfl
  have hactive : activeBot cfg (plainEvent conn text').connectionID = some first := (activeBot_eq cfg conn).trans hfirst
  rintro ⟨-, hsecond, -⟩
  rw [hstep] at hsecond
  have hsame := hsecond.same_bot cfg.apiURL "session" first.publicToken (messageText (plainEvent conn text')).1 (by
    rw [hnext, continueSession, hactive]
    exact List.mem_cons_self)
  exact hne (Option.some.inj hsame)

/-- Every message of every conversation on a connection stays with its bot exactly when the bots that can be started have
the token of the first one. -/
theorem sessions_stay_iff (casing : Casing) (cfg : Config) (conn : UUID) :
    (∀ f ws contactID ms, (∀ m ∈ ms, OfChat cfg ws contactID conn m) →
        EveryCall (step casing f) (Stays casing f cfg conn) ⟨none, none⟩ ms) ↔
      OneToken casing cfg conn := by
  constructor
  · intro hall text b first hstarts hfirst
    by_contra hne
    refine not_stays hstarts hfirst hne "" (hall plainForwarder 1 1 _ fun m hm => ?_)
    simp only [List.mem_cons, List.not_mem_nil, or_false] at hm
    rcases hm with rfl | rfl
    · exact plainMsg_ofChat cfg conn text
    · exact plainMsg_ofChat cfg conn ""
  · intro htoken f ws contactID ms
    have hrun : ∀ s, Owned cfg conn s.row s.creator → (∀ m ∈ ms, OfChat cfg ws contactID conn m) →
        EveryCall (step casing f) (Stays casing f cfg conn) s ms := by
      induction ms with
      | nil => exact fun _ _ _ => trivial
      | cons m ms ih =>
        intro s howned hchat
        have hm := hchat m List.mem_cons_self
        exact ⟨stays_of_owned hm howned,
          ih _ (owned_step htoken hm howned) fun m' hm' => hchat m' (List.mem_cons_of_mem _ hm')⟩
    exact hrun ⟨none, none⟩ fun hnone => by cases hnone

/-! A default bot, and one for sales. -/

def menuBot : BotConfig := ⟨UUID.string 1, "menu", "token-menu", [], true⟩

def salesBot : BotConfig := ⟨UUID.string 1, "sales", "token-sales", ["sales"], false⟩

theorem continued_with_other_token :
    ¬ EveryCall (step latinCasing plainForwarder) (Stays latinCasing plainForwarder ⟨"", [menuBot, salesBot]⟩ 1)
      ⟨none, none⟩ [plainMsg ⟨"", [menuBot, salesBot]⟩ 1 "Sales", plainMsg ⟨"", [menuBot, salesBot]⟩ 1 "two lamps"] := by
  have hbots : botsOf ⟨"", [menuBot, salesBot]⟩ 1 = [menuBot, salesBot] := by simp [botsOf, menuBot, salesBot]
  have hmenu : answers latinCasing "Sales" menuBot = false := rfl
  have hsales : answers latinCasing "Sales" salesBot = true := by decide +kernel
  have hstarts : Starts latinCasing ⟨"", [menuBot, salesBot]⟩ 1 "Sales" salesBot := by
    rw [Starts, hbots, List.find?_cons_of_neg (by simp [hmenu]), List.find?_cons_of_pos hsales]
    rfl
  have hfirst : (botsOf ⟨"", [menuBot, salesBot]⟩ 1).head? = some menuBot := by
    rw [hbots]
    rfl
  exact not_stays hstarts hfirst (by decide +kernel) "two lamps"

end PerGo.L4.BotSessions
