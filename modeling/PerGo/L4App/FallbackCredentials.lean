import PerGo.L3Channel.Credentials
import PerGo.L3Queue.Invocations

/-!
# Credentials along the fallback channels

`Process` copies the queue message for every channel it tries and rewrites `To` and
`Channel` only; `ConnectionID` and `SenderIdentity` stay those of the connection
`Ingest` resolved for the primary channel. The adapter of a fallback channel then
loads that row, whatever its channel (`telegramConfig`, `wabaConfig`).

* `PrimaryConnection`: what `Ingest` put into the message.
* `OnChannel`: one invocation is handed a connection of the workspace on the invoked
  channel, its token and phone number are those of such a connection, and credentials
  that are refused are not those of another channel.
* `credentials_on_channel`: the invocations of a call are all `OnChannel` exactly when
  the loop reaches no channel but the primary one.
-/
namespace PerGo.L4.FallbackCredentials

open PerGo.Core PerGo.L1 PerGo.L2 PerGo.L3 PerGo.L3.Channel

/-- `c` is a connection of workspace `ws` on channel `chan`. -/
structure ConnectionOf (conns : Connections) (ws : UUID) (chan : String) (c : Connection) : Prop where
  row : c ∈ conns.rows
  workspace : c.workspaceID = ws
  channel : c.channel = chan

def PrimaryConnection (conns : Connections) (q : QueueMessage) : Prop :=
  ∃ c, ConnectionOf conns q.workspaceID q.channel c ∧ c.id = q.connectionID ∧
    c.senderIdentity = q.senderIdentity

/-- The payload `p` is one for the dispatcher of `chan` in workspace `ws`. -/
structure OnChannel (load : LoadEnv) (conns : Connections) (ws : UUID) (chan : String) (p : MessagePayload) :
    Prop where
  connection : ∃ c, ConnectionOf conns ws chan c ∧ c.id = p.connectionID ∧ c.senderIdentity = p.senderIdentity
  telegram : chan = "telegram" → ∀ config, telegramConfig load conns p = .ok config →
    ∃ c, ConnectionOf conns ws "telegram" c ∧ decodeTelegramConfig c = some config
  waba : chan = "whatsapp_cloud" → ∀ config, wabaConfig load conns p = .ok config →
    ∃ c, ConnectionOf conns ws "whatsapp_cloud" c ∧ decodeWABAConfig c = some config
  /-- credentials that are refused are those of a connection of this channel -/
  refused : ∀ c, c ∈ conns.rows → c.id = p.connectionID → c.channel = chan

/-- What the first field says gives the rest: ids are unique. -/
theorem OnChannel.of_connection {load : LoadEnv} {conns : Connections} {ws : UUID} {chan : String}
    {p : MessagePayload}
    (h : ∃ c, ConnectionOf conns ws chan c ∧ c.id = p.connectionID ∧ c.senderIdentity = p.senderIdentity) :
    OnChannel load conns ws chan p := by
  obtain ⟨c, hc, hid, hs⟩ := h
  have huniq : ∀ c' ∈ conns.rows, c'.id = p.connectionID → c' = c := fun c' hm hid' =>
    eq_of_key_eq conns.ids hm hc.row (hid'.trans hid.symm)
  refine ⟨⟨c, hc, hid, hs⟩, ?_, ?_, ?_⟩
  · rintro rfl config hok
    obtain ⟨c', hm, hid', hd⟩ := telegramConfig_ok hok
    exact ⟨c, hc, huniq c' hm hid' ▸ hd⟩
  · rintro rfl config hok
    obtain ⟨c', hm, hid', hd⟩ := wabaConfig_ok hok
    exact ⟨c, hc, huniq c' hm hid' ▸ hd⟩
  · intro c' hm hid'
    rw [huniq c' hm hid']
    exact hc.channel

theorem attemptPayload_connection (o : Orchestrator) (env : Env) (q : QueueMessage) (chan to_ : String) :
    (attemptPayload o env q chan to_).connectionID = q.connectionID ∧
      (attemptPayload o env q chan to_).senderIdentity = q.senderIdentity := by
  obtain ⟨address, heq⟩ := attemptPayload_eq o env q chan to_
  rw [heq]
  exact ⟨rfl, rfl⟩

theorem onChannel_iff {load : LoadEnv} {conns : Connections} {q : QueueMessage} (hprim : PrimaryConnection conns q)
    (o : Orchestrator) (env : Env) (chan to_ : String) :
    OnChannel load conns q.workspaceID chan (attemptPayload o env q chan to_) ↔ chan = q.channel := by
  obtain ⟨c, hc, hid, hs⟩ := hprim
  obtain ⟨hpid, hps⟩ := attemptPayload_connection o env q chan to_
  constructor
  · intro h
    have := h.refused c hc.row (hid.trans hpid.symm)
    exact this.symm.trans hc.channel
  · rintro rfl
    exact OnChannel.of_connection ⟨c, hc, hid.trans hpid.symm, hs.trans hps.symm⟩

/-- **Credentials stay on their channel** exactly when no fallback channel with another name is reached. -/
theorem credentials_on_channel (load : LoadEnv) (conns : Connections) (o : Orchestrator) (env : Env) (w : World)
    (q : QueueMessage) (attempt : Int) (hprim : PrimaryConnection conns q) :
    (∀ i p res, (i, p, res) ∈ callInvocations o env q w attempt →
      ∃ chan, (allChannels q)[i]? = some chan ∧ OnChannel load conns q.workspaceID chan p) ↔
    ∀ i chan to_, Reaches o env q { w with out := [] } i chan to_ → chan = q.channel := by
  have hcalls := mem_callInvocations o env q w attempt
  constructor
  · intro h i chan to_ hr
    obtain ⟨chan', hat, hon⟩ := h i _ _ ((hcalls _).mpr ⟨i, chan, to_, hr, rfl⟩)
    have hc : chan' = chan := Option.some.inj (hat.symm.trans hr.at_)
    subst hc
    exact (onChannel_iff hprim o env chan' to_).mp hon
  · intro h i p res hm
    obtain ⟨j, chan, to_, hr, heq⟩ := (hcalls _).mp hm
    simp only [Prod.mk.injEq] at heq
    obtain ⟨rfl, rfl, rfl⟩ := heq
    exact ⟨chan, hr.at_, (onChannel_iff hprim o env chan to_).mpr (h i chan to_ hr)⟩

/-! ## A fallback from WhatsApp Cloud to Telegram -/

def metaConnection : Connection :=
  { id := 7, workspaceID := 1, slug := "meta", channel := "whatsapp_cloud", senderIdentity := "551130000000",
    isDefault := true,
    credentials := some ⟨[("phone_number_id", .str "1055"), ("token", .str "EAAG")], by decide⟩ }

def botConnection : Connection :=
  { id := 8, workspaceID := 1, slug := "bot", channel := "telegram", senderIdentity := "shop_bot",
    isDefault := true, credentials := some ⟨[("token", .str "123:abc")], by decide⟩ }

def shopConnections : Connections := ⟨[metaConnection, botConnection], by decide⟩

def shopMessage (fallback : List String) : QueueMessage :=
  { workspaceID := 1, connectionID := 7, senderIdentity := "551130000000", traceID := "t-1",
    to_ := "5511999990000", channel := "whatsapp_cloud", body := "hello", media := none, metadata := [],
    ttlSeconds := none, queuedAt := 1, fallbackChannels := fallback, templateName := "", language := "",
    components := [], campaignID := none, variablesJSON := [], interactive := none,
    channelOverrides := [], fallbackBehavior := "degrade", type := "", product := none }

/-- The first channel answers with a terminal error; the contact has a Telegram identity. -/
def firstRefuses : Env :=
  { now := 2, getOrCreateErr := none,
    findIdentity := fun chan => .ok (if chan = "telegram" then some "4242" else none),
    resolveTelegramChatID := fun _ => none, sendingErr := fun _ => none, sentErr := false,
    statusErr := false, providerErr := false,
    dispatch := fun i _ => if i = 0 then ⟨"", some ⟨"HTTP error 400: ", true⟩⟩ else ⟨"", none⟩,
    nakErr := false }

def freshWorld : World := ⟨[], Dispatches.empty, []⟩

def noFailure : LoadEnv := ⟨none, ""⟩

theorem shop_primaryConnection (fallback : List String) :
    PrimaryConnection shopConnections (shopMessage fallback) :=
  ⟨metaConnection, ⟨by simp [shopConnections], rfl, rfl⟩, rfl, rfl⟩

/-- A second try on the primary channel. -/
theorem same_channel_credentials :
    PrimaryConnection shopConnections (shopMessage ["whatsapp_cloud"]) ∧
    ∀ i p res, (i, p, res) ∈ callInvocations serverOrchestrator firstRefuses
        (shopMessage ["whatsapp_cloud"]) freshWorld 0 →
      ∃ chan, (allChannels (shopMessage ["whatsapp_cloud"]))[i]? = some chan ∧
        OnChannel noFailure shopConnections 1 chan p := by
  refine ⟨shop_primaryConnection _, (credentials_on_channel noFailure shopConnections serverOrchestrator
    firstRefuses _ _ 0 (shop_primaryConnection _)).mpr ?_⟩
  intro i chan to_ hr
  have hat : ["whatsapp_cloud", "whatsapp_cloud"][i]? = some chan := hr.at_
  have hm := List.mem_of_getElem? hat
  simpa [shopMessage] using hm

/-- Telegram is handed the Meta connection, and Meta's token goes into the request to Telegram, although
the workspace has a Telegram connection. -/
theorem meta_token_to_telegram :
    PrimaryConnection shopConnections (shopMessage ["telegram"]) ∧
    ¬ (∀ i p res, (i, p, res) ∈ callInvocations serverOrchestrator firstRefuses
        (shopMessage ["telegram"]) freshWorld 0 →
      ∃ chan, (allChannels (shopMessage ["telegram"]))[i]? = some chan ∧
        OnChannel noFailure shopConnections 1 chan p) ∧
    ∃ p res, (1, p, res) ∈ callInvocations serverOrchestrator firstRefuses
        (shopMessage ["telegram"]) freshWorld 0 ∧
      p.channel = "telegram" ∧ telegramConfig noFailure shopConnections p = .ok ⟨"EAAG"⟩ := by
  have hm : (1, toPayload { shopMessage ["telegram"] with to_ := "4242", channel := "telegram" } "telegram",
      ⟨"", none⟩) ∈ callInvocations serverOrchestrator firstRefuses
        (shopMessage ["telegram"]) freshWorld 0 := by decide +kernel
  refine ⟨shop_primaryConnection _, fun h => ?_, _, _, hm, rfl, by decide +kernel⟩
  obtain ⟨chan, hat, hon⟩ := h _ _ _ hm
  have hchan : chan = "telegram" := by
    have : (allChannels (shopMessage ["telegram"]))[1]? = some "telegram" := rfl
    exact Option.some.inj (hat.symm.trans this)
  have hwrong := hon.refused metaConnection (by simp [shopConnections]) rfl
  rw [hchan] at hwrong
  exact absurd hwrong (by decide)

end PerGo.L4.FallbackCredentials
