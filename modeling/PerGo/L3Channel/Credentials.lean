import PerGo.Core.Table
import PerGo.L2Domain.Message

/-!
# The credentials an adapter loads

`telegram/telegram.go` and `whatsapp/waba.go`, up to
the point where a request is built: each adapter reads the connection whose id stands
in the payload and takes its token from that row. Neither looks at the row's workspace
or channel. The worker has put the workspace into the context, so that check passes.
-/
namespace PerGo.L3.Channel

open PerGo.Core PerGo.L1 PerGo.L2

/-- The `connections` table; `id` is its primary key. -/
structure Connections where
  rows : List Connection
  ids : (rows.map (·.id)).Nodup

/-- mirrors repository/connection.go:130-139 -/
def Connections.getByID (conns : Connections) (id : UUID) : Option Connection :=
  conns.rows.find? fun c => c.id = id

theorem Connections.getByID_eq_some {conns : Connections} {id : UUID} {c : Connection} :
    conns.getByID id = some c ↔ c ∈ conns.rows ∧ c.id = id :=
  find?_key_iff conns.ids

/-- What loading a connection may run into: the read fails, and the text of a decoding error. -/
structure LoadEnv where
  readErr : Option GoError
  jsonErr : String

/-- `channel.NewTerminalError`. -/
def terminal (text : String) : GoError := ⟨text, true⟩

def loadConnection (env : LoadEnv) (conns : Connections) (id : UUID) : Except GoError Connection :=
  match env.readErr with
  | some e => .error ⟨e.text, false⟩
  | none =>
    match conns.getByID id with
    | none => .error (terminal "connection credentials not found: connection not found")
    | some c => .ok c

/-- mirrors telegram.go:36-38 -/
structure TelegramConfig where
  token : String
deriving DecidableEq

/-- `json.Unmarshal` of the credentials. -/
def decodeTelegramConfig (c : Connection) : Option TelegramConfig := do
  let doc ← c.credentials
  let token ← doc.string "token"
  pure ⟨token⟩

/-- mirrors telegram.go:92-107 -/
def telegramConfig (env : LoadEnv) (conns : Connections) (m : MessagePayload) : Except GoError TelegramConfig := do
  let c ← loadConnection env conns m.connectionID
  match decodeTelegramConfig c with
  | none => .error (terminal ("invalid credentials format: " ++ env.jsonErr))
  | some config =>
    if config.token = "" then .error (terminal "missing bot token in credentials")
    else .ok config

/-- mirrors waba.go:33-40 -/
structure WABAConfig where
  phoneNumberID : String
  token : String
  wabaAccountID : String
  verifyToken : String
  appSecret : String
  defaultCatalogID : String
deriving DecidableEq

def decodeWABAConfig (c : Connection) : Option WABAConfig := do
  let doc ← c.credentials
  let phoneNumberID ← doc.string "phone_number_id"
  let token ← doc.string "token"
  let wabaAccountID ← doc.string "waba_account_id"
  let verifyToken ← doc.string "verify_token"
  let appSecret ← doc.string "app_secret"
  let defaultCatalogID ← doc.string "default_catalog_id"
  pure ⟨phoneNumberID, token, wabaAccountID, verifyToken, appSecret, defaultCatalogID⟩

/-- mirrors waba.go:190-205 -/
def wabaConfig (env : LoadEnv) (conns : Connections) (m : MessagePayload) : Except GoError WABAConfig := do
  let c ← loadConnection env conns m.connectionID
  match decodeWABAConfig c with
  | none => .error (terminal ("invalid credentials format: " ++ env.jsonErr))
  | some config =>
    if config.phoneNumberID = "" ∨ config.token = "" then
      .error (terminal "missing phone_number_id or token in credentials")
    else .ok config

variable {env : LoadEnv} {conns : Connections} {m : MessagePayload}

theorem loadConnection_ok {id : UUID} {c : Connection} (h : loadConnection env conns id = .ok c) :
    c ∈ conns.rows ∧ c.id = id := by
  unfold loadConnection at h
  cases henv : env.readErr with
  | some e => simp [henv] at h
  | none =>
    cases hg : conns.getByID id with
    | none => simp [henv, hg] at h
    | some c' =>
      simp only [henv, hg, Except.ok.injEq] at h
      exact Connections.getByID_eq_some.mp (h ▸ hg)

theorem telegramConfig_ok {config : TelegramConfig} (h : telegramConfig env conns m = .ok config) :
    ∃ c ∈ conns.rows, c.id = m.connectionID ∧ decodeTelegramConfig c = some config := by
  unfold telegramConfig at h
  cases hl : loadConnection env conns m.connectionID with
  | error e => rw [hl] at h; cases h
  | ok c =>
    rw [hl] at h
    simp only [bind, Except.bind] at h
    cases hd : decodeTelegramConfig c with
    | none => rw [hd] at h; cases h
    | some config' =>
      rw [hd] at h
      simp only at h
      split at h
      · cases h
      · cases h
        exact ⟨c, (loadConnection_ok hl).1, (loadConnection_ok hl).2, hd⟩

theorem wabaConfig_ok {config : WABAConfig} (h : wabaConfig env conns m = .ok config) :
    ∃ c ∈ conns.rows, c.id = m.connectionID ∧ decodeWABAConfig c = some config := by
  unfold wabaConfig at h
  cases hl : loadConnection env conns m.connectionID with
  | error e => rw [hl] at h; cases h
  | ok c =>
    rw [hl] at h
    simp only [bind, Except.bind] at h
    cases hd : decodeWABAConfig c with
    | none => rw [hd] at h; cases h
    | some config' =>
      rw [hd] at h
      simp only at h
      split at h
      · cases h
      · cases h
        exact ⟨c, (loadConnection_ok hl).1, (loadConnection_ok hl).2, hd⟩

end PerGo.L3.Channel
