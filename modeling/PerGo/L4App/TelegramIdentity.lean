import PerGo.L3Inbound.Telegram
import PerGo.L3Inbound.Processor
import PerGo.L4App.InboundRetry

/-!
# Messages of different bots

A Telegram update is unique per bot. The adapter takes `update_id` alone as the
message's identity; the dedup table has it per workspace and channel, and
`chat_messages` once for all workspaces. Two bots that reach the same number
are therefore confused: within one workspace the second message is dropped as a
duplicate, in another workspace its insert fails.

* `Delivery`: one message update handed to the server through a bot's
  connection, with what the dependencies answer; `run` handles a list of them.
* `Delivered`: the update is a message of a chat, the webhook's token is the
  bot's, and no dependency fails.
* `SameBot`: what Telegram promises, and that a sender is one contact.
* `updates_kept_iff`: any two messages of different bots are both stored, in
  their own workspaces and chats, if and only if different bots never use the
  same `update_id`.
* `storeMessage_view`: the tables of `storeMessage` are those of `processMessage`.
-/
namespace PerGo.L4.TelegramIdentity

open PerGo.Core PerGo.L1 PerGo.L2 PerGo.L3

/-! ## The two views of the processor -/

theorem view_inboundDB (act : Recorder.ActEnv) (turn : Recorder.InboundTurn) (st : Store) {ws conn contact : UUID}
    (hws : ws ≠ UUID.Nil) (hconn : conn ≠ UUID.Nil) (hrow : (st.db.connections.lookup conn).isSome)
    (hb : Recorder.Bound st.db) (hcontact : contact ≠ UUID.Nil) (hdb : act.dbErr = none)
    (hchat : turn.chat = Recorder.ChatOf conn contact) (huid : trimSpace turn.uid ≠ "")
    (dedups : List (UUID × String × String)) :
    (⟨dedups, Recorder.inboundDB st.db act ws turn⟩ : Store).view.messages =
      if trimSpace turn.uid ∈ st.view.messages.map (·.2) then st.view.messages
      else (ws, trimSpace turn.uid) :: st.view.messages := by
  obtain ⟨-, hspec⟩ := Recorder.inboundDB_spec act turn hws huid hdb hchat hconn hrow hcontact hb
  have huids : trimSpace turn.uid ∈ st.view.messages.map (·.2) ↔ trimSpace turn.uid ∈ st.db.messages.map (·.uid) := by
    simp [Store.view, Function.comp_def]
  by_cases hin : trimSpace turn.uid ∈ st.db.messages.map (·.uid)
  · rw [if_pos hin] at hspec
    rw [if_pos (huids.mpr hin)]
    simp only [Store.view, hspec]
  · rw [if_neg hin] at hspec
    obtain ⟨msg, hmsgs, hmu, hmw, -, -⟩ := hspec
    rw [if_neg fun h => hin (huids.mp h)]
    simp [Store.view, hmsgs, hmu, hmw]

theorem storeMessage_view (p : InboundProcessor) (env : InEnv) (act : Recorder.ActEnv) (ev : InboundEvent)
    (st : Store) (trace : String) (hws : ev.workspaceID ≠ UUID.Nil) (hconn : ev.connectionID ≠ UUID.Nil)
    (hrow : (st.db.connections.lookup ev.connectionID).isSome) (hb : Recorder.Bound st.db)
    (hcontact : resolvedContact p env ≠ some UUID.Nil) (herr : env.activityErr = none) (hdb : act.dbErr = none)
    (huid : trimSpace (messageUID ev trace) ≠ "") :
    (processMessage p env ev st.view trace).1.dedups = (storeMessage p env act ev st trace).view.dedups ∧
    (processMessage p env ev st.view trace).1.messages = (storeMessage p env act ev st trace).view.messages := by
  cases hd : dedupCheck p env ev st.view with
  | failed e => simp only [processMessage, storeMessage, hd, and_self]
  | duplicate => simp only [processMessage, storeMessage, hd, and_self]
  | proceed w =>
    have hw : w.messages = st.view.messages := by
      unfold dedupCheck at hd
      split at hd
      · split at hd
        · cases hd
        · split at hd
          · cases hd
          · cases hd
            rfl
      · cases hd
        rfl
    obtain ⟨h1, h2⟩ := InboundRetry.processMessage_tables p ev env trace hd
    rw [h1, h2]
    simp only [storeMessage, hd]
    cases hc : resolvedContact p env with
    | none => exact ⟨rfl, hw⟩
    | some c =>
      have hcn : c ≠ UUID.Nil := fun h => hcontact (h ▸ hc)
      cases hact : p.activity with
      | false =>
        simp only [recordActivity, hact]
        exact ⟨rfl, hw⟩
      | true =>
        refine ⟨rfl, ?_⟩
        simp only [recordActivity, hact, if_true, recorderInbound, if_neg huid, herr]
        generalize hturn : inboundTurn env ev c (messageUID ev trace) (uploadMedia p env ev w (messageUID ev trace)) = turn
        have htuid : turn.uid = messageUID ev trace := by rw [← hturn]; rfl
        have hchat : turn.chat = Recorder.ChatOf ev.connectionID c := by rw [← hturn]; rfl
        rw [view_inboundDB act turn st hws hconn hrow hb hcn hdb hchat (htuid ▸ huid) w.dedups, htuid, hw]
        by_cases hin : trimSpace (messageUID ev trace) ∈ st.view.messages.map (·.2)
        · rw [if_pos hin, if_pos hin]
          split <;> exact hw
        · have hout : (ev.workspaceID, trimSpace (messageUID ev trace)) ∉ st.view.messages :=
            fun h => hin (List.mem_map_of_mem h)
          rw [if_neg hout, if_neg hin, if_neg hin]

/-! ## Runs -/

/-- `p` is the server's processor. -/
structure Delivery where
  conn : Connection
  token : String
  update : Telegram.Update
  env : InEnv
  act : Recorder.ActEnv

section Runs

variable (downloadTelegramFile : String → String → Option (List UInt8))

/-- The webhook handler for the connection it found. mirrors handler/telegram_webhook.go:124-140 -/
def deliver (st : Store) (d : Delivery) : Store :=
  match Telegram.parse downloadTelegramFile d.conn d.token (some d.update) with
  | .error _ => st
  | .ok events => events.foldl (fun st ev => storeInbound serverInboundProcessor d.env d.act ev st) st

def run (st : Store) (ds : List Delivery) : Store := ds.foldl (deliver downloadTelegramFile) st

def init (connections : List (UUID × String)) (identities : List Recorder.ContactIdentity) : Store :=
  ⟨[], ⟨connections, identities, [], []⟩⟩

/-- A message of a chat, sent by the bot's Telegram, while every dependency answers. -/
structure Delivered (connections : List (UUID × String)) (d : Delivery) : Prop where
  config : ∃ c, d.conn.credentials.bind Telegram.Config.unmarshal = some c ∧ c.secretToken = d.token ∧ d.token ≠ ""
  message : ∃ m chat, d.update.message = some m ∧ m.chat = some chat
  noReaction : d.update.messageReaction = none
  noCallback : d.update.callbackQuery = none
  workspace : d.conn.workspaceID ≠ UUID.Nil
  connection : d.conn.id ≠ UUID.Nil
  row : (connections.lookup d.conn.id).isSome
  contact : ∃ c, d.env.contact = some c ∧ c ≠ UUID.Nil
  dedupOk : d.env.dedupErr = none
  dbOk : d.act.dbErr = none

/-- Two deliveries through one connection are of one bot: an `update_id` names one update, and its sender is
one contact. -/
def SameBot (d d' : Delivery) : Prop :=
  d.conn.id = d'.conn.id → d.conn = d'.conn ∧
    (d.update.updateID = d'.update.updateID → d.update = d'.update ∧ d.env.contact = d'.env.contact)

def uidOf (d : Delivery) : String := formatInt d.update.updateID

/-- The update is stored as `m`: in its workspace, in the chat of its connection and contact, with its text. -/
structure StoredAs (st : Store) (d : Delivery) (m : ChatMessage) : Prop where
  mem : m ∈ st.db.messages
  uid : m.uid = uidOf d
  workspaceID : m.workspaceID = d.conn.workspaceID
  body : ∃ msg, d.update.message = some msg ∧ m.body = msg.text
  chat : ∃ c, d.env.contact = some c ∧ Recorder.HasChat st.db m.chatID d.conn.workspaceID d.conn.id c

/-- Both updates are stored, as two messages. -/
def BothStored (st : Store) (d d' : Delivery) : Prop := ∃ m m', m ≠ m' ∧ StoredAs st d m ∧ StoredAs st d' m'

/-! ### One delivery -/

def dedupKey (d : Delivery) : UUID × String × String := (d.conn.workspaceID, "telegram", uidOf d)

theorem lookup_other {c : Prop} [Decidable c] {k k' v : String} (h : (k' == k) = false) :
    (if c then [(k, v)] else []).lookup k' = none := by
  split
  · rw [List.lookup_cons, h]
    rfl
  · rfl

theorem metadata_get (c : Telegram.Content) (username : String) (h : c.reaction = none) :
    StrMap.get (c.metadata username) "type" = "" ∧ StrMap.get (c.metadata username) "deduplicated" = "" := by
  constructor <;>
    simp only [Telegram.Content.metadata, h, StrMap.get, List.lookup_append, Option.isSome_none,
      Bool.false_eq_true, if_false] <;>
    rw [lookup_other (by decide), lookup_other (by decide), lookup_other (by decide)] <;>
    rfl

variable (st : Store) {connections : List (UUID × String)} {d : Delivery}

theorem deliver_eq (hd : Delivered connections d) :
    ∃ ev, deliver downloadTelegramFile st d =
        storeMessage serverInboundProcessor d.env d.act ev st (traceOf d.env ev) ∧
      ev.workspaceID = d.conn.workspaceID ∧ ev.connectionID = d.conn.id ∧ ev.channel = "telegram" ∧
      ev.messageID = uidOf d ∧ ev.metadata.get "deduplicated" = "" ∧
      ∃ msg, d.update.message = some msg ∧ messageBody ev = msg.text := by
  obtain ⟨config, hconfig, hsecret, htoken⟩ := hd.config
  obtain ⟨msg, chat, hmsg, hchat⟩ := hd.message
  have hc : d.update.content.chat = some chat ∧ d.update.content.reaction = none ∧
      d.update.content.callbackData = none ∧ d.update.content.text = msg.text := by
    simp only [Telegram.Update.content, hd.noReaction, hd.noCallback, hmsg]
    exact ⟨hchat, trivial, trivial, trivial⟩
  obtain ⟨hcchat, hcreaction, hccallback, hctext⟩ := hc
  refine ⟨Telegram.event downloadTelegramFile d.conn config d.update d.update.content chat, ?_, rfl, rfl, rfl, rfl,
    (metadata_get _ _ hcreaction).2, msg, hmsg, ?_⟩
  · have hparse : Telegram.parse downloadTelegramFile d.conn d.token (some d.update) =
        .ok [Telegram.event downloadTelegramFile d.conn config d.update d.update.content chat] := by
      simp only [Telegram.parse, if_neg htoken, hconfig, hsecret, ne_eq, not_true_eq_false, if_false, hcchat]
    have hreaction : (Telegram.event downloadTelegramFile d.conn config d.update d.update.content chat).reaction = none :=
      hcreaction
    have htype : (Telegram.event downloadTelegramFile d.conn config d.update d.update.content chat).metadata.get "type" = "" :=
      (metadata_get _ _ hcreaction).1
    simp only [deliver, hparse, List.foldl_cons, List.foldl_nil, storeInbound, hreaction, htype]
    rw [if_neg (show (Telegram.event _ _ _ _ _ _).workspaceID ≠ UUID.Nil from hd.workspace), if_neg (by simp)]
  · have hinteractive : (Telegram.event downloadTelegramFile d.conn config d.update d.update.content chat).interactive = none := by
      simp only [Telegram.event, hccallback, Option.map_none]
    simp only [messageBody, hinteractive]
    rw [show (Telegram.event downloadTelegramFile d.conn config d.update d.update.content chat).body = msg.text from hctext]
    split
    · rfl
    · rename_i h
      exact (not_not.mp h).symm

/-- What a delivery does to the tables: nothing for a number the workspace has seen, no message for a
number any workspace has seen, and the message otherwise. -/
theorem deliver_spec (hd : Delivered connections d) (hconns : st.db.connections = connections)
    (hb : Recorder.Bound st.db) :
    (dedupKey d ∈ st.dedups → deliver downloadTelegramFile st d = st) ∧
    (dedupKey d ∉ st.dedups →
      (deliver downloadTelegramFile st d).dedups = dedupKey d :: st.dedups ∧
      Recorder.Extends st.db (deliver downloadTelegramFile st d).db ∧
      if uidOf d ∈ st.db.messages.map (·.uid) then
        (deliver downloadTelegramFile st d).db.messages = st.db.messages
      else ∃ m, (deliver downloadTelegramFile st d).db.messages = st.db.messages ++ [m] ∧
        StoredAs (deliver downloadTelegramFile st d) d m) := by
  obtain ⟨ev, hdel, hws, hconn, hch, hid, hdedup, msg, hmsg, hbody⟩ := deliver_eq downloadTelegramFile st hd
  obtain ⟨c, hc, hcn⟩ := hd.contact
  have hne : uidOf d ≠ "" := formatInt_ne_empty _
  have huid : messageUID ev (traceOf d.env ev) = uidOf d := by
    unfold messageUID
    rw [hid, if_neg hne]
  have hactive : dedupActive serverInboundProcessor ev = true := by
    simp [dedupActive, serverInboundProcessor, hid, hdedup, hne]
  have hcheck : dedupCheck serverInboundProcessor d.env ev st.view =
      if dedupKey d ∈ st.dedups then .duplicate else .proceed { st.view with dedups := dedupKey d :: st.dedups } := by
    simp only [dedupCheck, hactive, if_true, hd.dedupOk, hws, hch, hid]
    rfl
  rw [hdel]
  constructor
  · intro hin
    simp only [storeMessage, hcheck, if_pos hin]
  · intro hout
    have hcontact : resolvedContact serverInboundProcessor d.env = some c := hc
    have hactivity : serverInboundProcessor.activity = true := rfl
    simp only [storeMessage, hcheck, if_neg hout, hcontact, hactivity, if_true]
    generalize hturn : inboundTurn d.env ev c _ _ = turn
    have htuid : trimSpace turn.uid = uidOf d := by
      rw [← hturn]
      exact (congrArg trimSpace huid).trans (trimSpace_formatInt _)
    have hchat : turn.chat = Recorder.ChatOf d.conn.id c := by
      rw [← hturn, ← hconn]
      rfl
    have htbody : turn.body = msg.text := by
      rw [← hturn, ← hbody]
      rfl
    obtain ⟨hext, hspec⟩ := Recorder.inboundDB_spec d.act turn hd.workspace (htuid ▸ hne) hd.dbOk
      hchat hd.connection (hconns ▸ hd.row) hcn hb
    rw [htuid] at hspec
    rw [hws]
    refine ⟨trivial, hext, ?_⟩
    by_cases hin : uidOf d ∈ st.db.messages.map (·.uid)
    · rw [if_pos hin] at hspec ⊢
      exact hspec
    · rw [if_neg hin] at hspec ⊢
      obtain ⟨m, hmsgs, hmu, hmw, hmb, hmc⟩ := hspec
      exact ⟨m, hmsgs, ⟨by rw [hmsgs]; simp, hmu, hmw, ⟨msg, hmsg, hmb.trans htbody⟩, ⟨c, hc, hmc⟩⟩⟩

/-! ### Runs -/

/-- Where the entries of the tables come from, after the deliveries `done`. -/
structure Inv (connections : List (UUID × String)) (done : List Delivery) (st : Store) : Prop where
  connections : st.db.connections = connections
  bound : Recorder.Bound st.db
  dedups : ∀ k ∈ st.dedups, ∃ d ∈ done, k = dedupKey d
  messages : ∀ m ∈ st.db.messages, ∃ d ∈ done, m.uid = uidOf d
  unique : (st.db.messages.map (·.uid)).Nodup

theorem inv_init (identities : List Recorder.ContactIdentity) : Inv connections [] (init connections identities) where
  connections := rfl
  bound := fun _ hc => absurd hc List.not_mem_nil
  dedups := fun _ hk => absurd hk List.not_mem_nil
  messages := fun _ hm => absurd hm List.not_mem_nil
  unique := List.nodup_nil

variable {st} {done : List Delivery}

theorem Inv.deliver (h : Inv connections done st) (hd : Delivered connections d) :
    Inv connections (done ++ [d]) (deliver downloadTelegramFile st d) := by
  obtain ⟨hseen, hnew⟩ := deliver_spec downloadTelegramFile st hd h.connections h.bound
  have hold : ∀ {d'}, d' ∈ done → d' ∈ done ++ [d] := fun hd' => List.mem_append_left _ hd'
  have hself : d ∈ done ++ [d] := List.mem_append_right _ (List.mem_singleton.mpr rfl)
  by_cases hkey : dedupKey d ∈ st.dedups
  · rw [hseen hkey]
    refine ⟨h.connections, h.bound, fun k hk => ?_, fun m hm => ?_, h.unique⟩
    · obtain ⟨d', hd', hk'⟩ := h.dedups k hk
      exact ⟨d', hold hd', hk'⟩
    · obtain ⟨d', hd', hm'⟩ := h.messages m hm
      exact ⟨d', hold hd', hm'⟩
  · obtain ⟨hdedups, hext, hmsgs⟩ := hnew hkey
    refine ⟨hext.connections.trans h.connections, hext.bound h.bound, ?_, ?_, ?_⟩
    · intro k hk
      rw [hdedups, List.mem_cons] at hk
      obtain rfl | hk := hk
      · exact ⟨d, hself, rfl⟩
      · obtain ⟨d', hd', hk'⟩ := h.dedups k hk
        exact ⟨d', hold hd', hk'⟩
    · intro m hm
      by_cases hin : uidOf d ∈ st.db.messages.map (·.uid)
      · rw [if_pos hin] at hmsgs
        obtain ⟨d', hd', hm'⟩ := h.messages m (hmsgs ▸ hm)
        exact ⟨d', hold hd', hm'⟩
      · rw [if_neg hin] at hmsgs
        obtain ⟨m₀, hmsgs, hstored⟩ := hmsgs
        rw [hmsgs, List.mem_append, List.mem_singleton] at hm
        obtain hm | rfl := hm
        · obtain ⟨d', hd', hm'⟩ := h.messages m hm
          exact ⟨d', hold hd', hm'⟩
        · exact ⟨d, hself, hstored.uid⟩
    · by_cases hin : uidOf d ∈ st.db.messages.map (·.uid)
      · rw [if_pos hin] at hmsgs
        rw [hmsgs]
        exact h.unique
      · rw [if_neg hin] at hmsgs
        obtain ⟨m₀, hmsgs, hstored⟩ := hmsgs
        rw [hmsgs, List.map_append, List.nodup_append]
        refine ⟨h.unique, List.nodup_singleton _, ?_⟩
        intro u hu u' hu' he
        simp only [List.map_cons, List.map_nil, List.mem_singleton] at hu'
        rw [he, hu', hstored.uid] at hu
        exact hin hu

theorem StoredAs.grow {d' : Delivery} {m : ChatMessage} (hs : StoredAs st d' m) (h : Inv connections done st)
    (hd : Delivered connections d) : StoredAs (deliver downloadTelegramFile st d) d' m := by
  obtain ⟨hseen, hnew⟩ := deliver_spec downloadTelegramFile st hd h.connections h.bound
  by_cases hkey : dedupKey d ∈ st.dedups
  · rw [hseen hkey]
    exact hs
  · obtain ⟨-, hext, hmsgs⟩ := hnew hkey
    have hmem : m ∈ (deliver downloadTelegramFile st d).db.messages := by
      by_cases hin : uidOf d ∈ st.db.messages.map (·.uid)
      · rw [if_pos hin] at hmsgs
        rw [hmsgs]
        exact hs.mem
      · rw [if_neg hin] at hmsgs
        obtain ⟨m₀, hmsgs, -⟩ := hmsgs
        rw [hmsgs]
        exact List.mem_append_left _ hs.mem
    obtain ⟨c, hc, hchat⟩ := hs.chat
    exact ⟨hmem, hs.uid, hs.workspaceID, hs.body, c, hc, hext.keys _ hchat⟩

theorem stored_of_deliver (h : Inv connections done st) (hd : Delivered connections d)
    (hall : ∀ d' ∈ done, ∃ m, StoredAs st d' m) (hbot : ∀ d' ∈ done, SameBot d' d)
    (hids : ∀ d' ∈ done, d'.conn.id ≠ d.conn.id → d'.update.updateID ≠ d.update.updateID) :
    ∃ m, StoredAs (deliver downloadTelegramFile st d) d m := by
  by_cases hbefore : ∃ d' ∈ done, uidOf d' = uidOf d
  · obtain ⟨d', hd', huid⟩ := hbefore
    have hid : d'.update.updateID = d.update.updateID := formatInt_inj huid
    have hconn : d'.conn.id = d.conn.id := by
      by_contra hne
      exact hids d' hd' hne hid
    obtain ⟨hce, hue⟩ := hbot d' hd' hconn
    obtain ⟨hue, hcontact⟩ := hue hid
    obtain ⟨m, hm⟩ := hall d' hd'
    obtain ⟨hmem, hmu, hmw, hmb, hmc⟩ := hm.grow downloadTelegramFile h hd
    rw [hce, hcontact] at hmc
    rw [hue] at hmb
    exact ⟨m, hmem, hmu.trans huid, hce ▸ hmw, hmb, hmc⟩
  · have hkey : dedupKey d ∉ st.dedups := by
      intro hin
      obtain ⟨d', hd', hk⟩ := h.dedups _ hin
      exact hbefore ⟨d', hd', (congrArg (·.2.2) hk).symm⟩
    have hmsg : uidOf d ∉ st.db.messages.map (·.uid) := by
      intro hin
      obtain ⟨m, hm, hmu⟩ := List.mem_map.mp hin
      obtain ⟨d', hd', hm'⟩ := h.messages m hm
      exact hbefore ⟨d', hd', hm'.symm.trans hmu⟩
    obtain ⟨-, -, hmsgs⟩ := (deliver_spec downloadTelegramFile st hd h.connections h.bound).2 hkey
    rw [if_neg hmsg] at hmsgs
    obtain ⟨m, -, hm⟩ := hmsgs
    exact ⟨m, hm⟩

theorem run_inv {ds : List Delivery} (h : Inv connections done st) (hds : ∀ d ∈ ds, Delivered connections d) :
    Inv connections (done ++ ds) (run downloadTelegramFile st ds) := by
  induction ds generalizing done st with
  | nil => rwa [List.append_nil]
  | cons d ds ih =>
    have h' := ih (h.deliver downloadTelegramFile (hds d List.mem_cons_self))
      (fun d hd => hds d (List.mem_cons_of_mem _ hd))
    rwa [List.append_assoc] at h'

theorem run_stored {ds : List Delivery} (h : Inv connections done st) (hds : ∀ d ∈ ds, Delivered connections d)
    (hall : ∀ d ∈ done, ∃ m, StoredAs st d m)
    (hbot : ∀ d ∈ done ++ ds, ∀ d' ∈ done ++ ds, SameBot d d')
    (hids : ∀ d ∈ done ++ ds, ∀ d' ∈ done ++ ds, d.conn.id ≠ d'.conn.id → d.update.updateID ≠ d'.update.updateID) :
    ∀ d ∈ done ++ ds, ∃ m, StoredAs (run downloadTelegramFile st ds) d m := by
  induction ds generalizing done st with
  | nil => rwa [List.append_nil]
  | cons d ds ih =>
    have hd := hds d List.mem_cons_self
    have hlast : d ∈ done ++ d :: ds := List.mem_append_right _ List.mem_cons_self
    have hold : ∀ {d'}, d' ∈ done → d' ∈ done ++ d :: ds := fun hd' => List.mem_append_left _ hd'
    have hall' : ∀ d' ∈ done ++ [d], ∃ m, StoredAs (deliver downloadTelegramFile st d) d' m := by
      intro d' hd'
      rw [List.mem_append, List.mem_singleton] at hd'
      obtain hd' | rfl := hd'
      · obtain ⟨m, hm⟩ := hall d' hd'
        exact ⟨m, hm.grow downloadTelegramFile h hd⟩
      · exact stored_of_deliver downloadTelegramFile h hd hall (fun d'' h'' => hbot d'' (hold h'') d' hlast)
          (fun d'' h'' => hids d'' (hold h'') d' hlast)
    have hassoc : done ++ d :: ds = (done ++ [d]) ++ ds := by simp
    rw [hassoc] at hbot hids ⊢
    exact ih (h.deliver downloadTelegramFile hd) (fun d hd => hds d (List.mem_cons_of_mem _ hd)) hall' hbot hids

/-- **Messages of different bots** are both stored as messages of their own, for any updates in any order,
exactly when different bots never use the same `update_id`. -/
theorem updates_kept_iff (connections : List (UUID × String)) (identities : List Recorder.ContactIdentity)
    (ds : List Delivery) (hds : ∀ d ∈ ds, Delivered connections d) (hbot : ∀ d ∈ ds, ∀ d' ∈ ds, SameBot d d') :
    (∀ d ∈ ds, ∀ d' ∈ ds, d.conn.id ≠ d'.conn.id →
      BothStored (run downloadTelegramFile (init connections identities) ds) d d') ↔
    (∀ d ∈ ds, ∀ d' ∈ ds, d.conn.id ≠ d'.conn.id → d.update.updateID ≠ d'.update.updateID) := by
  have hinit : Inv connections [] (init connections identities) := inv_init identities
  have hinv := run_inv downloadTelegramFile hinit hds
  constructor
  · intro h d hd d' hd' hne hid
    obtain ⟨m, m', hmm, hm, hm'⟩ := h d hd d' hd' hne
    apply hmm
    have huid : m.uid = m'.uid := by rw [hm.uid, hm'.uid, uidOf, uidOf, hid]
    exact eq_of_key_eq hinv.unique hm.mem hm'.mem huid
  · intro h d hd d' hd' hne
    have hstored := run_stored downloadTelegramFile hinit hds (fun d hd => absurd hd List.not_mem_nil) hbot h
    obtain ⟨m, hm⟩ := hstored d hd
    obtain ⟨m', hm'⟩ := hstored d' hd'
    refine ⟨m, m', ?_, hm, hm'⟩
    rintro rfl
    exact h d hd d' hd' hne (formatInt_inj (hm.uid.symm.trans hm'.uid))

end Runs

/-! ## Two bots -/

def botCredentials : Document where
  fields := [("token", .str "123:abc"), ("secret_token", .str "s3cret"), ("bot_username", .str "@bot")]
  distinct := by decide +kernel

def bot (id ws : UUID) : Connection :=
  { id := id, workspaceID := ws, slug := "tg", channel := "telegram", senderIdentity := "@bot", isDefault := true,
    credentials := some botCredentials }

def textUpdate (updateID : Int) (text : String) : Telegram.Update :=
  { updateID := updateID, callbackQuery := none, messageReaction := none,
    message := some
      { date := 1700000000, messageThreadID := 0, sender := none, chat := some ⟨99, "ana", "Ana", ""⟩, text := text,
        caption := "", photo := [], document := none, audio := none, video := none, location := none,
        contact := none } }

def sent (conn : Connection) (update : Telegram.Update) (newChatID : UUID) : Delivery :=
  { conn := conn, token := "s3cret", update := update, env := inboundAnswers,
    act := ⟨⟨1700000000 * second, newChatID + 100, fun _ => none⟩, newChatID, none⟩ }

def bots : List (UUID × String) := [(11, "telegram"), (12, "telegram")]

theorem sent_delivered {id ws newChatID : UUID} {updateID : Int} {text : String} (hid : id ∈ [11, 12]) (hws : ws ≠ 0) :
    Delivered bots (sent (bot id ws) (textUpdate updateID text) newChatID) where
  config := by
    have hconfig : botCredentials.string "token" = some "123:abc" ∧ botCredentials.string "secret_token" = some "s3cret" ∧
        botCredentials.string "bot_username" = some "@bot" := by decide +kernel
    refine ⟨⟨"123:abc", "s3cret", "@bot"⟩, ?_, rfl, show "s3cret" ≠ "" by decide⟩
    show Telegram.Config.unmarshal botCredentials = some _
    simp [Telegram.Config.unmarshal, hconfig]
  message := ⟨_, _, rfl, rfl⟩
  noReaction := rfl
  noCallback := rfl
  workspace := hws
  connection := by
    show id ≠ UUID.Nil
    rintro rfl
    exact absurd hid (by decide)
  row := by
    show (bots.lookup id).isSome
    simp only [List.mem_cons, List.not_mem_nil, or_false] at hid
    obtain rfl | rfl := hid <;> decide
  contact := ⟨5, rfl, by decide⟩
  dedupOk := rfl
  dbOk := rfl

/-- The first message of each of two bots, with the numbers `i` and `j`. -/
def twoBots (ws : UUID) (i j : Int) : List Delivery :=
  [sent (bot 11 1) (textUpdate i "oi") 21, sent (bot 12 ws) (textUpdate j "bom dia") 22]

theorem twoBots_delivered {ws : UUID} (hws : ws ≠ 0) (i j : Int) : ∀ d ∈ twoBots ws i j, Delivered bots d := by
  intro d hd
  simp only [twoBots, List.mem_cons, List.not_mem_nil, or_false] at hd
  obtain rfl | rfl := hd
  · exact sent_delivered (by decide) (by decide)
  · exact sent_delivered (by decide) hws

theorem twoBots_sameBot (ws : UUID) (i j : Int) : ∀ d ∈ twoBots ws i j, ∀ d' ∈ twoBots ws i j, SameBot d d' := by
  intro d hd d' hd'
  simp only [twoBots, List.mem_cons, List.not_mem_nil, or_false] at hd hd'
  obtain rfl | rfl := hd <;> obtain rfl | rfl := hd' <;> intro hid
  · exact ⟨rfl, fun _ => ⟨rfl, rfl⟩⟩
  · exact absurd (show (11 : Nat) = 12 from hid) (by decide)
  · exact absurd (show (12 : Nat) = 11 from hid) (by decide)
  · exact ⟨rfl, fun _ => ⟨rfl, rfl⟩⟩

/-- With different numbers both messages are stored. -/
theorem updates_kept_two_bots :
    (∀ d ∈ twoBots 1 7 8, Delivered bots d) ∧
    BothStored (run (fun _ _ => none) (init bots []) (twoBots 1 7 8)) (sent (bot 11 1) (textUpdate 7 "oi") 21)
      (sent (bot 12 1) (textUpdate 8 "bom dia") 22) := by
  refine ⟨twoBots_delivered (by decide) 7 8, ?_⟩
  refine (updates_kept_iff (fun _ _ => none) bots [] (twoBots 1 7 8) (twoBots_delivered (by decide) 7 8)
    (twoBots_sameBot 1 7 8)).mpr ?_ _ (by simp [twoBots]) _ (by simp [twoBots]) (by decide)
  decide +kernel

/-- Two updates with one number, to bots of the workspaces 1 and `ws`: only the first is stored. -/
structure SecondLost (ws : UUID) : Prop where
  delivered : ∀ d ∈ twoBots ws 7 7, Delivered bots d
  sameBot : ∀ d ∈ twoBots ws 7 7, ∀ d' ∈ twoBots ws 7 7, SameBot d d'
  stored : (run (fun _ _ => none) (init bots []) (twoBots ws 7 7)).db.messages.map (·.body) = ["oi"]
  lost : ¬ BothStored (run (fun _ _ => none) (init bots []) (twoBots ws 7 7)) (sent (bot 11 1) (textUpdate 7 "oi") 21)
    (sent (bot 12 ws) (textUpdate 7 "bom dia") 22)

theorem secondLost_of_stored {ws : UUID} (hne : ws ≠ UUID.Nil)
    (hone : (run (fun _ _ => none) (init bots []) (twoBots ws 7 7)).db.messages.map (·.body) = ["oi"]) :
    SecondLost ws := by
  refine ⟨twoBots_delivered hne 7 7, twoBots_sameBot ws 7 7, hone, ?_⟩
  rintro ⟨m, m', -, -, hm'⟩
  obtain ⟨msg, hmsg, hbody⟩ := hm'.body
  cases hmsg
  have hmem := List.mem_map_of_mem (f := fun m : ChatMessage => m.body) hm'.mem
  rw [hone, List.mem_singleton, hbody] at hmem
  exact absurd hmem (by decide)

/-- With one number for both only the first is stored, in one workspace and in two. -/
theorem same_number_lost : SecondLost 1 ∧ SecondLost 2 :=
  ⟨secondLost_of_stored (by decide) (by decide +kernel), secondLost_of_stored (by decide) (by decide +kernel)⟩

end PerGo.L4.TelegramIdentity
