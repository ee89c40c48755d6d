import PerGo.L3Chat.React
import PerGo.L3Chat.RecorderSpec
import PerGo.L4App.TelegramIdentity

/-!
# The message a Telegram reaction is for

A message is stored under the number of its update, and a reaction names it by `message_id`, which counts
the messages of one chat. Both numbers are written in decimal into one column.

* `deliver`: an update of either kind, with what `Process` writes; `run` handles a list of them.
* `Reacts`: the update is a reaction in a chat, the webhook's token is the bot's, the database answers.
* `Names`: the reaction is for the message of an update, by its chat and `message_id`.
* `Hits`: the row of the update has the reactions `MutateReaction` makes of its own, and no other row changes.

Results: `reaction_target_iff`, and `wrong_message` for two messages of one chat.
-/
namespace PerGo.L4.ReactionTarget

open PerGo.Core PerGo.L1 PerGo.L2 PerGo.L3
open TelegramIdentity (Delivery StoredAs uidOf)

/-! ## Updates of either kind -/

/-- mirrors inbound/processor.go:386-393 -/
def actionOf (rx : InboundReaction) : String :=
  if rx.action = "" then (if rx.emoji = "" then "remove" else "add") else rx.action

/-- mirrors processor.go:381-411 -/
def storeReaction (env : InEnv) (act : Recorder.ActEnv) (ev : InboundEvent) (rx : InboundReaction) (st : Store) : Store :=
  match React.mutateReaction st.db.messages env.now act.dbErr ev.workspaceID rx.messageUID rx.emoji ev.from_
    (actionOf rx) with
  | .error _ => st
  | .ok (_, rows) => { st with db := { st.db with messages := rows } }

/-- mirrors processor.go:372-437 -/
def process (env : InEnv) (act : Recorder.ActEnv) (st : Store) (ev : InboundEvent) : Store :=
  match ev.reaction with
  | some rx => if ev.workspaceID = UUID.Nil then st else storeReaction env act ev rx st
  | none => storeInbound serverInboundProcessor env act ev st

section Runs

variable (download : String → String → Option (List UInt8))

/-- mirrors handler/telegram_webhook.go:124-140 -/
def deliver (st : Store) (d : Delivery) : Store :=
  match Telegram.parse download d.conn d.token (some d.update) with
  | .error _ => st
  | .ok events => events.foldl (process d.env d.act) st

def run (st : Store) (ds : List Delivery) : Store := ds.foldl (deliver download) st

/-- A reaction in a chat, sent by the bot's Telegram, while the database answers. -/
structure Reacts (r : Delivery) (rx : Telegram.MessageReaction) (chat : Telegram.Chat) : Prop where
  config : ∃ c, r.conn.credentials.bind Telegram.Config.unmarshal = some c ∧ c.secretToken = r.token ∧ r.token ≠ ""
  reaction : r.update.messageReaction = some rx
  chat : rx.chat = some chat
  workspace : r.conn.workspaceID ≠ UUID.Nil
  dbOk : r.act.dbErr = none

/-- The row that `MutateReaction` locks. mirrors repository/chat.go:797-802 -/
def lockedRow (rows : List ChatMessage) (ws : UUID) (messageUID : String) : Option ChatMessage :=
  rows.find? fun m => m.workspaceID = ws && m.uid = trimSpace messageUID

/-- The reaction is for the message `msg` of `d`. -/
structure Names (rx : Telegram.MessageReaction) (chat : Telegram.Chat) (d : Delivery) (msg : Telegram.Message) : Prop where
  message : d.update.message = some msg
  chat : msg.chat = some chat
  number : rx.messageID = msg.messageID

/-- The reactions of the row `m` once the reaction of an event is recorded on it. -/
def recordedOn (m : ChatMessage) (ev : InboundEvent) (rx : InboundReaction) (now : Time) : List Reaction :=
  (React.mutated m.reactions rx.emoji (React.callSender ev.from_) (React.callAction rx.emoji (actionOf rx)) now).2

/-- The reaction is recorded on the row of `d`, and no other row changes. -/
def Hits (st : Store) (d r : Delivery) : Prop :=
  ∃ m ev rx, StoredAs st d m ∧
    Telegram.parse download r.conn r.token (some r.update) = .ok [ev] ∧ ev.reaction = some rx ∧
    lockedRow st.db.messages ev.workspaceID rx.messageUID = some m ∧
    (deliver download st r).db.messages =
      updateWhere (fun x => x.uid = m.uid) (fun x => { x with reactions := recordedOn m ev rx r.env.now }) st.db.messages

/-! ### A reaction -/

/-- The reaction that `Parse` puts into the event. -/
def reactionOf (rx : Telegram.MessageReaction) : InboundReaction :=
  { messageUID := formatInt rx.messageID, emoji := rx.newReaction.head?.getD "",
    action := if rx.newReaction = [] then "remove" else "add" }

theorem parse_reaction {r : Delivery} {rx : Telegram.MessageReaction} {chat : Telegram.Chat} (h : Reacts r rx chat) :
    ∃ ev, Telegram.parse download r.conn r.token (some r.update) = .ok [ev] ∧
      ev.workspaceID = r.conn.workspaceID ∧ ev.reaction = some (reactionOf rx) := by
  obtain ⟨config, hconfig, hsecret, htoken⟩ := h.config
  have hcontent : r.update.content.chat = rx.chat ∧ r.update.content.reaction = some (reactionOf rx) := by
    simp only [Telegram.Update.content, h.reaction]
    exact ⟨trivial, rfl⟩
  refine ⟨Telegram.event download r.conn config r.update r.update.content chat, ?_, rfl, hcontent.2⟩
  have hchat : r.update.content.chat = some chat := hcontent.1.trans h.chat
  simp only [Telegram.parse, if_neg htoken, hconfig, hsecret, ne_eq, not_true_eq_false, if_false, hchat]

def reacted (st : Store) (ws : UUID) (uid : String) (reactions : List Reaction) : Store :=
  let rows := updateWhere (fun m => m.workspaceID = ws && m.uid = uid) (fun m => { m with reactions := reactions })
    st.db.messages
  { st with db := { st.db with messages := rows } }

theorem norm_action (rx : Telegram.MessageReaction) :
    toLower (trimSpace (actionOf (reactionOf rx))) ∈ ["", "add", "remove", "toggle"] := by
  have hboth : toLower (trimSpace "add") = "add" ∧ toLower (trimSpace "remove") = "remove" := by decide +kernel
  unfold actionOf reactionOf
  by_cases hnew : rx.newReaction = []
  · simp [hnew, hboth]
  · simp [hnew, hboth]

theorem storeReaction_spec (env : InEnv) {act : Recorder.ActEnv} {ev : InboundEvent} (rx : Telegram.MessageReaction)
    (st : Store) (hws : ev.workspaceID ≠ UUID.Nil) (hdb : act.dbErr = none) :
    (lockedRow st.db.messages ev.workspaceID (reactionOf rx).messageUID = none →
      storeReaction env act ev (reactionOf rx) st = st) ∧
    (∀ m, lockedRow st.db.messages ev.workspaceID (reactionOf rx).messageUID = some m →
      storeReaction env act ev (reactionOf rx) st =
        reacted st ev.workspaceID (formatInt rx.messageID) (recordedOn m ev (reactionOf rx) env.now)) := by
  have hnorm := norm_action rx
  have htrim : trimSpace (reactionOf rx).messageUID = formatInt rx.messageID := trimSpace_formatInt _
  have huid : trimSpace (reactionOf rx).messageUID ≠ "" := htrim ▸ formatInt_ne_empty _
  unfold lockedRow
  constructor
  · intro hnone
    simp only [storeReaction, React.mutateReaction, if_neg hws, if_neg huid, if_neg (not_not.mpr hnorm), hdb, hnone]
  · intro m hm
    simp only [storeReaction, React.mutateReaction, if_neg hws, if_neg huid, if_neg (not_not.mpr hnorm), hdb, hm]
    rw [htrim]
    rfl

theorem deliver_reaction {r : Delivery} {rx : Telegram.MessageReaction} {chat : Telegram.Chat} (h : Reacts r rx chat)
    (st : Store) : ∃ ev, Telegram.parse download r.conn r.token (some r.update) = .ok [ev] ∧
      ev.workspaceID = r.conn.workspaceID ∧ ev.reaction = some (reactionOf rx) ∧
      deliver download st r = storeReaction r.env r.act ev (reactionOf rx) st := by
  obtain ⟨ev, hparse, hws, hrx⟩ := parse_reaction download h
  refine ⟨ev, hparse, hws, hrx, ?_⟩
  simp only [deliver, hparse, List.foldl_cons, List.foldl_nil, process, hrx]
  rw [if_neg (hws ▸ h.workspace)]

/-! ### Runs -/

/-- `chat_messages.uid` is unique. -/
def Unique (st : Store) : Prop := (st.db.messages.map (·.uid)).Nodup

theorem unique_init (connections : List (UUID × String)) (identities : List Recorder.ContactIdentity) :
    Unique (TelegramIdentity.init connections identities) := List.nodup_nil

theorem mutateReaction_uids {rows rows' : List ChatMessage} {now : Time} {dbErr : Option String} {ws : UUID}
    {messageUID emoji sender action : String} {r : UUID × String × List Reaction}
    (h : React.mutateReaction rows now dbErr ws messageUID emoji sender action = .ok (r, rows')) :
    rows'.map (·.uid) = rows.map (·.uid) := by
  obtain ⟨chatID, resolved, reactions⟩ := r
  obtain ⟨-, m, -, -, rfl⟩ := React.mutateReaction_ok h
  exact map_updateWhere (f := fun x : ChatMessage => { x with reactions := reactions }) (fun _ => rfl) rows

theorem unique_storeMessage {p : InboundProcessor} {env : InEnv} {act : Recorder.ActEnv} {ev : InboundEvent} {st : Store}
    {trace : String} (h : Unique st) : Unique (storeMessage p env act ev st trace) := by
  have hinbound : ∀ turn, ((Recorder.inboundDB st.db act ev.workspaceID turn).messages.map (·.uid)).Nodup := by
    intro turn
    unfold Recorder.inboundDB
    split
    · rename_i r db' hok
      obtain ⟨-, -, -, chat, db₁, hres, hcase⟩ := Recorder.inbound_cases hok
      have hmsgs := (Recorder.resolveAndLockChat_ok hres).messages
      rcases hcase with ⟨-, -, rfl⟩ | ⟨a, -, -, -, -, hnew, rfl⟩
      · rw [hmsgs]
        exact h
      · rw [hmsgs] at hnew
        have hadd : ((db₁.messages ++ [inboundMessage act.apply chat a]).map (·.uid)).Nodup := by
          rw [hmsgs, List.map_append]
          exact List.nodup_append'.mpr ⟨h, List.nodup_singleton _, by simpa [List.Disjoint] using hnew⟩
        exact hadd
    · exact h
  unfold storeMessage
  split
  · exact h
  · exact h
  · dsimp only
    split
    · exact h
    · split
      · exact hinbound _
      · exact h

theorem unique_process {env : InEnv} {act : Recorder.ActEnv} {st : Store} {ev : InboundEvent} (h : Unique st) :
    Unique (process env act st ev) := by
  unfold process
  split
  · split
    · exact h
    · unfold storeReaction
      dsimp only
      split
      · exact h
      · rename_i hok
        have huids := mutateReaction_uids hok
        unfold Unique
        rw [huids]
        exact h
  · unfold storeInbound
    split
    · exact h
    · split
      · exact h
      · exact unique_storeMessage h

theorem unique_events (env : InEnv) (act : Recorder.ActEnv) (events : List InboundEvent) {st : Store} (h : Unique st) :
    Unique (events.foldl (process env act) st) := by
  induction events generalizing st with
  | nil => exact h
  | cons ev events ih => exact ih (unique_process h)

theorem unique_deliver {st : Store} {d : Delivery} (h : Unique st) : Unique (deliver download st d) := by
  unfold deliver
  split
  · exact h
  · rename_i events _
    exact unique_events d.env d.act events h

theorem unique_run {st : Store} (h : Unique st) (ds : List Delivery) : Unique (run download st ds) := by
  induction ds generalizing st with
  | nil => exact h
  | cons d ds ih => exact ih (unique_deliver download h)

/-! ### The target -/

variable {st : Store}

theorem Hits.number {d r : Delivery} {rx : Telegram.MessageReaction} {chat : Telegram.Chat} (hr : Reacts r rx chat)
    (h : Hits download st d r) : rx.messageID = d.update.updateID := by
  obtain ⟨m, ev, rx', hm, hparse, hrx', hlock, -⟩ := h
  obtain ⟨ev', hparse', -, hrx, -⟩ := deliver_reaction download hr st
  rw [hparse'] at hparse
  obtain rfl : ev' = ev := by simpa using hparse
  obtain rfl := Option.some.inj (hrx.symm.trans hrx')
  have huid : m.uid = trimSpace (formatInt rx.messageID) := by
    have hfound := List.find?_some hlock
    simp only [Bool.and_eq_true, decide_eq_true_eq] at hfound
    exact hfound.2
  rw [trimSpace_formatInt, hm.uid] at huid
  exact (formatInt_inj huid).symm

theorem hits_of_number {d r : Delivery} {rx : Telegram.MessageReaction} {chat : Telegram.Chat} {m : ChatMessage}
    (hr : Reacts r rx chat) (hconn : r.conn.workspaceID = d.conn.workspaceID)
    (hn : Unique st) (hm : StoredAs st d m) (hnum : rx.messageID = d.update.updateID) :
    Hits download st d r := by
  obtain ⟨ev, hparse, hws, hrx, hdel⟩ := deliver_reaction download hr st
  have huid : m.uid = formatInt rx.messageID := by rw [hm.uid, uidOf, hnum]
  have hwsm : m.workspaceID = ev.workspaceID := by rw [hm.workspaceID, hws, hconn]
  have htrim : trimSpace (reactionOf rx).messageUID = formatInt rx.messageID := trimSpace_formatInt _
  -- of the rows with this uid there is one, and it is of the workspace
  have honly : ∀ x ∈ st.db.messages, (decide (x.workspaceID = ev.workspaceID) && decide (x.uid = formatInt rx.messageID)) =
      decide (x.uid = m.uid) := by
    intro x hx
    by_cases hxu : x.uid = m.uid
    · obtain rfl := eq_of_key_eq hn hx hm.mem hxu
      simp [hwsm, huid]
    · simp [hxu, ← huid]
  have hlock : lockedRow st.db.messages ev.workspaceID (reactionOf rx).messageUID = some m := by
    unfold lockedRow
    rw [htrim, List.find?_congr honly]
    exact (find?_key_iff hn).mpr ⟨hm.mem, rfl⟩
  have heq := (storeReaction_spec r.env rx st (hws ▸ hr.workspace) hr.dbOk).2 m hlock
  refine ⟨m, ev, reactionOf rx, hm, hparse, hrx, hlock, ?_⟩
  rw [hdel, heq]
  refine List.map_congr_left fun x hx => ?_
  show (if (decide _ && decide _) = true then _ else _) = _
  simp only [honly x hx]

/-- **A reaction reaches the message it names**, after any updates of the bot, exactly when that message's number
in the chat is also the number of its update. -/
theorem reaction_target_iff (connections : List (UUID × String)) (identities : List Recorder.ContactIdentity)
    (conn : Connection) (ds : List Delivery) (hds : ∀ d ∈ ds, d.conn = conn) (d : Delivery) (hd : d ∈ ds)
    (hingested : ∃ m, StoredAs (run download (TelegramIdentity.init connections identities) ds) d m) (r : Delivery)
    (hconn : r.conn = conn) (rx : Telegram.MessageReaction) (chat : Telegram.Chat) (hr : Reacts r rx chat)
    (msg : Telegram.Message) (hnames : Names rx chat d msg) :
    Hits download (run download (TelegramIdentity.init connections identities) ds) d r ↔
      msg.messageID = d.update.updateID := by
  have hunique : Unique (run download (TelegramIdentity.init connections identities) ds) :=
    unique_run download (unique_init connections identities) ds
  obtain ⟨m, hm⟩ := hingested
  constructor
  · intro h
    rw [← hnames.number]
    exact h.number download hr
  · intro hnum
    have hws : r.conn.workspaceID = d.conn.workspaceID := by rw [hconn, hds d hd]
    exact hits_of_number download hr hws hunique hm (hnames.number.trans hnum)

theorem run_messages {connections : List (UUID × String)} {ds : List Delivery}
    (h : ∀ d ∈ ds, TelegramIdentity.Delivered connections d) (st : Store) :
    run download st ds = TelegramIdentity.run download st ds := by
  refine List.foldl_ext _ _ _ fun st d hd => ?_
  obtain ⟨config, hconfig, hsecret, htoken⟩ := (h d hd).config
  obtain ⟨msg, chat, hmsg, hchat⟩ := (h d hd).message
  have hcontent : d.update.content.chat = some chat ∧ d.update.content.reaction = none := by
    simp only [Telegram.Update.content, (h d hd).noReaction, (h d hd).noCallback, hmsg]
    exact ⟨hchat, trivial⟩
  have hparse : Telegram.parse download d.conn d.token (some d.update) =
      .ok [Telegram.event download d.conn config d.update d.update.content chat] := by
    simp only [Telegram.parse, if_neg htoken, hconfig, hsecret, ne_eq, not_true_eq_false, if_false, hcontent.1]
  have hreaction : (Telegram.event download d.conn config d.update d.update.content chat).reaction = none := hcontent.2
  simp only [deliver, TelegramIdentity.deliver, hparse, List.foldl_cons, List.foldl_nil, process, hreaction]

end Runs

/-! ## Two messages of one chat -/

open TelegramIdentity (Delivered SameBot bot bots sent sent_delivered textUpdate)

/-- The update `updateID` with the message `messageID` of the chat. -/
def numbered (updateID messageID : Int) (text : String) : Delivery :=
  let u := textUpdate updateID text
  sent (bot 11 1) { u with message := u.message.map fun m => { m with messageID := messageID } } 21

theorem numbered_delivered (updateID messageID : Int) (text : String) : Delivered bots (numbered updateID messageID text) :=
  have h : Delivered bots (sent (bot 11 1) (textUpdate updateID text) 21) := sent_delivered (by decide) (by decide)
  { h with message := ⟨_, _, rfl, rfl⟩ }

def ana : Telegram.Chat := ⟨99, "ana", "Ana", ""⟩

def liked (messageID : Int) : Telegram.MessageReaction := ⟨some ana, messageID, none, 1700000000, ["+"]⟩

def likes (updateID messageID : Int) : Delivery :=
  sent (bot 11 1)
    { updateID := updateID, message := none, callbackQuery := none, messageReaction := some (liked messageID) } 21

theorem likes_reacts (updateID messageID : Int) : Reacts (likes updateID messageID) (liked messageID) ana where
  config := (numbered_delivered updateID 0 "").config
  reaction := rfl
  chat := rfl
  workspace := show (1 : UUID) ≠ UUID.Nil by decide
  dbOk := rfl

/-- The updates 7 and 8, with messages that the chat numbers from `n`. -/
def twoMessages (n : Int) : List Delivery := [numbered 7 n "oi", numbered 8 (n + 1) "tudo"]

def afterTwo (n : Int) : Store := run (fun _ _ => none) (TelegramIdentity.init bots []) (twoMessages n)

theorem twoMessages_stored (n : Int) : ∀ d ∈ twoMessages n, ∃ m, StoredAs (afterTwo n) d m := by
  have hdel : ∀ d ∈ twoMessages n, Delivered bots d := by
    simp only [twoMessages, List.forall_mem_cons, List.not_mem_nil, false_implies, implies_true, and_true]
    exact ⟨numbered_delivered 7 n "oi", numbered_delivered 8 (n + 1) "tudo"⟩
  have hconn : ∀ d ∈ twoMessages n, d.conn = bot 11 1 := by
    simp only [twoMessages, List.forall_mem_cons, List.not_mem_nil, false_implies, implies_true, and_true]
    exact ⟨rfl, rfl⟩
  have hbot : ∀ d ∈ twoMessages n, ∀ d' ∈ twoMessages n, SameBot d d' := by
    intro d hd d' hd' _
    refine ⟨(hconn d hd).trans (hconn d' hd').symm, ?_⟩
    simp only [twoMessages, List.mem_cons, List.not_mem_nil, or_false] at hd hd'
    obtain rfl | rfl := hd <;> obtain rfl | rfl := hd' <;> intro hid
    · exact ⟨rfl, rfl⟩
    · exact absurd (show (7 : Int) = 8 from hid) (by decide)
    · exact absurd (show (8 : Int) = 7 from hid) (by decide)
    · exact ⟨rfl, rfl⟩
  unfold afterTwo
  rw [run_messages _ hdel]
  refine TelegramIdentity.run_stored (fun _ _ => none) (TelegramIdentity.inv_init []) hdel
    (fun d hd => absurd hd List.not_mem_nil) hbot fun d hd d' hd' hne => ?_
  rw [hconn d hd, hconn d' hd'] at hne
  exact absurd rfl hne

/-- The chat's numbers are the updates' numbers: the reaction to the second message reaches it. -/
theorem reaction_reaches_second : Hits (fun _ _ => none) (afterTwo 7) (numbered 8 8 "tudo") (likes 9 8) := by
  refine (reaction_target_iff (fun _ _ => none) bots [] (bot 11 1) (twoMessages 7) ?_ (numbered 8 8 "tudo") ?_ ?_
    (likes 9 8) rfl (liked 8) ana (likes_reacts 9 8) _ ⟨rfl, rfl, rfl⟩).mpr rfl
  · simp only [twoMessages, List.forall_mem_cons, List.not_mem_nil, false_implies, implies_true, and_true]
    exact ⟨rfl, rfl⟩
  · exact List.mem_cons_of_mem _ List.mem_cons_self
  · exact twoMessages_stored 7 _ (List.mem_cons_of_mem _ List.mem_cons_self)

/-- The chat counts one ahead of the updates: the reaction to the first message is recorded on the second. -/
theorem wrong_message :
    (∀ d ∈ twoMessages 8, ∃ m, StoredAs (afterTwo 8) d m) ∧
    (∃ msg, Reacts (likes 9 8) (liked 8) ana ∧ Names (liked 8) ana (numbered 7 8 "oi") msg) ∧
    ¬ Hits (fun _ _ => none) (afterTwo 8) (numbered 7 8 "oi") (likes 9 8) ∧
    (deliver (fun _ _ => none) (afterTwo 8) (likes 9 8)).db.messages.map (fun m => (m.body, m.reactions.map (·.emoji))) =
      [("oi", []), ("tudo", ["+"])] := by
  refine ⟨twoMessages_stored 8, ⟨_, likes_reacts 9 8, rfl, rfl, rfl⟩, fun h => ?_, by decide +kernel⟩
  exact absurd (show (8 : Int) = 7 from h.number _ (likes_reacts 9 8)) (by decide)

end PerGo.L4.ReactionTarget
