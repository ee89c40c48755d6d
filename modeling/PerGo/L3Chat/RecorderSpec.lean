import PerGo.Core.Fallible
import PerGo.L3Chat.Recorder

/-!
# What a call of the recorder does to the tables

`Recorder.SetAI` and `ChatRepository.ResetUnread`, the other two writers of `chats`, and
for each of the four what a call that succeeds leaves behind.

* `Resolved`: resolving a chat adds at most one, and changes of the others only the
  connection.
* `Stored`: an inbound or outbound turn that is new adds its message and writes the
  one row of its chat (`inbound_ok`, `outbound_ok`).
* `outbound_recorded`: a turn is recorded in the chat its reference names, or in one of the
  connection it names.
* `setAI_ok`, `resetUnread`: neither adds a message.
-/
namespace PerGo.L3.Recorder

open PerGo.Core PerGo.L1 PerGo.L2

/-- mirrors activity/activity.go:161-164 -/
structure AIChange where
  mode : AIMode
  until_ : Option Time

/-- mirrors activity.go:167-169 -/
def AIOff : AIChange := ⟨.off, none⟩

/-- mirrors activity.go:172-174 -/
def AIResume : AIChange := ⟨.active, none⟩

/-- mirrors activity.go:177-180 -/
def AIPauseUntil (t : Time) : AIChange := ⟨.paused, some t⟩

/-- The engagement, and the tables. mirrors activity.go:679-737 -/
def setAI (db : ChatDB) (env : ActEnv) (ws : UUID) (ref : ChatRef) (change : AIChange) (traceID : String) :
    Except ActivityError (AIEngagement × ChatDB) :=
  if ws = UUID.Nil then .error .invalidWorkspaceID
  else match env.dbErr with
    | some e => .error (.db e)
    | none => do
      let (state, db) ← resolveAndLockChat db env ws ref (ref.contactID ≠ UUID.Nil)
      let next := aiChangeState env.apply state ⟨env.apply.now, change.mode, change.until_, traceID⟩
      let status := if next.status = .unset then .open_ else next.status
      return (next.ai.effective env.apply.now, updateChat db state.workspaceID state.id fun c =>
        { c with ai := defaultedAI next.ai, status := status, snoozedUntil := next.snoozedUntil })

/-- mirrors repository/chat.go:928-942 -/
def resetUnread (db : ChatDB) (ws chatID : UUID) : Except String ChatDB :=
  if ws = UUID.Nil then .error "workspace_id is required"
  else if chatID = UUID.Nil then .error "chat_id is required"
  else .ok { db with
    chats := updateWhere (fun c => c.workspaceID = ws && c.id = chatID && c.unreadCount > 0)
      (fun c => { c with unreadCount := 0 }) db.chats }

/-! ## Resolving a chat -/

def unbound (c : ChatState) : ChatState := { c with connectionID := none }

structure Unchanged (db db' : ChatDB) : Prop where
  messages : db'.messages = db.messages
  chats : db.chats.map unbound <+: db'.chats.map unbound

/-- The chat `st` is in `db'`, which is `db` with at most that one chat more. -/
structure Resolved (db : ChatDB) (env : ActEnv) (ws : UUID) (st : ChatState) (db' : ChatDB) : Prop where
  messages : db'.messages = db.messages
  workspace : st.workspaceID = ws
  chats : db'.chats.map unbound = db.chats.map unbound ∨
    ∃ contact conn now, db'.chats.map unbound = db.chats.map unbound ++ [unbound (newChat env.newChatID ws contact conn now)]
  row : ∃ c ∈ db'.chats, c.id = st.id ∧ c.workspaceID = ws ∧ c.unreadCount = st.unreadCount

theorem Resolved.unchanged {db db' : ChatDB} {env : ActEnv} {ws : UUID} {st : ChatState}
    (h : Resolved db env ws st db') : Unchanged db db' := by
  refine ⟨h.messages, ?_⟩
  rcases h.chats with hc | ⟨contact, conn, now, hc⟩
  · exact hc ▸ List.prefix_rfl
  · rw [hc]
    exact List.prefix_append ..

section Resolve

variable {db db' : ChatDB} {env : ActEnv} {ws : UUID} {ref : ChatRef} {allowCreate : Bool} {st : ChatState}

theorem latestChat_mem {cs : List ChatState} {c : ChatState} (h : latestChat cs = some c) : c ∈ cs := by
  induction cs with
  | nil => cases h
  | cons d cs ih =>
    simp only [latestChat] at h
    split at h
    · cases h
      exact List.mem_cons_self
    · rename_i e he
      split at h
      · cases h
        exact List.mem_cons_of_mem _ (ih he)
      · cases h
        exact List.mem_cons_self

theorem findChat_mem {contact : UUID} {conn : Option UUID} {c : ChatState}
    (h : findChat db ws contact conn = some c) : c ∈ db.chats ∧ c.workspaceID = ws := by
  have hown : ∀ d ∈ db.chats.filter (fun c => c.workspaceID = ws && c.contactID = contact),
      d ∈ db.chats ∧ d.workspaceID = ws := by
    intro d hd
    obtain ⟨hmem, hp⟩ := List.mem_filter.mp hd
    simp only [Bool.and_eq_true, decide_eq_true_eq] at hp
    exact ⟨hmem, hp.1⟩
  apply hown
  cases conn with
  | some conn =>
    simp only [findChat, Option.or_eq_some_iff] at h
    rcases h with h | ⟨-, h⟩ <;> exact List.mem_of_find?_eq_some h
  | none =>
    simp only [findChat, Option.or_eq_some_iff] at h
    rcases h with h | ⟨-, h⟩
    · exact (List.mem_filter.mp (latestChat_mem h)).1
    · exact List.mem_of_find?_eq_some h

theorem adoptChat_resolved {row : ChatState} (hmem : row ∈ db.chats) (hws : row.workspaceID = ws) :
    Resolved db env ws (adoptChat db ref row).1 (adoptChat db ref row).2 := by
  cases hr : refConnection db ref with
  | none =>
    simp only [adoptChat, scanChatState, hr]
    exact ⟨rfl, hws, Or.inl rfl, row, hmem, rfl, hws, rfl⟩
  | some conn =>
    cases hc : row.connectionID with
    | some conn' =>
      simp only [adoptChat, scanChatState, hr, hc]
      exact ⟨rfl, hws, Or.inl rfl, row, hmem, rfl, hws, rfl⟩
    | none =>
      simp only [adoptChat, scanChatState, hr, hc]
      refine ⟨rfl, hws, Or.inl ?_, ?_⟩
      · apply map_updateWhere
        intro c
        rfl
      refine ⟨{ row with connectionID := some conn }, List.mem_map.mpr ⟨row, hmem, ?_⟩, rfl, hws, rfl⟩
      rw [if_pos (by simp)]

theorem adoptChat_window {row : ChatState} (hmem : row ∈ db.chats) (hws : row.workspaceID = ws) :
    ∃ c ∈ (adoptChat db ref row).2.chats, c.id = (adoptChat db ref row).1.id ∧ c.workspaceID = ws ∧
      c.serviceWindowExpiresAt = (adoptChat db ref row).1.serviceWindowExpiresAt := by
  cases hr : refConnection db ref with
  | none =>
    simp only [adoptChat, scanChatState, hr]
    exact ⟨row, hmem, rfl, hws, rfl⟩
  | some conn =>
    cases hc : row.connectionID with
    | some conn' =>
      simp only [adoptChat, scanChatState, hr, hc]
      exact ⟨row, hmem, rfl, hws, rfl⟩
    | none =>
      simp only [adoptChat, scanChatState, hr, hc]
      refine ⟨{ row with connectionID := some conn }, List.mem_map.mpr ⟨row, hmem, ?_⟩, rfl, hws, rfl⟩
      rw [if_pos (by simp)]

theorem resolveAndLockChat_ok (h : resolveAndLockChat db env ws ref allowCreate = .ok (st, db')) :
    Resolved db env ws st db' := by
  simp only [resolveAndLockChat] at h
  split at h
  · cases h
  · split at h
    · split at h
      · cases h
      · rename_i row hrow
        have hp := List.find?_some hrow
        simp only [Bool.and_eq_true, decide_eq_true_eq] at hp
        cases h
        exact ⟨rfl, hp.1, Or.inl rfl, row, List.mem_of_find?_eq_some hrow, rfl, hp.1, rfl⟩
    · split at h
      · cases h
      · split at h
        · rename_i row hrow
          obtain ⟨hmem, hws⟩ := findChat_mem hrow
          cases h
          exact adoptChat_resolved hmem hws
        · split at h
          · cases h
          · cases h
            refine ⟨rfl, rfl, Or.inr ⟨refContact db ws ref, refConnection db ref, env.apply.now, ?_⟩, ?_⟩
            · rw [List.map_append]
              rfl
            · exact ⟨_, List.mem_append_right _ (List.mem_singleton_self _), rfl, rfl, rfl⟩

theorem resolveAndLockChat_window (h : resolveAndLockChat db env ws ref allowCreate = .ok (st, db')) :
    ∃ c ∈ db'.chats, c.id = st.id ∧ c.workspaceID = ws ∧ c.serviceWindowExpiresAt = st.serviceWindowExpiresAt := by
  simp only [resolveAndLockChat] at h
  split at h
  · cases h
  · split at h
    · split at h
      · cases h
      · rename_i row hrow
        have hp := List.find?_some hrow
        simp only [Bool.and_eq_true, decide_eq_true_eq] at hp
        cases h
        exact ⟨row, List.mem_of_find?_eq_some hrow, rfl, hp.1, rfl⟩
    · split at h
      · cases h
      · split at h
        · rename_i row hrow
          obtain ⟨hmem, hws⟩ := findChat_mem hrow
          obtain rfl : (adoptChat db ref row).1 = st := congrArg Prod.fst (Except.ok.inj h)
          obtain rfl : (adoptChat db ref row).2 = db' := congrArg Prod.snd (Except.ok.inj h)
          exact adoptChat_window hmem hws
        · split at h
          · cases h
          · cases h
            exact ⟨_, List.mem_append_right _ (List.mem_singleton_self _), rfl, rfl, rfl⟩

end Resolve

/-! ## Turns -/

/-- The message of a turn is new, and the row of its chat is the only one that is written; it has `added` unread
messages more. -/
structure Stored (db : ChatDB) (st : ChatState) (msg : ChatMessage) (added : Int) (db' : ChatDB) : Prop where
  messages : db'.messages = db.messages ++ [msg]
  new : msg.uid ∉ db.messages.map (·.uid)
  chat : msg.chatID = st.id
  chats : ∃ f : ChatState → ChatState, (∀ c, (f c).id = c.id ∧ (f c).unreadCount = st.unreadCount + added) ∧
    db'.chats = updateWhere (fun c => c.workspaceID = st.workspaceID && c.id = st.id) f db.chats

section Turns

variable {db db' : ChatDB} {env : ActEnv} {ws : UUID}

theorem insertChatMessage_ok {msg : ChatMessage} (h : insertChatMessage db msg = .ok db') :
    db' = { db with messages := db.messages ++ [msg] } ∧ msg.uid ∉ db.messages.map (·.uid) := by
  unfold insertChatMessage at h
  split at h
  · cases h
  · rename_i hany
    cases h
    refine ⟨rfl, fun hmem => hany ?_⟩
    obtain ⟨m, hm, hu⟩ := List.mem_map.mp hmem
    exact List.any_eq_true.mpr ⟨m, hm, decide_eq_true hu⟩

theorem inboundState_unread (env : ApplyEnv) (s : ChatState) (act : L2.InboundTurn) :
    (inboundState env s act).unreadCount = s.unreadCount + 1 ∧ (inboundState env s act).id = s.id ∧
      (inboundState env s act).workspaceID = s.workspaceID := by
  unfold inboundState
  simp only
  split <;> exact ⟨rfl, rfl, rfl⟩

theorem updateInboundChatState_chats (db : ChatDB) (state : ChatState) (now : Time) :
    ∃ f : ChatState → ChatState, (∀ c, (f c).id = c.id ∧ (f c).unreadCount = state.unreadCount) ∧
      (updateInboundChatState db state now).chats =
        updateWhere (fun c => c.workspaceID = state.workspaceID && c.id = state.id) f db.chats := by
  refine ⟨_, ?_, rfl⟩
  intro c
  exact ⟨rfl, rfl⟩

theorem updateOutboundChatState_chats (db : ChatDB) (state : ChatState) (now : Time) :
    ∃ f : ChatState → ChatState, (∀ c, (f c).id = c.id ∧ (f c).unreadCount = state.unreadCount) ∧
      (updateOutboundChatState db state now).chats =
        updateWhere (fun c => c.workspaceID = state.workspaceID && c.id = state.id) f db.chats := by
  refine ⟨_, ?_, rfl⟩
  intro c
  exact ⟨rfl, rfl⟩

theorem updateOutboundChatState_keys (db : ChatDB) (state : ChatState) (now : Time) :
    (updateOutboundChatState db state now).chats.map chatKey = db.chats.map chatKey := by
  simp only [updateOutboundChatState, updateChat]
  apply map_updateWhere
  intro c
  rfl

structure InboundFinds (db : ChatDB) (env : ActEnv) (ws : UUID) (turn : InboundTurn) (msg : ChatMessage) : Prop where
  workspace : ws ≠ UUID.Nil
  uid : trimSpace turn.uid ≠ ""
  begun : env.dbErr = none
  chat : ∃ st db₁, resolveAndLockChat db env ws (refOf turn.chat turn.channel)
    ((refOf turn.chat turn.channel).contactID ≠ UUID.Nil) = .ok (st, db₁)
  found : loadMessageByUID db ws (trimSpace turn.uid) = some msg

theorem loadMessageByUID_congr (h : db'.messages = db.messages) (ws : UUID) (uid : String) :
    loadMessageByUID db' ws uid = loadMessageByUID db ws uid := by
  unfold loadMessageByUID
  rw [h]

theorem inbound_duplicate {turn : InboundTurn} {msg : ChatMessage} (h : InboundFinds db env ws turn msg) :
    ∃ r db' st, inbound db env ws turn = .ok (r, db') ∧ r.duplicate = true ∧ r.message = msg ∧
      Resolved db env ws st db' := by
  obtain ⟨st, db₁, hres⟩ := h.chat
  have hr := resolveAndLockChat_ok hres
  have hload : loadMessageByUID db₁ st.workspaceID (trimSpace turn.uid) = some msg := by
    rw [hr.workspace, loadMessageByUID_congr hr.messages, h.found]
  unfold inbound
  rw [if_neg h.workspace, if_neg h.uid, h.begun]
  simp only [hres, bind, Except.bind, hload]
  exact ⟨_, _, st, rfl, rfl, rfl, hr⟩

theorem inbound_cases {turn : InboundTurn} {r : InboundReceipt} (h : inbound db env ws turn = .ok (r, db')) :
    ws ≠ UUID.Nil ∧ trimSpace turn.uid ≠ "" ∧ env.dbErr = none ∧ ∃ st db₁,
      resolveAndLockChat db env ws (refOf turn.chat turn.channel)
        ((refOf turn.chat turn.channel).contactID ≠ UUID.Nil) = .ok (st, db₁) ∧
      (loadMessageByUID db₁ st.workspaceID (trimSpace turn.uid) = some r.message ∧ r.duplicate = true ∧ db' = db₁ ∨
        ∃ act, inboundActivity db₁ env st (refOf turn.chat turn.channel) turn = act ∧
          r.chat = inboundState env.apply st act ∧ r.message = inboundMessage env.apply st act ∧ r.duplicate = false ∧
          (inboundMessage env.apply st act).uid ∉ db₁.messages.map (·.uid) ∧
          db' = updateInboundChatState { db₁ with messages := db₁.messages ++ [inboundMessage env.apply st act] }
            (inboundState env.apply st act) (atOf env.apply turn.at_)) := by
  unfold inbound at h
  split at h
  · cases h
  · rename_i hws
    split at h
    · cases h
    · rename_i huid
      split at h
      · cases h
      · rename_i hdb
        obtain ⟨⟨st, db₁⟩, hres, h⟩ := bind_ok h
        refine ⟨hws, huid, hdb, st, db₁, hres, ?_⟩
        simp only at h
        split at h
        · rename_i msg hload
          obtain ⟨rfl, rfl⟩ := Prod.mk.inj (Except.ok.inj h)
          exact Or.inl ⟨hload, rfl, rfl⟩
        · obtain ⟨db₂, hins, h⟩ := bind_ok h
          obtain ⟨rfl, hnew⟩ := insertChatMessage_ok hins
          obtain ⟨rfl, rfl⟩ := Prod.mk.inj (Except.ok.inj h)
          generalize inboundActivity db₁ env st (refOf turn.chat turn.channel) turn = act at hnew ⊢
          refine Or.inr ⟨act, rfl, ?_, ?_, rfl, hnew, ?_⟩
          · dsimp only
          · dsimp only
          · dsimp only

theorem inbound_ok {turn : InboundTurn} {r : InboundReceipt} (h : inbound db env ws turn = .ok (r, db')) :
    InboundFinds db env ws turn r.message ∧ r.duplicate = true ∨
      ∃ st db₁, Resolved db env ws st db₁ ∧ Stored db₁ st r.message 1 db' ∧ r.message.uid = trimSpace turn.uid ∧
        r.message.workspaceID = ws ∧ r.message.direction = .inbound ∧ r.duplicate = false := by
  obtain ⟨hws, huid, hdb, st, db₁, hres, hcase⟩ := inbound_cases h
  have hr := resolveAndLockChat_ok hres
  rcases hcase with ⟨hload, hdup, -⟩ | ⟨act, hact, -, hmsg, hdup, hnew, rfl⟩
  · rw [hr.workspace, loadMessageByUID_congr hr.messages] at hload
    exact Or.inl ⟨⟨hws, huid, hdb, ⟨_, _, hres⟩, hload⟩, hdup⟩
  · have huid : act.uid = trimSpace turn.uid := by rw [← hact]; rfl
    obtain ⟨hunread, hid, hw⟩ := inboundState_unread env.apply st act
    obtain ⟨f, hf, hchats⟩ := updateInboundChatState_chats
      { db₁ with messages := db₁.messages ++ [inboundMessage env.apply st act] } (inboundState env.apply st act)
      (atOf env.apply turn.at_)
    rw [hunread] at hf
    rw [hid, hw] at hchats
    obtain ⟨chat, message, duplicate, at_, prev⟩ := r
    obtain rfl : message = inboundMessage env.apply st act := hmsg
    exact Or.inr ⟨st, db₁, hr, ⟨rfl, hnew, rfl, f, hf, hchats⟩, huid, hr.workspace, rfl, hdup⟩

structure OutboundFinds (db : ChatDB) (env : ActEnv) (ws : UUID) (turn : OutboundTurn) (msg : ChatMessage) : Prop where
  workspace : ws ≠ UUID.Nil
  uid : trimSpace turn.uid ≠ ""
  begun : env.dbErr = none
  chat : ∃ st db₁, resolveAndLockChat db env ws (refOf turn.chat turn.channel) false = .ok (st, db₁)
  found : loadMessageByUID db ws (trimSpace turn.uid) = some msg

theorem outbound_duplicate {turn : OutboundTurn} {msg : ChatMessage} (h : OutboundFinds db env ws turn msg) :
    ∃ r db' st, outbound db env ws turn = .ok (r, db') ∧ r.duplicate = true ∧ r.message = msg ∧
      Resolved db env ws st db' := by
  obtain ⟨st, db₁, hres⟩ := h.chat
  have hr := resolveAndLockChat_ok hres
  have hload : loadMessageByUID db₁ st.workspaceID (trimSpace turn.uid) = some msg := by
    rw [hr.workspace, loadMessageByUID_congr hr.messages, h.found]
  unfold outbound
  rw [if_neg h.workspace, if_neg h.uid, h.begun]
  simp only [hres, hload]
  exact ⟨_, _, st, rfl, rfl, rfl, hr⟩

theorem storeOutbound_ok {turn : OutboundTurn} {st : ChatState} {at_ : Time} {channel : String} {r : OutboundReceipt}
    (h : storeOutbound db env st at_ channel turn = .ok (r, db')) :
    Stored db st r.message 0 db' ∧ r.message.uid = trimSpace turn.uid ∧ r.message.workspaceID = st.workspaceID ∧
      r.message.direction = .outbound ∧ r.duplicate = false := by
  unfold storeOutbound at h
  obtain ⟨db₂, hins, h⟩ := bind_ok h
  obtain ⟨rfl, hnew⟩ := insertChatMessage_ok hins
  obtain ⟨rfl, rfl⟩ := Prod.mk.inj (Except.ok.inj h)
  generalize hact : outboundActivity at_ channel turn = act at hnew ⊢
  have huid : act.uid = trimSpace turn.uid := by rw [← hact]; rfl
  obtain ⟨f, hf, hchats⟩ := updateOutboundChatState_chats
    { db with messages := db.messages ++ [outboundMessage env.apply st act] } (outboundState env.apply st act) at_
  have hunread : (outboundState env.apply st act).unreadCount = st.unreadCount + 0 := (Int.add_zero _).symm
  rw [hunread] at hf
  exact ⟨⟨rfl, hnew, rfl, f, hf, hchats⟩, huid, rfl, rfl, rfl⟩

theorem storeOutbound_keys {turn : OutboundTurn} {st : ChatState} {at_ : Time} {channel : String} {r : OutboundReceipt}
    (h : storeOutbound db env st at_ channel turn = .ok (r, db')) : db'.chats.map chatKey = db.chats.map chatKey := by
  unfold storeOutbound at h
  obtain ⟨db₂, hins, h⟩ := bind_ok h
  obtain ⟨rfl, -⟩ := insertChatMessage_ok hins
  obtain ⟨-, rfl⟩ := Prod.mk.inj (Except.ok.inj h)
  exact updateOutboundChatState_keys _ _ _

theorem outbound_cases {turn : OutboundTurn} {r : OutboundReceipt} (h : outbound db env ws turn = .ok (r, db')) :
    ws ≠ UUID.Nil ∧ trimSpace turn.uid ≠ "" ∧ env.dbErr = none ∧ ∃ st db₁ allowCreate,
      resolveAndLockChat db env ws (refOf turn.chat turn.channel) allowCreate = .ok (st, db₁) ∧
      (loadMessageByUID db₁ st.workspaceID (trimSpace turn.uid) = some r.message ∧ r.duplicate = true ∧
          allowCreate = false ∧ db' = db₁ ∨
        ∃ own channel, storeOutbound db₁ env { st with channel := own } (atOf env.apply turn.at_) channel turn =
          .ok (r, db')) := by
  unfold outbound at h
  split at h
  · cases h
  · rename_i hws
    split at h
    · cases h
    · rename_i huid
      cases hdb : env.dbErr with
      | some e =>
        rw [hdb] at h
        cases h
      | none =>
        refine ⟨hws, huid, rfl, ?_⟩
        simp only [hdb] at h
        cases hres : resolveAndLockChat db env ws (refOf turn.chat turn.channel) false with
        | ok x =>
          obtain ⟨st, db₁⟩ := x
          simp only [hres] at h
          generalize turnChannel db (refOf turn.chat turn.channel) turn = named at h
          generalize (if named = "" then st.channel else named) = own at h
          generalize (if own = "" then connChannel db₁ (st.connectionID.getD UUID.Nil) else own) = channel at h
          split at h
          · rename_i msg hload
            obtain ⟨rfl, rfl⟩ := Prod.mk.inj (Except.ok.inj h)
            exact ⟨st, db₁, false, hres, Or.inl ⟨hload, rfl, rfl, rfl⟩⟩
          · split at h
            · exact ⟨st, db₁, false, hres, Or.inr ⟨channel, channel, h⟩⟩
            · cases h
        | error err =>
          cases err with
          | chatNotFound =>
            simp only [hres] at h
            split at h
            · cases h
            · split at h
              · cases h
              · obtain ⟨⟨st, db₁⟩, hres, h⟩ := bind_ok h
                exact ⟨st, db₁, true, hres, Or.inr ⟨_, _, h⟩⟩
          | _ =>
            simp only [hres] at h
            cases h

theorem outbound_ok {turn : OutboundTurn} {r : OutboundReceipt} (h : outbound db env ws turn = .ok (r, db')) :
    OutboundFinds db env ws turn r.message ∧ r.duplicate = true ∨
      ∃ st db₁, Resolved db env ws st db₁ ∧ Stored db₁ st r.message 0 db' ∧ r.message.uid = trimSpace turn.uid ∧
        r.message.workspaceID = ws ∧ r.message.direction = .outbound ∧ r.duplicate = false := by
  obtain ⟨hws, huid, hdb, st, db₁, allowCreate, hres, hcase⟩ := outbound_cases h
  have hr := resolveAndLockChat_ok hres
  rcases hcase with ⟨hload, hdup, rfl, -⟩ | ⟨own, channel, hs⟩
  · rw [hr.workspace, loadMessageByUID_congr hr.messages] at hload
    exact Or.inl ⟨⟨hws, huid, hdb, ⟨_, _, hres⟩, hload⟩, hdup⟩
  · -- the state that is stored is the one that was resolved, but for its channel
    obtain ⟨hsto, huid, hmws, hdir, hdup⟩ := storeOutbound_ok hs
    exact Or.inr ⟨{ st with channel := own }, db₁, ⟨hr.messages, hr.workspace, hr.chats, hr.row⟩, hsto, huid,
      hmws.trans hr.workspace, hdir, hdup⟩

theorem Stored.not_loaded {st : ChatState} {msg : ChatMessage} {n : Int} {uid : String} (h : Stored db st msg n db')
    (hu : msg.uid = uid) : loadMessageByUID db ws uid = none := by
  cases hload : loadMessageByUID db ws uid with
  | none => rfl
  | some m =>
    have hp := List.find?_some hload
    simp only [Bool.and_eq_true, decide_eq_true_eq] at hp
    exact absurd (List.mem_map.mpr ⟨m, List.mem_of_find?_eq_some hload, hp.2.trans hu.symm⟩) h.new

theorem setAI_ok {ref : ChatRef} {change : AIChange} {trace : String} {ai : AIEngagement}
    (h : setAI db env ws ref change trace = .ok (ai, db')) :
    ∃ st db₁, Resolved db env ws st db₁ ∧ db'.messages = db₁.messages ∧
      db'.chats.map (fun c => (c.id, c.unreadCount)) = db₁.chats.map (fun c => (c.id, c.unreadCount)) := by
  unfold setAI at h
  split at h
  · cases h
  · split at h
    · cases h
    · obtain ⟨⟨st, db₁⟩, hres, h⟩ := bind_ok h
      obtain ⟨-, rfl⟩ := Prod.mk.inj (Except.ok.inj h)
      refine ⟨st, db₁, resolveAndLockChat_ok hres, rfl, ?_⟩
      apply map_updateWhere
      intro c
      rfl

end Turns

/-! ## The chat a turn is recorded in -/

section ChatFor

variable {db db' : ChatDB} {env : ActEnv} {ws conn : UUID} {ref : ChatRef}

def ChatFor (db : ChatDB) (ref : ChatRef) (ws conn id : UUID) : Prop :=
  if ref.id ≠ UUID.Nil then id = ref.id else ∃ contact, HasChat db id ws conn contact

theorem adoptChat_bound {contact : UUID} {row : ChatState} (hconn : refConnection db ref = some conn)
    (h : findChat db ws contact (some conn) = some row) :
    HasChat (adoptChat db ref row).2 (adoptChat db ref row).1.id ws conn contact := by
  obtain ⟨hmem, hws, hcontact, hrow⟩ := findChat_spec h
  cases hc : row.connectionID with
  | some conn' =>
    obtain rfl : conn' = conn := by simpa [hc] using hrow
    simp only [adoptChat, scanChatState, hconn, hc]
    exact List.mem_map.mpr ⟨row, hmem, by simp only [chatKey, hws, hcontact, hc]⟩
  | none =>
    simp only [adoptChat, scanChatState, hconn, hc]
    refine List.mem_map.mpr ⟨{ row with connectionID := some conn }, ?_, by simp only [chatKey, hws, hcontact]⟩
    refine List.mem_map.mpr ⟨row, hmem, ?_⟩
    rw [if_pos (by simp)]

theorem resolveAndLockChat_for {allowCreate : Bool} {st : ChatState}
    (hconn : ref.id = UUID.Nil → refConnection db ref = some conn)
    (h : resolveAndLockChat db env ws ref allowCreate = .ok (st, db')) : ChatFor db' ref ws conn st.id := by
  simp only [resolveAndLockChat] at h
  unfold ChatFor
  split at h
  · cases h
  · split at h
    · rename_i hid
      rw [if_pos hid]
      split at h
      · cases h
      · rename_i row hrow
        have hp := List.find?_some hrow
        simp only [Bool.and_eq_true, decide_eq_true_eq] at hp
        cases h
        exact hp.2
    · rename_i hid
      have hconn := hconn (Classical.not_not.mp hid)
      rw [if_neg hid]
      rw [hconn] at h
      split at h
      · cases h
      · split at h
        · rename_i row hrow
          cases h
          exact ⟨_, adoptChat_bound hconn hrow⟩
        · split at h
          · cases h
          · cases h
            refine ⟨refContact db ws ref, List.mem_map.mpr ⟨_, List.mem_append_right _ (List.mem_singleton_self _), ?_⟩⟩
            rfl

theorem outbound_recorded {turn : OutboundTurn} {r : OutboundReceipt}
    (hconn : turn.chat.id = UUID.Nil → refConnection db turn.chat = some conn)
    (hnew : ∀ m ∈ db.messages, m.uid ≠ trimSpace turn.uid) (h : outbound db env ws turn = .ok (r, db')) :
    r.message ∈ db'.messages ∧ r.message.uid = trimSpace turn.uid ∧ r.message.workspaceID = ws ∧
      r.message.direction = .outbound ∧ ChatFor db' turn.chat ws conn r.message.chatID := by
  obtain ⟨-, -, -, st, db₁, allowCreate, hres, hcase⟩ := outbound_cases h
  have hr := resolveAndLockChat_ok hres
  have href : (refOf turn.chat turn.channel).id = turn.chat.id ∧
      refConnection db (refOf turn.chat turn.channel) = refConnection db turn.chat := by
    unfold refOf
    split <;> exact ⟨rfl, rfl⟩
  have hfor : ChatFor db₁ (refOf turn.chat turn.channel) ws conn st.id :=
    resolveAndLockChat_for (by rw [href.1, href.2]; exact hconn) hres
  rcases hcase with ⟨hload, -⟩ | ⟨own, channel, hs⟩
  · have hp := List.find?_some hload
    have hmem := List.mem_of_find?_eq_some hload
    simp only [Bool.and_eq_true, decide_eq_true_eq] at hp
    rw [hr.messages] at hmem
    exact absurd hp.2 (hnew _ hmem)
  · obtain ⟨hsto, huid, hmws, hdir, -⟩ := storeOutbound_ok hs
    have hmem : r.message ∈ db'.messages := by
      rw [hsto.messages]
      exact List.mem_append_right _ (List.mem_singleton_self _)
    refine ⟨hmem, huid, hmws.trans hr.workspace, hdir, ?_⟩
    rw [hsto.chat]
    unfold ChatFor at hfor ⊢
    rw [href.1] at hfor
    split
    · rename_i hid
      rwa [if_pos hid] at hfor
    · rename_i hid
      rw [if_neg hid] at hfor
      obtain ⟨contact, hhas⟩ := hfor
      refine ⟨contact, ?_⟩
      have hkeys : db'.chats.map chatKey = db₁.chats.map chatKey := storeOutbound_keys hs
      unfold HasChat at hhas ⊢
      rw [hkeys]
      exact hhas

end ChatFor

/-! ## What an outbound turn must find -/

section Outbound

variable {env : ActEnv} {db : ChatDB} {ws conn : UUID} {turn : OutboundTurn}

/-- The chat of a recipient on a WhatsApp Cloud connection: the connection's, else one that is bound to none and
that a turn would bind to it. -/
def recipientChat (db : ChatDB) (ws conn : UUID) (address : String) : Option ChatState :=
  let contact := lookupContactIDByAddress db ws "whatsapp_cloud" address
  if contact = UUID.Nil then none else findChat db ws contact (some conn)

def WindowOpen (db : ChatDB) (ws conn : UUID) (address : String) (at_ : Time) : Prop :=
  ∃ c exp, recipientChat db ws conn address = some c ∧ c.serviceWindowExpiresAt = some exp ∧ at_ < exp

/-- The stored chat that a reference stands for. -/
def refChat (db : ChatDB) (ws : UUID) (ref : ChatRef) : Option ChatState :=
  if ref.id ≠ UUID.Nil then db.chats.find? fun c => c.workspaceID = ws && c.id = ref.id
  else if refContact db ws ref = UUID.Nil then none
  else findChat db ws (refContact db ws ref) (refConnection db ref)

theorem adoptChat_own {ref : ChatRef} {row : ChatState} :
    (adoptChat db ref row).1.serviceWindowExpiresAt = row.serviceWindowExpiresAt := by
  cases hr : refConnection db ref <;> cases hc : row.connectionID <;> simp only [adoptChat, scanChatState, hr, hc]

theorem resolveAndLockChat_found {ref : ChatRef} {st : ChatState} {db' : ChatDB}
    (h : resolveAndLockChat db env ws ref false = .ok (st, db')) :
    ∃ c, refChat db ws ref = some c ∧ st.serviceWindowExpiresAt = c.serviceWindowExpiresAt := by
  simp only [resolveAndLockChat] at h
  unfold refChat
  split at h
  · cases h
  · split at h
    · rename_i hid
      rw [if_pos hid]
      split at h
      · cases h
      · rename_i row hfind
        cases h
        exact ⟨row, hfind, rfl⟩
    · rename_i hid
      rw [if_neg hid]
      split at h
      · cases h
      · rename_i hne
        rw [if_neg hne]
        split at h
        · rename_i row hfind
          exact ⟨row, hfind, (congrArg (·.1.serviceWindowExpiresAt) (Except.ok.inj h)).symm.trans adoptChat_own⟩
        · simp at h

theorem requireOpenWindow_cloud {state : ChatState} {exists_ : Bool} {at_ : Time} {msgType : String}
    (hc : state.channel = "whatsapp_cloud") (htype : equalFold (trimSpace msgType) "template" = false)
    (h : requireOpenWindow (window state exists_ at_) msgType = true) :
    exists_ = true ∧ ∃ exp, state.serviceWindowExpiresAt = some exp ∧ at_ < exp := by
  have hlower : toLower (trimSpace "whatsapp_cloud") = "whatsapp_cloud" := by decide +kernel
  have hfold : equalFold "whatsapp_cloud" "whatsapp_cloud" = true := by decide +kernel
  have hw : (window state exists_ at_).channel = "whatsapp_cloud" ∧
      ((window state exists_ at_).isOpen = true →
        exists_ = true ∧ ∃ exp, state.serviceWindowExpiresAt = some exp ∧ at_ < exp) := by
    unfold window
    simp only [hc, hlower, ne_eq, not_true_eq_false, and_false, if_false]
    cases exists_ with
    | false => exact ⟨rfl, fun h => by cases h⟩
    | true =>
      cases hexp : state.serviceWindowExpiresAt with
      | none => exact ⟨rfl, fun h => by cases h⟩
      | some exp =>
        simp only
        split
        · rename_i hlt
          exact ⟨rfl, fun _ => ⟨trivial, exp, rfl, hlt⟩⟩
        · exact ⟨rfl, fun h => by cases h⟩
  apply hw.2
  simpa only [requireOpenWindow, hw.1, hfold, htype, Bool.not_true, Bool.false_eq_true, and_false, if_false] using h

theorem outbound_window {ref : ChatRef} {out : OutboundReceipt × ChatDB} (h : outbound db env ws turn = .ok out)
    (hchat : turn.chat = ref.withChannel "whatsapp_cloud") (hch : turn.channel = "whatsapp_cloud")
    (htype : equalFold (trimSpace (gateType turn)) "template" = false)
    (hnew : loadMessageByUID db ws (trimSpace turn.uid) = none) :
    ∃ c exp, refChat db ws (ref.withChannel "whatsapp_cloud") = some c ∧ c.serviceWindowExpiresAt = some exp ∧
      atOf env.apply turn.at_ < exp := by
  have htrim : trimSpace "whatsapp_cloud" = "whatsapp_cloud" := by decide +kernel
  have href : refOf turn.chat turn.channel = ref.withChannel "whatsapp_cloud" := by
    rw [hchat]
    simp [refOf, ChatRef.withChannel, htrim]
  have hchannel : turnChannel db (refOf turn.chat turn.channel) turn = "whatsapp_cloud" := by
    simp [turnChannel, hch, htrim]
  simp only [outbound, href] at h
  rw [href] at hchannel
  split at h
  · cases h
  · split at h
    · cases h
    · split at h
      · cases h
      · cases hres : resolveAndLockChat db env ws (ref.withChannel "whatsapp_cloud") false with
        | ok x =>
          obtain ⟨st, db'⟩ := x
          obtain ⟨c, hc, hexp⟩ := resolveAndLockChat_found hres
          have hr := resolveAndLockChat_ok hres
          have hload : loadMessageByUID db' st.workspaceID (trimSpace turn.uid) = none := by
            rw [hr.workspace, loadMessageByUID_congr hr.messages]
            exact hnew
          have hcloud : ("whatsapp_cloud" : String) ≠ "" := by decide
          simp only [hres, hchannel, if_neg hcloud, hload] at h
          split at h
          · rename_i hopen
            obtain ⟨-, exp, he, hlt⟩ := requireOpenWindow_cloud rfl htype hopen
            exact ⟨c, exp, hc, hexp.symm.trans he, hlt⟩
          · cases h
        | error err =>
          cases err with
          | chatNotFound =>
            simp only [hres, hchannel] at h
            split at h
            · cases h
            · rename_i hopen
              -- no chat is a closed window
              have hopen' := by simpa using hopen
              obtain ⟨hfalse, -⟩ := requireOpenWindow_cloud rfl htype hopen'
              cases hfalse
          | _ =>
            simp only [hres] at h
            cases h

end Outbound

end PerGo.L3.Recorder
