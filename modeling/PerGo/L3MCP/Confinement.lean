import PerGo.L3MCP.Handlers

/-!
# Which calls stay inside one workspace

`confined c W t` is a condition on a call of tool `t`: what its arguments name
is of workspace `W`, as far as the handler does not check that itself.

* A handler that takes `workspace_id` as it is needs the argument to be `W`.
* A handler that compares it with the tenant needs nothing when the tenant is
  `W`.
* A handler that may do without a workspace needs the chat or the message it
  names to be of `W` when the request has no tenant and the argument is absent.
* Rows named by their id alone (connections, subscriptions, dead letters,
  templates) have to be of `W` in all three, and so has the subscription of the
  dead letter.
* A handler that goes on to the connection of a chat needs the chats of `W` to
  have connections of `W`, and these to have templates of `W`.

`handler_within`: such a call touches rows of `W` only.
-/
namespace PerGo.L3.MCP

open PerGo.Core PerGo.Core.Access PerGo.L1 PerGo.L2

/-- How a handler comes to its workspace. -/
inductive Scoping
  | unbound
  | everyWorkspace
  | newWorkspace
  | argument
  | tenant
  | optional

def ToolName.scoping : ToolName → Scoping
  | .inspect_queue_health => .unbound
  | .list_workspaces => .everyWorkspace
  | .create_workspace => .newWorkspace
  | .get_workspace | .create_connection | .get_connection_status | .get_connection_qr_code
  | .disconnect_connection | .diagnose_connection_health | .list_connections | .search_contacts
  | .send_message | .get_audit_logs | .create_webhook_subscription | .list_webhook_subscriptions
  | .delete_webhook_subscription | .rotate_webhook_secret | .test_ping_webhook | .generate_admin_sso_url
  | .simulate_webhook_event | .replay_webhook_dlq => .argument
  | .chat_create_draft_note | .message_react | .waba_message_react | .chat_summarize | .chat_send_message
  | .message_details | .waba_message_details | .whatsapp_account_send_message | .message_reply => .optional
  | _ => .tenant

def ToolName.reachesConnection : ToolName → Bool
  | .chat_details | .waba_chat_details | .waba_chat_send_message | .waba_chat_send_template | .waba_start_chat
  | .chat_send_message | .whatsapp_account_send_message | .message_reply => true
  | _ => false

section Condition

variable (c : Call) (W : UUID)

def Call.ids (key : String) : List UUID :=
  ((c.args key).bind c.parseUUID).toList ++ ((c.args key).bind fun s => c.parseUUID (trimSpace s)).toList

/-- The rows named by id alone are of `W`. -/
def ownIDs : Bool :=
  (c.rows.connections.all fun r => r.id ∉ c.ids "connection_id" || r.workspaceID = W) &&
  (c.rows.subscriptions.all fun r => r.id ∉ c.ids "subscription_id" || r.workspaceID = W) &&
  (c.rows.dlq.all fun r => r.id ∉ c.ids "dlq_id" || (r.workspaceID = W &&
    c.rows.subscriptions.all fun s => s.id ≠ r.subscriptionID || s.workspaceID = W)) &&
  (c.rows.templates.all fun r =>
    (r.id ∉ c.ids "template_id" && r.connectionID ∉ c.ids "connection_id") || r.workspaceID = W)

/-- The message named is of `W`. -/
def ownMessage : Bool := c.rows.messages.all fun r => r.uid ≠ c.trimmed "message_uid" || r.workspaceID = W

/-- The chat and the message named are of `W`. -/
def ownChat : Bool := (c.rows.chats.all fun r => r.id ∉ c.ids "chat_id" || r.workspaceID = W) && ownMessage c W

/-- The argument is absent, no id, or `W`. -/
def ownArgument : Bool := c.trimmed "workspace_id" = "" || (c.parseUUID (c.trimmed "workspace_id")).all (· = W)

/-- The tenant is `W`, or there is none and the argument is not another workspace. -/
def ownTenant : Bool := tenantID c.ctx = some W || ownArgument c W

/-- The connections of the chats of `W` are of `W`, and so are the templates of its connections. -/
def ownReferences : Bool :=
  (c.rows.chats.all fun r => r.workspaceID ≠ W ||
    c.rows.connections.all fun k => r.connectionID ≠ some k.id || k.workspaceID = W) &&
  (c.rows.connections.all fun k => k.workspaceID ≠ W ||
    c.rows.templates.all fun t => t.connectionID ≠ k.id || t.workspaceID = W)

def confined (t : ToolName) : Bool :=
  match t.scoping with
  | .unbound => true
  | .everyWorkspace => (c.rows.workspaces.take 100).all (· = W)
  | .newWorkspace => c.trimmed "name" = ""
  | .argument => ((c.args "workspace_id").bind c.parseUUID).all (· = W) && ownIDs c W
  | .tenant => ownTenant c W && ownIDs c W && (!t.reachesConnection || ownReferences c W)
  | .optional => ownTenant c W && ownIDs c W && (!t.reachesConnection || ownReferences c W) &&
      (tenantID c.ctx = some W || c.trimmed "workspace_id" ≠ "" || ownChat c W) &&
      ((t ≠ .message_details && t ≠ .waba_message_details) || ownMessage c W)

end Condition

/-- The context is for no workspace or for `W`. -/
structure Bound (ctx : Ctx) (W : UUID) : Prop where
  agree : authWorkspace ctx = tenantID ctx
  only : ∀ ws, tenantID ctx = some ws → ws = W

/-- Neither the request nor the argument settles the workspace. -/
def Unscoped (c : Call) (ws : UUID) : Prop := ws = UUID.Nil ∧ tenantID c.ctx = none

/-! ## Arguments and rows -/

/-- What the handler reads and writes is of `W`. -/
abbrev StaysIn {α : Type} (W : UUID) (t : Tool α) : Prop := Within (· = W) t fun _ => True

section Rules

variable {c : Call} {W : UUID}

theorem requireString_within {P : UUID → Prop} {key message : String} :
    Within P (c.requireString key message) fun s => c.args key = some s := Within.orFail

theorem requireText_within {P : UUID → Prop} {key message : String} :
    Within P (c.requireText key message) fun _ => c.trimmed key ≠ "" := by
  refine Within.bind requireString_within fun s hs => Within.mono Within.require fun _ h => ?_
  simpa [Call.trimmed, Call.getString, hs] using h

theorem requireID_within {P : UUID → Prop} {key missing invalid : String} :
    Within P (c.requireID key missing invalid) fun id => (c.args key).bind c.parseUUID = some id := by
  refine Within.bind requireString_within fun s hs => Within.mono Within.orFail fun id h => ?_
  rw [hs]
  exact h

theorem failWith_within {P : UUID → Prop} {o : Option String} : Within P (failWith o) fun _ => True := by
  cases o with
  | none => exact Within.pure trivial
  | some e => exact Within.fail

theorem finish_within {P : UUID → Prop} : Within P c.finish fun _ => True := failWith_within

theorem checked_within {P : UUID → Prop} : Within P c.checked fun _ => True := failWith_within

theorem rowsOf_within {ws : UUID} (h : ws = W) : StaysIn W (c.rowsOf ws) := by
  refine Within.ite (fun _ => Within.touch h) fun _ => Within.pure trivial

theorem getWorkspace_within {ws : UUID} {message : String} (h : ws = W) :
    StaysIn W (c.getWorkspace ws message) :=
  Within.ite (fun _ => Within.touch h) fun _ => Within.fail

theorem find?_own {ρ : Type} {p : ρ → Bool} {l : List ρ} {owner : ρ → UUID}
    (h : ∀ r ∈ l, p r = true → owner r = W) (r : ρ) (hr : l.find? p = some r) : owner r = W :=
  h r (List.mem_of_find?_eq_some hr) (List.find?_some hr)

theorem getConnection_within {id : UUID} (h : ∀ r ∈ c.rows.connections, r.id = id → r.workspaceID = W) :
    Within (· = W) (c.getConnection id) fun o => ∀ r, o = some r → r ∈ c.rows.connections ∧ r.id = id := by
  refine Within.mono (Within.fetch (find?_own fun r hr he => h r hr (by simpa using he))) fun o ho r hr => ?_
  rw [ho] at hr
  exact ⟨List.mem_of_find?_eq_some hr, by simpa using List.find?_some hr⟩

theorem getSubscription_within {id : UUID} (h : ∀ r ∈ c.rows.subscriptions, r.id = id → r.workspaceID = W) :
    StaysIn W (c.getSubscription id) :=
  Within.mono (Within.fetch (find?_own fun r hr he => h r hr (by simpa using he))) fun _ _ => trivial

theorem mem_ids_of_trimmed {key : String} {id : UUID} (hne : c.trimmed key ≠ "")
    (h : c.parseUUID (c.trimmed key) = some id) : id ∈ c.ids key := by
  cases hk : c.args key with
  | none =>
    have : c.trimmed key = "" := by simp [Call.trimmed, Call.getString, hk, trimSpace]
    exact absurd this hne
  | some s =>
    have hs : c.parseUUID (trimSpace s) = some id := by simpa [Call.trimmed, Call.getString, hk] using h
    simp [Call.ids, hk, hs]

theorem mem_ids_of_arg {key : String} {id : UUID} (h : (c.args key).bind c.parseUUID = some id) :
    id ∈ c.ids key := by simp [Call.ids, h]

theorem mem_ids_of_trim {key s : String} {id : UUID} (hs : c.args key = some s)
    (h : c.parseUUID (trimSpace s) = some id) : id ∈ c.ids key := by simp [Call.ids, hs, h]

end Rules

/-- What `ownIDs` says of each table. -/
structure OwnIDs (c : Call) (W : UUID) : Prop where
  connection : ∀ id ∈ c.ids "connection_id", ∀ r ∈ c.rows.connections, r.id = id → r.workspaceID = W
  subscription : ∀ id ∈ c.ids "subscription_id", ∀ r ∈ c.rows.subscriptions, r.id = id → r.workspaceID = W
  dlq : ∀ id ∈ c.ids "dlq_id", ∀ r ∈ c.rows.dlq, r.id = id →
    r.workspaceID = W ∧ ∀ s ∈ c.rows.subscriptions, s.id = r.subscriptionID → s.workspaceID = W
  template : ∀ id ∈ c.ids "template_id", ∀ r ∈ c.rows.templates, r.id = id → r.workspaceID = W
  byConnection : ∀ id ∈ c.ids "connection_id", ∀ r ∈ c.rows.templates, r.connectionID = id → r.workspaceID = W

theorem OwnIDs.of_ownIDs {c : Call} {W : UUID} (h : ownIDs c W = true) : OwnIDs c W := by
  simp only [ownIDs, Bool.and_eq_true, List.all_eq_true, Bool.or_eq_true, decide_eq_true_eq] at h
  obtain ⟨⟨⟨hc, hs⟩, hd⟩, ht⟩ := h
  refine ⟨?_, ?_, ?_, ?_, ?_⟩
  · rintro id hid r hr rfl
    exact (hc r hr).resolve_left fun h => h hid
  · rintro id hid r hr rfl
    exact (hs r hr).resolve_left fun h => h hid
  · rintro id hid r hr rfl
    have hown := (hd r hr).resolve_left fun h => h hid
    exact ⟨hown.1, fun s hs he => (hown.2 s hs).resolve_left fun h => h he⟩
  · rintro id hid r hr rfl
    exact (ht r hr).resolve_left fun h => h.1 hid
  · rintro id hid r hr rfl
    exact (ht r hr).resolve_left fun h => h.2 hid

/-- What `ownReferences` says. -/
structure OwnReferences (c : Call) (W : UUID) : Prop where
  chat : ∀ r ∈ c.rows.chats, r.workspaceID = W → ∀ k ∈ c.rows.connections, r.connectionID = some k.id →
    k.workspaceID = W
  template : ∀ k ∈ c.rows.connections, k.workspaceID = W → ∀ t ∈ c.rows.templates, t.connectionID = k.id →
    t.workspaceID = W

theorem OwnReferences.of_reaches {c : Call} {W : UUID} {t : ToolName}
    (h : (!t.reachesConnection || ownReferences c W) = true) (ht : t.reachesConnection = true) :
    OwnReferences c W := by
  rw [ht] at h
  simp only [ownReferences, Bool.not_true, Bool.false_or, Bool.and_eq_true, List.all_eq_true, Bool.or_eq_true,
    decide_eq_true_eq] at h
  exact ⟨fun r hr hw k hk he => ((h.1 r hr).resolve_left (· hw) k hk).resolve_left (· he),
    fun k hk hw t ht he => ((h.2 k hk).resolve_left (· hw) t ht).resolve_left (· he)⟩

/-! ## The workspace of a call -/

section Workspace

variable {c : Call} {W : UUID}

theorem requireWorkspaceID_within {P : UUID → Prop} (h : ((c.args "workspace_id").bind c.parseUUID).all (· = W)) :
    Within P (requireWorkspaceID c) fun ws => ws = W := by
  refine Within.mono requireID_within fun ws hws => ?_
  rw [hws] at h
  simpa using h

theorem resolveWorkspaceID_within {P : UUID → Prop} (hb : Bound c.ctx W) (h : ownTenant c W = true) :
    Within P (resolveWorkspaceID c) fun ws => ws = W := by
  simp only [ownTenant, ownArgument, Bool.or_eq_true, decide_eq_true_eq] at h
  unfold resolveWorkspaceID
  have hws : Within P
      (if c.trimmed "workspace_id" ≠ "" then
        Access.orFail (c.parseUUID (c.trimmed "workspace_id")) "invalid workspace_id: must be a valid UUID"
      else Access.orFail (tenantID c.ctx) "missing workspace_id parameter")
      fun ws => tenantID c.ctx = some W ∨ ws = W := by
    refine Within.ite (fun hne => ?_) fun _ => ?_
    · refine Within.mono Within.orFail fun ws hp => ?_
      rcases h with h | h | h
      · exact Or.inl h
      · exact absurd h hne
      · rw [hp] at h
        exact Or.inr (by simpa using h)
    · refine Within.mono Within.orFail fun ws ht => ?_
      exact Or.inr (hb.only ws ht)
  refine Within.bind hws fun ws hor => Within.bind Within.require fun _ hall => Within.pure ?_
  rcases hor with ht | rfl
  · rw [ht] at hall
    have : W = ws := by simpa using hall
    exact this.symm
  · rfl

theorem resolveWorkspaceIDOptional_within {P : UUID → Prop} (hb : Bound c.ctx W) (h : ownTenant c W = true)
    (hW : W ≠ UUID.Nil) :
    Within P (resolveWorkspaceIDOptional c) fun ws =>
      (ws = W ∨ ws = UUID.Nil) ∧ (Unscoped c ws → c.trimmed "workspace_id" = "") := by
  simp only [ownTenant, ownArgument, Bool.or_eq_true, decide_eq_true_eq] at h
  unfold resolveWorkspaceIDOptional
  have hws : Within P
      (if c.trimmed "workspace_id" ≠ "" then
        Access.orFail (c.parseUUID (c.trimmed "workspace_id")) "invalid workspace_id: must be a valid UUID"
      else pure ((tenantID c.ctx).getD UUID.Nil))
      fun ws => (tenantID c.ctx = some W ∨ ws = W ∨ ws = UUID.Nil) ∧
        (Unscoped c ws → c.trimmed "workspace_id" = "") := by
    refine Within.ite (fun hne => ?_) fun he => ?_
    · refine Within.mono Within.orFail fun ws hp => ?_
      rcases h with h | h | h
      · exact ⟨Or.inl h, fun hu => by rw [hu.2] at h; cases h⟩
      · exact absurd h hne
      · rw [hp] at h
        have hwsW : ws = W := by simpa using h
        exact ⟨Or.inr (Or.inl hwsW), fun hu => absurd (hwsW.symm.trans hu.1) hW⟩
    · refine Within.pure ⟨?_, fun _ => not_not.mp he⟩
      cases ht : tenantID c.ctx with
      | none => exact Or.inr (Or.inr rfl)
      | some ws => exact Or.inr (Or.inl (hb.only ws ht))
  refine Within.bind hws fun ws hor => Within.bind Within.require fun _ hall => Within.pure ⟨?_, hor.2⟩
  simp only [Bool.or_eq_true, decide_eq_true_eq] at hall
  rcases hall with hnil | hall
  · exact Or.inr hnil
  · rcases hor.1 with ht | hor
    · rw [ht] at hall
      have : W = ws := by simpa using hall
      exact Or.inl this.symm
    · exact hor

/-- The scope check turns a call for `W`, or for no workspace, into one for `W` unless nothing settles it. -/
theorem enforceScope_bound {ws ws' : UUID} (hb : Bound c.ctx W) (hws : ws = W ∨ ws = UUID.Nil)
    (h : enforceScope c.ctx ws = .ok ws') : ws' = W ∨ (ws' = UUID.Nil ∧ Unscoped c ws) := by
  unfold enforceScope at h
  rw [hb.agree] at h
  cases ht : tenantID c.ctx with
  | none =>
    rw [ht] at h
    cases h
    rcases hws with hws | hws
    · exact Or.inl hws
    · exact Or.inr ⟨hws, hws, ht⟩
  | some a =>
    rw [ht] at h
    have ha := hb.only a ht
    simp only at h
    split at h
    · cases h
    · cases h
      exact Or.inl ha

end Workspace

/-! ## Chats and messages -/

section Chats

variable {c : Call} {W : UUID}

/-- A chat of `W`. -/
def OwnChat (c : Call) (W : UUID) (chat : ChatRow) : Prop := chat ∈ c.rows.chats ∧ chat.workspaceID = W

theorem OwnChat.connection {chat : ChatRow} (h : OwnChat c W chat) (href : OwnReferences c W) {id : UUID}
    (hid : chat.connectionID = some id) : ∀ r ∈ c.rows.connections, r.id = id → r.workspaceID = W := by
  rintro r hr rfl
  exact href.chat chat h.1 h.2 r hr hid

theorem orFail_chat {p : ChatRow → Bool} {P : UUID → Prop} {e : String} {chat : Option ChatRow}
    (hchat : chat = c.rows.chats.find? p) (h : ∀ r ∈ c.rows.chats, p r = true → r.workspaceID = W) :
    Within P (Access.orFail chat e) (OwnChat c W) := by
  refine Within.mono Within.orFail fun r hr => ?_
  rw [hchat] at hr
  exact ⟨List.mem_of_find?_eq_some hr, find?_own h r hr⟩

theorem getChat_within {ws id : UUID} (hws : ws = W) : Within (· = W) (getChat c ws id) (OwnChat c W) := by
  have h : ∀ r ∈ c.rows.chats, (decide (r.workspaceID = ws) && decide (r.id = id)) = true → r.workspaceID = W := by
    intro r _ hr
    simp only [Bool.and_eq_true, decide_eq_true_eq] at hr
    exact hr.1.trans hws
  refine Within.bind Within.require fun _ _ => ?_
  exact Within.bind (Within.fetch (find?_own h)) fun chat hchat => orFail_chat hchat h

theorem getChatByID_within {id : UUID} (h : ∀ r ∈ c.rows.chats, r.id = id → r.workspaceID = W) :
    Within (· = W) (getChatByID c id) (OwnChat c W) := by
  have h : ∀ r ∈ c.rows.chats, decide (r.id = id) = true → r.workspaceID = W :=
    fun r hr he => h r hr (by simpa using he)
  refine Within.bind Within.require fun _ _ => ?_
  exact Within.bind (Within.fetch (find?_own h)) fun chat hchat => orFail_chat hchat h

theorem getChatMessageByUID_within {ws : UUID} {uid : String} (hws : ws = W) :
    Within (· = W) (getChatMessageByUID c ws uid) fun o => ∀ m, o = some m → m.workspaceID = W := by
  have h : ∀ r ∈ c.rows.messages, (decide (r.workspaceID = ws) && decide (r.uid = uid)) = true →
      r.workspaceID = W := by
    intro r _ hr
    simp only [Bool.and_eq_true, decide_eq_true_eq] at hr
    exact hr.1.trans hws
  refine Within.ite (fun _ => Within.pure fun m hm => by cases hm) fun _ => ?_
  refine Within.mono (Within.fetch (find?_own h)) fun o ho m hm => ?_
  rw [ho] at hm
  exact find?_own h m hm

theorem findMessageByUID_within {uid : String} (h : ∀ r ∈ c.rows.messages, r.uid = uid → r.workspaceID = W) :
    Within (· = W) (findMessageByUID c uid) fun o => ∀ m, o = some m → m.workspaceID = W := by
  have h : ∀ r ∈ c.rows.messages, decide (r.uid = uid) = true → r.workspaceID = W :=
    fun r hr he => h r hr (by simpa using he)
  refine Within.ite (fun _ => Within.pure fun m hm => by cases hm) fun _ => ?_
  refine Within.mono (Within.fetch (find?_own h)) fun o ho m hm => ?_
  rw [ho] at hm
  exact find?_own h m hm

theorem checkScope_within {P : UUID → Prop} {ws : UUID} {message : String} :
    Within P (checkScope c ws message) fun _ => True := by
  unfold checkScope
  split
  · exact Within.fail
  · exact Within.pure trivial

/-- What a reference names is of `W`, as far as the lookup is over all workspaces. -/
structure OwnRef (c : Call) (W ws : UUID) (ref : ChatRef) : Prop where
  workspace : ws = W ∨ ws = UUID.Nil
  chat : Unscoped c ws → ∀ r ∈ c.rows.chats, r.id = ref.chatID → r.workspaceID = W
  message : Unscoped c ws → ref.chatID = UUID.Nil → trimSpace ref.messageUID ≠ "" →
    ∀ r ∈ c.rows.messages, r.uid = trimSpace ref.messageUID → r.workspaceID = W

theorem resolveByID_within {ws id : UUID} (hW : W ≠ UUID.Nil)
    (h : ws = W ∨ (ws = UUID.Nil ∧ ∀ r ∈ c.rows.chats, r.id = id → r.workspaceID = W)) :
    Within (· = W) (resolveByID c ws id) (OwnChat c W) := by
  refine Within.ite (fun hnil => ?_) fun hne => ?_
  · rcases h with h | ⟨_, hrows⟩
    · exact absurd (h.symm.trans hnil) hW
    · refine Within.bind (getChatByID_within hrows) fun chat hchat => ?_
      exact Within.bind checkScope_within fun _ _ => Within.pure hchat
  · exact getChat_within (h.resolve_right fun h => hne h.1)

theorem resolveByMessage_within {ws : UUID} {uid : String} (hW : W ≠ UUID.Nil)
    (h : ws = W ∨ (ws = UUID.Nil ∧ ∀ r ∈ c.rows.messages, r.uid = uid → r.workspaceID = W)) :
    Within (· = W) (resolveByMessage c ws uid) (OwnChat c W) := by
  have hmsg : Within (· = W)
      (if ws ≠ UUID.Nil then getChatMessageByUID c ws uid else findMessageByUID c uid)
      fun o => ∀ m, o = some m → m.workspaceID = W := by
    refine Within.ite (fun hne => ?_) fun hnil => ?_
    · exact getChatMessageByUID_within (h.resolve_right fun h => hne h.1)
    · rcases h with h | ⟨_, hrows⟩
      · exact absurd (h.symm.trans (not_not.mp hnil)) hW
      · exact findMessageByUID_within hrows
  refine Within.bind hmsg fun o ho => ?_
  have hm : Within (· = W) (Access.orFail (o.filter (·.chatID ≠ UUID.Nil)) errChatNotFound)
      fun m => m.workspaceID = W :=
    Within.mono Within.orFail fun m hm => ho m (Option.eq_some_of_filter_eq_some hm)
  refine Within.bind hm fun m hm => ?_
  refine Within.bind Within.require fun _ _ => ?_
  exact Within.bind checkScope_within fun _ _ => getChat_within hm

theorem resolveByPhone_within {ws : UUID} {phone : String} {connectionID : Option UUID} (h : ws = W) :
    Within (· = W) (resolveByPhone c ws phone connectionID) (OwnChat c W) := by
  refine Within.bind (rowsOf_within h) fun _ _ => orFail_chat rfl fun r _ hr => ?_
  simp only [Bool.and_eq_true, decide_eq_true_eq] at hr
  exact hr.1.1.trans h

theorem resolveChat_within {ws : UUID} {ref : ChatRef} (hb : Bound c.ctx W) (hW : W ≠ UUID.Nil)
    (h : OwnRef c W ws ref) : Within (· = W) (resolveChat c ws ref) (OwnChat c W) := by
  unfold resolveChat
  split
  · exact Within.fail
  · rename_i ws' hscope
    have hws' := enforceScope_bound hb h.workspace hscope
    refine Within.ite (fun _ => ?_) fun hid => Within.ite (fun huid => ?_) fun _ => ?_
    · exact resolveByID_within hW (hws'.imp_right fun hu => ⟨hu.1, h.chat hu.2⟩)
    · exact resolveByMessage_within hW (hws'.imp_right fun hu => ⟨hu.1, h.message hu.2 (not_not.mp hid) huid⟩)
    · refine Within.ite (fun hphone => ?_) fun _ => Within.fail
      exact resolveByPhone_within (hws'.resolve_right fun hu => hphone.2 hu.1)

theorem get_within {ws : UUID} {ref : ChatRef} (hb : Bound c.ctx W) (hW : W ≠ UUID.Nil) (hr : OwnReferences c W)
    (h : OwnRef c W ws ref) : StaysIn W (get c ws ref) := by
  refine Within.bind (resolveChat_within hb hW h) fun chat hchat => ?_
  refine Within.bind (rowsOf_within hchat.2) fun _ _ => ?_
  cases hconn : chat.connectionID with
  | none => exact Within.pure trivial
  | some id => exact Within.bind (getConnection_within (hchat.connection hr hconn)) fun _ _ => Within.pure trivial

theorem onChat_within {ws : UUID} {ref : ChatRef} (hb : Bound c.ctx W) (hW : W ≠ UUID.Nil) (h : OwnRef c W ws ref) :
    StaysIn W (onChat c ws ref) := by
  refine Within.bind (resolveChat_within hb hW h) fun chat hchat => ?_
  exact Within.bind (rowsOf_within hchat.2) fun _ _ => Within.pure trivial

theorem getMessage_within {ws : UUID} {uid : String} (hb : Bound c.ctx W) (hW : W ≠ UUID.Nil)
    (hws : ws = W) (h : ∀ r ∈ c.rows.messages, r.uid = trimSpace uid → r.workspaceID = W) :
    StaysIn W (getMessage c ws uid) := by
  unfold getMessage
  split
  · exact Within.fail
  · rename_i ws' hscope
    have hws' : ws' = W :=
      (enforceScope_bound hb (Or.inl hws) hscope).resolve_right fun hu => hW (hws.symm.trans hu.2.1)
    refine Within.bind Within.require fun _ _ => ?_
    refine Within.bind (getChatMessageByUID_within hws') fun o ho => ?_
    refine Within.bind (show Within (· = W) _ fun o => ∀ m, o = some m → m.workspaceID = W from ?_) fun o ho => ?_
    · cases o with
      | some m => exact Within.pure ho
      | none =>
        refine Within.bind (findMessageByUID_within h) fun o ho => Within.pure fun m hm => ?_
        exact ho m (Option.eq_some_of_filter_eq_some hm)
    refine Within.bind (Within.mono Within.orFail fun m hm => ho m hm) fun m hm => ?_
    refine Within.bind checkScope_within fun _ _ => ?_
    refine Within.bind (Within.attempt (getChat_within hm)) fun _ _ => ?_
    exact Within.bind (rowsOf_within hm) fun _ _ => Within.pure trivial

theorem createNote_within {ws id : UUID} (hb : Bound c.ctx W) (hW : W ≠ UUID.Nil) (h : OwnRef c W ws (.byID id)) :
    StaysIn W (createNote c ws id) := by
  unfold createNote
  split
  · exact Within.fail
  · rename_i ws' hscope
    have hws' := enforceScope_bound hb h.workspace hscope
    refine Within.bind Within.require fun _ _ => ?_
    have hchat : Within (· = W) (if ws' ≠ UUID.Nil then getChat c ws' id else getChatByID c id) (OwnChat c W) := by
      refine Within.ite (fun hne => ?_) fun hnil => ?_
      · exact getChat_within (hws'.resolve_right fun hu => hne hu.1)
      · rcases hws' with rfl | hu
        · exact absurd (not_not.mp hnil) hW
        · exact getChatByID_within (h.chat hu.2)
    refine Within.bind hchat fun chat hchat => ?_
    refine Within.bind (rowsOf_within hchat.2) fun _ _ => ?_
    refine Within.bind checkScope_within fun _ _ => rowsOf_within ?_
    split
    · exact hchat.2
    · rename_i hne
      exact hws'.resolve_right fun hu => hne hu.1

theorem react_within {ws : UUID} {uid : String} (hb : Bound c.ctx W) (hW : W ≠ UUID.Nil)
    (hws : ws = W ∨ ws = UUID.Nil)
    (h : Unscoped c ws → ∀ r ∈ c.rows.messages, r.uid = uid → r.workspaceID = W) :
    StaysIn W (react c ws uid) := by
  unfold react
  split
  · exact Within.fail
  · rename_i ws' hscope
    have hws' := enforceScope_bound hb hws hscope
    have hfound : Within (· = W)
        (if ws' = UUID.Nil then do
          let msg ← findMessageByUID c uid
          let msg ← Access.orFail msg errMessageNotFound
          pure msg.workspaceID
        else pure ws') fun ws => ws = W := by
      refine Within.ite (fun hnil => ?_) fun hne => ?_
      · rcases hws' with rfl | hu
        · exact absurd hnil hW
        · refine Within.bind (findMessageByUID_within (h hu.2)) fun o ho => ?_
          refine Within.bind (Within.mono Within.orFail fun m hm => ho m hm) fun m hm => Within.pure hm
      · exact Within.pure (hws'.resolve_right fun hu => hne hu.1)
    refine Within.bind hfound fun ws hws => ?_
    refine Within.bind checkScope_within fun _ _ => ?_
    refine Within.bind (getChatMessageByUID_within hws) fun o _ => ?_
    exact Within.bind Within.orFail fun _ _ => rowsOf_within hws

theorem dispatchFrom_within {ws : UUID} {connectionID : Option UUID} (hws : ws = W)
    (h : ∀ id, connectionID = some id → ∀ r ∈ c.rows.connections, r.id = id → r.workspaceID = W) :
    StaysIn W (dispatchFrom c ws connectionID) := by
  unfold dispatchFrom
  split
  · rename_i id hid
    have hid := Option.eq_some_of_filter_eq_some hid
    refine Within.bind (getConnection_within (h id hid)) fun _ _ => ?_
    exact Within.bind (rowsOf_within hws) fun _ _ => finish_within
  · exact Within.bind (rowsOf_within hws) fun _ _ => finish_within

theorem sendMessage_within {ws : UUID} {ref : ChatRef} {connectionID : Option UUID} (hb : Bound c.ctx W)
    (hW : W ≠ UUID.Nil) (href : OwnReferences c W) (h : OwnRef c W ws ref)
    (hconn : ∀ id, connectionID = some id → ∀ r ∈ c.rows.connections, r.id = id → r.workspaceID = W) :
    StaysIn W (sendMessage c ws ref connectionID) := by
  refine Within.bind (Within.attempt (resolveChat_within hb hW h)) fun chat hchat => ?_
  split
  · rename_i chat
    have hchat := hchat chat rfl
    refine dispatchFrom_within hchat.2 fun id hid => ?_
    cases hf : connectionID.filter (· ≠ UUID.Nil) with
    | some id' =>
      rw [hf] at hid
      cases hid
      exact hconn id (Option.eq_some_of_filter_eq_some hf)
    | none =>
      rw [hf] at hid
      exact hchat.connection href hid
  · refine Within.ite (fun _ => Within.fail) fun _ => ?_
    split
    · exact Within.fail
    · rename_i ws' hscope
      refine Within.bind Within.require fun _ hne => ?_
      have hne : ws' ≠ UUID.Nil := by simpa using hne
      exact dispatchFrom_within ((enforceScope_bound hb h.workspace hscope).resolve_right fun hu => hne hu.1) hconn

end Chats

/-! ## The handlers that take the argument as it is -/

section ByArgument

variable {c : Call} {W : UUID} (hws : ((c.args "workspace_id").bind c.parseUUID).all (· = W)) (ho : OwnIDs c W)
include hws

theorem onWorkspace_within {check : Tool Unit} (h : StaysIn W check) :
    StaysIn W (onWorkspace c check) := by
  refine Within.bind (requireWorkspaceID_within hws) fun ws hws => ?_
  refine Within.bind h fun _ _ => ?_
  exact Within.bind (rowsOf_within hws) fun _ _ => finish_within

theorem onExistingWorkspace_within {missing : String} {body : UUID → Tool Unit}
    (h : ∀ ws, ws = W → StaysIn W (body ws)) :
    StaysIn W (onExistingWorkspace c missing body) := by
  refine Within.bind (requireWorkspaceID_within hws) fun ws hws => ?_
  refine Within.bind (getWorkspace_within hws) fun _ _ => ?_
  exact Within.bind (h ws hws) fun _ _ => finish_within

omit hws in
theorem ownRow_within {ρ : Type} {get : UUID → Tool (Option ρ)} {owner : ρ → UUID} {ws id : UUID} {message : String}
    (hws : ws = W) (h : StaysIn W (get id)) :
    Within (· = W) (ownRow get owner ws id message) fun r => owner r = W := by
  refine Within.bind h fun o _ => Within.mono Within.orFail fun r hr => ?_
  have : owner r = ws := by simpa using (Option.filter_eq_some_iff.mp hr).2
  exact this.trans hws

omit hws in
include ho in
theorem ownConnection_within {ws id : UUID} (hws : ws = W) (hid : id ∈ c.ids "connection_id") :
    Within (· = W) (ownConnection c ws id) fun r => r.workspaceID = W :=
  ownRow_within hws (Within.mono (getConnection_within (ho.connection id hid)) fun _ _ => trivial)

omit hws in
include ho in
theorem ownSubscription_within {ws id : UUID} (hws : ws = W) (hid : id ∈ c.ids "subscription_id") :
    Within (· = W) (ownSubscription c ws id) fun r => r.workspaceID = W :=
  ownRow_within hws (getSubscription_within (ho.subscription id hid))

include ho in
theorem onConnection_within {body : ConnectionRow → Tool Unit}
    (h : ∀ r, r.workspaceID = W → StaysIn W (body r)) :
    StaysIn W (onConnection c body) := by
  refine Within.bind (requireWorkspaceID_within hws) fun ws hws => ?_
  refine Within.bind requireID_within fun id hid => ?_
  refine Within.bind (ownConnection_within ho hws (mem_ids_of_arg hid)) fun r hr => ?_
  exact Within.bind (h r hr) fun _ _ => finish_within

include ho in
theorem onSubscription_within {body : SubscriptionRow → Tool Unit}
    (h : ∀ r, r.workspaceID = W → StaysIn W (body r)) :
    StaysIn W (onSubscription c body) := by
  refine Within.bind (requireWorkspaceID_within hws) fun ws hws => ?_
  refine Within.bind requireID_within fun id hid => ?_
  refine Within.bind (ownSubscription_within ho hws (mem_ids_of_arg hid)) fun r hr => ?_
  exact Within.bind (h r hr) fun _ _ => finish_within

omit hws in
include ho in
theorem optionalSubscription_within {ws : UUID} (hws : ws = W) :
    StaysIn W (optionalSubscription c ws) := by
  refine Within.ite (fun _ => Within.pure trivial) fun hne => ?_
  refine Within.bind Within.orFail fun id hid => ?_
  exact Within.bind (ownSubscription_within ho hws (mem_ids_of_trimmed hne hid)) fun _ _ => Within.pure trivial

omit hws in
include ho in
theorem ownDLQ_within {ws : UUID} (hne : c.trimmed "dlq_id" ≠ "") :
    StaysIn W (ownDLQ c ws) := by
  refine Within.bind Within.orFail fun id hid => ?_
  have hrow := ho.dlq id (mem_ids_of_trimmed hne hid)
  refine Within.bind (Within.fetch (find?_own fun r hr he => (hrow r hr (by simpa using he)).1)) fun o hfound => ?_
  refine Within.bind Within.orFail fun item hitem => ?_
  rw [hfound] at hitem
  have hitem := hrow item (List.mem_of_find?_eq_some hitem) (by simpa using List.find?_some hitem)
  refine Within.bind Within.require fun _ _ => ?_
  exact Within.bind (getSubscription_within hitem.2) fun _ _ => Within.pure trivial

theorem handleGetWorkspace_within : StaysIn W (handleGetWorkspace c) :=
  Within.bind (requireWorkspaceID_within hws) fun _ hws => getWorkspace_within hws

theorem handleSendMessage_within : StaysIn W (handleSendMessage c) := by
  refine onWorkspace_within hws ?_
  refine Within.bind requireString_within fun _ _ => ?_
  refine Within.bind requireString_within fun _ _ => ?_
  exact Within.bind requireString_within fun _ _ => Within.pure trivial

theorem handleCreateConnection_within : StaysIn W (handleCreateConnection c) := by
  refine onExistingWorkspace_within hws fun ws hws => ?_
  refine Within.bind requireText_within fun _ _ => ?_
  refine Within.bind requireText_within fun _ _ => ?_
  refine Within.bind Within.require fun _ _ => ?_
  exact Within.bind Within.require fun _ _ => rowsOf_within hws

theorem handleCreateWebhookSubscription_within :
    StaysIn W (handleCreateWebhookSubscription c) := by
  refine onExistingWorkspace_within hws fun ws hws => ?_
  refine Within.bind requireText_within fun _ _ => ?_
  exact Within.bind checked_within fun _ _ => rowsOf_within hws

include ho in
theorem handleDiagnoseConnectionHealth_within :
    StaysIn W (handleDiagnoseConnectionHealth c) := by
  refine Within.bind (requireWorkspaceID_within hws) fun ws hws => ?_
  refine Within.bind requireID_within fun id hid => ?_
  refine Within.bind (getWorkspace_within hws) fun _ _ => ?_
  exact Within.bind (ownConnection_within ho hws (mem_ids_of_arg hid)) fun _ _ => finish_within

include ho in
theorem handleSimulateWebhookEvent_within : StaysIn W (handleSimulateWebhookEvent c) := by
  refine Within.bind requireText_within fun _ _ => onExistingWorkspace_within hws fun ws hws => ?_
  refine Within.bind requireText_within fun _ _ => ?_
  refine Within.bind checked_within fun _ _ => ?_
  exact Within.bind (optionalSubscription_within ho hws) fun _ _ => rowsOf_within hws

include ho in
theorem handleReplayWebhookDLQ_within : StaysIn W (handleReplayWebhookDLQ c) := by
  refine Within.bind requireText_within fun _ _ => onExistingWorkspace_within hws fun ws hws => ?_
  refine Within.bind Within.require fun _ _ => ?_
  refine Within.bind checked_within fun _ _ => ?_
  refine Within.bind (optionalSubscription_within ho hws) fun _ _ => ?_
  split
  · rename_i hne
    exact Within.bind (ownDLQ_within ho hne) fun _ _ => rowsOf_within hws
  · exact Within.bind (rowsOf_within hws) fun _ _ => rowsOf_within hws

end ByArgument

/-! ## The handlers that compare it with the tenant -/

section ByTenant

variable {c : Call} {W : UUID} (hb : Bound c.ctx W) (hW : W ≠ UUID.Nil) (ht : ownTenant c W = true) (ho : OwnIDs c W)
  (hr : OwnReferences c W)

theorem OwnRef.ofWorkspace {ws : UUID} {ref : ChatRef} (hW : W ≠ UUID.Nil) (hws : ws = W) : OwnRef c W ws ref := by
  refine ⟨Or.inl hws, ?_, ?_⟩
  · intro hu
    exact absurd (hws.symm.trans hu.1) hW
  · intro hu
    exact absurd (hws.symm.trans hu.1) hW

theorem requireChatID_within {P : UUID → Prop} : Within P (requireChatID c) fun id => id ∈ c.ids "chat_id" := by
  refine Within.bind requireString_within fun s hs => Within.mono Within.orFail fun id hid => ?_
  exact mem_ids_of_trim hs hid

include hb ht

theorem onTenant_within {check : Tool Unit} (h : StaysIn W check) :
    StaysIn W (onTenant c check) := by
  refine Within.bind (resolveWorkspaceID_within hb ht) fun ws hws => ?_
  refine Within.bind h fun _ _ => ?_
  exact Within.bind (rowsOf_within hws) fun _ _ => finish_within

omit hb ht in
theorem optionalConnectionID_within {P : UUID → Prop} :
    Within P (optionalConnectionID c) fun o => ∀ id, o = some id → id ∈ c.ids "connection_id" := by
  refine Within.ite (fun _ => Within.pure fun id hid => by cases hid) fun hne => ?_
  refine Within.bind Within.orFail fun id hid => Within.pure fun id' h => ?_
  cases h
  exact mem_ids_of_trimmed hne hid

theorem handleWABAListChats_within : StaysIn W (handleWABAListChats c) :=
  onTenant_within hb ht (Within.bind optionalConnectionID_within fun _ _ => Within.pure trivial)

include ho in
theorem handleWABATemplates_within : StaysIn W (handleWABATemplates c) := by
  refine Within.bind (resolveWorkspaceID_within hb ht) fun ws hws => ?_
  refine Within.bind optionalConnectionID_within fun o hids => ?_
  cases o with
  | none => exact Within.bind (rowsOf_within hws) fun _ _ => finish_within
  | some id =>
    refine Within.bind (Within.fetchAll fun t hmem => ?_) fun _ _ => finish_within
    obtain ⟨hmem, hconn⟩ := List.mem_filter.mp hmem
    exact ho.byConnection id (hids id rfl) t hmem (by simpa using hconn)

omit hb ht in
include ho in
theorem namedTemplate_within : StaysIn W (namedTemplate c) := by
  refine Within.ite (fun hne => ?_) fun _ => Within.ite (fun hne => ?_) fun _ => Within.fail
  · refine Within.bind Within.orFail fun id hid => Within.mono (Within.fetch ?_) fun _ _ => trivial
    refine find?_own fun t hmem he => ?_
    exact ho.template id (mem_ids_of_trimmed hne hid) t hmem (by simpa using he)
  · refine Within.bind Within.orFail fun id hid => Within.mono (Within.fetch ?_) fun _ _ => trivial
    refine find?_own fun t hmem he => ?_
    simp only [Bool.and_eq_true, decide_eq_true_eq] at he
    exact ho.byConnection id (mem_ids_of_trimmed hne.2.2 hid) t hmem he.1.1

include ho in
theorem handleWABATemplateDetails_within : StaysIn W (handleWABATemplateDetails c) := by
  refine Within.bind (resolveWorkspaceID_within hb ht) fun ws _ => ?_
  refine Within.bind (namedTemplate_within ho) fun o _ => ?_
  refine Within.bind Within.orFail fun t _ => ?_
  exact Within.bind Within.require fun _ _ => finish_within

include hW

theorem onTenantChat_within {check : Tool Unit} {missing failed : String}
    (h : StaysIn W check) :
    StaysIn W (onTenantChat c check missing failed) := by
  refine Within.bind (resolveWorkspaceID_within hb ht) fun ws hws => ?_
  refine Within.bind requireChatID_within fun id _ => ?_
  refine Within.bind h fun _ _ => ?_
  exact Within.bind (Within.mapError (onChat_within hb hW (.ofWorkspace hW hws))) fun _ _ => finish_within

include hr in
theorem handleChatDetails_within : StaysIn W (handleChatDetails c) := by
  refine Within.bind (resolveWorkspaceID_within hb ht) fun ws hws => ?_
  refine Within.bind requireChatID_within fun id _ => ?_
  exact Within.bind (Within.mapError (get_within hb hW hr (.ofWorkspace hW hws))) fun _ _ => finish_within

include hr in
theorem handleWABAChatDetails_within : StaysIn W (handleWABAChatDetails c) := by
  refine Within.bind (resolveWorkspaceID_within hb ht) fun ws hws => ?_
  refine Within.bind requireChatID_within fun id _ => ?_
  exact Within.bind (Within.mapError (get_within hb hW hr (.ofWorkspace hW hws))) fun _ _ => finish_within

theorem handleChatHistory_within : StaysIn W (handleChatHistory c) := by
  refine Within.bind (resolveWorkspaceID_within hb ht) fun ws hws => ?_
  refine Within.bind requireChatID_within fun id _ => ?_
  exact Within.bind (Within.mapError (onChat_within hb hW (.ofWorkspace hW hws))) fun _ _ => finish_within

theorem handleChatAssign_within : StaysIn W (handleChatAssign c) := by
  refine onTenantChat_within hb hW ht ?_
  exact Within.bind requireString_within fun _ _ => Within.mono Within.require fun _ _ => trivial

omit hb hW ht in
theorem requireLabel_within {P : UUID → Prop} : Within P (requireLabel c) fun _ => True :=
  Within.mono Within.require fun _ _ => trivial

include hr in
theorem handleWABAChatSendMessage_within : StaysIn W (handleWABAChatSendMessage c) := by
  refine Within.bind (resolveWorkspaceID_within hb ht) fun ws hws => ?_
  refine Within.bind requireChatID_within fun id _ => ?_
  refine Within.bind requireText_within fun _ _ => ?_
  exact Within.mapError (sendMessage_within hb hW hr (.ofWorkspace hW hws) fun id hid => by cases hid)

omit hb hW ht in
include hr in
theorem approvedTemplate_within {conn : ConnectionRow} {missing : String} (hmem : conn ∈ c.rows.connections)
    (hconn : conn.workspaceID = W) : StaysIn W (approvedTemplate c conn.id missing) := by
  refine Within.bind (Within.fetch (find?_own fun t ht he => ?_)) fun _ _ => ?_
  · simp only [Bool.and_eq_true, decide_eq_true_eq] at he
    exact hr.template conn hmem hconn t ht he.1.1
  · exact Within.bind Within.orFail fun _ _ => checked_within

omit hb hW ht in
include hr in
theorem templateConnection_within {ws : UUID} {chat : ChatRow} (hws : ws = W) (hchat : OwnChat c W chat) :
    Within (· = W) (templateConnection c ws chat) fun o =>
      ∀ r, o = some r → r ∈ c.rows.connections ∧ r.workspaceID = W := by
  refine Within.bind (show Within (· = W) _ fun o =>
    ∀ r, o = some r → r ∈ c.rows.connections ∧ r.workspaceID = W from ?_) fun o ho => ?_
  · cases hid : chat.connectionID with
    | none => exact Within.pure fun r hr => by cases hr
    | some id =>
      have hrows := hchat.connection hr hid
      refine Within.mono (getConnection_within hrows) fun o ho r hr => ?_
      exact ⟨(ho r hr).1, hrows r (ho r hr).1 (ho r hr).2⟩
  cases o with
  | some r => exact Within.pure ho
  | none =>
    refine Within.bind (rowsOf_within hws) fun _ _ => Within.pure fun r hr => ?_
    have he := List.find?_some hr
    simp only [Bool.and_eq_true, decide_eq_true_eq] at he
    exact ⟨List.mem_of_find?_eq_some hr, he.1.1.trans hws⟩

omit hb hW ht in
theorem connection_own {conn : ConnectionRow} (hmem : conn ∈ c.rows.connections) (hconn : conn.workspaceID = W) :
    ∀ r ∈ c.rows.connections, r.id = conn.id → r.workspaceID = W := by
  intro r hr hid
  rw [eq_of_key_eq c.rows.connectionIDs hr hmem hid]
  exact hconn

include hr in
theorem handleWABAChatSendTemplate_within : StaysIn W (handleWABAChatSendTemplate c) := by
  refine Within.bind (resolveWorkspaceID_within hb ht) fun ws hws => ?_
  refine Within.bind requireChatID_within fun id _ => ?_
  refine Within.bind requireText_within fun _ _ => ?_
  refine Within.bind requireText_within fun _ _ => ?_
  refine Within.bind (Within.mapError (resolveChat_within hb hW (.ofWorkspace hW hws))) fun chat hchat => ?_
  refine Within.bind (templateConnection_within hr hws hchat) fun o hconn => ?_
  have hsend : Within (· = W) ((sendMessage c ws (.byID id) (o.map (·.id))).mapError
      ("failed to dispatch template message: " ++ ·)) fun _ => True := by
    refine Within.mapError (sendMessage_within hb hW hr (.ofWorkspace hW hws) fun id hid => ?_)
    obtain ⟨r, hr, rfl⟩ := Option.map_eq_some_iff.mp hid
    exact connection_own (hconn r hr).1 (hconn r hr).2
  cases o with
  | none => exact Within.bind checked_within fun _ _ => hsend
  | some r =>
    obtain ⟨hmem, hrW⟩ := hconn r rfl
    exact Within.bind (approvedTemplate_within hr hmem hrW) fun _ _ => hsend

include ho hr in
theorem handleWABAStartChat_within : StaysIn W (handleWABAStartChat c) := by
  refine Within.bind (resolveWorkspaceID_within hb ht) fun ws hws => ?_
  refine Within.bind requireString_within fun s hs => ?_
  refine Within.bind Within.orFail fun id hid => ?_
  have hrows := ho.connection id (mem_ids_of_trim hs hid)
  refine Within.bind (getConnection_within hrows) fun o hfound => ?_
  refine Within.bind Within.orFail fun conn hconn => ?_
  obtain ⟨hmem, rfl⟩ := hfound conn hconn
  refine Within.bind Within.require fun _ _ => ?_
  refine Within.bind Within.require fun _ _ => ?_
  refine Within.bind requireText_within fun _ _ => ?_
  refine Within.bind requireText_within fun _ _ => ?_
  refine Within.bind requireText_within fun _ _ => ?_
  refine Within.bind (approvedTemplate_within hr hmem (hrows conn hmem rfl)) fun _ _ => ?_
  refine Within.mapError (sendMessage_within hb hW hr (.ofWorkspace hW hws) fun id hid => ?_)
  cases hid
  exact hrows

end ByTenant

/-! ## The handlers that may do without a workspace -/

section Optional

variable {c : Call} {W : UUID} (hb : Bound c.ctx W) (hW : W ≠ UUID.Nil) (ht : ownTenant c W = true) (ho : OwnIDs c W)
  (hr : OwnReferences c W)
  (hchat : tenantID c.ctx = some W ∨ c.trimmed "workspace_id" ≠ "" ∨ ownChat c W = true)

structure OwnArgs (c : Call) (W ws : UUID) : Prop where
  workspace : ws = W ∨ ws = UUID.Nil
  chat : Unscoped c ws → ∀ id ∈ c.ids "chat_id", ∀ r ∈ c.rows.chats, r.id = id → r.workspaceID = W
  message : Unscoped c ws → ∀ r ∈ c.rows.messages, r.uid = c.trimmed "message_uid" → r.workspaceID = W

theorem ownMessage_spec (h : ownMessage c W = true) :
    ∀ r ∈ c.rows.messages, r.uid = c.trimmed "message_uid" → r.workspaceID = W := by
  intro r hr huid
  simp only [ownMessage, List.all_eq_true, Bool.or_eq_true, decide_eq_true_eq] at h
  exact (h r hr).resolve_left fun hne => hne huid

theorem OwnArgs.byID {ws id : UUID} (h : OwnArgs c W ws) (hid : id ∈ c.ids "chat_id") :
    OwnRef c W ws (.byID id) := by
  refine ⟨h.workspace, fun hu => h.chat hu id hid, fun _ _ huid => ?_⟩
  exact absurd (show trimSpace "" = "" by decide) huid

include hb hW ht hchat in
theorem optionalWorkspace_within {P : UUID → Prop} :
    Within P (resolveWorkspaceIDOptional c) (OwnArgs c W) := by
  refine Within.mono (resolveWorkspaceIDOptional_within hb ht hW) fun ws hws => ?_
  have hown : Unscoped c ws → ownChat c W = true := by
    intro hu
    rcases hchat with h | h | h
    · rw [hu.2] at h
      cases h
    · exact absurd (hws.2 hu) h
    · exact h
  refine ⟨hws.1, fun hu id hid r hr he => ?_, fun hu => ?_⟩
  · have h := hown hu
    simp only [ownChat, Bool.and_eq_true, List.all_eq_true, Bool.or_eq_true, decide_eq_true_eq] at h
    exact (h.1 r hr).resolve_left fun hne => hne (he ▸ hid)
  · have h := hown hu
    simp only [ownChat, Bool.and_eq_true] at h
    exact ownMessage_spec h.2

theorem requireMessageText_within {P : UUID → Prop} {message : String} :
    Within P (requireMessageText c message) fun _ => True := Within.mono Within.require fun _ _ => trivial

theorem optionalChatID_within {P : UUID → Prop} :
    Within P (optionalChatID c) fun id => id = UUID.Nil ∨ id ∈ c.ids "chat_id" := by
  refine Within.ite (fun _ => Within.pure (Or.inl rfl)) fun hne => ?_
  exact Within.mono Within.orFail fun id hid => Or.inr (mem_ids_of_trimmed hne hid)

include hb hW ht hchat

theorem handleChatCreateDraftNote_within : StaysIn W (handleChatCreateDraftNote c) := by
  refine Within.bind requireChatID_within fun id hid => ?_
  refine Within.bind requireString_within fun _ _ => ?_
  refine Within.bind Within.require fun _ _ => ?_
  refine Within.bind (optionalWorkspace_within hb hW ht hchat) fun ws hws => ?_
  exact Within.bind (Within.mapError (createNote_within hb hW (hws.byID hid))) fun _ _ => finish_within

theorem handleMessageReact_within : StaysIn W (handleMessageReact c) := by
  refine Within.bind requireText_within fun _ _ => ?_
  refine Within.bind requireText_within fun _ _ => ?_
  refine Within.bind (optionalWorkspace_within hb hW ht hchat) fun ws hws => ?_
  refine Within.bind Within.require fun _ _ => ?_
  refine Within.bind (Within.mapError (react_within hb hW hws.workspace hws.message)) fun _ _ => finish_within

theorem handleChatSummarize_within : StaysIn W (handleChatSummarize c) := by
  refine Within.bind requireChatID_within fun id hid => ?_
  refine Within.bind (optionalWorkspace_within hb hW ht hchat) fun ws hws => ?_
  exact Within.bind (Within.mapError (onChat_within hb hW (hws.byID hid))) fun _ _ => finish_within

include hr in
theorem handleChatSendMessage_within : StaysIn W (handleChatSendMessage c) := by
  refine Within.bind requireChatID_within fun id hid => ?_
  refine Within.bind requireMessageText_within fun _ _ => ?_
  refine Within.bind (optionalWorkspace_within hb hW ht hchat) fun ws hws => ?_
  exact Within.mapError (sendMessage_within hb hW hr (hws.byID hid) fun id hid => by cases hid)

omit ht hchat in
theorem workspaceOfChat_within {ws chatID : UUID} (hws : OwnArgs c W ws)
    (hid : chatID = UUID.Nil ∨ chatID ∈ c.ids "chat_id") :
    Within (· = W) (workspaceOfChat c ws chatID) fun ws => ws = W ∨ ws = UUID.Nil := by
  refine Within.ite (fun h => ?_) fun _ => Within.pure hws.workspace
  obtain ⟨hnil, hne⟩ := h
  subst hnil
  have href := hws.byID (hid.resolve_left hne)
  refine Within.bind (Within.attempt (resolveChat_within hb hW href)) fun o ho => ?_
  cases o with
  | ok chat => exact Within.pure (Or.inl (ho chat rfl).2)
  | error e => exact Within.pure hws.workspace

theorem handleMessageDetails_within (hmsg : ownMessage c W = true) :
    StaysIn W (handleMessageDetails c) := by
  refine Within.bind requireText_within fun _ _ => ?_
  refine Within.bind (optionalWorkspace_within hb hW ht hchat) fun ws hws => ?_
  refine Within.bind optionalChatID_within fun chatID hid => ?_
  refine Within.bind (workspaceOfChat_within hb hW hws hid) fun ws hws => ?_
  refine Within.bind Within.require fun _ hne => ?_
  have hne : ws ≠ UUID.Nil := by simpa using hne
  have huid : ∀ r ∈ c.rows.messages, r.uid = trimSpace (c.trimmed "message_uid") → r.workspaceID = W := by
    rw [Call.trimmed, trimSpace_trimSpace]
    exact ownMessage_spec hmsg
  refine Within.bind (Within.mapError (getMessage_within hb hW (hws.resolve_right hne) huid)) fun msg _ => ?_
  exact Within.mono Within.require fun _ _ => trivial

omit hb hW ht hchat in
include ho in
theorem sendingConnection_within {ws : UUID} (hws : ws = W ∨ ws = UUID.Nil) :
    Within (· = W) (sendingConnection c ws) fun p =>
      p.1 = W ∧ ∀ r ∈ c.rows.connections, r.id = p.2.id → r.workspaceID = W := by
  refine Within.ite (fun hne => ?_) fun _ => Within.ite (fun _ => ?_) fun _ => ?_
  · refine Within.bind Within.orFail fun id hid => ?_
    have hrows := ho.connection id (mem_ids_of_trimmed hne hid)
    refine Within.bind (getConnection_within hrows) fun o hfound => ?_
    refine Within.bind Within.orFail fun conn hconn => ?_
    obtain ⟨hmem, rfl⟩ := hfound conn hconn
    exact Within.bind Within.require fun _ _ => Within.pure ⟨hrows conn hmem rfl, hrows⟩
  · refine Within.bind Within.require fun _ hne => ?_
    have hwsW : ws = W := hws.resolve_right (by simpa using hne)
    refine Within.bind (rowsOf_within hwsW) fun _ _ => ?_
    refine Within.bind Within.orFail fun conn hconn => Within.pure ⟨hwsW, ?_⟩
    have he := List.find?_some hconn
    simp only [Bool.and_eq_true, decide_eq_true_eq] at he
    exact connection_own (List.mem_of_find?_eq_some hconn) (he.1.trans hwsW)
  · refine Within.bind Within.require fun _ hne => ?_
    have hwsW : ws = W := hws.resolve_right (by simpa using hne)
    refine Within.bind (rowsOf_within hwsW) fun _ _ => ?_
    refine Within.bind Within.orFail fun conn hconn => Within.pure ⟨hwsW, ?_⟩
    have hdefault : ∃ channel, defaultConnection c ws channel = some conn := by
      cases hw : defaultConnection c ws "whatsapp" with
      | some r =>
        rw [hw] at hconn
        exact ⟨_, hw.trans hconn⟩
      | none =>
        rw [hw] at hconn
        exact ⟨_, hconn⟩
    obtain ⟨channel, hdefault⟩ := hdefault
    have he := List.find?_some hdefault
    simp only [Bool.and_eq_true, decide_eq_true_eq] at he
    exact connection_own (List.mem_of_find?_eq_some hdefault) (he.1.1.trans hwsW)

include ho hr in
theorem handleWhatsAppAccountSendMessage_within :
    StaysIn W (handleWhatsAppAccountSendMessage c) := by
  refine Within.bind Within.require fun _ _ => ?_
  refine Within.bind requireMessageText_within fun _ _ => ?_
  refine Within.bind (optionalWorkspace_within hb hW ht hchat) fun ws hws => ?_
  refine Within.bind (sendingConnection_within ho hws.workspace) fun p hp => ?_
  refine Within.bind Within.require fun _ _ => ?_
  refine Within.bind Within.require fun _ _ => ?_
  refine Within.mapError (sendMessage_within hb hW hr (.ofWorkspace hW hp.1) fun id hid => ?_)
  cases hid
  exact hp.2

include hr in
theorem handleMessageReply_within : StaysIn W (handleMessageReply c) := by
  refine Within.bind requireText_within fun _ _ => ?_
  refine Within.bind requireMessageText_within fun _ _ => ?_
  refine Within.bind (optionalWorkspace_within hb hW ht hchat) fun ws hws => ?_
  refine Within.bind optionalChatID_within fun chatID hid => ?_
  refine Within.bind Within.require fun _ hne => ?_
  simp only [Bool.or_eq_true, decide_eq_true_eq] at hne
  have href : OwnRef c W ws ⟨chatID, c.trimmed "reply_to_uid", "", none⟩ := by
    refine ⟨hws.workspace, fun hu r hr he => ?_, fun hu hnil => ?_⟩
    · exact hws.chat hu chatID (hid.resolve_left (hne.resolve_right fun h => h hu.1)) r hr he
    · exact absurd hnil (hne.resolve_right fun h => h hu.1)
  have hsend : StaysIn W ((sendMessage c ws ⟨chatID, c.trimmed "reply_to_uid", "", none⟩ none).mapError
      (scopeError "workspace_id does not match authenticated context" ("chat not found: " ++ chatID.string)
        "failed to dispatch message: ")) :=
    Within.mapError (sendMessage_within hb hW hr href fun id hid => by cases hid)
  split
  · rename_i hnil
    have hwsW : ws = W := hws.workspace.resolve_right (hne.resolve_left fun h => h hnil)
    refine Within.bind (getChatMessageByUID_within hwsW) fun o _ => ?_
    exact Within.bind Within.orFail fun _ _ => hsend
  · exact hsend

end Optional

/-! ## Every handler -/

section Handlers

variable {c : Call} {W : UUID}

theorem handleCreateWorkspace_within (h : c.trimmed "name" = "") :
    StaysIn W (handleCreateWorkspace c) :=
  Within.bind requireText_within fun _ hne => absurd h hne

theorem handleListWorkspaces_within (h : (c.rows.workspaces.take 100).all (· = W) = true) :
    StaysIn W (handleListWorkspaces c) := by
  refine Within.bind (Within.fetchAll fun ws hmem => ?_) fun _ _ => Within.pure trivial
  simpa using List.all_eq_true.mp h ws hmem

theorem handleInspectQueueHealth_within {P : UUID → Prop} :
    Within P (handleInspectQueueHealth c) fun _ => True := by
  unfold handleInspectQueueHealth
  split
  · exact Within.bind Within.orFail fun _ _ => finish_within
  · exact finish_within

theorem argument_within {t : ToolName} (ht : t.scoping = .argument)
    (hws : ((c.args "workspace_id").bind c.parseUUID).all (· = W)) (ho : OwnIDs c W) :
    StaysIn W (handler t c) := by
  have hnone : StaysIn W (pure () : Tool Unit) := Within.pure trivial
  cases t <;> cases ht
  case get_workspace => exact handleGetWorkspace_within hws
  case create_connection => exact handleCreateConnection_within hws
  case get_connection_status => exact onConnection_within hws ho fun _ _ => hnone
  case get_connection_qr_code =>
    exact onConnection_within hws ho fun _ _ => Within.mono Within.require fun _ _ => trivial
  case disconnect_connection => exact onConnection_within hws ho fun _ hr => rowsOf_within hr
  case diagnose_connection_health => exact handleDiagnoseConnectionHealth_within hws ho
  case list_connections => exact onWorkspace_within hws hnone
  case search_contacts => exact onWorkspace_within hws hnone
  case send_message => exact handleSendMessage_within hws
  case get_audit_logs => exact onWorkspace_within hws hnone
  case create_webhook_subscription => exact handleCreateWebhookSubscription_within hws
  case list_webhook_subscriptions => exact onWorkspace_within hws hnone
  case delete_webhook_subscription => exact onSubscription_within hws ho fun _ hr => rowsOf_within hr
  case rotate_webhook_secret => exact onSubscription_within hws ho fun _ hr => rowsOf_within hr
  case test_ping_webhook => exact onSubscription_within hws ho fun _ _ => hnone
  case generate_admin_sso_url => exact onExistingWorkspace_within hws fun _ _ => hnone
  case simulate_webhook_event => exact handleSimulateWebhookEvent_within hws ho
  case replay_webhook_dlq => exact handleReplayWebhookDLQ_within hws ho

theorem tenant_within {t : ToolName} (htool : t.scoping = .tenant) (hb : Bound c.ctx W) (hW : W ≠ UUID.Nil)
    (ht : ownTenant c W = true) (ho : OwnIDs c W)
    (hr : (!t.reachesConnection || ownReferences c W) = true) : StaysIn W (handler t c) := by
  have hnone : StaysIn W (pure () : Tool Unit) := Within.pure trivial
  cases t <;> cases htool
  case workspace_quotas => exact onTenant_within hb ht hnone
  case workspace_team => exact onTenant_within hb ht hnone
  case list_chats => exact onTenant_within hb ht hnone
  case workspace_whatsapp_accounts => exact onTenant_within hb ht hnone
  case waba_accounts => exact onTenant_within hb ht hnone
  case chat_assign | waba_chat_assign => exact handleChatAssign_within hb hW ht
  case chat_unassign | waba_chat_unassign => exact onTenantChat_within hb hW ht hnone
  case chat_set_label | waba_chat_set_label => exact onTenantChat_within hb hW ht requireLabel_within
  case chat_remove_label | waba_chat_remove_label => exact onTenantChat_within hb hW ht requireLabel_within
  case chat_open | waba_chat_open => exact onTenantChat_within hb hW ht hnone
  case chat_close | waba_chat_close => exact onTenantChat_within hb hW ht hnone
  case chat_details => exact handleChatDetails_within hb hW ht (.of_reaches hr rfl)
  case chat_history | waba_chat_history => exact handleChatHistory_within hb hW ht
  case chat_enable_ai => exact onTenantChat_within hb hW ht checked_within
  case waba_list_chats => exact handleWABAListChats_within hb ht
  case waba_templates => exact handleWABATemplates_within hb ht ho
  case waba_template_details => exact handleWABATemplateDetails_within hb ht ho
  case waba_chat_send_message => exact handleWABAChatSendMessage_within hb hW ht (.of_reaches hr rfl)
  case waba_chat_send_template => exact handleWABAChatSendTemplate_within hb hW ht (.of_reaches hr rfl)
  case waba_chat_details => exact handleWABAChatDetails_within hb hW ht (.of_reaches hr rfl)
  case waba_start_chat => exact handleWABAStartChat_within hb hW ht ho (.of_reaches hr rfl)

theorem optional_within {t : ToolName} (htool : t.scoping = .optional) (hb : Bound c.ctx W) (hW : W ≠ UUID.Nil)
    (ht : ownTenant c W = true) (ho : OwnIDs c W) (hr : (!t.reachesConnection || ownReferences c W) = true)
    (hchat : tenantID c.ctx = some W ∨ c.trimmed "workspace_id" ≠ "" ∨ ownChat c W = true)
    (hmsg : t = .message_details ∨ t = .waba_message_details → ownMessage c W = true) :
    StaysIn W (handler t c) := by
  cases t <;> cases htool
  case chat_create_draft_note => exact handleChatCreateDraftNote_within hb hW ht hchat
  case message_react | waba_message_react => exact handleMessageReact_within hb hW ht hchat
  case chat_summarize => exact handleChatSummarize_within hb hW ht hchat
  case chat_send_message => exact handleChatSendMessage_within hb hW ht (.of_reaches hr rfl) hchat
  case message_details => exact handleMessageDetails_within hb hW ht hchat (hmsg (Or.inl rfl))
  case waba_message_details => exact handleMessageDetails_within hb hW ht hchat (hmsg (Or.inr rfl))
  case whatsapp_account_send_message => exact handleWhatsAppAccountSendMessage_within hb hW ht ho (.of_reaches hr rfl) hchat
  case message_reply => exact handleMessageReply_within hb hW ht (.of_reaches hr rfl) hchat

theorem handler_within {t : ToolName} (hb : Bound c.ctx W) (hW : W ≠ UUID.Nil) (h : confined c W t = true) :
    StaysIn W (handler t c) := by
  unfold confined at h
  split at h
  · rename_i hs
    cases t <;> cases hs
    exact handleInspectQueueHealth_within
  · rename_i hs
    cases t <;> cases hs
    exact handleListWorkspaces_within h
  · rename_i hs
    cases t <;> cases hs
    exact handleCreateWorkspace_within (by simpa using h)
  · rename_i hs
    rw [Bool.and_eq_true] at h
    exact argument_within hs h.1 (.of_ownIDs h.2)
  · rename_i hs
    rw [Bool.and_eq_true, Bool.and_eq_true] at h
    exact tenant_within hs hb hW h.1.1 (.of_ownIDs h.1.2) h.2
  · rename_i hs
    rw [Bool.and_eq_true, Bool.and_eq_true, Bool.and_eq_true, Bool.and_eq_true] at h
    obtain ⟨⟨⟨⟨ht, ho⟩, hr⟩, hchat⟩, hmsg⟩ := h
    simp only [Bool.and_eq_true, Bool.or_eq_true, decide_eq_true_eq, or_assoc] at hchat hmsg
    refine optional_within hs hb hW ht (.of_ownIDs ho) hr hchat fun hdetails => ?_
    refine hmsg.resolve_left fun hne => ?_
    rcases hdetails with h | h
    · exact hne.1 h
    · exact hne.2 h

end Handlers

end PerGo.L3.MCP
