import PerGo.L3Chat.Reads

/-!
# Chat reads stay in the caller's workspace

A request is authenticated for a workspace `A` and asks the chat engine for a chat, a list
of chats or messages, naming any workspace, chat, contact, phone or filter. `Confined` is
the two-run property: on two stores with the same rows of `A` the answers are the same, and
what is in them is of `A`.

`own A` keeps the rows of `A`. A query under `A` answers the same on `own A db` as on `db`
(the `_own` lemmas), so does every operation that asks for the scope first, and what those
return is of `A` (`resolveChat_belongs`).

`List` does not ask for the scope: it lists the workspace it is given.

* `reads_confined`: a read is confined exactly when it is not a `List` of a foreign workspace
  that has a chat on the page;
* `own_chat_read` and `foreign_chats_listed`: a read with it and one without.
-/
namespace PerGo.L4.ReadScope

open PerGo.Core PerGo.L1 PerGo.L2 PerGo.L3 PerGo.L3.Reads
open PerGo.L3.Recorder (ContactIdentity)
open PerGo.L3.MCP (authWorkspace enforceScope)

def own (ws : UUID) (db : ReadDB) : ReadDB :=
  { chats := db.chats.filter fun c => c.workspaceID = ws,
    messages := db.messages.filter fun m => m.workspaceID = ws,
    contacts := db.contacts.filter fun c => c.workspaceID = ws,
    identities := db.identities.filter fun i => i.workspaceID = ws,
    connections := db.connections.filter fun c => c.workspaceID = ws,
    tags := db.tags.filter fun t => t.workspaceID = ws,
    dispatches := db.dispatches.filter fun d => d.workspaceID = ws,
    uids := db.uids.sublist (List.Sublist.map _ List.filter_sublist) }

/-! ## Queries under the workspace -/

section Queries

variable {env : ReadEnv} {db : ReadDB} {ws : UUID}

theorem of_and {p : Prop} [Decidable p] {q : Bool} (h : (decide p && q) = true) : p :=
  of_decide_eq_true (Bool.and_eq_true_iff.mp h).1

theorem any_own {ρ : Type} {f : ρ → UUID} {rows : List ρ} {q : ρ → Bool} (h : ∀ r, q r = true → f r = ws) :
    (rows.filter fun r => f r = ws).any q = rows.any q := by
  rw [List.any_filter]
  congr 1
  funext r
  cases hq : q r with
  | false => simp
  | true => simp [h r hq]

theorem find_own {ρ : Type} {f : ρ → UUID} {rows : List ρ} {q : ρ → Bool} (h : ∀ r, q r = true → f r = ws) :
    (rows.filter fun r => f r = ws).find? q = rows.find? q :=
  find?_filter_of_imp fun r _ hr => by simpa using h r hr

theorem filter_own {ρ : Type} {f : ρ → UUID} {rows : List ρ} {q : ρ → Bool} (h : ∀ r, q r = true → f r = ws) :
    (rows.filter fun r => f r = ws).filter q = rows.filter q :=
  filter_filter_of_imp fun r _ hr => by simpa using h r hr

theorem hydrateChat_own {c : ChatRow} (hc : c.workspaceID = ws) :
    hydrateChat env (own ws db) c = hydrateChat env db c := by
  unfold hydrateChat own
  rw [filter_own (f := TagRow.workspaceID)]
  intro t ht
  simp only [hc, Bool.and_eq_true, decide_eq_true_eq] at ht
  exact ht.1

theorem getChat_own (id : UUID) : getChat env (own ws db) ws id = getChat env db ws id := by
  have hfind : (own ws db).chats.find? (fun c => c.workspaceID = ws && c.id = id) =
      db.chats.find? fun c => c.workspaceID = ws && c.id = id :=
    find_own (f := ChatRow.workspaceID) fun _ hc => of_and hc
  unfold getChat
  rw [hfind]
  split
  · rfl
  · split
    · rfl
    · split
      · rfl
      · rename_i c hc
        have hws := List.find?_some hc
        simp only [Bool.and_eq_true, decide_eq_true_eq] at hws
        rw [hydrateChat_own hws.1]

theorem mem_head_insertionSort {ρ : Type} {r : ρ → ρ → Bool} {rows : List ρ} {c : ρ}
    (h : (rows.insertionSort fun a b => r a b).head? = some c) : c ∈ rows :=
  (List.mem_insertionSort _).mp (List.mem_of_mem_head? (Option.mem_def.mpr h))

theorem getChatByContact_own (contactID : UUID) :
    getChatByContact env (own ws db) ws contactID = getChatByContact env db ws contactID := by
  have hrows : (own ws db).chats.filter (fun c => c.workspaceID = ws && c.contactID = contactID) =
      db.chats.filter fun c => c.workspaceID = ws && c.contactID = contactID :=
    filter_own (f := ChatRow.workspaceID) fun _ hc => of_and hc
  unfold getChatByContact
  simp only [hrows]
  split
  · rfl
  · split
    · rfl
    · split
      · rfl
      · split
        · rfl
        · rename_i c hc
          have hmem := List.mem_filter.mp (mem_head_insertionSort hc)
          have hws : c.workspaceID = ws := of_and hmem.2
          rw [hydrateChat_own hws]

theorem matchesFilter_own (f : ChatFilter) {c : ChatRow} (hc : c.workspaceID = ws) :
    matchesFilter env (own ws db) ws f c = matchesFilter env db ws f c := by
  have hconn : ∀ channel, onChannel (own ws db) ws channel c = onChannel db ws channel c := by
    intro channel
    unfold onChannel own
    rw [any_own (f := ConnectionRow.workspaceID), any_own (f := ContactIdentity.workspaceID)]
    · intro i hi
      simp only [Bool.and_eq_true, decide_eq_true_eq] at hi
      exact hi.1.1
    · intro r hr
      simp only [Bool.and_eq_true, decide_eq_true_eq] at hr
      exact hr.1.1
  have hphone : ∀ phone, hasPhone env (own ws db) ws phone c = hasPhone env db ws phone c := by
    intro phone
    unfold hasPhone own
    rw [any_own (f := ContactIdentity.workspaceID)]
    intro i hi
    simp only [Bool.and_eq_true, decide_eq_true_eq] at hi
    exact hi.1.1
  have htag : ∀ tag, hasTag (own ws db) tag c = hasTag db tag c := by
    intro tag
    unfold hasTag own
    rw [any_own (f := TagRow.workspaceID)]
    intro t ht
    simp only [hc, Bool.and_eq_true, decide_eq_true_eq] at ht
    exact ht.1.1
  unfold matchesFilter
  rw [hconn, hphone, htag]

theorem selectChats_own (f : ChatFilter) (limit offset : Int) :
    selectChats env (own ws db) ws f limit offset = selectChats env db ws f limit offset := by
  have hrows : (own ws db).chats.filter (fun c => c.workspaceID = ws && matchesFilter env (own ws db) ws f c) =
      db.chats.filter fun c => c.workspaceID = ws && matchesFilter env db ws f c := by
    have hcongr : (fun c : ChatRow => decide (c.workspaceID = ws) && matchesFilter env (own ws db) ws f c) =
        fun c => decide (c.workspaceID = ws) && matchesFilter env db ws f c := by
      funext c
      by_cases hc : c.workspaceID = ws
      · rw [matchesFilter_own f hc]
      · simp [hc]
    rw [hcongr]
    exact filter_own (f := ChatRow.workspaceID) fun _ hc => of_and hc
  unfold selectChats
  simp only [hrows]

theorem mem_selectChats {f : ChatFilter} {limit offset : Int} {c : ChatRow}
    (h : c ∈ selectChats env db ws f limit offset) : c.workspaceID = ws := by
  have hmem := (List.mem_insertionSort _).mp (List.mem_of_mem_drop (List.mem_of_mem_take h))
  exact of_and (List.mem_filter.mp hmem).2

theorem listChats_own (f : ChatFilter) (limit offset : Int) :
    listChats env (own ws db) ws f limit offset = listChats env db ws f limit offset := by
  have hmap : (selectChats env db ws f limit offset).map (hydrateChat env (own ws db)) =
      (selectChats env db ws f limit offset).map (hydrateChat env db) :=
    List.map_congr_left fun c hc => hydrateChat_own (mem_selectChats hc)
  unfold listChats
  rw [selectChats_own, hmap]

theorem getChatMessageByUID_own (uid : String) :
    getChatMessageByUID env (own ws db) ws uid = getChatMessageByUID env db ws uid := by
  have hfind : (own ws db).messages.find? (fun m => m.workspaceID = ws && m.uid = uid) =
      db.messages.find? fun m => m.workspaceID = ws && m.uid = uid :=
    find_own (f := ChatMessage.workspaceID) fun _ hm => of_and hm
  unfold getChatMessageByUID
  rw [hfind]

theorem findMessageByUID_own (uid : String) :
    (findMessageByUID env (own ws db) uid).toOption.filter (fun m => m.workspaceID = ws) =
      (findMessageByUID env db uid).toOption.filter fun m => m.workspaceID = ws := by
  have hfind : ((own ws db).messages.find? fun m => m.uid = uid).filter (fun m => m.workspaceID = ws) =
      (db.messages.find? fun m => m.uid = uid).filter fun m => m.workspaceID = ws := by
    apply Option.ext
    intro m
    simp only [Option.filter_eq_some_iff, find?_key_iff (own ws db).uids, find?_key_iff db.uids, decide_eq_true_eq]
    constructor
    · rintro ⟨⟨hm, huid⟩, hws⟩
      exact ⟨⟨(List.mem_filter.mp hm).1, huid⟩, hws⟩
    · rintro ⟨⟨hm, huid⟩, hws⟩
      exact ⟨⟨List.mem_filter.mpr ⟨hm, by simpa using hws⟩, huid⟩, hws⟩
  unfold findMessageByUID
  split
  · rfl
  · split
    · rfl
    · cases h : (own ws db).messages.find? fun m => m.uid = uid with
      | none =>
        rw [h] at hfind
        cases h' : db.messages.find? fun m => m.uid = uid with
        | none => rfl
        | some m' =>
          rw [h'] at hfind
          exact hfind
      | some m =>
        rw [h] at hfind
        cases h' : db.messages.find? fun m => m.uid = uid with
        | none =>
          rw [h'] at hfind
          exact hfind
        | some m' =>
          rw [h'] at hfind
          exact hfind

theorem listChatMessages_own (chatID : UUID) (beforeUID afterUID : String) (limit : Int) :
    listChatMessages env (own ws db) ws chatID beforeUID afterUID limit =
      listChatMessages env db ws chatID beforeUID afterUID limit := by
  have hrows : (own ws db).messages.filter (fun m => m.workspaceID = ws && m.chatID = chatID) =
      db.messages.filter fun m => m.workspaceID = ws && m.chatID = chatID :=
    filter_own (f := ChatMessage.workspaceID) fun _ hm => of_and hm
  have hcursor : ∀ uid, (own ws db).messages.find? (fun m => m.workspaceID = ws && m.uid = uid) =
      db.messages.find? fun m => m.workspaceID = ws && m.uid = uid := fun uid =>
    find_own (f := ChatMessage.workspaceID) fun _ hm => of_and hm
  unfold listChatMessages
  simp only [hrows, hcursor]

theorem dispatchStatus_own {m : ChatMessage} (hm : m.workspaceID = ws) :
    dispatchStatus (own ws db) m = dispatchStatus db m := by
  have hrows : (own ws db).dispatches.filter (fun d => d.workspaceID = m.workspaceID && d.traceID = m.uid) =
      db.dispatches.filter fun d => d.workspaceID = m.workspaceID && d.traceID = m.uid := by
    refine filter_own (f := DispatchRow.workspaceID) fun d hd => ?_
    have hdm : d.workspaceID = m.workspaceID := of_and hd
    exact hdm.trans hm
  unfold dispatchStatus
  rw [hrows]

theorem findContact_own (id : UUID) : (own ws db).contacts.find? (fun c => c.workspaceID = ws && c.id = id) =
    db.contacts.find? fun c => c.workspaceID = ws && c.id = id :=
  find_own (f := ContactRow.workspaceID) fun _ hc => of_and hc

theorem withIdentities_own (c : ContactRow) : withIdentities (own ws db) ws c = withIdentities db ws c := by
  unfold withIdentities own
  rw [filter_own (f := ContactIdentity.workspaceID) fun _ hi => of_and hi]

theorem getContact_own (id : UUID) : getContact env (own ws db) ws id = getContact env db ws id := by
  unfold getContact
  simp only [findContact_own, withIdentities_own]

theorem getContacts_own (id : UUID) : getContacts env (own ws db) ws id = getContacts env db ws id := by
  unfold getContacts
  simp only [findContact_own, withIdentities_own]

theorem listThreadByContact_own (contactID : UUID) (afterID : Option UUID) :
    listThreadByContact env (own ws db) ws contactID afterID = listThreadByContact env db ws contactID afterID := by
  have hchat : ∀ m : ChatMessage, m.workspaceID = ws →
      ((own ws db).chats.any fun c => c.workspaceID = m.workspaceID && c.id = m.chatID && c.contactID = contactID) =
        db.chats.any fun c => c.workspaceID = m.workspaceID && c.id = m.chatID && c.contactID = contactID := by
    intro m hm
    refine any_own (f := ChatRow.workspaceID) fun c hc => ?_
    simp only [Bool.and_eq_true, decide_eq_true_eq] at hc
    exact hc.1.1.trans hm
  have hrows : (own ws db).messages.filter (fun m => m.workspaceID = ws && (own ws db).chats.any fun c =>
        c.workspaceID = m.workspaceID && c.id = m.chatID && c.contactID = contactID) =
      db.messages.filter fun m => m.workspaceID = ws && db.chats.any fun c =>
        c.workspaceID = m.workspaceID && c.id = m.chatID && c.contactID = contactID := by
    have hcongr : (fun m : ChatMessage => decide (m.workspaceID = ws) && (own ws db).chats.any fun c =>
          c.workspaceID = m.workspaceID && c.id = m.chatID && c.contactID = contactID) =
        fun m => decide (m.workspaceID = ws) && db.chats.any fun c =>
          c.workspaceID = m.workspaceID && c.id = m.chatID && c.contactID = contactID := by
      funext m
      by_cases hm : m.workspaceID = ws
      · rw [hchat m hm]
      · simp [hm]
    rw [hcongr]
    exact filter_own (f := ChatMessage.workspaceID) fun _ hm => of_and hm
  have hcursor : ∀ id, (own ws db).messages.find? (fun m => m.workspaceID = ws && m.id = id) =
      db.messages.find? fun m => m.workspaceID = ws && m.id = id := fun id =>
    find_own (f := ChatMessage.workspaceID) fun _ hm => of_and hm
  -- the dispatch rows of a message of the workspace are of the workspace
  have hmap : ∀ rows : List ChatMessage, (∀ m ∈ rows, m.workspaceID = ws) →
      (ascending rows).map (fun m => (⟨m, dispatchStatus (own ws db) m⟩ : ThreadMessage)) =
        (ascending rows).map fun m => ⟨m, dispatchStatus db m⟩ := by
    intro rows hrows
    refine List.map_congr_left fun m hm => ?_
    rw [dispatchStatus_own (hrows m ((List.mem_insertionSort _).mp hm))]
  have hmem : ∀ m ∈ db.messages.filter (fun m => m.workspaceID = ws && db.chats.any fun c =>
      c.workspaceID = m.workspaceID && c.id = m.chatID && c.contactID = contactID), m.workspaceID = ws := by
    intro m hm
    exact of_and (List.mem_filter.mp hm).2
  unfold listThreadByContact
  simp only [hrows, hcursor]
  split
  · rfl
  · split
    · rfl
    · cases afterID with
      | none => simp only [hmap _ hmem]
      | some id => simp only [hmap _ fun m hm => hmem m (List.mem_filter.mp hm).1]

end Queries

/-! ## Chats -/

section Chats

variable {contactRepo : Bool} {env : ReadEnv} {ctx : Ctx} {db : ReadDB} {ws : UUID}

/-- The read of the store, and the same on the rows of `ws`: one answer, which is a chat of `ws`. -/
structure Answers (ws : UUID) (ofOwn ofAll : Except EngineError Chat) : Prop where
  same : ofOwn = ofAll
  belongs : ∀ c, ofAll = .ok c → c.workspaceID = ws

theorem answers_error (e : EngineError) : Answers ws (.error e) (.error e) := ⟨rfl, fun _ h => by cases h⟩

theorem getChat_workspace {id : UUID} {c : Chat} (h : getChat env db ws id = .ok c) : c.workspaceID = ws := by
  unfold getChat at h
  split at h
  · cases h
  split at h
  · cases h
  split at h
  · cases h
  · rename_i c₀ hfind
    have hrow := List.find?_some hfind
    simp only [Bool.and_eq_true, decide_eq_true_eq] at hrow
    cases h
    exact hrow.1

theorem resolveByID_answers (hws : ws ≠ UUID.Nil) (id : UUID) :
    Answers ws (resolveByID env ctx (own ws db) ws id) (resolveByID env ctx db ws id) where
  same := by
    unfold resolveByID
    rw [if_neg hws, if_neg hws, getChat_own]
  belongs c hc := by
    unfold resolveByID at hc
    rw [if_neg hws] at hc
    obtain ⟨c₀, -, hc⟩ := bind_ok hc
    split at hc
    · rename_i hc₀
      cases hc
      exact hc₀
    · cases hc

theorem resolveByContact_answers (contactID : UUID) (connection : Option UUID) :
    Answers ws (resolveByContact env (own ws db) ws contactID connection)
      (resolveByContact env db ws contactID connection) where
  same := by
    unfold resolveByContact
    rw [getChatByContact_own, listChats_own]
  belongs c hc := by
    unfold resolveByContact at hc
    obtain ⟨latest, -, hc⟩ := bind_ok hc
    split at hc
    · rename_i c₀ hlatest
      have h := (Option.filter_eq_some_iff.mp hlatest).2
      rw [decide_eq_true_eq] at h
      cases hc
      exact h
    · obtain ⟨chats, -, hc⟩ := bind_ok hc
      split at hc
      · rename_i c₀ hfind
        have h := List.find?_some hfind
        simp only [Bool.and_eq_true, decide_eq_true_eq] at h
        cases hc
        exact h.1.1
      · obtain ⟨latest, -, hc⟩ := bind_ok hc
        split at hc
        · rename_i c₀ hlatest
          have h := (Option.filter_eq_some_iff.mp hlatest).2
          simp only [Bool.and_eq_true, decide_eq_true_eq] at h
          cases hc
          exact h.1
        · cases hc

theorem resolveByMessage_answers (hws : ws ≠ UUID.Nil) (uid : String) :
    Answers ws (resolveByMessage env ctx (own ws db) ws uid) (resolveByMessage env ctx db ws uid) := by
  unfold resolveByMessage
  simp only [if_pos hws, getChatMessageByUID_own]
  split
  · exact answers_error _
  · exact answers_error _
  · rename_i msg _
    split
    · exact answers_error _
    split
    · exact answers_error _
    rename_i hmsg
    have hmsgws : msg.workspaceID = ws := Classical.byContradiction fun h => hmsg ⟨hws, h⟩
    split
    · exact answers_error _
    rw [hmsgws, getChat_own]
    refine ⟨rfl, fun c hc => ?_⟩
    obtain ⟨c₀, hget, hc⟩ := bind_ok hc
    have hc₀ := getChat_workspace (orNotFound_ok hget)
    cases hc
    exact hc₀

theorem resolveByPhone_answers (channel phone : String) (connection : Option UUID) :
    Answers ws (resolveByPhone contactRepo env (own ws db) ws channel phone connection)
      (resolveByPhone contactRepo env db ws channel phone connection) where
  same := by
    unfold resolveByPhone
    simp only [listChats_own, getContact_own]
  belongs c hc := by
    unfold resolveByPhone at hc
    obtain ⟨chats, -, hc⟩ := bind_ok hc
    simp only at hc
    split at hc
    · rename_i c₀ hfind
      have h := List.find?_some hfind
      simp only [Bool.and_eq_true, decide_eq_true_eq] at h
      cases hc
      exact h.1.1
    · cases hc

theorem authWorkspace_ne_nil (hctx : authWorkspace ctx = some ws) : ws ≠ UUID.Nil := by
  unfold authWorkspace at hctx
  split at hctx
  · rename_i w hw
    cases hctx
    simpa using (Option.filter_eq_some_iff.mp hw).2
  · unfold PerGo.L3.MCP.tenantID at hctx
    simpa using (Option.filter_eq_some_iff.mp hctx).2

theorem enforceScope_auth (hctx : authWorkspace ctx = some ws) (requested : UUID) :
    enforceScope ctx requested = .ok ws ∨
      enforceScope ctx requested = .error "workspace_id does not match authenticated context" := by
  unfold enforceScope
  rw [hctx]
  simp only
  split
  · exact .inr rfl
  · exact .inl rfl

theorem resolveChat_answers (hctx : authWorkspace ctx = some ws) (requested : UUID) (ref : ChatRef) :
    Answers ws (resolveChat contactRepo env ctx (own ws db) requested ref)
      (resolveChat contactRepo env ctx db requested ref) := by
  have hws := authWorkspace_ne_nil hctx
  unfold resolveChat
  rcases enforceScope_auth hctx requested with h | h
  · rw [h]
    simp only
    split
    · exact resolveByID_answers hws _
    split
    · exact resolveByContact_answers _ _
    split
    · exact resolveByMessage_answers hws _
    split
    · exact resolveByPhone_answers _ _ _
    · exact answers_error _
  · rw [h]
    exact answers_error _

end Chats

/-! ## The reads -/

inductive ReadOp
  | resolveChat (ws : UUID) (ref : ChatRef)
  | list (ws : UUID) (filter : ChatFilter) (limit offset : Int)
  | listMessages (ws : UUID) (ref : ChatRef) (beforeUID afterUID : String) (limit : Int)
  | listThread (ws contactID : UUID) (afterID : Option UUID)
  | getMessage (ws : UUID) (uid : String)

inductive ReadResult
  | chat (c : Chat)
  | chats (l : List ChatSummary)
  | messages (c : Chat) (l : List ChatMessage)
  | thread (l : List ThreadMessage)
  | message (m : ChatMessage) (inChat : Option Chat) (contact : Option Contact)

def ReadResult.workspaces : ReadResult → List UUID
  | .chat c => [c.workspaceID]
  | .chats l => l.map (·.chat.workspaceID)
  | .messages c l => c.workspaceID :: l.map (·.workspaceID)
  | .thread l => l.map (·.message.workspaceID)
  | .message m inChat _ => m.workspaceID :: inChat.toList.map (·.workspaceID)

def read (contactRepo : Bool) (env : ReadEnv) (ctx : Ctx) (db : ReadDB) : ReadOp → Except EngineError ReadResult
  | .resolveChat ws ref => (resolveChat contactRepo env ctx db ws ref).map .chat
  | .list ws filter limit offset => (list contactRepo env db ws filter limit offset).map .chats
  | .listMessages ws ref beforeUID afterUID limit =>
    (listMessages contactRepo env ctx db ws ref beforeUID afterUID limit).map fun r => .messages r.1 r.2
  | .listThread ws contactID afterID => (listThread contactRepo env ctx db ws contactID afterID).map .thread
  | .getMessage ws uid => (getMessage contactRepo env ctx db ws uid).map fun r => .message r.1 r.2.1 r.2.2

/-- The two answers are one, which has only chats and messages of `ws`. -/
structure Confined (ws : UUID) (r₁ r₂ : Except EngineError ReadResult) : Prop where
  same : r₁ = r₂
  belongs : ∀ res, r₁ = .ok res → ∀ w ∈ res.workspaces, w = ws

def NothingListed (env : ReadEnv) (db : ReadDB) (ws : UUID) (f : ChatFilter) (limit offset : Int) : Prop :=
  ws = UUID.Nil ∨ env.fails .listChats ≠ none ∨
    ∀ c ∈ selectChats env db ws f limit offset, statusKept env f (hydrateChat env db c) = false

/-- A listing is of the workspace, or of one that has nothing to list. -/
def KeepsScope (env : ReadEnv) (ws : UUID) (db₁ db₂ : ReadDB) : ReadOp → Prop
  | .list requested f limit offset => requested = ws ∨
    (NothingListed env db₁ requested f limit offset ∧ NothingListed env db₂ requested f limit offset)
  | _ => True

section Reads

variable {contactRepo : Bool} {env : ReadEnv} {ctx : Ctx} {db : ReadDB} {ws : UUID}

theorem map_ok {ε α β : Type} {f : α → β} {x : Except ε α} {b : β} (h : x.map f = .ok b) : ∃ a, x = .ok a ∧ f a = b := by
  cases x with
  | error e => cases h
  | ok a => exact ⟨a, rfl, Except.ok.inj h⟩

theorem mem_listChatMessages {chatID : UUID} {beforeUID afterUID : String} {limit : Int} {l : List ChatMessage}
    (h : listChatMessages env db ws chatID beforeUID afterUID limit = .ok l) : ∀ m ∈ l, m.workspaceID = ws := by
  have hsorted : ∀ rows : List ChatMessage, (∀ m ∈ rows, m ∈ db.messages.filter fun m =>
      decide (m.workspaceID = ws) && decide (m.chatID = chatID)) → ∀ m ∈ ascending rows, m.workspaceID = ws := by
    intro rows hrows m hm
    have hrow := (List.mem_filter.mp (hrows m ((List.mem_insertionSort _).mp hm))).2
    simp only [Bool.and_eq_true, decide_eq_true_eq] at hrow
    exact hrow.1
  unfold listChatMessages at h
  split at h
  · cases h
  split at h
  · cases h
  split at h
  · cases h
  simp only at h
  split at h
  · cases h
    intro m hm
    have hm' := List.mem_reverse.mp (List.mem_of_mem_take (List.mem_reverse.mp hm))
    exact hsorted _ (fun x hx => (List.mem_filter.mp hx).1) m hm'
  split at h
  · cases h
    intro m hm
    exact hsorted _ (fun x hx => (List.mem_filter.mp hx).1) m (List.mem_of_mem_take hm)
  · cases h
    intro m hm
    have hm' := List.mem_reverse.mp (List.mem_of_mem_take (List.mem_reverse.mp hm))
    exact hsorted _ (fun x hx => hx) m hm'

theorem mem_listThreadByContact {contactID : UUID} {afterID : Option UUID} {l : List ThreadMessage}
    (h : listThreadByContact env db ws contactID afterID = .ok l) : ∀ m ∈ l, m.message.workspaceID = ws := by
  unfold listThreadByContact at h
  split at h
  · cases h
  split at h
  · cases h
  cases h
  intro t ht
  obtain ⟨m, hm, rfl⟩ := List.mem_map.mp ht
  have hrow := (List.mem_insertionSort _).mp hm
  have hfilter : m ∈ db.messages.filter fun m => m.workspaceID = ws && db.chats.any fun c =>
      c.workspaceID = m.workspaceID && c.id = m.chatID && c.contactID = contactID := by
    cases afterID with
    | none => exact hrow
    | some id => exact (List.mem_filter.mp hrow).1
  have hws := (List.mem_filter.mp hfilter).2
  rw [Bool.and_eq_true, decide_eq_true_eq] at hws
  exact hws.1

/-- An operation that answers the same on the rows of `ws`, and from `ws` only. -/
theorem confined_of_own {α : Type} {f : α → ReadResult} {ofOwn ofAll : Except EngineError α} (hsame : ofOwn = ofAll)
    (hbelongs : ∀ a, ofAll = .ok a → ∀ w ∈ (f a).workspaces, w = ws) : Confined ws (ofOwn.map f) (ofAll.map f) where
  same := by rw [hsame]
  belongs res hres := by
    rw [hsame] at hres
    obtain ⟨a, ha, rfl⟩ := map_ok hres
    exact hbelongs a ha

theorem confined_resolveChat (hctx : authWorkspace ctx = some ws) (requested : UUID) (ref : ChatRef) :
    Confined ws (read contactRepo env ctx (own ws db) (.resolveChat requested ref))
      (read contactRepo env ctx db (.resolveChat requested ref)) := by
  have hanswers : Answers ws (resolveChat contactRepo env ctx (own ws db) requested ref)
      (resolveChat contactRepo env ctx db requested ref) := resolveChat_answers hctx requested ref
  refine confined_of_own hanswers.same fun c hc w hw => ?_
  rw [List.mem_singleton.mp hw]
  exact hanswers.belongs c hc

theorem confined_listMessages (hctx : authWorkspace ctx = some ws) (requested : UUID) (ref : ChatRef)
    (beforeUID afterUID : String) (limit : Int) :
    Confined ws (read contactRepo env ctx (own ws db) (.listMessages requested ref beforeUID afterUID limit))
      (read contactRepo env ctx db (.listMessages requested ref beforeUID afterUID limit)) := by
  have hanswers : Answers ws (resolveChat contactRepo env ctx (own ws db) requested ref)
      (resolveChat contactRepo env ctx db requested ref) := resolveChat_answers hctx requested ref
  refine confined_of_own ?_ fun r hr w hw => ?_
  · unfold listMessages
    rw [hanswers.same]
    cases hc : resolveChat contactRepo env ctx db requested ref with
    | error e => rfl
    | ok c =>
      have hws := hanswers.belongs c hc
      show (orFail (listChatMessages env (own ws db) c.workspaceID c.id beforeUID afterUID (clampLimit limit)) >>=
          fun messages => pure (c, messages)) =
        (orFail (listChatMessages env db c.workspaceID c.id beforeUID afterUID (clampLimit limit)) >>=
          fun messages => pure (c, messages))
      rw [hws, listChatMessages_own]
  · obtain ⟨c, hc, hr⟩ := bind_ok hr
    obtain ⟨l, hl, hr⟩ := bind_ok hr
    cases hr
    have hws := hanswers.belongs c hc
    rw [hws] at hl
    rcases List.mem_cons.mp hw with rfl | hw
    · exact hws
    · obtain ⟨m, hm, rfl⟩ := List.mem_map.mp hw
      exact mem_listChatMessages (orFail_ok hl) m hm

theorem confined_listThread (hctx : authWorkspace ctx = some ws) (requested contactID : UUID)
    (afterID : Option UUID) :
    Confined ws (read contactRepo env ctx (own ws db) (.listThread requested contactID afterID))
      (read contactRepo env ctx db (.listThread requested contactID afterID)) := by
  have hanswers : Answers ws (resolveChat contactRepo env ctx (own ws db) ws { contactID := contactID })
      (resolveChat contactRepo env ctx db ws { contactID := contactID }) := resolveChat_answers hctx ws _
  refine confined_of_own ?_ fun l hl w hw => ?_
  · unfold listThread
    rcases enforceScope_auth hctx requested with h | h
    · rw [h]
      simp only [hanswers.same, listThreadByContact_own]
    · rw [h]
  · obtain ⟨m, hm, rfl⟩ := List.mem_map.mp hw
    unfold listThread at hl
    split at hl
    · cases hl
      cases hm
    rcases enforceScope_auth hctx requested with h | h
    · rw [h] at hl
      simp only [if_neg (authWorkspace_ne_nil hctx)] at hl
      split at hl
      · exact mem_listThreadByContact (orFail_ok hl) m hm
      · exact mem_listThreadByContact (orFail_ok hl) m hm
      · cases hl
    · rw [h] at hl
      cases hl

/-- The message `GetMessage` finds, in the workspace or by its uid alone. -/
def foundMessage (env : ReadEnv) (db : ReadDB) (ws : UUID) (uid : String) : Option ChatMessage :=
  (getChatMessageByUID env db ws uid).toOption.orElse fun _ =>
    (findMessageByUID env db uid).toOption.filter fun m => m.workspaceID = ws

theorem foundMessage_workspace {uid : String} {m : ChatMessage} (h : foundMessage env db ws uid = some m) :
    m.workspaceID = ws := by
  unfold foundMessage at h
  rcases Option.or_eq_some_iff.mp (Option.orElse_eq_or.symm.trans h) with h | ⟨-, h⟩
  · unfold getChatMessageByUID at h
    split at h
    · cases h
    split at h
    · cases h
    split at h
    · cases h
    · rename_i m' hfind
      have hrow := List.find?_some hfind
      simp only [Bool.and_eq_true, decide_eq_true_eq] at hrow
      cases h
      exact hrow.1
  · simpa using (Option.filter_eq_some_iff.mp h).2

theorem foundMessage_own (uid : String) : foundMessage env (own ws db) ws uid = foundMessage env db ws uid := by
  unfold foundMessage
  rw [getChatMessageByUID_own, findMessageByUID_own]

/-- What `GetMessage` answers for the message it found. -/
def withChat (contactRepo : Bool) (env : ReadEnv) (db : ReadDB) (msg : ChatMessage) :
    ChatMessage × Option Chat × Option Contact :=
  let chat := if msg.chatID ≠ UUID.Nil then
      (getChat env db msg.workspaceID msg.chatID).toOption.map (deriveEffectiveStatus env)
    else none
  let contact := (chat.filter fun c => contactRepo && c.contactID ≠ UUID.Nil).bind fun c =>
    (getContact env db c.workspaceID c.contactID).toOption
  (msg, chat, contact)

theorem chat_workspace {msg : ChatMessage} {c : Chat} (h : (withChat contactRepo env db msg).2.1 = some c) :
    c.workspaceID = msg.workspaceID := by
  unfold withChat at h
  simp only at h
  split at h
  · obtain ⟨c₀, hget, rfl⟩ := Option.map_eq_some_iff.mp h
    cases hc : getChat env db msg.workspaceID msg.chatID with
    | error e =>
      rw [hc] at hget
      cases hget
    | ok c =>
      rw [hc] at hget
      cases hget
      have hws := getChat_workspace hc
      exact hws
  · cases h

theorem withChat_own {msg : ChatMessage} (hmsg : msg.workspaceID = ws) :
    withChat contactRepo env (own ws db) msg = withChat contactRepo env db msg := by
  have hchat : (withChat contactRepo env (own ws db) msg).2.1 = (withChat contactRepo env db msg).2.1 := by
    unfold withChat
    simp only [hmsg, getChat_own]
  have hcontact : (withChat contactRepo env (own ws db) msg).2.2 = (withChat contactRepo env db msg).2.2 := by
    show ((withChat contactRepo env (own ws db) msg).2.1.filter _).bind _ =
      ((withChat contactRepo env db msg).2.1.filter _).bind _
    rw [hchat]
    refine Option.bind_congr fun c hc => ?_
    have hc := chat_workspace (Option.mem_filter_iff.mp hc).1
    rw [hc.trans hmsg, getContact_own]
  exact Prod.ext rfl (Prod.ext hchat hcontact)

theorem getMessage_auth (hctx : authWorkspace ctx = some ws) {requested : UUID}
    (hscope : enforceScope ctx requested = .ok ws) (uid : String) :
    getMessage contactRepo env ctx db requested uid =
      if trimSpace uid = "" then .error .messageNotFound
      else match foundMessage env db ws (trimSpace uid) with
        | none => .error .messageNotFound
        | some msg => .ok (withChat contactRepo env db msg) := by
  have hws := authWorkspace_ne_nil hctx
  have hfilter : (fun m : ChatMessage => decide (ws = UUID.Nil) || decide (m.workspaceID = ws)) =
      fun m => decide (m.workspaceID = ws) := by
    funext m
    simp [hws]
  have hfound : ((if ws ≠ UUID.Nil then (getChatMessageByUID env db ws (trimSpace uid)).toOption else none).orElse
      fun _ => (findMessageByUID env db (trimSpace uid)).toOption.filter
        fun m => ws = UUID.Nil || m.workspaceID = ws) = foundMessage env db ws (trimSpace uid) := by
    rw [if_pos hws, hfilter]
    rfl
  unfold getMessage
  rw [hscope]
  simp only [hfound]
  split
  · rfl
  cases hmsg : foundMessage env db ws (trimSpace uid) with
  | none => rfl
  | some msg =>
    have hown := foundMessage_workspace hmsg
    have hscope : enforceScope ctx msg.workspaceID = .ok ws := by
      unfold enforceScope
      rw [hctx]
      simp [hown]
    simp only [hscope]
    rw [if_neg fun hne => hne.2 hown]
    rfl

theorem getMessage_refused {requested : UUID} {e : String} (hscope : enforceScope ctx requested = .error e)
    (uid : String) : getMessage contactRepo env ctx db requested uid = .error (.scope e) := by
  unfold getMessage
  rw [hscope]

theorem confined_getMessage (hctx : authWorkspace ctx = some ws) (requested : UUID) (uid : String) :
    Confined ws (read contactRepo env ctx (own ws db) (.getMessage requested uid))
      (read contactRepo env ctx db (.getMessage requested uid)) := by
  rcases enforceScope_auth hctx requested with h | h
  · refine confined_of_own ?_ fun r hr w hw => ?_
    · rw [getMessage_auth hctx h, getMessage_auth hctx h, foundMessage_own]
      cases hfound : foundMessage env db ws (trimSpace uid) with
      | none => rfl
      | some msg => simp only [withChat_own (foundMessage_workspace hfound)]
    · rw [getMessage_auth hctx h] at hr
      split at hr
      · cases hr
      split at hr
      · cases hr
      · rename_i msg hfound
        have hmsg := foundMessage_workspace hfound
        cases hr
        rcases List.mem_cons.mp hw with rfl | hw
        · exact hmsg
        · obtain ⟨c, hc, rfl⟩ := List.mem_map.mp hw
          exact (chat_workspace (Option.mem_toList.mp hc)).trans hmsg
  · refine confined_of_own ?_ fun r hr => ?_
    · rw [getMessage_refused h, getMessage_refused h]
    · rw [getMessage_refused h] at hr
      cases hr

/-! ## Listing -/

theorem summarize_own (c : Chat) :
    summarize contactRepo env (own ws db) ws c = summarize contactRepo env db ws c := by
  unfold summarize
  simp only [getContacts_own, getContact_own]

theorem summarize_chat (requested : UUID) (c : Chat) : (summarize contactRepo env db requested c).chat = c := by
  unfold summarize
  simp only
  split <;> rfl

theorem mem_list {requested : UUID} {f : ChatFilter} {limit offset : Int} {l : List ChatSummary}
    (h : list contactRepo env db requested f limit offset = .ok l) :
    requested ≠ UUID.Nil ∧ env.fails .listChats = none ∧
      l = (((selectChats env db requested f limit offset).map (hydrateChat env db)).filter (statusKept env f)).map
        fun c => summarize contactRepo env db requested (deriveEffectiveStatus env c) := by
  obtain ⟨chats, hchats, hl⟩ := bind_ok h
  have hchats := orFail_ok hchats
  unfold listChats at hchats
  split at hchats
  · cases hchats
  split at hchats
  · cases hchats
  · cases hchats
    cases hl
    exact ⟨‹_›, ‹_›, rfl⟩

theorem mem_list_workspace {requested : UUID} {f : ChatFilter} {limit offset : Int} {l : List ChatSummary}
    (h : list contactRepo env db requested f limit offset = .ok l) : ∀ s ∈ l, s.chat.workspaceID = requested := by
  obtain ⟨-, -, rfl⟩ := mem_list h
  intro s hs
  obtain ⟨c, hc, rfl⟩ := List.mem_map.mp hs
  obtain ⟨row, hrow, rfl⟩ := List.mem_map.mp (List.mem_filter.mp hc).1
  rw [summarize_chat]
  show row.workspaceID = requested
  exact mem_selectChats hrow

theorem confined_list_own (f : ChatFilter) (limit offset : Int) :
    Confined ws (read contactRepo env ctx (own ws db) (.list ws f limit offset))
      (read contactRepo env ctx db (.list ws f limit offset)) := by
  refine confined_of_own ?_ fun l hl w hw => ?_
  · unfold list
    simp only [listChats_own, summarize_own]
  · obtain ⟨s, hs, rfl⟩ := List.mem_map.mp hw
    exact mem_list_workspace hl s hs

theorem list_nothing {requested : UUID} {f : ChatFilter} {limit offset : Int}
    (h : NothingListed env db requested f limit offset) :
    list contactRepo env db requested f limit offset =
      if requested = UUID.Nil then .error (.repo .invalidWorkspaceID)
      else match env.fails .listChats with
        | some e => .error (.repo (.db e))
        | none => .ok [] := by
  unfold list listChats
  by_cases hnil : requested = UUID.Nil
  · rw [if_pos hnil, if_pos hnil]
    rfl
  rw [if_neg hnil, if_neg hnil]
  cases hfail : env.fails .listChats with
  | some e => rfl
  | none =>
    rcases h with h | h | h
    · exact absurd h hnil
    · exact absurd hfail h
    · show Except.ok _ = Except.ok _
      rw [List.filter_map, List.filter_eq_nil_iff.mpr]
      · rfl
      · intro c hc
        simpa using h c hc

variable (contactRepo) in
theorem nothingListed_iff {requested : UUID} {f : ChatFilter} {limit offset : Int} :
    NothingListed env db requested f limit offset ↔
      ∀ l, list contactRepo env db requested f limit offset = .ok l → l = [] := by
  constructor
  · intro h l hl
    rw [list_nothing h] at hl
    split at hl
    · cases hl
    split at hl
    · cases hl
    · exact (Except.ok.inj hl).symm
  · intro h
    by_cases hnil : requested = UUID.Nil
    · exact .inl hnil
    cases hfail : env.fails .listChats with
    | some e => exact .inr (.inl (by rw [hfail]; exact Option.some_ne_none e))
    | none =>
      refine .inr (.inr fun c hc => ?_)
      have hl := h (((selectChats env db requested f limit offset).map (hydrateChat env db)).filter
        (statusKept env f) |>.map fun c => summarize contactRepo env db requested (deriveEffectiveStatus env c)) (by
          unfold list listChats
          rw [if_neg hnil, hfail]
          rfl)
      have hempty := List.filter_eq_nil_iff.mp (List.map_eq_nil_iff.mp hl) _ (List.mem_map_of_mem hc)
      simpa using hempty

theorem Confined.join {r₁ r₁' r₂ r₂' : Except EngineError ReadResult} (h₁ : Confined ws r₁' r₁)
    (h₂ : Confined ws r₂' r₂) (h : r₁' = r₂') : Confined ws r₁ r₂ where
  same := h₁.same.symm.trans (h.trans h₂.same)
  belongs res hres := h₁.belongs res (h₁.same.trans hres)

theorem confined_list_foreign {db₁ db₂ : ReadDB} {requested : UUID} {f : ChatFilter} {limit offset : Int}
    (hne : requested ≠ ws) :
    Confined ws (read contactRepo env ctx db₁ (.list requested f limit offset))
        (read contactRepo env ctx db₂ (.list requested f limit offset)) ↔
      NothingListed env db₁ requested f limit offset ∧ NothingListed env db₂ requested f limit offset := by
  constructor
  · intro hconf
    have hfirst : ∀ l, list contactRepo env db₁ requested f limit offset = .ok l → l = [] := by
      intro l hl
      cases l with
      | nil => rfl
      | cons s l =>
        have hres : read contactRepo env ctx db₁ (.list requested f limit offset) = .ok (.chats (s :: l)) :=
          congrArg (Except.map ReadResult.chats) hl
        have hs := hconf.belongs _ hres s.chat.workspaceID (List.mem_map_of_mem List.mem_cons_self)
        exact absurd ((mem_list_workspace hl s List.mem_cons_self).symm.trans hs) hne
    refine ⟨(nothingListed_iff contactRepo).mpr hfirst, (nothingListed_iff contactRepo).mpr fun l hl => ?_⟩
    have hres : read contactRepo env ctx db₁ (.list requested f limit offset) = .ok (.chats l) := by
      rw [hconf.same]
      exact congrArg (Except.map ReadResult.chats) hl
    obtain ⟨l₁, hl₁, heq⟩ := map_ok hres
    cases heq
    exact hfirst l hl₁
  · rintro ⟨h₁, h₂⟩
    have hsame : list contactRepo env db₁ requested f limit offset = list contactRepo env db₂ requested f limit offset := by
      rw [list_nothing h₁, list_nothing h₂]
    refine confined_of_own hsame fun l hl w hw => ?_
    rw [(nothingListed_iff contactRepo).mp h₂ l hl] at hw
    cases hw

end Reads

/-- Under an authenticated workspace, on stores that agree on its rows, a read answers the same
and from that workspace only, unless it lists another workspace that has something to list. -/
theorem reads_confined (contactRepo : Bool) (env : ReadEnv) (ctx : Ctx) (ws : UUID) (db₁ db₂ : ReadDB) (op : ReadOp)
    (hctx : authWorkspace ctx = some ws) (hagree : own ws db₁ = own ws db₂) :
    Confined ws (read contactRepo env ctx db₁ op) (read contactRepo env ctx db₂ op) ↔ KeepsScope env ws db₁ db₂ op := by
  cases op with
  | list requested f limit offset =>
    by_cases hreq : requested = ws
    · subst hreq
      refine iff_of_true ?_ (.inl rfl)
      exact (confined_list_own f limit offset).join (confined_list_own f limit offset) (by rw [hagree])
    · rw [confined_list_foreign hreq]
      exact ⟨.inr, fun h => h.resolve_left hreq⟩
  | resolveChat requested ref =>
    refine iff_of_true ?_ trivial
    exact (confined_resolveChat hctx requested ref).join (confined_resolveChat hctx requested ref) (by rw [hagree])
  | listMessages requested ref beforeUID afterUID limit =>
    refine iff_of_true ?_ trivial
    exact (confined_listMessages hctx requested ref beforeUID afterUID limit).join
      (confined_listMessages hctx requested ref beforeUID afterUID limit) (by rw [hagree])
  | listThread requested contactID afterID =>
    refine iff_of_true ?_ trivial
    exact (confined_listThread hctx requested contactID afterID).join
      (confined_listThread hctx requested contactID afterID) (by rw [hagree])
  | getMessage requested uid =>
    refine iff_of_true ?_ trivial
    exact (confined_getMessage hctx requested uid).join (confined_getMessage hctx requested uid) (by rw [hagree])

/-! A store where workspace 1 has the chat 10, and other workspaces have more. -/

def callerCtx : Ctx := { Ctx.empty with tenant := some 1 }

def env₀ : ReadEnv := { sqlNow := 0, now := 0, fails := fun _ => none, ilike := fun _ _ => false }

def chatOf (id ws : UUID) : ChatRow :=
  { id := id, workspaceID := ws, connectionID := none, contactID := UUID.Nil, status := .open_, snoozedUntil := none,
    assignedEmail := none, unreadCount := 0, lastMessageAt := 0 }

def storeWith (others : List ChatRow) : ReadDB :=
  { chats := others ++ [chatOf 10 1], messages := [], contacts := [], identities := [], connections := [], tags := [],
    dispatches := [], uids := List.nodup_nil }

/-- The caller reads its own chat, whoever else has a chat. -/
theorem own_chat_read : Confined 1 (read true env₀ callerCtx (storeWith [chatOf 20 2]) (.resolveChat 0 { chatID := 10 }))
    (read true env₀ callerCtx (storeWith []) (.resolveChat 0 { chatID := 10 })) :=
  (reads_confined true env₀ callerCtx 1 (storeWith [chatOf 20 2]) (storeWith []) (.resolveChat 0 { chatID := 10 })
    (by decide) (by decide)).mpr trivial

theorem foreign_chats_listed : authWorkspace callerCtx = some 1 ∧ own 1 (storeWith [chatOf 20 2]) = own 1 (storeWith []) ∧
    ((list true env₀ (storeWith [chatOf 20 2]) 2 {} 50 0).toOption.map fun l => l.map (·.chat.toChatRow)) =
      some [chatOf 20 2] ∧
    ¬ Confined 1 (read true env₀ callerCtx (storeWith [chatOf 20 2]) (.list 2 {} 50 0))
      (read true env₀ callerCtx (storeWith []) (.list 2 {} 50 0)) := by
  have hlist : ((list true env₀ (storeWith [chatOf 20 2]) 2 {} 50 0).toOption.map fun l => l.map (·.chat.toChatRow)) =
      some [chatOf 20 2] := by decide +kernel
  refine ⟨by decide, by decide, hlist, fun hconf => ?_⟩
  obtain ⟨l, hl, hrows⟩ := Option.map_eq_some_iff.mp hlist
  have hnil := (nothingListed_iff true).mp ((confined_list_foreign (by decide)).mp hconf).1 l
  cases hres : list true env₀ (storeWith [chatOf 20 2]) 2 {} 50 0 with
  | error e =>
    rw [hres] at hl
    cases hl
  | ok l' =>
    rw [hres] at hl
    cases hl
    rw [hnil hres] at hrows
    cases hrows

end PerGo.L4.ReadScope
