import PerGo.Core.LTS
import PerGo.L3Chat.RecorderSpec

/-!
# Unread messages

`Recorder.Inbound`, `Recorder.Outbound`, `Recorder.SetAI` and `ChatRepository.ResetUnread`
in any order, on any chats of any workspaces, each call one transaction and repeated as
often as its caller likes. Connections and identities change freely in between.

`unread_count` is written as an absolute value that was read under the lock of the row.
`St.mark` remembers how many messages the table had at a chat's last `ResetUnread`, so
that `unreadSince` counts the inbound messages of the chat that came later.

* `recording_idempotent`: a uid is recorded once, a repeated turn is a duplicate that
  changes no chat, and `unread_count` is `unreadSince`.
-/
namespace PerGo.L4.UnreadCount

open PerGo.Core PerGo.L1 PerGo.L2 PerGo.L3.Recorder

structure St where
  db : ChatDB
  /-- the number of messages at the last reset of a chat, zero before the first -/
  mark : UUID → Nat

def init (connections : List (UUID × String)) (identities : List ContactIdentity) : St :=
  ⟨⟨connections, identities, [], []⟩, fun _ => 0⟩

inductive Lbl
  | inbound (env : ActEnv) (ws : UUID) (turn : L3.Recorder.InboundTurn)
  | outbound (env : ActEnv) (ws : UUID) (turn : OutboundTurn)
  | setAI (env : ActEnv) (ws : UUID) (ref : ChatRef) (change : AIChange) (traceID : String)
  | resetUnread (ws chatID : UUID)
  /-- someone else changes connections and identities -/
  | others (connections : List (UUID × String)) (identities : List ContactIdentity)

def fresh (s : St) (env : ActEnv) : Bool := env.newChatID ∉ s.db.chats.map (·.id)

/-- The tables after a call; one that fails is rolled back. -/
def after {ε ρ : Type} (s : St) (result : Except ε (ρ × ChatDB)) : St :=
  match result with
  | .ok (_, db) => { s with db := db }
  | .error _ => s

def step (s : St) : Lbl → Option St
  | .inbound env ws turn => if fresh s env then some (after s (inbound s.db env ws turn)) else none
  | .outbound env ws turn => if fresh s env then some (after s (outbound s.db env ws turn)) else none
  | .setAI env ws ref change trace => if fresh s env then some (after s (setAI s.db env ws ref change trace)) else none
  | .resetUnread ws chatID =>
    match resetUnread s.db ws chatID with
    | .error _ => some s
    | .ok db =>
      let hit := s.db.chats.any fun c => c.workspaceID = ws && c.id = chatID
      some ⟨db, fun id => if hit && id = chatID then s.db.messages.length else s.mark id⟩
  | .others connections identities =>
    some { s with db := { s.db with connections := connections, identities := identities } }

def sys (connections : List (UUID × String)) (identities : List ContactIdentity) : LTS St Lbl :=
  LTS.ofFn (init connections identities) step

def inboundOf (chat : UUID) (m : ChatMessage) : Bool := m.chatID = chat && m.direction = .inbound

def unreadSince (s : St) (chat : UUID) : Nat := (s.db.messages.drop (s.mark chat)).countP (inboundOf chat)

structure Idempotent (s : St) : Prop where
  once : (s.db.messages.map fun m => (m.workspaceID, m.uid)).Nodup
  /-- a turn that finds its uid recorded is a duplicate and changes nothing -/
  inbound : ∀ env ws turn msg, InboundFinds s.db env ws turn msg →
    ∃ r db', inbound s.db env ws turn = .ok (r, db') ∧ r.duplicate = true ∧ r.message = msg ∧ Unchanged s.db db'
  outbound : ∀ env ws turn msg, OutboundFinds s.db env ws turn msg →
    ∃ r db', outbound s.db env ws turn = .ok (r, db') ∧ r.duplicate = true ∧ r.message = msg ∧ Unchanged s.db db'
  /-- a turn whose uid is recorded succeeds in no other way -/
  inboundOnly : ∀ env ws turn r db', (loadMessageByUID s.db ws (trimSpace turn.uid)).isSome →
    L3.Recorder.inbound s.db env ws turn = .ok (r, db') → r.duplicate = true
  outboundOnly : ∀ env ws turn r db', (loadMessageByUID s.db ws (trimSpace turn.uid)).isSome →
    L3.Recorder.outbound s.db env ws turn = .ok (r, db') → r.duplicate = true
  unread : ∀ c ∈ s.db.chats, c.unreadCount = unreadSince s c.id

/-! ## The invariant -/

def counted (c : ChatState) : UUID × Int := (c.id, c.unreadCount)

structure Inv (s : St) : Prop where
  uids : (s.db.messages.map (·.uid)).Nodup
  ids : (s.db.chats.map (·.id)).Nodup
  /-- a message is one of an existing chat -/
  owned : ∀ m ∈ s.db.messages, m.chatID ∈ s.db.chats.map (·.id)
  marks : ∀ id, s.mark id ≤ s.db.messages.length
  unread : ∀ x ∈ s.db.chats.map counted, x.2 = unreadSince s x.1

theorem inv_init (connections : List (UUID × String)) (identities : List ContactIdentity) :
    Inv (init connections identities) := by
  constructor
  · exact List.nodup_nil
  · exact List.nodup_nil
  · intro m hm
    cases hm
  · intro id
    exact Nat.le_refl 0
  · intro x hx
    cases hx

theorem Inv.congr {s : St} (h : Inv s) {db : ChatDB} (hm : db.messages = s.db.messages)
    (hc : db.chats.map counted = s.db.chats.map counted) : Inv { s with db := db } := by
  have hids : db.chats.map (·.id) = s.db.chats.map (·.id) := by
    have := congrArg (List.map Prod.fst) hc
    rw [List.map_map, List.map_map] at this
    exact this
  constructor
  · simp only [hm]
    exact h.uids
  · simp only [hids]
    exact h.ids
  · simp only [hm, hids]
    exact h.owned
  · simp only [hm]
    exact h.marks
  · simp only [hc, unreadSince, hm]
    exact h.unread

theorem inv_resolved {s : St} (h : Inv s) {env : ActEnv} {ws : UUID} {st : ChatState} {db : ChatDB}
    (hfresh : fresh s env = true) (hr : Resolved s.db env ws st db) : Inv { s with db := db } := by
  have hcounted : ∀ l : List ChatState, (l.map unbound).map counted = l.map counted := by
    intro l
    rw [List.map_map]
    rfl
  have hids : ∀ l : List ChatState, (l.map unbound).map (·.id) = l.map (·.id) := by
    intro l
    rw [List.map_map]
    rfl
  rcases hr.chats with hc | ⟨contact, conn, now, hc⟩
  · refine h.congr hr.messages ?_
    rw [← hcounted, hc, hcounted]
  · have hnew : env.newChatID ∉ s.db.chats.map (·.id) := by
      simpa only [fresh, decide_eq_true_eq] using hfresh
    have hi : db.chats.map (·.id) = s.db.chats.map (·.id) ++ [env.newChatID] := by
      rw [← hids, hc, List.map_append, hids]
      rfl
    have hcnt : db.chats.map counted = s.db.chats.map counted ++ [(env.newChatID, 0)] := by
      rw [← hcounted, hc, List.map_append, hcounted]
      rfl
    constructor
    · simp only [hr.messages]
      exact h.uids
    · simp only [hi]
      exact List.nodup_append'.mpr ⟨h.ids, List.nodup_singleton _, by simpa [List.Disjoint] using hnew⟩
    · intro m hm
      simp only [hr.messages] at hm
      simp only [hi]
      exact List.mem_append_left _ (h.owned m hm)
    · simp only [hr.messages]
      exact h.marks
    · intro x hx
      simp only [hcnt] at hx
      simp only [unreadSince, hr.messages]
      rcases List.mem_append.mp hx with hx | hx
      · exact h.unread x hx
      · rw [List.mem_singleton.mp hx]
        -- no message refers to an id that was not in use
        have hzero : (s.db.messages.drop (s.mark env.newChatID)).countP (inboundOf env.newChatID) = 0 := by
          rw [List.countP_eq_zero]
          intro m hm hin
          simp only [inboundOf, Bool.and_eq_true, decide_eq_true_eq] at hin
          exact hnew (hin.1 ▸ h.owned m (List.mem_of_mem_drop hm))
        simp only [hzero]
        rfl

theorem inv_stored {s : St} (h : Inv s) {st : ChatState} {msg : ChatMessage} {db : ChatDB} {n : Int}
    (hs : Stored s.db st msg n db) (hn : n = if msg.direction = .inbound then 1 else 0)
    (hrow : ∃ c ∈ s.db.chats, c.id = st.id ∧ c.workspaceID = st.workspaceID ∧ c.unreadCount = st.unreadCount) :
    Inv { s with db := db } := by
  obtain ⟨f, hf, hchats⟩ := hs.chats
  obtain ⟨row, hmem, hid, hws, hun⟩ := hrow
  have hids : db.chats.map (·.id) = s.db.chats.map (·.id) := by
    rw [hchats]
    exact map_updateWhere (fun c => (hf c).1) _
  have hsince : ∀ id, unreadSince { s with db := db } id =
      unreadSince s id + if inboundOf id msg then 1 else 0 := by
    intro id
    simp only [unreadSince, hs.messages]
    rw [List.drop_append_of_le_length (h.marks id), List.countP_append, List.countP_singleton]
  constructor
  · simp only [hs.messages, List.map_append, List.map_cons, List.map_nil]
    exact List.nodup_append'.mpr ⟨h.uids, List.nodup_singleton _, by simpa [List.Disjoint] using hs.new⟩
  · simp only [hids]
    exact h.ids
  · intro m hm
    simp only [hs.messages] at hm
    simp only [hids]
    rcases List.mem_append.mp hm with hm | hm
    · exact h.owned m hm
    · rw [List.mem_singleton.mp hm, hs.chat, ← hid]
      exact List.mem_map_of_mem hmem
  · intro id
    simp only [hs.messages, List.length_append]
    exact Nat.le_add_right_of_le (h.marks id)
  · intro x hx
    obtain ⟨c, hc, rfl⟩ := List.mem_map.mp hx
    rw [hchats] at hc
    obtain ⟨c₀, hc₀, heq⟩ := mem_updateWhere hc
    have hold : c₀.unreadCount = unreadSince s c₀.id := h.unread (counted c₀) (List.mem_map_of_mem hc₀)
    show c.unreadCount = ((unreadSince { s with db := db } c.id : Nat) : Int)
    rw [hsince]
    by_cases hkey : c₀.id = st.id
    · -- ids are unique, so this is the row that was locked
      have hc₀row : c₀ = row := eq_of_key_eq h.ids hc₀ hmem (hkey.trans hid.symm)
      subst hc₀row
      rw [if_pos (by simp [hws, hkey])] at heq
      have hin : inboundOf st.id msg = decide (msg.direction = .inbound) := by simp [inboundOf, hs.chat]
      rw [heq, (hf c₀).1, (hf c₀).2, hkey, hin, ← hun, hold, hkey, hn]
      simp
    · rw [if_neg (by simp [hkey])] at heq
      have hin : inboundOf c₀.id msg = false := by
        simp only [inboundOf, hs.chat, Bool.and_eq_false_iff, decide_eq_false_iff_not]
        exact Or.inl fun he => hkey he.symm
      rw [heq, hin, hold]
      simp

theorem inv_reset {s : St} (h : Inv s) (ws chatID : UUID) {db : ChatDB} (hr : resetUnread s.db ws chatID = .ok db) :
    Inv ⟨db, fun id =>
      if (s.db.chats.any fun c => c.workspaceID = ws && c.id = chatID) && id = chatID then s.db.messages.length
      else s.mark id⟩ := by
  unfold resetUnread at hr
  split at hr
  · cases hr
  · split at hr
    · cases hr
    · cases hr
      have hids : (updateWhere (fun c : ChatState => c.workspaceID = ws && c.id = chatID && c.unreadCount > 0)
          (fun c => { c with unreadCount := 0 }) s.db.chats).map (·.id) = s.db.chats.map (·.id) := by
        apply map_updateWhere
        intro c
        rfl
      constructor
      · exact h.uids
      · simp only [hids]
        exact h.ids
      · simp only [hids]
        exact h.owned
      · intro id
        simp only
        split
        · exact Nat.le_refl _
        · exact h.marks id
      · intro x hx
        obtain ⟨c, hc, rfl⟩ := List.mem_map.mp hx
        obtain ⟨c₀, hc₀, heq⟩ := mem_updateWhere hc
        have hold : c₀.unreadCount = unreadSince s c₀.id := h.unread (counted c₀) (List.mem_map_of_mem hc₀)
        have hcid : c.id = c₀.id := by
          rw [heq]
          split <;> rfl
        show c.unreadCount = ((unreadSince _ c.id : Nat) : Int)
        rw [hcid]
        simp only [unreadSince]
        by_cases hhit : ((s.db.chats.any fun c => c.workspaceID = ws && c.id = chatID) && c₀.id = chatID) = true
        · rw [if_pos hhit, List.drop_length, List.countP_nil]
          simp only [Bool.and_eq_true, decide_eq_true_eq, List.any_eq_true] at hhit
          obtain ⟨⟨row, hmem, hws, hid⟩, hkey⟩ := hhit
          have hrow : row = c₀ := eq_of_key_eq h.ids hmem hc₀ (hid.trans hkey.symm)
          subst hrow
          rw [heq]
          split
          · rfl
          · -- the count was zero already
            rename_i hpos
            simp only [hws, hid, decide_true, Bool.and_self, Bool.true_and, decide_eq_true_eq] at hpos
            omega
        · have hmiss : (decide (c₀.workspaceID = ws) && decide (c₀.id = chatID)) = false := by
            rw [← Bool.not_eq_true]
            intro hp
            refine hhit (Bool.and_eq_true_iff.mpr ⟨List.any_eq_true.mpr ⟨c₀, hc₀, hp⟩, ?_⟩)
            exact (Bool.and_eq_true_iff.mp hp).2
          rw [if_neg hhit]
          rw [hmiss, Bool.false_and, if_neg (by decide)] at heq
          rw [heq]
          exact hold

theorem inv_inbound {s : St} (h : Inv s) {env : ActEnv} {ws : UUID} {turn : L3.Recorder.InboundTurn}
    {r : InboundReceipt} {db : ChatDB} (hfresh : fresh s env = true) (hok : inbound s.db env ws turn = .ok (r, db)) :
    Inv { s with db := db } := by
  rcases inbound_ok hok with ⟨hfinds, -⟩ | ⟨st, db₁, hr, hs, -, -, hdir, -⟩
  · obtain ⟨r', db', st, hok', -, -, hr⟩ := inbound_duplicate hfinds
    rw [hok'] at hok
    cases hok
    exact inv_resolved h hfresh hr
  · have h₁ := inv_resolved h hfresh hr
    refine inv_stored h₁ hs (by rw [hdir]; rfl) ?_
    rw [hr.workspace]
    exact hr.row

theorem inv_outbound {s : St} (h : Inv s) {env : ActEnv} {ws : UUID} {turn : OutboundTurn} {r : OutboundReceipt}
    {db : ChatDB} (hfresh : fresh s env = true) (hok : outbound s.db env ws turn = .ok (r, db)) :
    Inv { s with db := db } := by
  rcases outbound_ok hok with ⟨hfinds, -⟩ | ⟨st, db₁, hr, hs, -, -, hdir, -⟩
  · obtain ⟨r', db', st, hok', -, -, hr⟩ := outbound_duplicate hfinds
    rw [hok'] at hok
    cases hok
    exact inv_resolved h hfresh hr
  · have h₁ := inv_resolved h hfresh hr
    refine inv_stored h₁ hs (by rw [hdir]; rfl) ?_
    rw [hr.workspace]
    exact hr.row

theorem inv_after {ε ρ : Type} {s : St} (h : Inv s) {result : Except ε (ρ × ChatDB)}
    (hok : ∀ r db, result = .ok (r, db) → Inv { s with db := db }) : Inv (after s result) := by
  cases result with
  | error e => exact h
  | ok x => exact hok x.1 x.2 rfl

theorem inv_step {s s' : St} {l : Lbl} (h : Inv s) (hs : step s l = some s') : Inv s' := by
  cases l with
  | inbound env ws turn =>
    simp only [step] at hs
    split at hs
    · rename_i hfresh
      cases hs
      exact inv_after h fun r db hok => inv_inbound h hfresh hok
    · cases hs
  | outbound env ws turn =>
    simp only [step] at hs
    split at hs
    · rename_i hfresh
      cases hs
      exact inv_after h fun r db hok => inv_outbound h hfresh hok
    · cases hs
  | setAI env ws ref change trace =>
    simp only [step] at hs
    split at hs
    · rename_i hfresh
      cases hs
      refine inv_after h fun ai db hok => ?_
      obtain ⟨st, db₁, hr, hm, hc⟩ := setAI_ok hok
      exact (inv_resolved h hfresh hr).congr hm hc
    · cases hs
  | resetUnread ws chatID =>
    simp only [step] at hs
    split at hs
    · cases hs
      exact h
    · rename_i db hr
      cases hs
      exact inv_reset h ws chatID hr
  | others connections identities =>
    cases hs
    exact h.congr rfl rfl

/-- In every run a uid is recorded once, a repeated turn changes no chat, and each chat's unread count is the number
of inbound messages recorded in it since its last reset. -/
theorem recording_idempotent (connections : List (UUID × String)) (identities : List ContactIdentity) :
    ∀ s, (sys connections identities).Reachable s → Idempotent s := by
  intro s hs
  have hind : (sys connections identities).Inductive Inv := by
    refine ⟨?_, fun s l s' hi hst => inv_step hi hst⟩
    rintro s rfl
    exact inv_init connections identities
  have h := hind.reachable hs
  constructor
  · refine List.Nodup.of_map Prod.snd ?_
    rw [List.map_map]
    exact h.uids
  · intro env ws turn msg hfinds
    obtain ⟨r, db', st, hok, hdup, hmsg, hr⟩ := inbound_duplicate hfinds
    exact ⟨r, db', hok, hdup, hmsg, hr.unchanged⟩
  · intro env ws turn msg hfinds
    obtain ⟨r, db', st, hok, hdup, hmsg, hr⟩ := outbound_duplicate hfinds
    exact ⟨r, db', hok, hdup, hmsg, hr.unchanged⟩
  · intro env ws turn r db' hrec hok
    rcases inbound_ok hok with ⟨-, hdup⟩ | ⟨st, db₁, hr, hsto, huid, -⟩
    · exact hdup
    · rw [← loadMessageByUID_congr hr.messages, hsto.not_loaded huid] at hrec
      cases hrec
  · intro env ws turn r db' hrec hok
    rcases outbound_ok hok with ⟨-, hdup⟩ | ⟨st, db₁, hr, hsto, huid, -⟩
    · exact hdup
    · rw [← loadMessageByUID_congr hr.messages, hsto.not_loaded huid] at hrec
      cases hrec
  · intro c hc
    exact h.unread (counted c) (List.mem_map_of_mem hc)

/-! ## A customer writes -/

/-- The customer's turn `uid` at the time `t`. -/
def turn (uid : String) (t : Time) : Lbl :=
  .inbound ⟨⟨t, 70, fun _ => none⟩, 60 + t.toNat, none⟩ 1
    { chat := ChatOf 7 40, uid := uid, senderName := "Ana", senderID := "5511999990000", replyToUID := none, body := "hi",
      mediaURL := none, mediaType := none, channel := "whatsapp_cloud", entryPointType := .standard, metadata := [],
      at_ := t }

/-- The one chat has `n` unread of `m` messages. -/
def unreadOf (n : Int) (m : Nat) (s : St) : Bool := s.db.chats.map (·.unreadCount) = [n] && s.db.messages.length = m

/-- Two turns, one of them delivered twice, are read; one more comes in. -/
theorem unread_after_reset :
    ∃ s, (sys [(7, "whatsapp_cloud")] []).Reachable s ∧ unreadOf 1 3 s = true ∧ Idempotent s := by
  have hrun : (LTS.exec step (init [(7, "whatsapp_cloud")] [])
      [turn "u-1" 1, turn "u-1" 2, turn "u-2" 3, .resetUnread 1 61, turn "u-3" 4]).any (unreadOf 1 3) = true := by
    decide +kernel
  obtain ⟨s, hs, hunread⟩ := (Option.any_eq_true _ _).mp hrun
  have hreach := LTS.exec_reachable hs
  exact ⟨s, hreach, hunread, recording_idempotent _ _ s hreach⟩

end PerGo.L4.UnreadCount
