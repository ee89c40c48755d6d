import PerGo.Core.LTS
import PerGo.L3Chat.RecorderSpec

/-!
# Notices of windows about to expire

`Recorder.Inbound` and `Recorder.ClaimExpiring` in any order, with any times, on any chats; connections
and identities change freely in between. `notified` is the column `notified_expiring_at`, which the other
calls of the recorder do not touch.

`ClaimExpiring` is one statement. It passes over the rows another transaction holds, or changed after it
began (`skipped`), and holds those it takes until it commits; so any number of tickers take their turns.

`updateInboundChatState` clears the column at every turn, also at one that leaves the window where it is.

Results: `one_notice`, and `late_turn_renews` for a turn that arrives late.
-/
namespace PerGo.L4.ExpiryNotices

open PerGo.Core PerGo.L1 PerGo.L2 PerGo.L3.Recorder

/-! ## `ClaimExpiring` -/

/-- mirrors activity/activity.go:266-275 -/
structure ExpiringChat where
  chatID : UUID
  workspaceID : UUID
  connectionID : UUID
  contactID : UUID
  recipientPhone : String
  channel : String
  entryPointType : String
  expiresAt : Time

section Claim

variable (db : ChatDB)

/-- The chat's connection, or an identity of its contact, is on WhatsApp Cloud.
mirrors activity.go:611-619 -/
def onCloud (c : ChatState) : Bool :=
  match c.connectionID with
  | some conn => db.connections.lookup conn = some "whatsapp_cloud"
  | none => db.identities.any fun i =>
      i.workspaceID = c.workspaceID && i.contactID = c.contactID && i.channel = "whatsapp_cloud"

/-- mirrors activity.go:634-641 -/
def recipientPhone (c : ChatState) : String :=
  let own := db.identities.filter fun i => i.workspaceID = c.workspaceID && i.contactID = c.contactID
  let on (channel : String) := own.find? fun i => i.channel = channel
  (((on "whatsapp_cloud").or ((on "phone").or (on "whatsapp"))).map (·.senderIdentity)).getD ""

/-- The chats that may be claimed, with the end of their window.
mirrors activity.go:605-623 -/
def candidates (notified : UUID → Option Time) (now horizonEnd : Time) (skipped : List UUID) :
    List (ChatState × Time) :=
  db.chats.filterMap fun c => c.serviceWindowExpiresAt.bind fun exp =>
    if notified c.id = none ∧ now < exp ∧ exp ≤ horizonEnd ∧ onCloud db c = true ∧ c.id ∉ skipped then some (c, exp)
    else none

def expiring (c : ChatState) (exp : Time) : ExpiringChat :=
  { chatID := c.id, workspaceID := c.workspaceID, connectionID := c.connectionID.getD UUID.Nil,
    contactID := c.contactID, recipientPhone := recipientPhone db c, channel := "whatsapp_cloud",
    entryPointType := if entryPointWord c.entryPointType = "" then "standard" else entryPointWord c.entryPointType,
    expiresAt := exp }

/-- The chats claimed, and the column. mirrors activity.go:589-675 -/
def claimExpiring (notified : UUID → Option Time) (clock now within : Time) (limit : Int) (skipped : List UUID) :
    List ExpiringChat × (UUID → Option Time) :=
  let limit := if limit ≤ 0 then 50 else limit
  let nowUTC := if now = 0 then clock else now
  let found := (candidates db notified nowUTC (nowUTC + within) skipped).insertionSort fun a b => a.2 ≤ b.2
  let taken := found.take limit.toNat
  (taken.map fun p => expiring db p.1 p.2,
    fun id => if id ∈ taken.map (·.1.id) then some nowUTC else notified id)

end Claim

/-! ## Runs -/

structure St where
  db : ChatDB
  notified : UUID → Option Time
  /-- all that `ClaimExpiring` has returned -/
  claims : List ExpiringChat

inductive Lbl
  | inbound (env : ActEnv) (ws : UUID) (turn : L3.Recorder.InboundTurn)
  /-- `lost` when the rows cannot be read after the update -/
  | claim (clock now within : Time) (limit : Int) (skipped : List UUID) (lost : Bool)
  | others (connections : List (UUID × String)) (identities : List ContactIdentity)

def init (connections : List (UUID × String)) (identities : List ContactIdentity) : St :=
  ⟨⟨connections, identities, [], []⟩, fun _ => none, []⟩

/-- A turn that is stored clears the column of its chat. -/
def afterInbound (s : St) (result : Except ActivityError (InboundReceipt × ChatDB)) : St :=
  match result with
  | .error _ => s
  | .ok (r, db) =>
    { s with db := db, notified := fun id => if r.duplicate = false ∧ id = r.chat.id then none else s.notified id }

def step (s : St) : Lbl → Option St
  | .inbound env ws turn =>
    if env.newChatID ∈ s.db.chats.map (·.id) then none else some (afterInbound s (inbound s.db env ws turn))
  | .claim clock now within limit skipped lost =>
    let claimed := claimExpiring s.db s.notified clock now within limit skipped
    some { s with notified := claimed.2, claims := if lost then s.claims else s.claims ++ claimed.1 }
  | .others connections identities =>
    some { s with db := { s.db with connections := connections, identities := identities } }

def sys (connections : List (UUID × String)) (identities : List ContactIdentity) : LTS St Lbl :=
  LTS.ofFn (init connections identities) step

def window (e : ExpiringChat) : UUID × Time := (e.chatID, e.expiresAt)

/-- No window is claimed twice. -/
def OneNotice (s : St) : Prop := (s.claims.map window).Nodup

def Renews (env : ActEnv) (db : ChatDB) (st : ChatState) (turn : L3.Recorder.InboundTurn) : Prop :=
  isWhatsappCloud (channelInForce st (inboundActivity db env st (refOf turn.chat turn.channel) turn).channel) = true ∧
    ∀ prev ∈ st.serviceWindowExpiresAt, prev < atOf env.apply turn.at_ + standardWindowDuration

def RenewsClaimed (s : St) (env : ActEnv) (turn : L3.Recorder.InboundTurn) :
    Except ActivityError (ChatState × ChatDB) → Prop
  | .ok (st, db) => trimSpace turn.uid ∉ s.db.messages.map (·.uid) → s.notified st.id ≠ none → Renews env db st turn
  | .error _ => True

def Meets (s : St) : Lbl → Prop
  | .inbound env ws turn => RenewsClaimed s env turn (resolveAndLockChat s.db env ws (refOf turn.chat turn.channel)
      ((refOf turn.chat turn.channel).contactID ≠ UUID.Nil))
  | _ => True

/-! ## What a claim takes -/

section Claimed

variable {db : ChatDB} {notified : UUID → Option Time}

theorem mem_candidates {now horizonEnd : Time} {skipped : List UUID} {p : ChatState × Time}
    (h : p ∈ candidates db notified now horizonEnd skipped) :
    p.1 ∈ db.chats ∧ p.1.serviceWindowExpiresAt = some p.2 ∧ notified p.1.id = none := by
  obtain ⟨c, hc, hp⟩ := List.mem_filterMap.mp h
  obtain ⟨exp, hexp, hp⟩ := Option.bind_eq_some_iff.mp hp
  obtain ⟨hcond, hp⟩ := Option.ite_none_right_eq_some.mp hp
  obtain rfl := Option.some.inj hp
  exact ⟨hc, hexp, hcond.1⟩

theorem nodup_candidates (hids : (db.chats.map (·.id)).Nodup) (now horizonEnd : Time) (skipped : List UUID) :
    ((candidates db notified now horizonEnd skipped).map (·.1.id)).Nodup := by
  refine hids.sublist (filterMap_key_sublist ?_ db.chats)
  intro c p hp
  obtain ⟨exp, -, hp⟩ := Option.bind_eq_some_iff.mp hp
  obtain ⟨-, hp⟩ := Option.ite_none_right_eq_some.mp hp
  obtain rfl := Option.some.inj hp
  rfl

/-- What one call of `ClaimExpiring` returns. -/
structure Claimed (db : ChatDB) (notified : UUID → Option Time) (out : List ExpiringChat)
    (notified' : UUID → Option Time) : Prop where
  nodup : (out.map (·.chatID)).Nodup
  row : ∀ e ∈ out, (e.chatID, some e.expiresAt) ∈ db.chats.map (fun c => (c.id, c.serviceWindowExpiresAt)) ∧
    notified e.chatID = none
  set : ∀ id, notified' id = none → notified id = none ∧ id ∉ out.map (·.chatID)

theorem claimExpiring_claimed (hids : (db.chats.map (·.id)).Nodup) (clock now within : Time) (limit : Int)
    (skipped : List UUID) :
    Claimed db notified (claimExpiring db notified clock now within limit skipped).1
      (claimExpiring db notified clock now within limit skipped).2 := by
  unfold claimExpiring
  generalize (if limit ≤ 0 then 50 else limit) = limit
  generalize (if now = 0 then clock else now) = nowUTC
  dsimp only
  generalize hfound : (candidates db notified nowUTC (nowUTC + within) skipped).insertionSort
    (fun a b => a.2 ≤ b.2) = found
  have hperm : found.Perm (candidates db notified nowUTC (nowUTC + within) skipped) := by
    rw [← hfound]
    exact List.perm_insertionSort _ _
  have hmem : ∀ p ∈ found.take limit.toNat, p ∈ candidates db notified nowUTC (nowUTC + within) skipped :=
    fun p hp => hperm.subset (List.mem_of_mem_take hp)
  have hchats : ((found.take limit.toNat).map fun p => expiring db p.1 p.2).map (·.chatID) =
      (found.take limit.toNat).map (·.1.id) := by
    rw [List.map_map]
    rfl
  refine ⟨?_, ?_, ?_⟩
  · rw [hchats]
    have hnodup : (found.map (·.1.id)).Nodup :=
      ((hperm.map _).nodup_iff).mpr (nodup_candidates hids nowUTC (nowUTC + within) skipped)
    exact hnodup.sublist ((List.take_sublist _ _).map _)
  · intro e he
    obtain ⟨p, hp, rfl⟩ := List.mem_map.mp he
    obtain ⟨hc, hexp, hnone⟩ := mem_candidates (hmem p hp)
    refine ⟨List.mem_map.mpr ⟨p.1, hc, ?_⟩, hnone⟩
    rw [hexp]
    rfl
  · intro id hid
    rw [hchats]
    split at hid
    · cases hid
    · rename_i hnot
      exact ⟨hid, hnot⟩

end Claimed

/-! ## What a turn does to the windows -/

def windows (db : ChatDB) : List (UUID × Option Time) := db.chats.map fun c => (c.id, c.serviceWindowExpiresAt)

theorem windows_ids (db : ChatDB) : (windows db).map Prod.fst = db.chats.map (·.id) := by
  unfold windows
  rw [List.map_map]
  rfl

section Turns

variable {db db' : ChatDB} {env : ActEnv} {ws : UUID} {st : ChatState}

theorem windows_resolved (h : Resolved db env ws st db') :
    windows db' = windows db ∨ windows db' = windows db ++ [(env.newChatID, none)] := by
  have hunbound : ∀ l : List ChatState, (l.map unbound).map (fun c => (c.id, c.serviceWindowExpiresAt)) =
      l.map fun c => (c.id, c.serviceWindowExpiresAt) := by
    intro l
    rw [List.map_map]
    rfl
  unfold windows
  rcases h.chats with hc | ⟨contact, conn, now, hc⟩
  · rw [← hunbound, hc, hunbound]
    exact Or.inl rfl
  · rw [← hunbound, hc, List.map_append, hunbound]
    exact Or.inr rfl

theorem nodup_resolved (h : Resolved db env ws st db') (hids : (db.chats.map (·.id)).Nodup)
    (hfresh : env.newChatID ∉ db.chats.map (·.id)) : (db'.chats.map (·.id)).Nodup := by
  rw [← windows_ids] at hids hfresh ⊢
  rcases windows_resolved h with hw | hw
  · rw [hw]
    exact hids
  · rw [hw, List.map_append]
    refine List.nodup_append'.mpr ⟨hids, List.nodup_singleton _, ?_⟩
    intro id hid hnew
    obtain rfl := List.mem_singleton.mp hnew
    exact hfresh hid

theorem windows_subset_resolved (h : Resolved db env ws st db') : windows db ⊆ windows db' := by
  rcases windows_resolved h with hw | hw
  · rw [hw]
    exact fun p hp => hp
  · rw [hw]
    exact List.subset_append_left _ _

theorem windows_updateInbound (db : ChatDB) {state : ChatState} (now : Time) {p : UUID × Option Time}
    (hp : p ∈ windows db) (hids : (db.chats.map (·.id)).Nodup)
    (hrow : ∃ c ∈ db.chats, c.id = state.id ∧ c.workspaceID = state.workspaceID) :
    (p.1, if p.1 = state.id then state.serviceWindowExpiresAt else p.2) ∈ windows (updateInboundChatState db state now) := by
  obtain ⟨c, hc, rfl⟩ := List.mem_map.mp hp
  obtain ⟨row, hmem, hid, hws⟩ := hrow
  refine List.mem_map.mpr ⟨_, List.mem_map.mpr ⟨c, hc, rfl⟩, ?_⟩
  by_cases heq : c.id = state.id
  · obtain rfl := eq_of_key_eq hids hc hmem (heq.trans hid.symm)
    simp [hws, hid]
  · simp [heq]

theorem updateInbound_ids (db : ChatDB) (state : ChatState) (now : Time) :
    (updateInboundChatState db state now).chats.map (·.id) = db.chats.map (·.id) := by
  refine map_updateWhere ?_ db.chats
  intro c
  rfl

end Turns

/-! ## The invariant -/

structure Inv (s : St) : Prop where
  ids : (s.db.chats.map (·.id)).Nodup
  /-- a window that was claimed is the chat's, or an earlier one of it -/
  past : ∀ e ∈ s.claims, ∃ cur, (e.chatID, some cur) ∈ windows s.db ∧ e.expiresAt ≤ cur ∧
    (s.notified e.chatID = none → e.expiresAt < cur)
  once : OneNotice s

section Steps

variable {s : St}

theorem inv_init (connections : List (UUID × String)) (identities : List ContactIdentity) :
    Inv (init connections identities) := by
  refine ⟨List.nodup_nil, ?_, List.nodup_nil⟩
  intro e he
  exact absurd he List.not_mem_nil

theorem window_unique {db : ChatDB} (hids : (db.chats.map (·.id)).Nodup) {id : UUID} {a b : Option Time}
    (ha : (id, a) ∈ windows db) (hb : (id, b) ∈ windows db) : a = b := by
  rw [← windows_ids] at hids
  exact congrArg Prod.snd (eq_of_key_eq hids ha hb rfl)

theorem inv_claim (h : Inv s) {out : List ExpiringChat} {notified' : UUID → Option Time}
    (hc : Claimed s.db s.notified out notified') (lost : Bool) :
    Inv { s with notified := notified', claims := if lost then s.claims else s.claims ++ out } := by
  have hold : ∀ e ∈ s.claims, ∃ cur, (e.chatID, some cur) ∈ windows s.db ∧ e.expiresAt ≤ cur ∧
      (notified' e.chatID = none → e.expiresAt < cur) := by
    intro e he
    obtain ⟨cur, hcur, hle, hlt⟩ := h.past e he
    exact ⟨cur, hcur, hle, fun hnone => hlt (hc.set _ hnone).1⟩
  cases lost with
  | true => exact ⟨h.ids, hold, h.once⟩
  | false =>
    refine ⟨h.ids, ?_, ?_⟩
    · intro e he
      rcases List.mem_append.mp he with he | he
      · exact hold e he
      · obtain ⟨hrow, -⟩ := hc.row e he
        refine ⟨e.expiresAt, hrow, Int.le_refl _, ?_⟩
        intro hnone
        exact absurd (List.mem_map_of_mem he) (hc.set _ hnone).2
    · show ((s.claims ++ out).map window).Nodup
      rw [List.map_append]
      refine List.nodup_append'.mpr ⟨h.once, ?_, ?_⟩
      · refine List.Nodup.of_map Prod.fst ?_
        rw [List.map_map]
        exact hc.nodup
      · -- what was claimed before ended earlier than the window that is claimed now
        intro w hw hw'
        obtain ⟨e, he, rfl⟩ := List.mem_map.mp hw
        obtain ⟨e', he', heq⟩ := List.mem_map.mp hw'
        have hchat : e'.chatID = e.chatID := congrArg Prod.fst heq
        have hexp : e'.expiresAt = e.expiresAt := congrArg Prod.snd heq
        obtain ⟨hrow, hnone⟩ := hc.row e' he'
        obtain ⟨cur, hcur, -, hlt⟩ := h.past e he
        rw [hchat] at hrow hnone
        have hsame := Option.some.inj (window_unique h.ids hcur hrow)
        have hbefore := hlt hnone
        rw [hsame, hexp] at hbefore
        exact absurd hbefore (Int.lt_irrefl _)

theorem inv_resolved (h : Inv s) {env : ActEnv} {ws : UUID} {st : ChatState} {db : ChatDB}
    (hr : Resolved s.db env ws st db) (hfresh : env.newChatID ∉ s.db.chats.map (·.id)) : Inv { s with db := db } := by
  refine ⟨nodup_resolved hr h.ids hfresh, ?_, h.once⟩
  intro e he
  obtain ⟨cur, hcur, hle⟩ := h.past e he
  exact ⟨cur, windows_subset_resolved hr hcur, hle⟩

theorem atOf_atOf (env : ApplyEnv) (t : Time) : atOf env (atOf env t) = atOf env t := by
  unfold atOf
  split
  · split <;> simp_all
  · rfl

theorem window_grows (env : ApplyEnv) (st : ChatState) (act : L2.InboundTurn) {cur : Time}
    (hcur : st.serviceWindowExpiresAt = some cur) :
    ∃ next, (inboundState env st act).serviceWindowExpiresAt = some next ∧ cur ≤ next ∧
      (isWhatsappCloud (channelInForce st act.channel) = true → atOf env act.at_ + standardWindowDuration ≤ next) := by
  rw [inboundState_window]
  split
  · refine ⟨_, rfl, ?_⟩
    rw [hcur, extendServiceWindow_some]
    exact ⟨le_max_left _ _, fun _ => le_max_right _ _⟩
  · rename_i hno
    exact ⟨cur, hcur, Int.le_refl _, fun hyes => absurd hyes hno⟩

theorem inv_stored (h : Inv s) {st next : ChatState} (now : Time) (msgs : List ChatMessage)
    (hrow : (st.id, st.serviceWindowExpiresAt) ∈ windows s.db) (hws : ∃ c ∈ s.db.chats, c.id = st.id ∧
      c.workspaceID = st.workspaceID) (hid : next.id = st.id) (hnws : next.workspaceID = st.workspaceID)
    (hnext : ∀ cur, st.serviceWindowExpiresAt = some cur → ∃ new, next.serviceWindowExpiresAt = some new ∧ cur ≤ new ∧
      (s.notified st.id ≠ none → cur < new)) :
    Inv { s with db := updateInboundChatState { s.db with messages := msgs } next now,
                 notified := fun id => if id = st.id then none else s.notified id } := by
  refine ⟨?_, ?_, h.once⟩
  · rw [updateInbound_ids]
    exact h.ids
  · intro e he
    obtain ⟨cur, hcur, hle, hlt⟩ := h.past e he
    have hmem := windows_updateInbound { s.db with messages := msgs } now hcur h.ids
      (by rw [hid, hnws]; exact hws)
    rw [hid] at hmem
    dsimp only at hmem ⊢
    by_cases heq : e.chatID = st.id
    · rw [if_pos heq] at hmem ⊢
      rw [heq] at hcur hlt
      obtain ⟨new, hnew, hgrow, hstrict⟩ := hnext cur (window_unique h.ids hrow hcur)
      rw [hnew] at hmem
      refine ⟨new, hmem, Int.le_trans hle hgrow, fun _ => ?_⟩
      cases hn : s.notified st.id with
      | none => exact Int.lt_of_lt_of_le (hlt hn) hgrow
      | some t => exact Int.lt_of_le_of_lt hle (hstrict (by simp [hn]))
    · rw [if_neg heq] at hmem ⊢
      exact ⟨cur, hmem, hle, hlt⟩

theorem inv_inbound (h : Inv s) {env : ActEnv} {ws : UUID} {turn : L3.Recorder.InboundTurn}
    (hg : Meets s (.inbound env ws turn)) (hfresh : env.newChatID ∉ s.db.chats.map (·.id)) :
    Inv (afterInbound s (inbound s.db env ws turn)) := by
  cases hin : inbound s.db env ws turn with
  | error err => exact h
  | ok p =>
    obtain ⟨r, db'⟩ := p
    obtain ⟨-, -, -, st, db₁, hres, hcase⟩ := inbound_cases hin
    have hr := resolveAndLockChat_ok hres
    have h₁ := inv_resolved h hr hfresh
    rcases hcase with ⟨-, hdup, rfl⟩ | ⟨act, hact, hchat, -, hdup, hnew, rfl⟩
    · simp only [afterInbound, hdup, Bool.true_eq_false, false_and, if_false]
      exact h₁
    · obtain ⟨-, hid, hnws⟩ := inboundState_unread env.apply st act
      obtain ⟨row, hmem, hrid, hrws, hwin⟩ := resolveAndLockChat_window hres
      have hrow : (st.id, st.serviceWindowExpiresAt) ∈ windows db₁ := by
        rw [← hrid, ← hwin]
        exact List.mem_map_of_mem hmem
      have hrenews : s.notified st.id ≠ none → Renews env db₁ st turn := by
        have hmeets : RenewsClaimed s env turn (.ok (st, db₁)) := by
          rw [← hres]
          exact hg
        refine hmeets ?_
        rw [← hr.messages]
        have huid : (inboundMessage env.apply st act).uid = trimSpace turn.uid := by rw [← hact]; rfl
        rw [← huid]
        exact hnew
      have hstep := inv_stored h₁ (atOf env.apply turn.at_) (db₁.messages ++ [inboundMessage env.apply st act]) hrow
        ⟨row, hmem, hrid, hrws.trans hr.workspace.symm⟩ hid hnws ?_
      · simp only [afterInbound, hdup, hchat, hid, true_and]
        exact hstep
      · intro cur hcur
        obtain ⟨new, hnext, hle, hcloud⟩ := window_grows env.apply st act hcur
        refine ⟨new, hnext, hle, fun hn => ?_⟩
        obtain ⟨hchannel, hlater⟩ := hrenews hn
        have hat : act.at_ = atOf env.apply turn.at_ := by rw [← hact]; rfl
        rw [hact] at hchannel
        have hend := hcloud hchannel
        rw [hat, atOf_atOf] at hend
        exact Int.lt_of_lt_of_le (hlater cur hcur) hend

theorem inv_step (h : Inv s) {l : Lbl} {s' : St} (hg : Meets s l) (hs : step s l = some s') : Inv s' := by
  cases l with
  | inbound env ws turn =>
    obtain ⟨hfresh, hs⟩ := Option.ite_none_left_eq_some.mp hs
    obtain rfl := Option.some.inj hs
    exact inv_inbound h hg hfresh
  | claim clock now within limit skipped lost =>
    obtain rfl := Option.some.inj hs
    exact inv_claim h (claimExpiring_claimed h.ids clock now within limit skipped) lost
  | others connections identities =>
    obtain rfl := Option.some.inj hs
    exact ⟨h.ids, h.past, h.once⟩

end Steps

/-- In every run whose turns meet the condition no window is claimed twice. -/
theorem one_notice (connections : List (UUID × String)) (identities : List ContactIdentity) {s : St}
    (h : ((sys connections identities).restrict Meets).Reachable s) : OneNotice s := by
  have hind : ((sys connections identities).restrict Meets).Inductive Inv := by
    refine LTS.Inductive.of_restrict ?_ fun s l s' hi hg hs => inv_step hi hg hs
    rintro s rfl
    exact inv_init connections identities
  exact (hind.reachable h).once

/-! ## Runs -/

instance decidableRenews (env : ActEnv) (db : ChatDB) (st : ChatState) (turn : L3.Recorder.InboundTurn) :
    Decidable (Renews env db st turn) :=
  inferInstanceAs (Decidable (_ ∧ ∀ prev ∈ st.serviceWindowExpiresAt, _))

instance decidableRenewsClaimed (s : St) (env : ActEnv) (turn : L3.Recorder.InboundTurn) :
    (r : Except ActivityError (ChatState × ChatDB)) → Decidable (RenewsClaimed s env turn r)
  | .ok (st, db) => inferInstanceAs (Decidable (_ ∉ _ → s.notified st.id ≠ none → Renews env db st turn))
  | .error _ => .isTrue trivial

instance decidableMeets (s : St) : (l : Lbl) → Decidable (Meets s l)
  | .inbound env _ turn => inferInstanceAs (Decidable (RenewsClaimed s env turn _))
  | .claim .. | .others .. => .isTrue trivial

def cloud : List (UUID × String) := [(11, "whatsapp_cloud")]

def contact : List ContactIdentity := [⟨21, 1, "whatsapp_cloud", "+5511955556666"⟩]

/-- A turn of the contact, received at an hour. -/
def turnAt (uid : String) (at_ : Time) : Lbl :=
  .inbound ⟨⟨at_, 41, fun _ => none⟩, 31 + at_.toNat, none⟩ 1
    { chat := ChatOf 11 21, uid := uid, senderName := "", senderID := "+5511955556666", replyToUID := none, body := "hi",
      mediaURL := none, mediaType := none, channel := "whatsapp_cloud", entryPointType := .standard, metadata := [],
      at_ := at_ }

def tick (now : Time) : Lbl := .claim now now hour 50 [] false

/-- The window of the turn at 100h ends at 124h; a turn at 124h renews it. -/
def renewed : List Lbl :=
  [turnAt "wamid.1" (100 * hour), tick (123 * hour + minute), turnAt "wamid.2" (124 * hour), tick (147 * hour + minute)]

theorem one_notice_renewed : ∃ s, LTS.exec step (init cloud contact) renewed = some s ∧ s.claims.length = 2 ∧
    OneNotice s := by
  have hrun : ((LTS.exec step (init cloud contact) renewed).any fun s => s.claims.length = 2) = true := by
    decide +kernel
  have hguard : LTS.Guarded step Meets (init cloud contact) renewed := by decide +kernel
  obtain ⟨s, hexec, hlen⟩ := (Option.any_eq_true _ _).mp hrun
  exact ⟨s, hexec, of_decide_eq_true hlen, one_notice cloud contact (LTS.exec_restrict_reachable hexec hguard)⟩

/-- A turn of 90h that arrives after the notice leaves the window where it is, and the next tick claims it again. -/
theorem late_turn_renews : ¬ ∀ s, (sys cloud contact).Reachable s → OneNotice s := by
  intro hall
  have hrun : ((LTS.exec step (init cloud contact)
      [turnAt "wamid.1" (100 * hour), tick (123 * hour + minute), turnAt "wamid.0" (90 * hour),
        tick (123 * hour + 2 * minute)]).any fun s => decide (¬ (s.claims.map window).Nodup)) = true := by
    decide +kernel
  obtain ⟨s, hexec, hdup⟩ := (Option.any_eq_true _ _).mp hrun
  exact of_decide_eq_true hdup (hall s (LTS.exec_reachable hexec))

end PerGo.L4.ExpiryNotices
