import PerGo.L2Domain.Chat
import Mathlib.Data.List.Perm.Basic
import Mathlib.Order.Lattice
import Mathlib.Order.Defs.LinearOrder

/-!
# Runs of chat activities

A run applies a list of activities to a chat, in the order they arrive; their
times are in any order. Each activity comes with what `Apply` takes from outside
during that call.

* `service_window_run`: the service window is the maximum of the inbound turns
  on whatsapp_cloud, each with its own 24 hours, and of nothing else.
* `handoff_exact`: the handoff is published exactly on the edge from engaged to
  not engaged, and without an explicit change two handoffs are 12 hours apart.
* `human_control`: off stays off until an explicit resume, and a human turn
  keeps the AI silent for its 12 hours.

The last two rest on one invariant, `SilentUntil`: the AI is off, or paused at
least until the given time. No turn ends it, because a human turn keeps the
later of its own deadline and the one in force.
-/
namespace PerGo.L4.ChatRun

open PerGo.L1 PerGo.L2

def step (s : ChatState) (x : ApplyEnv × Activity) : ChatState := (x.2.apply x.1 s).1

def run (s : ChatState) (xs : List (ApplyEnv × Activity)) : ChatState := xs.foldl step s

@[simp] theorem run_nil (s : ChatState) : run s [] = s := rfl

@[simp] theorem run_cons (s : ChatState) (x : ApplyEnv × Activity) (xs : List (ApplyEnv × Activity)) :
    run s (x :: xs) = run (step s x) xs := rfl

theorem run_append (s : ChatState) (xs ys : List (ApplyEnv × Activity)) :
    run s (xs ++ ys) = run (run s xs) ys := List.foldl_append

/-! ## The service window -/

def windowTurns (s : ChatState) : List (ApplyEnv × Activity) → List InboundTurn
  | [] => []
  | (env, .inbound act) :: xs =>
    if isWhatsappCloud (channelInForce s act.channel) then act :: windowTurns (step s (env, .inbound act)) xs
    else windowTurns (step s (env, .inbound act)) xs
  | x :: xs => windowTurns (step s x) xs

def turnWindow (act : InboundTurn) : Time := act.at_ + 24 * hour

def windowTurn? : ApplyEnv × Activity → Option InboundTurn
  | (_, .inbound act) => if isWhatsappCloud act.channel then some act else none
  | _ => none

theorem step_window_of_not_inbound {s : ChatState} {env : ApplyEnv} {a : Activity}
    (h : ∀ act, a ≠ .inbound act) :
    (step s (env, a)).serviceWindowExpiresAt = s.serviceWindowExpiresAt := by
  cases a with
  | inbound act => exact absurd rfl (h act)
  | outbound act => rfl
  | aiChange act => rfl

theorem step_window_of_inbound {s : ChatState} {env : ApplyEnv} {act : InboundTurn} (hat : act.at_ ≠ 0) :
    (step s (env, .inbound act)).serviceWindowExpiresAt =
      if isWhatsappCloud (channelInForce s act.channel) then
        some (extendServiceWindow s.serviceWindowExpiresAt act.at_)
      else s.serviceWindowExpiresAt := by
  have h := inboundState_window env s act
  rw [atOf_of_ne env hat] at h
  exact h

theorem max?_extend (prev : Option Time) (at_ : Time) (l : List Time) :
    ((some (extendServiceWindow prev at_)).toList ++ l).max? =
      (prev.toList ++ (at_ + 24 * hour) :: l).max? := by
  cases prev with
  | none => rfl
  | some p =>
    rw [extendServiceWindow_some]
    simp only [Option.toList_some, List.singleton_append, List.max?_cons', List.foldl_cons]
    rfl

theorem run_window (s : ChatState) (xs : List (ApplyEnv × Activity)) (hat : ∀ x ∈ xs, x.2.at_ ≠ 0) :
    (run s xs).serviceWindowExpiresAt =
      (s.serviceWindowExpiresAt.toList ++ (windowTurns s xs).map turnWindow).max? := by
  induction xs generalizing s with
  | nil => cases h : s.serviceWindowExpiresAt <;> simp [windowTurns, h]
  | cons x xs ih =>
    obtain ⟨env, a⟩ := x
    have hxs : ∀ x ∈ xs, x.2.at_ ≠ 0 := fun x hx => hat x (List.mem_cons_of_mem _ hx)
    have ha : a.at_ ≠ 0 := hat (env, a) List.mem_cons_self
    rw [run_cons, ih _ hxs]
    cases a with
    | inbound act =>
      rw [step_window_of_inbound ha]
      simp only [windowTurns]
      split
      · rw [max?_extend]
        rfl
      · rfl
    | outbound act => rfl
    | aiChange act => rfl

theorem step_window_le {s : ChatState} {x : ApplyEnv × Activity} {t : Time} (hat : x.2.at_ ≠ 0)
    (h : s.serviceWindowExpiresAt = some t) :
    ∃ t', (step s x).serviceWindowExpiresAt = some t' ∧ t ≤ t' := by
  obtain ⟨env, a⟩ := x
  cases a with
  | inbound act =>
    rw [step_window_of_inbound hat, h, extendServiceWindow_some]
    split
    · exact ⟨_, rfl, le_max_left _ _⟩
    · exact ⟨t, rfl, Int.le_refl t⟩
  | outbound act => exact ⟨t, h, Int.le_refl t⟩
  | aiChange act => exact ⟨t, h, Int.le_refl t⟩

theorem run_window_le {s : ChatState} {xs : List (ApplyEnv × Activity)} (hat : ∀ x ∈ xs, x.2.at_ ≠ 0) {t : Time}
    (h : s.serviceWindowExpiresAt = some t) :
    ∃ t', (run s xs).serviceWindowExpiresAt = some t' ∧ t ≤ t' := by
  induction xs generalizing s t with
  | nil => exact ⟨t, h, Int.le_refl t⟩
  | cons x xs ih =>
    obtain ⟨u, hu, htu⟩ := step_window_le (hat x List.mem_cons_self) h
    obtain ⟨t', ht', hut⟩ := ih (fun x hx => hat x (List.mem_cons_of_mem _ hx)) hu
    exact ⟨t', ht', Int.le_trans htu hut⟩

theorem windowTurns_eq_filterMap (s : ChatState) (xs : List (ApplyEnv × Activity))
    (hch : ∀ x ∈ xs, ∀ act, x.2 = .inbound act → act.channel ≠ "") :
    windowTurns s xs = xs.filterMap windowTurn? := by
  induction xs generalizing s with
  | nil => rfl
  | cons x xs ih =>
    have hxs : ∀ x ∈ xs, ∀ act, x.2 = .inbound act → act.channel ≠ "" :=
      fun x hx => hch x (List.mem_cons_of_mem _ hx)
    obtain ⟨env, a⟩ := x
    cases a with
    | inbound act =>
      have hc : channelInForce s act.channel = act.channel := if_pos (hch _ List.mem_cons_self act rfl)
      rw [windowTurns, hc, ih _ hxs, List.filterMap_cons]
      simp only [windowTurn?]
      by_cases hw : isWhatsappCloud act.channel = true
      · simp only [if_pos hw]
      · simp only [if_neg hw]
    | outbound act => exact ih _ hxs
    | aiChange act => exact ih _ hxs

/-- A maximum does not depend on the order. -/
theorem max?_perm {l l' : List Time} (h : l.Perm l') : l.max? = l'.max? := by
  cases hl : l.max? with
  | none =>
    rw [List.max?_eq_none_iff] at hl
    subst hl
    rw [List.nil_perm.mp h]
    rfl
  | some m =>
    rw [List.max?_eq_some_iff] at hl
    symm
    rw [List.max?_eq_some_iff]
    exact ⟨h.mem_iff.mp hl.1, fun b hb => hl.2 b (h.mem_iff.mpr hb)⟩

/-- **The service window over a run** from a chat that had none: it is the latest `At + 24h` of the
inbound turns on whatsapp_cloud, and nil exactly when there was no such turn. So it never shortens, only
inbound turns touch it, and where every turn names its channel their order does not matter. -/
theorem service_window_run (s : ChatState) (hs : s.serviceWindowExpiresAt = none)
    (xs : List (ApplyEnv × Activity)) (hat : ∀ x ∈ xs, x.2.at_ ≠ 0) :
    (run s xs).serviceWindowExpiresAt = ((windowTurns s xs).map turnWindow).max? ∧
    ((run s xs).serviceWindowExpiresAt = none ↔ windowTurns s xs = []) ∧
    (∀ before after, xs = before ++ after → ∀ t, (run s before).serviceWindowExpiresAt = some t →
      ∃ t', (run s xs).serviceWindowExpiresAt = some t' ∧ t ≤ t') ∧
    (∀ s' env a, (∀ act, a ≠ .inbound act) →
      (step s' (env, a)).serviceWindowExpiresAt = s'.serviceWindowExpiresAt) ∧
    ((∀ x ∈ xs, ∀ act, x.2 = .inbound act → act.channel ≠ "") → ∀ ys, ys.Perm xs →
      (run s ys).serviceWindowExpiresAt = (run s xs).serviceWindowExpiresAt) := by
  have hmax : ∀ ys : List (ApplyEnv × Activity), (∀ x ∈ ys, x.2.at_ ≠ 0) →
      (run s ys).serviceWindowExpiresAt = ((windowTurns s ys).map turnWindow).max? := by
    intro ys hys
    rw [run_window s ys hys, hs]
    rfl
  refine ⟨hmax xs hat, ?_, ?_, ?_, ?_⟩
  · rw [hmax xs hat, List.max?_eq_none_iff, List.map_eq_nil_iff]
  · intro before after hxs t ht
    subst hxs
    rw [run_append]
    exact run_window_le (fun x hx => hat x (List.mem_append_right _ hx)) ht
  · intro s' env a h
    exact step_window_of_not_inbound h
  · intro hch ys hperm
    have hys : ∀ x ∈ ys, x.2.at_ ≠ 0 := fun x hx => hat x (hperm.mem_iff.mp hx)
    have hchy : ∀ x ∈ ys, ∀ act, x.2 = .inbound act → act.channel ≠ "" :=
      fun x hx => hch x (hperm.mem_iff.mp hx)
    rw [hmax xs hat, hmax ys hys, windowTurns_eq_filterMap s xs hch, windowTurns_eq_filterMap s ys hchy]
    exact max?_perm ((hperm.filterMap _).map _)

/-! ### A run on fixed turns -/

def noProduct : ApplyEnv := ⟨1700000000 * second, 77, fun _ => none⟩

def freshChat : ChatState :=
  { id := 3, workspaceID := 1, connectionID := some 2, contactID := 4, channel := "telegram", status := .open_,
    snoozedUntil := none, ai := ⟨.active, none⟩, serviceWindowExpiresAt := none, entryPointType := .standard,
    unreadCount := 0, lastMessageAt := 0, lastInboundAt := none, lastOutboundAt := none }

def turnAt (at_ : Time) (channel : String) : ApplyEnv × Activity :=
  (noProduct, .inbound
    { id := 0, at_ := at_, uid := "m", senderName := "Ana", senderID := "+5511", replyToUID := none, body := "oi",
      mediaURL := none, mediaType := none, channel := channel, entryPointType := "", metadata := [] })

def reply (at_ : Time) (sender channel : String) : OutboundActivity :=
  { id := 0, at_ := at_, uid := "r", senderType := sender, senderName := "Lois", senderID := "", replyToUID := none,
    body := "ola", media := none, product := none, templateName := "", language := "", messageType := "text",
    channel := channel, to_ := "+5511", metadata := [] }

def replyAt (at_ : Time) (sender channel : String) : ApplyEnv × Activity :=
  (noProduct, .outbound (reply at_ sender channel))

/-- The reply moves the chat to whatsapp_cloud, so the turn without a channel counts; the late one does not
shorten the window. -/
theorem service_window_run_reordered :
    (run freshChat [turnAt (10 * hour) "telegram", replyAt (11 * hour) "human" " WhatsApp_Cloud",
      turnAt (50 * hour) "", turnAt (20 * hour) "whatsapp_cloud"]).serviceWindowExpiresAt = some (74 * hour) := by
  rw [(service_window_run freshChat rfl _ (by decide)).1]
  decide

/-! ## AI engagement -/

def Engaged (ai : AIEngagement) (t : Time) : Prop := (ai.effective t).isEngaged = true

instance (ai : AIEngagement) (t : Time) : Decidable (Engaged ai t) :=
  inferInstanceAs (Decidable ((ai.effective t).isEngaged = true))

/-- The AI is off, or paused at least until `t`. -/
def SilentUntil (t : Time) (ai : AIEngagement) : Prop :=
  ai.mode = .off ∨ ai.mode = .paused ∧ ∃ u, ai.pausedUntil = some u ∧ t ≤ u

/-- An explicit change of the AI, as opposed to a turn. -/
def isAIChange : Activity → Bool
  | .aiChange _ => true
  | _ => false

def PublishesHandoff (intents : List Intent) : Prop := ∃ i ∈ intents, i.kind = .publishHandoff

theorem effective_off {ai : AIEngagement} (h : ai.mode = .off) (t : Time) : ai.effective t = ⟨.off, none⟩ := by
  simp [AIEngagement.effective, h]

theorem effective_paused {ai : AIEngagement} {u : Time} (h : ai.mode = .paused) (hu : ai.pausedUntil = some u)
    (t : Time) : ai.effective t = if t < u then ⟨.paused, some u⟩ else ⟨.active, none⟩ := by
  simp [AIEngagement.effective, h, hu]

theorem engaged_defaultedAI {ai : AIEngagement} {t : Time} : Engaged (defaultedAI ai) t ↔ Engaged ai t := by
  simp [Engaged]

theorem SilentUntil.le_of_engaged {t now : Time} {ai : AIEngagement} (h : SilentUntil t ai)
    (he : Engaged ai now) : t ≤ now := by
  obtain hoff | ⟨hp, u, hu, htu⟩ := h
  · simp [Engaged, effective_off hoff, AIEngagement.isEngaged, AIMode.unset] at he
  · unfold Engaged at he
    rw [effective_paused hp hu] at he
    by_cases hlt : now < u
    · simp [hlt, AIEngagement.isEngaged, AIMode.unset] at he
    · exact Int.le_trans htu (Int.not_lt.mp hlt)

theorem SilentUntil.defaulted {t : Time} {ai : AIEngagement} (h : SilentUntil t ai) :
    SilentUntil t (defaultedAI ai) := by
  have hmode : ai.mode ≠ .unset := by
    obtain hoff | ⟨hp, -⟩ := h
    · rw [hoff]
      decide
    · rw [hp]
      decide
  unfold defaultedAI
  rw [if_neg hmode]
  exact h

theorem humanPause_silent (ai : AIEngagement) (at_ : Time) :
    SilentUntil (at_ + 12 * hour) (humanPause (ai.effective at_) at_) := by
  unfold humanPause
  split
  · exact Or.inl rfl
  · simp only
    split
    · rename_i u _ _
      refine Or.inr ⟨rfl, _, rfl, ?_⟩
      split
      · rename_i hlt
        exact Int.le_of_lt hlt
      · exact Int.le_refl _
    · exact Or.inr ⟨rfl, _, rfl, Int.le_refl _⟩

/-- It does not shorten a pause: one in force is kept if longer, and one that is over ended before. -/
theorem SilentUntil.afterHuman {t at_ : Time} {ai : AIEngagement} (h : SilentUntil t ai) :
    SilentUntil t (humanPause (ai.effective at_) at_) := by
  have hhour : (0 : Int) ≤ 12 * hour := by decide
  obtain hoff | ⟨hp, u, hu, htu⟩ := h
  · rw [effective_off hoff]
    exact Or.inl rfl
  · rw [effective_paused hp hu]
    by_cases hlt : at_ < u
    · rw [if_pos hlt]
      refine Or.inr ⟨rfl, _, rfl, ?_⟩
      split
      · exact htu
      · rename_i hge
        exact Int.le_trans htu (Int.not_lt.mp hge)
    · rw [if_neg hlt]
      refine Or.inr ⟨rfl, _, rfl, ?_⟩
      calc t ≤ u := htu
        _ ≤ at_ := Int.not_lt.mp hlt
        _ ≤ at_ + 12 * hour := Int.le_add_of_nonneg_right hhour

theorem step_ai_of_human {s : ChatState} {env : ApplyEnv} {act : OutboundActivity}
    (h : senderOf act = .humanAgent) :
    (step s (env, .outbound act)).ai = humanPause (s.ai.effective (atOf env act.at_)) (atOf env act.at_) := by
  have hai := outboundState_ai env s act
  rw [outboundAI, if_pos h] at hai
  exact hai

theorem step_ai_of_not_human {s : ChatState} {env : ApplyEnv} {act : OutboundActivity}
    (h : senderOf act ≠ .humanAgent) : (step s (env, .outbound act)).ai = defaultedAI s.ai := by
  have hai := outboundState_ai env s act
  rw [outboundAI, if_neg h] at hai
  exact hai

theorem SilentUntil.next {t : Time} {s : ChatState} {x : ApplyEnv × Activity} (h : SilentUntil t s.ai)
    (hx : isAIChange x.2 = false) : SilentUntil t (step s x).ai := by
  obtain ⟨env, a⟩ := x
  cases a with
  | inbound act =>
    have hai : (step s (env, .inbound act)).ai = defaultedAI s.ai := inboundState_ai env s act
    rw [hai]
    exact h.defaulted
  | outbound act =>
    by_cases hh : senderOf act = .humanAgent
    · rw [step_ai_of_human hh]
      exact h.afterHuman
    · rw [step_ai_of_not_human hh]
      exact h.defaulted
  | aiChange act => cases hx

theorem SilentUntil.along {t : Time} {s : ChatState} {xs : List (ApplyEnv × Activity)} (h : SilentUntil t s.ai)
    (hxs : ∀ x ∈ xs, isAIChange x.2 = false) : SilentUntil t (run s xs).ai := by
  induction xs generalizing s with
  | nil => exact h
  | cons x xs ih =>
    exact ih (h.next (hxs x List.mem_cons_self)) fun x hx => hxs x (List.mem_cons_of_mem _ hx)

/-! ### Handoffs -/

def handoffTimes (s : ChatState) : List (ApplyEnv × Activity) → List Time
  | [] => []
  | x :: xs =>
    if (x.2.apply x.1 s).2.2.any (fun i => i.kind = .publishHandoff) then x.2.at_ :: handoffTimes (step s x) xs
    else handoffTimes (step s x) xs

theorem publishesHandoff_iff_any (intents : List Intent) :
    PublishesHandoff intents ↔ intents.any (fun i => i.kind = .publishHandoff) = true := by
  simp [PublishesHandoff]

theorem outbound_handoff_iff (env : ApplyEnv) (s : ChatState) (act : OutboundActivity) :
    PublishesHandoff (outboundIntents env s act) ↔
      Engaged s.ai (atOf env act.at_) ∧ ¬ Engaged (outboundState env s act).ai (atOf env act.at_) := by
  unfold outboundIntents
  by_cases hh : senderOf act = .humanAgent
  · simp only [hh, outboundState_ai, Engaged]
    split
    · rename_i hc
      simp only [PublishesHandoff]
      simpa using hc.2
    · rename_i hc
      simp only [PublishesHandoff]
      simpa using hc
  · have hai : (outboundState env s act).ai = defaultedAI s.ai := by
      rw [outboundState_ai, outboundAI, if_neg hh]
    rw [hai, engaged_defaultedAI, if_neg (fun hc => hh hc.1)]
    simp [PublishesHandoff]

theorem aiChange_handoff_iff (env : ApplyEnv) (s : ChatState) (act : AIChangeActivity) :
    PublishesHandoff (aiChangeIntents env s act) ↔
      Engaged s.ai (atOf env act.at_) ∧ ¬ Engaged (aiChangeState env s act).ai (atOf env act.at_) := by
  unfold aiChangeIntents
  rw [aiChangeState_ai]
  unfold Engaged
  simp only
  split
  · rename_i hc
    simp [PublishesHandoff, hc]
  · rename_i hc
    by_cases hw : (s.ai.effective (atOf env act.at_)).isEngaged = true
    · simp [PublishesHandoff, hc, hw]
    · simp [PublishesHandoff, hw]

theorem apply_handoff_iff (env : ApplyEnv) (s : ChatState) (a : Activity) :
    PublishesHandoff (a.apply env s).2.2 ↔
      Engaged s.ai (atOf env a.at_) ∧ ¬ Engaged (a.apply env s).1.ai (atOf env a.at_) := by
  cases a with
  | inbound act =>
    simp [Activity.apply, PublishesHandoff, engaged_defaultedAI]
  | outbound act =>
    simp only [Activity.apply, Activity.at_]
    exact outbound_handoff_iff env s act
  | aiChange act =>
    simp only [Activity.apply, Activity.at_]
    exact aiChange_handoff_iff env s act

theorem apply_handoff_cancels (env : ApplyEnv) (s : ChatState) (a : Activity) :
    ∀ i ∈ (a.apply env s).2.2, i.kind = .publishHandoff →
      ∃ j ∈ (a.apply env s).2.2, j.kind = .cancelDebounce ∧ j.chatID = i.chatID ∧ j.workspaceID = i.workspaceID := by
  intro i hi hk
  cases a with
  | inbound act => exact absurd hi List.not_mem_nil
  | outbound act =>
    simp only [Activity.apply, outboundIntents] at hi ⊢
    split at hi
    · rename_i hc
      simp only [if_pos hc, List.mem_cons, List.not_mem_nil, or_false] at hi ⊢
      refine ⟨_, Or.inl rfl, rfl, ?_⟩
      obtain rfl | rfl := hi
      · cases hk
      · exact ⟨rfl, rfl⟩
    · exact absurd hi List.not_mem_nil
  | aiChange act =>
    simp only [Activity.apply, aiChangeIntents] at hi ⊢
    split at hi
    · exact absurd hi List.not_mem_nil
    · rename_i hc
      rw [if_neg hc]
      refine ⟨_, List.mem_cons_self, rfl, ?_⟩
      rw [List.mem_cons] at hi
      obtain rfl | hi := hi
      · exact ⟨rfl, rfl⟩
      · split at hi
        · rw [List.mem_singleton] at hi
          rw [hi]
          exact ⟨rfl, rfl⟩
        · exact absurd hi List.not_mem_nil

theorem silent_of_handoff {s : ChatState} {x : ApplyEnv × Activity} (hx : isAIChange x.2 = false)
    (h : PublishesHandoff (x.2.apply x.1 s).2.2) : SilentUntil (atOf x.1 x.2.at_ + 12 * hour) (step s x).ai := by
  obtain ⟨env, a⟩ := x
  cases a with
  | inbound act =>
    obtain ⟨i, hi, -⟩ := h
    exact absurd hi List.not_mem_nil
  | outbound act =>
    by_cases hh : senderOf act = .humanAgent
    · rw [step_ai_of_human hh]
      exact humanPause_silent _ _
    · obtain ⟨he, hne⟩ := (apply_handoff_iff env s (.outbound act)).mp h
      have hai : ((Activity.outbound act).apply env s).1.ai = defaultedAI s.ai := step_ai_of_not_human hh
      rw [hai, engaged_defaultedAI] at hne
      exact absurd he hne
  | aiChange act => cases hx

theorem le_handoffTimes {t : Time} {s : ChatState} {xs : List (ApplyEnv × Activity)} (h : SilentUntil t s.ai)
    (hxs : ∀ x ∈ xs, x.2.at_ ≠ 0 ∧ isAIChange x.2 = false) : ∀ t' ∈ handoffTimes s xs, t ≤ t' := by
  induction xs generalizing s with
  | nil =>
    intro t' ht'
    cases ht'
  | cons x xs ih =>
    obtain ⟨hat, hx⟩ := hxs x List.mem_cons_self
    have hrest := ih (h.next hx) fun x hx => hxs x (List.mem_cons_of_mem _ hx)
    intro t' ht'
    rw [handoffTimes] at ht'
    split at ht'
    · rename_i hp
      rw [List.mem_cons] at ht'
      obtain rfl | ht' := ht'
      · have he := ((apply_handoff_iff x.1 s x.2).mp ((publishesHandoff_iff_any _).mpr hp)).1
        rw [atOf_of_ne x.1 hat] at he
        exact h.le_of_engaged he
      · exact hrest t' ht'
    · exact hrest t' ht'

theorem handoffTimes_spaced (s : ChatState) (xs : List (ApplyEnv × Activity))
    (hxs : ∀ x ∈ xs, x.2.at_ ≠ 0 ∧ isAIChange x.2 = false) :
    (handoffTimes s xs).Pairwise fun t t' => t + 12 * hour ≤ t' := by
  induction xs generalizing s with
  | nil => exact List.Pairwise.nil
  | cons x xs ih =>
    obtain ⟨hat, hx⟩ := hxs x List.mem_cons_self
    have hrest : ∀ x ∈ xs, x.2.at_ ≠ 0 ∧ isAIChange x.2 = false := fun x hx => hxs x (List.mem_cons_of_mem _ hx)
    rw [handoffTimes]
    split
    · rename_i hp
      have hsilent := silent_of_handoff hx ((publishesHandoff_iff_any _).mpr hp)
      rw [atOf_of_ne x.1 hat] at hsilent
      exact List.Pairwise.cons (le_handoffTimes hsilent hrest) (ih _ hrest)
    · exact ih _ hrest

/-- **Handoffs are exact**: an activity publishes one if and only if it takes the AI from engaged to not
engaged at its own time, each comes with the cancellation of the chat's pending turn, and in a run
without an explicit change of the AI any two are twelve hours apart, in whatever order the turns arrive. -/
theorem handoff_exact (s : ChatState) :
    (∀ env (a : Activity), a.at_ ≠ 0 → (PublishesHandoff (a.apply env s).2.2 ↔
      Engaged s.ai a.at_ ∧ ¬ Engaged (a.apply env s).1.ai a.at_)) ∧
    (∀ env (a : Activity), ∀ i ∈ (a.apply env s).2.2, i.kind = .publishHandoff →
      ∃ j ∈ (a.apply env s).2.2,
        j.kind = .cancelDebounce ∧ j.chatID = i.chatID ∧ j.workspaceID = i.workspaceID) ∧
    (∀ xs, (∀ x ∈ xs, x.2.at_ ≠ 0 ∧ isAIChange x.2 = false) →
      (handoffTimes s xs).Pairwise fun t t' => t + 12 * hour ≤ t') := by
  refine ⟨?_, fun env a => apply_handoff_cancels env s a, handoffTimes_spaced s⟩
  intro env a hat
  have h := apply_handoff_iff env s a
  rw [atOf_of_ne env hat] at h
  exact h

/-- Three human turns, the second late and the third after the pause: two handoffs. -/
theorem handoff_exact_reordered :
    handoffTimes freshChat [replyAt (30 * hour) "operator" "", replyAt (20 * hour) "human" "",
      replyAt (42 * hour) "human_agent" ""] = [30 * hour, 42 * hour] ∧
    (30 * hour) + 12 * hour ≤ 42 * hour := by
  have hval : handoffTimes freshChat [replyAt (30 * hour) "operator" "", replyAt (20 * hour) "human" "",
      replyAt (42 * hour) "human_agent" ""] = [30 * hour, 42 * hour] := by decide
  have hspaced := (handoff_exact freshChat).2.2 [replyAt (30 * hour) "operator" "", replyAt (20 * hour) "human" "",
      replyAt (42 * hour) "human_agent" ""] (by decide)
  rw [hval] at hspaced
  exact ⟨hval, (List.pairwise_cons.mp hspaced).1 _ (List.mem_singleton.mpr rfl)⟩

/-! ### Human control -/

/-- An explicit request to resume: any mode but off and paused. -/
def resumes : Activity → Bool
  | .aiChange act => act.mode ≠ .off && act.mode ≠ .paused
  | _ => false

theorem changedAI_off {s : ChatState} {act : AIChangeActivity} {at_ : Time} (h : s.ai.mode = .off)
    (hact : resumes (.aiChange act) = false) : changedAI s act at_ = ⟨.off, none⟩ := by
  unfold changedAI
  cases hm : act.mode with
  | off => rfl
  | paused => simp [effective_off h]
  | active => simp [resumes, hm] at hact
  | other w hw => simp [resumes, hm] at hact

theorem step_off {s : ChatState} {x : ApplyEnv × Activity} (h : s.ai.mode = .off) (hx : resumes x.2 = false) :
    (step s x).ai.mode = .off := by
  obtain ⟨env, a⟩ := x
  cases a with
  | inbound act =>
    have hai : (step s (env, .inbound act)).ai = defaultedAI s.ai := inboundState_ai env s act
    rw [hai]
    simp [defaultedAI, h, AIMode.unset]
  | outbound act =>
    by_cases hh : senderOf act = .humanAgent
    · rw [step_ai_of_human hh, effective_off h]
      rfl
    · rw [step_ai_of_not_human hh]
      simp [defaultedAI, h, AIMode.unset]
  | aiChange act =>
    have hai : (step s (env, .aiChange act)).ai = changedAI s act (atOf env act.at_) := aiChangeState_ai env s act
    rw [hai, changedAI_off h hx]

theorem run_off {s : ChatState} {xs : List (ApplyEnv × Activity)} (h : s.ai.mode = .off)
    (hxs : ∀ x ∈ xs, resumes x.2 = false) : (run s xs).ai.mode = .off := by
  induction xs generalizing s with
  | nil => exact h
  | cons x xs ih =>
    exact ih (step_off h (hxs x List.mem_cons_self)) fun x hx => hxs x (List.mem_cons_of_mem _ hx)

/-- **Human control**: the AI mode stays off through every run without an explicit resume, and after a
human turn at `a` the AI is not engaged before `a + 12h` in any state reached without an explicit change,
whatever times the later turns carry. -/
theorem human_control (s : ChatState) (xs : List (ApplyEnv × Activity)) :
    (s.ai.mode = .off → (∀ x ∈ xs, resumes x.2 = false) → (run s xs).ai.mode = .off) ∧
    (∀ env act, senderOf act = .humanAgent → (∀ x ∈ xs, isAIChange x.2 = false) →
      ∀ t < atOf env act.at_ + 12 * hour, ¬ Engaged (run (step s (env, .outbound act)) xs).ai t) := by
  refine ⟨run_off, ?_⟩
  intro env act hh hxs t ht he
  have hsilent : SilentUntil (atOf env act.at_ + 12 * hour) (step s (env, .outbound act)).ai := by
    rw [step_ai_of_human hh]
    exact humanPause_silent _ _
  exact absurd ((hsilent.along hxs).le_of_engaged he) (Int.not_le.mpr ht)

/-- A human turn, then one with an earlier time: still silent just before the twelve hours of the first
are over. Switched off, the AI stays off through both. -/
theorem human_control_reordered :
    (run freshChat [replyAt (30 * hour) "human" "", replyAt (5 * hour) "human" ""]).ai = ⟨.paused, some (42 * hour)⟩ ∧
    ¬ Engaged (run freshChat [replyAt (30 * hour) "human" "", replyAt (5 * hour) "human" ""]).ai (42 * hour - 1) ∧
    (run { freshChat with ai := ⟨.off, none⟩ }
      [replyAt (30 * hour) "human" "", replyAt (5 * hour) "human" ""]).ai.mode = .off := by
  refine ⟨by decide, ?_, ?_⟩
  · rw [run_cons]
    exact (human_control freshChat [replyAt (5 * hour) "human" ""]).2 noProduct (reply (30 * hour) "human" "")
      (by decide) (by decide) _ (by decide)
  · exact (human_control _ _).1 rfl (by decide)

end PerGo.L4.ChatRun
