import PerGo.Core.Pool
import PerGo.L3Chat.React
import PerGo.L3Inbound.Payload
import PerGo.L4App.DeliveryEnd
import PerGo.L4App.WebhookFanOut

/-!
# The two ways of a reaction to the webhooks

A reaction is announced twice: `DispatchReaction` posts it to each subscription at once, and the event on
`messages.events.reaction_updated` is fanned out by the reaction consumer into delivery tasks, which the
delivery consumer posts.

* `Call`: the call of `Engine.React` or of `InboundProcessor.Process` whose effects are carried out.
* `St`: what is left of them, the loop of `DispatchReaction`, the event while it is not acked, its tasks
  with the number of their deliveries, and the subscriptions that took a POST.
* An event or a task whose ack is lost is delivered again. Other tasks come into the stream, and the breaker
  changes, at any time.

Results: `one_webhook`, and `posted_by_both_routes` for a run in which nothing goes wrong.
-/
namespace PerGo.L4.ReactionRoutes

open PerGo.Core PerGo.L1 PerGo.L2 PerGo.L3 PerGo.L3.Webhook
open WebhookFanOut (Event Delivery OfTasks added Clean processEvent_spec)
open DeliveryEnd (status dispatch_err_none_iff webhookBody_none)
open DLQReplay (maxDeliver)

/-! ## The calls -/

inductive Call
  | react (e : React.ChatEngine) (env : React.ReactEnv) (rows : List ChatMessage) (ws : UUID) (req : React.ReactRequest)
  | process (p : InboundProcessor) (env : InEnv) (ev : InboundEvent) (w : InWorld)

def Call.effects : Call → List InEffect
  | .react e env rows ws req =>
    match React.react e env rows ws req with
    | .ok (_, _, out) => out
    | .error _ => []
  | .process p env ev w => if ev.reaction.isSome then (processInbound p env ev w).1.out.drop w.out.length else []

theorem effects_announced (call : Call) : call.effects = [] ∨ ∃ publisher dispatcher audit ws messageUID payload trace,
    call.effects = React.announced publisher dispatcher audit ws messageUID payload trace := by
  cases call with
  | react e env rows ws req =>
    simp only [Call.effects]
    split
    · rename_i result rows' out h
      obtain ⟨wsID, payload, rfl⟩ := React.react_out h
      exact Or.inr ⟨_, _, _, _, _, _, _, rfl⟩
    · exact Or.inl rfl
  | process p env ev w =>
    simp only [Call.effects]
    cases hr : ev.reaction with
    | none => exact Or.inl rfl
    | some r =>
      simp only [Option.isSome_some, if_true, processInbound, hr]
      split
      · exact Or.inl List.drop_length
      · obtain ⟨payload, hout⟩ := React.processReaction_out p env ev w (traceOf env ev) r
        rw [hout, List.drop_left]
        exact Or.inr ⟨_, _, _, _, _, _, _, rfl⟩

/-- The order of the effects. -/
def rank : InEffect → Nat
  | .publish .. => 0
  | .dispatchReaction .. => 1
  | _ => 2

theorem announced_ordered (publisher dispatcher audit : Bool) (ws : UUID) (messageUID : String)
    (payload : ReactionUpdatedPayload) (trace : String) :
    (React.announced publisher dispatcher audit ws messageUID payload trace).Pairwise fun a b => rank a < rank b := by
  cases publisher <;> cases dispatcher <;> cases audit <;> simp [React.announced, rank]

/-! ## The system -/

/-- `ListByWorkspace`. -/
structure Subs where
  rows : List WebhookSubscription
  ids : (rows.map (·.id)).Nodup

structure St where
  todo : List InEffect
  direct : List WebhookDeliveryTask
  /-- the stream took the event -/
  stored : Bool
  event : Option Document
  pending : List (WebhookDeliveryTask × Nat)
  posted : List UUID
  hook : WebhookSt

inductive Lbl
  /-- the next effect: whether the stream takes a publish, and what a dispatch lists -/
  | effect (taken : Bool) (subs : Except String Subs)
  | direct (env : DeliverEnv)
  | event (subs : Subs) (d : Delivery) (lost : Bool)
  | deliver (i : Nat) (env : DeliverEnv) (lost : Bool)
  | other (now : Time) (task : WebhookDeliveryTask)
  | breaker (cb : CircuitBreaker)

/-- The tasks `DispatchReaction` goes through. mirrors webhook/dispatcher.go:119-133 -/
def directTasks (id ws : UUID) (messageUID trace : String) (payload : Document) (subs : List WebhookSubscription) :
    List WebhookDeliveryTask :=
  (subs.filter fun sub => sub.active && matchesAny sub.eventTypes "message.reaction.updated").map fun sub =>
    ⟨id, sub.id, ws, "message.reaction.updated", trace, messageUID, payload, .reaction⟩

def took (r : L3.Webhook.DispatchResult) : Bool := r.post.isSome && r.err.isNone

section System

variable (sha256Hex : String → String) (J : Jsonb) (tt : TimeText) (parseUUID : String → Except String UUID)

def eventOf (payload : Document) (subs : Subs) : Event := ⟨.reaction, payload, subs.rows, subs.ids, parseUUID⟩

def carryOut (s : St) (taken : Bool) (subs : Except String Subs) (rest : List InEffect) : InEffect → St
  | .publish _ payload _ _ =>
    match payload.marshal tt with
    | some doc => if taken then { s with todo := rest, stored := true, event := some doc } else { s with todo := rest }
    | none => { s with todo := rest }
  | .dispatchReaction ws messageUID payload trace =>
    match subs with
    | .error _ => { s with todo := rest }
    | .ok subs =>
      let doc := Payload.reactionDoc tt payload
      { s with todo := rest, direct := directTasks s.hook.newTaskID ws messageUID trace doc subs.rows }
  | _ => { s with todo := rest }

/-- What a `Dispatch` adds to the posts. -/
def afterDispatch (s : St) (env : DeliverEnv) (task : WebhookDeliveryTask) : List UUID :=
  if took (dispatch sha256Hex s.hook.breaker env.toDispatchEnv task) then s.posted ++ [task.subscriptionID] else s.posted

def step (s : St) : Lbl → Option St
  | .effect taken subs =>
    match s.todo with
    | [] => none
    | e :: rest => some (carryOut tt s taken subs rest e)
  | .direct env =>
    match s.direct with
    | [] => none
    | task :: rest =>
      let r := dispatch sha256Hex s.hook.breaker env.toDispatchEnv task
      some { s with direct := rest, posted := afterDispatch sha256Hex s env task,
                    hook := s.hook.afterDispatch env.toDispatchEnv task r }
  | .event subs d lost =>
    match s.event with
    | none => none
    | some doc =>
      let e := eventOf parseUUID doc subs
      let r := processEvent (e.env d) s.hook e.mode e.payload
      let new := (added s.hook r.1).map fun task => (task, 0)
      let event := if r.2 = .ack ∧ lost = false then none else some doc
      some { s with hook := r.1, pending := s.pending ++ new, event := event }
  | .deliver i env lost =>
    match s.pending[i]? with
    | none => none
    | some (task, n) =>
      if maxDeliver ≤ n then none
      else
        let r := processDelivery sha256Hex J env s.hook (n + 1) task
        let pending := if r.2 = .ack ∧ lost = false then s.pending.eraseIdx i else s.pending.set i (task, n + 1)
        some { s with hook := r.1, posted := afterDispatch sha256Hex s env task, pending := pending }
  | .other now task => some { s with hook := s.hook.publishTask now task }
  | .breaker cb => some { s with hook := { s.hook with breaker := cb } }

def init (call : Call) : St := ⟨call.effects, [], false, none, [], [], WebhookSt.new⟩

def sys (call : Call) : LTS St Lbl := LTS.ofFn (init call) (step sha256Hex J tt parseUUID)

/-- The subscriber, if it is asked, answers with 2xx. -/
def takes (task : WebhookDeliveryTask) (s : St) (env : DeliverEnv) : Bool :=
  (status sha256Hex task ⟨s.hook, env⟩).any fun code => 200 ≤ code && code < 300

/-- `DispatchReaction` reaches no subscriber once the stream has the event; the event is fanned out by one delivery;
and the ack of a task that a subscriber took is not lost. -/
def Meets (s : St) : Lbl → Prop
  | .direct env => s.stored = true → ∀ task ∈ s.direct.head?, takes sha256Hex task s env = false
  | .event subs d lost => lost = false ∧ ∀ doc ∈ s.event, Clean (eventOf parseUUID doc subs) (.deliver d)
  | .deliver i env lost => ∀ p ∈ s.pending[i]?, takes sha256Hex p.1 s env = true → lost = false
  | _ => True

end System

/-- No subscription took two POSTs. -/
def OneWebhook (s : St) : Prop := s.posted.Nodup

/-! ## What the operations do -/

section Operations

variable {sha256Hex : String → String} {J : Jsonb}

theorem takes_of_took {s : St} {env : DeliverEnv} {task : WebhookDeliveryTask}
    (h : took (dispatch sha256Hex s.hook.breaker env.toDispatchEnv task) = true) : takes sha256Hex task s env = true := by
  simp only [took, Bool.and_eq_true, Option.isNone_iff_eq_none, Option.isSome_iff_exists] at h
  obtain ⟨⟨post, hpost⟩, herr⟩ := h
  have hacc : DeliveryEnd.Accepted sha256Hex task ⟨s.hook, env⟩ := (dispatch_err_none_iff ⟨s.hook, env⟩).mp herr
  rcases hacc with ⟨code, hcode, h200, h300⟩ | ⟨-, hsafe⟩
  · unfold takes
    rw [hcode]
    simp [h200, h300]
  · have hbody := dispatch_post sha256Hex hpost
    rw [webhookBody_none.mpr hsafe] at hbody
    cases hbody

theorem handleDeliveryRetry_stream (env : DeliverEnv) (s : WebhookSt) (n : Nat) (err : DispatchError)
    (task : WebhookDeliveryTask) : (handleDeliveryRetry J env s n err task).1.stream = s.stream := by
  unfold handleDeliveryRetry
  split
  · split
    · rfl
    · rename_i s' hs'
      unfold writeToDLQ at hs'
      split at hs'
      · obtain ⟨-, hs'⟩ := Option.ite_none_left_eq_some.mp hs'
        obtain rfl := Option.some.inj hs'
        rfl
      · cases hs'
  · rfl

theorem processDelivery_stream (env : DeliverEnv) (s : WebhookSt) (n : Nat) (task : WebhookDeliveryTask) :
    (processDelivery sha256Hex J env s n task).1.stream = s.stream := by
  unfold processDelivery
  dsimp only
  split
  · rfl
  · rw [handleDeliveryRetry_stream]
    rfl

theorem ack_of_took {env : DeliverEnv} {s : WebhookSt} {n : Nat} {task : WebhookDeliveryTask}
    (h : took (dispatch sha256Hex s.breaker env.toDispatchEnv task) = true) :
    (processDelivery sha256Hex J env s n task).2 = .ack := by
  simp only [took, Bool.and_eq_true, Option.isNone_iff_eq_none] at h
  unfold processDelivery
  simp only [h.2]

theorem directTasks_ids (id ws : UUID) (messageUID trace : String) (payload : Document) (subs : Subs) :
    ((directTasks id ws messageUID trace payload subs.rows).map (·.subscriptionID)).Nodup := by
  unfold directTasks
  rw [List.map_map]
  exact subs.ids.sublist (List.filter_sublist.map _)

theorem event_clean {e : Event} {d : Delivery} {s : WebhookSt} (hof : OfTasks s) (hclean : Clean e (.deliver d)) :
    ((added s (processEvent (e.env d) s e.mode e.payload).1).map (·.subscriptionID)).Nodup ∧
      ((processEvent (e.env d) s e.mode e.payload).2 ≠ .ack →
        added s (processEvent (e.env d) s e.mode e.payload).1 = []) := by
  obtain ⟨hadds, hack⟩ := processEvent_spec e d hof
  have hdue : (e.due.map (·.id)).Nodup := by
    unfold Event.due
    split
    · exact List.nodup_nil
    · exact e.ids.sublist (List.filter_sublist.map _)
  rw [hadds.tasks]
  constructor
  · unfold WebhookFanOut.published
    split
    · exact List.nodup_nil
    · exact hdue.sublist ((List.takeWhile_sublist _).map _)
  · intro hno
    have hnone : WebhookFanOut.published e d = [] := by
      unfold WebhookFanOut.published
      split
      · rfl
      · rename_i hlist
        rw [Classical.not_not] at hlist
        rcases hclean with hbad | hall | hfirst
        · exact absurd hlist hbad
        · exact absurd (hack.mpr (Or.inr ⟨hlist, hall⟩)) hno
        · cases hd : e.due with
          | nil => rfl
          | cons sub rest =>
            have hsub : d.publishErr sub.id ≠ none := hfirst sub (by simp [hd])
            simp [hsub]
    have hmap := hadds.tasks
    rw [hnone] at hmap
    exact List.map_eq_nil_iff.mp hmap

end Operations

/-! ## The invariant -/

def waiting (s : St) : List UUID := s.pending.map (·.1.subscriptionID)

structure Inv (s : St) : Prop where
  ofTasks : OfTasks s.hook
  ordered : s.todo.Pairwise fun a b => rank a < rank b
  /-- nothing is published or dispatched yet -/
  unpublished : ∀ e ∈ s.todo, rank e = 0 → s.stored = false ∧ s.posted = [] ∧ s.direct = []
  undispatched : ∀ e ∈ s.todo, rank e ≤ 1 → s.direct = [] ∧ (s.stored = false → s.posted = [])
  /-- without the event a subscription is posted to by `DispatchReaction` only -/
  alone : s.stored = false → s.event = none ∧ s.pending = [] ∧ (s.posted ++ s.direct.map (·.subscriptionID)).Nodup
  /-- with it by its tasks only -/
  stream : s.stored = true → (s.posted ++ waiting s).Nodup ∧ (s.event ≠ none → s.posted = [] ∧ s.pending = [])

section Steps

variable {sha256Hex : String → String} {J : Jsonb} {tt : TimeText} {parseUUID : String → Except String UUID} {s : St}

theorem inv_init (call : Call) : Inv (init call) := by
  refine ⟨?_, ?_, ?_, ?_, ?_, ?_⟩
  · intro m hm
    cases hm
  · show call.effects.Pairwise _
    rcases effects_announced call with h | ⟨pub, disp, aud, ws, uid, payload, trace, h⟩
    · rw [h]
      exact List.Pairwise.nil
    · rw [h]
      exact announced_ordered pub disp aud ws uid payload trace
  · exact fun _ _ _ => ⟨rfl, rfl, rfl⟩
  · exact fun _ _ _ => ⟨rfl, fun _ => rfl⟩
  · exact fun _ => ⟨rfl, rfl, List.nodup_nil⟩
  · intro h
    cases h

theorem Inv.skip (h : Inv s) {e : InEffect} {rest : List InEffect} (htodo : s.todo = e :: rest) :
    Inv { s with todo := rest } := by
  have hsub : ∀ e' ∈ rest, e' ∈ s.todo := fun e' he' => by
    rw [htodo]
    exact List.mem_cons_of_mem e he'
  have hord := h.ordered
  rw [htodo] at hord
  exact ⟨h.ofTasks, hord.of_cons, fun e' he' => h.unpublished e' (hsub e' he'),
    fun e' he' => h.undispatched e' (hsub e' he'), h.alone, h.stream⟩

theorem inv_effect (h : Inv s) {e : InEffect} {rest : List InEffect} (htodo : s.todo = e :: rest) (taken : Bool)
    (subs : Except String Subs) : Inv (carryOut tt s taken subs rest e) := by
  have hskip := h.skip htodo
  have hmem : e ∈ s.todo := by
    rw [htodo]
    exact List.mem_cons_self
  have hord := h.ordered
  rw [htodo] at hord
  have hlater : ∀ e' ∈ rest, rank e < rank e' := fun _ he' => List.rel_of_pairwise_cons hord he'
  cases e with
  | publish subject payload msgID ok =>
    simp only [carryOut]
    split
    · split
      · obtain ⟨hst, hposted, hdirect⟩ := h.unpublished _ hmem rfl
        obtain ⟨-, hpending, -⟩ := h.alone hst
        refine ⟨h.ofTasks, hord.of_cons, ?_, ?_, nofun, ?_⟩
        · intro e' he' hrank
          have hlt := hlater e' he'
          rw [hrank] at hlt
          exact absurd hlt (Nat.not_lt_zero _)
        · exact fun _ _ _ => ⟨hdirect, nofun⟩
        · intro _
          refine ⟨?_, fun _ => ⟨hposted, hpending⟩⟩
          simp only [waiting, hposted, hpending]
          exact List.nodup_nil
      · exact hskip
    · exact hskip
  | dispatchReaction ws messageUID payload trace =>
    simp only [carryOut]
    cases subs with
    | error err => exact hskip
    | ok subs =>
      obtain ⟨-, hposted⟩ := h.undispatched _ hmem (Nat.le_refl 1)
      refine ⟨h.ofTasks, hord.of_cons, ?_, ?_, ?_, h.stream⟩
      · intro e' he' hrank
        have hlt := hlater e' he'
        rw [hrank] at hlt
        exact absurd hlt (Nat.not_lt_zero _)
      · intro e' he' hrank
        have hlt : 1 < rank e' := hlater e' he'
        omega
      · intro hst
        obtain ⟨hevent, hpending, -⟩ := h.alone hst
        refine ⟨hevent, hpending, ?_⟩
        show (s.posted ++ _).Nodup
        rw [hposted hst, List.nil_append]
        exact directTasks_ids _ ws messageUID trace _ subs
  | audit => exact hskip
  | debounce => exact hskip
  | route => exact hskip

theorem inv_direct (h : Inv s) {env : DeliverEnv} {task : WebhookDeliveryTask} {rest : List WebhookDeliveryTask}
    (hdirect : s.direct = task :: rest) (hg : s.stored = true → takes sha256Hex task s env = false) (hook : WebhookSt)
    (hof : OfTasks hook) :
    Inv { s with direct := rest, posted := afterDispatch sha256Hex s env task, hook := hook } := by
  have hnone : ∀ {P : Prop}, s.direct = [] → P := by
    intro P hnil
    rw [hdirect] at hnil
    cases hnil
  refine ⟨hof, h.ordered, ?_, ?_, ?_, ?_⟩
  · exact fun e he hrank => hnone (h.unpublished e he hrank).2.2
  · exact fun e he hrank => hnone (h.undispatched e he hrank).1
  · intro hst
    obtain ⟨hevent, hpending, hnodup⟩ := h.alone hst
    refine ⟨hevent, hpending, ?_⟩
    rw [hdirect, List.map_cons] at hnodup
    show (afterDispatch sha256Hex s env task ++ rest.map (·.subscriptionID)).Nodup
    unfold afterDispatch
    split
    · rw [List.append_assoc]
      exact hnodup
    · exact hnodup.sublist ((List.Sublist.refl _).append (List.sublist_cons_self _ _))
  · intro hst
    have hsame : afterDispatch sha256Hex s env task = s.posted := by
      unfold afterDispatch
      rw [if_neg]
      intro htook
      have htakes := takes_of_took htook
      rw [hg hst] at htakes
      cases htakes
    show (afterDispatch sha256Hex s env task ++ waiting s).Nodup ∧ (s.event ≠ none → afterDispatch sha256Hex s env task = [] ∧
      s.pending = [])
    rw [hsame]
    exact h.stream hst

theorem inv_event (h : Inv s) {doc : Document} (hevent : s.event = some doc) {subs : Subs} {d : Delivery}
    (hclean : Clean (eventOf parseUUID doc subs) (.deliver d)) {s' : St}
    (hs : step sha256Hex J tt parseUUID s (.event subs d false) = some s') : Inv s' := by
  have hst : s.stored = true := by
    cases hst : s.stored with
    | true => rfl
    | false =>
      have hnone := (h.alone hst).1
      rw [hevent] at hnone
      cases hnone
  obtain ⟨-, hquiet⟩ := h.stream hst
  obtain ⟨hposted, hpending⟩ := hquiet (by simp [hevent])
  simp only [step, hevent] at hs
  obtain rfl := Option.some.inj hs
  obtain ⟨hnodup, hnew⟩ := event_clean h.ofTasks hclean
  have hof := (processEvent_spec (eventOf parseUUID doc subs) d h.ofTasks).1.ofTasks
  generalize processEvent ((eventOf parseUUID doc subs).env d) s.hook (eventOf parseUUID doc subs).mode
    (eventOf parseUUID doc subs).payload = r at hnodup hnew hof ⊢
  refine ⟨hof, h.ordered, ?_, ?_, ?_, ?_⟩
  · intro e he hrank
    have hfalse := (h.unpublished e he hrank).1
    rw [hst] at hfalse
    cases hfalse
  · exact h.undispatched
  · intro hfalse
    rw [hst] at hfalse
    cases hfalse
  · intro _
    show (s.posted ++ (s.pending ++ _).map _).Nodup ∧ _
    rw [hposted, hpending, List.nil_append, List.nil_append, List.map_map]
    refine ⟨hnodup, fun hopen => ?_⟩
    have hno : r.2 ≠ .ack := by
      intro hack
      exact hopen (if_pos ⟨hack, trivial⟩)
    refine ⟨rfl, ?_⟩
    show (added s.hook r.1).map _ = []
    rw [hnew hno]
    rfl

theorem inv_redelivered (h : Inv s) (hst : s.stored = true) (hevent : s.event = none) {hook : WebhookSt}
    (hof : OfTasks hook) {posted : List UUID} {pending : List (WebhookDeliveryTask × Nat)}
    (hnodup : (posted ++ pending.map (·.1.subscriptionID)).Nodup) :
    Inv { s with hook := hook, posted := posted, pending := pending } := by
  refine ⟨hof, h.ordered, ?_, ?_, ?_, ?_⟩
  · intro e he hrank
    have hfalse := (h.unpublished e he hrank).1
    rw [hst] at hfalse
    cases hfalse
  · intro e he hrank
    refine ⟨(h.undispatched e he hrank).1, fun hfalse => ?_⟩
    rw [hst] at hfalse
    cases hfalse
  · intro hfalse
    rw [hst] at hfalse
    cases hfalse
  · exact fun _ => ⟨hnodup, fun hopen => absurd hevent hopen⟩

theorem inv_deliver (h : Inv s) {i : Nat} {env : DeliverEnv} {lost : Bool} {task : WebhookDeliveryTask} {n : Nat}
    (hi : s.pending[i]? = some (task, n)) (hg : takes sha256Hex task s env = true → lost = false)
    {r : WebhookSt × WorkerAck} (hr : processDelivery sha256Hex J env s.hook (n + 1) task = r) :
    Inv { s with hook := r.1, posted := afterDispatch sha256Hex s env task,
                 pending := if r.2 = .ack ∧ lost = false then s.pending.eraseIdx i else s.pending.set i (task, n + 1) } := by
  have hne : s.pending ≠ [] := by
    intro hnil
    rw [hnil] at hi
    cases hi
  have hst : s.stored = true := by
    cases hst : s.stored with
    | true => rfl
    | false => exact absurd (h.alone hst).2.1 hne
  obtain ⟨hnodup, hquiet⟩ := h.stream hst
  have hevent : s.event = none := by
    by_contra hopen
    exact hne (hquiet hopen).2
  have hof : OfTasks r.1 := by
    intro m hm
    rw [← hr, processDelivery_stream] at hm
    exact h.ofTasks m hm
  have hset : (s.pending.set i (task, n + 1)).map (·.1.subscriptionID) = waiting s :=
    map_set_of_eq hi rfl
  have herase : (s.posted ++ [task.subscriptionID] ++ (s.pending.eraseIdx i).map (·.1.subscriptionID)).Perm
      (s.posted ++ waiting s) := by
    rw [List.append_assoc]
    refine List.Perm.append_left s.posted ?_
    unfold waiting
    conv_rhs => rw [split_at hi]
    rw [List.eraseIdx_eq_take_drop_succ, List.map_append, List.map_append, List.map_cons, List.singleton_append]
    exact List.perm_middle.symm
  refine inv_redelivered h hst hevent hof ?_
  unfold afterDispatch
  split
  · rename_i htook
    have hack : r.2 = .ack := by
      rw [← hr]
      exact ack_of_took htook
    rw [if_pos ⟨hack, hg (takes_of_took htook)⟩]
    exact herase.nodup_iff.mpr hnodup
  · split
    · exact hnodup.sublist ((List.Sublist.refl _).append ((List.eraseIdx_sublist _ _).map _))
    · rw [hset]
      exact hnodup

theorem inv_step (h : Inv s) {l : Lbl} {s' : St} (hg : Meets sha256Hex parseUUID s l)
    (hs : step sha256Hex J tt parseUUID s l = some s') : Inv s' := by
  cases l with
  | effect taken subs =>
    cases htodo : s.todo with
    | nil => simp [step, htodo] at hs
    | cons e rest =>
      simp only [step, htodo] at hs
      obtain rfl := Option.some.inj hs
      exact inv_effect h htodo taken subs
  | direct env =>
    cases hdirect : s.direct with
    | nil => simp [step, hdirect] at hs
    | cons task rest =>
      simp only [step, hdirect] at hs
      obtain rfl := Option.some.inj hs
      exact inv_direct h hdirect (fun hst => hg hst task (by simp [hdirect])) _ h.ofTasks
  | event subs d lost =>
    obtain ⟨rfl, hclean⟩ := hg
    cases hevent : s.event with
    | none => simp [step, hevent] at hs
    | some doc => exact inv_event h hevent (hclean doc (by simp [hevent])) hs
  | deliver i env lost =>
    cases hi : s.pending[i]? with
    | none => simp [step, hi] at hs
    | some p =>
      obtain ⟨task, n⟩ := p
      simp only [step, hi] at hs
      obtain ⟨-, hs⟩ := Option.ite_none_left_eq_some.mp hs
      obtain rfl := Option.some.inj hs
      exact inv_deliver h hi (hg (task, n) (by simp [hi])) rfl
  | other now task =>
    obtain rfl := Option.some.inj hs
    exact ⟨h.ofTasks.publishTask now task, h.ordered, h.unpublished, h.undispatched, h.alone, h.stream⟩
  | breaker cb =>
    obtain rfl := Option.some.inj hs
    exact ⟨h.ofTasks, h.ordered, h.unpublished, h.undispatched, h.alone, h.stream⟩

theorem Inv.oneWebhook (h : Inv s) : OneWebhook s := by
  cases hst : s.stored with
  | true => exact (h.stream hst).1.sublist (List.sublist_append_left _ _)
  | false => exact (h.alone hst).2.2.sublist (List.sublist_append_left _ _)

end Steps

/-- A subscription takes at most one POST of a reaction in every run that meets the condition. -/
theorem one_webhook (sha256Hex : String → String) (J : Jsonb) (tt : TimeText)
    (parseUUID : String → Except String UUID) (call : Call) {s : St}
    (h : ((sys sha256Hex J tt parseUUID call).restrict (Meets sha256Hex parseUUID)).Reachable s) : OneWebhook s := by
  have hind : ((sys sha256Hex J tt parseUUID call).restrict (Meets sha256Hex parseUUID)).Inductive Inv := by
    refine LTS.Inductive.of_restrict ?_ fun s l s' hi hg hs => inv_step hi hg hs
    rintro s rfl
    exact inv_init call
  exact (hind.reachable h).oneWebhook

/-! ## One reaction -/

instance decidableMeets (sha256Hex : String → String) (parseUUID : String → Except String UUID) (s : St) :
    (l : Lbl) → Decidable (Meets sha256Hex parseUUID s l)
  | .direct _ => inferInstanceAs (Decidable (s.stored = true → ∀ task ∈ s.direct.head?, _))
  | .event _ _ _ => inferInstanceAs (Decidable (_ ∧ ∀ doc ∈ s.event, _ ∨ _ ∨ _))
  | .deliver i _ _ => inferInstanceAs (Decidable (∀ p ∈ s.pending[i]?, _ → _))
  | .effect .. | .other .. | .breaker .. => .isTrue trivial

def hookSub : WebhookSubscription := ⟨20, 7, "https://hooks.example/in", "secret", ["message.*"], true⟩

def hookSubs : Subs := ⟨[hookSub], by decide⟩

/-- The operator reacts to a message of workspace 7. -/
def thumbsUp : Call :=
  .react React.serverChatEngine ⟨1700000000 * second, "t-1", Ctx.empty, false, false, none⟩
    [{ id := 1, chatID := 9, workspaceID := 7, uid := "wamid.1", direction := .inbound, senderType := .contact,
       senderName := "", senderID := "", body := "hi", mediaURL := none, mediaType := none, isPrivate := false,
       reactions := [], replyToUID := none, metadata := [], createdAt := 1699999999 * second }]
    7 ⟨UUID.Nil, "wamid.1", "👍", "add", ""⟩

def answers (code : Nat) : DeliverEnv where
  now := 1700000001 * second
  getSub := fun id => .ok (if id = 20 then some hookSub else none)
  wsStore := none
  newRequest := fun _ => none
  client := fun _ => .ok (code, "")
  metadata := true
  getSubDLQ := fun id => .ok (if id = 20 then some hookSub else none)
  insertDLQ := true

def parse (s : String) : Except String UUID :=
  if s = "00000000-0000-0000-0000-000000000007" then .ok 7 else .error "invalid UUID length"

def atNoon : TimeText := ⟨fun _ => "2023-11-14T12:00:00Z", fun _ => "2023-11-14T12:00:00Z"⟩

/-- The call is carried out, the direct POST is answered with `code`, and the task of the event with 200. -/
def bothRoutes (code : Nat) : List Lbl :=
  [.effect true (.ok hookSubs), .effect true (.ok hookSubs), .effect true (.ok hookSubs), .direct (answers code),
    .event hookSubs ⟨1700000002 * second, none, fun _ => none⟩ false, .deliver 0 (answers 200) false]

/-- The direct POST fails, and the task's is taken. -/
theorem one_webhook_after_failure :
    ∃ s, LTS.exec (step DLQReplay.sampleHash DLQReplay.sortedColumn atNoon parse) (init thumbsUp) (bothRoutes 503) = some s ∧
      s.posted = [20] ∧ OneWebhook s := by
  have hrun : ((LTS.exec (step DLQReplay.sampleHash DLQReplay.sortedColumn atNoon parse) (init thumbsUp) (bothRoutes 503)).any
      fun s => s.posted = [20]) = true := by decide +kernel
  have hguard : LTS.Guarded (step DLQReplay.sampleHash DLQReplay.sortedColumn atNoon parse) (Meets DLQReplay.sampleHash parse) (init thumbsUp)
      (bothRoutes 503) := by decide +kernel
  obtain ⟨s, hexec, hposted⟩ := (Option.any_eq_true _ _).mp hrun
  exact ⟨s, hexec, of_decide_eq_true hposted,
    one_webhook DLQReplay.sampleHash DLQReplay.sortedColumn atNoon parse thumbsUp (LTS.exec_restrict_reachable hexec hguard)⟩

/-- Nothing fails, and the subscriber takes the reaction twice. -/
theorem posted_by_both_routes :
    ¬ ∀ s, (sys DLQReplay.sampleHash DLQReplay.sortedColumn atNoon parse thumbsUp).Reachable s → OneWebhook s := by
  intro hall
  have hrun : ((LTS.exec (step DLQReplay.sampleHash DLQReplay.sortedColumn atNoon parse) (init thumbsUp) (bothRoutes 200)).any
      fun s => s.posted = [20, 20]) = true := by decide +kernel
  obtain ⟨s, hexec, hposted⟩ := (Option.any_eq_true _ _).mp hrun
  have hone := hall s (LTS.exec_reachable hexec)
  rw [OneWebhook, of_decide_eq_true hposted] at hone
  exact absurd hone (by decide)

end PerGo.L4.ReactionRoutes
