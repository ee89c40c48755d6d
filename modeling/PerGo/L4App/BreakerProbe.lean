import PerGo.Core.LTS
import PerGo.L3Webhook.Delivery

/-!
# The probe of an open circuit

`Dispatch` holds the breaker's lock only inside `Allow` and `Record…`, so calls
overlap: a call is admitted (`start`), is in flight, and finishes later with its
own view of the world and its own clock reading. `allowCall` and `deliver` are the
two halves of `dispatch` (`dispatch_eq`).

A half-open endpoint lets no call through, so the one call that made it half-open
has to record its outcome. `deliver` records nothing when the safety filter drops
the payload, and when the request cannot be built (`deliverRecords`): the endpoint
is then half-open for good (`probe_stranded`).

* `Postable`: the condition on a call that returns, that neither happens.
* `HalfOpenProbed`: every half-open endpoint has a call in flight.
* `breaker_not_stranded`: in every run of postable calls nothing is half-open
  when nothing is in flight, and every call records once; a call records once
  exactly when it is postable.
-/
namespace PerGo.L4.BreakerProbe

open PerGo.Core PerGo.L1 PerGo.L2 PerGo.L3 PerGo.L3.Webhook

variable (sha256Hex : String → String)

/-! ## The two halves of a call -/

/-- mirrors webhook/dispatcher.go:144-159 -/
def allowCall (cb : CircuitBreaker) (env : DispatchEnv) (task : WebhookDeliveryTask) :
    CircuitBreaker × Except DispatchError WebhookSubscription :=
  match env.getSub task.subscriptionID with
  | .error e => (cb, .error (.other e))
  | .ok none => (cb, .error .subscriptionNotFound)
  | .ok (some sub) =>
    if !sub.active then (cb, .error .subscriptionInactive)
    else
      let r := cb.allow env.now sub.url
      if !r.2 then (r.1, .error .circuitOpen) else (r.1, .ok sub)

/-- mirrors dispatcher.go:161-297 -/
def deliver (cb : CircuitBreaker) (env : DispatchEnv) (sub : WebhookSubscription)
    (task : WebhookDeliveryTask) : Webhook.DispatchResult :=
  match webhookBody sha256Hex (env.wsOptIn task.workspaceID) task with
  | none => ⟨cb, none, none⟩
  | some body => postBody cb env sub task body

theorem dispatch_eq (cb : CircuitBreaker) (env : DispatchEnv) (task : WebhookDeliveryTask) :
    dispatch sha256Hex cb env task =
      match allowCall cb env task with
      | (cb, .error e) => ⟨cb, none, some e⟩
      | (cb, .ok sub) => deliver sha256Hex cb env sub task := by
  unfold dispatch dispatchWith allowCall
  cases env.getSub task.subscriptionID with
  | error e => rfl
  | ok found =>
    cases found with
    | none => rfl
    | some sub =>
      simp only
      by_cases hactive : sub.active = true
      · by_cases hallowed : (cb.allow env.now sub.url).2 = true
        · simp only [hactive, hallowed, Bool.not_true, Bool.false_eq_true, if_false]
          rfl
        · simp [hactive, hallowed]
      · simp [hactive]

inductive Record
  | success
  | failure
deriving DecidableEq

def record (now : Time) (endpoint : String) (cb : CircuitBreaker) : Record → CircuitBreaker
  | .success => cb.recordSuccess endpoint
  | .failure => cb.recordFailure now endpoint

/-- The calls of `RecordSuccess` and `RecordFailure` on the way through `deliver`. -/
def deliverRecords (env : DispatchEnv) (sub : WebhookSubscription) (task : WebhookDeliveryTask) : List Record :=
  match webhookBody sha256Hex (env.wsOptIn task.workspaceID) task with
  | none => []
  | some body =>
    match env.newRequest sub.url with
    | some _ => []
    | none =>
      match env.client ⟨sub.url, env.secretOf sub task.workspaceID, task.traceID, body⟩ with
      | .error _ => [.failure]
      | .ok (statusCode, _) => if statusCode < 200 ∨ 300 ≤ statusCode then [.failure] else [.success]

theorem deliver_breaker (cb : CircuitBreaker) (env : DispatchEnv) (sub : WebhookSubscription)
    (task : WebhookDeliveryTask) :
    (deliver sha256Hex cb env sub task).breaker =
      (deliverRecords sha256Hex env sub task).foldl (record env.now sub.url) cb := by
  unfold deliver deliverRecords
  cases webhookBody sha256Hex (env.wsOptIn task.workspaceID) task with
  | none => rfl
  | some body =>
    simp only [postBody]
    cases env.newRequest sub.url with
    | some e => rfl
    | none =>
      simp only
      cases env.client ⟨sub.url, env.secretOf sub task.workspaceID, task.traceID, body⟩ with
      | error e => rfl
      | ok answer =>
        simp only
        split <;> rfl

/-- The payload is not dropped by the safety filter and a request can be built for the URL. -/
def postable (env : DispatchEnv) (sub : WebhookSubscription) (task : WebhookDeliveryTask) : Bool :=
  !safetyCheck task.payload && (env.newRequest sub.url).isNone

theorem webhookBody_isNone (wsOptIn : Bool) (task : WebhookDeliveryTask) :
    webhookBody sha256Hex wsOptIn task = none ↔ safetyCheck task.payload = true := by
  unfold webhookBody
  by_cases hsafe : safetyCheck task.payload = true
  · simp [hsafe]
  · rw [if_neg hsafe]
    split <;> simp [hsafe]

theorem deliverRecords_length (env : DispatchEnv) (sub : WebhookSubscription) (task : WebhookDeliveryTask) :
    (deliverRecords sha256Hex env sub task).length = if postable env sub task then 1 else 0 := by
  unfold deliverRecords postable
  cases hb : webhookBody sha256Hex (env.wsOptIn task.workspaceID) task with
  | none =>
    have hsafe := (webhookBody_isNone sha256Hex _ _).mp hb
    simp [hsafe]
  | some body =>
    have hsafe : safetyCheck task.payload ≠ true := by
      intro h
      rw [(webhookBody_isNone sha256Hex _ _).mpr h] at hb
      cases hb
    cases hreq : env.newRequest sub.url with
    | some e => simp
    | none =>
      simp only [hsafe]
      split
      · rfl
      · split <;> rfl

/-! ## The breaker -/

def HalfOpen (cb : CircuitBreaker) (url : String) : Prop :=
  ∃ ep, cb.endpoints url = some ep ∧ ep.state = .halfOpen

theorem halfOpen_of_allow {cb : CircuitBreaker} {now : Time} {endpoint url : String}
    (h : HalfOpen (cb.allow now endpoint).1 url) :
    HalfOpen cb url ∨ (cb.allow now endpoint).2 = true ∧ url = endpoint := by
  unfold CircuitBreaker.allow at h ⊢
  split at h
  · exact Or.inl h
  · split at h
    · exact Or.inl h
    · rename_i hclosed
      split at h
      · exact Or.inl h
      · rename_i hwait
        obtain ⟨ep', hep', hstate⟩ := h
        obtain ⟨rfl, -⟩ | ⟨-, hold⟩ := GoMap.set_eq_some hep'
        · right
          rw [if_neg hclosed, if_neg hwait]
          exact ⟨rfl, rfl⟩
        · exact Or.inl ⟨ep', hold, hstate⟩

theorem halfOpen_of_record {cb : CircuitBreaker} {now : Time} {endpoint url : String} {r : Record}
    (h : HalfOpen (record now endpoint cb r) url) : HalfOpen cb url ∧ url ≠ endpoint := by
  obtain ⟨ep, hep, hstate⟩ := h
  cases r with
  | success =>
    simp only [record, CircuitBreaker.recordSuccess] at hep
    split at hep
    · rename_i hnone
      refine ⟨⟨ep, hep, hstate⟩, ?_⟩
      rintro rfl
      rw [hnone] at hep
      cases hep
    · obtain ⟨-, rfl⟩ | ⟨hne, hold⟩ := GoMap.set_eq_some hep
      · cases hstate
      · exact ⟨⟨ep, hold, hstate⟩, hne⟩
  | failure =>
    simp only [record, CircuitBreaker.recordFailure] at hep
    obtain ⟨-, rfl⟩ | ⟨hne, hold⟩ := GoMap.set_eq_some hep
    · unfold CircuitBreaker.failed at hstate
      split at hstate
      · cases hstate
      · rename_i hnot
        split at hstate
        · cases hstate
        · exact absurd hstate hnot
    · exact ⟨⟨ep, hold, hstate⟩, hne⟩

/-! ## Runs -/

/-- A call that was let through, before it returns. -/
structure Call where
  sub : WebhookSubscription
  task : WebhookDeliveryTask

structure Sys where
  breaker : CircuitBreaker
  inFlight : List Call
  returned : List (List Record)

inductive Event
  /-- `Dispatch` up to and including `Allow` -/
  | start (env : DispatchEnv) (task : WebhookDeliveryTask)
  /-- the rest of the `i`-th call in flight -/
  | finish (i : Nat) (env : DispatchEnv)

def init (maxFailures : Int) (resetTimeout : Time) : Sys :=
  ⟨CircuitBreaker.new maxFailures resetTimeout, [], []⟩

def step (s : Sys) : Event → Option Sys
  | .start env task =>
    match allowCall s.breaker env task with
    | (cb, .error _) => some { s with breaker := cb }
    | (cb, .ok sub) => some { s with breaker := cb, inFlight := s.inFlight ++ [⟨sub, task⟩] }
  | .finish i env =>
    match s.inFlight[i]? with
    | none => none
    | some c =>
      some
        { breaker := (deliver sha256Hex s.breaker env c.sub c.task).breaker,
          inFlight := s.inFlight.eraseIdx i,
          returned := s.returned ++ [deliverRecords sha256Hex env c.sub c.task] }

def sys (maxFailures : Int) (resetTimeout : Time) : LTS Sys Event :=
  LTS.ofFn (init maxFailures resetTimeout) (step sha256Hex)

def postableStep (s : Sys) : Event → Bool
  | .start _ _ => true
  | .finish i env => s.inFlight[i]?.all fun c => postable env c.sub c.task

def Postable (s : Sys) (e : Event) : Prop := postableStep s e = true

instance (s : Sys) (e : Event) : Decidable (Postable s e) := inferInstanceAs (Decidable (_ = true))

def HalfOpenProbed (s : Sys) : Prop := ∀ url, HalfOpen s.breaker url → ∃ c ∈ s.inFlight, c.sub.url = url

structure Inv (s : Sys) : Prop where
  probed : HalfOpenProbed s
  once : ∀ rs ∈ s.returned, rs.length = 1

theorem start_inv {s s' : Sys} {env : DispatchEnv} {task : WebhookDeliveryTask} (h : Inv s)
    (hstep : step sha256Hex s (.start env task) = some s') : Inv s' := by
  simp only [step, allowCall] at hstep
  cases hsub : env.getSub task.subscriptionID with
  | error e =>
    simp only [hsub, Option.some.injEq] at hstep
    exact hstep ▸ h
  | ok found =>
    cases found with
    | none =>
      simp only [hsub, Option.some.injEq] at hstep
      exact hstep ▸ h
    | some sub =>
      simp only [hsub] at hstep
      by_cases hactive : sub.active = true
      · by_cases hallowed : (s.breaker.allow env.now sub.url).2 = true
        · simp only [hactive, hallowed, Bool.not_true, Bool.false_eq_true, if_false, Option.some.injEq] at hstep
          subst hstep
          refine ⟨?_, h.once⟩
          intro url hurl
          obtain hold | ⟨-, rfl⟩ := halfOpen_of_allow hurl
          · obtain ⟨c, hc, hcu⟩ := h.probed url hold
            exact ⟨c, List.mem_append_left _ hc, hcu⟩
          · exact ⟨⟨sub, task⟩, List.mem_append_right _ (List.mem_singleton.mpr rfl), rfl⟩
        · simp only [hactive, hallowed, Bool.not_true, Bool.not_false, Bool.false_eq_true, if_false, if_true,
            Option.some.injEq] at hstep
          subst hstep
          refine ⟨?_, h.once⟩
          intro url hurl
          obtain hold | ⟨hyes, -⟩ := halfOpen_of_allow hurl
          · exact h.probed url hold
          · exact absurd hyes hallowed
      · simp only [hactive, Bool.not_false, if_true, Option.some.injEq] at hstep
        exact hstep ▸ h

theorem finish_inv {s s' : Sys} {i : Nat} {env : DispatchEnv} (h : Inv s) (hg : Postable s (.finish i env))
    (hstep : step sha256Hex s (.finish i env) = some s') : Inv s' := by
  simp only [step] at hstep
  cases hc : s.inFlight[i]? with
  | none =>
    rw [hc] at hstep
    cases hstep
  | some c =>
    simp only [hc, Option.some.injEq] at hstep
    subst hstep
    have hpost : postable env c.sub c.task = true := by simpa [Postable, postableStep, hc] using hg
    have hone : (deliverRecords sha256Hex env c.sub c.task).length = 1 := by
      rw [deliverRecords_length, if_pos hpost]
    refine ⟨?_, ?_⟩
    · intro url hurl
      simp only [deliver_breaker] at hurl
      obtain ⟨r, hr⟩ := List.length_eq_one_iff.mp hone
      rw [hr] at hurl
      obtain ⟨hold, hne⟩ := halfOpen_of_record hurl
      obtain ⟨c', hc', hcu⟩ := h.probed url hold
      -- the probe of another endpoint is another call, so it is still in flight
      obtain ⟨j, hj⟩ := List.mem_iff_getElem?.mp hc'
      refine ⟨c', List.mem_eraseIdx_iff_getElem?.mpr ⟨j, ?_, hj⟩, hcu⟩
      rintro rfl
      rw [hc, Option.some.injEq] at hj
      exact hne (by rw [hj, hcu])
    · intro rs hrs
      simp only [List.mem_append, List.mem_singleton] at hrs
      obtain hrs | rfl := hrs
      · exact h.once rs hrs
      · exact hone

theorem inv_inductive (maxFailures : Int) (resetTimeout : Time) :
    ((sys sha256Hex maxFailures resetTimeout).restrict Postable).Inductive Inv := by
  refine LTS.Inductive.of_restrict ?_ ?_
  · rintro s rfl
    refine ⟨?_, ?_⟩
    · rintro url ⟨ep, hep, -⟩
      cases hep
    · intro rs hrs
      cases hrs
  · intro s e s' h hg hstep
    cases e with
    | start env task => exact start_inv sha256Hex h hstep
    | finish i env => exact finish_inv sha256Hex h hg hstep

/-- **No endpoint is left half-open** by a run of postable calls: it is half-open only while a call to it
is in flight, and every call that has returned recorded its outcome once. A call does that exactly when
it is postable. -/
theorem breaker_not_stranded (maxFailures : Int) (resetTimeout : Time) :
    (∀ s, ((sys sha256Hex maxFailures resetTimeout).restrict Postable).Reachable s →
      (∀ url, (∀ c ∈ s.inFlight, c.sub.url ≠ url) → ¬ HalfOpen s.breaker url) ∧
      ∀ rs ∈ s.returned, rs.length = 1) ∧
    (∀ env sub task, (deliverRecords sha256Hex env sub task).length = 1 ↔ postable env sub task = true) := by
  refine ⟨?_, ?_⟩
  · intro s hs
    have h := (inv_inductive sha256Hex maxFailures resetTimeout).reachable hs
    refine ⟨?_, h.once⟩
    intro url hidle hopen
    obtain ⟨c, hc, hcu⟩ := h.probed url hopen
    exact hidle c hc hcu
  · intro env sub task
    rw [deliverRecords_length]
    split
    · rename_i hp
      simp [hp]
    · rename_i hp
      simp [hp]

/-! ## A probe -/

def hook : WebhookSubscription := ⟨20, 7, "https://hooks.example/in", "secret", ["*"], true⟩

def answering (now : Time) (statusCode : Nat) (status : String) : DispatchEnv where
  now := now
  getSub := fun _ => .ok (some hook)
  wsStore := none
  newRequest := fun _ => none
  client := fun _ => .ok (statusCode, status)

def message : Document where
  fields := [("event", .str "inbound_message"), ("is_private", .bool false)]
  distinct := by decide +kernel

def internalNote : Document where
  fields := [("event", .str "inbound_message"), ("direction", .str "internal_note")]
  distinct := by decide +kernel

def delivery (payload : Document) : WebhookDeliveryTask := ⟨1, 20, 7, "inbound_message", "t-1", "m-1", payload, .outbound⟩

/-- One failure opens the circuit; a minute later a delivery of `payload` is the probe, while a second one
is refused. -/
def probeRun (payload : Document) : List Event :=
  [.start (answering 0 500 "500") (delivery message), .finish 0 (answering (1 * second) 500 "500"),
   .start (answering (70 * second) 200 "200 OK") (delivery payload),
   .start (answering (71 * second) 200 "200 OK") (delivery message), .finish 0 (answering (72 * second) 200 "200 OK")]

/-- The probe of a message closes the circuit. -/
theorem breaker_not_stranded_probe :
    ∃ s, ((sys id 1 (60 * second)).restrict Postable).Reachable s ∧ s.inFlight.length = 0 ∧
      s.returned = [[.failure], [.success]] ∧ ¬ HalfOpen s.breaker "https://hooks.example/in" := by
  have hrun : ((LTS.exec (step id) (init 1 (60 * second)) (probeRun message)).any fun s =>
      decide (s.inFlight.length = 0) && decide (s.returned = [[.failure], [.success]])) = true := by
    decide +kernel
  have hg : LTS.Guarded (step id) Postable (init 1 (60 * second)) (probeRun message) := by decide +kernel
  obtain ⟨s, hs, hp⟩ := (Option.any_eq_true _ _).mp hrun
  have hreach := LTS.exec_restrict_reachable hs hg
  simp only [Bool.and_eq_true, decide_eq_true_eq] at hp
  refine ⟨s, hreach, hp.1, hp.2, ((breaker_not_stranded id 1 (60 * second)).1 s hreach).1 _ ?_⟩
  intro c hc
  rw [List.eq_nil_of_length_eq_zero hp.1] at hc
  cases hc

/-- The probe of an internal note leaves the endpoint half-open with nothing in flight: it is refused from
then on, at any time. -/
theorem probe_stranded :
    ∃ s, (sys id 1 (60 * second)).Reachable s ∧ s.inFlight.length = 0 ∧ s.returned = [[.failure], []] ∧
      HalfOpen s.breaker "https://hooks.example/in" ∧
      ∀ now, (s.breaker.allow now "https://hooks.example/in").2 = false := by
  have hrun : ((LTS.exec (step id) (init 1 (60 * second)) (probeRun internalNote)).any fun s =>
      decide (s.inFlight.length = 0) && decide (s.returned = [[.failure], []]) &&
        (s.breaker.endpoints "https://hooks.example/in").any fun ep => decide (ep.state = .halfOpen)) = true := by
    decide +kernel
  obtain ⟨s, hs, hp⟩ := (Option.any_eq_true _ _).mp hrun
  simp only [Bool.and_eq_true, decide_eq_true_eq] at hp
  obtain ⟨⟨hidle, hreturned⟩, hopen⟩ := hp
  obtain ⟨ep, hep, hstate⟩ := (Option.any_eq_true _ _).mp hopen
  have hstate : ep.state = .halfOpen := of_decide_eq_true hstate
  refine ⟨s, LTS.exec_reachable hs, hidle, hreturned, ⟨ep, hep, hstate⟩, ?_⟩
  intro now
  simp [CircuitBreaker.allow, hep, hstate]

end PerGo.L4.BreakerProbe
