import PerGo.Core.LTS
import PerGo.L3Webhook.Replay

/-!
# Replaying a dead letter

Runs of the webhook subsystem: events are fanned out, tasks delivered, archived
after a terminal failure or ten attempts, and replayed by the MCP tool or the
admin page, any number of times. The admin page's plain delete is not a replay
and not a step.

* `ancestors log task`: the tasks whose archived rows were replayed into `task`.
* `BodiesKept`: every body posted because of a replay is the body `Dispatch`
  would have posted for the archived task, in the same workspace setting.
* `ItemsKept`: a row leaves `webhook_dlqs` only after a task rebuilt from it was
  stored in `WEBHOOK_DELIVERIES`.

`ItemsKept` always holds. `BodiesKept` does not: a replayed task has mode
`outbound`, and a row posted by the tool has no mode, so the redaction of an
inbound event is lost (`replay_unredacted`). `replay_faithful` says that this is
the only way to break it.
-/
namespace PerGo.L4.DLQReplay

open PerGo.Core PerGo.L1 PerGo.L2 PerGo.L3.Webhook

inductive Lbl
  | event (env : EventEnv) (mode : DeliveryMode) (payload : Document)
  /-- the `i`-th pending task is delivered -/
  | deliver (i : Nat) (env : DeliverEnv)
  | replay (env : ReplayEnv) (req : ReplayRequest)
  | retry (env : ReplayEnv) (dlqID : String)

section Steps

variable (sha256Hex : String → String) (J : Jsonb)

def settle (s : WebhookSt) (i : Nat) (task : WebhookDeliveryTask) (numDelivered : Nat) : WorkerAck → WebhookSt
  | .ack => { s with pending := s.pending.eraseIdx i }
  | .nakWithDelay _ => { s with pending := s.pending.set i (task, numDelivered) }

/-- The consumer's `MaxDeliver`.
mirrors queue/webhook_worker.go:118 -/
def maxDeliver : Nat := 10

def deliver (s : WebhookSt) (i : Nat) (env : DeliverEnv) : Option WebhookSt :=
  match s.pending[i]? with
  | none => none
  | some (task, n) =>
    if n < maxDeliver then
      let r := processDelivery sha256Hex J env s (n + 1) task
      some (settle r.1 i task (n + 1) r.2)
    else none

def step (s : WebhookSt) : Lbl → Option WebhookSt
  | .event env mode payload => some (processEvent env s mode payload).1
  | .deliver i env => deliver sha256Hex J s i env
  | .replay env req => some (handleReplayWebhookDLQ env s req).1
  | .retry env dlqID => some (retryDLQ env s dlqID).1

def sys : LTS WebhookSt Lbl := LTS.ofFn WebhookSt.new (step sha256Hex J)

end Steps

/-! ## Where a task comes from -/

def archivedTask (row : WebhookDLQ) : WebhookEv → Option WebhookDeliveryTask
  | .archived task r => if r = row then some task else none
  | _ => none

/-- The tasks archived as `row`. -/
def archivedAs (log : List WebhookEv) (row : WebhookDLQ) : List WebhookDeliveryTask :=
  log.filterMap (archivedTask row)

/-- The tasks whose replay, direct or through further archiving, is `task`. The log is newest first. -/
def ancestors : List WebhookEv → WebhookDeliveryTask → List WebhookDeliveryTask
  | [], _ => []
  | .replayed row t :: log, task =>
    (if t = task then (archivedAs log row).flatMap fun t₀ => t₀ :: ancestors log t₀ else []) ++ ancestors log task
  | .posted .. :: log, task | .archived .. :: log, task | .postedRow .. :: log, task => ancestors log task

/-- The tasks that ended up as `row`. -/
def rowOrigins (log : List WebhookEv) (row : WebhookDLQ) : List WebhookDeliveryTask :=
  (archivedAs log row).flatMap fun t₀ => t₀ :: ancestors log t₀

/-! ## What a replay promises -/

section Promise

variable (sha256Hex : String → String) (J : Jsonb)

/-- The body `Dispatch` would post for `task` is `body`, as a document. -/
def SameBody (wsOptIn : Bool) (task : WebhookDeliveryTask) (body : Document) : Prop :=
  ∃ b ∈ webhookBody sha256Hex wsOptIn task, J.Same b body

def BodiesKept : List WebhookEv → Prop
  | [] => True
  | .posted task wsOptIn post :: log =>
    (∀ t₀ ∈ ancestors log task, SameBody sha256Hex J wsOptIn t₀ post.body) ∧ BodiesKept log
  | .postedRow row wsOptIn post :: log =>
    (∀ t₀ ∈ rowOrigins log row, SameBody sha256Hex J wsOptIn t₀ post.body) ∧ BodiesKept log
  | .archived .. :: log | .replayed .. :: log => BodiesKept log

/-- The stream `WEBHOOK_DELIVERIES` took the task. -/
def Stored (s : WebhookSt) (task : WebhookDeliveryTask) : Prop :=
  ∃ m ∈ s.stream, m.topic = some "WEBHOOK_DELIVERIES" ∧ m.payload = task

/-- An archived row is in the table until a task rebuilt from it is stored. -/
def ItemsKept (s : WebhookSt) : Prop :=
  ∀ task row, .archived task row ∈ s.log →
    row ∈ s.dlq ∨ ∃ t, .replayed row t ∈ s.log ∧ t = replayTask row t.id ∧ Stored s t

instance (wsOptIn : Bool) (task : WebhookDeliveryTask) (body : Document) :
    Decidable (SameBody sha256Hex J wsOptIn task body) :=
  match h : webhookBody sha256Hex wsOptIn task with
  | none => isFalse (by simp [SameBody, h])
  | some b => decidable_of_iff (J.Same b body) (by simp [SameBody, h])

instance decidableBodiesKept : (log : List WebhookEv) → Decidable (BodiesKept sha256Hex J log)
  | [] => isTrue trivial
  | .posted .. :: log | .postedRow .. :: log =>
    have := decidableBodiesKept log
    inferInstanceAs (Decidable (_ ∧ _))
  | .archived .. :: log | .replayed .. :: log => decidableBodiesKept log

/-- The mode makes no difference to the body. -/
def ModeIrrelevant (wsOptIn : Bool) (task : WebhookDeliveryTask) : Prop :=
  task.mode ≠ .inbound ∨ wsOptIn = true ∨ J.Same (redactPayload sha256Hex task.payload) task.payload

instance (wsOptIn : Bool) (task : WebhookDeliveryTask) : Decidable (ModeIrrelevant sha256Hex J wsOptIn task) :=
  inferInstanceAs (Decidable (_ ∨ _))

def PostsIrrelevant : List WebhookEv → Prop
  | [] => True
  | .posted task wsOptIn _ :: log =>
    (∀ t₀ ∈ ancestors log task, ModeIrrelevant sha256Hex J wsOptIn t₀) ∧ PostsIrrelevant log
  | .postedRow row wsOptIn _ :: log =>
    (∀ t₀ ∈ rowOrigins log row, ModeIrrelevant sha256Hex J wsOptIn t₀) ∧ PostsIrrelevant log
  | .archived .. :: log | .replayed .. :: log => PostsIrrelevant log

/-- The rows `dispatch_immediate` would post. -/
def immediateItems (env : ReplayEnv) (s : WebhookSt) (req : ReplayRequest) : List WebhookDLQ :=
  match replayPlan env s req with
  | .ok plan => if plan.action = .dispatchImmediate then plan.items else []
  | .error _ => []

/-- Where a replay posts, the mode of what it replays makes no difference. -/
def Guard (s : WebhookSt) : Lbl → Prop
  | .deliver i env =>
    ∀ q ∈ s.pending[i]?, ∀ t₀ ∈ ancestors s.log q.1,
      ModeIrrelevant sha256Hex J (env.wsOptIn q.1.workspaceID) t₀
  | .replay env req =>
    ∀ item ∈ immediateItems env s req, ∀ t₀ ∈ rowOrigins s.log item,
      ModeIrrelevant sha256Hex J (env.wsOptIn item.workspaceID) t₀
  | .event .. | .retry .. => True

instance (s : WebhookSt) : (l : Lbl) → Decidable (Guard sha256Hex J s l)
  | .deliver .. => inferInstanceAs (Decidable (∀ q ∈ s.pending[_]?, _))
  | .replay .. => inferInstanceAs (Decidable (∀ item ∈ immediateItems _ _ _, _))
  | .event .. | .retry .. => isTrue trivial

/-! ## The log -/

/-- `t` carries the archived payload of `t₀`, as an outbound task. -/
structure Replays (t₀ t : WebhookDeliveryTask) : Prop where
  payload : t.payload = J.norm t₀.payload
  mode : t.mode = .outbound
  safe : safetyCheck t₀.payload = false

def EvOk : WebhookEv → Prop
  | .archived task row => row.payload = J.norm task.payload ∧ safetyCheck task.payload = false
  | .replayed row task => task = replayTask row task.id
  | .posted task wsOptIn post => webhookBody sha256Hex wsOptIn task = some post.body
  | .postedRow row _ post => post.body = row.payload

def LogOk (log : List WebhookEv) : Prop := ∀ e ∈ log, EvOk sha256Hex J e

theorem mem_archivedAs {log : List WebhookEv} {row : WebhookDLQ} {t : WebhookDeliveryTask} :
    t ∈ archivedAs log row ↔ .archived t row ∈ log := by
  simp only [archivedAs, List.mem_filterMap]
  constructor
  · intro ⟨e, he, ht⟩
    cases e with
    | archived t' r =>
      simp only [archivedTask] at ht
      split at ht
      · rename_i hr
        cases ht
        exact hr ▸ he
      · cases ht
    | _ => cases ht
  · intro h
    exact ⟨_, h, by simp [archivedTask]⟩

theorem ancestors_replays {log : List WebhookEv} (h : LogOk sha256Hex J log) {t₀ t : WebhookDeliveryTask}
    (ht : t₀ ∈ ancestors log t) : Replays J t₀ t := by
  induction log generalizing t₀ t with
  | nil => cases ht
  | cons e log ih =>
    cases e with
    | replayed row t' =>
      simp only [ancestors, List.mem_append] at ht
      rcases ht with ht | ht
      · split at ht
        · rename_i heq
          obtain ⟨t₁, h₁, h₀⟩ := List.mem_flatMap.mp ht
          obtain ⟨hp, hsafe⟩ := h _ (List.mem_cons_of_mem _ (mem_archivedAs.mp h₁))
          have hrep : t = replayTask row t.id := heq ▸ h _ List.mem_cons_self
          have hpay : t.payload = J.norm t₁.payload := by
            rw [hrep]
            exact hp
          have hmode : t.mode = .outbound := by rw [hrep]; rfl
          rcases List.mem_cons.mp h₀ with rfl | h₀
          · exact ⟨hpay, hmode, hsafe⟩
          · -- `t₁` is a replay itself, and the column keeps what it returned
            have h₀ := ih (List.forall_mem_of_forall_mem_cons h) h₀
            refine ⟨?_, hmode, h₀.safe⟩
            rw [hpay, h₀.payload, J.norm_norm]
        · cases ht
      · exact ih (List.forall_mem_of_forall_mem_cons h) ht
    | posted _ _ _ => exact ih (List.forall_mem_of_forall_mem_cons h) ht
    | archived _ _ => exact ih (List.forall_mem_of_forall_mem_cons h) ht
    | postedRow _ _ _ => exact ih (List.forall_mem_of_forall_mem_cons h) ht

theorem rowOrigins_payload {log : List WebhookEv} (h : LogOk sha256Hex J log) {t₀ : WebhookDeliveryTask}
    {row : WebhookDLQ} (ht : t₀ ∈ rowOrigins log row) :
    row.payload = J.norm t₀.payload ∧ safetyCheck t₀.payload = false := by
  obtain ⟨t₁, h₁, h₀⟩ := List.mem_flatMap.mp ht
  obtain ⟨hp, hsafe⟩ := h _ (mem_archivedAs.mp h₁)
  rcases List.mem_cons.mp h₀ with rfl | h₀
  · exact ⟨hp, hsafe⟩
  · have h₀ := ancestors_replays sha256Hex J h h₀
    exact ⟨by rw [hp, h₀.payload, J.norm_norm], h₀.safe⟩

theorem sameBody_iff {wsOptIn : Bool} {t₀ : WebhookDeliveryTask} (hsafe : safetyCheck t₀.payload = false) :
    SameBody sha256Hex J wsOptIn t₀ (J.norm t₀.payload) ↔ ModeIrrelevant sha256Hex J wsOptIn t₀ := by
  have hsame : ∀ b, J.Same b (J.norm t₀.payload) ↔ J.Same b t₀.payload := by
    intro b
    unfold Jsonb.Same
    rw [J.norm_norm]
  unfold SameBody ModeIrrelevant webhookBody
  rw [if_neg (by simp [hsafe])]
  split
  · rename_i hc
    simp [hc.1, hc.2, hsame]
  · rename_i hc
    have hirr : t₀.mode ≠ .inbound ∨ wsOptIn = true := by
      by_cases hm : t₀.mode = .inbound
      · right
        cases wsOptIn with
        | true => rfl
        | false => exact absurd ⟨hm, rfl⟩ hc
      · exact Or.inl hm
    constructor
    · intro _
      rcases hirr with hm | ho
      · exact Or.inl hm
      · exact Or.inr (Or.inl ho)
    · intro _
      exact ⟨t₀.payload, rfl, (hsame _).mpr rfl⟩

/-- Nothing but the mode changes the body of a replay. -/
theorem bodiesKept_iff {log : List WebhookEv} (h : LogOk sha256Hex J log) :
    BodiesKept sha256Hex J log ↔ PostsIrrelevant sha256Hex J log := by
  induction log with
  | nil => exact Iff.rfl
  | cons e log ih =>
    have ih := ih (List.forall_mem_of_forall_mem_cons h)
    cases e with
    | posted task o post =>
      refine and_congr ?_ ih
      refine forall₂_congr fun t₀ ht₀ => ?_
      have hr := ancestors_replays sha256Hex J (List.forall_mem_of_forall_mem_cons h) ht₀
      -- the replayed task is outbound and public, so its body is the archived payload
      have hbody : post.body = J.norm t₀.payload := by
        have hp : webhookBody sha256Hex o task = some post.body := h _ List.mem_cons_self
        unfold webhookBody at hp
        split at hp
        · cases hp
        · rw [if_neg (by simp [hr.mode]), hr.payload] at hp
          exact (Option.some.inj hp).symm
      rw [hbody]
      exact sameBody_iff sha256Hex J hr.safe
    | postedRow row o post =>
      refine and_congr ?_ ih
      refine forall₂_congr fun t₀ ht₀ => ?_
      obtain ⟨hp, hsafe⟩ := rowOrigins_payload sha256Hex J (List.forall_mem_of_forall_mem_cons h) ht₀
      have hbody : post.body = row.payload := h _ List.mem_cons_self
      rw [hbody, hp]
      exact sameBody_iff sha256Hex J hsafe
    | archived _ _ => exact ih
    | replayed _ _ => exact ih

/-! ## The invariant -/

structure Inv (s : WebhookSt) : Prop where
  log : LogOk sha256Hex J s.log
  stream : ∀ m ∈ s.stream, ∃ now, m = WebhookSt.taskMsg now m.payload
  pending : ∀ q ∈ s.pending, safetyCheck q.1.payload = false
  dlq : ∀ row ∈ s.dlq, ∃ t, .archived t row ∈ s.log
  rowIDs : ∀ {t row}, .archived t row ∈ s.log → row.id ∈ s.rowIDs
  unique : ∀ {t row t' row'}, .archived t row ∈ s.log → .archived t' row' ∈ s.log → row.id = row'.id → row = row'
  stored : ∀ {row t}, .replayed row t ∈ s.log → Stored s t
  items : ∀ {t row}, .archived t row ∈ s.log → row ∈ s.dlq ∨ ∃ t', .replayed row t' ∈ s.log

theorem Inv.itemsKept {s : WebhookSt} (h : Inv sha256Hex J s) : ItemsKept s := by
  intro task row hrow
  rcases h.items hrow with hd | ⟨t, ht⟩
  · exact Or.inl hd
  · exact Or.inr ⟨t, ht, h.log _ ht, h.stored ht⟩

theorem inv_new : Inv sha256Hex J WebhookSt.new where
  log := fun _ h => by cases h
  stream := fun _ h => by cases h
  pending := fun _ h => by cases h
  dlq := fun _ h => by cases h
  rowIDs := fun h => by cases h
  unique := fun h => by cases h
  stored := fun h => by cases h
  items := fun h => by cases h

theorem Inv.push {s : WebhookSt} (h : Inv sha256Hex J s) {e : WebhookEv} (he : EvOk sha256Hex J e)
    (ha : ∀ t row, e ≠ .archived t row) (hr : ∀ row t, e ≠ .replayed row t) :
    Inv sha256Hex J { s with log := e :: s.log } := by
  have hold : ∀ {t row}, .archived t row ∈ e :: s.log → .archived t row ∈ s.log := by
    intro t row hm
    exact (List.mem_cons.mp hm).resolve_left fun heq => ha t row heq.symm
  have holdr : ∀ {row t}, .replayed row t ∈ e :: s.log → .replayed row t ∈ s.log := by
    intro row t hm
    exact (List.mem_cons.mp hm).resolve_left fun heq => hr row t heq.symm
  exact {
    log := List.forall_mem_cons.mpr ⟨he, h.log⟩
    stream := h.stream
    pending := h.pending
    dlq := fun row hrow => (h.dlq row hrow).imp fun _ ht => List.mem_cons_of_mem _ ht
    rowIDs := fun hm => h.rowIDs (hold hm)
    unique := fun hm hm' => h.unique (hold hm) (hold hm')
    stored := fun hm => h.stored (holdr hm)
    items := fun hm => (h.items (hold hm)).imp_right fun ⟨t', ht'⟩ => ⟨t', List.mem_cons_of_mem _ ht'⟩ }

theorem Inv.setPending {s : WebhookSt} (h : Inv sha256Hex J s) {pending : List (WebhookDeliveryTask × Nat)}
    (hp : ∀ q ∈ pending, safetyCheck q.1.payload = false) : Inv sha256Hex J { s with pending := pending } :=
  { h with pending := hp }

theorem Inv.setBreaker {s : WebhookSt} (h : Inv sha256Hex J s) (breaker : L3.CircuitBreaker) :
    Inv sha256Hex J { s with breaker := breaker } :=
  { h with }

theorem Stored.mono {s s' : WebhookSt} {task : WebhookDeliveryTask} (h : Stored s task)
    (hs : ∀ m ∈ s.stream, m ∈ s'.stream) : Stored s' task := by
  obtain ⟨m, hm, hmsg⟩ := h
  exact ⟨m, hs m hm, hmsg⟩

theorem Inv.publish {s : WebhookSt} (h : Inv sha256Hex J s) (now : Time) {task : WebhookDeliveryTask}
    (hid : task.id = s.newTaskID) (hsafe : safetyCheck task.payload = false) :
    Inv sha256Hex J (s.publishTask now task) ∧ Stored (s.publishTask now task) task := by
  have hnd : ¬ s.Dropped now task := WebhookSt.not_dropped hid h.stream
  unfold WebhookSt.publishTask
  rw [if_neg hnd]
  refine ⟨{ h with stream := ?_, pending := ?_, stored := ?_ }, ?_⟩
  · intro m hm
    rcases List.mem_append.mp hm with hm | hm
    · exact h.stream m hm
    · rw [List.mem_singleton.mp hm]
      exact ⟨now, by rw [WebhookSt.taskMsg_payload]⟩
  · intro q hq
    rcases List.mem_append.mp hq with hq | hq
    · exact h.pending q hq
    · rw [List.mem_singleton.mp hq]
      exact hsafe
  · intro row t ht
    exact (h.stored ht).mono fun m hm => List.mem_append_left _ hm
  · refine ⟨WebhookSt.taskMsg now task, List.mem_append_right _ (List.mem_singleton_self _), ?_, ?_⟩
    · exact WebhookSt.taskMsg_topic now task
    · exact WebhookSt.taskMsg_payload now task

theorem Inv.archive {s s' : WebhookSt} (h : Inv sha256Hex J s) {env : DeliverEnv} {task : WebhookDeliveryTask}
    {attempts : Nat} {failReason : String} (hsafe : safetyCheck task.payload = false)
    (hw : writeToDLQ J env s task attempts failReason = some s') : Inv sha256Hex J s' := by
  unfold writeToDLQ at hw
  split at hw
  · split at hw
    · cases hw
    · rename_i sub _ _
      dsimp only at hw
      cases hw
      have hfresh : (archiveRow J s task sub.url attempts failReason).id ∉ s.rowIDs := freshKey_not_mem _
      have hpay : (archiveRow J s task sub.url attempts failReason).payload = J.norm task.payload := rfl
      generalize archiveRow J s task sub.url attempts failReason = row at hfresh hpay
      exact {
        log := List.forall_mem_cons.mpr ⟨⟨hpay, hsafe⟩, h.log⟩
        stream := h.stream
        pending := h.pending
        dlq := by
          intro r hr
          rcases List.mem_append.mp hr with hr | hr
          · exact (h.dlq r hr).imp fun _ ht => List.mem_cons_of_mem _ ht
          · cases List.mem_singleton.mp hr
            exact ⟨task, List.mem_cons_self⟩
        rowIDs := by
          intro t r hm
          rcases List.mem_cons.mp hm with hm | hm
          · cases hm
            exact List.mem_cons_self
          · exact List.mem_cons_of_mem _ (h.rowIDs hm)
        unique := by
          intro t r t' r' hm hm' hid
          rcases List.mem_cons.mp hm with hm | hm
          · rcases List.mem_cons.mp hm' with hm' | hm'
            · cases hm
              cases hm'
              rfl
            · cases hm
              exact absurd (hid ▸ h.rowIDs hm') hfresh
          · rcases List.mem_cons.mp hm' with hm' | hm'
            · cases hm'
              exact absurd (hid ▸ h.rowIDs hm) hfresh
            · exact h.unique hm hm' hid
        stored := by
          intro r t ht
          have ht : .replayed r t ∈ s.log := by simpa using ht
          exact (h.stored ht).mono fun _ hm => hm
        items := by
          intro t r hm
          rcases List.mem_cons.mp hm with hm | hm
          · cases hm
            exact Or.inl (List.mem_append_right _ (List.mem_singleton_self _))
          · rcases h.items hm with hd | ⟨t', ht'⟩
            · exact Or.inl (List.mem_append_left _ hd)
            · exact Or.inr ⟨t', List.mem_cons_of_mem _ ht'⟩ }
  · cases hw

/-! ## Every step keeps it -/

theorem safetyCheck_norm (d : Document) : safetyCheck (J.norm d) = safetyCheck d := by
  unfold safetyCheck
  rw [J.bool_norm, J.string_norm]

theorem archivedRow_safe {s : WebhookSt} (h : Inv sha256Hex J s) {item : WebhookDLQ}
    (hitem : ∃ t, .archived t item ∈ s.log) : safetyCheck item.payload = false := by
  obtain ⟨t, ht⟩ := hitem
  obtain ⟨hp, hsafe⟩ := h.log _ ht
  rw [hp, safetyCheck_norm, hsafe]

theorem publishTask_log (s : WebhookSt) (now : Time) (task : WebhookDeliveryTask) :
    (s.publishTask now task).log = s.log := by
  unfold WebhookSt.publishTask
  split <;> rfl

theorem Inv.replay {s : WebhookSt} (h : Inv sha256Hex J s) {now : Time} {item : WebhookDLQ}
    (hitem : ∃ t, .archived t item ∈ s.log) :
    Inv sha256Hex J { s.publishTask now (replayTask item s.newTaskID) with
      log := .replayed item (replayTask item s.newTaskID) :: s.log } := by
  have hsafe : safetyCheck (replayTask item s.newTaskID).payload = false := archivedRow_safe sha256Hex J h hitem
  obtain ⟨hpub, hstored⟩ := h.publish sha256Hex J now rfl hsafe
  have hlog := publishTask_log s now (replayTask item s.newTaskID)
  generalize s.publishTask now (replayTask item s.newTaskID) = s' at hpub hstored hlog
  rw [← hlog]
  have hold : ∀ {t row}, .archived t row ∈ .replayed item (replayTask item s.newTaskID) :: s'.log →
      .archived t row ∈ s'.log := by
    intro t row hm
    simpa using hm
  exact {
    log := List.forall_mem_cons.mpr ⟨rfl, hpub.log⟩
    stream := hpub.stream
    pending := hpub.pending
    dlq := fun row hrow => (hpub.dlq row hrow).imp fun _ ht => List.mem_cons_of_mem _ ht
    rowIDs := fun hm => hpub.rowIDs (hold hm)
    unique := fun hm hm' => hpub.unique (hold hm) (hold hm')
    stored := by
      intro row t ht
      rcases List.mem_cons.mp ht with ht | ht
      · cases ht
        exact hstored.mono fun _ hm => hm
      · exact (hpub.stored ht).mono fun _ hm => hm
    items := fun hm => (hpub.items (hold hm)).imp_right fun ⟨t', ht'⟩ => ⟨t', List.mem_cons_of_mem _ ht'⟩ }

theorem Inv.delete {s : WebhookSt} (h : Inv sha256Hex J s) {item : WebhookDLQ}
    (hitem : ∃ t, .archived t item ∈ s.log) (hrep : ∃ t, .replayed item t ∈ s.log) :
    Inv sha256Hex J (deleteDLQ s item.id) := by
  obtain ⟨t₀, ht₀⟩ := hitem
  refine { h with dlq := fun row hrow => h.dlq row (List.mem_filter.mp hrow).1, items := ?_ }
  intro t row hm
  rcases h.items hm with hd | hd
  · by_cases hid : row.id = item.id
    · have heq : row = item := h.unique hm ht₀ hid
      exact Or.inr (heq ▸ hrep)
    · exact Or.inl (List.mem_filter.mpr ⟨hd, by simpa using hid⟩)
  · exact Or.inr hd

theorem reenqueue_eq {s : WebhookSt} (h : Inv sha256Hex J s) (now : Time) (item : WebhookDLQ) (deleted : Bool) :
    ∃ s', s' = { s.publishTask now (replayTask item s.newTaskID) with
        log := .replayed item (replayTask item s.newTaskID) :: s.log } ∧
      reenqueue s now item deleted = if deleted then deleteDLQ s' item.id else s' := by
  have hnd : ¬ s.Dropped now (replayTask item s.newTaskID) := WebhookSt.not_dropped rfl h.stream
  refine ⟨_, rfl, ?_⟩
  simp only [reenqueue, if_neg hnd]

theorem reenqueue_inv {s : WebhookSt} (h : Inv sha256Hex J s) {now : Time} {item : WebhookDLQ} {deleted : Bool}
    (hitem : ∃ t, .archived t item ∈ s.log) : Inv sha256Hex J (reenqueue s now item deleted) := by
  obtain ⟨s', hs', heq⟩ := reenqueue_eq sha256Hex J h now item deleted
  have h' : Inv sha256Hex J s' := hs' ▸ h.replay sha256Hex J hitem
  have hlog : s'.log = .replayed item (replayTask item s.newTaskID) :: s.log := by rw [hs']
  rw [heq]
  cases deleted with
  | false => exact h'
  | true =>
    refine h'.delete sha256Hex J ?_ ?_
    · rw [hlog]
      exact hitem.imp fun _ ht => List.mem_cons_of_mem _ ht
    · rw [hlog]
      exact ⟨_, List.mem_cons_self⟩

theorem reenqueue_log {s : WebhookSt} (h : Inv sha256Hex J s) (now : Time) (item : WebhookDLQ) (deleted : Bool) :
    (reenqueue s now item deleted).log = .replayed item (replayTask item s.newTaskID) :: s.log := by
  obtain ⟨s', hs', heq⟩ := reenqueue_eq sha256Hex J h now item deleted
  have hlog : s'.log = .replayed item (replayTask item s.newTaskID) :: s.log := by rw [hs']
  rw [heq, ← hlog]
  cases deleted <;> rfl

theorem fanOut_inv {env : EventEnv} {evt : WebhookEvent} {wsID : UUID} {mode : DeliveryMode} {payload : Document}
    (hsafe : safetyCheck payload = false) (subs : List WebhookSubscription) {s : WebhookSt}
    (h : Inv sha256Hex J s) :
    Inv sha256Hex J (fanOut env evt wsID mode payload subs s).1 ∧
      (fanOut env evt wsID mode payload subs s).1.log = s.log := by
  induction subs generalizing s with
  | nil => exact ⟨h, rfl⟩
  | cons sub subs ih =>
    unfold fanOut
    split
    · split
      · exact ⟨h, rfl⟩
      · have hid : (evt.task s.newTaskID wsID sub mode payload).id = s.newTaskID := rfl
        obtain ⟨hinv, hlog⟩ := ih (h.publish sha256Hex J env.now hid hsafe).1
        exact ⟨hinv, hlog.trans (publishTask_log _ _ _)⟩
    · exact ih h

theorem processEvent_inv {env : EventEnv} {mode : DeliveryMode} {payload : Document} {s : WebhookSt}
    (h : Inv sha256Hex J s) :
    Inv sha256Hex J (processEvent env s mode payload).1 ∧ (processEvent env s mode payload).1.log = s.log := by
  unfold processEvent
  split
  · exact ⟨h, rfl⟩
  · split
    · exact ⟨h, rfl⟩
    · rename_i hsafe
      split
      · exact ⟨h, rfl⟩
      · split
        · exact ⟨h, rfl⟩
        · exact fanOut_inv sha256Hex J (by simpa using hsafe) _ h

inductive DeliveryLog (env : DeliverEnv) (task : WebhookDeliveryTask) (log : List WebhookEv) :
    List WebhookEv → Prop
  | posts (post : Option Post) :
      DeliveryLog env task log ((post.map (.posted task (env.wsOptIn task.workspaceID))).toList ++ log)
  | archives (post : Option Post) (row : WebhookDLQ) :
      DeliveryLog env task log
        (.archived task row :: ((post.map (.posted task (env.wsOptIn task.workspaceID))).toList ++ log))

theorem afterDispatch_inv {s : WebhookSt} (h : Inv sha256Hex J s) (env : DispatchEnv)
    (task : WebhookDeliveryTask) :
    Inv sha256Hex J (s.afterDispatch env task (dispatch sha256Hex s.breaker env task)) := by
  unfold WebhookSt.afterDispatch
  cases hp : (dispatch sha256Hex s.breaker env task).post with
  | none => exact h.setBreaker sha256Hex J _
  | some post =>
    have hev : EvOk sha256Hex J (.posted task (env.wsOptIn task.workspaceID) post) :=
      dispatch_post sha256Hex hp
    exact (h.push sha256Hex J hev (fun _ _ => by simp) (fun _ _ => by simp)).setBreaker sha256Hex J _

theorem writeToDLQ_log {env : DeliverEnv} {s s' : WebhookSt} {task : WebhookDeliveryTask} {attempts : Nat}
    {failReason : String} (hw : writeToDLQ J env s task attempts failReason = some s') :
    (∃ row, s'.log = .archived task row :: s.log) ∧ s'.pending = s.pending := by
  unfold writeToDLQ at hw
  split at hw
  · split at hw
    · cases hw
    · dsimp only at hw
      cases hw
      exact ⟨⟨_, rfl⟩, rfl⟩
  · cases hw

theorem processDelivery_inv (env : DeliverEnv) {s : WebhookSt} (h : Inv sha256Hex J s)
    {task : WebhookDeliveryTask} (hsafe : safetyCheck task.payload = false) (n : Nat) :
    Inv sha256Hex J (processDelivery sha256Hex J env s n task).1 ∧
      DeliveryLog env task s.log (processDelivery sha256Hex J env s n task).1.log ∧
      (processDelivery sha256Hex J env s n task).1.pending = s.pending := by
  have hafter := afterDispatch_inv sha256Hex J h env.toDispatchEnv task
  have hlog : (s.afterDispatch env.toDispatchEnv task (dispatch sha256Hex s.breaker env.toDispatchEnv task)).log =
      ((dispatch sha256Hex s.breaker env.toDispatchEnv task).post.map
        (.posted task (env.wsOptIn task.workspaceID))).toList ++ s.log := rfl
  have hpend : (s.afterDispatch env.toDispatchEnv task
      (dispatch sha256Hex s.breaker env.toDispatchEnv task)).pending = s.pending := rfl
  unfold processDelivery
  dsimp only
  generalize dispatch sha256Hex s.breaker env.toDispatchEnv task = r at hafter hlog hpend
  generalize s.afterDispatch env.toDispatchEnv task r = s₁ at hafter hlog hpend
  split
  · exact ⟨hafter, hlog ▸ .posts r.post, hpend⟩
  · generalize (if env.metadata = true then n else 1) = numDelivered
    unfold handleDeliveryRetry
    split
    · split
      · exact ⟨hafter, hlog ▸ .posts r.post, hpend⟩
      · rename_i s₂ hw
        obtain ⟨⟨row, hrow⟩, hp⟩ := writeToDLQ_log J hw
        refine ⟨hafter.archive sha256Hex J hsafe hw, ?_, hp.trans hpend⟩
        rw [hrow, hlog]
        exact .archives r.post row
    · exact ⟨hafter, hlog ▸ .posts r.post, hpend⟩

theorem replayImmediate_log (env : ReplayEnv) (ws : Option WebhookWorkspace) (targetURL : String) (s : WebhookSt)
    (item : WebhookDLQ) :
    (replayImmediate env ws targetURL s item).1 = s ∨
      ∃ post, post.body = item.payload ∧ (replayImmediate env ws targetURL s item).1 =
        { s with log := .postedRow item (env.wsOptIn item.workspaceID) post :: s.log } := by
  unfold replayImmediate
  dsimp only
  generalize (if targetURL = "" then item.webhookURL else targetURL) = destURL
  split
  · exact Or.inl rfl
  · split
    · exact Or.inl rfl
    · split
      · exact Or.inl rfl
      · right
        refine ⟨⟨destURL, replaySecret env ws item, item.traceID, item.payload⟩, rfl, ?_⟩
        split
        · rfl
        · split <;> rfl

inductive ItemLog (env : ReplayEnv) (plan : ReplayPlan) (item : WebhookDLQ) (log : List WebhookEv) :
    List WebhookEv → Prop
  | same : ItemLog env plan item log log
  | replays (task : WebhookDeliveryTask) (hre : plan.action = .reEnqueue) :
      ItemLog env plan item log (.replayed item task :: log)
  | posts (post : Post) (himm : plan.action = .dispatchImmediate) :
      ItemLog env plan item log (.postedRow item (env.wsOptIn item.workspaceID) post :: log)

theorem replayItem_inv (env : ReplayEnv) (plan : ReplayPlan) {s : WebhookSt} (h : Inv sha256Hex J s)
    {item : WebhookDLQ} (hitem : ∃ t, .archived t item ∈ s.log) :
    Inv sha256Hex J (replayItem env plan s item).1 ∧
      ItemLog env plan item s.log (replayItem env plan s item).1.log := by
  unfold replayItem
  split
  · rename_i hre
    unfold replayReEnqueue
    dsimp only
    split
    · exact ⟨h, .same⟩
    · refine ⟨reenqueue_inv sha256Hex J h hitem, ?_⟩
      rw [reenqueue_log sha256Hex J h]
      exact .replays _ hre
  · rename_i himm
    rcases replayImmediate_log env plan.ws plan.targetURL s item with heq | ⟨post, hbody, heq⟩
    · rw [heq]
      exact ⟨h, .same⟩
    · rw [heq]
      exact ⟨h.push sha256Hex J hbody (fun _ _ => by simp) (fun _ _ => by simp), .posts post himm⟩

theorem ItemLog.mem {env : ReplayEnv} {plan : ReplayPlan} {item : WebhookDLQ} {log log' : List WebhookEv}
    (h : ItemLog env plan item log log') {e : WebhookEv} (he : e ∈ log) : e ∈ log' := by
  cases h with
  | same => exact he
  | replays _ _ => exact List.mem_cons_of_mem _ he
  | posts _ _ => exact List.mem_cons_of_mem _ he

theorem replayLoop_inv {env : ReplayEnv} {plan : ReplayPlan} (items : List WebhookDLQ) {s : WebhookSt}
    (h : Inv sha256Hex J s) (hitems : ∀ item ∈ items, ∃ t, .archived t item ∈ s.log) :
    Inv sha256Hex J (replayLoop env plan items s).1 := by
  induction items generalizing s with
  | nil => exact h
  | cons item items ih =>
    rw [replayLoop_cons]
    obtain ⟨h', hlog⟩ := replayItem_inv sha256Hex J env plan h (hitems item List.mem_cons_self)
    refine ih h' fun i hi => ?_
    exact (hitems i (List.mem_cons_of_mem _ hi)).imp fun _ ht => hlog.mem ht

theorem step_inv {s s' : WebhookSt} {l : Lbl} (h : Inv sha256Hex J s) (hs : step sha256Hex J s l = some s') :
    Inv sha256Hex J s' := by
  cases l with
  | event env mode payload =>
    cases hs
    exact (processEvent_inv sha256Hex J h).1
  | deliver i env =>
    simp only [step, deliver] at hs
    split at hs
    · cases hs
    · rename_i task n hi
      split at hs
      · cases hs
        have hsafe := h.pending _ (List.mem_of_getElem? hi)
        obtain ⟨h', -, hpend⟩ := processDelivery_inv sha256Hex J env h hsafe (n + 1)
        generalize (processDelivery sha256Hex J env s (n + 1) task).1 = s₁ at h' hpend
        cases (processDelivery sha256Hex J env s (n + 1) task).2 with
        | ack => exact h'.setPending sha256Hex J fun q hq => h'.pending q (List.mem_of_mem_eraseIdx hq)
        | nakWithDelay d =>
          refine h'.setPending sha256Hex J fun q hq => ?_
          rcases List.mem_or_eq_of_mem_set hq with hq | rfl
          · exact h'.pending q hq
          · exact hsafe
      · cases hs
  | replay env req =>
    cases hs
    unfold handleReplayWebhookDLQ
    split
    · exact h
    · rename_i plan hplan
      exact replayLoop_inv sha256Hex J plan.items h fun item hi => h.dlq item (replayPlan_mem hplan item hi)
  | retry env dlqID =>
    cases hs
    unfold retryDLQ
    split
    · exact h
    · split
      · exact h
      · exact h
      · rename_i item _ hget
        split
        · exact h
        · exact reenqueue_inv sha256Hex J h (h.dlq item (getDLQByID_mem hget))

theorem replayLoop_irrelevant {env : ReplayEnv} {plan : ReplayPlan} (items : List WebhookDLQ) {s : WebhookSt}
    (h : Inv sha256Hex J s) (hitems : ∀ item ∈ items, ∃ t, .archived t item ∈ s.log)
    (hg : plan.action = .dispatchImmediate → ∀ item ∈ items, ∀ t₀ ∈ rowOrigins s.log item,
      ModeIrrelevant sha256Hex J (env.wsOptIn item.workspaceID) t₀)
    (hp : PostsIrrelevant sha256Hex J s.log) :
    PostsIrrelevant sha256Hex J (replayLoop env plan items s).1.log := by
  induction items generalizing s with
  | nil => exact hp
  | cons item items ih =>
    rw [replayLoop_cons]
    obtain ⟨h', hlog⟩ := replayItem_inv sha256Hex J env plan h (hitems item List.mem_cons_self)
    have hitems' : ∀ i ∈ items, ∃ t, .archived t i ∈ (replayItem env plan s item).1.log := fun i hi =>
      (hitems i (List.mem_cons_of_mem _ hi)).imp fun _ ht => hlog.mem ht
    generalize (replayItem env plan s item).1 = s₁ at h' hlog hitems' ⊢
    refine ih h' hitems' ?_ ?_
    · intro himm i hi t₀ ht₀
      refine hg himm i (List.mem_cons_of_mem _ hi) t₀ ?_
      generalize s₁.log = log' at hlog ht₀
      cases hlog with
      | same => exact ht₀
      | replays _ hre => exact absurd (himm.symm.trans hre) (by decide)
      | posts _ _ => exact ht₀
    · generalize s₁.log = log' at hlog ⊢
      cases hlog with
      | same => exact hp
      | replays _ _ => exact hp
      | posts _ himm => exact ⟨hg himm item List.mem_cons_self, hp⟩

theorem step_irrelevant {s s' : WebhookSt} {l : Lbl} (h : Inv sha256Hex J s) (hp : PostsIrrelevant sha256Hex J s.log)
    (hg : Guard sha256Hex J s l) (hs : step sha256Hex J s l = some s') : PostsIrrelevant sha256Hex J s'.log := by
  cases l with
  | event env mode payload =>
    cases hs
    rw [(processEvent_inv sha256Hex J h).2]
    exact hp
  | deliver i env =>
    simp only [step, deliver] at hs
    split at hs
    · cases hs
    · rename_i task n hi
      split at hs
      · cases hs
        have hsafe := h.pending _ (List.mem_of_getElem? hi)
        obtain ⟨-, hlog, -⟩ := processDelivery_inv sha256Hex J env h hsafe (n + 1)
        have hg : ∀ t₀ ∈ ancestors s.log task, ModeIrrelevant sha256Hex J (env.wsOptIn task.workspaceID) t₀ :=
          hg (task, n) hi
        have hsettle : (settle (processDelivery sha256Hex J env s (n + 1) task).1 i task (n + 1)
            (processDelivery sha256Hex J env s (n + 1) task).2).log =
              (processDelivery sha256Hex J env s (n + 1) task).1.log := by
          cases (processDelivery sha256Hex J env s (n + 1) task).2 <;> rfl
        rw [hsettle]
        have hpost : ∀ post : Option Post, PostsIrrelevant sha256Hex J
            ((post.map (WebhookEv.posted task (env.wsOptIn task.workspaceID))).toList ++ s.log) := by
          intro post
          cases post with
          | none => exact hp
          | some post => exact ⟨hg, hp⟩
        generalize (processDelivery sha256Hex J env s (n + 1) task).1.log = log' at hlog
        cases hlog with
        | posts post => exact hpost post
        | archives post row => exact hpost post
      · cases hs
  | replay env req =>
    cases hs
    simp only [Guard, immediateItems] at hg
    unfold handleReplayWebhookDLQ
    split
    · exact hp
    · rename_i plan hplan
      rw [hplan] at hg
      refine replayLoop_irrelevant sha256Hex J plan.items h
        (fun item hi => h.dlq item (replayPlan_mem hplan item hi)) ?_ hp
      intro himm item hi
      exact hg item (by simpa [himm] using hi)
  | retry env dlqID =>
    cases hs
    unfold retryDLQ
    split
    · exact hp
    · split
      · exact hp
      · exact hp
      · rename_i item hget
        split
        · exact hp
        · rw [reenqueue_log sha256Hex J h]
          exact hp

theorem inv_inductive : (sys sha256Hex J).Inductive (Inv sha256Hex J) where
  init := fun _ hs => hs ▸ inv_new sha256Hex J
  step := fun _ _ _ h hs => step_inv sha256Hex J h hs

theorem irrelevant_inductive :
    ((sys sha256Hex J).restrict (Guard sha256Hex J)).Inductive fun s =>
      Inv sha256Hex J s ∧ PostsIrrelevant sha256Hex J s.log :=
  LTS.Inductive.of_restrict
    (fun _ hs => ⟨hs ▸ inv_new sha256Hex J, by cases hs; exact trivial⟩)
    (fun _ _ _ h hg hs => ⟨step_inv sha256Hex J h.1 hs, step_irrelevant sha256Hex J h.1 h.2 hg hs⟩)

/-- In a run that meets the guard every replay posts what the original would have; in any run that is so
exactly when the mode made no difference wherever a replay posted. Rows are never lost. -/
theorem replay_faithful :
    (∀ s, ((sys sha256Hex J).restrict (Guard sha256Hex J)).Reachable s →
      BodiesKept sha256Hex J s.log ∧ ItemsKept s) ∧
    (∀ s, (sys sha256Hex J).Reachable s →
      ItemsKept s ∧ (BodiesKept sha256Hex J s.log ↔ PostsIrrelevant sha256Hex J s.log)) := by
  constructor
  · intro s hs
    obtain ⟨h, hp⟩ := (irrelevant_inductive sha256Hex J).reachable hs
    exact ⟨(bodiesKept_iff sha256Hex J h.log).mpr hp, h.itemsKept⟩
  · intro s hs
    have h := (inv_inductive sha256Hex J).reachable hs
    exact ⟨h.itemsKept, bodiesKept_iff sha256Hex J h.log⟩

end Promise

/-! ## One event, archived and replayed -/

/-- A column on documents whose keys stand in its own order already. -/
def sortedColumn : Jsonb where
  norm := id
  value := id
  sameShape := by
    intro v
    cases v <;> constructor
  fields := by simp
  norm_norm := fun _ => rfl

/-- SHA-256 where the runs below use it. -/
def sampleHash (s : String) : String :=
  if s = "5511999990000" then "fdf907652d0eba55c4f9fba1638451dba1c13080e0b5aa89d1f661cd0752a4ab" else s

def sampleSub : WebhookSubscription := ⟨20, 7, "https://hooks.example/in", "secret", ["*"], true⟩

def sampleEvent : Document where
  fields := [("from", .str "5511999990000"), ("event", .str "inbound_message"), ("trace_id", .str "t-1"),
    ("message_id", .str "wamid.1"), ("workspace_id", .str "00000000-0000-0000-0000-000000000007")]
  distinct := by decide +kernel

def sampleParse (s : String) : Except String UUID :=
  if s = "00000000-0000-0000-0000-000000000007" then .ok 7
  else if s = "00000000-0000-0000-0000-000000000001" then .ok 1
  else .error "invalid UUID length"

def sampleFanOut : EventEnv := ⟨0, sampleParse, fun _ => .ok [sampleSub], fun _ => none⟩

/-- The subscriber answers with a status; the workspace has opted in or not. -/
def sampleDispatch (optIn : Bool) (statusCode : Nat) (status : String) : DispatchEnv where
  now := 0
  getSub := fun _ => .ok (some sampleSub)
  wsStore := some fun _ => some ⟨optIn, none⟩
  newRequest := fun _ => none
  client := fun _ => .ok (statusCode, status)

def sampleDeliver (optIn : Bool) (statusCode : Nat) (status : String) : DeliverEnv :=
  ⟨sampleDispatch optIn statusCode status, true, fun _ => .ok (some sampleSub), true⟩

def sampleReplay (optIn : Bool) : ReplayEnv where
  toDispatchEnv := sampleDispatch optIn 200 "200 OK"
  parseUUID := sampleParse
  scheme := fun _ => some "https"
  hasDLQRepo := true
  hasSubRepo := true
  hasPublisher := true
  readErr := none
  publishErr := fun _ => none
  deleteOk := fun _ => true

def immediateRequest : ReplayRequest :=
  ⟨some "00000000-0000-0000-0000-000000000007", some "dispatch_immediate", none, none, none, none⟩

/-- The subscriber refuses, the row is retried from the admin page, the subscriber accepts. -/
def retriedRun (mode : DeliveryMode) (optIn : Bool) : List Lbl :=
  [.event sampleFanOut mode sampleEvent, .deliver 0 (sampleDeliver optIn 404 "404 Not Found"),
   .retry (sampleReplay optIn) "00000000-0000-0000-0000-000000000001", .deliver 0 (sampleDeliver optIn 200 "200 OK")]

/-- The same, with the tool posting the row itself. -/
def immediateRun (mode : DeliveryMode) (optIn : Bool) : List Lbl :=
  [.event sampleFanOut mode sampleEvent, .deliver 0 (sampleDeliver optIn 404 "404 Not Found"),
   .replay (sampleReplay optIn) immediateRequest]

/-- An inbound event of a workspace that has opted in, replayed through the queue. -/
theorem replay_faithful_optIn :
    ∃ s, ((sys sampleHash sortedColumn).restrict (Guard sampleHash sortedColumn)).Reachable s ∧
      (∃ t o post, .posted t o post ∈ s.log ∧ ancestors s.log t ≠ []) ∧
      BodiesKept sampleHash sortedColumn s.log ∧ ItemsKept s := by
  have hrun : ((LTS.exec (step sampleHash sortedColumn) WebhookSt.new (retriedRun .inbound true)).any fun s =>
      s.log.any fun e => match e with
        | .posted t _ _ => decide (ancestors s.log t ≠ [])
        | _ => false) = true := by
    decide +kernel
  have hg : LTS.Guarded (step sampleHash sortedColumn) (Guard sampleHash sortedColumn) WebhookSt.new
      (retriedRun .inbound true) := by
    decide +kernel
  obtain ⟨s, hs, hany⟩ := (Option.any_eq_true _ _).mp hrun
  have hreach := LTS.exec_restrict_reachable hs hg
  obtain ⟨e, he, hpost⟩ := List.any_eq_true.mp hany
  refine ⟨s, hreach, ?_, (replay_faithful sampleHash sortedColumn).1 s hreach⟩
  cases e with
  | posted t o post => exact ⟨t, o, post, he, by simpa using hpost⟩
  | _ => cases hpost

/-- Without the opt-in both replays post the sender and the rest as they were archived. -/
theorem replay_unredacted :
    (∃ s, LTS.exec (step sampleHash sortedColumn) WebhookSt.new (retriedRun .inbound false) = some s ∧
      (sys sampleHash sortedColumn).Reachable s ∧ ¬ BodiesKept sampleHash sortedColumn s.log) ∧
    (∃ s, LTS.exec (step sampleHash sortedColumn) WebhookSt.new (immediateRun .inbound false) = some s ∧
      (sys sampleHash sortedColumn).Reachable s ∧ ¬ BodiesKept sampleHash sortedColumn s.log) := by
  have hretry : ((LTS.exec (step sampleHash sortedColumn) WebhookSt.new (retriedRun .inbound false)).any fun s =>
      decide (¬ BodiesKept sampleHash sortedColumn s.log)) = true := by
    decide +kernel
  have himm : ((LTS.exec (step sampleHash sortedColumn) WebhookSt.new (immediateRun .inbound false)).any fun s =>
      decide (¬ BodiesKept sampleHash sortedColumn s.log)) = true := by
    decide +kernel
  obtain ⟨s, hs, hb⟩ := (Option.any_eq_true _ _).mp hretry
  obtain ⟨s', hs', hb'⟩ := (Option.any_eq_true _ _).mp himm
  constructor
  · exact ⟨s, hs, LTS.exec_reachable hs, of_decide_eq_true hb⟩
  · exact ⟨s', hs', LTS.exec_reachable hs', of_decide_eq_true hb'⟩

end PerGo.L4.DLQReplay
