import PerGo.L4App.DLQReplay

/-!
# How a delivery task ends

A task of `WEBHOOK_DELIVERIES` is delivered at most ten times. `processDelivery` acks it
when `Dispatch` returned nil or when it archived it. The archive step reads the
subscription a second time (`getSubDLQ`), so a task whose subscription was deleted can
never be archived; it is nak'ed ten times and then dropped by the server, as is any task
whose tenth delivery can neither be posted nor archived.

* `Settled`: some `Dispatch` returned nil, or a row of the task is in the DLQ.
* `Accepted`, `Archivable`, `Refused`: what one delivery finds outside.
* `task_settled`: a task that is over is settled exactly when its tenth delivery, if
  there was one, was accepted or could be archived.
-/
namespace PerGo.L4.DeliveryEnd

open PerGo.Core PerGo.L1 PerGo.L2 PerGo.L3.Webhook PerGo.L4.DLQReplay

/-- The worker's state and what it is answered in one delivery. -/
structure Attempt where
  st : WebhookSt
  env : DeliverEnv

structure TaskSt where
  count : Nat
  /-- some `Dispatch` returned nil -/
  delivered : Bool
  /-- the rows inserted into the DLQ -/
  archived : List WebhookDLQ
  acked : Bool

def TaskSt.new : TaskSt := ⟨0, false, [], false⟩

def RowOf (J : Jsonb) (task : WebhookDeliveryTask) (row : WebhookDLQ) : Prop :=
  row.workspaceID = task.workspaceID ∧ row.subscriptionID = task.subscriptionID ∧ row.traceID = task.traceID ∧
    row.messageID = task.messageID ∧ row.eventType = task.event ∧ row.payload = J.norm task.payload

def Settled (J : Jsonb) (task : WebhookDeliveryTask) (t : TaskSt) : Prop :=
  t.delivered = true ∨ ∃ row ∈ t.archived, RowOf J task row

/-- The task is not delivered again. -/
def Over (t : TaskSt) : Prop := t.acked = true ∨ t.count = maxDeliver

section Attempts

variable (sha256Hex : String → String) (J : Jsonb) (task : WebhookDeliveryTask)

def step (t : TaskSt) (a : Attempt) : Option TaskSt :=
  if t.acked ∨ maxDeliver ≤ t.count then none
  else
    let r := processDelivery sha256Hex J a.env a.st (t.count + 1) task
    some
      { count := t.count + 1
        delivered := t.delivered || (dispatch sha256Hex a.st.breaker a.env.toDispatchEnv task).err.isNone
        archived := t.archived ++ r.1.dlq.drop a.st.dlq.length
        acked := r.2 = .ack }

def sys : LTS TaskSt Attempt := LTS.ofFn TaskSt.new (step sha256Hex J task)

/-! ## What a delivery finds outside -/

/-- The active subscription of the task, if the breaker lets a call to it through. -/
def reached (a : Attempt) : Option WebhookSubscription :=
  match a.env.getSub task.subscriptionID with
  | .ok (some sub) => if sub.active && (a.st.breaker.allow a.env.now sub.url).2 then some sub else none
  | _ => none

/-- The status the subscriber answers with; `none` when it is not asked or does not answer. -/
def status (a : Attempt) : Option Nat := do
  let sub ← reached task a
  let body ← webhookBody sha256Hex (a.env.wsOptIn task.workspaceID) task
  if (a.env.newRequest sub.url).isSome then none
  else match a.env.client ⟨sub.url, a.env.secretOf sub task.workspaceID, task.traceID, body⟩ with
    | .error _ => none
    | .ok (statusCode, _) => some statusCode

/-- The subscriber takes the task, or it is an internal note, which is not posted. -/
def Accepted (a : Attempt) : Prop :=
  (∃ code, status sha256Hex task a = some code ∧ 200 ≤ code ∧ code < 300) ∨
    ((reached task a).isSome ∧ safetyCheck task.payload = true)

/-- The archive step finds the subscription's row, and its insert works. -/
def Archivable (a : Attempt) : Prop :=
  (∃ sub, a.env.getSubDLQ task.subscriptionID = .ok (some sub)) ∧ task.workspaceID ≠ UUID.Nil ∧ a.env.insertDLQ = true

/-- `Dispatch` finds no subscription or one that is switched off, or the subscriber answers with a status that
is not retried. -/
def Refused (a : Attempt) : Prop :=
  a.env.getSub task.subscriptionID = .ok none ∨
    (∃ sub, a.env.getSub task.subscriptionID = .ok (some sub) ∧ sub.active = false) ∨
      ∃ code ∈ [400, 401, 403, 404], status sha256Hex task a = some code

end Attempts

section Attempt

variable {sha256Hex : String → String} {J : Jsonb} {task : WebhookDeliveryTask}

theorem dispatch_err_reached {a : Attempt} {sub : WebhookSubscription} (h : reached task a = some sub) :
    (dispatch sha256Hex a.st.breaker a.env.toDispatchEnv task).err =
      match webhookBody sha256Hex (a.env.wsOptIn task.workspaceID) task with
      | none => none
      | some body => (postBody (a.st.breaker.allow a.env.now sub.url).1 a.env.toDispatchEnv sub task body).err := by
  unfold reached at h
  split at h
  · rename_i sub' hget
    split at h
    · rename_i hok
      cases h
      rw [Bool.and_eq_true] at hok
      unfold dispatch dispatchWith
      simp only [hget, hok.1, hok.2, Bool.not_true, Bool.false_eq_true, if_false]
      cases webhookBody sha256Hex (a.env.wsOptIn task.workspaceID) task <;> rfl
    · cases h
  · cases h

theorem webhookBody_none {wsOptIn : Bool} :
    webhookBody sha256Hex wsOptIn task = none ↔ safetyCheck task.payload = true := by
  unfold webhookBody
  split
  · simp [*]
  · split <;> simp [*]

theorem dispatch_err_none_iff (a : Attempt) :
    (dispatch sha256Hex a.st.breaker a.env.toDispatchEnv task).err = none ↔ Accepted sha256Hex task a := by
  cases hr : reached task a with
  | none =>
    have hstatus : status sha256Hex task a = none := by simp [status, hr]
    simp only [Accepted, hstatus, hr]
    simp only [reduceCtorEq, false_and, exists_false, Option.isSome_none, Bool.false_eq_true, or_self, iff_false]
    unfold reached at hr
    unfold dispatch dispatchWith
    split at hr
    · rename_i sub hget
      split at hr
      · cases hr
      · rename_i hno
        simp only [hget]
        cases hact : sub.active with
        | false => simp
        | true =>
          have hallow : (a.st.breaker.allow a.env.now sub.url).2 = false := by
            simpa [hact] using hno
          simp [hallow]
    · rename_i hget
      split
      · simp
      · simp
      · rename_i sub hsub
        exact absurd hsub (hget sub)
  | some sub =>
    rw [dispatch_err_reached hr]
    simp only [Accepted, status, hr, Option.isSome_some, true_and]
    cases hb : webhookBody sha256Hex (a.env.wsOptIn task.workspaceID) task with
    | none => simp [webhookBody_none.mp hb]
    | some body =>
      have hsafe : ¬ safetyCheck task.payload = true := by
        intro h
        rw [webhookBody_none.mpr h] at hb
        cases hb
      simp only [hsafe, Option.bind_eq_bind, Option.bind_some, postBody]
      cases hn : a.env.newRequest sub.url with
      | some err => simp
      | none =>
        simp only [Option.isSome_none, Bool.false_eq_true, if_false]
        cases hc : a.env.client ⟨sub.url, a.env.secretOf sub task.workspaceID, task.traceID, body⟩ with
        | error err => simp
        | ok answer =>
          obtain ⟨code, text⟩ := answer
          simp only [Option.some.injEq, exists_eq_left']
          split
          · rename_i hcode
            simp only [reduceCtorEq, false_iff, or_false]
            omega
          · rename_i hcode
            simp only [true_iff, or_false]
            omega

theorem terminal_iff_of_found {a : Attempt} {err : DispatchError} {sub : WebhookSubscription}
    (hget : a.env.getSub task.subscriptionID = .ok (some sub))
    (h : (dispatch sha256Hex a.st.breaker a.env.toDispatchEnv task).err = some err) :
    terminalErr err = true ↔ Refused sha256Hex task a := by
  have hrow : a.env.getSub task.subscriptionID ≠ .ok none := by simp [hget]
  cases hact : sub.active with
  | false =>
    unfold dispatch dispatchWith at h
    simp only [hget, hact, Bool.not_false, if_true, Option.some.injEq] at h
    subst h
    exact ⟨fun _ => Or.inr (Or.inl ⟨sub, hget, hact⟩), fun _ => rfl⟩
  | true =>
    have hon : ¬ ∃ sub', a.env.getSub task.subscriptionID = .ok (some sub') ∧ sub'.active = false := by
      rintro ⟨sub', hsub', hoff⟩
      rw [hget] at hsub'
      cases hsub'
      rw [hact] at hoff
      cases hoff
    simp only [Refused, hrow, hon, false_or]
    cases hallow : (a.st.breaker.allow a.env.now sub.url).2 with
    | false =>
      have hr : reached task a = none := by simp [reached, hget, hallow]
      unfold dispatch dispatchWith at h
      simp only [hget, hact, hallow, Bool.not_true, Bool.not_false, Bool.false_eq_true, if_false, if_true,
        Option.some.injEq] at h
      subst h
      simp [terminalErr, status, hr]
    | true =>
      have hr : reached task a = some sub := by simp [reached, hget, hact, hallow]
      rw [dispatch_err_reached hr] at h
      simp only [status, hr, Option.bind_eq_bind, Option.bind_some]
      cases hb : webhookBody sha256Hex (a.env.wsOptIn task.workspaceID) task with
      | none =>
        rw [hb] at h
        cases h
      | some body =>
        simp only [hb, postBody] at h
        simp only [Option.bind_some]
        cases hn : a.env.newRequest sub.url with
        | some e =>
          simp only [hn, Option.some.injEq] at h
          subst h
          simp [terminalErr]
        | none =>
          simp only [hn] at h
          simp only [Option.isSome_none, Bool.false_eq_true, if_false]
          cases hc : a.env.client ⟨sub.url, a.env.secretOf sub task.workspaceID, task.traceID, body⟩ with
          | error e =>
            simp only [hc, Option.some.injEq] at h
            subst h
            simp [terminalErr]
          | ok answer =>
            obtain ⟨code, text⟩ := answer
            simp only [hc] at h
            split at h
            · cases h
              simp [terminalErr, or_assoc]
            · cases h

theorem terminal_iff {a : Attempt} {err : DispatchError}
    (h : (dispatch sha256Hex a.st.breaker a.env.toDispatchEnv task).err = some err) :
    terminalErr err = true ↔ Refused sha256Hex task a := by
  cases hget : a.env.getSub task.subscriptionID with
  | error e =>
    have hstatus : status sha256Hex task a = none := by simp [status, reached, hget]
    unfold dispatch dispatchWith at h
    simp only [hget, Option.some.injEq] at h
    subst h
    simp [terminalErr, Refused, hget, hstatus]
  | ok found =>
    cases found with
    | none =>
      unfold dispatch dispatchWith at h
      simp only [hget, Option.some.injEq] at h
      subst h
      exact ⟨fun _ => Or.inl hget, fun _ => rfl⟩
    | some sub => exact terminal_iff_of_found hget h

theorem writeToDLQ_spec {a : Attempt} {s : WebhookSt} (attempts : Nat) (reason : String) :
    (Archivable task a → ∃ s' row, writeToDLQ J a.env s task attempts reason = some s' ∧ s'.dlq = s.dlq ++ [row] ∧
      RowOf J task row) ∧
    (¬ Archivable task a → writeToDLQ J a.env s task attempts reason = none) := by
  unfold writeToDLQ
  constructor
  · rintro ⟨⟨sub, hget⟩, hws, hins⟩
    simp only [hget]
    rw [if_neg (by simp [hws, hins])]
    exact ⟨_, _, rfl, rfl, rfl, rfl, rfl, rfl, rfl, rfl⟩
  · intro hno
    split
    · rename_i sub hget
      rw [if_pos]
      by_contra hboth
      rw [not_or] at hboth
      exact hno ⟨⟨sub, hget⟩, hboth.1, by simpa using hboth.2⟩
    · rfl

/-- The delivery ends the task: it is accepted, or archived after an error that is not retried or the tenth
time. -/
def Ends (sha256Hex : String → String) (task : WebhookDeliveryTask) (n : Nat) (a : Attempt) : Prop :=
  Accepted sha256Hex task a ∨
    (Archivable task a ∧ (Refused sha256Hex task a ∨ a.env.metadata = true ∧ maxDeliver ≤ n))

/-- **One delivery**, the `n`-th. -/
theorem processDelivery_spec (sha256Hex : String → String) (J : Jsonb) (task : WebhookDeliveryTask) (a : Attempt)
    (n : Nat) :
    ((processDelivery sha256Hex J a.env a.st n task).2 = .ack ↔ Ends sha256Hex task n a) ∧
    (Ends sha256Hex task n a → (dispatch sha256Hex a.st.breaker a.env.toDispatchEnv task).err = none ∨
      ∃ row, (processDelivery sha256Hex J a.env a.st n task).1.dlq = a.st.dlq ++ [row] ∧ RowOf J task row) ∧
    (¬ Ends sha256Hex task n a → (dispatch sha256Hex a.st.breaker a.env.toDispatchEnv task).err ≠ none ∧
      (processDelivery sha256Hex J a.env a.st n task).1.dlq = a.st.dlq) := by
  have hnil : (dispatch sha256Hex a.st.breaker a.env.toDispatchEnv task).err = none ↔ Accepted sha256Hex task a :=
    dispatch_err_none_iff a
  unfold processDelivery
  simp only
  cases herr : (dispatch sha256Hex a.st.breaker a.env.toDispatchEnv task).err with
  | none =>
    have hends : Ends sha256Hex task n a := Or.inl (hnil.mp herr)
    exact ⟨by simp [hends], fun _ => Or.inl rfl, fun h => absurd hends h⟩
  | some err =>
    have hnot : ¬ Accepted sha256Hex task a := by
      rw [← hnil, herr]
      simp
    simp only [Ends, hnot, false_or]
    by_cases harch : Archivable task a
    · have hterm := terminal_iff herr
      simp only [harch, true_and]
      unfold handleDeliveryRetry
      have hcount : (terminalErr err = true ∨ 10 ≤ if a.env.metadata = true then n else 1) ↔
          Refused sha256Hex task a ∨ a.env.metadata = true ∧ maxDeliver ≤ n := by
        rw [hterm]
        cases a.env.metadata <;> simp [maxDeliver]
      by_cases hend : Refused sha256Hex task a ∨ a.env.metadata = true ∧ maxDeliver ≤ n
      · rw [if_pos (hcount.mpr hend)]
        obtain ⟨s', row, hw, hdlq, hrow⟩ :=
          (writeToDLQ_spec (J := J) (s := a.st.afterDispatch a.env.toDispatchEnv task
            (dispatch sha256Hex a.st.breaker a.env.toDispatchEnv task))
            (if a.env.metadata = true then n else 1) err.text).1 harch
        simp only [hw]
        exact ⟨by simp [hend], fun _ => Or.inr ⟨row, hdlq, hrow⟩, fun h => absurd hend h⟩
      · rw [if_neg (fun h => hend (hcount.mp h))]
        exact ⟨by simp [hend], fun h => absurd h hend, fun _ => ⟨by simp, rfl⟩⟩
    · simp only [harch, false_and]
      have hnak : ∀ (s : WebhookSt) (k : Nat), s.dlq = a.st.dlq →
          (handleDeliveryRetry J a.env s k err task).2 ≠ .ack ∧
          (handleDeliveryRetry J a.env s k err task).1.dlq = a.st.dlq := by
        intro s k hs
        unfold handleDeliveryRetry
        split
        · rw [(writeToDLQ_spec _ _).2 harch]
          exact ⟨by simp, hs⟩
        · exact ⟨by simp, hs⟩
      obtain ⟨hack, hdlq⟩ := hnak (a.st.afterDispatch a.env.toDispatchEnv task
        (dispatch sha256Hex a.st.breaker a.env.toDispatchEnv task)) (if a.env.metadata = true then n else 1) rfl
      exact ⟨by simp [hack], fun h => h.elim, fun _ => ⟨by simp, hdlq⟩⟩

end Attempt

/-! ## All deliveries -/

section Run

variable {sha256Hex : String → String} {J : Jsonb} {task : WebhookDeliveryTask}

structure Inv (J : Jsonb) (task : WebhookDeliveryTask) (t : TaskSt) : Prop where
  acked : t.acked = true → Settled J task t
  pending : t.acked = false → t.delivered = false ∧ t.archived = []

theorem step_spec {t t' : TaskSt} {a : Attempt} (hi : Inv J task t) (h : step sha256Hex J task t a = some t') :
    Inv J task t' ∧ t.count < maxDeliver ∧ t'.count = t.count + 1 ∧
      (t'.acked = true ↔ Ends sha256Hex task (t.count + 1) a) := by
  unfold step at h
  split at h
  · cases h
  · rename_i hopen
    rw [not_or] at hopen
    cases h
    obtain ⟨hack, hends, hgoes⟩ := processDelivery_spec sha256Hex J task a (t.count + 1)
    have hold := hi.pending (by simpa using hopen.1)
    refine ⟨⟨fun h => ?_, fun h => ?_⟩, by omega, rfl, by simp [hack]⟩
    · rcases hends (hack.mp (of_decide_eq_true h)) with hnil | ⟨row, hdlq, hrow⟩
      · exact Or.inl (by simp [hnil])
      · exact Or.inr ⟨row, by simp [hdlq], hrow⟩
    · have hno : ¬ Ends sha256Hex task (t.count + 1) a := fun he => by
        rw [decide_eq_true (hack.mpr he)] at h
        cases h
      obtain ⟨herr, hdlq⟩ := hgoes hno
      exact ⟨by simp [hold.1, Option.isSome_iff_ne_none, herr], by simp [hold.2, hdlq]⟩

theorem inv_new : Inv J task TaskSt.new where
  acked := by
    intro h
    cases h
  pending := fun _ => ⟨rfl, rfl⟩

theorem run_spec {t t' : TaskSt} {as : List Attempt} (hrun : (sys sha256Hex J task).Run t as t') (hi : Inv J task t) :
    Inv J task t' ∧ t'.count = t.count + as.length ∧ (as ≠ [] → t'.count ≤ maxDeliver) ∧
      ∀ a, as.getLast? = some a → (t'.acked = true ↔ Ends sha256Hex task t'.count a) := by
  induction hrun with
  | nil t => exact ⟨hi, rfl, fun h => absurd rfl h, fun a h => by cases h⟩
  | @cons t u t' a as hstep hrest ih =>
    obtain ⟨hu, hlt, hcount, hack⟩ := step_spec hi hstep
    obtain ⟨ht', hcount', hle, hlast⟩ := ih hu
    refine ⟨ht', by rw [hcount', hcount, List.length_cons]; omega, fun _ => ?_, fun b hb => ?_⟩
    · cases as with
      | nil =>
        simp only [List.length_nil] at hcount'
        omega
      | cons b bs => exact hle (by simp)
    · cases as with
      | nil =>
        cases hrest
        cases hb
        rw [hcount]
        exact hack
      | cons c cs => exact hlast b (by simpa using hb)

/-- **How a task ends.** A task that is over was delivered or is archived exactly when its tenth delivery, if
it came to that, was accepted, or could be archived and was known to be the last or to be refused. -/
theorem task_settled (sha256Hex : String → String) (J : Jsonb) (task : WebhookDeliveryTask) {as : List Attempt}
    {t : TaskSt} (hrun : (sys sha256Hex J task).Run TaskSt.new as t) (hover : Over t) :
    Settled J task t ↔ ∀ a, as[9]? = some a →
      Accepted sha256Hex task a ∨
        (Archivable task a ∧ (Refused sha256Hex task a ∨ a.env.metadata = true)) := by
  obtain ⟨hi, hcount, hle, hlast⟩ := run_spec hrun inv_new
  rw [show TaskSt.new.count = 0 from rfl, Nat.zero_add] at hcount
  have hsettled : Settled J task t ↔ t.acked = true := by
    refine ⟨fun h => ?_, hi.acked⟩
    cases hack : t.acked with
    | true => rfl
    | false =>
      obtain ⟨hd, ha⟩ := hi.pending hack
      rcases h with h | ⟨row, hrow, -⟩
      · rw [hd] at h
        cases h
      · rw [ha] at hrow
        cases hrow
  rw [hsettled]
  by_cases hten : t.count = maxDeliver
  · -- the tenth delivery was the last
    have hlen : as.length = 10 := hcount.symm.trans hten
    have hat : as[9]? = as.getLast? := by rw [List.getLast?_eq_getElem?, hlen]
    obtain ⟨a, ha⟩ : ∃ a, as[9]? = some a := ⟨as[9], List.getElem?_eq_getElem (by omega)⟩
    rw [hlast a (hat ▸ ha), hten]
    simp only [Ends, Nat.le_refl, and_true, ha, Option.some.injEq, forall_eq']
  · have hnone : as[9]? = none := by
      have hshort : as.length ≤ 10 := by
        cases as with
        | nil => simp
        | cons b bs =>
          have := hle (by simp)
          unfold maxDeliver at this
          omega
      have hne : as.length ≠ 10 := fun h => hten (hcount.trans h)
      rw [List.getElem?_eq_none_iff]
      omega
    have hack := hover.resolve_right hten
    simp [hack, hnone]

end Run

/-! ## A subscriber that answers 500 -/

def task500 : WebhookDeliveryTask where
  id := 1
  subscriptionID := 20
  workspaceID := 7
  event := "message.delivered"
  traceID := "t-1"
  messageID := "m-1"
  payload := { fields := [("event", .str "message.delivered")], distinct := by decide }
  mode := .outbound

def answer500 (sub : Option WebhookSubscription) : Attempt where
  st := WebhookSt.new
  env :=
    { now := 0, getSub := fun _ => .ok sub, wsStore := none, newRequest := fun _ => none,
      client := fun _ => .ok (500, "500"), metadata := true, getSubDLQ := fun _ => .ok sub, insertDLQ := true }

/-- The tenth failure archives the task. -/
theorem archived_after_ten :
    ∃ t, (sys id sortedColumn task500).Run TaskSt.new (List.replicate 10 (answer500 (some sampleSub))) t ∧ Over t ∧
      Settled sortedColumn task500 t := by
  have hrun : ((LTS.exec (step id sortedColumn task500) TaskSt.new
      (List.replicate 10 (answer500 (some sampleSub)))).any fun t => t.acked) = true := by decide +kernel
  obtain ⟨t, ht, hack⟩ := (Option.any_eq_true _ _).mp hrun
  refine ⟨t, LTS.exec_run ht, Or.inl hack, ?_⟩
  refine (task_settled id sortedColumn task500 (LTS.exec_run ht) (Or.inl hack)).mpr fun a ha => ?_
  cases ha
  exact Or.inr ⟨⟨⟨sampleSub, rfl⟩, by decide, rfl⟩, Or.inr rfl⟩

/-- The subscription was deleted: ten deliveries are nak'ed, and the task is gone. -/
theorem lost_with_subscription :
    ∃ t, (sys id sortedColumn task500).Run TaskSt.new (List.replicate 10 (answer500 none)) t ∧ Over t ∧
      ¬ Settled sortedColumn task500 t := by
  have hrun : ((LTS.exec (step id sortedColumn task500) TaskSt.new (List.replicate 10 (answer500 none))).any fun t =>
      decide (t.count = maxDeliver) && !t.delivered && decide (t.archived = [])) = true := by decide +kernel
  obtain ⟨t, ht, hp⟩ := (Option.any_eq_true _ _).mp hrun
  simp only [Bool.and_eq_true, decide_eq_true_eq, Bool.not_eq_true'] at hp
  refine ⟨t, LTS.exec_run ht, Or.inr hp.1.1, ?_⟩
  rintro (hd | ⟨row, hrow, -⟩)
  · rw [hp.1.2] at hd
    cases hd
  · rw [hp.2] at hrow
    cases hrow

end PerGo.L4.DeliveryEnd
