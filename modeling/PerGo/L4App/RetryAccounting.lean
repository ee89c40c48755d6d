import PerGo.L3Queue.Worker
import PerGo.L4App.DispatchRun

/-!
# The attempt number of a redelivered message

The number of retries is counted three times: the consumer delivers a message `MaxDeliver` times,
`handleFailure` gives a message up at `maxRetries`, and the attempt number in between is read from
the header `X-Retry-Attempt`. Nothing ever writes that header, and a redelivery has the headers of the
message.

A `History` is the deliveries of one message so far, each with what its call finds in memory, in the
table and from the dispatchers, where every call fails with a transient error. `Accounts` is what
the counting should come to.

Results: `retry_accounting_iff`, and `five_deliveries` for a message that fails to the end.
-/
namespace PerGo.L4.RetryAccounting

open PerGo.Core PerGo.L1 PerGo.L2 PerGo.L3 PerGo.L3.MessageWorker

/-- mirrors queue/jetstream.go:147 -/
def maxDeliver : Nat := 5

/-- `fmt.Sscanf(val, "%d", &n)` of a value on one line: what follows the number is left unread. -/
def sscanfInt (s : String) : Option Int :=
  let (sign, rest) := match s.toList.dropWhile isSpace with
    | '-' :: cs => (-1, cs)
    | '+' :: cs => (1, cs)
    | cs => (1, cs)
  let ds := rest.takeWhile isDigit
  let v : Int := sign * digitsValue ds
  if ds ≠ [] ∧ -(2 ^ 63) ≤ v ∧ v < 2 ^ 63 then some v else none

/-- mirrors queue/orchestrator.go:469-483 -/
def retryAttempt (headers : Option StrMap) : Int :=
  match headers with
  | none => 0
  | some headers =>
    let val := headers.get "X-Retry-Attempt"
    if val = "" then 0 else (sscanfInt val).getD 0

/-- What a call finds, and what its dependencies answer. -/
structure Delivery where
  createClaim : Except GoError Bool
  dispatched : List String
  table : Dispatches
  process : Env

section Message

variable (o : Orchestrator) (claimsRepo : Bool) (headers : Option StrMap) (q : QueueMessage)

/-- The headers of every delivery are those of the message. mirrors queue/worker.go:108 -/
def workerEnv (d : Delivery) : WorkerEnv :=
  { unmarshalErr := false, createClaim := d.createClaim, attempt := retryAttempt headers, dispatched := d.dispatched,
    table := d.table, process := d.process }

def outOf (d : Delivery) : List Effect := L3.MessageWorker.processMessage ⟨some o, claimsRepo⟩ (workerEnv headers d) q

/-- The table after a call of `Process`. -/
def tableOf (d : Delivery) : Dispatches :=
  (process o d.process ⟨d.dispatched, d.table, []⟩ q (retryAttempt headers)).1.table

def FailsTransiently (d : Delivery) : Prop :=
  ∃ i p res e, Effect.invoke i p res ∈ outOf o claimsRepo headers q d ∧ res.err = some e ∧ e.terminal = false

/-- The deliveries of a message that keeps failing transiently. -/
structure History where
  deliveries : List Delivery
  within : deliveries.length ≤ maxDeliver
  failing : ∀ d ∈ deliveries, FailsTransiently o claimsRepo headers q d

/-- The row of the trace is `failed`, and the message is acked with its queue-depth unit. -/
structure GivenUp (d : Delivery) : Prop where
  row : o.dispatchRepo = true → q.traceID ≠ "" → ∃ r, (tableOf o headers q d).get q.traceID = some r ∧ r.status = "failed"
  acked : Effect.ack ∈ outOf o claimsRepo headers q d
  released : o.queueDepth = true → q.workspaceID ≠ UUID.Nil →
    Effect.decrement q.workspaceID ∈ outOf o claimsRepo headers q d

/-- Delivery `k + 1` is attempt `k`, with the delay for it, and the last one gives the message up. -/
structure Accounts (h : History o claimsRepo headers q) : Prop where
  attempt : ∀ (k : Nat) d, h.deliveries[k]? = some d → (workerEnv headers d).attempt = k
  delay : ∀ (k : Nat) d delay, h.deliveries[k]? = some d → Effect.nak delay ∈ outOf o claimsRepo headers q d →
    delay = min (2 ^ k * second) o.maxBackoff
  last : ∀ d, h.deliveries[maxDeliver - 1]? = some d → GivenUp o claimsRepo headers q d

end Message

/-! ## What a call emits -/

section Emits

variable (o : Orchestrator) (env : Env) (q : QueueMessage) (attempt : Int)

/-- What a call adds to `w` is published, audited, an invocation, or of one `ack` or `handleFailure`. -/
def Emits (w w' : World) : Prop :=
  ∀ e ∈ w'.out, e ∈ w.out ∨ e.quiet = true ∨ (∃ i p res, e = .invoke i p res) ∨
    e = .ack ∨ e = .decrement q.workspaceID ∨ e = .exhausted attempt ∨ e = .nak (backoff o attempt)

variable {o q attempt}

theorem Emits.of_eq {w w' : World} (h : w'.out = w.out) : Emits o q attempt w w' := fun _ he => .inl (h ▸ he)

theorem Emits.trans {w w' w'' : World} (h : Emits o q attempt w w') (h' : Emits o q attempt w' w'') :
    Emits o q attempt w w'' := fun e he => (h' e he).elim (h e) .inr

theorem Emits.emit {w w' : World} {e : Effect} (h : Emits o q attempt w w')
    (he : e.quiet = true ∨ (∃ i p res, e = .invoke i p res) ∨
      e = .ack ∨ e = .decrement q.workspaceID ∨ e = .exhausted attempt ∨ e = .nak (backoff o attempt)) :
    Emits o q attempt w (w'.emit e) := by
  intro x hx
  rcases List.mem_append.mp hx with hx | hx
  · exact h x hx
  · rw [List.mem_singleton.mp hx]
    exact .inr he

theorem Emits.audit {w w' : World} (h : Emits o q attempt w w') (ws : UUID) (tr : String) (p : AuditPayload) :
    Emits o q attempt w (audit o w' ws tr p) := by
  unfold L3.audit
  split
  · exact h.emit (.inl rfl)
  · exact h

variable {env}

theorem Emits.publish {w w' : World} (h : Emits o q attempt w w') (ws : UUID) (tr : String) (id : UUID) (ev chan : String)
    (err : Option String) : Emits o q attempt w (publishWebhookEvent o env w' ws tr id ev chan err) := by
  unfold publishWebhookEvent
  split
  · exact h.emit (.inl rfl)
  · exact h

theorem Emits.ack {w w' : World} (h : Emits o q attempt w w') : Emits o q attempt w (ack o w' q.workspaceID) := by
  unfold L3.ack
  have hack : Emits o q attempt w (w'.emit .ack) := h.emit (.inr (.inr (.inl rfl)))
  dsimp only
  split
  · exact hack.emit (.inr (.inr (.inr (.inl rfl))))
  · exact hack

theorem Emits.handleFailure {w w' : World} (h : Emits o q attempt w w') :
    Emits o q attempt w (handleFailure o env w' q.workspaceID attempt) := by
  unfold L3.handleFailure
  split
  · exact (h.emit (.inr (.inr (.inr (.inr (.inl rfl)))))).ack
  · have hnak : Emits o q attempt w (w'.emit (.nak (backoff o attempt))) :=
      h.emit (.inr (.inr (.inr (.inr (.inr rfl)))))
    dsimp only
    split
    · exact hnak.ack
    · exact hnak

theorem Emits.setStatus {w w' : World} (h : Emits o q attempt w w') (dispatch : Option MessageDispatch)
    (status chan : String) (idx : Nat) (err : Option String) :
    Emits o q attempt w (setStatus o env w' q dispatch status chan idx err) := by
  unfold L3.setStatus
  cases dispatch with
  | none => exact h
  | some d =>
    refine Emits.publish ?_ _ _ _ _ _ _
    split
    · exact h
    · exact h.trans (.of_eq rfl)

theorem Emits.markSent {w w' : World} (h : Emits o q attempt w w') (dispatch : Option MessageDispatch) (chan : String)
    (i : Nat) (resp : String) : Emits o q attempt w (markSent o env w' q dispatch chan i resp) := by
  unfold L3.markSent
  cases dispatch with
  | none => exact h
  | some d =>
    refine Emits.publish ?_ _ _ _ _ _ _
    exact h.trans (.of_eq rfl)

theorem Emits.beginAttempt {w w' : World} (h : Emits o q attempt w w') (dispatch : Option MessageDispatch)
    (all : List String) (start i : Nat) (v : LoopVars) (chan to_ : String) :
    Emits o q attempt w (beginAttempt o env w' q dispatch all start i v chan to_).1 := by
  unfold L3.beginAttempt
  generalize hw : (if i > start then
      L3.audit o w' q.workspaceID q.traceID (.fallbackTransition
        (if v.lastAttemptedChannel = "" ∧ i > 0 then all.getD (i - 1) "" else v.lastAttemptedChannel)
        chan to_ i) else w') = w₁
  have hw₁ : Emits o q attempt w w₁ := by
    rw [← hw]
    split
    · exact h.audit _ _ _
    · exact h
  cases dispatch with
  | none => exact hw₁
  | some d =>
    dsimp only
    split
    · exact hw₁
    · refine Emits.publish ?_ _ _ _ _ _ _
      exact hw₁.trans (.of_eq rfl)

theorem Emits.dispatchToChannel {w w' : World} (h : Emits o q attempt w w') (i : Nat) (chan : String)
    (qc : QueueMessage) : Emits o q attempt w (dispatchToChannel o env w' i chan qc).2.2 := by
  unfold L3.dispatchToChannel
  split
  · exact h.emit (.inr (.inl ⟨_, _, _, rfl⟩))
  · exact h

variable (env)

theorem emits_fallbackLoop (dispatch : Option MessageDispatch) (all : List String) (start : Nat)
    (chans : List String) (i : Nat) (v : LoopVars) {w w' : World} (h : Emits o q attempt w w') :
    Emits o q attempt w (fallbackLoop o env q attempt dispatch all start chans i v w').1 := by
  induction chans generalizing i v w' with
  | nil => exact h
  | cons chan rest ih =>
    rw [fallbackLoop]
    cases resolveRecipientForChannel o env q.workspaceID q.to_ chan with
    | none => exact ih _ _ (h.audit _ _ _)
    | some to_ =>
      have hb : Emits o q attempt w (L3.beginAttempt o env w' q dispatch all start i
          { v with lastChannel := chan, currentIndex := i } chan to_).1 := h.beginAttempt dispatch all start i _ chan to_
      dsimp only
      generalize L3.beginAttempt o env w' q dispatch all start i _ chan to_ = b at hb ⊢
      obtain ⟨w₁, _ | e⟩ := b
      · have hd : Emits o q attempt w (L3.dispatchToChannel o env w₁ i chan { q with to_ := to_, channel := chan }).2.2 :=
          Emits.dispatchToChannel hb i chan _
        dsimp only
        generalize L3.dispatchToChannel o env w₁ i chan _ = r at hd ⊢
        obtain ⟨qc, res, w₂⟩ := r
        dsimp only at hd ⊢
        cases res.err with
        | none => exact ((hd.markSent _ _ _ _).audit _ _ _).ack
        | some e =>
          dsimp only
          split
          · exact ih _ _ (hd.audit _ _ _)
          · exact ((hd.setStatus _ _ _ _ _).audit _ _ _).handleFailure
      · exact hb.handleFailure

theorem emits_processClaimed {w w' : World} (h : Emits o q attempt w w') (dispatch : Option MessageDispatch) :
    Emits o q attempt w (processClaimed o env w' q attempt dispatch).1 := by
  unfold processClaimed
  split
  · exact h.ack
  · have hw₁ : Emits o q attempt w
        (if q.traceID ≠ "" then { w' with dispatched := q.traceID :: w'.dispatched } else w') := by
      split
      · exact h.trans (.of_eq rfl)
      · exact h
    generalize (if q.traceID ≠ "" then { w' with dispatched := q.traceID :: w'.dispatched } else w') = w₁ at hw₁ ⊢
    dsimp only
    split
    · refine Emits.ack ?_
      cases dispatch with
      | none => exact hw₁
      | some d => exact hw₁.setStatus _ _ _ _ _
    · split
      · exact hw₁.ack
      · have hloop := emits_fallbackLoop env dispatch (allChannels q) (startIndex dispatch)
          ((allChannels q).drop (startIndex dispatch)) (startIndex dispatch)
          ⟨none, "", startIndex dispatch, "", startIndex dispatch⟩ hw₁
        generalize fallbackLoop o env q attempt dispatch (allChannels q) (startIndex dispatch)
          ((allChannels q).drop (startIndex dispatch)) (startIndex dispatch)
          ⟨none, "", startIndex dispatch, "", startIndex dispatch⟩ w₁ = r at hloop ⊢
        obtain ⟨w₂, exit⟩ := r
        cases exit with
        | returned err => exact hloop
        | finished v => exact (hloop.setStatus _ _ _ _ _).ack

theorem emits_process (w : World) : Emits o q attempt w (process o env w q attempt).1 := by
  have hw : Emits o q attempt w w := .of_eq rfl
  unfold process
  split
  · exact hw.ack
  split
  · split
    · exact hw.handleFailure
    · split
      · exact hw.handleFailure
      · generalize w.table.getOrCreateDispatch q.workspaceID q.traceID q.channel q.campaignID
          (if q.templateName ≠ "" then some q.templateName else none) q.variablesJSON = row
        obtain ⟨d, table⟩ := row
        have hrow : Emits o q attempt w { w with table := table } := .of_eq rfl
        dsimp only
        split
        · exact hrow.ack
        · refine emits_processClaimed env ?_ _
          split
          · exact hrow.publish _ _ _ _ _ _
          · exact hrow
  · exact emits_processClaimed env hw none

end Emits

/-! ## The accounts of a history -/

section Accounts

variable {o : Orchestrator} {claimsRepo : Bool} {headers : Option StrMap} {q : QueueMessage}

theorem backoff_zero : backoff o 0 = min second o.maxBackoff := by
  have hdelay : (if (0 : Int) < 0 then 0 else Int.bmod (2 ^ (0 : Int).toNat * orchDefaultBaseBackoff) (2 ^ 64)) =
      second := by decide
  unfold backoff
  rw [hdelay]
  dsimp only
  split <;> omega

theorem nak_delay {d : Delivery} {delay : Int} (h : Effect.nak delay ∈ outOf o claimsRepo headers q d) :
    delay = backoff o (retryAttempt headers) := by
  unfold outOf L3.MessageWorker.processMessage workerEnv at h
  simp only [Bool.false_eq_true, if_false] at h
  split at h
  · cases List.mem_singleton.mp h
  · rcases emits_process d.process ⟨d.dispatched, d.table, []⟩ _ h with h | h | ⟨_, _, _, h⟩ | h | h | h | h
    · cases h
    · cases h
    · cases h
    · cases h
    · cases h
    · cases h
    · exact (Effect.nak.inj h)

/-- A message that keeps failing is accounted for only until its first redelivery, and when it has no attempt
in its header. -/
theorem retry_accounting_iff (h : History o claimsRepo headers q) :
    Accounts o claimsRepo headers q h ↔
      h.deliveries.length ≤ 1 ∧ (h.deliveries ≠ [] → retryAttempt headers = 0) := by
  constructor
  · intro hacc
    refine ⟨?_, fun hne => ?_⟩
    · by_contra hlen
      -- the second delivery has the attempt number of the first
      have h0 : h.deliveries[0]? = some h.deliveries[0] := List.getElem?_eq_getElem (by omega)
      have h1 : h.deliveries[1]? = some h.deliveries[1] := List.getElem?_eq_getElem (by omega)
      have hfirst : retryAttempt headers = (0 : Nat) := hacc.attempt 0 _ h0
      have hsecond : retryAttempt headers = (1 : Nat) := hacc.attempt 1 _ h1
      omega
    · have hpos : 0 < h.deliveries.length := List.length_pos_iff.mpr hne
      exact hacc.attempt 0 _ (List.getElem?_eq_getElem hpos)
  · rintro ⟨hlen, hzero⟩
    have honly : ∀ {k : Nat} {d : Delivery}, h.deliveries[k]? = some d → k = 0 ∧ retryAttempt headers = 0 := by
      intro k d hk
      obtain ⟨hlt, -⟩ := List.getElem?_eq_some_iff.mp hk
      exact ⟨by omega, hzero (List.length_pos_iff.mp (by omega))⟩
    refine ⟨fun k d hk => ?_, fun k d delay hk hnak => ?_, fun d hd => ?_⟩
    · obtain ⟨rfl, hattempt⟩ := honly hk
      exact hattempt
    · obtain ⟨rfl, hattempt⟩ := honly hk
      rw [nak_delay hnak, hattempt, backoff_zero, pow_zero, one_mul]
    · obtain ⟨hlast, -⟩ := honly hd
      cases hlast

end Accounts

/-! ## A provider that is down -/

open DispatchRun (sampleText serverError)

/-- The table after so many failed deliveries of a message without headers. -/
def tableAfter : Nat → Dispatches
  | 0 => Dispatches.empty
  | k + 1 => tableOf serverOrchestrator none sampleText ⟨.ok true, [], tableAfter k, serverError⟩

def restarted (k : Nat) : Delivery := ⟨.ok true, [], tableAfter k, serverError⟩

def failsTransiently (out : List Effect) : Bool :=
  out.any fun
    | .invoke _ _ res => (res.err.map (!·.terminal)).getD false
    | _ => false

theorem failsTransiently_spec {d : Delivery}
    (h : failsTransiently (outOf serverOrchestrator true none sampleText d) = true) :
    FailsTransiently serverOrchestrator true none sampleText d := by
  obtain ⟨e, hm, he⟩ := List.any_eq_true.mp h
  cases e with
  | invoke i p res =>
    cases herr : res.err with
    | none => simp [herr] at he
    | some e => exact ⟨i, p, res, e, hm, herr, by simpa [herr] using he⟩
  | _ => cases he

def down : History serverOrchestrator true none sampleText where
  deliveries := (List.range 5).map restarted
  within := by decide
  failing := by
    intro d hd
    obtain ⟨k, hk, rfl⟩ := List.mem_map.mp hd
    have hall : ∀ k ∈ List.range 5, failsTransiently (outOf serverOrchestrator true none sampleText (restarted k)) = true := by
      decide +kernel
    exact failsTransiently_spec (hall k hk)

/-- All five deliveries are attempt 0 with a delay of one second; the last one is NAKed as well, and its row says
`failed_transient`. -/
theorem five_deliveries : ¬ Accounts serverOrchestrator true none sampleText down ∧
    (∀ k ∈ List.range 5, Effect.nak second ∈ outOf serverOrchestrator true none sampleText (restarted k) ∧
      Effect.ack ∉ outOf serverOrchestrator true none sampleText (restarted k)) ∧
    ((tableAfter 5).get "t-1").map (·.status) = some "failed_transient" := by
  refine ⟨fun h => ?_, by decide +kernel, by decide +kernel⟩
  have hsecond : (0 : Int) = (1 : Nat) := h.attempt 1 (restarted 1) rfl
  exact absurd hsecond (by decide)

end PerGo.L4.RetryAccounting
