import PerGo.L3Queue.ProcessSpec

/-!
# The message worker

`Worker.processMessage` of `queue/worker.go`, and which of its paths end
with `DispatchOrchestrator.ack`, which acks and decrements: of the four ways in which a
message is acked, three do not decrement.

`settling` keeps the acks and decrements of what a call does. A call of `Process` has none,
or the two of one `ack` (`process_settling`).
-/
namespace PerGo.L3.MessageWorker

open PerGo.Core PerGo.L1 PerGo.L2

/-- The dependencies that may be nil. mirrors worker.go:21-30 -/
structure Worker where
  orchestrator : Option Orchestrator
  claimsRepo : Bool

/-- What the dependencies answer during one call. -/
structure WorkerEnv where
  /-- `json.Unmarshal` of the payload fails -/
  unmarshalErr : Bool
  /-- whether the claim was inserted -/
  createClaim : Except GoError Bool
  /-- `retryAttempt` of the headers -/
  attempt : Int
  /-- the in-memory set and the dispatch table the call finds -/
  dispatched : List String
  table : Dispatches
  process : Env

/-- What the worker does with a message, in order.
mirrors worker.go:86-138 -/
def processMessage (wk : Worker) (env : WorkerEnv) (q : QueueMessage) : List Effect :=
  if env.unmarshalErr then [.ack]
  else match wk.orchestrator with
    | none => [.ack]
    | some o =>
      if wk.claimsRepo ∧ q.workspaceID ≠ UUID.Nil ∧ env.createClaim.toOption = some false then [.ack]
      else (process o env.process ⟨env.dispatched, env.table, []⟩ q env.attempt).1.out

def skipsCounter (wk : Worker) (env : WorkerEnv) (q : QueueMessage) : Bool :=
  env.unmarshalErr || match wk.orchestrator with
    | none => true
    | some o =>
      !o.queueDepth || (wk.claimsRepo && q.workspaceID ≠ UUID.Nil && env.createClaim.toOption = some false)

/-! ## Acks and decrements -/

def settles : Effect → Bool
  | .ack => true
  | .decrement _ => true
  | _ => false

def settling (out : List Effect) : List Effect := out.filter settles

@[simp] theorem settling_nil : settling [] = [] := rfl

@[simp] theorem settling_append (a b : List Effect) : settling (a ++ b) = settling a ++ settling b := by
  simp [settling]

theorem settling_emit {e : Effect} (he : settles e = false) (w : World) : settling (w.emit e).out = settling w.out := by
  simp [settling, he]

section Process

variable (o : Orchestrator) (env : Env)

theorem audit_settling (w : World) (ws : UUID) (tr : String) (p : AuditPayload) :
    settling (audit o w ws tr p).out = settling w.out := by
  unfold audit
  split
  · exact settling_emit rfl w
  · rfl

theorem publish_settling (w : World) (ws : UUID) (tr : String) (id : UUID) (ev chan : String) (err : Option String) :
    settling (publishWebhookEvent o env w ws tr id ev chan err).out = settling w.out := by
  unfold publishWebhookEvent
  split
  · exact settling_emit rfl w
  · rfl

theorem ack_settling (w : World) (ws : UUID) : settling (ack o w ws).out = settling w.out ++ ackEffects o ws := by
  unfold ack ackEffects
  split
  · rw [World.emit_out, World.emit_out, List.append_assoc, settling_append]
    rfl
  · rw [World.emit_out, settling_append]
    rfl

/-- Between `w` and `w'` nothing was settled, or one `ack` was called. -/
def Ends (ws : UUID) (w w' : World) : Prop :=
  settling w'.out = settling w.out ∨ settling w'.out = settling w.out ++ ackEffects o ws

theorem ends_ack {ws : UUID} {w w₁ : World} (h : settling w₁.out = settling w.out) : Ends o ws w (ack o w₁ ws) :=
  .inr (by rw [ack_settling, h])

theorem ends_handleFailure {ws : UUID} {w w₁ : World} (h : settling w₁.out = settling w.out) (attempt : Int) :
    Ends o ws w (handleFailure o env w₁ ws attempt) := by
  unfold handleFailure
  split
  · exact ends_ack o ((settling_emit rfl _).trans h)
  · simp only
    split
    · exact ends_ack o ((settling_emit rfl _).trans h)
    · exact .inl ((settling_emit rfl _).trans h)

variable (q : QueueMessage)

theorem setStatus_settling (w : World) (dispatch : Option MessageDispatch) (status chan : String) (idx : Nat)
    (err : Option String) : settling (setStatus o env w q dispatch status chan idx err).out = settling w.out := by
  unfold setStatus
  cases dispatch with
  | none => rfl
  | some d =>
    simp only [publish_settling]
    split <;> rfl

theorem markSent_settling (w : World) (dispatch : Option MessageDispatch) (chan : String) (i : Nat) (resp : String) :
    settling (markSent o env w q dispatch chan i resp).out = settling w.out := by
  unfold markSent
  cases dispatch with
  | none => rfl
  | some d => simp only [publish_settling]

theorem dispatchToChannel_settling (w : World) (i : Nat) (chan : String) (q : QueueMessage) :
    settling (dispatchToChannel o env w i chan q).2.2.out = settling w.out := by
  unfold dispatchToChannel
  split
  · exact settling_emit rfl w
  · rfl

theorem beginAttempt_settling (w : World) (dispatch : Option MessageDispatch) (all : List String) (start i : Nat)
    (v : LoopVars) (chan to_ : String) :
    settling (beginAttempt o env w q dispatch all start i v chan to_).1.out = settling w.out := by
  unfold beginAttempt
  generalize hw : (if i > start then
      audit o w q.workspaceID q.traceID (.fallbackTransition
        (if v.lastAttemptedChannel = "" ∧ i > 0 then all.getD (i - 1) "" else v.lastAttemptedChannel)
        chan to_ i) else w) = w₁
  have hw₁ : settling w₁.out = settling w.out := by
    rw [← hw]
    split
    · rw [audit_settling]
    · rfl
  cases dispatch with
  | none => exact hw₁
  | some d =>
    simp only
    split
    · exact hw₁
    · rw [publish_settling]
      exact hw₁

theorem fallbackLoop_settling (attempt : Int) (dispatch : Option MessageDispatch) (all : List String) (start : Nat)
    (chans : List String) (i : Nat) (v : LoopVars) (w : World) :
    match fallbackLoop o env q attempt dispatch all start chans i v w with
    | (w', .returned _) => Ends o q.workspaceID w w'
    | (w', .finished _) => settling w'.out = settling w.out := by
  induction chans generalizing i v w with
  | nil => rfl
  | cons chan rest ih =>
    -- what the rest of the loop does, from a world that has settled as much
    have hrest : ∀ i v w₁, settling w₁.out = settling w.out →
        match fallbackLoop o env q attempt dispatch all start rest i v w₁ with
        | (w', .returned _) => Ends o q.workspaceID w w'
        | (w', .finished _) => settling w'.out = settling w.out := by
      intro i v w₁ h₁
      have h := ih i v w₁
      unfold Ends at h ⊢
      rw [h₁] at h
      exact h
    rw [fallbackLoop]
    cases resolveRecipientForChannel o env q.workspaceID q.to_ chan with
    | none => exact hrest _ _ _ (audit_settling ..)
    | some to_ =>
      have hb := beginAttempt_settling o env q w dispatch all start i
        { v with lastChannel := chan, currentIndex := i } chan to_
      simp only
      generalize beginAttempt o env w q dispatch all start i _ chan to_ = b at hb ⊢
      obtain ⟨w₁, _ | e⟩ := b
      · have hd := dispatchToChannel_settling o env w₁ i chan { q with to_ := to_, channel := chan }
        simp only
        generalize dispatchToChannel o env w₁ i chan _ = r at hd ⊢
        obtain ⟨qc, res, w₂⟩ := r
        simp only at hb hd ⊢
        cases res.err with
        | none => exact ends_ack o (by rw [audit_settling, markSent_settling, hd, hb])
        | some e =>
          simp only
          cases e.terminal with
          | true => exact hrest _ _ _ (by rw [audit_settling, hd, hb])
          | false => exact ends_handleFailure o env (by rw [audit_settling, setStatus_settling, hd, hb]) attempt
      · exact ends_handleFailure o env hb attempt

theorem processClaimed_ends {w w₀ : World} (h : settling w₀.out = settling w.out) (attempt : Int)
    (dispatch : Option MessageDispatch) :
    Ends o q.workspaceID w (processClaimed o env w₀ q attempt dispatch).1 := by
  unfold processClaimed
  split
  · exact ends_ack o h
  · generalize hw : (if q.traceID ≠ "" then { w₀ with dispatched := q.traceID :: w₀.dispatched } else w₀) = w₁
    have hw₁ : settling w₁.out = settling w.out := by
      rw [← hw]
      split <;> exact h
    simp only
    split
    · refine ends_ack o ?_
      cases dispatch with
      | none => exact hw₁
      | some d => exact (setStatus_settling ..).trans hw₁
    · split
      · exact ends_ack o hw₁
      · have hloop := fallbackLoop_settling o env q attempt dispatch (allChannels q) (startIndex dispatch)
          ((allChannels q).drop (startIndex dispatch)) (startIndex dispatch)
          ⟨none, "", startIndex dispatch, "", startIndex dispatch⟩ w₁
        generalize fallbackLoop o env q attempt dispatch (allChannels q) (startIndex dispatch)
          ((allChannels q).drop (startIndex dispatch)) (startIndex dispatch)
          ⟨none, "", startIndex dispatch, "", startIndex dispatch⟩ w₁ = res at hloop ⊢
        obtain ⟨w₂, err | v⟩ := res
        · unfold Ends at hloop ⊢
          rw [hw₁] at hloop
          exact hloop
        · exact ends_ack o ((setStatus_settling ..).trans (Eq.trans hloop hw₁))

/-- **A call of `Process`** settles nothing, or it is one `ack`. -/
theorem process_settling (attempt : Int) (w : World) : Ends o q.workspaceID w (process o env w q attempt).1 := by
  unfold process
  split
  · exact ends_ack o rfl
  split
  · split
    · exact ends_handleFailure o env rfl attempt
    · split
      · exact ends_handleFailure o env rfl attempt
      · generalize w.table.getOrCreateDispatch q.workspaceID q.traceID q.channel q.campaignID
          (if q.templateName ≠ "" then some q.templateName else none) q.variablesJSON = row
        obtain ⟨d, table⟩ := row
        simp only
        split
        · exact ends_ack o rfl
        · refine processClaimed_ends o env q ?_ attempt _
          split
          · rw [publish_settling]
          · rfl
  · exact processClaimed_ends o env q rfl attempt none

end Process

theorem processMessage_settling {wk : Worker} {env : WorkerEnv} {q : QueueMessage} (hskip : skipsCounter wk env q = false)
    (hws : q.workspaceID ≠ UUID.Nil) :
    settling (processMessage wk env q) = [] ∨
      settling (processMessage wk env q) = [.ack, .decrement q.workspaceID] := by
  unfold skipsCounter at hskip
  unfold processMessage
  cases hu : env.unmarshalErr with
  | true => simp [hu] at hskip
  | false =>
    rw [hu, Bool.false_or] at hskip
    cases ho : wk.orchestrator with
    | none => simp [ho] at hskip
    | some o =>
      simp only [ho, Bool.or_eq_false_iff, Bool.not_eq_false'] at hskip
      obtain ⟨hdepth, hclaim⟩ := hskip
      have hnot : ¬(wk.claimsRepo = true ∧ q.workspaceID ≠ UUID.Nil ∧ env.createClaim.toOption = some false) := by
        rintro ⟨h1, h2, h3⟩
        simp [h1, h2, h3] at hclaim
      have hack : ackEffects o q.workspaceID = [.ack, .decrement q.workspaceID] := by simp [ackEffects, hdepth, hws]
      simp only [Bool.false_eq_true, if_false, if_neg hnot]
      have h := process_settling o env.process q env.attempt ⟨env.dispatched, env.table, []⟩
      unfold Ends at h
      rw [hack] at h
      exact h

end PerGo.L3.MessageWorker
