import PerGo.L3Queue.JetStream
import PerGo.L4App.DispatchRun
import PerGo.L3Inbound.Processor

/-!
# Published events and the duplicate window

Both the orchestrator and the inbound processor publish with the trace id as
`Nats-Msg-Id`, so every event of a trace after the first is dropped by the
stream within its duplicate window, and `Publish` still returns nil.

* `events_kept`: the events of a run of the orchestrator are all stored when
  each call publishes none, or publishes one and the stream holds none of that
  trace; and those of one inbound event exactly when the call does not get to
  publish a flow or order event under the message's own id.
* `sending_after_queued_dropped`: already the first delivery of a message
  publishes `queued`, `sending` and `sent` under one id.

`NoEvent` and `OneEvent` say of a call, from its message, its row and what the
dependencies answer, that it publishes nothing, or one event.
-/
namespace PerGo.L4.EventDedup

open PerGo.Core PerGo.Core.DedupStream PerGo.L1 PerGo.L2 PerGo.L3 PerGo.L4.DispatchRun

/-! ## What the orchestrator publishes -/

def Effect.published : Effect → Option (String × WebhookEvent × String)
  | .publish subject payload msgID => some (subject, payload, msgID)
  | _ => none

def pubs (out : List Effect) : List (String × WebhookEvent × String) := out.filterMap Effect.published

@[simp] theorem pubs_nil : pubs [] = [] := rfl

@[simp] theorem pubs_append (a b : List Effect) : pubs (a ++ b) = pubs a ++ pubs b := by simp [pubs]

theorem pubs_emit {w : World} {e : Effect} (h : Effect.published e = none) : pubs (w.emit e).out = pubs w.out := by
  simp [pubs, h]

section Conditions

variable (o : Orchestrator) (env : Env) (q : QueueMessage)

def hasRecipient (chan : String) : Bool := (resolveRecipientForChannel o env q.workspaceID q.to_ chan).isSome

def updateFailsFirst : List String → Nat → Bool
  | [], _ => false
  | chan :: rest, i => if hasRecipient o env q chan then (env.sendingErr i).isSome else updateFailsFirst rest (i + 1)

def failsTerminally (chan : String) (i : Nat) : Bool :=
  match resolveRecipientForChannel o env q.workspaceID q.to_ chan with
  | none => false
  | some to_ =>
    registered o chan &&
      match (env.dispatch i (attemptPayload o env q chan to_)).err with
      | none => false
      | some e => e.terminal

def oneAttempt : List String → Nat → Bool
  | [], _ => false
  | chan :: rest, i =>
    if hasRecipient o env q chan then
      (env.sendingErr i).isNone && failsTerminally o env q chan i && updateFailsFirst o env q rest (i + 1)
    else oneAttempt rest (i + 1)

/-- The call ends after the row is read without an event: the trace is in the in-memory set, the row's
index is past the last channel, or the first row update fails. -/
def endsQuietly (w : World) (start : Nat) : Prop :=
  q.traceID ∈ w.dispatched ∨
  (isExpired env q = false ∧
    (start ≥ (allChannels q).length ∨ updateFailsFirst o env q ((allChannels q).drop start) start = true))

/-- The call ends after the row is read with one event: the TTL is over, no channel has a recipient, or
the second attempt's row update fails. -/
def endsWithOne (w : World) (start : Nat) : Prop :=
  q.traceID ∉ w.dispatched ∧
  (isExpired env q = true ∨
    (start < (allChannels q).length ∧
      (((allChannels q).drop start).all (fun c => !hasRecipient o env q c) = true ∨
        oneAttempt o env q ((allChannels q).drop start) start = true)))

def neverPublishes : Prop :=
  o.publisher = false ∨ o.dispatchRepo = false ∨ q.traceID = "" ∨ isPrivateNote q = true ∨
  q.workspaceID = UUID.Nil ∨ env.getOrCreateErr ≠ none

def NoEvent (w : World) : Prop :=
  neverPublishes o env q ∨
  ∃ r, w.table.get q.traceID = some r ∧
    (r.status = "sent" ∨ (r.status ≠ "queued" ∧ endsQuietly o env q w r.fallbackIndex))

def OneEvent (w : World) : Prop :=
  match w.table.get q.traceID with
  | none => endsQuietly o env q w 0
  | some r =>
    if r.status = "queued" then endsQuietly o env q w r.fallbackIndex
    else r.status ≠ "sent" ∧ endsWithOne o env q w r.fallbackIndex

end Conditions

section OneCall

variable (o : Orchestrator) (env : Env) (q : QueueMessage)

@[simp] theorem audit_pubs (w : World) (ws : UUID) (tr : String) (p : AuditPayload) :
    pubs (audit o w ws tr p).out = pubs w.out := by
  unfold audit
  split
  · exact pubs_emit rfl
  · rfl

@[simp] theorem ack_pubs (w : World) (ws : UUID) : pubs (L3.ack o w ws).out = pubs w.out := by
  unfold L3.ack
  split
  · exact (pubs_emit rfl).trans (pubs_emit rfl)
  · exact pubs_emit rfl

@[simp] theorem handleFailure_pubs (w : World) (ws : UUID) (attempt : Int) :
    pubs (handleFailure o env w ws attempt).out = pubs w.out := by
  unfold handleFailure
  split
  · rw [ack_pubs]
    exact pubs_emit rfl
  · simp only
    split
    · rw [ack_pubs]
      exact pubs_emit rfl
    · exact pubs_emit rfl

theorem publish_pubs (hp : o.publisher = true) (w : World) (ws : UUID) (tr : String) (id : UUID) (ev chan : String)
    (err : Option String) :
    ∃ e, pubs (publishWebhookEvent o env w ws tr id ev chan err).out = pubs w.out ++ [("webhooks.events", e, tr)] := by
  unfold publishWebhookEvent
  rw [if_pos hp, World.emit_out, pubs_append]
  exact ⟨_, rfl⟩

def Mute (dispatch : Option MessageDispatch) : Prop := o.publisher = false ∨ dispatch = none

theorem publish_pubs_mute (hp : o.publisher = false) (w : World) (ws : UUID) (tr : String) (id : UUID)
    (ev chan : String) (err : Option String) :
    pubs (publishWebhookEvent o env w ws tr id ev chan err).out = pubs w.out := by
  simp [publishWebhookEvent, hp]

theorem setStatus_pubs_mute {dispatch : Option MessageDispatch} (hm : Mute o dispatch) (w : World)
    (status chan : String) (idx : Nat) (err : Option String) :
    pubs (setStatus o env w q dispatch status chan idx err).out = pubs w.out := by
  unfold setStatus
  cases dispatch with
  | none => rfl
  | some d =>
    rcases hm with hp | hd
    · rw [publish_pubs_mute o env hp]
      split <;> rfl
    · cases hd

theorem setStatus_pubs (hp : o.publisher = true) (w : World) (d : MessageDispatch) (status chan : String)
    (idx : Nat) (err : Option String) :
    ∃ e, pubs (setStatus o env w q (some d) status chan idx err).out =
      pubs w.out ++ [("webhooks.events", e, q.traceID)] := by
  unfold setStatus
  obtain ⟨e, he⟩ := publish_pubs o env hp
    (if env.statusErr then w else { w with table := w.table.updateDispatchStatus d.id status chan idx err })
    q.workspaceID q.traceID d.id status chan err
  refine ⟨e, he.trans ?_⟩
  split <;> rfl

theorem markSent_pubs_mute {dispatch : Option MessageDispatch} (hm : Mute o dispatch) (w : World)
    (chan : String) (i : Nat) (resp : String) :
    pubs (markSent o env w q dispatch chan i resp).out = pubs w.out := by
  unfold markSent
  cases dispatch with
  | none => rfl
  | some d =>
    rcases hm with hp | hd
    · rw [publish_pubs_mute o env hp]
    · cases hd

theorem dispatchToChannel_pubs (w : World) (i : Nat) (chan : String) (q : QueueMessage) :
    pubs (dispatchToChannel o env w i chan q).2.2.out = pubs w.out := by
  unfold dispatchToChannel
  split
  · exact pubs_emit rfl
  · rfl

theorem beginAttempt_pubs (w : World) (dispatch : Option MessageDispatch) (all : List String) (start i : Nat)
    (v : LoopVars) (chan to_ : String) :
    (Mute o dispatch → pubs (beginAttempt o env w q dispatch all start i v chan to_).1.out = pubs w.out) ∧
    (∀ d, dispatch = some d → ∀ e, env.sendingErr i = some e →
      pubs (beginAttempt o env w q dispatch all start i v chan to_).1.out = pubs w.out ∧
      (beginAttempt o env w q dispatch all start i v chan to_).2 = some e) ∧
    (∀ d, dispatch = some d → o.publisher = true → env.sendingErr i = none →
      (∃ e, pubs (beginAttempt o env w q dispatch all start i v chan to_).1.out =
        pubs w.out ++ [("webhooks.events", e, q.traceID)]) ∧
      (beginAttempt o env w q dispatch all start i v chan to_).2 = none) := by
  unfold beginAttempt
  generalize hw : (if i > start then
      audit o w q.workspaceID q.traceID (.fallbackTransition
        (if v.lastAttemptedChannel = "" ∧ i > 0 then all.getD (i - 1) "" else v.lastAttemptedChannel)
        chan to_ i) else w) = w₁
  have hw₁ : pubs w₁.out = pubs w.out := by
    rw [← hw]
    split
    · rw [audit_pubs]
    · rfl
  cases dispatch with
  | none =>
    refine ⟨fun _ => hw₁, ?_, ?_⟩
    · intro d hd
      cases hd
    · intro d hd
      cases hd
  | some d =>
    simp only
    cases hse : env.sendingErr i with
    | some e =>
      refine ⟨fun _ => hw₁, ?_, ?_⟩
      · intro d' _ e' he'
        cases he'
        exact ⟨hw₁, rfl⟩
      · intro d' _ _ hn
        cases hn
    | none =>
      refine ⟨?_, ?_, ?_⟩
      · intro hm
        rcases hm with hp | hd
        · rw [publish_pubs_mute o env hp]
          exact hw₁
        · cases hd
      · intro d' _ e' he'
        cases he'
      · intro d' _ hp _
        obtain ⟨e, he⟩ := publish_pubs o env hp
          { w₁ with table := w₁.table.updateDispatchStatus d.id "sending" chan i none }
          q.workspaceID q.traceID d.id "sending" chan none
        exact ⟨⟨e, by rw [he]; exact congrArg (· ++ _) hw₁⟩, rfl⟩

/-! ## The loop -/

theorem fallbackLoop_mute {dispatch : Option MessageDispatch} (hm : Mute o dispatch) (attempt : Int)
    (all : List String) (start : Nat) (chans : List String) (i : Nat) (v : LoopVars) (w : World) :
    pubs (fallbackLoop o env q attempt dispatch all start chans i v w).1.out = pubs w.out := by
  induction chans generalizing i v w with
  | nil => rfl
  | cons chan rest ih =>
    rw [fallbackLoop]
    cases hres : resolveRecipientForChannel o env q.workspaceID q.to_ chan with
    | none =>
      simp only
      rw [ih, audit_pubs]
    | some to_ =>
      have hb := (beginAttempt_pubs o env q w dispatch all start i
        { v with lastChannel := chan, currentIndex := i } chan to_).1 hm
      simp only
      generalize beginAttempt o env w q dispatch all start i _ chan to_ = b at hb ⊢
      obtain ⟨w₁, _ | e⟩ := b
      · have hd := dispatchToChannel_pubs o env w₁ i chan { q with to_ := to_, channel := chan }
        simp only
        generalize dispatchToChannel o env w₁ i chan _ = r at hd ⊢
        obtain ⟨qc, res, w₂⟩ := r
        simp only at hb hd ⊢
        split
        · rw [ack_pubs, audit_pubs, markSent_pubs_mute o env q hm, hd, hb]
        · split
          · rw [ih, audit_pubs, hd, hb]
          · rw [handleFailure_pubs, audit_pubs, setStatus_pubs_mute o env q hm, hd, hb]
      · simp only
        rw [handleFailure_pubs]
        exact hb

theorem fallbackLoop_updateFails (d : MessageDispatch) (attempt : Int) (all : List String) (start : Nat)
    (chans : List String) (i : Nat) (v : LoopVars) (w : World)
    (h : updateFailsFirst o env q chans i = true) :
    pubs (fallbackLoop o env q attempt (some d) all start chans i v w).1.out = pubs w.out ∧
    ∃ err, (fallbackLoop o env q attempt (some d) all start chans i v w).2 = .returned err := by
  induction chans generalizing i v w with
  | nil => cases h
  | cons chan rest ih =>
    rw [fallbackLoop]
    simp only [updateFailsFirst, hasRecipient] at h
    cases hres : resolveRecipientForChannel o env q.workspaceID q.to_ chan with
    | none =>
      simp only [hres, Option.isSome_none, Bool.false_eq_true, if_false] at h
      obtain ⟨h1, h2⟩ := ih (i + 1) { v with lastChannel := chan, currentIndex := i, finalErr := some (noIdentityErr q.to_ chan) }
        (audit o w q.workspaceID q.traceID (.skippedNoIdentity chan q.to_ i)) h
      exact ⟨h1.trans (audit_pubs o w _ _ _), h2⟩
    | some to_ =>
      simp only [hres, Option.isSome_some, if_true] at h
      obtain ⟨e, he⟩ := Option.isSome_iff_exists.mp h
      obtain ⟨h1, h2⟩ := (beginAttempt_pubs o env q w (some d) all start i
        { v with lastChannel := chan, currentIndex := i } chan to_).2.1 d rfl e he
      simp only
      generalize beginAttempt o env w q (some d) all start i _ chan to_ = b at h1 h2 ⊢
      obtain ⟨w₁, err⟩ := b
      simp only at h1 h2 ⊢
      subst h2
      exact ⟨(handleFailure_pubs o env w₁ _ _).trans h1, _, rfl⟩

theorem fallbackLoop_noRecipient (dispatch : Option MessageDispatch) (attempt : Int) (all : List String)
    (start : Nat) (chans : List String) (i : Nat) (v : LoopVars) (w : World)
    (h : chans.all (fun c => !hasRecipient o env q c) = true) :
    pubs (fallbackLoop o env q attempt dispatch all start chans i v w).1.out = pubs w.out ∧
    ∃ v', (fallbackLoop o env q attempt dispatch all start chans i v w).2 = .finished v' := by
  induction chans generalizing i v w with
  | nil => exact ⟨rfl, v, rfl⟩
  | cons chan rest ih =>
    simp only [List.all_cons, Bool.and_eq_true] at h
    have hres : resolveRecipientForChannel o env q.workspaceID q.to_ chan = none := by
      simpa [hasRecipient] using h.1
    rw [fallbackLoop, hres]
    obtain ⟨h1, h2⟩ := ih (i + 1) { v with lastChannel := chan, currentIndex := i, finalErr := some (noIdentityErr q.to_ chan) }
      (audit o w q.workspaceID q.traceID (.skippedNoIdentity chan q.to_ i)) h.2
    exact ⟨h1.trans (audit_pubs o w _ _ _), h2⟩

theorem fallbackLoop_oneAttempt (hp : o.publisher = true) (d : MessageDispatch) (attempt : Int)
    (all : List String) (start : Nat) (chans : List String) (i : Nat) (v : LoopVars) (w : World)
    (h : oneAttempt o env q chans i = true) :
    (∃ e, pubs (fallbackLoop o env q attempt (some d) all start chans i v w).1.out =
      pubs w.out ++ [("webhooks.events", e, q.traceID)]) ∧
    ∃ err, (fallbackLoop o env q attempt (some d) all start chans i v w).2 = .returned err := by
  induction chans generalizing i v w with
  | nil => cases h
  | cons chan rest ih =>
    rw [fallbackLoop]
    simp only [oneAttempt, hasRecipient, failsTerminally] at h
    cases hres : resolveRecipientForChannel o env q.workspaceID q.to_ chan with
    | none =>
      simp only [hres, Option.isSome_none, Bool.false_eq_true, if_false] at h
      obtain ⟨⟨e, h1⟩, h2⟩ := ih (i + 1) { v with lastChannel := chan, currentIndex := i, finalErr := some (noIdentityErr q.to_ chan) }
        (audit o w q.workspaceID q.traceID (.skippedNoIdentity chan q.to_ i)) h
      exact ⟨⟨e, by rw [h1, audit_pubs]⟩, h2⟩
    | some to_ =>
      simp only [hres, Option.isSome_some, if_true, Bool.and_eq_true, Option.isNone_iff_eq_none] at h
      obtain ⟨⟨hse, hreg, hterm⟩, hrest⟩ := h
      obtain ⟨⟨e, h1⟩, h2⟩ := (beginAttempt_pubs o env q w (some d) all start i
        { v with lastChannel := chan, currentIndex := i } chan to_).2.2 d rfl hp hse
      obtain ⟨qc, res, hd, hr, _⟩ := dispatchToChannel_eq o env q
        (beginAttempt o env w q (some d) all start i { v with lastChannel := chan, currentIndex := i } chan to_).1
        i chan to_
      rw [← hr hreg] at hterm
      simp only
      generalize beginAttempt o env w q (some d) all start i _ chan to_ = b at h1 h2 hd ⊢
      obtain ⟨w₁, err⟩ := b
      simp only at h1 h2 hd ⊢
      subst h2
      simp only [hd, if_pos hreg]
      cases herr : res.err with
      | none => simp [herr] at hterm
      | some er =>
        simp only [herr] at hterm
        simp only [hterm, if_true]
        obtain ⟨h3, h4⟩ := fallbackLoop_updateFails o env q d attempt all start rest (i + 1)
          { v with lastChannel := chan, currentIndex := i, lastAttemptedChannel := chan, lastAttemptedIndex := i, finalErr := some er }
          (audit o (w₁.emit (.invoke i (attemptPayload o env q chan to_) res)) q.workspaceID q.traceID
            (.outboundMessage qc res.resp "failed" (some er.text) chan)) hrest
        exact ⟨⟨e, by rw [h3, audit_pubs, pubs_emit rfl, h1]⟩, h4⟩

/-! ## A whole call -/

theorem allChannelsFailed_pubs (hp : o.publisher = true) (w : World) (d : MessageDispatch) (v : LoopVars) :
    ∃ e, pubs (allChannelsFailed o env w q (some d) v).out = pubs w.out ++ [("webhooks.events", e, q.traceID)] := by
  unfold allChannelsFailed
  simp only [ack_pubs]
  exact setStatus_pubs o env q hp w d _ _ _ _

theorem processClaimed_mute {dispatch : Option MessageDispatch} (hm : Mute o dispatch) (w : World) (attempt : Int) :
    pubs (processClaimed o env w q attempt dispatch).1.out = pubs w.out := by
  unfold processClaimed
  split
  · exact ack_pubs o w _
  have hw₁ : pubs (if q.traceID ≠ "" then { w with dispatched := q.traceID :: w.dispatched } else w).out =
      pubs w.out := by
    split <;> rfl
  generalize (if q.traceID ≠ "" then { w with dispatched := q.traceID :: w.dispatched } else w) = w₁ at hw₁ ⊢
  simp only
  split
  · rw [ack_pubs, ← hw₁]
    cases dispatch with
    | none => rfl
    | some d => exact setStatus_pubs_mute o env q hm w₁ _ _ _ _
  split
  · rw [ack_pubs, hw₁]
  · have hl := fallbackLoop_mute o env q hm attempt (allChannels q) (startIndex dispatch)
      ((allChannels q).drop (startIndex dispatch)) (startIndex dispatch)
      ⟨none, "", startIndex dispatch, "", startIndex dispatch⟩ w₁
    generalize fallbackLoop o env q attempt dispatch _ _ _ _ _ w₁ = r at hl ⊢
    obtain ⟨w₂, exit | v⟩ := r
    · exact hl.trans hw₁
    · simp only [allChannelsFailed, ack_pubs]
      rw [setStatus_pubs_mute o env q hm]
      exact hl.trans hw₁

theorem processClaimed_pubs (ht : q.traceID ≠ "") (hp : o.publisher = true) (w : World) (attempt : Int)
    (d : MessageDispatch) :
    (endsQuietly o env q w d.fallbackIndex →
      pubs (processClaimed o env w q attempt (some d)).1.out = pubs w.out) ∧
    (endsWithOne o env q w d.fallbackIndex →
      ∃ e, pubs (processClaimed o env w q attempt (some d)).1.out =
        pubs w.out ++ [("webhooks.events", e, q.traceID)]) := by
  unfold processClaimed
  by_cases hdup : q.traceID ∈ w.dispatched
  · rw [if_pos ⟨ht, hdup⟩]
    exact ⟨fun _ => ack_pubs o w _, fun h => absurd hdup h.1⟩
  rw [if_neg (fun h => hdup h.2)]
  simp only [if_pos ht, startIndex]
  generalize hw : { w with dispatched := q.traceID :: w.dispatched } = w₁
  have hw₁ : pubs w₁.out = pubs w.out := by rw [← hw]
  rw [← hw₁]
  unfold endsQuietly endsWithOne
  cases hexp : isExpired env q with
  | true =>
    rw [if_pos rfl]
    refine ⟨?_, ?_⟩
    · intro h
      rcases h with h | ⟨h, _⟩
      · exact absurd h hdup
      · cases h
    · intro _
      obtain ⟨e, he⟩ := setStatus_pubs o env q hp w₁ d "failed" d.currentChannel d.fallbackIndex
        (some "message expired (TTL)")
      exact ⟨e, (ack_pubs o _ _).trans he⟩
  | false =>
    rw [if_neg (by decide)]
    by_cases hlen : d.fallbackIndex ≥ (allChannels q).length
    · rw [if_pos hlen]
      refine ⟨fun _ => ack_pubs o w₁ _, ?_⟩
      intro h
      rcases h.2 with h | ⟨h, _⟩
      · cases h
      · omega
    rw [if_neg hlen]
    have hupdate := fallbackLoop_updateFails o env q d attempt (allChannels q) d.fallbackIndex
      ((allChannels q).drop d.fallbackIndex) d.fallbackIndex ⟨none, "", d.fallbackIndex, "", d.fallbackIndex⟩ w₁
    have hnobody := fallbackLoop_noRecipient o env q (some d) attempt (allChannels q) d.fallbackIndex
      ((allChannels q).drop d.fallbackIndex) d.fallbackIndex ⟨none, "", d.fallbackIndex, "", d.fallbackIndex⟩ w₁
    have hone := fallbackLoop_oneAttempt o env q hp d attempt (allChannels q) d.fallbackIndex
      ((allChannels q).drop d.fallbackIndex) d.fallbackIndex ⟨none, "", d.fallbackIndex, "", d.fallbackIndex⟩ w₁
    generalize fallbackLoop o env q attempt (some d) _ _ _ _ _ w₁ = r at hupdate hnobody hone ⊢
    obtain ⟨w₂, exit⟩ := r
    refine ⟨?_, ?_⟩
    · intro h
      rcases h with h | ⟨_, h | h⟩
      · exact absurd h hdup
      · exact absurd h hlen
      · obtain ⟨h1, err, rfl⟩ := hupdate h
        exact h1
    · intro h
      rcases h.2 with h | ⟨_, h | h⟩
      · cases h
      · obtain ⟨h1, v, rfl⟩ := hnobody h
        obtain ⟨e, he⟩ := allChannelsFailed_pubs o env q hp w₂ d v
        exact ⟨e, by rw [← h1]; exact he⟩
      · obtain ⟨⟨e, h1⟩, err, rfl⟩ := hone h
        exact ⟨e, h1⟩

theorem process_eq (hn : ¬ neverPublishes o env q) (w : World) (attempt : Int) :
    process o env w q attempt =
      (let r := w.table.getOrCreateDispatch q.workspaceID q.traceID q.channel q.campaignID
        (if q.templateName ≠ "" then some q.templateName else none) q.variablesJSON
      if r.1.status = "sent" then (L3.ack o { w with table := r.2 } q.workspaceID, none)
      else processClaimed o env
        (if r.1.status = "queued" then
          publishWebhookEvent o env { w with table := r.2 } q.workspaceID q.traceID r.1.id "queued" q.channel none
          else { w with table := r.2 }) q attempt (some r.1)) := by
  simp only [neverPublishes, not_or] at hn
  obtain ⟨_, hrepo, ht, hpriv, hws, hget⟩ := hn
  unfold process
  rw [if_neg hpriv, if_pos ⟨by simpa using hrepo, ht⟩, if_neg hws]
  cases hg : env.getOrCreateErr with
  | some e => exact absurd hg (by rw [not_not.mp hget]; simp)
  | none => rfl

theorem process_never (hn : neverPublishes o env q) (w : World) (attempt : Int) :
    pubs (process o env w q attempt).1.out = pubs w.out := by
  unfold process
  split
  · exact ack_pubs o w _
  rename_i hpriv
  split
  · rename_i hrepo
    split
    · exact handleFailure_pubs o env w _ _
    rename_i hws
    split
    · exact handleFailure_pubs o env w _ _
    · rename_i hget
      -- only the missing publisher is left
      have hp : o.publisher = false := by
        rcases hn with h | h | h | h | h | h
        · exact h
        · rw [hrepo.1] at h; cases h
        · exact absurd h hrepo.2
        · exact absurd h hpriv
        · exact absurd h hws
        · exact absurd hget h
      generalize w.table.getOrCreateDispatch q.workspaceID q.traceID q.channel q.campaignID _ _ = r
      simp only
      split
      · rw [ack_pubs]
      · rw [processClaimed_mute o env q (Or.inl hp)]
        split
        · rw [publish_pubs_mute o env hp]
        · rfl
  · exact processClaimed_mute o env q (Or.inr rfl) w attempt

/-- **What a call publishes**, when it publishes at most one event. -/
theorem process_noEvent {w : World} (h : NoEvent o env q w) (attempt : Int) :
    pubs (process o env w q attempt).1.out = pubs w.out := by
  by_cases hn : neverPublishes o env q
  · exact process_never o env q hn w attempt
  rw [process_eq o env q hn]
  rcases h with h | ⟨r, hr, h⟩
  · exact absurd h hn
  simp only [Dispatches.getOrCreate_of_some hr]
  simp only [neverPublishes, not_or] at hn
  rcases h with h | ⟨hq, h⟩
  · rw [if_pos h]
    exact ack_pubs o _ _
  · simp only [if_neg hq]
    by_cases hs : r.status = "sent"
    · rw [if_pos hs]
      exact ack_pubs o _ _
    · rw [if_neg hs]
      exact (processClaimed_pubs o env q hn.2.2.1 (by simpa using hn.1) _ attempt r).1 h

theorem process_oneEvent {w : World} (hn : ¬ neverPublishes o env q) (h : OneEvent o env q w) (attempt : Int) :
    ∃ e, pubs (process o env w q attempt).1.out = pubs w.out ++ [("webhooks.events", e, q.traceID)] := by
  rw [process_eq o env q hn]
  simp only [neverPublishes, not_or] at hn
  have hp : o.publisher = true := by simpa using hn.1
  -- a queued row: its event, then nothing more
  have hqueued : ∀ (w' : World) (r : MessageDispatch), w'.out = w.out → w'.dispatched = w.dispatched →
      r.status = "queued" → endsQuietly o env q w r.fallbackIndex →
      ∃ e, pubs (processClaimed o env
        (publishWebhookEvent o env w' q.workspaceID q.traceID r.id "queued" q.channel none) q attempt
        (some r)).1.out = pubs w.out ++ [("webhooks.events", e, q.traceID)] := by
    intro w' r hout hdis _ hends
    obtain ⟨e, he⟩ := publish_pubs o env hp w' q.workspaceID q.traceID r.id "queued" q.channel none
    refine ⟨e, ?_⟩
    rw [(processClaimed_pubs o env q hn.2.2.1 hp _ attempt r).1, he, hout]
    unfold endsQuietly at hends ⊢
    rwa [publish_dispatched, hdis]
  unfold OneEvent at h
  cases hr : w.table.get q.traceID with
  | none =>
    simp only [hr] at h
    simp only [Dispatches.getOrCreate_of_none hr]
    have hst : (w.table.newRow q.workspaceID q.traceID q.channel q.campaignID
        (if q.templateName ≠ "" then some q.templateName else none) q.variablesJSON).status = "queued" := rfl
    rw [if_neg (by rw [hst]; decide), if_pos hst]
    exact hqueued _ _ rfl rfl hst h
  | some r =>
    simp only [hr] at h
    simp only [Dispatches.getOrCreate_of_some hr]
    by_cases hq : r.status = "queued"
    · rw [if_pos hq] at h
      rw [if_neg (by rw [hq]; decide), if_pos hq]
      exact hqueued _ r rfl rfl hq h
    · rw [if_neg hq] at h
      rw [if_neg h.1, if_neg hq]
      exact (processClaimed_pubs o env q hn.2.2.1 hp _ attempt r).2 h.2

end OneCall

/-! ## Runs of the orchestrator -/

def callEvents (c : Call) : List (Msg WebhookEvent) :=
  (pubs c.out).map fun e => publishMsg e.1 e.2.1 e.2.2 c.env.now

/-- Everything a run published, in order. -/
def events (log : List Call) : List (Msg WebhookEvent) := log.flatMap callEvents

section Runs

variable (o : Orchestrator)

/-- The delivery publishes nothing, or one event of a trace of which the stream took none within the
duplicate window. -/
def KeepsEvents (s : St) : Lbl → Prop
  | .deliver q _ env =>
    NoEvent o env q s.world ∨
    (OneEvent o env q s.world ∧
      ∀ m ∈ events s.log, m.id = some q.traceID → env.now - m.time ≥ duplicateWindow)
  | _ => True

theorem noClash_deliver {s : St} {q : QueueMessage} {attempt : Int} {env : Env}
    (hk : KeepsEvents o s (.deliver q attempt env)) (hs : NoClash duplicateWindow (events s.log)) :
    NoClash duplicateWindow (events (deliver o s q attempt env).log) := by
  have hlog : events (deliver o s q attempt env).log = events s.log ++
      (pubs (process o env s.world q attempt).1.out).map fun e => publishMsg e.1 e.2.1 e.2.2 env.now := by
    simp [events, deliver, callEvents]
  rw [hlog]
  have hnone : NoEvent o env q s.world → NoClash duplicateWindow (events s.log ++
      (pubs (process o env s.world q attempt).1.out).map fun e => publishMsg e.1 e.2.1 e.2.2 env.now) := by
    intro hn
    rw [process_noEvent o env q hn]
    simpa [St.world] using hs
  rcases hk with hn | ⟨hone, hwin⟩
  · exact hnone hn
  by_cases hnev : neverPublishes o env q
  · exact hnone (Or.inl hnev)
  obtain ⟨e, he⟩ := process_oneEvent o env q hnev hone attempt
  rw [he]
  refine List.pairwise_append.mpr ⟨hs, List.pairwise_singleton _ _, ?_⟩
  intro m hm m' hm' hclash
  have heq : m' = publishMsg "webhooks.events" e q.traceID env.now := by simpa [St.world] using hm'
  obtain ⟨_, ⟨_, hid, hsame, htime⟩, _⟩ := hclash
  rw [heq] at hid hsame htime
  simp only [publishMsg] at hid hsame htime
  split at hsame
  · exact absurd htime (not_lt.mpr (hwin m hm hsame))
  · rename_i hempty
    rw [if_neg hempty] at hid
    exact hid rfl

theorem keepsEvents_inductive :
    ((sys o).restrict (KeepsEvents o)).Inductive fun s => NoClash duplicateWindow (events s.log) := by
  refine LTS.Inductive.of_restrict ?_ ?_
  · intro s hs
    cases hs
    exact List.Pairwise.nil
  · intro s l s' hs hk hst
    cases l with
    | enqueue q => cases hst; exact hs
    | restart => cases hst; exact hs
    | statusUpdate pid body => cases hst; exact hs
    | deliver q attempt env =>
      simp only [sys, LTS.ofFn, step] at hst
      split at hst
      · cases hst
        exact noClash_deliver o hk hs
      · cases hst

end Runs

/-! ## What the inbound processor publishes -/

theorem streamOf_inboundSubject (ws : UUID) : streamOf (inboundSubject ws) ≠ none := by
  have hm : subjectMatches "inbound.events.>" (inboundSubject ws) = true :=
    subjectMatches_below (by decide) (by decide) ws.string_ne_empty
  generalize inboundSubject ws = subject at hm
  unfold streamOf
  rw [Ne, Option.map_eq_none_iff]
  intro hf
  refine List.find?_eq_none.mp hf ("INBOUND", ["inbound.events.>", "messages.events.>"]) ?_ ?_
  · decide
  · simp only [List.any_cons, hm, Bool.true_or]

def InEffect.published : InEffect → Option (String × InPayload × String)
  | .publish subject payload msgID _ => some (subject, payload, msgID)
  | _ => none

def inPubs (out : List InEffect) : List (String × InPayload × String) := out.filterMap InEffect.published

/-- Everything one call published, in order. -/
def inboundEvents (env : InEnv) (out : List InEffect) : List (Msg InPayload) :=
  (inPubs out).map fun e => publishMsg e.1 e.2.1 e.2.2 env.now

theorem inPubs_emit {w : InWorld} {e : InEffect} (h : InEffect.published e = none) :
    inPubs (w.emit e).out = inPubs w.out := by
  simp [inPubs, InWorld.emit, h]

theorem inPubs_emit_ite {w : InWorld} {e : InEffect} (h : InEffect.published e = none) (c : Bool) :
    inPubs (if c then w.emit e else w).out = inPubs w.out := by
  cases c with
  | true => exact inPubs_emit h
  | false => rfl

section Inbound

variable (p : InboundProcessor) (env : InEnv) (ev : InboundEvent)

theorem auditEffect_pubs (w : InWorld) (ws : UUID) (trace action : String) (payload : InPayload) :
    inPubs (auditEffect p w ws trace action payload).out = inPubs w.out :=
  inPubs_emit_ite rfl _

theorem publishEffect_pubs (w : InWorld) (subject : String) (payload : InPayload) (msgID : String) (ok : Bool) :
    (inPubs (publishEffect p w subject payload msgID ok).out).length ≤ (inPubs w.out).length + 1 := by
  unfold publishEffect
  split
  · simp [inPubs, InWorld.emit, InEffect.published]
  · omega

theorem processReaction_pubs (w : InWorld) (trace : String) (r : InboundReaction) :
    (inPubs (processReaction p env ev w trace r).out).length ≤ (inPubs w.out).length + 1 := by
  unfold processReaction
  simp only [auditEffect_pubs, inPubs_emit_ite (e := InEffect.dispatchReaction _ _ _ _) rfl]
  exact publishEffect_pubs p w _ _ _ _

theorem processStatusUpdate_pubs (w : InWorld) (trace : String) :
    (inPubs (processStatusUpdate p env ev w trace).1.out).length ≤ (inPubs w.out).length + 1 := by
  unfold processStatusUpdate
  split
  · simp
  split
  · simp
  split
  · simp
  split
  · simp
  simp only
  split
  · simp
  split
  · exact publishEffect_pubs p _ _ _ _ _
  · exact publishEffect_pubs p _ _ _ _ _

theorem forwardMessage_pubs (w : InWorld) (trace uid : String) (contact : Option UUID) (receipt : Option Receipt) :
    inPubs (forwardMessage p ev w trace uid contact receipt).out = inPubs w.out := by
  unfold forwardMessage
  cases contact with
  | none => rfl
  | some c =>
    cases receipt with
    | none => exact inPubs_emit_ite rfl _
    | some r => exact (inPubs_emit_ite rfl _).trans (inPubs_emit_ite rfl _)

theorem recordActivity_out (w : InWorld) (contact : Option UUID) (uid : String) :
    (recordActivity p env ev w contact uid).2.out = w.out := by
  unfold recordActivity
  cases contact with
  | none => rfl
  | some c =>
    simp only
    split
    · unfold recorderInbound
      simp only
      split
      · rfl
      split
      · rfl
      split
      · rfl
      split <;> rfl
    · rfl

def publishSucceeds : Prop := p.publisher = true ∧ env.marshalErr = none ∧ env.publishErr = none

def passesDedup (w : InWorld) : Prop :=
  dedupActive p ev = true → env.dedupErr = none ∧ (ev.workspaceID, ev.channel, ev.messageID) ∉ w.dedups

def alreadyInChat (w : InWorld) : Prop :=
  p.activity = true ∧ (resolvedContact p env).isSome = true ∧
  trimSpace (messageUID ev (traceOf env ev)) ≠ "" ∧ env.activityErr = none ∧
  (ev.workspaceID, trimSpace (messageUID ev (traceOf env ev))) ∈ w.messages

/-- The call publishes its `inbound_message` event. -/
structure ReachesPublish (w : InWorld) : Prop where
  workspace : ev.workspaceID ≠ UUID.Nil
  noReaction : ev.reaction = none
  noStatus : ev.metadata.get "type" ≠ "status_update"
  dedup : passesDedup p env ev w
  chat : ¬ alreadyInChat p env ev w
  content : payloadEmpty (buildPayload p env ev (traceOf env ev) (occurredAtOf env ev)
    (uploadMedia p env ev w (messageUID ev (traceOf env ev))) none) = false
  publish : publishSucceeds p env

/-- The flow or order event of the message carries the message's own id. -/
def sharesID : Prop :=
  traceOf env ev ≠ "" ∧ ∃ second, secondEvent env ev (traceOf env ev) = some (second, traceOf env ev)

def companion (trace : String) : List (String × InPayload × String) :=
  match secondEvent env ev trace with
  | none => []
  | some (second, id) => [(inboundSubject ev.workspaceID, second, id)]

theorem publishMessage_pubs (w : InWorld) (trace : String) (payload : InboundEventPayload) :
    (publishSucceeds p env →
      inPubs (publishMessage p env ev w trace payload).1.out =
        inPubs w.out ++ (inboundSubject ev.workspaceID, .inboundMessage payload, trace) :: companion env ev trace ∧
      (publishMessage p env ev w trace payload).2 = none) ∧
    (¬ publishSucceeds p env →
      (inPubs (publishMessage p env ev w trace payload).1.out).length ≤ (inPubs w.out).length + 1) := by
  unfold publishSucceeds publishMessage
  cases hp : p.publisher with
  | false => exact ⟨fun h => absurd h.1 (by decide), fun _ => by simp⟩
  | true =>
  cases hm : env.marshalErr with
  | some e => exact ⟨fun h => absurd h.2.1 (by simp), fun _ => by simp⟩
  | none =>
  cases hpub : env.publishErr with
  | some e =>
    refine ⟨fun h => absurd h.2.2 (by simp), fun _ => ?_⟩
    simp [inPubs, InWorld.emit, InEffect.published]
  | none =>
    refine ⟨fun _ => ?_, fun h => absurd ⟨rfl, rfl, rfl⟩ h⟩
    have hfirst : inPubs (auditEffect p (w.emit (.publish (inboundSubject ev.workspaceID)
        (.inboundMessage payload) trace true)) ev.workspaceID trace "inbound_message"
        (.inboundMessage payload)).out =
        inPubs w.out ++ [(inboundSubject ev.workspaceID, .inboundMessage payload, trace)] := by
      rw [auditEffect_pubs]
      simp [inPubs, InWorld.emit, InEffect.published]
    unfold companion
    simp only [Bool.not_true, Bool.false_eq_true, if_false]
    cases secondEvent env ev trace with
    | none => exact ⟨hfirst, rfl⟩
    | some second =>
      refine ⟨?_, rfl⟩
      rw [show ∀ w' : InWorld, ∀ e, (w'.emit e).out = w'.out ++ [e] from fun _ _ => rfl]
      simp only [inPubs, List.filterMap_append] at hfirst ⊢
      rw [hfirst]
      simp [InEffect.published]

theorem finishMessage_pubs (w : InWorld) (trace uid : String) (uploaded : Option EventMedia)
    (receipt : Option Receipt) :
    (payloadEmpty (buildPayload p env ev trace (occurredAtOf env ev) uploaded receipt) = false →
      publishSucceeds p env →
      ∃ payload, inPubs (finishMessage p env ev w trace uid uploaded receipt).1.out =
        inPubs w.out ++ (inboundSubject ev.workspaceID, .inboundMessage payload, trace) :: companion env ev trace) ∧
    (payloadEmpty (buildPayload p env ev trace (occurredAtOf env ev) uploaded receipt) = true ∨
        ¬ publishSucceeds p env →
      (inPubs (finishMessage p env ev w trace uid uploaded receipt).1.out).length ≤ (inPubs w.out).length + 1) := by
  simp only [finishMessage]
  generalize buildPayload p env ev trace (occurredAtOf env ev) uploaded receipt = payload
  cases hempty : payloadEmpty payload with
  | true => exact ⟨fun h => absurd h (by decide), fun _ => by simp⟩
  | false =>
    obtain ⟨h1, h2⟩ := publishMessage_pubs p env ev w trace payload
    rw [if_neg (by decide)]
    generalize publishMessage p env ev w trace payload = r at h1 h2 ⊢
    obtain ⟨w₁, err⟩ := r
    refine ⟨?_, ?_⟩
    · intro _ hs
      obtain ⟨hpubs, herr⟩ := h1 hs
      simp only at herr
      subst herr
      exact ⟨payload, (forwardMessage_pubs p ev w₁ _ _ _ _).trans hpubs⟩
    · intro h
      rcases h with h | h
      · cases h
      · cases err with
        | some e => exact h2 h
        | none =>
          simp only
          rw [forwardMessage_pubs]
          exact h2 h

theorem recordActivity_duplicate_iff (w : InWorld) :
    (recordActivity p env ev w (resolvedContact p env) (messageUID ev (traceOf env ev))).1 = some .duplicate ↔
      alreadyInChat p env ev w := by
  unfold recordActivity alreadyInChat
  generalize messageUID ev (traceOf env ev) = uid
  cases resolvedContact p env with
  | none => simp
  | some c =>
    cases p.activity with
    | false => simp
    | true =>
      simp only [if_true, recorderInbound]
      by_cases hu : trimSpace uid = ""
      · simp [hu]
      cases env.activityErr with
      | some e => simp [hu]
      | none =>
        by_cases hd : (ev.workspaceID, trimSpace uid) ∈ w.messages
        · simp [hu, hd]
        · by_cases hg : trimSpace uid ∈ w.messages.map (·.2)
          · simp only [if_neg hu, if_neg hd, if_pos hg]
            simp [hd]
          · simp only [if_neg hu, if_neg hd, if_neg hg]
            simp [hd]

theorem payloadEmpty_receipt (trace : String) (t : Time) (uploaded : Option EventMedia)
    (receipt : Option Receipt) :
    payloadEmpty (buildPayload p env ev trace t uploaded receipt) =
      payloadEmpty (buildPayload p env ev trace t uploaded none) := rfl

/-- **What a call publishes.** -/
theorem processInbound_pubs {w : InWorld} (hw : w.out = []) :
    (ReachesPublish p env ev w →
      ∃ payload, inPubs (processInbound p env ev w).1.out =
        (inboundSubject ev.workspaceID, .inboundMessage payload, traceOf env ev) ::
          companion env ev (traceOf env ev)) ∧
    (¬ ReachesPublish p env ev w → (inPubs (processInbound p env ev w).1.out).length ≤ 1) := by
  have h0 : inPubs w.out = [] := by rw [hw]; rfl
  unfold processInbound
  by_cases hws : ev.workspaceID = UUID.Nil
  · rw [if_pos hws]
    exact ⟨fun h => absurd hws h.workspace, fun _ => by simp [h0]⟩
  rw [if_neg hws]
  cases hr : ev.reaction with
  | some r =>
    refine ⟨fun h => absurd (hr.symm.trans h.noReaction) (by simp), fun _ => ?_⟩
    simpa [h0] using processReaction_pubs p env ev w (traceOf env ev) r
  | none =>
  simp only
  by_cases hst : ev.metadata.get "type" = "status_update"
  · rw [if_pos hst]
    refine ⟨fun h => absurd hst h.noStatus, fun _ => ?_⟩
    simpa [h0] using processStatusUpdate_pubs p env ev w (traceOf env ev)
  rw [if_neg hst]
  unfold processMessage
  -- the dedup insert leaves everything but its own table
  have hdedup : (¬ passesDedup p env ev w ∧
        ((∃ e, dedupCheck p env ev w = .failed e) ∨ dedupCheck p env ev w = .duplicate)) ∨
      (passesDedup p env ev w ∧ ∃ w₁, dedupCheck p env ev w = .proceed w₁ ∧ w₁.messages = w.messages ∧
        w₁.out = w.out) := by
    unfold passesDedup dedupCheck
    cases dedupActive p ev with
    | false => exact Or.inr ⟨fun h => absurd h (by decide), w, rfl, rfl, rfl⟩
    | true =>
      cases env.dedupErr with
      | some e => exact Or.inl ⟨fun h => absurd (h rfl).1 (by simp), Or.inl ⟨_, rfl⟩⟩
      | none =>
        by_cases hin : (ev.workspaceID, ev.channel, ev.messageID) ∈ w.dedups
        · simp only [if_true, if_pos hin]
          exact Or.inl ⟨fun h => (h trivial).2 hin, Or.inr trivial⟩
        · simp only [if_true, if_neg hin]
          exact Or.inr ⟨fun _ => ⟨trivial, hin⟩, _, rfl, rfl, rfl⟩
  rcases hdedup with ⟨hnot, ⟨e, hd⟩ | hd⟩ | ⟨hpass, w₁, hd, hmsgs, hout⟩
  · simp only [hd]
    exact ⟨fun h => absurd h.dedup hnot, fun _ => by simp [h0]⟩
  · simp only [hd]
    exact ⟨fun h => absurd h.dedup hnot, fun _ => by simp [h0]⟩
  simp only [hd]
  have hup : uploadMedia p env ev w₁ (messageUID ev (traceOf env ev)) =
      uploadMedia p env ev w (messageUID ev (traceOf env ev)) := by
    unfold uploadMedia
    rw [hmsgs]
  have hdupl := recordActivity_duplicate_iff p env ev w₁
  have hra := recordActivity_out p env ev w₁ (resolvedContact p env) (messageUID ev (traceOf env ev))
  have hchat : alreadyInChat p env ev w₁ ↔ alreadyInChat p env ev w := by
    unfold alreadyInChat
    rw [hmsgs]
  generalize recordActivity p env ev w₁ (resolvedContact p env) (messageUID ev (traceOf env ev)) = ra at hdupl hra ⊢
  obtain ⟨result, w₂⟩ := ra
  simp only at hdupl hra ⊢
  have h2 : inPubs w₂.out = [] := by rw [hra, hout, h0]
  by_cases hdup : result = some .duplicate
  · rw [if_pos hdup]
    exact ⟨fun h => absurd (hchat.mp (hdupl.mp hdup)) h.chat, fun _ => by simp [h2]⟩
  rw [if_neg hdup, hup]
  obtain ⟨hyes, hno⟩ := finishMessage_pubs p env ev w₂ (traceOf env ev) (messageUID ev (traceOf env ev))
    (uploadMedia p env ev w (messageUID ev (traceOf env ev))) (result.bind ActivityResult.receipt)
  rw [payloadEmpty_receipt] at hyes hno
  rw [h2] at hyes hno
  refine ⟨?_, ?_⟩
  · intro h
    simpa using hyes h.content h.publish
  · intro h
    refine hno ?_
    by_cases hempty : payloadEmpty (buildPayload p env ev (traceOf env ev) (occurredAtOf env ev)
        (uploadMedia p env ev w (messageUID ev (traceOf env ev))) none) = true
    · exact Or.inl hempty
    · refine Or.inr fun hs => h ⟨hws, hr, hst, hpass, ?_, by simpa using hempty, hs⟩
      exact fun hc => hdup (hdupl.mpr (hchat.mpr hc))

/-- No event is swallowed: no two publishes clash, and every payload is stored. -/
def EventsKept {π : Type} (msgs : List (Msg π)) : Prop :=
  NoClash duplicateWindow msgs ∧ AllStored duplicateWindow msgs

theorem eventsKept_iff {π : Type} {msgs : List (Msg π)} : EventsKept msgs ↔ NoClash duplicateWindow msgs :=
  ⟨fun h => h.1, fun h => ⟨h, stored_of_noClash duplicateWindow h⟩⟩

theorem noClash_of_length {π : Type} {window : Int} {msgs : List (Msg π)} (h : msgs.length ≤ 1) :
    NoClash window msgs := by
  match msgs, h with
  | [], _ => exact List.Pairwise.nil
  | [m], _ => exact List.pairwise_singleton _ _

theorem secondEvent_ne {trace : String} {second : InPayload} {id : String}
    (h : secondEvent env ev trace = some (second, id)) (payload : InboundEventPayload) :
    InPayload.inboundMessage payload ≠ second := by
  unfold secondEvent at h
  repeat' split at h
  all_goals cases h
  all_goals exact fun he => by cases he

theorem inbound_noClash_iff {w : InWorld} (hw : w.out = []) :
    NoClash duplicateWindow (inboundEvents env (processInbound p env ev w).1.out) ↔
      ¬ (ReachesPublish p env ev w ∧ sharesID env ev) := by
  obtain ⟨hyes, hno⟩ := processInbound_pubs p env ev hw
  unfold inboundEvents
  by_cases hr : ReachesPublish p env ev w
  · obtain ⟨payload, hp⟩ := hyes hr
    rw [hp]
    unfold companion sharesID
    cases hs : secondEvent env ev (traceOf env ev) with
    | none =>
      refine ⟨fun _ h => ?_, fun _ => noClash_of_length (by simp)⟩
      obtain ⟨_, _, _, h⟩ := h
      cases h
    | some pair =>
      obtain ⟨other, id⟩ := pair
      have hne := secondEvent_ne env ev hs payload
      simp only [List.map_cons, List.map_nil, NoClash, List.pairwise_cons, List.mem_singleton, forall_eq,
        List.not_mem_nil, false_imp_iff, implies_true, List.Pairwise.nil, and_true]
      refine not_congr ?_
      constructor
      · rintro ⟨_, ⟨_, hid, hsame, _⟩, _⟩
        simp only [publishMsg] at hid hsame
        by_cases hempty : id = ""
        · simp [hempty] at hid
        · rw [if_pos hempty] at hsame
          split at hsame
          · rename_i htr
            exact ⟨hr, htr, other, by rw [Option.some.inj hsame]⟩
          · cases hsame
      · rintro ⟨_, htr, other', hpair⟩
        obtain ⟨_, rfl⟩ := Prod.mk.inj (Option.some.inj hpair)
        have htop := streamOf_inboundSubject ev.workspaceID
        generalize inboundSubject ev.workspaceID = subject at htop ⊢
        refine ⟨htop, ⟨rfl, ?_, rfl, ?_⟩, hne⟩
        · simp [publishMsg, htr]
        · simp [publishMsg, duplicateWindow, second]
  · exact ⟨fun _ h => hr h.1, fun _ => noClash_of_length (by simpa using hno hr)⟩

end Inbound

/-- **No event is swallowed**, in every run of the orchestrator whose calls publish nothing, or one event
of a trace of which the stream holds none; and for one inbound event exactly when no flow or order event
goes out under the message's own id. -/
theorem events_kept (o : Orchestrator) (p : InboundProcessor) :
    (∀ s, ((sys o).restrict (KeepsEvents o)).Reachable s → EventsKept (events s.log)) ∧
    (∀ env ev w, w.out = [] →
      (EventsKept (inboundEvents env (processInbound p env ev w).1.out) ↔
        ¬ (ReachesPublish p env ev w ∧ sharesID env ev))) := by
  refine ⟨?_, ?_⟩
  · intro s hs
    exact eventsKept_iff.mpr ((keepsEvents_inductive o).reachable hs)
  · intro env ev w hw
    rw [eventsKept_iff]
    exact inbound_noClash_iff p env ev hw

/-- The row update to `sending` fails. -/
def updateFails : Env := { accepts with sendingErr := fun _ => some ⟨"connection reset", false⟩ }

/-- A call that ends after `queued`: its one event is stored. -/
theorem events_kept_queued :
    ∃ s, ((sys serverOrchestrator).restrict (KeepsEvents serverOrchestrator)).Reachable s ∧
      (stored duplicateWindow (events s.log)).map (·.payload.event) = ["queued"] ∧ EventsKept (events s.log) := by
  obtain ⟨s, hs⟩ : ∃ s, LTS.exec (step serverOrchestrator) init
      [.enqueue sampleText, .deliver sampleText 0 updateFails] = some s := ⟨_, rfl⟩
  have hr := LTS.exec_restrict_reachable hs (G := KeepsEvents serverOrchestrator) (by
    refine ⟨trivial, ?_⟩
    intro s' hs'
    cases hs'
    refine ⟨Or.inr ⟨?_, fun m hm => by cases hm⟩, fun _ _ => trivial⟩
    exact Or.inr ⟨by decide, Or.inr (by decide +kernel)⟩)
  refine ⟨s, hr, ?_, (events_kept serverOrchestrator serverInboundProcessor).1 s hr⟩
  cases hs
  decide +kernel

def flowReply : InboundEvent :=
  { workspaceID := 7, connectionID := 3, messageID := "wamid.in.2", traceID := "t-2",
    channel := "whatsapp_cloud", from_ := "5511999990000", to_ := "5511888880000", body := "",
    media := none, location := none, contacts := [],
    interactive := some ⟨"nfm_reply", none, none, some ⟨"flow", "Sent", "", "token", "DONE", []⟩, none⟩,
    story := none, reaction := none, senderName := "Ana", occurredAt := 0, entryPointType := "",
    metadata := [] }

def afterFirstDelivery : St :=
  deliver serverOrchestrator { init with pending := [sampleText] } sampleText 0 accepts

def afterFlowReply : List (Msg InPayload) :=
  inboundEvents inboundAnswers (processInbound serverInboundProcessor inboundAnswers flowReply
    ⟨[], [], Dispatches.empty, []⟩).1.out

/-- Of `queued`, `sending` and `sent` the stream keeps only `queued`; of a flow submission only the
message. -/
theorem sending_after_queued_dropped :
    (sys serverOrchestrator).Reachable afterFirstDelivery ∧
    (events afterFirstDelivery.log).map (·.payload.event) = ["queued", "sending", "sent"] ∧
    (stored duplicateWindow (events afterFirstDelivery.log)).map (·.payload.event) = ["queued"] ∧
    ¬ EventsKept (events afterFirstDelivery.log) ∧
    afterFlowReply.length = 2 ∧ (stored duplicateWindow afterFlowReply).length = 1 ∧
    ¬ EventsKept afterFlowReply := by
  have hs : LTS.exec (step serverOrchestrator) init [.enqueue sampleText, .deliver sampleText 0 accepts] =
      some afterFirstDelivery := rfl
  refine ⟨LTS.exec_reachable hs, by decide +kernel, by decide +kernel, ?_, by decide +kernel,
    by decide +kernel, ?_⟩
  · rw [eventsKept_iff]
    decide +kernel
  · rw [eventsKept_iff]
    decide +kernel

end PerGo.L4.EventDedup
