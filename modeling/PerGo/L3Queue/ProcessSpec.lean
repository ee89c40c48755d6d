import PerGo.L3Queue.Orchestrator

/-!
# What one `Process` call can do

Every invariant over runs of the orchestrator is derived from two facts of this
module: what the fallback loop does (`fallbackLoop_spec`) and what a whole call
does (`process_spec`). Callers never unfold `process`.

* `core` drops published events and audit rows from the calls made, so that the
  many places that only publish or audit are invisible (`audit_core`,
  `publish_core`, …).
* `Settled r`: the row says a provider took the message (status `sent`, or a
  provider message id is stored). No write but the one after a successful
  dispatch makes a row settled.
* `Prog t w w'`: from `w` to `w'` only failed dispatcher invocations happened,
  only the row of `t` may have changed, and it did not become settled. It is
  reflexive and transitive, and every step of the loop short of its exits is
  one.
-/
namespace PerGo.L3

open PerGo.Core PerGo.L1 PerGo.L2

def Effect.quiet : Effect → Bool
  | .publish .. => true
  | .audit .. => true
  | _ => false

def core (out : List Effect) : List Effect := out.filter fun e => !e.quiet

@[simp] theorem core_nil : core [] = [] := rfl

@[simp] theorem core_append (a b : List Effect) : core (a ++ b) = core a ++ core b := by
  simp [core]

@[simp] theorem core_singleton (e : Effect) : core [e] = if e.quiet then [] else [e] := by
  cases h : e.quiet <;> simp [core, h]

theorem mem_core {e : Effect} {out : List Effect} : e ∈ core out ↔ e ∈ out ∧ e.quiet = false := by
  simp [core]

def Effect.failedInvoke (e : Effect) : Prop := ∃ i p res, e = .invoke i p res ∧ res.err ≠ none

/-- The row says a provider took the message. -/
def Settled (r : MessageDispatch) : Prop := r.status = "sent" ∨ r.providerMessageID ≠ none

instance (r : MessageDispatch) : Decidable (Settled r) := inferInstanceAs (Decidable (_ ∨ _))

/-- The dispatch the call holds is the row of its trace. -/
def Bound (t : String) (dispatch : Option MessageDispatch) (table : Dispatches) : Prop :=
  ∀ d, dispatch = some d → ∃ r, table.get t = some r ∧ r.id = d.id

/-- Only the row of `t` may have changed, it keeps its id, and it did not become settled. -/
structure RowsKept (t : String) (table table' : Dispatches) : Prop where
  frame : ∀ t', t' ≠ t → table'.get t' = table.get t'
  bound : ∀ dispatch, Bound t dispatch table → Bound t dispatch table'
  settled : ∀ r', table'.get t = some r' → Settled r' → ∃ r, table.get t = some r ∧ Settled r

theorem RowsKept.refl (t : String) (table : Dispatches) : RowsKept t table table :=
  ⟨fun _ _ => rfl, fun _ h => h, fun r' h hs => ⟨r', h, hs⟩⟩

theorem RowsKept.trans {t : String} {a b c : Dispatches} (h : RowsKept t a b) (h' : RowsKept t b c) :
    RowsKept t a c where
  frame t' ht := (h'.frame t' ht).trans (h.frame t' ht)
  bound d hd := h'.bound d (h.bound d hd)
  settled r'' hr hs := by
    obtain ⟨r', hr', hs'⟩ := h'.settled r'' hr hs
    exact h.settled r' hr' hs'

/-- A status update other than to `sent`. -/
theorem RowsKept.update {t : String} {table : Dispatches} {d : MessageDispatch}
    (hb : Bound t (some d) table) {status chan : String} {idx : Nat} {err : Option String}
    (hs : status ≠ "sent") : RowsKept t table (table.updateDispatchStatus d.id status chan idx err) := by
  obtain ⟨r, hr, hid⟩ := hb d rfl
  have hg := fun t' => Dispatches.get_updateDispatchStatus hr status chan idx err t'
  rw [hid] at hg
  refine ⟨?_, ?_, ?_⟩
  · intro t' ht
    rw [hg, if_neg ht]
  · intro dispatch hbd d' hd'
    obtain ⟨r0, hr0, hid0⟩ := hbd d' hd'
    rw [hr] at hr0; cases hr0
    exact ⟨_, (hg t).trans (if_pos rfl), hid.symm.trans hid0⟩
  · intro r' hr' hset
    rw [hg, if_pos rfl] at hr'
    cases hr'
    rcases hset with hset | hset
    · exact absurd hset hs
    · exact ⟨r, hr, Or.inr hset⟩

theorem RowsKept.getOrCreate (table : Dispatches) (ws : UUID) (t chan : String) (camp : Option UUID)
    (tmpl : Option String) (vars : StrMap) :
    RowsKept t table (table.getOrCreateDispatch ws t chan camp tmpl vars).2 := by
  have hg := fun t' => Dispatches.get_getOrCreate table ws t chan camp tmpl vars t'
  refine ⟨?_, ?_, ?_⟩
  · intro t' ht
    rw [hg, if_neg (Ne.symm ht)]
  · intro dispatch hbd d hd
    obtain ⟨r, hr, hid⟩ := hbd d hd
    refine ⟨r, ?_, hid⟩
    rw [hg, if_pos rfl, Dispatches.getOrCreate_of_some hr]
  · intro r' hr' hset
    rw [hg, if_pos rfl] at hr'
    cases hr'
    cases hr : table.get t with
    | some r =>
      rw [Dispatches.getOrCreate_of_some hr] at hset
      exact ⟨r, rfl, hset⟩
    | none =>
      rw [Dispatches.getOrCreate_of_none hr] at hset
      rcases hset with hset | hset
      · exact absurd hset (show "queued" ≠ "sent" by decide)
      · exact absurd rfl hset

structure Prog (t : String) (w w' : World) : Prop where
  calls : ∃ es, core w'.out = core w.out ++ es ∧ ∀ e ∈ es, e.failedInvoke
  rows : RowsKept t w.table w'.table

namespace Prog

variable {t : String} {w w' w'' : World}

theorem refl (t : String) (w : World) : Prog t w w := ⟨⟨[], by simp, by simp⟩, RowsKept.refl t _⟩

theorem trans (h : Prog t w w') (h' : Prog t w' w'') : Prog t w w'' := by
  obtain ⟨es, he, hf⟩ := h.calls
  obtain ⟨es', he', hf'⟩ := h'.calls
  refine ⟨⟨es ++ es', by rw [he', he, List.append_assoc], ?_⟩, h.rows.trans h'.rows⟩
  intro e hm
  rcases List.mem_append.mp hm with hm | hm
  · exact hf e hm
  · exact hf' e hm

theorem emit {e : Effect} (he : e.quiet = true ∨ e.failedInvoke) : Prog t w (w.emit e) := by
  refine ⟨?_, RowsKept.refl t _⟩
  rcases he with hq | hf
  · exact ⟨[], by simp [hq], by simp⟩
  · refine ⟨[e], ?_, by simpa using hf⟩
    obtain ⟨i, p, res, rfl, _⟩ := hf
    simp [Effect.quiet]

theorem mem_out (h : Prog t w w') {e : Effect} (hq : e.quiet = false) (hf : ¬ e.failedInvoke)
    (hm : e ∈ w'.out) : e ∈ w.out := by
  obtain ⟨es, he, hes⟩ := h.calls
  have hc : e ∈ core w.out ++ es := he ▸ mem_core.mpr ⟨hm, hq⟩
  rcases List.mem_append.mp hc with hc | hc
  · exact (mem_core.mp hc).1
  · exact absurd (hes e hc) hf

theorem setTable {table : Dispatches} (h : RowsKept t w.table table) : Prog t w { w with table := table } :=
  ⟨⟨[], by simp, by simp⟩, h⟩

end Prog

section Helpers

variable (o : Orchestrator) (env : Env) (t : String)

theorem audit_prog (w : World) (ws : UUID) (tr : String) (p : AuditPayload) :
    Prog t w (audit o w ws tr p) := by
  unfold audit
  split
  · exact Prog.emit (Or.inl rfl)
  · exact Prog.refl t w

@[simp] theorem audit_table (w : World) (ws : UUID) (tr : String) (p : AuditPayload) :
    (audit o w ws tr p).table = w.table := by
  unfold audit
  split <;> rfl

@[simp] theorem audit_core (w : World) (ws : UUID) (tr : String) (p : AuditPayload) :
    core (audit o w ws tr p).out = core w.out := by
  unfold audit
  split
  · simp [Effect.quiet]
  · rfl

theorem publish_prog (w : World) (ws : UUID) (tr : String) (id : UUID) (ev chan : String)
    (err : Option String) : Prog t w (publishWebhookEvent o env w ws tr id ev chan err) := by
  unfold publishWebhookEvent
  split
  · exact Prog.emit (Or.inl rfl)
  · exact Prog.refl t w

@[simp] theorem publish_table (w : World) (ws : UUID) (tr : String) (id : UUID) (ev chan : String)
    (err : Option String) : (publishWebhookEvent o env w ws tr id ev chan err).table = w.table := by
  unfold publishWebhookEvent
  split <;> rfl

@[simp] theorem publish_dispatched (w : World) (ws : UUID) (tr : String) (id : UUID) (ev chan : String)
    (err : Option String) : (publishWebhookEvent o env w ws tr id ev chan err).dispatched = w.dispatched := by
  unfold publishWebhookEvent
  split <;> rfl

@[simp] theorem publish_core (w : World) (ws : UUID) (tr : String) (id : UUID) (ev chan : String)
    (err : Option String) : core (publishWebhookEvent o env w ws tr id ev chan err).out = core w.out := by
  unfold publishWebhookEvent
  split
  · simp [Effect.quiet]
  · rfl

theorem setStatus_prog {w : World} {q : QueueMessage} {dispatch : Option MessageDispatch}
    (hb : Bound t dispatch w.table) {status : String} (hs : status ≠ "sent") (chan : String) (idx : Nat)
    (err : Option String) : Prog t w (setStatus o env w q dispatch status chan idx err) := by
  unfold setStatus
  cases dispatch with
  | none => exact Prog.refl t w
  | some d =>
    refine Prog.trans ?_ (publish_prog o env t _ _ _ _ _ _ _)
    split
    · exact Prog.refl t w
    · exact Prog.setTable (RowsKept.update hb hs)

theorem beginAttempt_prog {w : World} {q : QueueMessage} {dispatch : Option MessageDispatch}
    (hb : Bound t dispatch w.table) (all : List String) (start i : Nat) (v : LoopVars) (chan to_ : String) :
    Prog t w (beginAttempt o env w q dispatch all start i v chan to_).1 := by
  unfold beginAttempt
  have ha : Prog t w (if i > start then
      audit o w q.workspaceID q.traceID (.fallbackTransition
        (if v.lastAttemptedChannel = "" ∧ i > 0 then all.getD (i - 1) "" else v.lastAttemptedChannel)
        chan to_ i) else w) := by
    split
    · exact audit_prog o t w _ _ _
    · exact Prog.refl t w
  cases dispatch with
  | none => exact ha
  | some d =>
    cases hse : env.sendingErr i with
    | some e => simpa only [hse] using ha
    | none =>
      exact (ha.trans (Prog.setTable (RowsKept.update (ha.rows.bound _ hb) (by decide)))).trans (publish_prog o env t _ _ _ _ _ _ _)

/-- What `ack` does. -/
def ackEffects (ws : UUID) : List Effect :=
  .ack :: if o.queueDepth && ws ≠ UUID.Nil then [.decrement ws] else []

theorem ack_core (w : World) (ws : UUID) : core (ack o w ws).out = core w.out ++ ackEffects o ws := by
  unfold ack ackEffects
  split
  · rw [World.emit_out, World.emit_out, List.append_assoc, core_append]; rfl
  · rw [World.emit_out, core_append]; rfl

theorem ack_mem (w : World) (ws : UUID) : Effect.ack ∈ (ack o w ws).out := by
  have h : Effect.ack ∈ core (ack o w ws).out := by
    rw [ack_core]
    exact List.mem_append_right _ List.mem_cons_self
  exact (mem_core.mp h).1

@[simp] theorem ack_table (w : World) (ws : UUID) : (ack o w ws).table = w.table := by
  unfold ack
  split <;> rfl

@[simp] theorem handleFailure_table (w : World) (ws : UUID) (attempt : Int) :
    (handleFailure o env w ws attempt).table = w.table := by
  unfold handleFailure
  split
  · simp
  · simp only
    split
    · simp
    · rfl

theorem mem_ack_of_mem {w : World} {e : Effect} (h : e ∈ w.out) (ws : UUID) : e ∈ (ack o w ws).out := by
  unfold ack
  split
  · simp [h]
  · simp [h]

theorem mem_ack {w : World} {ws : UUID} {e : Effect} (hq : e.quiet = false) (h : e ∈ (ack o w ws).out) :
    e ∈ w.out ∨ e = .ack ∨ e = .decrement ws := by
  have hc : e ∈ core w.out ++ ackEffects o ws := ack_core o w ws ▸ mem_core.mpr ⟨h, hq⟩
  rcases List.mem_append.mp hc with hc | hc
  · exact Or.inl (mem_core.mp hc).1
  · unfold ackEffects at hc
    rcases List.mem_cons.mp hc with hc | hc
    · exact Or.inr (Or.inl hc)
    · split at hc
      · exact Or.inr (Or.inr (List.mem_singleton.mp hc))
      · cases hc

theorem handleFailure_ack {w : World} {ws : UUID} {attempt : Int}
    (h : Effect.ack ∈ (handleFailure o env w ws attempt).out) :
    Effect.ack ∈ w.out ∨
    (attempt ≥ o.maxRetries ∧ Effect.exhausted attempt ∈ (handleFailure o env w ws attempt).out) ∨
    (attempt < o.maxRetries ∧ env.nakErr = true) := by
  by_cases hm : attempt ≥ o.maxRetries
  · refine Or.inr (Or.inl ⟨hm, ?_⟩)
    rw [handleFailure, if_pos hm]
    have hc : Effect.exhausted attempt ∈ core (ack o (w.emit (.exhausted attempt)) ws).out := by
      rw [ack_core]
      exact List.mem_append_left _ (mem_core.mpr ⟨by simp, rfl⟩)
    exact (mem_core.mp hc).1
  · cases hn : env.nakErr with
    | true => exact Or.inr (Or.inr ⟨by omega, rfl⟩)
    | false =>
      left
      rw [handleFailure, if_neg hm] at h
      simp only [hn, Bool.false_eq_true, if_false, World.emit_out, List.mem_append, List.mem_singleton] at h
      rcases h with h | h
      · exact h
      · cases h

theorem handleFailure_invoke {w : World} {ws : UUID} {attempt : Int} {i : Nat} {p : MessagePayload}
    {res : DispatchResult} (h : Effect.invoke i p res ∈ (handleFailure o env w ws attempt).out) :
    Effect.invoke i p res ∈ w.out := by
  unfold handleFailure at h
  split at h
  · rcases mem_ack o rfl h with h | h | h
    · simpa using h
    · cases h
    · cases h
  · simp only at h
    split at h
    · rcases mem_ack o rfl h with h | h | h
      · simpa using h
      · cases h
      · cases h
    · simpa using h

/-- Only the row of the trace is written, and it becomes `sent` unless that write fails. -/
theorem get_sentTable {table : Dispatches} {r : MessageDispatch} (hr : table.get t = some r)
    (chan : String) (i : Nat) (resp : String) :
    (∀ t', t' ≠ t → (sentTable env table r.id chan i resp).get t' = table.get t') ∧
    ∃ r', (sentTable env table r.id chan i resp).get t = some r' ∧
      (env.sentErr = false → r'.status = "sent") := by
  -- the row after the status write, whether or not that write succeeded
  obtain ⟨table₁, ht₁, hf₁, r₁, hr₁, hid₁, hs₁⟩ : ∃ table₁,
      table₁ = (if env.sentErr then table else table.updateDispatchStatus r.id "sent" chan i none) ∧
      (∀ t', t' ≠ t → table₁.get t' = table.get t') ∧
      ∃ r₁, table₁.get t = some r₁ ∧ r₁.id = r.id ∧ (env.sentErr = false → r₁.status = "sent") := by
    refine ⟨_, rfl, ?_⟩
    have hg := fun t' => Dispatches.get_updateDispatchStatus hr "sent" chan i none t'
    cases env.sentErr with
    | true => exact ⟨fun _ _ => rfl, r, hr, rfl, fun h => by cases h⟩
    | false => exact ⟨fun t' ht => (hg t').trans (if_neg ht), _, (hg t).trans (if_pos rfl), rfl, fun _ => rfl⟩
  unfold sentTable
  simp only [← ht₁]
  split
  · cases hu : table₁.updateProviderMessageID r.id resp with
    | none => exact ⟨hf₁, r₁, hr₁, hs₁⟩
    | some table₂ =>
      rw [← hid₁] at hu
      have hg := fun t' => Dispatches.get_updateProviderMessageID hr₁ hu t'
      exact ⟨fun t' ht => ((hg t').trans (if_neg ht)).trans (hf₁ t' ht), _, (hg t).trans (if_pos rfl), hs₁⟩
  · exact ⟨hf₁, r₁, hr₁, hs₁⟩

theorem markSent_spec {w : World} {q : QueueMessage} {dispatch : Option MessageDispatch}
    (hb : Bound t dispatch w.table) (chan : String) (i : Nat) (resp : String) :
    let w' := markSent o env w q dispatch chan i resp
    core w'.out = core w.out ∧
    (∀ t', t' ≠ t → w'.table.get t' = w.table.get t') ∧
    ∀ d, dispatch = some d → env.sentErr = false → ∃ r', w'.table.get t = some r' ∧ r'.status = "sent" := by
  cases dispatch with
  | none => exact ⟨rfl, fun _ _ => rfl, fun d hd => by cases hd⟩
  | some d =>
    obtain ⟨r, hr, hid⟩ := hb d rfl
    obtain ⟨hf, r', hr', hs'⟩ := get_sentTable env t hr chan i resp
    rw [hid] at hf hr'
    simp only [markSent, publish_core, publish_table]
    exact ⟨trivial, hf, fun _ _ hse => ⟨r', hr', hs' hse⟩⟩

end Helpers

/-! ## The fallback loop -/

section Loop

variable (o : Orchestrator) (env : Env) (q : QueueMessage)

/-- What the dispatcher of `chan` is handed for a resolved address. -/
def attemptPayload (chan to_ : String) : MessagePayload :=
  toPayload (dispatchTarget o env chan { q with to_ := to_, channel := chan }) chan

/-- The loop goes past channel `i`: it has no recipient there, or its
dispatcher's answer is a terminal error. -/
def PassedOver (i : Nat) (chan : String) : Prop :=
  resolveRecipientForChannel o env q.workspaceID q.to_ chan = none ∨
  ∃ to_ e, resolveRecipientForChannel o env q.workspaceID q.to_ chan = some to_ ∧
    registered o chan = true ∧ (env.dispatch i (attemptPayload o env q chan to_)).err = some e ∧
    e.terminal = true

/-- A dispatcher was invoked at index `i` and failed terminally. -/
def TerminalIn (i : Nat) (out : List Effect) : Prop :=
  ∃ p res e, Effect.invoke i p res ∈ out ∧ res.err = some e ∧ e.terminal = true

def Effect.terminalInvoke (i : Nat) : Effect → Bool
  | .invoke j _ res => j = i && (res.err.map (·.terminal)).getD false
  | _ => false

theorem terminalIn_iff {i : Nat} {out : List Effect} :
    TerminalIn i out ↔ out.any (Effect.terminalInvoke i) = true := by
  constructor
  · rintro ⟨p, res, e, hm, hr, ht⟩
    exact List.any_eq_true.mpr ⟨_, hm, by simp [Effect.terminalInvoke, hr, ht]⟩
  · intro h
    obtain ⟨x, hm, hx⟩ := List.any_eq_true.mp h
    cases x with
    | invoke j p res =>
      simp only [Effect.terminalInvoke, Bool.and_eq_true, decide_eq_true_eq] at hx
      obtain ⟨rfl, hx⟩ := hx
      cases he : res.err with
      | none => simp [he] at hx
      | some e => exact ⟨p, res, e, hm, he, by simpa [he] using hx⟩
    | _ => simp [Effect.terminalInvoke] at hx

instance (i : Nat) (out : List Effect) : Decidable (TerminalIn i out) :=
  decidable_of_iff _ terminalIn_iff.symm

/-- How the loop over `chans`, the channels from index `i` on, can end. -/
inductive LoopOutcome (attempt : Int) (dispatch : Option MessageDispatch) (chans : List String) (i : Nat)
    (w : World) : World × LoopExit → Prop
  /-- every channel was passed over -/
  | finished {w' : World} {v : LoopVars} (prog : Prog q.traceID w w')
      (all : ∀ k chan, chans[k]? = some chan →
        resolveRecipientForChannel o env q.workspaceID q.to_ chan = none ∨ TerminalIn (i + k) w'.out) :
      LoopOutcome attempt dispatch chans i w (w', .finished v)
  /-- channel `i + k` was the first not passed over, and the dispatch there returned no error -/
  | sent {w₁ w' : World} {k : Nat} {chan to_ : String} {res : DispatchResult} (prog : Prog q.traceID w w₁)
      (at_ : chans[k]? = some chan)
      (resolved : resolveRecipientForChannel o env q.workspaceID q.to_ chan = some to_)
      (first : ∀ j c, j < k → chans[j]? = some c → PassedOver o env q (i + j) c)
      (began : dispatch = none ∨ env.sendingErr (i + k) = none)
      (ok : res.err = none)
      (core : core w'.out = core w₁.out ++
        (if registered o chan then [.invoke (i + k) (attemptPayload o env q chan to_) res] else []) ++
        ackEffects o q.workspaceID)
      (frame : ∀ t', t' ≠ q.traceID → w'.table.get t' = w₁.table.get t')
      (row : ∀ d, dispatch = some d → env.sentErr = false →
        ∃ r', w'.table.get q.traceID = some r' ∧ r'.status = "sent") :
      LoopOutcome attempt dispatch chans i w (w', .returned none)
  /-- a row update or a dispatch failed for now -/
  | failed {w₁ : World} {e : GoError} (prog : Prog q.traceID w w₁) :
      LoopOutcome attempt dispatch chans i w (handleFailure o env w₁ q.workspaceID attempt, .returned (some e))

theorem TerminalIn.mono {i : Nat} {t : String} {w w' : World} (hp : Prog t w w') (h : TerminalIn i w.out) :
    TerminalIn i w'.out := by
  obtain ⟨p, res, e, hm, hr, ht⟩ := h
  obtain ⟨es, he, _⟩ := hp.calls
  have hc : Effect.invoke i p res ∈ core w'.out := by
    rw [he]
    exact List.mem_append_left _ (mem_core.mpr ⟨hm, rfl⟩)
  exact ⟨p, res, e, (mem_core.mp hc).1, hr, ht⟩

theorem LoopOutcome.cons {attempt : Int} {dispatch : Option MessageDispatch} {chan : String}
    {rest : List String} {i : Nat} {w w₁ : World} {r : World × LoopExit} (hp : Prog q.traceID w w₁)
    (hpass : PassedOver o env q i chan)
    (hterm : resolveRecipientForChannel o env q.workspaceID q.to_ chan = none ∨ TerminalIn i w₁.out)
    (h : LoopOutcome o env q attempt dispatch rest (i + 1) w₁ r) :
    LoopOutcome o env q attempt dispatch (chan :: rest) i w r := by
  cases h with
  | finished prog all =>
    refine .finished (hp.trans prog) ?_
    intro k c hk
    cases k with
    | zero =>
      simp only [List.getElem?_cons_zero, Option.some.injEq] at hk
      subst hk
      exact hterm.imp id (TerminalIn.mono prog)
    | succ k =>
      rw [List.getElem?_cons_succ] at hk
      have := all k c hk
      rwa [show i + 1 + k = i + (k + 1) by omega] at this
  | @sent w₂ w' k c to_ res prog at_ resolved first began ok core frame row =>
    have hi : i + 1 + k = i + (k + 1) := by omega
    rw [hi] at began core
    refine .sent (k := k + 1) (hp.trans prog) (by simpa using at_) resolved ?_ began ok core frame row
    intro j c' hj hc'
    cases j with
    | zero =>
      simp only [List.getElem?_cons_zero, Option.some.injEq] at hc'
      subst hc'
      exact hpass
    | succ j =>
      rw [List.getElem?_cons_succ] at hc'
      have := first j c' (by omega) hc'
      rwa [show i + 1 + j = i + (j + 1) by omega] at this
  | failed prog => exact .failed (hp.trans prog)

/-- The dispatcher is invoked exactly when there is one; the result is its answer, or no error. -/
theorem dispatchToChannel_eq (w : World) (i : Nat) (chan to_ : String) :
    ∃ qc res, dispatchToChannel o env w i chan { q with to_ := to_, channel := chan } =
        (qc, res, if registered o chan then w.emit (.invoke i (attemptPayload o env q chan to_) res) else w) ∧
      (registered o chan = true → res = env.dispatch i (attemptPayload o env q chan to_)) ∧
      (registered o chan = false → res.err = none) := by
  unfold dispatchToChannel
  cases h : registered o chan with
  | true => exact ⟨_, _, rfl, fun _ => rfl, by simp⟩
  | false => exact ⟨_, _, rfl, by simp, fun _ => rfl⟩

/-- Without an error the row is `sending`, or there is no row. -/
theorem beginAttempt_none (w : World) (dispatch : Option MessageDispatch) (all : List String)
    (start i : Nat) (v : LoopVars) (chan to_ : String)
    (h : (beginAttempt o env w q dispatch all start i v chan to_).2 = none) :
    dispatch = none ∨ env.sendingErr i = none := by
  unfold beginAttempt at h
  cases dispatch with
  | none => exact Or.inl rfl
  | some d =>
    right
    cases hse : env.sendingErr i with
    | none => rfl
    | some e => simp [hse] at h

theorem LoopOutcome.of_ok {attempt : Int} {dispatch : Option MessageDispatch} {chan to_ : String}
    {rest : List String} {i : Nat} {w w₁ : World} {res : DispatchResult} (hb : Bound q.traceID dispatch w₁.table)
    (hp : Prog q.traceID w w₁) (hbeg : dispatch = none ∨ env.sendingErr i = none)
    (hres : resolveRecipientForChannel o env q.workspaceID q.to_ chan = some to_) (hok : res.err = none)
    (qc : QueueMessage) :
    LoopOutcome o env q attempt dispatch (chan :: rest) i w
      (ack o (audit o (markSent o env
        (if registered o chan then w₁.emit (.invoke i (attemptPayload o env q chan to_) res) else w₁)
        q dispatch chan i res.resp) q.workspaceID q.traceID (.outboundMessage qc res.resp "sent" none chan))
        q.workspaceID, .returned none) := by
  generalize hw₂ : (if registered o chan then w₁.emit (.invoke i (attemptPayload o env q chan to_) res)
    else w₁) = w₂
  have htab : w₂.table = w₁.table ∧ core w₂.out = core w₁.out ++
      (if registered o chan then [.invoke i (attemptPayload o env q chan to_) res] else []) := by
    rw [← hw₂]
    cases registered o chan <;> simp [Effect.quiet]
  have hb₂ : Bound q.traceID dispatch w₂.table := by
    intro d hd
    rw [htab.1]
    exact hb d hd
  obtain ⟨hmc, hmf, hmr⟩ := markSent_spec (q := q) o env q.traceID hb₂ chan i res.resp
  generalize markSent o env w₂ q dispatch chan i res.resp = w₃ at hmc hmf hmr ⊢
  refine .sent (k := 0) hp rfl hres (fun j c hj => absurd hj (Nat.not_lt_zero j)) hbeg hok ?_ ?_ ?_
  · rw [ack_core, audit_core, hmc, htab.2, Nat.add_zero]
  · intro t' ht
    rw [ack_table, audit_table, hmf t' ht, htab.1]
  · intro d hd hse
    rw [ack_table, audit_table]
    exact hmr d hd hse

/-- **What the loop can do.** -/
theorem fallbackLoop_spec (attempt : Int) (dispatch : Option MessageDispatch) (all : List String)
    (start : Nat) (chans : List String) (i : Nat) (v : LoopVars) (w : World)
    (hb : Bound q.traceID dispatch w.table) :
    LoopOutcome o env q attempt dispatch chans i w
      (fallbackLoop o env q attempt dispatch all start chans i v w) := by
  induction chans generalizing i v w with
  | nil => exact .finished (Prog.refl _ w) (by simp)
  | cons chan rest ih =>
    rw [fallbackLoop]
    cases hres : resolveRecipientForChannel o env q.workspaceID q.to_ chan with
    | none =>
      have hp := audit_prog o q.traceID w q.workspaceID q.traceID (.skippedNoIdentity chan q.to_ i)
      exact LoopOutcome.cons o env q hp (Or.inl hres) (Or.inl hres) (ih _ _ _ (hp.rows.bound _ hb))
    | some to_ =>
      have hp := beginAttempt_prog (q := q) o env q.traceID hb all start i
        { v with lastChannel := chan, currentIndex := i } chan to_
      have hn := beginAttempt_none o env q w dispatch all start i
        { v with lastChannel := chan, currentIndex := i } chan to_
      simp only
      generalize beginAttempt o env w q dispatch all start i { v with lastChannel := chan, currentIndex := i }
        chan to_ = b at hp hn ⊢
      obtain ⟨w₁, _ | e⟩ := b
      · obtain ⟨qc, res, hd, hreg, hunreg⟩ := dispatchToChannel_eq o env q w₁ i chan to_
        have hb₁ := hp.rows.bound _ hb
        simp only [hd]
        cases herr : res.err with
        | none => exact LoopOutcome.of_ok o env q hb₁ hp (hn rfl) hres herr qc
        | some e =>
          -- an error means that a dispatcher was invoked
          have hr : registered o chan = true := by
            cases h : registered o chan with
            | true => rfl
            | false => rw [hunreg h] at herr; cases herr
          have hinv : Prog q.traceID w₁ (w₁.emit (.invoke i (attemptPayload o env q chan to_) res)) :=
            Prog.emit (Or.inr ⟨i, _, res, rfl, by rw [herr]; exact Option.some_ne_none e⟩)
          rw [if_pos hr]
          cases hterm : e.terminal with
          | true =>
            simp only [hterm, if_true]
            have hau := audit_prog o q.traceID (w₁.emit (.invoke i (attemptPayload o env q chan to_) res))
              q.workspaceID q.traceID (.outboundMessage qc res.resp "failed" (some e.text) chan)
            have hpass : PassedOver o env q i chan :=
              Or.inr ⟨to_, e, hres, hr, by rw [← hreg hr]; exact herr, hterm⟩
            have htin : TerminalIn i (w₁.emit (.invoke i (attemptPayload o env q chan to_) res)).out :=
              ⟨attemptPayload o env q chan to_, res, e, by simp, herr, hterm⟩
            have hall := (hp.trans hinv).trans hau
            exact LoopOutcome.cons o env q hall hpass (Or.inr (TerminalIn.mono hau htin))
              (ih _ _ _ (hall.rows.bound _ hb))
          | false =>
            simp only [hterm, Bool.false_eq_true, if_false]
            have hst := setStatus_prog (q := q) o env q.traceID (hinv.rows.bound _ hb₁)
              (by decide : "failed_transient" ≠ "sent") chan i (some e.text)
            exact .failed (((hp.trans hinv).trans hst).trans (audit_prog o q.traceID _ _ _ _))
      · exact .failed hp

end Loop

/-! ## A whole call -/

section Call

variable (o : Orchestrator) (env : Env) (q : QueueMessage)

def rowOf (w : World) : Option MessageDispatch :=
  if o.dispatchRepo then w.table.get q.traceID else none

def startIndexOf (w : World) : Nat := startIndex (rowOf o q w)

/-- What a call of `Process` can do to a world. -/
inductive CallOutcome (attempt : Int) (w w' : World) : Prop
  /-- acked without an attempt, and without a write to an existing row: a private note, a row that
  says `sent`, or a trace in the in-memory set -/
  | skipped
      (why : isPrivateNote q = true ∨ (∃ r, rowOf o q w = some r ∧ r.status = "sent") ∨ q.traceID ∈ w.dispatched)
      (core : core w'.out = core w.out ++ ackEffects o q.workspaceID)
      (rows : RowsKept q.traceID w.table w'.table)
      (kept : ∀ r, w.table.get q.traceID = some r → w'.table.get q.traceID = some r)
  /-- the row could not be read -/
  | lookupFailed (eq : w' = handleFailure o env w q.workspaceID attempt)
  /-- acked without an attempt: the TTL is over, or the row's index is past the last channel -/
  | dropped {w₁ : World}
      (why : isExpired env q = true ∨ startIndexOf o q w ≥ (allChannels q).length)
      (fresh : q.traceID ∉ w.dispatched) (unsent : ∀ r, rowOf o q w = some r → r.status ≠ "sent")
      (prog : Prog q.traceID w w₁) (eq : w' = ack o w₁ q.workspaceID)
  /-- the loop ran from the row's index on -/
  | looped {w₁ w₂ : World} {exit : LoopExit} {dispatch : Option MessageDispatch}
      (live : isPrivateNote q = false ∧ isExpired env q = false) (fresh : q.traceID ∉ w.dispatched)
      (unsent : ∀ r, rowOf o q w = some r → r.status ≠ "sent")
      (row : dispatch = none → o.dispatchRepo = false)
      (prog : Prog q.traceID w w₁) (quiet : core w₁.out = core w.out)
      (loop : LoopOutcome o env q attempt dispatch ((allChannels q).drop (startIndexOf o q w))
        (startIndexOf o q w) w₁ (w₂, exit))
      (after : match exit with
        | .returned _ => w' = w₂
        | .finished _ => ∃ w₃, Prog q.traceID w₂ w₃ ∧ w' = ack o w₃ q.workspaceID)

theorem processClaimed_spec (ht : q.traceID ≠ "") (attempt : Int) {w w₀ : World}
    {dispatch : Option MessageDispatch} (hp : Prog q.traceID w w₀) (hq : core w₀.out = core w.out)
    (hd : w₀.dispatched = w.dispatched)
    (hk : ∀ r, w.table.get q.traceID = some r → w₀.table.get q.traceID = some r)
    (hu : ∀ r, rowOf o q w = some r → r.status ≠ "sent")
    (hrow : dispatch = none → o.dispatchRepo = false) (hpriv : isPrivateNote q = false)
    (hb : Bound q.traceID dispatch w₀.table)
    (hs : startIndexOf o q w = startIndex dispatch) :
    CallOutcome o env q attempt w (processClaimed o env w₀ q attempt dispatch).1 := by
  unfold processClaimed
  by_cases hdup : q.traceID ∈ w₀.dispatched
  · rw [if_pos ⟨ht, hdup⟩]
    refine .skipped (Or.inr (Or.inr (hd ▸ hdup))) (by rw [ack_core, hq]) ?_ ?_
    · rw [ack_table]
      exact hp.rows
    · intro r hr
      rw [ack_table]
      exact hk r hr
  · rw [if_neg (fun h => hdup h.2)]
    have hfresh : q.traceID ∉ w.dispatched := hd ▸ hdup
    simp only [if_pos ht, ← hs]
    -- the world with the trace claimed
    have hp₁ : Prog q.traceID w { w₀ with dispatched := q.traceID :: w₀.dispatched } := ⟨hp.calls, hp.rows⟩
    have hq₁ : core { w₀ with dispatched := q.traceID :: w₀.dispatched }.out = core w.out := hq
    have hb₁ : Bound q.traceID dispatch { w₀ with dispatched := q.traceID :: w₀.dispatched }.table := hb
    generalize { w₀ with dispatched := q.traceID :: w₀.dispatched } = w₁ at hp₁ hq₁ hb₁ ⊢
    cases hexp : isExpired env q with
    | true =>
      rw [if_pos rfl]
      refine .dropped (Or.inl hexp) hfresh hu (hp₁.trans ?_) rfl
      cases dispatch with
      | none => exact Prog.refl _ _
      | some d => exact setStatus_prog o env q.traceID hb₁ (by decide) _ _ _
    | false =>
      rw [if_neg (by decide)]
      by_cases hoob : startIndexOf o q w ≥ (allChannels q).length
      · rw [if_pos hoob]
        exact .dropped (Or.inr hoob) hfresh hu hp₁ rfl
      · rw [if_neg hoob]
        have hloop := fallbackLoop_spec o env q attempt dispatch (allChannels q) (startIndexOf o q w)
          ((allChannels q).drop (startIndexOf o q w)) (startIndexOf o q w)
          ⟨none, "", startIndexOf o q w, "", startIndexOf o q w⟩ w₁ hb₁
        generalize fallbackLoop o env q attempt dispatch (allChannels q) (startIndexOf o q w)
          ((allChannels q).drop (startIndexOf o q w)) (startIndexOf o q w)
          ⟨none, "", startIndexOf o q w, "", startIndexOf o q w⟩ w₁ = res at hloop ⊢
        obtain ⟨w₂, exit⟩ := res
        refine .looped ⟨hpriv, hexp⟩ hfresh hu hrow hp₁ hq₁ hloop ?_
        cases exit with
        | returned err => rfl
        | finished v =>
          cases hloop with
          | finished prog _ =>
            refine ⟨_, setStatus_prog o env q.traceID (prog.rows.bound _ hb₁) (by decide) _ _ _, rfl⟩

/-- Reading or creating the row: what the call holds is the row, and it is new or unchanged. -/
theorem getOrCreate_spec (table : Dispatches) (ws : UUID) (t chan : String) (camp : Option UUID)
    (tmpl : Option String) (vars : StrMap) :
    ∃ d table', table.getOrCreateDispatch ws t chan camp tmpl vars = (d, table') ∧
      table'.get t = some d ∧ RowsKept t table table' ∧
      ((table.get t = some d ∧ table' = table) ∨
        (table.get t = none ∧ d.status = "queued" ∧ d.fallbackIndex = 0)) := by
  have hg := Dispatches.get_getOrCreate table ws t chan camp tmpl vars t
  rw [if_pos rfl] at hg
  refine ⟨(table.getOrCreateDispatch ws t chan camp tmpl vars).1,
    (table.getOrCreateDispatch ws t chan camp tmpl vars).2, rfl, hg,
    RowsKept.getOrCreate table ws t chan camp tmpl vars, ?_⟩
  rcases Option.eq_none_or_eq_some (table.get t) with h | ⟨r, h⟩
  · rw [Dispatches.getOrCreate_of_none h]
    exact Or.inr ⟨h, rfl, rfl⟩
  · rw [Dispatches.getOrCreate_of_some h]
    exact Or.inl ⟨h, rfl⟩

/-- **What a call can do.** -/
theorem process_spec (ht : q.traceID ≠ "") (attempt : Int) (w : World) :
    CallOutcome o env q attempt w (process o env w q attempt).1 := by
  unfold process
  cases hpriv : isPrivateNote q with
  | true =>
    rw [if_pos rfl]
    exact .skipped (Or.inl hpriv) (ack_core o w _) (by rw [ack_table]; exact RowsKept.refl _ _)
      (fun r hr => by rw [ack_table]; exact hr)
  | false =>
  rw [if_neg (by decide)]
  cases hrepo : o.dispatchRepo with
  | false =>
    rw [if_neg (by simp)]
    have hnone : rowOf o q w = none := by simp [rowOf, hrepo]
    refine processClaimed_spec o env q ht attempt (Prog.refl _ w) rfl rfl (fun _ h => h) ?_
      (fun _ => hrepo) hpriv (fun d hd => by cases hd) (by rw [startIndexOf, hnone])
    intro r hr
    rw [hnone] at hr; cases hr
  | true =>
  rw [if_pos ⟨rfl, ht⟩]
  have hrow : rowOf o q w = w.table.get q.traceID := by simp [rowOf, hrepo]
  by_cases hws : q.workspaceID = UUID.Nil
  · rw [if_pos hws]
    exact .lookupFailed rfl
  rw [if_neg hws]
  cases hget : env.getOrCreateErr with
  | some e => exact .lookupFailed rfl
  | none =>
  obtain ⟨d, table, heq, hd, hk, hold⟩ := getOrCreate_spec w.table q.workspaceID q.traceID q.channel
    q.campaignID (if q.templateName ≠ "" then some q.templateName else none) q.variablesJSON
  simp only [heq]
  have hkept : ∀ r, w.table.get q.traceID = some r → table.get q.traceID = some r := by
    intro r hr
    rcases hold with ⟨_, rfl⟩ | ⟨hn, _⟩
    · exact hr
    · rw [hr] at hn; cases hn
  by_cases hsent : d.status = "sent"
  · rw [if_pos hsent]
    refine .skipped (Or.inr (Or.inl ⟨d, ?_, hsent⟩)) (ack_core o _ _) (by rw [ack_table]; exact hk) ?_
    · rcases hold with ⟨hr, _⟩ | ⟨_, hq, _⟩
      · rw [hrow, hr]
      · rw [hq] at hsent; exact absurd hsent (by decide)
    · intro r hr
      rw [ack_table]; exact hkept r hr
  rw [if_neg hsent]
  -- the event of a new row changes nothing but `out`
  have hpub : ∀ w₁ : World, w₁.table = table → w₁.dispatched = w.dispatched → core w₁.out = core w.out →
      CallOutcome o env q attempt w (processClaimed o env w₁ q attempt (some d)).1 := by
    intro w₁ htab hdis hcore
    subst htab
    refine processClaimed_spec o env q ht attempt ⟨⟨[], by simp [hcore], by simp⟩, hk⟩ hcore hdis hkept ?_
      (fun h => by cases h) hpriv ?_ ?_
    · intro r hr
      rw [hrow] at hr
      rcases hold with ⟨hr', _⟩ | ⟨hn, _⟩
      · rw [hr] at hr'; cases hr'; exact hsent
      · rw [hr] at hn; cases hn
    · intro d' hd'
      cases hd'
      exact ⟨d, hd, rfl⟩
    · rw [startIndexOf, hrow]
      rcases hold with ⟨hr, _⟩ | ⟨hn, _, hz⟩
      · rw [hr]
      · rw [hn]; exact hz.symm
  split
  · exact hpub _ (publish_table o env _ _ _ _ _ _ _) (publish_dispatched o env _ _ _ _ _ _ _)
      (publish_core o env _ _ _ _ _ _ _)
  · exact hpub _ rfl rfl rfl

end Call

end PerGo.L3
