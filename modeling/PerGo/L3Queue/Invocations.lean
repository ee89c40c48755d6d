import PerGo.L3Queue.ProcessSpec

/-!
# Which dispatchers a `Process` call invokes

`invocations` keeps, of the calls made on the outside, the dispatcher
invocations: index, payload and answer. `Reaches` says on the inputs of a call
(message, row, clock, answers of the dependencies) that the fallback loop invokes
the dispatcher at an index; `mem_invocations_process` says that these are the
invocations of the call, and that each is handed `attemptPayload`.
-/
namespace PerGo.L3

open PerGo.Core PerGo.L1 PerGo.L2

def Effect.invocation : Effect → Option (Nat × MessagePayload × DispatchResult)
  | .invoke i p res => some (i, p, res)
  | _ => none

def invocations (out : List Effect) : List (Nat × MessagePayload × DispatchResult) :=
  out.filterMap Effect.invocation

@[simp] theorem invocations_nil : invocations [] = [] := rfl

@[simp] theorem invocations_append (a b : List Effect) : invocations (a ++ b) = invocations a ++ invocations b :=
  List.filterMap_append

@[simp] theorem invocations_cons (e : Effect) (es : List Effect) :
    invocations (e :: es) = (Effect.invocation e).toList ++ invocations es := by
  cases h : Effect.invocation e <;> simp [invocations, h]

theorem mem_invocations {out : List Effect} {i : Nat} {p : MessagePayload} {res : DispatchResult} :
    (i, p, res) ∈ invocations out ↔ Effect.invoke i p res ∈ out := by
  rw [invocations, List.mem_filterMap]
  constructor
  · rintro ⟨e, he, heq⟩
    cases e with
    | invoke j p' res' =>
      obtain ⟨rfl, rfl, rfl⟩ := Option.some.inj heq
      exact he
    | _ => cases heq
  · intro h
    exact ⟨_, h, rfl⟩

section Helpers

variable (o : Orchestrator) (env : Env)

@[simp] theorem audit_invocations (w : World) (ws : UUID) (tr : String) (p : AuditPayload) :
    invocations (audit o w ws tr p).out = invocations w.out := by
  unfold audit
  split
  · simp [Effect.invocation]
  · rfl

@[simp] theorem publish_invocations (w : World) (ws : UUID) (tr : String) (id : UUID) (ev chan : String)
    (err : Option String) :
    invocations (publishWebhookEvent o env w ws tr id ev chan err).out = invocations w.out := by
  unfold publishWebhookEvent
  split
  · simp [Effect.invocation]
  · rfl

@[simp] theorem setStatus_invocations (w : World) (q : QueueMessage) (dispatch : Option MessageDispatch)
    (status chan : String) (idx : Nat) (err : Option String) :
    invocations (setStatus o env w q dispatch status chan idx err).out = invocations w.out := by
  unfold setStatus
  cases dispatch with
  | none => rfl
  | some d =>
    simp only [publish_invocations]
    split <;> rfl

@[simp] theorem markSent_invocations (w : World) (q : QueueMessage) (dispatch : Option MessageDispatch)
    (chan : String) (i : Nat) (resp : String) :
    invocations (markSent o env w q dispatch chan i resp).out = invocations w.out := by
  unfold markSent
  cases dispatch with
  | none => rfl
  | some d => simp only [publish_invocations]

@[simp] theorem ack_invocations (w : World) (ws : UUID) :
    invocations (ack o w ws).out = invocations w.out := by
  unfold ack
  split <;> simp [Effect.invocation]

@[simp] theorem handleFailure_invocations (w : World) (ws : UUID) (attempt : Int) :
    invocations (handleFailure o env w ws attempt).out = invocations w.out := by
  unfold handleFailure
  split
  · simp [Effect.invocation]
  · simp only
    split <;> simp [Effect.invocation]

theorem beginAttempt_eq (w : World) (q : QueueMessage) (dispatch : Option MessageDispatch)
    (all : List String) (start i : Nat) (v : LoopVars) (chan to_ : String) :
    ∃ w', beginAttempt o env w q dispatch all start i v chan to_ =
        (w', if dispatch.isSome then env.sendingErr i else none) ∧
      invocations w'.out = invocations w.out := by
  unfold beginAttempt
  have ha : invocations (if i > start then
      audit o w q.workspaceID q.traceID (.fallbackTransition
        (if v.lastAttemptedChannel = "" ∧ i > 0 then all.getD (i - 1) "" else v.lastAttemptedChannel)
        chan to_ i) else w).out = invocations w.out := by
    split
    · exact audit_invocations o w _ _ _
    · rfl
  cases dispatch with
  | none => exact ⟨_, rfl, ha⟩
  | some d =>
    cases hse : env.sendingErr i with
    | some e => exact ⟨_, rfl, ha⟩
    | none => exact ⟨_, rfl, by simpa using ha⟩

end Helpers

/-! ## The fallback loop -/

section Loop

variable (o : Orchestrator) (env : Env) (q : QueueMessage)

/-- The attempt at index `i` begins: no row, or its update to `sending` succeeds. -/
def Begins (row : Bool) (i : Nat) : Prop := row = true → env.sendingErr i = none

/-- The loop goes on after channel `i`: the recipient has no identity there, or the dispatcher
answered with a terminal error. -/
def GoesOn (row : Bool) (i : Nat) (chan : String) : Prop :=
  resolveRecipientForChannel o env q.workspaceID q.to_ chan = none ∨
  ∃ to_ e, resolveRecipientForChannel o env q.workspaceID q.to_ chan = some to_ ∧
    Begins env row i ∧ registered o chan = true ∧
    (env.dispatch i (attemptPayload o env q chan to_)).err = some e ∧ e.terminal = true

/-- The loop over `chans`, the channels from index `i` on, invokes the dispatcher of `chan` at index
`i + k` for the recipient `to_`. -/
structure LoopReaches (row : Bool) (chans : List String) (i k : Nat) (chan to_ : String) : Prop where
  at_ : chans[k]? = some chan
  before : ∀ j c, j < k → chans[j]? = some c → GoesOn o env q row (i + j) c
  resolved : resolveRecipientForChannel o env q.workspaceID q.to_ chan = some to_
  begins : Begins env row (i + k)
  registered : registered o chan = true

variable {o env q}

theorem LoopReaches.zero_iff {row : Bool} {c : String} {rest : List String} {i : Nat} {chan to_ : String} :
    LoopReaches o env q row (c :: rest) i 0 chan to_ ↔
      c = chan ∧ resolveRecipientForChannel o env q.workspaceID q.to_ chan = some to_ ∧
        Begins env row i ∧ PerGo.L3.registered o chan = true := by
  constructor
  · rintro ⟨hat, -, hres, hb, hr⟩
    exact ⟨by simpa using hat, hres, hb, hr⟩
  · rintro ⟨rfl, hres, hb, hr⟩
    exact ⟨rfl, fun j _ hj => absurd hj (Nat.not_lt_zero j), hres, hb, hr⟩

theorem LoopReaches.succ_iff {row : Bool} {c : String} {rest : List String} {i k : Nat} {chan to_ : String} :
    LoopReaches o env q row (c :: rest) i (k + 1) chan to_ ↔
      GoesOn o env q row i c ∧ LoopReaches o env q row rest (i + 1) k chan to_ := by
  have hi : i + 1 + k = i + (k + 1) := by omega
  constructor
  · rintro ⟨hat, hbefore, hres, hb, hr⟩
    refine ⟨hbefore 0 c (by omega) rfl, by simpa using hat, ?_, hres, by rwa [hi], hr⟩
    intro j c' hj hc'
    have := hbefore (j + 1) c' (by omega) (by simpa using hc')
    rwa [show i + (j + 1) = i + 1 + j by omega] at this
  · rintro ⟨hgo, hat, hbefore, hres, hb, hr⟩
    refine ⟨by simpa using hat, ?_, hres, by rwa [hi] at hb, hr⟩
    intro j c' hj hc'
    cases j with
    | zero =>
      simp only [List.getElem?_cons_zero, Option.some.injEq] at hc'
      subst hc'
      exact hgo
    | succ j =>
      have := hbefore j c' (by omega) (by simpa using hc')
      rwa [show i + 1 + j = i + (j + 1) by omega] at this

variable (o env q)

/-- The invocation `x` is one the loop makes. -/
def LoopInvokes (row : Bool) (chans : List String) (i : Nat) (x : Nat × MessagePayload × DispatchResult) : Prop :=
  ∃ k chan to_, LoopReaches o env q row chans i k chan to_ ∧
    x = (i + k, attemptPayload o env q chan to_, env.dispatch (i + k) (attemptPayload o env q chan to_))

theorem loopInvokes_cons (row : Bool) (c : String) (rest : List String) (i : Nat)
    (x : Nat × MessagePayload × DispatchResult) :
    LoopInvokes o env q row (c :: rest) i x ↔
      (∃ to_, resolveRecipientForChannel o env q.workspaceID q.to_ c = some to_ ∧ Begins env row i ∧
        registered o c = true ∧
        x = (i, attemptPayload o env q c to_, env.dispatch i (attemptPayload o env q c to_))) ∨
      (GoesOn o env q row i c ∧ LoopInvokes o env q row rest (i + 1) x) := by
  constructor
  · rintro ⟨k, chan, to_, hr, rfl⟩
    cases k with
    | zero =>
      obtain ⟨rfl, hres, hb, hreg⟩ := LoopReaches.zero_iff.mp hr
      exact Or.inl ⟨to_, hres, hb, hreg, rfl⟩
    | succ k =>
      obtain ⟨hgo, hrest⟩ := LoopReaches.succ_iff.mp hr
      exact Or.inr ⟨hgo, k, chan, to_, hrest, by rw [show i + 1 + k = i + (k + 1) by omega]⟩
  · rintro (⟨to_, hres, hb, hreg, rfl⟩ | ⟨hgo, k, chan, to_, hrest, rfl⟩)
    · exact ⟨0, c, to_, LoopReaches.zero_iff.mpr ⟨rfl, hres, hb, hreg⟩, rfl⟩
    · exact ⟨k + 1, chan, to_, LoopReaches.succ_iff.mpr ⟨hgo, hrest⟩,
        by rw [show i + 1 + k = i + (k + 1) by omega]⟩

/-- **The invocations of the loop.** -/
theorem mem_invocations_fallbackLoop (attempt : Int) (dispatch : Option MessageDispatch)
    (all : List String) (start : Nat) (chans : List String) (i : Nat) (v : LoopVars) (w : World)
    (x : Nat × MessagePayload × DispatchResult) :
    x ∈ invocations (fallbackLoop o env q attempt dispatch all start chans i v w).1.out ↔
      x ∈ invocations w.out ∨ LoopInvokes o env q dispatch.isSome chans i x := by
  induction chans generalizing i v w with
  | nil =>
    simp only [fallbackLoop]
    constructor
    · exact Or.inl
    · rintro (h | ⟨k, chan, to_, hr, -⟩)
      · exact h
      · exact absurd hr.at_ (by simp)
  | cons c rest ih =>
    rw [fallbackLoop, loopInvokes_cons]
    cases hres : resolveRecipientForChannel o env q.workspaceID q.to_ c with
    | none =>
      simp only
      rw [ih, audit_invocations]
      have hgo : GoesOn o env q dispatch.isSome i c := Or.inl hres
      simp [hgo]
    | some to_ =>
      obtain ⟨w₁, hb, hw₁⟩ := beginAttempt_eq o env w q dispatch all start i
        { v with lastChannel := c, currentIndex := i } c to_
      simp only [hb]
      cases hse : (if dispatch.isSome = true then env.sendingErr i else none) with
      | some e =>
        -- the row update failed: the loop returns
        have hnb : ¬ Begins env dispatch.isSome i := by
          intro h
          cases hd : dispatch.isSome with
          | true => simp [hd, h hd] at hse
          | false => simp [hd] at hse
        have hgo : ¬ GoesOn o env q dispatch.isSome i c := by
          rintro (h | ⟨-, -, -, h, -⟩)
          · rw [hres] at h; cases h
          · exact hnb h
        simp [hw₁, hnb, hgo]
      | none =>
        have hbeg : Begins env dispatch.isSome i := by
          intro h
          simpa [h] using hse
        obtain ⟨qc, res, hd, hreg, hunreg⟩ := dispatchToChannel_eq o env q w₁ i c to_
        simp only [hd]
        cases hr : registered o c with
        | false =>
          have hgo : ¬ GoesOn o env q dispatch.isSome i c := by
            rintro (h | ⟨-, -, -, -, h, -⟩)
            · rw [hres] at h; cases h
            · rw [hr] at h; cases h
          simp [hunreg hr, hw₁, hgo]
        | true =>
          have hans := hreg hr
          -- the answer decides whether the loop goes on
          have hgo : GoesOn o env q dispatch.isSome i c ↔ ∃ e, res.err = some e ∧ e.terminal = true := by
            constructor
            · rintro (h | ⟨to', e, h, -, -, he, ht⟩)
              · rw [hres] at h; cases h
              · rw [hres] at h
                cases h
                exact ⟨e, by rw [hans]; exact he, ht⟩
            · rintro ⟨e, he, ht⟩
              exact Or.inr ⟨to_, e, hres, hbeg, hr, by rw [← hans]; exact he, ht⟩
          have hown : ∀ x, (∃ to', some to_ = some to' ∧ Begins env dispatch.isSome i ∧ true = true ∧
              x = (i, attemptPayload o env q c to', env.dispatch i (attemptPayload o env q c to'))) ↔
              x = (i, attemptPayload o env q c to_, res) := by
            intro x
            constructor
            · rintro ⟨to', h, -, -, rfl⟩
              cases h
              rw [hans]
            · rintro rfl
              exact ⟨to_, rfl, hbeg, rfl, by rw [hans]⟩
          rw [hown, hgo]
          cases herr : res.err with
          | none => simp [hw₁, Effect.invocation]
          | some e =>
            cases hterm : e.terminal with
            | true =>
              simp only [hterm, if_true]
              rw [ih]
              simp [hw₁, hterm, Effect.invocation, or_assoc]
            | false => simp [hw₁, hterm, Effect.invocation]

theorem invocations_fallbackLoop_sorted (attempt : Int) (dispatch : Option MessageDispatch) (all : List String)
    (start : Nat) (chans : List String) (i : Nat) (v : LoopVars) (w : World) :
    ∃ xs, invocations (fallbackLoop o env q attempt dispatch all start chans i v w).1.out = invocations w.out ++ xs ∧
      xs.Pairwise (·.1 < ·.1) ∧ ∀ x ∈ xs, i ≤ x.1 := by
  induction chans generalizing i v w with
  | nil => exact ⟨[], by simp [fallbackLoop], .nil, fun _ hx => nomatch hx⟩
  | cons c rest ih =>
    rw [fallbackLoop]
    cases resolveRecipientForChannel o env q.workspaceID q.to_ c with
    | none =>
      obtain ⟨xs, heq, hsorted, hle⟩ := ih (i + 1) _ _
      refine ⟨xs, heq.trans ?_, hsorted, fun x hx => Nat.le_of_succ_le (hle x hx)⟩
      rw [audit_invocations]
    | some to_ =>
      obtain ⟨w₁, hb, hw₁⟩ := beginAttempt_eq o env w q dispatch all start i
        { v with lastChannel := c, currentIndex := i } c to_
      simp only [hb]
      cases (if dispatch.isSome = true then env.sendingErr i else none) with
      | some e => exact ⟨[], by simp [hw₁], .nil, fun _ hx => nomatch hx⟩
      | none =>
        obtain ⟨qc, res, hd, -, -⟩ := dispatchToChannel_eq o env q w₁ i c to_
        simp only [hd]
        -- this channel's own invocation
        obtain ⟨w₂, ys, hw₂, hys, hone, hat⟩ : ∃ (w₂ : World) (ys : List (Nat × MessagePayload × DispatchResult)),
            (if registered o c then w₁.emit (.invoke i (attemptPayload o env q c to_) res) else w₁) = w₂ ∧
            invocations w₂.out = invocations w.out ++ ys ∧ ys.Pairwise (·.1 < ·.1) ∧ ∀ y ∈ ys, y.1 = i := by
          split
          · exact ⟨_, [(i, attemptPayload o env q c to_, res)], rfl, by simp [hw₁, Effect.invocation],
              List.pairwise_singleton _ _, by simp⟩
          · exact ⟨_, [], rfl, by simp [hw₁], .nil, fun _ hx => nomatch hx⟩
        rw [hw₂]
        have hle : ∀ y ∈ ys, i ≤ y.1 := fun y hy => Nat.le_of_eq (hat y hy).symm
        cases res.err with
        | none => exact ⟨ys, by simp [hys], hone, hle⟩
        | some e =>
          cases hterm : e.terminal with
          | false => exact ⟨ys, by simp [hys, hterm], hone, hle⟩
          | true =>
            simp only [hterm, if_true]
            obtain ⟨xs, heq, hsorted, hlater⟩ := ih (i + 1) _ _
            refine ⟨ys ++ xs, ?_, List.pairwise_append.mpr ⟨hone, hsorted, ?_⟩, ?_⟩
            · rw [heq, audit_invocations, hys, List.append_assoc]
            · intro y hy x hx
              rw [hat y hy]
              exact hlater x hx
            · intro x hx
              rcases List.mem_append.mp hx with hx | hx
              · exact hle x hx
              · exact Nat.le_of_succ_le (hlater x hx)

end Loop

/-! ## A whole call -/

section Call

variable (o : Orchestrator) (env : Env) (q : QueueMessage)

/-- The call works on a dispatch row. -/
def tracked : Bool := o.dispatchRepo && q.traceID ≠ ""

/-- The row the call finds. -/
def foundRow (w : World) : Option MessageDispatch :=
  if tracked o q then w.table.get q.traceID else none

structure ChecksTTL (w : World) : Prop where
  notPrivate : isPrivateNote q = false
  row : tracked o q = true → q.workspaceID ≠ UUID.Nil ∧ env.getOrCreateErr = none
  notSent : ∀ r, foundRow o q w = some r → r.status ≠ "sent"
  notClaimed : q.traceID ≠ "" → q.traceID ∉ w.dispatched

/-- The call gets as far as the fallback loop. -/
structure Enters (w : World) : Prop where
  notPrivate : isPrivateNote q = false
  row : tracked o q = true → q.workspaceID ≠ UUID.Nil ∧ env.getOrCreateErr = none
  notSent : ∀ r, foundRow o q w = some r → r.status ≠ "sent"
  notClaimed : q.traceID ≠ "" → q.traceID ∉ w.dispatched
  notExpired : isExpired env q = false

/-- The call invokes the dispatcher of `chan`, the channel at index `i`, for the recipient `to_`. -/
structure Reaches (w : World) (i : Nat) (chan to_ : String) : Prop where
  enters : Enters o env q w
  started : startIndex (foundRow o q w) ≤ i
  loop : LoopReaches o env q (tracked o q) ((allChannels q).drop (startIndex (foundRow o q w)))
    (startIndex (foundRow o q w)) (i - startIndex (foundRow o q w)) chan to_

variable {o env q} in
theorem Reaches.at_ {w : World} {i : Nat} {chan to_ : String} (h : Reaches o env q w i chan to_) :
    (allChannels q)[i]? = some chan := by
  have hat := h.loop.at_
  have hs := h.started
  rwa [List.getElem?_drop, show startIndex (foundRow o q w) + (i - startIndex (foundRow o q w)) = i by omega] at hat

variable {o env q} in
theorem Reaches.goesOn {w : World} {i j : Nat} {chan to_ c : String} (h : Reaches o env q w j chan to_)
    (hstart : startIndex (foundRow o q w) ≤ i) (hij : i < j) (hc : (allChannels q)[i]? = some c) :
    GoesOn o env q (tracked o q) i c := by
  have hi : startIndex (foundRow o q w) + (i - startIndex (foundRow o q w)) = i := by omega
  have hgo := h.loop.before (i - startIndex (foundRow o q w)) c (by omega) (by rwa [List.getElem?_drop, hi])
  rwa [hi] at hgo

/-- The invocation `x` is one the loop of the call makes. -/
def CallInvokes (w : World) (x : Nat × MessagePayload × DispatchResult) : Prop :=
  ∃ i chan to_, Reaches o env q w i chan to_ ∧
    x = (i, attemptPayload o env q chan to_, env.dispatch i (attemptPayload o env q chan to_))

theorem callInvokes_iff {w : World} (he : Enters o env q w) (x : Nat × MessagePayload × DispatchResult) :
    CallInvokes o env q w x ↔
      LoopInvokes o env q (tracked o q) ((allChannels q).drop (startIndex (foundRow o q w)))
        (startIndex (foundRow o q w)) x := by
  constructor
  · rintro ⟨i, chan, to_, hr, rfl⟩
    refine ⟨_, chan, to_, hr.loop, ?_⟩
    have hs := hr.started
    rw [show startIndex (foundRow o q w) + (i - startIndex (foundRow o q w)) = i by omega]
  · rintro ⟨k, chan, to_, hr, rfl⟩
    refine ⟨startIndex (foundRow o q w) + k, chan, to_, ⟨he, by omega, ?_⟩, rfl⟩
    rwa [show startIndex (foundRow o q w) + k - startIndex (foundRow o q w) = k by omega]

/-- From the in-memory dedup on; `dispatch` is the row read or created. -/
theorem mem_invocations_processClaimed (w : World) (attempt : Int) (dispatch : Option MessageDispatch)
    (x : Nat × MessagePayload × DispatchResult) :
    x ∈ invocations (processClaimed o env w q attempt dispatch).1.out ↔
      x ∈ invocations w.out ∨
      ((q.traceID ≠ "" → q.traceID ∉ w.dispatched) ∧ isExpired env q = false ∧
        LoopInvokes o env q dispatch.isSome ((allChannels q).drop (startIndex dispatch))
          (startIndex dispatch) x) := by
  unfold processClaimed
  by_cases hdup : q.traceID ≠ "" ∧ q.traceID ∈ w.dispatched
  · rw [if_pos hdup, ack_invocations]
    have : ¬ (q.traceID ≠ "" → q.traceID ∉ w.dispatched) := fun h => h hdup.1 hdup.2
    simp only [this, false_and, or_false]
  · rw [if_neg hdup]
    have hfresh : q.traceID ≠ "" → q.traceID ∉ w.dispatched := fun ht hm => hdup ⟨ht, hm⟩
    have hout : (if q.traceID ≠ "" then { w with dispatched := q.traceID :: w.dispatched } else w).out = w.out := by
      split <;> rfl
    generalize (if q.traceID ≠ "" then { w with dispatched := q.traceID :: w.dispatched } else w) = w₁ at hout ⊢
    cases hexp : isExpired env q with
    | true =>
      cases dispatch <;> simp [hout]
    | false =>
      simp only [Bool.false_eq_true, if_false]
      by_cases hoob : startIndex dispatch ≥ (allChannels q).length
      · rw [if_pos hoob, ack_invocations, hout]
        have hnone : ¬ LoopInvokes o env q dispatch.isSome ((allChannels q).drop (startIndex dispatch))
            (startIndex dispatch) x := by
          rintro ⟨k, chan, to_, hr, -⟩
          have hat := hr.at_
          rw [List.drop_eq_nil_of_le hoob] at hat
          exact absurd hat (by simp)
        simp only [hnone, and_false, or_false]
      · rw [if_neg hoob]
        have hloop := mem_invocations_fallbackLoop o env q attempt dispatch (allChannels q) (startIndex dispatch)
          ((allChannels q).drop (startIndex dispatch)) (startIndex dispatch)
          ⟨none, "", startIndex dispatch, "", startIndex dispatch⟩ w₁ x
        generalize fallbackLoop o env q attempt dispatch (allChannels q) (startIndex dispatch)
          ((allChannels q).drop (startIndex dispatch)) (startIndex dispatch)
          ⟨none, "", startIndex dispatch, "", startIndex dispatch⟩ w₁ = r at hloop ⊢
        rw [hout] at hloop
        rw [and_iff_right hfresh, true_and]
        obtain ⟨w₂, exit⟩ := r
        cases exit with
        | returned err => exact hloop
        | finished v => simpa [allChannelsFailed] using hloop

variable {o env q} in
theorem Enters.checksTTL {w : World} (h : Enters o env q w) : ChecksTTL o env q w :=
  ⟨h.notPrivate, h.row, h.notSent, h.notClaimed⟩

theorem process_of_checksTTL {w : World} (he : ChecksTTL o env q w) (attempt : Int) :
    ∃ dispatch w₁, dispatch.isSome = tracked o q ∧ startIndex dispatch = startIndex (foundRow o q w) ∧
      w₁.dispatched = w.dispatched ∧
      (∀ d, dispatch = some d → d.status ≠ "sent" ∧ w₁.table.get q.traceID = some d ∧
        (foundRow o q w = some d ∨ (foundRow o q w = none ∧ d.status = "queued"))) ∧
      invocations w₁.out = invocations w.out ∧
      process o env w q attempt = processClaimed o env w₁ q attempt dispatch := by
  unfold process
  simp only [he.notPrivate, Bool.false_eq_true, if_false]
  cases htr : tracked o q with
  | false =>
    have hn : ¬ (o.dispatchRepo = true ∧ q.traceID ≠ "") := by simpa [tracked] using htr
    refine ⟨none, w, rfl, ?_, rfl, (fun _ hd => nomatch hd), rfl, if_neg hn⟩
    simp [foundRow, htr]
  | true =>
    have hp : o.dispatchRepo = true ∧ q.traceID ≠ "" := by simpa [tracked] using htr
    obtain ⟨hws, hget⟩ := he.row htr
    obtain ⟨d, table, heq, hd, -, hold⟩ := getOrCreate_spec w.table q.workspaceID q.traceID q.channel
      q.campaignID (if q.templateName ≠ "" then some q.templateName else none) q.variablesJSON
    have hrow : foundRow o q w = w.table.get q.traceID := by simp [foundRow, htr]
    have hfound : foundRow o q w = some d ∨ (foundRow o q w = none ∧ d.status = "queued") := by
      rw [hrow]
      exact hold.imp And.left fun h => ⟨h.1, h.2.1⟩
    have hstart : startIndex (some d) = startIndex (foundRow o q w) := by
      rw [hrow]
      rcases hold with ⟨hr, -⟩ | ⟨hn, -, hz⟩
      · rw [hr]
      · rw [hn]
        exact hz
    have hsent : d.status ≠ "sent" := by
      rcases hfound with hr | ⟨-, hq⟩
      · exact he.notSent d hr
      · rw [hq]
        decide
    rw [if_pos hp, if_neg hws]
    simp only [hget, heq]
    rw [if_neg hsent]
    refine ⟨some d, _, rfl, hstart, ?_, ?_, ?_, rfl⟩
    · split
      · exact publish_dispatched o env _ _ _ _ _ _ _
      · rfl
    · rintro _ ⟨⟩
      refine ⟨hsent, ?_, hfound⟩
      split
      · rw [publish_table]
        exact hd
      · exact hd
    · split
      · exact publish_invocations o env _ _ _ _ _ _ _
      · rfl

/-- **The invocations of a call.** -/
theorem mem_invocations_process (w : World) (attempt : Int) (x : Nat × MessagePayload × DispatchResult) :
    x ∈ invocations (process o env w q attempt).1.out ↔
      x ∈ invocations w.out ∨ CallInvokes o env q w x := by
  by_cases he : Enters o env q w
  · obtain ⟨dispatch, w₁, hrow, hstart, hd, -, hout, heq⟩ := process_of_checksTTL o env q he.checksTTL attempt
    rw [callInvokes_iff o env q he, heq, mem_invocations_processClaimed, hout, hd, hrow, hstart]
    simp only [he.notExpired, true_and, and_iff_right he.notClaimed]
  · -- the call ends before the loop
    have hnone : ¬ CallInvokes o env q w x := by
      rintro ⟨i, chan, to_, hr, -⟩
      exact he hr.enters
    simp only [hnone, or_false]
    unfold process
    cases hpriv : isPrivateNote q with
    | true => simp
    | false =>
    simp only [Bool.false_eq_true, if_false]
    cases htr : tracked o q with
    | false =>
      have hn : ¬ (o.dispatchRepo = true ∧ q.traceID ≠ "") := by
        simpa [tracked] using htr
      rw [if_neg hn, mem_invocations_processClaimed]
      constructor
      · rintro (h | ⟨hc, hx, -⟩)
        · exact h
        · refine absurd ⟨hpriv, fun h => ?_, fun r h => ?_, hc, hx⟩ he
          · rw [htr] at h; cases h
          · simp [foundRow, htr] at h
      · exact Or.inl
    | true =>
    have hp : o.dispatchRepo = true ∧ q.traceID ≠ "" := by
      simpa [tracked] using htr
    rw [if_pos hp]
    by_cases hws : q.workspaceID = UUID.Nil
    · simp [hws]
    rw [if_neg hws]
    cases hget : env.getOrCreateErr with
    | some e => simp
    | none =>
    obtain ⟨d, table, heq, -, -, hold⟩ := getOrCreate_spec w.table q.workspaceID q.traceID q.channel
      q.campaignID (if q.templateName ≠ "" then some q.templateName else none) q.variablesJSON
    simp only [heq]
    by_cases hsent : d.status = "sent"
    · simp [hsent]
    rw [if_neg hsent, mem_invocations_processClaimed]
    have hd : (if d.status = "queued" then publishWebhookEvent o env { w with table := table } q.workspaceID
        q.traceID d.id "queued" q.channel none else { w with table := table }).dispatched = w.dispatched := by
      split <;> simp
    have hi : invocations (if d.status = "queued" then publishWebhookEvent o env { w with table := table }
        q.workspaceID q.traceID d.id "queued" q.channel none else { w with table := table }).out =
        invocations w.out := by
      split <;> simp
    rw [hd, hi]
    constructor
    · rintro (h | ⟨hc, hx, -⟩)
      · exact h
      · refine absurd ⟨hpriv, fun _ => ⟨hws, hget⟩, fun r hr => ?_, hc, hx⟩ he
        rcases hold with ⟨h', -⟩ | ⟨h', -⟩
        · simp only [foundRow, htr, if_true, h', Option.some.injEq] at hr
          rw [← hr]; exact hsent
        · simp [foundRow, htr, h'] at hr
    · exact Or.inl

theorem attemptPayload_eq (chan to_ : String) :
    ∃ address, attemptPayload o env q chan to_ = { toPayload q chan with to_ := address } := by
  unfold attemptPayload dispatchTarget
  split
  · split <;> exact ⟨_, rfl⟩
  · exact ⟨_, rfl⟩

/-- The dispatcher invocations of one call of `Process`. -/
def callInvocations (w : World) (attempt : Int) : List (Nat × MessagePayload × DispatchResult) :=
  invocations (process o env { w with out := [] } q attempt).1.out

theorem mem_callInvocations (w : World) (attempt : Int) (x : Nat × MessagePayload × DispatchResult) :
    x ∈ callInvocations o env q w attempt ↔ CallInvokes o env q { w with out := [] } x := by
  rw [callInvocations, mem_invocations_process]
  simp [invocations]

/-- From `w` to `w'` dispatchers were invoked in the order of their channels. -/
def Climbs (w w' : World) : Prop :=
  ∃ xs, invocations w'.out = invocations w.out ++ xs ∧ xs.Pairwise (·.1 < ·.1)

theorem Climbs.of_eq {w w' : World} (h : invocations w'.out = invocations w.out) : Climbs w w' :=
  ⟨[], by rw [h, List.append_nil], .nil⟩

theorem processClaimed_climbs {w w₀ : World} (h : invocations w₀.out = invocations w.out) (attempt : Int)
    (dispatch : Option MessageDispatch) : Climbs w (processClaimed o env w₀ q attempt dispatch).1 := by
  unfold processClaimed
  split
  · exact .of_eq ((ack_invocations ..).trans h)
  · have hw₁ : invocations (if q.traceID ≠ "" then { w₀ with dispatched := q.traceID :: w₀.dispatched } else w₀).out =
        invocations w.out := by
      split <;> exact h
    generalize (if q.traceID ≠ "" then { w₀ with dispatched := q.traceID :: w₀.dispatched } else w₀) = w₁ at hw₁ ⊢
    simp only
    split
    · refine .of_eq ((ack_invocations ..).trans ?_)
      cases dispatch with
      | none => exact hw₁
      | some d => exact (setStatus_invocations ..).trans hw₁
    · split
      · exact .of_eq ((ack_invocations ..).trans hw₁)
      · obtain ⟨xs, heq, hsorted, -⟩ := invocations_fallbackLoop_sorted o env q attempt dispatch (allChannels q)
          (startIndex dispatch) ((allChannels q).drop (startIndex dispatch)) (startIndex dispatch)
          ⟨none, "", startIndex dispatch, "", startIndex dispatch⟩ w₁
        generalize fallbackLoop o env q attempt dispatch (allChannels q) (startIndex dispatch)
          ((allChannels q).drop (startIndex dispatch)) (startIndex dispatch)
          ⟨none, "", startIndex dispatch, "", startIndex dispatch⟩ w₁ = r at heq ⊢
        rw [hw₁] at heq
        obtain ⟨w₂, exit⟩ := r
        cases exit with
        | returned err => exact ⟨xs, heq, hsorted⟩
        | finished v => exact ⟨xs, by simpa [allChannelsFailed] using heq, hsorted⟩

/-- A call invokes dispatchers in the order of its channels. -/
theorem process_climbs (w : World) (attempt : Int) : Climbs w (process o env w q attempt).1 := by
  unfold process
  split
  · exact .of_eq (ack_invocations ..)
  split
  · split
    · exact .of_eq (handleFailure_invocations ..)
    · split
      · exact .of_eq (handleFailure_invocations ..)
      · generalize w.table.getOrCreateDispatch q.workspaceID q.traceID q.channel q.campaignID
          (if q.templateName ≠ "" then some q.templateName else none) q.variablesJSON = row
        obtain ⟨d, table⟩ := row
        simp only
        split
        · exact .of_eq (ack_invocations ..)
        · refine processClaimed_climbs o env q ?_ attempt _
          split
          · rw [publish_invocations]
          · rfl
  · exact processClaimed_climbs o env q rfl attempt none

theorem callInvocations_sorted (w : World) (attempt : Int) :
    (callInvocations o env q w attempt).Pairwise (·.1 < ·.1) := by
  obtain ⟨xs, heq, hsorted⟩ := process_climbs o env q { w with out := [] } attempt
  rw [callInvocations, heq]
  exact hsorted

end Call

end PerGo.L3
