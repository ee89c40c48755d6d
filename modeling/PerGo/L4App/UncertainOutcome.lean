import PerGo.L3Queue.Invocations
import PerGo.L4App.DispatchRun

/-!
# Uncertain outcomes

An adapter that cannot tell whether the provider took the message answers with an error for which
`IsUncertain` of `channel/dispatcher.go` holds; its comment says that the worker does not
retry then. `processMessage` asks `IsUncertain` only after `Process` has NAKed the message, and logs.

A run is a run of the outbound dispatch (`DispatchRun`), with the answers of the dispatchers in the
order they were given. What an error says under `IsUncertain` is the adapter's choice, like the error.

* `NotRetried`: after an uncertain answer no dispatcher is invoked for the trace.
* `Spares` is the condition on a step: a trace with an uncertain answer is delivered after a restart only
  where `Process` stops before its channels; and an uncertain answer is not a terminal one at a channel with
  another to fall back to. Without a restart the in-memory set stops the call (`Inv.remembered`).

Results: `uncertain_not_retried`, and `retried_after_restart` for a run that fails.
-/
namespace PerGo.L4.UncertainOutcome

open PerGo.Core PerGo.L1 PerGo.L2 PerGo.L3

/-- The answer of a dispatcher, for the trace of its message. -/
structure Answer where
  trace : String
  index : Nat
  uncertain : Bool
deriving DecidableEq

structure St where
  dispatch : DispatchRun.St
  answers : List Answer
  /-- those given before the last restart -/
  earlier : List Answer

inductive Lbl
  /-- `uncertain` is `IsUncertain` of the error at a channel index -/
  | run (l : DispatchRun.Lbl) (uncertain : Nat → Bool)
  /-- the worker acks without a call of `Process`: an unreadable payload, no orchestrator, or a claim of
  another worker -/
  | skip (q : QueueMessage)

section System

variable (o : Orchestrator)

def answersOf (s : DispatchRun.St) (uncertain : Nat → Bool) : DispatchRun.Lbl → List Answer
  | .deliver q attempt env =>
    (callInvocations o env q s.world attempt).map fun x => ⟨q.traceID, x.1, x.2.2.err.isSome && uncertain x.1⟩
  | _ => []

def earlierOf (s : St) : DispatchRun.Lbl → List Answer
  | .restart => s.answers
  | _ => s.earlier

/-- mirrors queue/worker.go:86-138 -/
def step (s : St) : Lbl → Option St
  | .run l uncertain =>
    (DispatchRun.step o s.dispatch l).map fun s' =>
      ⟨s', s.answers ++ answersOf o s.dispatch uncertain l, earlierOf s l⟩
  | .skip q => some { s with dispatch := { s.dispatch with pending := s.dispatch.pending.erase q } }

def init : St := ⟨DispatchRun.init, [], []⟩

def sys : LTS St Lbl := LTS.ofFn init (step o)

/-- After an uncertain answer no dispatcher is invoked for its trace. -/
def NotRetried (s : St) : Prop := s.answers.Pairwise fun a b => a.uncertain = true → b.trace ≠ a.trace

/-! ## The condition -/

def Doubted (answers : List Answer) (trace : String) : Prop := ∃ a ∈ answers, a.trace = trace ∧ a.uncertain = true

/-- The recipient has an identity on channel `i`, and the channel has a dispatcher. -/
def CanInvoke (env : Env) (q : QueueMessage) (i : Nat) : Prop :=
  ∃ chan, (allChannels q)[i]? = some chan ∧ resolveRecipientForChannel o env q.workspaceID q.to_ chan ≠ none ∧
    registered o chan = true

/-- The call stops before its channels, or none of the remaining ones can be invoked. -/
def Stops (env : Env) (q : QueueMessage) (w : World) : Prop :=
  ¬ Enters o env q w ∨ ∀ i, startIndex (foundRow o q w) ≤ i → ¬ CanInvoke o env q i

/-- The dispatcher of channel `i` answers with an error that is uncertain and terminal. -/
def DoubtsAndRefuses (env : Env) (q : QueueMessage) (uncertain : Nat → Bool) (i : Nat) : Prop :=
  uncertain i = true ∧ ∃ chan to_ e, (allChannels q)[i]? = some chan ∧
    resolveRecipientForChannel o env q.workspaceID q.to_ chan = some to_ ∧ registered o chan = true ∧
    (env.dispatch i (attemptPayload o env q chan to_)).err = some e ∧ e.terminal = true

/-- A trace with an uncertain answer is delivered after a restart only where it stops, and so is one without a
name, which the in-memory set does not take; and no channel follows an uncertain answer within a call. -/
def Spares (s : St) : Lbl → Prop
  | .run (.deliver q _ env) uncertain =>
    (Doubted s.earlier q.traceID ∨ q.traceID = "" ∧ Doubted s.answers q.traceID → Stops o env q s.dispatch.world) ∧
    ∀ i j, startIndex (foundRow o q s.dispatch.world) ≤ i → i < j → DoubtsAndRefuses o env q uncertain i →
      ¬ CanInvoke o env q j
  | _ => True

end System

/-! ## One call -/

section OneCall

variable {o : Orchestrator} {env : Env} {q : QueueMessage} {w : World} {attempt : Int}

theorem Reaches.canInvoke {i : Nat} {chan to_ : String} (h : Reaches o env q w i chan to_) : CanInvoke o env q i :=
  ⟨chan, h.at_, by rw [h.loop.resolved]; nofun, h.loop.registered⟩

theorem callInvocations_of_stops (w : World) (attempt : Int) (h : Stops o env q { w with out := [] }) :
    callInvocations o env q w attempt = [] := by
  refine List.eq_nil_iff_forall_not_mem.mpr fun x hx => ?_
  obtain ⟨i, chan, to_, hr, -⟩ := (mem_callInvocations o env q w attempt x).mp hx
  rcases h with hstop | hnone
  · exact hstop hr.enters
  · exact hnone i hr.started (Reaches.canInvoke hr)

theorem refused_before {x y : Nat × MessagePayload × DispatchResult} (hx : x ∈ callInvocations o env q w attempt)
    (hy : y ∈ callInvocations o env q w attempt) (hlt : x.1 < y.1) :
    startIndex (foundRow o q { w with out := [] }) ≤ x.1 ∧ CanInvoke o env q y.1 ∧
      ∃ chan to_ e, (allChannels q)[x.1]? = some chan ∧
        resolveRecipientForChannel o env q.workspaceID q.to_ chan = some to_ ∧ registered o chan = true ∧
        (env.dispatch x.1 (attemptPayload o env q chan to_)).err = some e ∧ e.terminal = true := by
  obtain ⟨i, chan, to_, hr, rfl⟩ := (mem_callInvocations o env q w attempt x).mp hx
  obtain ⟨j, chan', to', hr', rfl⟩ := (mem_callInvocations o env q w attempt y).mp hy
  refine ⟨hr.started, Reaches.canInvoke hr', chan, to_, ?_⟩
  rcases hr'.goesOn hr.started hlt hr.at_ with hnone | ⟨to₁, e, hres, -, hreg, herr, hterm⟩
  · rw [hr.loop.resolved] at hnone
    cases hnone
  · rw [hr.loop.resolved] at hres
    obtain rfl := Option.some.inj hres
    exact ⟨e, hr.at_, hr.loop.resolved, hreg, herr, hterm⟩

end OneCall

/-! ## The in-memory set -/

section Remembered

variable (o : Orchestrator) (env : Env)

@[simp] theorem ack_dispatched (w : World) (ws : UUID) : (ack o w ws).dispatched = w.dispatched := by
  unfold L3.ack
  dsimp only
  split <;> rfl

@[simp] theorem audit_dispatched (w : World) (ws : UUID) (trace : String) (p : AuditPayload) :
    (audit o w ws trace p).dispatched = w.dispatched := by
  unfold audit
  split <;> rfl

@[simp] theorem handleFailure_dispatched (w : World) (ws : UUID) (attempt : Int) :
    (handleFailure o env w ws attempt).dispatched = w.dispatched := by
  unfold handleFailure
  dsimp only
  split
  · simp
  · split <;> simp

@[simp] theorem setStatus_dispatched (w : World) (q : QueueMessage) (dispatch : Option MessageDispatch)
    (status chan : String) (idx : Nat) (err : Option String) :
    (setStatus o env w q dispatch status chan idx err).dispatched = w.dispatched := by
  cases dispatch with
  | none => rfl
  | some d =>
    simp only [setStatus, publish_dispatched]
    split <;> rfl

@[simp] theorem markSent_dispatched (w : World) (q : QueueMessage) (dispatch : Option MessageDispatch)
    (chan : String) (i : Nat) (resp : String) :
    (markSent o env w q dispatch chan i resp).dispatched = w.dispatched := by
  cases dispatch <;> simp [markSent]

@[simp] theorem beginAttempt_dispatched (w : World) (q : QueueMessage) (dispatch : Option MessageDispatch)
    (all : List String) (start i : Nat) (v : LoopVars) (chan to_ : String) :
    (beginAttempt o env w q dispatch all start i v chan to_).1.dispatched = w.dispatched := by
  have hw : (if i > start then audit o w q.workspaceID q.traceID (.fallbackTransition
      (if v.lastAttemptedChannel = "" ∧ i > 0 then all.getD (i - 1) "" else v.lastAttemptedChannel) chan to_ i)
      else w).dispatched = w.dispatched := by
    split <;> simp
  unfold beginAttempt
  dsimp only
  split
  · exact hw
  · split
    · exact hw
    · simpa using hw

@[simp] theorem dispatchToChannel_dispatched (w : World) (i : Nat) (chan : String) (q : QueueMessage) :
    (dispatchToChannel o env w i chan q).2.2.dispatched = w.dispatched := by
  unfold dispatchToChannel
  split <;> rfl

theorem fallbackLoop_dispatched (q : QueueMessage) (attempt : Int) (dispatch : Option MessageDispatch)
    (all : List String) (start : Nat) (chans : List String) (i : Nat) (v : LoopVars) (w : World) :
    (fallbackLoop o env q attempt dispatch all start chans i v w).1.dispatched = w.dispatched := by
  induction chans generalizing i v w with
  | nil => rfl
  | cons chan rest ih =>
    unfold fallbackLoop
    dsimp only
    split
    · rw [ih, audit_dispatched]
    · rename_i to_ _
      have hbegin := beginAttempt_dispatched o env w q dispatch all start i
        { v with lastChannel := chan, currentIndex := i } chan to_
      split
      · rename_i heq
        rw [heq] at hbegin
        rw [handleFailure_dispatched]
        exact hbegin
      · rename_i heq
        rw [heq] at hbegin
        split
        · simpa using hbegin
        · split
          · rw [ih, audit_dispatched, dispatchToChannel_dispatched]
            exact hbegin
          · simpa using hbegin

/-- From the in-memory dedup on, the trace is in the set, and nothing leaves it. -/
theorem processClaimed_dispatched (w : World) (q : QueueMessage) (attempt : Int) (dispatch : Option MessageDispatch) :
    w.dispatched ⊆ (processClaimed o env w q attempt dispatch).1.dispatched ∧
    (q.traceID ≠ "" → q.traceID ∈ (processClaimed o env w q attempt dispatch).1.dispatched) := by
  unfold processClaimed
  by_cases hdup : q.traceID ≠ "" ∧ q.traceID ∈ w.dispatched
  · rw [if_pos hdup, ack_dispatched]
    exact ⟨fun _ h => h, fun _ => hdup.2⟩
  rw [if_neg hdup]
  dsimp only
  have hset : w.dispatched ⊆ (if q.traceID ≠ "" then { w with dispatched := q.traceID :: w.dispatched } else w).dispatched ∧
      (q.traceID ≠ "" →
        q.traceID ∈ (if q.traceID ≠ "" then { w with dispatched := q.traceID :: w.dispatched } else w).dispatched) := by
    split
    · exact ⟨List.subset_cons_self _ _, fun _ => List.mem_cons_self⟩
    · rename_i hempty
      exact ⟨fun _ h => h, fun h => absurd h hempty⟩
  generalize (if q.traceID ≠ "" then { w with dispatched := q.traceID :: w.dispatched } else w) = w₁ at hset ⊢
  split
  · split <;> simpa using hset
  split
  · simpa using hset
  have hloop := fallbackLoop_dispatched o env q attempt dispatch (allChannels q) (startIndex dispatch)
    ((allChannels q).drop (startIndex dispatch)) (startIndex dispatch)
    ⟨none, "", startIndex dispatch, "", startIndex dispatch⟩ w₁
  rw [← hloop] at hset
  split
  · rename_i heq
    rw [heq] at hset
    exact hset
  · rename_i heq
    rw [heq] at hset
    simpa [allChannelsFailed] using hset

theorem process_dispatched (w : World) (q : QueueMessage) (attempt : Int) :
    w.dispatched ⊆ (process o env w q attempt).1.dispatched := by
  unfold process
  split
  · simp
  split
  · split
    · simp
    cases env.getOrCreateErr with
    | some e => simp
    | none =>
      generalize w.table.getOrCreateDispatch q.workspaceID q.traceID q.channel q.campaignID
        (if q.templateName ≠ "" then some q.templateName else none) q.variablesJSON = r
      dsimp only
      split
      · simp
      · refine fun t ht => (processClaimed_dispatched o env _ _ _ _).1 ?_
        split <;> simpa using ht
  · exact (processClaimed_dispatched o env _ _ _ _).1

/-- A call that gets to its channels has put its trace into the set. -/
theorem mem_dispatched_of_enters {w : World} {q : QueueMessage} (h : Enters o env q w) (hne : q.traceID ≠ "")
    (attempt : Int) : q.traceID ∈ (process o env w q attempt).1.dispatched := by
  obtain ⟨dispatch, w₁, -, -, -, -, -, heq⟩ := process_of_checksTTL o env q h.checksTTL attempt
  rw [heq]
  exact (processClaimed_dispatched o env _ _ _ _).2 hne

end Remembered

/-! ## Every run -/

section Run

variable (o : Orchestrator)

/-- What was answered since the restart is in the in-memory set. -/
structure Inv (s : St) : Prop where
  notRetried : NotRetried s
  remembered : ∀ a ∈ s.answers, a ∈ s.earlier ∨ a.trace = "" ∨ a.trace ∈ s.dispatch.dispatched

theorem Inv.stops {s : St} (hs : Inv s) {q : QueueMessage} {env : Env} {uncertain : Nat → Bool} {attempt : Int}
    (h : Spares o s (.run (.deliver q attempt env) uncertain)) (hd : Doubted s.answers q.traceID) :
    Stops o env q s.dispatch.world := by
  obtain ⟨a, ha, htrace, hdoubt⟩ := hd
  by_cases hne : q.traceID = ""
  · exact h.1 (Or.inr ⟨hne, a, ha, htrace, hdoubt⟩)
  rcases hs.remembered a ha with hearlier | hempty | hmem
  · exact h.1 (Or.inl ⟨a, hearlier, htrace, hdoubt⟩)
  · exact absurd (htrace.symm.trans hempty) hne
  · rw [htrace] at hmem
    exact Or.inl fun henters => henters.notClaimed hne hmem

theorem notRetried_deliver {s : St} {q : QueueMessage} {env : Env} {uncertain : Nat → Bool} (attempt : Int)
    (hs : Inv s) (h : Spares o s (.run (.deliver q attempt env) uncertain)) :
    (s.answers ++ answersOf o s.dispatch uncertain (.deliver q attempt env)).Pairwise
      fun a b => a.uncertain = true → b.trace ≠ a.trace := by
  refine List.pairwise_append.mpr ⟨hs.notRetried, ?_, ?_⟩
  · -- within the call, only a terminal error is followed by another channel
    refine List.pairwise_map.mpr ((callInvocations_sorted o env q s.dispatch.world attempt).imp_of_mem ?_)
    intro x y hx hy hlt hdoubt
    obtain ⟨hstart, hcan, herr⟩ := refused_before hx hy hlt
    have huncertain : uncertain x.1 = true := (Bool.and_eq_true_iff.mp hdoubt).2
    exact absurd hcan (h.2 x.1 y.1 hstart hlt ⟨huncertain, herr⟩)
  · -- a trace in doubt brings no answer
    intro a ha b hb hdoubt htrace
    obtain ⟨x, hx, rfl⟩ := List.mem_map.mp hb
    rw [callInvocations_of_stops s.dispatch.world attempt (hs.stops o h ⟨a, ha, htrace.symm, hdoubt⟩)] at hx
    cases hx

theorem remembered_deliver {s : St} (hs : Inv s) (q : QueueMessage) (env : Env) (uncertain : Nat → Bool)
    (attempt : Int) : ∀ a ∈ s.answers ++ answersOf o s.dispatch uncertain (.deliver q attempt env),
      a ∈ s.earlier ∨ a.trace = "" ∨ a.trace ∈ (DispatchRun.deliver o s.dispatch q attempt env).dispatched := by
  intro a ha
  rcases List.mem_append.mp ha with hold | hnew
  · refine (hs.remembered a hold).imp_right fun h => h.imp_right fun hmem => ?_
    exact process_dispatched o env _ _ _ hmem
  · obtain ⟨x, hx, rfl⟩ := List.mem_map.mp hnew
    obtain ⟨i, chan, to_, hr, -⟩ := (mem_callInvocations o env q s.dispatch.world attempt x).mp hx
    by_cases hne : q.traceID = ""
    · exact Or.inr (Or.inl hne)
    · exact Or.inr (Or.inr (mem_dispatched_of_enters o env hr.enters hne attempt))

theorem inv_inductive : ((sys o).restrict (Spares o)).Inductive Inv := by
  refine LTS.Inductive.of_restrict ?_ ?_
  · rintro s rfl
    exact ⟨.nil, fun a ha => by cases ha⟩
  · intro s l s' hs hg hst
    cases l with
    | skip q =>
      obtain rfl := Option.some.inj hst
      exact ⟨hs.notRetried, hs.remembered⟩
    | run l uncertain =>
      obtain ⟨d, hd, rfl⟩ := Option.map_eq_some_iff.mp hst
      cases l with
      | deliver q attempt env =>
        simp only [DispatchRun.step] at hd
        split at hd
        · cases hd
          exact ⟨notRetried_deliver o attempt hs hg, remembered_deliver o hs q env uncertain attempt⟩
        · cases hd
      | enqueue q =>
        cases hd
        exact ⟨by simpa [NotRetried, answersOf] using hs.notRetried,
          by simpa [answersOf, earlierOf] using hs.remembered⟩
      | restart =>
        cases hd
        exact ⟨by simpa [NotRetried, answersOf] using hs.notRetried,
          fun a ha => Or.inl (by simpa [answersOf, earlierOf] using ha)⟩
      | statusUpdate pid body =>
        cases hd
        exact ⟨by simpa [NotRetried, answersOf] using hs.notRetried,
          by simpa [answersOf, earlierOf] using hs.remembered⟩

/-- Uncertain outcomes are not retried in every run in which a trace with an uncertain answer is delivered
after a restart only where it stops, and no uncertain answer is a terminal one with a channel to fall back to. -/
theorem uncertain_not_retried {s : St} (h : ((sys o).restrict (Spares o)).Reachable s) : NotRetried s :=
  ((inv_inductive o).reachable h).notRetried

end Run

/-! ## A timeout -/

open DispatchRun (sampleText answering accepts)

def timesOut : Env := answering ⟨"", some ⟨"uncertain: context deadline exceeded", false⟩⟩

/-- The redelivery finds the trace in the in-memory set. -/
def sameProcess : List Lbl :=
  [.run (.enqueue sampleText) fun _ => true, .run (.deliver sampleText 0 timesOut) fun _ => true,
    .run (.deliver sampleText 1 accepts) fun _ => false]

theorem uncertain_not_retried_sameProcess : ∃ s, ((sys serverOrchestrator).restrict (Spares serverOrchestrator)).Reachable s ∧
    s.answers = [⟨"t-1", 0, true⟩] ∧ NotRetried s := by
  have hlast : ∀ env i, ¬ CanInvoke serverOrchestrator env sampleText (i + 1) := by
    rintro env i ⟨chan, hat, -⟩
    simp [allChannels, sampleText] at hat
  have hone : ∀ env i j uncertain, i < j → DoubtsAndRefuses serverOrchestrator env sampleText uncertain i →
      ¬ CanInvoke serverOrchestrator env sampleText j := by
    intro env i j uncertain hij _
    obtain ⟨k, rfl⟩ := Nat.exists_eq_succ_of_ne_zero (Nat.ne_zero_of_lt hij)
    exact hlast env k
  obtain ⟨s, hs⟩ : ∃ s, LTS.exec (step serverOrchestrator) init sameProcess = some s := ⟨_, rfl⟩
  have hr := LTS.exec_restrict_reachable hs (G := Spares serverOrchestrator) (by
    refine ⟨trivial, ?_⟩
    rintro _ ⟨⟩
    refine ⟨⟨by simp [init, Doubted, earlierOf, sampleText], fun i j _ hij => hone _ i j _ hij⟩, ?_⟩
    rintro _ ⟨⟩
    exact ⟨⟨by simp [init, Doubted, earlierOf, sampleText], fun i j _ hij => hone _ i j _ hij⟩, fun _ _ => trivial⟩)
  refine ⟨s, hr, ?_, uncertain_not_retried serverOrchestrator hr⟩
  cases hs
  decide +kernel

def afterRestart : List Lbl :=
  [.run (.enqueue sampleText) fun _ => true, .run (.deliver sampleText 0 timesOut) fun _ => true,
    .run .restart fun _ => true, .run (.deliver sampleText 1 accepts) fun _ => false]

theorem retried_after_restart : ∃ s, (sys serverOrchestrator).Reachable s ∧
    s.answers = [⟨"t-1", 0, true⟩, ⟨"t-1", 0, false⟩] ∧ ¬ NotRetried s := by
  obtain ⟨s, hs⟩ : ∃ s, LTS.exec (step serverOrchestrator) init afterRestart = some s := ⟨_, rfl⟩
  have hanswers : s.answers = [⟨"t-1", 0, true⟩, ⟨"t-1", 0, false⟩] := by
    cases hs
    decide +kernel
  refine ⟨s, LTS.exec_reachable hs, hanswers, fun h => ?_⟩
  rw [NotRetried, hanswers] at h
  simp at h

end PerGo.L4.UncertainOutcome
