import PerGo.Core.LTS
import PerGo.L3Queue.ProcessSpec

/-!
# Runs of the outbound dispatch: no lost message, no second acceptance

The orchestrator of `queue/orchestrator.go` between its queue and the
message_dispatches table, over whole runs. A message is queued (a publish, or a
redelivery whose earlier ack never arrived), delivered to one `Process` call, which
drops the copy if it acks it; the orchestrator restarts with an empty in-memory
set; a provider status reaches its row (inbound/processor.go:439-456). `log` records
every call with what it did.

* `NoLostMessage`: every ack has a reason, at or before it, for its trace. The
  in-memory set breaks it: a message NAKed after a transient error is found in
  the set when it comes back, and acked as a duplicate (`nak_then_duplicate`).
  It holds in every run that delivers no NAKed trace to the same orchestrator
  again and never reaches a channel without a dispatcher (`no_lost_message`).
* `AtMostOnce`: after a dispatcher accepted a trace no later call invokes a
  dispatcher for it. A provider status moves the row past `sent`, and a fresh
  orchestrator then dispatches again (`redelivery_after_status_update`). It
  holds in every run where a row past `sent` is only delivered to an
  orchestrator that still has the trace in its set (`at_most_once`).
-/
namespace PerGo.L4.DispatchRun

open PerGo.Core PerGo.L1 PerGo.L2 PerGo.L3

/-- One `Process` call: its arguments, the index its loop starts at, and what it did. -/
structure Call where
  q : QueueMessage
  attempt : Int
  env : Env
  start : Nat
  out : List Effect

structure St where
  dispatched : List String
  table : Dispatches
  pending : List QueueMessage
  log : List Call

inductive Lbl
  | enqueue (q : QueueMessage)
  | deliver (q : QueueMessage) (attempt : Int) (env : Env)
  | restart
  | statusUpdate (pid body : String)

def init : St := ⟨[], Dispatches.empty, [], []⟩

/-- mirrors processor.go:444-456 -/
def applyStatusUpdate (table : Dispatches) (pid body : String) : Dispatches :=
  match table.getByProviderMessageID pid with
  | none => table
  | some d => table.updateDispatchStatus d.id body d.currentChannel d.fallbackIndex none

def St.world (s : St) : World := ⟨s.dispatched, s.table, []⟩

/-- The state after a `Process` call. -/
def deliver (o : Orchestrator) (s : St) (q : QueueMessage) (attempt : Int) (env : Env) : St :=
  let w := (process o env s.world q attempt).1
  { dispatched := w.dispatched, table := w.table,
    pending := if .ack ∈ w.out then s.pending.erase q else s.pending,
    log := s.log ++ [⟨q, attempt, env, startIndexOf o q s.world, w.out⟩] }

def step (o : Orchestrator) (s : St) : Lbl → Option St
  | .enqueue q => some { s with pending := s.pending ++ [q] }
  | .deliver q attempt env => if q ∈ s.pending then some (deliver o s q attempt env) else none
  | .restart => some { s with dispatched := [] }
  | .statusUpdate pid body => some { s with table := applyStatusUpdate s.table pid body }

def sys (o : Orchestrator) : LTS St Lbl := LTS.ofFn init (step o)

/-! ## Calls, acceptances and rows -/

/-- A dispatcher accepted the message in this call. -/
def Accepted (c : Call) : Prop := ∃ i p res, Effect.invoke i p res ∈ c.out ∧ res.err = none

def okInvoke : Effect → Bool
  | .invoke _ _ res => res.err = none
  | _ => false

theorem accepted_iff_any {c : Call} : Accepted c ↔ c.out.any okInvoke = true := by
  constructor
  · rintro ⟨i, p, res, hm, hok⟩
    exact List.any_eq_true.mpr ⟨_, hm, by simp [okInvoke, hok]⟩
  · intro h
    obtain ⟨x, hm, hx⟩ := List.any_eq_true.mp h
    cases x with
    | invoke i p res => exact ⟨i, p, res, hm, by simpa [okInvoke] using hx⟩
    | _ => simp [okInvoke] at hx

instance (c : Call) : Decidable (Accepted c) := decidable_of_iff _ accepted_iff_any.symm

/-- Why a message may be acked. -/
inductive Reason (o : Orchestrator) (c : Call) : Prop
  | accepted (h : Accepted c)
  /-- every remaining channel failed terminally or had no recipient identity -/
  | exhausted (h : ∀ (i : Nat) (chan : String), c.start ≤ i → (allChannels c.q)[i]? = some chan →
      resolveRecipientForChannel o c.env c.q.workspaceID c.q.to_ chan = none ∨ TerminalIn i c.out)
  | expired (h : isExpired c.env c.q = true)
  | privateNote (h : isPrivateNote c.q = true)
  /-- `handleFailure` was reached with `attempt ≥ maxRetries` -/
  | retries (h : Effect.exhausted c.attempt ∈ c.out) (ge : c.attempt ≥ o.maxRetries)

/-- Every acked call has a reason for its trace, in that call or in an earlier one. -/
def NoLostMessage (o : Orchestrator) (s : St) : Prop :=
  ∀ before c after, s.log = before ++ c :: after → Effect.ack ∈ c.out →
    ∃ c' ∈ before ++ [c], c'.q.traceID = c.q.traceID ∧ Reason o c'

/-- After an accepting call no later call of the trace invokes a dispatcher. -/
def AtMostOnce (s : St) : Prop :=
  ∀ before c after, s.log = before ++ c :: after → Accepted c →
    ∀ c' ∈ after, c'.q.traceID = c.q.traceID → ∀ i p res, Effect.invoke i p res ∉ c'.out

theorem NoLostMessage.snoc {o : Orchestrator} {s s' : St} {c : Call} (hs : NoLostMessage o s)
    (hl : s'.log = s.log ++ [c])
    (hc : Effect.ack ∈ c.out → ∃ c' ∈ s.log ++ [c], c'.q.traceID = c.q.traceID ∧ Reason o c') :
    NoLostMessage o s' := by
  intro before c₁ after he hack
  rw [hl] at he
  rcases List.eq_nil_or_concat after with rfl | ⟨after', c₂, rfl⟩
  · obtain ⟨h1, h2⟩ := List.append_inj' he rfl
    cases h2; subst h1
    exact hc hack
  · have he' : s.log ++ [c] = (before ++ c₁ :: after') ++ [c₂] := by simpa using he
    obtain ⟨h1, _⟩ := List.append_inj' he' rfl
    exact hs before c₁ after' h1 hack

theorem AtMostOnce.snoc {s s' : St} {c : Call} (hs : AtMostOnce s) (hl : s'.log = s.log ++ [c])
    (hc : ∀ c₀ ∈ s.log, Accepted c₀ → c₀.q.traceID = c.q.traceID → ∀ i p res, Effect.invoke i p res ∉ c.out) :
    AtMostOnce s' := by
  intro before c₁ after he hacc c' hc' htr
  rw [hl] at he
  rcases List.eq_nil_or_concat after with rfl | ⟨after', c₂, rfl⟩
  · cases hc'
  · have he' : s.log ++ [c] = (before ++ c₁ :: after') ++ [c₂] := by simpa using he
    obtain ⟨h1, h2⟩ := List.append_inj' he' rfl
    cases h2
    rw [List.concat_eq_append] at hc'
    rcases List.mem_append.mp hc' with hm | hm
    · exact hs before c₁ after' h1 hacc c' hm htr
    · cases List.mem_singleton.mp hm
      exact hc c₁ (by rw [h1]; simp) hacc htr.symm

/-! ## One call -/

section OneCall

variable {o : Orchestrator} {env : Env} {q : QueueMessage} {attempt : Int} {w w' : World}

/-- The loop gets to channel `i`: every channel before it is passed over. -/
def Reached (o : Orchestrator) (env : Env) (q : QueueMessage) (start : Nat) (i : Nat) : Prop :=
  start ≤ i ∧ ∀ (j : Nat) (chan : String), start ≤ j → j < i → (allChannels q)[j]? = some chan →
    PassedOver o env q j chan

def AttemptsRegistered (o : Orchestrator) (env : Env) (q : QueueMessage) (start : Nat) : Prop :=
  ∀ (i : Nat) (chan : String), Reached o env q start i → (allChannels q)[i]? = some chan →
    resolveRecipientForChannel o env q.workspaceID q.to_ chan ≠ none →
    (o.dispatchRepo = true → env.sendingErr i = none) → registered o chan = true

/-- The message is looked at: no note, not expired, not in the in-memory set, and no row says `sent`. -/
def Begins (o : Orchestrator) (env : Env) (q : QueueMessage) (w : World) : Prop :=
  isPrivateNote q = false ∧ isExpired env q = false ∧ q.traceID ∉ w.dispatched ∧
    ∀ r, rowOf o q w = some r → r.status ≠ "sent"

def callOf (o : Orchestrator) (env : Env) (q : QueueMessage) (attempt : Int) (w w' : World) : Call :=
  ⟨q, attempt, env, startIndexOf o q w, w'.out⟩

/-- The index at which the loop's dispatch succeeded is one it attempted. -/
theorem reached_of_first {start : Nat} {k : Nat}
    (hf : ∀ j c, j < k → ((allChannels q).drop start)[j]? = some c →
      PassedOver o env q (start + j) c) : Reached o env q start (start + k) := by
  refine ⟨by omega, fun j chan hj hlt hc => ?_⟩
  obtain ⟨m, rfl⟩ : ∃ m, j = start + m := ⟨j - start, by omega⟩
  refine hf m chan (by omega) ?_
  rwa [List.getElem?_drop]

theorem accepted_of_sent {exit : LoopExit} {dispatch : Option MessageDispatch} {w₁ : World}
    (hreg : AttemptsRegistered o env q (startIndexOf o q w)) (row : dispatch = none → o.dispatchRepo = false)
    (loop : LoopOutcome o env q attempt dispatch ((allChannels q).drop (startIndexOf o q w))
      (startIndexOf o q w) w₁ (w', exit)) (hex : exit = .returned none) :
    Accepted (callOf o env q attempt w w') := by
  cases loop with
  | finished => cases hex
  | failed => cases hex
  | @sent w₂ _ k chan to_ res _ at_ resolved first began ok core _ _ =>
    have hr : registered o chan = true := by
      refine hreg _ chan (reached_of_first first) (by rwa [List.getElem?_drop] at at_) (by simp [resolved]) ?_
      intro hrepo
      rcases began with hn | hse
      · rw [row hn] at hrepo; cases hrepo
      · exact hse
    rw [if_pos hr] at core
    refine ⟨startIndexOf o q w + k, attemptPayload o env q chan to_, res, ?_, ok⟩
    have hm : Effect.invoke (startIndexOf o q w + k) (attemptPayload o env q chan to_) res ∈ L3.core w'.out := by
      rw [core]; simp
    exact (mem_core.mp hm).1

/-- A call that starts with nothing done acks only with a reason of its own, or because the row
says `sent`, or because the trace is in the in-memory set. -/
theorem ack_reason (h : CallOutcome o env q attempt w w') (h0 : w.out = [])
    (hreg : Begins o env q w → (attempt < o.maxRetries → env.nakErr = false) ∧
      AttemptsRegistered o env q (startIndexOf o q w)) (hack : Effect.ack ∈ w'.out) :
    (∃ r, w.table.get q.traceID = some r ∧ Settled r) ∨ q.traceID ∈ w.dispatched ∨
    Reason o (callOf o env q attempt w w') := by
  -- a message that is not looked at
  have hsent : ∀ r, rowOf o q w = some r → r.status = "sent" → w.table.get q.traceID = some r ∧ Settled r := by
    intro r hr hs
    unfold rowOf at hr
    split at hr
    · exact ⟨hr, Or.inl hs⟩
    · cases hr
  by_cases hlooked : Begins o env q w
  case neg =>
    by_cases hp : isPrivateNote q = true
    · exact Or.inr (Or.inr (.privateNote hp))
    by_cases he : isExpired env q = true
    · exact Or.inr (Or.inr (.expired he))
    by_cases hd : q.traceID ∈ w.dispatched
    · exact Or.inr (Or.inl hd)
    by_cases hs : ∃ r, rowOf o q w = some r ∧ r.status = "sent"
    · obtain ⟨r, hr, hs⟩ := hs
      exact Or.inl ⟨r, hsent r hr hs⟩
    · exact absurd ⟨Bool.eq_false_iff.mpr hp, Bool.eq_false_iff.mpr he, hd, fun r hr h => hs ⟨r, hr, h⟩⟩ hlooked
  obtain ⟨hnak, hreg⟩ := hreg hlooked
  have hno : ∀ {w₁ : World}, Prog q.traceID w w₁ → Effect.ack ∉ w₁.out := by
    intro w₁ hp hm
    have := hp.mem_out rfl (fun ⟨_, _, _, he, _⟩ => by cases he) hm
    rw [h0] at this; cases this
  -- the two exits through `handleFailure`
  have hfail : ∀ {w₁ : World}, Effect.ack ∉ w₁.out → w' = handleFailure o env w₁ q.workspaceID attempt →
      Reason o (callOf o env q attempt w w') := by
    intro w₁ hn he
    rw [he] at hack
    rcases handleFailure_ack o env hack with hm | ⟨hge, hm⟩ | ⟨hlt, hne⟩
    · exact absurd hm hn
    · exact .retries (by simpa [callOf, he] using hm) hge
    · rw [hnak hlt] at hne; cases hne
  cases h with
  | skipped why _ _ _ =>
    rcases why with hp | ⟨r, hr, hs⟩ | hd
    · exact Or.inr (Or.inr (.privateNote hp))
    · exact Or.inl ⟨r, hsent r hr hs⟩
    · exact Or.inr (Or.inl hd)
  | lookupFailed eq => exact Or.inr (Or.inr (hfail (by rw [h0]; simp) eq))
  | dropped why _ _ _ _ =>
    right; right
    rcases why with he | hge
    · exact .expired he
    · refine .exhausted fun i chan hi hc => ?_
      have hlen : i < (allChannels q).length := (List.getElem?_eq_some_iff.mp hc).1
      simp only [callOf] at hi
      omega
  | @looped w₁ w₂ exit dispatch live fresh unsent row prog quiet loop after =>
    right; right
    cases loop with
    | finished lprog all =>
      obtain ⟨w₃, hp₃, he⟩ := after
      refine .exhausted fun i chan hi hc => ?_
      simp only [callOf] at hi hc ⊢
      obtain ⟨k, rfl⟩ : ∃ k, i = startIndexOf o q w + k := ⟨i - startIndexOf o q w, by omega⟩
      rw [← List.getElem?_drop] at hc
      refine (all k chan hc).imp id fun ht => ?_
      obtain ⟨p, res, e, hm, hr, hterm⟩ := TerminalIn.mono hp₃ ht
      exact ⟨p, res, e, by rw [he]; exact mem_ack_of_mem o hm _, hr, hterm⟩
    | sent lprog at_ resolved first began ok core frame row' =>
      have he : w' = w₂ := after
      subst he
      exact .accepted (accepted_of_sent hreg row (.sent lprog at_ resolved first began ok core frame row') rfl)
    | failed lprog => exact hfail (hno (prog.trans lprog)) after

theorem settled_origin (h : CallOutcome o env q attempt w w')
    (hreg : Begins o env q w → AttemptsRegistered o env q (startIndexOf o q w)) {r' : MessageDispatch}
    (hr' : w'.table.get q.traceID = some r') (hs : Settled r') :
    (∃ r, w.table.get q.traceID = some r ∧ Settled r) ∨ Accepted (callOf o env q attempt w w') := by
  cases h with
  | skipped _ _ rows _ => exact Or.inl (rows.settled r' hr' hs)
  | lookupFailed eq =>
    rw [eq, handleFailure_table] at hr'
    exact Or.inl ⟨r', hr', hs⟩
  | dropped _ _ _ prog eq =>
    rw [eq, ack_table] at hr'
    exact Or.inl (prog.rows.settled r' hr' hs)
  | @looped w₁ w₂ exit dispatch live fresh unsent row prog quiet loop after =>
    cases loop with
    | finished lprog all =>
      obtain ⟨w₃, hp₃, he⟩ := after
      rw [he, ack_table] at hr'
      exact Or.inl (((prog.trans lprog).trans hp₃).rows.settled r' hr' hs)
    | sent lprog at_ resolved first began ok core frame row' =>
      have he : w' = w₂ := after
      subst he
      exact Or.inr (accepted_of_sent (hreg ⟨live.1, live.2, fresh, unsent⟩) row (.sent lprog at_ resolved first began ok core frame row') rfl)
    | failed lprog =>
      rw [show w' = _ from after, handleFailure_table] at hr'
      exact Or.inl ((prog.trans lprog).rows.settled r' hr' hs)

theorem call_frame (h : CallOutcome o env q attempt w w') {t : String} (ht : t ≠ q.traceID) :
    w'.table.get t = w.table.get t := by
  cases h with
  | skipped _ _ rows _ => exact rows.frame t ht
  | lookupFailed eq => rw [eq, handleFailure_table]
  | dropped _ _ _ prog eq => rw [eq, ack_table, prog.rows.frame t ht]
  | @looped w₁ w₂ exit dispatch live fresh unsent row prog quiet loop after =>
    cases loop with
    | finished lprog all =>
      obtain ⟨w₃, hp₃, he⟩ := after
      rw [he, ack_table, ((prog.trans lprog).trans hp₃).rows.frame t ht]
    | sent lprog at_ resolved first began ok core frame row' =>
      rw [show w' = _ from after, frame t ht, (prog.trans lprog).rows.frame t ht]
    | failed lprog => rw [show w' = _ from after, handleFailure_table, (prog.trans lprog).rows.frame t ht]

theorem not_accepted_of_prog (h0 : w.out = []) {w₁ : World} (hp : Prog q.traceID w w₁) {i : Nat}
    {p : MessagePayload} {res : DispatchResult} (hok : res.err = none) : Effect.invoke i p res ∉ w₁.out := by
  intro hm
  have hm' := hp.mem_out rfl (fun ⟨_, _, _, he, hne⟩ => by cases he; exact hne hok) hm
  rw [h0] at hm'; cases hm'

theorem not_invoke_of_acked (h0 : w.out = []) {ws : UUID} (hc : core w'.out = core w.out ++ ackEffects o ws)
    (i : Nat) (p : MessagePayload) (res : DispatchResult) : Effect.invoke i p res ∉ w'.out := by
  intro hm
  have hm' : Effect.invoke i p res ∈ core w.out ++ ackEffects o ws := hc ▸ mem_core.mpr ⟨hm, rfl⟩
  rw [h0] at hm'
  unfold ackEffects at hm'
  split at hm' <;> simp at hm'

theorem accepted_settles (h : CallOutcome o env q attempt w w') (h0 : w.out = [])
    (hrepo : o.dispatchRepo = true) (hsent : env.sentErr = false)
    (ha : Accepted (callOf o env q attempt w w')) :
    ∃ r', w'.table.get q.traceID = some r' ∧ Settled r' := by
  obtain ⟨i, p, res, hm, hok⟩ := ha
  simp only [callOf] at hm
  cases h with
  | skipped _ core _ _ => exact absurd hm (not_invoke_of_acked h0 core i p res)
  | lookupFailed eq =>
    rw [eq] at hm
    have := handleFailure_invoke o env hm
    rw [h0] at this; cases this
  | dropped _ _ _ prog eq =>
    rw [eq] at hm
    rcases mem_ack o rfl hm with hm | hm | hm
    · exact absurd hm (not_accepted_of_prog h0 prog hok)
    · cases hm
    · cases hm
  | @looped w₁ w₂ exit dispatch live fresh unsent row prog quiet loop after =>
    cases loop with
    | finished lprog all =>
      obtain ⟨w₃, hp₃, he⟩ := after
      rw [he] at hm
      rcases mem_ack o rfl hm with hm | hm | hm
      · exact absurd hm (not_accepted_of_prog h0 ((prog.trans lprog).trans hp₃) hok)
      · cases hm
      · cases hm
    | sent lprog at_ resolved first began ok core frame row' =>
      have he : w' = w₂ := after
      subst he
      cases hd : dispatch with
      | none => rw [row hd] at hrepo; cases hrepo
      | some d =>
        obtain ⟨r', hr', hs'⟩ := row' d hd hsent
        exact ⟨r', hr', Or.inl hs'⟩
    | failed lprog =>
      rw [show w' = _ from after] at hm
      exact absurd (handleFailure_invoke o env hm) (not_accepted_of_prog h0 (prog.trans lprog) hok)

theorem guarded_call (h : CallOutcome o env q attempt w w') (h0 : w.out = []) (hrepo : o.dispatchRepo = true)
    {r : MessageDispatch} (hr : w.table.get q.traceID = some r)
    (hg : r.status = "sent" ∨ q.traceID ∈ w.dispatched) :
    (∀ i p res, Effect.invoke i p res ∉ w'.out) ∧ w'.table.get q.traceID = some r := by
  have hrow : rowOf o q w = some r := by rw [rowOf, if_pos hrepo, hr]
  have hno : q.traceID ∉ w.dispatched → (∀ r, rowOf o q w = some r → r.status ≠ "sent") → False := by
    intro hf hu
    rcases hg with hs | hd
    · exact hu r hrow hs
    · exact hf hd
  cases h with
  | skipped _ core _ kept => exact ⟨not_invoke_of_acked h0 core, kept r hr⟩
  | lookupFailed eq =>
    rw [eq, handleFailure_table]
    refine ⟨fun i p res hm => ?_, hr⟩
    have := handleFailure_invoke o env hm
    rw [h0] at this; cases this
  | dropped _ fresh unsent _ _ => exact absurd (hno fresh unsent) id
  | looped _ fresh unsent _ _ _ _ _ => exact absurd (hno fresh unsent) id

end OneCall

/-! ## Status updates -/

theorem get_applyStatusUpdate {table : Dispatches} {pid body t : String} {r' : MessageDispatch}
    (h : (applyStatusUpdate table pid body).get t = some r') :
    ∃ r, table.get t = some r ∧ r'.providerMessageID = r.providerMessageID ∧
      (r' = r ∨ r.providerMessageID ≠ none) := by
  unfold applyStatusUpdate at h
  cases hd : table.getByProviderMessageID pid with
  | none =>
    rw [hd] at h
    exact ⟨r', h, rfl, Or.inl rfl⟩
  | some d =>
    rw [hd] at h
    obtain ⟨hg, hp⟩ := Dispatches.get_of_provider hd
    simp only [Dispatches.get_updateDispatchStatus hg] at h
    by_cases ht : t = d.traceID
    · rw [if_pos ht] at h
      cases h
      exact ⟨d, by rw [ht]; exact hg, rfl, Or.inr (by rw [hp]; simp)⟩
    · rw [if_neg ht] at h
      exact ⟨r', h, rfl, Or.inl rfl⟩

theorem settled_applyStatusUpdate {table : Dispatches} {t : String} {r : MessageDispatch}
    (hr : table.get t = some r) (hs : Settled r) (pid body : String) :
    ∃ r', (applyStatusUpdate table pid body).get t = some r' ∧ Settled r' := by
  unfold applyStatusUpdate
  cases hd : table.getByProviderMessageID pid with
  | none => exact ⟨r, hr, hs⟩
  | some d =>
    obtain ⟨hg, hp⟩ := Dispatches.get_of_provider hd
    simp only [Dispatches.get_updateDispatchStatus hg]
    by_cases ht : t = d.traceID
    · rw [if_pos ht]
      exact ⟨_, rfl, Or.inr (by rw [hp]; simp)⟩
    · rw [if_neg ht]
      exact ⟨r, hr, hs⟩

/-! ## A message and the answers of a run -/

def sampleText : QueueMessage :=
  { workspaceID := 1, connectionID := 1, senderIdentity := "551130000000", traceID := "t-1",
    to_ := "5511999990000", channel := "whatsapp_cloud", body := "hello", media := none, metadata := [],
    ttlSeconds := none, queuedAt := 1, fallbackChannels := [], templateName := "", language := "",
    components := [], campaignID := none, variablesJSON := [], interactive := none,
    channelOverrides := [], fallbackBehavior := "degrade", type := "", product := none }

/-- Nothing fails but the dispatcher, which answers `res`. -/
def answering (res : DispatchResult) : Env :=
  { now := 2, getOrCreateErr := none, findIdentity := fun _ => .ok none,
    resolveTelegramChatID := fun _ => none, sendingErr := fun _ => none, sentErr := false,
    statusErr := false, providerErr := false, dispatch := fun _ _ => res, nakErr := false }

def accepts : Env := answering ⟨"wamid.1", none⟩

def serverError : Env := answering ⟨"", some ⟨"HTTP error 500: ", false⟩⟩

/-! ## No lost message -/

section NoLoss

variable (o : Orchestrator)

/-- The delivery does not run into the in-memory set after a NAK: the trace is not in the set, or an
earlier call for it was acked. If the message is looked at, its NAK succeeds, and every channel the loop
attempts has a dispatcher. -/
def KeepsMessage (s : St) : Lbl → Prop
  | .deliver q attempt env =>
    q.traceID ≠ "" ∧
    (q.traceID ∈ s.dispatched → ∃ c ∈ s.log, c.q.traceID = q.traceID ∧ Effect.ack ∈ c.out) ∧
    (Begins o env q s.world → (attempt < o.maxRetries → env.nakErr = false) ∧
      AttemptsRegistered o env q (startIndexOf o q s.world))
  | _ => True

def SettledAccepted (s : St) : Prop :=
  ∀ t r, s.table.get t = some r → Settled r → ∃ c ∈ s.log, c.q.traceID = t ∧ Accepted c

theorem settledAccepted_deliver {s : St} {q : QueueMessage} {attempt : Int} {env : Env}
    (ht : q.traceID ≠ "") (hreg : Begins o env q s.world → AttemptsRegistered o env q (startIndexOf o q s.world))
    (hs : SettledAccepted s) : SettledAccepted (deliver o s q attempt env) := by
  have hout := process_spec o env q ht attempt s.world
  intro t r hr hset
  by_cases htr : t = q.traceID
  · subst htr
    rcases settled_origin hout hreg hr hset with ⟨r₀, hr₀, hs₀⟩ | hacc
    · obtain ⟨c, hc, h1, h2⟩ := hs _ r₀ hr₀ hs₀
      exact ⟨c, List.mem_append_left _ hc, h1, h2⟩
    · exact ⟨_, List.mem_append_right _ (List.mem_singleton_self _), rfl, hacc⟩
  · have hfr := call_frame hout htr
    simp only [deliver] at hr
    rw [hfr] at hr
    obtain ⟨c, hc, h1, h2⟩ := hs t r hr hset
    exact ⟨c, List.mem_append_left _ hc, h1, h2⟩

theorem noLostMessage_deliver {s : St} {q : QueueMessage} {attempt : Int} {env : Env}
    (hk : KeepsMessage o s (.deliver q attempt env)) (hs : SettledAccepted s) (hn : NoLostMessage o s) :
    NoLostMessage o (deliver o s q attempt env) := by
  obtain ⟨ht, hdup, hreg⟩ := hk
  have hout := process_spec o env q ht attempt s.world
  refine hn.snoc rfl fun hack => ?_
  rcases ack_reason hout rfl hreg hack with ⟨r, hr, hset⟩ | hmem | hreason
  · -- the row says that a provider took the message, so some call was accepted
    obtain ⟨c, hc, h1, h2⟩ := hs _ r hr hset
    exact ⟨c, List.mem_append_left _ hc, h1, .accepted h2⟩
  · -- the trace is in the set, so an earlier call was acked, and that one had a reason
    obtain ⟨c, hc, h1, h2⟩ := hdup hmem
    obtain ⟨before, after, hlog⟩ := List.append_of_mem hc
    obtain ⟨c', hc', h3, h4⟩ := hn before c after hlog h2
    refine ⟨c', List.mem_append_left _ ?_, h3.trans h1, h4⟩
    rw [hlog]
    rcases List.mem_append.mp hc' with hm | hm
    · exact List.mem_append_left _ hm
    · exact List.mem_append_right _ (List.mem_singleton.mp hm ▸ List.mem_cons_self)
  · exact ⟨_, List.mem_append_right _ (List.mem_singleton_self _), rfl, hreason⟩

theorem noLoss_inductive :
    ((sys o).restrict (KeepsMessage o)).Inductive fun s => SettledAccepted s ∧ NoLostMessage o s := by
  refine LTS.Inductive.of_restrict ?_ ?_
  · rintro s rfl
    refine ⟨fun t r hr => ?_, fun before c after he => ?_⟩
    · simp [init, Dispatches.empty, Dispatches.get] at hr
    · simp [init] at he
  · rintro s l s' ⟨hs, hn⟩ hk hst
    cases l with
    | enqueue q => cases hst; exact ⟨hs, hn⟩
    | restart => cases hst; exact ⟨hs, hn⟩
    | deliver q attempt env =>
      simp only [sys, LTS.ofFn, step] at hst
      split at hst
      · cases hst
        exact ⟨settledAccepted_deliver o hk.1 (fun hb => (hk.2.2 hb).2) hs, noLostMessage_deliver o hk hs hn⟩
      · cases hst
    | statusUpdate pid body =>
      cases hst
      refine ⟨fun t r' hr' hset => ?_, hn⟩
      obtain ⟨r, hr, hpid, heq⟩ := get_applyStatusUpdate hr'
      refine hs t r hr ?_
      rcases heq with rfl | hne
      · exact hset
      · exact Or.inr hne

/-- **No lost message**, in every run that delivers no NAKed trace to the same orchestrator again,
whose NAKs succeed, and that never attempts a channel without a dispatcher. -/
theorem no_lost_message {s : St} (h : ((sys o).restrict (KeepsMessage o)).Reachable s) :
    NoLostMessage o s :=
  ((noLoss_inductive o).reachable h).2

end NoLoss

/-- A transient failure, a restart, and a successful retry. -/
theorem no_lost_message_retry :
    ∃ s, ((sys serverOrchestrator).restrict (KeepsMessage serverOrchestrator)).Reachable s ∧
      s.log.map (fun c => decide (Effect.ack ∈ c.out)) = [false, true] ∧
      NoLostMessage serverOrchestrator s := by
  have hreg : ∀ env start, AttemptsRegistered serverOrchestrator env sampleText start := by
    intro env start i chan _ hc _ _
    cases i with
    | zero => cases hc; decide
    | succ i => simp [allChannels, sampleText] at hc
  obtain ⟨s, hs⟩ : ∃ s, LTS.exec (step serverOrchestrator) init
      [.enqueue sampleText, .deliver sampleText 0 serverError, .restart, .deliver sampleText 1 accepts] =
      some s := ⟨_, rfl⟩
  have hr := LTS.exec_restrict_reachable hs (G := KeepsMessage serverOrchestrator) (by
    refine ⟨trivial, ?_⟩
    rintro _ ⟨⟩
    refine ⟨⟨by decide, by simp [init], fun _ => ⟨fun _ => rfl, hreg _ _⟩⟩, ?_⟩
    rintro _ ⟨⟩
    refine ⟨trivial, ?_⟩
    rintro _ ⟨⟩
    exact ⟨⟨by decide, by simp, fun _ => ⟨fun _ => rfl, hreg _ _⟩⟩, fun _ _ => trivial⟩)
  refine ⟨s, hr, ?_, no_lost_message serverOrchestrator hr⟩
  cases hs
  decide +kernel

/-- One transient failure, then a redelivery to the same orchestrator. -/
def nakedThenRedelivered : List Lbl :=
  [.enqueue sampleText, .deliver sampleText 0 serverError, .deliver sampleText 1 accepts]

def afterRedelivery : St :=
  deliver serverOrchestrator (deliver serverOrchestrator { init with pending := [sampleText] } sampleText 0
    serverError) sampleText 1 accepts

theorem no_reason_in_redelivery : ∀ c ∈ afterRedelivery.log, ¬ Reason serverOrchestrator c := by
  have h : ∀ c ∈ afterRedelivery.log, ¬ Accepted c ∧ isExpired c.env c.q = false ∧
      isPrivateNote c.q = false ∧ ¬ TerminalIn 0 c.out ∧ Effect.exhausted c.attempt ∉ c.out ∧ c.start = 0 ∧
      resolveRecipientForChannel serverOrchestrator c.env c.q.workspaceID c.q.to_ "whatsapp_cloud" ≠ none ∧
      (allChannels c.q)[0]? = some "whatsapp_cloud" := by decide +kernel
  intro c hc hr
  obtain ⟨hacc, hexp, hpriv, hterm, hret, hstart, hres, hchan⟩ := h c hc
  cases hr with
  | accepted h => exact hacc h
  | exhausted h =>
    rcases h 0 _ (by omega) hchan with h | h
    · exact hres h
    · exact hterm h
  | expired h => rw [hexp] at h; cases h
  | privateNote h => rw [hpriv] at h; cases h
  | retries h _ => exact hret h

/-- The second delivery is acked although nothing has happened to the message but one transient
error: its trace is still in the in-memory set. -/
theorem nak_then_duplicate :
    LTS.exec (step serverOrchestrator) init nakedThenRedelivered = some afterRedelivery ∧
    (sys serverOrchestrator).Reachable afterRedelivery ∧
    ¬ NoLostMessage serverOrchestrator afterRedelivery := by
  have hs : LTS.exec (step serverOrchestrator) init nakedThenRedelivered = some afterRedelivery := rfl
  refine ⟨hs, LTS.exec_reachable hs, fun hn => ?_⟩
  obtain ⟨c₁, c₂, hlog⟩ : ∃ c₁ c₂, afterRedelivery.log = [c₁] ++ c₂ :: [] := ⟨_, _, rfl⟩
  have hack : ∀ c ∈ afterRedelivery.log.drop 1, Effect.ack ∈ c.out := by decide +kernel
  obtain ⟨c, hc, _, hr⟩ := hn [c₁] c₂ [] hlog (hack c₂ (by rw [hlog]; simp))
  exact no_reason_in_redelivery c (by rw [hlog]; exact hc) hr

/-! ## At most one acceptance -/

section Once

variable (o : Orchestrator)

/-- The write of `sent` succeeds, and a row that a provider status moved past `sent` is delivered only
to an orchestrator with the trace in its in-memory set. -/
def KeepsOnce (s : St) : Lbl → Prop
  | .deliver q _ env =>
    q.traceID ≠ "" ∧ env.sentErr = false ∧
    ∀ r, s.table.get q.traceID = some r → r.providerMessageID ≠ none →
      r.status = "sent" ∨ q.traceID ∈ s.dispatched
  | _ => True

def AcceptedSettled (s : St) : Prop :=
  ∀ c ∈ s.log, Accepted c → ∃ r, s.table.get c.q.traceID = some r ∧ Settled r

theorem settled_call (hrepo : o.dispatchRepo = true) {s : St} {q : QueueMessage} {attempt : Int} {env : Env}
    (hk : KeepsOnce s (.deliver q attempt env)) {r : MessageDispatch}
    (hr : s.table.get q.traceID = some r) (hset : Settled r) :
    (∀ i p res, Effect.invoke i p res ∉ (process o env s.world q attempt).1.out) ∧
    (process o env s.world q attempt).1.table.get q.traceID = some r := by
  obtain ⟨ht, _, hgd⟩ := hk
  refine guarded_call (process_spec o env q ht attempt s.world) rfl hrepo hr ?_
  rcases hset with hs | hp
  · exact Or.inl hs
  · exact hgd r hr hp

theorem acceptedSettled_deliver (hrepo : o.dispatchRepo = true) {s : St} {q : QueueMessage} {attempt : Int}
    {env : Env} (hk : KeepsOnce s (.deliver q attempt env)) (hs : AcceptedSettled s) :
    AcceptedSettled (deliver o s q attempt env) := by
  have hout := process_spec o env q hk.1 attempt s.world
  intro c hc hacc
  rcases List.mem_append.mp hc with hc | hc
  · obtain ⟨r, hr, hset⟩ := hs c hc hacc
    by_cases htr : c.q.traceID = q.traceID
    · rw [htr] at hr
      refine ⟨r, ?_, hset⟩
      rw [htr]
      exact (settled_call o hrepo hk hr hset).2
    · exact ⟨r, (call_frame hout htr).trans hr, hset⟩
  · cases List.mem_singleton.mp hc
    exact accepted_settles hout rfl hrepo hk.2.1 hacc

theorem atMostOnce_deliver (hrepo : o.dispatchRepo = true) {s : St} {q : QueueMessage} {attempt : Int}
    {env : Env} (hk : KeepsOnce s (.deliver q attempt env)) (hs : AcceptedSettled s) (hm : AtMostOnce s) :
    AtMostOnce (deliver o s q attempt env) := by
  refine hm.snoc rfl fun c₀ hc₀ hacc htr => ?_
  obtain ⟨r, hr, hset⟩ := hs c₀ hc₀ hacc
  rw [htr] at hr
  exact (settled_call o hrepo hk hr hset).1

theorem once_inductive (hrepo : o.dispatchRepo = true) :
    ((sys o).restrict KeepsOnce).Inductive fun s => AcceptedSettled s ∧ AtMostOnce s := by
  refine LTS.Inductive.of_restrict ?_ ?_
  · rintro s rfl
    refine ⟨fun c hc => ?_, fun before c after he => ?_⟩
    · simp [init] at hc
    · simp [init] at he
  · rintro s l s' ⟨hs, hm⟩ hk hst
    cases l with
    | enqueue q => cases hst; exact ⟨hs, hm⟩
    | restart => cases hst; exact ⟨hs, hm⟩
    | deliver q attempt env =>
      simp only [sys, LTS.ofFn, step] at hst
      split at hst
      · cases hst
        exact ⟨acceptedSettled_deliver o hrepo hk hs, atMostOnce_deliver o hrepo hk hs hm⟩
      · cases hst
    | statusUpdate pid body =>
      cases hst
      refine ⟨fun c hc hacc => ?_, hm⟩
      obtain ⟨r, hr, hset⟩ := hs c hc hacc
      exact settled_applyStatusUpdate hr hset pid body

/-- **At most one acceptance**, in every run where the `sent` write succeeds and a row past `sent` is
only delivered to an orchestrator that still has its trace in memory. -/
theorem at_most_once (hrepo : o.dispatchRepo = true) {s : St}
    (h : ((sys o).restrict KeepsOnce).Reachable s) : AtMostOnce s :=
  ((once_inductive o hrepo).reachable h).2

end Once

/-- Redelivery of a sent message to a fresh orchestrator, before any status update. -/
theorem at_most_once_redelivery :
    serverOrchestrator.dispatchRepo = true ∧
    ∃ s, ((sys serverOrchestrator).restrict KeepsOnce).Reachable s ∧
      s.log.map (fun c => decide (Accepted c)) = [true, false] ∧ AtMostOnce s := by
  refine ⟨rfl, ?_⟩
  obtain ⟨s, hs⟩ : ∃ s, LTS.exec (step serverOrchestrator) init
      [.enqueue sampleText, .deliver sampleText 0 accepts, .restart, .enqueue sampleText,
        .deliver sampleText 0 accepts] = some s := ⟨_, rfl⟩
  have hr := LTS.exec_restrict_reachable hs (G := KeepsOnce) (by
    refine ⟨trivial, ?_⟩
    rintro _ ⟨⟩
    refine ⟨⟨by decide, rfl, fun r hr => by cases hr⟩, ?_⟩
    rintro _ ⟨⟩
    refine ⟨trivial, ?_⟩
    rintro _ ⟨⟩
    refine ⟨trivial, ?_⟩
    rintro _ ⟨⟩
    refine ⟨⟨by decide, rfl, fun r hr _ => Or.inl ?_⟩, fun _ _ => trivial⟩
    cases hr; rfl)
  refine ⟨s, hr, ?_, at_most_once serverOrchestrator rfl hr⟩
  cases hs
  decide +kernel

def afterSent : St :=
  deliver serverOrchestrator { init with pending := [sampleText] } sampleText 0 accepts

/-- The row past `sent`, a fresh orchestrator, and the message in the queue once more. -/
def redelivered : St :=
  { dispatched := [], table := applyStatusUpdate afterSent.table "wamid.1" "delivered",
    pending := afterSent.pending ++ [sampleText], log := afterSent.log }

def sentTwice : St := deliver serverOrchestrator redelivered sampleText 0 accepts

/-- The provider reports `delivered`, the server restarts, and the message comes back: the row no
longer says `sent`, so it is dispatched a second time. -/
theorem redelivery_after_status_update :
    LTS.exec (step serverOrchestrator) init
      [.enqueue sampleText, .deliver sampleText 0 accepts, .statusUpdate "wamid.1" "delivered", .restart,
        .enqueue sampleText, .deliver sampleText 0 accepts] = some sentTwice ∧
    (sys serverOrchestrator).Reachable sentTwice ∧ ¬ AtMostOnce sentTwice := by
  have hs : LTS.exec (step serverOrchestrator) init
      [.enqueue sampleText, .deliver sampleText 0 accepts, .statusUpdate "wamid.1" "delivered", .restart,
        .enqueue sampleText, .deliver sampleText 0 accepts] = some sentTwice := rfl
  refine ⟨hs, LTS.exec_reachable hs, fun hm => ?_⟩
  obtain ⟨c₁, c₂, hlog⟩ : ∃ c₁ c₂, sentTwice.log = [] ++ c₁ :: [c₂] := ⟨_, _, rfl⟩
  have hacc : ∀ c ∈ sentTwice.log, Accepted c ∧ c.q.traceID = "t-1" := by decide +kernel
  have h₁ := hacc c₁ (by rw [hlog]; simp)
  have h₂ := hacc c₂ (by rw [hlog]; simp)
  obtain ⟨i, p, res, hi, _⟩ := h₂.1
  exact hm [] c₁ [c₂] hlog h₁.1 c₂ (by simp) (h₂.2.trans h₁.2.symm) i p res hi

end PerGo.L4.DispatchRun
