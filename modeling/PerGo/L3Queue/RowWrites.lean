import PerGo.L3Queue.ProcessSpec

/-!
# The statements a `Process` call runs on its row

A call reads its row once, in `GetOrCreateDispatch`, and then only writes to it; what it
writes depends on the row it read and on the answers of its dependencies, not on what
others write in the meantime. `callWrites` lists these statements in their order, and
`processClaimed_table` says that a call that runs undisturbed leaves the table they
make. An interleaving of calls with other writers is an interleaving of these lists.
-/
namespace PerGo.L3

open PerGo.Core PerGo.L1 PerGo.L2

/-- One `UPDATE` of a row of `message_dispatches`. -/
inductive RowWrite
  | status (status chan : String) (idx : Nat) (err : Option String)
  | provider (providerMessageID : String)

def RowWrite.apply (id : UUID) (table : Dispatches) : RowWrite → Dispatches
  | .status s chan idx err => table.updateDispatchStatus id s chan idx err
  | .provider pid => (table.updateProviderMessageID id pid).getD table

def applyWrites (id : UUID) (table : Dispatches) (ws : List RowWrite) : Dispatches :=
  ws.foldl (RowWrite.apply id) table

section Call

variable (o : Orchestrator) (env : Env) (q : QueueMessage)

/-- mirrors queue/orchestrator.go:143, 282, 315 -/
def statusWrites (status chan : String) (idx : Nat) (err : Option String) : List RowWrite :=
  if env.statusErr then [] else [.status status chan idx err]

/-- mirrors orchestrator.go:233-239 -/
def sentWrites (chan : String) (i : Nat) (resp : String) : List RowWrite :=
  (if env.sentErr then [] else [.status "sent" chan i none]) ++
    if chan = "whatsapp_cloud" ∧ resp ≠ "" ∧ env.providerErr = false then [.provider resp] else []

/-- mirrors orchestrator.go:303-321 -/
def failedWrites (v : LoopVars) : List RowWrite :=
  let errMsg := match v.finalErr with
    | none => "all channels failed"
    | some e => "all channels failed" ++ ": " ++ e.text
  let (failedChannel, failedIndex) := if v.lastAttemptedChannel = "" then (v.lastChannel, v.currentIndex)
    else (v.lastAttemptedChannel, v.lastAttemptedIndex)
  statusWrites env "failed" failedChannel failedIndex (some errMsg)

/-- The dispatcher's answer; a channel without a dispatcher answers `("", nil)`. -/
def answerAt (i : Nat) (chan resolvedTo : String) : DispatchResult :=
  if registered o chan then env.dispatch i (attemptPayload o env q chan resolvedTo) else ⟨"", none⟩

/-- The writes of the loop over the channels from index `i` on, and of what follows it.
mirrors orchestrator.go:169-321 -/
def loopWrites : List String → Nat → LoopVars → List RowWrite
  | [], _, v => failedWrites env v
  | chan :: rest, i, v =>
    let v := { v with lastChannel := chan, currentIndex := i }
    match resolveRecipientForChannel o env q.workspaceID q.to_ chan with
    | none => loopWrites rest (i + 1) { v with finalErr := some (noIdentityErr q.to_ chan) }
    | some resolvedTo =>
      match env.sendingErr i with
      | some _ => []
      | none =>
        let v := { v with lastAttemptedChannel := chan, lastAttemptedIndex := i }
        let res := answerAt o env q i chan resolvedTo
        .status "sending" chan i none ::
          match res.err with
          | none => sentWrites env chan i res.resp
          | some e =>
            if e.terminal then loopWrites rest (i + 1) { v with finalErr := some e }
            else statusWrites env "failed_transient" chan i (some e.text)

/-- The writes of a call that read the row `d`; `claimed` says that the worker has the trace in its memory.
mirrors orchestrator.go:117-321 -/
def callWrites (claimed : Bool) (d : MessageDispatch) : List RowWrite :=
  if d.status = "sent" ∨ claimed then []
  else if isExpired env q then
    statusWrites env "failed" d.currentChannel d.fallbackIndex (some "message expired (TTL)")
  else
    let s := d.fallbackIndex
    if s ≥ (allChannels q).length then []
    else loopWrites o env q ((allChannels q).drop s) s ⟨none, "", s, "", s⟩

/-! ## What a call leaves in the table -/

theorem setStatus_table (w : World) (d : MessageDispatch) (status chan : String) (idx : Nat) (err : Option String) :
    (setStatus o env w q (some d) status chan idx err).table =
      applyWrites d.id w.table (statusWrites env status chan idx err) := by
  simp only [setStatus, publish_table, statusWrites]
  split <;> rfl

theorem markSent_table (w : World) (d : MessageDispatch) (chan : String) (i : Nat) (resp : String) :
    (markSent o env w q (some d) chan i resp).table = applyWrites d.id w.table (sentWrites env chan i resp) := by
  simp only [markSent, publish_table, sentTable, sentWrites]
  cases env.sentErr with
  | true =>
    split
    · simp [applyWrites, RowWrite.apply, *]
    · simp [applyWrites, *]
  | false =>
    split
    · simp [applyWrites, RowWrite.apply, *]
    · simp [applyWrites, RowWrite.apply, *]

theorem dispatchToChannel_answer (w : World) (i : Nat) (chan to_ : String) :
    ∃ qc w', dispatchToChannel o env w i chan { q with to_ := to_, channel := chan } =
        (qc, answerAt o env q i chan to_, w') ∧ w'.table = w.table := by
  unfold dispatchToChannel answerAt
  split <;> exact ⟨_, _, rfl, rfl⟩

theorem transition_table (w : World) (ws : UUID) (trace : String) (ev : AuditPayload) (moves : Prop) [Decidable moves] :
    (if moves then audit o w ws trace ev else w).table = w.table := by
  split
  · exact audit_table o w _ _ _
  · rfl

def exitTable (d : MessageDispatch) : World × LoopExit → Dispatches
  | (w, .returned _) => w.table
  | (w, .finished v) => (allChannelsFailed o env w q (some d) v).table

theorem fallbackLoop_table (attempt : Int) (d : MessageDispatch) (all : List String) (start : Nat)
    (chans : List String) (i : Nat) (v : LoopVars) (w : World) :
    exitTable o env q d (fallbackLoop o env q attempt (some d) all start chans i v w) =
      applyWrites d.id w.table (loopWrites o env q chans i v) := by
  induction chans generalizing i v w with
  | nil =>
    simp only [fallbackLoop, exitTable, allChannelsFailed, ack_table, loopWrites, failedWrites]
    exact setStatus_table ..
  | cons chan rest ih =>
    rw [fallbackLoop, loopWrites]
    cases resolveRecipientForChannel o env q.workspaceID q.to_ chan with
    | none =>
      simp only
      rw [ih, audit_table]
    | some to_ =>
      simp only [beginAttempt]
      have hw := transition_table o w q.workspaceID q.traceID (.fallbackTransition
        (if v.lastAttemptedChannel = "" ∧ i > 0 then all.getD (i - 1) "" else v.lastAttemptedChannel) chan to_ i) (i > start)
      generalize (if i > start then audit o w q.workspaceID q.traceID _ else w) = w₁ at hw ⊢
      cases env.sendingErr i with
      | some e => simp [exitTable, hw, applyWrites]
      | none =>
        -- the row is `sending`; what follows depends on the answer
        have hsend : ∀ ws, applyWrites d.id w.table (.status "sending" chan i none :: ws) =
            applyWrites d.id (w.table.updateDispatchStatus d.id "sending" chan i none) ws := fun _ => rfl
        have hw₂ : (publishWebhookEvent o env
            { w₁ with table := w₁.table.updateDispatchStatus d.id "sending" chan i none }
            q.workspaceID q.traceID d.id "sending" chan none).table =
              w.table.updateDispatchStatus d.id "sending" chan i none := by
          rw [publish_table, ← hw]
        generalize publishWebhookEvent o env
          { w₁ with table := w₁.table.updateDispatchStatus d.id "sending" chan i none }
          q.workspaceID q.traceID d.id "sending" chan none = w₂ at hw₂ ⊢
        obtain ⟨qc, w₃, hd, hw₃⟩ := dispatchToChannel_answer o env q w₂ i chan to_
        simp only [hd]
        rw [hsend, ← hw₂, ← hw₃]
        cases (answerAt o env q i chan to_).err with
        | none => simp only [exitTable, ack_table, audit_table, markSent_table]
        | some e =>
          simp only
          split
          · rw [ih, audit_table]
          · simp only [exitTable, handleFailure_table, audit_table, setStatus_table]

/-- **The table after a call** is the one its writes make. -/
theorem processClaimed_table (w : World) (attempt : Int) (d : MessageDispatch) (hd : d.status ≠ "sent") :
    (processClaimed o env w q attempt (some d)).1.table =
      applyWrites d.id w.table (callWrites o env q (q.traceID ≠ "" ∧ q.traceID ∈ w.dispatched) d) := by
  unfold processClaimed callWrites
  by_cases hdup : q.traceID ≠ "" ∧ q.traceID ∈ w.dispatched
  · rw [if_pos hdup, if_pos (Or.inr (decide_eq_true hdup)), ack_table]
    rfl
  · have hfresh : ¬ (d.status = "sent" ∨ decide (q.traceID ≠ "" ∧ q.traceID ∈ w.dispatched) = true) := by
      rintro (h | h)
      · exact hd h
      · exact hdup (of_decide_eq_true h)
    rw [if_neg hdup, if_neg hfresh]
    have htab : (if q.traceID ≠ "" then { w with dispatched := q.traceID :: w.dispatched } else w).table = w.table := by
      split <;> rfl
    generalize (if q.traceID ≠ "" then { w with dispatched := q.traceID :: w.dispatched } else w) = w₁ at htab ⊢
    cases isExpired env q with
    | true => simp only [if_true, ack_table, setStatus_table, htab]
    | false =>
      simp only [Bool.false_eq_true, if_false]
      by_cases hend : d.fallbackIndex ≥ (allChannels q).length
      · rw [if_pos (show startIndex (some d) ≥ (allChannels q).length from hend), if_pos hend, ack_table, htab]
        rfl
      · rw [if_neg (show ¬ startIndex (some d) ≥ (allChannels q).length from hend), if_neg hend]
        have hloop := fallbackLoop_table o env q attempt d (allChannels q) d.fallbackIndex
          ((allChannels q).drop d.fallbackIndex) d.fallbackIndex ⟨none, "", d.fallbackIndex, "", d.fallbackIndex⟩ w₁
        rw [← htab, ← hloop, show startIndex (some d) = d.fallbackIndex from rfl]
        generalize fallbackLoop o env q attempt (some d) (allChannels q) d.fallbackIndex
          ((allChannels q).drop d.fallbackIndex) d.fallbackIndex
          ⟨none, "", d.fallbackIndex, "", d.fallbackIndex⟩ w₁ = r
        obtain ⟨w₂, exit⟩ := r
        cases exit <;> rfl

/-! ## A call without a row -/

theorem fallbackLoop_untracked (attempt : Int) (all : List String) (start : Nat) (chans : List String) (i : Nat)
    (v : LoopVars) (w : World) :
    (fallbackLoop o env q attempt none all start chans i v w).1.table = w.table := by
  induction chans generalizing i v w with
  | nil => rfl
  | cons chan rest ih =>
    rw [fallbackLoop]
    cases resolveRecipientForChannel o env q.workspaceID q.to_ chan with
    | none =>
      simp only
      rw [ih, audit_table]
    | some to_ =>
      simp only [beginAttempt]
      have hw := transition_table o w q.workspaceID q.traceID (.fallbackTransition
        (if v.lastAttemptedChannel = "" ∧ i > 0 then all.getD (i - 1) "" else v.lastAttemptedChannel) chan to_ i) (i > start)
      generalize (if i > start then audit o w q.workspaceID q.traceID _ else w) = w₁ at hw ⊢
      obtain ⟨qc, w₂, hd, hw₂⟩ := dispatchToChannel_answer o env q w₁ i chan to_
      simp only [hd]
      rw [← hw, ← hw₂]
      cases (answerAt o env q i chan to_).err with
      | none => simp only [markSent, ack_table, audit_table]
      | some e =>
        simp only
        split
        · rw [ih, audit_table]
        · simp only [setStatus, handleFailure_table, audit_table]

theorem processClaimed_untracked (w : World) (attempt : Int) :
    (processClaimed o env w q attempt none).1.table = w.table := by
  unfold processClaimed
  split
  · exact ack_table o w _
  · have htab : (if q.traceID ≠ "" then { w with dispatched := q.traceID :: w.dispatched } else w).table = w.table := by
      split <;> rfl
    generalize (if q.traceID ≠ "" then { w with dispatched := q.traceID :: w.dispatched } else w) = w₁ at htab ⊢
    simp only
    split
    · exact (ack_table o w₁ _).trans htab
    · split
      · exact (ack_table o w₁ _).trans htab
      · have hloop := fallbackLoop_untracked o env q attempt (allChannels q) (startIndex none)
          ((allChannels q).drop (startIndex none)) (startIndex none) ⟨none, "", startIndex none, "", startIndex none⟩ w₁
        generalize fallbackLoop o env q attempt none (allChannels q) (startIndex none)
          ((allChannels q).drop (startIndex none)) (startIndex none)
          ⟨none, "", startIndex none, "", startIndex none⟩ w₁ = r at hloop ⊢
        obtain ⟨w₂, exit⟩ := r
        cases exit with
        | returned err => exact hloop.trans htab
        | finished v => exact (ack_table o w₂ _).trans (hloop.trans htab)

theorem process_untracked (h : q.traceID = "" ∨ q.workspaceID = UUID.Nil) (w : World) (attempt : Int) :
    (process o env w q attempt).1.table = w.table := by
  unfold process
  split
  · exact ack_table o w _
  · split
    · rename_i htracked
      rw [if_pos (h.resolve_left htracked.2), handleFailure_table]
    · exact processClaimed_untracked o env q w attempt

/-- **The table after `Process`**: the call ends before it has a row, or it leaves the row it read or created
with its writes. -/
theorem process_table (w : World) (attempt : Int) :
    (process o env w q attempt).1.table = w.table ∨
    ∃ d table, table.get q.traceID = some d ∧ RowsKept q.traceID w.table table ∧
      (w.table.get q.traceID = some d ∨ (w.table.get q.traceID = none ∧ d.status = "queued" ∧ d.fallbackIndex = 0)) ∧
      (process o env w q attempt).1.table =
        applyWrites d.id table (callWrites o env q (q.traceID ≠ "" ∧ q.traceID ∈ w.dispatched) d) := by
  unfold process
  split
  · exact .inl (ack_table o w _)
  split
  · split
    · exact .inl (handleFailure_table o env w _ _)
    · cases env.getOrCreateErr with
      | some e => exact .inl (handleFailure_table o env w _ _)
      | none =>
        obtain ⟨d, table, heq, hd, hrows, hold⟩ := getOrCreate_spec w.table q.workspaceID q.traceID q.channel
          q.campaignID (if q.templateName ≠ "" then some q.templateName else none) q.variablesJSON
        simp only [heq]
        refine .inr ⟨d, table, hd, hrows, hold.imp_left And.left, ?_⟩
        by_cases hsent : d.status = "sent"
        · rw [if_pos hsent, ack_table, callWrites, if_pos (Or.inl hsent)]
          rfl
        · rw [if_neg hsent, processClaimed_table o env q _ attempt d hsent]
          split
          · rw [publish_table, publish_dispatched]
          · rfl
  · exact .inl (processClaimed_untracked o env q w attempt)

end Call

/-! ## What the writes leave in the row -/

def RowWrite.written : RowWrite → Option (String × String × Nat)
  | .status s chan idx _ => some (s, chan, idx)
  | .provider _ => none

/-- Status, channel and index of the last status write. -/
def lastWritten : List RowWrite → Option (String × String × Nat)
  | [] => none
  | x :: ws => (lastWritten ws).or x.written

theorem lastWritten_append (xs ys : List RowWrite) : lastWritten (xs ++ ys) = (lastWritten ys).or (lastWritten xs) := by
  induction xs with
  | nil => exact (Option.or_none).symm
  | cons x xs ih => rw [List.cons_append, lastWritten, ih, lastWritten, Option.or_assoc]

theorem lastWritten_mem {ws : List RowWrite} {y : String × String × Nat} (h : lastWritten ws = some y) :
    ∃ x ∈ ws, x.written = some y := by
  induction ws with
  | nil => nomatch h
  | cons x ws ih =>
    rw [lastWritten, Option.or_eq_some_iff] at h
    rcases h with h | ⟨-, h⟩
    · obtain ⟨x', hx', hw⟩ := ih h
      exact ⟨x', List.mem_cons_of_mem _ hx', hw⟩
    · exact ⟨x, List.mem_cons_self, h⟩

/-- The three columns of a row that a status write sets. -/
def MessageDispatch.columns (r : MessageDispatch) : String × String × Nat := (r.status, r.currentChannel, r.fallbackIndex)

theorem get_apply {table : Dispatches} {t : String} {d : MessageDispatch} (hd : table.get t = some d) (x : RowWrite) :
    (∃ r, (x.apply d.id table).get t = some r ∧ r.id = d.id ∧ r.columns = x.written.getD d.columns) ∧
    ∀ t', t' ≠ t → (x.apply d.id table).get t' = table.get t' := by
  cases x with
  | status s chan idx err =>
    have hget := fun t' => Dispatches.get_updateDispatchStatus hd s chan idx err t'
    exact ⟨⟨_, (hget t).trans (if_pos rfl), rfl, rfl⟩, fun t' ht => (hget t').trans (if_neg ht)⟩
  | provider pid =>
    cases hu : table.updateProviderMessageID d.id pid with
    | none =>
      simp only [RowWrite.apply, hu, Option.getD_none]
      exact ⟨⟨d, hd, rfl, rfl⟩, fun _ _ => trivial⟩
    | some table' =>
      simp only [RowWrite.apply, hu, Option.getD_some]
      have hget := fun t' => Dispatches.get_updateProviderMessageID hd hu t'
      exact ⟨⟨_, (hget t).trans (if_pos rfl), rfl, rfl⟩, fun t' ht => (hget t').trans (if_neg ht)⟩

theorem get_applyWrites {t : String} (ws : List RowWrite) {table : Dispatches} {d : MessageDispatch}
    (hd : table.get t = some d) :
    (∃ r, (applyWrites d.id table ws).get t = some r ∧ r.id = d.id ∧ r.columns = (lastWritten ws).getD d.columns) ∧
    ∀ t', t' ≠ t → (applyWrites d.id table ws).get t' = table.get t' := by
  induction ws generalizing table d with
  | nil => exact ⟨⟨d, hd, rfl, rfl⟩, fun _ _ => rfl⟩
  | cons x ws ih =>
    obtain ⟨⟨r₁, hr₁, hid₁, hc₁⟩, hframe₁⟩ := get_apply hd x
    obtain ⟨⟨r, hr, hid, hc⟩, hframe⟩ := ih hr₁
    rw [hid₁] at hr hid hframe
    refine ⟨⟨r, hr, hid, ?_⟩, fun t' ht => (hframe t' ht).trans (hframe₁ t' ht)⟩
    rw [hc, hc₁, lastWritten]
    cases lastWritten ws <;> rfl

end PerGo.L3
