import PerGo.L4App.SentRows

/-!
# The fallback loop as one pass over the channels

A call that gets to the fallback loop starts at the index of its row. `Due` says on the inputs that the pass
over the channels from there on comes to a channel: every one before it has no recipient or a dispatcher that
refuses for good. `InOrder` is what the pass is for: the dispatchers of the channels that are due are the ones
invoked, in the order of the list; a success leaves `sent` with its channel and index in the row, a transient
error leaves its index, from which every later call for the trace goes on; the row says `failed`, and the
message is acked, when every channel was passed over.

Where a channel that is due has no dispatcher, `dispatchToChannel` answers `("", nil)`, which the loop takes
for a success; where an update of the row fails, the call ends without the attempt or leaves the row as it was.

* `in_order_iff`: the pass is as described exactly where every due channel has a dispatcher and the row can be
  written (`Unhindered`).
* `index_kept`, `later_from`: no call, restart or provider status lowers the index of a row, and calls attempt
  no channel before it.
-/
namespace PerGo.L4.FallbackPass

open PerGo.Core PerGo.L1 PerGo.L2 PerGo.L3
open DispatchRun (applyStatusUpdate sampleText accepts)

section Pass

variable (o : Orchestrator) (env : Env) (q : QueueMessage)

/-- What the dispatcher of `chan` answers at index `i`. -/
def answer (i : Nat) (chan to_ : String) : DispatchResult := env.dispatch i (attemptPayload o env q chan to_)

/-- Channel `i` is passed over: no recipient, or a terminal error. -/
def Passed (i : Nat) (chan : String) : Prop :=
  resolveRecipientForChannel o env q.workspaceID q.to_ chan = none ∨
  ∃ to_ e, resolveRecipientForChannel o env q.workspaceID q.to_ chan = some to_ ∧
    (answer o env q i chan to_).err = some e ∧ e.terminal = true

/-- The pass from index `start` on comes to channel `i`, which has the recipient `to_`. -/
structure Due (start i : Nat) (chan to_ : String) : Prop where
  started : start ≤ i
  at_ : (allChannels q)[i]? = some chan
  before : ∀ j c, start ≤ j → j < i → (allChannels q)[j]? = some c → Passed o env q j c
  resolved : resolveRecipientForChannel o env q.workspaceID q.to_ chan = some to_

/-- Every channel from index `start` on is passed over. -/
def Exhausted (start : Nat) : Prop := ∀ j c, start ≤ j → (allChannels q)[j]? = some c → Passed o env q j c

/-- What happens to the trace after a call: calls with the same or a fresh process, of this or other messages,
and statuses the provider sends. -/
inductive Later : World → World → Prop
  | refl (w : World) : Later w w
  | call {w w' : World} (h : Later w w') (env : Env) (q : QueueMessage) (attempt : Int) :
      Later w (process o env w' q attempt).1
  | restart {w w' : World} (h : Later w w') : Later w { w' with dispatched := [] }
  | statusUpdate {w w' : World} (h : Later w w') (pid body : String) :
      Later w { w' with table := applyStatusUpdate w'.table pid body }

/-- The world after a call; the calls on the outside made before it are left out. -/
def callWorld (w : World) (attempt : Int) : World := (process o env { w with out := [] } q attempt).1

/-- The pass of a call from index `start` on. -/
structure InOrder (w : World) (attempt : Int) (start : Nat) : Prop where
  /-- the dispatchers invoked are those of the due channels, each handed its recipient -/
  invoked : ∀ x, x ∈ callInvocations o env q w attempt ↔ ∃ i chan to_, Due o env q start i chan to_ ∧
    x = (i, attemptPayload o env q chan to_, answer o env q i chan to_)
  order : (callInvocations o env q w attempt).Pairwise (·.1 < ·.1)
  sent : tracked o q = true → ∀ i chan to_, Due o env q start i chan to_ → (answer o env q i chan to_).err = none →
    ∃ r, (callWorld o env q w attempt).table.get q.traceID = some r ∧ r.columns = ("sent", chan, i)
  transient : tracked o q = true → ∀ i chan to_ e, Due o env q start i chan to_ →
    (answer o env q i chan to_).err = some e → e.terminal = false →
    startIndex (foundRow o q (callWorld o env q w attempt)) = i ∧
    ∀ w', Later o (callWorld o env q w attempt) w' → ∀ env' q' attempt', q'.traceID = q.traceID →
      ∀ x ∈ callInvocations o env' q' w' attempt', i ≤ x.1
  failed : Exhausted o env q start → Effect.ack ∈ (callWorld o env q w attempt).out ∧
    (tracked o q = true → ∃ r, (callWorld o env q w attempt).table.get q.traceID = some r ∧ r.status = "failed")
  onlyThen : tracked o q = true → ∀ r, (callWorld o env q w attempt).table.get q.traceID = some r →
    r.status = "failed" → Exhausted o env q start

/-- Every channel that is due is attempted: it has a dispatcher, and the row becomes `sending`. -/
structure Attempted (start : Nat) : Prop where
  dispatcher : ∀ i chan to_, Due o env q start i chan to_ → registered o chan = true
  sending : tracked o q = true → ∀ i chan to_, Due o env q start i chan to_ → env.sendingErr i = none

/-- Nothing is in the way of the pass from index `start` on. -/
structure Unhindered (w : World) (start : Nat) : Prop extends Attempted o env q start where
  sent : tracked o q = true → ∀ i chan to_, Due o env q start i chan to_ → (answer o env q i chan to_).err = none →
    env.sentErr = false
  /-- a row that says `failed` already, and no channel with a recipient, need no update -/
  failed : tracked o q = true → Exhausted o env q start → env.statusErr = false ∨
    ((∀ i chan to_, ¬Due o env q start i chan to_) ∧ ∃ r, foundRow o q w = some r ∧ r.status = "failed")

variable {o env q} {start : Nat}

theorem stops_or_exhausted (o : Orchestrator) (env : Env) (q : QueueMessage) (start : Nat) : (∃ i chan to_, Due o env q start i chan to_ ∧
    ∀ e, (answer o env q i chan to_).err = some e → e.terminal = false) ∨ Exhausted o env q start := by
  by_cases h : ∃ j, start ≤ j ∧ ∃ c, (allChannels q)[j]? = some c ∧ ¬Passed o env q j c
  · left
    classical
    -- the first channel that is not passed over
    obtain ⟨hj, c, hc, hnp⟩ := Nat.find_spec h
    have hfirst : ∀ j c, start ≤ j → j < Nat.find h → (allChannels q)[j]? = some c → Passed o env q j c := by
      intro j c hj hlt hc
      by_contra hn
      exact Nat.find_min h hlt ⟨hj, c, hc, hn⟩
    cases hres : resolveRecipientForChannel o env q.workspaceID q.to_ c with
    | none => exact absurd (.inl hres) hnp
    | some to_ =>
      refine ⟨Nat.find h, c, to_, ⟨hj, hc, hfirst, hres⟩, fun e he => ?_⟩
      cases hterm : e.terminal with
      | false => rfl
      | true => exact absurd (.inr ⟨to_, e, hres, he, hterm⟩) hnp
  · right
    intro j c hj hc
    by_contra hn
    exact h ⟨j, hj, c, hc, hn⟩

end Pass

/-! ## What the loop writes -/

section Writes

variable (o : Orchestrator) (env : Env) (q : QueueMessage)

/-- The writes for channels that are passed over: `sending` for each that has a recipient. -/
def passedWrites : List String → Nat → List RowWrite
  | [], _ => []
  | c :: rest, i =>
    (if resolveRecipientForChannel o env q.workspaceID q.to_ c = none then [] else [.status "sending" c i none]) ++
      passedWrites rest (i + 1)

variable {o env q}

theorem loopWrites_drop (k : Nat) {chans : List String} {i : Nat} (v : LoopVars)
    (hgo : ∀ j c, j < k → chans[j]? = some c → GoesOn o env q true (i + j) c) :
    ∃ v', loopWrites o env q chans i v =
      passedWrites o env q (chans.take k) i ++ loopWrites o env q (chans.drop k) (i + k) v' := by
  induction k generalizing chans i v with
  | zero => exact ⟨v, rfl⟩
  | succ k ih =>
    cases chans with
    | nil => exact ⟨v, rfl⟩
    | cons c rest =>
      have hrest : ∀ j c', j < k → rest[j]? = some c' → GoesOn o env q true (i + 1 + j) c' := by
        intro j c' hj hc'
        have h := hgo (j + 1) c' (by omega) (by simpa using hc')
        rwa [show i + (j + 1) = i + 1 + j by omega] at h
      rw [List.take_succ_cons, List.drop_succ_cons, passedWrites, loopWrites, show i + (k + 1) = i + 1 + k by omega]
      rcases hgo 0 c (by omega) rfl with hn | ⟨to_, e, hs, hbegins, hreg, herr, hterm⟩
      · simp only [hn, if_true, List.nil_append]
        exact ih _ hrest
      · have hans : (answerAt o env q i c to_).err = some e := by rwa [answerAt, if_pos hreg]
        have hsend : env.sendingErr i = none := hbegins rfl
        simp only [hs, hsend, hans, hterm, if_true, reduceCtorEq, if_false, List.cons_append, List.nil_append]
        obtain ⟨v', hv'⟩ := ih _ hrest
        exact ⟨v', congrArg (List.cons _) hv'⟩

theorem written_passedWrites {chans : List String} {i : Nat} {y : String × String × Nat}
    (h : lastWritten (passedWrites o env q chans i) = some y) :
    y.1 = "sending" ∧ ∃ c ∈ chans, resolveRecipientForChannel o env q.workspaceID q.to_ c ≠ none := by
  obtain ⟨x, hx, hy⟩ := lastWritten_mem h
  clear h
  induction chans generalizing i with
  | nil => nomatch hx
  | cons c rest ih =>
    rw [passedWrites, List.mem_append] at hx
    rcases hx with hx | hx
    · split at hx
      · nomatch hx
      · next hres =>
        obtain rfl := List.mem_singleton.mp hx
        exact ⟨by rw [← Option.some.inj hy], c, List.mem_cons_self, hres⟩
    · obtain ⟨hsending, c', hc', hres⟩ := ih hx
      exact ⟨hsending, c', List.mem_cons_of_mem _ hc', hres⟩

theorem lastWritten_passedWrites_none {chans : List String} {i : Nat}
    (h : lastWritten (passedWrites o env q chans i) = none) {c : String} (hc : c ∈ chans) :
    resolveRecipientForChannel o env q.workspaceID q.to_ c = none := by
  induction chans generalizing i with
  | nil => nomatch hc
  | cons c' rest ih =>
    rw [passedWrites, lastWritten_append, Option.or_eq_none_iff] at h
    rcases List.mem_cons.mp hc with rfl | hc
    · by_contra hn
      rw [if_neg hn] at h
      nomatch h.2
    · exact ih h.1 hc

theorem lastWritten_sentWrites (chan : String) (i : Nat) (resp : String) :
    lastWritten (sentWrites env chan i resp) = if env.sentErr then none else some ("sent", chan, i) := by
  have hprovider : lastWritten (if chan = "whatsapp_cloud" ∧ resp ≠ "" ∧ env.providerErr = false then
      [.provider resp] else []) = none := by
    split <;> rfl
  rw [sentWrites, lastWritten_append, hprovider]
  split <;> rfl

theorem lastWritten_stop (rest : List String) {chan to_ : String} {i : Nat} (v : LoopVars)
    (hres : resolveRecipientForChannel o env q.workspaceID q.to_ chan = some to_) (hreg : registered o chan = true)
    (hsend : env.sendingErr i = none) :
    ((answer o env q i chan to_).err = none →
      lastWritten (loopWrites o env q (chan :: rest) i v) =
        some (if env.sentErr then "sending" else "sent", chan, i)) ∧
    ∀ e, (answer o env q i chan to_).err = some e → e.terminal = false →
      ∃ status, status ≠ "failed" ∧ lastWritten (loopWrites o env q (chan :: rest) i v) = some (status, chan, i) := by
  have hans : answerAt o env q i chan to_ = answer o env q i chan to_ := if_pos hreg
  rw [loopWrites]
  simp only [hres, hsend, hans]
  refine ⟨fun hok => ?_, fun e herr hterm => ?_⟩
  · simp only [hok, lastWritten, lastWritten_sentWrites]
    split <;> rfl
  · simp only [herr, hterm, Bool.false_eq_true, if_false, statusWrites]
    cases env.statusErr with
    | true => exact ⟨"sending", by decide, rfl⟩
    | false => exact ⟨"failed_transient", by decide, rfl⟩

theorem le_of_loopWrites {lo : Nat} {chans : List String} {i : Nat} {v : LoopVars} (hi : lo ≤ i)
    (hv : lo ≤ v.lastAttemptedIndex ∧ lo ≤ v.currentIndex) {x : RowWrite} (hx : x ∈ loopWrites o env q chans i v)
    {y : String × String × Nat} (hy : x.written = some y) : lo ≤ y.2.2 := by
  have hstatus : ∀ {status chan : String} {idx : Nat} {err : Option String}, lo ≤ idx →
      x ∈ statusWrites env status chan idx err → lo ≤ y.2.2 := by
    intro status chan idx err hle hx
    unfold statusWrites at hx
    split at hx
    · cases hx
    · obtain rfl := List.mem_singleton.mp hx
      rw [← Option.some.inj hy]
      exact hle
  induction chans generalizing i v with
  | nil =>
    simp only [loopWrites, failedWrites] at hx
    refine hstatus ?_ hx
    split
    · exact hv.2
    · exact hv.1
  | cons chan rest ih =>
    rw [loopWrites] at hx
    split at hx
    · refine ih (Nat.le_succ_of_le hi) ?_ hx
      exact ⟨hv.1, hi⟩
    · split at hx
      · cases hx
      · rcases List.mem_cons.mp hx with rfl | hx
        · rw [← Option.some.inj hy]
          exact hi
        · split at hx
          · unfold sentWrites at hx
            rcases List.mem_append.mp hx with hx | hx
            · split at hx
              · cases hx
              · obtain rfl := List.mem_singleton.mp hx
                rw [← Option.some.inj hy]
                exact hi
            · split at hx
              · obtain rfl := List.mem_singleton.mp hx
                cases hy
              · cases hx
          · split at hx
            · refine ih (Nat.le_succ_of_le hi) ?_ hx
              exact ⟨hi, hi⟩
            · exact hstatus hi hx

theorem le_of_callWrites {claimed : Bool} {d : MessageDispatch} {x : RowWrite} (hx : x ∈ callWrites o env q claimed d)
    {y : String × String × Nat} (hy : x.written = some y) : d.fallbackIndex ≤ y.2.2 := by
  unfold callWrites at hx
  split at hx
  · nomatch hx
  · split at hx
    · unfold statusWrites at hx
      split at hx
      · nomatch hx
      · obtain rfl := List.mem_singleton.mp hx
        rw [← Option.some.inj hy]
    · dsimp only at hx
      split at hx
      · nomatch hx
      · refine le_of_loopWrites (Nat.le_refl d.fallbackIndex) ?_ hx hy
        exact ⟨Nat.le_refl _, Nat.le_refl _⟩

end Writes

/-! ## The index of a row only grows -/

theorem index_kept (o : Orchestrator) (env : Env) (q : QueueMessage) (w : World) (attempt : Int) {t : String}
    {r : MessageDispatch} (hr : w.table.get t = some r) :
    ∃ r', (process o env w q attempt).1.table.get t = some r' ∧ r.fallbackIndex ≤ r'.fallbackIndex := by
  rcases process_table o env q w attempt with heq | ⟨d, table, hd, hrows, hold, heq⟩
  · exact ⟨r, heq ▸ hr, Nat.le_refl _⟩
  · rw [heq]
    obtain ⟨⟨r', hr', -, hc⟩, hframe⟩ := get_applyWrites (callWrites o env q (q.traceID ≠ "" ∧ q.traceID ∈ w.dispatched) d) hd
    by_cases ht : t = q.traceID
    · subst ht
      rcases hold with hold | ⟨hnone, -⟩
      · obtain rfl := Option.some.inj (hr.symm.trans hold)
        refine ⟨r', hr', ?_⟩
        cases hl : lastWritten (callWrites o env q (q.traceID ≠ "" ∧ q.traceID ∈ w.dispatched) r) with
        | none =>
          rw [hl] at hc
          exact Nat.le_of_eq (congrArg (·.2.2) hc).symm
        | some y =>
          rw [hl] at hc
          obtain ⟨x, hx, hy⟩ := lastWritten_mem hl
          exact (le_of_callWrites hx hy).trans (Nat.le_of_eq (congrArg (·.2.2) hc).symm)
      · rw [hr] at hnone
        nomatch hnone
    · exact ⟨r, (hframe t ht).trans ((hrows.frame t ht).trans hr), Nat.le_refl _⟩

theorem index_kept_statusUpdate {table : Dispatches} {t : String} {r : MessageDispatch} (hr : table.get t = some r)
    (pid body : String) :
    ∃ r', (applyStatusUpdate table pid body).get t = some r' ∧ r.fallbackIndex = r'.fallbackIndex := by
  unfold applyStatusUpdate
  cases hd : table.getByProviderMessageID pid with
  | none => exact ⟨r, hr, rfl⟩
  | some d =>
    obtain ⟨hg, -⟩ := Dispatches.get_of_provider hd
    simp only [Dispatches.get_updateDispatchStatus hg]
    by_cases ht : t = d.traceID
    · subst ht
      obtain rfl := Option.some.inj (hr.symm.trans hg)
      exact ⟨_, if_pos rfl, rfl⟩
    · exact ⟨r, (if_neg ht).trans hr, rfl⟩

theorem index_kept_later {o : Orchestrator} {w w' : World} (h : Later o w w') {t : String} {r : MessageDispatch}
    (hr : w.table.get t = some r) : ∃ r', w'.table.get t = some r' ∧ r.fallbackIndex ≤ r'.fallbackIndex := by
  induction h with
  | refl => exact ⟨r, hr, Nat.le_refl _⟩
  | call h env q attempt ih =>
    obtain ⟨r₁, hr₁, hle₁⟩ := ih
    obtain ⟨r₂, hr₂, hle₂⟩ := index_kept o env q _ attempt hr₁
    exact ⟨r₂, hr₂, hle₁.trans hle₂⟩
  | restart h ih => exact ih
  | statusUpdate h pid body ih =>
    obtain ⟨r₁, hr₁, hle₁⟩ := ih
    obtain ⟨r₂, hr₂, heq⟩ := index_kept_statusUpdate hr₁ pid body
    exact ⟨r₂, hr₂, heq ▸ hle₁⟩

theorem later_from {o : Orchestrator} {w w' : World} (h : Later o w w') {q : QueueMessage} (htr : tracked o q = true)
    {r : MessageDispatch} (hr : w.table.get q.traceID = some r) {env : Env} {attempt : Int}
    {x : Nat × MessagePayload × DispatchResult} (hx : x ∈ callInvocations o env q w' attempt) :
    r.fallbackIndex ≤ x.1 := by
  obtain ⟨r', hr', hle⟩ := index_kept_later h hr
  obtain ⟨i, chan, to_, hreach, rfl⟩ := (mem_callInvocations o env q w' attempt x).mp hx
  have hstart := hreach.started
  rw [show foundRow o q { w' with out := [] } = some r' from (if_pos htr).trans hr'] at hstart
  exact hle.trans hstart

/-! ## One call -/

section Call

variable {o : Orchestrator} {env : Env} {q : QueueMessage} {w : World} {start : Nat}

theorem passed_of_goesOn {row : Bool} {i : Nat} {c : String} (h : GoesOn o env q row i c) : Passed o env q i c := by
  rcases h with hn | ⟨to_, e, hs, -, -, he, hterm⟩
  · exact .inl hn
  · exact .inr ⟨to_, e, hs, he, hterm⟩

theorem Attempted.goesOn (ha : Attempted o env q start) {j : Nat} {c : String} (hj : start ≤ j)
    (hc : (allChannels q)[j]? = some c)
    (hbefore : ∀ j' c', start ≤ j' → j' < j → (allChannels q)[j']? = some c' → Passed o env q j' c')
    (hp : Passed o env q j c) : GoesOn o env q (tracked o q) j c := by
  rcases hp with hn | ⟨to_, e, hs, he, hterm⟩
  · exact .inl hn
  · have hdue : Due o env q start j c to_ := ⟨hj, hc, hbefore, hs⟩
    exact .inr ⟨to_, e, hs, fun htr => ha.sending htr j c to_ hdue, ha.dispatcher j c to_ hdue, he, hterm⟩

theorem Enters.clear (he : Enters o env q w) : Enters o env q { w with out := [] } :=
  ⟨he.notPrivate, he.row, he.notSent, he.notClaimed, he.notExpired⟩

theorem due_of_reaches {i : Nat} {chan to_ : String} (h : Reaches o env q w i chan to_) :
    Due o env q (startIndex (foundRow o q w)) i chan to_ :=
  ⟨h.started, h.at_, fun _ _ hj hlt hc => passed_of_goesOn (h.goesOn hj hlt hc), h.loop.resolved⟩

theorem Attempted.reaches (he : Enters o env q w) (ha : Attempted o env q (startIndex (foundRow o q w))) {i : Nat}
    {chan to_ : String} (h : Due o env q (startIndex (foundRow o q w)) i chan to_) : Reaches o env q w i chan to_ := by
  have hattempt : SentRows.Attempts o env q w i chan to_ := by
    refine ⟨he, h.started, h.at_, ?_, h.resolved, fun htr => ha.sending htr i chan to_ h⟩
    intro j c hj hlt hc
    exact ha.goesOn hj hc (fun j' c' hj' hlt' => h.before j' c' hj' (by omega)) (h.before j c hj hlt hc)
  exact hattempt.reaches (ha.dispatcher i chan to_ h)

theorem row_after (he : Enters o env q w) (hin : startIndex (foundRow o q w) < (allChannels q).length)
    (htr : tracked o q = true) (attempt : Int) :
    ∃ d r, (foundRow o q w = some d ∨ (foundRow o q w = none ∧ d.status = "queued")) ∧
      (callWorld o env q w attempt).table.get q.traceID = some r ∧
      r.columns = (lastWritten (loopWrites o env q ((allChannels q).drop (startIndex (foundRow o q w)))
        (startIndex (foundRow o q w)) ⟨none, "", startIndex (foundRow o q w), "", startIndex (foundRow o q w)⟩)).getD
          d.columns := by
  obtain ⟨dispatch, w₁, hrow, hstart, hdisp, hd, -, heq⟩ := process_of_checksTTL o env q (Enters.clear he).checksTTL attempt
  rw [htr] at hrow
  obtain ⟨d, rfl⟩ := Option.isSome_iff_exists.mp hrow
  obtain ⟨hsent, hget, hfound⟩ := hd d rfl
  obtain ⟨⟨r, hr, -, hc⟩, -⟩ := get_applyWrites (callWrites o env q (q.traceID ≠ "" ∧ q.traceID ∈ w₁.dispatched) d) hget
  refine ⟨d, r, hfound, ?_, ?_⟩
  · rw [callWorld, heq, processClaimed_table o env q w₁ attempt d hsent]
    exact hr
  · have hs : d.fallbackIndex = startIndex (foundRow o q w) := hstart
    have hfresh : ¬(d.status = "sent" ∨ decide (q.traceID ≠ "" ∧ q.traceID ∈ w₁.dispatched) = true) := by
      rw [hdisp, decide_eq_true_eq]
      rintro (h | ⟨ht, hm⟩)
      · exact hsent h
      · exact he.notClaimed ht hm
    have hlt : ¬startIndex (foundRow o q w) ≥ (allChannels q).length := Nat.not_le_of_lt hin
    rw [hc, callWrites, if_neg hfresh, he.notExpired, if_neg Bool.false_ne_true, hs, if_neg hlt]

theorem lastWritten_due {i : Nat} {chan to_ : String} (htr : tracked o q = true) (ha : Attempted o env q start)
    (h : Due o env q start i chan to_) (v : LoopVars) :
    ((answer o env q i chan to_).err = none →
      lastWritten (loopWrites o env q ((allChannels q).drop start) start v) =
        some (if env.sentErr then "sending" else "sent", chan, i)) ∧
    ∀ e, (answer o env q i chan to_).err = some e → e.terminal = false →
      ∃ status, status ≠ "failed" ∧
        lastWritten (loopWrites o env q ((allChannels q).drop start) start v) = some (status, chan, i) := by
  have hi : start + (i - start) = i := by
    have := h.started
    omega
  have hgo : ∀ j c, j < i - start → ((allChannels q).drop start)[j]? = some c → GoesOn o env q true (start + j) c := by
    intro j c hj hc
    rw [List.getElem?_drop] at hc
    rw [← htr]
    exact ha.goesOn (by omega) hc (fun j' c' hj' hlt' => h.before j' c' hj' (by omega))
      (h.before _ c (by omega) (by omega) hc)
  obtain ⟨v', hv'⟩ := loopWrites_drop (i - start) v hgo
  obtain ⟨hlt, hat⟩ := List.getElem?_eq_some_iff.mp h.at_
  have hdrop : ((allChannels q).drop start).drop (i - start) = chan :: (allChannels q).drop (i + 1) := by
    rw [List.drop_drop, hi, List.drop_eq_getElem_cons hlt, hat]
  rw [hv', lastWritten_append, hdrop, hi]
  obtain ⟨hok, herr⟩ := lastWritten_stop ((allChannels q).drop (i + 1)) v' h.resolved
    (ha.dispatcher i chan to_ h) (ha.sending htr i chan to_ h)
  refine ⟨fun hn => by rw [hok hn]; rfl, fun e he hterm => ?_⟩
  obtain ⟨status, hne, hl⟩ := herr e he hterm
  exact ⟨status, hne, by rw [hl]; rfl⟩

theorem lastWritten_failedWrites (env : Env) (v : LoopVars) :
    (env.statusErr = false → ∃ chan i, lastWritten (failedWrites env v) = some ("failed", chan, i)) ∧
    (env.statusErr = true → lastWritten (failedWrites env v) = none) := by
  simp only [failedWrites, statusWrites]
  refine ⟨fun hf => ?_, fun ht => ?_⟩
  · rw [hf]
    exact ⟨_, _, rfl⟩
  · rw [ht]
    rfl

theorem lastWritten_exhausted (htr : tracked o q = true) (ha : Attempted o env q start)
    (h : Exhausted o env q start) (v : LoopVars) :
    (env.statusErr = false → ∃ chan i,
      lastWritten (loopWrites o env q ((allChannels q).drop start) start v) = some ("failed", chan, i)) ∧
    (env.statusErr = true → lastWritten (loopWrites o env q ((allChannels q).drop start) start v) =
      lastWritten (passedWrites o env q ((allChannels q).drop start) start)) := by
  have hgo : ∀ j c, j < ((allChannels q).drop start).length → ((allChannels q).drop start)[j]? = some c →
      GoesOn o env q true (start + j) c := by
    intro j c _ hc
    rw [List.getElem?_drop] at hc
    rw [← htr]
    exact ha.goesOn (by omega) hc (fun j' c' hj' _ => h j' c' hj') (h _ c (by omega) hc)
  obtain ⟨v', hv'⟩ := loopWrites_drop _ v hgo
  rw [hv', List.take_length, List.drop_length, lastWritten_append, loopWrites]
  obtain ⟨hwritten, hkept⟩ := lastWritten_failedWrites env v'
  refine ⟨fun hf => ?_, fun ht => ?_⟩
  · obtain ⟨chan, i, hl⟩ := hwritten hf
    exact ⟨chan, i, by rw [hl]; rfl⟩
  · rw [hkept ht]
    rfl

theorem fallbackLoop_finished (attempt : Int) (dispatch : Option MessageDispatch) (all : List String) (s : Nat)
    {chans : List String} {i : Nat} (v : LoopVars) (w : World)
    (hgo : ∀ j c, chans[j]? = some c → GoesOn o env q dispatch.isSome (i + j) c) :
    ∃ w' v', fallbackLoop o env q attempt dispatch all s chans i v w = (w', .finished v') := by
  induction chans generalizing i v w with
  | nil => exact ⟨w, v, rfl⟩
  | cons c rest ih =>
    have hrest : ∀ j c', rest[j]? = some c' → GoesOn o env q dispatch.isSome (i + 1 + j) c' := by
      intro j c' hc'
      have h := hgo (j + 1) c' (by simpa using hc')
      rwa [show i + (j + 1) = i + 1 + j by omega] at h
    rw [fallbackLoop]
    rcases hgo 0 c rfl with hn | ⟨to_, e, hs, hbegins, hreg, herr, hterm⟩
    · simp only [hn]
      exact ih _ _ hrest
    · obtain ⟨w₁, hb, -⟩ := beginAttempt_eq o env w q dispatch all s i { v with lastChannel := c, currentIndex := i } c to_
      have hnone : (if dispatch.isSome then env.sendingErr i else none) = none := by
        split
        · next hd => exact hbegins hd
        · rfl
      obtain ⟨qc, res, hd, hans, -⟩ := dispatchToChannel_eq o env q w₁ i c to_
      have hres : res.err = some e := by rw [hans hreg, ← herr, Nat.add_zero]
      simp only [hs, hb, hnone, hd, hres, hterm, if_true]
      exact ih _ _ hrest

theorem acked_of_exhausted (he : Enters o env q w) (hin : startIndex (foundRow o q w) < (allChannels q).length)
    (ha : Attempted o env q (startIndex (foundRow o q w))) (h : Exhausted o env q (startIndex (foundRow o q w)))
    (attempt : Int) : Effect.ack ∈ (callWorld o env q w attempt).out := by
  obtain ⟨dispatch, w₁, hrow, hstart, hdisp, -, -, heq⟩ := process_of_checksTTL o env q (Enters.clear he).checksTTL attempt
  have hs : startIndex dispatch = startIndex (foundRow o q w) := hstart
  rw [callWorld, heq, processClaimed, if_neg (fun hc => he.notClaimed hc.1 (hdisp ▸ hc.2)), he.notExpired]
  simp only [Bool.false_eq_true, if_false]
  rw [if_neg (by omega), hs]
  have hgo : ∀ j c, ((allChannels q).drop (startIndex (foundRow o q w)))[j]? = some c →
      GoesOn o env q dispatch.isSome (startIndex (foundRow o q w) + j) c := by
    intro j c hc
    rw [List.getElem?_drop] at hc
    rw [hrow]
    exact ha.goesOn (by omega) hc (fun j' c' hj' _ => h j' c' hj') (h _ c (by omega) hc)
  obtain ⟨w', v', hloop⟩ := fallbackLoop_finished attempt dispatch (allChannels q) (startIndex (foundRow o q w))
    ⟨none, "", startIndex (foundRow o q w), "", startIndex (foundRow o q w)⟩
    (if q.traceID ≠ "" then { w₁ with dispatched := q.traceID :: w₁.dispatched } else w₁) hgo
  rw [hloop]
  exact ack_mem o _ _

theorem invoked_iff (he : Enters o env q w) (ha : Attempted o env q (startIndex (foundRow o q w))) (attempt : Int)
    (x : Nat × MessagePayload × DispatchResult) :
    x ∈ callInvocations o env q w attempt ↔ ∃ i chan to_, Due o env q (startIndex (foundRow o q w)) i chan to_ ∧
      x = (i, attemptPayload o env q chan to_, answer o env q i chan to_) := by
  rw [mem_callInvocations]
  constructor
  · rintro ⟨i, chan, to_, hr, rfl⟩
    have hdue := due_of_reaches hr
    exact ⟨i, chan, to_, hdue, rfl⟩
  · rintro ⟨i, chan, to_, hdue, rfl⟩
    exact ⟨i, chan, to_, Attempted.reaches (Enters.clear he) ha hdue, rfl⟩

theorem attempted_of_invoked {attempt : Int} (h : InOrder o env q w attempt (startIndex (foundRow o q w))) :
    Attempted o env q (startIndex (foundRow o q w)) := by
  have hreach : ∀ i chan to_, Due o env q (startIndex (foundRow o q w)) i chan to_ →
      ∃ to', Reaches o env q { w with out := [] } i chan to' := by
    intro i chan to_ hdue
    obtain ⟨i', chan', to', hr, heq⟩ := (mem_callInvocations o env q w attempt _).mp
      ((h.invoked _).mpr ⟨i, chan, to_, hdue, rfl⟩)
    obtain rfl : i = i' := congrArg Prod.fst heq
    obtain rfl : chan = chan' := Option.some.inj (hdue.at_.symm.trans hr.at_)
    exact ⟨to', hr⟩
  refine ⟨fun i chan to_ hdue => ?_, fun htr i chan to_ hdue => ?_⟩
  · obtain ⟨to', hr⟩ := hreach i chan to_ hdue
    exact hr.loop.registered
  · obtain ⟨to', hr⟩ := hreach i chan to_ hdue
    have hi : startIndex (foundRow o q w) + (i - startIndex (foundRow o q w)) = i := by
      have := hdue.started
      omega
    have hb : env.sendingErr (startIndex (foundRow o q w) + (i - startIndex (foundRow o q w))) = none :=
      hr.loop.begins htr
    rwa [hi] at hb

theorem inOrder_of_unhindered (he : Enters o env q w) (hin : startIndex (foundRow o q w) < (allChannels q).length)
    (hu : Unhindered o env q w (startIndex (foundRow o q w))) (attempt : Int) :
    InOrder o env q w attempt (startIndex (foundRow o q w)) := by
  have ha := hu.toAttempted
  refine ⟨invoked_iff he ha attempt, callInvocations_sorted o env q w attempt, ?_, ?_, ?_, ?_⟩
  · intro htr i chan to_ hdue hok
    obtain ⟨d, r, -, hr, hc⟩ := row_after he hin htr attempt
    rw [(lastWritten_due htr ha hdue _).1 hok, hu.sent htr i chan to_ hdue hok] at hc
    exact ⟨r, hr, hc⟩
  · intro htr i chan to_ e hdue herr hterm
    obtain ⟨d, r, -, hr, hc⟩ := row_after he hin htr attempt
    obtain ⟨status, -, hl⟩ := (lastWritten_due htr ha hdue _).2 e herr hterm
    rw [hl] at hc
    have hidx : r.fallbackIndex = i := congrArg (·.2.2) hc
    refine ⟨?_, fun w' hlater env' q' attempt' ht x hx => ?_⟩
    · rw [foundRow, if_pos htr, hr]
      exact hidx
    · have htr' : tracked o q' = true := by rwa [tracked, ht]
      rw [← hidx]
      exact later_from hlater htr' (by rwa [ht]) hx
  · intro hex
    refine ⟨acked_of_exhausted he hin ha hex attempt, fun htr => ?_⟩
    obtain ⟨d, r, hfound, hr, hc⟩ := row_after he hin htr attempt
    refine ⟨r, hr, ?_⟩
    cases hse : env.statusErr with
    | false =>
      obtain ⟨chan, i, hl⟩ := (lastWritten_exhausted htr ha hex _).1 hse
      rw [hl] at hc
      exact congrArg Prod.fst hc
    | true =>
      -- no channel had a recipient, and the row said `failed` before
      rcases hu.failed htr hex with hf | ⟨hnone, d', hd', hfailed⟩
      · rw [hse] at hf
        cases hf
      · rw [(lastWritten_exhausted htr ha hex _).2 hse] at hc
        have hd : d.status = "failed" := by
          rcases hfound with hfd | ⟨hfn, -⟩
          · rwa [Option.some.inj (hfd.symm.trans hd')]
          · rw [hfn] at hd'
            cases hd'
        cases hl : lastWritten (passedWrites o env q ((allChannels q).drop (startIndex (foundRow o q w)))
            (startIndex (foundRow o q w))) with
        | none =>
          rw [hl] at hc
          exact (congrArg Prod.fst hc).trans hd
        | some y =>
          obtain ⟨-, c, hmem, hres⟩ := written_passedWrites hl
          obtain ⟨to_, hto⟩ := Option.ne_none_iff_exists'.mp hres
          obtain ⟨k, hk⟩ := List.mem_iff_getElem?.mp hmem
          rw [List.getElem?_drop] at hk
          exact absurd ⟨by omega, hk, fun j c' hj _ => hex j c' hj, hto⟩
            (hnone (startIndex (foundRow o q w) + k) c to_)
  · intro htr r hr hfailed
    rcases stops_or_exhausted o env q (startIndex (foundRow o q w)) with ⟨i, chan, to_, hdue, hstop⟩ | hex
    · obtain ⟨d, r', -, hr', hc⟩ := row_after he hin htr attempt
      obtain rfl := Option.some.inj (hr.symm.trans hr')
      cases herr : (answer o env q i chan to_).err with
      | none =>
        rw [(lastWritten_due htr ha hdue _).1 herr, hu.sent htr i chan to_ hdue herr] at hc
        have hs : r.status = "sent" := congrArg Prod.fst hc
        rw [hs] at hfailed
        exact absurd hfailed (by decide)
      | some e =>
        obtain ⟨status, hne, hl⟩ := (lastWritten_due htr ha hdue _).2 e herr (hstop e herr)
        rw [hl] at hc
        exact absurd ((congrArg Prod.fst hc).symm.trans hfailed) hne
    · exact hex

theorem unhindered_of_inOrder (he : Enters o env q w) (hin : startIndex (foundRow o q w) < (allChannels q).length)
    {attempt : Int} (h : InOrder o env q w attempt (startIndex (foundRow o q w))) :
    Unhindered o env q w (startIndex (foundRow o q w)) := by
  have ha := attempted_of_invoked h
  refine ⟨ha, ?_, ?_⟩
  · intro htr i chan to_ hdue hok
    obtain ⟨d, r, -, hr, hc⟩ := row_after he hin htr attempt
    obtain ⟨r', hr', hc'⟩ := h.sent htr i chan to_ hdue hok
    obtain rfl := Option.some.inj (hr.symm.trans hr')
    rw [(lastWritten_due htr ha hdue _).1 hok, hc'] at hc
    cases hse : env.sentErr with
    | false => rfl
    | true =>
      rw [hse] at hc
      have hstatus : "sent" = "sending" := congrArg Prod.fst hc
      exact absurd hstatus (by decide)
  · intro htr hex
    cases hse : env.statusErr with
    | false => exact .inl rfl
    | true =>
      right
      obtain ⟨d, r, hfound, hr, hc⟩ := row_after he hin htr attempt
      obtain ⟨r', hr', hfailed⟩ := (h.failed hex).2 htr
      obtain rfl := Option.some.inj (hr.symm.trans hr')
      rw [(lastWritten_exhausted htr ha hex _).2 hse] at hc
      cases hl : lastWritten (passedWrites o env q ((allChannels q).drop (startIndex (foundRow o q w)))
          (startIndex (foundRow o q w))) with
      | some y =>
        -- the row is `sending`
        rw [hl] at hc
        have hsending : r.status = "sending" := (congrArg Prod.fst hc).trans (written_passedWrites hl).1
        rw [hsending] at hfailed
        exact absurd hfailed (by decide)
      | none =>
        rw [hl] at hc
        have hd : d.status = "failed" := (congrArg Prod.fst hc).symm.trans hfailed
        refine ⟨fun i chan to_ hdue => ?_, d, ?_, hd⟩
        · have hmem : chan ∈ (allChannels q).drop (startIndex (foundRow o q w)) := by
            have hi : startIndex (foundRow o q w) + (i - startIndex (foundRow o q w)) = i := by
              have := hdue.started
              omega
            refine List.mem_iff_getElem?.mpr ⟨i - startIndex (foundRow o q w), ?_⟩
            rw [List.getElem?_drop, hi]
            exact hdue.at_
          have hnone := lastWritten_passedWrites_none hl hmem
          rw [hdue.resolved] at hnone
          nomatch hnone
        · rcases hfound with hfd | ⟨-, hq⟩
          · exact hfd
          · rw [hq] at hd
            exact absurd hd (by decide)

end Call

/-- **The fallback loop is one pass.** A call that gets to the loop, from an index within the list, makes the
pass as it should exactly when every due channel has a dispatcher and the updates of the row succeed. -/
theorem in_order_iff (o : Orchestrator) (env : Env) (q : QueueMessage) (w : World) (attempt : Int)
    (he : Enters o env q w) (hin : startIndex (foundRow o q w) < (allChannels q).length) :
    InOrder o env q w attempt (startIndex (foundRow o q w)) ↔ Unhindered o env q w (startIndex (foundRow o q w)) :=
  ⟨unhindered_of_inOrder he hin, fun hu => inOrder_of_unhindered he hin hu attempt⟩

/-! ## Two messages -/

/-- A fresh process and no rows. -/
def fresh : World := ⟨[], Dispatches.empty, []⟩

theorem enters_fresh {env : Env} {q : QueueMessage} (hp : isPrivateNote q = false) (hws : q.workspaceID ≠ UUID.Nil)
    (hget : env.getOrCreateErr = none) (hexp : isExpired env q = false) : Enters serverOrchestrator env q fresh := by
  refine ⟨hp, fun _ => ⟨hws, hget⟩, fun r hr => ?_, fun _ => List.not_mem_nil, hexp⟩
  unfold foundRow at hr
  split at hr <;> nomatch hr

/-- WhatsApp first, Telegram next; both refuse, the first for good. -/
def twoChannels : QueueMessage := { sampleText with fallbackChannels := ["telegram"] }

def refuses : Env :=
  { accepts with
    findIdentity := fun _ => .ok (some "42")
    dispatch := fun i _ => ⟨"", some ⟨"HTTP error", i = 0⟩⟩ }

theorem in_order_two_channels :
    InOrder serverOrchestrator refuses twoChannels fresh 0 (startIndex (foundRow serverOrchestrator twoChannels fresh)) := by
  have hreg : ∀ chan ∈ allChannels twoChannels, registered serverOrchestrator chan = true := by decide
  refine (in_order_iff serverOrchestrator refuses twoChannels fresh 0
    (enters_fresh (by decide +kernel) (by decide) rfl rfl) (by decide +kernel)).mpr ⟨⟨?_, ?_⟩, ?_, ?_⟩
  · intro i chan to_ hdue
    exact hreg chan (List.mem_of_getElem? hdue.at_)
  · exact fun _ _ _ _ _ => rfl
  · exact fun _ _ _ _ _ _ => rfl
  · exact fun _ _ => .inl rfl

/-- The first channel of the message has no dispatcher: the row says `sent`, nothing was invoked, and the
fallback is not tried. -/
theorem fallback_not_tried :
    Enters serverOrchestrator accepts SentRows.sesMessage fresh ∧
    startIndex (foundRow serverOrchestrator SentRows.sesMessage fresh) < (allChannels SentRows.sesMessage).length ∧
    callInvocations serverOrchestrator accepts SentRows.sesMessage fresh 0 = [] ∧
    ((callWorld serverOrchestrator accepts SentRows.sesMessage fresh 0).table.get "t-1").map (·.columns) =
      some ("sent", "email_ses", 0) ∧
    ¬InOrder serverOrchestrator accepts SentRows.sesMessage fresh 0
      (startIndex (foundRow serverOrchestrator SentRows.sesMessage fresh)) := by
  have hnone : callInvocations serverOrchestrator accepts SentRows.sesMessage fresh 0 = [] := by decide +kernel
  have hstart : startIndex (foundRow serverOrchestrator SentRows.sesMessage fresh) = 0 := by decide +kernel
  refine ⟨enters_fresh (by decide +kernel) (by decide) rfl rfl, by decide +kernel, hnone, by decide +kernel, ?_⟩
  intro h
  have hdue : Due serverOrchestrator accepts SentRows.sesMessage 0 0 "email_ses" "ana@example.com" :=
    ⟨Nat.le_refl 0, rfl, fun j _ _ hj => absurd hj (Nat.not_lt_zero j), by decide +kernel⟩
  rw [hstart] at h
  have hinv := (h.invoked _).mpr ⟨0, "email_ses", "ana@example.com", hdue, rfl⟩
  rw [hnone] at hinv
  nomatch hinv

end PerGo.L4.FallbackPass
