import PerGo.L3Queue.Invocations
import PerGo.L3Queue.RowWrites
import PerGo.L4App.DispatchRun

/-!
# Rows that say sent

A channel name may be one of `ValidChannels` and have no dispatcher: `email_ses` and `email_mautic`
are never registered. `dispatchToChannel` answers `("", nil)` for such a channel, which its caller
reads as a success.

* `Attempts`: the loop of a call attempts channel `i`; what `Reaches` says, less the dispatcher.
* `MovesOn`: where a channel without a dispatcher counts as failed, the dispatcher of the next channel
  that has one is invoked.
* `SentAccepted`: a row that says `sent` with a channel has a call for its trace in which the
  dispatcher of that channel took the message.

A row also tells of an acceptance by its provider id, which only `whatsapp_cloud` sets, and a provider
status can write `sent` again; `Tells` has both.

Results: `sent_means_accepted`, and `sent_without_dispatcher` for a run that fails.
-/
namespace PerGo.L4.SentRows

open PerGo.Core PerGo.L1 PerGo.L2 PerGo.L3
open DispatchRun (St Lbl Call init step sys deliver applyStatusUpdate sampleText answering accepts)

section Call

variable (o : Orchestrator) (env : Env) (q : QueueMessage)

/-- The loop of the call attempts `chan`, the channel at index `i`, for the recipient `to_`. -/
structure Attempts (w : World) (i : Nat) (chan to_ : String) : Prop where
  enters : Enters o env q w
  started : startIndex (foundRow o q w) ≤ i
  at_ : (allChannels q)[i]? = some chan
  before : ∀ j c, startIndex (foundRow o q w) ≤ j → j < i → (allChannels q)[j]? = some c →
    GoesOn o env q (tracked o q) j c
  resolved : resolveRecipientForChannel o env q.workspaceID q.to_ chan = some to_
  begins : Begins env (tracked o q) i

def AllRegistered (w : World) : Prop := ∀ i chan to_, Attempts o env q w i chan to_ → registered o chan = true

/-- Channel `i` fails: the recipient has no identity there, the dispatcher refuses, or there is none. -/
def Fails (i : Nat) (chan : String) : Prop :=
  GoesOn o env q (tracked o q) i chan ∨
    resolveRecipientForChannel o env q.workspaceID q.to_ chan ≠ none ∧ registered o chan = false

/-- After channels that fail the next one with a dispatcher is used. -/
def MovesOn (w : World) (attempt : Int) : Prop :=
  ∀ i chan to_, Enters o env q w → startIndex (foundRow o q w) ≤ i → (allChannels q)[i]? = some chan →
    (∀ j, startIndex (foundRow o q w) ≤ j → j ≤ i → Begins env (tracked o q) j) →
    (∀ j c, startIndex (foundRow o q w) ≤ j → j < i → (allChannels q)[j]? = some c → Fails o env q j c) →
    resolveRecipientForChannel o env q.workspaceID q.to_ chan = some to_ → registered o chan = true →
    (i, attemptPayload o env q chan to_, env.dispatch i (attemptPayload o env q chan to_)) ∈
      callInvocations o env q w attempt

variable {o env q} {w : World}

theorem Attempts.reaches {i : Nat} {chan to_ : String} (h : Attempts o env q w i chan to_)
    (hreg : registered o chan = true) : Reaches o env q w i chan to_ := by
  have hi : startIndex (foundRow o q w) + (i - startIndex (foundRow o q w)) = i := by have := h.started; omega
  refine ⟨h.enters, h.started, ?_, ?_, h.resolved, ?_, hreg⟩
  · rw [List.getElem?_drop, hi]
    exact h.at_
  · intro j c hj hc
    rw [List.getElem?_drop] at hc
    exact h.before _ c (by omega) (by omega) hc
  · rw [hi]
    exact h.begins

/-- Where every attempt has a dispatcher, a channel that fails is one the loop goes on after. -/
theorem movesOn_of_registered (attempt : Int) (hreg : AllRegistered o env q { w with out := [] }) :
    MovesOn o env q { w with out := [] } attempt := by
  intro i chan to_ henters hstart hat hbegins hfails hres hdisp
  have hgo : ∀ j c, startIndex (foundRow o q { w with out := [] }) ≤ j → j < i → (allChannels q)[j]? = some c →
      GoesOn o env q (tracked o q) j c := by
    intro j
    induction j using Nat.strong_induction_on with
    | h j ih =>
      intro c hj hji hc
      rcases hfails j c hj hji hc with hgo | ⟨hsome, hnone⟩
      · exact hgo
      · -- this channel would be attempted
        obtain ⟨to', hto⟩ := Option.ne_none_iff_exists'.mp hsome
        have hattempt : Attempts o env q { w with out := [] } j c to' :=
          ⟨henters, hj, hc, fun k c' hk hkj => ih k hkj c' hk (by omega), hto, hbegins j hj (by omega)⟩
        rw [hreg j c to' hattempt] at hnone
        cases hnone
  refine (mem_callInvocations o env q _ attempt _).mpr ⟨i, chan, to_, ?_, rfl⟩
  exact Attempts.reaches ⟨henters, hstart, hat, hgo, hres, hbegins i hstart (Nat.le_refl i)⟩ hdisp

end Call

/-! ## What a row tells -/

/-- The row says that `chan` took the message. -/
def Tells (r : MessageDispatch) (chan : String) : Prop :=
  (r.status = "sent" ∧ r.currentChannel = chan) ∨ (r.providerMessageID ≠ none ∧ chan = "whatsapp_cloud")

/-- The statement writes that `chan` took the message. -/
def WriteTells (chan : String) : RowWrite → Prop
  | .status status c _ _ => status = "sent" ∧ c = chan
  | .provider _ => chan = "whatsapp_cloud"

section Writes

variable {id : UUID} {table : Dispatches} {t : String} {d : MessageDispatch}

theorem tells_apply (hd : table.get t = some d) (hid : d.id = id) (x : RowWrite) :
    (∃ d', (x.apply id table).get t = some d' ∧ d'.id = id) ∧
    ∀ t' r' chan, (x.apply id table).get t' = some r' → Tells r' chan →
      (∃ r, table.get t' = some r ∧ Tells r chan) ∨ (t' = t ∧ WriteTells chan x) := by
  subst hid
  cases x with
  | status status c idx err =>
    have hget := fun t' => Dispatches.get_updateDispatchStatus hd status c idx err t'
    refine ⟨⟨_, (hget t).trans (if_pos rfl), rfl⟩, fun t' r' chan hr' htells => ?_⟩
    rw [RowWrite.apply, hget] at hr'
    split at hr'
    · rename_i ht
      cases hr'
      rcases htells with ⟨hs, hc⟩ | hpid
      · exact .inr ⟨ht, hs, hc⟩
      · exact .inl ⟨d, ht ▸ hd, .inr hpid⟩
    · exact .inl ⟨r', hr', htells⟩
  | provider pid =>
    cases hu : table.updateProviderMessageID d.id pid with
    | none =>
      simp only [RowWrite.apply, hu, Option.getD_none]
      exact ⟨⟨d, hd, rfl⟩, fun t' r' chan hr' htells => .inl ⟨r', hr', htells⟩⟩
    | some table' =>
      have hget := fun t' => Dispatches.get_updateProviderMessageID hd hu t'
      simp only [RowWrite.apply, hu, Option.getD_some]
      refine ⟨⟨_, (hget t).trans (if_pos rfl), rfl⟩, fun t' r' chan hr' htells => ?_⟩
      rw [hget] at hr'
      split at hr'
      · rename_i ht
        cases hr'
        rcases htells with hsent | ⟨-, hc⟩
        · exact .inl ⟨d, ht ▸ hd, .inl hsent⟩
        · exact .inr ⟨ht, hc⟩
      · exact .inl ⟨r', hr', htells⟩

theorem tells_applyWrites (ws : List RowWrite) (hd : table.get t = some d) (hid : d.id = id) {t' : String}
    {r' : MessageDispatch} {chan : String} (hr' : (applyWrites id table ws).get t' = some r') (htells : Tells r' chan) :
    (∃ r, table.get t' = some r ∧ Tells r chan) ∨ (t' = t ∧ ∃ x ∈ ws, WriteTells chan x) := by
  induction ws generalizing table d with
  | nil => exact .inl ⟨r', hr', htells⟩
  | cons x ws ih =>
    obtain ⟨⟨d', hd', hid'⟩, hstep⟩ := tells_apply hd hid x
    rcases ih hd' hid' hr' with ⟨r, hr, htold⟩ | ⟨ht, y, hy, hwrites⟩
    · rcases hstep t' r chan hr htold with hold | ⟨ht, hwrites⟩
      · exact .inl hold
      · exact .inr ⟨ht, x, List.mem_cons_self, hwrites⟩
    · exact .inr ⟨ht, y, List.mem_cons_of_mem _ hy, hwrites⟩

end Writes

/-! ## What a call writes -/

section CallWrites

variable {o : Orchestrator} {env : Env} {q : QueueMessage}

theorem not_tells_statusWrites {status chan c : String} {idx : Nat} {err : Option String} {x : RowWrite}
    (hs : status ≠ "sent") (hx : x ∈ statusWrites env status c idx err) : ¬ WriteTells chan x := by
  unfold statusWrites at hx
  split at hx
  · cases hx
  · rw [List.mem_singleton.mp hx]
    exact fun h => hs h.1

theorem tells_sentWrites {chan c resp : String} {i : Nat} {x : RowWrite} (hx : x ∈ sentWrites env c i resp)
    (htells : WriteTells chan x) : c = chan := by
  rcases List.mem_append.mp hx with hx | hx
  · split at hx
    · cases hx
    · rw [List.mem_singleton.mp hx] at htells
      exact htells.2
  · split at hx
    · rename_i hcloud
      rw [List.mem_singleton.mp hx] at htells
      exact hcloud.1.trans htells.symm
    · cases hx

theorem tells_loopWrites {chans : List String} {i : Nat} {v : LoopVars} {chan : String} {x : RowWrite}
    (hx : x ∈ loopWrites o env q chans i v) (htells : WriteTells chan x) :
    ∃ k to_, chans[k]? = some chan ∧ (∀ j c, j < k → chans[j]? = some c → GoesOn o env q true (i + j) c) ∧
      resolveRecipientForChannel o env q.workspaceID q.to_ chan = some to_ ∧ Begins env true (i + k) ∧
      (answerAt o env q (i + k) chan to_).err = none := by
  induction chans generalizing i v with
  | nil => exact absurd htells (not_tells_statusWrites (by decide) hx)
  | cons c rest ih =>
    -- what the rest of the loop does after this channel
    have hrest : GoesOn o env q true i c → ∀ v, x ∈ loopWrites o env q rest (i + 1) v →
        ∃ k to_, (c :: rest)[k]? = some chan ∧ (∀ j c', j < k → (c :: rest)[j]? = some c' → GoesOn o env q true (i + j) c') ∧
          resolveRecipientForChannel o env q.workspaceID q.to_ chan = some to_ ∧ Begins env true (i + k) ∧
          (answerAt o env q (i + k) chan to_).err = none := by
      intro hgo v hx
      obtain ⟨k, to_, hat, hbefore, hres, hbegins, hok⟩ := ih hx
      have hk : i + 1 + k = i + (k + 1) := by omega
      rw [hk] at hbegins hok
      refine ⟨k + 1, to_, hat, ?_, hres, hbegins, hok⟩
      intro j c' hj hc'
      cases j with
      | zero =>
        obtain rfl := Option.some.inj hc'
        exact hgo
      | succ j =>
        have hgo' := hbefore j c' (by omega) hc'
        rwa [show i + 1 + j = i + (j + 1) by omega] at hgo'
    rw [loopWrites] at hx
    cases hres : resolveRecipientForChannel o env q.workspaceID q.to_ c with
    | none =>
      rw [hres] at hx
      exact hrest (.inl hres) _ hx
    | some to_ =>
      rw [hres] at hx
      simp only at hx
      cases hsending : env.sendingErr i with
      | some e =>
        rw [hsending] at hx
        cases hx
      | none =>
        rw [hsending] at hx
        simp only at hx
        have hbegins : Begins env true i := fun _ => hsending
        rcases List.mem_cons.mp hx with rfl | hx
        · exact absurd htells.1 (by decide)
        · cases herr : (answerAt o env q i c to_).err with
          | none =>
            rw [herr] at hx
            obtain rfl := tells_sentWrites hx htells
            exact ⟨0, to_, rfl, fun _ _ hj => absurd hj (Nat.not_lt_zero _), hres, hbegins, herr⟩
          | some e =>
            rw [herr] at hx
            simp only at hx
            split at hx
            · rename_i hterm
              -- only a dispatcher answers with an error
              have hreg : registered o c = true := by
                cases hr : registered o c with
                | true => rfl
                | false => simp [answerAt, hr] at herr
              rw [answerAt, if_pos hreg] at herr
              exact hrest (.inr ⟨to_, e, hres, hbegins, hreg, herr, hterm⟩) _ hx
            · exact absurd htells (not_tells_statusWrites (by decide) hx)

theorem tells_process (w : World) (attempt : Int) {t : String} {r' : MessageDispatch} {chan : String}
    (hr' : (process o env w q attempt).1.table.get t = some r') (htells : Tells r' chan) :
    (∃ r, w.table.get t = some r ∧ Tells r chan) ∨
    (t = q.traceID ∧ ∃ i to_, Attempts o env q w i chan to_ ∧ (answerAt o env q i chan to_).err = none) := by
  have hsame : (process o env w q attempt).1.table = w.table → ∃ r, w.table.get t = some r ∧ Tells r chan :=
    fun h => ⟨r', h ▸ hr', htells⟩
  cases hpriv : isPrivateNote q with
  | true =>
    refine .inl (hsame ?_)
    unfold process
    rw [if_pos hpriv, ack_table]
  | false =>
  cases htr : tracked o q with
  | false =>
    have hn : ¬ (o.dispatchRepo = true ∧ q.traceID ≠ "") := by simpa [tracked] using htr
    refine .inl (hsame ?_)
    unfold process
    rw [hpriv, if_neg Bool.false_ne_true, if_neg hn, processClaimed_untracked]
  | true =>
  have hp : o.dispatchRepo = true ∧ q.traceID ≠ "" := by simpa [tracked] using htr
  by_cases hws : q.workspaceID = UUID.Nil
  · refine .inl (hsame ?_)
    unfold process
    rw [hpriv, if_neg Bool.false_ne_true, if_pos hp, if_pos hws, handleFailure_table]
  cases hget : env.getOrCreateErr with
  | some e =>
    refine .inl (hsame ?_)
    unfold process
    rw [hpriv, if_neg Bool.false_ne_true, if_pos hp, if_neg hws, hget]
    exact handleFailure_table ..
  | none =>
  obtain ⟨d, table, heq, hd, hrows, hold⟩ := getOrCreate_spec w.table q.workspaceID q.traceID q.channel
    q.campaignID (if q.templateName ≠ "" then some q.templateName else none) q.variablesJSON
  -- the row that was read tells what the table told
  have hread : ∀ r, table.get t = some r → Tells r chan → ∃ r, w.table.get t = some r ∧ Tells r chan := by
    intro r hr htold
    by_cases ht : t = q.traceID
    · subst ht
      obtain rfl := Option.some.inj (hd.symm.trans hr)
      rcases hold with ⟨hr₀, -⟩ | ⟨hnone, hqueued, -⟩
      · exact ⟨d, hr₀, htold⟩
      · have hset : Settled d := htold.imp (fun h => h.1) fun h => h.1
        obtain ⟨r₀, hr₀, -⟩ := hrows.settled d hd hset
        rw [hnone] at hr₀
        cases hr₀
    · exact ⟨r, (hrows.frame t ht).symm.trans hr, htold⟩
  unfold process at hr'
  rw [hpriv, if_neg Bool.false_ne_true, if_pos hp, if_neg hws, hget] at hr'
  simp only [heq] at hr'
  by_cases hsent : d.status = "sent"
  · rw [if_pos hsent, ack_table] at hr'
    exact .inl (hread r' hr' htells)
  rw [if_neg hsent, processClaimed_table o env q _ attempt d hsent] at hr'
  have hw₁ : ∀ ev, (if d.status = "queued" then publishWebhookEvent o env { w with table := table } q.workspaceID
      q.traceID d.id ev q.channel none else { w with table := table }).table = table ∧
      (if d.status = "queued" then publishWebhookEvent o env { w with table := table } q.workspaceID
      q.traceID d.id ev q.channel none else { w with table := table }).dispatched = w.dispatched := by
    intro ev
    split
    · exact ⟨publish_table .., publish_dispatched ..⟩
    · exact ⟨rfl, rfl⟩
  rw [(hw₁ _).1, (hw₁ _).2] at hr'
  rcases tells_applyWrites _ hd rfl hr' htells with ⟨r, hr, htold⟩ | ⟨ht, x, hx, hwrites⟩
  · exact .inl (hread r hr htold)
  · refine .inr ⟨ht, ?_⟩
    have hrow : foundRow o q w = w.table.get q.traceID := by rw [foundRow, if_pos htr]
    have hstart : startIndex (foundRow o q w) = d.fallbackIndex := by
      rw [hrow]
      rcases hold with ⟨hr, -⟩ | ⟨hn, -, hz⟩
      · rw [hr, startIndex]
      · rw [hn, hz, startIndex]
    unfold callWrites at hx
    split at hx
    · cases hx
    · rename_i hfresh
      simp only [not_or, decide_eq_true_eq, not_and] at hfresh
      split at hx
      · exact absurd hwrites (not_tells_statusWrites (by decide) hx)
      · rename_i hexp
        simp only at hx
        split at hx
        · cases hx
        · obtain ⟨k, to_, hat, hbefore, hres, hbegins, hok⟩ := tells_loopWrites hx hwrites
          have henters : Enters o env q w := by
            refine ⟨hpriv, fun _ => ⟨hws, hget⟩, ?_, hfresh.2, Bool.eq_false_iff.mpr hexp⟩
            intro r hr
            rw [hrow] at hr
            rcases hold with ⟨hr₀, -⟩ | ⟨hn, -⟩
            · rw [hr₀] at hr
              exact Option.some.inj hr ▸ hsent
            · rw [hn] at hr
              cases hr
          refine ⟨d.fallbackIndex + k, to_, ⟨henters, by omega, ?_, ?_, hres, by rwa [htr]⟩, hok⟩
          · rwa [List.getElem?_drop] at hat
          · intro j c hj hlt hc
            rw [hstart] at hj
            rw [htr]
            have hgo := hbefore (j - d.fallbackIndex) c (by omega)
              (by rwa [List.getElem?_drop, show d.fallbackIndex + (j - d.fallbackIndex) = j by omega])
            rwa [show d.fallbackIndex + (j - d.fallbackIndex) = j by omega] at hgo

end CallWrites

/-! ## Every run -/

section Run

variable (o : Orchestrator)

/-- The dispatcher registered under `chan` took the message in this call. -/
def AcceptedBy (c : Call) (chan : String) : Prop :=
  ∃ i p res, (allChannels c.q)[i]? = some chan ∧ registered o chan = true ∧ Effect.invoke i p res ∈ c.out ∧
    res.err = none

def SentAccepted (s : St) : Prop :=
  ∀ t r, s.table.get t = some r → r.status = "sent" → ∃ c ∈ s.log, c.q.traceID = t ∧ AcceptedBy o c r.currentChannel

/-- Every channel that a delivery attempts has a dispatcher, and a provider says `sent` only while the row is
still on its own channel. -/
def Registered (s : St) : Lbl → Prop
  | .deliver q _ env => AllRegistered o env q s.world
  | .statusUpdate pid body =>
    body = "sent" → ∀ d, s.table.getByProviderMessageID pid = some d → d.currentChannel = "whatsapp_cloud"
  | _ => True

def TellsTruth (s : St) : Prop :=
  ∀ t r chan, s.table.get t = some r → Tells r chan → ∃ c ∈ s.log, c.q.traceID = t ∧ AcceptedBy o c chan

theorem tellsTruth_deliver {s : St} {q : QueueMessage} {env : Env} (attempt : Int) (hs : TellsTruth o s)
    (hreg : AllRegistered o env q s.world) : TellsTruth o (deliver o s q attempt env) := by
  intro t r' chan hr' htells
  rcases tells_process s.world attempt hr' htells with ⟨r, hr, htold⟩ | ⟨ht, i, to_, hattempt, hok⟩
  · obtain ⟨c, hc, htrace, hacc⟩ := hs t r chan hr htold
    exact ⟨c, List.mem_append_left _ hc, htrace, hacc⟩
  · have hdisp := hreg i chan to_ hattempt
    refine ⟨_, List.mem_append_right _ (List.mem_singleton_self _), ht.symm, ?_⟩
    refine ⟨i, attemptPayload o env q chan to_, env.dispatch i (attemptPayload o env q chan to_), hattempt.at_, hdisp, ?_, ?_⟩
    · refine mem_invocations.mp ((mem_invocations_process o env q s.world attempt _).mpr (.inr ?_))
      exact ⟨i, chan, to_, hattempt.reaches hdisp, rfl⟩
    · rwa [answerAt, if_pos hdisp] at hok

theorem tellsTruth_statusUpdate {s : St} {pid body : String} (hs : TellsTruth o s)
    (hg : Registered o s (.statusUpdate pid body)) :
    TellsTruth o { s with table := applyStatusUpdate s.table pid body } := by
  intro t r' chan hr' htells
  simp only [applyStatusUpdate] at hr'
  cases hd : s.table.getByProviderMessageID pid with
  | none =>
    rw [hd] at hr'
    exact hs t r' chan hr' htells
  | some d =>
    rw [hd] at hr'
    obtain ⟨hget, hpid⟩ := Dispatches.get_of_provider hd
    simp only [Dispatches.get_updateDispatchStatus hget] at hr'
    split at hr'
    · rename_i ht
      obtain rfl := Option.some.inj hr'
      have hcloud : Tells d "whatsapp_cloud" := .inr ⟨by rw [hpid]; nofun, rfl⟩
      rcases htells with ⟨hsent, hchan⟩ | ⟨-, hchan⟩
      · have hown : d.currentChannel = "whatsapp_cloud" := hg hsent d hd
        have hchan' : d.currentChannel = chan := hchan
        rw [ht, ← hchan', hown]
        exact hs d.traceID d _ hget hcloud
      · rw [ht, hchan]
        exact hs d.traceID d _ hget hcloud
    · exact hs t r' chan hr' htells

theorem tellsTruth_inductive : ((sys o).restrict (Registered o)).Inductive (TellsTruth o) := by
  refine LTS.Inductive.of_restrict ?_ ?_
  · intro s hs t r chan hr
    rw [hs] at hr
    simp [init, Dispatches.empty, Dispatches.get] at hr
  · intro s l s' hs hg hst
    cases l with
    | enqueue q =>
      obtain rfl := Option.some.inj hst
      exact hs
    | restart =>
      obtain rfl := Option.some.inj hst
      exact hs
    | deliver q attempt env =>
      obtain ⟨-, hsome⟩ := Option.ite_none_right_eq_some.mp hst
      obtain rfl := Option.some.inj hsome
      exact tellsTruth_deliver o attempt hs hg
    | statusUpdate pid body =>
      obtain rfl := Option.some.inj hst
      exact tellsTruth_statusUpdate o hs hg

/-- Sent means accepted, and a failed channel is followed by the next one, in every run in which no channel
without a dispatcher is attempted and no provider status writes `sent` over another channel. -/
theorem sent_means_accepted {s : St} (h : ((sys o).restrict (Registered o)).Reachable s) : SentAccepted o s ∧
    ∀ q attempt env, Registered o s (.deliver q attempt env) → MovesOn o env q s.world attempt := by
  refine ⟨fun t r hr hsent => ?_, fun q attempt env hg => movesOn_of_registered (w := s.world) attempt hg⟩
  exact (tellsTruth_inductive o).reachable h t r _ hr (.inl ⟨hsent, rfl⟩)

end Run

/-! ## Two channels -/

def delivered : List Lbl := [.enqueue sampleText, .deliver sampleText 0 accepts, .statusUpdate "wamid.1" "sent"]

theorem sent_means_accepted_delivered : ∃ s, ((sys serverOrchestrator).restrict (Registered serverOrchestrator)).Reachable s ∧
    (s.table.get "t-1").map (·.status) = some "sent" ∧ SentAccepted serverOrchestrator s := by
  have hreg : ∀ env w, AllRegistered serverOrchestrator env sampleText w := by
    intro env w i chan to_ h
    have hat := h.at_
    cases i with
    | zero =>
      obtain rfl := Option.some.inj hat
      decide
    | succ i => simp [allChannels, sampleText] at hat
  obtain ⟨s, hs⟩ : ∃ s, LTS.exec (step serverOrchestrator) init delivered = some s := ⟨_, rfl⟩
  have hr := LTS.exec_restrict_reachable hs (G := Registered serverOrchestrator) (by
    refine ⟨trivial, ?_⟩
    rintro _ ⟨⟩
    refine ⟨hreg _ _, ?_⟩
    rintro _ ⟨⟩
    refine ⟨fun _ d hd => ?_, fun _ _ => trivial⟩
    have hall : ∀ r ∈ (deliver serverOrchestrator { init with pending := [sampleText] } sampleText 0 accepts).table.rows,
        r.currentChannel = "whatsapp_cloud" := by decide +kernel
    exact hall d (List.mem_of_find?_eq_some hd))
  refine ⟨s, hr, ?_, (sent_means_accepted serverOrchestrator hr).1⟩
  cases hs
  decide +kernel

/-- An email through Amazon SES, with the plain channel to fall back to. -/
def sesMessage : QueueMessage :=
  { sampleText with channel := "email_ses", to_ := "ana@example.com", fallbackChannels := ["email"] }

theorem sent_without_dispatcher : ∃ s, (sys serverOrchestrator).Reachable s ∧
    (s.table.get "t-1").map (fun r => (r.status, r.currentChannel)) = some ("sent", "email_ses") ∧
    (∀ c ∈ s.log, ∀ i p res, Effect.invoke i p res ∉ c.out) ∧ ¬ SentAccepted serverOrchestrator s := by
  obtain ⟨s, hs⟩ : ∃ s, LTS.exec (step serverOrchestrator) init [.enqueue sesMessage, .deliver sesMessage 0 accepts] =
    some s := ⟨_, rfl⟩
  have hrow : (s.table.get "t-1").map (fun r => (r.status, r.currentChannel)) = some ("sent", "email_ses") := by
    cases hs
    decide +kernel
  have hnone : ∀ c ∈ s.log, invocations c.out = [] := by
    cases hs
    decide +kernel
  refine ⟨s, LTS.exec_reachable hs, hrow, fun c hc i p res hm => ?_, fun h => ?_⟩
  · have hx := mem_invocations.mpr hm
    rw [hnone c hc] at hx
    cases hx
  · obtain ⟨r, hr, heq⟩ := Option.map_eq_some_iff.mp hrow
    obtain ⟨c, -, -, i, p, res, -, hreg, -⟩ := h "t-1" r hr (Prod.mk.inj heq).1
    rw [(Prod.mk.inj heq).2] at hreg
    exact absurd hreg (by decide)

end PerGo.L4.SentRows
