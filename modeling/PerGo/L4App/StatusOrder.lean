import PerGo.Core.LTS
import PerGo.L3Inbound.Processor
import PerGo.L3Queue.RowWrites
import PerGo.L4App.FallbackCredentials

/-!
# The status of a dispatch

The orchestrator and the provider's status events write `message_dispatches.status`, each
with an `UPDATE` that does not look at the status it replaces: the last writer wins. A
call of `Process` is its read of the row and then the statements of `callWrites`; an
event is a lookup by provider id and then one statement. They interleave freely.

* `arrived`: the statuses that receipts have brought for a row, and those rows start with.
* `InArrivalOrder`: a receipt arrives when no higher one has arrived before it for the row
  and all lower statuses of the row are written; a call that may send begins before any
  receipt above `sent`. Nothing is asked of the statements.
* `status_never_back`: every status statement wins, whatever it replaces; and where receipts
  arrive in order the status of a row never goes back (`Inv`: what is still to be written of
  a row is as high as what has arrived for it).
-/
namespace PerGo.L4.StatusOrder

open PerGo.Core PerGo.L1 PerGo.L2 PerGo.L3

/-- `sent < delivered < read`; other statuses are not compared. -/
def rank (status : String) : Option Nat :=
  if status = "sent" then some 0
  else if status = "delivered" then some 1
  else if status = "read" then some 2
  else none

structure St where
  table : Dispatches
  /-- the statements that calls and events have still to run, by row -/
  pending : List (UUID × List RowWrite)
  /-- the row and the status of each status statement, the oldest first -/
  history : List (UUID × String)
  /-- the row and the status of each receipt that was looked up -/
  arrived : List (UUID × String)

def stored (table : Dispatches) : List (UUID × String) := table.rows.map fun r => (r.id, r.status)

def init (table : Dispatches) : St := ⟨table, [], stored table, stored table⟩

inductive Lbl
  /-- `Process` reads or inserts the row of `q`; `claimed`: the worker has its trace in memory -/
  | call (o : Orchestrator) (env : Env) (q : QueueMessage) (claimed : Bool)
  /-- a status event is looked up -/
  | event (ev : InboundEvent)
  /-- the `k`-th of those at work runs its next statement -/
  | write (k : Nat)

def written (id : UUID) : RowWrite → List (UUID × String)
  | .status status _ _ _ => [(id, status)]
  | .provider _ => []

/-- mirrors inbound/processor.go:453 -/
def eventWrites (ev : InboundEvent) (d : MessageDispatch) : List RowWrite :=
  [.status ev.body d.currentChannel d.fallbackIndex none]

/-- The call gets to `GetOrCreateDispatch`, and it succeeds.
mirrors queue/orchestrator.go:93-114 -/
def tracks (o : Orchestrator) (env : Env) (q : QueueMessage) : Bool :=
  !isPrivateNote q && o.dispatchRepo && q.traceID ≠ "" && q.workspaceID ≠ UUID.Nil && env.getOrCreateErr.isNone

/-- The row a call reads or inserts, and the table after it. mirrors queue/orchestrator.go:109 -/
def dispatchOf (table : Dispatches) (q : QueueMessage) : MessageDispatch × Dispatches :=
  table.getOrCreateDispatch q.workspaceID q.traceID q.channel q.campaignID
    (if q.templateName ≠ "" then some q.templateName else none) q.variablesJSON

def step (s : St) : Lbl → Option St
  | .call o env q claimed =>
    if !tracks o env q then some s
    else
    let (d, table) := dispatchOf s.table q
    some { s with table := table, pending := s.pending ++ [(d.id, callWrites o env q claimed d)] }
  | .event ev =>
    match s.table.getByProviderMessageID ev.messageID with
    | none => some s
    | some d =>
      some { s with pending := s.pending ++ [(d.id, eventWrites ev d)], arrived := s.arrived ++ [(d.id, ev.body)] }
  | .write k =>
    match s.pending[k]? with
    | some (id, w :: ws) =>
      some { s with table := w.apply id s.table, pending := s.pending.set k (id, ws), history := s.history ++ written id w }
    | _ => none

def sys (table : Dispatches) : LTS St Lbl := LTS.ofFn (init table) step

def status (s : St) (id : UUID) : Option String := (s.table.rows.find? fun r => r.id = id).map (·.status)

/-- The row and the status the `k`-th of those at work writes next. -/
def nextStatus (s : St) (k : Nat) : Option (UUID × String) :=
  match s.pending[k]? with
  | some (id, .status st _ _ _ :: _) => some (id, st)
  | _ => none

def writtenRank (w : RowWrite) : Option Nat := w.written.bind fun y => rank y.1

/-- Nothing above `bound` has arrived for the row. -/
def NoneAbove (s : St) (id : UUID) (bound : Nat) : Prop := ∀ e ∈ s.arrived, e.1 = id → ∀ m ∈ rank e.2, m ≤ bound

/-- Nothing below `bound` is still to be written to the row. -/
def NoneBelow (s : St) (id : UUID) (bound : Nat) : Prop :=
  ∀ p ∈ s.pending, p.1 = id → ∀ w ∈ p.2, ∀ m ∈ writtenRank w, bound ≤ m

instance (s : St) (id : UUID) (bound : Nat) : Decidable (NoneAbove s id bound) :=
  inferInstanceAs (Decidable (∀ _ ∈ _, _))

instance (s : St) (id : UUID) (bound : Nat) : Decidable (NoneBelow s id bound) :=
  inferInstanceAs (Decidable (∀ _ ∈ _, _))

/-- Receipts arrive in the order of their statuses, and after `sent` is written; a call that goes on to the
channels begins before they arrive. -/
def InArrivalOrder (s : St) : Lbl → Prop
  | .call o env q claimed => tracks o env q = true → claimed = true ∨ (dispatchOf s.table q).1.status = "sent" ∨
      NoneAbove s (dispatchOf s.table q).1.id 0
  | .event ev => ∀ d ∈ s.table.getByProviderMessageID ev.messageID, ∀ m ∈ rank ev.body,
      NoneAbove s d.id m ∧ NoneBelow s d.id m
  | .write _ => True

instance (s : St) : (l : Lbl) → Decidable (InArrivalOrder s l)
  | .call .. => inferInstanceAs (Decidable (_ → _))
  | .event ev => inferInstanceAs (Decidable (∀ _ ∈ s.table.getByProviderMessageID ev.messageID, _))
  | .write _ => isTrue trivial

/-! ## What calls write -/

section Writes

variable {o : Orchestrator} {env : Env} {q : QueueMessage} {x : RowWrite} {m : Nat}

theorem not_ranked_statusWrites {status chan : String} {idx : Nat} {err : Option String} (hs : rank status = none)
    (hx : x ∈ statusWrites env status chan idx err) : writtenRank x = none := by
  unfold statusWrites at hx
  split at hx
  · cases hx
  · rw [List.mem_singleton.mp hx]
    exact hs

theorem rank_sentWrites {chan resp : String} {i : Nat} (hx : x ∈ sentWrites env chan i resp)
    (hm : writtenRank x = some m) : m = 0 := by
  rcases List.mem_append.mp hx with hx | hx <;> split at hx
  · cases hx
  · rw [List.mem_singleton.mp hx] at hm
    exact (Option.some.inj hm).symm
  · rw [List.mem_singleton.mp hx] at hm
    cases hm
  · cases hx

theorem rank_loopWrites {chans : List String} {i : Nat} {v : LoopVars} (hx : x ∈ loopWrites o env q chans i v)
    (hm : writtenRank x = some m) : m = 0 := by
  induction chans generalizing i v with
  | nil =>
    simp only [loopWrites, failedWrites] at hx
    rw [not_ranked_statusWrites (by decide) hx] at hm
    cases hm
  | cons chan rest ih =>
    rw [loopWrites] at hx
    split at hx
    · exact ih hx
    · split at hx
      · cases hx
      · rcases List.mem_cons.mp hx with rfl | hx
        · cases hm
        · split at hx
          · exact rank_sentWrites hx hm
          · split at hx
            · exact ih hx
            · rw [not_ranked_statusWrites (by decide) hx] at hm
              cases hm

theorem rank_callWrites {claimed : Bool} {d : MessageDispatch} (hx : x ∈ callWrites o env q claimed d)
    (hm : writtenRank x = some m) : m = 0 ∧ ¬(d.status = "sent" ∨ claimed = true) := by
  unfold callWrites at hx
  split at hx
  · cases hx
  · rename_i hgoes
    refine ⟨?_, hgoes⟩
    split at hx
    · rw [not_ranked_statusWrites (by decide) hx] at hm
      cases hm
    · simp only at hx
      split at hx
      · cases hx
      · exact rank_loopWrites hx hm

end Writes

/-! ## The invariant -/

/-- A ranked status of a row is in the history, and none there is higher; what is above `sent` there has
arrived, and what is still to be written is as high as what has arrived. -/
structure Inv (s : St) : Prop where
  highest : ∀ r ∈ s.table.rows, ∀ m, rank r.status = some m →
    (r.id, r.status) ∈ s.history ∧ ∀ st m', (r.id, st) ∈ s.history → rank st = some m' → m' ≤ m
  origin : ∀ e ∈ s.history, ∀ m, rank e.2 = some m → m = 0 ∨ e ∈ s.arrived
  due : ∀ p ∈ s.pending, ∀ w ∈ p.2, ∀ e ∈ written p.1 w, ∀ m, rank e.2 = some m → m = 0 ∨ e ∈ s.arrived
  pending : ∀ p ∈ s.pending, ∀ w ∈ p.2, ∀ m, writtenRank w = some m → NoneAbove s p.1 m

theorem writtenRank_of_written {id : UUID} {w : RowWrite} {e : UUID × String} (he : e ∈ written id w) :
    e.1 = id ∧ writtenRank w = rank e.2 := by
  cases w with
  | status st chan idx err =>
    rw [List.mem_singleton.mp he]
    exact ⟨rfl, rfl⟩
  | provider pid => cases he

theorem inv_init (table : Dispatches) : Inv (init table) := by
  refine ⟨fun r hr m hm => ⟨List.mem_map.mpr ⟨r, hr, rfl⟩, fun st m' hst hm' => ?_⟩, fun e he _ _ => Or.inr he,
    fun _ h => (by cases h), fun _ h => (by cases h)⟩
  -- ids are unique, so the only entry of the row is its own
  obtain ⟨r', hr', heq⟩ := List.mem_map.mp hst
  simp only [Prod.mk.injEq] at heq
  have hrr : r' = r := eq_of_key_eq table.ids hr' hr heq.1
  rw [← heq.2, hrr, hm] at hm'
  cases hm'
  exact Nat.le_refl m

/-- The row of a new trace is `queued`. -/
theorem inv_call {s : St} (h : Inv s) (o : Orchestrator) (env : Env) (q : QueueMessage) (claimed : Bool)
    (hg : claimed = true ∨ (dispatchOf s.table q).1.status = "sent" ∨ NoneAbove s (dispatchOf s.table q).1.id 0) :
    Inv { s with
      table := (dispatchOf s.table q).2,
      pending := s.pending ++ [((dispatchOf s.table q).1.id, callWrites o env q claimed (dispatchOf s.table q).1)] } := by
  refine ⟨fun r hr m hm => ?_, h.origin, fun p hp w hw e he m hm => ?_, fun p hp w hw m hm => ?_⟩
  · unfold dispatchOf Dispatches.getOrCreateDispatch at hr
    split at hr
    · exact h.highest r hr m hm
    · rcases List.mem_append.mp hr with hr | hr
      · exact h.highest r hr m hm
      · rw [List.mem_singleton.mp hr] at hm
        cases hm
  · rcases List.mem_append.mp hp with hp | hp
    · exact h.due p hp w hw e he m hm
    · rw [List.mem_singleton.mp hp] at hw
      exact Or.inl (rank_callWrites hw ((writtenRank_of_written he).2.trans hm)).1
  · rcases List.mem_append.mp hp with hp | hp
    · exact h.pending p hp w hw m hm
    · rw [List.mem_singleton.mp hp] at hw ⊢
      obtain ⟨rfl, hgoes⟩ := rank_callWrites hw hm
      tauto

/-- A receipt that arrives in order. -/
theorem inv_event {s : St} (h : Inv s) (ev : InboundEvent) (d : MessageDispatch)
    (hg : ∀ m ∈ rank ev.body, NoneAbove s d.id m ∧ NoneBelow s d.id m) :
    Inv { s with pending := s.pending ++ [(d.id, eventWrites ev d)], arrived := s.arrived ++ [(d.id, ev.body)] } := by
  refine ⟨h.highest, fun e he m hm => (h.origin e he m hm).imp_right (List.mem_append_left _),
    fun p hp w hw e he m hm => ?_, fun p hp w hw m hm e he hid m' hm' => ?_⟩
  · rcases List.mem_append.mp hp with hp | hp
    · exact (h.due p hp w hw e he m hm).imp_right (List.mem_append_left _)
    · rw [List.mem_singleton.mp hp] at hw he
      rw [List.mem_singleton.mp hw] at he
      exact Or.inr (List.mem_append_right _ he)
  rcases List.mem_append.mp hp with hp | hp <;> rcases List.mem_append.mp he with he | he
  · exact h.pending p hp w hw m hm e he hid m' hm'
  · -- what is to be written is no lower than the receipt
    rw [List.mem_singleton.mp he] at hid hm'
    exact (hg m' hm').2 p hp hid.symm w hw m hm
  · rw [List.mem_singleton.mp hp] at hw hid
    rw [List.mem_singleton.mp hw] at hm
    exact (hg m hm).1 e he hid m' hm'
  · rw [List.mem_singleton.mp hp] at hw
    rw [List.mem_singleton.mp hw] at hm
    rw [List.mem_singleton.mp he] at hm'
    exact Nat.le_of_eq (Option.some.inj (hm'.symm.trans hm))

theorem mem_apply {id : UUID} {table : Dispatches} {w : RowWrite} {r' : MessageDispatch}
    (h : r' ∈ (w.apply id table).rows) :
    ∃ r ∈ table.rows, r'.id = r.id ∧
      (r'.status = r.status ∧ (r.id = id → written id w = []) ∨ r.id = id ∧ written id w = [(id, r'.status)]) := by
  cases w with
  | status st chan idx err =>
    obtain ⟨r, hr, heq⟩ := mem_updateWhere h
    refine ⟨r, hr, ?_⟩
    split at heq
    · rename_i hid
      rw [heq]
      exact ⟨rfl, Or.inr ⟨of_decide_eq_true hid, rfl⟩⟩
    · rename_i hid
      rw [heq]
      exact ⟨rfl, Or.inl ⟨rfl, fun he => absurd (decide_eq_true he) hid⟩⟩
  | provider pid =>
    simp only [RowWrite.apply, Dispatches.updateProviderMessageID] at h
    split at h
    · exact ⟨r', h, rfl, Or.inl ⟨rfl, fun _ => rfl⟩⟩
    · obtain ⟨r, hr, heq⟩ := mem_updateWhere h
      refine ⟨r, hr, ?_⟩
      split at heq <;> rw [heq] <;> exact ⟨rfl, Or.inl ⟨rfl, fun _ => rfl⟩⟩

theorem inv_write {s : St} (h : Inv s) {k : Nat} {id : UUID} {w : RowWrite} {ws : List RowWrite}
    (hk : s.pending[k]? = some (id, w :: ws)) :
    Inv { s with table := w.apply id s.table, pending := s.pending.set k (id, ws), history := s.history ++ written id w } := by
  have hmem := List.mem_of_getElem? hk
  refine ⟨fun r' hr' m hm => ?_, fun e he m hm => ?_, fun p hp w' hw' e he m hm => ?_, fun p hp w' hw' m hm => ?_⟩
  · obtain ⟨r, hr, hid, hcase⟩ := mem_apply hr'
    rw [hid]
    rcases hcase with ⟨hst, hnone⟩ | ⟨hrid, hw⟩
    · -- the row keeps its status, and no entry of the row is added
      rw [hst] at hm ⊢
      obtain ⟨hmem, hmax⟩ := h.highest r hr m hm
      refine ⟨List.mem_append_left _ hmem, fun st m' hst' hm' => ?_⟩
      rcases List.mem_append.mp hst' with hst' | hst'
      · exact hmax st m' hst' hm'
      · rw [hnone (writtenRank_of_written hst').1] at hst'
        cases hst'
    · rw [hrid, hw]
      have hrank : writtenRank w = some m := by
        rw [(writtenRank_of_written (e := (id, r'.status)) (by rw [hw]; exact List.mem_singleton_self _)).2]
        exact hm
      refine ⟨List.mem_append_right _ (List.mem_singleton_self _), fun st m' hst' hm' => ?_⟩
      rcases List.mem_append.mp hst' with hst' | hst'
      · rcases h.origin _ hst' m' hm' with rfl | harrived
        · exact Nat.zero_le m
        · exact h.pending _ hmem w List.mem_cons_self m hrank _ harrived rfl m' hm'
      · cases List.mem_singleton.mp hst'
        exact Nat.le_of_eq (Option.some.inj (hm'.symm.trans hm))
  · rcases List.mem_append.mp he with he | he
    · exact h.origin e he m hm
    · exact h.due _ hmem w List.mem_cons_self e he m hm
  · rcases List.mem_or_eq_of_mem_set hp with hp | rfl
    · exact h.due p hp w' hw' e he m hm
    · exact h.due _ hmem w' (List.mem_cons_of_mem _ hw') e he m hm
  · rcases List.mem_or_eq_of_mem_set hp with hp | rfl
    · exact h.pending p hp w' hw' m hm
    · exact h.pending _ hmem w' (List.mem_cons_of_mem _ hw') m hm

theorem inv_step {s s' : St} {l : Lbl} (h : Inv s) (hg : InArrivalOrder s l) (hs : step s l = some s') :
    Inv s' ∧ ∀ e ∈ s.history, e ∈ s'.history := by
  cases l with
  | call o env q claimed =>
    simp only [step] at hs
    split at hs
    · cases hs
      exact ⟨h, fun _ he => he⟩
    · rename_i htracks
      cases hs
      exact ⟨inv_call h o env q claimed (hg (by simpa using htracks)), fun _ he => he⟩
  | event ev =>
    simp only [step] at hs
    split at hs
    · cases hs
      exact ⟨h, fun _ he => he⟩
    · rename_i d hd
      cases hs
      exact ⟨inv_event h ev d (hg d hd), fun _ he => he⟩
  | write k =>
    simp only [step] at hs
    split at hs
    · rename_i id w ws hk
      cases hs
      exact ⟨inv_write h hk, fun _ he => List.mem_append_left _ he⟩
    · cases hs

section Run

variable {table : Dispatches}

theorem inv_inductive : ((sys table).restrict InArrivalOrder).Inductive Inv := by
  refine LTS.Inductive.of_restrict ?_ ?_
  · rintro s rfl
    exact inv_init table
  · intro s l s' h hg hs
    exact (inv_step h hg hs).1

theorem history_run {s s' : St} {ls : List Lbl} (hrun : ((sys table).restrict InArrivalOrder).Run s ls s') (h : Inv s) :
    ∀ e ∈ s.history, e ∈ s'.history := by
  induction hrun with
  | nil => exact fun _ he => he
  | cons hstep _ ih =>
    obtain ⟨h', hsub⟩ := inv_step h hstep.1 hstep.2
    exact fun e he => ih h' e (hsub e he)

theorem status_iff {s : St} {id : UUID} {st : String} :
    status s id = some st ↔ ∃ r ∈ s.table.rows, r.id = id ∧ r.status = st := by
  unfold status
  rw [Option.map_eq_some_iff]
  simp only [find?_key_iff s.table.ids, and_assoc]

theorem status_written {s s' : St} {k : Nat} (hs : step s (.write k) = some s') {id : UUID} {st : String}
    (hnext : nextStatus s k = some (id, st)) (hrow : (status s id).isSome) : status s' id = some st := by
  obtain ⟨old, hold⟩ := Option.isSome_iff_exists.mp hrow
  obtain ⟨r, hr, hid, -⟩ := status_iff.mp hold
  simp only [step] at hs
  split at hs
  · rename_i id' w ws hk
    cases hs
    simp only [nextStatus, hk] at hnext
    cases w with
    | status st' chan idx err =>
      cases hnext
      refine status_iff.mpr ⟨_, List.mem_map_of_mem hr, ?_⟩
      simp [hid]
    | provider pid => cases hnext
  · cases hs

/-- **The last writer wins**, so the status goes back where a lower one is written later; and it **never goes back**
in a run in which receipts arrive in order: of two states of the run, the later has the higher status. -/
theorem status_never_back (table : Dispatches) :
    (∀ s s' k id st, step s (.write k) = some s' → nextStatus s k = some (id, st) → (status s id).isSome →
      status s' id = some st) ∧
    ∀ s s' ls, ((sys table).restrict InArrivalOrder).Reachable s → ((sys table).restrict InArrivalOrder).Run s ls s' →
      ∀ id a b m n, status s id = some a → status s' id = some b → rank a = some m → rank b = some n → m ≤ n := by
  refine ⟨fun s s' k id st hs hnext hrow => status_written hs hnext hrow, fun s s' ls hreach hrun id a b m n ha hb hm hn => ?_⟩
  have hinv := inv_inductive.reachable hreach
  have hinv' := inv_inductive.run hrun hinv
  obtain ⟨r, hr, hid, rfl⟩ := status_iff.mp ha
  obtain ⟨r', hr', hid', rfl⟩ := status_iff.mp hb
  have hmem := history_run hrun hinv _ (hinv.highest r hr m hm).1
  rw [hid, ← hid'] at hmem
  exact (hinv'.highest r' hr' n hn).2 r.status m hmem hm

end Run

/-! ## One message and its receipts -/

open PerGo.L4.FallbackCredentials

/-- The provider takes the message as `wamid.1`. -/
def accepts : Env := { firstRefuses with dispatch := fun _ _ => ⟨"wamid.1", none⟩ }

def receipt (status : String) : InboundEvent :=
  { workspaceID := 1, connectionID := 7, messageID := "wamid.1", traceID := "", channel := "whatsapp_cloud",
    from_ := "5511999990000", to_ := "551130000000", body := status, media := none, location := none, contacts := [],
    interactive := none, story := none, reaction := none, senderName := "", occurredAt := 3, entryPointType := "",
    metadata := [("type", "status_update")] }

/-- The message is sent: `sending`, `sent` and the provider id are written; then the receipts come in. -/
def sendThen (receipts : List String) : List Lbl :=
  .call serverOrchestrator accepts (shopMessage []) false :: .write 0 :: .write 0 :: .write 0 ::
    (receipts.mapIdx fun k status => [.event (receipt status), .write (k + 1)]).flatten

theorem receipts_in_order :
    ∃ s s', ((sys Dispatches.empty).restrict InArrivalOrder).Reachable s ∧
      ((sys Dispatches.empty).restrict InArrivalOrder).Run s [.event (receipt "read"), .write 2] s' ∧
      status s 1 = some "delivered" ∧ status s' 1 = some "read" ∧ 1 ≤ 2 := by
  have hrun : ((LTS.exec step (init Dispatches.empty) (sendThen ["delivered"])).any fun s =>
      decide (status s 1 = some "delivered") &&
        (LTS.exec step s [.event (receipt "read"), .write 2]).any fun s' =>
          decide (status s' 1 = some "read") && decide (LTS.Guarded step InArrivalOrder s [.event (receipt "read"), .write 2]))
      = true := by decide +kernel
  have hg : LTS.Guarded step InArrivalOrder (init Dispatches.empty) (sendThen ["delivered"]) := by decide +kernel
  obtain ⟨s, hs, hp⟩ := (Option.any_eq_true _ _).mp hrun
  simp only [Bool.and_eq_true, decide_eq_true_eq] at hp
  obtain ⟨ha, hrest⟩ := hp
  obtain ⟨s', hs', hp'⟩ := (Option.any_eq_true _ _).mp hrest
  simp only [Bool.and_eq_true, decide_eq_true_eq] at hp'
  have hreach : ((sys Dispatches.empty).restrict InArrivalOrder).Reachable s := LTS.exec_restrict_reachable hs hg
  have hstep : ((sys Dispatches.empty).restrict InArrivalOrder).Run s [.event (receipt "read"), .write 2] s' :=
    LTS.exec_restrict_run hs' hp'.2
  exact ⟨s, s', hreach, hstep, ha, hp'.1, (status_never_back Dispatches.empty).2 s s' _ hreach hstep 1 _ _ 1 2 ha hp'.1 rfl rfl⟩

/-- The receipts of a message that was read come in the other order: it ends as delivered. -/
theorem read_then_delivered :
    ∃ s s', (sys Dispatches.empty).Reachable s ∧
      (sys Dispatches.empty).Run s [.event (receipt "delivered"), .write 2] s' ∧
      status s 1 = some "read" ∧ status s' 1 = some "delivered" ∧
      rank "delivered" = some 1 ∧ rank "read" = some 2 := by
  have hrun : ((LTS.exec step (init Dispatches.empty) (sendThen ["read"])).any fun s =>
      decide (status s 1 = some "read") &&
        (LTS.exec step s [.event (receipt "delivered"), .write 2]).any fun s' =>
          decide (status s' 1 = some "delivered")) = true := by decide +kernel
  obtain ⟨s, hs, hp⟩ := (Option.any_eq_true _ _).mp hrun
  simp only [Bool.and_eq_true, decide_eq_true_eq] at hp
  obtain ⟨ha, hrest⟩ := hp
  obtain ⟨s', hs', hb⟩ := (Option.any_eq_true _ _).mp hrest
  exact ⟨s, s', LTS.exec_reachable hs, LTS.exec_run hs', ha, of_decide_eq_true hb, rfl, rfl⟩

end PerGo.L4.StatusOrder
