import PerGo.L3Campaign.Alone

/-!
# Transitions that fail

`Start`, `Resume` and `TriggerDue` write `sending` first and publish afterwards
(campaign/engine.go:247-287, 314-392, 438-494). `Start` writes the status back when its
publish fails, `TriggerDue` rolls its claim back; `Resume` does neither, so that its campaign is
left `sending` with the batches published before the failure.

* `Undone`: the call returns an error, or does not report the campaign as triggered.
* `Harmless`: the calls whose failure the operation cannot undo do not fail.
* `rolled_back_iff`: an undone call whose rollback succeeds leaves status and queue as they were if
  and only if its calls were harmless.
* `resume_left_sending`: a `Resume` whose second publish fails.
-/
namespace PerGo.L4.CampaignRollback

open PerGo.Core PerGo.L1 PerGo.L2 PerGo.L3.Campaign

/-- The caller is told of a failure, or is not told of a trigger. -/
def Undone (o : Outcome) : Entry → Prop
  | .start _ | .resume _ => o.err ≠ none
  | .triggerDue _ => ¬ ∃ p, (.triggerPublish, p) ∈ o.calls ∧ p.err = none
  | .pause _ | .cancel _ => False

/-- The write that takes a transition back. -/
def isRollback : Point → Bool
  | .startRollback .. | .triggerRollback => true
  | _ => false

/-- A publish of a start task that fails is not in the stream all the same, and no call of `Resume` after its
status write fails. -/
def harmless (s : Store) (t : Point × Answer) : Bool :=
  if startsAt t.1 then t.2.err.isNone || !s.enqueues (Point.startMsgID s.camp.id) t.2 else !lateFailure t

def Harmless (s : Store) (o : Outcome) : Prop := ∀ t ∈ o.calls, harmless s t

structure RolledBack (s s' : Store) : Prop where
  status : s'.camp.status = s.camp.status
  queue : s'.queue = s.queue

section Rollback

variable {e : Engine} {s : Store} {o : Outcome} {answers : List Answer}

theorem starting_queue_iff (s : Store) (p : Answer) :
    (s.starting p).queue = s.queue ↔ s.enqueues (Point.startMsgID s.camp.id) p = false := by
  rw [Store.starting_queue]
  cases s.enqueues (Point.startMsgID s.camp.id) p <;> simp

theorem harmless_of_untouched (h : ∀ t ∈ o.calls, startsAt t.1 = false ∧ lateFailure t = false) : Harmless s o := by
  intro t ht
  obtain ⟨hstart, hlate⟩ := h t ht
  simp [harmless, hstart, hlate]

theorem rolledBack_of_eq (h : o.store = s) : RolledBack s o.store := by
  rw [h]
  exact ⟨rfl, rfl⟩

theorem harmless_publish {t : Point × Answer} (hstart : startsAt t.1 = true) (hfails : t.2.err.isSome) :
    harmless s t = true ↔ (s.starting t.2).queue = s.queue := by
  have hsome : t.2.err.isNone = false := by
    rw [← Option.not_isSome, hfails]
    rfl
  rw [starting_queue_iff, harmless, if_pos hstart, hsome]
  simp

theorem written_back_iff {status : CampaignStatus} (hstatus : status = s.camp.status) {t : Point × Answer}
    (hstart : startsAt t.1 = true) (hfails : t.2.err.isSome) (hstore : o.store = (s.starting t.2).setStatus status)
    (hcalls : Harmless s o ↔ harmless s t = true) : RolledBack s o.store ↔ Harmless s o := by
  rw [hcalls, harmless_publish hstart hfails, hstore]
  exact ⟨fun hback => hback.queue, fun hqueue => ⟨hstatus, hqueue⟩⟩

theorem start_rolled_back {m : Bool} (h : alone e s (.startRead m) answers = some o) (hundone : o.err ≠ none)
    (hrollback : ∀ t ∈ o.calls, isRollback t.1 → t.2.err = none) : RolledBack s o.store ↔ Harmless s o := by
  rcases start_alone h with ⟨-, hstore, hcalls⟩ | hok | ⟨a, b, p, r, text, hp, -, hcalls, hstore⟩
  · exact iff_of_true (rolledBack_of_eq hstore) (harmless_of_untouched hcalls)
  · exact absurd hok hundone
  · have hr : r.err = none := hrollback (.startRollback s.camp.status text, r) (by simp [hcalls]) rfl
    refine written_back_iff (t := (.startPublish s.camp, p)) rfl rfl hp ?_ ?_
    · rw [hstore]
      simp [Store.exec, hr]
    · simp [Harmless, hcalls, harmless, startsAt, lateFailure]

theorem triggerDue_rolled_back {now : Time} (h : alone e s (.triggerClaim now) answers = some o)
    (hundone : ¬ ∃ p, (.triggerPublish, p) ∈ o.calls ∧ p.err = none)
    (hrollback : ∀ t ∈ o.calls, isRollback t.1 → t.2.err = none) : RolledBack s o.store ↔ Harmless s o := by
  rcases triggerDue_alone h with ⟨hstore, hcalls⟩ | hok | ⟨a, p, r, hscheduled, hp, hcalls, hstore⟩
  · exact iff_of_true (rolledBack_of_eq hstore) (harmless_of_untouched hcalls)
  · exact absurd hok hundone
  · have hr : r.err = none := hrollback (.triggerRollback, r) (by simp [hcalls]) rfl
    refine written_back_iff (t := (.triggerPublish, p)) hscheduled.symm rfl hp ?_ ?_
    · rw [hstore]
      simp [Store.exec, hr, s.starting_status p]
    · simp [Harmless, hcalls, harmless, startsAt, lateFailure]

/-- After the status write of `Resume` every failure leaves the campaign `sending`. -/
theorem resume_rolled_back {m : Bool} (h : alone e s (.resumeRead m) answers = some o) (hundone : o.err ≠ none) :
    RolledBack s o.store ↔ Harmless s o := by
  rcases resume_alone h with ⟨-, hstore, hcalls⟩ | ⟨a, b, rest, o', hpaused, hlist, hcalls, hstore, herr⟩
  · exact iff_of_true (rolledBack_of_eq hstore) (harmless_of_untouched hcalls)
  · obtain ⟨hstatus, t, ht, hlate⟩ := (resumeList_alone s.camp.id hlist).2 (herr ▸ hundone)
    refine iff_of_false (fun hback => ?_) (fun hharm => ?_)
    · have hsending : o.store.camp.status = .sending := by
        rw [hstore, hstatus]
        rfl
      have hsame := hback.status
      rw [hsending, hpaused] at hsame
      cases hsame
    · have hno := hharm t (by rw [hcalls]; simp [ht])
      have hnot : startsAt t.1 = false := by
        unfold lateFailure at hlate
        split at hlate
        · rename_i hp
          rw [hp]
          rfl
        · rename_i hp
          rw [hp]
          rfl
        · rename_i hp
          rw [hp]
          rfl
        · cases hlate
      simp [harmless, hnot, hlate] at hno

/-- A transition that is not carried out, and whose rollback succeeds, is taken back exactly when its calls were
harmless. -/
theorem rolled_back_iff (e : Engine) (s : Store) (entry : Entry) (answers : List Answer) (o : Outcome)
    (h : alone e s entry.point answers = some o) (hundone : Undone o entry)
    (hrollback : ∀ t ∈ o.calls, isRollback t.1 → t.2.err = none) : RolledBack s o.store ↔ Harmless s o := by
  cases entry with
  | start m => exact start_rolled_back h hundone hrollback
  | resume m => exact resume_rolled_back h hundone
  | triggerDue now => exact triggerDue_rolled_back h hundone hrollback
  | pause m => exact hundone.elim
  | cancel m => exact hundone.elim

end Rollback

/-! ## Two calls -/

/-- A draft of two recipients in batches of one. -/
def drafted : Store := (newsletter [⟨"5511999990000", []⟩, ⟨"5511999990001", []⟩] 1).init.store

/-- Its publish fails, and the campaign is a draft again. -/
theorem start_taken_back :
    ∃ o, alone serverEngine drafted (.startRead true) [.ok, .ok, .failed, .ok] = some o ∧
      o.err = some "publish start task: connection refused" ∧ RolledBack drafted o.store := by
  have hrun : (alone serverEngine drafted (Entry.start true).point [.ok, .ok, .failed, .ok]).any (fun o =>
      o.err = some "publish start task: connection refused" &&
        (o.calls.all fun t => !isRollback t.1 || t.2.err.isNone) && o.calls.all (harmless drafted)) = true := by
    decide +kernel
  obtain ⟨o, ho, hp⟩ := (Option.any_eq_true _ _).mp hrun
  simp only [Bool.and_eq_true, decide_eq_true_eq, List.all_eq_true] at hp
  obtain ⟨⟨herr, hback⟩, hharm⟩ := hp
  have hundone : Undone o (.start true) := by
    show o.err ≠ none
    rw [herr]
    exact Option.some_ne_none _
  have hrollback : ∀ t ∈ o.calls, isRollback t.1 → t.2.err = none := by
    intro t ht hroll
    have hcheck := hback t ht
    rw [hroll] at hcheck
    exact Option.isNone_iff_eq_none.mp hcheck
  exact ⟨o, ho, herr, (rolled_back_iff serverEngine drafted (.start true) _ o ho hundone hrollback).mpr hharm⟩

/-- The same campaign, paused before anyone was written to. -/
def paused : Store :=
  { camp := { drafted.camp with status := .paused }
    rows := [⟨none, "5511999990000", [], .pending, none⟩, ⟨none, "5511999990001", [], .pending, none⟩]
    phones := by decide +kernel
    queue := []
    published := [] }

/-- The second publish of `Resume` fails: the first batch stays in the queue and the campaign `sending`. -/
theorem resume_left_sending :
    ∃ o, alone serverEngine paused (.resumeRead true) [.ok, .ok, .ok, .ok, .failed] = some o ∧
      o.err = some "publish batch task: connection refused" ∧ o.store.camp.status = .sending ∧
      o.store.queue = [.batch [⟨"5511999990000", []⟩] 0] ∧
      (∀ t ∈ o.calls, isRollback t.1 = false) ∧ ¬ RolledBack paused o.store := by
  have hrun : (alone serverEngine paused (.resumeRead true) [.ok, .ok, .ok, .ok, .failed]).any (fun o =>
      o.err = some "publish batch task: connection refused" && o.store.camp.status = .sending &&
        o.store.queue = [.batch [⟨"5511999990000", []⟩] 0] && o.calls.all fun t => !isRollback t.1) = true := by
    decide +kernel
  obtain ⟨o, ho, hp⟩ := (Option.any_eq_true _ _).mp hrun
  simp only [Bool.and_eq_true, decide_eq_true_eq, List.all_eq_true, Bool.not_eq_true'] at hp
  obtain ⟨⟨⟨herr, hstatus⟩, hqueue⟩, hnone⟩ := hp
  refine ⟨o, ho, herr, hstatus, hqueue, hnone, fun hback => ?_⟩
  have hsame := hback.status
  rw [hstatus] at hsame
  cases hsame

end PerGo.L4.CampaignRollback

/-!
## What `Resume` queues again

`Resume` publishes the recipients whose row is pending. When there is none it falls back on the
uploaded list from position `sent_recipients` on (engine.go:339-341), as if the
recipients counted as sent were the first of that list and the others had not been dealt with.
After a failure, or for contacts of a tag, they are not.

* `Requeued`: the batches are the pending recipients, and without any the campaign is completed.
* `resume_requeues_iff`: from every reachable paused state a `Resume` that succeeds does so if and
  only if some row is pending or as many recipients were counted sent as were uploaded.
* `failed_requeued`: a recipient whose message failed is published again.
-/
namespace PerGo.L4.CampaignResume

open PerGo.Core PerGo.L1 PerGo.L2 PerGo.L3.Campaign

/-! ## The count of the sent -/

section Sent

variable (e : Engine) (c : Created)

theorem exec_sent_nonneg (s : Store) (a : Answer) (p : Point) (id : UUID) (h : 0 ≤ s.camp.sentRecipients) :
    0 ≤ (s.exec a (p.cmd id)).camp.sentRecipients := by
  have hcount : ∀ sentInc failedInc : Int, 0 ≤ sentInc →
      0 ≤ (s.exec a (.updateCounters sentInc failedInc)).camp.sentRecipients := by
    intro sentInc failedInc hinc
    simp only [Store.exec]
    split
    · exact h
    · exact Int.add_nonneg h hinc
  cases p with
  | batchCountSent v => exact hcount 1 0 (by decide)
  | batchCountFailed v err => exact hcount 0 1 (by decide)
  | startPublish _ | triggerPublish | resumePublish _ _ _ _ _ | taskPublish _ _ _ _ =>
    rw [Point.cmd, (s.exec_publish a _ _).1]
    exact h
  | taskAdd camp all merged =>
    simp only [Point.cmd, Store.exec]
    split
    · exact h
    · split
      · exact h
      · exact h
  | _ =>
    simp only [Point.cmd, Store.exec, Store.setStatus]
    repeat' split
    all_goals exact h

theorem sent_nonneg {s : St} (h : (lts e c).Reachable s) : 0 ≤ s.store.camp.sentRecipients := by
  have hind : (lts e c).Inductive fun s => 0 ≤ s.store.camp.sentRecipients := by
    refine ⟨?_, ?_⟩
    · rintro s rfl
      exact c.sent.ge
    · intro s l s' hi hstep
      cases step_cases e hstep with
      | call entry => exact hi
      | deliver at_ => exact hi
      | turn at_ split others => exact exec_sent_nonneg s.store _ _ _ hi
      | redeliver mem task => exact hi
      | crash at_ split task => exact hi
  exact hind.reachable h

end Sent

/-! ## The pending recipients -/

theorem pendingRecipients_to (rows : List CampaignRecipientRecord) :
    (pendingRecipients rows).map (·.to_) = (rows.filter fun r => r.status = .pending).map (·.phone) := by
  simp [pendingRecipients, List.map_map, Function.comp_def]

theorem pendingRecipients_once (s : Store) : ((pendingRecipients s.rows).map (·.to_)).Nodup := by
  rw [pendingRecipients_to]
  exact s.phones.sublist (List.filter_sublist.map _)

theorem pending_of_mem {s : Store} {r : CampaignRecipient} (hr : r ∈ pendingRecipients s.rows)
    {row : CampaignRecipientRecord} (hrow : row ∈ s.rows) (hphone : row.phone = r.to_) : row.status = .pending := by
  obtain ⟨row', hrow', rfl⟩ := List.mem_map.mp hr
  obtain ⟨hmem, hpending⟩ := List.mem_filter.mp hrow'
  rw [eq_of_key_eq s.phones hrow hmem hphone]
  exact of_decide_eq_true hpending

/-- The size of a batch. mirrors engine.go:353-356 -/
def batchLimit (batchSize : Int) : Nat := if batchSize ≤ 0 then 100 else batchSize.toNat

theorem batches_bounded {batchSize : Int} {recipients b : List CampaignRecipient}
    (hb : b ∈ batches batchSize recipients) : b ≠ [] ∧ b.length ≤ batchLimit batchSize := by
  have hpos : 0 < batchLimit batchSize := by
    unfold batchLimit
    split
    · decide
    · omega
  exact slices_bounded hpos hb

/-- From `s`, the batches `sent` are the unprocessed recipients; `s'` is the store left. -/
structure Requeued (s s' : Store) (sent : List (List CampaignRecipient)) : Prop where
  pending : sent.flatten = pendingRecipients s.rows
  once : (sent.flatten.map (·.to_)).Nodup
  sized : ∀ b ∈ sent, b ≠ [] ∧ b.length ≤ batchLimit s.camp.batchSize
  unprocessed : ∀ r ∈ sent.flatten, ∀ row ∈ s.rows, row.phone = r.to_ → row.status = .pending
  completed : pendingRecipients s.rows = [] → s'.camp.status = .completed

section Resume

variable {e : Engine} {c : Created} {s : St} {m : Bool} {answers : List Answer} {o : Outcome}

theorem resume_published (h : alone e s.store (.resumeRead m) answers = some o) (hok : o.err = none) :
    let pending := resumeRecipients s.store.camp (pendingRecipients s.store.rows)
    o.published s.store.camp.id = batches s.store.camp.batchSize pending ∧
      (pending = [] → o.store.camp.status = .completed) := by
  rcases resume_alone h with ⟨herr, -⟩ | ⟨a, b, rest, o', -, hlist, hcalls, hstore, herr⟩
  · exact absurd hok herr
  · obtain ⟨hpub, hdone⟩ := (resumeList_alone s.store.camp.id hlist).1 (herr.symm.trans hok)
    refine ⟨?_, fun hnone => ?_⟩
    · rw [Outcome.published] at hpub ⊢
      rw [hcalls]
      exact hpub
    · rw [hstore]
      exact hdone hnone

theorem resume_requeues_iff (hreach : (lts e c).Reachable s) (h : alone e s.store (.resumeRead m) answers = some o)
    (hok : o.err = none) :
    Requeued s.store o.store (o.published s.store.camp.id) ↔
      (∃ row ∈ s.store.rows, row.status = .pending) ∨
        (s.store.camp.recipients.length : Int) ≤ s.store.camp.sentRecipients := by
  obtain ⟨hpub, hdone⟩ := resume_published h hok
  have hnonneg := sent_nonneg e c hreach
  have hpending : (∃ row ∈ s.store.rows, row.status = .pending) ↔ pendingRecipients s.store.rows ≠ [] := by
    simp [pendingRecipients]
  rw [hpending, hpub]
  constructor
  · intro hreq
    by_contra hcond
    obtain ⟨hnone, hsent⟩ := not_or.mp hcond
    have hnone := not_not.mp hnone
    -- the fallback publishes someone
    have hfall : resumeRecipients s.store.camp (pendingRecipients s.store.rows) =
        s.store.camp.recipients.drop s.store.camp.sentRecipients.toNat := by
      have hne : s.store.camp.recipients ≠ [] := by
        intro hnil
        rw [hnil] at hsent
        exact hsent hnonneg
      exact if_pos ⟨hnone, hne, Int.not_le.mp hsent⟩
    have hflat := hreq.pending
    rw [batches_flatten, hfall, hnone, List.drop_eq_nil_iff] at hflat
    omega
  · intro hcond
    have hsame : resumeRecipients s.store.camp (pendingRecipients s.store.rows) = pendingRecipients s.store.rows := by
      apply if_neg
      rintro ⟨hnone, -, hsent⟩
      rcases hcond with hsome | hall
      · exact hsome hnone
      · exact Int.not_le.mpr hsent hall
    rw [hsame] at hdone ⊢
    refine ⟨batches_flatten _ _, ?_, fun b hb => batches_bounded hb, ?_, hdone⟩
    · rw [batches_flatten]
      exact pendingRecipients_once s.store
    · rw [batches_flatten]
      intro r hr row hrow hphone
      exact pending_of_mem hr hrow hphone

end Resume

/-! ## Two runs -/

/-- `Start`, the start task to its return, and `Pause`. -/
def pausedRun : List Label :=
  [.call (.start true), .turn 0 .ok, .turn 0 .ok, .turn 0 .ok,
    .deliver 0, .turn 0 .ok, .turn 0 .ok, .turn 0 .ok, .turn 0 .ok, .turn 0 .ok, .turn 0 .ok,
    .call (.pause true), .turn 0 .ok, .turn 0 .ok]

def three : Created := newsletter [⟨"5511999990000", []⟩, ⟨"5511999990001", []⟩, ⟨"5511999990002", []⟩] 2

/-- Paused before its batches are processed, the campaign publishes all three again. -/
theorem pending_requeued :
    ∃ s o, (lts serverEngine three).Reachable s ∧ s.store.camp.status = .paused ∧
      alone serverEngine s.store (.resumeRead true) [.ok, .ok, .ok, .ok, .ok] = some o ∧
      (o.published 1).map (·.map (·.to_)) = [["5511999990000", "5511999990001"], ["5511999990002"]] ∧
      Requeued s.store o.store (o.published s.store.camp.id) := by
  have hrun : (LTS.exec (step serverEngine) three.init pausedRun).any (fun s =>
      s.store.camp.status = .paused && (s.store.rows.any fun row => row.status = .pending) &&
        (alone serverEngine s.store (.resumeRead true) [.ok, .ok, .ok, .ok, .ok]).any fun o =>
          o.err.isNone && (o.published 1).map (·.map (·.to_)) =
            [["5511999990000", "5511999990001"], ["5511999990002"]]) = true := by
    decide +kernel
  obtain ⟨s, hs, hp⟩ := (Option.any_eq_true _ _).mp hrun
  simp only [Bool.and_eq_true, decide_eq_true_eq, List.any_eq_true] at hp
  obtain ⟨⟨hpaused, hpending⟩, hresume⟩ := hp
  obtain ⟨o, ho, hres⟩ := (Option.any_eq_true _ _).mp hresume
  simp only [Bool.and_eq_true, decide_eq_true_eq, Option.isNone_iff_eq_none] at hres
  have hreach : (lts serverEngine three).Reachable s := LTS.exec_reachable hs
  exact ⟨s, o, hreach, hpaused, ho, hres.2, (resume_requeues_iff hreach ho hres.1).mpr (Or.inl hpending)⟩

/-- One recipient, refused by `Ingest`; `Pause` comes before the campaign is completed. -/
def refusedRun : List Label :=
  [.call (.start true), .turn 0 .ok, .turn 0 .ok, .turn 0 .ok,
    .deliver 0, .turn 0 .ok, .turn 0 .ok, .turn 0 .ok, .turn 0 .ok, .turn 0 .ok,
    .deliver 0, .turn 0 .ok, .turn 0 .ok, .turn 0 .ok, .turn 0 .failed, .turn 0 .ok, .turn 0 .ok,
    .call (.pause true), .turn 1 .ok, .turn 1 .ok, .turn 0 .ok]

def one : Created := newsletter [⟨"5511999990000", []⟩] 100

/-- The recipient whose message failed is published again. -/
theorem failed_requeued :
    ∃ s o, (lts serverEngine one).Reachable s ∧ s.store.camp.status = .paused ∧ s.threads = [] ∧
      s.store.rows.map (fun row => (row.phone, row.status)) = [("5511999990000", .failed)] ∧
      alone serverEngine s.store (.resumeRead true) [.ok, .ok, .ok, .ok] = some o ∧ o.err = none ∧
      o.published s.store.camp.id = [[⟨"5511999990000", []⟩]] ∧
      ¬ Requeued s.store o.store (o.published s.store.camp.id) := by
  have hrun : (LTS.exec (step serverEngine) one.init refusedRun).any (fun s =>
      s.store.camp.status = .paused && s.threads = [] &&
        s.store.rows.map (fun row => (row.phone, row.status)) = [("5511999990000", .failed)] &&
        (alone serverEngine s.store (.resumeRead true) [.ok, .ok, .ok, .ok]).any fun o =>
          o.err.isNone && o.published s.store.camp.id = [[⟨"5511999990000", []⟩]]) = true := by
    decide +kernel
  obtain ⟨s, hs, hp⟩ := (Option.any_eq_true _ _).mp hrun
  simp only [Bool.and_eq_true, decide_eq_true_eq] at hp
  obtain ⟨⟨⟨hpaused, hthreads⟩, hrows⟩, hresume⟩ := hp
  obtain ⟨o, ho, hres⟩ := (Option.any_eq_true _ _).mp hresume
  simp only [Bool.and_eq_true, decide_eq_true_eq, Option.isNone_iff_eq_none] at hres
  refine ⟨s, o, LTS.exec_reachable hs, hpaused, hthreads, hrows, ho, hres.1, hres.2, fun hreq => ?_⟩
  obtain ⟨row, hrow⟩ := List.length_eq_one_iff.mp (by simpa using congrArg List.length hrows : s.store.rows.length = 1)
  rw [hrow, List.map_singleton] at hrows
  obtain ⟨hphone, hstatus⟩ := Prod.mk.inj (List.singleton_inj.mp hrows)
  have hpending := hreq.unprocessed ⟨"5511999990000", []⟩ (by rw [hres.2]; simp) row (by rw [hrow]; simp) hphone
  rw [hstatus] at hpending
  cases hpending

end PerGo.L4.CampaignResume
