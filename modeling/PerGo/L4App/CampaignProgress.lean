import PerGo.L3Campaign.System

/-!
# A campaign that is sending has someone at work

The worker acks a task whatever the engine returned, so a start or batch task that
returns early is gone. When a batch is not published, the limiter's wait fails, the
campaign cannot be read, or a row is not written, the recipients it was for stay
pending, the campaign stays `sending`, and no operation takes a campaign out of there
but `Pause` and `Cancel`.

* `Lossless`: the condition on a step. The calls whose failure makes an operation give
  up its recipients do not fail; and where the stream drops a publish as a duplicate, or a
  start task begins to publish, the pending recipients it leaves out, such as those of a
  start task with another audience, are with others.
* `Attended`: a campaign that is sending has an operation that looks after all of it, or
  each pending recipient is in a queued batch or carried by an operation.
* `sending_never_stuck`: in lossless runs a campaign that is sending, with no task queued
  or running and no operator's call at work, has no pending recipient.
-/
namespace PerGo.L4.CampaignProgress

open PerGo.Core PerGo.L1 PerGo.L2 PerGo.L3.Campaign

/-! ## Who looks after a recipient -/

def phones (rs : List CampaignRecipient) : List String := rs.map (·.to_)

def batchPhones (bs : Batches) : List String := bs.flatMap fun b => phones b.2

def carries : Point → List String
  | .resumePublish _ _ _ batch rest | .taskPublish _ _ batch rest => phones batch ++ batchPhones rest
  | .batchRead rs _ => phones rs
  | .batchWait v _ | .batchCheck v | .batchDispatch v | .batchMarkSent v | .batchIngest v | .batchRowSent v
  | .batchCountFailed v _ | .batchRowFailed v _ => v.recipient.to_ :: phones v.rest
  | .batchCountSent v => phones v.rest
  | _ => []

def carried (threads : List (Nat × Point)) : List String := threads.flatMap fun t => carries t.2

def taskPhones : Task → List String
  | .start => []
  | .batch rs _ => phones rs

def queued (s : Store) : List String := s.queue.flatMap taskPhones

/-- The points at which an operation is still going to deal with every pending recipient: to publish them, to
have a start task publish them, or to take the campaign out of `sending`. -/
def looksAfter : Point → Bool
  | .startPublish _ | .startRollback .. | .triggerPublish | .triggerRollback | .resumeList _
  | .taskRead | .taskResolve _ | .taskFail .. | .taskComplete _ | .taskAdd .. | .taskSending .. => true
  | _ => false

def Within (rows : List CampaignRecipientRecord) (ps : List String) : Prop :=
  ∀ r ∈ rows, r.status = .pending → r.phone ∈ ps

instance (rows : List CampaignRecipientRecord) (ps : List String) : Decidable (Within rows ps) := by
  unfold Within
  infer_instance

/-! ## The condition -/

/-- The calls whose failure makes an operation give up. -/
def mustSucceed : Point → Bool
  | .startRollback .. | .triggerRollback | .resumeList _ | .resumePublish .. | .taskRead | .taskFail ..
  | .taskComplete _ | .taskSending .. | .taskPublish .. | .batchRead .. | .batchWait .. | .batchMarkSent _
  | .batchRowSent _ | .batchRowFailed .. => true
  | _ => false

/-- What the operation still carries when the stream drops its publish. -/
def leftOver : Point → List String
  | .resumePublish _ _ _ _ rest | .taskPublish _ _ _ rest => batchPhones rest
  | _ => []

/-- The condition on the call at `p`; `others` are the recipients in queued batches and with the other
operations. What a start task has in hand it publishes; only the rest of the rows is asked about. -/
def losslessAt (s : Store) (others : List String) (a : Answer) (p : Point) : Bool :=
  (!mustSucceed p || a.err.isNone) &&
  (match p.cmd s.camp.id with
    | .publish _ msgID => a.err.isSome || s.enqueues msgID a || decide (Within s.rows (leftOver p ++ others))
    | _ => true) &&
  (match p with
    | .taskSending _ merged => decide (Within (s.rows.filter (·.phone ∉ phones merged)) others)
    | _ => true)

/-- The condition on a step. -/
def Lossless (s : St) : Label → Prop
  | .turn i a =>
    let others := queued s.store ++ carried (s.threads.take i ++ s.threads.drop (i + 1))
    s.allAt i (losslessAt s.store others a) = true
  | _ => True

instance (s : St) : ∀ l, Decidable (Lossless s l)
  | .turn .. => inferInstanceAs (Decidable (_ = true))
  | .call _ | .deliver _ | .redeliver _ | .crash _ => inferInstanceAs (Decidable True)

/-! ## The invariant -/

def LookedAfter (s : St) : Prop := .start ∈ s.store.queue ∨ ∃ t ∈ s.threads, looksAfter t.2 = true

/-- Each pending recipient is with someone while the campaign is sending. -/
def Attended (s : St) : Prop :=
  s.store.camp.status = .sending →
    LookedAfter s ∨ Within s.store.rows (queued s.store ++ carried s.threads)

/-- What a `Start` took the campaign from, and that a batch carries recipients of its task. -/
structure Known (p : Point) : Prop where
  write : ∀ camp, p = .startWrite camp → camp.status ≠ .sending
  publish : ∀ camp, p = .startPublish camp → camp.status ≠ .sending
  rollback : ∀ initial err, p = .startRollback initial err → initial ≠ .sending
  batch : ∀ all delay, p.task = some (.batch all delay) → carries p ⊆ phones all

structure Inv (s : St) : Prop where
  known : ∀ t ∈ s.threads, Known t.2
  attended : Attended s

/-! ## What the operations know -/

section Known

variable {e : Engine} {s : Store} {a : Answer} {p p' : Point}

theorem known_of_task (hop : p.op ≠ .start) (ht : ∀ all delay, p.task ≠ some (.batch all delay)) : Known p := by
  refine ⟨?_, ?_, ?_, fun all delay h => absurd h (ht all delay)⟩
  · rintro camp rfl
    exact absurd rfl hop
  · rintro camp rfl
    exact absurd rfl hop
  · rintro initial err rfl
    exact absurd rfl hop

theorem known_of_batch {all : List CampaignRecipient} {delay : Int} (ht : p.task = some (.batch all delay))
    (hsub : carries p ⊆ phones all) : Known p := by
  refine ⟨?_, ?_, ?_, ?_⟩
  · rintro camp rfl
    cases ht
  · rintro camp rfl
    cases ht
  · rintro initial err rfl
    cases ht
  · intro all' delay' h
    rw [ht] at h
    cases h
    exact hsub

theorem known_loopEnds {all : List CampaignRecipient} {delay : Int} (h : LoopEnds all delay p) : Known p := by
  cases h <;> exact known_of_batch rfl (by simp [carries])

theorem known_advances {v : BatchVars} (hv : phones v.rest ⊆ phones v.all) (h : Advances v p) : Known p := by
  cases h with
  | next more =>
    refine known_of_batch rfl ?_
    simpa [carries, more, phones] using hv
  | done last ends => exact known_loopEnds ends

theorem known_handsOver {v : BatchVars} (hv : v.recipient.to_ :: phones v.rest ⊆ phones v.all)
    (h : HandsOver v p) : Known p := by
  cases h <;> exact known_of_batch rfl hv

theorem known_takesUp {v : BatchVars} (hv : v.recipient.to_ :: phones v.rest ⊆ phones v.all)
    (h : TakesUp e v p) : Known p := by
  cases h with
  | dispatch => exact known_of_batch rfl hv
  | untracked norepo hand => exact known_handsOver hv hand

theorem tail_subset {α : Type} {x : α} {xs ys : List α} (h : x :: xs ⊆ ys) : xs ⊆ ys :=
  fun _ hy => h (List.mem_cons_of_mem _ hy)

theorem known_goto (hk : Known p) (h : Goto e s a p p') : Known p' := by
  cases h with
  | startRead ok src =>
    refine ⟨?_, by simp, by simp, by simp [Point.task]⟩
    rintro camp hc
    cases hc
    rcases src with h | h <;> simp [h]
  | startWrite ok => exact ⟨by simp, fun c hc => hk.write c (by cases hc; rfl), by simp, by simp [Point.task]⟩
  | startPublish failed text =>
    refine ⟨by simp, by simp, ?_, by simp [Point.task]⟩
    intro initial err h
    cases h
    exact hk.publish _ rfl
  | batchEmpty ok ends => exact known_loopEnds ends
  | batchRead ok src => exact known_of_batch rfl (hk.batch _ _ rfl)
  | batchFirst ok takes => exact known_takesUp (hk.batch _ _ rfl) takes
  | batchWait ok => exact known_of_batch rfl (hk.batch _ _ rfl)
  | batchCheck takes => exact known_takesUp (hk.batch _ _ rfl) takes
  | batchUntracked failed text => exact known_of_batch rfl (hk.batch _ _ rfl)
  | batchAlready ok => exact known_of_batch rfl (hk.batch _ _ rfl)
  | batchDispatch ok fresh hand => exact known_handsOver (hk.batch _ _ rfl) hand
  | batchMarkSent advances => exact known_advances (tail_subset (hk.batch _ _ rfl)) advances
  | batchRefused failed text => exact known_of_batch rfl (hk.batch _ _ rfl)
  | batchIngest ok => exact known_of_batch rfl (hk.batch _ _ rfl)
  | batchRowSent => exact known_of_batch rfl (tail_subset (hk.batch _ _ rfl))
  | batchCountSent advances => exact known_advances (hk.batch _ _ rfl) advances
  | batchCountFailed => exact known_of_batch rfl (hk.batch _ _ rfl)
  | batchRowFailed advances => exact known_advances (tail_subset (hk.batch _ _ rfl)) advances
  | batchSleep ok => exact known_of_batch rfl (by simp [carries])
  | _ => exact known_of_task (by simp [Point.op]) (by simp [Point.task])

theorem known_threads (id : Nat) (hk : Known p) : ∀ t ∈ (p.next e s a).threads id, Known t.2 := by
  have hl := next_leads e s a p
  cases hn : p.next e s a with
  | ret err => simp [Next.threads]
  | goto p' =>
    rw [hn] at hl
    intro t ht
    rw [List.mem_singleton.mp ht]
    exact known_goto hk hl

end Known

/-! ## Phones -/

theorem mem_carried {threads : List (Nat × Point)} {x : String} :
    x ∈ carried threads ↔ ∃ t ∈ threads, x ∈ carries t.2 := List.mem_flatMap

theorem mem_queued {s : Store} {x : String} : x ∈ queued s ↔ ∃ t ∈ s.queue, x ∈ taskPhones t := List.mem_flatMap

theorem carried_append (xs ys : List (Nat × Point)) : carried (xs ++ ys) = carried xs ++ carried ys :=
  List.flatMap_append

theorem Within.mono {rows : List CampaignRecipientRecord} {xs ys : List String} (h : Within rows xs) (hs : xs ⊆ ys) :
    Within rows ys := fun r hr hp => hs (h r hr hp)

/-! ## Where a call leaves the recipients -/

section Turn

variable {e : Engine} {s : Store} {a : Answer} {p : Point} {id : Nat} {others : List String}

theorem lossless_succeeds (h : losslessAt s others a p = true) (hm : mustSucceed p = true) : a.err = none := by
  simp only [losslessAt, hm, Bool.not_true, Bool.false_or, Bool.and_eq_true] at h
  simpa using h.1.1

theorem lossless_publish {task : Task} {msgID : String} (h : losslessAt s others a p = true)
    (hc : p.cmd s.camp.id = .publish task msgID) (ok : a.err = none) :
    s.enqueues msgID a = true ∨ Within s.rows (leftOver p ++ others) := by
  simp only [losslessAt, hc, ok, Option.isSome_none, Bool.false_or, Bool.and_eq_true, Bool.or_eq_true,
    decide_eq_true_eq] at h
  exact h.1.2

theorem lossless_sending {camp : L2.Campaign} {merged : List CampaignRecipient}
    (h : losslessAt s others a (.taskSending camp merged) = true) : Within s.rows (phones merged ++ others) := by
  simp only [losslessAt, Bool.and_eq_true, decide_eq_true_eq] at h
  intro r hr hp
  by_cases hown : r.phone ∈ phones merged
  · exact List.mem_append_left _ hown
  · exact List.mem_append_right _ (h.2 r (List.mem_filter.mpr ⟨hr, by simpa using hown⟩) hp)

theorem queue_subset (s : Store) (a : Answer) (cmd : Cmd) : s.queue ⊆ (s.exec a cmd).queue := by
  cases cmd with
  | publish task msgID =>
    simp only [Store.exec]
    split
    · exact List.subset_append_left _ _
    · exact List.Subset.refl _
  | _ =>
    simp only [Store.exec, Store.setStatus]
    split
    · exact List.Subset.refl _
    · first
        | exact List.Subset.refl _
        | (split <;> exact List.Subset.refl _)

theorem queued_subset (s : Store) (a : Answer) (cmd : Cmd) : queued s ⊆ queued (s.exec a cmd) := by
  intro x hx
  obtain ⟨t, ht, hx⟩ := mem_queued.mp hx
  exact mem_queued.mpr ⟨t, queue_subset s a cmd ht, hx⟩

theorem mem_queue_of_enqueues {task : Task} {msgID : String} (h : s.enqueues msgID a = true) :
    task ∈ (s.exec a (.publish task msgID)).queue := by
  simp [Store.exec, h]

theorem rows_kept {cmd : Cmd} (hadd : ∀ records, cmd ≠ .addRecipients records)
    (hset : ∀ phone st err, cmd ≠ .updateRecipientStatusByPhone phone st err) : (s.exec a cmd).rows = s.rows := by
  cases cmd with
  | addRecipients records => exact absurd rfl (hadd records)
  | updateRecipientStatusByPhone phone st err => exact absurd rfl (hset phone st err)
  | _ =>
    simp only [Store.exec, Store.setStatus]
    split
    · rfl
    · first
        | rfl
        | (split <;> rfl)

theorem pending_setRowStatus {rows : List CampaignRecipientRecord} {phone : String} {st : RecipientStatus}
    {error : Option String} (hst : st ≠ .pending) {r : CampaignRecipientRecord}
    (hr : r ∈ setRowStatus phone st error rows) (hp : r.status = .pending) : r ∈ rows ∧ r.phone ≠ phone := by
  obtain ⟨r', hr', rfl⟩ := List.mem_map.mp hr
  by_cases hph : r'.phone = phone
  · simp only [hph, decide_true, if_true] at hp
    exact absurd hp hst
  · simp only [hph, decide_false, Bool.false_eq_true, if_false]
    exact ⟨hr', hph⟩

def written : Point → Option String
  | .batchMarkSent v | .batchRowSent v | .batchRowFailed v _ => some v.recipient.to_
  | _ => none

theorem pending_before {cid : UUID} (hadd : ∀ camp all merged, p ≠ .taskAdd camp all merged)
    {r : CampaignRecipientRecord} (hr : r ∈ (s.exec a (p.cmd cid)).rows) (hp : r.status = .pending) :
    r ∈ s.rows ∧ (a.err = none → written p ≠ some r.phone) := by
  have hwrite : ∀ (v : BatchVars) st err, st ≠ .pending →
      p.cmd cid = .updateRecipientStatusByPhone v.recipient.to_ st err →
      r ∈ s.rows ∧ (a.err = none → v.recipient.to_ ≠ r.phone) := by
    intro v st err hst hc
    rw [hc] at hr
    cases ha : a.err with
    | some e' => exact ⟨by simpa [Store.exec, ha] using hr, by simp⟩
    | none =>
      have hr' : r ∈ setRowStatus v.recipient.to_ st err s.rows := by simpa [Store.exec, ha] using hr
      obtain ⟨hmem, hne⟩ := pending_setRowStatus hst hr' hp
      exact ⟨hmem, fun _ => hne.symm⟩
  cases p with
  | taskAdd camp all merged => exact absurd rfl (hadd camp all merged)
  | batchMarkSent v => simpa [written] using hwrite v .sent none (by decide) rfl
  | batchRowSent v => simpa [written] using hwrite v .sent none (by decide) rfl
  | batchRowFailed v err => simpa [written] using hwrite v .failed (some err) (by decide) rfl
  | _ =>
    rw [rows_kept (by simp [Point.cmd]) (by simp [Point.cmd])] at hr
    exact ⟨hr, by simp [written]⟩

/-! The recipients a thread carries on. -/

theorem carried_advance {v : BatchVars} : phones v.rest ⊆ carried ((nextRecipient v).threads id) := by
  cases hr : v.rest with
  | nil => simp [phones]
  | cons r rest => simp [nextRecipient, hr, Next.threads, carried, carries, phones]

theorem carried_toIngest (e : Engine) (v : BatchVars) :
    carried ((toIngest e v).threads id) = v.recipient.to_ :: phones v.rest := by
  unfold toIngest
  split <;> simp [Next.threads, carried, carries]

theorem carried_toDispatch (e : Engine) (v : BatchVars) :
    carried ((toDispatch e v).threads id) = v.recipient.to_ :: phones v.rest := by
  unfold toDispatch
  split
  · simp [Next.threads, carried, carries]
  · exact carried_toIngest e v

theorem carried_publishNext {point : Nat → List CampaignRecipient → Batches → Point}
    (hp : ∀ idx b rest, carries (point idx b rest) = phones b ++ batchPhones rest) (bs : Batches) :
    carried ((publishNext bs point).threads id) = batchPhones bs := by
  cases bs with
  | nil => rfl
  | cons b bs => simp [publishNext, Next.threads, carried, hp, batchPhones]

theorem carried_publish {camp : L2.Campaign} {batch : List CampaignRecipient} {rest : Batches} {msgID x : String}
    {r : CampaignRecipientRecord} (hx : x = r.phone) (hr : r ∈ s.rows) (hp : r.status = .pending)
    (hc : x ∈ phones batch ++ batchPhones rest)
    (hpub : s.enqueues msgID a = true ∨ Within s.rows (batchPhones rest ++ others)) :
    x ∈ queued (s.exec a (.publish (.batch batch camp.delaySeconds) msgID)) ++ batchPhones rest ++ others := by
  rcases hpub with henq | hw
  · rcases List.mem_append.mp hc with hc | hc
    · have hq : x ∈ queued (s.exec a (.publish (.batch batch camp.delaySeconds) msgID)) :=
        mem_queued.mpr ⟨_, mem_queue_of_enqueues henq, hc⟩
      simp [hq]
    · simp [hc]
  · have hin := hw r hr hp
    rw [← hx] at hin
    rw [List.append_assoc]
    exact List.mem_append_right _ hin

theorem handed_on (hl : losslessAt s others a p = true)
    (hs : (s.exec a (p.cmd s.camp.id)).camp.status = .sending) {r : CampaignRecipientRecord}
    (hr : r ∈ (s.exec a (p.cmd s.camp.id)).rows) (hp : r.status = .pending) (hc : r.phone ∈ carries p) :
    r.phone ∈ queued (s.exec a (p.cmd s.camp.id)) ++ carried ((p.next e s a).threads id) ++ others := by
  have hadd : ∀ camp all merged, p ≠ .taskAdd camp all merged := by
    rintro camp all merged rfl
    cases hc
  obtain ⟨hmem, hwr⟩ := pending_before hadd hr hp
  -- the thread keeps it
  have keep : r.phone ∈ carried ((p.next e s a).threads id) →
      r.phone ∈ queued (s.exec a (p.cmd s.camp.id)) ++ carried ((p.next e s a).threads id) ++ others := by
    intro h
    simp [h]
  have hok := lossless_succeeds hl
  cases p with
  | resumePublish camp cycle idx batch rest =>
    have ok := hok rfl
    have hpub := lossless_publish hl rfl ok
    have hnext : carried ((Point.next e s a (.resumePublish camp cycle idx batch rest)).threads id) = batchPhones rest := by
      simp only [Point.next, ok]
      exact carried_publishNext (fun _ _ _ => rfl) rest
    rw [hnext]
    exact carried_publish rfl hmem hp hc hpub
  | taskPublish camp idx batch rest =>
    have ok := hok rfl
    have hpub := lossless_publish hl rfl ok
    have hnext : carried ((Point.next e s a (.taskPublish camp idx batch rest)).threads id) = batchPhones rest := by
      simp only [Point.next, ok]
      exact carried_publishNext (fun _ _ _ => rfl) rest
    rw [hnext]
    exact carried_publish rfl hmem hp hc hpub
  | batchRead rs delay =>
    apply keep
    have hst : s.camp.status = .sending := by simpa [Point.cmd, Store.exec] using hs
    simp only [Point.next, hok rfl, hst]
    cases rs with
    | nil => cases hc
    | cons x rest => simpa [Next.threads, carried, carries, phones] using hc
  | batchWait v first =>
    apply keep
    simp only [Point.next, hok rfl]
    cases first with
    | true =>
      rw [if_pos rfl, carried_toDispatch]
      exact hc
    | false => simpa [Next.threads, carried, carries] using hc
  | batchCheck v =>
    apply keep
    have hst : s.camp.status = .sending := by simpa [Point.cmd, Store.exec] using hs
    have hnext : Point.next e s a (.batchCheck v) = toDispatch e v := by
      cases ha : a.err <;> simp [Point.next, ha, hst]
    rw [hnext, carried_toDispatch]
    exact hc
  | batchDispatch v =>
    apply keep
    simp only [Point.next]
    cases ha : a.err with
    | some err => simpa [Next.threads, carried, carries] using hc
    | none =>
      simp only
      split
      · simpa [Next.threads, carried, carries] using hc
      · rw [carried_toIngest]
        exact hc
  | batchMarkSent v =>
    apply keep
    have hne := hwr (hok rfl)
    rcases List.mem_cons.mp hc with hc | hc
    · exact absurd (by rw [hc]; rfl) hne
    · exact carried_advance hc
  | batchIngest v =>
    apply keep
    simp only [Point.next]
    cases ha : a.err <;> simpa [Next.threads, carried, carries] using hc
  | batchRowSent v =>
    apply keep
    have hne := hwr (hok rfl)
    rcases List.mem_cons.mp hc with hc | hc
    · exact absurd (by rw [hc]; rfl) hne
    · simpa [Point.next, Next.threads, carried, carries] using hc
  | batchCountSent v =>
    apply keep
    exact carried_advance hc
  | batchCountFailed v err =>
    apply keep
    simpa [Point.next, Next.threads, carried, carries] using hc
  | batchRowFailed v err =>
    apply keep
    have hne := hwr (hok rfl)
    rcases List.mem_cons.mp hc with hc | hc
    · exact absurd (by rw [hc]; rfl) hne
    · exact carried_advance hc
  | _ => cases hc

theorem phones_subset_batches (n : Int) (rs : List CampaignRecipient) :
    phones rs ⊆ batchPhones (numbered (batches n rs)) := by
  intro x hx
  obtain ⟨r, hr, rfl⟩ := List.mem_map.mp hx
  have hbatch : ∃ b ∈ batches n rs, r ∈ b := mem_batches hr
  obtain ⟨b, hb, hrb⟩ := hbatch
  obtain ⟨i, hi, rfl⟩ := List.getElem_of_mem hb
  refine List.mem_flatMap.mpr ⟨(i + 1, (batches n rs)[i]), ?_, List.mem_map.mpr ⟨r, hrb, rfl⟩⟩
  exact List.mem_mapIdx.mpr ⟨i, hi, rfl⟩

theorem subset_resumeRecipients (camp : L2.Campaign) (listed : List CampaignRecipient) :
    listed ⊆ resumeRecipients camp listed := by
  unfold resumeRecipients
  split
  · rename_i h
    rw [h.1]
    exact List.nil_subset _
  · exact List.Subset.refl _

theorem within_resume (camp : L2.Campaign) (rows : List CampaignRecipientRecord) :
    Within rows (phones (resumeRecipients camp (pendingRecipients rows))) := by
  intro r hr hp
  have hlisted : (⟨r.phone, r.variables_⟩ : CampaignRecipient) ∈ pendingRecipients rows :=
    List.mem_map.mpr ⟨r, List.mem_filter.mpr ⟨hr, by simp [hp]⟩, rfl⟩
  exact List.mem_map.mpr ⟨_, subset_resumeRecipients camp _ hlisted, rfl⟩

/-- After the call of an operation someone looks after the campaign, or each pending recipient is with someone. -/
def Kept (e : Engine) (s : Store) (a : Answer) (p : Point) (id : Nat) (others : List String) : Prop :=
  .start ∈ (s.exec a (p.cmd s.camp.id)).queue ∨ (∃ t ∈ (p.next e s a).threads id, looksAfter t.2 = true) ∨
    Within (s.exec a (p.cmd s.camp.id)).rows
      (queued (s.exec a (p.cmd s.camp.id)) ++ carried ((p.next e s a).threads id) ++ others)

theorem kept_looksAfter {p' : Point} (hn : p.next e s a = .goto p') (hla : looksAfter p' = true) :
    Kept e s a p id others :=
  Or.inr (Or.inl ⟨(id, p'), by simp [hn, Next.threads], hla⟩)

theorem kept_sending {camp : L2.Campaign} {merged : List CampaignRecipient}
    (hl : losslessAt s others a (.taskSending camp merged) = true) :
    Kept e s a (.taskSending camp merged) id others := by
  have ok := lossless_succeeds hl rfl
  right; right
  rw [rows_kept (by simp [Point.cmd]) (by simp [Point.cmd])]
  refine (lossless_sending hl).mono ?_
  have hnext : carried ((Point.next e s a (.taskSending camp merged)).threads id) =
      batchPhones (numbered (batches camp.batchSize merged)) := by
    simp only [Point.next, ok]
    exact carried_publishNext (fun _ _ _ => rfl) _
  rw [hnext]
  intro x hx
  rcases List.mem_append.mp hx with hx | hx
  · exact List.mem_append_left _ (List.mem_append_right _ (phones_subset_batches _ _ hx))
  · exact List.mem_append_right _ hx

theorem kept_start {msgID : String} (hc : p.cmd s.camp.id = .publish .start msgID) (hleft : leftOver p = [])
    (hl : losslessAt s others a p = true) (ok : a.err = none) : Kept e s a p id others := by
  rcases lossless_publish hl hc ok with henq | hw
  · left
    rw [hc]
    exact mem_queue_of_enqueues henq
  · right; right
    rw [rows_kept (by simp [hc]) (by simp [hc])]
    rw [hleft, List.nil_append] at hw
    exact hw.mono (List.subset_append_right _ _)

theorem kept_resume {camp : L2.Campaign} (ok : a.err = none) : Kept e s a (.resumeList camp) id others := by
  right; right
  rw [rows_kept (by simp [Point.cmd]) (by simp [Point.cmd])]
  refine (within_resume camp s.rows).mono ?_
  by_cases hnone : resumeRecipients camp (pendingRecipients s.rows) = []
  · rw [hnone]
    exact List.nil_subset _
  · have hnext : carried ((Point.next e s a (.resumeList camp)).threads id) =
        batchPhones (numbered (batches camp.batchSize (resumeRecipients camp (pendingRecipients s.rows)))) := by
      simp only [Point.next, ok, if_neg hnone]
      exact carried_publishNext (fun _ _ _ => rfl) _
    rw [hnext]
    intro x hx
    exact List.mem_append_left _ (List.mem_append_right _ (phones_subset_batches _ _ hx))

theorem kept_of_looksAfter (hl : losslessAt s others a p = true) (hk : Known p) (hla : looksAfter p = true)
    (hs : (s.exec a (p.cmd s.camp.id)).camp.status = .sending) : Kept e s a p id others := by
  have hok := lossless_succeeds hl
  rw [Store.exec_status] at hs
  cases p with
  | startPublish camp =>
    cases ha : a.err with
    | some err => exact kept_looksAfter (by simp only [Point.next, ha]; rfl) rfl
    | none => exact kept_start rfl rfl hl ha
  | startRollback initial err =>
    simp only [Point.cmd, Store.statusAfter, hok rfl, Option.isSome_none, Bool.false_eq_true, if_false] at hs
    exact absurd hs (hk.rollback initial err rfl)
  | triggerPublish =>
    cases ha : a.err with
    | some err => exact kept_looksAfter (by simp only [Point.next, ha]; rfl) rfl
    | none => exact kept_start rfl rfl hl ha
  | triggerRollback =>
    simp only [Point.cmd, Store.statusAfter, hok rfl, Option.isNone_none, Bool.true_and, decide_eq_true_eq] at hs
    split at hs
    · cases hs
    · contradiction
  | resumeList camp => exact kept_resume (hok rfl)
  | taskRead =>
    have hst : ¬ (s.camp.status = .cancelled ∨ s.camp.status = .failed) := by
      simp only [Point.cmd, Store.statusAfter] at hs
      simp [hs]
    exact kept_looksAfter (by simp only [Point.next, hok rfl, if_neg hst]; rfl) rfl
  | taskResolve camp =>
    have hgoes : ∃ p', Point.next e s a (.taskResolve camp) = .goto p' ∧ looksAfter p' = true := by
      simp only [Point.next, resolved]
      split
      · exact ⟨_, rfl, rfl⟩
      · split <;> exact ⟨_, rfl, rfl⟩
    obtain ⟨p', hn, hp'⟩ := hgoes
    exact kept_looksAfter hn hp'
  | taskFail camp err =>
    simp [Point.cmd, Store.statusAfter, hok rfl] at hs
  | taskComplete camp =>
    simp [Point.cmd, Store.statusAfter, hok rfl] at hs
  | taskAdd camp all merged =>
    cases ha : a.err with
    | some err => exact kept_looksAfter (by simp only [Point.next, ha]; rfl) rfl
    | none =>
      by_cases hm : merged = []
      · exact kept_looksAfter (by simp only [Point.next, ha, if_pos hm]; rfl) rfl
      · exact kept_looksAfter (by simp only [Point.next, ha, if_neg hm]; rfl) rfl
  | taskSending camp merged => exact kept_sending hl
  | _ => cases hla

/-- An operation that takes the campaign to `sending` looks after it, or is about to publish its batches. -/
theorem kept_of_write (hl : losslessAt s others a p = true) (hk : Known p) (hbefore : s.camp.status ≠ .sending)
    (hs : (s.exec a (p.cmd s.camp.id)).camp.status = .sending) : Kept e s a p id others := by
  rw [Store.exec_status] at hs
  cases p with
  | startWrite camp =>
    cases ha : a.err with
    | some err => simp [Point.cmd, Store.statusAfter, ha, hbefore] at hs
    | none => exact kept_looksAfter (by simp only [Point.next, ha]; rfl) rfl
  | resumeWrite camp =>
    cases ha : a.err with
    | some err => simp [Point.cmd, Store.statusAfter, ha, hbefore] at hs
    | none => exact kept_looksAfter (by simp only [Point.next, ha]; rfl) rfl
  | startRollback initial err =>
    simp only [Point.cmd, Store.statusAfter] at hs
    split at hs
    · exact absurd hs hbefore
    · exact absurd hs (hk.rollback initial err rfl)
  | triggerClaim now =>
    simp only [Point.cmd, Store.statusAfter, Bool.and_eq_true] at hs
    split at hs
    · rename_i h
      obtain ⟨ha, hcl⟩ := h
      simp only [Option.isNone_iff_eq_none] at ha
      exact kept_looksAfter (by simp only [Point.next, ha, if_pos hcl]; rfl) rfl
    · exact absurd hs hbefore
  | taskSending camp merged => exact kept_sending hl
  | _ =>
    simp only [Point.cmd, Store.statusAfter] at hs
    first
      | exact absurd hs hbefore
      | (split at hs <;> first | exact absurd hs hbefore | cases hs)

end Turn

/-! ## Steps -/

section Step

variable {e : Engine} {s : St} {before after : List (Nat × Point)} {id : Nat} {p : Point} {a : Answer}

theorem attended_of_kept (h : Kept e s.store a p id (queued s.store ++ carried (before ++ after))) :
    Attended (afterTurn e s before after id p a) := by
  intro _
  rcases h with hq | ⟨t, ht, hla⟩ | hw
  · exact Or.inl (Or.inl hq)
  · refine Or.inl (Or.inr ⟨t, ?_, hla⟩)
    simp only [afterTurn, List.mem_append]
    exact Or.inl (Or.inr ht)
  · refine Or.inr (hw.mono ?_)
    intro x hx
    have hsub := queued_subset s.store a (p.cmd s.store.camp.id)
    simp only [afterTurn, carried_append, List.mem_append] at hx ⊢
    rcases hx with (hx | hx) | hx | hx | hx
    · exact Or.inl hx
    · exact Or.inr (Or.inl (Or.inr hx))
    · exact Or.inl (hsub hx)
    · exact Or.inr (Or.inl (Or.inl hx))
    · exact Or.inr (Or.inr hx)

theorem attended_turn (hi : Inv s) (split : s.threads = before ++ (id, p) :: after)
    (hl : losslessAt s.store (queued s.store ++ carried (before ++ after)) a p = true) :
    Attended (afterTurn e s before after id p a) := by
  have hk : Known p := hi.known (id, p) (by rw [split]; simp)
  intro hs
  by_cases hb : s.store.camp.status = .sending
  · cases hla : looksAfter p with
    | true => exact attended_of_kept (kept_of_looksAfter hl hk hla hs) hs
    | false =>
      rcases hi.attended hb with (hq | ⟨t, ht, hlt⟩) | hw
      · exact Or.inl (Or.inl (queue_subset _ _ _ hq))
      · rw [split] at ht
        rcases mem_swapped ht ((p.next e s.store a).threads id) with rfl | ht
        · rw [hla] at hlt
          cases hlt
        · exact Or.inl (Or.inr ⟨t, ht, hlt⟩)
      · refine attended_of_kept (Or.inr (Or.inr ?_)) hs
        intro r hr hp
        have hadd : ∀ camp all merged, p ≠ .taskAdd camp all merged := by
          rintro camp all merged rfl
          cases hla
        have hin := hw r (pending_before hadd hr hp).1 hp
        rw [split, carried_append] at hin
        simp only [carried, List.flatMap_cons, List.mem_append] at hin
        rcases hin with hin | hin | hin | hin
        · exact List.mem_append_right _ (List.mem_append_left _ hin)
        · refine List.mem_append_right _ (List.mem_append_right _ ?_)
          rw [carried_append]
          exact List.mem_append_left _ hin
        · exact handed_on hl hs hr hp hin
        · refine List.mem_append_right _ (List.mem_append_right _ ?_)
          rw [carried_append]
          exact List.mem_append_right _ hin
  · exact attended_of_kept (kept_of_write hl hk hb hs) hs

theorem attended_deliver {i : Nat} {t : Task} (h : Attended s) (hat : s.store.queue[i]? = some t) :
    Attended { s with store := { s.store with queue := s.store.queue.eraseIdx i }
                      threads := s.threads ++ [(s.fresh, t.point)], fresh := s.fresh + 1 } := by
  intro hs
  have hsplit := split_at hat
  have hrest : ∀ t' ∈ s.store.queue, t' = t ∨ t' ∈ s.store.queue.eraseIdx i := by
    intro t' ht'
    rw [hsplit] at ht'
    rw [List.eraseIdx_eq_take_drop_succ]
    simpa using mem_swapped ht' []
  rcases h hs with (hq | ⟨x, hx, hlx⟩) | hw
  · rcases hrest _ hq with heq | hq
    · exact Or.inl (Or.inr ⟨(s.fresh, t.point), by simp, by rw [← heq]; rfl⟩)
    · exact Or.inl (Or.inl hq)
  · exact Or.inl (Or.inr ⟨x, List.mem_append_left _ hx, hlx⟩)
  · refine Or.inr (hw.mono ?_)
    intro x hx
    rw [carried_append]
    rcases List.mem_append.mp hx with hx | hx
    · obtain ⟨t', ht', hx⟩ := mem_queued.mp hx
      rcases hrest _ ht' with heq | ht'
      · refine List.mem_append_right _ (List.mem_append_right _ ?_)
        rw [heq] at hx
        cases t with
        | start => cases hx
        | batch rs delay => simpa [carried, carries, Task.point, taskPhones] using hx
      · exact List.mem_append_left _ (mem_queued.mpr ⟨t', ht', hx⟩)
    · exact List.mem_append_right _ (List.mem_append_left _ hx)

theorem looksAfter_batch {all : List CampaignRecipient} {delay : Int} (h : p.task = some (.batch all delay)) :
    looksAfter p = false := by
  cases p <;> first | rfl | cases h

theorem attended_crash {t : Task} (hi : Inv s) (split : s.threads = before ++ (id, p) :: after)
    (htask : p.task = some t) :
    Attended { s with store := s.store.addTask t, threads := before ++ after } := by
  intro hs
  have hback : t ∈ (s.store.addTask t).queue := by simp [Store.addTask]
  have hqueued : queued s.store ⊆ queued (s.store.addTask t) := by
    intro x hx
    obtain ⟨t', ht', hx⟩ := mem_queued.mp hx
    exact mem_queued.mpr ⟨t', by simp [Store.addTask, ht'], hx⟩
  cases t with
  | start => exact Or.inl (Or.inl hback)
  | batch all delay =>
    rcases hi.attended hs with (hq | ⟨x, hx, hlx⟩) | hw
    · exact Or.inl (Or.inl (by simp [Store.addTask, hq]))
    · rw [split] at hx
      rcases mem_swapped hx [] with rfl | hx
      · rw [looksAfter_batch htask] at hlx
        cases hlx
      · exact Or.inl (Or.inr ⟨x, by simpa using hx, hlx⟩)
    · refine Or.inr (hw.mono ?_)
      intro x hx
      rw [split, carried_append] at hx
      rw [carried_append]
      simp only [carried, List.flatMap_cons, List.mem_append] at hx ⊢
      rcases hx with hx | hx | hx | hx
      · exact Or.inl (hqueued hx)
      · exact Or.inr (Or.inl hx)
      · have hk : Known p := hi.known (id, p) (by rw [split]; simp)
        exact Or.inl (mem_queued.mpr ⟨_, hback, hk.batch all delay htask hx⟩)
      · exact Or.inr (Or.inr hx)

theorem inv_step {s' : St} {l : Label} (hi : Inv s) (hl : Lossless s l) (h : step e s l = some s') : Inv s' := by
  cases step_cases e h with
  | call entry =>
    refine ⟨?_, fun hs => ?_⟩
    · intro t ht
      rcases List.mem_append.mp ht with ht | ht
      · exact hi.known t ht
      · rw [List.mem_singleton.mp ht]
        cases entry <;> exact ⟨by simp [Entry.point], by simp [Entry.point], by simp [Entry.point],
          by simp [Entry.point, Point.task]⟩
    · rcases hi.attended hs with (hq | ⟨x, hx, hlx⟩) | hw
      · exact Or.inl (Or.inl hq)
      · exact Or.inl (Or.inr ⟨x, List.mem_append_left _ hx, hlx⟩)
      · refine Or.inr (hw.mono ?_)
        rw [carried_append]
        intro x hx
        rcases List.mem_append.mp hx with hx | hx
        · exact List.mem_append_left _ hx
        · exact List.mem_append_right _ (List.mem_append_left _ hx)
  | @deliver i t at_ =>
    refine ⟨?_, attended_deliver hi.attended at_⟩
    intro x hx
    rcases List.mem_append.mp hx with hx | hx
    · exact hi.known x hx
    · rw [List.mem_singleton.mp hx]
      cases t with
      | start => exact known_of_task (by simp [Task.point, Point.op]) (by simp [Task.point, Point.task])
      | batch rs delay => exact known_of_batch rfl (List.Subset.refl _)
  | @turn i a before after id p at_ split others =>
    have hat := St.of_allAt hl at_
    rw [← others.1, ← others.2] at hat
    refine ⟨?_, attended_turn hi split hat⟩
    have hk : Known p := hi.known (id, p) (by rw [split]; simp)
    exact forall_swapped (P := fun t : Nat × Point => Known t.2) (split ▸ hi.known) (known_threads id hk)
  | @redeliver i id p t mem task =>
    refine ⟨hi.known, fun hs => ?_⟩
    rcases hi.attended hs with (hq | hx) | hw
    · exact Or.inl (Or.inl (by simp [Store.addTask, hq]))
    · exact Or.inl (Or.inr hx)
    · refine Or.inr (hw.mono ?_)
      intro x hx
      rcases List.mem_append.mp hx with hx | hx
      · obtain ⟨t', ht', hx⟩ := mem_queued.mp hx
        exact List.mem_append_left _ (mem_queued.mpr ⟨t', by simp [Store.addTask, ht'], hx⟩)
      · exact List.mem_append_right _ hx
  | @crash i before after id p t at_ split task =>
    refine ⟨?_, attended_crash hi split task⟩
    intro x hx
    exact hi.known x (by rw [split]; simp only [List.mem_append, List.mem_cons] at hx ⊢; tauto)

end Step

/-! ## Runs -/

variable (e : Engine) (c : Created)

theorem inv_inductive : ((lts e c).restrict Lossless).Inductive Inv :=
  LTS.Inductive.of_restrict
    (by
      rintro s rfl
      refine ⟨by simp [Created.init], fun _ => Or.inr ?_⟩
      intro r hr
      cases hr)
    (fun _ _ _ hi hl h => inv_step hi hl h)

/-- A start or batch task is queued or being processed. -/
def tasksLeft (s : St) : Bool := s.store.queue ≠ [] || s.threads.any fun t => t.2.task.isSome

/-- An operator's call, or the scheduler, is between setting the campaign to `sending` and its last publish. -/
def launching : Point → Bool
  | .startPublish _ | .startRollback .. | .triggerPublish | .triggerRollback | .resumeList _ | .resumePublish .. => true
  | _ => false

/-- A campaign that is sending with no task left, and with no call at work to launch it, has no pending
recipient. -/
def NotStuck (s : St) : Prop :=
  s.store.camp.status = .sending → tasksLeft s = false → (s.threads.any fun t => launching t.2) = false →
    ∀ r ∈ s.store.rows, r.status ≠ .pending

theorem attendant {p : Point} (h : looksAfter p = true ∨ carries p ≠ []) : p.task.isSome = true ∨ launching p = true := by
  cases p <;> first | exact Or.inl rfl | exact Or.inr rfl | simp [looksAfter, carries] at h

variable {e c}

/-- **A campaign is never stuck in sending** in runs of lossless steps: its pending recipients are with someone. -/
theorem sending_never_stuck {s : St} (h : ((lts e c).restrict Lossless).Reachable s) : NotStuck s ∧ Attended s := by
  have hi := (inv_inductive e c).reachable h
  refine ⟨fun hs htasks hlaunch r hr hp => ?_, hi.attended⟩
  simp only [tasksLeft, Bool.or_eq_false_iff, decide_eq_false_iff_not, not_not, List.any_eq_false] at htasks
  simp only [List.any_eq_false] at hlaunch
  have hnobody : ∀ t ∈ s.threads, ¬ (looksAfter t.2 = true ∨ carries t.2 ≠ []) := by
    intro t ht hat
    rcases attendant hat with h | h
    · exact htasks.2 t ht h
    · exact hlaunch t ht h
  rcases hi.attended hs with (hq | ⟨t, ht, hla⟩) | hw
  · rw [htasks.1] at hq
    cases hq
  · exact hnobody t ht (Or.inl hla)
  · have hin := hw r hr hp
    rw [queued, htasks.1, List.flatMap_nil, List.nil_append] at hin
    obtain ⟨t, ht, hx⟩ := mem_carried.mp hin
    exact hnobody t ht (Or.inr (List.ne_nil_of_mem hx))

/-! ## Two runs -/

/-- Two recipients, in two batches. -/
def pair : Created := newsletter [⟨"5511999990000", []⟩, ⟨"5511999990001", []⟩] 1

/-- `Start`, and the start task up to its second publish. -/
def startedRun : List Label :=
  [.call (.start true), .turn 0 .ok, .turn 0 .ok, .turn 0 .ok,
    .deliver 0, .turn 0 .ok, .turn 0 .ok, .turn 0 .ok, .turn 0 .ok, .turn 0 .ok]

/-- A batch of one, whose recipient `Ingest` refuses; the campaign is not found done at its end. -/
def refusedRun : List Label :=
  [.deliver 0, .turn 0 .ok, .turn 0 .ok, .turn 0 .ok, .turn 0 .failed, .turn 0 .ok, .turn 0 .ok, .turn 0 .failed]

theorem pair_not_stuck :
    ∃ s, ((lts serverEngine pair).restrict Lossless).Reachable s ∧ s.store.camp.status = .sending ∧
      s.threads = [] ∧ tasksLeft s = false ∧ s.store.rows.length = 2 ∧ NotStuck s := by
  have hrun : (LTS.exec (step serverEngine) pair.init (startedRun ++ Label.turn 0 .ok :: (refusedRun ++ refusedRun))).any
      (fun s => s.store.camp.status = .sending ∧ s.threads = [] ∧ tasksLeft s = false ∧
        s.store.rows.length = 2) = true := by
    decide +kernel
  obtain ⟨s, hs, hp⟩ := (Option.any_eq_true _ _).mp hrun
  have hg : LTS.Guarded (step serverEngine) Lossless pair.init
      (startedRun ++ Label.turn 0 .ok :: (refusedRun ++ refusedRun)) := by decide +kernel
  have hr := LTS.exec_restrict_reachable hs hg
  simp only [decide_eq_true_eq] at hp
  exact ⟨s, hr, hp.1, hp.2.1, hp.2.2.1, hp.2.2.2, (sending_never_stuck hr).1⟩

/-- The second batch is not published: once the first is done, the campaign is `sending`, no operation runs and
no task is queued, and a recipient is pending. -/
theorem second_batch_lost :
    ∃ s, (lts serverEngine pair).Reachable s ∧ s.store.camp.status = .sending ∧ s.store.queue = [] ∧
      s.threads = [] ∧ (∃ r ∈ s.store.rows, r.status = .pending) ∧ ¬ NotStuck s := by
  have hrun : (LTS.exec (step serverEngine) pair.init (startedRun ++ Label.turn 0 .failed :: refusedRun)).any
      (fun s => s.store.camp.status = .sending ∧ s.store.queue = [] ∧ s.threads = [] ∧
        (s.store.rows.any fun r => r.status = .pending) = true) = true := by
    decide +kernel
  obtain ⟨s, hs, hp⟩ := (Option.any_eq_true _ _).mp hrun
  simp only [decide_eq_true_eq] at hp
  obtain ⟨hst, hq, hth, hpend⟩ := hp
  obtain ⟨r, hr, hrp⟩ := List.any_eq_true.mp hpend
  refine ⟨s, LTS.exec_reachable hs, hst, hq, hth, ⟨r, hr, of_decide_eq_true hrp⟩, fun hn => ?_⟩
  exact hn hst (by simp [tasksLeft, hq, hth]) (by simp [hth]) r hr (of_decide_eq_true hrp)

end PerGo.L4.CampaignProgress
