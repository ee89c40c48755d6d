import PerGo.L3Campaign.System

/-!
# What the counters of a campaign count

`ProcessBatchTask` writes the row of a recipient and adds to the campaign's counter in
two separate calls, whose errors it drops, and it does so for every entry of its batch
whatever the row says. A batch that comes back, and a `Resume` while an older batch is
still at work, hand the same recipient to `Ingest` again and count it again; an entry
whose dispatch was sent already becomes `sent` without being counted.

* `inHand`: the recipient a batch has taken up and not yet written.
* `Orderly`: the condition on a step. A recipient is taken up only while its row is
  pending and no other batch has it in hand, or, when its dispatch says sent, while its
  row says so too; the two writes do not fail; and no worker dies between a successful
  `Ingest` and the second write, or between the two writes of a failure.
* `counters_count_recipients`: in orderly runs the counters and the rows agree, up to
  the recipients between their two writes, and no recipient is ingested twice.
-/
namespace PerGo.L4.CampaignCounters

open PerGo.Core PerGo.L1 PerGo.L2 PerGo.L3.Campaign

def inHand : Point → Option String
  | .batchIngest v | .batchRowSent v | .batchCountFailed v _ | .batchRowFailed v _ => some v.recipient.to_
  | _ => none

def hands (threads : List (Nat × Point)) : List String := threads.filterMap fun t => inHand t.2

/-- What the row of a recipient should say at a point: pending while it is in hand, sent where its
dispatch says so. -/
def relied : Point → Option (String × RecipientStatus)
  | .batchMarkSent v => some (v.recipient.to_, .sent)
  | p => (inHand p).map (·, .pending)

def uncounted (t : Nat × Point) : Bool :=
  match t.2 with
  | .batchCountSent _ => true
  | _ => false

def unwritten (t : Nat × Point) : Bool :=
  match t.2 with
  | .batchRowFailed .. => true
  | _ => false

/-- The two writes of a recipient. -/
def recording : Point → Bool
  | .batchRowSent _ | .batchCountSent _ | .batchCountFailed .. | .batchRowFailed .. => true
  | _ => false

/-- Between a successful `Ingest` and the second write, or between the two writes of a failure. -/
def halfRecorded : Point → Bool
  | .batchRowSent _ | .batchCountSent _ | .batchRowFailed .. => true
  | _ => false

def free (s : St) (to_ : String) (status : RecipientStatus) : Bool :=
  s.store.rows.any (fun r => r.phone = to_ && r.status = status) &&
    (status ≠ .pending || !(hands s.threads).contains to_)

def orderlyAt (e : Engine) (s : St) (a : Answer) (p : Point) : Bool :=
  (match p.next e s.store a with
    | .ret _ => true
    | .goto p' => match relied p' with
      | none => true
      | some (to_, status) => relied p = some (to_, status) || free s to_ status) &&
  (!recording p || a.err.isNone)

/-- The condition on a step. -/
def Orderly (e : Engine) (s : St) : Label → Prop
  | .turn i a => s.allAt i (orderlyAt e s a) = true
  | .crash i => s.allAt i (fun p => !halfRecorded p) = true
  | _ => True

instance (e : Engine) (s : St) (l : Label) : Decidable (Orderly e s l) := by
  cases l <;> (unfold Orderly; infer_instance)

/-! ## The invariant -/

def hasStatus (status : RecipientStatus) (r : CampaignRecipientRecord) : Bool := r.status = status

def RowIs (rows : List CampaignRecipientRecord) (phone : String) (status : RecipientStatus) : Prop :=
  ∃ r ∈ rows, r.phone = phone ∧ r.status = status

/-- What an operation relies on at its point: the row of the recipient, and that the records it is about
to add are new. -/
structure Relies (rows : List CampaignRecipientRecord) (p : Point) : Prop where
  row : ∀ to_ status, relied p = some (to_, status) → RowIs rows to_ status
  records : ∀ camp all merged, p = .taskAdd camp all merged → ∀ r ∈ all, Unsent r

def ingestedTo : Event → Option String
  | .ingested to_ => some to_
  | _ => none

/-- The recipients handed to `Ingest` with success, in order. -/
def ingestedBy (log : List Event) : List String := log.filterMap ingestedTo

structure Inv (s : St) : Prop where
  relies : ∀ t ∈ s.threads, Relies s.store.rows t.2
  distinct : (hands s.threads).Nodup
  sent : s.store.camp.sentRecipients + s.threads.countP uncounted = s.store.rows.countP (hasStatus .sent)
  failed : s.store.camp.failedRecipients = s.store.rows.countP (hasStatus .failed) + s.threads.countP unwritten
  total : s.store.camp.totalRecipients = s.store.rows.length ∨
    s.store.rows = [] ∧ 0 ≤ s.store.camp.totalRecipients
  once : (ingestedBy s.log).Nodup
  ingested : ∀ to_ ∈ ingestedBy s.log, (∃ status, status ≠ .pending ∧ RowIs s.store.rows to_ status) ∨
    ∃ t ∈ s.threads, ∃ v, t.2 = .batchRowSent v ∧ v.recipient.to_ = to_

/-! ## Rows -/

theorem RowIs.unique {s : Store} {to_ : String} {st st' : RecipientStatus} (h : RowIs s.rows to_ st)
    (h' : RowIs s.rows to_ st') : st = st' := by
  obtain ⟨r, hr, hph, rfl⟩ := h
  obtain ⟨r', hr', hph', rfl⟩ := h'
  rw [eq_of_key_eq s.phones hr hr' (hph.trans hph'.symm)]

theorem RowIs.setRowStatus_ne {rows : List CampaignRecipientRecord} {phone to_ : String} {st' : RecipientStatus}
    (h : RowIs rows to_ st') (hne : to_ ≠ phone) (st : RecipientStatus) (error : Option String) :
    RowIs (setRowStatus phone st error rows) to_ st' := by
  obtain ⟨r, hr, hph, hs⟩ := h
  refine ⟨r, List.mem_map.mpr ⟨r, hr, ?_⟩, hph, hs⟩
  have hd : ¬ r.phone = phone := fun hp => hne (hph.symm.trans hp)
  simp [hd]

theorem RowIs.setRowStatus_self {rows : List CampaignRecipientRecord} {phone : String} {st' : RecipientStatus}
    (h : RowIs rows phone st') (st : RecipientStatus) (error : Option String) :
    RowIs (setRowStatus phone st error rows) phone st := by
  obtain ⟨r, hr, hph, -⟩ := h
  refine ⟨{ r with status := st, errorMessage := error }, List.mem_map.mpr ⟨r, hr, ?_⟩, hph, rfl⟩
  simp [hph]

theorem length_setRowStatus (phone : String) (st : RecipientStatus) (error : Option String)
    (rows : List CampaignRecipientRecord) : (setRowStatus phone st error rows).length = rows.length :=
  List.length_map _

theorem countP_setRowStatus {s : Store} {phone : String} (h : RowIs s.rows phone .pending)
    (st : RecipientStatus) (error : Option String) {st' : RecipientStatus} (hst : st' ≠ .pending) :
    (setRowStatus phone st error s.rows).countP (hasStatus st') =
      s.rows.countP (hasStatus st') + (if st = st' then 1 else 0) := by
  obtain ⟨r, hr, rfl, hp⟩ := h
  have hcount := countP_updateWhere s.phones hr (fun r => { r with status := st, errorMessage := error })
    (hasStatus st')
  have hold : hasStatus st' r = false := by simp [hasStatus, hp, hst.symm]
  simp only [hold, Bool.false_eq_true, if_false, Nat.add_zero] at hcount
  rw [setRowStatus, hcount]
  simp [hasStatus]

theorem countP_setRowStatus_same {s : Store} {phone : String} {st : RecipientStatus} (h : RowIs s.rows phone st)
    (error : Option String) (st' : RecipientStatus) :
    (setRowStatus phone st error s.rows).countP (hasStatus st') = s.rows.countP (hasStatus st') := by
  obtain ⟨r, hr, hph, hs⟩ := h
  apply countP_updateWhere_of_eq
  intro r' hr' hp'
  have heq : r' = r := eq_of_key_eq s.phones hr' hr ((of_decide_eq_true hp').trans hph.symm)
  subst heq
  simp [hasStatus, hs]

theorem RowIs.append {rows : List CampaignRecipientRecord} {phone : String} {st : RecipientStatus}
    (h : RowIs rows phone st) (new : List CampaignRecipientRecord) : RowIs (rows ++ new) phone st := by
  obtain ⟨r, hr, hp⟩ := h
  exact ⟨r, List.mem_append_left _ hr, hp⟩

theorem insertRows_prefix (rows records : List CampaignRecipientRecord) :
    ∃ new, insertRows rows records = rows ++ new := by
  induction records generalizing rows with
  | nil => exact ⟨[], (List.append_nil rows).symm⟩
  | cons x records ih =>
    obtain ⟨new, hnew⟩ := ih (insertRow rows x)
    have hx : ∃ n, insertRow rows x = rows ++ n := by
      unfold insertRow
      split
      · exact ⟨[], (List.append_nil rows).symm⟩
      · exact ⟨[x], rfl⟩
    obtain ⟨n, hn⟩ := hx
    refine ⟨n ++ new, ?_⟩
    rw [insertRows, List.foldl_cons]
    rw [insertRows] at hnew
    rw [hnew, hn, List.append_assoc]

theorem countP_insertRows {rows records : List CampaignRecipientRecord} {q : CampaignRecipientRecord → Bool}
    (hq : ∀ r ∈ records, q r = false) : (insertRows rows records).countP q = rows.countP q := by
  induction records generalizing rows with
  | nil => rfl
  | cons x records ih =>
    have hx : (insertRow rows x).countP q = rows.countP q := by
      unfold insertRow
      split
      · rfl
      · simp [hq x List.mem_cons_self]
    rw [insertRows, List.foldl_cons, ← insertRows, ih fun r hr => hq r (List.mem_cons_of_mem _ hr), hx]

/-! ## The threads -/

theorem hands_append (a b : List (Nat × Point)) : hands (a ++ b) = hands a ++ hands b := List.filterMap_append

theorem hands_cons (t : Nat × Point) (ts : List (Nat × Point)) : hands (t :: ts) = (inHand t.2).toList ++ hands ts := by
  cases h : inHand t.2 <;> simp [hands, h]

theorem mem_hands {threads : List (Nat × Point)} {to_ : String} :
    to_ ∈ hands threads ↔ ∃ t ∈ threads, inHand t.2 = some to_ := List.mem_filterMap

theorem relied_of_inHand {p : Point} {to_ : String} (h : inHand p = some to_) : relied p = some (to_, .pending) := by
  cases p <;> simp_all [relied, inHand]

theorem not_mem_hands_of_nodup {before after : List (Nat × Point)} {id : Nat} {p : Point} {to_ : String}
    (hn : (hands (before ++ (id, p) :: after)).Nodup) (hp : inHand p = some to_) :
    to_ ∉ hands (before ++ after) := by
  rw [hands_append, hands_cons, hp] at hn
  rw [hands_append]
  simp only [Option.toList_some, List.singleton_append, List.nodup_middle, List.nodup_cons] at hn
  exact hn.1

theorem nodup_hands_drop (new : List (Nat × Point)) {before after : List (Nat × Point)} {t : Nat × Point}
    (hn : (hands (before ++ t :: after)).Nodup) (hnew : hands new = []) :
    (hands (before ++ new ++ after)).Nodup := by
  rw [hands_append, hands_append, hnew, List.append_nil]
  rw [hands_append, hands_cons] at hn
  exact hn.sublist ((List.Sublist.refl _).append (List.sublist_append_right _ _))

theorem nodup_hands_keep {before after : List (Nat × Point)} {id : Nat} {p p' : Point}
    (hn : (hands (before ++ (id, p) :: after)).Nodup) (hkeep : inHand p' = inHand p) :
    (hands (before ++ [(id, p')] ++ after)).Nodup := by
  rw [hands_append, hands_append, hands_cons, hkeep]
  rw [hands_append, hands_cons] at hn
  simpa [hands] using hn

theorem nodup_hands_take {before after : List (Nat × Point)} {id : Nat} {p p' : Point} {to_ : String}
    (hn : (hands (before ++ (id, p) :: after)).Nodup) (hp' : inHand p' = some to_)
    (hfree : to_ ∉ hands (before ++ (id, p) :: after)) : (hands (before ++ [(id, p')] ++ after)).Nodup := by
  have hdrop := nodup_hands_drop [] hn rfl
  rw [List.append_nil, hands_append] at hdrop
  have hnot : to_ ∉ hands before ++ hands after := by
    intro hm
    apply hfree
    rw [hands_append, hands_cons]
    simp only [List.mem_append] at hm ⊢
    tauto
  rw [List.append_assoc, hands_append, hands_append, hands_cons, hp']
  simp only [Option.toList_some, List.singleton_append, List.nodup_middle, List.nodup_cons, hands,
    List.filterMap_nil]
  exact ⟨hnot, hdrop⟩

/-! ## One call -/

theorem ingestedBy_append (a b : List Event) : ingestedBy (a ++ b) = ingestedBy a ++ ingestedBy b :=
  List.filterMap_append

theorem ingestedBy_events (op : Op) (id : Nat) (n : Next) : ingestedBy (n.events op id) = [] := by
  cases n <;> rfl

theorem ingestedBy_call {op : Op} {id : Nat} {a : Answer} {cmd : Cmd} (h : ∀ to_, cmd ≠ .ingest to_) :
    ingestedBy (callEvents op id a cmd) = [] := by
  cases cmd with
  | ingest to_ => exact absurd rfl (h to_)
  | updateStatus status =>
    simp only [callEvents]
    split <;> rfl
  | _ => rfl

section Turn

variable {e : Engine} {s : St} {before after : List (Nat × Point)} {id : Nat} {p : Point} {a : Answer}

theorem Inv.keep_rows {s' : St} {new : List (Nat × Point)} (hi : Inv s)
    (split : s.threads = before ++ (id, p) :: after) (hth : s'.threads = before ++ new ++ after)
    (hrows : s'.store.rows = s.store.rows) (htotal : s'.store.camp.totalRecipients = s.store.camp.totalRecipients)
    (hrel : ∀ t ∈ new, Relies s.store.rows t.2) (hdist : (hands (before ++ new ++ after)).Nodup)
    (hsent : s'.store.camp.sentRecipients + new.countP uncounted =
      s.store.camp.sentRecipients + (if uncounted (id, p) then 1 else 0 : Nat))
    (hfailed : s'.store.camp.failedRecipients + (if unwritten (id, p) then 1 else 0 : Nat) =
      s.store.camp.failedRecipients + new.countP unwritten)
    (hlog : (ingestedBy s'.log = ingestedBy s.log ∧ ∀ v, p ≠ .batchRowSent v) ∨
      ∃ v, p = .batchIngest v ∧ new = [(id, .batchRowSent v)] ∧
        ingestedBy s'.log = ingestedBy s.log ++ [v.recipient.to_]) : Inv s' := by
  have hcs := countP_swapped uncounted before after new (id, p)
  have hcf := countP_swapped unwritten before after new (id, p)
  have h1 := hi.sent
  have h2 := hi.failed
  rw [split] at h1 h2
  -- a thread other than the one that moved
  have hother : ∀ t ∈ s.threads, t ≠ (id, p) → t ∈ s'.threads := by
    intro t ht hne
    rw [split] at ht
    rw [hth]
    exact (mem_swapped ht new).resolve_left hne
  refine ⟨?_, by rwa [hth], ?_, ?_, by rw [hrows, htotal]; exact hi.total, ?_, ?_⟩
  · rw [hth, hrows]
    exact forall_swapped (P := fun t : Nat × Point => Relies s.store.rows t.2) (split ▸ hi.relies) hrel
  · rw [hth, hrows]
    omega
  · rw [hth, hrows]
    omega
  · rcases hlog with ⟨heq, -⟩ | ⟨v, rfl, -, heq⟩
    · rw [heq]
      exact hi.once
    · rw [heq, List.nodup_append]
      refine ⟨hi.once, by simp, ?_⟩
      intro x hx y hy hxy
      rw [List.mem_singleton.mp hy] at hxy
      subst hxy
      -- the row of a recipient in hand is pending, and no other batch has it in hand
      have hrow : RowIs s.store.rows v.recipient.to_ .pending :=
        (hi.relies (id, .batchIngest v) (by rw [split]; simp)).row _ _ rfl
      rcases hi.ingested _ hx with ⟨st, hne, hst⟩ | ⟨t, ht, v', htv, hto⟩
      · exact hne (hst.unique hrow)
      · have hnot := not_mem_hands_of_nodup (p := .batchIngest v) (split ▸ hi.distinct) rfl
        apply hnot
        rw [split] at ht
        rw [hands_append]
        simp only [List.mem_append, List.mem_cons] at ht
        rcases ht with ht | rfl | ht
        · exact List.mem_append_left _ (mem_hands.mpr ⟨t, ht, by rw [htv]; simp [inHand, hto]⟩)
        · cases htv
        · exact List.mem_append_right _ (mem_hands.mpr ⟨t, ht, by rw [htv]; simp [inHand, hto]⟩)
  · intro to_ hto
    rw [hrows]
    rcases hlog with ⟨heq, hp⟩ | ⟨v, rfl, rfl, heq⟩
    · rw [heq] at hto
      rcases hi.ingested to_ hto with h | ⟨t, ht, v, htv, h⟩
      · exact Or.inl h
      · refine Or.inr ⟨t, hother t ht ?_, v, htv, h⟩
        rintro rfl
        exact hp v htv
    · rw [heq] at hto
      rcases List.mem_append.mp hto with hto | hto
      · rcases hi.ingested to_ hto with h | ⟨t, ht, v', htv, h⟩
        · exact Or.inl h
        · refine Or.inr ⟨t, hother t ht ?_, v', htv, h⟩
          rintro rfl
          cases htv
      · refine Or.inr ⟨(id, .batchRowSent v), by rw [hth]; simp, v, rfl, ?_⟩
        exact (List.mem_singleton.mp hto).symm

theorem Inv.move_rows {s' : St} {new : List (Nat × Point)} (hi : Inv s)
    (split : s.threads = before ++ (id, p) :: after) (hth : s'.threads = before ++ new ++ after)
    (hkeep : ∀ t ∈ before ++ after, ∀ to_ st, relied t.2 = some (to_, st) →
      RowIs s.store.rows to_ st → RowIs s'.store.rows to_ st)
    (hdone : ∀ to_ st, st ≠ .pending → RowIs s.store.rows to_ st →
      ∃ st', st' ≠ .pending ∧ RowIs s'.store.rows to_ st')
    (hrel : ∀ t ∈ new, Relies s'.store.rows t.2) (hdist : (hands (before ++ new ++ after)).Nodup)
    (hsent : s'.store.camp.sentRecipients + (before ++ new ++ after).countP uncounted =
      s'.store.rows.countP (hasStatus .sent))
    (hfailed : s'.store.camp.failedRecipients =
      s'.store.rows.countP (hasStatus .failed) + (before ++ new ++ after).countP unwritten)
    (htotal : s'.store.camp.totalRecipients = s'.store.rows.length ∨
      s'.store.rows = [] ∧ 0 ≤ s'.store.camp.totalRecipients)
    (hlog : ingestedBy s'.log = ingestedBy s.log)
    (hp : ∀ v, p = .batchRowSent v → ∃ st, st ≠ .pending ∧ RowIs s'.store.rows v.recipient.to_ st) : Inv s' := by
  refine ⟨?_, by rwa [hth], by rwa [hth], by rwa [hth], htotal, by rw [hlog]; exact hi.once, ?_⟩
  · rw [hth]
    intro t ht
    simp only [List.mem_append] at ht
    have hold : t ∈ before ++ after → Relies s'.store.rows t.2 := by
      intro hm
      have hr := hi.relies t (by rw [split]; simp only [List.mem_append, List.mem_cons] at hm ⊢; tauto)
      exact ⟨fun to_ st h => hkeep t hm to_ st h (hr.row to_ st h), hr.records⟩
    rcases ht with (ht | ht) | ht
    · exact hold (List.mem_append_left _ ht)
    · exact hrel t ht
    · exact hold (List.mem_append_right _ ht)
  · intro to_ hto
    rw [hlog] at hto
    rcases hi.ingested to_ hto with ⟨st, hne, hst⟩ | ⟨t, ht, v, htv, h⟩
    · exact Or.inl (hdone to_ st hne hst)
    · rw [split] at ht
      rcases mem_swapped ht new with rfl | ht
      · rw [← h]
        exact Or.inl (hp v htv)
      · exact Or.inr ⟨t, by rw [hth]; exact ht, v, htv, h⟩

theorem Inv.write_row {s' : St} {new : List (Nat × Point)} {to_ : String} (hi : Inv s) (st : RecipientStatus)
    (error : Option String) (split : s.threads = before ++ (id, p) :: after)
    (hth : s'.threads = before ++ new ++ after) (hand : inHand p = some to_) (hst : st ≠ .pending)
    (hrows : s'.store.rows = setRowStatus to_ st error s.store.rows) (hcamp : s'.store.camp = s.store.camp)
    (hrel : ∀ t ∈ new, Relies s'.store.rows t.2) (hnew : hands new = [])
    (hsent : new.countP uncounted = (if uncounted (id, p) then 1 else 0) + (if st = .sent then 1 else 0))
    (hfailed : new.countP unwritten + (if st = .failed then 1 else 0) = (if unwritten (id, p) then 1 else 0))
    (hlog : ingestedBy s'.log = ingestedBy s.log) : Inv s' := by
  have hrow : RowIs s.store.rows to_ .pending :=
    (hi.relies (id, p) (by rw [split]; simp)).row _ _ (relied_of_inHand hand)
  have hnot := not_mem_hands_of_nodup (split ▸ hi.distinct) hand
  have hcs := countP_swapped uncounted before after new (id, p)
  have hcf := countP_swapped unwritten before after new (id, p)
  have h1 := hi.sent
  have h2 := hi.failed
  rw [split] at h1 h2
  refine hi.move_rows split hth ?_ ?_ hrel (nodup_hands_drop _ (split ▸ hi.distinct) hnew) ?_ ?_ ?_ hlog ?_
  · intro t ht to' st' hrelied hr
    rw [hrows]
    refine hr.setRowStatus_ne ?_ _ _
    rintro rfl
    -- another thread relies on the row being pending only when it has the recipient in hand
    have hpend : st' = .pending := hr.unique hrow
    subst hpend
    apply hnot
    refine mem_hands.mpr ⟨t, ht, ?_⟩
    revert hrelied
    cases t.2 <;> simp [relied, inHand]
  · intro to' st' hne hr
    rw [hrows]
    by_cases heq : to' = to_
    · subst heq
      exact ⟨st, hst, hr.setRowStatus_self st error⟩
    · exact ⟨st', hne, hr.setRowStatus_ne heq _ _⟩
  · rw [hrows, hcamp, countP_setRowStatus hrow st error (by decide)]
    omega
  · rw [hrows, hcamp, countP_setRowStatus hrow st error (by decide)]
    omega
  · rw [hrows, hcamp]
    rcases hi.total with ht | ⟨ht, -⟩
    · left
      rw [ht, length_setRowStatus]
    · obtain ⟨r, hr, -⟩ := hrow
      rw [ht] at hr
      cases hr
  · rintro v rfl
    rw [hrows]
    simp only [inHand, Option.some.injEq] at hand
    rw [hand]
    exact ⟨st, hst, hrow.setRowStatus_self st error⟩

/-! ## One turn -/

/-- No recipient is being recorded at the point. -/
def quiet : Point → Bool
  | .batchMarkSent _ | .batchIngest _ | .batchRowSent _ | .batchCountSent _ | .batchCountFailed ..
  | .batchRowFailed .. => false
  | _ => true

theorem quiet_hands (h : quiet p = true) : hands [(id, p)] = [] := by
  cases p <;> first | rfl | cases h

theorem quiet_counts (id : Nat) (h : quiet p = true) : uncounted (id, p) = false ∧ unwritten (id, p) = false := by
  cases p <;> first | exact ⟨rfl, rfl⟩ | cases h

theorem quiet_relied (h : quiet p = true) : relied p = none := by
  cases p <;> first | rfl | cases h

theorem exec_quiet (st : Store) (cid : UUID) (h : quiet p = true)
    (hadd : ∀ camp all merged, p = .taskAdd camp all merged → a.err.isSome = true) :
    (st.exec a (p.cmd cid)).rows = st.rows ∧
      (st.exec a (p.cmd cid)).camp.sentRecipients = st.camp.sentRecipients ∧
      (st.exec a (p.cmd cid)).camp.failedRecipients = st.camp.failedRecipients ∧
      (st.exec a (p.cmd cid)).camp.totalRecipients = st.camp.totalRecipients := by
  cases p with
  | taskAdd camp all merged => simp [Point.cmd, Store.exec, hadd camp all merged rfl]
  | batchMarkSent v => cases h
  | batchIngest v => cases h
  | batchRowSent v => cases h
  | batchCountSent v => cases h
  | batchCountFailed v err => cases h
  | batchRowFailed v err => cases h
  | _ =>
    simp only [Point.cmd, Store.exec, Store.setStatus]
    split <;> first | exact ⟨rfl, rfl, rfl, rfl⟩ | (split <;> exact ⟨rfl, rfl, rfl, rfl⟩)

theorem cmd_ne_ingest {cid : UUID} (h : ∀ v, p ≠ .batchIngest v) (to_ : String) : p.cmd cid ≠ .ingest to_ := by
  cases p with
  | batchIngest v => exact absurd rfl (h v)
  | _ => simp [Point.cmd]

theorem ingestedBy_turn (h : ∀ v, p ≠ .batchIngest v) :
    ingestedBy (afterTurn e s before after id p a).log = ingestedBy s.log := by
  simp [afterTurn, ingestedBy_append, ingestedBy_events, ingestedBy_call (cmd_ne_ingest h)]

theorem orderly_goto {p' : Point} (h : orderlyAt e s a p = true) (hn : p.next e s.store a = .goto p')
    {to_ : String} {st : RecipientStatus} (hr : relied p' = some (to_, st)) :
    relied p = some (to_, st) ∨
      RowIs s.store.rows to_ st ∧ (st = .pending → to_ ∉ hands s.threads) := by
  simp only [orderlyAt, hn, hr, Bool.and_eq_true, Bool.or_eq_true, decide_eq_true_eq, free, List.any_eq_true] at h
  rcases h.1 with h | ⟨⟨r, hrow, hph, hst⟩, hfree⟩
  · exact Or.inl h
  · refine Or.inr ⟨⟨r, hrow, hph, hst⟩, fun hp => ?_⟩
    simpa [hp] using hfree

theorem orderly_recording (h : orderlyAt e s a p = true) (hr : recording p = true) : a.err = none := by
  simp only [orderlyAt, hr, Bool.not_true, Bool.false_or, Bool.and_eq_true] at h
  simpa using h.2

theorem inv_quiet (new : List (Nat × Point)) (hi : Inv s) (split : s.threads = before ++ (id, p) :: after)
    (hnew : (p.next e s.store a).threads id = new) (hq : quiet p = true) (hq' : ∀ t ∈ new, quiet t.2 = true)
    (hlen : new = [] ∨ ∃ p', new = [(id, p')])
    (hadd : ∀ camp all merged, p = .taskAdd camp all merged → a.err.isSome = true)
    (hrec : ∀ t ∈ new, ∀ camp all merged, t.2 = .taskAdd camp all merged → ∀ r ∈ all, Unsent r) :
    Inv (afterTurn e s before after id p a) := by
  obtain ⟨hrows, hsent, hfailed, htotal⟩ := exec_quiet s.store s.store.camp.id hq hadd
  have hc := quiet_counts id hq
  have hcount : new.countP uncounted = 0 ∧ new.countP unwritten = 0 ∧ hands new = [] := by
    rcases hlen with rfl | ⟨p', rfl⟩
    · exact ⟨rfl, rfl, rfl⟩
    · have hp' := hq' (id, p') List.mem_cons_self
      have := quiet_counts id hp'
      exact ⟨by simp [this.1], by simp [this.2], quiet_hands hp'⟩
  have hth : (afterTurn e s before after id p a).threads = before ++ new ++ after := by rw [← hnew]; rfl
  refine hi.keep_rows split hth hrows htotal ?_ ?_ ?_ ?_ (Or.inl ⟨ingestedBy_turn ?_, ?_⟩)
  · intro t ht
    refine ⟨fun to_ st hr => ?_, hrec t ht⟩
    rw [quiet_relied (hq' t ht)] at hr
    cases hr
  · exact nodup_hands_drop _ (split ▸ hi.distinct) hcount.2.2
  · rw [hcount.1, hc.1]
    simpa [afterTurn] using hsent
  · rw [hcount.2.1, hc.2]
    simpa [afterTurn] using hfailed
  · rintro v rfl
    cases hq
  · rintro v rfl
    cases hq

theorem advances_quiet {v : BatchVars} (h : Advances v p) : quiet p = true := by
  cases h with
  | next => rfl
  | done _ ends => cases ends <;> rfl

theorem returns_add {err : Option String} (h : Returns s.store a p err) (camp : L2.Campaign)
    (all : List CampaignRecipientRecord) (merged : List CampaignRecipient) (hp : p = .taskAdd camp all merged) :
    a.err.isSome = true := by
  subst hp
  cases h with
  | failed failed => simp [failed]
  | refused _ _ at_ =>
    obtain ⟨m, h | h | h | h⟩ := at_ <;> cases h

theorem goto_records {p' : Point} (h : Goto e s.store a p p') (camp : L2.Campaign)
    (all : List CampaignRecipientRecord) (merged : List CampaignRecipient) (hp : p' = .taskAdd camp all merged) :
    ∀ r ∈ all, Unsent r := by
  have hadv : ∀ v, ¬ Advances v (.taskAdd camp all merged) := by
    rintro v (_ | ⟨_, ends⟩)
    cases ends
  have hover : ∀ v, ¬ HandsOver v (.taskAdd camp all merged) := by
    rintro v ⟨⟩
  have htakes : ∀ v, ¬ TakesUp e v (.taskAdd camp all merged) := by
    rintro v (_ | ⟨_, hand⟩)
    exact hover v hand
  subst hp
  cases h with
  | taskResolve tags => exact mergeTagAndCSVRecipients_unsent (resolveTagRecipients_unsent tags) _
  | batchEmpty _ ends => cases ends
  | batchFirst _ takes => exact absurd takes (htakes _)
  | batchCheck takes => exact absurd takes (htakes _)
  | batchDispatch _ _ hand => exact absurd hand (hover _)
  | batchMarkSent advances => exact absurd advances (hadv _)
  | batchCountSent advances => exact absurd advances (hadv _)
  | batchRowFailed advances => exact absurd advances (hadv _)

inductive Takes (v : BatchVars) : Point → Prop
  | found : Takes v (.batchMarkSent v)
  | ingest : Takes v (.batchIngest v)
  | failed (text : String) : Takes v (.batchCountFailed v text)

theorem takes_of_handsOver {v : BatchVars} {p' : Point} (h : HandsOver v p') : Takes v p' := by
  cases h with
  | ingest => exact .ingest
  | noIngestor => exact .failed _

theorem takes_of_takesUp {v : BatchVars} {p' : Point} (h : TakesUp e v p') (hq : quiet p' = false) : Takes v p' := by
  cases h with
  | dispatch => cases hq
  | untracked _ hand => exact takes_of_handsOver hand

theorem goto_takes {p' : Point} (h : Goto e s.store a p p') (hp : quiet p = true) (hq : quiet p' = false) :
    (∃ v, Takes v p') ∧ ∀ camp all merged, p ≠ .taskAdd camp all merged := by
  cases h with
  | batchEmpty _ ends => cases ends <;> cases hq
  | batchFirst _ takes => exact ⟨⟨_, takes_of_takesUp takes hq⟩, by simp⟩
  | batchCheck takes => exact ⟨⟨_, takes_of_takesUp takes hq⟩, by simp⟩
  | batchUntracked _ text => exact ⟨⟨_, .failed text⟩, by simp⟩
  | batchAlready => exact ⟨⟨_, .found⟩, by simp⟩
  | batchDispatch _ _ hand => exact ⟨⟨_, takes_of_handsOver hand⟩, by simp⟩
  | batchMarkSent => cases hp
  | batchRefused => cases hp
  | batchIngest => cases hp
  | batchRowSent => cases hp
  | batchCountSent => cases hp
  | batchCountFailed => cases hp
  | batchRowFailed => cases hp
  | _ => cases hq

theorem inv_take {p' : Point} {v : BatchVars} (hi : Inv s) (split : s.threads = before ++ (id, p) :: after)
    (hn : p.next e s.store a = .goto p') (hq : quiet p = true) (ht : Takes v p')
    (hadd : ∀ camp all merged, p ≠ .taskAdd camp all merged) (ho : orderlyAt e s a p = true) :
    Inv (afterTurn e s before after id p a) := by
  obtain ⟨hrows, hsent, hfailed, htotal⟩ := exec_quiet s.store s.store.camp.id (a := a) hq
    fun camp all merged h => absurd h (hadd camp all merged)
  have hth : (afterTurn e s before after id p a).threads = before ++ [(id, p')] ++ after := by
    simp [afterTurn, hn, Next.threads]
  have hc := quiet_counts id hq
  have hc' : uncounted (id, p') = false ∧ unwritten (id, p') = false := by cases ht <;> exact ⟨rfl, rfl⟩
  have hfree : ∀ to_ st, relied p' = some (to_, st) →
      RowIs s.store.rows to_ st ∧ (st = .pending → to_ ∉ hands s.threads) := by
    intro to_ st hr
    refine (orderly_goto ho hn hr).resolve_left ?_
    rw [quiet_relied hq]
    simp
  refine hi.keep_rows split hth hrows htotal ?_ ?_ ?_ ?_ (Or.inl ⟨ingestedBy_turn ?_, ?_⟩)
  · intro t htm
    cases List.mem_singleton.mp htm
    refine ⟨fun to_ st hr => (hfree to_ st hr).1, ?_⟩
    rintro camp all merged rfl
    cases ht
  · cases ht with
    | found => exact nodup_hands_drop _ (split ▸ hi.distinct) rfl
    | ingest => exact nodup_hands_take (split ▸ hi.distinct) rfl (split ▸ (hfree _ _ rfl).2 rfl)
    | failed text => exact nodup_hands_take (split ▸ hi.distinct) rfl (split ▸ (hfree _ _ rfl).2 rfl)
  · simpa [afterTurn, hc.1, hc'.1] using hsent
  · simpa [afterTurn, hc.2, hc'.2] using hfailed
  · rintro v rfl
    cases hq
  · rintro v rfl
    cases hq

theorem exec_add (st : Store) (all : List CampaignRecipientRecord) (ha : a.err = none) :
    (st.exec a (.addRecipients all)).rows = insertRows st.rows all ∧
      (st.exec a (.addRecipients all)).camp.sentRecipients = st.camp.sentRecipients ∧
      (st.exec a (.addRecipients all)).camp.failedRecipients = st.camp.failedRecipients ∧
      ((st.exec a (.addRecipients all)).camp.totalRecipients = (insertRows st.rows all).length ∨
        st.exec a (.addRecipients all) = st) := by
  by_cases hnil : all = []
  · subst hnil
    have hst : st.exec a (.addRecipients []) = st := by simp [Store.exec, ha]
    rw [hst]
    exact ⟨rfl, rfl, rfl, Or.inr rfl⟩
  · simp [Store.exec, ha, hnil]

theorem inv_add {camp : L2.Campaign} {all : List CampaignRecipientRecord} {merged : List CampaignRecipient}
    {p' : Point} (hi : Inv s) (split : s.threads = before ++ (id, .taskAdd camp all merged) :: after)
    (hn : Point.next e s.store a (.taskAdd camp all merged) = .goto p') (ha : a.err = none) :
    Inv (afterTurn e s before after id (.taskAdd camp all merged) a) := by
  have hq' : quiet p' = true ∧ ∀ camp all merged, p' ≠ .taskAdd camp all merged := by
    simp only [Point.next, ha] at hn
    split at hn <;> (cases hn; exact ⟨rfl, by simp⟩)
  have hth : (afterTurn e s before after id (.taskAdd camp all merged) a).threads =
      before ++ [(id, p')] ++ after := by
    simp [afterTurn, hn, Next.threads]
  obtain ⟨hrows, hsent, hfailed, htotal⟩ := exec_add s.store all ha
  have hall : ∀ r ∈ all, Unsent r :=
    (hi.relies (id, .taskAdd camp all merged) (by rw [split]; simp)).records camp all merged rfl
  have hcount : ∀ st, st = .sent ∨ st = .failed →
      (insertRows s.store.rows all).countP (hasStatus st) = s.store.rows.countP (hasStatus st) := by
    intro st hst
    apply countP_insertRows
    intro r hr
    rcases hall r hr with h | h <;> rcases hst with rfl | rfl <;> simp [hasStatus, h]
  have hkeep : ∀ to_ st, RowIs s.store.rows to_ st → RowIs (insertRows s.store.rows all) to_ st := by
    intro to_ st hr
    obtain ⟨new, hnew⟩ := insertRows_prefix s.store.rows all
    rw [hnew]
    exact hr.append new
  have hc' := quiet_counts id hq'.1
  have hc : uncounted (id, .taskAdd camp all merged) = false ∧ unwritten (id, .taskAdd camp all merged) = false :=
    quiet_counts id rfl
  have hcs := countP_swapped uncounted before after [(id, p')] (id, .taskAdd camp all merged)
  have hcf := countP_swapped unwritten before after [(id, p')] (id, .taskAdd camp all merged)
  simp only [List.countP_singleton, hc, hc', Bool.false_eq_true, if_false, Nat.add_zero] at hcs hcf
  have h1 := hi.sent
  have h2 := hi.failed
  rw [split] at h1 h2
  refine hi.move_rows split hth ?_ ?_ ?_ ?_ ?_ ?_ ?_ (ingestedBy_turn (by simp)) (by simp)
  · intro t _ to_ st _ hr
    simp only [afterTurn, Point.cmd, hrows]
    exact hkeep to_ st hr
  · intro to_ st hne hr
    simp only [afterTurn, Point.cmd, hrows]
    exact ⟨st, hne, hkeep to_ st hr⟩
  · intro t ht
    cases List.mem_singleton.mp ht
    refine ⟨fun to_ st hr => ?_, fun camp all merged h => absurd h (hq'.2 camp all merged)⟩
    rw [quiet_relied hq'.1] at hr
    cases hr
  · exact nodup_hands_drop _ (split ▸ hi.distinct) (quiet_hands hq'.1)
  · simp only [afterTurn, Point.cmd, hrows, hsent, hcount .sent (Or.inl rfl), hcs]
    exact h1
  · simp only [afterTurn, Point.cmd, hrows, hfailed, hcount .failed (Or.inr rfl), hcf]
    exact h2
  · simp only [afterTurn, Point.cmd]
    rcases htotal with h | h
    · exact Or.inl (by rw [h, hrows])
    · rw [h]
      exact hi.total

theorem advanced (e : Engine) (s : St) (before after : List (Nat × Point)) (id : Nat) (a : Answer) {p : Point}
    {v : BatchVars} (hn : p.next e s.store a = nextRecipient v) :
    ∃ p', (afterTurn e s before after id p a).threads = before ++ [(id, p')] ++ after ∧ quiet p' = true ∧
      ∀ rows, Relies rows p' := by
  obtain ⟨p', hp', hadv⟩ := advances_nextRecipient v
  have hq := advances_quiet hadv
  refine ⟨p', by simp [afterTurn, hn, hp', Next.threads], hq, fun rows => ⟨fun to_ st hr => ?_, ?_⟩⟩
  · rw [quiet_relied hq] at hr
    cases hr
  · rintro camp all merged rfl
    rcases hadv with _ | ⟨_, ends⟩
    cases ends

theorem inv_markSent {v : BatchVars} (hi : Inv s) (split : s.threads = before ++ (id, .batchMarkSent v) :: after) :
    Inv (afterTurn e s before after id (.batchMarkSent v) a) := by
  have hrow : RowIs s.store.rows v.recipient.to_ .sent :=
    (hi.relies (id, .batchMarkSent v) (by rw [split]; simp)).row _ _ rfl
  obtain ⟨p', hth, hq, hrel⟩ := advanced e s before after id a (p := .batchMarkSent v) (v := v) rfl
  have hc := quiet_counts id hq
  have hdist : (hands (before ++ [(id, p')] ++ after)).Nodup :=
    nodup_hands_drop _ (split ▸ hi.distinct) (quiet_hands hq)
  cases ha : a.err with
  | some err =>
    have hst : (afterTurn e s before after id (.batchMarkSent v) a).store = s.store := by
      simp [afterTurn, Point.cmd, Store.exec, ha]
    refine hi.keep_rows split hth (by rw [hst]) (by rw [hst]) ?_ hdist ?_ ?_
      (Or.inl ⟨ingestedBy_turn (by simp), by simp⟩)
    · intro t ht
      cases List.mem_singleton.mp ht
      exact hrel _
    · rw [hst]
      simp only [List.countP_singleton, hc.1]
      rfl
    · rw [hst]
      simp only [List.countP_singleton, hc.2]
      rfl
  | none =>
    have hrows : (afterTurn e s before after id (.batchMarkSent v) a).store.rows =
        setRowStatus v.recipient.to_ .sent none s.store.rows := by
      simp [afterTurn, Point.cmd, Store.exec, ha]
    have hcamp : (afterTurn e s before after id (.batchMarkSent v) a).store.camp = s.store.camp := by
      simp [afterTurn, Point.cmd, Store.exec, ha]
    have hcs := countP_swapped uncounted before after [(id, p')] (id, .batchMarkSent v)
    have hcf := countP_swapped unwritten before after [(id, p')] (id, .batchMarkSent v)
    have hc0 : uncounted (id, .batchMarkSent v) = false ∧ unwritten (id, .batchMarkSent v) = false := ⟨rfl, rfl⟩
    simp only [List.countP_singleton, hc, hc0, Bool.false_eq_true, if_false, Nat.add_zero] at hcs hcf
    have h1 := hi.sent
    have h2 := hi.failed
    rw [split] at h1 h2
    -- a row that is sent stays sent, the others are not written
    have hkeep : ∀ to_ st, RowIs s.store.rows to_ st →
        RowIs (setRowStatus v.recipient.to_ .sent none s.store.rows) to_ st := by
      intro to_ st hr
      by_cases heq : to_ = v.recipient.to_
      · subst heq
        rw [hr.unique hrow]
        exact hrow.setRowStatus_self .sent none
      · exact hr.setRowStatus_ne heq _ _
    refine hi.move_rows split hth ?_ ?_ ?_ hdist ?_ ?_ ?_ (ingestedBy_turn (by simp)) (by simp)
    · intro t _ to_ st _ hr
      rw [hrows]
      exact hkeep to_ st hr
    · intro to_ st hne hr
      rw [hrows]
      exact ⟨st, hne, hkeep to_ st hr⟩
    · intro t ht
      cases List.mem_singleton.mp ht
      exact hrel _
    · rw [hrows, hcamp, countP_setRowStatus_same hrow, hcs]
      exact h1
    · rw [hrows, hcamp, countP_setRowStatus_same hrow, hcf]
      exact h2
    · rw [hrows, hcamp]
      rcases hi.total with h | ⟨h, h0⟩
      · exact Or.inl (by rw [h, length_setRowStatus])
      · exact Or.inr ⟨by rw [h]; rfl, h0⟩

/-- `Ingest`: it refuses the recipient, or its row is to be written. -/
theorem inv_ingest {v : BatchVars} (hi : Inv s) (split : s.threads = before ++ (id, .batchIngest v) :: after) :
    Inv (afterTurn e s before after id (.batchIngest v) a) := by
  have hrow : RowIs s.store.rows v.recipient.to_ .pending :=
    (hi.relies (id, .batchIngest v) (by rw [split]; simp)).row _ _ rfl
  have hst : (afterTurn e s before after id (.batchIngest v) a).store = s.store := by
    simp [afterTurn, Point.cmd, Store.exec]
  have hdist : (hands (before ++ (id, .batchIngest v) :: after)).Nodup := split ▸ hi.distinct
  have hrel : ∀ p', relied p' = some (v.recipient.to_, .pending) →
      (∀ camp all merged, p' ≠ .taskAdd camp all merged) → ∀ t ∈ [(id, p')], Relies s.store.rows t.2 := by
    intro p' hp' hadd t ht
    cases List.mem_singleton.mp ht
    refine ⟨fun to_ st hr => ?_, fun camp all merged h => absurd h (hadd camp all merged)⟩
    simp only [hp', Option.some.injEq, Prod.mk.injEq] at hr
    rw [← hr.1, ← hr.2]
    exact hrow
  cases ha : a.err with
  | some err =>
    have hth : (afterTurn e s before after id (.batchIngest v) a).threads =
        before ++ [(id, .batchCountFailed v err.text)] ++ after := by
      simp [afterTurn, Point.next, ha, Next.threads]
    have hlog : ingestedBy (afterTurn e s before after id (.batchIngest v) a).log = ingestedBy s.log := by
      simp only [afterTurn, ingestedBy_append, ingestedBy_events, List.append_nil]
      simp [Point.cmd, callEvents, ha, ingestedBy]
    exact hi.keep_rows split hth (by rw [hst]) (by rw [hst]) (hrel _ rfl (by simp))
      (nodup_hands_keep hdist rfl) (by rw [hst]; rfl) (by rw [hst]; rfl)
      (Or.inl ⟨hlog, by simp⟩)
  | none =>
    have hth : (afterTurn e s before after id (.batchIngest v) a).threads =
        before ++ [(id, .batchRowSent v)] ++ after := by
      simp [afterTurn, Point.next, ha, Next.threads]
    have hlog : ingestedBy (afterTurn e s before after id (.batchIngest v) a).log =
        ingestedBy s.log ++ [v.recipient.to_] := by
      simp only [afterTurn, ingestedBy_append, ingestedBy_events, List.append_nil]
      simp [Point.cmd, callEvents, ha, ingestedBy, ingestedTo]
    exact hi.keep_rows split hth (by rw [hst]) (by rw [hst]) (hrel _ rfl (by simp))
      (nodup_hands_keep hdist rfl) (by rw [hst]; rfl) (by rw [hst]; rfl)
      (Or.inr ⟨v, rfl, rfl, hlog⟩)

theorem inv_rowSent {v : BatchVars} (hi : Inv s) (split : s.threads = before ++ (id, .batchRowSent v) :: after)
    (ha : a.err = none) : Inv (afterTurn e s before after id (.batchRowSent v) a) := by
  have hth : (afterTurn e s before after id (.batchRowSent v) a).threads =
      before ++ [(id, .batchCountSent v)] ++ after := by
    simp [afterTurn, Point.next, Next.threads]
  refine hi.write_row .sent none split hth rfl (by decide) ?_ ?_ ?_ rfl rfl rfl
    (ingestedBy_turn (by simp))
  · simp [afterTurn, Point.cmd, Store.exec, ha]
  · simp [afterTurn, Point.cmd, Store.exec, ha]
  · intro t ht
    cases List.mem_singleton.mp ht
    exact ⟨fun to_ st hr => by simp [relied, inHand] at hr, by simp⟩

theorem inv_rowFailed {v : BatchVars} {err : String} (hi : Inv s)
    (split : s.threads = before ++ (id, .batchRowFailed v err) :: after) (ha : a.err = none) :
    Inv (afterTurn e s before after id (.batchRowFailed v err) a) := by
  obtain ⟨p', hth, hq, hrel⟩ := advanced e s before after id a (p := .batchRowFailed v err) (v := v) rfl
  have hc := quiet_counts id hq
  refine hi.write_row .failed (some err) split hth rfl (by decide) ?_ ?_ ?_ (quiet_hands hq) ?_ ?_
    (ingestedBy_turn (by simp))
  · simp [afterTurn, Point.cmd, Store.exec, ha]
  · simp [afterTurn, Point.cmd, Store.exec, ha]
  · intro t ht
    cases List.mem_singleton.mp ht
    exact hrel _
  · simp only [List.countP_singleton, hc.1]
    rfl
  · simp only [List.countP_singleton, hc.2]
    rfl

theorem inv_countSent {v : BatchVars} (hi : Inv s) (split : s.threads = before ++ (id, .batchCountSent v) :: after)
    (ha : a.err = none) : Inv (afterTurn e s before after id (.batchCountSent v) a) := by
  obtain ⟨p', hth, hq, hrel⟩ := advanced e s before after id a (p := .batchCountSent v) (v := v) rfl
  have hc := quiet_counts id hq
  have hcamp : (afterTurn e s before after id (.batchCountSent v) a).store.camp =
      { s.store.camp with sentRecipients := s.store.camp.sentRecipients + 1 } := by
    simp [afterTurn, Point.cmd, Store.exec, ha]
  refine hi.keep_rows split hth ?_ (by rw [hcamp]) ?_ (nodup_hands_drop _ (split ▸ hi.distinct) (quiet_hands hq)) ?_ ?_
    (Or.inl ⟨ingestedBy_turn (by simp), by simp⟩)
  · simp [afterTurn, Point.cmd, Store.exec, ha]
  · intro t ht
    cases List.mem_singleton.mp ht
    exact hrel _
  · have hone : uncounted (id, .batchCountSent v) = true := rfl
    simp [hcamp, hc.1, hone]
  · rw [hcamp]
    simp only [List.countP_singleton, hc.2]
    rfl

theorem inv_countFailed {v : BatchVars} {err : String} (hi : Inv s)
    (split : s.threads = before ++ (id, .batchCountFailed v err) :: after) (ha : a.err = none) :
    Inv (afterTurn e s before after id (.batchCountFailed v err) a) := by
  have hth : (afterTurn e s before after id (.batchCountFailed v err) a).threads =
      before ++ [(id, .batchRowFailed v err)] ++ after := by
    simp [afterTurn, Point.next, Next.threads]
  have hcamp : (afterTurn e s before after id (.batchCountFailed v err) a).store.camp =
      { s.store.camp with failedRecipients := s.store.camp.failedRecipients + 1 } := by
    simp [afterTurn, Point.cmd, Store.exec, ha]
  have hdist : (hands (before ++ (id, .batchCountFailed v err) :: after)).Nodup := split ▸ hi.distinct
  refine hi.keep_rows split hth ?_ (by rw [hcamp]) ?_ (nodup_hands_keep hdist rfl) ?_ ?_
    (Or.inl ⟨ingestedBy_turn (by simp), by simp⟩)
  · simp [afterTurn, Point.cmd, Store.exec, ha]
  · intro t ht
    cases List.mem_singleton.mp ht
    refine ⟨fun to_ st hr => ?_, by simp⟩
    exact (hi.relies (id, .batchCountFailed v err) (by rw [split]; simp)).row to_ st hr
  · rw [hcamp]
    rfl
  · have hzero : unwritten (id, .batchCountFailed v err) = false := rfl
    have hone : unwritten (id, .batchRowFailed v err) = true := rfl
    simp [hcamp, hzero, hone]

theorem inv_turn (hi : Inv s) (split : s.threads = before ++ (id, p) :: after) (ho : orderlyAt e s a p = true) :
    Inv (afterTurn e s before after id p a) := by
  have hl := next_leads e s.store a p
  cases hq : quiet p with
  | true =>
    cases hn : p.next e s.store a with
    | ret err =>
      rw [hn] at hl
      exact inv_quiet [] hi split (by rw [hn]; rfl) hq (by simp) (Or.inl rfl) (returns_add hl) (by simp)
    | goto p' =>
      rw [hn] at hl
      cases hq' : quiet p' with
      | false =>
        obtain ⟨⟨v, ht⟩, hadd⟩ := goto_takes hl hq hq'
        exact inv_take hi split hn hq ht hadd ho
      | true =>
        by_cases hadd : ∃ camp all merged, p = .taskAdd camp all merged ∧ a.err = none
        · obtain ⟨camp, all, merged, rfl, ha⟩ := hadd
          exact inv_add hi split hn ha
        · refine inv_quiet [(id, p')] hi split (by rw [hn]; rfl) hq ?_ (Or.inr ⟨p', rfl⟩) ?_ ?_
          · intro t ht
            cases List.mem_singleton.mp ht
            exact hq'
          · intro camp all merged hp
            cases ha : a.err with
            | none => exact absurd ⟨camp, all, merged, hp, ha⟩ hadd
            | some err => rfl
          · intro t ht
            cases List.mem_singleton.mp ht
            exact goto_records hl
  | false =>
    have hrec := orderly_recording ho
    cases p with
    | batchMarkSent v => exact inv_markSent hi split
    | batchIngest v => exact inv_ingest hi split
    | batchRowSent v => exact inv_rowSent hi split (hrec rfl)
    | batchCountSent v => exact inv_countSent hi split (hrec rfl)
    | batchCountFailed v err => exact inv_countFailed hi split (hrec rfl)
    | batchRowFailed v err => exact inv_rowFailed hi split (hrec rfl)
    | _ => cases hq

end Turn

/-! ## Runs -/

theorem Inv.spawn {s s' : St} {id : Nat} {p : Point} (hi : Inv s) (hq : quiet p = true)
    (hadd : ∀ camp all merged, p ≠ .taskAdd camp all merged) (hth : s'.threads = s.threads ++ [(id, p)])
    (hrows : s'.store.rows = s.store.rows) (hcamp : s'.store.camp = s.store.camp) (hlog : s'.log = s.log) :
    Inv s' := by
  have hc := quiet_counts id hq
  refine ⟨?_, ?_, ?_, ?_, by rw [hrows, hcamp]; exact hi.total, by rw [hlog]; exact hi.once, ?_⟩
  · rw [hth, hrows]
    intro t ht
    rcases List.mem_append.mp ht with ht | ht
    · exact hi.relies t ht
    · cases List.mem_singleton.mp ht
      refine ⟨fun to_ st hr => ?_, fun camp all merged h => absurd h (hadd camp all merged)⟩
      rw [quiet_relied hq] at hr
      cases hr
  · rw [hth, hands_append, quiet_hands hq, List.append_nil]
    exact hi.distinct
  · rw [hth, hrows, hcamp, List.countP_append, List.countP_singleton, hc.1]
    exact hi.sent
  · rw [hth, hrows, hcamp, List.countP_append, List.countP_singleton, hc.2]
    exact hi.failed
  · rw [hlog, hrows]
    intro to_ hto
    rcases hi.ingested to_ hto with h | ⟨t, ht, h⟩
    · exact Or.inl h
    · exact Or.inr ⟨t, by rw [hth]; exact List.mem_append_left _ ht, h⟩

theorem Inv.die {s s' : St} {before after : List (Nat × Point)} {id : Nat} {p : Point} (hi : Inv s)
    (split : s.threads = before ++ (id, p) :: after) (hp : halfRecorded p = false)
    (hth : s'.threads = before ++ after) (hrows : s'.store.rows = s.store.rows)
    (hcamp : s'.store.camp = s.store.camp) (hlog : s'.log = s.log) : Inv s' := by
  have hdist := nodup_hands_drop [] (split ▸ hi.distinct) rfl
  have hcount : uncounted (id, p) = false ∧ unwritten (id, p) = false := by
    cases p <;> first | exact ⟨rfl, rfl⟩ | cases hp
  have hth' : s'.threads = before ++ [] ++ after := by rw [List.append_nil]; exact hth
  refine hi.keep_rows split hth' hrows (by rw [hcamp]) (by simp) hdist ?_ ?_
    (Or.inl ⟨by rw [hlog], ?_⟩)
  · simp [hcamp, hcount.1]
  · simp [hcamp, hcount.2]
  · rintro v rfl
    cases hp

theorem inv_step {e : Engine} {s s' : St} {l : Label} (hi : Inv s) (ho : Orderly e s l)
    (h : step e s l = some s') : Inv s' := by
  cases step_cases e h with
  | call entry =>
    have hentry : quiet entry.point = true ∧ ∀ camp all merged, entry.point ≠ .taskAdd camp all merged := by
      cases entry <;> exact ⟨rfl, by simp [Entry.point]⟩
    exact hi.spawn hentry.1 hentry.2 rfl rfl rfl rfl
  | @deliver i t at_ =>
    have htask : quiet t.point = true ∧ ∀ camp all merged, t.point ≠ .taskAdd camp all merged := by
      cases t <;> exact ⟨rfl, by simp [Task.point]⟩
    exact hi.spawn htask.1 htask.2 rfl rfl rfl rfl
  | turn at_ split => exact inv_turn hi split (St.of_allAt ho at_)
  | redeliver mem task => exact ⟨hi.relies, hi.distinct, hi.sent, hi.failed, hi.total, hi.once, hi.ingested⟩
  | crash at_ split task =>
    have hp := St.of_allAt ho at_
    exact hi.die split (by simpa using hp) rfl rfl rfl rfl

/-- Recipients in hand and recorded ones are different rows. -/
theorem Inv.bounded {s : St} (hi : Inv s) :
    s.store.camp.sentRecipients + s.store.camp.failedRecipients ≤ s.store.camp.totalRecipients := by
  -- a counted failure that is not written is in hand, and its row is pending
  have hle : s.threads.countP unwritten ≤ (hands s.threads).length := by
    have hmap : ∀ threads : List (Nat × Point), threads.countP unwritten ≤ (hands threads).length := by
      intro threads
      induction threads with
      | nil => exact Nat.le_refl 0
      | cons t threads ih =>
        rw [hands_cons, List.countP_cons, List.length_append]
        have ht : (if unwritten t = true then 1 else 0) ≤ (inHand t.2).toList.length := by
          obtain ⟨i, p⟩ := t
          cases p <;> simp [unwritten, inHand]
        omega
    exact hmap s.threads
  have hpending : (hands s.threads).length ≤ s.store.rows.countP (hasStatus .pending) := by
    have hsub : hands s.threads ⊆ (s.store.rows.filter (hasStatus .pending)).map (·.phone) := by
      intro to_ hto
      obtain ⟨t, ht, hin⟩ := mem_hands.mp hto
      obtain ⟨r, hr, hph, hst⟩ := (hi.relies t ht).row _ _ (relied_of_inHand hin)
      exact List.mem_map.mpr ⟨r, List.mem_filter.mpr ⟨hr, by simp [hasStatus, hst]⟩, hph⟩
    have hlen := (List.subperm_of_subset hi.distinct hsub).length_le
    rwa [List.length_map, ← List.countP_eq_length_filter] at hlen
  have hrows : ∀ rows : List CampaignRecipientRecord, rows.countP (hasStatus .sent) +
      rows.countP (hasStatus .failed) + rows.countP (hasStatus .pending) ≤ rows.length := by
    intro rows
    induction rows with
    | nil => exact Nat.le_refl 0
    | cons r rows ih =>
      simp only [List.countP_cons, List.length_cons]
      cases hst : r.status <;> simp [hasStatus, hst] <;> omega
  have hall := hrows s.store.rows
  have hsent := hi.sent
  have hfailed := hi.failed
  rcases hi.total with ht | ⟨hnil, h0⟩
  · omega
  · have hz : s.store.rows.length = 0 := by rw [hnil]; rfl
    omega

variable (e : Engine) (c : Created)

theorem inv_inductive : ((lts e c).restrict (Orderly e)).Inductive Inv :=
  LTS.Inductive.of_restrict
    (by
      rintro s rfl
      refine ⟨by simp [Created.init], List.nodup_nil, ?_, ?_, ?_, List.nodup_nil, by simp [Created.init, ingestedBy]⟩
      · simp [Created.init, c.sent]
      · simp [Created.init, c.failed]
      · right
        exact ⟨rfl, by simp [Created.init, c.total]⟩)
    (fun _ _ _ hi ho h => inv_step hi ho h)

/-- No operation is between the two writes of a recipient. -/
def settled (s : St) : Bool := s.threads.all fun t => !uncounted t && !unwritten t

variable {e c}

/-- `Start`, and the start task to its return: one batch is in the queue. -/
def startedRun : List Label :=
  [.call (.start true), .turn 0 .ok, .turn 0 .ok, .turn 0 .ok,
    .deliver 0, .turn 0 .ok, .turn 0 .ok, .turn 0 .ok, .turn 0 .ok, .turn 0 .ok]

end PerGo.L4.CampaignCounters
