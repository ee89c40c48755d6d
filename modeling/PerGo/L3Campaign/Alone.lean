import PerGo.L3Campaign.System

/-!
# An operation that runs by itself

`alone e s p answers` makes the calls of an operation from the point `p` until it returns,
with nothing else on the campaign in between. `alone_run`: it is a run of the system in
which only this operation takes its turns.

* `resume_alone`: `Resume` leaves the store as it was, or has written `sending` and goes on to
  the pending recipients (`resumeList_alone`) and the loop over their batches
  (`resumePublish_alone`).
* `start_alone`, `triggerDue_alone`: all the ways the other two can go.
-/
namespace PerGo.L3.Campaign

open PerGo.Core PerGo.L1 PerGo.L2

/-- The calls an operation made with their answers, what it left and what it returned. -/
structure Outcome where
  calls : List (Point × Answer)
  store : Store
  err : Option String

/-- One answer for each call; `none` when there are too few or too many. -/
def alone (e : Engine) (s : Store) (p : Point) : List Answer → Option Outcome
  | [] => none
  | a :: rest => match p.next e s a with
    | .ret err => if rest.isEmpty then some ⟨[(p, a)], s.exec a (p.cmd s.camp.id), err⟩ else none
    | .goto p' => (alone e (s.exec a (p.cmd s.camp.id)) p' rest).map fun o => { o with calls := (p, a) :: o.calls }

section Runs

variable {e : Engine} {s : Store} {p : Point} {answers : List Answer} {o : Outcome}

inductive AloneCases (e : Engine) (s : Store) (p : Point) (a : Answer) (rest : List Answer) (o : Outcome) : Prop
  | ret (returns : Returns s a p o.err) (next : p.next e s a = .ret o.err) (last : rest = [])
      (calls : o.calls = [(p, a)]) (store : o.store = s.exec a (p.cmd s.camp.id))
  | goto {p' : Point} {o' : Outcome} (leads : Goto e s a p p') (next : p.next e s a = .goto p')
      (more : alone e (s.exec a (p.cmd s.camp.id)) p' rest = some o') (calls : o.calls = (p, a) :: o'.calls)
      (store : o.store = o'.store) (err : o.err = o'.err)

theorem alone_cases (h : alone e s p answers = some o) :
    ∃ a rest, answers = a :: rest ∧ AloneCases e s p a rest o := by
  cases answers with
  | nil => cases h
  | cons a rest =>
    refine ⟨a, rest, rfl, ?_⟩
    have hleads := next_leads e s a p
    rw [alone] at h
    cases hnext : p.next e s a with
    | ret err =>
      rw [hnext] at h hleads
      simp only at h
      split at h
      · rename_i hempty
        cases h
        exact .ret hleads hnext (List.isEmpty_iff.mp hempty) rfl rfl
      · cases h
    | goto p' =>
      rw [hnext] at h hleads
      simp only [Option.map_eq_some_iff] at h
      obtain ⟨o', ho', rfl⟩ := h
      exact .goto hleads hnext ho' rfl rfl rfl

end Runs

/-! ## It is a run of the system -/

theorem step_turn {e : Engine} {s : St} {before after : List (Nat × Point)} {id : Nat} {p : Point}
    (h : s.threads = before ++ (id, p) :: after) (a : Answer) :
    step e s (.turn before.length a) = some (afterTurn e s before after id p a) := by
  have hat : s.threads[before.length]? = some (id, p) := by
    rw [h]
    simp
  have hbefore : s.threads.take before.length = before := by
    rw [h]
    simp
  have hafter : s.threads.drop (before.length + 1) = after := by
    rw [h, ← List.drop_drop]
    simp
  simp only [step, hat, hbefore, hafter]

theorem alone_run {e : Engine} {c : Created} {o : Outcome} {answers : List Answer} {p : Point} {s : St}
    {before after : List (Nat × Point)} {id : Nat} (h : alone e s.store p answers = some o)
    (hsplit : s.threads = before ++ (id, p) :: after) :
    ∃ s', (lts e c).Run s (answers.map (Label.turn before.length)) s' ∧ s'.store = o.store ∧
      s'.threads = before ++ after := by
  induction answers generalizing s p o with
  | nil => cases h
  | cons a rest ih =>
    have hstep : (lts e c).step s (.turn before.length a) (afterTurn e s before after id p a) := step_turn hsplit a
    obtain ⟨a', rest', hcons, hcase⟩ := alone_cases h
    obtain ⟨rfl, rfl⟩ := List.cons.inj hcons
    cases hcase with
    | ret returns next last calls store =>
      subst last
      refine ⟨_, .cons hstep (.nil _), store.symm, ?_⟩
      simp [afterTurn, next, Next.threads]
    | goto leads next more calls store err =>
      rename_i p' o'
      have hthreads : (afterTurn e s before after id p a).threads = before ++ (id, p') :: after := by
        simp [afterTurn, next, Next.threads]
      obtain ⟨s', hrun, hstore, hrest⟩ := ih more hthreads
      exact ⟨s', .cons hstep hrun, hstore.trans store.symm, hrest⟩

/-! ## `Resume` -/

def Cmd.batch : Cmd → Option (List CampaignRecipient)
  | .publish (.batch recipients _) _ => some recipients
  | _ => none

def Outcome.published (o : Outcome) (id : UUID) : List (List CampaignRecipient) :=
  o.calls.filterMap fun t => (t.1.cmd id).batch

theorem Store.exec_publish (s : Store) (a : Answer) (task : Task) (msgID : String) :
    (s.exec a (.publish task msgID)).camp = s.camp ∧ (s.exec a (.publish task msgID)).rows = s.rows ∧
      (s.exec a (.publish task msgID)).queue = s.queue ++ if s.enqueues msgID a then [task] else [] := by
  simp only [Store.exec]
  split
  · exact ⟨rfl, rfl, rfl⟩
  · exact ⟨rfl, rfl, (List.append_nil _).symm⟩

theorem Store.exec_failed (s : Store) {a : Answer} {cmd : Cmd} {err : GoError} (h : a.err = some err)
    (hcmd : ∀ task msgID, cmd ≠ .publish task msgID) : s.exec a cmd = s := by
  cases cmd with
  | publish task msgID => exact absurd rfl (hcmd task msgID)
  | _ => simp [Store.exec, h]

section Resume

variable {e : Engine} {s : Store} {answers : List Answer} {o : Outcome} {camp : L2.Campaign}

def startsAt : Point → Bool
  | .startPublish _ | .triggerPublish => true
  | _ => false

/-- A call of `Resume` after its status write fails. -/
def lateFailure (t : Point × Answer) : Bool :=
  match t.1 with
  | .resumeList _ | .resumeComplete | .resumePublish .. => t.2.err.isSome
  | _ => false

theorem resumePublish_alone {cycle : Int} {rest : Batches} (id : UUID) :
    ∀ {s : Store} {answers : List Answer} {o : Outcome} {idx : Nat} {batch : List CampaignRecipient},
      alone e s (.resumePublish camp cycle idx batch rest) answers = some o →
      o.store.camp = s.camp ∧ (o.err = none → o.published id = batch :: rest.map (·.2)) ∧
        (o.err ≠ none → ∃ t ∈ o.calls, lateFailure t) := by
  induction rest with
  | nil =>
    intro s answers o idx batch h
    obtain ⟨a, more, -, hcase⟩ := alone_cases h
    cases hcase with
    | ret returns next last calls store =>
      refine ⟨?_, ?_, ?_⟩
      · rw [store]
        exact (s.exec_publish a _ _).1
      · intro _
        rw [Outcome.published, calls]
        rfl
      · intro herr
        rw [calls]
        cases ha : a.err with
        | none => simp [Point.next, ha, publishNext] at next; exact absurd next.symm herr
        | some err => exact ⟨_, List.mem_singleton_self _, by simp [lateFailure, ha]⟩
    | goto leads next more calls store err => cases leads
  | cons b rest ih =>
    intro s answers o idx batch h
    obtain ⟨a, more, -, hcase⟩ := alone_cases h
    cases hcase with
    | ret returns next last calls store =>
      cases ha : a.err with
      | none => simp [Point.next, ha, publishNext] at next
      | some err =>
        have herr : o.err ≠ none := by
          intro hnone
          simp [Point.next, ha, hnone] at next
        refine ⟨?_, fun hnone => absurd hnone herr, fun _ => ?_⟩
        · rw [store]
          exact (s.exec_publish a _ _).1
        · rw [calls]
          exact ⟨_, List.mem_singleton_self _, by simp [lateFailure, ha]⟩
    | goto leads next more calls store err =>
      cases leads with
      | resumePublish ok =>
        obtain ⟨hcamp, hpub, hlate⟩ := ih more
        refine ⟨?_, ?_, ?_⟩
        · rw [store, hcamp]
          exact (s.exec_publish a _ _).1
        · intro hnone
          have hrest := hpub (err ▸ hnone)
          rw [Outcome.published] at hrest ⊢
          rw [calls, List.filterMap_cons, hrest]
          rfl
        · intro herr
          obtain ⟨t, ht, hfail⟩ := hlate (err ▸ herr)
          rw [calls]
          exact ⟨t, List.mem_cons_of_mem _ ht, hfail⟩

theorem numbered_snd (bs : List (List CampaignRecipient)) : (numbered bs).map (·.2) = bs := by
  apply List.ext_getElem
  · simp [numbered]
  · intro i _ _
    simp [numbered]

theorem resumeList_alone (id : UUID) (h : alone e s (.resumeList camp) answers = some o) :
    (o.err = none → o.published id = batches camp.batchSize (resumeRecipients camp (pendingRecipients s.rows)) ∧
      (resumeRecipients camp (pendingRecipients s.rows) = [] → o.store.camp.status = .completed)) ∧
    (o.err ≠ none → o.store.camp.status = s.camp.status ∧ ∃ t ∈ o.calls, lateFailure t) := by
  obtain ⟨a, more, -, hcase⟩ := alone_cases h
  have hsame : s.exec a .listPendingRecipients = s := by
    simp [Store.exec]
  cases hcase with
  | ret returns next last calls store =>
    cases ha : a.err with
    | none =>
      exfalso
      generalize o.err = err at returns
      cases returns with
      | failed failed _ _ => simp [ha] at failed
      | refused _ _ at_ => simp at at_
    | some err =>
      have herr : o.err ≠ none := by
        intro hnone
        simp [Point.next, ha, hnone] at next
      refine ⟨fun hnone => absurd hnone herr, fun _ => ⟨?_, ?_⟩⟩
      · rw [store]
        exact congrArg (·.camp.status) hsame
      · rw [calls]
        exact ⟨_, List.mem_singleton_self _, by simp [lateFailure, ha]⟩
  | goto leads next more calls store err =>
    cases leads with
    | resumeNone ok none_ =>
      obtain ⟨b, more', -, hlast⟩ := alone_cases more
      cases hlast with
      | goto leads _ _ _ _ _ => cases leads
      | ret returns next' last calls' store' =>
        rename_i o'
        have hcalls : o.calls = [(.resumeList camp, a), (.resumeComplete, b)] := by rw [calls, calls']
        cases hb : b.err with
        | none =>
          refine ⟨fun _ => ⟨?_, fun _ => ?_⟩, fun herr => ?_⟩
          · rw [none_, Outcome.published, hcalls]
            rfl
          · rw [store, store']
            simp [Point.cmd, Store.exec, hb, Store.setStatus]
          · rw [err] at herr
            simp [Point.next, hb] at next'
            exact absurd next'.symm herr
        | some e' =>
          have herr : o.err ≠ none := by
            intro hnone
            rw [err] at hnone
            simp [Point.next, hb, hnone] at next'
          refine ⟨fun hnone => absurd hnone herr, fun _ => ⟨?_, ?_⟩⟩
          · rw [store, store']
            have hkept : (s.exec a .listPendingRecipients).exec b (.updateStatus .completed) = s := by
              rw [hsame, Store.exec_failed s hb (by simp)]
            exact congrArg (·.camp.status) hkept
          · rw [hcalls]
            exact ⟨(.resumeComplete, b), by simp, by simp [lateFailure, hb]⟩
    | resumeFirst ok some_ =>
      have hne : resumeRecipients camp (pendingRecipients s.rows) ≠ [] := by
        intro hnil
        rw [hnil] at some_
        cases some_
      obtain ⟨hcamp, hpub, hlate⟩ := resumePublish_alone id more
      refine ⟨fun hnone => ⟨?_, fun hnil => absurd hnil hne⟩, fun herr => ⟨?_, ?_⟩⟩
      · have hrest := hpub (err ▸ hnone)
        have hall := congrArg (List.map (·.2)) some_
        rw [numbered_snd, List.map_cons] at hall
        rw [Outcome.published] at hrest ⊢
        rw [calls, hall, ← hrest]
        rfl
      · rw [store, hcamp]
        exact congrArg (·.camp.status) hsame
      · obtain ⟨t, ht, hfail⟩ := hlate (err ▸ herr)
        rw [calls]
        exact ⟨t, List.mem_cons_of_mem _ ht, hfail⟩

theorem resume_alone {m : Bool} (h : alone e s (.resumeRead m) answers = some o) :
    (o.err ≠ none ∧ o.store = s ∧ ∀ t ∈ o.calls, startsAt t.1 = false ∧ lateFailure t = false) ∨
      ∃ a b rest o', s.camp.status = .paused ∧
        alone e (s.setStatus .sending) (.resumeList s.camp) rest = some o' ∧
        o.calls = (.resumeRead m, a) :: (.resumeWrite s.camp, b) :: o'.calls ∧ o.store = o'.store ∧ o.err = o'.err := by
  obtain ⟨a, more, -, hcase⟩ := alone_cases h
  have hsame : s.exec a .getByID = s := by
    simp [Store.exec]
  cases hcase with
  | ret returns next last calls store =>
    refine Or.inl ⟨?_, store.trans hsame, ?_⟩
    · generalize o.err = err at returns
      cases returns with
      | failed _ text _ => exact Option.some_ne_none text
      | refused _ text _ => exact Option.some_ne_none text
    · rw [calls]
      intro t ht
      rw [List.mem_singleton.mp ht]
      exact ⟨rfl, rfl⟩
  | goto leads next more' calls store err =>
    cases leads with
    | resumeRead ok src =>
      rw [show s.exec a ((Point.resumeRead m).cmd s.camp.id) = s from hsame] at more'
      obtain ⟨b, rest, -, hwrite⟩ := alone_cases more'
      cases hwrite with
      | ret returns next' last calls' store' =>
        rename_i o'
        cases hb : b.err with
        | none => simp [Point.next, hb] at next'
        | some e' =>
          refine Or.inl ⟨?_, ?_, ?_⟩
          · intro hnone
            rw [err] at hnone
            simp [Point.next, hb, hnone] at next'
          · rw [store, store']
            exact s.exec_failed hb (by simp [Point.cmd])
          · rw [calls, calls']
            intro t ht
            simp only [List.mem_cons, List.not_mem_nil, or_false] at ht
            rcases ht with rfl | rfl
            · exact ⟨rfl, rfl⟩
            · exact ⟨rfl, rfl⟩
      | goto leads next' more'' calls' store' err' =>
        cases leads with
        | resumeWrite ok' =>
          rename_i o' o''
          have hwritten : s.exec b ((Point.resumeWrite s.camp).cmd s.camp.id) = s.setStatus .sending := by
            simp [Point.cmd, Store.exec, ok']
          rw [hwritten] at more''
          exact Or.inr ⟨a, b, rest, o'', src, more'', by rw [calls, calls'], store.trans store', err.trans err'⟩

end Resume

/-! ## `Start` and `TriggerDue` -/

section Start

variable {e : Engine} {s : Store} {answers : List Answer} {o : Outcome}

def Store.starting (s : Store) (a : Answer) : Store :=
  (s.setStatus .sending).exec a (.publish .start (Point.startMsgID s.camp.id))

theorem Store.starting_queue (s : Store) (a : Answer) : (s.starting a).queue =
    s.queue ++ if s.enqueues (Point.startMsgID s.camp.id) a then [.start] else [] :=
  ((s.setStatus .sending).exec_publish a .start (Point.startMsgID s.camp.id)).2.2

theorem Store.starting_status (s : Store) (a : Answer) : (s.starting a).camp.status = .sending :=
  congrArg (·.status) ((s.setStatus .sending).exec_publish a .start (Point.startMsgID s.camp.id)).1

theorem start_alone {m : Bool} (h : alone e s (.startRead m) answers = some o) :
    (o.err ≠ none ∧ o.store = s ∧ ∀ t ∈ o.calls, startsAt t.1 = false ∧ lateFailure t = false) ∨ o.err = none ∨
      ∃ a b p r text, p.err.isSome ∧ o.err ≠ none ∧
        o.calls = [(.startRead m, a), (.startWrite s.camp, b), (.startPublish s.camp, p),
          (.startRollback s.camp.status text, r)] ∧
        o.store = (s.starting p).exec r (.updateStatus s.camp.status) := by
  obtain ⟨a, more, -, hcase⟩ := alone_cases h
  have hsame : s.exec a .getByID = s := by
    simp [Store.exec]
  cases hcase with
  | ret returns next last calls store =>
    refine Or.inl ⟨?_, store.trans hsame, ?_⟩
    · generalize o.err = err at returns
      cases returns with
      | failed _ text _ => exact Option.some_ne_none text
      | refused _ text _ => exact Option.some_ne_none text
    · rw [calls]
      intro t ht
      rw [List.mem_singleton.mp ht]
      exact ⟨rfl, rfl⟩
  | goto leads next more' calls store err =>
    cases leads with
    | startRead ok src =>
      rw [show s.exec a ((Point.startRead m).cmd s.camp.id) = s from hsame] at more'
      obtain ⟨b, rest, -, hwrite⟩ := alone_cases more'
      cases hwrite with
      | ret returns next' last calls' store' =>
        rename_i o'
        cases hb : b.err with
        | none => simp [Point.next, hb] at next'
        | some e' =>
          refine Or.inl ⟨?_, ?_, ?_⟩
          · intro hnone
            rw [err] at hnone
            simp [Point.next, hb, hnone] at next'
          · rw [store, store']
            exact s.exec_failed hb (by simp [Point.cmd])
          · rw [calls, calls']
            intro t ht
            simp only [List.mem_cons, List.not_mem_nil, or_false] at ht
            rcases ht with rfl | rfl
            · exact ⟨rfl, rfl⟩
            · exact ⟨rfl, rfl⟩
      | goto leads' next' more'' calls' store' err' =>
        cases leads' with
        | startWrite ok' =>
          rename_i o' o''
          have hwritten : s.exec b ((Point.startWrite s.camp).cmd s.camp.id) = s.setStatus .sending := by
            simp [Point.cmd, Store.exec, ok']
          rw [hwritten] at more''
          obtain ⟨p, rest', -, hpublish⟩ := alone_cases more''
          cases hpublish with
          | ret returns next'' last calls'' store'' =>
            cases hp : p.err with
            | none =>
              simp only [Point.next, hp, Next.ret.injEq] at next''
              exact Or.inr (Or.inl ((err.trans err').trans next''.symm))
            | some e' => simp [Point.next, hp] at next''
          | goto leads'' next'' more3 calls'' store'' err'' =>
            cases leads'' with
            | startPublish failed text =>
              rename_i o3 e'
              obtain ⟨r, rest'', -, hroll⟩ := alone_cases more3
              cases hroll with
              | goto leads _ _ _ _ _ => cases leads
              | ret returns next3 last calls3 store3 =>
                refine Or.inr (Or.inr ⟨a, b, p, r, text, by simp [failed], ?_, ?_, ?_⟩)
                · simp only [Point.next, Next.ret.injEq] at next3
                  rw [err, err', err'', ← next3]
                  exact Option.some_ne_none text
                · rw [calls, calls', calls'', calls3]
                · rw [store, store', store'', store3]
                  rfl

theorem triggerDue_alone {now : Time} (h : alone e s (.triggerClaim now) answers = some o) :
    (o.store = s ∧ ∀ t ∈ o.calls, startsAt t.1 = false ∧ lateFailure t = false) ∨
      (∃ p, (.triggerPublish, p) ∈ o.calls ∧ p.err = none) ∨
      ∃ a p r, s.camp.status = .scheduled ∧ p.err.isSome ∧
        o.calls = [(.triggerClaim now, a), (.triggerPublish, p), (.triggerRollback, r)] ∧
        o.store = (s.starting p).exec r .rollbackClaim := by
  obtain ⟨a, more, -, hcase⟩ := alone_cases h
  cases hcase with
  | ret returns next last calls store =>
    refine Or.inl ⟨?_, ?_⟩
    · rw [store]
      cases ha : a.err with
      | some e' => exact s.exec_failed ha (by simp [Point.cmd])
      | none =>
        have hnot : s.claims now a = false := by
          generalize o.err = err at returns
          cases returns with
          | failed failed _ _ => simp [ha] at failed
          | refused _ _ at_ => simp at at_
          | notDue _ claims => exact claims
        simp [Point.cmd, Store.exec, ha, hnot]
    · rw [calls]
      intro t ht
      rw [List.mem_singleton.mp ht]
      exact ⟨rfl, rfl⟩
  | goto leads next more' calls store err =>
    cases leads with
    | triggerClaim ok claims =>
      have hclaimed : s.exec a ((Point.triggerClaim now).cmd s.camp.id) = s.setStatus .sending := by
        simp [Point.cmd, Store.exec, ok, claims]
      rw [hclaimed] at more'
      obtain ⟨p, rest, -, hpublish⟩ := alone_cases more'
      cases hpublish with
      | ret returns next' last calls' store' =>
        refine Or.inr (Or.inl ⟨p, ?_, ?_⟩)
        · rw [calls, calls']
          simp
        · cases hp : p.err with
          | none => rfl
          | some e' => simp [Point.next, hp] at next'
      | goto leads' next' more'' calls' store' err' =>
        cases leads' with
        | triggerPublish failed =>
          obtain ⟨r, rest', -, hroll⟩ := alone_cases more''
          cases hroll with
          | goto leads _ _ _ _ _ => cases leads
          | ret returns next'' last calls'' store'' =>
            have hstatus : s.camp.status = .scheduled := by
              simp only [Store.claims, Bool.and_eq_true, decide_eq_true_eq] at claims
              exact claims.1.1
            refine Or.inr (Or.inr ⟨a, p, r, hstatus, by simp [failed], ?_, ?_⟩)
            · rw [calls, calls', calls'']
            · rw [store, store', store'']
              rfl

end Start

end PerGo.L3.Campaign
