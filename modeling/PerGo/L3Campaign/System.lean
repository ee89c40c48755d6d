import PerGo.Core.LTS
import PerGo.Core.Pool
import PerGo.L3Campaign.Engine

/-!
# The campaign operations, interleaved

Any number of operations on one campaign run at once (`St.threads`); a step makes the
next call of one of them. `queue/campaign_worker.go` takes tasks from
the stream and acks each when its operation returns, whatever it returned. A task may
come back while it is still in hand (`redeliver`), and does when the worker dies
(`crash`).

`log` records status writes, returns and successful `Ingest` calls; nothing reads it.

* `step_cases`: everything a step can do.
* `exec_status`, `exec_rows`, …: what one call does to a part of the store.
-/
namespace PerGo.L3.Campaign

open PerGo.Core PerGo.L1 PerGo.L2

inductive Event
  | wrote (op : Op) (id : Nat) (status : CampaignStatus)
  | returned (op : Op) (id : Nat) (err : Option String)
  | ingested (to_ : String)
deriving DecidableEq

/-- The running operations have numbers; `fresh` is the next. -/
structure St where
  store : Store
  threads : List (Nat × Point)
  fresh : Nat
  log : List Event

/-- The operations a caller may start. -/
inductive Entry
  | start (matches_ : Bool)
  | pause (matches_ : Bool)
  | resume (matches_ : Bool)
  | cancel (matches_ : Bool)
  | triggerDue (now : Time)

def Entry.point : Entry → Point
  | .start m => .startRead m
  | .pause m => .pauseRead m
  | .resume m => .resumeRead m
  | .cancel m => .cancelRead m
  | .triggerDue now => .triggerClaim now

/-- mirrors campaign_worker.go:92-120 -/
def Task.point : Task → Point
  | .start => .taskRead
  | .batch recipients delaySeconds => .batchRead recipients delaySeconds

inductive Label
  | call (entry : Entry)
  | deliver (i : Nat)
  | turn (i : Nat) (a : Answer)
  | redeliver (i : Nat)
  | crash (i : Nat)

/-- What is left of a thread after a call. -/
def Next.threads (id : Nat) : Next → List (Nat × Point)
  | .goto p => [(id, p)]
  | .ret _ => []

def callEvents (op : Op) (id : Nat) (a : Answer) : Cmd → List Event
  | .updateStatus status => if a.err.isSome then [] else [.wrote op id status]
  | .ingest to_ => if a.err.isSome then [] else [.ingested to_]
  | _ => []

def Next.events (op : Op) (id : Nat) : Next → List Event
  | .goto _ => []
  | .ret err => [.returned op id err]

def Store.addTask (s : Store) (t : Task) : Store := { s with queue := s.queue ++ [t] }

section Step

variable (e : Engine)

/-- The thread `id` makes the call at `p`; `before` and `after` are the other threads. -/
def afterTurn (s : St) (before after : List (Nat × Point)) (id : Nat) (p : Point) (a : Answer) : St :=
  { store := s.store.exec a (p.cmd s.store.camp.id)
    threads := before ++ (p.next e s.store a).threads id ++ after
    fresh := s.fresh
    log := s.log ++ callEvents p.op id a (p.cmd s.store.camp.id) ++ (p.next e s.store a).events p.op id }

def step (s : St) : Label → Option St
  | .call entry =>
    some { s with threads := s.threads ++ [(s.fresh, entry.point)], fresh := s.fresh + 1 }
  | .deliver i =>
    match s.store.queue[i]? with
    | none => none
    | some t =>
      some { s with store := { s.store with queue := s.store.queue.eraseIdx i }
                    threads := s.threads ++ [(s.fresh, t.point)], fresh := s.fresh + 1 }
  | .turn i a =>
    match s.threads[i]? with
    | none => none
    | some (id, p) => some (afterTurn e s (s.threads.take i) (s.threads.drop (i + 1)) id p a)
  | .redeliver i =>
    match s.threads[i]?.bind (·.2.task) with
    | none => none
    | some t => some { s with store := s.store.addTask t }
  | .crash i =>
    match s.threads[i]?.bind (·.2.task) with
    | none => none
    | some t => some { s with store := s.store.addTask t, threads := s.threads.take i ++ s.threads.drop (i + 1) }

inductive StepCases (s : St) : Label → St → Prop
  | call (entry : Entry) :
      StepCases s (.call entry)
        { s with threads := s.threads ++ [(s.fresh, entry.point)], fresh := s.fresh + 1 }
  | deliver {i : Nat} {t : Task} (at_ : s.store.queue[i]? = some t) :
      StepCases s (.deliver i)
        { s with store := { s.store with queue := s.store.queue.eraseIdx i }
                 threads := s.threads ++ [(s.fresh, t.point)], fresh := s.fresh + 1 }
  | turn {i : Nat} {a : Answer} {before after : List (Nat × Point)} {id : Nat} {p : Point}
      (at_ : s.threads[i]? = some (id, p)) (split : s.threads = before ++ (id, p) :: after)
      (others : before = s.threads.take i ∧ after = s.threads.drop (i + 1)) :
      StepCases s (.turn i a) (afterTurn e s before after id p a)
  | redeliver {i : Nat} {id : Nat} {p : Point} {t : Task} (mem : (id, p) ∈ s.threads) (task : p.task = some t) :
      StepCases s (.redeliver i) { s with store := s.store.addTask t }
  | crash {i : Nat} {before after : List (Nat × Point)} {id : Nat} {p : Point} {t : Task}
      (at_ : s.threads[i]? = some (id, p)) (split : s.threads = before ++ (id, p) :: after)
      (task : p.task = some t) :
      StepCases s (.crash i) { s with store := s.store.addTask t, threads := before ++ after }

theorem step_cases {s s' : St} {l : Label} (h : step e s l = some s') : StepCases e s l s' := by
  cases l with
  | call entry =>
    cases h
    exact .call entry
  | deliver i =>
    simp only [step] at h
    cases hq : s.store.queue[i]? with
    | none => rw [hq] at h; cases h
    | some t =>
      rw [hq] at h
      cases h
      exact .deliver hq
  | turn i a =>
    simp only [step] at h
    cases ht : s.threads[i]? with
    | none => rw [ht] at h; cases h
    | some t =>
      rw [ht] at h
      cases h
      exact .turn ht (split_at ht) ⟨rfl, rfl⟩
  | redeliver i =>
    simp only [step] at h
    cases ht : s.threads[i]? with
    | none => rw [ht] at h; cases h
    | some t =>
      rw [ht, Option.bind_some] at h
      cases htask : t.2.task with
      | none => rw [htask] at h; cases h
      | some task =>
        rw [htask] at h
        cases h
        exact .redeliver (List.mem_of_getElem? ht) htask
  | crash i =>
    simp only [step] at h
    cases ht : s.threads[i]? with
    | none => rw [ht] at h; cases h
    | some t =>
      rw [ht, Option.bind_some] at h
      cases htask : t.2.task with
      | none => rw [htask] at h; cases h
      | some task =>
        rw [htask] at h
        cases h
        exact .crash ht (split_at ht) htask

/-- A condition on the point thread `i` is at. -/
def St.allAt (s : St) (i : Nat) (f : Point → Bool) : Bool := s.threads[i]?.all fun t => f t.2

theorem St.of_allAt {s : St} {i id : Nat} {p : Point} {f : Point → Bool} (h : s.allAt i f = true)
    (hat : s.threads[i]? = some (id, p)) : f p = true := by
  simpa [St.allAt, hat] using h

/-- A new campaign. mirrors campaign/engine.go:212-240 -/
structure Created where
  camp : L2.Campaign
  status : camp.status = .draft ∨ camp.status = .scheduled
  total : camp.totalRecipients = camp.recipients.length
  sent : camp.sentRecipients = 0
  failed : camp.failedRecipients = 0

def Created.init (c : Created) : St := ⟨⟨c.camp, [], List.nodup_nil, [], []⟩, [], 0, []⟩

/-- The runs of the operations on the campaign `c`. -/
def lts (c : Created) : LTS St Label := LTS.ofFn c.init (step e)

end Step

/-! ## Where a call leads -/

section Edges

variable (e : Engine) (s : Store) (a : Answer)

inductive LoopEnds (all : List CampaignRecipient) (delay : Int) : Point → Prop
  | sleep : LoopEnds all delay (.batchSleep all delay)
  | complete : LoopEnds all delay (.batchComplete all delay)

inductive Advances (v : BatchVars) : Point → Prop
  | next {r : CampaignRecipient} {rest : List CampaignRecipient} (more : v.rest = r :: rest) :
      Advances v (.batchWait { v with recipient := r, rest := rest } false)
  | done {p : Point} (last : v.rest = []) (ends : LoopEnds v.all v.delaySeconds p) : Advances v p

/-- Handing a recipient to `Ingest`. -/
inductive HandsOver (v : BatchVars) : Point → Prop
  | ingest : HandsOver v (.batchIngest v)
  | noIngestor : HandsOver v (.batchCountFailed v "outbound ingestor is not configured")

/-- Taking up a recipient. -/
inductive TakesUp (v : BatchVars) : Point → Prop
  | dispatch : TakesUp v (.batchDispatch v)
  | untracked {p : Point} (norepo : e.dispatchRepo = false) (hand : HandsOver v p) : TakesUp v p

/-- The call at the first point leads to the second. -/
inductive Goto : Point → Point → Prop
  | startRead {m : Bool} (ok : a.err = none) (src : s.camp.status = .draft ∨ s.camp.status = .scheduled) :
      Goto (.startRead m) (.startWrite s.camp)
  | startWrite {camp : L2.Campaign} (ok : a.err = none) : Goto (.startWrite camp) (.startPublish camp)
  | startPublish {camp : L2.Campaign} {err : GoError} (failed : a.err = some err) (text : String) :
      Goto (.startPublish camp) (.startRollback camp.status text)
  | pauseRead {m : Bool} (ok : a.err = none) (src : s.camp.status = .sending) :
      Goto (.pauseRead m) (.pauseWrite s.camp)
  | resumeRead {m : Bool} (ok : a.err = none) (src : s.camp.status = .paused) :
      Goto (.resumeRead m) (.resumeWrite s.camp)
  | resumeWrite {camp : L2.Campaign} (ok : a.err = none) : Goto (.resumeWrite camp) (.resumeList camp)
  | resumeNone {camp : L2.Campaign} (ok : a.err = none)
      (none_ : resumeRecipients camp (pendingRecipients s.rows) = []) : Goto (.resumeList camp) .resumeComplete
  | resumeFirst {camp : L2.Campaign} {idx : Nat} {batch : List CampaignRecipient} {rest : Batches}
      (ok : a.err = none)
      (some_ : numbered (batches camp.batchSize (resumeRecipients camp (pendingRecipients s.rows))) =
        (idx, batch) :: rest) :
      Goto (.resumeList camp) (.resumePublish camp a.now idx batch rest)
  | resumePublish {camp : L2.Campaign} {cycle : Int} {i idx : Nat} {b batch : List CampaignRecipient}
      {rest : Batches} (ok : a.err = none) :
      Goto (.resumePublish camp cycle i b ((idx, batch) :: rest)) (.resumePublish camp cycle idx batch rest)
  | cancelRead {m : Bool} (ok : a.err = none)
      (src : s.camp.status = .scheduled ∨ s.camp.status = .sending ∨ s.camp.status = .paused) :
      Goto (.cancelRead m) (.cancelWrite s.camp)
  | triggerClaim {now : Time} (ok : a.err = none) (claims : s.claims now a = true) :
      Goto (.triggerClaim now) .triggerPublish
  | triggerPublish {err : GoError} (failed : a.err = some err) : Goto .triggerPublish .triggerRollback
  | taskRead (ok : a.err = none) (src : s.camp.status ≠ .cancelled ∧ s.camp.status ≠ .failed) :
      Goto .taskRead (.taskResolve s.camp)
  | taskUnresolved {camp : L2.Campaign} (text : String) : Goto (.taskResolve camp) (.taskFail camp text)
  | taskEmpty {camp : L2.Campaign} : Goto (.taskResolve camp) (.taskComplete camp)
  | taskResolve {camp : L2.Campaign} {tagRes : TagResolutionResult}
      (tags : resolveTagRecipients (if e.tagLister then some a.contacts else none) camp.tagIDs (channelOf camp) =
        .ok tagRes) :
      Goto (.taskResolve camp) (.taskAdd camp (mergeTagAndCSVRecipients tagRes camp.recipients).1
        (mergeTagAndCSVRecipients tagRes camp.recipients).2)
  | taskUnsaved {camp : L2.Campaign} {all : List CampaignRecipientRecord} {merged : List CampaignRecipient}
      {err : GoError} (failed : a.err = some err) (text : String) :
      Goto (.taskAdd camp all merged) (.taskFail camp text)
  | taskSkipped {camp : L2.Campaign} {all : List CampaignRecipientRecord} (ok : a.err = none) :
      Goto (.taskAdd camp all []) (.taskComplete camp)
  | taskAdd {camp : L2.Campaign} {all : List CampaignRecipientRecord} {merged : List CampaignRecipient}
      (ok : a.err = none) : Goto (.taskAdd camp all merged) (.taskSending camp merged)
  | taskFirst {camp : L2.Campaign} {merged : List CampaignRecipient} {idx : Nat} {batch : List CampaignRecipient}
      {rest : Batches} (ok : a.err = none) (some_ : numbered (batches camp.batchSize merged) = (idx, batch) :: rest) :
      Goto (.taskSending camp merged) (.taskPublish camp idx batch rest)
  | taskPublish {camp : L2.Campaign} {i idx : Nat} {b batch : List CampaignRecipient} {rest : Batches}
      (ok : a.err = none) : Goto (.taskPublish camp i b ((idx, batch) :: rest)) (.taskPublish camp idx batch rest)
  | batchEmpty {delay : Int} {p : Point} (ok : a.err = none) (ends : LoopEnds [] delay p) :
      Goto (.batchRead [] delay) p
  | batchRead {r : CampaignRecipient} {rest : List CampaignRecipient} {delay : Int} (ok : a.err = none)
      (src : s.camp.status ≠ .cancelled ∧ s.camp.status ≠ .failed ∧ s.camp.status ≠ .paused) :
      Goto (.batchRead (r :: rest) delay) (.batchWait ⟨r :: rest, delay, s.camp, r, rest⟩ true)
  | batchFirst {v : BatchVars} {p : Point} (ok : a.err = none) (takes : TakesUp e v p) : Goto (.batchWait v true) p
  | batchWait {v : BatchVars} (ok : a.err = none) : Goto (.batchWait v false) (.batchCheck v)
  | batchCheck {v : BatchVars} {p : Point} (takes : TakesUp e v p) : Goto (.batchCheck v) p
  | batchUntracked {v : BatchVars} {err : GoError} (failed : a.err = some err) (text : String) :
      Goto (.batchDispatch v) (.batchCountFailed v text)
  | batchAlready {v : BatchVars} (ok : a.err = none) : Goto (.batchDispatch v) (.batchMarkSent v)
  | batchDispatch {v : BatchVars} {p : Point} (ok : a.err = none)
      (fresh : ¬ (a.dispatchStatus = "delivered" ∨ a.dispatchStatus = "sent")) (hand : HandsOver v p) :
      Goto (.batchDispatch v) p
  | batchMarkSent {v : BatchVars} {p : Point} (advances : Advances v p) : Goto (.batchMarkSent v) p
  | batchRefused {v : BatchVars} {err : GoError} (failed : a.err = some err) (text : String) :
      Goto (.batchIngest v) (.batchCountFailed v text)
  | batchIngest {v : BatchVars} (ok : a.err = none) : Goto (.batchIngest v) (.batchRowSent v)
  | batchRowSent {v : BatchVars} : Goto (.batchRowSent v) (.batchCountSent v)
  | batchCountSent {v : BatchVars} {p : Point} (advances : Advances v p) : Goto (.batchCountSent v) p
  | batchCountFailed {v : BatchVars} {err : String} : Goto (.batchCountFailed v err) (.batchRowFailed v err)
  | batchRowFailed {v : BatchVars} {err : String} {p : Point} (advances : Advances v p) :
      Goto (.batchRowFailed v err) p
  | batchSleep {all : List CampaignRecipient} {delay : Int} (ok : a.err = none) :
      Goto (.batchSleep all delay) (.batchComplete all delay)

inductive Returns : Point → Option String → Prop
  /-- a call failed -/
  | failed {p : Point} {err : GoError} (failed : a.err = some err) (text : String)
      (at_ : p.op = .batchTask → ∃ rs delay, p = .batchRead rs delay ∨ p = .batchSleep rs delay) :
      Returns p (some text)
  /-- the status does not allow the operation, or the caller's scope the campaign -/
  | refused {p : Point} (ok : a.err = none) (text : String)
      (at_ : ∃ m, p = .startRead m ∨ p = .pauseRead m ∨ p = .resumeRead m ∨ p = .cancelRead m) :
      Returns p (some text)
  | startPublish {camp : L2.Campaign} (ok : a.err = none) : Returns (.startPublish camp) none
  | startRollback {initial : CampaignStatus} {err : String} : Returns (.startRollback initial err) (some err)
  | pauseWrite {camp : L2.Campaign} (ok : a.err = none) : Returns (.pauseWrite camp) none
  | resumeComplete (ok : a.err = none) : Returns .resumeComplete none
  | resumePublish {camp : L2.Campaign} {cycle : Int} {i : Nat} {b : List CampaignRecipient} (ok : a.err = none) :
      Returns (.resumePublish camp cycle i b []) none
  | cancelWrite {camp : L2.Campaign} (ok : a.err = none) : Returns (.cancelWrite camp) none
  | notDue {now : Time} (ok : a.err = none) (claims : s.claims now a = false) : Returns (.triggerClaim now) none
  | triggerPublish (ok : a.err = none) : Returns .triggerPublish none
  | triggerRollback : Returns .triggerRollback none
  | taskInactive (ok : a.err = none) (src : s.camp.status = .cancelled ∨ s.camp.status = .failed) :
      Returns .taskRead none
  | taskFail {camp : L2.Campaign} {err : String} : Returns (.taskFail camp err) (some err)
  | taskComplete {camp : L2.Campaign} : Returns (.taskComplete camp) none
  | taskNobody {camp : L2.Campaign} (ok : a.err = none) : Returns (.taskSending camp []) none
  | taskPublish {camp : L2.Campaign} {i : Nat} {b : List CampaignRecipient} (ok : a.err = none) :
      Returns (.taskPublish camp i b []) none
  | batchInactive {rs : List CampaignRecipient} {delay : Int} (ok : a.err = none)
      (src : s.camp.status = .cancelled ∨ s.camp.status = .failed ∨ s.camp.status = .paused) :
      Returns (.batchRead rs delay) none
  | batchStopped {v : BatchVars} {first : Bool} {err : GoError} (failed : a.err = some err) :
      Returns (.batchWait v first) none
  | batchLeft {v : BatchVars} (ok : a.err = none) (src : s.camp.status = .paused ∨ s.camp.status = .cancelled) :
      Returns (.batchCheck v) none
  | batchComplete {all : List CampaignRecipient} {delay : Int} : Returns (.batchComplete all delay) none

/-- What `next` says, as an edge. -/
def Leads (p : Point) : Next → Prop
  | .goto p' => Goto e s a p p'
  | .ret err => Returns s a p err

variable {e s a}

theorem leads_checked {m : Bool} {from_ : List CampaignStatus} {dst : CampaignStatus}
    {write : L2.Campaign → Point} {p : Point} (ok : a.err = none)
    (hat : ∃ m, p = .startRead m ∨ p = .pauseRead m ∨ p = .resumeRead m ∨ p = .cancelRead m)
    (hw : s.camp.status ∈ from_ → Goto e s a p (write s.camp)) : Leads e s a p (checked s.camp m from_ dst write) := by
  unfold checked
  split
  · exact .refused ok _ hat
  · split
    · exact .refused ok _ hat
    · rename_i hs
      exact hw (by simpa using hs)

theorem leads_unless_failed {p : Point} {text : GoError → String} {next : Next}
    (hat : p.op = .batchTask → ∃ rs delay, p = .batchRead rs delay ∨ p = .batchSleep rs delay)
    (hok : a.err = none → Leads e s a p next) :
    Leads e s a p (match a.err with | some err => .ret (some (text err)) | none => next) := by
  cases ha : a.err with
  | some err => exact .failed ha _ hat
  | none => exact hok ha

theorem loopEnds_afterLoop (all : List CampaignRecipient) (delay : Int) :
    ∃ p, afterLoop all delay = .goto p ∧ LoopEnds all delay p := by
  unfold afterLoop
  split
  · exact ⟨_, rfl, .sleep⟩
  · exact ⟨_, rfl, .complete⟩

theorem advances_nextRecipient (v : BatchVars) : ∃ p, nextRecipient v = .goto p ∧ Advances v p := by
  unfold nextRecipient
  cases hr : v.rest with
  | nil =>
    obtain ⟨p, hp, he⟩ := loopEnds_afterLoop v.all v.delaySeconds
    exact ⟨p, hp, .done hr he⟩
  | cons r rest => exact ⟨_, rfl, .next hr⟩

theorem handsOver_toIngest (e : Engine) (v : BatchVars) : ∃ p, toIngest e v = .goto p ∧ HandsOver v p := by
  unfold toIngest
  split
  · exact ⟨_, rfl, .ingest⟩
  · exact ⟨_, rfl, .noIngestor⟩

theorem takesUp_toDispatch (e : Engine) (v : BatchVars) : ∃ p, toDispatch e v = .goto p ∧ TakesUp e v p := by
  unfold toDispatch
  split
  · exact ⟨_, rfl, .dispatch⟩
  · rename_i h
    obtain ⟨p, hp, ho⟩ := handsOver_toIngest e v
    exact ⟨p, hp, .untracked (by simpa using h) ho⟩

theorem numbered_ne_nil {n : Int} {rs : List CampaignRecipient} (h : rs ≠ []) :
    ∃ idx batch rest, numbered (batches n rs) = (idx, batch) :: rest := by
  cases rs with
  | nil => exact absurd rfl h
  | cons r rs => exact ⟨_, _, _, List.mapIdx_cons⟩

/-- **Where a call leads.** -/
theorem next_leads (e : Engine) (s : Store) (a : Answer) (p : Point) : Leads e s a p (p.next e s a) := by
  cases p with
  | startRead m =>
    refine leads_unless_failed (by simp [Point.op]) fun ha => leads_checked ha ⟨m, by simp⟩ fun h => ?_
    exact .startRead ha (by simpa using h)
  | startWrite camp => exact leads_unless_failed (by simp [Point.op]) fun ha => Goto.startWrite ha
  | startPublish camp =>
    simp only [Point.next]
    cases ha : a.err with
    | some err => exact Goto.startPublish ha _
    | none => exact Returns.startPublish ha
  | startRollback initial err => exact .startRollback
  | pauseRead m =>
    refine leads_unless_failed (by simp [Point.op]) fun ha => leads_checked ha ⟨m, by simp⟩ fun h => ?_
    exact .pauseRead ha (by simpa using h)
  | pauseWrite camp => exact leads_unless_failed (by simp [Point.op]) fun ha => Returns.pauseWrite ha
  | resumeRead m =>
    refine leads_unless_failed (by simp [Point.op]) fun ha => leads_checked ha ⟨m, by simp⟩ fun h => ?_
    exact .resumeRead ha (by simpa using h)
  | resumeWrite camp => exact leads_unless_failed (by simp [Point.op]) fun ha => Goto.resumeWrite ha
  | resumeList camp =>
    refine leads_unless_failed (by simp [Point.op]) fun ha => ?_
    simp only
    split
    · rename_i h
      exact Goto.resumeNone ha h
    · rename_i h
      obtain ⟨idx, batch, rest, hb⟩ := numbered_ne_nil (n := camp.batchSize) h
      rw [hb]
      exact Goto.resumeFirst ha hb
  | resumeComplete => exact leads_unless_failed (by simp [Point.op]) fun ha => Returns.resumeComplete ha
  | resumePublish camp cycle idx batch rest =>
    refine leads_unless_failed (by simp [Point.op]) fun ha => ?_
    cases rest with
    | nil => exact Returns.resumePublish ha
    | cons b rest => exact Goto.resumePublish ha
  | cancelRead m =>
    refine leads_unless_failed (by simp [Point.op]) fun ha => leads_checked ha ⟨m, by simp⟩ fun h => ?_
    exact .cancelRead ha (by simpa using h)
  | cancelWrite camp => exact leads_unless_failed (by simp [Point.op]) fun ha => Returns.cancelWrite ha
  | triggerClaim now =>
    refine leads_unless_failed (by simp [Point.op]) fun ha => ?_
    cases hc : s.claims now a with
    | true => exact Goto.triggerClaim ha hc
    | false => exact Returns.notDue ha hc
  | triggerPublish =>
    simp only [Point.next]
    cases ha : a.err with
    | some err => exact Goto.triggerPublish ha
    | none => exact Returns.triggerPublish ha
  | triggerRollback => exact Returns.triggerRollback
  | taskRead =>
    refine leads_unless_failed (by simp [Point.op]) fun ha => ?_
    split
    · rename_i h
      exact Returns.taskInactive ha h
    · rename_i h
      exact Goto.taskRead ha (not_or.mp h)
  | taskResolve camp =>
    simp only [Point.next, resolved]
    split
    · exact Goto.taskUnresolved _
    · rename_i tagRes htags
      split
      · exact Goto.taskEmpty
      · exact Goto.taskResolve htags
  | taskFail camp err => exact Returns.taskFail
  | taskComplete camp => exact Returns.taskComplete
  | taskAdd camp all merged =>
    simp only [Point.next]
    cases ha : a.err with
    | some err => exact Goto.taskUnsaved ha _
    | none =>
      simp only
      split
      · rename_i h
        subst h
        exact Goto.taskSkipped ha
      · exact Goto.taskAdd ha
  | taskSending camp merged =>
    refine leads_unless_failed (by simp [Point.op]) fun ha => ?_
    cases merged with
    | nil => exact Returns.taskNobody ha
    | cons r rest =>
      obtain ⟨idx, batch, more, hb⟩ := numbered_ne_nil (n := camp.batchSize) (List.cons_ne_nil r rest)
      simp only [hb]
      exact Goto.taskFirst ha hb
  | taskPublish camp idx batch rest =>
    refine leads_unless_failed (by simp [Point.op]) fun ha => ?_
    cases rest with
    | nil => exact Returns.taskPublish ha
    | cons b rest => exact Goto.taskPublish ha
  | batchRead rs delay =>
    refine leads_unless_failed (fun _ => ⟨rs, delay, Or.inl rfl⟩) fun ha => ?_
    split
    · rename_i h
      exact Returns.batchInactive ha h
    · rename_i h
      cases rs with
      | nil =>
        obtain ⟨p, hp, he⟩ := loopEnds_afterLoop [] delay
        simp only [hp]
        exact Goto.batchEmpty ha he
      | cons r rest => exact Goto.batchRead ha (by simpa [not_or] using h)
  | batchWait v first =>
    simp only [Point.next]
    cases ha : a.err with
    | some err => exact Returns.batchStopped ha
    | none =>
      cases first with
      | true =>
        obtain ⟨p, hp, ht⟩ := takesUp_toDispatch e v
        simp only [if_true, hp]
        exact Goto.batchFirst ha ht
      | false => exact Goto.batchWait ha
  | batchCheck v =>
    obtain ⟨p, hp, ht⟩ := takesUp_toDispatch e v
    simp only [Point.next]
    cases ha : a.err with
    | some err =>
      simp only [hp]
      exact Goto.batchCheck ht
    | none =>
      simp only
      split
      · rename_i h
        exact Returns.batchLeft ha h
      · rw [hp]
        exact Goto.batchCheck ht
  | batchDispatch v =>
    simp only [Point.next]
    cases ha : a.err with
    | some err => exact Goto.batchUntracked ha _
    | none =>
      simp only
      split
      · exact Goto.batchAlready ha
      · rename_i h
        obtain ⟨p, hp, ho⟩ := handsOver_toIngest e v
        rw [hp]
        exact Goto.batchDispatch ha h ho
  | batchMarkSent v =>
    obtain ⟨p, hp, hadv⟩ := advances_nextRecipient v
    simp only [Point.next, hp]
    exact Goto.batchMarkSent hadv
  | batchIngest v =>
    simp only [Point.next]
    cases ha : a.err with
    | some err => exact Goto.batchRefused ha _
    | none => exact Goto.batchIngest ha
  | batchRowSent v => exact Goto.batchRowSent
  | batchCountSent v =>
    obtain ⟨p, hp, hadv⟩ := advances_nextRecipient v
    simp only [Point.next, hp]
    exact Goto.batchCountSent hadv
  | batchCountFailed v err => exact Goto.batchCountFailed
  | batchRowFailed v err =>
    obtain ⟨p, hp, hadv⟩ := advances_nextRecipient v
    simp only [Point.next, hp]
    exact Goto.batchRowFailed hadv
  | batchSleep all delay => exact leads_unless_failed (fun _ => ⟨all, delay, Or.inr rfl⟩) fun ha => Goto.batchSleep ha
  | batchComplete all delay => exact Returns.batchComplete

end Edges

/-! ## What a call does -/

namespace Store

variable (s : Store) (a : Answer)

def statusAfter : Cmd → CampaignStatus
  | .updateStatus status => if a.err.isSome then s.camp.status else status
  | .claimDueScheduledCampaigns now => if a.err.isNone && s.claims now a then .sending else s.camp.status
  | .rollbackClaim => if a.err.isNone && s.camp.status = .sending then .scheduled else s.camp.status
  | .completeIfDone => if a.err.isNone && s.camp.status = .sending && !s.unfinished then .completed else s.camp.status
  | _ => s.camp.status

theorem exec_status (cmd : Cmd) : (s.exec a cmd).camp.status = s.statusAfter a cmd := by
  unfold exec statusAfter
  cases h : a.err <;> cases cmd <;> simp [setStatus] <;> split <;> simp_all

end Store

/-! ## The server's engine, and a campaign -/

/-- mirrors cmd/pergo/main.go:438-446 -/
def serverEngine : Engine := ⟨true, true, true⟩

/-- The call succeeds; a dispatch row is new, and no contact has the tag. -/
def Answer.ok : Answer := ⟨none, false, false, true, fun _ => .ok [], "queued", 0⟩

def Answer.failed : Answer := { Answer.ok with err := some ⟨"connection refused", false⟩ }

def newsletter (recipients : List CampaignRecipient) (batchSize : Int) : Created :=
  { camp := ⟨1, 1, .draft, batchSize, 0, some "whatsapp_cloud", [], recipients.length, 0, 0, recipients, none⟩
    status := Or.inl rfl
    total := rfl
    sent := rfl
    failed := rfl }

end PerGo.L3.Campaign
