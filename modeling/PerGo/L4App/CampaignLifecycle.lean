import PerGo.L3Campaign.System

/-!
# The life of a campaign

Every operation reads the status, decides, and later writes the new one whatever the
row says by then (`UpdateStatus` has no condition), so two operations that overlap
undo each other. `ProcessStartTask` turns away only cancelled and failed campaigns:
a start task that comes back restarts a paused or completed one. And `Resume` returns
errors after it has set the campaign to `sending`.

* `Undisturbed`: the condition on a step. A status write finds the status its operation
  decided on (or the one it writes), a start task finds a campaign that is neither
  paused nor completed, and a `Resume` does not fail after its status write.
* `Decided`: what an operation knows about the status it decided on.
* `lifecycle_respected`: in runs of undisturbed steps a terminal status stays, and a
  paused campaign stays paused until a `Resume` or a `Cancel`.
-/
namespace PerGo.L4.CampaignLifecycle

open PerGo.Core PerGo.L1 PerGo.L2 PerGo.L3.Campaign

def terminal : CampaignStatus → Bool
  | .cancelled | .completed | .failed => true
  | _ => false

def decidedOn : Point → Option CampaignStatus
  | .startWrite camp | .pauseWrite camp | .resumeWrite camp | .cancelWrite camp
  | .taskFail camp _ | .taskComplete camp | .taskSending camp _ => some camp.status
  | .startRollback .. | .resumeComplete => some .sending
  | _ => none

/-- The points of `Resume` after its status write. -/
def resuming : Point → Bool
  | .resumeList _ | .resumeComplete | .resumePublish .. => true
  | _ => false

def undisturbedAt (status : CampaignStatus) (id : UUID) (p : Point) (a : Answer) : Bool :=
  (match p.cmd id with
    | .updateStatus new => a.err.isSome || decidedOn p = some status || status = new
    | _ => true) &&
  (p ≠ .taskRead || a.err.isSome || (status ≠ .paused && status ≠ .completed)) &&
  (!resuming p || a.err.isNone)

/-- The condition on a step. -/
def Undisturbed (s : St) : Label → Prop
  | .turn i a => s.allAt i (fun p => undisturbedAt s.store.camp.status s.store.camp.id p a) = true
  | _ => True

instance (s : St) : ∀ l, Decidable (Undisturbed s l)
  | .turn .. => inferInstanceAs (Decidable (_ = true))
  | .call _ | .deliver _ | .redeliver _ | .crash _ => inferInstanceAs (Decidable True)

/-! ## What the operations know -/

def Decided : Point → Prop
  | .startWrite camp | .startPublish camp => camp.status = .draft ∨ camp.status = .scheduled
  | .startRollback initialStatus _ => initialStatus = .draft ∨ initialStatus = .scheduled
  | .pauseWrite camp => camp.status = .sending
  | .resumeWrite camp => camp.status = .paused
  | .cancelWrite camp => camp.status = .scheduled ∨ camp.status = .sending ∨ camp.status = .paused
  | .taskResolve camp | .taskFail camp _ | .taskComplete camp | .taskAdd camp .. | .taskSending camp _ =>
    terminal camp.status = false ∧ camp.status ≠ .paused
  | _ => True

theorem decided_entry (entry : Entry) : Decided entry.point := by
  cases entry <;> exact trivial

theorem decided_task (t : Task) : Decided t.point := by
  cases t <;> exact trivial

theorem decided_advances {v : BatchVars} {p : Point} (h : Advances v p) : Decided p := by
  cases h with
  | next more => exact trivial
  | done last ends => cases ends <;> exact trivial

theorem decided_takesUp {e : Engine} {v : BatchVars} {p : Point} (h : TakesUp e v p) : Decided p := by
  cases h with
  | dispatch => exact trivial
  | untracked norepo hand => cases hand <;> exact trivial

theorem undisturbed_taskRead {status : CampaignStatus} {id : UUID} {a : Answer}
    (h : undisturbedAt status id .taskRead a = true) (ok : a.err = none) :
    status ≠ .paused ∧ status ≠ .completed := by
  simpa [undisturbedAt, ok, Point.cmd, resuming] using h

theorem undisturbed_write {status new : CampaignStatus} {id : UUID} {p : Point} {a : Answer}
    (h : undisturbedAt status id p a = true) (ok : a.err = none) (hc : p.cmd id = .updateStatus new) :
    decidedOn p = some status ∨ status = new := by
  simp only [undisturbedAt, hc, ok, Option.isSome_none, Bool.false_or, Bool.and_eq_true, Bool.or_eq_true,
    decide_eq_true_eq] at h
  exact h.1.1

theorem undisturbed_resuming {status : CampaignStatus} {id : UUID} {p : Point} {a : Answer}
    (h : undisturbedAt status id p a = true) (hr : resuming p = true) : a.err = none := by
  simp only [undisturbedAt, hr, Bool.not_true, Bool.false_or, Bool.and_eq_true] at h
  simpa using h.2

theorem decided_goto {e : Engine} {s : Store} {a : Answer} {p p' : Point}
    (hu : undisturbedAt s.camp.status s.camp.id p a = true) (hd : Decided p) (h : Goto e s a p p') : Decided p' := by
  cases h with
  | startRead ok src => exact src
  | startWrite ok => exact hd
  | startPublish failed text => exact hd
  | pauseRead ok src => exact src
  | resumeRead ok src => exact src
  | cancelRead ok src => exact src
  | taskRead ok src =>
    -- the code turns away cancelled and failed campaigns, the condition paused and completed ones
    obtain ⟨hp, hc⟩ := undisturbed_taskRead hu ok
    refine ⟨?_, hp⟩
    cases hst : s.camp.status <;> simp_all [terminal]
  | taskUnresolved text => exact hd
  | taskEmpty => exact hd
  | taskResolve tags => exact hd
  | taskUnsaved failed text => exact hd
  | taskSkipped ok => exact hd
  | taskAdd ok => exact hd
  | batchEmpty ok ends => cases ends <;> exact trivial
  | batchFirst ok takes => exact decided_takesUp takes
  | batchCheck takes => exact decided_takesUp takes
  | batchDispatch ok fresh hand => cases hand <;> exact trivial
  | batchMarkSent advances => exact decided_advances advances
  | batchCountSent advances => exact decided_advances advances
  | batchRowFailed advances => exact decided_advances advances
  | _ => exact trivial

def AllDecided (s : St) : Prop := ∀ t ∈ s.threads, Decided t.2

theorem decided_threads {e : Engine} {s : Store} {a : Answer} {p : Point} (id : Nat)
    (hu : undisturbedAt s.camp.status s.camp.id p a = true) (hd : Decided p) :
    ∀ t ∈ (p.next e s a).threads id, Decided t.2 := by
  have hl := next_leads e s a p
  cases hn : p.next e s a with
  | ret err => simp [Next.threads]
  | goto p' =>
    rw [hn] at hl
    intro t ht
    rw [List.mem_singleton.mp ht]
    exact decided_goto hu hd hl

theorem allDecided_step {e : Engine} {s s' : St} {l : Label} (hd : AllDecided s) (hu : Undisturbed s l)
    (h : step e s l = some s') : AllDecided s' := by
  cases step_cases e h with
  | call entry =>
    intro t ht
    rcases List.mem_append.mp ht with ht | ht
    · exact hd t ht
    · rw [List.mem_singleton.mp ht]
      exact decided_entry entry
  | deliver at_ =>
    intro t ht
    rcases List.mem_append.mp ht with ht | ht
    · exact hd t ht
    · rw [List.mem_singleton.mp ht]
      exact decided_task _
  | @turn i a before after id p at_ split =>
    have hp : Decided p := hd (id, p) (by rw [split]; simp)
    rw [AllDecided, split] at hd
    exact forall_swapped (P := fun t : Nat × Point => Decided t.2) hd (decided_threads id (St.of_allAt hu at_) hp)
  | redeliver mem task => exact hd
  | @crash i before after id p t at_ split task =>
    rw [AllDecided, split] at hd
    intro x hx
    exact hd x (by simp only [List.mem_append, List.mem_cons] at hx ⊢; tauto)

/-! ## The status -/

theorem status_turn {s : Store} {a : Answer} {p : Point} (hu : undisturbedAt s.camp.status s.camp.id p a = true)
    (hd : Decided p) :
    (s.exec a (p.cmd s.camp.id)).camp.status = s.camp.status ∨
      terminal s.camp.status = false ∧
        (s.camp.status = .paused → a.err = none ∧ ((∃ camp, p = .resumeWrite camp) ∨ ∃ camp, p = .cancelWrite camp)) := by
  rw [Store.exec_status]
  cases hc : p.cmd s.camp.id with
  | updateStatus new =>
    simp only [Store.statusAfter]
    cases ha : a.err with
    | some err => exact Or.inl rfl
    | none =>
      simp only [Option.isSome_none, Bool.false_eq_true, if_false]
      rcases undisturbed_write hu ha hc with hon | hsame
      · right
        cases p with
        | startWrite camp =>
          simp only [decidedOn, Option.some.injEq] at hon
          rcases hd with h | h <;> simp [← hon, h, terminal]
        | pauseWrite camp =>
          simp only [decidedOn, Option.some.injEq] at hon
          simp [← hon, show camp.status = .sending from hd, terminal]
        | resumeWrite camp =>
          simp only [decidedOn, Option.some.injEq] at hon
          simp [← hon, show camp.status = .paused from hd, terminal]
        | cancelWrite camp =>
          simp only [decidedOn, Option.some.injEq] at hon
          rcases hd with h | h | h <;> simp [← hon, h, terminal]
        | taskFail camp err =>
          simp only [decidedOn, Option.some.injEq] at hon
          exact ⟨hon ▸ hd.1, fun h => absurd (hon.trans h) hd.2⟩
        | taskComplete camp =>
          simp only [decidedOn, Option.some.injEq] at hon
          exact ⟨hon ▸ hd.1, fun h => absurd (hon.trans h) hd.2⟩
        | taskSending camp merged =>
          simp only [decidedOn, Option.some.injEq] at hon
          exact ⟨hon ▸ hd.1, fun h => absurd (hon.trans h) hd.2⟩
        | startRollback initial err =>
          simp only [decidedOn, Option.some.injEq] at hon
          simp [← hon, terminal]
        | resumeComplete =>
          simp only [decidedOn, Option.some.injEq] at hon
          simp [← hon, terminal]
        | _ => simp [decidedOn] at hon
      · exact Or.inl hsame.symm
  | claimDueScheduledCampaigns now =>
    simp only [Store.statusAfter]
    split
    · rename_i h
      right
      have hs : s.camp.status = .scheduled := by
        simp only [Store.claims, Bool.and_eq_true, decide_eq_true_eq] at h
        exact h.2.1.1
      simp [hs, terminal]
    · exact Or.inl rfl
  | rollbackClaim =>
    simp only [Store.statusAfter]
    split
    · rename_i h
      right
      have hs : s.camp.status = .sending := by
        simp only [Bool.and_eq_true, decide_eq_true_eq] at h
        exact h.2
      simp [hs, terminal]
    · exact Or.inl rfl
  | completeIfDone =>
    simp only [Store.statusAfter]
    split
    · rename_i h
      right
      have hs : s.camp.status = .sending := by
        simp only [Bool.and_eq_true, decide_eq_true_eq] at h
        exact h.1.2
      simp [hs, terminal]
    · exact Or.inl rfl
  | _ => exact Or.inl rfl

theorem terminal_step {e : Engine} {s s' : St} {l : Label} (hd : AllDecided s) (hu : Undisturbed s l)
    (h : step e s l = some s') (ht : terminal s.store.camp.status = true) :
    s'.store.camp.status = s.store.camp.status := by
  cases step_cases e h with
  | call entry => rfl
  | deliver at_ => rfl
  | @turn i a before after id p at_ split =>
    rcases status_turn (St.of_allAt hu at_) (hd (id, p) (by rw [split]; simp)) with hs | ⟨hn, -⟩
    · exact hs
    · rw [ht] at hn; cases hn
  | redeliver mem task => rfl
  | crash at_ split task => rfl

/-! ## Pause -/

/-- The `Resume` has returned without an error, or is still at work. -/
def Resumes (s : St) (id : Nat) : Prop :=
  Event.returned .resume id none ∈ s.log ∨ ∃ p, (id, p) ∈ s.threads ∧ resuming p = true

/-- Every `Resume` that changed the status. -/
def ResumesRun (s : St) : Prop := ∀ id status, Event.wrote .resume id status ∈ s.log → Resumes s id

/-- Since the last `Pause` that succeeded, a `Cancel` succeeded, or a `Resume` changed the status, or the
campaign is paused. -/
def PausedSince (s : St) : Prop :=
  ∀ pre id post, s.log = pre ++ .returned .pause id none :: post →
    s.store.camp.status = .paused ∨ (∃ id', Event.returned .cancel id' none ∈ post) ∨
      ∃ id', Event.wrote .resume id' .sending ∈ post

theorem resuming_task {p : Point} (h : resuming p = true) : p.task = none := by
  cases p <;> first | rfl | cases h

/-- A `Resume` past its status write goes on, or returns without an error. -/
theorem resuming_next {e : Engine} {s : Store} {a : Answer} {p : Point}
    (hu : undisturbedAt s.camp.status s.camp.id p a = true) (hr : resuming p = true) :
    (∃ p', p.next e s a = .goto p' ∧ resuming p' = true) ∨ p.op = .resume ∧ p.next e s a = .ret none := by
  have ok := undisturbed_resuming hu hr
  have hl := next_leads e s a p
  have hop : p.op = .resume := by cases p <;> first | rfl | cases hr
  cases hn : p.next e s a with
  | goto p' =>
    rw [hn] at hl
    refine Or.inl ⟨p', rfl, ?_⟩
    cases hl <;> first | rfl | cases hr
  | ret err =>
    rw [hn] at hl
    refine Or.inr ⟨hop, ?_⟩
    cases hl with
    | failed failed text at_ => rw [ok] at failed; cases failed
    | refused ok text at_ => obtain ⟨m, rfl | rfl | rfl | rfl⟩ := at_ <;> cases hr
    | startRollback => cases hr
    | taskFail => cases hr
    | _ => rfl

theorem Resumes.turn {e : Engine} {s : St} {before after : List (Nat × Point)} {id : Nat} {p : Point} {a : Answer}
    (split : s.threads = before ++ (id, p) :: after)
    (hu : undisturbedAt s.store.camp.status s.store.camp.id p a = true) {id' : Nat} (h : Resumes s id') :
    Resumes (afterTurn e s before after id p a) id' := by
  rcases h with h | ⟨p', hm, hr⟩
  · exact Or.inl (by simp [afterTurn, h])
  · rw [split] at hm
    rcases mem_swapped hm ((p.next e s.store a).threads id) with heq | hm
    · cases heq
      rcases resuming_next (e := e) hu hr with ⟨p', hn, hr'⟩ | ⟨hop, hn⟩
      · exact Or.inr ⟨p', by simp [afterTurn, hn, Next.threads], hr'⟩
      · exact Or.inl (by simp [afterTurn, hn, hop, Next.events])
    · exact Or.inr ⟨p', hm, hr⟩

theorem resumes_of_wrote {e : Engine} {s : St} {before after : List (Nat × Point)} {id id' : Nat} {p : Point}
    {a : Answer} {status : CampaignStatus}
    (h : Event.wrote .resume id' status ∈
      callEvents p.op id a (p.cmd s.store.camp.id) ++ (p.next e s.store a).events p.op id) :
    Resumes (afterTurn e s before after id p a) id' := by
  have hc : Event.wrote .resume id' status ∈ callEvents p.op id a (p.cmd s.store.camp.id) := by
    rcases List.mem_append.mp h with h | h
    · exact h
    · cases hn : p.next e s.store a <;> simp [hn, Next.events] at h
  cases hcmd : p.cmd s.store.camp.id with
  | updateStatus new =>
    simp only [hcmd, callEvents] at hc
    cases ha : a.err with
    | some err => simp [ha] at hc
    | none =>
      simp only [ha, Option.isSome_none, Bool.false_eq_true, if_false, List.mem_singleton, Event.wrote.injEq] at hc
      obtain ⟨hop, rfl, -⟩ := hc
      cases p with
      | resumeWrite camp =>
        refine Or.inr ⟨.resumeList camp, ?_, rfl⟩
        simp [afterTurn, Point.next, ha, Next.threads]
      | resumeComplete =>
        refine Or.inl ?_
        simp [afterTurn, Point.next, ha, Next.events, Point.op]
      | resumeRead m => cases hcmd
      | resumeList camp => cases hcmd
      | resumePublish camp cycle idx batch rest => cases hcmd
      | _ => cases hop
  | ingest to_ =>
    simp only [hcmd, callEvents] at hc
    split at hc <;> simp at hc
  | _ => simp [hcmd, callEvents] at hc

theorem paused_of_returned {e : Engine} {s : St} {id id' : Nat} {p : Point} {a : Answer}
    (h : Event.returned .pause id' none ∈
      callEvents p.op id a (p.cmd s.store.camp.id) ++ (p.next e s.store a).events p.op id) :
    (s.store.exec a (p.cmd s.store.camp.id)).camp.status = .paused := by
  have hn : p.op = .pause ∧ p.next e s.store a = .ret none := by
    rcases List.mem_append.mp h with h | h
    · unfold callEvents at h
      split at h
      · split at h <;> simp at h
      · split at h <;> simp at h
      · cases h
    · cases hn : p.next e s.store a with
      | goto p' => simp [hn, Next.events] at h
      | ret err =>
        simp only [hn, Next.events, List.mem_singleton, Event.returned.injEq] at h
        exact ⟨h.1.symm, by rw [h.2.2]⟩
  have hl := next_leads e s.store a p
  rw [hn.2] at hl
  cases hl with
  | pauseWrite ok => simp [Store.exec_status, Point.cmd, Store.statusAfter, ok]
  | _ => cases hn.1

/-- The invariant of undisturbed runs. -/
structure Inv (s : St) : Prop where
  decided : AllDecided s
  resumes : ResumesRun s
  paused : PausedSince s

theorem inv_turn {e : Engine} {s : St} {before after : List (Nat × Point)} {id : Nat} {p : Point} {a : Answer}
    (hi : Inv s) (split : s.threads = before ++ (id, p) :: after)
    (hu : undisturbedAt s.store.camp.status s.store.camp.id p a = true)
    (hd : AllDecided (afterTurn e s before after id p a)) : Inv (afterTurn e s before after id p a) := by
  refine ⟨hd, ?_, ?_⟩
  · intro id' status hw
    simp only [afterTurn, List.append_assoc] at hw
    rcases List.mem_append.mp hw with hw | hw
    · exact (hi.resumes id' status hw).turn split hu
    · exact resumes_of_wrote hw
  · intro pre id' post hlog
    simp only [afterTurn, List.append_assoc] at hlog
    rcases split_append hlog with ⟨mid, hold, rfl⟩ | hnew
    · rcases hi.paused pre id' mid hold with hs | ⟨id'', hc⟩ | ⟨id'', hr⟩
      · rcases status_turn hu (hi.decided (id, p) (by rw [split]; simp)) with hkept | ⟨-, hwrite⟩
        · exact Or.inl (hkept.trans hs)
        · obtain ⟨ok, ⟨camp, rfl⟩ | ⟨camp, rfl⟩⟩ := hwrite hs
          · exact Or.inr (Or.inr ⟨id, by simp [Point.cmd, Point.op, callEvents, ok]⟩)
          · exact Or.inr (Or.inl ⟨id, by simp [Point.next, ok, Next.events, Point.op]⟩)
      · exact Or.inr (Or.inl ⟨id'', List.mem_append_left _ hc⟩)
      · exact Or.inr (Or.inr ⟨id'', List.mem_append_left _ hr⟩)
    · exact Or.inl (paused_of_returned hnew)

theorem inv_step {e : Engine} {s s' : St} {l : Label} (hi : Inv s) (hu : Undisturbed s l)
    (h : step e s l = some s') : Inv s' := by
  have hd := allDecided_step hi.decided hu h
  -- a step that makes no call leaves log and status, and no `Resume` ends
  have hquiet : s'.log = s.log → s'.store.camp.status = s.store.camp.status →
      (∀ id p, (id, p) ∈ s.threads → resuming p = true → (id, p) ∈ s'.threads) → Inv s' := by
    intro hlog hst hth
    refine ⟨hd, ?_, ?_⟩
    · intro id status hw
      rw [hlog] at hw
      rcases hi.resumes id status hw with hr | ⟨p, hm, hr⟩
      · exact Or.inl (by rw [hlog]; exact hr)
      · exact Or.inr ⟨p, hth id p hm hr, hr⟩
    · intro pre id post hp
      rw [hlog] at hp
      rw [hst]
      exact hi.paused pre id post hp
  cases step_cases e h with
  | call entry => exact hquiet rfl rfl fun id p hm _ => List.mem_append_left _ hm
  | deliver at_ => exact hquiet rfl rfl fun id p hm _ => List.mem_append_left _ hm
  | @turn i a before after id p at_ split => exact inv_turn hi split (St.of_allAt hu at_) hd
  | redeliver mem task => exact hquiet rfl rfl fun id p hm _ => hm
  | @crash i before after id p t at_ split task =>
    refine hquiet rfl rfl fun id' p' hm hr => ?_
    rw [split] at hm
    rcases mem_swapped hm [] with heq | hm
    · cases heq
      rw [resuming_task hr] at task
      cases task
    · simpa using hm

variable (e : Engine) (c : Created)

theorem inv_inductive : ((lts e c).restrict Undisturbed).Inductive Inv :=
  LTS.Inductive.of_restrict
    (by
      rintro s rfl
      refine ⟨?_, ?_, ?_⟩
      · intro t ht
        cases ht
      · intro id status hw
        cases hw
      · intro pre id post hp
        exact absurd hp (by simp [Created.init]))
    (fun _ _ _ hi hu h => inv_step hi hu h)

/-- Once a `Pause` has succeeded the campaign is paused until a `Resume` or a `Cancel` succeeds: a
`Cancel` that has returned, or a `Resume` that changed the status and has returned or is still at work. -/
def PauseKept (s : St) : Prop :=
  ∀ pre id post, s.log = pre ++ .returned .pause id none :: post →
    s.store.camp.status = .paused ∨ (∃ id', Event.returned .cancel id' none ∈ post) ∨
      ∃ id', Event.wrote .resume id' .sending ∈ post ∧ Resumes s id'

/-- From here on a terminal status never changes. -/
def TerminalKept (L : LTS St Label) (s : St) : Prop :=
  ∀ ls s', L.Run s ls s' → terminal s.store.camp.status = true → s'.store.camp.status = s.store.camp.status

variable {e c}

/-- **The life of a campaign is respected** in every run of undisturbed steps. -/
theorem lifecycle_respected {s : St} (h : ((lts e c).restrict Undisturbed).Reachable s) :
    PauseKept s ∧ TerminalKept ((lts e c).restrict Undisturbed) s := by
  have hi := (inv_inductive e c).reachable h
  constructor
  · intro pre id post hlog
    rcases hi.paused pre id post hlog with hs | hc | ⟨id', hr⟩
    · exact Or.inl hs
    · exact Or.inr (Or.inl hc)
    · exact Or.inr (Or.inr ⟨id', hr, hi.resumes id' .sending (by rw [hlog]; simp [hr])⟩)
  · intro ls s' hrun ht
    clear h
    induction hrun with
    | nil => rfl
    | cons hstep _ ih =>
      have hkept := terminal_step hi.decided hstep.1 hstep.2 ht
      rw [ih (inv_step hi hstep.1 hstep.2) (by rw [hkept]; exact ht), hkept]

/-! ## Three runs -/

def draft : Created := newsletter [⟨"5511999990000", []⟩] 100

/-- `Start`, to its return. -/
def startRun : List Label := [.call (.start true), .turn 0 .ok, .turn 0 .ok, .turn 0 .ok]

/-- `Pause` and then `Resume`, one after the other. -/
def pauseResumeRun : List Label :=
  startRun ++ [Label.call (.pause true), .turn 0 .ok, .turn 0 .ok,
    .call (.resume true), .turn 0 .ok, .turn 0 .ok, .turn 0 .ok, .turn 0 .ok]

theorem pause_resume_kept :
    ∃ s, ((lts serverEngine draft).restrict Undisturbed).Reachable s ∧
      Event.returned .pause 1 none ∈ s.log ∧ s.store.camp.status = .sending ∧
      PauseKept s ∧ TerminalKept ((lts serverEngine draft).restrict Undisturbed) s := by
  have hrun : (LTS.exec (step serverEngine) draft.init pauseResumeRun).any (fun s =>
      Event.returned .pause 1 none ∈ s.log ∧ s.store.camp.status = .sending) = true := by decide +kernel
  obtain ⟨s, hs, hp⟩ := (Option.any_eq_true _ _).mp hrun
  have hg : LTS.Guarded (step serverEngine) Undisturbed draft.init pauseResumeRun := by decide +kernel
  have hr := LTS.exec_restrict_reachable hs hg
  simp only [decide_eq_true_eq] at hp
  exact ⟨s, hr, hp.1, hp.2, lifecycle_respected hr⟩

/-- `Pause` reads `sending`; `Cancel` runs to its end; `Pause` writes. -/
def raceRun : List Label :=
  startRun ++ [Label.call (.pause true), .turn 0 .ok, .call (.cancel true), .turn 1 .ok, .turn 1 .ok]

/-- A start task that is delivered a second time after `Pause` returned. -/
def restartRun : List Label :=
  startRun ++ [Label.deliver 0, .redeliver 0, .turn 0 .ok, .turn 0 .ok, .turn 0 .ok, .turn 0 .ok, .turn 0 .ok,
    .call (.pause true), .turn 0 .ok, .turn 0 .ok,
    .deliver 0, .turn 0 .ok, .turn 0 .ok, .turn 0 .ok, .turn 0 .ok]

/-- A cancelled campaign is paused, and a paused one sends again although nobody resumed it. -/
theorem status_overwritten :
    (∃ s, (lts serverEngine draft).Reachable s ∧ s.store.camp.status = .cancelled ∧
      ¬ TerminalKept (lts serverEngine draft) s) ∧
    ∃ s, (lts serverEngine draft).Reachable s ∧ ¬ PauseKept s := by
  constructor
  · have hrun : (LTS.exec (step serverEngine) draft.init raceRun).any (fun s =>
        s.store.camp.status = .cancelled ∧
        (step serverEngine s (.turn 0 .ok)).any (fun s' => s'.store.camp.status = .paused)) = true := by
      decide +kernel
    obtain ⟨s, hs, hp⟩ := (Option.any_eq_true _ _).mp hrun
    simp only [decide_eq_true_eq] at hp
    obtain ⟨hc, hnext⟩ := hp
    obtain ⟨s', hs', hpaused⟩ := (Option.any_eq_true _ _).mp hnext
    refine ⟨s, LTS.exec_reachable hs, hc, fun hk => ?_⟩
    have hstays := hk [.turn 0 .ok] s' (.cons hs' (.nil s')) (by rw [hc]; rfl)
    rw [of_decide_eq_true hpaused, hc] at hstays
    cases hstays
  · have hrun : (LTS.exec (step serverEngine) draft.init restartRun).any (fun s =>
        s.store.camp.status = .sending ∧ s.log.drop 5 = [.returned .pause 2 none, .wrote .startTask 3 .sending]) =
        true := by decide +kernel
    obtain ⟨s, hs, hp⟩ := (Option.any_eq_true _ _).mp hrun
    simp only [decide_eq_true_eq] at hp
    obtain ⟨hsend, hlog⟩ := hp
    refine ⟨s, LTS.exec_reachable hs, fun hk => ?_⟩
    have hsplit : s.log = s.log.take 5 ++ .returned .pause 2 none :: [.wrote .startTask 3 .sending] := by
      rw [← hlog, List.take_append_drop]
    rcases hk _ _ _ hsplit with h | ⟨id, h⟩ | ⟨id, h, -⟩
    · rw [hsend] at h; cases h
    · simp at h
    · simp at h

end PerGo.L4.CampaignLifecycle
