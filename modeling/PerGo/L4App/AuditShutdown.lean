import PerGo.L3Audit.BatchWriter

/-!
# The audit log and the shutdown sequence

The calls that write audit events (of the workers, the HTTP handlers, the WhatsApp sessions), the batch
workers, and the cleanup functions of `cmd/pergo/main.go`, in any interleaving. `Orchestrator.Shutdown`
takes the last function registered first and leaves the rest out once its context is done. No cleanup
waits for ever for calls in flight, so a cleanup is one step here, with any steps of the others before and
after it; that of the core is over when `Close` returns.

`core` is registered after the three workers, hence closed before they are stopped. `Meets` is the
condition under which this does no harm.

Results: `events_survive`, and `write_after_close` for a message worker that is still at a call.
-/
namespace PerGo.L4.AuditShutdown

open PerGo.Core PerGo.L3.Audit

variable {α : Type}

inductive Cleanup
  | db | pgxpool | nats | webhookWorker | campaignWorker | messageWorker | retention | sessions | core | debug | http
deriving DecidableEq

inductive Producer
  | message | campaign | webhook | http | session

def Producer.stop : Producer → Cleanup
  | .message => .messageWorker
  | .campaign => .campaignWorker
  | .webhook => .webhookWorker
  | .http => .http
  | .session => .sessions

/-- `NewWriter(pool, 5000, 2)`, and whether the debug server could be started. -/
structure Cfg where
  bufSize : Nat
  workers : Nat
  debugSrv : Bool
  pos : 0 < workers

/-- mirrors cmd/pergo/main.go:1291-1361 -/
def registered (cfg : Cfg) : List Cleanup :=
  [Cleanup.db, .pgxpool, .nats, .webhookWorker, .campaignWorker, .messageWorker, .retention, .sessions, .core] ++
    (if cfg.debugSrv then [Cleanup.debug] else []) ++ [Cleanup.http]

inductive Close
  | notCalled | waiting | returned | timedOut
deriving DecidableEq

/-- A call under way, with the events it has still to write. -/
structure Flight (α : Type) where
  producer : Producer
  events : List α

structure St (α : Type) where
  writer : BatchWriter α
  inFlight : List (Flight α)
  /-- the functions `Shutdown` has not reached, once it was called -/
  todo : Option (List Cleanup)
  stopped : List Cleanup
  close : Close
  panicked : Bool
  exited : Bool

inductive Lbl (α : Type)
  | start (p : Producer) (events : List α)
  | write (j : Nat)
  | worker (i : Nat) (ev : Ev)
  | signal
  | cleanup
  | closeDone
  | closeTimeout
  /-- `ctx.Err() != nil` -/
  | expired
  | exit

section System

variable (cfg : Cfg)

def init : St α := ⟨newWriter cfg.workers, [], none, [], .notCalled, false, false⟩

/-- mirrors shutdown/orchestrator.go:45-52, cmd/pergo/main.go:125-141 -/
def clean (s : St α) (c : Cleanup) (rest : List Cleanup) : St α :=
  let s' := { s with todo := some rest, stopped := c :: s.stopped }
  if c = .core then { s' with writer := s.writer.close, close := .waiting } else s'

def stepAlive (s : St α) : Lbl α → Option (St α)
  | .start p events => if p.stop ∈ s.stopped then none else some { s with inFlight := s.inFlight ++ [⟨p, events⟩] }
  | .write j =>
    match s.inFlight[j]? with
    | some ⟨p, e :: events⟩ =>
      match s.writer.write cfg.bufSize e with
      | none => some { s with panicked := true }
      | some w => some { s with writer := w, inFlight := s.inFlight.set j ⟨p, events⟩ }
    | _ => none
  | .worker i ev => (s.writer.workerStep i ev).map fun w => { s with writer := w }
  | .signal => if s.todo = none then some { s with todo := some (registered cfg).reverse } else none
  | .cleanup =>
    match s.todo with
    | some (c :: rest) => if s.close = .waiting then none else some (clean s c rest)
    | _ => none
  | .closeDone =>
    if s.close = .waiting ∧ ∀ k ∈ s.writer.workers, k matches .done then some { s with close := .returned } else none
  | .closeTimeout => if s.close = .waiting then some { s with close := .timedOut } else none
  | .expired => if s.todo = none ∨ s.close = .waiting then none else some { s with todo := some [] }
  | .exit => if s.todo = some [] ∧ s.close ≠ .waiting then some { s with exited := true } else none

/-- Nothing runs after a panic, or after `main` has returned. -/
def step (s : St α) (l : Lbl α) : Option (St α) := if s.panicked ∨ s.exited then none else stepAlive cfg s l

def sys : LTS (St α) (Lbl α) := LTS.ofFn (init cfg) (step cfg)

end System

/-- What is promised of the events in each state. -/
structure Survives (s : St α) : Prop where
  noPanic : s.panicked = false
  /-- each is still to be passed to `flush`, or was, once -/
  once : s.writer.accepted.Perm (s.writer.ch ++ s.writer.held ++ passed s.writer.calls)
  /-- and again only after that has failed -/
  retries : Retries s.writer.calls
  sized : ∀ c ∈ s.writer.calls, c.Sized
  drains : Drains s.writer
  closed : s.close = .returned → s.writer.accepted.Perm (passed s.writer.calls)
  exited : s.exited = true → s.writer.accepted.Perm (passed s.writer.calls)

/-- The core is closed when no call has an event left to write, and no later call has one; the process ends after
`Close` has returned nil. -/
def Meets (s : St α) : Lbl α → Prop
  | .start _ events => s.writer.closed = true → events = []
  | .cleanup => s.todo.bind List.head? = some .core → ∀ f ∈ s.inFlight, f.events = []
  | .exit => s.close = .returned
  | _ => True

/-! ## The invariant -/

structure Inv (cfg : Cfg) (s : St α) : Prop where
  writer : s.writer.Inv
  workers : s.writer.workers.length = cfg.workers
  noPanic : s.panicked = false
  silent : s.writer.closed = true → ∀ f ∈ s.inFlight, f.events = []
  returned : s.close = .returned → ∀ k ∈ s.writer.workers, k = .done
  exited : s.exited = true → s.close = .returned

section Steps

variable {cfg : Cfg} {s : St α}

theorem inv_init : Inv cfg (init cfg : St α) := by
  refine ⟨inv_newWriter cfg.workers, List.length_replicate, rfl, ?_, ?_, ?_⟩
  · intro h
    cases h
  · intro h
    cases h
  · intro h
    cases h

theorem inv_start (h : Inv cfg s) {events : List α} (hg : s.writer.closed = true → events = []) (p : Producer) :
    Inv cfg { s with inFlight := s.inFlight ++ [⟨p, events⟩] } := by
  refine ⟨h.writer, h.workers, h.noPanic, ?_, h.returned, h.exited⟩
  intro hclosed f hf
  rcases List.mem_append.mp hf with hf | hf
  · exact h.silent hclosed f hf
  · rw [List.mem_singleton.mp hf]
    exact hg hclosed

theorem write_frame {bufSize : Nat} {w w' : BatchWriter α} {e : α} (h : w.write bufSize e = some w') :
    w.closed = false ∧ w'.closed = false ∧ w'.workers = w.workers := by
  unfold BatchWriter.write at h
  split at h
  · cases h
  · rename_i hopen
    have hfalse : w.closed = false := Bool.eq_false_iff.mpr hopen
    split at h
    · obtain rfl := Option.some.inj h
      exact ⟨hfalse, hfalse, rfl⟩
    · obtain rfl := Option.some.inj h
      exact ⟨hfalse, hfalse, rfl⟩

theorem write_eq_none {bufSize : Nat} {w : BatchWriter α} {e : α} (h : w.write bufSize e = none) : w.closed = true := by
  unfold BatchWriter.write at h
  split at h
  · assumption
  · split at h <;> cases h

theorem inv_write (h : Inv cfg s) {j : Nat} {s' : St α} (hs : stepAlive cfg s (.write j) = some s') : Inv cfg s' := by
  simp only [stepAlive] at hs
  split at hs
  · rename_i p e events hj
    have hmem := List.mem_of_getElem? hj
    split at hs
    · rename_i hnone
      have hnil := h.silent (write_eq_none hnone) _ hmem
      cases hnil
    · rename_i w hw
      obtain rfl := Option.some.inj hs
      obtain ⟨hopen, hopen', hworkers⟩ := write_frame hw
      refine ⟨h.writer.write hw, hworkers ▸ h.workers, h.noPanic, ?_, ?_, h.exited⟩
      · intro hclosed
        rw [hopen'] at hclosed
        cases hclosed
      · rw [hworkers]
        exact h.returned
  · cases hs

theorem inv_worker (h : Inv cfg s) {i : Nat} {ev : Ev} {w : BatchWriter α} (hw : s.writer.workerStep i ev = some w) :
    Inv cfg { s with writer := w } := by
  have hm := moves_of_workerStep hw
  obtain ⟨-, hclosed, hlen⟩ := hm.frame
  refine ⟨h.writer.moves hm, hlen.trans h.workers, h.noPanic, ?_, ?_, h.exited⟩
  · rw [hclosed]
    exact h.silent
  · -- a worker that has returned does not move
    intro hret
    have hk : s.writer.workers[i]? = none ∨ s.writer.workers[i]? = some .done := by
      cases hk : s.writer.workers[i]? with
      | none => exact Or.inl rfl
      | some k => exact Or.inr (by rw [h.returned hret k (List.mem_of_getElem? hk)])
    rw [workerStep_eq_none hk ev] at hw
    cases hw

theorem inv_clean (h : Inv cfg s) {c : Cleanup} {rest : List Cleanup} (hexited : s.exited = false)
    (hg : c = .core → ∀ f ∈ s.inFlight, f.events = []) : Inv cfg (clean s c rest) := by
  unfold clean
  split
  · rename_i hcore
    refine ⟨h.writer.close, h.workers, h.noPanic, fun _ => hg hcore, ?_, ?_⟩
    · intro hret
      cases hret
    · intro hex
      exact absurd hex (by simp [hexited])
  · exact ⟨h.writer, h.workers, h.noPanic, h.silent, h.returned, h.exited⟩

theorem inv_step (h : Inv cfg s) {l : Lbl α} {s' : St α} (hg : Meets s l) (hs : step cfg s l = some s') : Inv cfg s' := by
  obtain ⟨halive, hs⟩ := Option.ite_none_left_eq_some.mp hs
  have hexited : s.exited = false := Bool.eq_false_iff.mpr fun hex => halive (Or.inr hex)
  have hnot : ∀ {P : Prop}, s.exited = true → P := fun hex => absurd hex (by simp [hexited])
  cases l with
  | start p events =>
    obtain ⟨-, hs⟩ := Option.ite_none_left_eq_some.mp hs
    obtain rfl := Option.some.inj hs
    exact inv_start h hg p
  | write j => exact inv_write h hs
  | worker i ev =>
    obtain ⟨w, hw, rfl⟩ := Option.map_eq_some_iff.mp hs
    exact inv_worker h hw
  | signal =>
    obtain ⟨-, hs⟩ := Option.ite_none_right_eq_some.mp hs
    obtain rfl := Option.some.inj hs
    exact ⟨h.writer, h.workers, h.noPanic, h.silent, h.returned, h.exited⟩
  | cleanup =>
    simp only [stepAlive] at hs
    split at hs
    · rename_i c rest htodo
      obtain ⟨-, hs⟩ := Option.ite_none_left_eq_some.mp hs
      obtain rfl := Option.some.inj hs
      refine inv_clean h hexited fun hcore => hg ?_
      rw [htodo, hcore]
      rfl
    · cases hs
  | closeDone =>
    obtain ⟨⟨-, hdone⟩, hs⟩ := Option.ite_none_right_eq_some.mp hs
    obtain rfl := Option.some.inj hs
    refine ⟨h.writer, h.workers, h.noPanic, h.silent, fun _ => ?_, hnot⟩
    intro k hk
    have hmatch := hdone k hk
    cases k with
    | done => rfl
    | collecting batch => cases hmatch
    | flushing batch attempt last => cases hmatch
  | closeTimeout =>
    obtain ⟨-, hs⟩ := Option.ite_none_right_eq_some.mp hs
    obtain rfl := Option.some.inj hs
    exact ⟨h.writer, h.workers, h.noPanic, h.silent, nofun, hnot⟩
  | expired =>
    obtain ⟨-, hs⟩ := Option.ite_none_left_eq_some.mp hs
    obtain rfl := Option.some.inj hs
    exact ⟨h.writer, h.workers, h.noPanic, h.silent, h.returned, h.exited⟩
  | exit =>
    obtain ⟨-, hs⟩ := Option.ite_none_right_eq_some.mp hs
    obtain rfl := Option.some.inj hs
    exact ⟨h.writer, h.workers, h.noPanic, h.silent, h.returned, fun _ => hg⟩

theorem Inv.survives (h : Inv cfg s) : Survives s := by
  have hne : s.writer.workers ≠ [] := by
    intro hnil
    have hlen := h.workers
    rw [hnil] at hlen
    exact absurd hlen (Nat.ne_of_lt cfg.pos)
  have hclosed : s.close = .returned → s.writer.accepted.Perm (passed s.writer.calls) :=
    fun hret => h.writer.passed_of_done hne (h.returned hret)
  exact ⟨h.noPanic, h.writer.conserved, h.writer.retries, h.writer.calls_sized, h.writer.drains hne, hclosed,
    fun hex => hclosed (h.exited hex)⟩

end Steps

/-- Audit events survive every shutdown whose steps meet the condition. -/
theorem events_survive (cfg : Cfg) {s : St α} (h : ((sys cfg).restrict Meets).Reachable s) : Survives s := by
  have hind : ((sys cfg : LTS (St α) (Lbl α)).restrict Meets).Inductive (Inv cfg) := by
    refine LTS.Inductive.of_restrict ?_ fun s l s' hi hg hs => inv_step hi hg hs
    rintro s rfl
    exact inv_init
  exact (hind.reachable h).survives

/-! ## Runs -/

instance decidableMeets (s : St Nat) : (l : Lbl Nat) → Decidable (Meets s l)
  | .start _ events => inferInstanceAs (Decidable (s.writer.closed = true → events = []))
  | .cleanup => inferInstanceAs (Decidable (s.todo.bind List.head? = some .core → ∀ f ∈ s.inFlight, f.events = []))
  | .exit => inferInstanceAs (Decidable (s.close = .returned))
  | .write _ | .worker _ _ | .signal | .closeDone | .closeTimeout | .expired => .isTrue trivial

def production : Cfg := ⟨5000, 2, false, by decide⟩

/-- A message worker writes one event, and is done before the core is closed. -/
def orderly : List (Lbl Nat) :=
  [.start .message [1], .write 0, .signal, .cleanup, .cleanup, .worker 0 .receive, .worker 0 .receive,
    .worker 0 (.flush true), .worker 1 .receive, .closeDone, .cleanup, .cleanup]

theorem events_survive_orderly : ∃ s, LTS.exec (step production) (init production) orderly = some s ∧ Survives s := by
  have hrun : ∃ s, LTS.exec (step production) (init production) orderly = some s := by
    refine Option.isSome_iff_exists.mp ?_
    decide +kernel
  have hguard : LTS.Guarded (step production) Meets (init production) orderly := by decide +kernel
  obtain ⟨s, hexec⟩ := hrun
  exact ⟨s, hexec, events_survive production (LTS.exec_restrict_reachable hexec hguard)⟩

/-- The message worker is at a call when the signal comes: with the HTTP server shut down the core is closed next, and
the call's event is sent on the closed channel. -/
theorem write_after_close : ¬ ∀ s : St Nat, (sys production).Reachable s → Survives s := by
  intro hall
  have hrun : ((LTS.exec (step production) (init production)
      [.start .message [1], .signal, .cleanup, .cleanup, .write 0]).any St.panicked) = true := by
    decide +kernel
  obtain ⟨s, hexec, hpanic⟩ := (Option.any_eq_true _ _).mp hrun
  have hno := (hall s (LTS.exec_reachable hexec)).noPanic
  rw [hpanic] at hno
  cases hno

end PerGo.L4.AuditShutdown
