import PerGo.Core.LTS
import PerGo.Core.Pool

/-!
# The audit batch writer

`audit/batch.go`: `Write` puts an event in a buffered channel, or drops it when the
channel is full; a send on the closed channel panics. Each batch worker collects events and passes them
to `flush` when it has `batchSize`, when its ticker fires, and once more when the channel is closed and
empty. `flushWithRetry` calls `flush` again while that fails, `maxRetries` times at most.

`accepted` (what was put in the channel) and `calls` (of `flush`, with their answers) are ghosts.

* `Inv`: an event is in the channel, with one worker, or in the first call for one batch (`conserved`);
  `Inv.write`, `Inv.moves`, `Inv.close`.
* `Drains`, `Inv.drains`: left alone, the workers stop after finitely many moves, with every event passed
  to `flush`.
-/
namespace PerGo.L3.Audit

open PerGo.Core

def batchSize : Nat := 100

def maxRetries : Nat := 3

variable {α : Type}

/-- A goroutine of `worker`. -/
inductive Worker (α : Type)
  | collecting (batch : List α)
  /-- in `flushWithRetry`; `last` when the channel is closed -/
  | flushing (batch : List α) (attempt : Nat) (last : Bool)
  | done

structure Call (α : Type) where
  worker : Nat
  batch : List α
  attempt : Nat
  ok : Bool

structure BatchWriter (α : Type) where
  ch : List α
  closed : Bool
  workers : List (Worker α)
  accepted : List α
  calls : List (Call α)

/-- mirrors batch.go:28-50 -/
def newWriter (workers : Nat) : BatchWriter α := ⟨[], false, List.replicate workers (.collecting []), [], []⟩

/-- `none` is the panic of a send on a closed channel.
mirrors batch.go:60-72 -/
def BatchWriter.write (bufSize : Nat) (w : BatchWriter α) (e : α) : Option (BatchWriter α) :=
  if w.closed then none
  else if w.ch.length < bufSize then some { w with ch := w.ch ++ [e], accepted := w.accepted ++ [e] }
  else some w

/-- mirrors batch.go:75-77 -/
def BatchWriter.close (w : BatchWriter α) : BatchWriter α := { w with closed := true }

/-- After `flushWithRetry`. -/
def flushed (last : Bool) : Worker α := if last then .done else .collecting []

/-- mirrors batch.go:179-182 -/
def flushWithRetry (batch : List α) (last : Bool) : Worker α :=
  if batch.isEmpty then flushed last else .flushing batch 0 last

/-- mirrors batch.go:187-197 -/
def retried (batch : List α) (attempt : Nat) (last ok : Bool) : Worker α :=
  if ok ∨ attempt = maxRetries then flushed last else .flushing batch (attempt + 1) last

/-- mirrors batch.go:162-166 -/
def received (batch : List α) : Worker α :=
  if batchSize ≤ batch.length then flushWithRetry batch false else .collecting batch

inductive Ev
  | receive
  | tick
  | flush (ok : Bool)

/-- mirrors batch.go:147-205 -/
def BatchWriter.workerStep (w : BatchWriter α) (i : Nat) : Ev → Option (BatchWriter α)
  | .receive =>
    match w.workers[i]?, w.ch with
    | some (.collecting batch), e :: rest =>
      some { w with ch := rest, workers := w.workers.set i (received (batch ++ [e])) }
    | some (.collecting batch), [] =>
      if w.closed then some { w with workers := w.workers.set i (flushWithRetry batch true) } else none
    | _, _ => none
  | .tick =>
    match w.workers[i]? with
    | some (.collecting (e :: batch)) =>
      some { w with workers := w.workers.set i (flushWithRetry (e :: batch) false) }
    | _ => none
  | .flush ok =>
    match w.workers[i]? with
    | some (.flushing batch attempt last) =>
      some { w with calls := w.calls ++ [⟨i, batch, attempt, ok⟩],
                    workers := w.workers.set i (retried batch attempt last ok) }
    | _ => none

/-- What the worker at `i` can do. -/
inductive Moves (w : BatchWriter α) (i : Nat) : BatchWriter α → Prop
  | receive {batch rest : List α} {e : α} :
      w.workers[i]? = some (.collecting batch) → w.ch = e :: rest →
      Moves w i { w with ch := rest, workers := w.workers.set i (received (batch ++ [e])) }
  | drain {batch : List α} :
      w.workers[i]? = some (.collecting batch) → w.ch = [] → w.closed = true →
      Moves w i { w with workers := w.workers.set i (flushWithRetry batch true) }
  | tick {batch : List α} :
      w.workers[i]? = some (.collecting batch) → batch ≠ [] →
      Moves w i { w with workers := w.workers.set i (flushWithRetry batch false) }
  | flush {batch : List α} {attempt : Nat} {last : Bool} (ok : Bool) :
      w.workers[i]? = some (.flushing batch attempt last) →
      Moves w i { w with calls := w.calls ++ [⟨i, batch, attempt, ok⟩],
                         workers := w.workers.set i (retried batch attempt last ok) }

theorem moves_of_workerStep {w w' : BatchWriter α} {i : Nat} {ev : Ev} (h : w.workerStep i ev = some w') :
    Moves w i w' := by
  cases ev with
  | receive =>
    simp only [BatchWriter.workerStep] at h
    split at h
    · rename_i batch e rest hk hch
      obtain rfl := Option.some.inj h
      exact .receive hk hch
    · rename_i batch hk hch
      obtain ⟨hclosed, hsome⟩ := Option.ite_none_right_eq_some.mp h
      obtain rfl := Option.some.inj hsome
      exact .drain hk hch hclosed
    · cases h
  | tick =>
    simp only [BatchWriter.workerStep] at h
    split at h
    · rename_i e batch hk
      obtain rfl := Option.some.inj h
      exact .tick hk (List.cons_ne_nil e batch)
    · cases h
  | flush ok =>
    simp only [BatchWriter.workerStep] at h
    split at h
    · rename_i batch attempt last hk
      obtain rfl := Option.some.inj h
      exact .flush ok hk
    · cases h

/-! ## Where an event is -/

def Worker.held : Worker α → List α
  | .collecting batch => batch
  | .flushing batch 0 _ => batch
  | .flushing _ (_ + 1) _ => []
  | .done => []

def BatchWriter.held (w : BatchWriter α) : List α := w.workers.flatMap Worker.held

/-- What the calls that are no retries passed to `flush`. -/
def passed (calls : List (Call α)) : List α := calls.flatMap fun c => if c.attempt = 0 then c.batch else []

/-- `flush` is called again only with the batch that the call before, by the same worker, failed on. -/
def Retries (calls : List (Call α)) : Prop :=
  ∀ pre c post, calls = pre ++ c :: post → ∀ n, c.attempt = n + 1 →
    (pre.filter fun p => p.worker = c.worker).getLast? = some ⟨c.worker, c.batch, n, false⟩

def Call.Sized (c : Call α) : Prop := c.batch ≠ [] ∧ c.batch.length ≤ batchSize ∧ c.attempt ≤ maxRetries

def Worker.Sized : Worker α → Prop
  | .collecting batch => batch.length < batchSize
  | .flushing batch attempt _ => batch ≠ [] ∧ batch.length ≤ batchSize ∧ attempt ≤ maxRetries
  | .done => True

/-- The worker has seen the channel closed. -/
def Worker.Last : Worker α → Prop
  | .collecting _ => False
  | .flushing _ _ last => last = true
  | .done => True

structure BatchWriter.Inv (w : BatchWriter α) : Prop where
  conserved : w.accepted.Perm (w.ch ++ w.held ++ passed w.calls)
  sized : ∀ k ∈ w.workers, k.Sized
  calls_sized : ∀ c ∈ w.calls, c.Sized
  drained : ∀ k ∈ w.workers, k.Last → w.closed = true ∧ w.ch = []
  retries : Retries w.calls
  failed : ∀ i batch n last, w.workers[i]? = some (.flushing batch (n + 1) last) →
    (w.calls.filter fun p => p.worker = i).getLast? = some ⟨i, batch, n, false⟩

@[simp] theorem passed_append (calls : List (Call α)) (c : Call α) :
    passed (calls ++ [c]) = passed calls ++ if c.attempt = 0 then c.batch else [] := by
  simp [passed]

@[simp] theorem held_flushed (last : Bool) : (flushed last : Worker α).held = [] := by cases last <;> rfl

@[simp] theorem held_flushWithRetry (batch : List α) (last : Bool) : (flushWithRetry batch last).held = batch := by
  cases batch with
  | nil => exact held_flushed last
  | cons e batch => rfl

@[simp] theorem held_received (batch : List α) : (received batch).held = batch := by
  unfold received
  split
  · exact held_flushWithRetry batch false
  · rfl

@[simp] theorem held_retried (batch : List α) (attempt : Nat) (last ok : Bool) :
    (retried batch attempt last ok).held = [] := by
  unfold retried
  split
  · exact held_flushed last
  · rfl

theorem sized_flushed (last : Bool) : (flushed last : Worker α).Sized := by
  cases last
  · show 0 < batchSize
    decide
  · trivial

theorem sized_flushWithRetry {batch : List α} (h : batch.length ≤ batchSize) (last : Bool) :
    (flushWithRetry batch last).Sized := by
  cases batch with
  | nil => exact sized_flushed last
  | cons e batch => exact ⟨List.cons_ne_nil e batch, h, Nat.zero_le _⟩

theorem sized_received {batch : List α} (h : batch.length ≤ batchSize) : (received batch).Sized := by
  unfold received
  split
  · exact sized_flushWithRetry h false
  · rename_i hlt
    show batch.length < batchSize
    omega

theorem sized_retried {batch : List α} {attempt : Nat} {last : Bool}
    (h : (Worker.flushing batch attempt last).Sized) (ok : Bool) : (retried batch attempt last ok).Sized := by
  obtain ⟨hne, hlen, hle⟩ := h
  unfold retried
  split
  · exact sized_flushed last
  · rename_i hno
    refine ⟨hne, hlen, ?_⟩
    have hlt : attempt ≠ maxRetries := fun heq => hno (Or.inr heq)
    omega

theorem not_last_flushed : ¬ (flushed false : Worker α).Last := fun h => h

theorem not_last_flushWithRetry (batch : List α) : ¬ (flushWithRetry batch false).Last := by
  cases batch with
  | nil => exact not_last_flushed
  | cons e batch => exact Bool.false_ne_true

theorem not_last_received (batch : List α) : ¬ (received batch).Last := by
  unfold received
  split
  · exact not_last_flushWithRetry batch
  · exact fun h => h

theorem last_of_retried {batch : List α} {attempt : Nat} {last ok : Bool}
    (h : (retried batch attempt last ok).Last) : last = true := by
  unfold retried at h
  cases last with
  | true => rfl
  | false =>
    split at h
    · exact absurd h not_last_flushed
    · exact h

/-! ## The invariant -/

theorem inv_newWriter (workers : Nat) : (newWriter workers : BatchWriter α).Inv := by
  have hheld : (newWriter workers : BatchWriter α).held = [] :=
    List.flatMap_eq_nil_iff.mpr fun k hk => by rw [List.eq_of_mem_replicate hk]; rfl
  refine ⟨?_, ?_, ?_, ?_, ?_, ?_⟩
  · rw [hheld]
    exact List.Perm.nil
  · intro k hk
    rw [List.eq_of_mem_replicate hk]
    show 0 < batchSize
    decide
  · intro c hc
    exact absurd hc List.not_mem_nil
  · intro k hk hlast
    rw [List.eq_of_mem_replicate hk] at hlast
    exact absurd hlast id
  · intro pre c post h
    exact absurd (List.append_eq_nil_iff.mp h.symm).2 (List.cons_ne_nil c post)
  · intro i batch n last hk
    have hmem := List.mem_of_getElem? hk
    have heq := List.eq_of_mem_replicate hmem
    cases heq

theorem BatchWriter.Inv.write {w w' : BatchWriter α} (h : w.Inv) {bufSize : Nat} {e : α}
    (hw : w.write bufSize e = some w') : w'.Inv := by
  unfold BatchWriter.write at hw
  split at hw
  · cases hw
  · rename_i hopen
    split at hw
    · obtain rfl := Option.some.inj hw
      refine ⟨?_, h.sized, h.calls_sized, ?_, h.retries, h.failed⟩
      · have hperm : (w.ch ++ w.held ++ passed w.calls ++ [e]).Perm (w.ch ++ [e] ++ w.held ++ passed w.calls) := by
          simp only [List.append_assoc]
          refine List.Perm.append_left w.ch ?_
          rw [← List.append_assoc]
          exact List.perm_append_comm
        exact (h.conserved.append_right [e]).trans hperm
      · intro k hk hlast
        exact absurd (h.drained k hk hlast).1 hopen
    · obtain rfl := Option.some.inj hw
      exact h

theorem BatchWriter.Inv.close {w : BatchWriter α} (h : w.Inv) : w.close.Inv :=
  ⟨h.conserved, h.sized, h.calls_sized, fun k hk hlast => ⟨rfl, (h.drained k hk hlast).2⟩, h.retries, h.failed⟩

theorem BatchWriter.Inv.swap {w : BatchWriter α} (h : w.Inv) {i : Nat} {k : Worker α} (hk : w.workers[i]? = some k)
    {ch : List α} {new : Worker α} (hheld : (w.ch ++ k.held).Perm (ch ++ new.held)) (hsized : new.Sized)
    (hnew : ∀ batch n last, new ≠ .flushing batch (n + 1) last)
    (hdrained : ∀ k' ∈ w.workers.set i new, k'.Last → w.closed = true ∧ ch = []) :
    BatchWriter.Inv { w with ch := ch, workers := w.workers.set i new } := by
  refine ⟨?_, ?_, h.calls_sized, hdrained, h.retries, ?_⟩
  · classical
    refine List.perm_iff_count.mpr fun a => ?_
    have hold := h.conserved.count_eq a
    have hset := count_flatMap_set_add Worker.held hk new a
    have hmoved := hheld.count_eq a
    simp only [List.count_append] at hold hmoved
    show w.accepted.count a = (ch ++ (w.workers.set i new).flatMap Worker.held ++ passed w.calls).count a
    rw [BatchWriter.held] at hold
    simp only [List.count_append]
    omega
  · intro k' hk'
    rcases List.mem_or_eq_of_mem_set hk' with hk' | rfl
    · exact h.sized k' hk'
    · exact hsized
  · intro j batch n last hj
    by_cases hij : i = j
    · subst hij
      have heq : new = .flushing batch (n + 1) last := by
        have hlt : i < w.workers.length := (List.getElem?_eq_some_iff.mp hk).1
        rw [List.getElem?_set_self hlt] at hj
        exact Option.some.inj hj
      exact absurd heq (hnew batch n last)
    · rw [List.getElem?_set_ne hij] at hj
      exact h.failed j batch n last hj

theorem flushWithRetry_ne (batch : List α) (last : Bool) (batch' : List α) (n : Nat) (last' : Bool) :
    flushWithRetry batch last ≠ .flushing batch' (n + 1) last' := by
  intro h
  cases batch with
  | nil => cases last <;> cases h
  | cons e batch => cases h

theorem received_ne (batch batch' : List α) (n : Nat) (last' : Bool) :
    received batch ≠ .flushing batch' (n + 1) last' := by
  unfold received
  split
  · exact flushWithRetry_ne batch false batch' n last'
  · exact fun h => by cases h

theorem retried_eq {batch batch' : List α} {attempt n : Nat} {last last' ok : Bool}
    (h : retried batch attempt last ok = .flushing batch' (n + 1) last') : ok = false ∧ batch' = batch ∧ n = attempt := by
  unfold retried at h
  split at h
  · cases last <;> cases h
  · rename_i hno
    cases h
    have hok : ok ≠ true := fun hok => hno (Or.inl hok)
    exact ⟨Bool.eq_false_iff.mpr hok, rfl, rfl⟩

theorem Retries.append {calls : List (Call α)} (h : Retries calls) {c : Call α}
    (hc : ∀ n, c.attempt = n + 1 →
      (calls.filter fun p => p.worker = c.worker).getLast? = some ⟨c.worker, c.batch, n, false⟩) :
    Retries (calls ++ [c]) := by
  intro pre c' post hsplit n hn
  rcases append_singleton_split hsplit with ⟨-, rfl, rfl⟩ | ⟨post', -, hcalls⟩
  · exact hc n hn
  · exact h pre c' post' hcalls n hn

theorem BatchWriter.Inv.flush {w : BatchWriter α} (h : w.Inv) {i : Nat} {batch : List α} {attempt : Nat}
    {last : Bool} (ok : Bool) (hk : w.workers[i]? = some (.flushing batch attempt last)) :
    BatchWriter.Inv { w with calls := w.calls ++ [⟨i, batch, attempt, ok⟩],
                             workers := w.workers.set i (retried batch attempt last ok) } := by
  have hmem := List.mem_of_getElem? hk
  have hsize := h.sized _ hmem
  refine ⟨?_, ?_, ?_, ?_, ?_, ?_⟩
  · classical
    refine List.perm_iff_count.mpr fun a => ?_
    have hold := h.conserved.count_eq a
    have hset := count_flatMap_set_add Worker.held hk (retried batch attempt last ok) a
    rw [BatchWriter.held] at hold
    rw [held_retried] at hset
    simp only [List.count_append, List.count_nil] at hold hset
    show w.accepted.count a = (w.ch ++ (w.workers.set i (retried batch attempt last ok)).flatMap Worker.held ++
      passed (w.calls ++ [(⟨i, batch, attempt, ok⟩ : Call α)])).count a
    rw [passed_append]
    -- the first call takes the batch over, a retry passes nothing new
    cases attempt with
    | zero =>
      simp only [Worker.held, List.count_append, if_true] at hset ⊢
      omega
    | succ n =>
      simp only [Worker.held, List.count_append, List.count_nil, Nat.succ_ne_zero, if_false] at hset ⊢
      omega
  · intro k hk'
    rcases List.mem_or_eq_of_mem_set hk' with hk' | rfl
    · exact h.sized k hk'
    · exact sized_retried hsize ok
  · intro c hc
    rcases List.mem_append.mp hc with hc | hc
    · exact h.calls_sized c hc
    · obtain rfl := List.mem_singleton.mp hc
      exact hsize
  · intro k hk' hlast
    rcases List.mem_or_eq_of_mem_set hk' with hk' | rfl
    · exact h.drained k hk' hlast
    · exact h.drained _ hmem (last_of_retried hlast)
  · refine h.retries.append ?_
    intro n hn
    subst hn
    exact h.failed i batch n last hk
  · intro j batch' n last' hj
    by_cases hij : i = j
    · subst hij
      have hlt : i < w.workers.length := (List.getElem?_eq_some_iff.mp hk).1
      rw [List.getElem?_set_self hlt] at hj
      obtain ⟨rfl, rfl, rfl⟩ := retried_eq (Option.some.inj hj)
      show ((w.calls ++ [(⟨i, batch', n, false⟩ : Call α)]).filter fun p => p.worker = i).getLast? = _
      rw [List.filter_append, List.filter_cons_of_pos (by simp), List.filter_nil, List.getLast?_concat]
    · rw [List.getElem?_set_ne hij] at hj
      have hold := h.failed j batch' n last' hj
      show ((w.calls ++ [(⟨i, batch, attempt, ok⟩ : Call α)]).filter fun p => p.worker = j).getLast? = _
      rw [List.filter_append, List.filter_cons_of_neg (by simpa using hij), List.filter_nil, List.append_nil]
      exact hold

/-- The other workers have seen what `w` says of the channel. -/
theorem BatchWriter.Inv.drained_set {w : BatchWriter α} (h : w.Inv) {i : Nat} {new : Worker α} {ch : List α}
    (hnew : new.Last → w.closed = true ∧ ch = []) (hch : w.ch = [] → ch = []) :
    ∀ k ∈ w.workers.set i new, k.Last → w.closed = true ∧ ch = [] := by
  intro k hk hlast
  rcases List.mem_or_eq_of_mem_set hk with hk | rfl
  · exact ⟨(h.drained k hk hlast).1, hch (h.drained k hk hlast).2⟩
  · exact hnew hlast

theorem BatchWriter.Inv.moves {w w' : BatchWriter α} (h : w.Inv) {i : Nat} (hm : Moves w i w') : w'.Inv := by
  cases hm with
  | @receive batch rest e hk hch =>
    have hlen : (batch ++ [e]).length ≤ batchSize := by
      have hlt : batch.length < batchSize := h.sized _ (List.mem_of_getElem? hk)
      simp only [List.length_append, List.length_singleton]
      omega
    refine h.swap hk ?_ (sized_received hlen) (received_ne _) (h.drained_set ?_ ?_)
    · rw [held_received, hch]
      show (e :: rest ++ batch).Perm (rest ++ (batch ++ [e]))
      rw [← List.append_assoc]
      exact (List.perm_append_singleton e (rest ++ batch)).symm
    · exact fun hlast => absurd hlast (not_last_received _)
    · exact fun hnil => absurd hnil (by rw [hch]; exact List.cons_ne_nil e rest)
  | @drain batch hk hch hclosed =>
    have hlt : batch.length < batchSize := h.sized _ (List.mem_of_getElem? hk)
    refine h.swap hk ?_ (sized_flushWithRetry (by omega) true) (flushWithRetry_ne batch true) (h.drained_set ?_ id)
    · rw [held_flushWithRetry]
      exact List.Perm.refl _
    · exact fun _ => ⟨hclosed, hch⟩
  | @tick batch hk hne =>
    have hlt : batch.length < batchSize := h.sized _ (List.mem_of_getElem? hk)
    refine h.swap hk ?_ (sized_flushWithRetry (by omega) false) (flushWithRetry_ne batch false) (h.drained_set ?_ id)
    · rw [held_flushWithRetry]
      exact List.Perm.refl _
    · exact fun hlast => absurd hlast (not_last_flushWithRetry batch)
  | flush ok hk => exact h.flush ok hk

/-! ## Draining -/

def BatchWriter.run : BatchWriter α → List (Nat × Ev) → Option (BatchWriter α)
  | w, [] => some w
  | w, (i, ev) :: evs => (w.workerStep i ev).bind fun w' => w'.run evs

/-- Left alone the workers stop, and then all that was put in the channel was passed to `flush`. -/
def Drains (w : BatchWriter α) : Prop :=
  ∃ bound, ∀ evs w', w.run evs = some w' → evs.length ≤ bound ∧
    ((∀ i ev, w'.workerStep i ev = none) → w.accepted.Perm (passed w'.calls))

/-- How many moves a worker can still make, without new events. -/
def Worker.weight : Worker α → Nat
  | .collecting batch => 6 * batch.length + 1
  | .flushing _ attempt _ => (maxRetries - attempt) + 2
  | .done => 0

def BatchWriter.weight (w : BatchWriter α) : Nat := 7 * w.ch.length + (w.workers.map Worker.weight).sum

theorem weight_flushed (last : Bool) : (flushed last : Worker α).weight ≤ 1 := by
  cases last
  · exact Nat.le_refl 1
  · exact Nat.zero_le 1

theorem weight_received (batch : List α) (e : α) : (received (batch ++ [e])).weight ≤ 6 * batch.length + 7 := by
  unfold received
  split
  · cases batch with
    | nil => exact Nat.le_of_ble_eq_true rfl
    | cons e' batch =>
      show 5 ≤ _
      omega
  · show 6 * (batch ++ [e]).length + 1 ≤ _
    simp only [List.length_append, List.length_singleton]
    omega

theorem weight_retried {batch : List α} {attempt : Nat} (last ok : Bool) (h : attempt ≤ maxRetries) :
    (retried batch attempt last ok).weight < (Worker.flushing batch attempt last).weight := by
  unfold retried
  split
  · have hle : (flushed last : Worker α).weight ≤ 1 := weight_flushed last
    show _ < (maxRetries - attempt) + 2
    omega
  · rename_i hno
    have hne : attempt ≠ maxRetries := fun heq => hno (Or.inr heq)
    show (maxRetries - (attempt + 1)) + 2 < (maxRetries - attempt) + 2
    omega

theorem weight_swap {w : BatchWriter α} {i : Nat} {k : Worker α} (hk : w.workers[i]? = some k) (ch : List α)
    {new : Worker α} (hlt : 7 * ch.length + new.weight < 7 * w.ch.length + k.weight) :
    7 * ch.length + ((w.workers.set i new).map Worker.weight).sum < w.weight := by
  have hset := sum_map_set_add Worker.weight hk new
  unfold BatchWriter.weight
  omega

theorem weight_moves {w w' : BatchWriter α} (h : w.Inv) {i : Nat} (hm : Moves w i w') : w'.weight < w.weight := by
  cases hm with
  | @receive batch rest e hk hch =>
    refine weight_swap hk rest ?_
    have hle := weight_received batch e
    show _ < _ + (6 * batch.length + 1)
    rw [hch, List.length_cons]
    omega
  | @drain batch hk hch hclosed =>
    refine weight_swap hk w.ch (Nat.add_lt_add_left ?_ _)
    cases batch with
    | nil => exact Nat.zero_lt_one
    | cons e batch =>
      show 5 < 6 * (batch.length + 1) + 1
      omega
  | @tick batch hk hne =>
    refine weight_swap hk w.ch (Nat.add_lt_add_left ?_ _)
    cases batch with
    | nil => exact absurd rfl hne
    | cons e batch =>
      show 5 < 6 * (batch.length + 1) + 1
      omega
  | @flush batch attempt last ok hk =>
    have hle : attempt ≤ maxRetries := (h.sized _ (List.mem_of_getElem? hk)).2.2
    exact weight_swap hk w.ch (Nat.add_lt_add_left (weight_retried last ok hle) _)

/-- Workers that cannot move hold nothing, and have left nothing in the channel. -/
theorem passed_of_stuck {w : BatchWriter α} (h : w.Inv) (hw : w.workers ≠ [])
    (hstuck : ∀ i ev, w.workerStep i ev = none) : w.accepted.Perm (passed w.calls) := by
  have hidle : ∀ k ∈ w.workers, k = .done ∨ (k = .collecting [] ∧ w.ch = []) := by
    intro k hk
    obtain ⟨i, hi⟩ := List.getElem?_of_mem hk
    cases k with
    | done => exact Or.inl rfl
    | flushing batch attempt last =>
      have hno := hstuck i (.flush true)
      simp [BatchWriter.workerStep, hi] at hno
    | collecting batch =>
      cases batch with
      | cons e batch =>
        have hno := hstuck i .tick
        simp [BatchWriter.workerStep, hi] at hno
      | nil =>
        cases hch : w.ch with
        | nil => exact Or.inr ⟨rfl, rfl⟩
        | cons e rest =>
          have hno := hstuck i .receive
          simp [BatchWriter.workerStep, hi, hch] at hno
  have hheld : w.held = [] := by
    refine List.flatMap_eq_nil_iff.mpr fun k hk => ?_
    obtain rfl | ⟨rfl, -⟩ := hidle k hk
    · rfl
    · rfl
  have hch : w.ch = [] := by
    obtain ⟨k, rest, hcons⟩ := List.exists_cons_of_ne_nil hw
    have hk : k ∈ w.workers := by simp [hcons]
    obtain rfl | ⟨-, hch⟩ := hidle k hk
    · exact (h.drained _ hk trivial).2
    · exact hch
  have hperm := h.conserved
  rw [hch, hheld] at hperm
  exact hperm

theorem Moves.frame {w w' : BatchWriter α} {i : Nat} (hm : Moves w i w') :
    w'.accepted = w.accepted ∧ w'.closed = w.closed ∧ w'.workers.length = w.workers.length := by
  cases hm <;> exact ⟨rfl, rfl, List.length_set⟩

theorem BatchWriter.Inv.drains {w : BatchWriter α} (h : w.Inv) (hw : w.workers ≠ []) : Drains w := by
  refine ⟨w.weight, fun evs => ?_⟩
  induction evs generalizing w with
  | nil =>
    intro w' hrun
    obtain rfl := Option.some.inj hrun
    exact ⟨Nat.zero_le _, passed_of_stuck h hw⟩
  | cons p evs ih =>
    intro w' hrun
    obtain ⟨w₁, hstep, hrest⟩ := Option.bind_eq_some_iff.mp hrun
    have hm := moves_of_workerStep hstep
    obtain ⟨hacc, -, hlen⟩ := hm.frame
    have hw₁ : w₁.workers ≠ [] := by
      intro hnil
      rw [hnil] at hlen
      exact hw (List.length_eq_zero_iff.mp hlen.symm)
    obtain ⟨hle, hpassed⟩ := ih (h.moves hm) hw₁ w' hrest
    have hlt := weight_moves h hm
    rw [hacc] at hpassed
    refine ⟨?_, hpassed⟩
    rw [List.length_cons]
    omega

theorem workerStep_eq_none {w : BatchWriter α} {i : Nat} (h : w.workers[i]? = none ∨ w.workers[i]? = some .done)
    (ev : Ev) : w.workerStep i ev = none := by
  rcases h with h | h
  · cases ev <;> simp [BatchWriter.workerStep, h]
  · cases ev <;> simp [BatchWriter.workerStep, h]

theorem BatchWriter.Inv.passed_of_done {w : BatchWriter α} (h : w.Inv) (hw : w.workers ≠ [])
    (hdone : ∀ k ∈ w.workers, k = .done) : w.accepted.Perm (passed w.calls) := by
  refine passed_of_stuck h hw ?_
  intro i ev
  refine workerStep_eq_none ?_ ev
  cases hk : w.workers[i]? with
  | none => exact Or.inl rfl
  | some k => exact Or.inr (by rw [hdone k (List.mem_of_getElem? hk)])

end PerGo.L3.Audit
