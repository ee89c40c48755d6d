import PerGo.Core.Pool
import PerGo.L3Queue.JetStream
import PerGo.L3Queue.Worker
import PerGo.L4App.DispatchRun
import PerGo.L4App.TemplateGate

/-!
# The queue depth of a workspace

Is a workspace with an empty queue ever refused for backpressure? `Ingest` publishes and
then increments the counter of its workspace, a worker acks and then decrements it, and
the counter stops at 0. So a unit leaks when

* a worker is done with a message before its `Ingest` call counts it, and finds a counter
  of 0;
* the publish was dropped as a duplicate, and is counted all the same;
* a message goes without a decrement: its payload does not decode, another delivery holds
  the claim on it, or the stream drops it for its age.

The calls of `Ingest` and of the worker take one step at a time, in any order. `left` counts the messages
of a workspace whose decrement is yet to come: those in the queue, and those that were acked
by a call that has not decremented. `Exact` excludes the three steps above, each by what
it looks like before it is taken.

* `depth_settles`: in a run of `Exact` steps the counter of a workspace is at most the
  number of acks that wait for their decrement, once no `Ingest` call of it is running and no
  message of it is in the queue; then it is 0 when those workers are done, and refuses
  nothing.
-/
namespace PerGo.L4.QueueDepth

open PerGo.Core PerGo.L1 PerGo.L2 PerGo.L3 PerGo.L3.Recorder PerGo.L3.Outbound PerGo.L3.MessageWorker
open PerGo.L4.TemplateGate

/-! ## QueueDepthTracker -/

abbrev Depths := UUID → Nat

/-- mirrors middleware/ratelimit.go:87-91 -/
def increment (d : Depths) (ws : UUID) : Depths := fun id => if id = ws then d id + 1 else d id

/-- Stops at 0. mirrors ratelimit.go:93-106 -/
def decrement (d : Depths) (ws : UUID) : Depths := fun id => if id = ws then d id - 1 else d id

@[simp] theorem increment_self (d : Depths) (ws : UUID) : increment d ws ws = d ws + 1 := if_pos rfl

theorem increment_of_ne (d : Depths) {ws id : UUID} (h : id ≠ ws) : increment d ws id = d id := if_neg h

@[simp] theorem decrement_self (d : Depths) (ws : UUID) : decrement d ws ws = d ws - 1 := if_pos rfl

theorem decrement_of_ne (d : Depths) {ws id : UUID} (h : id ≠ ws) : decrement d ws id = d id := if_neg h

/-- mirrors ratelimit.go:114-117 -/
def exceeds (d : Depths) (ws : UUID) (limit : Nat) : Bool := d ws ≥ limit

/-! ## The system -/

/-- A message the stream took; `gone` when it was acked, or dropped for its age. -/
structure Stored where
  msg : DedupStream.Msg QueueMessage
  gone : Bool

def Stored.ws (m : Stored) : UUID := m.msg.payload.workspaceID

/-- An `Ingest` call: before its publish, and between the publish and the counter. -/
inductive IngestCall
  | publishing (q : QueueMessage)
  | counting (ws : UUID)
deriving DecidableEq

def IngestCall.ws : IngestCall → UUID
  | .publishing q => q.workspaceID
  | .counting ws => ws

structure WorkerCall where
  seq : Nat
  skips : Bool
  todo : List Effect

structure St where
  now : Time
  depth : Depths
  stream : List Stored
  ingests : List IngestCall
  workers : List WorkerCall

/-- What `Publish` is told: the ack arrives, gets lost, or the message was not taken. -/
inductive Reply
  | ok
  | lost
  | refused
deriving DecidableEq

inductive Lbl
  | tick (d : Nat)
  | start (env : IngestEnv) (db : ChatDB) (ws : UUID) (trace : String) (req : CreateMessageRequest)
  | publish (k : Nat) (reply : Reply)
  | count (k : Nat)
  | receive (seq : Nat) (env : WorkerEnv)
  /-- the next effect of a worker call; `lost`: an ack that does not arrive -/
  | work (k : Nat) (lost : Bool)
  | expire (seq : Nat)
  | restart

def init : St := ⟨0, fun _ => 0, [], [], []⟩

/-- What the stream is sent for a message. mirrors outbound/processor.go:407-417 -/
def wireMsg (s : St) (q : QueueMessage) : DedupStream.Msg QueueMessage :=
  publishMsg "messages.outbound" (q.requeued.getD q) q.traceID s.now

def Duplicate (s : St) (q : QueueMessage) : Prop :=
  ∃ m ∈ s.stream.map (·.msg), DedupStream.Hides duplicateWindow m (wireMsg s q)

instance (s : St) (q : QueueMessage) : Decidable (Duplicate s q) := inferInstanceAs (Decidable (∃ m ∈ _, _))

def published (s : St) (q : QueueMessage) : List Stored :=
  if Duplicate s q then s.stream else s.stream ++ [⟨wireMsg s q, false⟩]

def removed (stream : List Stored) (seq : Nat) : List Stored :=
  match stream[seq]? with
  | some m => stream.set seq { m with gone := true }
  | none => stream

/-- `MaxAge` of the stream. mirrors queue/jetstream.go:41 -/
def maxAge : Int := 24 * hour

def effect (s : St) (seq : Nat) (lost : Bool) : Effect → St
  | .ack => if lost then s else { s with stream := removed s.stream seq }
  | .decrement ws => { s with depth := decrement s.depth ws }
  | _ => s

section System

variable (p : Processor) (wk : Worker)

def step (s : St) : Lbl → Option St
  | .tick d => some { s with now := s.now + d }
  | .start env db ws trace req =>
    match ingest p { env with exceeds := exceeds s.depth ws 1000, publishErr := none } db ws trace req with
    | .ok (q, _) => some { s with ingests := s.ingests ++ [.publishing q] }
    | .error _ => some s
  | .publish k reply =>
    match s.ingests[k]? with
    | some (.publishing q) =>
      if !p.publisher then some { s with ingests := s.ingests.set k (.counting q.workspaceID) }
      else match reply with
        | .ok => some { s with stream := published s q, ingests := s.ingests.set k (.counting q.workspaceID) }
        | .lost => some { s with stream := published s q, ingests := s.ingests.eraseIdx k }
        | .refused => some { s with ingests := s.ingests.eraseIdx k }
    | _ => none
  | .count k =>
    match s.ingests[k]? with
    | some (.counting ws) =>
      let depth := if p.tracker && ws ≠ UUID.Nil then increment s.depth ws else s.depth
      some { s with depth := depth, ingests := s.ingests.eraseIdx k }
    | _ => none
  | .receive seq env =>
    match s.stream[seq]? with
    | some m =>
      if m.gone then none
      else
        let call := ⟨seq, skipsCounter wk env m.msg.payload, processMessage wk env m.msg.payload⟩
        some { s with workers := s.workers ++ [call] }
    | none => none
  | .work k lost =>
    match s.workers[k]? with
    | some ⟨seq, skips, e :: rest⟩ =>
      some (effect { s with workers := s.workers.set k ⟨seq, skips, rest⟩ } seq lost e)
    | _ => none
  | .expire seq =>
    match s.stream[seq]? with
    | some m => if m.msg.time + maxAge ≤ s.now then some { s with stream := removed s.stream seq } else none
    | none => none
  | .restart => some { s with depth := fun _ => 0, ingests := [], workers := [] }

def sys : LTS St Lbl := LTS.ofFn init (step p wk)

end System

/-! ## What is left to decrement -/

section Counts

variable (stream : List Stored) (ingests : List IngestCall) (workers : List WorkerCall) (ws : UUID)

def goneAt (seq : Nat) : Bool := stream[seq]?.any (·.gone)

/-- `Ingest` calls that have published and not counted. -/
def uncounted : Nat := ingests.countP fun c => c = .counting ws

def unacked : Nat := stream.countP fun m => !m.gone && m.ws = ws

/-- Worker calls that have a decrement to do for a message that has left the queue. -/
def owed : Nat := workers.countP fun c => goneAt stream c.seq && .decrement ws ∈ c.todo

def left : Nat := unacked stream ws + owed stream workers ws

/-- If the message leaves the queue now, a worker call will decrement for it. -/
def covered (seq : Nat) : Bool :=
  match stream[seq]? with
  | none => true
  | some m => m.gone || m.ws = UUID.Nil || workers.any fun c => c.seq = seq && .decrement m.ws ∈ c.todo

end Counts

/-- The steps that do not leak a unit. -/
def Exact (p : Processor) (s : St) : Lbl → Prop
  | .publish k reply => match s.ingests[k]? with
    | some (.publishing q) =>
      q.workspaceID = UUID.Nil ∨ (p.publisher = true ∧ (reply = .ok → ¬Duplicate s q))
    | _ => True
  | .work k lost => match s.workers[k]? with
    | some ⟨seq, true, .ack :: _⟩ => lost = true ∨ covered s.stream s.workers seq = true
    | some ⟨seq, _, .decrement ws :: _⟩ =>
      goneAt s.stream seq = true → 0 < s.depth ws ∨ uncounted s.ingests ws < left s.stream s.workers ws
    | _ => True
  | .expire seq => covered s.stream s.workers seq = true
  | _ => True

instance (p : Processor) (s : St) (l : Lbl) : Decidable (Exact p s l) := by
  unfold Exact
  split <;> (try split) <;> infer_instance

/-! ## The invariant -/

section Counts

variable {stream : List Stored} {ingests : List IngestCall} {workers : List WorkerCall} {ws : UUID}

theorem goneAt_append (m : Stored) (hm : m.gone = false) (seq : Nat) :
    goneAt (stream ++ [m]) seq = goneAt stream seq := by
  unfold goneAt
  rw [List.getElem?_append]
  split
  · rfl
  · rename_i hlen
    rw [List.getElem?_eq_none (Nat.le_of_not_lt hlen)]
    cases hat : [m][seq - stream.length]? with
    | none => rfl
    | some m' =>
      have hmem := List.mem_of_getElem? hat
      rw [List.mem_singleton.mp hmem]
      exact hm

theorem left_append (m : Stored) (hm : m.gone = false) :
    left (stream ++ [m]) workers ws = left stream workers ws + if m.ws = ws then 1 else 0 := by
  have howed : owed (stream ++ [m]) workers ws = owed stream workers ws := by
    unfold owed
    simp only [goneAt_append m hm]
  have hunacked : unacked (stream ++ [m]) ws = unacked stream ws + if m.ws = ws then 1 else 0 := by
    simp [unacked, List.countP_append, List.countP_singleton, hm]
  unfold left
  omega

theorem goneAt_removed {m : Stored} {seq : Nat} (h : stream[seq]? = some m) (seq' : Nat) :
    goneAt (removed stream seq) seq' = if seq' = seq then true else goneAt stream seq' := by
  have hlt : seq < stream.length := (List.getElem?_eq_some_iff.mp h).1
  unfold goneAt removed
  rw [h]
  simp only [List.getElem?_set]
  by_cases heq : seq = seq'
  · subst heq
    simp [hlt]
  · simp [heq, Ne.symm heq]

theorem left_removed {seq : Nat} (hcov : covered stream workers seq = true) (hws : ws ≠ UUID.Nil) :
    left stream workers ws ≤ left (removed stream seq) workers ws := by
  cases h : stream[seq]? with
  | none =>
    have hsame : removed stream seq = stream := by
      unfold removed
      rw [h]
    rw [hsame]
  | some m =>
    have hset : removed stream seq = stream.set seq { m with gone := true } := by
      unfold removed
      rw [h]
    have hunacked := countP_set_add (fun m : Stored => !m.gone && decide (m.ws = ws)) h { m with gone := true }
    have hmono : ∀ c ∈ workers, (goneAt stream c.seq && decide (.decrement ws ∈ c.todo)) = true →
        (goneAt (removed stream seq) c.seq && decide (.decrement ws ∈ c.todo)) = true := by
      intro c _ hc
      rw [goneAt_removed h]
      split
      · exact Bool.and_eq_true_iff.mpr ⟨rfl, (Bool.and_eq_true_iff.mp hc).2⟩
      · exact hc
    have howed : owed stream workers ws ≤ owed (removed stream seq) workers ws := List.countP_mono_left hmono
    by_cases hlost : m.gone = false ∧ m.ws = ws
    · -- the call that covers it is owed now, and was not
      have hc : workers.any (fun c => c.seq = seq && .decrement ws ∈ c.todo) = true := by
        simpa [covered, h, hlost.1, hlost.2, hws] using hcov
      obtain ⟨c, hmem, hc⟩ := List.any_eq_true.mp hc
      simp only [Bool.and_eq_true, decide_eq_true_eq] at hc
      obtain ⟨k, hk⟩ := List.getElem?_of_mem hmem
      have hnew : (goneAt (removed stream seq) c.seq && decide (.decrement ws ∈ c.todo)) = true := by
        rw [goneAt_removed h, if_pos hc.1]
        simpa using hc.2
      have hold : (goneAt stream c.seq && decide (.decrement ws ∈ c.todo)) = false := by
        rw [hc.1]
        simp [goneAt, h, hlost.1]
      have hrest : (workers.eraseIdx k).countP (fun c => goneAt stream c.seq && decide (.decrement ws ∈ c.todo)) ≤
          (workers.eraseIdx k).countP fun c => goneAt (removed stream seq) c.seq && decide (.decrement ws ∈ c.todo) :=
        List.countP_mono_left fun c' hc' => hmono c' (List.mem_of_mem_eraseIdx hc')
      have h1 := countP_eraseIdx_add (fun c => goneAt stream c.seq && decide (.decrement ws ∈ c.todo)) hk
      have h2 := countP_eraseIdx_add (fun c => goneAt (removed stream seq) c.seq && decide (.decrement ws ∈ c.todo)) hk
      simp only [hold, hnew, Bool.false_eq_true, if_false, if_true] at h1 h2
      simp only [hlost.1, hlost.2, Bool.not_false, Bool.not_true, Bool.true_and, Bool.false_and, decide_true,
        Bool.false_eq_true, if_true, if_false] at hunacked
      unfold left unacked owed
      rw [hset] at h2 hrest ⊢
      omega
    · have hnot : (!m.gone && decide (m.ws = ws)) = false := by
        rw [← Bool.not_eq_true]
        intro hcon
        exact hlost (by simpa using hcon)
      simp only [hnot, Bool.not_true, Bool.false_and, Bool.false_eq_true, if_false] at hunacked
      unfold left unacked
      rw [hset] at howed ⊢
      omega

variable (stream ws) in
theorem left_advance {k seq : Nat} {skips : Bool} {e : Effect} {rest : List Effect}
    (h : workers[k]? = some ⟨seq, skips, e :: rest⟩) :
    left stream workers ws ≤ left stream (workers.set k ⟨seq, skips, rest⟩) ws +
      if goneAt stream seq = true ∧ e = .decrement ws then 1 else 0 := by
  have hcount := countP_set_add (fun c : WorkerCall => goneAt stream c.seq && decide (.decrement ws ∈ c.todo)) h
    ⟨seq, skips, rest⟩
  unfold left owed
  by_cases hgone : goneAt stream seq = true
  · by_cases he : e = .decrement ws
    · simp only [hgone, he, and_self, if_true]
      split at hcount <;> split at hcount <;> omega
    · have hiff : Effect.decrement ws ∈ e :: rest ↔ Effect.decrement ws ∈ rest := by
        rw [List.mem_cons]
        exact ⟨fun hm => hm.resolve_left (Ne.symm he), .inr⟩
      simp only [hgone, hiff] at hcount
      simp only [he, and_false, if_false]
      omega
  · have hfalse : goneAt stream seq = false := by simpa using hgone
    simp only [hfalse, Bool.false_and, Bool.false_eq_true, if_false, false_and] at hcount ⊢
    omega

theorem left_receive (c : WorkerCall) : left stream workers ws ≤ left stream (workers ++ [c]) ws := by
  unfold left owed
  rw [List.countP_append]
  omega

def CallOk (stream : List Stored) (c : WorkerCall) : Prop :=
  ∃ m, stream[c.seq]? = some m ∧
    (c.skips = false → m.ws ≠ UUID.Nil → settling c.todo <:+ [.ack, .decrement m.ws])

theorem CallOk.append {c : WorkerCall} (h : CallOk stream c) (m : Stored) : CallOk (stream ++ [m]) c := by
  obtain ⟨m₀, hm₀, hc⟩ := h
  exact ⟨m₀, (List.getElem?_append_left (List.getElem?_eq_some_iff.mp hm₀).1).trans hm₀, hc⟩

theorem CallOk.removed {c : WorkerCall} (h : CallOk stream c) (seq : Nat) : CallOk (removed stream seq) c := by
  unfold QueueDepth.removed
  cases hseq : stream[seq]? with
  | none => exact h
  | some m =>
    obtain ⟨m₀, hm₀, hc⟩ := h
    by_cases heq : seq = c.seq
    · have hm : m = m₀ := Option.some.inj (hseq.symm.trans (heq ▸ hm₀))
      refine ⟨{ m with gone := true }, ?_, ?_⟩
      · rw [← heq]
        exact List.getElem?_set_self (List.getElem?_eq_some_iff.mp hseq).1
      · subst hm
        exact hc
    · exact ⟨m₀, (List.getElem?_set_ne heq).trans hm₀, hc⟩

theorem CallOk.advance {seq : Nat} {skips : Bool} {e : Effect} {rest : List Effect}
    (h : CallOk stream ⟨seq, skips, e :: rest⟩) : CallOk stream ⟨seq, skips, rest⟩ := by
  obtain ⟨m, hm, hc⟩ := h
  refine ⟨m, hm, fun hskip hws => List.IsSuffix.trans ?_ (hc hskip hws)⟩
  unfold settling
  rw [List.filter_cons]
  split
  · exact List.suffix_cons ..
  · exact List.suffix_rfl

theorem covered_ack {k seq : Nat} {rest : List Effect} (hk : workers[k]? = some ⟨seq, false, .ack :: rest⟩)
    (hcall : CallOk stream ⟨seq, false, .ack :: rest⟩) : covered stream workers seq = true := by
  obtain ⟨m, hm, hc⟩ := hcall
  unfold covered
  rw [hm]
  by_cases hws : m.ws = UUID.Nil
  · simp [hws]
  · have hsuffix := hc rfl hws
    have hsettling : settling (.ack :: rest) = .ack :: settling rest := rfl
    rw [hsettling] at hsuffix
    have hlen := hsuffix.length_le
    have hdec : .decrement m.ws ∈ settling rest := by
      rcases List.suffix_cons_iff.mp hsuffix with heq | hlater
      · rw [(List.cons.inj heq).2]
        exact List.mem_singleton_self _
      · rcases List.suffix_cons_iff.mp hlater with heq | hnil
        · cases (List.cons.inj heq).1
        · exact absurd (List.suffix_nil.mp hnil) (List.cons_ne_nil _ _)
    have hany : workers.any (fun c => c.seq = seq && .decrement m.ws ∈ c.todo) = true := by
      refine List.any_eq_true.mpr ⟨_, List.mem_of_getElem? hk, ?_⟩
      have hrest : .decrement m.ws ∈ rest := (List.mem_filter.mp hdec).1
      simp [hrest]
    simp [hany]

theorem covered_advance {k seq seq' : Nat} {skips : Bool} {rest : List Effect}
    (hk : workers[k]? = some ⟨seq, skips, .ack :: rest⟩) (hcov : covered stream workers seq' = true) :
    covered stream (workers.set k ⟨seq, skips, rest⟩) seq' = true := by
  unfold covered at hcov ⊢
  cases hm : stream[seq']? with
  | none => rfl
  | some m =>
    rw [hm] at hcov
    simp only [Bool.or_eq_true] at hcov ⊢
    refine hcov.imp_right fun hany => ?_
    obtain ⟨c, hc, hdec⟩ := List.any_eq_true.mp hany
    simp only [Bool.and_eq_true, decide_eq_true_eq] at hdec
    refine List.any_eq_true.mpr ?_
    by_cases heq : c = ⟨seq, skips, .ack :: rest⟩
    · subst heq
      have hrest : .decrement m.ws ∈ rest := (List.mem_cons.mp hdec.2).resolve_left (by intro h; cases h)
      exact ⟨_, mem_set_self hk _, by simpa [hrest] using hdec.1⟩
    · exact ⟨c, mem_set_of_ne hk hc heq _, by simp [hdec.1, hdec.2]⟩

end Counts

structure Inv (s : St) : Prop where
  /-- messages without a workspace are not counted -/
  nil : s.depth UUID.Nil = 0
  counts : ∀ ws, ws ≠ UUID.Nil → s.depth ws + uncounted s.ingests ws ≤ left s.stream s.workers ws
  calls : ∀ c ∈ s.workers, CallOk s.stream c

theorem inv_init : Inv init := ⟨rfl, fun _ _ => Nat.zero_le _, by simp [init]⟩

section Steps

variable {p : Processor} {wk : Worker} {s s' : St}

theorem wireMsg_payload (s : St) (q : QueueMessage) : (wireMsg s q).payload.workspaceID = q.workspaceID := by
  show (q.requeued.getD q).workspaceID = q.workspaceID
  cases h : q.requeued with
  | none => rfl
  | some q' =>
    obtain ⟨interactive, heq, -⟩ := QueueMessage.requeued_eq h
    rw [Option.getD_some, heq]

theorem left_published (s : St) (q : QueueMessage) (ws : UUID) :
    left s.stream s.workers ws + (if ¬Duplicate s q ∧ q.workspaceID = ws then 1 else 0) =
      left (published s q) s.workers ws := by
  unfold published
  by_cases hdup : Duplicate s q
  · rw [if_pos hdup, if_neg (fun h => h.1 hdup), Nat.add_zero]
  · have hws : Stored.ws ⟨wireMsg s q, false⟩ = q.workspaceID := wireMsg_payload s q
    rw [if_neg hdup, left_append ⟨wireMsg s q, false⟩ rfl, hws]
    simp only [hdup, not_false_eq_true, true_and]

theorem callOk_published {q : QueueMessage} {c : WorkerCall} (h : CallOk s.stream c) : CallOk (published s q) c := by
  unfold published
  split
  · exact h
  · exact h.append _

theorem inv_start {env : IngestEnv} {db : ChatDB} {ws : UUID} {trace : String} {req : CreateMessageRequest}
    (hi : Inv s) (h : step p wk s (.start env db ws trace req) = some s') : Inv s' := by
  simp only [step] at h
  split at h
  · cases h
    refine ⟨hi.nil, fun id hid => ?_, hi.calls⟩
    have hsame : ∀ q, uncounted (s.ingests ++ [.publishing q]) id = uncounted s.ingests id := by
      intro q
      unfold uncounted
      rw [List.countP_append, List.countP_singleton]
      simp
    rw [hsame]
    exact hi.counts id hid
  · cases h
    exact hi

theorem uncounted_published {k : Nat} {q : QueueMessage} (hk : s.ingests[k]? = some (.publishing q)) (ws : UUID) :
    uncounted (s.ingests.set k (.counting q.workspaceID)) ws =
        uncounted s.ingests ws + (if q.workspaceID = ws then 1 else 0) ∧
      uncounted (s.ingests.eraseIdx k) ws = uncounted s.ingests ws := by
  have hset := countP_set_add (fun c => decide (c = IngestCall.counting ws)) hk (.counting q.workspaceID)
  have herase := countP_eraseIdx_add (fun c => decide (c = IngestCall.counting ws)) hk
  simp only [reduceCtorEq, decide_false, Bool.false_eq_true, if_false, IngestCall.counting.injEq,
    decide_eq_true_eq] at hset herase
  exact ⟨hset, herase⟩

theorem inv_publish {k : Nat} {reply : Reply} (hi : Inv s) (hg : Exact p s (.publish k reply))
    (h : step p wk s (.publish k reply) = some s') : Inv s' := by
  simp only [step] at h
  split at h
  case h_2 => cases h
  rename_i q hk
  obtain ⟨hset, herase⟩ := forall_and.mp (uncounted_published hk)
  have hcalls : ∀ c ∈ s.workers, CallOk (published s q) c := fun c hc => callOk_published (hi.calls c hc)
  simp only [Exact, hk] at hg
  split at h
  · -- nothing is published, so `Exact` leaves a message without a workspace
    rename_i hpub
    have hnil : q.workspaceID = UUID.Nil := by
      refine hg.resolve_right fun hp => ?_
      rw [hp.1] at hpub
      cases hpub
    cases h
    refine ⟨hi.nil, fun ws hws => ?_, hi.calls⟩
    have hcount := hi.counts ws hws
    have hnew := hset ws
    rw [if_neg fun h => hws (h.symm.trans hnil), Nat.add_zero] at hnew
    show s.depth ws + uncounted (s.ingests.set k (.counting q.workspaceID)) ws ≤ left s.stream s.workers ws
    rw [hnew]
    exact hcount
  · split at h
    · cases h
      refine ⟨hi.nil, fun ws hws => ?_, hcalls⟩
      have hleft := left_published s q ws
      have hcount := hi.counts ws hws
      have hnew := hset ws
      show s.depth ws + uncounted (s.ingests.set k (.counting q.workspaceID)) ws ≤ left (published s q) s.workers ws
      by_cases hq : q.workspaceID = ws
      · have hdup : ¬Duplicate s q := (hg.resolve_left fun hnil => hws (hq.symm.trans hnil)).2 rfl
        rw [if_pos ⟨hdup, hq⟩] at hleft
        rw [if_pos hq] at hnew
        omega
      · rw [if_neg fun h => hq h.2] at hleft
        rw [if_neg hq] at hnew
        omega
    · cases h
      refine ⟨hi.nil, fun ws hws => ?_, hcalls⟩
      have hleft := left_published s q ws
      have hcount := hi.counts ws hws
      show s.depth ws + uncounted (s.ingests.eraseIdx k) ws ≤ left (published s q) s.workers ws
      rw [herase]
      omega
    · cases h
      refine ⟨hi.nil, fun ws hws => ?_, hi.calls⟩
      have hcount := hi.counts ws hws
      show s.depth ws + uncounted (s.ingests.eraseIdx k) ws ≤ left s.stream s.workers ws
      rw [herase]
      exact hcount

theorem inv_count {k : Nat} (hi : Inv s) (h : step p wk s (.count k) = some s') : Inv s' := by
  simp only [step] at h
  split at h
  case h_2 => cases h
  rename_i ws hk
  have herase := fun id => countP_eraseIdx_add (fun c => decide (c = IngestCall.counting id)) hk
  simp only [IngestCall.counting.injEq, decide_eq_true_eq] at herase
  cases h
  refine ⟨?_, fun id hid => ?_, hi.calls⟩
  · show (if (p.tracker && ws ≠ UUID.Nil) = true then increment s.depth ws else s.depth) UUID.Nil = 0
    split
    · rename_i htrack
      have hws : ws ≠ UUID.Nil := by simpa using (Bool.and_eq_true_iff.mp htrack).2
      rw [increment_of_ne _ (Ne.symm hws)]
      exact hi.nil
    · exact hi.nil
  · have hcount := hi.counts id hid
    have hid' := herase id
    unfold uncounted at hcount
    show (if (p.tracker && ws ≠ UUID.Nil) = true then increment s.depth ws else s.depth) id +
      uncounted (s.ingests.eraseIdx k) id ≤ left s.stream s.workers id
    have hdepth : (if (p.tracker && ws ≠ UUID.Nil) = true then increment s.depth ws else s.depth) id ≤
        s.depth id + if ws = id then 1 else 0 := by
      split
      · by_cases heq : id = ws
        · subst heq
          rw [increment_self, if_pos rfl]
        · rw [increment_of_ne _ heq]
          omega
      · omega
    unfold uncounted
    omega

theorem inv_receive {seq : Nat} {env : WorkerEnv} (hi : Inv s) (h : step p wk s (.receive seq env) = some s') :
    Inv s' := by
  simp only [step] at h
  split at h
  case h_2 => cases h
  rename_i m hm
  split at h
  · cases h
  · cases h
    refine ⟨hi.nil, fun ws hws => Nat.le_trans (hi.counts ws hws) (left_receive _), ?_⟩
    intro c hc
    rcases List.mem_append.mp hc with hc | hc
    · exact hi.calls c hc
    · rw [List.mem_singleton.mp hc]
      refine ⟨m, hm, fun hskip hws => ?_⟩
      rcases processMessage_settling hskip hws with hnone | hack
      · rw [hnone]
        exact List.nil_suffix
      · rw [hack]
        exact List.suffix_rfl

theorem inv_removed {seq : Nat} (hi : Inv s) (hcov : covered s.stream s.workers seq = true) :
    Inv { s with stream := removed s.stream seq } :=
  ⟨hi.nil, fun ws hws => Nat.le_trans (hi.counts ws hws) (left_removed hcov hws),
    fun c hc => (hi.calls c hc).removed seq⟩

theorem inv_expire {seq : Nat} (hi : Inv s) (hg : Exact p s (.expire seq)) (h : step p wk s (.expire seq) = some s') :
    Inv s' := by
  simp only [step] at h
  split at h
  · split at h
    · cases h
      exact inv_removed hi hg
    · cases h
  · cases h

theorem inv_work {k : Nat} {lost : Bool} (hi : Inv s) (hg : Exact p s (.work k lost))
    (h : step p wk s (.work k lost) = some s') : Inv s' := by
  simp only [step] at h
  split at h
  case h_2 => cases h
  rename_i seq skips e rest hk
  cases h
  have hcall : CallOk s.stream ⟨seq, skips, e :: rest⟩ := hi.calls _ (List.mem_of_getElem? hk)
  have hcalls : ∀ c ∈ s.workers.set k ⟨seq, skips, rest⟩, CallOk s.stream c := by
    intro c hc
    rcases List.mem_or_eq_of_mem_set hc with hc | rfl
    · exact hi.calls c hc
    · exact hcall.advance
  by_cases hdec : ∃ ws, e = .decrement ws
  · obtain ⟨ws, rfl⟩ := hdec
    simp only [Exact, hk] at hg
    refine ⟨?_, fun id hid => ?_, hcalls⟩
    · show decrement s.depth ws UUID.Nil = 0
      by_cases heq : UUID.Nil = ws
      · rw [← heq, decrement_self, hi.nil]
      · rw [decrement_of_ne _ heq]
        exact hi.nil
    · have hcount := hi.counts id hid
      have hleft := left_advance s.stream id hk
      show decrement s.depth ws id + uncounted s.ingests id ≤ left s.stream (s.workers.set k ⟨seq, skips, rest⟩) id
      by_cases heq : id = ws
      · subst heq
        rw [decrement_self]
        by_cases hgone : goneAt s.stream seq = true
        · rw [if_pos ⟨hgone, rfl⟩] at hleft
          rcases hg hgone with hpos | hless <;> omega
        · rw [if_neg fun h => hgone h.1] at hleft
          omega
      · have hne : ¬(goneAt s.stream seq = true ∧ Effect.decrement ws = Effect.decrement id) := by
          rintro ⟨-, h⟩
          exact heq (Effect.decrement.inj h).symm
        rw [if_neg hne] at hleft
        rw [decrement_of_ne _ heq]
        omega
  · -- the step changes no counter
    have hsame : ∀ ws, left s.stream s.workers ws ≤ left s.stream (s.workers.set k ⟨seq, skips, rest⟩) ws := by
      intro ws
      have hleft := left_advance s.stream ws hk
      rw [if_neg fun h => hdec ⟨ws, h.2⟩] at hleft
      exact hleft
    have hstep : Inv { s with workers := s.workers.set k ⟨seq, skips, rest⟩ } :=
      ⟨hi.nil, fun ws hws => Nat.le_trans (hi.counts ws hws) (hsame ws), hcalls⟩
    cases e with
    | ack =>
      unfold effect
      simp only
      split
      · exact hstep
      · rename_i hlost
        refine inv_removed hstep (covered_advance hk ?_)
        cases skips with
        | true =>
          simp only [Exact, hk] at hg
          exact hg.resolve_left hlost
        | false => exact covered_ack hk hcall
    | decrement ws => exact absurd ⟨ws, rfl⟩ hdec
    | _ => exact hstep

theorem inv_step {l : Lbl} (hi : Inv s) (hg : Exact p s l) (h : step p wk s l = some s') : Inv s' := by
  cases l with
  | tick d =>
    cases h
    exact ⟨hi.nil, hi.counts, hi.calls⟩
  | start env db ws trace req => exact inv_start hi h
  | publish k reply => exact inv_publish hi hg h
  | count k => exact inv_count hi h
  | receive seq env => exact inv_receive hi h
  | work k lost => exact inv_work hi hg h
  | expire seq => exact inv_expire hi hg h
  | restart =>
    cases h
    exact ⟨rfl, fun _ _ => Nat.zero_le _, by simp⟩

end Steps

/-- Nothing of the workspace is under way: no `Ingest` call, no message in the queue. -/
def Idle (s : St) (ws : UUID) : Prop := (∀ c ∈ s.ingests, c.ws ≠ ws) ∧ ∀ m ∈ s.stream, m.ws = ws → m.gone = true

/-- In a run of `Exact` steps an idle workspace has no more on its counter than the workers that
have acked its last messages are about to take off it; after that it has nothing, and is refused nothing. -/
theorem depth_settles (p : Processor) (wk : Worker) {s : St} (h : ((sys p wk).restrict (Exact p)).Reachable s)
    (ws : UUID) (hidle : Idle s ws) :
    s.depth ws ≤ owed s.stream s.workers ws ∧
      (owed s.stream s.workers ws = 0 → s.depth ws = 0 ∧ exceeds s.depth ws 1000 = false) := by
  have hinv : ((sys p wk).restrict (Exact p)).Inductive Inv :=
    LTS.Inductive.of_restrict (fun s₀ h₀ => by rw [show s₀ = init from h₀]; exact inv_init)
      fun s l s' hi hg hst => inv_step hi hg hst
  have hi := hinv.reachable h
  have hbound : s.depth ws ≤ owed s.stream s.workers ws := by
    by_cases hws : ws = UUID.Nil
    · rw [hws, hi.nil]
      exact Nat.zero_le _
    · have hcount := hi.counts ws hws
      have hqueue : unacked s.stream ws = 0 := by
        unfold unacked
        rw [List.countP_eq_zero]
        intro m hm hcon
        simp only [Bool.and_eq_true, Bool.not_eq_true', decide_eq_true_eq] at hcon
        rw [hidle.2 m hm hcon.2] at hcon
        cases hcon.1
      unfold left at hcount
      omega
  refine ⟨hbound, fun hnone => ?_⟩
  have hzero : s.depth ws = 0 := by omega
  refine ⟨hzero, ?_⟩
  unfold exceeds
  rw [hzero]
  rfl

def shopWorker : Worker := ⟨some serverOrchestrator, true⟩

def delivered : WorkerEnv := ⟨false, .ok true, 0, [], Dispatches.empty, DispatchRun.accepts⟩

def shopStart : Lbl := .start shopIngest (shopChats (some 100)) 1 "t-1" (shopRequest "text")

/-- A worker call with seven effects, the last two of which ack and decrement. -/
def workedOff : List Lbl := .receive 0 delivered :: List.replicate 7 (.work 0 false)

/-- One message went through, and left `depth` on the counter. -/
def wentThrough (depth : Nat) (s : St) : Bool :=
  s.ingests.isEmpty && s.stream.length = 1 && (s.stream.all fun m => m.gone) && owed s.stream s.workers 1 = 0 &&
    s.depth 1 = depth

theorem idle_of_wentThrough {depth : Nat} {s : St} (h : wentThrough depth s = true) :
    Idle s 1 ∧ owed s.stream s.workers 1 = 0 ∧ s.depth 1 = depth := by
  simp only [wentThrough, Bool.and_eq_true, List.isEmpty_iff, List.all_eq_true, decide_eq_true_eq] at h
  obtain ⟨⟨⟨⟨hingests, -⟩, hgone⟩, howed⟩, hdepth⟩ := h
  exact ⟨⟨by simp [hingests], fun m hm _ => hgone m hm⟩, howed, hdepth⟩

theorem counted_before_ack :
    ∃ s, ((sys shopProcessor shopWorker).restrict (Exact shopProcessor)).Reachable s ∧ s.stream.length = 1 ∧
      Idle s 1 ∧ s.depth 1 = 0 := by
  have hrun : (LTS.exec (step shopProcessor shopWorker) init
      ([shopStart, .publish 0 .ok, .count 0] ++ workedOff)).any (wentThrough 0) = true := by decide +kernel
  have hguard : LTS.Guarded (step shopProcessor shopWorker) (Exact shopProcessor) init
      ([shopStart, .publish 0 .ok, .count 0] ++ workedOff) := by decide +kernel
  obtain ⟨s, hs, hwent⟩ := (Option.any_eq_true _ _).mp hrun
  have hreach := LTS.exec_restrict_reachable hs hguard
  obtain ⟨hidle, howed, -⟩ := idle_of_wentThrough hwent
  have hone : s.stream.length = 1 := by
    simp only [wentThrough, Bool.and_eq_true, decide_eq_true_eq] at hwent
    exact hwent.1.1.1.2
  exact ⟨s, hreach, hone, hidle, ((depth_settles shopProcessor shopWorker hreach 1 hidle).2 howed).1⟩

/-- The worker is done before the publisher's call counts the message. -/
theorem acked_before_count :
    ∃ s, (sys shopProcessor shopWorker).Reachable s ∧ Idle s 1 ∧ owed s.stream s.workers 1 = 0 ∧ s.depth 1 = 1 := by
  have hrun : (LTS.exec (step shopProcessor shopWorker) init
      ([shopStart, .publish 0 .ok] ++ workedOff ++ [Lbl.count 0])).any (wentThrough 1) = true := by decide +kernel
  obtain ⟨s, hs, hwent⟩ := (Option.any_eq_true _ _).mp hrun
  exact ⟨s, LTS.exec_reachable hs, idle_of_wentThrough hwent⟩

end PerGo.L4.QueueDepth
