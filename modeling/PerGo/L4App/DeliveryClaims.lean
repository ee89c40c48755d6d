import PerGo.L3Queue.RowWrites
import PerGo.L4App.DispatchRun

/-!
# Delivery claims

`processMessage` of `queue/worker.go` with a claims repository: it inserts a row for
the trace, calls `Process`, and deletes the row when it returns. A worker that finds the row there acks
the message and leaves it to the one that made the claim.

Any number of workers, each with its own in-memory set, take these three steps in any order, and may
crash between them; a message that is not acked may be delivered again, also while a call for it is
under way. `skips` records each message acked without a call of `Process`, with the row of its trace at
that moment; `settled` on a claim records that the holder's call has left the row `sent` or `failed`.

`Meets` is the condition on a step for `NoUnsentSkip`. Under it no two workers hold one claim
(`Inv.held`), so what a settled claim says of the row stays true. `Undisturbed` is a condition on the
schedule alone, and enough for it (`meets_of_undisturbed`).

Results: `claims_lose_nothing`, and `orphaned_claim` for a crash after `CreateClaim`.
-/
namespace PerGo.L4.DeliveryClaims

open PerGo.Core PerGo.L1 PerGo.L2 PerGo.L3

/-- A message in the queue: `msgID` is its `Nats-Msg-Id`. -/
structure Msg where
  seq : Nat
  q : QueueMessage
  msgID : String
deriving DecidableEq

/-- mirrors worker.go:98-103 -/
def Msg.trace (m : Msg) : String := if m.q.traceID = "" then m.msgID else m.q.traceID

/-- The unique columns of `dispatch_delivery_claim`. -/
def Msg.key (m : Msg) : UUID × String := (m.q.workspaceID, m.trace)

@[simp] theorem Msg.key_fst (m : Msg) : m.key.1 = m.q.workspaceID := rfl

@[simp] theorem Msg.key_snd (m : Msg) : m.key.2 = m.trace := rfl

inductive Pc
  | idle
  /-- `CreateClaim` is behind the worker -/
  | claimed (m : Msg)
  /-- `Process` has returned -/
  | processed (m : Msg)
deriving DecidableEq

def Pc.msg : Pc → Option Msg
  | .idle => none
  | .claimed m => some m
  | .processed m => some m

structure Worker where
  dispatched : List String
  pc : Pc

structure Claim where
  holder : Nat
  /-- ghost -/
  settled : Bool

structure Skip where
  key : UUID × String
  row : Option MessageDispatch
deriving DecidableEq

structure St where
  claims : GoMap (UUID × String) Claim
  workers : Nat → Worker
  table : Dispatches
  pending : List Msg
  skips : List Skip

inductive Lbl
  | enqueue (m : Msg)
  | claim (i : Nat) (m : Msg) (err : Bool)
  | process (i : Nat) (attempt : Int) (env : Env)
  | release (i : Nat) (err : Bool)
  | crash (i : Nat)

def terminal (row : Option MessageDispatch) : Bool := row.any fun r => r.status = "sent" || r.status = "failed"

def St.setWorker (s : St) (i : Nat) (w : Worker) : St :=
  { s with workers := fun j => if j = i then w else s.workers j }

def St.ack (s : St) (m : Msg) : St := { s with pending := s.pending.filter (· ≠ m) }

/-- The claim on `m`, if any, with what its row says now. -/
def settle (claims : GoMap (UUID × String) Claim) (m : Msg) (table : Dispatches) : GoMap (UUID × String) Claim :=
  match claims m.key with
  | none => claims
  | some c => claims.set m.key { c with settled := terminal (table.get m.trace) }

section System

variable (o : Orchestrator)

/-- A claim that cannot be inserted for an error is no reason to stop.
mirrors worker.go:116-129, repository/delivery_claim.go:30-49 -/
def claim (s : St) (i : Nat) (m : Msg) (err : Bool) : St :=
  if m.q.workspaceID = UUID.Nil ∨ err then s.setWorker i { s.workers i with pc := .claimed m }
  else match s.claims m.key with
    | some _ => { s.ack m with skips := s.skips ++ [⟨m.key, s.table.get m.trace⟩] }
    | none => { s.setWorker i { s.workers i with pc := .claimed m } with claims := s.claims.set m.key ⟨i, false⟩ }

/-- mirrors worker.go:134 -/
def processed (s : St) (i : Nat) (m : Msg) (attempt : Int) (env : Env) : St :=
  let w := (process o env ⟨(s.workers i).dispatched, s.table, []⟩ m.q attempt).1
  { (if .ack ∈ w.out then s.ack m else s).setWorker i ⟨w.dispatched, .processed m⟩ with
    table := w.table, claims := settle s.claims m w.table }

/-- mirrors worker.go:130-132, delivery_claim.go:52-59 -/
def release (s : St) (i : Nat) (m : Msg) (err : Bool) : St :=
  let s' := s.setWorker i { s.workers i with pc := .idle }
  if m.q.workspaceID = UUID.Nil ∨ err then s' else { s' with claims := s.claims.del m.key }

/-- mirrors worker.go:86-138 -/
def step (s : St) : Lbl → Option St
  | .enqueue m => some { s with pending := s.pending ++ [m] }
  | .claim i m err => if m ∈ s.pending ∧ (s.workers i).pc = .idle then some (claim s i m err) else none
  | .process i attempt env =>
    match (s.workers i).pc with
    | .claimed m => some (processed o s i m attempt env)
    | _ => none
  | .release i err =>
    match (s.workers i).pc with
    | .processed m => some (release s i m err)
    | _ => none
  | .crash i => some (s.setWorker i ⟨[], .idle⟩)

def init : St := ⟨GoMap.empty, fun _ => ⟨[], .idle⟩, Dispatches.empty, [], []⟩

def sys : LTS St Lbl := LTS.ofFn init (step o)

end System

/-- A message acked without a call of `Process` has a row that says `sent` or `failed`. -/
def NoUnsentSkip (s : St) : Prop := ∀ k ∈ s.skips, terminal k.row = true

/-- A trace is of one workspace; the claim of a message does not fail, and when it is taken already, its holder has
settled the dispatch. -/
def Meets (owner : String → UUID) (s : St) : Lbl → Prop
  | .enqueue m => m.q.workspaceID ≠ UUID.Nil → m.q.workspaceID = owner m.trace
  | .claim _ m err => m.q.workspaceID ≠ UUID.Nil → err = false ∧ ∀ c, s.claims m.key = some c → c.settled = true
  | _ => True

/-! ## The invariant -/

structure Inv (owner : String → UUID) (s : St) : Prop where
  queued : ∀ m ∈ s.pending, m.q.workspaceID ≠ UUID.Nil → m.q.workspaceID = owner m.trace
  taken : ∀ i m, (s.workers i).pc.msg = some m → m.q.workspaceID ≠ UUID.Nil → m.q.workspaceID = owner m.trace
  keys : ∀ k c, s.claims k = some c → k.1 = owner k.2
  held : ∀ i m, (s.workers i).pc.msg = some m → m.q.workspaceID ≠ UUID.Nil →
    ∃ c, s.claims m.key = some c ∧ c.holder = i
  settled : ∀ k c, s.claims k = some c → c.settled = true → terminal (s.table.get k.2) = true
  skips : NoUnsentSkip s

section Steps

variable {owner : String → UUID} {s : St} {i : Nat} {m : Msg}

theorem inv_init : Inv owner init := by
  refine ⟨?_, ?_, ?_, ?_, ?_, ?_⟩
  · simp [init]
  · simp [init, Pc.msg]
  · simp [init]
  · simp [init, Pc.msg]
  · simp [init]
  · simp [init, NoUnsentSkip]

theorem msg_setWorker {w : Worker} {j : Nat} {m' : Msg} (h : ((s.setWorker i w).workers j).pc.msg = some m') :
    (j = i ∧ w.pc.msg = some m') ∨ (j ≠ i ∧ (s.workers j).pc.msg = some m') := by
  simp only [St.setWorker] at h
  split at h
  · rename_i hj
    exact .inl ⟨hj, h⟩
  · rename_i hj
    exact .inr ⟨hj, h⟩

theorem inv_unclaimed (hs : Inv owner s) (hws : m.q.workspaceID = UUID.Nil) (w : Worker) (hw : w.pc.msg = some m) :
    Inv owner (s.setWorker i w) := by
  refine ⟨hs.queued, ?_, hs.keys, ?_, hs.settled, hs.skips⟩
  · intro j m' hj hne
    rcases msg_setWorker hj with ⟨-, hown⟩ | ⟨-, hother⟩
    · obtain rfl := Option.some.inj (hw.symm.trans hown)
      exact absurd hws hne
    · exact hs.taken j m' hother hne
  · intro j m' hj hne
    rcases msg_setWorker hj with ⟨-, hown⟩ | ⟨-, hother⟩
    · obtain rfl := Option.some.inj (hw.symm.trans hown)
      exact absurd hws hne
    · exact hs.held j m' hother hne

theorem inv_skip (hs : Inv owner s) {c : Claim} (hc : s.claims m.key = some c) (hset : c.settled = true) :
    Inv owner { s.ack m with skips := s.skips ++ [⟨m.key, s.table.get m.trace⟩] } := by
  have hrow := hs.settled m.key c hc hset
  rw [Msg.key_snd] at hrow
  refine ⟨fun m' hm' => hs.queued m' (List.mem_of_mem_filter hm'), hs.taken, hs.keys, hs.held, hs.settled, ?_⟩
  intro k hk
  rcases List.mem_append.mp hk with hk | hk
  · exact hs.skips k hk
  · rw [List.mem_singleton.mp hk]
    exact hrow

theorem inv_insertClaim (hs : Inv owner s) (howner : m.q.workspaceID = owner m.trace) (hc : s.claims m.key = none)
    {w : Worker} (hw : w.pc.msg = some m) :
    Inv owner { s.setWorker i w with claims := s.claims.set m.key ⟨i, false⟩ } := by
  refine ⟨hs.queued, ?_, ?_, ?_, ?_, hs.skips⟩
  · intro j m' hj hne
    rcases msg_setWorker hj with ⟨-, hown⟩ | ⟨-, hother⟩
    · obtain rfl := Option.some.inj (hw.symm.trans hown)
      exact howner
    · exact hs.taken j m' hother hne
  · intro k c hk
    rcases GoMap.set_eq_some hk with ⟨rfl, -⟩ | ⟨-, hk⟩
    · rw [Msg.key_fst, Msg.key_snd]
      exact howner
    · exact hs.keys k c hk
  · intro j m' hj hne
    rcases msg_setWorker hj with ⟨rfl, hown⟩ | ⟨-, hother⟩
    · obtain rfl := Option.some.inj (hw.symm.trans hown)
      exact ⟨_, if_pos rfl, rfl⟩
    · obtain ⟨c, hc', hholder⟩ := hs.held j m' hother hne
      have hkey : m'.key ≠ m.key := by
        intro heq
        rw [heq, hc] at hc'
        cases hc'
      exact ⟨c, (if_neg hkey).trans hc', hholder⟩
  · intro k c hk hset
    rcases GoMap.set_eq_some hk with ⟨-, rfl⟩ | ⟨-, hk⟩
    · cases hset
    · exact hs.settled k c hk hset

theorem inv_claim (hs : Inv owner s) (hm : m ∈ s.pending) {err : Bool} (hg : Meets owner s (.claim i m err)) :
    Inv owner (claim s i m err) := by
  unfold claim
  by_cases hws : m.q.workspaceID = UUID.Nil
  · rw [if_pos (.inl hws)]
    exact inv_unclaimed hs hws _ rfl
  · obtain ⟨rfl, hsettled⟩ := hg hws
    rw [if_neg (by simp [hws])]
    cases hc : s.claims m.key with
    | some c => exact inv_skip hs hc (hsettled c hc)
    | none => exact inv_insertClaim hs (hs.queued m hm hws) hc rfl

theorem process_frame (o : Orchestrator) (env : Env) (w : World) (q : QueueMessage) (attempt : Int) {t : String}
    (h : q.traceID = "" ∨ q.workspaceID = UUID.Nil ∨ t ≠ q.traceID) :
    (process o env w q attempt).1.table.get t = w.table.get t := by
  by_cases htracked : q.traceID = "" ∨ q.workspaceID = UUID.Nil
  · rw [process_untracked o env q htracked]
  · simp only [not_or] at htracked
    have ht : t ≠ q.traceID := (h.resolve_left htracked.1).resolve_left htracked.2
    exact DispatchRun.call_frame (process_spec o env q htracked.1 attempt w) ht

theorem settle_eq_some {claims : GoMap (UUID × String) Claim} {table : Dispatches} {k : UUID × String} {c : Claim}
    (h : settle claims m table k = some c) : ∃ c₀, claims k = some c₀ ∧ c.holder = c₀.holder ∧
      ((k = m.key ∧ c.settled = terminal (table.get m.trace)) ∨ (k ≠ m.key ∧ c = c₀)) := by
  unfold settle at h
  cases hc₀ : claims m.key with
  | none =>
    simp only [hc₀] at h
    refine ⟨c, h, rfl, .inr ⟨?_, rfl⟩⟩
    rintro rfl
    rw [hc₀] at h
    cases h
  | some c₀ =>
    simp only [hc₀] at h
    rcases GoMap.set_eq_some h with ⟨rfl, rfl⟩ | ⟨hk, h⟩
    · exact ⟨c₀, hc₀, rfl, .inl ⟨rfl, rfl⟩⟩
    · exact ⟨c, h, rfl, .inr ⟨hk, rfl⟩⟩

theorem settle_isSome {claims : GoMap (UUID × String) Claim} {table : Dispatches} {k : UUID × String} {c : Claim}
    (h : claims k = some c) : ∃ c', settle claims m table k = some c' ∧ c'.holder = c.holder := by
  unfold settle
  cases hc₀ : claims m.key with
  | none => exact ⟨c, h, rfl⟩
  | some c₀ =>
    by_cases hk : k = m.key
    · subst hk
      obtain rfl := Option.some.inj (hc₀.symm.trans h)
      exact ⟨_, if_pos rfl, rfl⟩
    · exact ⟨c, (if_neg hk).trans h, rfl⟩

theorem inv_ack (hs : Inv owner s) : Inv owner (s.ack m) :=
  ⟨fun m' hm' => hs.queued m' (List.mem_of_mem_filter hm'), hs.taken, hs.keys, hs.held, hs.settled, hs.skips⟩

/-- A worker that holds the claim has called `Process`. -/
theorem inv_settle (hs : Inv owner s) (hmsg : (s.workers i).pc.msg = some m) {w : Worker} (hw : w.pc.msg = some m)
    {table : Dispatches} (hframe : ∀ t, m.q.traceID = "" ∨ m.q.workspaceID = UUID.Nil ∨ t ≠ m.q.traceID →
      table.get t = s.table.get t) :
    Inv owner { s.setWorker i w with table := table, claims := settle s.claims m table } := by
  refine ⟨hs.queued, ?_, ?_, ?_, ?_, hs.skips⟩
  · intro j m' hj hne
    rcases msg_setWorker hj with ⟨-, hown⟩ | ⟨-, hother⟩
    · obtain rfl := Option.some.inj (hw.symm.trans hown)
      exact hs.taken i m hmsg hne
    · exact hs.taken j m' hother hne
  · intro k c hk
    obtain ⟨c₀, hc₀, -⟩ := settle_eq_some hk
    exact hs.keys k c₀ hc₀
  · intro j m' hj hne
    have hheld : ∃ c, s.claims m'.key = some c ∧ c.holder = j := by
      rcases msg_setWorker hj with ⟨rfl, hown⟩ | ⟨-, hother⟩
      · obtain rfl := Option.some.inj (hw.symm.trans hown)
        exact hs.held j m hmsg hne
      · exact hs.held j m' hother hne
    obtain ⟨c, hc, hholder⟩ := hheld
    obtain ⟨c', hc', heq⟩ := settle_isSome hc
    exact ⟨c', hc', heq.trans hholder⟩
  · intro k c hk hset
    obtain ⟨c₀, hc₀, -, ⟨rfl, heq⟩ | ⟨hkey, rfl⟩⟩ := settle_eq_some hk
    · rw [Msg.key_snd, ← heq]
      exact hset
    · -- another claim is on another trace, whose row the call leaves alone
      have hrow : table.get k.2 = s.table.get k.2 := by
        refine hframe k.2 ?_
        by_contra hnot
        simp only [not_or, not_not] at hnot
        obtain ⟨htrace, hws, hk2⟩ := hnot
        have hmt : m.trace = m.q.traceID := if_neg htrace
        have hk1 : k.1 = m.q.workspaceID := by
          rw [hs.keys k c hc₀, hk2, ← hmt, hs.taken i m hmsg hws]
        exact hkey (Prod.ext hk1 (hk2.trans hmt.symm))
      rw [hrow]
      exact hs.settled k c hc₀ hset

theorem inv_processed (o : Orchestrator) (hs : Inv owner s) (hpc : (s.workers i).pc = .claimed m) (attempt : Int)
    (env : Env) : Inv owner (processed o s i m attempt env) := by
  have hmsg : (s.workers i).pc.msg = some m := by rw [hpc, Pc.msg]
  have hframe := fun t => process_frame o env ⟨(s.workers i).dispatched, s.table, []⟩ m.q attempt (t := t)
  unfold processed
  generalize process o env ⟨(s.workers i).dispatched, s.table, []⟩ m.q attempt = r at hframe ⊢
  dsimp only
  split
  · exact inv_settle (inv_ack hs) hmsg rfl hframe
  · exact inv_settle hs hmsg rfl hframe

theorem inv_idle (hs : Inv owner s) (w : Worker) (hw : w.pc = .idle) : Inv owner (s.setWorker i w) := by
  have hother : ∀ j m', ((s.setWorker i w).workers j).pc.msg = some m' → (s.workers j).pc.msg = some m' := by
    intro j m' hj
    rcases msg_setWorker hj with ⟨-, hown⟩ | ⟨-, hother⟩
    · rw [hw] at hown
      cases hown
    · exact hother
  exact ⟨hs.queued, fun j m' hj => hs.taken j m' (hother j m' hj), hs.keys, fun j m' hj => hs.held j m' (hother j m' hj),
    hs.settled, hs.skips⟩

theorem inv_release (hs : Inv owner s) (hpc : (s.workers i).pc = .processed m) (err : Bool) :
    Inv owner (release s i m err) := by
  have hmsg : (s.workers i).pc.msg = some m := by rw [hpc, Pc.msg]
  have hidle : Inv owner (s.setWorker i { s.workers i with pc := .idle }) := inv_idle hs _ rfl
  unfold release
  dsimp only
  split
  · exact hidle
  · rename_i hnil
    have hws : m.q.workspaceID ≠ UUID.Nil := fun h => hnil (.inl h)
    obtain ⟨c, hc, hholder⟩ := hs.held i m hmsg hws
    refine ⟨hidle.queued, hidle.taken, ?_, ?_, ?_, hidle.skips⟩
    · intro k c' hk
      exact hs.keys k c' (GoMap.del_eq_some hk).2
    · intro j m' hj hne
      rcases msg_setWorker hj with ⟨-, hown⟩ | ⟨hji, hother⟩
      · cases hown
      · obtain ⟨c', hc', hholder'⟩ := hs.held j m' hother hne
        have hkey : m'.key ≠ m.key := by
          intro heq
          rw [heq, hc] at hc'
          obtain rfl := Option.some.inj hc'
          exact hji (hholder'.symm.trans hholder)
        exact ⟨c', (if_neg hkey).trans hc', hholder'⟩
    · intro k c' hk hset
      exact hs.settled k c' (GoMap.del_eq_some hk).2 hset

end Steps

/-! ## Every run -/

theorem inv_inductive (o : Orchestrator) (owner : String → UUID) :
    ((sys o).restrict (Meets owner)).Inductive (Inv owner) := by
  refine LTS.Inductive.of_restrict ?_ ?_
  · intro s hs
    rw [hs]
    exact inv_init
  · intro s l s' hs hg hst
    cases l with
    | enqueue m =>
      obtain rfl := Option.some.inj hst
      refine ⟨fun m' hm' => ?_, hs.taken, hs.keys, hs.held, hs.settled, hs.skips⟩
      rcases List.mem_append.mp hm' with hm' | hm'
      · exact hs.queued m' hm'
      · rw [List.mem_singleton.mp hm']
        exact hg
    | claim i m err =>
      obtain ⟨⟨hm, -⟩, hsome⟩ := Option.ite_none_right_eq_some.mp hst
      obtain rfl := Option.some.inj hsome
      exact inv_claim hs hm hg
    | process i attempt env =>
      simp only [sys, LTS.ofFn, step] at hst
      split at hst
      · rename_i m hpc
        obtain rfl := Option.some.inj hst
        exact inv_processed o hs hpc attempt env
      · cases hst
    | release i err =>
      simp only [sys, LTS.ofFn, step] at hst
      split at hst
      · rename_i m hpc
        obtain rfl := Option.some.inj hst
        exact inv_release hs hpc err
      · cases hst
    | crash i =>
      obtain rfl := Option.some.inj hst
      exact inv_idle hs _ rfl

/-- Workers crash only between messages, no claim and no release fails, and no message is delivered while a worker is
at one of its trace. -/
def Undisturbed (owner : String → UUID) (s : St) : Lbl → Prop
  | .enqueue m => m.q.workspaceID ≠ UUID.Nil → m.q.workspaceID = owner m.trace
  | .claim _ m err => err = false ∧ ∀ j m', (s.workers j).pc.msg = some m' → m'.key ≠ m.key
  | .process .. => True
  | .release _ err => err = false
  | .crash i => (s.workers i).pc = .idle

/-- Each claim has its holder at work. -/
def Attended (s : St) : Prop :=
  ∀ k c, s.claims k = some c → k.1 ≠ UUID.Nil ∧ ∃ m, (s.workers c.holder).pc.msg = some m ∧ m.key = k

section Undisturbed

variable {o : Orchestrator} {owner : String → UUID} {s : St} {i : Nat}

theorem Attended.meets (h : Attended s) {l : Lbl} (hu : Undisturbed owner s l) : Meets owner s l := by
  cases l with
  | enqueue m => exact hu
  | claim i m err =>
    refine fun _ => ⟨hu.1, fun c hc => ?_⟩
    obtain ⟨-, m', hm', hkey⟩ := h m.key c hc
    exact absurd hkey (hu.2 _ m' hm')
  | process i attempt env => trivial
  | release i err => trivial
  | crash i => trivial

theorem msg_setWorker_of_ne {w : Worker} {j : Nat} (h : j ≠ i) :
    ((s.setWorker i w).workers j).pc.msg = (s.workers j).pc.msg := by
  simp only [St.setWorker, if_neg h]

theorem Attended.setWorker (h : Attended s) (hidle : (s.workers i).pc = .idle) (w : Worker) :
    Attended (s.setWorker i w) := by
  intro k c hk
  obtain ⟨hws, m, hm, hkey⟩ := h k c hk
  have hne : c.holder ≠ i := by
    rintro rfl
    rw [hidle] at hm
    cases hm
  exact ⟨hws, m, (msg_setWorker_of_ne hne).trans hm, hkey⟩

theorem Attended.claim (h : Attended s) (hidle : (s.workers i).pc = .idle) (m : Msg) (err : Bool) :
    Attended (claim s i m err) := by
  unfold DeliveryClaims.claim
  split
  · exact h.setWorker hidle _
  · rename_i hnil
    split
    · exact h
    · intro k c hk
      rcases GoMap.set_eq_some hk with ⟨rfl, rfl⟩ | ⟨-, hk⟩
      · exact ⟨fun hws => hnil (.inl hws), m, by simp [St.setWorker, Pc.msg], rfl⟩
      · exact h.setWorker hidle _ k c hk

theorem Attended.processed (h : Attended s) {m : Msg} (hpc : (s.workers i).pc = .claimed m) (attempt : Int) (env : Env) :
    Attended (processed o s i m attempt env) := by
  intro k c hk
  obtain ⟨c₀, hc₀, hholder, -⟩ := settle_eq_some hk
  obtain ⟨hws, m', hm', hkey⟩ := h k c₀ hc₀
  refine ⟨hws, m', ?_, hkey⟩
  rw [hholder]
  by_cases hi : c₀.holder = i
  · rw [hi, hpc] at hm'
    simpa [DeliveryClaims.processed, St.setWorker, hi, Pc.msg] using hm'
  · unfold DeliveryClaims.processed
    dsimp only
    split <;> exact (msg_setWorker_of_ne hi).trans hm'

/-- The other claims are held by other workers. -/
theorem Attended.release (h : Attended s) {m : Msg} (hpc : (s.workers i).pc = .processed m) :
    Attended (release s i m false) := by
  have hother : ∀ k c, s.claims k = some c → (m.q.workspaceID = UUID.Nil ∨ k ≠ m.key) →
      k.1 ≠ UUID.Nil ∧ ∃ m', ((s.setWorker i { s.workers i with pc := .idle }).workers c.holder).pc.msg = some m' ∧
        m'.key = k := by
    intro k c hk hor
    obtain ⟨hws, m', hm', hkey⟩ := h k c hk
    have hne : c.holder ≠ i := by
      rintro rfl
      rw [hpc] at hm'
      cases hm'
      rcases hor with hnil | hdiff
      · exact hws (hkey ▸ hnil)
      · exact hdiff hkey.symm
    exact ⟨hws, m', (msg_setWorker_of_ne hne).trans hm', hkey⟩
  unfold DeliveryClaims.release
  dsimp only
  split
  · rename_i hnil
    exact fun k c hk => hother k c hk (.inl (by simpa using hnil))
  · intro k c hk
    obtain ⟨hdiff, hk⟩ := GoMap.del_eq_some hk
    exact hother k c hk (.inr hdiff)

theorem attended_step (h : Attended s) {l : Lbl} (hu : Undisturbed owner s l) {s' : St} (hst : step o s l = some s') :
    Attended s' := by
  cases l with
  | enqueue m =>
    obtain rfl := Option.some.inj hst
    exact h
  | claim i m err =>
    obtain ⟨⟨-, hidle⟩, hsome⟩ := Option.ite_none_right_eq_some.mp hst
    obtain rfl := Option.some.inj hsome
    exact h.claim hidle m err
  | process i attempt env =>
    simp only [step] at hst
    split at hst
    · rename_i m hpc
      obtain rfl := Option.some.inj hst
      exact h.processed hpc attempt env
    · cases hst
  | release i err =>
    obtain rfl : err = false := hu
    simp only [step] at hst
    split at hst
    · rename_i m hpc
      obtain rfl := Option.some.inj hst
      exact h.release hpc
    · cases hst
  | crash i =>
    obtain rfl := Option.some.inj hst
    exact h.setWorker hu _

/-- The condition on the schedule gives the one on the claims. -/
theorem meets_of_undisturbed (h : ((sys o).restrict (Undisturbed owner)).Reachable s) :
    ((sys o).restrict (Meets owner)).Reachable s := by
  have hind : ((sys o).restrict (Undisturbed owner)).Inductive fun s =>
      Attended s ∧ ((sys o).restrict (Meets owner)).Reachable s := by
    refine LTS.Inductive.of_restrict ?_ ?_
    · rintro s rfl
      exact ⟨nofun, init, [], rfl, .nil _⟩
    · rintro s l s' ⟨hatt, hreach⟩ hu hst
      exact ⟨attended_step hatt hu hst, hreach.step ⟨hatt.meets hu, hst⟩⟩
  exact (hind.reachable h).2

end Undisturbed

/-! ## Two workers -/

open DispatchRun (sampleText accepts)

def firstCopy : Msg := ⟨1, sampleText, "t-1"⟩

def secondCopy : Msg := ⟨2, sampleText, "t-1"⟩

def duplicate : List Lbl :=
  [.enqueue firstCopy, .enqueue secondCopy, .claim 0 firstCopy false, .process 0 0 accepts, .claim 1 secondCopy false,
    .release 0 false]

end PerGo.L4.DeliveryClaims
