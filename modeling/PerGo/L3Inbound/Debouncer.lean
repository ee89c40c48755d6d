import PerGo.L2Domain.Dynamic
import PerGo.Core.LTS
import PerGo.Core.Pool

/-!
# Coalesced turns

The data of `inbound/debounce.go`: the messages that are buffered for a chat and
the event that `Flush` makes of them. The buffer holds each message as JSON, which reads
back as the message; ids and times are text in the event and stay ids and times here.

* `coalesce`: the messages are sorted by `OccurredAt`, stably, and the last one gives the
  event its addressing.
* `chronological_coalesce`: messages of one time stay in the order of the buffer.
-/
namespace PerGo.L3.Debounce

open PerGo.L1 PerGo.L2

/-- mirrors debounce.go:36-50 -/
structure DebouncedMessage where
  messageID : String
  traceID : String
  workspaceID : UUID
  connectionID : Option UUID
  chatID : UUID
  contactID : UUID
  channel : String
  from_ : String
  to_ : String
  senderName : String
  body : String
  occurredAt : Time
  metadata : List (String × GoVal)

/-- mirrors debounce.go:53-69 -/
structure CoalescedTurnEvent where
  event : String
  workspaceID : UUID
  contactID : UUID
  connectionID : Option UUID
  chatID : UUID
  channel : String
  from_ : String
  to_ : String
  senderName : String
  body : String
  messageIDs : List String
  traceID : String
  messageCount : Nat
  occurredAt : Time
  metadata : List (String × GoVal)
deriving DecidableEq

/-- A workspace and a chat. -/
abbrev Key := UUID × UUID

/-- The chat of a message, its contact when it has none; `none` for a message that `Enqueue` refuses.
mirrors debounce.go:157-164 -/
def keyOf (msg : DebouncedMessage) : Option Key :=
  let chatID := if msg.chatID = UUID.Nil then msg.contactID else msg.chatID
  if msg.workspaceID = UUID.Nil ∨ chatID = UUID.Nil then none else some (msg.workspaceID, chatID)

/-- The lifetime of the list. mirrors debounce.go:181-184 -/
def listSafetyTTL (ttl : Time) : Time := if ttl * 10 < hour then hour else ttl * 10

/-- Whether `OccurredAt` is no later. -/
def noLater (a b : DebouncedMessage) : Prop := a.occurredAt ≤ b.occurredAt

instance : DecidableRel noLater := fun a b => inferInstanceAs (Decidable (a.occurredAt ≤ b.occurredAt))

/-- `sort.SliceStable`. mirrors debounce.go:309-311 -/
def chronological (messages : List DebouncedMessage) : List DebouncedMessage := messages.insertionSort noLater

/-- The event of messages that are sorted; `last` is the last of them.
mirrors debounce.go:313-354 -/
def eventOf (key : Key) (messages : List DebouncedMessage) (last : DebouncedMessage) : CoalescedTurnEvent :=
  { event := "chat.inbound.coalesced", workspaceID := key.1,
    contactID := if last.contactID = UUID.Nil then key.2 else last.contactID, connectionID := last.connectionID,
    chatID := key.2, channel := last.channel, from_ := last.from_, to_ := last.to_, senderName := last.senderName,
    body := "\n\n".intercalate ((messages.map fun m => trimSpace m.body).filter (· ≠ "")),
    messageIDs := (messages.map (·.messageID)).filter (· ≠ ""), traceID := last.traceID,
    messageCount := messages.length, occurredAt := last.occurredAt, metadata := last.metadata }

/-- `none` when the buffer was empty. mirrors debounce.go:297-354 -/
def coalesce (key : Key) (messages : List DebouncedMessage) : Option CoalescedTurnEvent :=
  let sorted := chronological messages
  sorted.getLast?.map (eventOf key sorted)

/-! ## The order of the messages -/

/-- An entry of a buffer: the number of its `Enqueue` and the message. -/
structure Entry where
  n : Nat
  msg : DebouncedMessage

/-- Earlier, or at the same time and enqueued first. -/
def Before (a b : Entry) : Prop :=
  a.msg.occurredAt < b.msg.occurredAt ∨ a.msg.occurredAt = b.msg.occurredAt ∧ a.n < b.n

theorem Before.noLater {a b : Entry} (h : Before a b) : a.msg.occurredAt ≤ b.msg.occurredAt := by
  rcases h with h | ⟨h, -⟩
  · exact Int.le_of_lt h
  · exact Int.le_of_eq h

def entryNoLater (a b : Entry) : Prop := noLater a.msg b.msg

instance : DecidableRel entryNoLater := fun a b => inferInstanceAs (Decidable (noLater a.msg b.msg))

theorem before_orderedInsert {a : Entry} {l : List Entry} (hl : l.Pairwise Before) (ha : ∀ b ∈ l, a.n < b.n) :
    (l.orderedInsert entryNoLater a).Pairwise Before := by
  induction l with
  | nil => exact List.pairwise_singleton ..
  | cons b l ih =>
    obtain ⟨hb, hl⟩ := List.pairwise_cons.mp hl
    rw [List.orderedInsert]
    split
    · rename_i hle
      refine List.pairwise_cons.mpr ⟨fun c hc => ?_, List.pairwise_cons.mpr ⟨hb, hl⟩⟩
      have hac : a.msg.occurredAt ≤ c.msg.occurredAt := by
        rcases List.mem_cons.mp hc with rfl | hc'
        · exact hle
        · exact Int.le_trans hle (hb c hc').noLater
      rcases Int.lt_or_eq_of_le hac with h | h
      · exact Or.inl h
      · exact Or.inr ⟨h, ha c hc⟩
    · rename_i hle
      refine List.pairwise_cons.mpr ⟨fun c hc => ?_, ih hl fun c hc => ha c (List.mem_cons_of_mem _ hc)⟩
      rcases List.mem_cons.mp ((List.perm_orderedInsert entryNoLater a l).mem_iff.mp hc) with rfl | hc'
      · exact Or.inl (Int.not_le.mp hle)
      · exact hb c hc'

theorem before_insertionSort {l : List Entry} (h : l.Pairwise fun a b => a.n < b.n) :
    (l.insertionSort entryNoLater).Pairwise Before := by
  induction l with
  | nil => exact List.Pairwise.nil
  | cons a l ih =>
    obtain ⟨ha, hl⟩ := List.pairwise_cons.mp h
    refine before_orderedInsert (ih hl) fun b hb => ha b ?_
    exact (List.perm_insertionSort entryNoLater l).mem_iff.mp hb

/-- The event of a buffer: its messages by time, those of one time in the order of their `Enqueue`. -/
theorem chronological_coalesce {key : Key} {entries : List Entry} (h : entries.Pairwise fun a b => a.n < b.n)
    {ev : CoalescedTurnEvent} (hev : coalesce key (entries.map (·.msg)) = some ev) :
    ∃ sorted : List Entry, sorted.Perm entries ∧ sorted.Pairwise Before ∧ ev.messageCount = entries.length ∧
      ∃ last, (sorted.map (·.msg)).getLast? = some last ∧ ev = eventOf key (sorted.map (·.msg)) last := by
  have hsort : chronological (entries.map (·.msg)) = (entries.insertionSort entryNoLater).map (·.msg) :=
    (List.map_insertionSort entryNoLater noLater (·.msg) entries fun _ _ _ _ => Iff.rfl).symm
  have hperm := List.perm_insertionSort entryNoLater entries
  obtain ⟨last, hlast, rfl⟩ := Option.map_eq_some_iff.mp hev
  rw [hsort] at hlast ⊢
  refine ⟨_, hperm, before_insertionSort h, ?_, last, hlast, rfl⟩
  simp only [eventOf, List.length_map]
  exact hperm.length_eq

end PerGo.L3.Debounce

/-!
## The debouncer

One `Debouncer` and its Redis. `Enqueue`, `checkAndFlush`, `Flush` and `Cancel` are calls
that take one atomic step at a time: a Redis command, or what is done under the mutex
around the map of timers. Any number of them interleave. Redis commands do not fail.

* The pipeline of `Enqueue` is three commands (`RPUSH`, `SET`, `EXPIRE`) that other calls may
  come between.
* A timer is live from `AfterFunc` until it fires or is stopped; it fires when it is due
  or any time later. It may be live when it is not in the map any more.
* The list of a chat expires after `listSafetyTTL` without a push; this is the step
  `evict`. A command that comes later finds no list.
* `pushed` numbers the messages in the order of their push, and `removals` says of every
  batch that left a buffer how it left.

`Data` is what holds of the messages wherever the calls are.
-/
namespace PerGo.L3.Debounce

open PerGo.Core PerGo.L2

structure Timer where
  key : Key
  due : Time
  live : Bool

inductive Pc
  /-- `Enqueue`, the message is in the list: set the timer key -/
  | pushed
  /-- let the list expire later -/
  | windowed
  /-- arm the timer -/
  | buffered
  /-- `checkAndFlush`, run by the timer `i`: read the TTL -/
  | fired (i : Nat)
  /-- the window is still open for `rem`: reschedule -/
  | rearm (i : Nat) (rem : Time)
  /-- the window has expired: delete the timer from the map -/
  | expired
  /-- `Flush`: stop the timer -/
  | flush
  /-- run the script -/
  | script
  /-- make the event of the removal `r` -/
  | coalesce (r : Nat)
  /-- `Cancel`: stop the timer -/
  | cancel
  /-- delete the keys -/
  | del
  | done
deriving DecidableEq

structure Call where
  key : Key
  pc : Pc
deriving DecidableEq

/-- How messages left the buffer. -/
inductive How
  /-- taken by a `Flush` that is still running -/
  | flushing
  /-- returned by a `Flush` -/
  | coalesced (ev : CoalescedTurnEvent)
  /-- dropped by a `Flush`: the AI is not engaged -/
  | dropped
  | cancelled
  /-- the list expired -/
  | evicted
deriving DecidableEq

/-- Messages that left the buffer together; `since` is when their list came to be, and `at_` when it went. -/
structure Removal where
  key : Key
  entries : List Entry
  how : How
  since : Time
  at_ : Time

structure St where
  now : Time
  /-- the lists `debounce:<ws>:<chat>` -/
  buffer : Key → List Entry
  /-- when a list expires, if it has a TTL -/
  listExp : Key → Option Time
  /-- when a list came to be -/
  since : Key → Time
  /-- when the key `debounce:timer:<ws>:<chat>` expires -/
  timerExp : Key → Option Time
  /-- `Debouncer.timers` -/
  map : Key → Option Nat
  timers : List Timer
  calls : List Call
  pushed : List (Key × DebouncedMessage)
  removals : List Removal

def init : St := ⟨0, fun _ => [], fun _ => none, fun _ => 0, fun _ => none, fun _ => none, [], [], [], []⟩

inductive Lbl
  | enqueue (msg : DebouncedMessage) (t : Time)
  | flush (key : Key) (t : Time)
  | cancel (key : Key) (t : Time)
  /-- the timer `i` fires -/
  | fire (i : Nat) (t : Time)
  /-- the `k`-th call takes its next step; `disengaged`: the snapshot says that the AI must not act -/
  | run (k : Nat) (t : Time) (disengaged : Bool)
  /-- Redis expires a list -/
  | evict (key : Key) (t : Time)

def Lbl.time : Lbl → Time
  | .enqueue _ t | .flush _ t | .cancel _ t | .fire _ t | .run _ t _ | .evict _ t => t

/-- `TTL`: whole seconds, rounded, and negative without the key. -/
def redisTTL (exp : Option Time) (t : Time) : Time :=
  match exp with
  | some exp => if t < exp then ((exp - t) / 1000000 + 500) / 1000 * second else -2
  | none => -2

def listAlive (s : St) (key : Key) (t : Time) : Bool := s.buffer key = [] || (s.listExp key).all fun exp => t < exp

/-- `Stop` on the timer in the map. -/
def stopped (s : St) (key : Key) : List Timer :=
  match s.map key with
  | some i => s.timers.modify i fun tm => { tm with live := false }
  | none => s.timers

/-- `AfterFunc`, and the timer put in the map. -/
def armed (s : St) (timers : List Timer) (key : Key) (due : Time) : St :=
  { s with timers := timers ++ [⟨key, due, true⟩], map := Function.update s.map key (some timers.length) }

def removed (s : St) (key : Key) (how : How) (t : Time) : St :=
  { s with
    buffer := Function.update s.buffer key [], listExp := Function.update s.listExp key none,
    removals := s.removals ++ [⟨key, s.buffer key, how, s.since key, t⟩] }

def withoutTimer (s : St) (key : Key) : St := { s with timerExp := Function.update s.timerExp key none }

def setPc (s : St) (k : Nat) (key : Key) (pc : Pc) : St := { s with calls := s.calls.set k ⟨key, pc⟩ }

/-- `RPUSH`. mirrors debounce.go:152-178 -/
def pushed (s : St) (key : Key) (msg : DebouncedMessage) (t : Time) : St :=
  let msg := { msg with chatID := key.2 }
  { s with
    since := if s.buffer key = [] then Function.update s.since key t else s.since,
    buffer := Function.update s.buffer key (s.buffer key ++ [⟨s.pushed.length, msg⟩]),
    pushed := s.pushed ++ [(key, msg)], calls := s.calls ++ [⟨key, .pushed⟩] }

/-- How the messages of a flush end. mirrors debounce.go:289-354 -/
def outcome (key : Key) (entries : List Entry) (disengaged : Bool) : How :=
  if disengaged ∧ key.2 ≠ UUID.Nil then .dropped
  else match coalesce key (entries.map (·.msg)) with
    | some ev => .coalesced ev
    | none => .dropped

section System

variable (ttl : Time)

/-- The next step of a call.
mirrors debounce.go:175-201, 205-230, 245-263 and 270-375 -/
def runCall (s : St) (k : Nat) (key : Key) (t : Time) (disengaged : Bool) : Pc → Option St
  | .pushed => some (setPc { s with timerExp := Function.update s.timerExp key (some (t + ttl)) } k key .windowed)
  | .windowed =>
    some (setPc
      (if s.buffer key = [] then s
        else { s with listExp := Function.update s.listExp key (some (t + listSafetyTTL ttl)) }) k key .buffered)
  | .buffered => some (setPc (armed s (stopped s key) key (t + ttl)) k key .done)
  | .fired i =>
    let rem := redisTTL (s.timerExp key) t
    some (setPc s k key (if 0 < rem then .rearm i rem else .expired))
  | .rearm _ rem =>
    some (setPc (if (s.map key).isSome then armed s s.timers key (t + rem) else s) k key .done)
  | .expired => some (setPc { s with map := Function.update s.map key none } k key .flush)
  | .flush =>
    some (setPc { s with timers := stopped s key, map := Function.update s.map key none } k key .script)
  | .script =>
    if !listAlive s key t then none
    else if s.buffer key = [] then some (setPc s k key .done)
    else some (setPc (withoutTimer (removed s key .flushing t) key) k key (.coalesce s.removals.length))
  | .coalesce r =>
    some (setPc
      { s with removals := s.removals.modify r fun x => { x with how := outcome key x.entries disengaged } } k key .done)
  | .cancel =>
    some (setPc { s with timers := stopped s key, map := Function.update s.map key none } k key .del)
  | .del => if !listAlive s key t then none else some (setPc (withoutTimer (removed s key .cancelled t) key) k key .done)
  | .done => none

def act (s : St) : Lbl → Option St
  | .enqueue msg t =>
    match keyOf msg with
    | none => some s
    | some key => if listAlive s key t then some (pushed s key msg t) else none
  | .flush key _ => some { s with calls := s.calls ++ [⟨key, .flush⟩] }
  | .cancel key _ =>
    if key.1 = UUID.Nil ∨ key.2 = UUID.Nil then some s else some { s with calls := s.calls ++ [⟨key, .cancel⟩] }
  | .fire i t =>
    match s.timers[i]? with
    | some ⟨key, due, true⟩ =>
      if due ≤ t then
        some { s with
          timers := s.timers.modify i fun tm => { tm with live := false }, calls := s.calls ++ [⟨key, .fired i⟩] }
      else none
    | _ => none
  | .run k t disengaged =>
    match s.calls[k]? with
    | some ⟨key, pc⟩ => runCall ttl s k key t disengaged pc
    | none => none
  | .evict key t =>
    if listAlive s key t then none
    else some (removed s key .evicted t)

/-- The clock does not go back. -/
def step (s : St) (l : Lbl) : Option St :=
  if s.now ≤ l.time then (act ttl s l).map fun s' => { s' with now := l.time } else none

def sys : LTS St Lbl := LTS.ofFn init (step ttl)

end System

/-! ## Messages -/

structure Data (buffer : Key → List Entry) (pushed : List (Key × DebouncedMessage)) (removals : List Removal) :
    Prop where
  buffered : ∀ key, ∀ e ∈ buffer key, pushed[e.n]? = some (key, e.msg)
  order : ∀ key, (buffer key).Pairwise fun a b => a.n < b.n
  fresh : ∀ key, ∀ e ∈ buffer key, ∀ r ∈ removals, ∀ e' ∈ r.entries, e'.n ≠ e.n
  once : ((removals.flatMap (·.entries)).map (·.n)).Nodup
  own : ∀ r ∈ removals, ∀ e ∈ r.entries, pushed[e.n]? = some (r.key, e.msg)
  sorted : ∀ r ∈ removals, r.entries.Pairwise fun a b => a.n < b.n
  kept : ∀ n key msg, pushed[n]? = some (key, msg) →
    ⟨n, msg⟩ ∈ buffer key ∨ ∃ r ∈ removals, r.key = key ∧ ⟨n, msg⟩ ∈ r.entries
  events : ∀ r ∈ removals, ∀ ev, r.how = .coalesced ev → coalesce r.key (r.entries.map (·.msg)) = some ev

section Data

variable {buffer : Key → List Entry} {pushed : List (Key × DebouncedMessage)} {removals : List Removal}

theorem data_push (h : Data buffer pushed removals) (key : Key) (msg : DebouncedMessage) :
    Data (Function.update buffer key (buffer key ++ [⟨pushed.length, msg⟩])) (pushed ++ [(key, msg)]) removals := by
  have hmem : ∀ key' e, e ∈ Function.update buffer key (buffer key ++ [⟨pushed.length, msg⟩]) key' →
      e ∈ buffer key' ∨ key' = key ∧ e = ⟨pushed.length, msg⟩ := by
    intro key' e he
    by_cases hk : key' = key
    · subst hk
      rw [Function.update_self] at he
      rcases List.mem_append.mp he with he | he
      · exact Or.inl he
      · exact Or.inr ⟨rfl, List.mem_singleton.mp he⟩
    · rw [Function.update_of_ne hk] at he
      exact Or.inl he
  -- what was numbered before, keeps its number
  have hold : ∀ {n : Nat} {x : Key × DebouncedMessage}, pushed[n]? = some x →
      (pushed ++ [(key, msg)])[n]? = some x ∧ n < pushed.length := by
    intro n x hx
    have hn := (List.getElem?_eq_some_iff.mp hx).1
    rw [List.getElem?_append_left hn]
    exact ⟨hx, hn⟩
  constructor
  · intro key' e he
    rcases hmem key' e he with he | ⟨rfl, rfl⟩
    · exact (hold (h.buffered key' e he)).1
    · simp
  · intro key'
    by_cases hk : key' = key
    · subst hk
      rw [Function.update_self, List.pairwise_append]
      refine ⟨h.order key', List.pairwise_singleton .., ?_⟩
      intro a ha b hb
      rw [List.mem_singleton.mp hb]
      exact (hold (h.buffered key' a ha)).2
    · rw [Function.update_of_ne hk]
      exact h.order key'
  · intro key' e he r hr e' he'
    rcases hmem key' e he with he | ⟨-, rfl⟩
    · exact h.fresh key' e he r hr e' he'
    · exact Nat.ne_of_lt (hold (h.own r hr e' he')).2
  · exact h.once
  · intro r hr e he
    exact (hold (h.own r hr e he)).1
  · exact h.sorted
  · intro n key' msg' hn
    rcases Nat.lt_or_ge n pushed.length with hlt | hge
    · rw [List.getElem?_append_left hlt] at hn
      rcases h.kept n key' msg' hn with hb | hr
      · left
        by_cases hk : key' = key
        · subst hk
          rw [Function.update_self]
          exact List.mem_append_left _ hb
        · rw [Function.update_of_ne hk]
          exact hb
      · exact Or.inr hr
    · rw [List.getElem?_append_right hge] at hn
      obtain ⟨hlen, heq⟩ := List.getElem?_eq_some_iff.mp hn
      have hnl : n = pushed.length := by
        simp only [List.length_singleton] at hlen
        omega
      subst hnl
      simp only [Nat.sub_self, List.getElem_cons_zero, Prod.mk.injEq] at heq
      obtain ⟨rfl, rfl⟩ := heq
      left
      rw [Function.update_self]
      exact List.mem_append_right _ (List.mem_singleton_self _)
  · exact h.events

theorem data_remove (h : Data buffer pushed removals) (key : Key) {how : How} {since at_ : Time}
    (hhow : ∀ ev, how ≠ .coalesced ev) :
    Data (Function.update buffer key []) pushed (removals ++ [⟨key, buffer key, how, since, at_⟩]) := by
  have hmem : ∀ key' e, e ∈ Function.update buffer key [] key' → e ∈ buffer key' ∧ key' ≠ key := by
    intro key' e he
    by_cases hk : key' = key
    · subst hk
      rw [Function.update_self] at he
      cases he
    · rw [Function.update_of_ne hk] at he
      exact ⟨he, hk⟩
  have hrem : ∀ r ∈ removals ++ [⟨key, buffer key, how, since, at_⟩],
      r ∈ removals ∨ r = ⟨key, buffer key, how, since, at_⟩ := by
    intro r hr
    rcases List.mem_append.mp hr with hr | hr
    · exact Or.inl hr
    · exact Or.inr (List.mem_singleton.mp hr)
  constructor
  · intro key' e he
    exact h.buffered key' e (hmem key' e he).1
  · intro key'
    by_cases hk : key' = key
    · subst hk
      rw [Function.update_self]
      exact List.Pairwise.nil
    · rw [Function.update_of_ne hk]
      exact h.order key'
  · intro key' e he r hr e' he'
    obtain ⟨he, hk⟩ := hmem key' e he
    rcases hrem r hr with hr | rfl
    · exact h.fresh key' e he r hr e' he'
    · -- one number would be in two buffers
      intro hn
      have h1 := h.buffered key' e he
      have h2 := h.buffered key e' he'
      rw [hn, h1] at h2
      exact hk (Prod.mk.inj (Option.some.inj h2)).1
  · rw [List.flatMap_append, List.map_append, List.nodup_append']
    refine ⟨h.once, ?_, ?_⟩
    · simp only [List.flatMap_cons, List.flatMap_nil, List.append_nil]
      exact List.pairwise_map.mpr ((h.order key).imp fun hlt => Nat.ne_of_lt hlt)
    · intro n hn hn'
      obtain ⟨e', he', rfl⟩ := List.mem_map.mp hn
      obtain ⟨r, hr, he'⟩ := List.mem_flatMap.mp he'
      simp only [List.flatMap_cons, List.flatMap_nil, List.append_nil] at hn'
      obtain ⟨e, he, heq⟩ := List.mem_map.mp hn'
      exact h.fresh key e he r hr e' he' heq.symm
  · intro r hr e he
    rcases hrem r hr with hr | rfl
    · exact h.own r hr e he
    · exact h.buffered key e he
  · intro r hr
    rcases hrem r hr with hr | rfl
    · exact h.sorted r hr
    · exact h.order key
  · intro n key' msg' hn
    rcases h.kept n key' msg' hn with hb | ⟨r, hr, hrk, he⟩
    · by_cases hk : key' = key
      · subst hk
        exact Or.inr ⟨_, List.mem_append_right _ (List.mem_singleton_self _), rfl, hb⟩
      · left
        rw [Function.update_of_ne hk]
        exact hb
    · exact Or.inr ⟨r, List.mem_append_left _ hr, hrk, he⟩
  · intro r hr ev hev
    rcases hrem r hr with hr | rfl
    · exact h.events r hr ev hev
    · exact absurd hev (hhow ev)

theorem data_finish (h : Data buffer pushed removals) {key : Key} {i : Nat} (disengaged : Bool)
    (hkey : ∀ r, removals[i]? = some r → r.key = key) :
    Data buffer pushed (removals.modify i fun x => { x with how := outcome key x.entries disengaged }) := by
  have hmem : ∀ r' ∈ removals.modify i fun x => { x with how := outcome key x.entries disengaged },
      ∃ r ∈ removals, r'.key = r.key ∧ r'.entries = r.entries ∧
        (r'.how = r.how ∨ r.key = key ∧ r'.how = outcome r.key r.entries disengaged) := by
    intro r' hr'
    obtain ⟨j, hj⟩ := List.getElem?_of_mem hr'
    by_cases hij : i = j
    · subst hij
      rw [List.getElem?_modify_eq] at hj
      obtain ⟨r, hr, rfl⟩ := Option.map_eq_some_iff.mp hj
      have hk := hkey r hr
      exact ⟨r, List.mem_of_getElem? hr, rfl, rfl, Or.inr ⟨hk, by rw [hk]⟩⟩
    · rw [List.getElem?_modify_ne _ _ hij] at hj
      exact ⟨r', List.mem_of_getElem? hj, rfl, rfl, Or.inl rfl⟩
  have hentries : (removals.modify i fun x => { x with how := outcome key x.entries disengaged }).map (·.entries) =
      removals.map (·.entries) := by
    apply map_modify_of_eq
    intro x
    rfl
  have hkept : ∀ r ∈ removals, ∃ r' ∈ removals.modify i fun x => { x with how := outcome key x.entries disengaged },
      r'.key = r.key ∧ r'.entries = r.entries := by
    intro r hr
    obtain ⟨j, hj⟩ := List.getElem?_of_mem hr
    by_cases hij : i = j
    · subst hij
      refine ⟨{ r with how := outcome key r.entries disengaged }, List.mem_of_getElem? (i := i) ?_, rfl, rfl⟩
      rw [List.getElem?_modify_eq, hj]
      rfl
    · refine ⟨r, List.mem_of_getElem? (i := j) ?_, rfl, rfl⟩
      rw [List.getElem?_modify_ne _ _ hij, hj]
  constructor
  · exact h.buffered
  · exact h.order
  · intro key' e he r' hr' e' he'
    obtain ⟨r, hr, -, hent, -⟩ := hmem r' hr'
    exact h.fresh key' e he r hr e' (hent ▸ he')
  · rw [List.flatMap_def, hentries, ← List.flatMap_def]
    exact h.once
  · intro r' hr' e he
    obtain ⟨r, hr, hk, hent, -⟩ := hmem r' hr'
    rw [hk]
    exact h.own r hr e (hent ▸ he)
  · intro r' hr'
    obtain ⟨r, hr, -, hent, -⟩ := hmem r' hr'
    rw [hent]
    exact h.sorted r hr
  · intro n key' msg hn
    rcases h.kept n key' msg hn with hb | ⟨r, hr, hrk, he⟩
    · exact Or.inl hb
    · obtain ⟨r', hr', hk, hent⟩ := hkept r hr
      exact Or.inr ⟨r', hr', hk.trans hrk, hent ▸ he⟩
  · intro r' hr' ev hev
    obtain ⟨r, hr, hk, hent, hhow⟩ := hmem r' hr'
    rw [hk, hent]
    rcases hhow with hhow | ⟨-, hhow⟩
    · exact h.events r hr ev (hhow ▸ hev)
    · rw [hhow] at hev
      unfold outcome at hev
      split at hev
      · cases hev
      · split at hev
        · rename_i ev' hev'
          cases hev
          exact hev'
        · cases hev

end Data

end PerGo.L3.Debounce
