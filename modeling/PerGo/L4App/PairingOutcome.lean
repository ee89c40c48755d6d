import PerGo.L3Session.PairingEvents

/-!
# The outcome of a pairing

What the subscribers of a `PairingSession` learn. `broadcast` makes room in a full buffer, `closeWithEvent` does not:
it leaves the last event out and closes the channel; and a `broadcast` behind it changes what those who subscribe
later find.

Result: `subscribers_learn`. No step panics, and everyone gets events emitted since it subscribed, in order; the first
is the one that was the latest then, while no event is dropped that nobody has read before; the last is the one the
session was closed with, while this event finds room, and nothing is broadcast behind it.
-/
namespace PerGo.L4.PairingOutcome

open PerGo.Core PerGo.L2 PerGo.L3.PairingEvents

/-! ## What is promised -/

/-- Everyone has events emitted since it subscribed, in their order. -/
def InOrder (s : St) : Prop :=
  ∀ (i : Nat) (sub : Subscriber), s.subs[i]? = some sub → sub.drained.Sublist (s.emitted.drop sub.start)

/-- The first one is the event that was the latest when it subscribed. -/
def StartsWithLatest (s : St) : Prop :=
  ∀ (i : Nat) (sub : Subscriber), s.subs[i]? = some sub →
    sub.start < s.emitted.length ∧ sub.drained.head? = s.emitted[sub.start]?

/-- When the session is closed and the lock given back, every channel is closed, and the last event in the channel of
everyone who has not left is the one it was closed with. -/
def EndsWithFinal (s : St) : Prop :=
  ∀ (i : Nat) (sub : Subscriber), s.subs[i]? = some sub →
    (s.closed = true → s.op = .free → sub.chan.closed = true) ∧
      (sub.chan.closed = true → sub.left = false → s.final.isSome ∧ sub.drained.getLast? = s.final)

/-- The latest event is one with a status, and an event that is dropped is not the first that its reader gets. -/
def KeepsFirst (s : St) : Lbl → Prop
  | .subscribe => s.latestEvent.status ≠ ""
  | .dropOldest =>
    match s.op with
    | .broadcasting _ _ (.full i) =>
      ∀ sub, s.subs[i]? = some sub → sub.received ≠ [] ∨ sub.chan.buf.tail.head? = sub.chan.buf.head?
    | _ => True
  | _ => True

/-- The last event finds room, or is there; it has a status, and nothing else is broadcast behind it before
someone subscribes. -/
def FinalFits (s : St) : Lbl → Prop
  | .subscribe => ∀ evt, s.final = some evt → evt.status ≠ "" ∧ s.emitted.getLast? = some evt
  | .visit i =>
    match s.op with
    | .closing evt _ => ∀ sub, s.subs[i]? = some sub → sub.chan.buf.length < 16 ∨ sub.drained.getLast? = some evt
    | _ => True
  | _ => True

/-! ## What a step does -/

def firstBuf (latest : QREvent) : List QREvent := if latest.status ≠ "" then [latest] else []

theorem primed_ok (latest : QREvent) :
    ∃ ch, primed latest = .ok ch ∧ ch.buf = firstBuf latest ∧ ch.closed = false := by
  unfold primed firstBuf
  by_cases hstatus : latest.status ≠ ""
  · rw [if_pos hstatus, if_pos hstatus]
    exact ⟨_, rfl, rfl, rfl⟩
  · rw [if_neg hstatus, if_neg hstatus]
    exact ⟨_, rfl, rfl, rfl⟩

inductive Effect (s : St) : Lbl → St → Prop
  | idle (l : Lbl) : Effect s l s
  | joined (ch : EventChan) : s.op = .free → ch.buf = firstBuf s.latestEvent → ch.closed = s.closed →
      Effect s .subscribe { s with
        subs := s.subs ++ [⟨ch, [], s.emitted.length - 1, s.closed, false⟩]
        subscribers := if s.closed then s.subscribers else s.subscribers ++ [s.subs.length] }
  | left (i : Nat) (sub : Subscriber) (ch : EventChan) : s.subs[i]? = some sub → s.op = .free → i ∈ s.subscribers →
      ch.buf = sub.chan.buf → ch.closed = true →
      Effect s (.unsubscribe i) (setSub { s with subscribers := s.subscribers.erase i } i
        { sub with chan := ch, spent := true, left := true })
  | spent (i : Nat) (sub : Subscriber) : s.subs[i]? = some sub →
      Effect s (.unsubscribe i) (setSub s i { sub with spent := true })
  | broadcast (evt : QREvent) : s.op = .free →
      Effect s (.broadcast evt)
        { s with latestEvent := evt, op := .broadcasting evt s.subscribers .next, emitted := s.emitted ++ [evt] }
  | closing (evt : QREvent) : s.op = .free → s.closed = false →
      Effect s (.closeWithEvent evt) { s with
        closed := true, latestEvent := evt, op := .closing evt s.subscribers, emitted := s.emitted ++ [evt],
        final := some evt }
  | sent (evt : QREvent) (pending : List Nat) (i : Nat) (sub : Subscriber) (ch : EventChan) :
      s.op = .broadcasting evt pending .next → i ∈ pending → s.subs[i]? = some sub →
      ch.buf = sub.chan.buf ++ [evt] → ch.closed = false →
      Effect s (.visit i) (setSub { s with op := .broadcasting evt (pending.erase i) .next } i { sub with chan := ch })
  | full (evt : QREvent) (pending : List Nat) (i : Nat) (sub : Subscriber) :
      s.op = .broadcasting evt pending .next → i ∈ pending → s.subs[i]? = some sub →
      Effect s (.visit i) (setSub { s with op := .broadcasting evt (pending.erase i) (.full i) } i sub)
  | dropped (evt : QREvent) (pending : List Nat) (i : Nat) (sub : Subscriber) :
      s.op = .broadcasting evt pending (.full i) → s.subs[i]? = some sub →
      Effect s .dropOldest (setSub { s with op := .broadcasting evt pending (.dropped i) } i
        { sub with chan := sub.chan.dropOldest })
  | retried (evt : QREvent) (pending : List Nat) (i : Nat) (sub : Subscriber) (ch : EventChan) :
      s.op = .broadcasting evt pending (.dropped i) → s.subs[i]? = some sub →
      ch.buf = sub.chan.buf ++ [evt] ∨ ch.buf = sub.chan.buf → ch.closed = false →
      Effect s .retry (setSub { s with op := .broadcasting evt pending .next } i { sub with chan := ch })
  | shut (evt : QREvent) (pending : List Nat) (i : Nat) (sub : Subscriber) (ch : EventChan) :
      s.op = .closing evt pending → i ∈ pending → s.subs[i]? = some sub →
      ch.buf = sub.chan.buf ++ [evt] ∨ (ch.buf = sub.chan.buf ∧ sub.chan.buf.length = 16) → ch.closed = true →
      Effect s (.visit i) (setSub { s with op := .closing evt (pending.erase i), subscribers := s.subscribers.erase i } i
        { sub with chan := ch })
  | finished (evt : QREvent) : s.op = .broadcasting evt [] .next ∨ s.op = .closing evt [] →
      Effect s .finish { s with op := .free }
  | received (i : Nat) (sub : Subscriber) (evt : QREvent) (ch : EventChan) : s.subs[i]? = some sub →
      sub.chan.buf = evt :: ch.buf → ch.closed = sub.chan.closed →
      Effect s (.receive i) (setSub s i { sub with chan := ch, received := sub.received ++ [evt] })

/-! ## The invariant -/

/-- The holder of the lock has channels to visit that are in the session. -/
def OpInv (s : St) : Prop :=
  match s.op with
  | .free => s.closed = true → s.subscribers = []
  | .broadcasting evt pending stage =>
    evt = s.latestEvent ∧ (s.closed = true → s.subscribers = []) ∧ pending.Nodup ∧ (∀ i ∈ pending, i ∈ s.subscribers) ∧
      ∀ i, stage = .full i ∨ stage = .dropped i → i ∈ s.subscribers ∧ i ∉ pending
  | .closing evt pending =>
    evt = s.latestEvent ∧ s.final = some evt ∧ s.closed = true ∧ pending = s.subscribers

structure Inv (s : St) : Prop where
  nodup : s.subscribers.Nodup
  inside : ∀ i ∈ s.subscribers, i < s.subs.length
  open_iff : ∀ (i : Nat) (sub : Subscriber), s.subs[i]? = some sub → (i ∈ s.subscribers ↔ sub.chan.closed = false)
  op : OpInv s
  final : s.final.isSome = s.closed
  last : s.emitted.getLast? = some s.latestEvent

theorem step_effect {s : St} (h : Inv s) {l : Lbl} {r : Res St} (hstep : step s l = some r) :
    ∃ s', r = .ok s' ∧ Effect s l s' := by
  have hop := h.op
  cases l with
  | subscribe =>
    simp only [step] at hstep
    split at hstep
    · rename_i hfree
      obtain ⟨ch, hprimed, hbuf, hopen⟩ := primed_ok s.latestEvent
      cases hstep
      unfold subscribe
      rw [hprimed, Result.ok_bind]
      cases hclosed : s.closed with
      | true =>
        rw [if_pos rfl, Chan.close_open hopen, Result.ok_bind]
        have heffect := Effect.joined (s := s) { ch with closed := true } hfree hbuf hclosed.symm
        rw [hclosed] at heffect
        exact ⟨_, rfl, heffect⟩
      | false =>
        have heffect := Effect.joined (s := s) ch hfree hbuf (hopen.trans hclosed.symm)
        rw [hclosed] at heffect
        exact ⟨_, rfl, heffect⟩
    · cases hstep
  | unsubscribe i =>
    simp only [step] at hstep
    cases hsub : s.subs[i]? with
    | none =>
      rw [hsub] at hstep
      cases hstep
    | some sub =>
      simp only [hsub] at hstep
      split at hstep
      · cases hstep
        exact ⟨s, rfl, .idle _⟩
      · split at hstep
        · rename_i hfree
          cases hstep
          unfold unsubscribe
          by_cases hi : i ∈ s.subscribers
          · rw [if_pos hi, Chan.close_open ((h.open_iff i sub hsub).mp hi), Result.ok_bind]
            exact ⟨_, rfl, .left i sub _ hsub hfree hi rfl rfl⟩
          · rw [if_neg hi]
            exact ⟨_, rfl, .spent i sub hsub⟩
        · cases hstep
  | broadcast evt =>
    simp only [step] at hstep
    split at hstep
    · rename_i hfree
      cases hstep
      exact ⟨_, rfl, .broadcast evt hfree⟩
    · cases hstep
  | closeWithEvent evt =>
    simp only [step] at hstep
    split at hstep
    · rename_i hfree
      split at hstep
      · cases hstep
        exact ⟨s, rfl, .idle _⟩
      · rename_i hopen
        cases hstep
        exact ⟨_, rfl, .closing evt hfree (Bool.eq_false_iff.mpr hopen)⟩
    · cases hstep
  | visit i =>
    simp only [step] at hstep
    split at hstep
    · rename_i evt pending sub hbroadcast hsub
      split at hstep
      · rename_i hi
        cases hstep
        rw [OpInv, hbroadcast] at hop
        have hopen := (h.open_iff i sub hsub).mp (hop.2.2.2.1 i hi)
        unfold broadcastTo
        rcases Chan.trySend_open (ε := Empty) hopen evt with ⟨ch, hsend, hbuf, hch, -⟩ | ⟨hsend, -⟩
        · rw [hsend, Result.ok_bind]
          exact ⟨_, rfl, .sent evt pending i sub ch hbroadcast hi hsub hbuf hch⟩
        · rw [hsend, Result.ok_bind]
          exact ⟨_, rfl, .full evt pending i sub hbroadcast hi hsub⟩
      · cases hstep
    · rename_i evt pending sub hclosing hsub
      split at hstep
      · rename_i hi
        cases hstep
        rw [OpInv, hclosing] at hop
        have hopen := (h.open_iff i sub hsub).mp (hop.2.2.2 ▸ hi)
        unfold closeTo
        rcases Chan.trySend_open (ε := Empty) hopen evt with ⟨ch, hsend, hbuf, hch, -⟩ | ⟨hsend, hfull⟩
        · rw [hsend, Result.ok_bind]
          simp only
          rw [Chan.close_open hch, Result.ok_bind]
          exact ⟨_, rfl, .shut evt pending i sub { ch with closed := true } hclosing hi hsub (.inl hbuf) rfl⟩
        · rw [hsend, Result.ok_bind]
          simp only
          rw [Chan.close_open hopen, Result.ok_bind]
          exact ⟨_, rfl, .shut evt pending i sub { sub.chan with closed := true } hclosing hi hsub (.inr ⟨rfl, hfull⟩) rfl⟩
      · cases hstep
    · cases hstep
  | dropOldest =>
    simp only [step] at hstep
    split at hstep
    · rename_i evt pending i hfull
      obtain ⟨sub, hsub, rfl⟩ := Option.map_eq_some_iff.mp hstep
      exact ⟨_, rfl, .dropped evt pending i sub hfull hsub⟩
    · cases hstep
  | retry =>
    simp only [step] at hstep
    split at hstep
    · rename_i evt pending i hdropped
      obtain ⟨sub, hsub, rfl⟩ := Option.map_eq_some_iff.mp hstep
      rw [OpInv, hdropped] at hop
      have hopen := (h.open_iff i sub hsub).mp (hop.2.2.2.2 i (.inr rfl)).1
      unfold retryTo
      rcases Chan.trySend_open (ε := Empty) hopen evt with ⟨ch, hsend, hbuf, hch, -⟩ | ⟨hsend, -⟩
      · rw [hsend, Result.ok_bind]
        exact ⟨_, rfl, .retried evt pending i sub ch hdropped hsub (.inl hbuf) hch⟩
      · rw [hsend, Result.ok_bind]
        exact ⟨_, rfl, .retried evt pending i sub sub.chan hdropped hsub (.inr rfl) hopen⟩
    · cases hstep
  | finish =>
    simp only [step] at hstep
    split at hstep
    · rename_i evt hdone
      cases hstep
      exact ⟨_, rfl, .finished evt (.inl hdone)⟩
    · rename_i evt hdone
      cases hstep
      exact ⟨_, rfl, .finished evt (.inr hdone)⟩
    · cases hstep
  | receive i =>
    simp only [step] at hstep
    cases hsub : s.subs[i]? with
    | none =>
      rw [hsub] at hstep
      cases hstep
    | some sub =>
      simp only [hsub] at hstep
      obtain ⟨⟨evt, ch⟩, hrecv, rfl⟩ := Option.map_eq_some_iff.mp hstep
      obtain ⟨hbuf, hclosed⟩ := Chan.recv_eq_some hrecv
      exact ⟨_, rfl, .received i sub evt ch hsub hbuf hclosed⟩

theorem inv_init (connID : UUID) : Inv (init connID) :=
  ⟨List.nodup_nil, fun i hi => absurd hi List.not_mem_nil, fun i sub hsub => by simp [init] at hsub,
    fun hclosed => by simp [init] at hclosed, rfl, rfl⟩

theorem set_cases {subs : List Subscriber} {i j : Nat} {sub sub' : Subscriber} (h : (subs.set i sub)[j]? = some sub') :
    j = i ∧ sub' = sub ∨ j ≠ i ∧ subs[j]? = some sub' := by
  rw [List.getElem?_set] at h
  split at h
  · rename_i heq
    split at h
    · cases h
      exact .inl ⟨heq.symm, rfl⟩
    · cases h
  · rename_i hne
    exact .inr ⟨fun heq => hne heq.symm, h⟩

theorem Inv.open_iff_set {s : St} (h : Inv s) {i : Nat} {sub sub' : Subscriber} (hsub : s.subs[i]? = some sub)
    (hsame : sub'.chan.closed = sub.chan.closed) (j : Nat) (sub'' : Subscriber)
    (hj : (s.subs.set i sub')[j]? = some sub'') : j ∈ s.subscribers ↔ sub''.chan.closed = false := by
  rcases set_cases hj with ⟨rfl, rfl⟩ | ⟨-, hold⟩
  · rw [hsame]
    exact h.open_iff j sub hsub
  · exact h.open_iff j sub'' hold

theorem Inv.open_iff_erase {s : St} (h : Inv s) {i : Nat} {sub' : Subscriber} (hshut : sub'.chan.closed = true) (j : Nat)
    (sub'' : Subscriber) (hj : (s.subs.set i sub')[j]? = some sub'') :
    j ∈ s.subscribers.erase i ↔ sub''.chan.closed = false := by
  rw [h.nodup.mem_erase_iff]
  rcases set_cases hj with ⟨rfl, rfl⟩ | ⟨hne, hold⟩
  · simp [hshut]
  · rw [h.open_iff j sub'' hold]
    exact and_iff_right hne

theorem Inv.set {s : St} (h : Inv s) {i : Nat} {sub sub' : Subscriber} (hsub : s.subs[i]? = some sub)
    (hsame : sub'.chan.closed = sub.chan.closed) {op : Op} (hop : OpInv { s with op }) :
    Inv (setSub { s with op } i sub') :=
  ⟨h.nodup, fun j hj => (h.inside j hj).trans_eq List.length_set.symm, h.open_iff_set hsub hsame, hop, h.final, h.last⟩

theorem Inv.set_same {s : St} (h : Inv s) {i : Nat} {sub sub' : Subscriber} (hsub : s.subs[i]? = some sub)
    (hsame : sub'.chan.closed = sub.chan.closed) : Inv (setSub s i sub') :=
  @Inv.set s h i sub sub' hsub hsame s.op h.op

theorem Inv.erase {s : St} (h : Inv s) {i : Nat} {sub' : Subscriber} (hshut : sub'.chan.closed = true) {op : Op}
    (hop : OpInv { s with op, subscribers := s.subscribers.erase i }) :
    Inv (setSub { s with op, subscribers := s.subscribers.erase i } i sub') :=
  ⟨h.nodup.erase i, fun j hj => (h.inside j (List.mem_of_mem_erase hj)).trans_eq List.length_set.symm,
    h.open_iff_erase hshut, hop, h.final, h.last⟩

theorem inv_joined {s : St} (h : Inv s) (hfree : s.op = .free) {ch : EventChan} (hclosed : ch.closed = s.closed) :
    Inv { s with
      subs := s.subs ++ [⟨ch, [], s.emitted.length - 1, s.closed, false⟩]
      subscribers := if s.closed then s.subscribers else s.subscribers ++ [s.subs.length] } := by
  have hop := h.op
  have hnew : s.subs.length ∉ s.subscribers := fun hmem => Nat.lt_irrefl _ (h.inside _ hmem)
  have hcases : ∀ j (sub : Subscriber), (s.subs ++ [⟨ch, [], s.emitted.length - 1, s.closed, false⟩])[j]? = some sub →
      s.subs[j]? = some sub ∧ j ≠ s.subs.length ∨ j = s.subs.length ∧ sub.chan = ch := by
    intro j sub hj
    rw [List.getElem?_append] at hj
    split at hj
    · exact .inl ⟨hj, by omega⟩
    · have hzero : j - s.subs.length = 0 := by
        by_contra hpos
        rw [List.getElem?_eq_none (by simp; omega)] at hj
        cases hj
      rw [hzero] at hj
      cases hj
      exact .inr ⟨by omega, rfl⟩
  rw [OpInv, hfree] at hop
  rcases Bool.eq_false_or_eq_true s.closed with hc | hc
  · rw [if_pos hc]
    refine ⟨h.nodup, fun j hj => ?_, fun j sub hj => ?_, ?_, h.final, h.last⟩
    · have hin := h.inside j hj
      simp only [List.length_append]
      omega
    · rcases hcases j sub hj with ⟨hold, -⟩ | ⟨rfl, rfl⟩
      · exact h.open_iff j sub hold
      · exact iff_of_false hnew (by simp [hclosed, hc])
    · simp only [OpInv, hfree]
      exact hop
  · rw [if_neg (by simp [hc])]
    refine ⟨?_, fun j hj => ?_, fun j sub hj => ?_, ?_, h.final, h.last⟩
    · exact h.nodup.append (List.nodup_singleton _) (List.disjoint_singleton.mpr hnew)
    · simp only [List.length_append, List.length_singleton]
      rcases List.mem_append.mp hj with hold | hlast
      · have hin := h.inside j hold
        omega
      · have hlength := List.mem_singleton.mp hlast
        omega
    · rcases hcases j sub hj with ⟨hold, hne⟩ | ⟨rfl, rfl⟩
      · rw [← h.open_iff j sub hold]
        simp [hne]
      · exact iff_of_true (by simp) (hclosed.trans hc)
    · simp only [OpInv, hfree]
      intro hshut
      rw [hc] at hshut
      cases hshut

theorem inv_step {s s' : St} {l : Lbl} (h : Inv s) (heffect : Effect s l s') : Inv s' := by
  have hop := h.op
  cases heffect with
  | idle => exact h
  | joined ch hfree hbuf hclosed => exact inv_joined h hfree hclosed
  | left i sub ch hsub hfree hi hbuf hshut =>
    rw [OpInv, hfree] at hop
    refine h.erase hshut ?_
    simp only [OpInv, hfree]
    intro hclosed
    rw [hop hclosed, List.erase_nil]
  | spent i sub hsub =>
    refine h.set_same hsub ?_
    rfl
  | broadcast evt hfree =>
    rw [OpInv, hfree] at hop
    exact ⟨h.nodup, h.inside, h.open_iff, ⟨rfl, hop, h.nodup, fun i hi => hi, fun i hi => by simp at hi⟩, h.final,
      List.getLast?_concat⟩
  | closing evt hfree hopen =>
    exact ⟨h.nodup, h.inside, h.open_iff, ⟨rfl, rfl, rfl, rfl⟩, rfl, List.getLast?_concat⟩
  | sent evt pending i sub ch hbroadcast hi hsub hbuf hch =>
    rw [OpInv, hbroadcast] at hop
    obtain ⟨hevt, hclosed, hnodup, hpending, hstage⟩ := hop
    have hopen := (h.open_iff i sub hsub).mp (hpending i hi)
    refine h.set hsub (hch.trans hopen.symm) (show OpInv { s with op := .broadcasting evt (pending.erase i) .next } from ?_)
    refine ⟨hevt, hclosed, hnodup.erase i, ?_, ?_⟩
    · exact fun j hj => hpending j (List.mem_of_mem_erase hj)
    · exact fun j hj => by simp at hj
  | full evt pending i sub hbroadcast hi hsub =>
    rw [OpInv, hbroadcast] at hop
    obtain ⟨hevt, hclosed, hnodup, hpending, hstage⟩ := hop
    refine h.set hsub rfl (show OpInv { s with op := .broadcasting evt (pending.erase i) (.full i) } from ?_)
    refine ⟨hevt, hclosed, hnodup.erase i, ?_, ?_⟩
    · exact fun j hj => hpending j (List.mem_of_mem_erase hj)
    · intro j hj
      obtain rfl : i = j := by simpa using hj
      exact ⟨hpending i hi, fun hmem => ((hnodup.mem_erase_iff).mp hmem).1 rfl⟩
  | dropped evt pending i sub hfull hsub =>
    rw [OpInv, hfull] at hop
    obtain ⟨hevt, hclosed, hnodup, hpending, hstage⟩ := hop
    have hop' : OpInv { s with op := .broadcasting evt pending (.dropped i) } := by
      refine ⟨hevt, hclosed, hnodup, hpending, fun j hj => ?_⟩
      obtain rfl : i = j := by simpa using hj
      exact hstage i (.inl rfl)
    refine h.set hsub ?_ hop'
    rfl
  | retried evt pending i sub ch hdropped hsub hbuf hch =>
    rw [OpInv, hdropped] at hop
    obtain ⟨hevt, hclosed, hnodup, hpending, hstage⟩ := hop
    have hopen := (h.open_iff i sub hsub).mp (hstage i (.inr rfl)).1
    refine h.set hsub (hch.trans hopen.symm) (show OpInv { s with op := .broadcasting evt pending .next } from ?_)
    exact ⟨hevt, hclosed, hnodup, hpending, fun j hj => by simp at hj⟩
  | shut evt pending i sub ch hclosing hi hsub hbuf hshut =>
    rw [OpInv, hclosing] at hop
    obtain ⟨hevt, hfinal, hclosed, rfl⟩ := hop
    have hop' : OpInv { s with op := .closing evt (s.subscribers.erase i), subscribers := s.subscribers.erase i } :=
      ⟨hevt, hfinal, hclosed, rfl⟩
    exact h.erase hshut hop'
  | finished evt hdone =>
    refine ⟨h.nodup, h.inside, h.open_iff, ?_, h.final, h.last⟩
    rcases hdone with hdone | hdone
    · rw [OpInv, hdone] at hop
      exact hop.2.1
    · rw [OpInv, hdone] at hop
      exact fun _ => hop.2.2.2.symm
  | received i sub evt ch hsub hbuf hclosed => exact h.set_same hsub hclosed

/-! ## The order of the events -/

/-- The channels that have yet to get the event that is emitted. -/
def awaits : Op → Nat → Bool
  | .free, _ => false
  | .broadcasting _ pending stage, i => i ∈ pending || stage = .full i || stage = .dropped i
  | .closing _ pending, i => i ∈ pending

def told (s : St) (i : Nat) : List QREvent := if awaits s.op i then s.emitted.dropLast else s.emitted

def Told (s : St) : Prop :=
  ∀ (i : Nat) (sub : Subscriber), s.subs[i]? = some sub →
    sub.start < (told s i).length ∧ sub.drained.Sublist ((told s i).drop sub.start)

theorem told_sublist (s : St) (i : Nat) : (told s i).Sublist s.emitted := by
  unfold told
  split
  · exact List.dropLast_sublist _
  · exact List.Sublist.refl _

theorem told_of_awaits {s : St} {i : Nat} (h : awaits s.op i = true) : told s i = s.emitted.dropLast := if_pos h

theorem told_of_not_awaits {s : St} {i : Nat} (h : awaits s.op i = false) : told s i = s.emitted := by
  rw [told, h]
  rfl

theorem emitted_eq {s : St} (h : Inv s) : s.emitted = s.emitted.dropLast ++ [s.latestEvent] :=
  (List.dropLast_append_getLast? _ h.last).symm

theorem told_prefix {s : St} (s' : St) (hemitted : s'.emitted = s.emitted)
    (hop : ∀ j, awaits s'.op j = true → awaits s.op j = true) (j : Nat) : told s j <+: told s' j := by
  unfold told
  rw [hemitted]
  by_cases hnew : awaits s'.op j = true
  · simp [hnew, hop j hnew]
  · rw [if_neg hnew]
    split
    · exact List.dropLast_prefix _
    · exact List.prefix_refl _

theorem told_mono {a b : List QREvent} (hab : a <+: b) {start : Nat} {drained : List QREvent}
    (h : start < a.length ∧ drained.Sublist (a.drop start)) : start < b.length ∧ drained.Sublist (b.drop start) := by
  refine ⟨Nat.lt_of_lt_of_le h.1 hab.length_le, ?_⟩
  obtain ⟨more, rfl⟩ := hab
  rw [List.drop_append_of_le_length (Nat.le_of_lt h.1)]
  exact h.2.trans (List.sublist_append_left _ _)

theorem Told.set {s : St} (h : Told s) (s' : St) (hgrow : ∀ j, told s j <+: told s' j) (hsubs : s'.subs = s.subs)
    {i : Nat} {sub : Subscriber} (hi : sub.start < (told s' i).length ∧ sub.drained.Sublist ((told s' i).drop sub.start)) :
    Told (setSub s' i sub) := by
  intro j sub' hj
  have hset : (s.subs.set i sub)[j]? = some sub' := hsubs ▸ hj
  rcases set_cases hset with ⟨rfl, rfl⟩ | ⟨-, hold⟩
  · exact hi
  · exact told_mono (hgrow j) (h j sub' hold)

theorem told_append {s : St} (h : Inv s) {start : Nat} {drained : List QREvent}
    (hd : start < s.emitted.dropLast.length ∧ drained.Sublist (s.emitted.dropLast.drop start)) :
    start < s.emitted.length ∧ (drained ++ [s.latestEvent]).Sublist (s.emitted.drop start) := by
  have hdrop : s.emitted.drop start = s.emitted.dropLast.drop start ++ [s.latestEvent] := by
    rw [emitted_eq h, List.drop_append_of_le_length (by simpa using Nat.le_of_lt hd.1)]
    simp
  rw [hdrop]
  refine ⟨?_, hd.2.append (List.Sublist.refl _)⟩
  have hlt := hd.1
  rw [List.length_dropLast] at hlt
  omega

theorem told_joined {s : St} (h : Inv s) (hfree : s.op = .free) (htold : Told s) {ch : EventChan}
    (hbuf : ch.buf = firstBuf s.latestEvent) (subscribers : List Nat) :
    Told { s with subs := s.subs ++ [⟨ch, [], s.emitted.length - 1, s.closed, false⟩], subscribers } := by
  intro j sub hj
  have hall : ∀ j, told { s with subs := s.subs ++ [⟨ch, [], s.emitted.length - 1, s.closed, false⟩], subscribers } j =
      told s j := fun _ => rfl
  rw [hall]
  simp only [List.getElem?_append] at hj
  split at hj
  · exact htold j sub hj
  · have hsub : sub = ⟨ch, [], s.emitted.length - 1, s.closed, false⟩ :=
      (List.mem_singleton.mp (List.mem_of_getElem? hj))
    have hlength : s.emitted.length = s.emitted.dropLast.length + 1 := by
      conv_lhs => rw [emitted_eq h, List.length_append, List.length_singleton]
    have hlast : s.emitted.drop (s.emitted.length - 1) = [s.latestEvent] := by
      have hdrop : (s.emitted.dropLast ++ [s.latestEvent]).drop s.emitted.dropLast.length = [s.latestEvent] :=
        List.drop_left
      rw [hlength, Nat.add_sub_cancel]
      rwa [← emitted_eq h] at hdrop
    rw [told_of_not_awaits (by rw [hfree]; rfl), hsub]
    refine ⟨show s.emitted.length - 1 < s.emitted.length by omega, ?_⟩
    show ([] ++ ch.buf).Sublist (s.emitted.drop (s.emitted.length - 1))
    rw [hlast, List.nil_append, hbuf, firstBuf]
    split
    · exact List.Sublist.refl _
    · exact List.nil_sublist _

/-- One more event is emitted, and the channels of the session have yet to get it. -/
theorem told_emit {s : St} (hfree : s.op = .free) (htold : Told s) {s' : St} {evt : QREvent} (hsubs : s'.subs = s.subs)
    (hemitted : s'.emitted = s.emitted ++ [evt]) : Told s' := by
  intro j sub hj
  have hall : told s j = s.emitted := told_of_not_awaits (by rw [hfree]; rfl)
  have hgrow : told s j <+: told s' j := by
    rw [hall, told, hemitted, List.dropLast_concat]
    split
    · exact List.prefix_refl _
    · exact List.prefix_append _ _
  exact told_mono hgrow (htold j sub (hsubs ▸ hj))

theorem told_step {s s' : St} {l : Lbl} (h : Inv s) (htold : Told s) (heffect : Effect s l s') : Told s' := by
  have hop := h.op
  cases heffect with
  | idle => exact htold
  | joined ch hfree hbuf hclosed => exact told_joined h hfree htold hbuf _
  | left i sub ch hsub hfree hi hbuf hshut =>
    have hsame := htold i sub hsub
    rw [Subscriber.drained, ← hbuf] at hsame
    exact htold.set { s with subscribers := s.subscribers.erase i } (fun j => List.prefix_refl _) rfl hsame
  | spent i sub hsub =>
    refine htold.set s (fun j => List.prefix_refl _) rfl ?_
    exact htold i sub hsub
  | broadcast evt hfree => exact told_emit hfree htold rfl rfl
  | closing evt hfree hopen => exact told_emit hfree htold rfl rfl
  | sent evt pending i sub ch hbroadcast hi hsub hbuf hch =>
    rw [OpInv, hbroadcast] at hop
    obtain ⟨rfl, -, hnodup, -, -⟩ := hop
    refine htold.set { s with op := .broadcasting s.latestEvent (pending.erase i) .next }
      ( told_prefix _ rfl fun j hj => ?_) rfl ?_
    · rw [hbroadcast]
      have hmem : j ∈ pending.erase i := by simpa [awaits] using hj
      simp [awaits, List.mem_of_mem_erase hmem]
    · have hold := htold i sub hsub
      rw [told_of_awaits (by rw [hbroadcast]; simp [awaits, hi])] at hold
      have hnew := told_append h hold
      rw [told_of_not_awaits (by simp [awaits, hnodup.mem_erase_iff])]
      rw [Subscriber.drained, List.append_assoc, ← hbuf] at hnew
      exact hnew
  | full evt pending i sub hbroadcast hi hsub =>
    have hgrow := told_prefix (s := s) { s with op := .broadcasting evt (pending.erase i) (.full i) } rfl fun j hj => by
      rw [hbroadcast]
      have hmem : j ∈ pending.erase i ∨ i = j := by simpa [awaits] using hj
      rcases hmem with hmem | rfl
      · simp [awaits, List.mem_of_mem_erase hmem]
      · simp [awaits, hi]
    exact htold.set _ hgrow rfl (told_mono (hgrow i) (htold i sub hsub))
  | dropped evt pending i sub hfull hsub =>
    have hgrow := told_prefix (s := s) { s with op := .broadcasting evt pending (.dropped i) } rfl fun j hj => by
      rw [hfull]
      simpa [awaits] using hj
    obtain ⟨hlt, hsublist⟩ := told_mono (hgrow i) (htold i sub hsub)
    refine htold.set _ hgrow rfl ⟨hlt, List.Sublist.trans ?_ hsublist⟩
    exact (List.Sublist.refl _).append (List.tail_sublist _)
  | retried evt pending i sub ch hdropped hsub hbuf hch =>
    rw [OpInv, hdropped] at hop
    obtain ⟨rfl, -, hnodup, -, hstage⟩ := hop
    have hgrow := told_prefix (s := s) { s with op := .broadcasting s.latestEvent pending .next } rfl fun j hj => by
      rw [hdropped]
      have hmem : j ∈ pending := by simpa [awaits] using hj
      simp [awaits, hmem]
    refine htold.set _ hgrow rfl ?_
    rcases hbuf with hbuf | hbuf
    · have hold := htold i sub hsub
      rw [told_of_awaits (by rw [hdropped]; simp [awaits])] at hold
      have hnew := told_append h hold
      rw [told_of_not_awaits (by simp [awaits, (hstage i (.inr rfl)).2])]
      rw [Subscriber.drained, List.append_assoc, ← hbuf] at hnew
      exact hnew
    · have hsame := told_mono (hgrow i) (htold i sub hsub)
      rw [Subscriber.drained, ← hbuf] at hsame
      exact hsame
  | shut evt pending i sub ch hclosing hi hsub hbuf hshut =>
    rw [OpInv, hclosing] at hop
    obtain ⟨rfl, -, -, rfl⟩ := hop
    have hgrow := told_prefix (s := s)
      { s with op := .closing s.latestEvent (s.subscribers.erase i), subscribers := s.subscribers.erase i } rfl
      fun j hj => by
        rw [hclosing]
        have hmem : j ∈ s.subscribers.erase i := by simpa [awaits] using hj
        simp [awaits, List.mem_of_mem_erase hmem]
    refine htold.set _ hgrow rfl ?_
    rcases hbuf with hbuf | ⟨hbuf, -⟩
    · have hold := htold i sub hsub
      rw [told_of_awaits (by rw [hclosing]; simp [awaits, hi])] at hold
      have hnew := told_append h hold
      rw [told_of_not_awaits (by simp [awaits, h.nodup.mem_erase_iff])]
      rw [Subscriber.drained, List.append_assoc, ← hbuf] at hnew
      exact hnew
    · have hsame := told_mono (hgrow i) (htold i sub hsub)
      rw [Subscriber.drained, ← hbuf] at hsame
      exact hsame
  | finished evt hdone =>
    intro j sub hj
    have hgrow := told_prefix (s := s) { s with op := .free } rfl fun _ hk => by simp [awaits] at hk
    exact told_mono (hgrow j) (htold j sub hj)
  | received i sub evt ch hsub hbuf hclosed =>
    have hsame := htold i sub hsub
    rw [Subscriber.drained, hbuf, List.append_cons] at hsame
    exact htold.set s (fun j => List.prefix_refl _) rfl hsame

/-! ## The first event, and the last -/

theorem head_append {drained more : List QREvent} {first : Option QREvent} (hsome : first.isSome)
    (h : drained.head? = first) : (drained ++ more).head? = first := by
  cases drained with
  | nil =>
    cases h
    cases hsome
  | cons evt drained => exact h

theorem starts_set {s s' : St} (h : StartsWithLatest s) (hsubs : s'.subs = s.subs) (hemitted : s'.emitted = s.emitted)
    {i : Nat} {sub sub' : Subscriber} (hsub : s.subs[i]? = some sub) (hstart : sub'.start = sub.start)
    (hdrained : sub.drained.head?.isSome → sub'.drained.head? = sub.drained.head?) :
    StartsWithLatest (setSub s' i sub') := by
  intro j sub'' hj
  have hset : (s.subs.set i sub')[j]? = some sub'' := hsubs ▸ hj
  have hemitted' : (setSub s' i sub').emitted = s.emitted := hemitted
  rw [hemitted']
  rcases set_cases hset with ⟨rfl, rfl⟩ | ⟨-, hold⟩
  · obtain ⟨hlt, hfirst⟩ := h j sub hsub
    have hsome : sub.drained.head?.isSome := by
      rw [hfirst, List.getElem?_eq_getElem hlt]
      rfl
    rw [hstart, hdrained hsome]
    exact ⟨hlt, hfirst⟩
  · exact h j sub'' hold

theorem starts_step {s s' : St} {l : Lbl} (h : Inv s) (hstarts : StartsWithLatest s) (hkeeps : KeepsFirst s l)
    (heffect : Effect s l s') : StartsWithLatest s' := by
  have hlast := h.last
  -- an event behind the others, or none
  have hmore : ∀ {sub : Subscriber} {ch : EventChan} {l : List QREvent}, ch.buf = sub.chan.buf ++ l →
      sub.drained.head?.isSome → ({ sub with chan := ch } : Subscriber).drained.head? = sub.drained.head? := by
    intro sub ch more hbuf hsome
    show (sub.received ++ ch.buf).head? = _
    rw [hbuf, ← List.append_assoc]
    exact head_append hsome rfl
  have hemit : ∀ {t : St} {evt : QREvent}, t.subs = s.subs → t.emitted = s.emitted ++ [evt] → StartsWithLatest t := by
    intro t evt hsubs hemitted j sub hj
    obtain ⟨hlt, hfirst⟩ := hstarts j sub (hsubs ▸ hj)
    rw [hemitted, List.length_append, List.getElem?_append_left hlt]
    exact ⟨Nat.lt_add_right _ hlt, hfirst⟩
  cases heffect with
  | idle => exact hstarts
  | joined ch hfree hbuf hclosed =>
    intro j sub hj
    simp only [List.getElem?_append] at hj
    split at hj
    · exact hstarts j sub hj
    · have hsub : sub = ⟨ch, [], s.emitted.length - 1, s.closed, false⟩ := List.mem_singleton.mp (List.mem_of_getElem? hj)
      have hpos : 0 < s.emitted.length := by
        rw [emitted_eq h, List.length_append]
        exact Nat.succ_pos _
      rw [hsub]
      refine ⟨Nat.sub_lt hpos Nat.one_pos, ?_⟩
      show ([] ++ ch.buf).head? = s.emitted[s.emitted.length - 1]?
      have hstatus : s.latestEvent.status ≠ "" := hkeeps
      rw [List.nil_append, hbuf, firstBuf, if_pos hstatus, ← List.getLast?_eq_getElem?, hlast]
      rfl
  | left i sub ch hsub hfree hi hbuf hshut =>
    exact starts_set hstarts rfl rfl hsub rfl (hmore (l := []) (by rw [hbuf, List.append_nil]))
  | spent i sub hsub => exact starts_set hstarts rfl rfl hsub rfl fun _ => rfl
  | broadcast evt hfree => exact hemit rfl rfl
  | closing evt hfree hopen => exact hemit rfl rfl
  | sent evt pending i sub ch hbroadcast hi hsub hbuf hch => exact starts_set hstarts rfl rfl hsub rfl (hmore hbuf)
  | full evt pending i sub hbroadcast hi hsub => exact starts_set hstarts rfl rfl hsub rfl fun _ => rfl
  | dropped evt pending i sub hfull hsub =>
    refine starts_set hstarts rfl rfl hsub rfl fun hsome => ?_
    simp only [KeepsFirst, hfull] at hkeeps
    show (sub.received ++ sub.chan.buf.tail).head? = (sub.received ++ sub.chan.buf).head?
    rcases hkeeps sub hsub with hread | hsame
    · obtain ⟨evt, rest, hcons⟩ := List.exists_cons_of_ne_nil hread
      rw [hcons]
      rfl
    · rw [List.head?_append, List.head?_append, hsame]
  | retried evt pending i sub ch hdropped hsub hbuf hch =>
    refine starts_set hstarts rfl rfl hsub rfl ?_
    rcases hbuf with hbuf | hbuf
    · exact hmore hbuf
    · exact hmore (l := []) (by rw [hbuf, List.append_nil])
  | shut evt pending i sub ch hclosing hi hsub hbuf hshut =>
    refine starts_set hstarts rfl rfl hsub rfl ?_
    rcases hbuf with hbuf | ⟨hbuf, -⟩
    · exact hmore hbuf
    · exact hmore (l := []) (by rw [hbuf, List.append_nil])
  | finished evt hdone => exact hstarts
  | received i sub evt ch hsub hbuf hclosed =>
    refine starts_set hstarts rfl rfl hsub rfl fun _ => ?_
    show (sub.received ++ [evt] ++ ch.buf).head? = (sub.received ++ sub.chan.buf).head?
    rw [hbuf, List.append_assoc]
    rfl

def Ended (s : St) : Prop :=
  ∀ (i : Nat) (sub : Subscriber), s.subs[i]? = some sub → sub.chan.closed = true → sub.left = false →
    s.final.isSome ∧ sub.drained.getLast? = s.final

theorem Ended.set {s s' : St} (h : Ended s) (hsubs : s'.subs = s.subs) (hfinal : s'.final = s.final) {i : Nat}
    {sub : Subscriber}
    (hi : sub.chan.closed = true → sub.left = false → s.final.isSome ∧ sub.drained.getLast? = s.final) :
    Ended (setSub s' i sub) := by
  intro j sub' hj
  have hset : (s.subs.set i sub)[j]? = some sub' := hsubs ▸ hj
  have hfinal' : (setSub s' i sub).final = s.final := hfinal
  rw [hfinal']
  rcases set_cases hset with ⟨rfl, rfl⟩ | ⟨-, hold⟩
  · exact hi
  · exact h j sub' hold

theorem ended_step {s s' : St} {l : Lbl} (h : Inv s) (hended : Ended s) (hfits : FinalFits s l)
    (heffect : Effect s l s') : Ended s' := by
  have hop := h.op
  have hopen : ∀ {ch : EventChan} {P : Prop}, ch.closed = false → ch.closed = true → P := by
    intro ch P hfalse htrue
    rw [hfalse] at htrue
    cases htrue
  cases heffect with
  | idle => exact hended
  | joined ch hfree hbuf hclosed =>
    intro j sub hj hshut hstays
    simp only [List.getElem?_append] at hj
    split at hj
    · exact hended j sub hj hshut hstays
    · have hsub : sub = ⟨ch, [], s.emitted.length - 1, s.closed, false⟩ := List.mem_singleton.mp (List.mem_of_getElem? hj)
      rw [hsub] at hshut
      have hc : s.closed = true := hclosed ▸ hshut
      obtain ⟨evt, hfinal⟩ := Option.isSome_iff_exists.mp (h.final.trans hc)
      obtain ⟨hstatus, hlast⟩ := hfits evt hfinal
      obtain rfl := Option.some.inj (h.last.symm.trans hlast)
      refine ⟨h.final.trans hc, ?_⟩
      rw [hsub]
      show ([] ++ ch.buf).getLast? = s.final
      rw [List.nil_append, hbuf, firstBuf, if_pos hstatus, hfinal]
      rfl
  | left i sub ch hsub hfree hi hbuf hshut => exact hended.set rfl rfl fun _ hstays => by cases hstays
  | spent i sub hsub => exact hended.set rfl rfl (hended i sub hsub)
  | broadcast evt hfree => exact hended
  | closing evt hfree hnot =>
    intro j sub hj hshut hstays
    obtain ⟨hsome, -⟩ := hended j sub hj hshut hstays
    rw [h.final, hnot] at hsome
    cases hsome
  | sent evt pending i sub ch hbroadcast hi hsub hbuf hch => exact hended.set rfl rfl fun hshut => hopen hch hshut
  | full evt pending i sub hbroadcast hi hsub => exact hended.set rfl rfl (hended i sub hsub)
  | dropped evt pending i sub hfull hsub =>
    rw [OpInv, hfull] at hop
    have hin := (hop.2.2.2.2 i (.inl rfl)).1
    exact hended.set rfl rfl fun hshut => hopen ((h.open_iff i sub hsub).mp hin) hshut
  | retried evt pending i sub ch hdropped hsub hbuf hch => exact hended.set rfl rfl fun hshut => hopen hch hshut
  | shut evt pending i sub ch hclosing hi hsub hbuf hshut =>
    rw [OpInv, hclosing] at hop
    obtain ⟨-, hfinal, -, -⟩ := hop
    simp only [FinalFits, hclosing] at hfits
    refine hended.set rfl rfl fun _ _ => ⟨by rw [hfinal]; rfl, ?_⟩
    show (sub.received ++ ch.buf).getLast? = s.final
    rcases hbuf with hbuf | ⟨hbuf, hfull⟩
    · rw [hbuf, ← List.append_assoc, List.getLast?_concat, hfinal]
    · rcases hfits sub hsub with hroom | hthere
      · omega
      · rw [hbuf, hfinal]
        exact hthere
  | finished evt hdone => exact hended
  | received i sub evt ch hsub hbuf hclosed =>
    refine hended.set rfl rfl fun hshut hstays => ?_
    obtain ⟨hsome, hlast⟩ := hended i sub hsub (hclosed ▸ hshut) hstays
    refine ⟨hsome, ?_⟩
    show (sub.received ++ [evt] ++ ch.buf).getLast? = s.final
    rw [Subscriber.drained, hbuf, List.append_cons] at hlast
    exact hlast

/-! ## What the subscribers learn -/

theorem inductive_effect (connID : UUID) {G : St → Lbl → Prop} {I : St → Prop} (hinit : I (init connID))
    (hstep : ∀ s l s', Inv s → I s → G s l → Effect s l s' → I s') :
    ((sys connID).restrict G).Inductive fun s => Inv s ∧ I s := by
  refine LTS.Inductive.of_restrict ?_ ?_
  · rintro s rfl
    exact ⟨inv_init connID, hinit⟩
  · rintro s l s' ⟨h, hI⟩ hguard hs
    obtain ⟨t, ht, heffect⟩ := step_effect h hs
    cases ht
    exact ⟨inv_step h heffect, hstep s l s' h hI hguard heffect⟩

theorem subscribers_learn (connID : UUID) :
    (∀ s, (sys connID).Reachable s → (∀ l, step s l ≠ some .panic) ∧ InOrder s) ∧
      (∀ s, ((sys connID).restrict KeepsFirst).Reachable s → StartsWithLatest s) ∧
      ∀ s, ((sys connID).restrict FinalFits).Reachable s → EndsWithFinal s := by
  have hnone : ∀ {P : Nat → Subscriber → Prop} (i : Nat) (sub : Subscriber),
      (init connID).subs[i]? = some sub → P i sub :=
    fun i sub hsub => by simp [init] at hsub
  refine ⟨fun s hs => ?_, fun s hs => ?_, fun s hs => ?_⟩
  · have hboth : (sys connID).Inductive fun s => Inv s ∧ Told s := by
      refine ⟨?_, ?_⟩
      · rintro t rfl
        exact ⟨inv_init connID, hnone⟩
      · rintro t l t' ⟨h, htold⟩ hstep
        obtain ⟨u, hu, heffect⟩ := step_effect h hstep
        cases hu
        exact ⟨inv_step h heffect, told_step h htold heffect⟩
    obtain ⟨hinv, htold⟩ := hboth.reachable hs
    refine ⟨fun l hpanic => ?_, fun i sub hsub => ?_⟩
    · obtain ⟨t, ht, -⟩ := step_effect hinv hpanic
      cases ht
    · exact (htold i sub hsub).2.trans ((told_sublist s i).drop sub.start)
  · exact ((inductive_effect connID hnone fun s l s' h hI hG he => starts_step h hI hG he).reachable hs).2
  · obtain ⟨h, hended⟩ :=
      (inductive_effect connID (I := Ended) hnone fun s l s' h hI hG he => ended_step h hI hG he).reachable hs
    refine fun i sub hsub => ⟨fun hclosed hfree => ?_, hended i sub hsub⟩
    have hop := h.op
    rw [OpInv, hfree] at hop
    have hout : i ∉ s.subscribers := by
      rw [hop hclosed]
      exact List.not_mem_nil
    rw [h.open_iff i sub hsub] at hout
    exact Bool.eq_true_of_not_eq_false hout

/-! ## Readers that are slow, and readers that are late -/

theorem reach {connID : UUID} {s s' : St} (h : (sys connID).Reachable s) (l : Lbl) (hstep : step s l = some (.ok s')) :
    (sys connID).Reachable s' := h.step hstep

/-- A session with one subscriber, who has read nothing. -/
def unread (emitted : List QREvent) (latest : QREvent) (buf : List QREvent) (h : buf.length ≤ 16) (op : Op) : St :=
  ⟨latest, false, [0], [⟨⟨buf, false, h⟩, [], 1, false, false⟩], op, emitted, none⟩

/-- An event that is broadcast goes into the buffer while there is room. -/
theorem reachable_round {connID : UUID} {emitted buf : List QREvent} {latest : QREvent} (h : buf.length < 16)
    (evt : QREvent)
    (hreach : (sys connID).Reachable (unread emitted latest buf (Nat.le_of_lt h) .free)) :
    (sys connID).Reachable
      (unread (emitted ++ [evt]) evt (buf ++ [evt]) (by rw [List.length_append]; exact h) .free) := by
  have hcast : step (unread emitted latest buf (Nat.le_of_lt h) .free) (.broadcast evt) =
      some (.ok (unread (emitted ++ [evt]) evt buf (Nat.le_of_lt h) (.broadcasting evt [0] .next))) := rfl
  have hvisit : step (unread (emitted ++ [evt]) evt buf (Nat.le_of_lt h) (.broadcasting evt [0] .next)) (.visit 0) =
      some (.ok (unread (emitted ++ [evt]) evt (buf ++ [evt]) (by rw [List.length_append]; exact h)
        (.broadcasting evt [] .next))) := by
    simp [step, unread, broadcastTo, Chan.trySend, h, setSub]
  have hfinish : step (unread (emitted ++ [evt]) evt (buf ++ [evt]) (by rw [List.length_append]; exact h)
      (.broadcasting evt [] .next)) .finish =
      some (.ok (unread (emitted ++ [evt]) evt (buf ++ [evt]) (by rw [List.length_append]; exact h) .free)) := rfl
  exact reach (reach (reach hreach _ hcast) _ hvisit) _ hfinish

theorem reachable_full {connID : UUID} {evt : QREvent} (n : Nat) {emitted buf : List QREvent} (hn : buf.length + n = 16)
    (hreach : (sys connID).Reachable (unread emitted evt buf (by omega) .free)) :
    ∃ emitted' buf', ∃ h : buf'.length = 16,
      (sys connID).Reachable (unread emitted' evt buf' (Nat.le_of_eq h) .free) ∧
        (buf.getLast? = some evt → buf'.getLast? = some evt) := by
  induction n generalizing emitted buf with
  | zero => exact ⟨emitted, buf, hn, hreach, id⟩
  | succ n ih =>
    have hround := reachable_round (by omega) evt hreach
    obtain ⟨emitted', buf', hfull, hreach', hlast⟩ := ih (by rw [List.length_append, List.length_singleton]; omega) hround
    exact ⟨emitted', buf', hfull, hreach', fun _ => hlast List.getLast?_concat⟩

theorem closed_full {connID : UUID} {evt final : QREvent} (hne : evt ≠ final) {emitted buf : List QREvent}
    (hfull : buf.length = 16) (hlast : buf.getLast? = some evt)
    (hreach : (sys connID).Reachable (unread emitted evt buf (Nat.le_of_eq hfull) .free)) :
    ∃ s, (sys connID).Reachable s ∧ ¬ EndsWithFinal s := by
  have hclose := reach hreach (.closeWithEvent final) rfl
  have hvisit : (sys connID).Reachable ⟨final, true, [], [⟨⟨buf, true, Nat.le_of_eq hfull⟩, [], 1, false, false⟩],
      .closing final [], emitted ++ [final], some final⟩ :=
    reach hclose (.visit 0) (by simp [step, unread, closeTo, Chan.trySend, Chan.close, hfull, setSub])
  refine ⟨_, hvisit, fun hends => hne ?_⟩
  have hsub := ((hends 0 _ rfl).2 rfl rfl).2
  have hdrained : buf.getLast? = some final := hsub
  rw [hlast] at hdrained
  exact Option.some.inj hdrained

/-! A phone is paired behind codes that nobody has read; and a code is broadcast behind the end. -/

def code : QREvent := ⟨"qr", "2@code", "", "", none, "", none⟩

def paired : QREvent := ⟨"connected", "", "", "", none, "Paired", none⟩

def late (connID : UUID) : St :=
  ⟨code, true, [], [⟨⟨[code], true, by decide⟩, [], 2, true, false⟩], .free, [firstEvent connID, paired, code],
    some paired⟩

theorem outcome_missed :
    (∃ s, (sys 1).Reachable s ∧ ¬ EndsWithFinal s) ∧
      ∃ s, (sys 1).Reachable s ∧ s.subscribers = [] ∧ ¬ EndsWithFinal s := by
  have hne : code ≠ paired := by decide +kernel
  have hinit : (sys 1).Reachable (init 1) := ⟨init 1, [], rfl, .nil _⟩
  have hcode := reach (reach hinit (.broadcast code) rfl) .finish rfl
  constructor
  · have hfirst : (sys 1).Reachable (unread [firstEvent 1, code] code [code] (by decide) .free) :=
      reach hcode .subscribe rfl
    obtain ⟨emitted, buf, hfull, hreach, hlast⟩ := reachable_full 15 rfl hfirst
    exact closed_full hne hfull (hlast rfl) hreach
  · have hclosed := reach (reach hinit (.closeWithEvent paired) rfl) .finish rfl
    have hlate : (sys 1).Reachable (late 1) :=
      reach (reach (reach hclosed (.broadcast code) rfl) .finish rfl) .subscribe rfl
    refine ⟨late 1, hlate, rfl, fun hends => hne ?_⟩
    have hlast : [code].getLast? = some paired := ((hends 0 _ rfl).2 rfl rfl).2
    exact Option.some.inj hlast

end PerGo.L4.PairingOutcome
