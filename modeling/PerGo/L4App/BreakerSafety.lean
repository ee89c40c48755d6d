import PerGo.Core.LTS
import PerGo.L3Webhook.Breaker

/-!
# What a circuit breaker promises

`Allow`, `RecordSuccess` and `RecordFailure` of `breaker/breaker.go` in any order
and on any endpoints, while the clock does not run back. A result may be recorded long after its
call was admitted, so every operation may come in every state.

An operation on an endpoint is `onEndpoint` of the breaker of that endpoint, and leaves the others as
they are (`call_eq`). `Inv` ties that breaker to the log:

* closed, it has counted the failures since the last success, and they are too few;
* not closed, they are enough, and whatever closed the way holds until its time is over (`Bars`).

`breaker_safe` reads the promises off. `Safe.quiet` is the law of the timeout: after a failure that
leaves the endpoint open, and after a probe, nothing is admitted for `resetTimeout` unless a success
is recorded.
-/
namespace PerGo.L4.BreakerSafety

open PerGo.Core PerGo.L2 PerGo.L3

inductive Op
  | allow
  | success
  | failure

/-- One call, with the endpoint's breaker before and after it. -/
structure Entry where
  op : Op
  endpoint : String
  at_ : Time
  before : EndpointBreaker
  after : EndpointBreaker
  admitted : Bool

structure Lbl where
  op : Op
  endpoint : String
  at_ : Time

structure St where
  cb : CircuitBreaker
  now : Time
  log : List Entry

def endpointOf (cb : CircuitBreaker) (endpoint : String) : EndpointBreaker := (cb.endpoints endpoint).getD {}

/-- The breaker after a call, and whether it lets a request through. -/
def call (cb : CircuitBreaker) (now : Time) (endpoint : String) : Op → CircuitBreaker × Bool
  | .allow => cb.allow now endpoint
  | .success => (cb.recordSuccess endpoint, true)
  | .failure => (cb.recordFailure now endpoint, true)

def entry (s : St) (l : Lbl) : Entry :=
  let r := call s.cb l.at_ l.endpoint l.op
  ⟨l.op, l.endpoint, l.at_, endpointOf s.cb l.endpoint, endpointOf r.1 l.endpoint, r.2⟩

theorem entry_endpoint {s : St} {l : Lbl} : (entry s l).endpoint = l.endpoint := rfl

/-- The clock does not run back. -/
def step (s : St) (l : Lbl) : Option St :=
  if s.now ≤ l.at_ then some ⟨(call s.cb l.at_ l.endpoint l.op).1, l.at_, s.log ++ [entry s l]⟩ else none

def init (maxFailures : Int) (resetTimeout now : Time) : St := ⟨.new maxFailures resetTimeout, now, []⟩

def sys (maxFailures : Int) (resetTimeout now : Time) : LTS St Lbl := LTS.ofFn (init maxFailures resetTimeout now) step

/-! ## The promises -/

def failuresSince (endpoint : String) (log : List Entry) : Nat :=
  log.foldl (fun n x => if x.endpoint = endpoint then
    match x.op with
    | .allow => n
    | .success => 0
    | .failure => n + 1 else n) 0

def Succeeds (endpoint : String) (x : Entry) : Prop := x.op = .success ∧ x.endpoint = endpoint

def Closes (x : Entry) : Prop :=
  (x.op = .failure ∧ x.after.state = .opened) ∨
    (x.op = .allow ∧ x.admitted = true ∧ x.before.state ≠ .closed)

/-- A request that is let through. -/
def Admits (endpoint : String) (x : Entry) : Prop := x.op = .allow ∧ x.endpoint = endpoint ∧ x.admitted = true

structure Safe (s : St) : Prop where
  failures : ∀ e, (endpointOf s.cb e).state ≠ .closed → s.cb.maxFailures ≤ (endpointOf s.cb e).consecutiveFailures
  closed : ∀ e, failuresSince e s.log < s.cb.maxFailures → (endpointOf s.cb e).state = .closed
  quiet : ∀ earlier x between y later, s.log = earlier ++ x :: (between ++ y :: later) → Closes x →
    Admits x.endpoint y → (∀ z ∈ between, ¬ Succeeds x.endpoint z) → x.at_ + s.cb.resetTimeout ≤ y.at_

/-! ## One operation -/

def onEndpoint (maxFailures : Nat) (resetTimeout now : Time) (ep : EndpointBreaker) : Op → EndpointBreaker × Bool
  | .allow =>
    if ep.state = .closed then (ep, true)
    else if ep.state = .halfOpen ∨ now < ep.openUntil then (ep, false)
    else ({ ep with state := .halfOpen }, true)
  | .success => ({}, true)
  | .failure => (CircuitBreaker.failed ⟨GoMap.empty, maxFailures, resetTimeout⟩ now ep, true)

section Call

variable (cb : CircuitBreaker) (now : Time) (endpoint : String) (op : Op)

theorem call_limits : (call cb now endpoint op).1.maxFailures = cb.maxFailures ∧
    (call cb now endpoint op).1.resetTimeout = cb.resetTimeout := by
  cases op with
  | allow =>
    simp only [call, CircuitBreaker.allow]
    split
    · exact ⟨rfl, rfl⟩
    · split
      · exact ⟨rfl, rfl⟩
      · split <;> exact ⟨rfl, rfl⟩
  | success =>
    simp only [call, CircuitBreaker.recordSuccess]
    split <;> exact ⟨rfl, rfl⟩
  | failure => exact ⟨rfl, rfl⟩

theorem endpointOf_set (ep : EndpointBreaker) (e : String) :
    endpointOf { cb with endpoints := cb.endpoints.set endpoint ep } e =
      if e = endpoint then ep else endpointOf cb e := by
  unfold endpointOf
  simp only [GoMap.set]
  split <;> rfl

theorem endpointOf_self (e : String) : endpointOf cb e = if e = endpoint then endpointOf cb endpoint else endpointOf cb e := by
  split
  · rename_i he
    rw [he]
  · rfl

theorem allow_eq : cb.allow now endpoint =
    if (endpointOf cb endpoint).state = .closed then (cb, true)
    else if (endpointOf cb endpoint).state = .halfOpen ∨ now < (endpointOf cb endpoint).openUntil then (cb, false)
    else ({ cb with endpoints := cb.endpoints.set endpoint { endpointOf cb endpoint with state := .halfOpen } }, true) := by
  unfold CircuitBreaker.allow
  split
  · rename_i hep
    have hclosed : (endpointOf cb endpoint).state = .closed := by simp [endpointOf, hep]
    rw [if_pos hclosed]
  · rename_i ep hep
    have hget : endpointOf cb endpoint = ep := by simp [endpointOf, hep]
    rw [hget]

theorem call_eq : (call cb now endpoint op).2 =
      (onEndpoint cb.maxFailures cb.resetTimeout now (endpointOf cb endpoint) op).2 ∧
    ∀ e, endpointOf (call cb now endpoint op).1 e =
      if e = endpoint then (onEndpoint cb.maxFailures cb.resetTimeout now (endpointOf cb endpoint) op).1
      else endpointOf cb e := by
  cases op with
  | allow =>
    simp only [call, allow_eq, onEndpoint]
    split
    · exact ⟨rfl, endpointOf_self cb endpoint⟩
    · split
      · exact ⟨rfl, endpointOf_self cb endpoint⟩
      · exact ⟨rfl, endpointOf_set cb endpoint _⟩
  | success =>
    refine ⟨rfl, fun e => ?_⟩
    simp only [call, CircuitBreaker.recordSuccess, onEndpoint]
    split
    · rename_i hep
      have hfresh : endpointOf cb endpoint = {} := by simp [endpointOf, hep]
      rw [← hfresh]
      exact endpointOf_self cb endpoint e
    · exact endpointOf_set cb endpoint _ e
  | failure => exact ⟨rfl, endpointOf_set cb endpoint _⟩

end Call

/-! ## The invariant -/

/-- Nothing is let through before `until_`, unless the endpoint is closed by a success. -/
def Bars (until_ : Time) (ep : EndpointBreaker) : Prop :=
  ep.state ≠ .closed ∧ (ep.state = .opened → until_ ≤ ep.openUntil)

def Counted (maxFailures : Nat) (failures : Nat) (ep : EndpointBreaker) : Prop :=
  if ep.state = .closed then ep.consecutiveFailures = failures ∧ failures < maxFailures
  else maxFailures ≤ ep.consecutiveFailures ∧ maxFailures ≤ failures

structure Inv (s : St) : Prop where
  some_failures : 0 < s.cb.maxFailures
  past : ∀ x ∈ s.log, x.at_ ≤ s.now
  counted : ∀ e, Counted s.cb.maxFailures (failuresSince e s.log) (endpointOf s.cb e)
  bars : ∀ earlier x later, s.log = earlier ++ x :: later → Closes x → (∀ z ∈ later, ¬ Succeeds x.endpoint z) →
    Bars (x.at_ + s.cb.resetTimeout) (endpointOf s.cb x.endpoint)
  quiet : ∀ earlier x between y later, s.log = earlier ++ x :: (between ++ y :: later) → Closes x →
    Admits x.endpoint y → (∀ z ∈ between, ¬ Succeeds x.endpoint z) → x.at_ + s.cb.resetTimeout ≤ y.at_

section Operation

variable {maxFailures n : Nat} {resetTimeout now : Time} {ep : EndpointBreaker}

theorem counted_onEndpoint (hmax : 0 < maxFailures) (h : Counted maxFailures n ep) (op : Op) :
    Counted maxFailures (match op with | .allow => n | .success => 0 | .failure => n + 1)
      (onEndpoint maxFailures resetTimeout now ep op).1 := by
  cases op with
  | allow =>
    simp only [onEndpoint]
    split
    · exact h
    · rename_i hclosed
      split
      · exact h
      · unfold Counted at h ⊢
        rw [if_neg hclosed] at h
        exact h
  | success => exact ⟨rfl, hmax⟩
  | failure =>
    simp only [onEndpoint, CircuitBreaker.failed]
    unfold Counted at h
    split
    · rename_i hhalf
      rw [hhalf] at h
      exact ⟨Nat.le_refl _, Nat.le_succ_of_le h.2⟩
    · by_cases hclosed : ep.state = .closed
      · rw [if_pos hclosed] at h
        split
        · rename_i hle
          exact ⟨hle, h.1 ▸ hle⟩
        · rename_i hlt
          show Counted maxFailures (n + 1) { ep with consecutiveFailures := ep.consecutiveFailures + 1 }
          unfold Counted
          rw [if_pos hclosed]
          exact ⟨congrArg (· + 1) h.1, by omega⟩
      · rw [if_neg hclosed] at h
        rw [if_pos (Nat.le_succ_of_le h.1)]
        exact ⟨Nat.le_succ_of_le h.1, Nat.le_succ_of_le h.2⟩

theorem bars_onEndpoint {until_ : Time} (h : Bars until_ ep) (hnow : until_ ≤ now + resetTimeout)
    (hmax : maxFailures ≤ ep.consecutiveFailures) {op : Op} (hop : op ≠ .success) :
    Bars until_ (onEndpoint maxFailures resetTimeout now ep op).1 := by
  obtain ⟨hopen, huntil⟩ := h
  cases op with
  | allow =>
    simp only [onEndpoint, if_neg hopen]
    split
    · exact ⟨hopen, huntil⟩
    · exact ⟨nofun, nofun⟩
  | success => exact absurd rfl hop
  | failure =>
    simp only [onEndpoint, CircuitBreaker.failed]
    split
    · exact ⟨nofun, fun _ => hnow⟩
    · rw [if_pos (Nat.le_succ_of_le hmax)]
      exact ⟨nofun, fun _ => hnow⟩

theorem admitted_of_bars {until_ : Time} (h : Bars until_ ep)
    (hlet : (onEndpoint maxFailures resetTimeout now ep .allow).2 = true) : until_ ≤ now := by
  obtain ⟨hopen, huntil⟩ := h
  simp only [onEndpoint, if_neg hopen] at hlet
  split at hlet
  · cases hlet
  · rename_i hnot
    obtain ⟨hhalf, hle⟩ := not_or.mp hnot
    have hopened : ep.state = .opened := by
      cases hst : ep.state with
      | closed => exact absurd hst hopen
      | opened => rfl
      | halfOpen => exact absurd hst hhalf
    exact Int.le_trans (huntil hopened) (Int.not_lt.mp hle)

theorem bars_of_closes {op : Op} (h : (op = .failure ∧ (onEndpoint maxFailures resetTimeout now ep op).1.state = .opened) ∨
      (op = .allow ∧ (onEndpoint maxFailures resetTimeout now ep op).2 = true ∧ ep.state ≠ .closed))
    (hmax : Counted maxFailures n ep) : Bars (now + resetTimeout) (onEndpoint maxFailures resetTimeout now ep op).1 := by
  rcases h with ⟨rfl, hopen⟩ | ⟨rfl, hlet, hstate⟩
  · unfold Counted at hmax
    simp only [onEndpoint, CircuitBreaker.failed] at hopen ⊢
    split
    · exact ⟨nofun, fun _ => Int.le_refl _⟩
    · rename_i hhalf
      rw [if_neg hhalf] at hopen
      split
      · exact ⟨nofun, fun _ => Int.le_refl _⟩
      · rename_i hle
        rw [if_neg hle] at hopen
        rw [if_neg (by rw [show ep.state = .opened from hopen]; nofun)] at hmax
        exact absurd (Nat.le_succ_of_le hmax.1) hle
  · simp only [onEndpoint, if_neg hstate] at hlet ⊢
    split
    · rename_i hno
      rw [if_pos hno] at hlet
      cases hlet
    · exact ⟨nofun, nofun⟩

end Operation

theorem failuresSince_append (e : String) (log : List Entry) (x : Entry) :
    failuresSince e (log ++ [x]) = if x.endpoint = e then
      match x.op with
      | .allow => failuresSince e log
      | .success => 0
      | .failure => failuresSince e log + 1 else failuresSince e log := by
  unfold failuresSince
  rw [List.foldl_append]
  rfl

theorem inv_step {s s' : St} {l : Lbl} (hs : Inv s) (h : step s l = some s') : Inv s' := by
  obtain ⟨hnow, hsome⟩ := Option.ite_none_right_eq_some.mp h
  obtain rfl := Option.some.inj hsome
  obtain ⟨hanswer, hbreaker⟩ := call_eq s.cb l.at_ l.endpoint l.op
  obtain ⟨hmax, hreset⟩ := call_limits s.cb l.at_ l.endpoint l.op
  have hself : endpointOf (call s.cb l.at_ l.endpoint l.op).1 l.endpoint =
      (onEndpoint s.cb.maxFailures s.cb.resetTimeout l.at_ (endpointOf s.cb l.endpoint) l.op).1 := by
    rw [hbreaker, if_pos rfl]
  have hpast : ∀ x ∈ s.log, x.at_ ≤ l.at_ := fun x hx => Int.le_trans (hs.past x hx) hnow
  refine ⟨hmax ▸ hs.some_failures, ?past, ?counted, ?bars, ?quiet⟩
  case past =>
    intro x hx
    rcases List.mem_append.mp hx with hx | hx
    · exact hpast x hx
    · rw [List.mem_singleton.mp hx]
      exact Int.le_refl _
  case counted =>
    intro e
    rw [failuresSince_append, hbreaker, hmax]
    by_cases he : e = l.endpoint
    · subst he
      rw [if_pos rfl, if_pos entry_endpoint]
      exact counted_onEndpoint hs.some_failures (hs.counted _) l.op
    · rw [if_neg he, if_neg (fun h => he (entry_endpoint.symm.trans h).symm)]
      exact hs.counted e
  case bars =>
    intro earlier x later hlog hx hlater
    rw [hreset]
    rcases append_singleton_split hlog with ⟨rfl, rfl, rfl⟩ | ⟨later', rfl, hlog'⟩
    · show Bars (l.at_ + s.cb.resetTimeout) (endpointOf (call s.cb l.at_ l.endpoint l.op).1 l.endpoint)
      rw [hself]
      refine bars_of_closes ?_ (hs.counted l.endpoint)
      rw [← hself, ← hanswer]
      exact hx
    · have hbars := hs.bars earlier x later' hlog' hx (fun z hz => hlater z (List.mem_append_left _ hz))
      rw [hbreaker]
      split
      · rename_i hep
        rw [hep] at hbars
        have hmem : x ∈ s.log := by rw [hlog']; simp
        refine bars_onEndpoint hbars ?_ ?_ ?_
        · exact Int.add_le_add_right (hpast x hmem) _
        · have hcount := hs.counted l.endpoint
          unfold Counted at hcount
          rw [if_neg hbars.1] at hcount
          exact hcount.1
        · intro hop
          exact hlater (entry s l) (List.mem_append_right _ (List.mem_singleton_self _)) ⟨hop, hep.symm⟩
      · exact hbars
  case quiet =>
    intro earlier x between y later hlog hx hy hbetween
    rw [hreset]
    have hlog' : s.log ++ [entry s l] = (earlier ++ x :: between) ++ y :: later := by simpa using hlog
    rcases append_singleton_split hlog' with ⟨rfl, hl, rfl⟩ | ⟨later', rfl, hl⟩
    · have hbars := hs.bars earlier x between hl.symm hx hbetween
      obtain ⟨hop, hep, hlet⟩ := hy
      have hep' : l.endpoint = x.endpoint := hep
      have hop' : l.op = .allow := hop
      have hlet' : (call s.cb l.at_ l.endpoint l.op).2 = true := hlet
      rw [hanswer, hop', hep'] at hlet'
      exact admitted_of_bars hbars hlet'
    · exact hs.quiet earlier x between y later' (by simpa using hl) hx hy hbetween

theorem inv_init (maxFailures : Int) (resetTimeout now : Time) : Inv (init maxFailures resetTimeout now) := by
  have hpos : 0 < (CircuitBreaker.new maxFailures resetTimeout).maxFailures := by
    show 0 < if maxFailures ≤ 0 then 5 else maxFailures.toNat
    split <;> omega
  refine ⟨hpos, nofun, fun _ => ⟨rfl, hpos⟩, ?_, ?_⟩
  · intro earlier x later h
    simp [init] at h
  · intro earlier x between y later h
    simp [init] at h

theorem inv_inductive (maxFailures : Int) (resetTimeout now : Time) :
    (sys maxFailures resetTimeout now).Inductive Inv where
  init := by
    intro s hs
    rw [hs]
    exact inv_init maxFailures resetTimeout now
  step s l s' hs h := inv_step hs h

theorem Inv.safe {s : St} (h : Inv s) : Safe s := by
  refine ⟨?_, ?_, h.quiet⟩
  · intro e hstate
    have hcount := h.counted e
    unfold Counted at hcount
    rw [if_neg hstate] at hcount
    exact hcount.1
  · intro e hfew
    by_contra hstate
    have hcount := h.counted e
    unfold Counted at hcount
    rw [if_neg hstate] at hcount
    omega

/-! ## Isolation -/

/-- The run `t` is what the endpoint `e` sees of the run `s`. -/
structure Only (e : String) (s t : St) : Prop where
  maxFailures : t.cb.maxFailures = s.cb.maxFailures
  resetTimeout : t.cb.resetTimeout = s.cb.resetTimeout
  breaker : endpointOf t.cb e = endpointOf s.cb e
  now : t.now ≤ s.now
  log : t.log = s.log.filter (·.endpoint = e)

theorem Only.call {e : String} {s t : St} {l : Lbl} (h : Only e s t) (hl : l.endpoint = e) : entry t l = entry s l := by
  obtain ⟨hanswer, hbreaker⟩ := call_eq s.cb l.at_ l.endpoint l.op
  obtain ⟨hanswer', hbreaker'⟩ := call_eq t.cb l.at_ l.endpoint l.op
  have hep : endpointOf t.cb l.endpoint = endpointOf s.cb l.endpoint := hl ▸ h.breaker
  unfold entry
  simp only [hanswer, hanswer', hbreaker, hbreaker', if_true, h.maxFailures, h.resetTimeout, hep]

theorem only_step {e : String} {s s' t : St} {l : Lbl} (h : Only e s t) (hs : step s l = some s') :
    ∃ t', (step t l = some t' ∨ t' = t) ∧ Only e s' t' := by
  obtain ⟨hnow, hsome⟩ := Option.ite_none_right_eq_some.mp hs
  obtain rfl := Option.some.inj hsome
  obtain ⟨hmax, hreset⟩ := call_limits s.cb l.at_ l.endpoint l.op
  have hbreaker := (call_eq s.cb l.at_ l.endpoint l.op).2 e
  by_cases hl : l.endpoint = e
  · obtain ⟨hmax', hreset'⟩ := call_limits t.cb l.at_ l.endpoint l.op
    have hbreaker' := (call_eq t.cb l.at_ l.endpoint l.op).2 e
    refine ⟨_, .inl (if_pos (Int.le_trans h.now hnow)), ?_, ?_, ?_, Int.le_refl _, ?_⟩
    · exact hmax'.trans (h.maxFailures.trans hmax.symm)
    · exact hreset'.trans (h.resetTimeout.trans hreset.symm)
    · show endpointOf (call t.cb l.at_ l.endpoint l.op).1 e = endpointOf (call s.cb l.at_ l.endpoint l.op).1 e
      rw [hbreaker, hbreaker', if_pos hl.symm, if_pos hl.symm, h.maxFailures, h.resetTimeout, hl, h.breaker]
    · show t.log ++ [entry t l] = (s.log ++ [entry s l]).filter (·.endpoint = e)
      rw [h.call hl, h.log, List.filter_append, List.filter_singleton, decide_eq_true (entry_endpoint.trans hl)]
      rfl
  · refine ⟨t, .inr rfl, h.maxFailures.trans hmax.symm, h.resetTimeout.trans hreset.symm, ?_, Int.le_trans h.now hnow, ?_⟩
    · show endpointOf t.cb e = endpointOf (call s.cb l.at_ l.endpoint l.op).1 e
      rw [hbreaker, if_neg (Ne.symm hl), h.breaker]
    · show t.log = (s.log ++ [entry s l]).filter (·.endpoint = e)
      have hother : ¬ (entry s l).endpoint = e := hl
      rw [h.log, List.filter_append, List.filter_singleton, decide_eq_false hother]
      simp

theorem only_reachable {maxFailures : Int} {resetTimeout now : Time} (e : String) {s : St}
    (h : (sys maxFailures resetTimeout now).Reachable s) :
    ∃ t, (sys maxFailures resetTimeout now).Reachable t ∧ Only e s t := by
  refine h.simulated ?_ ?_
  · intro s hs
    rw [hs]
    exact ⟨_, rfl, rfl, rfl, rfl, Int.le_refl _, rfl⟩
  · intro s l s' t hst hs
    obtain ⟨t', hstep, honly⟩ := only_step hst hs
    exact ⟨t', honly, hstep.symm.imp_right fun h => ⟨l, h⟩⟩

/-! ## Every run -/

/-- The promises hold after any calls in any order, and each endpoint's calls have the outcome they
would have alone. -/
theorem breaker_safe {maxFailures : Int} {resetTimeout now : Time} {s : St}
    (h : (sys maxFailures resetTimeout now).Reachable s) : Safe s ∧
      ∀ e, ∃ t, (sys maxFailures resetTimeout now).Reachable t ∧ t.log = s.log.filter (·.endpoint = e) := by
  refine ⟨((inv_inductive maxFailures resetTimeout now).reachable h).safe, fun e => ?_⟩
  obtain ⟨t, ht, honly⟩ := only_reachable e h
  exact ⟨t, ht, honly.log⟩

/-- Two failures open the endpoint, a call is refused, a probe goes out and its late failure opens the
endpoint again; the other endpoint is let through all along. -/
def twoFailures : List Lbl :=
  [⟨.failure, "a", 1⟩, ⟨.failure, "a", 2⟩, ⟨.allow, "b", 3⟩, ⟨.allow, "a", 4⟩, ⟨.allow, "a", 12⟩, ⟨.failure, "a", 13⟩,
    ⟨.allow, "a", 20⟩, ⟨.success, "a", 21⟩, ⟨.allow, "a", 22⟩]

theorem breaker_safe_twoFailures : ∃ s, (LTS.exec step (init 2 10 0) twoFailures) = some s ∧
    s.log.map (·.admitted) = [true, true, true, false, true, true, false, true, true] ∧ Safe s := by
  have hlog : ((LTS.exec step (init 2 10 0) twoFailures).map fun s => s.log.map (·.admitted)) =
      some [true, true, true, false, true, true, false, true, true] := by decide +kernel
  obtain ⟨s, hs, hlog⟩ := Option.map_eq_some_iff.mp hlog
  exact ⟨s, hs, hlog, (breaker_safe (LTS.exec_reachable hs)).1⟩

end PerGo.L4.BreakerSafety
