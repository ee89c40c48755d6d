import PerGo.L3Inbound.Debouncer

/-!
# Messages are coalesced once

What holds in every run of the debouncer, of any calls on any chats.

* `Attended`: a buffer that is not empty has a call on its way that will arm a timer or
  empty it, or a timer in the map that is live or whose `checkAndFlush` is on its way.
  Timers that were dropped from the map need not be counted.
* `Lists`: a list that expires has existed for its safety TTL.
* `coalesced_once`: the two with `Data`, said of the messages.
-/
namespace PerGo.L4.Debouncing

open PerGo.Core PerGo.L2 PerGo.L3.Debounce

def EventOf (r : Removal) (ev : CoalescedTurnEvent) : Prop :=
  ∃ sorted : List Entry, sorted.Perm r.entries ∧ sorted.Pairwise Before ∧ ev.messageCount = r.entries.length ∧
    ∃ last, (sorted.map (·.msg)).getLast? = some last ∧ ev = eventOf r.key (sorted.map (·.msg)) last

structure CoalescedOnce (ttl : Time) (s : St) : Prop where
  /-- no message leaves twice, -/
  once : ((s.removals.flatMap (·.entries)).map (·.n)).Nodup
  /-- and each as one of its own workspace and chat -/
  own : ∀ r ∈ s.removals, ∀ e ∈ r.entries, s.pushed[e.n]? = some (r.key, e.msg)
  /-- a message is in its buffer until it leaves -/
  kept : ∀ n key msg, s.pushed[n]? = some (key, msg) →
    ⟨n, msg⟩ ∈ s.buffer key ∨ ∃ r ∈ s.removals, r.key = key ∧ ⟨n, msg⟩ ∈ r.entries
  events : ∀ r ∈ s.removals, ∀ ev, r.how = .coalesced ev → EventOf r ev
  /-- a list expires only after its safety TTL -/
  evicted : ∀ r ∈ s.removals, r.how = .evicted → r.since + listSafetyTTL ttl ≤ r.at_
  /-- what a `Flush` has taken, it returns or drops -/
  settled : ∀ i r, s.removals[i]? = some r → r.how = .flushing → ∃ c ∈ s.calls, c.pc = .coalesce i
  /-- no buffer is stranded -/
  attended : ∀ key, s.buffer key ≠ [] → (∀ c ∈ s.calls, c.key = key → c.pc = .done) →
    ∃ tm ∈ s.timers, tm.key = key ∧ tm.live = true

/-! ## Timers -/

/-- The call will arm a timer, or empty the buffer. -/
def attends : Pc → Bool
  | .pushed | .windowed | .buffered | .expired | .flush | .script | .cancel | .del => true
  | .fired _ | .rearm .. | .coalesce _ | .done => false

/-- Someone will see to the buffer of the chat: a call that is on its way, or the timer in the map, which is live or
whose `checkAndFlush` is on its way. -/
def Attended (s : St) (key : Key) : Prop :=
  (∃ c ∈ s.calls, c.key = key ∧ attends c.pc = true) ∨
    ∃ i tm, s.map key = some i ∧ s.timers[i]? = some tm ∧
      (tm.live = true ∨ ∃ c ∈ s.calls, c.key = key ∧ (c.pc = .fired i ∨ ∃ rem, c.pc = .rearm i rem))

def MapOwn (s : St) : Prop := ∀ key i, s.map key = some i → ∃ tm, s.timers[i]? = some tm ∧ tm.key = key

structure Inv (s : St) : Prop where
  data : Data s.buffer s.pushed s.removals
  map : MapOwn s
  attended : ∀ key, s.buffer key ≠ [] → Attended s key
  /-- a flush at its end knows what it has taken -/
  taken : ∀ c ∈ s.calls, ∀ i, c.pc = .coalesce i → ∃ r, s.removals[i]? = some r ∧ r.key = c.key
  settled : ∀ i r, s.removals[i]? = some r → r.how = .flushing → ∃ c ∈ s.calls, c.pc = .coalesce i

theorem inv_init : Inv init := by
  constructor
  · constructor
    · intro key e he
      cases he
    · intro key
      exact List.Pairwise.nil
    · intro key e he
      cases he
    · exact List.nodup_nil
    · intro r hr
      cases hr
    · intro r hr
      cases hr
    · intro n key msg hn
      simp [init] at hn
    · intro r hr
      cases hr
  · intro key i hi
    cases hi
  · intro key hb
    exact absurd rfl hb
  · intro c hc
    cases hc
  · intro i r hr
    simp [init] at hr

theorem live_of_inv {s : St} (h : Inv s) {key : Key} (hb : s.buffer key ≠ [])
    (hidle : ∀ c ∈ s.calls, c.key = key → c.pc = .done) : ∃ tm ∈ s.timers, tm.key = key ∧ tm.live = true := by
  rcases h.attended key hb with ⟨c, hc, hk, hpc⟩ | ⟨i, tm, hmap, htm, hlive⟩
  · rw [hidle c hc hk] at hpc
    cases hpc
  · obtain ⟨tm', htm', hkey⟩ := h.map key i hmap
    rw [htm] at htm'
    cases htm'
    refine ⟨tm, List.mem_of_getElem? htm, hkey, ?_⟩
    rcases hlive with hlive | ⟨c, hc, hk, hpc⟩
    · exact hlive
    · -- its `checkAndFlush` would be in progress
      rcases hpc with hpc | ⟨rem, hpc⟩
      · rw [hidle c hc hk] at hpc
        cases hpc
      · rw [hidle c hc hk] at hpc
        cases hpc

/-! ### The map -/

theorem stopped_key {s : St} {key : Key} {i : Nat} {tm : Timer} (h : s.timers[i]? = some tm) :
    ∃ tm', (stopped s key)[i]? = some tm' ∧ tm'.key = tm.key := by
  unfold stopped
  split
  · rename_i j hj
    by_cases hij : j = i
    · subst hij
      refine ⟨{ tm with live := false }, ?_, rfl⟩
      rw [List.getElem?_modify_eq, h]
      rfl
    · rw [List.getElem?_modify_ne _ _ hij]
      exact ⟨tm, h, rfl⟩
  · exact ⟨tm, h, rfl⟩

theorem stopped_other {s : St} (h : MapOwn s) {key key' : Key} (hk : key' ≠ key) {i : Nat} (hi : s.map key' = some i) :
    (stopped s key)[i]? = s.timers[i]? := by
  unfold stopped
  split
  · rename_i j hj
    have hij : j ≠ i := by
      rintro rfl
      obtain ⟨tm, htm, hkey⟩ := h key j hj
      obtain ⟨tm', htm', hkey'⟩ := h key' j hi
      rw [htm] at htm'
      cases htm'
      exact hk (hkey'.symm.trans hkey)
    rw [List.getElem?_modify_ne _ _ hij]
  · rfl

theorem mapOwn_armed {s : St} (h : MapOwn s) {timers : List Timer} (key : Key) (due : Time)
    (ht : ∀ (i : Nat) (tm : Timer), s.timers[i]? = some tm → ∃ tm' : Timer, timers[i]? = some tm' ∧ tm'.key = tm.key) :
    MapOwn (armed s timers key due) := by
  intro key' i hi
  simp only [armed] at hi ⊢
  by_cases hk : key' = key
  · subst hk
    rw [Function.update_self] at hi
    cases hi
    exact ⟨_, List.getElem?_concat_length, rfl⟩
  · rw [Function.update_of_ne hk] at hi
    obtain ⟨tm, htm, hkey⟩ := h key' i hi
    obtain ⟨tm', htm', hkey'⟩ := ht i tm htm
    rw [List.getElem?_append_left (List.getElem?_eq_some_iff.mp htm').1]
    exact ⟨tm', htm', hkey'.trans hkey⟩

theorem mapOwn_cleared {s : St} (h : MapOwn s) {timers : List Timer} (key : Key)
    (ht : ∀ (i : Nat) (tm : Timer), s.timers[i]? = some tm → ∃ tm' : Timer, timers[i]? = some tm' ∧ tm'.key = tm.key) :
    MapOwn { s with timers := timers, map := Function.update s.map key none } := by
  intro key' i hi
  simp only at hi ⊢
  by_cases hk : key' = key
  · subst hk
    rw [Function.update_self] at hi
    cases hi
  · rw [Function.update_of_ne hk] at hi
    obtain ⟨tm, htm, hkey⟩ := h key' i hi
    obtain ⟨tm', htm', hkey'⟩ := ht i tm htm
    exact ⟨tm', htm', hkey'.trans hkey⟩

theorem attended_armed (s : St) (timers : List Timer) (key : Key) (due : Time) (k : Nat) (pc : Pc) :
    Attended (setPc (armed s timers key due) k key pc) key := by
  refine Or.inr ⟨timers.length, ⟨key, due, true⟩, ?_, List.getElem?_concat_length, Or.inl rfl⟩
  simp only [setPc, armed, Function.update_self]

/-! ### One step -/

/-- The call is one that `Attended` speaks of. -/
def counts (pc : Pc) (i : Nat) : Prop := attends pc = true ∨ pc = .fired i ∨ ∃ rem, pc = .rearm i rem

theorem attended_of {s s' : St} {key : Key} (h : Attended s key)
    (hcalls : ∀ c ∈ s.calls, c.key = key → ∀ i, counts c.pc i → c ∈ s'.calls) (hmap : s'.map key = s.map key)
    (htimers : ∀ i tm, s.map key = some i → s.timers[i]? = some tm → s'.timers[i]? = some tm) : Attended s' key := by
  rcases h with ⟨c, hc, hk, hpc⟩ | ⟨i, tm, hi, htm, hlive⟩
  · exact Or.inl ⟨c, hcalls c hc hk 0 (Or.inl hpc), hk, hpc⟩
  · refine Or.inr ⟨i, tm, hmap.trans hi, htimers i tm hi htm, ?_⟩
    rcases hlive with hlive | ⟨c, hc, hk, hpc⟩
    · exact Or.inl hlive
    · exact Or.inr ⟨c, hcalls c hc hk i (Or.inr hpc), hk, hpc⟩

section Step

variable {s s' : St} {k : Nat} {key : Key} {pc pc' : Pc}

theorem inv_run (h : Inv s) (hk : s.calls[k]? = some ⟨key, pc⟩) (hbuffer : s'.buffer = s.buffer)
    (hpushed : s'.pushed = s.pushed) (hremovals : s'.removals = s.removals)
    (hcalls : s'.calls = s.calls.set k ⟨key, pc'⟩) (hpc : ∀ i, pc ≠ .coalesce i) (hpc' : ∀ i, pc' ≠ .coalesce i)
    (hmap : MapOwn s')
    (hother : ∀ key', key' ≠ key → s'.map key' = s.map key' ∧
      ∀ i, s.map key' = some i → ∀ tm, s.timers[i]? = some tm → s'.timers[i]? = some tm)
    (hown : s.buffer key ≠ [] → Attended s' key) : Inv s' := by
  constructor
  · rw [hbuffer, hpushed, hremovals]
    exact h.data
  · exact hmap
  · intro key' hb
    rw [hbuffer] at hb
    by_cases hkk : key' = key
    · subst hkk
      exact hown hb
    · obtain ⟨hm, ht⟩ := hother key' hkk
      refine attended_of (h.attended key' hb) ?_ hm fun i tm hi htm => ht i hi tm htm
      intro c hc hck i _
      rw [hcalls]
      refine mem_set_of_ne hk hc ?_ _
      rintro rfl
      exact hkk hck.symm
  · intro c hc i hci
    rw [hcalls] at hc
    rw [hremovals]
    rcases List.mem_or_eq_of_mem_set hc with hc | rfl
    · exact h.taken c hc i hci
    · exact absurd hci (hpc' i)
  · intro i r hr hhow
    rw [hremovals] at hr
    obtain ⟨c, hc, hci⟩ := h.settled i r hr hhow
    refine ⟨c, ?_, hci⟩
    rw [hcalls]
    refine mem_set_of_ne hk hc ?_ _
    rintro rfl
    exact hpc i hci

theorem attended_pc {s : St} (hk : s.calls[k]? = some ⟨key, pc⟩) (hpc' : attends pc' = true)
    (hcalls : s'.calls = s.calls.set k ⟨key, pc'⟩) : Attended s' key := by
  refine Or.inl ⟨⟨key, pc'⟩, ?_, rfl, hpc'⟩
  rw [hcalls]
  exact mem_set_self hk _

/-- `checkAndFlush` has read the TTL, or found nothing to reschedule. -/
theorem attended_checked (h : Attended s key) (hk : s.calls[k]? = some ⟨key, pc⟩) (hpc : attends pc = false)
    (hnext : ∀ j, s.map key = some j → pc = .fired j ∨ (∃ rem, pc = .rearm j rem) →
      pc' = .fired j ∨ ∃ rem, pc' = .rearm j rem) : Attended (setPc s k key pc') key := by
  rcases h with ⟨c, hc, hck, hcpc⟩ | ⟨j, tm, hj, htm, hlive⟩
  · refine Or.inl ⟨c, mem_set_of_ne hk hc ?_ _, hck, hcpc⟩
    rintro rfl
    rw [hpc] at hcpc
    cases hcpc
  · refine Or.inr ⟨j, tm, hj, htm, ?_⟩
    rcases hlive with hlive | ⟨c, hc, hck, hcpc⟩
    · exact Or.inl hlive
    · right
      by_cases hcc : c = ⟨key, pc⟩
      · subst hcc
        exact ⟨⟨key, pc'⟩, mem_set_self hk _, rfl, hnext j hj hcpc⟩
      · exact ⟨c, mem_set_of_ne hk hc hcc _, hck, hcpc⟩

theorem inv_begin (h : Inv s) {c : Call} (hc : ∀ i, c.pc ≠ .coalesce i) : Inv { s with calls := s.calls ++ [c] } where
  data := h.data
  map := h.map
  attended key' hb :=
    attended_of (h.attended key' hb) (fun c' hc' _ _ _ => List.mem_append_left _ hc') rfl fun _ _ _ ht => ht
  taken c' hc' i hi := by
    rcases List.mem_append.mp hc' with hc' | hc'
    · exact h.taken c' hc' i hi
    · rw [List.mem_singleton.mp hc'] at hi
      exact absurd hi (hc i)
  settled i r hr hhow := by
    obtain ⟨c', hc', hi⟩ := h.settled i r hr hhow
    exact ⟨c', List.mem_append_left _ hc', hi⟩

theorem inv_pushed (h : Inv s) (key : Key) (msg : DebouncedMessage) (t : Time) : Inv (pushed s key msg t) := by
  have hb := inv_begin h (c := ⟨key, .pushed⟩) nofun
  refine ⟨data_push h.data key _, h.map, ?_, hb.taken, hb.settled⟩
  intro key' hne
  by_cases hk : key' = key
  · subst hk
    exact Or.inl ⟨⟨key', .pushed⟩, List.mem_append_right _ (List.mem_singleton_self _), rfl, rfl⟩
  · simp only [pushed, Function.update_of_ne hk] at hne
    exact hb.attended key' hne

/-- A timer fires: its `checkAndFlush` takes its place. -/
theorem inv_fire (h : Inv s) {i : Nat} {due : Time} {live : Bool} (hi : s.timers[i]? = some ⟨key, due, live⟩) :
    Inv { s with
      timers := s.timers.modify i fun tm => { tm with live := false }, calls := s.calls ++ [⟨key, .fired i⟩] } := by
  have hb := inv_begin h (c := ⟨key, .fired i⟩) nofun
  refine ⟨h.data, ?_, ?_, hb.taken, hb.settled⟩
  · intro key' j hj
    obtain ⟨tm, htm, hkey⟩ := h.map key' j hj
    by_cases hij : i = j
    · subst hij
      refine ⟨{ tm with live := false }, ?_, hkey⟩
      simp only [List.getElem?_modify_eq, htm]
      rfl
    · refine ⟨tm, ?_, hkey⟩
      simp only [List.getElem?_modify_ne _ _ hij]
      exact htm
  · intro key' hne
    rcases hb.attended key' hne with hl | ⟨j, tm, hj, htm, hlive⟩
    · exact Or.inl hl
    · right
      by_cases hij : i = j
      · subst hij
        obtain ⟨tm', htm', hkey⟩ := h.map key' i hj
        rw [hi] at htm'
        cases htm'
        refine ⟨i, { tm with live := false }, hj, ?_, Or.inr ⟨⟨key', .fired i⟩, ?_, rfl, Or.inl rfl⟩⟩
        · simp only [List.getElem?_modify_eq]
          rw [show s.timers[i]? = some tm from htm]
          rfl
        · rw [show key = key' from hkey]
          exact List.mem_append_right _ (List.mem_singleton_self _)
      · refine ⟨j, tm, hj, ?_, hlive⟩
        simp only [List.getElem?_modify_ne _ _ hij]
        exact htm

theorem inv_removed (h : Inv s) {how : How} {t : Time} (hhow : ∀ ev, how ≠ .coalesced ev) (hfl : how ≠ .flushing) :
    Inv (removed s key how t) := by
  refine ⟨data_remove h.data key hhow, h.map, ?_, ?_, ?_⟩
  · intro key' hne
    simp only [removed] at hne
    by_cases hk : key' = key
    · subst hk
      rw [Function.update_self] at hne
      exact absurd rfl hne
    · rw [Function.update_of_ne hk] at hne
      exact attended_of (h.attended key' hne) (fun c hc _ _ _ => hc) rfl fun _ _ _ ht => ht
  · intro c hc i hi
    obtain ⟨r, hr, hk⟩ := h.taken c hc i hi
    refine ⟨r, ?_, hk⟩
    simp only [removed]
    rw [List.getElem?_append_left (List.getElem?_eq_some_iff.mp hr).1]
    exact hr
  · intro i r hr hflush
    simp only [removed] at hr
    rcases Nat.lt_or_ge i s.removals.length with hlt | hge
    · rw [List.getElem?_append_left hlt] at hr
      exact h.settled i r hr hflush
    · rw [List.getElem?_append_right hge] at hr
      rw [List.mem_singleton.mp (List.mem_of_getElem? hr)] at hflush
      exact absurd hflush hfl

theorem inv_emptied (h : Inv s) (hk : s.calls[k]? = some ⟨key, pc⟩) {how : How} {t : Time}
    (hhow : ∀ ev, how ≠ .coalesced ev) (hpc : ∀ i, pc ≠ .coalesce i)
    (hpc' : ∀ i, pc' = .coalesce i ↔ i = s.removals.length ∧ how = .flushing) :
    Inv (setPc (withoutTimer (removed s key how t) key) k key pc') := by
  have hset : ∀ c ∈ s.calls, c ≠ ⟨key, pc⟩ → c ∈ s.calls.set k ⟨key, pc'⟩ := fun c hc hne => mem_set_of_ne hk hc hne _
  have hlast : (s.removals ++ [⟨key, s.buffer key, how, s.since key, t⟩])[s.removals.length]? =
      some ⟨key, s.buffer key, how, s.since key, t⟩ := List.getElem?_concat_length
  refine ⟨data_remove h.data key hhow, h.map, ?_, ?_, ?_⟩
  · intro key' hne
    simp only [setPc, withoutTimer, removed] at hne
    by_cases hkk : key' = key
    · subst hkk
      rw [Function.update_self] at hne
      exact absurd rfl hne
    · rw [Function.update_of_ne hkk] at hne
      refine attended_of (h.attended key' hne) (fun c hc hck _ _ => hset c hc ?_) rfl fun _ _ _ ht => ht
      rintro rfl
      exact hkk hck.symm
  · intro c hc i hi
    simp only [setPc, withoutTimer, removed] at hc ⊢
    rcases List.mem_or_eq_of_mem_set hc with hc | rfl
    · obtain ⟨r, hr, hrk⟩ := h.taken c hc i hi
      rw [List.getElem?_append_left (List.getElem?_eq_some_iff.mp hr).1]
      exact ⟨r, hr, hrk⟩
    · rw [((hpc' i).mp hi).1]
      exact ⟨_, hlast, rfl⟩
  · intro i r hr hflush
    simp only [setPc, withoutTimer, removed] at hr ⊢
    rcases Nat.lt_or_ge i s.removals.length with hlt | hge
    · rw [List.getElem?_append_left hlt] at hr
      obtain ⟨c, hc, hi⟩ := h.settled i r hr hflush
      refine ⟨c, hset c hc ?_, hi⟩
      rintro rfl
      exact hpc i hi
    · -- the removal of this step
      have hi : i = s.removals.length := by
        have := (List.getElem?_eq_some_iff.mp hr).1
        rw [List.length_append, List.length_singleton] at this
        omega
      subst hi
      rw [hlast] at hr
      cases hr
      exact ⟨_, mem_set_self hk _, (hpc' _).mpr ⟨rfl, hflush⟩⟩

theorem inv_finish (h : Inv s) {i : Nat} (hk : s.calls[k]? = some ⟨key, .coalesce i⟩) (disengaged : Bool) :
    Inv (setPc
      { s with removals := s.removals.modify i fun x => { x with how := outcome key x.entries disengaged } } k key
      .done) := by
  have hset : ∀ c ∈ s.calls, c.pc ≠ .coalesce i → c ∈ s.calls.set k ⟨key, .done⟩ := by
    intro c hc hne
    refine mem_set_of_ne hk hc ?_ _
    rintro rfl
    exact hne rfl
  obtain ⟨r₀, hr₀, hkey⟩ := h.taken _ (List.mem_of_getElem? hk) i rfl
  refine ⟨data_finish h.data disengaged ?_, h.map, ?_, ?_, ?_⟩
  · intro r hr
    rw [hr₀] at hr
    cases hr
    exact hkey
  · intro key' hne
    refine attended_of (h.attended key' hne) (fun c hc _ j hj => hset c hc ?_) rfl fun _ _ _ ht => ht
    intro hcp
    rw [hcp] at hj
    rcases hj with hj | hj | ⟨rem, hj⟩ <;> cases hj
  · intro c hc j hj
    simp only [setPc] at hc ⊢
    rcases List.mem_or_eq_of_mem_set hc with hc | rfl
    · obtain ⟨r, hr, hrk⟩ := h.taken c hc j hj
      by_cases hij : i = j
      · subst hij
        refine ⟨{ r with how := outcome key r.entries disengaged }, ?_, hrk⟩
        rw [List.getElem?_modify_eq, hr]
        rfl
      · refine ⟨r, ?_, hrk⟩
        rw [List.getElem?_modify_ne _ _ hij]
        exact hr
    · cases hj
  · intro j r hr hflush
    simp only [setPc] at hr ⊢
    by_cases hij : i = j
    · subst hij
      rw [List.getElem?_modify_eq, hr₀] at hr
      cases hr
      simp only [outcome] at hflush
      split at hflush
      · cases hflush
      · split at hflush <;> cases hflush
    · rw [List.getElem?_modify_ne _ _ hij] at hr
      obtain ⟨c, hc, hcj⟩ := h.settled j r hr hflush
      refine ⟨c, hset c hc ?_, hcj⟩
      intro hci
      rw [hci] at hcj
      exact hij (Pc.coalesce.inj hcj)

theorem inv_runCall {ttl t : Time} {disengaged : Bool} (h : Inv s) (hk : s.calls[k]? = some ⟨key, pc⟩)
    (hs : runCall ttl s k key t disengaged pc = some s') : Inv s' := by
  have hsame : ∀ key', key' ≠ key → s.map key' = s.map key' ∧
      ∀ i, s.map key' = some i → ∀ tm, s.timers[i]? = some tm → s.timers[i]? = some tm :=
    fun _ _ => ⟨rfl, fun _ _ _ ht => ht⟩
  -- the timers of other chats when the one of this chat is stopped and the map changed
  have hstop : ∀ key', key' ≠ key → ∀ v, Function.update s.map key v key' = s.map key' ∧
      ∀ i, s.map key' = some i → ∀ tm, s.timers[i]? = some tm → (stopped s key)[i]? = some tm := by
    intro key' hne v
    refine ⟨Function.update_of_ne hne _ _, fun i hi tm ht => ?_⟩
    rw [stopped_other h.map hne hi]
    exact ht
  cases pc with
  | pushed =>
    cases hs
    exact inv_run h hk rfl rfl rfl rfl nofun nofun h.map hsame fun _ => attended_pc hk rfl rfl
  | windowed =>
    cases hs
    split
    · exact inv_run h hk rfl rfl rfl rfl nofun nofun h.map hsame fun _ => attended_pc hk rfl rfl
    · exact inv_run h hk rfl rfl rfl rfl nofun nofun h.map hsame fun _ => attended_pc hk rfl rfl
  | buffered =>
    cases hs
    refine inv_run h hk rfl rfl rfl rfl nofun nofun (mapOwn_armed h.map key _ fun _ _ ht => stopped_key ht) ?_
      fun _ => attended_armed ..
    intro key' hne
    refine ⟨(hstop key' hne _).1, fun i hi tm ht => ?_⟩
    have hst := (hstop key' hne none).2 i hi tm ht
    simp only [setPc, armed]
    rw [List.getElem?_append_left (List.getElem?_eq_some_iff.mp hst).1]
    exact hst
  | fired i =>
    cases hs
    split
    · refine inv_run h hk rfl rfl rfl rfl nofun nofun h.map hsame fun hb => ?_
      refine attended_checked (h.attended key hb) hk rfl fun j _ hj => ?_
      rcases hj with hj | ⟨rem, hj⟩
      · cases hj
        exact Or.inr ⟨_, rfl⟩
      · cases hj
    · exact inv_run h hk rfl rfl rfl rfl nofun nofun h.map hsame fun _ => attended_pc hk rfl rfl
  | rearm i rem =>
    cases hs
    split
    · refine inv_run h hk rfl rfl rfl rfl nofun nofun (mapOwn_armed h.map key _ fun _ tm ht => ⟨tm, ht, rfl⟩) ?_
        fun _ => attended_armed ..
      intro key' hne
      refine ⟨Function.update_of_ne hne _ _, fun j hj tm ht => ?_⟩
      simp only [setPc, armed]
      rw [List.getElem?_append_left (List.getElem?_eq_some_iff.mp ht).1]
      exact ht
    · -- without a timer in the map it was not this call that attended
      rename_i hnone
      refine inv_run h hk rfl rfl rfl rfl nofun nofun h.map hsame fun hb => ?_
      refine attended_checked (h.attended key hb) hk rfl fun j hj _ => ?_
      rw [hj] at hnone
      exact absurd rfl hnone
  | expired =>
    cases hs
    refine inv_run h hk rfl rfl rfl rfl nofun nofun (mapOwn_cleared h.map key fun _ tm ht => ⟨tm, ht, rfl⟩) ?_
      fun _ => attended_pc hk rfl rfl
    intro key' hne
    exact ⟨Function.update_of_ne hne _ _, fun _ _ _ ht => ht⟩
  | flush =>
    cases hs
    exact inv_run h hk rfl rfl rfl rfl nofun nofun (mapOwn_cleared h.map key fun _ _ ht => stopped_key ht)
      (fun key' hne => hstop key' hne none) fun _ => attended_pc hk rfl rfl
  | script =>
    simp only [runCall] at hs
    split at hs
    · cases hs
    · split at hs
      · rename_i hempty
        cases hs
        exact inv_run h hk rfl rfl rfl rfl nofun nofun h.map hsame fun hb => absurd hempty hb
      · cases hs
        refine inv_emptied h hk nofun nofun fun i => ⟨fun hi => ⟨(Pc.coalesce.inj hi).symm, rfl⟩, ?_⟩
        rintro ⟨rfl, -⟩
        rfl
  | coalesce i =>
    cases hs
    exact inv_finish h hk disengaged
  | cancel =>
    cases hs
    exact inv_run h hk rfl rfl rfl rfl nofun nofun (mapOwn_cleared h.map key fun _ _ ht => stopped_key ht)
      (fun key' hne => hstop key' hne none) fun _ => attended_pc hk rfl rfl
  | del =>
    simp only [runCall] at hs
    split at hs
    · cases hs
    · cases hs
      exact inv_emptied h hk nofun nofun fun i => ⟨nofun, fun hi => nomatch hi.2⟩
  | done => cases hs

theorem inv_act {ttl : Time} {l : Lbl} (h : Inv s) (hs : act ttl s l = some s') : Inv s' := by
  cases l with
  | enqueue msg t =>
    simp only [act] at hs
    split at hs
    · cases hs
      exact h
    · split at hs
      · cases hs
        exact inv_pushed h ..
      · cases hs
  | flush key t =>
    cases hs
    exact inv_begin h nofun
  | cancel key t =>
    simp only [act] at hs
    split at hs
    · cases hs
      exact h
    · cases hs
      exact inv_begin h nofun
  | fire i t =>
    simp only [act] at hs
    split at hs
    · rename_i key due hi
      split at hs
      · cases hs
        exact inv_fire h hi
      · cases hs
    · cases hs
  | run k t disengaged =>
    simp only [act] at hs
    split at hs
    · rename_i key pc hk
      exact inv_runCall h hk hs
    · cases hs
  | evict key t =>
    simp only [act] at hs
    split at hs
    · cases hs
    · cases hs
      exact inv_removed h nofun nofun

theorem inv_step {ttl : Time} {l : Lbl} (h : Inv s) (hs : step ttl s l = some s') : Inv s' := by
  unfold step at hs
  split at hs
  · obtain ⟨s₁, h₁, rfl⟩ := Option.map_eq_some_iff.mp hs
    have hi := inv_act h h₁
    exact ⟨hi.data, hi.map, hi.attended, hi.taken, hi.settled⟩
  · cases hs

end Step

/-! ## The safety TTL -/

structure Lists (ttl : Time) (s : St) : Prop where
  since : ∀ key, s.since key ≤ s.now
  exp : ∀ key exp, s.listExp key = some exp → s.buffer key ≠ [] ∧ s.since key + listSafetyTTL ttl ≤ exp
  evicted : ∀ r ∈ s.removals, r.how = .evicted → r.since + listSafetyTTL ttl ≤ r.at_

section Lists

variable {ttl t : Time} {s s' : St} {key : Key}

theorem Lists.frame (h : Lists ttl s) (hnow : s.now ≤ t) (hbuffer : s'.buffer = s.buffer)
    (hexp : s'.listExp = s.listExp) (hsince : s'.since = s.since) (hremovals : s'.removals = s.removals) :
    Lists ttl { s' with now := t } where
  since key' := by
    show s'.since key' ≤ t
    rw [hsince]
    exact Int.le_trans (h.since key') hnow
  exp key' exp he := by
    simp only [hexp, hbuffer, hsince] at he ⊢
    exact h.exp key' exp he
  evicted r hr := by
    simp only [hremovals] at hr
    exact h.evicted r hr

theorem lists_pushed (h : Lists ttl s) (hnow : s.now ≤ t) (key : Key) (msg : DebouncedMessage) :
    Lists ttl { pushed s key msg t with now := t } where
  since key' := by
    simp only [pushed]
    split
    · by_cases hk : key' = key
      · subst hk
        rw [Function.update_self]
      · rw [Function.update_of_ne hk]
        exact Int.le_trans (h.since key') hnow
    · exact Int.le_trans (h.since key') hnow
  exp key' exp he := by
    obtain ⟨hb, hle⟩ := h.exp key' exp he
    simp only [pushed]
    by_cases hk : key' = key
    · subst hk
      rw [Function.update_self, if_neg hb]
      exact ⟨by simp, hle⟩
    · rw [Function.update_of_ne hk]
      refine ⟨hb, ?_⟩
      split
      · rw [Function.update_of_ne hk]
        exact hle
      · exact hle
  evicted := h.evicted

theorem lists_removed (h : Lists ttl s) (hnow : s.now ≤ t) (key : Key) (how : How)
    (hhow : how = .evicted → s.since key + listSafetyTTL ttl ≤ t) :
    Lists ttl { removed s key how t with now := t } where
  since key' := Int.le_trans (h.since key') hnow
  exp key' exp he := by
    simp only [removed] at he ⊢
    by_cases hk : key' = key
    · subst hk
      rw [Function.update_self] at he
      cases he
    · rw [Function.update_of_ne hk] at he ⊢
      exact h.exp key' exp he
  evicted r hr hev := by
    rcases List.mem_append.mp hr with hr | hr
    · exact h.evicted r hr hev
    · rw [List.mem_singleton.mp hr] at hev ⊢
      exact hhow hev

theorem lists_finish (h : Lists ttl s) (hnow : s.now ≤ t) {i : Nat} {disengaged : Bool} {calls : List Call} :
    Lists ttl { s with
      now := t, calls := calls,
      removals := s.removals.modify i fun x => { x with how := outcome key x.entries disengaged } } where
  since key' := Int.le_trans (h.since key') hnow
  exp := h.exp
  evicted r hr hev := by
    obtain ⟨j, hj⟩ := List.getElem?_of_mem hr
    simp only at hj
    by_cases hij : i = j
    · subst hij
      rw [List.getElem?_modify_eq] at hj
      obtain ⟨x, hx, rfl⟩ := Option.map_eq_some_iff.mp hj
      simp only [outcome] at hev
      split at hev
      · cases hev
      · split at hev <;> cases hev
    · rw [List.getElem?_modify_ne _ _ hij] at hj
      exact h.evicted r (List.mem_of_getElem? hj) hev

theorem lists_runCall {k : Nat} {disengaged : Bool} {pc : Pc} (h : Lists ttl s) (hnow : s.now ≤ t)
    (hs : runCall ttl s k key t disengaged pc = some s') : Lists ttl { s' with now := t } := by
  cases pc with
  | windowed =>
    cases hs
    split
    · exact h.frame hnow rfl rfl rfl rfl
    · rename_i hb
      refine ⟨fun key' => Int.le_trans (h.since key') hnow, ?_, h.evicted⟩
      intro key' exp he
      simp only [setPc] at he ⊢
      by_cases hk : key' = key
      · subst hk
        rw [Function.update_self] at he
        cases he
        exact ⟨hb, Int.add_le_add_right (Int.le_trans (h.since key') hnow) _⟩
      · rw [Function.update_of_ne hk] at he
        exact h.exp key' exp he
  | rearm i rem =>
    cases hs
    split
    · exact h.frame hnow rfl rfl rfl rfl
    · exact h.frame hnow rfl rfl rfl rfl
  | script =>
    simp only [runCall] at hs
    split at hs
    · cases hs
    · split at hs
      · cases hs
        exact h.frame hnow rfl rfl rfl rfl
      · cases hs
        have hr := lists_removed h hnow key .flushing nofun
        exact ⟨hr.since, hr.exp, hr.evicted⟩
  | coalesce i =>
    cases hs
    exact lists_finish h hnow
  | del =>
    simp only [runCall] at hs
    split at hs
    · cases hs
    · cases hs
      have hr := lists_removed h hnow key .cancelled nofun
      exact ⟨hr.since, hr.exp, hr.evicted⟩
  | done => cases hs
  | _ =>
    cases hs
    exact h.frame hnow rfl rfl rfl rfl

theorem lists_step {l : Lbl} (h : Lists ttl s) (hs : step ttl s l = some s') : Lists ttl s' := by
  unfold step at hs
  split at hs
  · rename_i hnow
    obtain ⟨s₁, h₁, rfl⟩ := Option.map_eq_some_iff.mp hs
    cases l with
    | enqueue msg t =>
      simp only [act] at h₁
      split at h₁
      · cases h₁
        exact h.frame hnow rfl rfl rfl rfl
      · split at h₁
        · cases h₁
          exact lists_pushed h hnow ..
        · cases h₁
    | flush key t =>
      cases h₁
      exact h.frame hnow rfl rfl rfl rfl
    | cancel key t =>
      simp only [act] at h₁
      split at h₁
      · cases h₁
        exact h.frame hnow rfl rfl rfl rfl
      · cases h₁
        exact h.frame hnow rfl rfl rfl rfl
    | fire i t =>
      simp only [act] at h₁
      split at h₁
      · split at h₁
        · cases h₁
          exact h.frame hnow rfl rfl rfl rfl
        · cases h₁
      · cases h₁
    | run k t disengaged =>
      simp only [act] at h₁
      split at h₁
      · exact lists_runCall h hnow h₁
      · cases h₁
    | evict key t =>
      simp only [act] at h₁
      split at h₁
      · cases h₁
      · rename_i hdead
        cases h₁
        refine lists_removed h hnow key .evicted fun _ => ?_
        cases hexp : s.listExp key with
        | none => simp [listAlive, hexp] at hdead
        | some exp =>
          have hle : exp ≤ t := by
            simp only [listAlive, hexp, Option.all_some, Bool.or_eq_true, decide_eq_true_eq, not_or] at hdead
            exact Int.not_lt.mp hdead.2
          exact Int.le_trans (h.exp key exp hexp).2 hle
  · cases hs

end Lists

/-- In every run, of any calls on any chats: each message leaves its buffer once, with messages of its own chat, by a
flush, a cancellation or the expiry of a list that has existed for its safety TTL; the event of a flush has its messages
in order; and a buffer that no call is at work on has a live timer. -/
theorem coalesced_once (ttl : Time) : ∀ s, (sys ttl).Reachable s → CoalescedOnce ttl s := by
  intro s hs
  have hinv : (sys ttl).Inductive fun s => Inv s ∧ Lists ttl s := by
    refine ⟨?_, fun s l s' hi hst => ⟨inv_step hi.1 hst, lists_step hi.2 hst⟩⟩
    rintro s rfl
    exact ⟨inv_init, fun _ => Int.le_refl 0, nofun, nofun⟩
  obtain ⟨h, hl⟩ := hinv.reachable hs
  exact
    { once := h.data.once, own := h.data.own, kept := h.data.kept,
      events := fun r hr ev hev => chronological_coalesce (h.data.sorted r hr) (h.data.events r hr ev hev),
      evicted := hl.evicted, settled := h.settled, attended := fun key hb hidle => live_of_inv h hb hidle }

/-! ## A customer's burst -/

/-- The message `id`, sent at `t`. -/
def burst (id : String) (t : Time) : DebouncedMessage :=
  { messageID := id, traceID := "t-" ++ id, workspaceID := 1, connectionID := some 7, chatID := 60, contactID := 40,
    channel := "whatsapp_cloud", from_ := "5511999990000", to_ := "5511888880000", senderName := "Ana", body := id,
    occurredAt := t, metadata := [] }

/-- `Enqueue` from its push to its timer, as the `k`-th call. -/
def enqueued (k : Nat) (id : String) (sent t : Time) : List Lbl :=
  [.enqueue (burst id sent) t, .run k t false, .run k t false, .run k t false]

/-- One event has the two messages in the order in which they were sent. -/
def coalescedBurst (s : St) : Bool :=
  s.removals.map (·.how) = [.coalesced
    { event := "chat.inbound.coalesced", workspaceID := 1, contactID := 40, connectionID := some 7, chatID := 60,
      channel := "whatsapp_cloud", from_ := "5511999990000", to_ := "5511888880000", senderName := "Ana",
      body := "m-1\n\nm-2", messageIDs := ["m-1", "m-2"], traceID := "t-m-2", messageCount := 2, occurredAt := 2,
      metadata := [] }]

/-- Two messages that arrive out of order, and the timer of the second. -/
theorem burst_coalesced :
    ∃ s, (sys (12 * second)).Reachable s ∧ coalescedBurst s = true ∧ CoalescedOnce (12 * second) s := by
  have hrun : (LTS.exec (step (12 * second)) init
      (enqueued 0 "m-2" 2 0 ++ enqueued 1 "m-1" 1 second ++ Lbl.fire 1 (13 * second) ::
        List.replicate 5 (.run 2 (13 * second) false))).any coalescedBurst = true := by decide +kernel
  obtain ⟨s, hs, hev⟩ := (Option.any_eq_true _ _).mp hrun
  have hreach := LTS.exec_reachable hs
  exact ⟨s, hreach, hev, coalesced_once _ s hreach⟩

/-- What leaves a buffer, a flush or a cancellation takes. -/
def FlushedOrCancelled (s : St) : Prop := ∀ r ∈ s.removals, r.how ≠ .evicted

def expiredMessage (s : St) : Bool :=
  s.removals.any (fun r => r.entries.map (·.n) = [0] && r.how = .evicted) && s.pushed.length = 1

/-- A timer that is an hour late finds the list gone. -/
theorem late_timer_loses_message :
    ∃ s, (sys (12 * second)).Reachable s ∧ s.pushed.length = 1 ∧ ¬FlushedOrCancelled s := by
  have hrun : (LTS.exec (step (12 * second)) init (enqueued 0 "m-1" 1 0 ++ [Lbl.evict (1, 60) hour])).any expiredMessage =
      true := by decide +kernel
  obtain ⟨s, hs, hexp⟩ := (Option.any_eq_true _ _).mp hrun
  simp only [expiredMessage, Bool.and_eq_true, decide_eq_true_eq, List.any_eq_true] at hexp
  obtain ⟨⟨r, hr, -, hhow⟩, hlen⟩ := hexp
  exact ⟨s, LTS.exec_reachable hs, hlen, fun hall => hall r hr hhow⟩

end PerGo.L4.Debouncing
