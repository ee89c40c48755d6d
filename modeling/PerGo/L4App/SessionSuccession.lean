import PerGo.L3Session.Manager

/-!
# A session and the one that replaces it

`ActiveSession.Add` cancels the session it replaces, whose goroutine then stores `disconnected` and removes the
JID from the registry, at any later time and whatever session is under the JID by then.

* `Superseded`: a later session of the JID has been added.
* `Kept`: while the session's goroutine runs, `Get` returns it, and no older goroutine of the JID stores
  `disconnected` in its row.

Results: `successor_kept_iff`, from the step that adds the session on, and `successor_unregistered`.
-/
namespace PerGo.L4.SessionSuccession

open PerGo.Core PerGo.L1 PerGo.L2 PerGo.L3 PerGo.L3.Sessions

section Runs

variable {parseJID : String → Option String} {s s' : St}

/-! ## What a step does to the sessions -/

inductive SessionsStep (s : St) : List Session → GoMap String Nat → Prop
  | same : SessionsStep s s.sessions s.registry
  | cancelled (i : Nat) : SessionsStep s (s.cancel i).sessions s.registry
  | added (sess : Session) (hpc : sess.pc = .running) : SessionsStep s (s.add sess).sessions (s.add sess).registry
  | moved (i : Nat) (x : Session) (pc : RunPc) (hx : s.sessions[i]? = some x) (hpc : pc ≠ .running) (hdone : x.pc ≠ .done) :
      SessionsStep s (s.sessions.set i { x with pc := pc }) s.registry
  | left (i : Nat) (x : Session) (hx : s.sessions[i]? = some x) (hpc : x.pc = .leaving) :
      SessionsStep s (s.sessions.set i { x with pc := .done }) (s.registry.del x.jid)

/-- The sessions and the registry of `s'`. -/
abbrev StepTo (s s' : St) : Prop := SessionsStep s s'.sessions s'.registry

theorem stepTo_of_same {t : St} (h1 : t.sessions = s.sessions) (h2 : t.registry = s.registry) : StepTo s t := by
  unfold StepTo
  rw [h1, h2]
  exact .same

theorem createClient_sessions {c : Nat} {call : Call} {ans : Answer} (h : createClient parseJID s c call ans = some s') :
    StepTo s s' := by
  unfold createClient at h
  simp only at h
  split at h
  · cases h
    exact .same
  · cases h
    exact .added _ rfl
  · split at h
    · cases h
      exact .same
    · cases h
      exact .same
  · cases h

theorem reconnect_sessions {c : Nat} {call : Call} {ans : Answer} (h : reconnect parseJID s c call ans = some s') :
    StepTo s s' := by
  unfold reconnect at h
  simp only at h
  split at h
  · cases h
    exact .same
  · exact createClient_sessions h
  · cases h
    exact stepTo_of_same (St.write_sessions ..) (St.write_registry ..)
  · cases h
    exact .same
  · cases h
    exact .same
  · cases h
    exact .same
  · cases h
    exact .same
  · split at h
    · cases h
      exact stepTo_of_same (St.write_sessions ..) (St.write_registry ..)
    · cases h
      exact stepTo_of_same (St.write_sessions ..) (St.write_registry ..)
  · cases h
    exact .same
  · cases h

theorem exit_sessions {i : Nat} {x : Session} (hx : s.sessions[i]? = some x) {ans : Answer}
    (h : exit s i x ans = some s') : StepTo s s' := by
  have hmoved : ∀ {t : St} (pc : RunPc), t.sessions = s.sessions → t.registry = s.registry → pc ≠ .running →
      x.pc ≠ .done → StepTo s (t.setSession i x pc) := by
    intro t pc h1 h2 hpc hdone
    show SessionsStep s (t.sessions.set i _) t.registry
    rw [h1, h2]
    exact .moved i x pc hx hpc hdone
  unfold exit at h
  split at h
  · cases h
  · rename_i err hpc
    have hdone : x.pc ≠ .done := fun hd => nomatch hpc.symm.trans hd
    split at h
    · cases h
      exact hmoved _ (St.write_sessions ..) (St.write_registry ..) (fun hc => nomatch hc) hdone
    · split at h
      · cases h
        exact hmoved _ rfl rfl (fun hc => nomatch hc) hdone
      · cases h
        exact hmoved _ rfl rfl (fun hc => nomatch hc) hdone
  · rename_i hpc
    cases h
    exact hmoved _ rfl rfl (fun hc => nomatch hc) fun hd => nomatch hpc.symm.trans hd
  · rename_i hpc
    cases h
    exact hmoved _ (St.write_sessions ..) (St.write_registry ..) (fun hc => nomatch hc) fun hd => nomatch hpc.symm.trans hd
  · rename_i hpc
    cases h
    exact hmoved _ rfl rfl (fun hc => nomatch hc) fun hd => nomatch hpc.symm.trans hd
  · rename_i hpc
    cases h
    exact .left i x hx hpc
  · cases h

theorem handle_sessions {n : Nat} {hd : Handler} {x : Session} {ans : Answer} (h : handle s n hd x ans = some s') :
    StepTo s s' := by
  unfold handle at h
  split at h
  · cases h
    exact stepTo_of_same (St.write_sessions ..) (St.write_registry ..)
  · cases h
    exact .same
  · cases h
    exact .cancelled _
  · cases h

theorem step_sessions {l : Lbl} (h : step parseJID s l = some s') : StepTo s s' := by
  cases l with
  | reconnectAll =>
    cases h
    exact .same
  | reconnect c ans =>
    obtain ⟨call, -, h⟩ := Option.bind_eq_some_iff.mp h
    exact reconnect_sessions h
  | runReturn i err =>
    obtain ⟨x, hx, h⟩ := Option.bind_eq_some_iff.mp h
    obtain ⟨⟨hpc, -⟩, h⟩ := Option.ite_none_right_eq_some.mp h
    cases h
    exact .moved i x _ hx (fun hc => nomatch hc) fun hd => nomatch hpc.symm.trans hd
  | exit i ans =>
    obtain ⟨x, hx, h⟩ := Option.bind_eq_some_iff.mp h
    exact exit_sessions hx h
  | loggedOut i =>
    obtain ⟨x, -, rfl⟩ := Option.map_eq_some_iff.mp h
    exact .same
  | handle n ans =>
    obtain ⟨hd, -, h⟩ := Option.bind_eq_some_iff.mp h
    obtain ⟨x, -, h⟩ := Option.bind_eq_some_iff.mp h
    exact handle_sessions h
  | pair r ans =>
    cases ans with
    | ok now =>
      obtain ⟨devices, -, rfl⟩ := Option.map_eq_some_iff.mp h
      exact .same
    | err e =>
      cases h
      exact .same
    | cancelled =>
      cases h
      exact .same
  | pairing p =>
    obtain ⟨pr, -, h⟩ := Option.bind_eq_some_iff.mp h
    simp only [pairing] at h
    split at h
    · cases h
      exact .added _ rfl
    · cases h
      exact .same
    · cases h

/-- What later steps make of a session. -/
structure Follows (x x' : Session) : Prop where
  jid : x'.jid = x.jid
  deviceID : x'.deviceID = x.deviceID
  done : x.pc = .done → x'.pc = .done
  running : x'.pc = .running → x.pc = .running

theorem Follows.refl (x : Session) : Follows x x := ⟨rfl, rfl, id, id⟩

theorem follows_cancel (s : St) (n : Nat) {i : Nat} {x : Session} (hx : s.sessions[i]? = some x) :
    ∃ x', (s.cancel n).sessions[i]? = some x' ∧ Follows x x' ∧ x'.pc = x.pc := by
  simp only [St.cancel, List.getElem?_modify, hx]
  split
  · exact ⟨_, rfl, ⟨rfl, rfl, id, id⟩, rfl⟩
  · exact ⟨x, rfl, Follows.refl x, rfl⟩

theorem cancel_length (s : St) (n : Nat) : (s.cancel n).sessions.length = s.sessions.length := by
  simp [St.cancel]

theorem add_spec (s : St) (sess : Session) :
    (s.add sess).sessions.length = s.sessions.length + 1 ∧ (s.add sess).sessions[s.sessions.length]? = some sess ∧
      (s.add sess).registry = s.registry.set sess.jid s.sessions.length ∧
      ∀ (i : Nat) (x : Session), s.sessions[i]? = some x →
        ∃ x', (s.add sess).sessions[i]? = some x' ∧ Follows x x' ∧ x'.pc = x.pc := by
  have hlt : ∀ {i : Nat} {x : Session}, s.sessions[i]? = some x → i < s.sessions.length :=
    fun hx => (List.getElem?_eq_some_iff.mp hx).1
  unfold St.add
  split
  · rename_i old _
    have hlen := cancel_length s old
    simp only
    refine ⟨by simp [hlen], by simp [← hlen], by rw [hlen]; rfl, fun i x hx => ?_⟩
    rw [List.getElem?_append_left (hlen.symm ▸ hlt hx)]
    exact follows_cancel s old hx
  · simp only
    refine ⟨by simp, by simp, trivial, fun i x hx => ?_⟩
    rw [List.getElem?_append_left (hlt hx)]
    exact ⟨x, hx, Follows.refl x, rfl⟩

theorem follows_set {i n : Nat} {x y : Session} {pc : RunPc} (hx : s.sessions[i]? = some x) (hy : s.sessions[n]? = some y)
    (hpc : pc ≠ .running) (hdone : y.pc = .done → pc = .done) :
    ∃ x', (s.sessions.set n { y with pc := pc })[i]? = some x' ∧ Follows x x' := by
  have hlt : n < s.sessions.length := (List.getElem?_eq_some_iff.mp hy).1
  by_cases hin : n = i
  · subst hin
    obtain rfl : x = y := Option.some.inj (hx.symm.trans hy)
    refine ⟨_, List.getElem?_set_self hlt, rfl, rfl, hdone, fun hr => absurd hr hpc⟩
  · rw [List.getElem?_set_ne hin]
    exact ⟨x, hx, Follows.refl x⟩

theorem step_follows {l : Lbl} (h : step parseJID s l = some s') {i : Nat} {x : Session} (hx : s.sessions[i]? = some x) :
    ∃ x', s'.sessions[i]? = some x' ∧ Follows x x' := by
  have hs : StepTo s s' := step_sessions h
  unfold StepTo at hs
  generalize s'.sessions = sessions at hs
  generalize s'.registry = registry at hs
  cases hs with
  | same => exact ⟨x, hx, Follows.refl x⟩
  | cancelled n =>
    obtain ⟨x', hx', hf, -⟩ := follows_cancel s n hx
    exact ⟨x', hx', hf⟩
  | added sess hpc =>
    obtain ⟨-, -, -, hold⟩ := add_spec s sess
    obtain ⟨x', hx', hf, -⟩ := hold i x hx
    exact ⟨x', hx', hf⟩
  | moved n y pc hy hpc hdone => exact follows_set hx hy hpc fun hd => absurd hd hdone
  | left n y hy hpc => exact follows_set hx hy (fun hc => nomatch hc) fun _ => rfl

theorem step_registry {l : Lbl} (h : step parseJID s l = some s') (k : String) :
    s'.registry k = s.registry k ∨
      (∃ x : Session, s'.sessions[s.sessions.length]? = some x ∧ x.jid = k) ∨
      ∃ (i : Nat) (x : Session), s.sessions[i]? = some x ∧ x.jid = k ∧ x.pc = .leaving := by
  have hs : StepTo s s' := step_sessions h
  unfold StepTo at hs
  generalize s'.sessions = sessions at hs
  generalize s'.registry = registry at hs
  cases hs with
  | same => exact Or.inl rfl
  | cancelled n => exact Or.inl rfl
  | added sess hpc =>
    obtain ⟨-, hnew, hreg, -⟩ := add_spec s sess
    by_cases hk : sess.jid = k
    · exact Or.inr (Or.inl ⟨sess, hnew, hk⟩)
    · rw [hreg, GoMap.set, if_neg (Ne.symm hk)]
      exact Or.inl rfl
  | moved n y pc hy hpc hdone => exact Or.inl rfl
  | left n y hy hpc =>
    by_cases hk : y.jid = k
    · exact Or.inr (Or.inr ⟨n, y, hy, hk, hpc⟩)
    · rw [GoMap.del, if_neg (Ne.symm hk)]
      exact Or.inl rfl

theorem step_adds {l : Lbl} (h : step parseJID s l = some s') (hlen : s'.sessions.length = s.sessions.length + 1) :
    ∃ sess, sess.pc = .running ∧ s'.sessions = (s.add sess).sessions ∧ s'.registry = (s.add sess).registry := by
  have hs : StepTo s s' := step_sessions h
  unfold StepTo at hs
  generalize s'.sessions = sessions at hs hlen
  generalize s'.registry = registry at hs
  cases hs with
  | same => omega
  | cancelled n =>
    rw [cancel_length] at hlen
    omega
  | added sess hpc => exact ⟨sess, hpc, rfl, rfl⟩
  | moved n y pc hy hpc hdone =>
    rw [List.length_set] at hlen
    omega
  | left n y hy hpc =>
    rw [List.length_set] at hlen
    omega

/-! ## Without an older goroutine -/

/-- A later session of the JID has been added. -/
def Superseded (s : St) (k : String) (j : Nat) : Prop :=
  ∃ (i : Nat) (x : Session), j < i ∧ s.sessions[i]? = some x ∧ x.jid = k

/-- While the session `j` runs it is under its JID, and no older goroutine stores `disconnected` in its row. -/
def Kept (parseJID : String → Option String) (s : St) (k : String) (j : Nat) : Prop :=
  ∀ x, s.sessions[j]? = some x → x.pc = .running →
    s.get k = some j ∧
    ∀ i y ans s', i < j → s.sessions[i]? = some y → y.jid = k → step parseJID s (.exit i ans) = some s' →
      statusOf s'.devices x.deviceID = some .disconnected → statusOf s.devices x.deviceID = some .disconnected

/-- No goroutine of the JID older than `j` is left, and `j` is registered while it runs. -/
structure Alone (s : St) (k : String) (j : Nat) : Prop where
  older : ∀ i x, i < j → s.sessions[i]? = some x → x.jid = k → x.pc = .done
  registered : ∀ x, s.sessions[j]? = some x → x.pc = .running → s.registry k = some j

/-- What later steps keep. -/
structure Succ (s : St) (k : String) (j : Nat) : Prop where
  added : j < s.sessions.length
  alone : ¬ Superseded s k j → Alone s k j

theorem succ_step {k : String} {j : Nat} (hs : Succ s k j) {l : Lbl} (h : step parseJID s l = some s') : Succ s' k j := by
  have hsup : Superseded s k j → Superseded s' k j := by
    rintro ⟨i, x, hi, hx, hk⟩
    obtain ⟨x', hx', hf⟩ := step_follows h hx
    exact ⟨i, x', hi, hx', hf.jid.trans hk⟩
  have hlt : ∀ {i}, i < s.sessions.length → ∃ x, s.sessions[i]? = some x := fun hi => ⟨_, List.getElem?_eq_getElem hi⟩
  obtain ⟨y, hy⟩ := hlt hs.added
  obtain ⟨y', hy', -⟩ := step_follows h hy
  refine ⟨(List.getElem?_eq_some_iff.mp hy').1, fun hnot => ?_⟩
  have ha := hs.alone fun hc => hnot (hsup hc)
  constructor
  · intro i x' hi hx' hk
    obtain ⟨x, hx⟩ := hlt (Nat.lt_trans hi hs.added)
    obtain ⟨x'', hx'', hf⟩ := step_follows h hx
    obtain rfl := Option.some.inj (hx'.symm.trans hx'')
    exact hf.done (ha.older i x hi hx (hf.jid.symm.trans hk))
  · intro x' hx' hrun
    obtain ⟨x'', hx'', hf⟩ := step_follows h hy
    obtain rfl := Option.some.inj (hx'.symm.trans hx'')
    have hreg := ha.registered y hy (hf.running hrun)
    rcases step_registry h k with heq | ⟨z, hz, hzk⟩ | ⟨i, z, hz, hzk, hleaving⟩
    · exact heq.trans hreg
    · exact absurd ⟨_, z, hs.added, hz, hzk⟩ hnot
    · exfalso
      rcases Nat.lt_trichotomy i j with hij | rfl | hij
      · exact nomatch hleaving.symm.trans (ha.older i z hij hz hzk)
      · obtain rfl := Option.some.inj (hz.symm.trans hy)
        exact nomatch hleaving.symm.trans (hf.running hrun)
      · exact hnot (hsup ⟨i, z, hij, hz, hzk⟩)

theorem succ_run {devices : List Device} {k : String} {j : Nat} (hs : Succ s k j) {ls : List Lbl}
    (h : (sys parseJID devices).Run s ls s') : Succ s' k j := by
  induction h with
  | nil => exact hs
  | cons hstep _ ih => exact ih (succ_step hs hstep)

theorem Alone.kept {k : String} {j : Nat} (ha : Alone s k j) : Kept parseJID s k j := by
  intro x hx hrun
  refine ⟨ha.registered x hx hrun, ?_⟩
  intro i y ans s' hi hy hk h
  have hdone := ha.older i y hi hy hk
  simp [step, hy, exit, hdone] at h

/-! ## With an older goroutine -/

/-- The steps a goroutine still has to take, at most. -/
def left : RunPc → Nat
  | .running => 5
  | .returned _ => 4
  | .bannedStored => 2
  | .closing => 3
  | .closed => 2
  | .leaving => 1
  | .done => 0

/-- After `Run`, each step of a goroutine is its next, and the last one takes the JID out of the registry. -/
theorem exit_next {i : Nat} {x : Session} (hx : s.sessions[i]? = some x) (hrun : x.pc ≠ .running) (hdone : x.pc ≠ .done) :
    ∃ s' pc, step parseJID s (.exit i (.ok 0)) = some s' ∧ s'.sessions = s.sessions.set i { x with pc := pc } ∧
      pc ≠ .running ∧ left pc < left x.pc ∧ (pc = .done → s'.registry x.jid = none) := by
  simp only [step, hx, Option.bind_some, exit]
  cases hpc : x.pc with
  | running => exact absurd hpc hrun
  | done => exact absurd hpc hdone
  | returned err =>
    simp only
    split
    · exact ⟨_, .bannedStored, rfl, rfl, by simp, by simp [left], fun h => by cases h⟩
    · split
      · exact ⟨_, .leaving, rfl, rfl, by simp, by simp [left], fun h => by cases h⟩
      · exact ⟨_, .closing, rfl, rfl, by simp, by simp [left], fun h => by cases h⟩
  | bannedStored => exact ⟨_, .leaving, rfl, rfl, by simp, by simp [left], fun h => by cases h⟩
  | closing => exact ⟨_, .closed, rfl, rfl, by simp, by simp [left], fun h => by cases h⟩
  | closed => exact ⟨_, .leaving, rfl, rfl, by simp, by simp [left], fun h => by cases h⟩
  | leaving => exact ⟨_, .done, rfl, rfl, by simp, by simp [left], fun _ => by simp [St.remove, St.setSession, GoMap.del]⟩

theorem finish (devices : List Device) {i : Nat} {x : Session} (hx : s.sessions[i]? = some x) (hdone : x.pc ≠ .done) :
    ∃ ls t, (sys parseJID devices).Run s ls t ∧ t.registry x.jid = none ∧ t.sessions.length = s.sessions.length ∧
      ∀ n, n ≠ i → t.sessions[n]? = s.sessions[n]? := by
  induction hn : left x.pc using Nat.strongRecOn generalizing s x with
  | ind n ih =>
    have hlt : i < s.sessions.length := (List.getElem?_eq_some_iff.mp hx).1
    -- the step that is next, and what is left after it
    have hnext : ∃ l s' pc, step parseJID s l = some s' ∧ s'.sessions = s.sessions.set i { x with pc := pc } ∧
        left pc < left x.pc ∧ (pc = .done → s'.registry x.jid = none) := by
      by_cases hrun : x.pc = .running
      · let err : Option ClientError := some { text := "eof" }
        refine ⟨.runReturn i err, s.setSession i x (.returned err), .returned err, ?_, rfl, ?_, (fun h => nomatch h)⟩
        · simp only [step, hx, Option.bind_some, runReturn]
          rw [if_pos ⟨hrun, fun h => nomatch h⟩]
        · simp [hrun, left]
      · obtain ⟨s', pc, hstep, hsess, -, hleft, hreg⟩ := exit_next hx hrun hdone
        exact ⟨_, s', pc, hstep, hsess, hleft, hreg⟩
    obtain ⟨l, s', pc, hstep, hsess, hleft, hreg⟩ := hnext
    have hother : ∀ n, n ≠ i → s'.sessions[n]? = s.sessions[n]? := fun n hne => by
      rw [hsess, List.getElem?_set_ne (Ne.symm hne)]
    have hlen : s'.sessions.length = s.sessions.length := by rw [hsess, List.length_set]
    by_cases hpc : pc = .done
    · exact ⟨[l], s', .cons hstep (.nil _), hreg hpc, hlen, hother⟩
    · have hx' : s'.sessions[i]? = some { x with pc := pc } := by rw [hsess, List.getElem?_set_self hlt]
      obtain ⟨ls, t, hrun, hreg', hlen', hother'⟩ := ih (left pc) (hn ▸ hleft) hx' hpc rfl
      exact ⟨l :: ls, t, .cons hstep hrun, hreg', hlen'.trans hlen, fun n hne => (hother' n hne).trans (hother n hne)⟩

/-- **A session is kept** after the step that adds it, in every run and until another is added under its JID,
exactly when every earlier goroutine of the JID has ended by that step. -/
theorem successor_kept_iff (parseJID : String → Option String) (devices : List Device) {s s' : St} {l : Lbl}
    (hstep : (sys parseJID devices).step s l s') (hlen : s'.sessions.length = s.sessions.length + 1) {new : Session}
    (hnew : s'.sessions[s.sessions.length]? = some new) :
    (∀ ls t, (sys parseJID devices).Run s' ls t → ¬ Superseded t new.jid s.sessions.length →
      Kept parseJID t new.jid s.sessions.length) ↔
    (∀ (i : Nat) (x : Session), s.sessions[i]? = some x → x.jid = new.jid → x.pc = .done) := by
  obtain ⟨sess, hpc, hsessions, hregistry⟩ := step_adds hstep hlen
  obtain ⟨-, hlast, hreg, hold⟩ := add_spec s sess
  obtain rfl : sess = new := by
    rw [hsessions, hlast] at hnew
    exact Option.some.inj hnew
  have hnot : ∀ {t : St}, t.sessions.length = s.sessions.length + 1 → ¬ Superseded t sess.jid s.sessions.length := by
    rintro t ht ⟨i, x, hi, hx, -⟩
    have hlt := (List.getElem?_eq_some_iff.mp hx).1
    omega
  constructor
  · intro h i x hx hk
    by_contra hdone
    obtain ⟨x', hx', hf, hpc'⟩ := hold i x hx
    rw [← hsessions] at hx'
    obtain ⟨ls, t, hrun, hnone, hlen', hother⟩ := finish devices hx' (hpc' ▸ hdone)
    have hne : s.sessions.length ≠ i := by
      have hlt := (List.getElem?_eq_some_iff.mp hx).1
      omega
    have hget := (h ls t hrun (hnot (hlen'.trans hlen)) sess ((hother _ hne).trans hnew) hpc).1
    rw [hf.jid.trans hk] at hnone
    exact nomatch hget.symm.trans hnone
  · intro h ls t hrun hsup
    have hsucc : Succ s' sess.jid s.sessions.length := by
      refine ⟨by omega, fun _ => ⟨?_, fun _ _ _ => ?_⟩⟩
      · intro i x' hi hx' hk
        obtain ⟨x'', hx'', hf, hpc'⟩ := hold i _ (List.getElem?_eq_getElem hi)
        rw [← hsessions] at hx''
        obtain rfl := Option.some.inj (hx'.symm.trans hx'')
        exact hpc'.trans (h i _ (List.getElem?_eq_getElem hi) (hf.jid.symm.trans hk))
      · rw [hregistry, hreg]
        exact if_pos rfl
    exact ((succ_run hsucc hrun).alone hsup).kept

end Runs

/-! ## One device -/

def phone : Device := ⟨1, 10, "whatsapp", some "a@s", "a", .disconnected, none⟩

def repair : PairRequest := ⟨10, 1, "a@s", "a", "a", true⟩

def connects : List Lbl := [.reconnectAll, .reconnect 0 (.ok 0), .reconnect 0 (.ok 0), .reconnect 0 (.ok 0)]

/-- The goroutine of the session 0, once `Run` has returned. -/
def exits : List Lbl := [.exit 0 (.ok 0), .exit 0 (.ok 0), .exit 0 (.ok 0), .exit 0 (.ok 0)]

/-- The device is paired anew after its goroutine has ended: the new session is kept. -/
theorem successor_kept_after_exit : ∃ s s', LTS.exec (step some) (init [phone])
      (connects ++ Lbl.runReturn 0 (some { text := "eof" }) :: exits ++ [Lbl.pair repair (.ok 0)]) = some s ∧
    step some s (.pairing 0) = some s' ∧
    ∀ ls t, (sys some [phone]).Run s' ls t → ¬ Superseded t "a@s" 1 → Kept some t "a@s" 1 := by
  have hrun : (LTS.exec (step some) (init [phone])
      (connects ++ Lbl.runReturn 0 (some { text := "eof" }) :: exits ++ [Lbl.pair repair (.ok 0)])).any fun s =>
      s.sessions.map (·.pc) = [.done] && (step some s (.pairing 0)).any fun s' =>
        s'.sessions.length = 2 && s'.sessions[1]? = some ⟨1, 10, "a", "a@s", false, .running⟩ := by
    decide +kernel
  obtain ⟨s, hs, h⟩ := (Option.any_eq_true _ _).mp hrun
  obtain ⟨hpcs, h⟩ := (Bool.and_eq_true_iff.mp h)
  obtain ⟨s', hs', h⟩ := (Option.any_eq_true _ _).mp h
  simp only [Bool.and_eq_true, decide_eq_true_eq] at hpcs h
  obtain ⟨x, hx, hpc⟩ := List.map_eq_singleton_iff.mp hpcs
  have hlen : s.sessions.length = 1 := by rw [hx, List.length_singleton]
  refine ⟨s, s', hs, hs', fun ls t hrun hsup => ?_⟩
  have hkept := (successor_kept_iff some [phone] hs' (h.1.trans (by rw [hlen])) (by rw [hlen]; exact h.2)).mpr ?_ ls t hrun
  · rw [hlen] at hkept
    exact hkept hsup
  · intro i y hy _
    rw [hx] at hy
    obtain rfl : y = x := List.mem_singleton.mp (List.mem_of_getElem? hy)
    exact hpc

/-- The device is paired anew while its session runs; the replaced session's goroutine then stores `disconnected` and
takes the JID out of the registry. -/
theorem successor_unregistered : ∃ s t,
    LTS.exec (step some) (init [phone]) (connects ++ [Lbl.pair repair (.ok 0), .pairing 0]) = some s ∧
    LTS.exec (step some) s (.runReturn 0 none :: exits) = some t ∧
    t.sessions.map (·.pc) = [.done, .running] ∧ t.sessions.map (·.jid) = ["a@s", "a@s"] ∧ t.get "a@s" = none ∧
    statusOf s.devices 1 = some .connected ∧ statusOf t.devices 1 = some .disconnected ∧
    ¬ Superseded t "a@s" 1 ∧ ¬ Kept some t "a@s" 1 := by
  have hrun : (LTS.exec (step some) (init [phone]) (connects ++ [Lbl.pair repair (.ok 0), .pairing 0])).any fun s =>
      statusOf s.devices 1 = some .connected && (LTS.exec (step some) s (.runReturn 0 none :: exits)).any fun t =>
        t.sessions.map (·.pc) = [.done, .running] && t.sessions.map (·.jid) = ["a@s", "a@s"] && t.get "a@s" = none &&
        statusOf t.devices 1 = some .disconnected := by
    decide +kernel
  obtain ⟨s, hs, h⟩ := (Option.any_eq_true _ _).mp hrun
  obtain ⟨hconn, h⟩ := Bool.and_eq_true_iff.mp h
  obtain ⟨t, ht, h⟩ := (Option.any_eq_true _ _).mp h
  simp only [Bool.and_eq_true, decide_eq_true_eq] at hconn h
  obtain ⟨⟨⟨hpcs, hjids⟩, hget⟩, hdisc⟩ := h
  refine ⟨s, t, hs, ht, hpcs, hjids, hget, hconn, hdisc, ?_, ?_⟩
  · rintro ⟨i, x, hi, hx, -⟩
    have hlen := congrArg List.length hpcs
    have hlt := (List.getElem?_eq_some_iff.mp hx).1
    simp only [List.length_map, List.length_cons, List.length_nil] at hlen
    omega
  · intro hkept
    have hlast : (t.sessions.map (·.pc))[1]? = some .running := by rw [hpcs]; rfl
    rw [List.getElem?_map] at hlast
    obtain ⟨x, hx, hpc⟩ := Option.map_eq_some_iff.mp hlast
    exact nomatch hget.symm.trans (hkept x hx hpc).1

end PerGo.L4.SessionSuccession
