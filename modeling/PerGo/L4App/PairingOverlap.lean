import PerGo.L3Session.Pairing

/-!
# Pairing sessions that overlap

`pairingSessions` has one key space for all workspaces, and a session's entries are deleted by key: by a start or a
cancellation that finds the session, and by the session's own cleanup, whoever has the keys by then.

* `Shown`: a running loop that its workspace has not cancelled is in both maps, under all its keys.
* `Undisturbed`: a cleanup takes entries of its own session only, and a call for one workspace neither cancels a session
  of another nor takes its entries.
* `Apart`: a start uses no key of a session that is not cleaned up, and a cancellation finds only a session of
  its own workspace, by its connection.

Results: `pairing_undisturbed`: all of it holds where every step is `Apart`, and a step that is not leads to a
disturbance (`Disturbs`); `pairing_overlap` for two workspaces with one phone.
-/
namespace PerGo.L4.PairingOverlap

open PerGo.Core PerGo.L2 PerGo.L3.Pairing

-- the proofs never compute a key
attribute [local irreducible] UUID.string

/-! ## Keys -/

def keysOf (phone : String) (connID : UUID) : List String := connID.string :: if phone = "" then [] else [phone]

def keys (x : PairingSession) : List String := keysOf x.phone x.connectionID

def Live (x : PairingSession) : Prop := x.pc = .starting ∨ x.pc = .running

def Own (x : PairingSession) : Prop := x.workspaceID ∈ x.cancelledBy

instance (x : PairingSession) : Decidable (Live x) := inferInstanceAs (Decidable (_ ∨ _))

instance (x : PairingSession) : Decidable (Own x) := inferInstanceAs (Decidable (_ ∈ _))

theorem mem_keysOf {phone : String} {connID : UUID} {k : String} :
    k ∈ keysOf phone connID ↔ k = connID.string ∨ phone ≠ "" ∧ k = phone := by
  unfold keysOf
  by_cases hp : phone = ""
  · simp [hp]
  · simp [hp]

/-- What a read after `cleanupSession` sees. -/
theorem delPhone_del (m : GoMap String Nat) (phone : String) (connID : UUID) (k : String) :
    (delPhone m phone).del connID.string k = if k ∈ keysOf phone connID then none else m k := by
  unfold delPhone GoMap.del
  by_cases hp : phone = ""
  · simp [mem_keysOf, hp]
  · by_cases hk : k = connID.string
    · simp [mem_keysOf, hk]
    · simp [mem_keysOf, hp, hk]

theorem del_delPhone (m : GoMap String Nat) (phone : String) (connID : UUID) :
    delPhone (m.del connID.string) phone = (delPhone m phone).del connID.string := by
  unfold delPhone GoMap.del
  funext k
  by_cases hp : phone = ""
  · simp [hp]
  · by_cases hk : k = connID.string
    · simp [hp, hk]
    · simp [hp, hk]

/-! ## The properties -/

/-- Under all its keys, and in `pairingCancels`. -/
def Entered (s : St) (n : Nat) (x : PairingSession) : Prop :=
  (∀ k ∈ keys x, s.pairingSessions k = some n) ∧ s.pairingCancels x.connectionID = some n

def Shown (s : St) : Prop :=
  ∀ (n : Nat) (x : PairingSession), s.sessions[n]? = some x → x.pc = .running → ¬ Own x → Entered s n x

/-- An entry of the session is gone, or is another's. -/
def Lost (s s' : St) (n : Nat) : Prop :=
  (∃ k, s.pairingSessions k = some n ∧ s'.pairingSessions k ≠ some n) ∨
    ∃ c, s.pairingCancels c = some n ∧ s'.pairingCancels c ≠ some n

def caller : Lbl → Option UUID
  | .start ws _ _ | .cancelPairing ws _ | .cancelPairingByPhone ws _ => some ws
  | _ => none

structure Undisturbed (s : St) (l : Lbl) (s' : St) : Prop where
  cleanup : ∀ i, l = .cleanup i ∨ l = .client i false → ∀ n, n ≠ i → ¬ Lost s s' n
  foreign : ∀ ws, caller l = some ws → ∀ (n : Nat) (x : PairingSession), s.sessions[n]? = some x → x.workspaceID ≠ ws →
    ¬ Lost s s' n ∧ ∀ x', s'.sessions[n]? = some x' → x'.cancelledBy = x.cancelledBy

def Apart (s : St) : Lbl → Prop
  | .start _ phone connID =>
    ∀ (n : Nat) (x : PairingSession), s.sessions[n]? = some x → x.pc ≠ .cleaned → ∀ k ∈ keysOf phone connID, k ∉ keys x
  | .cancelPairing ws connID =>
    (∀ (n : Nat) (x : PairingSession), s.pairingCancels connID = some n → s.sessions[n]? = some x → x.workspaceID = ws) ∧
      ∀ n x, s.lookup connID.string = some (n, x) →
        x.workspaceID = ws ∧ (x.connectionID = connID ∨ ¬ Live x ∨ Own x)
  | .cancelPairingByPhone ws phone => phone ≠ "" → ∀ n x, s.lookup phone = some (n, x) → x.workspaceID = ws
  | _ => True

/-! ## What holds while every step is `Apart` -/

structure Inv (s : St) : Prop where
  entry : ∀ k n, s.pairingSessions k = some n → ∃ x, s.sessions[n]? = some x ∧ x.pc ≠ .cleaned ∧ k ∈ keys x
  cancel : ∀ c n, s.pairingCancels c = some n → ∃ x, s.sessions[n]? = some x ∧ x.pc ≠ .cleaned ∧ x.connectionID = c
  apart : ∀ (i j : Nat) (x y : PairingSession), s.sessions[i]? = some x → s.sessions[j]? = some y → x.pc ≠ .cleaned →
    y.pc ≠ .cleaned → ∀ k, k ∈ keys x → k ∈ keys y → i = j
  shown : ∀ (n : Nat) (x : PairingSession), s.sessions[n]? = some x → Live x → ¬ Own x → Entered s n x

theorem inv_init : Inv init where
  entry := fun _ _ h => nomatch h
  cancel := fun _ _ h => nomatch h
  apart := fun _ _ _ _ h => nomatch h
  shown := fun _ _ h => nomatch h

variable {s s' : St}

theorem conn_mem_keys (x : PairingSession) : x.connectionID.string ∈ keys x := mem_keysOf.mpr (Or.inl rfl)

structure Touched (s : St) (i : Nat) (x x' : PairingSession) (s' : St) : Prop where
  session : s.sessions[i]? = some x
  sessions : s'.sessions = s.sessions.set i x'
  keys : keys x' = keys x ∧ x'.connectionID = x.connectionID
  outstanding : x.pc ≠ .cleaned
  names : ∀ k, s'.pairingSessions k = s.pairingSessions k ∨ s'.pairingSessions k = none ∧ k ∈ PairingOverlap.keys x
  cancels : ∀ c, s'.pairingCancels c = s.pairingCancels c ∨ s'.pairingCancels c = none ∧ c = x.connectionID

theorem Touched.get {i : Nat} {x x' : PairingSession} (ht : Touched s i x x' s') {n : Nat} {y : PairingSession}
    (hy : s'.sessions[n]? = some y) : n = i ∧ y = x' ∨ n ≠ i ∧ s.sessions[n]? = some y := by
  have hlt : i < s.sessions.length := (List.getElem?_eq_some_iff.mp ht.session).1
  rw [ht.sessions] at hy
  by_cases hn : n = i
  · subst hn
    rw [List.getElem?_set_self hlt] at hy
    exact Or.inl ⟨rfl, (Option.some.inj hy).symm⟩
  · rw [List.getElem?_set_ne (Ne.symm hn)] at hy
    exact Or.inr ⟨hn, hy⟩

theorem Touched.keeps {i : Nat} {x x' : PairingSession} (ht : Touched s i x x' s') (h : Inv s) {n : Nat} (hn : n ≠ i) :
    ¬ Lost s s' n := by
  rintro (⟨k, hk, hlost⟩ | ⟨c, hc, hlost⟩)
  · obtain ⟨y, hy, hout, hkey⟩ := h.entry k n hk
    rcases ht.names k with heq | ⟨-, hkx⟩
    · exact hlost (heq.trans hk)
    · exact hn (h.apart n i y x hy ht.session hout ht.outstanding k hkey hkx)
  · obtain ⟨y, hy, hout, rfl⟩ := h.cancel c n hc
    rcases ht.cancels y.connectionID with heq | ⟨-, hcx⟩
    · exact hlost (heq.trans hc)
    · refine hn (h.apart n i y x hy ht.session hout ht.outstanding _ (conn_mem_keys y) ?_)
      rw [hcx]
      exact conn_mem_keys x

theorem entered_of_keeps {n : Nat} {y : PairingSession} (he : Entered s n y) (hk : ¬ Lost s s' n) : Entered s' n y := by
  constructor
  · intro k hmem
    by_contra hne
    exact hk (Or.inl ⟨k, he.1 k hmem, hne⟩)
  · by_contra hne
    exact hk (Or.inr ⟨_, he.2, hne⟩)

theorem inv_touched (h : Inv s) {i : Nat} {x x' : PairingSession} (ht : Touched s i x x' s')
    (hgone : x'.pc = .cleaned → (∀ k ∈ keys x, s'.pairingSessions k = none) ∧ s'.pairingCancels x.connectionID = none)
    (hlive : Live x' → ¬ Own x' → Live x ∧ ¬ Own x ∧ s'.pairingSessions = s.pairingSessions ∧
      s'.pairingCancels = s.pairingCancels) : Inv s' := by
  have hlt : i < s.sessions.length := (List.getElem?_eq_some_iff.mp ht.session).1
  have hself : s'.sessions[i]? = some x' := by rw [ht.sessions, List.getElem?_set_self hlt]
  have hother : ∀ n, n ≠ i → s'.sessions[n]? = s.sessions[n]? := fun n hn => by
    rw [ht.sessions, List.getElem?_set_ne (Ne.symm hn)]
  -- a session that is left is one that was there, with its keys
  have hold : ∀ (n : Nat) (y : PairingSession), s'.sessions[n]? = some y → y.pc ≠ .cleaned →
      ∃ z, s.sessions[n]? = some z ∧ z.pc ≠ .cleaned ∧ keys z = keys y := by
    intro n y hy hout
    rcases ht.get hy with ⟨rfl, rfl⟩ | ⟨-, hy⟩
    · exact ⟨x, ht.session, ht.outstanding, ht.keys.1.symm⟩
    · exact ⟨y, hy, hout, rfl⟩
  constructor
  · intro k n hk
    have hk' : s.pairingSessions k = some n := by
      rcases ht.names k with heq | ⟨hnone, -⟩
      · exact heq ▸ hk
      · exact nomatch hnone.symm.trans hk
    obtain ⟨y, hy, hout, hkey⟩ := h.entry k n hk'
    by_cases hn : n = i
    · subst hn
      obtain rfl := Option.some.inj (hy.symm.trans ht.session)
      refine ⟨x', hself, fun hc => ?_, ht.keys.1 ▸ hkey⟩
      exact nomatch ((hgone hc).1 k hkey).symm.trans hk
    · exact ⟨y, (hother n hn).trans hy, hout, hkey⟩
  · intro c n hc
    have hc' : s.pairingCancels c = some n := by
      rcases ht.cancels c with heq | ⟨hnone, -⟩
      · exact heq ▸ hc
      · exact nomatch hnone.symm.trans hc
    obtain ⟨y, hy, hout, rfl⟩ := h.cancel c n hc'
    by_cases hn : n = i
    · subst hn
      obtain rfl := Option.some.inj (hy.symm.trans ht.session)
      refine ⟨x', hself, fun hcl => ?_, ht.keys.2⟩
      exact nomatch (hgone hcl).2.symm.trans hc
    · exact ⟨y, (hother n hn).trans hy, hout, rfl⟩
  · intro n m y z hy hz hyo hzo k hky hkz
    obtain ⟨y₀, hy₀, hyo₀, hyk⟩ := hold n y hy hyo
    obtain ⟨z₀, hz₀, hzo₀, hzk⟩ := hold m z hz hzo
    exact h.apart n m y₀ z₀ hy₀ hz₀ hyo₀ hzo₀ k (hyk ▸ hky) (hzk ▸ hkz)
  · intro n y hy hl ho
    rcases ht.get hy with ⟨rfl, rfl⟩ | ⟨hn, hy⟩
    · obtain ⟨hlx, hox, hps, hpc⟩ := hlive hl ho
      obtain ⟨hk, hc⟩ := h.shown n x ht.session hlx hox
      refine ⟨fun k hmem => ?_, ?_⟩
      · rw [hps]
        exact hk k (ht.keys.1 ▸ hmem)
      · rw [hpc, ht.keys.2]
        exact hc
    · exact entered_of_keeps (h.shown n y hy hl ho) (ht.keeps h hn)

/-! ### The operations -/

theorem lookup_some {k : String} {n : Nat} {x : PairingSession} (h : s.lookup k = some (n, x)) :
    s.pairingSessions k = some n ∧ s.sessions[n]? = some x := by
  obtain ⟨m, hm, h⟩ := Option.bind_eq_some_iff.mp h
  obtain ⟨y, hy, h⟩ := Option.bind_eq_some_iff.mp h
  cases h
  exact ⟨hm, hy⟩

theorem set_self {i : Nat} {x : PairingSession} (hx : s.sessions[i]? = some x) : s.sessions.set i x = s.sessions := by
  obtain ⟨hlt, rfl⟩ := List.getElem?_eq_some_iff.mp hx
  exact List.set_getElem_self hlt

theorem modify_eq_set {i : Nat} {x : PairingSession} (hx : s.sessions[i]? = some x) (f : PairingSession → PairingSession) :
    s.sessions.modify i f = s.sessions.set i (f x) := by
  rw [List.modify_eq_set_getElem?, hx]
  rfl

theorem touched_setPc {i : Nat} {x : PairingSession} (hx : s.sessions[i]? = some x) (hout : x.pc ≠ .cleaned)
    (pc : LoopPc) : Touched s i x { x with pc := pc } (s.setPc i x pc) :=
  ⟨hx, rfl, ⟨rfl, rfl⟩, hout, fun _ => Or.inl rfl, fun _ => Or.inl rfl⟩

theorem del_cases {κ : Type} [DecidableEq κ] (m : GoMap κ Nat) (k k' : κ) :
    m.del k k' = m k' ∨ m.del k k' = none ∧ k' = k := by
  by_cases hk : k' = k
  · subst hk
    exact Or.inr ⟨GoMap.del_self m k', rfl⟩
  · exact Or.inl (GoMap.del_of_ne m hk)

theorem cleanup_names (s : St) (x : PairingSession) (k : String) :
    (cleanupSession s x.phone x.connectionID).pairingSessions k = if k ∈ keys x then none else s.pairingSessions k :=
  delPhone_del s.pairingSessions x.phone x.connectionID k

theorem touched_cleanup {i : Nat} {x y : PairingSession} (hx : s.sessions[i]? = some x) (hout : x.pc ≠ .cleaned)
    (hkeys : keys y = keys x ∧ y.connectionID = x.connectionID) (pc : LoopPc) :
    Touched s i x { y with pc := pc } ((cleanupSession s x.phone x.connectionID).setPc i y pc) := by
  refine ⟨hx, rfl, hkeys, hout, fun k => ?_, fun c => del_cases s.pairingCancels x.connectionID c⟩
  have hread := cleanup_names s x k
  by_cases hk : k ∈ keys x
  · rw [if_pos hk] at hread
    exact Or.inr ⟨hread, hk⟩
  · rw [if_neg hk] at hread
    exact Or.inl hread

theorem cleanup_gone (s : St) (i : Nat) (x y : PairingSession) (pc : LoopPc) :
    (∀ k ∈ keys x, ((cleanupSession s x.phone x.connectionID).setPc i y pc).pairingSessions k = none) ∧
      ((cleanupSession s x.phone x.connectionID).setPc i y pc).pairingCancels x.connectionID = none := by
  refine ⟨fun k hk => ?_, GoMap.del_self s.pairingCancels x.connectionID⟩
  have hread := cleanup_names s x k
  rw [if_pos hk] at hread
  exact hread

theorem dropPhone_touched (h : Inv s) {ws : UUID} {phone : String} {n : Nat} {x : PairingSession}
    (hl : s.lookup phone = some (n, x)) :
    Touched s n x { x with cancelledBy := ws :: x.cancelledBy } (dropPhone s ws phone) := by
  obtain ⟨hk, hx⟩ := lookup_some hl
  obtain ⟨y, hy, hout, hkey⟩ := h.entry phone n hk
  obtain rfl := Option.some.inj (hx.symm.trans hy)
  simp only [dropPhone, hl]
  refine ⟨hx, modify_eq_set hx _, ⟨rfl, rfl⟩, hout, fun k => ?_, fun c => del_cases s.pairingCancels x.connectionID c⟩
  rcases del_cases (s.pairingSessions.del phone) x.connectionID.string k with heq | ⟨hnone, rfl⟩
  · rcases del_cases s.pairingSessions phone k with heq' | ⟨hnone, rfl⟩
    · exact Or.inl (heq.trans heq')
    · exact Or.inr ⟨heq.trans hnone, hkey⟩
  · exact Or.inr ⟨hnone, conn_mem_keys x⟩

theorem cancelPairing_cases (h : Inv s) (ws connID : UUID) :
    (∃ n x, s.pairingCancels connID = some n ∧
      Touched s n x { x with cancelledBy := ws :: x.cancelledBy } (cancelPairing s ws connID)) ∨
    (∃ n x, s.pairingCancels connID = none ∧ s.lookup connID.string = some (n, x) ∧
      Touched s n x x (cancelPairing s ws connID) ∧
      (cancelPairing s ws connID).pairingSessions connID.string = none) ∨
    s.pairingCancels connID = none ∧ s.lookup connID.string = none ∧ cancelPairing s ws connID = s := by
  -- deleting under the keys of a session
  have hnames : ∀ (x : PairingSession) (k : String), connID.string ∈ keys x →
      delPhone (s.pairingSessions.del connID.string) x.phone k = s.pairingSessions k ∨
        delPhone (s.pairingSessions.del connID.string) x.phone k = none ∧ k ∈ keys x := by
    intro x k hkey
    rw [del_delPhone, delPhone_del]
    by_cases hk : k ∈ keysOf x.phone connID
    · refine Or.inr ⟨if_pos hk, ?_⟩
      rcases mem_keysOf.mp hk with rfl | hphone
      · exact hkey
      · exact mem_keysOf.mpr (Or.inr hphone)
    · exact Or.inl (if_neg hk)
  cases hc : s.pairingCancels connID with
  | some n =>
    obtain ⟨x, hx, hout, hconn⟩ := h.cancel connID n hc
    have hkey : connID.string ∈ keys x := hconn ▸ conn_mem_keys x
    refine Or.inl ⟨n, x, rfl, ?_⟩
    have hcancels : ∀ c, s.pairingCancels.del connID c = s.pairingCancels c ∨
        s.pairingCancels.del connID c = none ∧ c = x.connectionID := by
      intro c
      rw [hconn]
      exact del_cases s.pairingCancels connID c
    simp only [cancelPairing, hc]
    cases hk : s.pairingSessions connID.string with
    | none =>
      simp only [St.lookup, St.cancel, hk, Option.bind_none, bind]
      exact ⟨hx, modify_eq_set hx _, ⟨rfl, rfl⟩, hout, fun _ => Or.inl rfl, hcancels⟩
    | some m =>
      obtain ⟨y, hy, hyo, hyk⟩ := h.entry _ m hk
      obtain rfl : m = n := h.apart m n y x hy hx hyo hout _ hyk hkey
      simp only [St.lookup, St.cancel, hk, Option.bind_some, bind, modify_eq_set hx,
        List.getElem?_set_self (List.getElem?_eq_some_iff.mp hx).1, pure]
      exact ⟨hx, rfl, ⟨rfl, rfl⟩, hout, fun k => hnames x k hkey, hcancels⟩
  | none =>
    refine Or.inr ?_
    simp only [cancelPairing, hc]
    cases hl : s.lookup connID.string with
    | none => exact Or.inr ⟨trivial, rfl, rfl⟩
    | some p =>
      obtain ⟨n, x⟩ := p
      obtain ⟨hk, hx⟩ := lookup_some hl
      obtain ⟨y, hy, hout, hkey⟩ := h.entry _ n hk
      obtain rfl := Option.some.inj (hx.symm.trans hy)
      refine Or.inl ⟨n, x, trivial, rfl, ⟨hx, (set_self hx).symm, ⟨rfl, rfl⟩, hout, fun k => hnames x k hkey,
        fun _ => Or.inl rfl⟩, ?_⟩
      show delPhone (s.pairingSessions.del connID.string) x.phone connID.string = none
      rw [del_delPhone, delPhone_del]
      exact if_pos (mem_keysOf.mpr (Or.inl rfl))

/-! ### A start -/

theorem register_names (s : St) (ws : UUID) (phone : String) (connID : UUID) (k : String) :
    (register s ws phone connID).pairingSessions k =
      if k ∈ keysOf phone connID then some s.sessions.length else s.pairingSessions k := by
  unfold register
  by_cases hp : phone = ""
  · simp [mem_keysOf, hp, GoMap.set]
  · by_cases hk : k = connID.string
    · simp [mem_keysOf, hk, GoMap.set]
    · simp [mem_keysOf, hp, hk, GoMap.set]

theorem start_apart (h : Inv s) {ws : UUID} {phone : String} {connID : UUID} (ha : Apart s (.start ws phone connID)) :
    start s ws phone connID = register s ws phone connID ∧
      (∀ k ∈ keysOf phone connID, s.pairingSessions k = none) ∧ s.pairingCancels connID = none := by
  have hfree : ∀ k ∈ keysOf phone connID, s.pairingSessions k = none := by
    intro k hk
    by_contra hne
    obtain ⟨n, hn⟩ := Option.ne_none_iff_exists'.mp hne
    obtain ⟨x, hx, hout, hkey⟩ := h.entry k n hn
    exact ha n x hx hout k hk hkey
  have hconn : s.pairingCancels connID = none := by
    by_contra hne
    obtain ⟨n, hn⟩ := Option.ne_none_iff_exists'.mp hne
    obtain ⟨x, hx, hout, rfl⟩ := h.cancel connID n hn
    exact ha n x hx hout _ (mem_keysOf.mpr (Or.inl rfl)) (conn_mem_keys x)
  have hlookup : ∀ k ∈ keysOf phone connID, s.lookup k = none := fun k hk => by simp [St.lookup, hfree k hk]
  have hdrop : dropConnection s ws connID = s := by
    simp only [dropConnection, hlookup _ (mem_keysOf.mpr (Or.inl rfl))]
  refine ⟨?_, hfree, hconn⟩
  unfold start
  by_cases hp : phone = ""
  · simp only [hp, if_true, hdrop]
  · have hdropPhone : dropPhone s ws phone = s := by
      simp only [dropPhone, hlookup _ (mem_keysOf.mpr (Or.inr ⟨hp, rfl⟩))]
    simp only [if_neg hp, hdropPhone, hdrop]

theorem register_keeps {ws : UUID} {phone : String} {connID : UUID}
    (hfree : ∀ k ∈ keysOf phone connID, s.pairingSessions k = none) (hconn : s.pairingCancels connID = none) (n : Nat) :
    ¬ Lost s (register s ws phone connID) n := by
  rintro (⟨k, hk, hlost⟩ | ⟨c, hc, hlost⟩)
  · rw [register_names] at hlost
    have hout : k ∉ keysOf phone connID := fun hmem => nomatch (hfree k hmem).symm.trans hk
    exact hlost ((if_neg hout).trans hk)
  · have hne : c ≠ connID := by
      rintro rfl
      exact nomatch hconn.symm.trans hc
    exact hlost ((GoMap.set_of_ne s.pairingCancels _ hne).trans hc)

theorem inv_register (h : Inv s) {ws : UUID} {phone : String} {connID : UUID} (ha : Apart s (.start ws phone connID)) :
    Inv (register s ws phone connID) := by
  obtain ⟨-, hfree, hconn⟩ := start_apart h ha
  let new : PairingSession := ⟨phone, ws, connID, [], .starting⟩
  have hnew : (register s ws phone connID).sessions[s.sessions.length]? = some new := by
    show (s.sessions ++ [new])[s.sessions.length]? = _
    simp
  have hold : ∀ (n : Nat) (y : PairingSession), s.sessions[n]? = some y →
      (register s ws phone connID).sessions[n]? = some y := by
    intro n y hy
    show (s.sessions ++ [new])[n]? = _
    rw [List.getElem?_append_left (List.getElem?_eq_some_iff.mp hy).1]
    exact hy
  have hcases : ∀ (n : Nat) (y : PairingSession), (register s ws phone connID).sessions[n]? = some y →
      s.sessions[n]? = some y ∨ n = s.sessions.length ∧ y = new := by
    intro n y hy
    have hy : (s.sessions ++ [new])[n]? = some y := hy
    rcases Nat.lt_trichotomy n s.sessions.length with hlt | rfl | hgt
    · rw [List.getElem?_append_left hlt] at hy
      exact Or.inl hy
    · exact Or.inr ⟨rfl, (Option.some.inj (hnew.symm.trans hy)).symm⟩
    · have hlt := (List.getElem?_eq_some_iff.mp hy).1
      rw [List.length_append, List.length_singleton] at hlt
      omega
  constructor
  · intro k n hk
    rw [register_names] at hk
    split at hk
    · rename_i hmem
      cases hk
      exact ⟨new, hnew, (fun hc => nomatch hc), hmem⟩
    · obtain ⟨y, hy, hout, hkey⟩ := h.entry k n hk
      exact ⟨y, hold n y hy, hout, hkey⟩
  · intro c n hc
    have hc : s.pairingCancels.set connID s.sessions.length c = some n := hc
    rcases GoMap.set_eq_some hc with ⟨rfl, rfl⟩ | ⟨-, hc⟩
    · exact ⟨new, hnew, (fun hc => nomatch hc), rfl⟩
    · obtain ⟨y, hy, hout, hyc⟩ := h.cancel c n hc
      exact ⟨y, hold n y hy, hout, hyc⟩
  · intro n m y z hy hz hyo hzo k hky hkz
    rcases hcases n y hy with hy | ⟨rfl, rfl⟩
    · rcases hcases m z hz with hz | ⟨rfl, rfl⟩
      · exact h.apart n m y z hy hz hyo hzo k hky hkz
      · exact absurd hky (ha n y hy hyo k hkz)
    · rcases hcases m z hz with hz | ⟨rfl, rfl⟩
      · exact absurd hkz (ha m z hz hzo k hky)
      · rfl
  · intro n y hy hl ho
    rcases hcases n y hy with hy | ⟨rfl, rfl⟩
    · exact entered_of_keeps (h.shown n y hy hl ho) (register_keeps hfree hconn n)
    · exact ⟨fun k hk => (register_names ..).trans (if_pos hk), GoMap.set_self s.pairingCancels connID _⟩

/-! ### A step -/

theorem inv_step (h : Inv s) {l : Lbl} (ha : Apart s l) (hstep : step s l = some s') : Inv s' := by
  cases l with
  | start ws phone connID =>
    cases hstep
    rw [(start_apart h ha).1]
    exact inv_register h ha
  | client i ok =>
    obtain ⟨x, hx, hstep⟩ := Option.bind_eq_some_iff.mp hstep
    obtain ⟨hpc, hstep⟩ := Option.ite_none_left_eq_some.mp hstep
    have hpc : x.pc = .starting := not_not.mp hpc
    have hout : x.pc ≠ .cleaned := fun hc => nomatch hpc.symm.trans hc
    split at hstep
    · cases hstep
      exact inv_touched h (touched_setPc hx hout .running) (fun hc => nomatch hc)
        fun _ ho => ⟨Or.inl hpc, ho, rfl, rfl⟩
    · cases hstep
      let y : PairingSession := { x with cancelledBy := x.workspaceID :: x.cancelledBy }
      have ht : Touched s i x { y with pc := .cleaned } ((cleanupSession s x.phone x.connectionID).setPc i y .cleaned) :=
        touched_cleanup (y := y) hx hout ⟨rfl, rfl⟩ .cleaned
      refine inv_touched h ht (fun _ => cleanup_gone s i x y .cleaned) fun hl _ => ?_
      rcases hl with hc | hc <;> cases hc
  | loopEnd i how =>
    obtain ⟨x, hx, hstep⟩ := Option.bind_eq_some_iff.mp hstep
    obtain ⟨⟨hpc, -⟩, hstep⟩ := Option.ite_none_right_eq_some.mp hstep
    cases hstep
    refine inv_touched h (touched_setPc hx (fun hc => nomatch hpc.symm.trans hc) _) (fun hc => nomatch hc) fun hl _ => ?_
    rcases hl with hc | hc <;> cases hc
  | cleanup i =>
    obtain ⟨x, hx, hstep⟩ := Option.bind_eq_some_iff.mp hstep
    unfold cleanup at hstep
    split at hstep
    · rename_i hpc
      cases hstep
      have hout : x.pc ≠ .cleaned := fun hc => nomatch hpc.symm.trans hc
      refine inv_touched h (touched_cleanup hx hout ⟨rfl, rfl⟩ .cleaned) (fun _ => cleanup_gone s i x _ _) fun hl _ => ?_
      rcases hl with hc | hc <;> cases hc
    · cases hstep
  | cancelPairing ws connID =>
    cases hstep
    rcases cancelPairing_cases h ws connID with ⟨n, x, hc, ht⟩ | ⟨n, x, hc, hl, ht, -⟩ | ⟨-, -, heq⟩
    · have hws : x.workspaceID = ws := ha.1 n x hc ht.session
      refine inv_touched h ht (fun hcl => absurd hcl ht.outstanding) fun _ ho => absurd ?_ ho
      exact hws ▸ List.mem_cons_self
    · refine inv_touched h ht (fun hcl => absurd hcl ht.outstanding) fun hlive ho => ?_
      rcases (ha.2 n x hl).2 with hconn | hdead | hown
      · have hentry := (h.shown n x ht.session hlive ho).2
        rw [hconn] at hentry
        exact nomatch hc.symm.trans hentry
      · exact absurd hlive hdead
      · exact absurd hown ho
    · rwa [heq]
  | cancelPairingByPhone ws phone =>
    cases hstep
    unfold cancelPairingByPhone
    split
    · exact h
    · rename_i hp
      cases hl : s.lookup phone with
      | none => simpa only [dropPhone, hl] using h
      | some p =>
        have ht : Touched s p.1 p.2 _ (dropPhone s ws phone) := dropPhone_touched h hl
        have hws : p.2.workspaceID = ws := ha hp _ _ hl
        refine inv_touched h ht (fun hcl => absurd hcl ht.outstanding) fun _ ho => absurd ?_ ho
        exact hws ▸ List.mem_cons_self

theorem Touched.foreign {i : Nat} {x x' : PairingSession} (ht : Touched s i x x' s') (h : Inv s) {ws : UUID}
    (hws : x.workspaceID = ws) {n : Nat} {y : PairingSession} (hy : s.sessions[n]? = some y) (hne : y.workspaceID ≠ ws) :
    ¬ Lost s s' n ∧ ∀ y', s'.sessions[n]? = some y' → y'.cancelledBy = y.cancelledBy := by
  have hn : n ≠ i := by
    rintro rfl
    exact hne (Option.some.inj (hy.symm.trans ht.session) ▸ hws)
  refine ⟨ht.keeps h hn, fun y' hy' => ?_⟩
  rcases ht.get hy' with ⟨heq, -⟩ | ⟨-, hy'⟩
  · exact absurd heq hn
  · rw [Option.some.inj (hy'.symm.trans hy)]

theorem undisturbed_of_caller_none {l : Lbl} (hl : caller l = none)
    (h : ∀ i, l = .cleanup i ∨ l = .client i false → ∀ n, n ≠ i → ¬ Lost s s' n) : Undisturbed s l s' :=
  ⟨h, fun _ hws => nomatch hl.symm.trans hws⟩

theorem undisturbed_of_foreign {l : Lbl} {ws : UUID} (hl : caller l = some ws)
    (h : ∀ (n : Nat) (y : PairingSession), s.sessions[n]? = some y → y.workspaceID ≠ ws →
      ¬ Lost s s' n ∧ ∀ y', s'.sessions[n]? = some y' → y'.cancelledBy = y.cancelledBy) : Undisturbed s l s' := by
  refine ⟨?_, fun ws' hws' => Option.some.inj (hl.symm.trans hws') ▸ h⟩
  rintro i (rfl | rfl)
  · cases hl
  · cases hl

theorem not_lost_self (s : St) (n : Nat) : ¬ Lost s s n := by
  rintro (⟨k, hk, hlost⟩ | ⟨c, hc, hlost⟩)
  · exact hlost hk
  · exact hlost hc

theorem undisturbed_step (h : Inv s) {l : Lbl} (ha : Apart s l) (hstep : step s l = some s') : Undisturbed s l s' := by
  have hself : ∀ {ws : UUID} (n : Nat) (y : PairingSession), s.sessions[n]? = some y → y.workspaceID ≠ ws →
      ¬ Lost s s n ∧ ∀ y', s.sessions[n]? = some y' → y'.cancelledBy = y.cancelledBy := fun n y hy _ =>
    ⟨not_lost_self s n, fun y' hy' => by rw [Option.some.inj (hy'.symm.trans hy)]⟩
  cases l with
  | start ws phone connID =>
    cases hstep
    obtain ⟨heq, hfree, hconn⟩ := start_apart h ha
    rw [heq]
    refine undisturbed_of_foreign rfl fun n y hy _ => ⟨register_keeps hfree hconn n, fun y' hy' => ?_⟩
    have hy' : (s.sessions ++ _)[n]? = some y' := hy'
    rw [List.getElem?_append_left (List.getElem?_eq_some_iff.mp hy).1] at hy'
    rw [Option.some.inj (hy'.symm.trans hy)]
  | client i ok =>
    obtain ⟨x, hx, hstep⟩ := Option.bind_eq_some_iff.mp hstep
    obtain ⟨hpc, hstep⟩ := Option.ite_none_left_eq_some.mp hstep
    have hout : x.pc ≠ .cleaned := fun hc => nomatch (not_not.mp hpc).symm.trans hc
    refine undisturbed_of_caller_none rfl ?_
    rintro i' (hl | hl) n hn
    · cases hl
    · cases hl
      cases hstep
      let y : PairingSession := { x with cancelledBy := x.workspaceID :: x.cancelledBy }
      have ht : Touched s i x { y with pc := .cleaned } ((cleanupSession s x.phone x.connectionID).setPc i y .cleaned) :=
        touched_cleanup (y := y) hx hout ⟨rfl, rfl⟩ .cleaned
      exact ht.keeps h hn
  | loopEnd i how =>
    refine undisturbed_of_caller_none rfl ?_
    rintro i' (hl | hl)
    · cases hl
    · cases hl
  | cleanup i =>
    obtain ⟨x, hx, hstep⟩ := Option.bind_eq_some_iff.mp hstep
    refine undisturbed_of_caller_none rfl ?_
    rintro i' (hl | hl) n hn
    · cases hl
      unfold cleanup at hstep
      split at hstep
      · rename_i hpc
        cases hstep
        have hout : x.pc ≠ .cleaned := fun hc => nomatch hpc.symm.trans hc
        exact (touched_cleanup hx hout ⟨rfl, rfl⟩ .cleaned).keeps h hn
      · cases hstep
    · cases hl
  | cancelPairing ws connID =>
    cases hstep
    refine undisturbed_of_foreign rfl ?_
    rcases cancelPairing_cases h ws connID with ⟨n, x, hc, ht⟩ | ⟨n, x, hc, hl, ht, -⟩ | ⟨-, -, heq⟩
    · exact fun m y hy hne => ht.foreign h (ha.1 n x hc ht.session) hy hne
    · exact fun m y hy hne => ht.foreign h (ha.2 n x hl).1 hy hne
    · rw [heq]
      exact hself
  | cancelPairingByPhone ws phone =>
    cases hstep
    refine undisturbed_of_foreign rfl ?_
    unfold cancelPairingByPhone
    split
    · exact hself
    · rename_i hp
      cases hl : s.lookup phone with
      | none => simpa only [dropPhone, hl] using hself
      | some p => exact fun m y hy hne => (dropPhone_touched h hl).foreign h (ha hp _ _ hl) hy hne

/-! ## What other steps lead to -/

/-- The step disturbs a session, or some run from it does. -/
def Disturbs (s : St) (l : Lbl) (s' : St) : Prop :=
  ¬ Undisturbed s l s' ∨
    ∃ ls t, sys.Run s' ls t ∧ (¬ Shown t ∨ ∃ l' t', step t l' = some t' ∧ ¬ Undisturbed t l' t')

theorem cleanup_disturbs {l : Lbl} {i j : Nat} {x : PairingSession} {k : String} (hx : s'.sessions[i]? = some x)
    (hout : x.pc ≠ .cleaned) (hkey : k ∈ keys x) (hk : s'.pairingSessions k = some j) (hne : j ≠ i) : Disturbs s l s' := by
  have hlt : i < s'.sessions.length := (List.getElem?_eq_some_iff.mp hx).1
  -- a cleanup of `x` in a state with these entries
  have hlost : ∀ (t : St) (y : PairingSession), t.pairingSessions k = some j →
      Lost t ((cleanupSession t x.phone x.connectionID).setPc i y .cleaned) j := by
    intro t y ht
    refine Or.inl ⟨k, ht, fun hc => ?_⟩
    exact nomatch ((cleanup_gone t i x y .cleaned).1 k hkey).symm.trans hc
  have hended : ∀ (t : St) (how : LoopEnd), t.sessions[i]? = some { x with pc := .ended how } →
      t.pairingSessions k = some j → ∃ l' t', step t l' = some t' ∧ ¬ Undisturbed t l' t' := by
    intro t how hi ht
    have hstep : step t (.cleanup i) =
        some ((cleanupSession t x.phone x.connectionID).setPc i { x with pc := .ended how } .cleaned) := by
      simp only [step, hi, Option.bind_some, cleanup]
    exact ⟨.cleanup i, _, hstep, fun hu => hu.cleanup i (Or.inl rfl) j hne (hlost t _ ht)⟩
  refine Or.inr ?_
  cases hpc : x.pc with
  | cleaned => exact absurd hpc hout
  | starting =>
    have hstep : step s' (.client i false) = some ((cleanupSession s' x.phone x.connectionID).setPc i
        { x with cancelledBy := x.workspaceID :: x.cancelledBy } .cleaned) := by
      simp only [step, hx, Option.bind_some, client, hpc, ne_eq, not_true_eq_false, if_false, Bool.false_eq_true]
    exact ⟨[], s', .nil _, Or.inr ⟨.client i false, _, hstep, fun hu => hu.cleanup i (Or.inr rfl) j hne (hlost s' _ hk)⟩⟩
  | running =>
    have hstep : step s' (.loopEnd i .timeout) = some (s'.setPc i x (.ended .timeout)) := by
      simp only [step, hx, Option.bind_some, loopEnd]
      rw [if_pos ⟨hpc, fun h => nomatch h⟩]
    have hself : (s'.setPc i x (.ended .timeout)).sessions[i]? = some { x with pc := .ended .timeout } :=
      List.getElem?_set_self hlt
    exact ⟨[.loopEnd i .timeout], _, .cons hstep (.nil _), Or.inr (hended _ .timeout hself hk)⟩
  | ended how =>
    have hself : s'.sessions[i]? = some { x with pc := .ended how } := by rw [hx, ← hpc]
    exact ⟨[], s', .nil _, Or.inr (hended s' how hself hk)⟩

theorem cancel_get {i : Nat} {x : PairingSession} (hx : s.sessions[i]? = some x) (n : Nat) (ws : UUID) :
    ∃ x', (s.cancel n ws).sessions[i]? = some x' ∧ x'.pc = x.pc ∧ keys x' = keys x := by
  simp only [St.cancel, List.getElem?_modify, hx]
  split
  · exact ⟨_, rfl, rfl, rfl⟩
  · exact ⟨x, rfl, rfl, rfl⟩

theorem start_get {i : Nat} {x : PairingSession} (hx : s.sessions[i]? = some x) (ws : UUID) (phone : String) (connID : UUID) :
    ∃ x', (start s ws phone connID).sessions[i]? = some x' ∧ x'.pc = x.pc ∧ keys x' = keys x := by
  have hphone : ∀ {t : St} {y : PairingSession}, t.sessions[i]? = some y →
      ∃ y', (dropPhone t ws phone).sessions[i]? = some y' ∧ y'.pc = y.pc ∧ keys y' = keys y := by
    intro t y hy
    unfold dropPhone
    split
    · exact cancel_get hy _ ws
    · exact ⟨y, hy, rfl, rfl⟩
  have hconn : ∀ {t : St} {y : PairingSession}, t.sessions[i]? = some y →
      ∃ y', (dropConnection t ws connID).sessions[i]? = some y' ∧ y'.pc = y.pc ∧ keys y' = keys y := by
    intro t y hy
    unfold dropConnection
    split
    · exact cancel_get hy _ ws
    · exact ⟨y, hy, rfl, rfl⟩
  have hfirst : ∃ y, (if phone = "" then s else dropPhone s ws phone).sessions[i]? = some y ∧ y.pc = x.pc ∧
      keys y = keys x := by
    split
    · exact ⟨x, hx, rfl, rfl⟩
    · exact hphone hx
  obtain ⟨y, hy, hpc, hkeys⟩ := hfirst
  obtain ⟨z, hz, hzpc, hzkeys⟩ := hconn hy
  refine ⟨z, ?_, hzpc.trans hpc, hzkeys.trans hkeys⟩
  show ((dropConnection _ ws connID).sessions ++ _)[i]? = some z
  rw [List.getElem?_append_left (List.getElem?_eq_some_iff.mp hz).1]
  exact hz

theorem start_length (s : St) (ws : UUID) (phone : String) (connID : UUID) :
    ∃ j, j + 1 = (start s ws phone connID).sessions.length ∧ s.sessions.length = j ∧
      ∀ k ∈ keysOf phone connID, (start s ws phone connID).pairingSessions k = some j := by
  have hphone : ∀ t : St, (dropPhone t ws phone).sessions.length = t.sessions.length := by
    intro t
    unfold dropPhone
    split
    · simp [St.cancel]
    · rfl
  have hconn : ∀ t : St, (dropConnection t ws connID).sessions.length = t.sessions.length := by
    intro t
    unfold dropConnection
    split
    · simp [St.cancel]
    · rfl
  unfold start
  generalize ht : (if phone = "" then s else dropPhone s ws phone) = t
  have hlen : t.sessions.length = s.sessions.length := by
    rw [← ht]
    split
    · rfl
    · exact hphone s
  refine ⟨s.sessions.length, ?_, rfl, fun k hk => ?_⟩
  · show _ = ((dropConnection t ws connID).sessions ++ _).length
    rw [List.length_append, hconn, hlen]
    rfl
  · rw [register_names, if_pos hk, hconn, hlen]

theorem Touched.disturbs {i : Nat} {x : PairingSession} {l : Lbl} {ws : UUID} (hl : caller l = some ws)
    (ht : Touched s i x { x with cancelledBy := ws :: x.cancelledBy } s') (hne : x.workspaceID ≠ ws) : Disturbs s l s' := by
  refine Or.inl fun hu => ?_
  have hself : s'.sessions[i]? = some { x with cancelledBy := ws :: x.cancelledBy } := by
    rw [ht.sessions, List.getElem?_set_self (List.getElem?_eq_some_iff.mp ht.session).1]
  have hsame := (hu.foreign ws hl i x ht.session hne).2 _ hself
  exact List.cons_ne_self _ _ hsame

theorem disturbs_step (h : Inv s) {l : Lbl} (ha : ¬ Apart s l) (hstep : step s l = some s') : Disturbs s l s' := by
  cases l with
  | start ws phone connID =>
    cases hstep
    simp only [Apart, not_forall, not_not] at ha
    obtain ⟨i, x, hx, hout, k, hk, hkey⟩ := ha
    obtain ⟨x', hx', hpc, hkeys⟩ := start_get hx ws phone connID
    obtain ⟨j, -, hj, hnames⟩ := start_length s ws phone connID
    have hne : j ≠ i := by
      have hlt := (List.getElem?_eq_some_iff.mp hx).1
      omega
    exact cleanup_disturbs hx' (hpc ▸ hout) (hkeys ▸ hkey) (hnames k hk) hne
  | client i ok => exact absurd trivial ha
  | loopEnd i how => exact absurd trivial ha
  | cleanup i => exact absurd trivial ha
  | cancelPairing ws connID =>
    cases hstep
    rcases cancelPairing_cases h ws connID with ⟨n, x, hc, ht⟩ | ⟨n, x, hc, hl, ht, hgone⟩ | ⟨hc, hl, heq⟩
    · -- what is under the connection is the session in `pairingCancels`
      refine ht.disturbs rfl fun hws => ha ⟨fun m y hm hy => ?_, fun m y hm => ?_⟩
      · obtain rfl := Option.some.inj (hm.symm.trans hc)
        exact Option.some.inj (hy.symm.trans ht.session) ▸ hws
      · obtain ⟨z, hz, -, hconn⟩ := h.cancel connID n hc
        obtain rfl := Option.some.inj (hz.symm.trans ht.session)
        obtain ⟨hk, hy⟩ := lookup_some hm
        obtain ⟨y', hy', hout, hkey⟩ := h.entry _ m hk
        obtain rfl := Option.some.inj (hy.symm.trans hy')
        obtain rfl : m = n :=
          h.apart m n y z hy hz hout ht.outstanding _ hkey (hconn ▸ conn_mem_keys z)
        obtain rfl := Option.some.inj (hy.symm.trans hz)
        exact ⟨hws, Or.inl hconn⟩
    · by_cases hws : x.workspaceID = ws
      · have hbad : ¬ (x.connectionID = connID ∨ ¬ Live x ∨ Own x) := fun hgood => by
          refine ha ⟨fun m y hm => absurd (hc.symm.trans hm) (by simp), fun m y hm => ?_⟩
          obtain ⟨rfl, rfl⟩ := Prod.mk.inj (Option.some.inj (hm.symm.trans hl))
          exact ⟨hws, hgood⟩
        obtain ⟨-, hlive, hown⟩ : _ ∧ Live x ∧ ¬ Own x := by simpa [not_or] using hbad
        obtain ⟨hk, -⟩ := lookup_some hl
        obtain ⟨y, hy, -, hkey⟩ := h.entry _ n hk
        obtain rfl := Option.some.inj (hy.symm.trans ht.session)
        have hself : (cancelPairing s ws connID).sessions[n]? = some y := by
          rw [ht.sessions, List.getElem?_set_self (List.getElem?_eq_some_iff.mp ht.session).1]
        refine Or.inr ?_
        rcases hlive with hpc | hpc
        · -- its client connects, and the loop runs out of reach
          have hrun : step (cancelPairing s ws connID) (.client n true) =
              some ((cancelPairing s ws connID).setPc n y .running) := by
            simp only [step, hself, Option.bind_some, client, hpc]
            rfl
          refine ⟨[.client n true], _, .cons hrun (.nil _), Or.inl fun hshown => ?_⟩
          have hrunning : ((cancelPairing s ws connID).setPc n y .running).sessions[n]? =
              some { y with pc := .running } := List.getElem?_set_self (List.getElem?_eq_some_iff.mp hself).1
          exact nomatch hgone.symm.trans ((hshown n _ hrunning rfl hown).1 _ hkey)
        · refine ⟨[], _, .nil _, Or.inl fun hshown => ?_⟩
          exact nomatch hgone.symm.trans ((hshown n y hself hpc hown).1 _ hkey)
      · refine Or.inl fun hu => (hu.foreign ws rfl n x ht.session hws).1 (Or.inl ⟨_, (lookup_some hl).1, fun hk => ?_⟩)
        exact nomatch hgone.symm.trans hk
    · exact absurd ⟨fun m y hm => absurd (hc.symm.trans hm) (by simp), fun m y hm => absurd (hl.symm.trans hm) (by simp)⟩ ha
  | cancelPairingByPhone ws phone =>
    cases hstep
    simp only [Apart, not_forall] at ha
    obtain ⟨hp, n, x, hl, hws⟩ := ha
    have ht : Touched s n x _ (dropPhone s ws phone) := dropPhone_touched h hl
    have heq : cancelPairingByPhone s ws phone = dropPhone s ws phone := if_neg hp
    rw [heq]
    exact ht.disturbs rfl hws

/-- **Pairing sessions do not disturb each other** in any run whose steps are all `Apart`; a step after such a run that
is not `Apart` disturbs a session, at once or later. -/
theorem pairing_undisturbed (s : St) (hs : (sys.restrict Apart).Reachable s) :
    Shown s ∧ ∀ l s', sys.step s l s' → (Apart s l → Undisturbed s l s') ∧ (¬ Apart s l → Disturbs s l s') := by
  have hinv : Inv s := by
    have hind : (sys.restrict Apart).Inductive Inv := by
      refine LTS.Inductive.of_restrict ?_ fun s l s' h ha hstep => inv_step h ha hstep
      rintro s rfl
      exact inv_init
    exact hind.reachable hs
  refine ⟨fun n x hx hpc ho => hinv.shown n x hx (Or.inr hpc) ho, fun l s' hstep => ?_⟩
  exact ⟨fun ha => undisturbed_step hinv ha hstep, fun ha => disturbs_step hinv ha hstep⟩

/-! ## One phone -/

def pairs (ws : UUID) (phone : String) (connID : UUID) (i : Nat) : List Lbl := [.start ws phone connID, .client i true]

theorem undisturbed_first : ∃ s, LTS.exec step init (pairs 10 "a" 1 0) = some s ∧
    s.sessions = [⟨"a", 10, 1, [], .running⟩] ∧ Shown s ∧
    ∀ l s', sys.step s l s' → Apart s l → Undisturbed s l s' := by
  have hrun : (LTS.exec step init (pairs 10 "a" 1 0)).any fun s => s.sessions = [⟨"a", 10, 1, [], .running⟩] := by
    decide +kernel
  obtain ⟨s, hs, h⟩ := (Option.any_eq_true _ _).mp hrun
  have hguard : LTS.Guarded step Apart init (pairs 10 "a" 1 0) := by
    refine ⟨fun n x hx => ?_, fun _ _ => ⟨trivial, fun _ _ => trivial⟩⟩
    simp [init] at hx
  obtain ⟨hshown, hstep⟩ := pairing_undisturbed s (LTS.exec_restrict_reachable hs hguard)
  exact ⟨s, hs, of_decide_eq_true h, hshown, fun l s' hl => (hstep l s' hl).1⟩

/-- Another workspace pairs the phone: the running session is cancelled and hidden. Or its own workspace pairs it anew:
the cleanup of the replaced session hides the new one. -/
theorem pairing_overlap :
    (∃ s s', LTS.exec step init (pairs 10 "a" 1 0) = some s ∧ step s (.start 20 "a" 2) = some s' ∧
      ¬ Undisturbed s (.start 20 "a" 2) s' ∧ ¬ Shown s') ∧
    ∃ s, LTS.exec step init (pairs 10 "a" 1 0 ++ pairs 10 "a" 2 1 ++ [Lbl.loopEnd 0 .cancelled, .cleanup 0]) = some s ∧
      ¬ Shown s := by
  have hhidden : ∀ {s : St} {n : Nat} {x : PairingSession}, s.sessions[n]? = some x → x.pc = .running → ¬ Own x →
      x.phone ≠ "" → s.pairingSessions x.phone ≠ some n → ¬ Shown s := by
    intro s n x hx hpc ho hp hne hshown
    exact hne ((hshown n x hx hpc ho).1 _ (mem_keysOf.mpr (Or.inr ⟨hp, rfl⟩)))
  constructor
  · have hrun : (LTS.exec step init (pairs 10 "a" 1 0)).any fun s =>
        s.sessions = [⟨"a", 10, 1, [], .running⟩] && (step s (.start 20 "a" 2)).any fun s' =>
          s'.sessions[0]? = some ⟨"a", 10, 1, [20], .running⟩ && s'.pairingSessions "a" = some 1 := by
      decide +kernel
    obtain ⟨s, hs, h⟩ := (Option.any_eq_true _ _).mp hrun
    obtain ⟨hsess, h⟩ := Bool.and_eq_true_iff.mp h
    obtain ⟨s', hs', h⟩ := (Option.any_eq_true _ _).mp h
    obtain ⟨hx, hk⟩ := Bool.and_eq_true_iff.mp h
    have hsess := of_decide_eq_true hsess
    have hx := of_decide_eq_true hx
    have hk := of_decide_eq_true hk
    refine ⟨s, s', hs, hs', fun hu => ?_, ?_⟩
    · have hsame := (hu.foreign 20 rfl 0 ⟨"a", 10, 1, [], .running⟩ (by rw [hsess]; rfl) (by decide)).2 _ hx
      cases hsame
    · refine hhidden hx rfl (by decide) (by decide) ?_
      rw [hk]
      decide
  · have hrun : (LTS.exec step init
        (pairs 10 "a" 1 0 ++ pairs 10 "a" 2 1 ++ [Lbl.loopEnd 0 .cancelled, .cleanup 0])).any fun s =>
          s.sessions[1]? = some ⟨"a", 10, 2, [], .running⟩ && s.pairingSessions "a" = none := by
      decide +kernel
    obtain ⟨s, hs, h⟩ := (Option.any_eq_true _ _).mp hrun
    obtain ⟨hx, hk⟩ := Bool.and_eq_true_iff.mp h
    refine ⟨s, hs, hhidden (of_decide_eq_true hx) rfl (by decide) (by decide) ?_⟩
    rw [of_decide_eq_true hk]
    decide

end PerGo.L4.PairingOverlap
