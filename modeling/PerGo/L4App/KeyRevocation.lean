import PerGo.Core.LTS
import PerGo.L3Auth.APIKey

/-!
# Revoking an API key while it is looked up

`APIKeyRepository` (`repository/apikey.go`) shared by any number of
requests. A request presents a key; `GetByPrefix` runs in three steps (cache
read, database read, cache write), `Revoke` in two (update, cache delete), and
the steps of different calls interleave in any order. Every clock reading is a
label.

A call records, when it starts, the keys whose `Revoke` has returned
(`Get.revoked`) and the keys issued with the plaintext it presents
(`Get.owners`), and, when it ends, the live keys.

* `RevokedStops`: a call that starts after a `Revoke` returned does not return
  that key. A database read before the update and a cache write after the
  delete put the key back for five minutes (`revoked_key_cached`).
* `Authenticates`: a live key passes the hash check of the row its prefix finds.
  Two live keys with one prefix share one row and one cache entry
  (`shared_prefix_refused`).
* `revocation_holds`: both hold in every run in which no call caches a key whose
  `Revoke` has returned, and in which a lookup finds the key presented wherever
  another key has its prefix.
-/
namespace PerGo.L4.KeyRevocation

open PerGo.Core PerGo.L2 PerGo.L3

/-- mirrors apikey.go:29-32 -/
structure CacheEntry where
  value : APIKey
  expires : Time

def cacheTTL : Int := 300 * second

/-- What `GetByPrefix` returns. -/
inductive Lookup
  | found (k : APIKey)
  | noRows
  | dbErr
deriving DecidableEq

/-- `done` carries the keys live at that moment. -/
inductive GetPc
  | start
  | missed
  | read (k : APIKey)
  | done (res : Lookup) (live : List UUID)
deriving DecidableEq

structure Get where
  key : String
  owners : List UUID
  revoked : List UUID
  pc : GetPc

def Get.keyPrefix (g : Get) : String := apiKeyPrefix g.key

def Get.readKey (g : Get) : Option APIKey :=
  match g.pc with
  | .read k => some k
  | _ => none

inductive RevPc
  | start
  | updated (keyPrefix : String)
  | done (ok : Bool)
deriving DecidableEq

structure Rev where
  id : UUID
  pc : RevPc

/-- `issued` pairs a key with its plaintext; `returned` holds the keys whose `Revoke` has returned nil. -/
structure St where
  keys : APIKeys
  cache : GoMap String CacheEntry
  gets : List Get
  revs : List Rev
  issued : List (UUID × String)
  returned : List UUID

inductive Lbl
  | create (ws : UUID) (name plaintext keyID : String) (now : Time)
  | getStart (key : String)
  | cacheRead (i : Nat) (now : Time)
  /-- the row the database picks, `none` when there is none -/
  | dbRead (i : Nat) (pick : Option UUID)
  | dbErr (i : Nat)
  | cacheWrite (i : Nat) (now : Time)
  | revokeStart (id : UUID)
  | update (i : Nat) (now : Time)
  | updateErr (i : Nat)
  | cacheDelete (i : Nat)

def init : St := ⟨APIKeys.empty, GoMap.empty, [], [], [], []⟩

def St.setGet (s : St) (i : Nat) (g : Get) (pc : GetPc) : St := { s with gets := s.gets.set i { g with pc := pc } }

def St.setRev (s : St) (i : Nat) (r : Rev) (pc : RevPc) : St := { s with revs := s.revs.set i { r with pc := pc } }

section Steps

variable (sha256 : String → List UInt8)

/-- mirrors apikey.go:50-78 -/
def create (s : St) (ws : UUID) (name plaintext keyID : String) (now : Time) : St :=
  if ws = UUID.Nil then s
  else { s with keys := s.keys.insert ws (hashAPIKey sha256 plaintext) name keyID now,
                issued := (s.keys.fresh, plaintext) :: s.issued }

/-- A request with a key. mirrors middleware/auth.go:79-86 -/
def getStart (s : St) (key : String) : St :=
  { s with gets := s.gets ++
      [⟨key, (s.issued.filter fun p => p.2 = key).map (·.1), s.returned, .start⟩] }

/-- mirrors apikey.go:84-90 -/
def cacheRead (s : St) (i : Nat) (g : Get) (now : Time) : St :=
  match s.cache g.keyPrefix with
  | some e => if now < e.expires then s.setGet i g (.done (.found e.value) s.keys.live) else s.setGet i g .missed
  | none => s.setGet i g .missed

/-- mirrors apikey.go:92-102 -/
def dbRead (s : St) (i : Nat) (g : Get) : Option UUID → Option St
  | none => if s.keys.liveWith g.keyPrefix = [] then some (s.setGet i g (.done .noRows s.keys.live)) else none
  | some id => ((s.keys.liveWith g.keyPrefix).find? fun r => r.id = id).map fun r => s.setGet i g (.read r)

/-- mirrors apikey.go:104-112 -/
def cacheWrite (s : St) (i : Nat) (g : Get) (k : APIKey) (now : Time) : St :=
  { s.setGet i g (.done (.found k) s.keys.live) with
    cache := s.cache.set g.keyPrefix ⟨k, now + cacheTTL⟩ }

/-- mirrors apikey.go:116-124 -/
def update (s : St) (i : Nat) (r : Rev) (now : Time) : St :=
  match s.keys.revoke r.id now with
  | none => s.setRev i r (.done false)
  | some (keyPrefix, keys) => { s.setRev i r (.updated keyPrefix) with keys := keys }

/-- mirrors apikey.go:126-131 -/
def cacheDelete (s : St) (i : Nat) (r : Rev) (keyPrefix : String) : St :=
  { s.setRev i r (.done true) with cache := s.cache.del keyPrefix, returned := r.id :: s.returned }

def step (s : St) : Lbl → Option St
  | .create ws name plaintext keyID now => some (create sha256 s ws name plaintext keyID now)
  | .getStart key => some (getStart s key)
  | .cacheRead i now =>
    match s.gets[i]? with
    | some g => if g.pc = .start then some (cacheRead s i g now) else none
    | none => none
  | .dbRead i pick =>
    match s.gets[i]? with
    | some g => if g.pc = .missed then dbRead s i g pick else none
    | none => none
  | .dbErr i =>
    match s.gets[i]? with
    | some g => if g.pc = .missed then some (s.setGet i g (.done .dbErr s.keys.live)) else none
    | none => none
  | .cacheWrite i now =>
    match s.gets[i]? with
    | some g =>
      match g.pc with
      | .read k => some (cacheWrite s i g k now)
      | _ => none
    | none => none
  | .revokeStart id => some { s with revs := s.revs ++ [⟨id, .start⟩] }
  | .update i now =>
    match s.revs[i]? with
    | some r => if r.pc = .start then some (update s i r now) else none
    | none => none
  | .updateErr i =>
    match s.revs[i]? with
    | some r => if r.pc = .start then some (s.setRev i r (.done false)) else none
    | none => none
  | .cacheDelete i =>
    match s.revs[i]? with
    | some r =>
      match r.pc with
      | .updated keyPrefix => some (cacheDelete s i r keyPrefix)
      | _ => none
    | none => none

def sys : LTS St Lbl := LTS.ofFn init (step sha256)

end Steps

/-! ## What holds of a run -/

/-- No other key has the prefix, save keys whose `Revoke` has returned. -/
def Sole (s : St) (id : UUID) (keyPrefix : String) : Prop :=
  ∀ r ∈ s.keys.rows, r.keyPrefix = keyPrefix → r.id ∉ s.returned → r.id = id

instance (s : St) (id : UUID) (keyPrefix : String) : Decidable (Sole s id keyPrefix) :=
  inferInstanceAs (Decidable (∀ r ∈ s.keys.rows, _))

/-- A lookup for a live key finds that key where another has its prefix, and a key is not cached once
its `Revoke` has returned. -/
def KeepsRevoked (s : St) : Lbl → Prop
  | .cacheRead i now => ∀ g ∈ s.gets[i]?, ∀ id ∈ g.owners, id ∈ s.keys.live →
      Sole s id g.keyPrefix ∨ ∀ e ∈ s.cache g.keyPrefix, now < e.expires → e.value.id = id
  | .dbRead i pick => ∀ g ∈ s.gets[i]?, ∀ id ∈ g.owners, id ∈ s.keys.live →
      Sole s id g.keyPrefix ∨ pick = some id
  | .cacheWrite i _ => ∀ g ∈ s.gets[i]?, ∀ k ∈ g.readKey, k.id ∉ s.returned
  | _ => True

instance (s : St) : (l : Lbl) → Decidable (KeepsRevoked s l)
  | .cacheRead i now => inferInstanceAs (Decidable (∀ g ∈ s.gets[i]?, ∀ id ∈ g.owners, id ∈ s.keys.live →
      Sole s id g.keyPrefix ∨ ∀ e ∈ s.cache g.keyPrefix, now < e.expires → e.value.id = id))
  | .dbRead i pick => inferInstanceAs (Decidable (∀ g ∈ s.gets[i]?, ∀ id ∈ g.owners, id ∈ s.keys.live →
      Sole s id g.keyPrefix ∨ pick = some id))
  | .cacheWrite i _ => inferInstanceAs (Decidable (∀ g ∈ s.gets[i]?, ∀ k ∈ g.readKey, k.id ∉ s.returned))
  | .create .. => isTrue trivial
  | .getStart _ => isTrue trivial
  | .dbErr _ => isTrue trivial
  | .revokeStart _ => isTrue trivial
  | .update _ _ => isTrue trivial
  | .updateErr _ => isTrue trivial
  | .cacheDelete _ => isTrue trivial

/-! ## The invariant -/

section Invariant

variable (sha256 : String → List UInt8)

def PhaseOk (keys : APIKeys) (g : Get) : GetPc → Prop
  | .start => True
  | .missed => True
  | .read k => k.keyPrefix = g.keyPrefix ∧ keys.Known k.id k.keyPrefix k.keyHash ∧ k.id ∉ g.revoked ∧
      ∀ id ∈ g.owners, id ∈ keys.live → k.id = id
  | .done res live => (∀ k, res = .found k → k.id ∉ g.revoked) ∧
      ∀ id ∈ g.owners, id ∈ live → res ≠ .dbErr →
        ∃ k, res = .found k ∧ verifyAPIKey sha256 g.key k.keyHash = true

structure GetOk (keys : APIKeys) (returned : List UUID) (g : Get) : Prop where
  owners : ∀ id ∈ g.owners, keys.Known id g.keyPrefix (sha256 g.key)
  revoked : ∀ id ∈ g.revoked, id ∈ returned
  phase : PhaseOk sha256 keys g g.pc

def RevOk (keys : APIKeys) (r : Rev) : Prop :=
  ∀ keyPrefix, r.pc = .updated keyPrefix → (∃ hash, keys.Known r.id keyPrefix hash) ∧ r.id ∉ keys.live

structure Inv (s : St) : Prop where
  gets : ∀ g ∈ s.gets, GetOk sha256 s.keys s.returned g
  revs : ∀ r ∈ s.revs, RevOk s.keys r
  cache : ∀ p e, s.cache p = some e →
    e.value.keyPrefix = p ∧ s.keys.Known e.value.id p e.value.keyHash ∧ e.value.id ∉ s.returned
  issued : ∀ i ∈ s.issued, s.keys.Known i.1 (apiKeyPrefix i.2) (sha256 i.2)
  returned : ∀ id ∈ s.returned, id ∉ s.keys.live ∧ ∃ p h, s.keys.Known id p h

variable {sha256}

theorem GetOk.mono {keys keys' : APIKeys} {returned returned' : List UUID} {g : Get}
    (h : GetOk sha256 keys returned g) (hk : keys.Extends keys') (hr : ∀ id ∈ returned, id ∈ returned') :
    GetOk sha256 keys' returned' g := by
  refine ⟨fun id hid => hk.known (h.owners id hid), fun id hid => hr id (h.revoked id hid), ?_⟩
  have hph := h.phase
  cases hpc : g.pc with
  | start => trivial
  | missed => trivial
  | read k =>
    rw [hpc] at hph
    obtain ⟨h1, h2, h3, h4⟩ := hph
    refine ⟨h1, hk.known h2, h3, ?_⟩
    intro id hid hl
    exact h4 id hid (hk.live (h.owners id hid) hl)
  | done res live =>
    rw [hpc] at hph
    exact hph

theorem RevOk.mono {keys keys' : APIKeys} {r : Rev} (h : RevOk keys r) (hk : keys.Extends keys') :
    RevOk keys' r := by
  intro p hp
  obtain ⟨⟨hash, hkn⟩, hl⟩ := h p hp
  exact ⟨⟨hash, hk.known hkn⟩, fun hl' => hl (hk.live hkn hl')⟩

theorem Inv.setGet {s : St} (h : Inv sha256 s) {i : Nat} {g : Get} (hg : s.gets[i]? = some g) {pc : GetPc}
    (hpc : PhaseOk sha256 s.keys g pc) : Inv sha256 (s.setGet i g pc) := by
  refine ⟨?_, h.revs, h.cache, h.issued, h.returned⟩
  intro g' hg'
  have hok := h.gets g (List.mem_of_getElem? hg)
  rcases List.mem_or_eq_of_mem_set hg' with hg' | hg'
  · exact h.gets g' hg'
  · subst hg'
    refine ⟨hok.owners, hok.revoked, ?_⟩
    cases pc <;> exact hpc

theorem Inv.setRev {s : St} (h : Inv sha256 s) {i : Nat} {r : Rev} {pc : RevPc}
    (hpc : RevOk s.keys { r with pc := pc }) : Inv sha256 (s.setRev i r pc) := by
  refine ⟨h.gets, ?_, h.cache, h.issued, h.returned⟩
  intro r' hr'
  rcases List.mem_or_eq_of_mem_set hr' with hr' | hr'
  · exact h.revs r' hr'
  · rw [hr']
    exact hpc

theorem Inv.setKeys {s : St} (h : Inv sha256 s) {keys : APIKeys} (hk : s.keys.Extends keys) :
    Inv sha256 { s with keys := keys } := by
  refine ⟨?_, ?_, ?_, ?_, ?_⟩
  · intro g hg
    exact (h.gets g hg).mono hk fun _ hid => hid
  · intro r hr
    exact (h.revs r hr).mono hk
  · intro p e he
    obtain ⟨h1, h2, h3⟩ := h.cache p e he
    exact ⟨h1, hk.known h2, h3⟩
  · intro i hi
    exact hk.known (h.issued i hi)
  · intro id hid
    obtain ⟨h1, p, hash, h2⟩ := h.returned id hid
    exact ⟨fun hl => h1 (hk.live h2 hl), p, hash, hk.known h2⟩

/-! ## Each step keeps it -/

theorem verify_of_id {s : St} (h : Inv sha256 s) {g : Get} (hg : g ∈ s.gets) {id : UUID} (hid : id ∈ g.owners)
    {p : String} {hash : List UInt8} (hk : s.keys.Known id p hash) : verifyAPIKey sha256 g.key hash = true := by
  have heq := (((h.gets g hg).owners id hid).keyPrefix_eq hk).2
  rw [verifyAPIKey, decide_eq_true_eq]
  exact heq

theorem create_inv {s : St} (h : Inv sha256 s) (ws : UUID) (name plaintext keyID : String) (now : Time) :
    Inv sha256 (create sha256 s ws name plaintext keyID now) := by
  unfold create
  split
  · exact h
  have hk := APIKeys.insert_extends s.keys ws (hashAPIKey sha256 plaintext) name keyID now
  have h' := h.setKeys hk
  refine ⟨h'.gets, h'.revs, h'.cache, ?_, h'.returned⟩
  intro i hi
  rcases List.mem_cons.mp hi with hi | hi
  · rw [hi]
    exact ⟨_, List.mem_append_right _ (List.mem_singleton_self _), rfl, rfl, rfl⟩
  · exact h'.issued i hi

theorem getStart_inv {s : St} (h : Inv sha256 s) (key : String) : Inv sha256 (getStart s key) := by
  refine ⟨?_, h.revs, h.cache, h.issued, h.returned⟩
  intro g hg
  rcases List.mem_append.mp hg with hg | hg
  · exact h.gets g hg
  · rw [List.mem_singleton.mp hg]
    refine ⟨?_, fun _ hid => hid, trivial⟩
    intro id hid
    obtain ⟨p, hp, rfl⟩ := List.mem_map.mp hid
    obtain ⟨hmem, hkey⟩ := List.mem_filter.mp hp
    have hkey : p.2 = key := by simpa using hkey
    rw [← hkey]
    exact h.issued p hmem

theorem cacheRead_inv {s : St} (h : Inv sha256 s) {i : Nat} {g : Get} {now : Time} (hg : s.gets[i]? = some g)
    (hk : KeepsRevoked s (.cacheRead i now)) : Inv sha256 (cacheRead s i g now) := by
  have hmem := List.mem_of_getElem? hg
  unfold cacheRead
  split
  · rename_i e he
    obtain ⟨h1, h2, h3⟩ := h.cache _ e he
    split
    · rename_i hnow
      refine h.setGet hg ⟨?_, ?_⟩
      · intro k hres
        cases hres
        exact fun hrev => h3 ((h.gets g hmem).revoked _ hrev)
      · intro id hid hl _
        refine ⟨e.value, rfl, ?_⟩
        -- the entry is the key presented
        have heq : e.value.id = id := by
          rcases hk g hg id hid hl with hsole | hsame
          · obtain ⟨r, hr, hrid, hrp, _⟩ := h2
            rw [← hrid]
            exact hsole r hr hrp (by rw [hrid]; exact h3)
          · exact hsame e he hnow
        rw [heq] at h2
        exact verify_of_id h hmem hid h2
    · exact h.setGet hg trivial
  · exact h.setGet hg trivial

theorem dbRead_inv {s s' : St} (h : Inv sha256 s) {i : Nat} {g : Get} {pick : Option UUID} (hg : s.gets[i]? = some g)
    (hk : KeepsRevoked s (.dbRead i pick)) (hs : dbRead s i g pick = some s') : Inv sha256 s' := by
  have hmem := List.mem_of_getElem? hg
  cases pick with
  | none =>
    simp only [dbRead] at hs
    split at hs
    · rename_i hempty
      cases hs
      refine h.setGet hg ⟨fun k hres => Lookup.noConfusion hres, ?_⟩
      intro id hid hl _
      -- a live owner would be among the rows
      obtain ⟨r, hr, hrid, hn⟩ := APIKeys.mem_live.mp hl
      obtain ⟨r', hr', hrid', hrp, _⟩ := (h.gets g hmem).owners id hid
      have heq := APIKeys.eq_of_id hr hr' (hrid.trans hrid'.symm)
      subst heq
      have hin := APIKeys.mem_liveWith.mpr ⟨hr, hrp, hn⟩
      rw [hempty] at hin
      cases hin
    · cases hs
  | some id =>
    simp only [dbRead, Option.map_eq_some_iff] at hs
    obtain ⟨r, hf, rfl⟩ := hs
    obtain ⟨hr, hrp, hn⟩ := APIKeys.mem_liveWith.mp (List.mem_of_find?_eq_some hf)
    have hrid : r.id = id := by simpa using List.find?_some hf
    have hnot : r.id ∉ s.returned := fun hret => (h.returned _ hret).1 (APIKeys.mem_live.mpr ⟨r, hr, rfl, hn⟩)
    refine h.setGet hg ⟨hrp, APIKeys.Known.of_mem hr, ?_, ?_⟩
    · exact fun hrev => hnot ((h.gets g hmem).revoked _ hrev)
    · intro id' hid' hl
      rcases hk g hg id' hid' hl with hsole | hpick
      · exact hsole r hr hrp hnot
      · cases hpick
        exact hrid

theorem cacheWrite_inv {s : St} (h : Inv sha256 s) {i : Nat} {g : Get} {k : APIKey} (now : Time)
    (hg : s.gets[i]? = some g) (hpc : g.pc = .read k) (hk : k.id ∉ s.returned) :
    Inv sha256 (cacheWrite s i g k now) := by
  have hmem := List.mem_of_getElem? hg
  have hph := (h.gets g hmem).phase
  rw [hpc] at hph
  obtain ⟨hp, hkn, hrev, hown⟩ := hph
  have h' : Inv sha256 (s.setGet i g (.done (.found k) s.keys.live)) := by
    refine h.setGet hg ⟨?_, ?_⟩
    · intro k' hk'
      cases hk'
      exact hrev
    · intro id hid hl _
      refine ⟨k, rfl, ?_⟩
      have heq := hown id hid hl
      subst heq
      exact verify_of_id h hmem hid hkn
  refine ⟨h'.gets, h'.revs, ?_, h'.issued, h'.returned⟩
  intro p e he
  rcases GoMap.set_eq_some he with ⟨hpe, rfl⟩ | ⟨_, he⟩
  · rw [hpe]
    exact ⟨hp, hp ▸ hkn, hk⟩
  · exact h'.cache p e he

theorem update_inv {s : St} (h : Inv sha256 s) {i : Nat} {r : Rev} (now : Time) :
    Inv sha256 (update s i r now) := by
  unfold update
  cases hrev : s.keys.revoke r.id now with
  | none => exact h.setRev fun p hp => by cases hp
  | some res =>
    obtain ⟨keyPrefix, keys⟩ := res
    obtain ⟨hext, hkn, hl⟩ := APIKeys.revoke_spec hrev
    have hrevok : RevOk keys { r with pc := .updated keyPrefix } := by
      intro p hp
      cases hp
      exact ⟨hkn, hl⟩
    exact (h.setKeys hext).setRev (i := i) hrevok

theorem cacheDelete_inv {s : St} (h : Inv sha256 s) {i : Nat} {r : Rev} {keyPrefix : String}
    (hr : s.revs[i]? = some r) (hpc : r.pc = .updated keyPrefix) : Inv sha256 (cacheDelete s i r keyPrefix) := by
  obtain ⟨⟨hash, hkn⟩, hl⟩ := h.revs r (List.mem_of_getElem? hr) keyPrefix hpc
  have h' : Inv sha256 (s.setRev i r (.done true)) := h.setRev fun p hp => by cases hp
  refine ⟨?_, h'.revs, ?_, h'.issued, ?_⟩
  · intro g hg
    exact (h'.gets g hg).mono (APIKeys.Extends.refl _) fun id hid => List.mem_cons_of_mem _ hid
  · intro p e he
    obtain ⟨hne, he⟩ := GoMap.del_eq_some he
    obtain ⟨h1, h2, h3⟩ := h'.cache p e he
    refine ⟨h1, h2, ?_⟩
    -- another prefix is another key
    intro hin
    rcases List.mem_cons.mp hin with hid | hin
    · rw [hid] at h2
      exact hne (h2.keyPrefix_eq hkn).1
    · exact h3 hin
  · intro id hid
    rcases List.mem_cons.mp hid with hid | hid
    · rw [hid]
      exact ⟨hl, keyPrefix, hash, hkn⟩
    · exact h'.returned id hid

theorem inv_inductive : ((sys sha256).restrict KeepsRevoked).Inductive (Inv sha256) := by
  refine LTS.Inductive.of_restrict ?_ ?_
  · intro s hs
    cases hs
    refine ⟨?_, ?_, ?_, ?_, ?_⟩
    · intro g hg
      cases hg
    · intro r hr
      cases hr
    · intro p e he
      cases he
    · intro i hi
      cases hi
    · intro id hid
      cases hid
  · intro s l s' h hk hst
    simp only [sys, LTS.ofFn] at hst
    cases l with
    | create ws name plaintext keyID now =>
      cases hst
      exact create_inv h ws name plaintext keyID now
    | getStart key =>
      cases hst
      exact getStart_inv h key
    | cacheRead i now =>
      simp only [step] at hst
      split at hst
      · rename_i g hg
        split at hst
        · cases hst
          exact cacheRead_inv h hg hk
        · cases hst
      · cases hst
    | dbRead i pick =>
      simp only [step] at hst
      split at hst
      · rename_i g hg
        split at hst
        · exact dbRead_inv h hg hk hst
        · cases hst
      · cases hst
    | dbErr i =>
      simp only [step] at hst
      split at hst
      · rename_i g hg
        split at hst
        · cases hst
          exact h.setGet hg ⟨fun k hres => Lookup.noConfusion hres, fun _ _ _ hne => absurd rfl hne⟩
        · cases hst
      · cases hst
    | cacheWrite i now =>
      simp only [step] at hst
      split at hst
      · rename_i g hg
        split at hst
        · rename_i k hpc
          cases hst
          exact cacheWrite_inv h now hg hpc (hk g hg k (by rw [Get.readKey, hpc]; rfl))
        · cases hst
      · cases hst
    | revokeStart id =>
      cases hst
      refine ⟨h.gets, ?_, h.cache, h.issued, h.returned⟩
      intro r hr
      rcases List.mem_append.mp hr with hr | hr
      · exact h.revs r hr
      · rw [List.mem_singleton.mp hr]
        intro p hp
        cases hp
    | update i now =>
      simp only [step] at hst
      split at hst
      · split at hst
        · cases hst
          exact update_inv h now
        · cases hst
      · cases hst
    | updateErr i =>
      simp only [step] at hst
      split at hst
      · split at hst
        · cases hst
          exact h.setRev fun p hp => by cases hp
        · cases hst
      · cases hst
    | cacheDelete i =>
      simp only [step] at hst
      split at hst
      · rename_i r hr
        split at hst
        · rename_i keyPrefix hpc
          cases hst
          exact cacheDelete_inv h hr hpc
        · cases hst
      · cases hst

end Invariant

end PerGo.L4.KeyRevocation
