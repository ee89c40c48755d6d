import Mathlib.Tactic.Linarith
import PerGo.Core.LTS
import PerGo.Core.Pool
import PerGo.L4App.TemplateGate

/-!
# Requests with an idempotency key

Any number of `POST /messages` requests, each in its own thread: the lookup, then
`CheckAndStore`, `Ingest` and `UpdateResponse`, which interleave with those of the other
requests and with `CleanupExpired`. The clock does not go back; every statement may fail.

* `AtMostOne`: of two requests of one key that `Ingest` accepted, the second is not within
  24 hours of the start of the first.
* `Replayed`: a request that starts after an accepted one has completed, and within
  24 hours of its start, gets its response.
* `Alone`: `CheckAndStore` finds no row, `UpdateResponse` finds the row that the request's
  own `CheckAndStore` inserted or none, and the statements succeed.
* `key_used_once`: in runs of such steps both hold.

The handler does not look at what `CheckAndStore` returns, so requests that overlap are
all ingested, and a row that has expired is never written anew, so that its key protects
nothing until the row is deleted (`key_ingested_twice`).
-/
namespace PerGo.L4.HttpIdempotency

open PerGo.Core PerGo.L1 PerGo.L2 PerGo.L3 PerGo.L3.Recorder PerGo.L3.Outbound

def window : Time := 24 * hour

/-- Where a request is: `a` is the time of its `CheckAndStore`, `b` that of its `Ingest`. -/
inductive Phase
  | looked
  | stored (a : Time)
  | ingested (a b : Time) (resp : CreateMessageResponse)
  /-- the response is recorded and sent -/
  | accepted (a b : Time) (resp : CreateMessageResponse)
  | refused (a : Time) (err : IngestError)
  | served (code : Nat) (body : Option CreateMessageResponse)
deriving DecidableEq

def Phase.storedAt : Phase → Option Time
  | .stored a | .ingested a _ _ | .accepted a _ _ | .refused a _ => some a
  | .looked | .served .. => none

def Phase.ingestedAt : Phase → Option Time
  | .ingested _ b _ | .accepted _ b _ => some b
  | _ => none

def Phase.response : Phase → Option CreateMessageResponse
  | .accepted _ _ resp => some resp
  | _ => none

structure Req where
  key : IdemKey
  trace : String
  req : CreateMessageRequest
  start : Time
  /-- the starts and the responses of the key's accepted requests that had completed when this one started -/
  before : List (Time × CreateMessageResponse)
  phase : Phase

structure St where
  now : Time
  table : IdemTable
  chats : ChatDB
  reqs : List Req

/-- No request yet, and a table with a past. -/
def init (now : Time) (table : IdemTable) (chats : ChatDB) : St := ⟨now, table, chats, []⟩

/-- `ok`: the statement does not fail. -/
inductive Lbl
  | lookup (ws : UUID) (trace header body : String) (req : CreateMessageRequest) (t : Time) (ok : Bool)
  | checkAndStore (k : Nat) (t : Time) (ok : Bool)
  | ingest (k : Nat) (p : Processor) (env : IngestEnv) (msgID : UUID) (t : Time)
  | updateResponse (k : Nat) (t : Time) (ok : Bool)
  | cleanupExpired (t : Time)

def Lbl.time : Lbl → Time
  | .lookup _ _ _ _ _ t _ | .checkAndStore _ t _ | .ingest _ _ _ _ t | .updateResponse _ t _ | .cleanupExpired t => t

/-- The accepted requests of a key that have completed. -/
def completed (s : St) (key : IdemKey) : List (Time × CreateMessageResponse) :=
  s.reqs.filterMap fun f => if f.key = key then f.phase.response.map fun resp => (f.start, resp) else none

section System

variable (sha256 : String → String)

/-- The request after its lookup. mirrors handler/message.go:297-302 -/
def arrive (s : St) (ws : UUID) (trace header body : String) (req : CreateMessageRequest) (t : Time) (ok : Bool) :
    Req :=
  let key := (ws, hashIdempotencyKey sha256 header body)
  { key := key, trace := trace, req := req, start := t, before := completed s key,
    phase := match cachedResponse s.table key t ok with
      | some (code, body) => .served code body
      | none => .looked }

/-- What a step does at its time. The lookup is made for a workspace only. -/
def act (s : St) : Lbl → Option St
  | .lookup ws trace header body req t ok =>
    if ws = UUID.Nil then none
    else some { s with now := t, reqs := s.reqs ++ [arrive sha256 s ws trace header body req t ok] }
  | .checkAndStore k t ok =>
    match s.reqs[k]? with
    | some ⟨key, trace, req, start, before, .looked⟩ =>
      some { s with
        now := t, table := storeKey s.table key trace t ok,
        reqs := s.reqs.set k ⟨key, trace, req, start, before, .stored t⟩ }
    | _ => none
  | .ingest k p env msgID t =>
    match s.reqs[k]? with
    | some ⟨key, trace, req, start, before, .stored a⟩ =>
      match Outbound.ingest p env s.chats key.1 trace (withSenderType req) with
      | .ok (q, chats) =>
        some { s with
          now := t, chats := chats,
          reqs := s.reqs.set k ⟨key, trace, req, start, before, .ingested a t (acceptedResponse msgID q)⟩ }
      | .error e =>
        some { s with now := t, reqs := s.reqs.set k ⟨key, trace, req, start, before, .refused a e⟩ }
    | _ => none
  | .updateResponse k t ok =>
    match s.reqs[k]? with
    | some ⟨key, trace, req, start, before, .ingested a b resp⟩ =>
      some { s with
        now := t, table := recordIdempotencyCompletion s.table key resp ok,
        reqs := s.reqs.set k ⟨key, trace, req, start, before, .accepted a b resp⟩ }
    | _ => none
  | .cleanupExpired t => some { s with now := t, table := s.table.cleanupExpired t }

/-- The clock does not go back. -/
def step (s : St) (l : Lbl) : Option St := if s.now ≤ l.time then act sha256 s l else none

def sys (now : Time) (table : IdemTable) (chats : ChatDB) : LTS St Lbl := LTS.ofFn (init now table chats) (step sha256)

end System

/-- A request that starts no earlier than an accepted one of its key and is accepted after it, is accepted 24 hours
after its start. -/
def AtMostOne (s : St) : Prop :=
  ∀ (i j : Nat) (f g : Req), i ≠ j → s.reqs[i]? = some f → s.reqs[j]? = some g → f.key = g.key →
    ∀ b c, f.phase.ingestedAt = some b → g.phase.ingestedAt = some c → b ≤ c → f.start ≤ g.start →
      f.start + window ≤ c

/-- A request that starts within 24 hours of the start of one that has completed, gets its response. -/
def Replayed (s : St) : Prop :=
  ∀ g ∈ s.reqs, ∀ d ∈ g.before, g.start < d.1 + window → g.phase = .served 202 (some d.2)

/-- The statements succeed, a request that is not served reserves the key, and its response goes to no row but the
one it inserted. -/
def Alone (s : St) : Lbl → Prop
  | .lookup _ _ _ _ _ _ ok => ok = true
  | .checkAndStore k _ ok => ok = true ∧ ∀ f ∈ s.reqs[k]?, s.table f.key = none
  | .updateResponse k _ ok =>
    ok = true ∧ ∀ f ∈ s.reqs[k]?, ∀ a ∈ f.phase.storedAt, ∀ row ∈ s.table f.key, row.expiresAt = a + window
  | _ => True

instance (s : St) : (l : Lbl) → Decidable (Alone s l)
  | .lookup _ _ _ _ _ _ ok => inferInstanceAs (Decidable (ok = true))
  | .checkAndStore k _ ok => inferInstanceAs (Decidable (ok = true ∧ ∀ f ∈ s.reqs[k]?, s.table f.key = none))
  | .updateResponse k _ ok => inferInstanceAs (Decidable (ok = true ∧ ∀ f ∈ s.reqs[k]?, _))
  | .ingest .. | .cleanupExpired .. => isTrue trivial

/-! ## The invariant -/

/-- Two requests of one key reserved it 24 hours apart. -/
def Apart (f g : Req) : Prop :=
  f.key = g.key → ∀ a b, f.phase.storedAt = some a → g.phase.storedAt = some b → a + window ≤ b ∨ b + window ≤ a

structure ReqInv (now : Time) (table : IdemTable) (f : Req) : Prop where
  started : f.start ≤ now
  /-- the row of a reservation stays until it expires -/
  own : ∀ a, f.phase.storedAt = some a → now < a + window → ∃ row, table f.key = some row ∧ row.expiresAt = a + window
  /-- and has the response of a request that has completed -/
  response : ∀ a resp, f.phase.storedAt = some a → f.phase.response = some resp → now < a + window →
    ∃ row, table f.key = some row ∧ row.expiresAt = a + window ∧ row.statusCode = some 202 ∧ row.responseBody = some resp
  order : ∀ a, f.phase.storedAt = some a → f.start ≤ a ∧ a ≤ now
  ingested : ∀ b, f.phase.ingestedAt = some b → b ≤ now ∧ ∃ a, f.phase.storedAt = some a ∧ a ≤ b
  completed : ∀ resp, f.phase.response = some resp → ∃ a, f.phase.storedAt = some a
  served : ∀ d ∈ f.before, f.start < d.1 + window → f.phase = .served 202 (some d.2)

structure Inv (s : St) : Prop where
  each : ∀ f ∈ s.reqs, ReqInv s.now s.table f
  apart : ∀ (i j : Nat) (f g : Req), i ≠ j → s.reqs[i]? = some f → s.reqs[j]? = some g → Apart f g

theorem Apart.symm {f g : Req} (h : Apart f g) : Apart g f := by
  intro hk a b ha hb
  exact (h hk.symm b a hb ha).symm

theorem apart_of_none {f g : Req} (h : f.phase.storedAt = none) : Apart f g := by
  intro _ a b ha _
  rw [h] at ha
  cases ha

theorem atMostOne_of_inv {s : St} (h : Inv s) : AtMostOne s := by
  intro i j f g hij hf hg hk b c hb hc hbc hfg
  obtain ⟨-, a, ha, hab⟩ := (h.each f (List.mem_of_getElem? hf)).ingested b hb
  obtain ⟨-, a', ha', hac⟩ := (h.each g (List.mem_of_getElem? hg)).ingested c hc
  have hfa := ((h.each f (List.mem_of_getElem? hf)).order a ha).1
  have hga := ((h.each g (List.mem_of_getElem? hg)).order a' ha').1
  rcases h.apart i j f g hij hf hg hk a a' ha ha' with hd | hd
  · linarith
  · linarith

theorem replayed_of_inv {s : St} (h : Inv s) : Replayed s := fun g hg => (h.each g hg).served

/-! ### One step -/

theorem ReqInv.mono {now now' : Time} {table table' : IdemTable} {f : Req} (h : ReqInv now table f)
    (hnow : now ≤ now')
    (hrow : ∀ row a, f.phase.storedAt = some a → now' < a + window → table f.key = some row →
      row.expiresAt = a + window → table' f.key = some row) : ReqInv now' table' f where
  started := Int.le_trans h.started hnow
  own a ha ht := by
    obtain ⟨row, hr, he⟩ := h.own a ha (Int.lt_of_le_of_lt hnow ht)
    exact ⟨row, hrow row a ha ht hr he, he⟩
  response a resp ha hresp ht := by
    obtain ⟨row, hr, he, hc⟩ := h.response a resp ha hresp (Int.lt_of_le_of_lt hnow ht)
    exact ⟨row, hrow row a ha ht hr he, he, hc⟩
  order a ha := by
    obtain ⟨hsa, han⟩ := h.order a ha
    exact ⟨hsa, Int.le_trans han hnow⟩
  ingested b hb := by
    obtain ⟨hbn, ha⟩ := h.ingested b hb
    exact ⟨Int.le_trans hbn hnow, ha⟩
  completed := h.completed
  served := h.served

theorem inv_append {s : St} {now : Time} {f : Req} (h : Inv s) (hnow : s.now ≤ now) (hf : ReqInv now s.table f)
    (hnone : f.phase.storedAt = none) : Inv { s with now := now, reqs := s.reqs ++ [f] } where
  each g hg := by
    rcases List.mem_append.mp hg with hg | hg
    · exact (h.each g hg).mono hnow fun row a _ _ hr _ => hr
    · rw [List.mem_singleton.mp hg]
      exact hf
  apart i j g g' hij hg hg' := by
    have hcases : ∀ (n : Nat) (x : Req), (s.reqs ++ [f])[n]? = some x → s.reqs[n]? = some x ∨ x = f := by
      intro n x hx
      rcases Nat.lt_or_ge n s.reqs.length with hn | hn
      · rw [List.getElem?_append_left hn] at hx
        exact Or.inl hx
      · rw [List.getElem?_append_right hn] at hx
        exact Or.inr (List.mem_singleton.mp (List.mem_of_getElem? hx))
    rcases hcases i g hg with hg | rfl
    · rcases hcases j g' hg' with hg' | rfl
      · exact h.apart i j g g' hij hg hg'
      · exact (apart_of_none hnone).symm
    · exact apart_of_none hnone

theorem inv_set {s : St} {now : Time} {table : IdemTable} {chats : ChatDB} {k : Nat} {f f' : Req} (h : Inv s)
    (hk : s.reqs[k]? = some f) (hf : ReqInv now table f')
    (hothers : ∀ i g, i ≠ k → s.reqs[i]? = some g → ReqInv now table g ∧ Apart g f') :
    Inv ⟨now, table, chats, s.reqs.set k f'⟩ where
  each g hg := by
    obtain ⟨i, hi⟩ := List.getElem?_of_mem hg
    by_cases hik : i = k
    · subst hik
      rw [List.getElem?_set_self' , hk] at hi
      cases hi
      exact hf
    · rw [List.getElem?_set_ne (Ne.symm hik)] at hi
      exact (hothers i g hik hi).1
  apart i j g g' hij hg hg' := by
    have hcases : ∀ (n : Nat) (x : Req), (s.reqs.set k f')[n]? = some x → n = k ∧ x = f' ∨ n ≠ k ∧ s.reqs[n]? = some x := by
      intro n x hx
      by_cases hn : n = k
      · subst hn
        rw [List.getElem?_set_self', hk] at hx
        cases hx
        exact Or.inl ⟨rfl, rfl⟩
      · rw [List.getElem?_set_ne (Ne.symm hn)] at hx
        exact Or.inr ⟨hn, hx⟩
    rcases hcases i g hg with ⟨hi, rfl⟩ | ⟨hi, hgi⟩
    · rcases hcases j g' hg' with ⟨hj, -⟩ | ⟨hj, hgj⟩
      · exact absurd (hi.trans hj.symm) hij
      · exact (hothers j g' hj hgj).2.symm
    · rcases hcases j g' hg' with ⟨hj, rfl⟩ | ⟨hj, hgj⟩
      · exact (hothers i g hi hgi).2
      · exact h.apart i j g g' hij hgi hgj

theorem mem_completed {s : St} {key : IdemKey} {d : Time × CreateMessageResponse} (h : d ∈ completed s key) :
    ∃ f ∈ s.reqs, f.key = key ∧ f.start = d.1 ∧ f.phase.response = some d.2 := by
  obtain ⟨f, hf, hfd⟩ := List.mem_filterMap.mp h
  split at hfd
  · rename_i hk
    obtain ⟨resp, hresp, rfl⟩ := Option.map_eq_some_iff.mp hfd
    exact ⟨f, hf, hk, rfl, hresp⟩
  · cases hfd

/-- An accepted request answers for its key until 24 hours after its start. -/
theorem cached_of_completed {s : St} (h : Inv s) {key : IdemKey} {t : Time} (hnow : s.now ≤ t)
    {d : Time × CreateMessageResponse} (hd : d ∈ completed s key) (ht : t < d.1 + window) :
    cachedResponse s.table key t true = some (202, some d.2) := by
  obtain ⟨f, hf, hk, hstart, hresp⟩ := mem_completed hd
  obtain ⟨a, ha⟩ := (h.each f hf).completed d.2 hresp
  have hsa : d.1 ≤ a := hstart ▸ ((h.each f hf).order a ha).1
  have hta : t < a + window := by linarith
  obtain ⟨row, hr, he, hcode, hbody⟩ := (h.each f hf).response a d.2 ha hresp (Int.lt_of_le_of_lt hnow hta)
  rw [hk] at hr
  rw [cachedResponse_of_lt hr (he ▸ hta) hcode, hbody]

section Steps

variable {sha256 : String → String} {s s' : St}

theorem inv_lookup {ws : UUID} {trace header body : String} {req : CreateMessageRequest} {t : Time} (h : Inv s)
    (hnow : s.now ≤ t) :
    Inv { s with now := t, reqs := s.reqs ++ [arrive sha256 s ws trace header body req t true] } := by
  -- a request that has only looked has no reservation
  have hnone : (arrive sha256 s ws trace header body req t true).phase.storedAt = none ∧
      (arrive sha256 s ws trace header body req t true).phase.ingestedAt = none ∧
      (arrive sha256 s ws trace header body req t true).phase.response = none := by
    simp only [arrive]
    split <;> exact ⟨rfl, rfl, rfl⟩
  refine inv_append h hnow ?_ hnone.1
  constructor
  · exact Int.le_refl t
  · intro a ha
    rw [hnone.1] at ha
    cases ha
  · intro a resp ha
    rw [hnone.1] at ha
    cases ha
  · intro a ha
    rw [hnone.1] at ha
    cases ha
  · intro b hb
    rw [hnone.2.1] at hb
    cases hb
  · intro resp hresp
    rw [hnone.2.2] at hresp
    cases hresp
  · intro d hd ht
    simp only [arrive]
    rw [cached_of_completed h hnow hd ht]

theorem inv_checkAndStore {k : Nat} {key : IdemKey} {trace : String} {req : CreateMessageRequest} {start t : Time}
    {before : List (Time × CreateMessageResponse)} (h : Inv s) (hnow : s.now ≤ t)
    (hk : s.reqs[k]? = some ⟨key, trace, req, start, before, .looked⟩) (hrow : s.table key = none) :
    Inv { s with
      now := t, table := storeKey s.table key trace t true,
      reqs := s.reqs.set k ⟨key, trace, req, start, before, .stored t⟩ } := by
  have hlooked := h.each _ (List.mem_of_getElem? hk)
  rw [storeKey_of_none hrow]
  refine inv_set h hk ?_ fun i g hik hg => ⟨?_, ?_⟩
  · constructor
    · exact Int.le_trans hlooked.started hnow
    · intro a ha _
      cases ha
      exact ⟨_, IdemTable.set_self .., rfl⟩
    · intro a resp _ hresp
      cases hresp
    · intro a ha
      cases ha
      exact ⟨Int.le_trans hlooked.started hnow, Int.le_refl t⟩
    · intro b hb
      cases hb
    · intro resp hresp
      cases hresp
    · intro d hd ht
      cases hlooked.served d hd ht
  · refine (h.each g (List.mem_of_getElem? hg)).mono hnow fun row a _ _ hr _ => ?_
    rw [IdemTable.set_of_ne, hr]
    intro he
    rw [he, hrow] at hr
    cases hr
  · -- an earlier reservation has expired, or its row would still be there
    intro hkey a b ha hb
    cases hb
    refine Or.inl (Int.not_lt.mp fun hlt => ?_)
    obtain ⟨row, hr, -⟩ := (h.each g (List.mem_of_getElem? hg)).own a ha (Int.lt_of_le_of_lt hnow hlt)
    rw [show g.key = key from hkey, hrow] at hr
    cases hr

/-- `Ingest` leaves the table as it is; the request keeps its reservation and has no response yet. -/
theorem inv_ingest {k : Nat} {f f' : Req} {t : Time} {chats : ChatDB} (h : Inv s) (hnow : s.now ≤ t)
    (hk : s.reqs[k]? = some f) (hkey : f'.key = f.key) (hstart : f'.start = f.start) (hbefore : f'.before = f.before)
    {a : Time} (hf : f.phase = .stored a) (ha : f'.phase.storedAt = some a) (hresp : f'.phase.response = none)
    (hin : ∀ b, f'.phase.ingestedAt = some b → b = t) :
    Inv ⟨t, s.table, chats, s.reqs.set k f'⟩ := by
  have hold := h.each f (List.mem_of_getElem? hk)
  have hfa : f.phase.storedAt = some a := by rw [hf]; rfl
  obtain ⟨hsa, han⟩ := hold.order a hfa
  refine inv_set h hk ?_ fun i g hik hg => ⟨?_, ?_⟩
  · constructor
    · rw [hstart]
      exact Int.le_trans hold.started hnow
    · intro a' ha' ht
      rw [hkey]
      exact hold.own a' (hfa.trans (ha.symm.trans ha')) (Int.lt_of_le_of_lt hnow ht)
    · intro a' resp _ hresp'
      rw [hresp] at hresp'
      cases hresp'
    · intro a' ha'
      rw [ha] at ha'
      cases ha'
      rw [hstart]
      exact ⟨hsa, Int.le_trans han hnow⟩
    · intro b hb
      rw [hin b hb]
      exact ⟨Int.le_refl t, a, ha, Int.le_trans han hnow⟩
    · intro resp hresp'
      rw [hresp] at hresp'
      cases hresp'
    · intro d hd ht
      rw [hbefore] at hd
      rw [hstart] at ht
      have := hold.served d hd ht
      rw [hf] at this
      cases this
  · exact (h.each g (List.mem_of_getElem? hg)).mono hnow fun row a' _ _ hr _ => hr
  · intro hk' a' b ha' hb
    rw [ha] at hb
    cases hb
    exact h.apart i k g f hik hg hk (hk'.trans hkey) a' a ha' hfa

theorem inv_updateResponse {k : Nat} {key : IdemKey} {trace : String} {req : CreateMessageRequest}
    {start t a b : Time} {before : List (Time × CreateMessageResponse)} {resp : CreateMessageResponse} (h : Inv s)
    (hnow : s.now ≤ t) (hk : s.reqs[k]? = some ⟨key, trace, req, start, before, .ingested a b resp⟩)
    (hrow : ∀ row, s.table key = some row → row.expiresAt = a + window) :
    Inv { s with
      now := t, table := recordIdempotencyCompletion s.table key resp true,
      reqs := s.reqs.set k ⟨key, trace, req, start, before, .accepted a b resp⟩ } := by
  have hold := h.each _ (List.mem_of_getElem? hk)
  obtain ⟨hsa, han⟩ := hold.order a rfl
  have hown : t < a + window → ∃ row, recordIdempotencyCompletion s.table key resp true key = some row ∧
      row.expiresAt = a + window ∧ row.statusCode = some 202 ∧ row.responseBody = some resp := by
    intro ht
    obtain ⟨row, hr, he⟩ := hold.own a rfl (Int.lt_of_le_of_lt hnow ht)
    rw [recordIdempotencyCompletion_of_some hr]
    exact ⟨_, IdemTable.set_self .., he, rfl, rfl⟩
  refine inv_set h hk ?_ fun i g hik hg => ⟨?_, ?_⟩
  · constructor
    · exact Int.le_trans hold.started hnow
    · intro a' ha' ht
      cases ha'
      obtain ⟨row, hr, he, -⟩ := hown ht
      exact ⟨row, hr, he⟩
    · intro a' resp' ha' hresp' ht
      cases ha'
      cases hresp'
      exact hown ht
    · intro a' ha'
      cases ha'
      exact ⟨hsa, Int.le_trans han hnow⟩
    · intro b' hb'
      obtain ⟨hbn, hab⟩ := hold.ingested b' hb'
      exact ⟨Int.le_trans hbn hnow, hab⟩
    · intro _ _
      exact ⟨a, rfl⟩
    · intro d hd ht
      cases hold.served d hd ht
  · refine (h.each g (List.mem_of_getElem? hg)).mono hnow fun row a' ha' _ hr he => ?_
    by_cases hgk : g.key = key
    · -- the row would be that of two reservations
      have hsame : a' = a := add_right_cancel (he.symm.trans (hrow row (hgk ▸ hr)))
      have hapart := h.apart i k g _ hik hg hk hgk a' a ha' rfl
      rw [hsame] at hapart
      exact absurd hapart (by simp [window, hour, minute, second])
    · simp only [recordIdempotencyCompletion, Bool.not_true, Bool.false_eq_true, if_false, IdemTable.updateResponse]
      rw [IdemTable.set_of_ne _ _ _ hgk, hr]
  · intro hkey a' b' ha' hb'
    exact h.apart i k g _ hik hg hk hkey a' b' ha' hb'

theorem inv_cleanupExpired {t : Time} (h : Inv s) (hnow : s.now ≤ t) :
    Inv { s with now := t, table := s.table.cleanupExpired t } where
  each g hg := (h.each g hg).mono hnow fun _ _ _ ht hr he => cleanupExpired_of_lt hr (he ▸ ht)
  apart := h.apart

theorem inv_step {l : Lbl} (h : Inv s) (hg : Alone s l) (hs : step sha256 s l = some s') : Inv s' := by
  unfold step at hs
  split at hs
  · rename_i hnow
    cases l with
    | lookup ws trace header body req t ok =>
      cases (show ok = true from hg)
      simp only [act] at hs
      split at hs
      · cases hs
      · cases hs
        exact inv_lookup h hnow
    | checkAndStore k t ok =>
      obtain ⟨hok, hrow⟩ := hg
      cases hok
      simp only [act] at hs
      split at hs
      · rename_i hk
        cases hs
        exact inv_checkAndStore h hnow hk (hrow _ hk)
      · cases hs
    | ingest k p env msgID t =>
      simp only [act] at hs
      split at hs
      · rename_i hk
        split at hs
        · cases hs
          exact inv_ingest h hnow hk rfl rfl rfl rfl rfl rfl fun _ hb => (Option.some.inj hb).symm
        · cases hs
          exact inv_ingest h hnow hk rfl rfl rfl rfl rfl rfl nofun
      · cases hs
    | updateResponse k t ok =>
      obtain ⟨hok, hrow⟩ := hg
      cases hok
      simp only [act] at hs
      split at hs
      · rename_i hk
        cases hs
        exact inv_updateResponse h hnow hk (hrow _ hk _ rfl)
      · cases hs
    | cleanupExpired t =>
      cases hs
      exact inv_cleanupExpired h hnow
  · cases hs

end Steps

theorem inv_init (now : Time) (table : IdemTable) (chats : ChatDB) : Inv (init now table chats) where
  each _ hf := absurd hf List.not_mem_nil
  apart _ _ _ _ _ hf _ := absurd (List.mem_of_getElem? hf) List.not_mem_nil

/-- From any table, also one with an expired row of the key: if every `CheckAndStore` inserts, at most one request of
a key is ingested in 24 hours, and those that follow get its response. -/
theorem key_used_once (sha256 : String → String) (now : Time) (table : IdemTable) (chats : ChatDB) :
    ∀ s, ((sys sha256 now table chats).restrict Alone).Reachable s → AtMostOne s ∧ Replayed s := by
  intro s hs
  have hinv : ((sys sha256 now table chats).restrict Alone).Inductive Inv := by
    refine LTS.Inductive.of_restrict ?_ fun s l s' hi hg hst => inv_step hi hg hst
    rintro s rfl
    exact inv_init now table chats
  exact ⟨atMostOne_of_inv (hinv.reachable hs), replayed_of_inv (hinv.reachable hs)⟩

/-! ## A request and its repetition -/

open PerGo.L4.TemplateGate

/-- A request sent with the key `k-1`. -/
def lookup (trace : String) (t : Time) : Lbl := .lookup 1 trace "k-1" "" (shopRequest "") t true

def ingestion (k : Nat) (msgID : UUID) (t : Time) : Lbl := .ingest k shopProcessor shopIngest msgID t

def whole (k : Nat) (trace : String) (msgID : UUID) (t : Time) : List Lbl :=
  [lookup trace t, .checkAndStore k t true, ingestion k msgID t, .updateResponse k t true]

def noRows : IdemTable := fun _ => none

def expiredRow : IdemTable := noRows.set (1, "k-1") (some ⟨"t-0", some 202, some ⟨899, "queued", 1⟩, 5⟩)

/-- The second request gets the response of the first. -/
def servedOnce (s : St) : Bool :=
  s.reqs.map (·.phase) = [.accepted 10 10 ⟨900, "queued", 10⟩, .served 202 (some ⟨900, "queued", 10⟩)]

theorem repetition_served :
    ∃ s, ((sys id 0 noRows (shopChats (some 20))).restrict Alone).Reachable s ∧ servedOnce s = true ∧
      AtMostOne s ∧ Replayed s := by
  have hrun : (LTS.exec (step id) (init 0 noRows (shopChats (some 20)))
      (whole 0 "t-1" 900 10 ++ [lookup "t-2" 12])).any servedOnce = true := by decide +kernel
  obtain ⟨s, hs, hserved⟩ := (Option.any_eq_true _ _).mp hrun
  have hguard : LTS.Guarded (step id) Alone (init 0 noRows (shopChats (some 20)))
      (whole 0 "t-1" 900 10 ++ [lookup "t-2" 12]) := by decide +kernel
  have hreach := LTS.exec_restrict_reachable hs hguard
  exact ⟨s, hreach, hserved, key_used_once _ _ _ _ s hreach⟩

/-- Both requests are ingested, less than 24 hours apart. -/
def ingestedTwice (s : St) : Bool :=
  s.reqs[0]?.any fun f => s.reqs[1]?.any fun g =>
    f.key = g.key && f.phase.ingestedAt = some 10 && g.phase.ingestedAt = some 12 && f.start = 10 && 10 ≤ g.start

theorem not_atMostOne {s : St} (h : ingestedTwice s = true) : ¬AtMostOne s := by
  obtain ⟨f, hf, h⟩ := (Option.any_eq_true _ _).mp h
  obtain ⟨g, hg, h⟩ := (Option.any_eq_true _ _).mp h
  simp only [Bool.and_eq_true, decide_eq_true_eq] at h
  obtain ⟨⟨⟨⟨hk, hb⟩, hc⟩, hsf⟩, hsg⟩ := h
  intro hone
  have hlate := hone 0 1 f g (by decide) hf hg hk 10 12 hb hc (by decide) (hsf ▸ hsg)
  rw [hsf] at hlate
  exact absurd hlate (by decide)

/-- The second request had to be served and is not. -/
def notReplayed (s : St) : Bool :=
  s.reqs[1]?.any fun g => g.before = [(10, ⟨900, "queued", 10⟩)] && g.start = 12 &&
    g.phase = .accepted 12 12 ⟨901, "queued", 10⟩

theorem not_replayed {s : St} (h : notReplayed s = true) : ¬Replayed s := by
  obtain ⟨g, hg, h⟩ := (Option.any_eq_true _ _).mp h
  simp only [Bool.and_eq_true, decide_eq_true_eq] at h
  obtain ⟨⟨hb, hs⟩, hp⟩ := h
  intro hr
  have hserved := hr g (List.mem_of_getElem? hg) (10, ⟨900, "queued", 10⟩) (by rw [hb]; simp) (by rw [hs]; decide)
  rw [hp] at hserved
  cases hserved

/-- Two requests that overlap are both ingested; and with an expired row of the key in the table, so are two requests
one after the other. -/
theorem key_ingested_twice :
    (∃ s, (sys id 0 noRows (shopChats (some 20))).Reachable s ∧ ¬AtMostOne s) ∧
      ∃ s, (sys id 9 expiredRow (shopChats (some 20))).Reachable s ∧ ¬AtMostOne s ∧ ¬Replayed s := by
  constructor
  · have hrun : (LTS.exec (step id) (init 0 noRows (shopChats (some 20)))
        [lookup "t-1" 10, lookup "t-2" 10, .checkAndStore 0 10 true, .checkAndStore 1 10 true, ingestion 0 900 10,
          ingestion 1 901 12]).any ingestedTwice = true := by decide +kernel
    obtain ⟨s, hs, htwice⟩ := (Option.any_eq_true _ _).mp hrun
    exact ⟨s, LTS.exec_reachable hs, not_atMostOne htwice⟩
  · have hrun : (LTS.exec (step id) (init 9 expiredRow (shopChats (some 20)))
        (whole 0 "t-1" 900 10 ++ whole 1 "t-2" 901 12)).any (fun s => ingestedTwice s && notReplayed s) = true := by
      decide +kernel
    obtain ⟨s, hs, h⟩ := (Option.any_eq_true _ _).mp hrun
    rw [Bool.and_eq_true] at h
    exact ⟨s, LTS.exec_reachable hs, not_atMostOne h.1, not_replayed h.2⟩

end PerGo.L4.HttpIdempotency
