import PerGo.Core.LTS
import PerGo.L3Auth.OAuth

/-!
# The limits of codes and tokens

Runs of the OAuth manager: clients register, codes are authorized, exchanged
and refreshed, access tokens validated, at non-decreasing times and with fresh
random strings (a step that would draw a string again is not enabled). `log`
holds what was granted and what was accepted.

`Limits` collects what the flow promises: a code is exchanged once, within five
minutes, by its client, with the redirect URI and the verifier of its
authorization; an access token is accepted for its code's workspace only,
within an hour of its own issuance; and no token gives unscoped access.

Four of these depend on the caller (`limits_broken`): the client is not
compared, an empty redirect URI is not compared, a refresh extends the older
access tokens of its record, and a code for `uuid.Nil` makes a token without a
workspace. `oauth_limits` says that nothing else breaks them.
-/
namespace PerGo.L4.OAuthLimits

open PerGo.Core PerGo.L2 PerGo.L3

/-- What was granted or accepted, with its time. -/
inductive Ev
  | authorized (now : Time) (a : AuthCode)
  | exchanged (now : Time) (code verifier clientID redirectURI access refresh : String)
  | refreshed (now : Time) (refresh access : String)
  | validated (now : Time) (token : String) (ws : UUID)
deriving DecidableEq

structure St where
  m : OAuthManager
  now : Time
  log : List Ev

inductive Lbl
  | register (now : Time) (name : String) (redirectURIs : List String) (uuid secretHex : String)
  | authorize (now : Time) (clientID redirectURI codeChallenge codeChallengeMethod : String) (ws : UUID)
      (hex : String)
  | exchangeCode (now : Time) (code verifier clientID redirectURI atHex rtHex : String)
  | refresh (now : Time) (refreshToken atHex : String)
  | validate (now : Time) (token : String)

def init : St := ⟨OAuthManager.new, 0, []⟩

/-! ## The log -/

def authorizedCode : Ev → Option String
  | .authorized _ a => some a.code
  | _ => none

def exchangedCode : Ev → Option String
  | .exchanged _ code _ _ _ _ _ => some code
  | _ => none

def issuance : Ev → Option (String × Time)
  | .exchanged now _ _ _ _ access _ => some (access, now)
  | .refreshed now _ access => some (access, now)
  | _ => none

def grantedRefresh : Ev → Option String
  | .exchanged _ _ _ _ _ _ refresh => some refresh
  | _ => none

/-- The access tokens issued, with their times. -/
def issuances (log : List Ev) : List (String × Time) := log.filterMap issuance

section Steps

variable (challenge : String → String)

/-- The log with what a call granted. -/
def St.after (s : St) (now : Time) (m : OAuthManager) (granted : Option Ev) : St :=
  ⟨m, now, s.log ++ granted.toList⟩

/-- The log has the arguments of the call, and the code it answers. -/
def authorize (s : St) (now : Time) (clientID redirectURI codeChallenge codeChallengeMethod : String) (ws : UUID)
    (hex : String) : St :=
  let r := s.m.authorize now clientID redirectURI codeChallenge codeChallengeMethod ws hex
  s.after now r.1 (r.2.toOption.map fun a =>
    .authorized now ⟨a.code, clientID, redirectURI, codeChallenge, codeChallengeMethod, ws, a.expiresAt⟩)

/-- `ExchangeToken` with grant type `authorization_code`. -/
def exchangeCode (s : St) (now : Time) (code verifier clientID redirectURI atHex rtHex : String) : St :=
  let r := s.m.exchangeToken challenge now "authorization_code" code verifier clientID redirectURI "" atHex rtHex
  s.after now r.1 (r.2.toOption.map fun t =>
    .exchanged now code verifier clientID redirectURI t.accessToken t.refreshToken)

/-- `ExchangeToken` with grant type `refresh_token`. -/
def refresh (s : St) (now : Time) (refreshToken atHex : String) : St :=
  let r := s.m.exchangeToken challenge now "refresh_token" "" "" "" "" refreshToken atHex ""
  s.after now r.1 (r.2.toOption.map fun t => .refreshed now refreshToken t.accessToken)

def validate (s : St) (now : Time) (token : String) : St :=
  s.after now s.m ((s.m.validateAccessToken now token).map (.validated now token))

def step (s : St) : Lbl → Option St
  | .register now name redirectURIs uuid secretHex =>
    if s.now ≤ now then some (s.after now (s.m.registerClient now name redirectURIs uuid secretHex).1 none)
    else none
  | .authorize now clientID redirectURI codeChallenge codeChallengeMethod ws hex =>
    if s.now ≤ now ∧ "code_" ++ hex ∉ s.log.filterMap authorizedCode then
      some (authorize s now clientID redirectURI codeChallenge codeChallengeMethod ws hex)
    else none
  | .exchangeCode now code verifier clientID redirectURI atHex rtHex =>
    if s.now ≤ now ∧ "pergo_mcp_at_" ++ atHex ∉ (issuances s.log).map (·.1) ∧
        "pergo_mcp_rt_" ++ rtHex ∉ s.log.filterMap grantedRefresh then
      some (exchangeCode challenge s now code verifier clientID redirectURI atHex rtHex)
    else none
  | .refresh now refreshToken atHex =>
    if s.now ≤ now ∧ "pergo_mcp_at_" ++ atHex ∉ (issuances s.log).map (·.1) then
      some (refresh challenge s now refreshToken atHex)
    else none
  | .validate now token => if s.now ≤ now then some (validate s now token) else none

def sys : LTS St Lbl := LTS.ofFn init (step challenge)

end Steps

/-! ## What the flow promises -/

/-- The access token was issued at `t`, in an exchange of a code for `ws` or a refresh of such an exchange. -/
def IssuedFor (log : List Ev) (token : String) (ws : UUID) (t : Time) : Prop :=
  ∃ t₀ a now verifier clientID redirectURI access refresh, .authorized t₀ a ∈ log ∧ a.workspaceID = ws ∧
    .exchanged now a.code verifier clientID redirectURI access refresh ∈ log ∧
    ((token = access ∧ t = now) ∨ .refreshed t refresh token ∈ log)

/-- Random strings are fresh, so codes and tokens name one authorization and one issuance (the first two
fields). -/
structure Limits (challenge : String → String) (log : List Ev) : Prop where
  codes : (log.filterMap authorizedCode).Nodup
  tokens : ((issuances log).map (·.1)).Nodup
  once : (log.filterMap exchangedCode).Nodup
  exchange : ∀ {now code verifier clientID redirectURI access refresh},
    .exchanged now code verifier clientID redirectURI access refresh ∈ log →
    ∃ t a, .authorized t a ∈ log ∧ a.code = code ∧ now ≤ t + 5 * minute ∧ clientID = a.clientID ∧
      redirectURI = a.redirectURI ∧ challenge verifier = a.codeChallenge
  validated : ∀ {now token ws}, .validated now token ws ∈ log →
    ∃ t, IssuedFor log token ws t ∧ now ≤ t + hour
  confined : ∀ {now token ws}, .validated now token ws ∈ log → gatewayScope ws ≠ none

/-- The checks the manager leaves to its callers: no code for `uuid.Nil`; an exchange that the manager
would accept comes from the code's client with the code's redirect URI; a superseded access token is
presented only in its own hour. -/
def KeepsLimits (challenge : String → String) (s : St) : Lbl → Prop
  | .authorize _ _ _ _ _ ws _ => ws ≠ UUID.Nil
  | .exchangeCode now code verifier clientID redirectURI _ _ =>
    ∀ a ∈ s.m.codes code, now ≤ a.expiresAt → challenge verifier = a.codeChallenge →
      (a.redirectURI ≠ "" ∧ redirectURI ≠ "" ∧ a.redirectURI ≠ redirectURI) ∨
      (clientID = a.clientID ∧ redirectURI = a.redirectURI)
  | .validate now token =>
    ∀ tok ∈ s.m.recordOf token, now ≤ tok.expiresAt →
      token = tok.accessToken ∨ ∀ i ∈ issuances s.log, i.1 = token → now ≤ i.2 + hour
  | _ => True

instance (challenge : String → String) (s : St) : (l : Lbl) → Decidable (KeepsLimits challenge s l)
  | .authorize _ _ _ _ _ ws _ => inferInstanceAs (Decidable (ws ≠ UUID.Nil))
  | .exchangeCode now code verifier clientID redirectURI _ _ => inferInstanceAs (Decidable (
    ∀ a ∈ s.m.codes code, now ≤ a.expiresAt → challenge verifier = a.codeChallenge →
      (a.redirectURI ≠ "" ∧ redirectURI ≠ "" ∧ a.redirectURI ≠ redirectURI) ∨
      (clientID = a.clientID ∧ redirectURI = a.redirectURI)))
  | .validate now token => inferInstanceAs (Decidable (
    ∀ tok ∈ s.m.recordOf token, now ≤ tok.expiresAt →
      token = tok.accessToken ∨ ∀ i ∈ issuances s.log, i.1 = token → now ≤ i.2 + hour))
  | .register .. => isTrue trivial
  | .refresh .. => isTrue trivial

/-! ## The invariant -/

section Invariant

variable {challenge : String → String}

theorem IssuedFor.mono {log log' : List Ev} {token : String} {ws : UUID} {t : Time} (h : IssuedFor log token ws t)
    (hl : ∀ e ∈ log, e ∈ log') : IssuedFor log' token ws t := by
  obtain ⟨t₀, a, now, v, c, r, at_, rt, h1, h2, h3, h4⟩ := h
  exact ⟨t₀, a, now, v, c, r, at_, rt, hl _ h1, h2, hl _ h3, h4.imp id fun h => hl _ h⟩

/-- A refresh token granted in an exchange of a code for `ws`. -/
def GrantedFor (log : List Ev) (refreshToken : String) (ws : UUID) : Prop :=
  ∃ t₀ a now verifier clientID redirectURI access, .authorized t₀ a ∈ log ∧ a.workspaceID = ws ∧
    .exchanged now a.code verifier clientID redirectURI access refreshToken ∈ log

theorem GrantedFor.mono {log log' : List Ev} {rt : String} {ws : UUID} (h : GrantedFor log rt ws)
    (hl : ∀ e ∈ log, e ∈ log') : GrantedFor log' rt ws := by
  obtain ⟨t₀, a, now, v, c, r, at_, h1, h2, h3⟩ := h
  exact ⟨t₀, a, now, v, c, r, at_, hl _ h1, h2, hl _ h3⟩

def CodeOk (log : List Ev) (code : String) (a : AuthCode) : Prop :=
  a.code = code ∧ a.workspaceID ≠ UUID.Nil ∧ code ∉ log.filterMap exchangedCode ∧
  ∃ t, .authorized t a ∈ log ∧ a.expiresAt = t + 5 * minute

/-- An access token leads to a record of its workspace, and if it is the record's current one, the
record's expiry is its own. -/
def TokenOk (m : OAuthManager) (log : List Ev) (token : String) (p : Nat) : Prop :=
  ∃ tok, m.heap[p]? = some tok ∧ tok.workspaceID ≠ UUID.Nil ∧
    ∃ t, (token, t) ∈ issuances log ∧ IssuedFor log token tok.workspaceID t ∧
      (token = tok.accessToken → tok.expiresAt = t + hour)

def RefreshOk (m : OAuthManager) (log : List Ev) (refreshToken : String) (p : Nat) : Prop :=
  ∃ tok, m.heap[p]? = some tok ∧ tok.workspaceID ≠ UUID.Nil ∧ GrantedFor log refreshToken tok.workspaceID

structure Inv (challenge : String → String) (m : OAuthManager) (log : List Ev) : Prop where
  limits : Limits challenge log
  codes : ∀ code a, m.codes code = some a → CodeOk log code a
  exchanged : ∀ code ∈ log.filterMap exchangedCode, code ∈ log.filterMap authorizedCode
  tokens : ∀ token p, m.tokens token = some p → TokenOk m log token p
  refresh : ∀ token p, m.refresh token = some p → RefreshOk m log token p

/-! ## One event more -/

theorem filterMap_snoc {β : Type} (f : Ev → Option β) (log : List Ev) (e : Ev) :
    (log ++ [e]).filterMap f = log.filterMap f ++ (f e).toList := by
  rw [List.filterMap_append]
  cases h : f e with
  | none => simp [h]
  | some x => simp [h]

theorem nodup_filterMap_snoc {β : Type} {f : Ev → Option β} {log : List Ev} {e : Ev} (h : (log.filterMap f).Nodup)
    (hf : ∀ x ∈ f e, x ∉ log.filterMap f) : ((log ++ [e]).filterMap f).Nodup := by
  rw [filterMap_snoc]
  cases hx : f e with
  | none => simpa using h
  | some x =>
    rw [List.nodup_append]
    refine ⟨h, by simp, ?_⟩
    intro a ha b hb hab
    have hb : b = x := by simpa using hb
    exact hf x hx (hb ▸ hab ▸ ha)

theorem mem_snoc {log : List Ev} {e : Ev} : ∀ x ∈ log, x ∈ log ++ [e] := fun _ h => List.mem_append_left _ h

theorem mem_of_snoc {log : List Ev} {e x : Ev} (h : x ∈ log ++ [e]) : x ∈ log ∨ x = e := by
  simpa using h

theorem map_issuances (log : List Ev) :
    (issuances log).map (·.1) = log.filterMap fun e => (issuance e).map (·.1) := by
  simp [issuances, List.map_filterMap]

/-- What a new event has to meet. -/
structure Admissible (challenge : String → String) (log : List Ev) (e : Ev) : Prop where
  code : ∀ c ∈ authorizedCode e, c ∉ log.filterMap authorizedCode
  token : ∀ i ∈ issuance e, i.1 ∉ (issuances log).map (·.1)
  once : ∀ c ∈ exchangedCode e, c ∉ log.filterMap exchangedCode
  exchange : ∀ {now code verifier clientID redirectURI access refresh},
    e = .exchanged now code verifier clientID redirectURI access refresh →
    ∃ t a, .authorized t a ∈ log ∧ a.code = code ∧ now ≤ t + 5 * minute ∧ clientID = a.clientID ∧
      redirectURI = a.redirectURI ∧ challenge verifier = a.codeChallenge
  validated : ∀ {now token ws}, e = .validated now token ws →
    (∃ t, IssuedFor log token ws t ∧ now ≤ t + hour) ∧ gatewayScope ws ≠ none

theorem Limits.snoc {log : List Ev} {e : Ev} (h : Limits challenge log) (he : Admissible challenge log e) :
    Limits challenge (log ++ [e]) := by
  refine Limits.mk ?_ ?_ ?_ ?_ ?_ ?_
  · exact nodup_filterMap_snoc h.codes he.code
  · rw [map_issuances]
    refine nodup_filterMap_snoc (map_issuances log ▸ h.tokens) ?_
    intro x hx
    obtain ⟨i, hi, rfl⟩ := Option.map_eq_some_iff.mp hx
    rw [← map_issuances]
    exact he.token i hi
  · exact nodup_filterMap_snoc h.once he.once
  · intro now code v c r at_ rt hm
    have hold : ∃ t a, Ev.authorized t a ∈ log ∧ a.code = code ∧ now ≤ t + 5 * minute ∧ c = a.clientID ∧
        r = a.redirectURI ∧ challenge v = a.codeChallenge := by
      rcases mem_of_snoc hm with hm | hm
      · exact h.exchange hm
      · exact he.exchange hm.symm
    obtain ⟨t, a, h1, h2⟩ := hold
    exact ⟨t, a, mem_snoc _ h1, h2⟩
  · intro now token ws hm
    have hold : ∃ t, IssuedFor log token ws t ∧ now ≤ t + hour := by
      rcases mem_of_snoc hm with hm | hm
      · exact h.validated hm
      · exact (he.validated hm.symm).1
    obtain ⟨t, h1, h2⟩ := hold
    exact ⟨t, h1.mono mem_snoc, h2⟩
  · intro now token ws hm
    rcases mem_of_snoc hm with hm | hm
    · exact h.confined hm
    · exact (he.validated hm.symm).2

theorem CodeOk.snoc {log : List Ev} {e : Ev} {code : String} {a : AuthCode} (h : CodeOk log code a)
    (he : exchangedCode e ≠ some code) : CodeOk (log ++ [e]) code a := by
  obtain ⟨h1, h2, h3, t, h4, h5⟩ := h
  refine ⟨h1, h2, ?_, t, mem_snoc _ h4, h5⟩
  rw [filterMap_snoc, List.mem_append]
  intro hin
  rcases hin with hin | hin
  · exact h3 hin
  · exact he (by simpa using hin)

/-- The records stay, for the same workspace, and a record's current token changes to one not issued
before. -/
def HeapExt (log : List Ev) (heap heap' : List OAuthToken) : Prop :=
  ∀ (p : Nat) (tok : OAuthToken), heap[p]? = some tok → ∃ tok' : OAuthToken, heap'[p]? = some tok' ∧ tok'.workspaceID = tok.workspaceID ∧
    ∀ token ∈ (issuances log).map (·.1), token = tok'.accessToken →
      token = tok.accessToken ∧ tok'.expiresAt = tok.expiresAt

theorem HeapExt.refl (log : List Ev) (heap : List OAuthToken) : HeapExt log heap heap :=
  fun _ tok h => ⟨tok, h, rfl, fun _ _ he => ⟨he, rfl⟩⟩

theorem TokenOk.mono {m m' : OAuthManager} {log log' : List Ev} {token : String} {p : Nat}
    (h : TokenOk m log token p) (hh : HeapExt log m.heap m'.heap) (hl : ∀ x ∈ log, x ∈ log') :
    TokenOk m' log' token p := by
  obtain ⟨tok, h1, h2, t, h3, h4, h5⟩ := h
  obtain ⟨tok', g1, g2, g3⟩ := hh p tok h1
  have hin : (token, t) ∈ issuances log' := by
    obtain ⟨e, he, hei⟩ := List.mem_filterMap.mp h3
    exact List.mem_filterMap.mpr ⟨e, hl e he, hei⟩
  refine ⟨tok', g1, g2 ▸ h2, t, hin, g2 ▸ h4.mono hl, ?_⟩
  intro heq
  obtain ⟨hcur, hexp⟩ := g3 token (List.mem_map.mpr ⟨_, h3, rfl⟩) heq
  rw [hexp]
  exact h5 hcur

theorem RefreshOk.mono {m m' : OAuthManager} {log log' : List Ev} {token : String} {p : Nat}
    (h : RefreshOk m log token p) (hh : HeapExt log m.heap m'.heap) (hl : ∀ x ∈ log, x ∈ log') :
    RefreshOk m' log' token p := by
  obtain ⟨tok, h1, h2, h3⟩ := h
  obtain ⟨tok', g1, g2, _⟩ := hh p tok h1
  exact ⟨tok', g1, g2 ▸ h2, g2 ▸ h3.mono hl⟩

/-! ## Each call keeps it -/

section Calls

variable {s : St}

theorem Inv.setCodes (h : Inv challenge s.m s.log) {codes : GoMap String AuthCode}
    (hc : ∀ code a, codes code = some a → s.m.codes code = some a) :
    Inv challenge { s.m with codes := codes } s.log :=
  ⟨h.limits, fun code a ha => h.codes code a (hc code a ha), h.exchanged, h.tokens, h.refresh⟩

theorem register_inv (h : Inv challenge s.m s.log) (now : Time) (name : String) (redirectURIs : List String)
    (uuid secretHex : String) :
    Inv challenge (s.m.registerClient now name redirectURIs uuid secretHex).1 s.log :=
  ⟨h.limits, h.codes, h.exchanged, h.tokens, h.refresh⟩

theorem authorize_inv (h : Inv challenge s.m s.log) (now : Time)
    (clientID redirectURI codeChallenge codeChallengeMethod : String) {ws : UUID} {hex : String}
    (hfresh : "code_" ++ hex ∉ s.log.filterMap authorizedCode) (hws : ws ≠ UUID.Nil) :
    Inv challenge (authorize s now clientID redirectURI codeChallenge codeChallengeMethod ws hex).m
      (authorize s now clientID redirectURI codeChallenge codeChallengeMethod ws hex).log := by
  unfold authorize St.after
  rcases authorize_spec s.m now clientID redirectURI codeChallenge codeChallengeMethod ws hex with
    ⟨e, he⟩ | ⟨a, clients, he, hself, hcode, hexp⟩
  · rw [he]
    simpa [Except.toOption] using h
  rw [he]
  simp only [Except.toOption, Option.map_some, Option.toList_some]
  rw [← hself]
  have haws : a.workspaceID = ws := by rw [hself]
  have hheap := HeapExt.refl s.log s.m.heap
  refine ⟨h.limits.snoc ⟨?_, ?_, ?_, ?_, ?_⟩, ?_, ?_, ?_, ?_⟩
  · intro c hc
    cases hc
    exact hcode ▸ hfresh
  · intro i hi
    cases hi
  · intro c hc
    cases hc
  · intro t c v ci r at_ rt heq
    cases heq
  · intro t token w heq
    cases heq
  · intro code a' ha'
    rcases GoMap.set_eq_some ha' with ⟨hc, ha⟩ | ⟨_, hold⟩
    · subst hc ha
      refine ⟨rfl, haws ▸ hws, ?_, now, List.mem_append_right _ (List.mem_singleton_self _), hexp⟩
      rw [filterMap_snoc]
      intro hin
      have hin : a'.code ∈ s.log.filterMap exchangedCode := by simpa [exchangedCode] using hin
      exact hfresh (hcode ▸ h.exchanged _ hin)
    · exact (h.codes code a' hold).snoc (by simp [exchangedCode])
  · intro code hc
    rw [filterMap_snoc] at hc ⊢
    have hc : code ∈ s.log.filterMap exchangedCode := by simpa [exchangedCode] using hc
    exact List.mem_append_left _ (h.exchanged code hc)
  · intro token p hp
    exact (h.tokens token p hp).mono hheap mem_snoc
  · intro token p hp
    exact (h.refresh token p hp).mono hheap mem_snoc

theorem exchangeCode_inv (h : Inv challenge s.m s.log) {now : Time}
    {code verifier clientID redirectURI atHex rtHex : String}
    (hat : "pergo_mcp_at_" ++ atHex ∉ (issuances s.log).map (·.1))
    (hk : KeepsLimits challenge s (.exchangeCode now code verifier clientID redirectURI atHex rtHex)) :
    Inv challenge (exchangeCode challenge s now code verifier clientID redirectURI atHex rtHex).m
      (exchangeCode challenge s now code verifier clientID redirectURI atHex rtHex).log := by
  unfold exchangeCode St.after OAuthManager.exchangeToken
  rw [if_pos rfl]
  rcases exchangeCode_spec challenge s.m now code verifier clientID redirectURI atHex rtHex with
    ⟨e, codes, he, hcodes⟩ | ⟨a, ha, hnow, hch, hred, he⟩
  · rw [he]
    simp only [Except.toOption, Option.map_none, Option.toList_none, List.append_nil]
    refine h.setCodes ?_
    intro c a hca
    rcases hcodes with rfl | rfl
    · exact hca
    · exact (GoMap.del_eq_some hca).2
  rw [he]
  simp only [Except.toOption, Option.map_some, Option.toList_some, OAuthManager.tokenResponse]
  obtain ⟨hacode, haws, hnotex, t, hauth, hexp⟩ := h.codes code a ha
  obtain ⟨hclient, hredirect⟩ := (hk a ha hnow hch).resolve_left hred
  -- the record is new, at the end of the heap
  have hheap : HeapExt s.log s.m.heap (s.m.heap ++ [⟨"pergo_mcp_at_" ++ atHex, "pergo_mcp_rt_" ++ rtHex,
      clientID, a.workspaceID, now + hour⟩]) := by
    intro p tok hp
    refine ⟨tok, ?_, rfl, fun _ _ heq => ⟨heq, rfl⟩⟩
    rw [List.getElem?_append_left (List.getElem?_eq_some_iff.mp hp).1]
    exact hp
  have hlast : (s.m.heap ++ [(⟨"pergo_mcp_at_" ++ atHex, "pergo_mcp_rt_" ++ rtHex, clientID, a.workspaceID,
      now + hour⟩ : OAuthToken)])[s.m.heap.length]? = some ⟨"pergo_mcp_at_" ++ atHex,
      "pergo_mcp_rt_" ++ rtHex, clientID, a.workspaceID, now + hour⟩ := by
    simp
  have hnew : Ev.exchanged now a.code verifier clientID redirectURI ("pergo_mcp_at_" ++ atHex)
      ("pergo_mcp_rt_" ++ rtHex) ∈ s.log ++ [Ev.exchanged now code verifier clientID redirectURI
      ("pergo_mcp_at_" ++ atHex) ("pergo_mcp_rt_" ++ rtHex)] := by
    rw [hacode]
    exact List.mem_append_right _ (List.mem_singleton_self _)
  refine ⟨h.limits.snoc ⟨?_, ?_, ?_, ?_, ?_⟩, ?_, ?_, ?_, ?_⟩
  · intro c hc
    cases hc
  · intro i hi
    cases hi
    exact hat
  · intro c hc
    cases hc
    exact hnotex
  · intro t' c v ci r at_ rt heq
    cases heq
    exact ⟨t, a, hauth, hacode, hexp ▸ hnow, hclient, hredirect, hch⟩
  · intro t' token w heq
    cases heq
  · intro c a' ha'
    obtain ⟨hne, hold⟩ := GoMap.del_eq_some ha'
    exact (h.codes c a' hold).snoc (by simpa [exchangedCode] using Ne.symm hne)
  · intro c hc
    rw [filterMap_snoc] at hc ⊢
    refine List.mem_append_left _ ?_
    rcases List.mem_append.mp hc with hc | hc
    · exact h.exchanged c hc
    · have hc : c = code := by simpa [exchangedCode] using hc
      rw [hc, ← hacode]
      exact List.mem_filterMap.mpr ⟨_, hauth, rfl⟩
  · intro token p hp
    rcases GoMap.set_eq_some hp with ⟨htok, hpp⟩ | ⟨_, hold⟩
    · subst htok hpp
      refine ⟨_, hlast, haws, now, ?_, ?_, fun _ => rfl⟩
      · exact List.mem_filterMap.mpr ⟨_, hnew, rfl⟩
      · exact ⟨t, a, now, verifier, clientID, redirectURI, _, _, mem_snoc _ hauth, rfl, hnew,
          Or.inl ⟨rfl, rfl⟩⟩
    · exact (h.tokens token p hold).mono hheap mem_snoc
  · intro token p hp
    rcases GoMap.set_eq_some hp with ⟨htok, hpp⟩ | ⟨_, hold⟩
    · subst htok hpp
      exact ⟨_, hlast, haws, t, a, now, verifier, clientID, redirectURI, _, mem_snoc _ hauth, rfl, hnew⟩
    · exact (h.refresh token p hold).mono hheap mem_snoc

theorem refresh_inv (h : Inv challenge s.m s.log) {now : Time} {refreshToken atHex : String}
    (hat : "pergo_mcp_at_" ++ atHex ∉ (issuances s.log).map (·.1)) :
    Inv challenge (refresh challenge s now refreshToken atHex).m (refresh challenge s now refreshToken atHex).log := by
  unfold refresh St.after OAuthManager.exchangeToken
  rw [if_neg (by decide), if_pos rfl]
  rcases refreshAccess_spec s.m now refreshToken atHex with ⟨e, he⟩ | ⟨p, tok, hp, htok, he⟩
  · rw [he]
    simpa [Except.toOption] using h
  rw [he]
  simp only [Except.toOption, Option.map_some, Option.toList_some, OAuthManager.tokenResponse]
  obtain ⟨tok', htok', hws, hgr⟩ := h.refresh refreshToken p hp
  rw [htok] at htok'
  cases htok'
  -- the record is changed in place; its new current token is a fresh one
  have hheap : HeapExt s.log s.m.heap (s.m.heap.set p { tok with
      accessToken := "pergo_mcp_at_" ++ atHex, expiresAt := now + hour }) := by
    intro p' tok₁ hp'
    by_cases heq : p' = p
    · subst heq
      rw [htok] at hp'
      cases hp'
      refine ⟨_, List.getElem?_set_self (List.getElem?_eq_some_iff.mp htok).1, rfl, ?_⟩
      intro token hin hcur
      rw [hcur] at hin
      exact absurd hin hat
    · exact ⟨tok₁, (List.getElem?_set_ne (Ne.symm heq)).trans hp', rfl, fun _ _ hcur => ⟨hcur, rfl⟩⟩
  have hnew : Ev.refreshed now refreshToken ("pergo_mcp_at_" ++ atHex) ∈
      s.log ++ [Ev.refreshed now refreshToken ("pergo_mcp_at_" ++ atHex)] :=
    List.mem_append_right _ (List.mem_singleton_self _)
  refine ⟨h.limits.snoc ⟨?_, ?_, ?_, ?_, ?_⟩, ?_, ?_, ?_, ?_⟩
  · intro c hc
    cases hc
  · intro i hi
    cases hi
    exact hat
  · intro c hc
    cases hc
  · intro t' c v ci r at_ rt heq
    cases heq
  · intro t' token w heq
    cases heq
  · intro c a' ha'
    exact (h.codes c a' ha').snoc (by simp [exchangedCode])
  · intro c hc
    rw [filterMap_snoc] at hc ⊢
    have hc : c ∈ s.log.filterMap exchangedCode := by simpa [exchangedCode] using hc
    exact List.mem_append_left _ (h.exchanged c hc)
  · intro token p' hp'
    rcases GoMap.set_eq_some hp' with ⟨htk, hpp⟩ | ⟨_, hold⟩
    · subst htk hpp
      refine ⟨_, List.getElem?_set_self (List.getElem?_eq_some_iff.mp htok).1, hws, now, ?_, ?_, fun _ => rfl⟩
      · exact List.mem_filterMap.mpr ⟨_, hnew, rfl⟩
      · obtain ⟨t₀, a, n, v, c, r, at_, h1, h2, h3⟩ := hgr
        exact ⟨t₀, a, n, v, c, r, at_, refreshToken, mem_snoc _ h1, h2, mem_snoc _ h3, Or.inr hnew⟩
    · exact (h.tokens token p' hold).mono hheap mem_snoc
  · intro token p' hp'
    exact (h.refresh token p' hp').mono hheap mem_snoc

theorem validate_inv (h : Inv challenge s.m s.log) {now : Time} {token : String}
    (hk : KeepsLimits challenge s (.validate now token)) :
    Inv challenge (validate s now token).m (validate s now token).log := by
  unfold validate St.after OAuthManager.validateAccessToken
  cases hrec : s.m.recordOf token with
  | none => simpa using h
  | some tok =>
    simp only
    split
    · simpa using h
    rename_i hnow
    simp only [Option.map_some, Option.toList_some]
    obtain ⟨p, hp, htok⟩ := Option.bind_eq_some_iff.mp hrec
    obtain ⟨tok', htok', hws, t, hin, hiss, hcur⟩ := h.tokens token p hp
    rw [htok] at htok'
    cases htok'
    have hheap := HeapExt.refl s.log s.m.heap
    -- the current token carries its own expiry, a superseded one is in its own hour
    have hhour : now ≤ t + hour := by
      rcases hk tok hrec (Int.not_lt.mp hnow) with heq | hown
      · rw [← hcur heq]
        exact Int.not_lt.mp hnow
      · exact hown _ hin rfl
    refine ⟨h.limits.snoc ⟨?_, ?_, ?_, ?_, ?_⟩, ?_, ?_, ?_, ?_⟩
    · intro c hc
      cases hc
    · intro i hi
      cases hi
    · intro c hc
      cases hc
    · intro t' c v ci r at_ rt heq
      cases heq
    · intro t' token' w heq
      cases heq
      refine ⟨⟨t, hiss, hhour⟩, ?_⟩
      rw [gatewayScope, if_pos hws]
      exact Option.some_ne_none _
    · intro c a' ha'
      exact (h.codes c a' ha').snoc (by simp [exchangedCode])
    · intro c hc
      rw [filterMap_snoc] at hc ⊢
      have hc : c ∈ s.log.filterMap exchangedCode := by simpa [exchangedCode] using hc
      exact List.mem_append_left _ (h.exchanged c hc)
    · intro token' p' hp'
      exact (h.tokens token' p' hp').mono hheap mem_snoc
    · intro token' p' hp'
      exact (h.refresh token' p' hp').mono hheap mem_snoc

end Calls

theorem inv_inductive (challenge : String → String) :
    ((sys challenge).restrict (KeepsLimits challenge)).Inductive fun s => Inv challenge s.m s.log := by
  refine LTS.Inductive.of_restrict ?_ ?_
  · intro s hs
    cases hs
    refine ⟨⟨List.nodup_nil, List.nodup_nil, List.nodup_nil, ?_, ?_, ?_⟩, ?_, ?_, ?_, ?_⟩
    · intro now code v c r at_ rt hm
      cases hm
    · intro now token ws hm
      cases hm
    · intro now token ws hm
      cases hm
    · intro code a ha
      cases ha
    · intro code hc
      cases hc
    · intro token p hp
      cases hp
    · intro token p hp
      cases hp
  · intro s l s' h hk hst
    simp only [sys, LTS.ofFn] at hst
    cases l with
    | register now name redirectURIs uuid secretHex =>
      simp only [step] at hst
      split at hst
      · cases hst
        simpa [St.after] using register_inv h now name redirectURIs uuid secretHex
      · cases hst
    | authorize now clientID redirectURI codeChallenge codeChallengeMethod ws hex =>
      simp only [step] at hst
      split at hst
      · rename_i hg
        cases hst
        exact authorize_inv h now clientID redirectURI codeChallenge codeChallengeMethod hg.2 hk
      · cases hst
    | exchangeCode now code verifier clientID redirectURI atHex rtHex =>
      simp only [step] at hst
      split at hst
      · rename_i hg
        cases hst
        exact exchangeCode_inv h hg.2.1 hk
      · cases hst
    | refresh now refreshToken atHex =>
      simp only [step] at hst
      split at hst
      · rename_i hg
        cases hst
        exact refresh_inv h hg.2
      · cases hst
    | validate now token =>
      simp only [step] at hst
      split at hst
      · cases hst
        exact validate_inv h hk
      · cases hst

end Invariant

/-- **Codes and tokens keep their limits**, in every run whose callers make the checks the manager does
not. -/
theorem oauth_limits (challenge : String → String) {s : St}
    (h : ((sys challenge).restrict (KeepsLimits challenge)).Reachable s) : Limits challenge s.log :=
  ((inv_inductive challenge).reachable h).limits

/-! ## Runs -/

def verifierA : String := "dBjftJeZ4CVP-mB92K27uhbUJU1p1r_wW1gFWFOEjXk"
def challengeA : String := "E9Melhoa2OwvFrEMTJguCHaoeK1t8URWbuGJSstw-cM"

def s256 (verifier : String) : String := if verifier = verifierA then challengeA else ""

def wholeFlow : List Lbl :=
  [.register 0 "cli" ["https://app/cb"] "1" "s",
    .authorize (1 * minute) "client_1" "https://app/cb" challengeA "S256" 7 "c1",
    .exchangeCode (2 * minute) "code_c1" verifierA "client_1" "https://app/cb" "a1" "r1",
    .validate (50 * minute) "pergo_mcp_at_a1", .refresh (90 * minute) "pergo_mcp_rt_r1" "a2",
    .validate (100 * minute) "pergo_mcp_at_a2"]

theorem oauth_limits_whole_flow :
    ∃ s, ((sys s256).restrict (KeepsLimits s256)).Reachable s ∧
      Ev.validated (50 * minute) "pergo_mcp_at_a1" 7 ∈ s.log ∧
      Ev.validated (100 * minute) "pergo_mcp_at_a2" 7 ∈ s.log ∧ Limits s256 s.log := by
  obtain ⟨s, hs⟩ : ∃ s, LTS.exec (step s256) init wholeFlow = some s := ⟨_, rfl⟩
  have hr := LTS.exec_restrict_reachable hs (G := KeepsLimits s256) (by decide +kernel)
  refine ⟨s, hr, ?_, ?_, oauth_limits s256 hr⟩
  · cases hs
    decide +kernel
  · cases hs
    decide +kernel

def authorizeA (ws : UUID) : Lbl := .authorize 0 "client_1" "https://app/cb" challengeA "S256" ws "c1"

def strangersExchange : List Lbl :=
  [authorizeA 7, .exchangeCode minute "code_c1" verifierA "client_2" "" "a1" "r1"]

/-- The first access token is accepted after two hours, its record refreshed in between. -/
def staleToken : List Lbl :=
  [authorizeA 7, .exchangeCode minute "code_c1" verifierA "client_1" "https://app/cb" "a1" "r1",
    .refresh (90 * minute) "pergo_mcp_rt_r1" "a2", .validate (120 * minute) "pergo_mcp_at_a1"]

/-- A code for `uuid.Nil`. -/
def unscopedToken : List Lbl :=
  [authorizeA UUID.Nil, .exchangeCode minute "code_c1" verifierA "client_1" "https://app/cb" "a1" "r1",
    .validate (2 * minute) "pergo_mcp_at_a1"]

/-- The client and the redirect URI of the code, the token's own hour and its confinement to a workspace
are each broken by some run. -/
theorem limits_broken :
    (∃ s, (sys s256).Reachable s ∧ ∃ t a now access refresh,
      s.log = [.authorized t a, .exchanged now a.code verifierA "client_2" "" access refresh] ∧
      a.clientID = "client_1" ∧ a.redirectURI = "https://app/cb" ∧ ¬ Limits s256 s.log) ∧
    (∃ s, (sys s256).Reachable s ∧ issuances s.log = [("pergo_mcp_at_a1", minute), ("pergo_mcp_at_a2", 90 * minute)] ∧
      Ev.validated (120 * minute) "pergo_mcp_at_a1" 7 ∈ s.log ∧ ¬ Limits s256 s.log) ∧
    (∃ s, (sys s256).Reachable s ∧ Ev.validated (2 * minute) "pergo_mcp_at_a1" UUID.Nil ∈ s.log ∧
      ¬ Limits s256 s.log) := by
  refine ⟨?_, ?_, ?_⟩
  · obtain ⟨s, hs⟩ : ∃ s, LTS.exec (step s256) init strangersExchange = some s := ⟨_, rfl⟩
    obtain ⟨t, a, now, access, refresh, hlog, hc, hr⟩ : ∃ t a now access refresh,
        s.log = [.authorized t a, .exchanged now a.code verifierA "client_2" "" access refresh] ∧
        a.clientID = "client_1" ∧ a.redirectURI = "https://app/cb" := by
      cases hs
      exact ⟨_, _, _, _, _, rfl, rfl, rfl⟩
    refine ⟨s, LTS.exec_reachable hs, t, a, now, access, refresh, hlog, hc, hr, fun h => ?_⟩
    rw [hlog] at h
    obtain ⟨t', a', ha', _, _, hclient, _⟩ := h.exchange (List.mem_cons_of_mem _ (List.mem_singleton_self _))
    have haa : t' = t ∧ a' = a := by simpa using ha'
    rw [haa.2, hc] at hclient
    exact absurd hclient (by decide)
  · obtain ⟨s, hs⟩ : ∃ s, LTS.exec (step s256) init staleToken = some s := ⟨_, rfl⟩
    have hiss : issuances s.log = [("pergo_mcp_at_a1", minute), ("pergo_mcp_at_a2", 90 * minute)] := by
      cases hs
      decide +kernel
    have hval : Ev.validated (120 * minute) "pergo_mcp_at_a1" 7 ∈ s.log := by
      cases hs
      decide +kernel
    refine ⟨s, LTS.exec_reachable hs, hiss, hval, fun h => ?_⟩
    obtain ⟨t, ⟨_, _, _, _, _, _, _, _, _, _, hex, hwhen⟩, hhour⟩ := h.validated hval
    -- the token's only issuance is the exchange, an hour and 59 minutes before
    have hin : ("pergo_mcp_at_a1", t) ∈ issuances s.log := by
      rcases hwhen with ⟨rfl, rfl⟩ | hre
      · exact List.mem_filterMap.mpr ⟨_, hex, rfl⟩
      · exact List.mem_filterMap.mpr ⟨_, hre, rfl⟩
    rw [hiss] at hin
    have ht : t = minute := by simpa using hin
    rw [ht] at hhour
    exact absurd hhour (by decide)
  · obtain ⟨s, hs⟩ : ∃ s, LTS.exec (step s256) init unscopedToken = some s := ⟨_, rfl⟩
    have hval : Ev.validated (2 * minute) "pergo_mcp_at_a1" UUID.Nil ∈ s.log := by
      cases hs
      decide +kernel
    exact ⟨s, LTS.exec_reachable hs, hval, fun h => h.confined hval rfl⟩

end PerGo.L4.OAuthLimits
