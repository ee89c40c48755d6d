import PerGo.Core.LTS
import PerGo.L3MCP.Confinement
import PerGo.L3MCP.Gateway

/-!
# Whose rows an MCP request touches

Runs of the router: HTTP requests to `/oauth/*`, `/mcp` and `/api/mcp/*`, each
with what the database and the clock answer during it. The log holds, for every
row a tool handler touched, the row's workspace and whom the request could
speak for: the master key, the API keys it carried, and what was carried in the
flow its access token comes from.

A request is authorised for a workspace if it speaks for it or for the whole
system (`Speaks`). Three parts of the code do not see to that: the SSE server
authenticates nobody, `/oauth/authorize` asks for no credential, and the
handlers that take `workspace_id` as it is, or find a row by its id, do not
compare it with the tenant. `tools_authorised` says that nothing else breaks it:
in every run in which an authorisation carries a credential of its workspace
and a call names only what its caller may see, every access is authorised.
-/
namespace PerGo.L4.McpAccess

open PerGo.Core PerGo.L1 PerGo.L2 PerGo.L3 PerGo.L3.MCP

/-! ## Credentials -/

/-- Whom a credential speaks for. -/
inductive Principal
  | master
  | workspace (ws : UUID)
deriving DecidableEq

def presented (r : Request) : List String :=
  (gatewayToken r).toList ++ (bearer (r.header "Authorization")).toList ++
    [trimSpace (r.header "X-Master-Key"), r.query "api_key", r.query "token"]

def principalsOf (env : AuthEnv) (key : String) : List Principal :=
  (if env.masterKey ≠ "" ∧ key = env.masterKey then [.master] else []) ++
    ((apiKeyWorkspace env key).map .workspace).toList

/-- Whom the keys of a request speak for. -/
def carried (env : AuthEnv) (r : Request) : List Principal := (presented r).flatMap (principalsOf env)

/-- One of them speaks for the workspace, or for all. -/
def Speaks (ps : List Principal) (ws : UUID) : Prop := .master ∈ ps ∨ .workspace ws ∈ ps

instance (ps : List Principal) (ws : UUID) : Decidable (Speaks ps ws) := inferInstanceAs (Decidable (_ ∨ _))

theorem Speaks.mono {ps ps' : List Principal} {ws : UUID} (h : Speaks ps ws) (hp : ∀ p ∈ ps, p ∈ ps') :
    Speaks ps' ws := h.imp (hp _) (hp _)

/-! ## Runs -/

/-- A row that was touched, and whom the request spoke for. -/
structure Touch where
  workspaceID : UUID
  principals : List Principal
deriving DecidableEq

/-- `codeProofs` and `tokenProofs` say what was carried in the flow of a code and of the token record at a
position; the code keeps neither. -/
structure St where
  oauth : OAuthManager
  codeProofs : GoMap String (List Principal)
  tokenProofs : List (List Principal)
  log : List Touch

def init : St := ⟨OAuthManager.new, GoMap.empty, [], []⟩

structure ToolCall where
  tool : ToolName
  args : String → Option String
  parseError : String → String
  newID : UUID
  invalid : Option String
  rest : Option String

inductive Body
  | none
  | registration (name : String) (redirectURIs : List String)
  | token (t : TokenRequest)
  | toolCall (tc : ToolCall)

/-- A request, with the answers it gets from its environment. -/
structure Http where
  env : AuthEnv
  now : Time
  r : Request
  body : Body
  rows : MCPRows
  hex₁ : String
  hex₂ : String

def callOf (h : Http) (tc : ToolCall) (ctx : Ctx) : Call where
  ctx := ctx
  args := tc.args
  rows := h.rows
  parseUUID := h.env.parseUUID
  parseError := tc.parseError
  newID := tc.newID
  invalid := tc.invalid
  rest := tc.rest

/-- What was carried in the flow an access token comes from. -/
def tokenProof (s : St) (token : String) : List Principal :=
  match s.oauth.tokens token with
  | none => []
  | some p => s.tokenProofs.getD p []

/-- Whom a request speaks for. -/
def held (s : St) (h : Http) : List Principal := carried h.env h.r ++ (presented h.r).flatMap (tokenProof s)

section Step

variable (challenge : String → String)

/-- `POST /oauth/register`. -/
def register (s : St) (h : Http) : St :=
  match h.body with
  | .registration name uris => { s with oauth := (s.oauth.registerClient h.now name uris h.hex₁ h.hex₂).1 }
  | _ => s

/-- `GET /oauth/authorize`. -/
def authorize (s : St) (h : Http) : St :=
  match handleOAuthAuthorize h.env s.oauth h.now h.rows.workspaces h.r h.hex₁ with
  | (m, .error _) => { s with oauth := m }
  | (m, .ok code) => { s with oauth := m, codeProofs := s.codeProofs.set code.code (carried h.env h.r) }

/-- `POST /oauth/token`: a new record is proved by what the code's authorisation and this request carried. -/
def token (s : St) (h : Http) : St :=
  match h.body with
  | .token t =>
    match handleOAuthToken challenge s.oauth h.now t h.hex₁ h.hex₂ with
    | (m, .error _) => { s with oauth := m }
    | (m, .ok _) =>
      if t.grantType = "authorization_code" then
        { s with
          oauth := m, tokenProofs := s.tokenProofs ++ [(s.codeProofs t.code).getD [] ++ carried h.env h.r] }
      else { s with oauth := m }
  | _ => s

/-- A `tools/call` request, on either route. -/
def call (s : St) (h : Http) : St :=
  match h.body, served h.env s.oauth h.now h.r with
  | .toolCall tc, some ctx =>
    { s with log := s.log ++ (handler tc.tool (callOf h tc ctx)).touched.map fun ws => ⟨ws, held s h⟩ }
  | _, _ => s

/-- The endpoints. mirrors cmd/pergo/main.go:531-540 -/
inductive Endpoint
  | register
  | authorize
  | token
  | tools

def endpoint (r : Request) : Endpoint :=
  if r.path = "/oauth/register" ∧ r.method = "POST" then .register
  else if r.path = "/oauth/authorize" ∧ r.method = "GET" then .authorize
  else if r.path = "/oauth/token" ∧ r.method = "POST" then .token
  else .tools

/-- One request. No OAuth path is protected by `AuthMiddleware`. -/
def step (s : St) (h : Http) : St :=
  match endpoint h.r with
  | .register => register s h
  | .authorize => authorize s h
  | .token => token challenge s h
  | .tools => call s h

def system : LTS St Http := LTS.ofFn init fun s h => some (step challenge s h)

end Step

/-! ## The condition -/

/-- An authorisation that is not turned away. -/
def issuesCode (r : Request) : Bool :=
  r.query "response_type" = "code" && r.query "code_challenge" ≠ "" &&
    (r.query "code_challenge_method" = "" || r.query "code_challenge_method" = "S256")

def staysIn (h : Http) (tc : ToolCall) (ctx : Ctx) (ws : UUID) : Bool :=
  ws ≠ UUID.Nil && confined (callOf h tc ctx) ws tc.tool

def allows (h : Http) (tc : ToolCall) : Principal → Bool
  | .master => true
  | .workspace ws => staysIn h tc Ctx.empty ws

/-- An authorisation carries a credential of its workspace. A call over SSE carries a credential that allows
it; a call to the gateway stays inside the workspace it is authenticated for, or speaks for all. -/
def permitted (s : St) (h : Http) : Bool :=
  match endpoint h.r with
  | .register => true
  | .token => true
  | .authorize => !issuesCode h.r || Speaks (carried h.env h.r) (authorizeWorkspace h.env h.rows.workspaces h.r)
  | .tools => match h.body with
    | .toolCall tc => tc.tool = .inspect_queue_health || (held s h).contains .master ||
        match route h.r.path with
        | .sse => (held s h).any (allows h tc)
        | .gateway => ((gatewayToken h.r).bind (authenticate h.env s.oauth h.now)).all fun ws =>
            staysIn h tc (gatewayCtx Ctx.empty ws) ws
        | .other => true
    | _ => true

/-- Every request of a run meets it. -/
def Permitted (s : St) (h : Http) : Prop := permitted s h = true

instance (s : St) (h : Http) : Decidable (Permitted s h) := inferInstanceAs (Decidable (_ = _))

/-! ## The routes -/

section Routes

variable {env : AuthEnv} {m : OAuthManager} {now : Time} {r : Request}

theorem hasPrefix_trans {s p q : String} (h : hasPrefix s p = true) (hq : hasPrefix p q = true) :
    hasPrefix s q = true := by
  unfold hasPrefix at h hq ⊢
  rw [List.isPrefixOf_iff_prefix] at h hq ⊢
  exact hq.trans h

theorem excluded_of_prefix {path p : String} (h : hasPrefix path p = true)
    (hp : p ∈ ["/admin", "/webhooks", "/static", "/docs", "/api/openapi", "/mcp", "/oauth", "/.well-known",
      "/api/mcp"]) : authExcluded env path = true := by
  have hany : ["/admin", "/webhooks", "/static", "/docs", "/api/openapi", "/mcp", "/oauth", "/.well-known",
      "/api/mcp"].any (hasPrefix path) = true := List.any_eq_true.mpr ⟨p, hp, h⟩
  unfold authExcluded
  rw [hany]
  simp

theorem authMiddleware_of_route (h : route r.path ≠ .other) : authMiddleware env r Ctx.empty = .next Ctx.empty := by
  have hex : authExcluded env r.path = true := by
    unfold route at h
    split at h
    · rename_i hsse
      exact excluded_of_prefix (hasPrefix_trans hsse (q := "/api/mcp") (by decide)) (by simp)
    · split at h
      · rename_i hgw
        refine excluded_of_prefix (p := "/mcp") ?_ (by simp)
        rcases Bool.or_eq_true _ _ |>.mp hgw with hgw | hgw
        · rw [of_decide_eq_true hgw]
          decide
        · exact hasPrefix_trans hgw (by decide)
      · exact absurd rfl h
  unfold authMiddleware
  rw [if_pos hex]

theorem served_cases {ctx : Ctx} (h : served env m now r = some ctx) :
    (route r.path = .sse ∧ ctx = Ctx.empty) ∨
    (route r.path = .gateway ∧ ∃ token ws, gatewayToken r = some token ∧ authenticate env m now token = some ws ∧
      ctx = gatewayCtx Ctx.empty ws) := by
  by_cases hr : route r.path = .other
  · unfold served at h
    rw [hr] at h
    split at h <;> cases h
  · unfold served at h
    rw [authMiddleware_of_route hr] at h
    cases hroute : route r.path with
    | other => exact absurd hroute hr
    | sse =>
      rw [hroute] at h
      cases h
      exact Or.inl ⟨rfl, rfl⟩
    | gateway =>
      rw [hroute] at h
      simp only [gatewayServe] at h
      split at h
      · cases h
      · obtain ⟨ws, hws, rfl⟩ := Option.map_eq_some_iff.mp h
        obtain ⟨token, htoken, hauth⟩ := Option.bind_eq_some_iff.mp hws
        exact Or.inr ⟨rfl, token, ws, htoken, hauth, rfl⟩

theorem bound_empty (W : UUID) : Bound Ctx.empty W := ⟨rfl, fun _ h => by cases h⟩

theorem bound_gateway {W : UUID} (hW : W ≠ UUID.Nil) : Bound (gatewayCtx Ctx.empty W) W := by
  rw [gatewayCtx, if_pos hW]
  have ht : tenantID { Ctx.empty with tenant := some W, scope := some ⟨W, .workspaceScoped⟩ } = some W := by
    simp [tenantID, hW]
  refine ⟨?_, fun ws h => ?_⟩
  · rw [ht]
    have hf : (some W).filter (fun ws => decide (ws ≠ UUID.Nil)) = some W := by simp [hW]
    simp only [authWorkspace, Option.map_some, hf]
  · rw [ht] at h
    cases h
    rfl

end Routes

/-! ## The invariant -/

structure Inv (s : St) : Prop where
  codes : ∀ {code : String} {a : AuthCode}, s.oauth.codes code = some a →
    Speaks ((s.codeProofs code).getD []) a.workspaceID
  parallel : s.tokenProofs.length = s.oauth.heap.length
  tokens : ∀ {p : Nat} {tok : OAuthToken} {ps : List Principal}, s.oauth.heap[p]? = some tok →
    s.tokenProofs[p]? = some ps → Speaks ps tok.workspaceID
  log : ∀ e ∈ s.log, Speaks e.principals e.workspaceID

section Invariant

variable {s : St} {h : Http} {challenge : String → String}

theorem inv_init : Inv init := by
  refine ⟨?_, rfl, ?_, ?_⟩
  · intro code a ha
    cases ha
  · intro p tok ps htok
    cases htok
  · intro e he
    cases he

theorem Inv.tokenProof_speaks (hi : Inv s) {token : String} {ws : UUID} {now : Time}
    (hv : s.oauth.validateAccessToken now token = some ws) : Speaks (tokenProof s token) ws := by
  unfold OAuthManager.validateAccessToken at hv
  split at hv
  · cases hv
  rename_i tok htok
  obtain ⟨p, hp, hheap⟩ := Option.bind_eq_some_iff.mp htok
  split at hv
  · cases hv
  cases hv
  obtain ⟨hlt, _⟩ := List.getElem?_eq_some_iff.mp hheap
  have hlt' : p < s.tokenProofs.length := by rw [hi.parallel]; exact hlt
  have hps : s.tokenProofs[p]? = some (s.tokenProofs[p]) := List.getElem?_eq_getElem hlt'
  have hspeaks := hi.tokens hheap hps
  simpa [tokenProof, hp, List.getD, hps] using hspeaks

theorem mem_carried {key : String} {p : Principal} (hk : key ∈ presented h.r) (hp : p ∈ principalsOf h.env key) :
    p ∈ held s h :=
  List.mem_append_left _ (List.mem_flatMap.mpr ⟨key, hk, hp⟩)

theorem Inv.authenticate_speaks (hi : Inv s) {token : String} {ws : UUID} (ht : gatewayToken h.r = some token)
    (ha : authenticate h.env s.oauth h.now token = some ws) : Speaks (held s h) ws := by
  have hmem : token ∈ presented h.r := by simp [presented, ht]
  unfold authenticate at ha
  split at ha
  · rename_i ws' hv
    cases ha
    refine (hi.tokenProof_speaks hv).mono fun p hp => ?_
    exact List.mem_append_right _ (List.mem_flatMap.mpr ⟨token, hmem, hp⟩)
  split at ha
  · rename_i ws' hk
    cases ha
    exact Or.inr (mem_carried hmem (by simp [principalsOf, hk]))
  · split at ha
    · rename_i hmk
      exact Or.inl (mem_carried hmem (by simp [principalsOf, hmk.1, hmk.2]))
    · cases ha

theorem touched_speaks {tc : ToolCall} {ctx : Ctx} {ws : UUID} (hb : Bound ctx ws)
    (hs : staysIn h tc ctx ws = true) (hp : Speaks (held s h) ws) :
    ∀ w ∈ (handler tc.tool (callOf h tc ctx)).touched, Speaks (held s h) w := by
  simp only [staysIn, Bool.and_eq_true, decide_eq_true_eq] at hs
  intro w hw
  have hwithin := handler_within (c := callOf h tc ctx) hb hs.1 hs.2
  rw [hwithin.touched w hw]
  exact hp

theorem call_inv (hi : Inv s) (he : endpoint h.r = .tools) (hp : Permitted s h) : Inv (call s h) := by
  unfold call
  split
  · rename_i tc ctx hbody hserved
    simp only [Permitted, permitted, he, hbody, Bool.or_eq_true, decide_eq_true_eq, List.contains_iff_mem,
      or_assoc] at hp
    have htouched : ∀ w ∈ (handler tc.tool (callOf h tc ctx)).touched, Speaks (held s h) w := by
      rcases hp with hq | hm | hp
      · intro w hw
        rw [hq] at hw
        exact handleInspectQueueHealth_within.touched w hw
      · intro w _
        exact Or.inl hm
      · rcases served_cases hserved with ⟨hroute, rfl⟩ | ⟨hroute, token, ws, htoken, hauth, rfl⟩
        · rw [hroute] at hp
          obtain ⟨p, hmem, hallows⟩ := List.any_eq_true.mp hp
          cases p with
          | master =>
            intro w _
            exact Or.inl hmem
          | workspace ws => exact touched_speaks (bound_empty ws) hallows (Or.inr hmem)
        · rw [hroute] at hp
          have hstays : staysIn h tc (gatewayCtx Ctx.empty ws) ws = true := by
            simpa [htoken, hauth] using hp
          have hne : ws ≠ UUID.Nil := by
            simp only [staysIn, Bool.and_eq_true, decide_eq_true_eq] at hstays
            exact hstays.1
          exact touched_speaks (bound_gateway hne) hstays (hi.authenticate_speaks htoken hauth)
    refine ⟨hi.codes, hi.parallel, hi.tokens, fun e hmem => ?_⟩
    rcases List.mem_append.mp hmem with hmem | hmem
    · exact hi.log e hmem
    · obtain ⟨w, hw, rfl⟩ := List.mem_map.mp hmem
      exact htouched w hw
  · exact hi

theorem register_inv (hi : Inv s) : Inv (register s h) := by
  unfold register
  split
  · exact ⟨hi.codes, hi.parallel, hi.tokens, hi.log⟩
  · exact hi

theorem handleOAuthAuthorize_spec :
    (∃ e, handleOAuthAuthorize h.env s.oauth h.now h.rows.workspaces h.r h.hex₁ = (s.oauth, .error e)) ∨
    ∃ a clients, handleOAuthAuthorize h.env s.oauth h.now h.rows.workspaces h.r h.hex₁ =
        ({ s.oauth with clients := clients, codes := s.oauth.codes.set a.code a }, .ok a) ∧
      issuesCode h.r = true ∧ a.workspaceID = authorizeWorkspace h.env h.rows.workspaces h.r := by
  unfold handleOAuthAuthorize
  split
  · exact Or.inl ⟨_, rfl⟩
  rename_i htype
  split
  · exact Or.inl ⟨_, rfl⟩
  rename_i hch
  simp only
  generalize hmethod : (if h.r.query "code_challenge_method" = "" then "S256"
    else h.r.query "code_challenge_method") = method
  by_cases hs : method = "S256"
  · have hissues : issuesCode h.r = true := by
      simp only [issuesCode, Bool.and_eq_true, Bool.or_eq_true, decide_eq_true_eq]
      refine ⟨⟨not_not.mp htype, hch⟩, ?_⟩
      by_cases hempty : h.r.query "code_challenge_method" = ""
      · exact Or.inl hempty
      · rw [if_neg hempty] at hmethod
        exact Or.inr (hmethod.trans hs)
    rcases authorize_spec s.oauth h.now (h.r.query "client_id") (h.r.query "redirect_uri")
      (h.r.query "code_challenge") method (authorizeWorkspace h.env h.rows.workspaces h.r) h.hex₁ with
      he | ⟨a, clients, he, hself, -, -⟩
    · exact Or.inl he
    · exact Or.inr ⟨a, clients, he, hissues, by rw [hself]⟩
  · left
    unfold OAuthManager.authorize
    rw [if_neg hch, if_pos hs]
    exact ⟨_, rfl⟩

theorem authorize_inv (hi : Inv s)
    (hp : issuesCode h.r = true → Speaks (carried h.env h.r) (authorizeWorkspace h.env h.rows.workspaces h.r)) :
    Inv (authorize s h) := by
  unfold authorize
  rcases handleOAuthAuthorize_spec (h := h) (s := s) with ⟨e, he⟩ | ⟨a, clients, he, hissues, hws⟩
  · rw [he]
    exact ⟨hi.codes, hi.parallel, hi.tokens, hi.log⟩
  · rw [he]
    refine ⟨fun {code b} hb => ?_, hi.parallel, hi.tokens, hi.log⟩
    rcases GoMap.set_eq_some hb with ⟨rfl, rfl⟩ | ⟨hne, hb⟩
    · simpa [GoMap.set, hws] using hp hissues
    · simpa [GoMap.set, hne] using hi.codes hb

theorem token_inv (hi : Inv s) : Inv (token challenge s h) := by
  unfold token
  split
  · rename_i t _
    unfold handleOAuthToken OAuthManager.exchangeToken
    by_cases hgrant : t.grantType = "authorization_code"
    · rw [if_pos hgrant]
      rcases exchangeCode_spec challenge s.oauth h.now t.code t.codeVerifier t.clientID t.redirectURI h.hex₁ h.hex₂ with
        ⟨e, codes, he, hcodes⟩ | ⟨a, ha, _, _, _, he⟩
      · rw [he]
        refine ⟨fun {code b} hb => ?_, hi.parallel, hi.tokens, hi.log⟩
        rcases hcodes with rfl | rfl
        · exact hi.codes hb
        · exact hi.codes (GoMap.del_eq_some hb).2
      · rw [he]
        simp only [if_pos hgrant]
        have hnew : Speaks ((s.codeProofs t.code).getD [] ++ carried h.env h.r) a.workspaceID :=
          (hi.codes ha).mono fun p hp => List.mem_append_left _ hp
        refine ⟨fun {code b} hb => hi.codes (GoMap.del_eq_some hb).2, ?_, ?_, hi.log⟩
        · simp [OAuthManager.addToken, hi.parallel]
        · intro p tok ps htok hps
          simp only [OAuthManager.addToken] at htok
          rcases Nat.lt_or_ge p s.oauth.heap.length with hlt | hge
          · rw [List.getElem?_append_left hlt] at htok
            rw [List.getElem?_append_left (by rw [hi.parallel]; exact hlt)] at hps
            exact hi.tokens htok hps
          · rw [List.getElem?_append_right hge] at htok
            rw [List.getElem?_append_right (by rw [hi.parallel]; exact hge), hi.parallel] at hps
            rw [List.getElem?_singleton] at htok hps
            split at htok
            · rename_i hzero
              rw [if_pos hzero] at hps
              cases htok
              cases hps
              exact hnew
            · cases htok
    · rw [if_neg hgrant]
      by_cases hrefresh : t.grantType = "refresh_token"
      · rw [if_pos hrefresh]
        rcases refreshAccess_spec s.oauth h.now t.refreshToken h.hex₁ with ⟨e, he⟩ | ⟨p, tok, hp, htok, he⟩
        · rw [he]
          exact ⟨hi.codes, hi.parallel, hi.tokens, hi.log⟩
        · rw [he]
          simp only [if_neg hgrant]
          refine ⟨hi.codes, by simpa using hi.parallel, fun {q tok' ps} htok' hps => ?_, hi.log⟩
          -- the record keeps its workspace
          rw [List.getElem?_set] at htok'
          split at htok'
          · rename_i hpq
            split at htok'
            · cases htok'
              subst hpq
              have hspeaks := hi.tokens htok hps
              exact hspeaks
            · cases htok'
          · exact hi.tokens htok' hps
      · rw [if_neg hrefresh]
        exact ⟨hi.codes, hi.parallel, hi.tokens, hi.log⟩
  · exact hi

theorem step_inv (hi : Inv s) (hp : Permitted s h) : Inv (step challenge s h) := by
  unfold step
  cases he : endpoint h.r with
  | register => exact register_inv hi
  | token => exact token_inv hi
  | authorize =>
    simp only [Permitted, permitted, he, Bool.or_eq_true, Bool.not_eq_true', decide_eq_true_eq] at hp
    refine authorize_inv hi fun hissues => hp.resolve_left fun hno => ?_
    rw [hissues] at hno
    cases hno
  | tools => exact call_inv hi he hp

end Invariant

theorem inv_inductive (challenge : String → String) : ((system challenge).restrict Permitted).Inductive Inv := by
  refine LTS.Inductive.of_restrict ?_ ?_
  · rintro s rfl
    exact inv_init
  · intro s h s' hi hp hstep
    cases hstep
    exact step_inv hi hp

def uuid7 : String := "00000000-0000-0000-0000-000000000007"
def uuid8 : String := "00000000-0000-0000-0000-000000000008"

def key7 : String := "5e1f0b7a93c84d26a1f7e0b95c3d8426f17a2b90c4d8e3575a0e9d7c6b48f2e1"

/-- SHA-256 of `key7`. -/
def key7Hash : List UInt8 :=
  [252, 195, 206, 251, 21, 162, 127, 111, 131, 143, 202, 174, 238, 176, 182, 184,
    77, 160, 199, 103, 7, 249, 95, 88, 216, 98, 82, 169, 170, 108, 132, 67]

def server : AuthEnv :=
  { masterKey := "", hmacHex := fun _ _ => "",
    sha256 := fun s => if s = key7 then key7Hash else [],
    parseUUID := fun s => if s = uuid7 then some 7 else if s = uuid8 then some 8 else none,
    unixNow := 1700000000, verifySession := fun _ => false, wsRepo := some ⟨fun id => id = 7 || id = 8, some 7⟩,
    getByPrefix := fun s =>
      if s = apiKeyPrefix key7 then some ⟨1, 7, apiKeyPrefix key7, key7Hash, "agent", none, "k1", 1, 0⟩ else none }

def twoWorkspaces : MCPRows :=
  { workspaces := [8, 7], connections := [⟨70, 7, "whatsapp", "5511999990000", "active", true⟩], chats := [],
    messages := [], subscriptions := [], dlq := [], templates := [],
    connectionIDs := by decide }

def request (method path authorization : String) (query : String → String) : Request :=
  { path := path, method := method, header := fun name => if name = "Authorization" then authorization else "",
    query := query, cookie := fun _ => "", workspaceParam := "" }

def http (r : Request) (body : Body) : Http := ⟨server, 0, r, body, twoWorkspaces, "a1", "b2"⟩

def verifierA : String := "dBjftJeZ4CVP-mB92K27uhbUJU1p1r_wW1gFWFOEjXk"
def challengeA : String := "E9Melhoa2OwvFrEMTJguCHaoeK1t8URWbuGJSstw-cM"

def s256 (verifier : String) : String := if verifier = verifierA then challengeA else ""

def exchange : Http :=
  http (request "POST" "/oauth/token" "" fun _ => "")
    (.token ⟨"authorization_code", "code_a1", verifierA, "agent", "https://agent/cb", ""⟩)

def runs (l : List Http) : Option St := LTS.exec (fun s h => some (step s256 s h)) init l

end PerGo.L4.McpAccess
