import PerGo.L3Auth.APIKey

/-!
# The authentication middlewares

`internal/api/middleware`: API-key authentication, the reverse-proxy
attestation, the session check, the active workspace and the scope check. A
middleware takes the request and its context to the context the next one gets,
or answers the request itself (`Outcome`).

* `AuthEnv` holds the configuration and what the dependencies answer during one
  request: the database rows, `uuid.Parse`, HMAC and SHA-256.
* `Ctx` is what the middlewares write: `c.Set` values, and the tenant and the
  scope in the request context.
-/
namespace PerGo.L3

open PerGo.L1 PerGo.L2

/-- mirrors domain/workspace_scope.go:11-19 -/
inductive ScopeCapability
  | workspaceScoped
  | operatorScoped
deriving DecidableEq

/-- mirrors domain/workspace_scope.go:35-38 -/
structure WorkspaceScope where
  workspaceID : UUID
  capability : ScopeCapability
deriving DecidableEq

/-- mirrors domain/workspace_scope.go:50-55 -/
def newOperatorScope (target : UUID) : WorkspaceScope := ⟨target, .operatorScoped⟩

/-- mirrors domain/workspace_scope.go:86-91 -/
def WorkspaceScope.withTarget (s : WorkspaceScope) (target : UUID) : WorkspaceScope := ⟨target, s.capability⟩

/-- A header, query parameter or cookie that is absent reads as the empty string; so does the
`workspace_id` path parameter of a flat route. -/
structure Request where
  path : String
  method : String
  header : String → String
  query : String → String
  cookie : String → String
  workspaceParam : String

/-- What a request carries from one middleware to the next. -/
structure Ctx where
  workspaceID : Option UUID
  actor : Option (String × String × String)
  proxyAuthenticated : Bool
  apiKey : Option APIKey
  activeWorkspace : Option UUID
  tenant : Option UUID
  scope : Option WorkspaceScope
deriving DecidableEq

def Ctx.empty : Ctx := ⟨none, none, false, none, none, none, none⟩

inductive Outcome
  | answered (status : Nat) (code message : String)
  | redirected (status : Nat) (target : String)
  | next (ctx : Ctx)
deriving DecidableEq

/-- The rows of `workspaces` as one request sees them: `none` is a missing row or a database error. -/
structure WorkspaceRows where
  getByID : UUID → Bool
  getEarliest : Option UUID

structure AuthEnv where
  /-- the configured key or `PERGO_MASTER_KEY` -/
  masterKey : String
  /-- hex of HMAC-SHA256 of a payload under a key -/
  hmacHex : String → String → String
  sha256 : String → List UInt8
  parseUUID : String → Option UUID
  unixNow : Int
  verifySession : String → Bool
  wsRepo : Option WorkspaceRows
  getByPrefix : String → Option APIKey

/-! ## API keys -/

/-- mirrors middleware/auth.go:114-138 -/
def isMasterWorkspacePath (env : AuthEnv) (path : String) : Bool :=
  path = "/api/v1/workspaces" || path = "/api/v1/workspaces/" ||
  (hasPrefix path "/api/v1/workspaces/" &&
    match (trimPrefix path "/api/v1/workspaces/").toList.splitOn '/' with
    | [] => false
    | [id] => (env.parseUUID (String.ofList id)).isSome
    | id :: sub :: _ => (env.parseUUID (String.ofList id)).isSome &&
        (String.ofList sub = "api-keys" || String.ofList sub = "regenerate-key"))

/-- The paths `AuthMiddleware` leaves to others. mirrors auth.go:26-43 -/
def authExcluded (env : AuthEnv) (path : String) : Bool :=
  path = "/" || path = "/healthz" || path = "/readyz" ||
  ["/admin", "/webhooks", "/static", "/docs", "/api/openapi", "/mcp", "/oauth", "/.well-known",
    "/api/mcp"].any (hasPrefix path) ||
  ["/openapi.yaml", "/openapi.json", "/llms.txt", "/llms-full.txt"].contains path ||
  isMasterWorkspacePath env path

/-- The token of an `Authorization: Bearer` header. -/
def bearer (authHeader : String) : Option String :=
  match splitSpace authHeader with
  | some (scheme, token) => if equalFold scheme "Bearer" then some token else none
  | none => none

/-- mirrors auth.go:45-57 -/
def requestKey (r : Request) : String :=
  let authHeader := r.header "Authorization"
  if authHeader ≠ "" then (bearer authHeader).getD ""
  else if r.query "api_key" ≠ "" then r.query "api_key" else r.query "token"

def unauthorizedKey : Outcome := .answered 401 "UNAUTHORIZED" "invalid or missing API key"

/-- The key check. mirrors auth.go:79-108 -/
def checkAPIKey (env : AuthEnv) (ctx : Ctx) (key : String) : Outcome :=
  if key = "" || key.toList.length < apiKeyPrefixLength then unauthorizedKey
  else match env.getByPrefix (apiKeyPrefix key) with
    | none => unauthorizedKey
    | some apiKey =>
      if verifyAPIKey env.sha256 key apiKey.keyHash then
        .next { ctx with
          tenant := some apiKey.workspaceID, scope := some ⟨apiKey.workspaceID, .workspaceScoped⟩,
          apiKey := some apiKey }
      else unauthorizedKey

/-- mirrors auth.go:67-70 -/
def masterCandidate (r : Request) : String :=
  if r.header "X-Master-Key" ≠ "" then trimSpace (r.header "X-Master-Key") else requestKey r

/-- mirrors auth.go:23-112 -/
def authMiddleware (env : AuthEnv) (r : Request) (ctx : Ctx) : Outcome :=
  if authExcluded env r.path then .next ctx
  else if env.masterKey ≠ "" ∧ masterCandidate r ≠ "" ∧ masterCandidate r = env.masterKey then
    .next { ctx with scope := some (newOperatorScope UUID.Nil) }
  else checkAPIKey env ctx (requestKey r)

/-! ## The reverse proxy -/

def expiredTimestamp : Outcome := .answered 401 "unauthorized" "expired proxy timestamp"
def invalidSignature : Outcome := .answered 401 "unauthorized" "invalid proxy signature"

/-- mirrors middleware/proxy_auth.go:113-119 -/
def proxyPayload (r : Request) : String :=
  r.header "X-PerGo-Workspace-Scope" ++ "\n" ++ r.header "X-PerGo-Actor-ID" ++ "\n" ++
    r.header "X-PerGo-Actor-Email" ++ "\n" ++ r.header "X-PerGo-Actor-Role" ++ "\n" ++
    r.header "X-PerGo-Timestamp"

/-- The signature is the one of the scope and actor headers. mirrors proxy_auth.go:119-124 -/
def signatureValid (env : AuthEnv) (r : Request) : Bool :=
  trimPrefix (trimSpace (r.header "X-PerGo-Proxy-Signature")) "sha256=" = env.hmacHex env.masterKey (proxyPayload r)

/-- mirrors proxy_auth.go:72-98 -/
def timestampFresh (env : AuthEnv) (r : Request) : Bool :=
  match parseInt64 (trimSpace (r.header "X-PerGo-Timestamp")) with
  | none => false
  | some ts =>
    let diff := Int.bmod (env.unixNow - ts) (2 ^ 64)
    let diff := if diff < 0 then Int.bmod (-diff) (2 ^ 64) else diff
    diff ≤ 60

/-- mirrors proxy_auth.go:63-167 -/
def internalProxyAuth (env : AuthEnv) (r : Request) (ctx : Ctx) : Outcome :=
  if trimSpace (r.header "X-PerGo-Proxy-Signature") = "" then .next ctx
  else if !timestampFresh env r then expiredTimestamp
  else if env.masterKey = "" then invalidSignature
  else if !signatureValid env r then invalidSignature
  else if equalFold (r.header "X-PerGo-Actor-Role") "billing_admin" then
    .answered 403 "forbidden" "billing admin role cannot access inbox"
  else match env.parseUUID (trimSpace (r.header "X-PerGo-Workspace-Scope")) with
    | none => .answered 401 "unauthorized" "invalid workspace scope"
    | some wsID =>
      if wsID = UUID.Nil then .answered 401 "unauthorized" "invalid workspace scope"
      else .next { ctx with
        workspaceID := some wsID,
        actor := some (r.header "X-PerGo-Actor-ID", r.header "X-PerGo-Actor-Email", r.header "X-PerGo-Actor-Role"),
        proxyAuthenticated := true, tenant := some wsID, scope := some (newOperatorScope wsID) }

/-! ## Session and active workspace -/

/-- mirrors middleware/session.go:61-67 -/
def redirectOrHTMX (r : Request) (target : String) : Outcome :=
  if r.header "HX-Request" = "true" then .redirected 401 target else .redirected 302 target

/-- mirrors session.go:35-56 -/
def sessionAuth (env : AuthEnv) (r : Request) (ctx : Ctx) : Outcome :=
  if ctx.proxyAuthenticated then .next ctx
  else if r.cookie "pergo-session" = "" then redirectOrHTMX r "/admin/login"
  else if !env.verifySession (r.cookie "pergo-session") then redirectOrHTMX r "/admin/login"
  else .next ctx

def workspaceNotFound : Outcome := .answered 404 "not_found" "workspace not found"

/-- The workspace of the cookie, else the earliest one. mirrors middleware/workspace.go:105-129 -/
def cookieWorkspace (env : AuthEnv) (r : Request) (rows : WorkspaceRows) : Option UUID :=
  let byCookie := match env.parseUUID (r.cookie "pergo-active-workspace") with
    | some id => if r.cookie "pergo-active-workspace" ≠ "" ∧ id ≠ UUID.Nil ∧ rows.getByID id then some id else none
    | none => none
  match byCookie with
  | some id => some id
  | none => rows.getEarliest

/-- mirrors workspace.go:79-83 -/
def isCreateWorkspacePath (r : Request) : Bool :=
  hasPrefix r.path "/admin/workspaces/new" || (hasPrefix r.path "/admin/workspaces" && r.method = "POST") ||
  hasPrefix r.path "/admin/login" || hasPrefix r.path "/admin/logout" || hasPrefix r.path "/admin/sso"

/-- mirrors workspace.go:141-166 -/
def injectWorkspace (r : Request) (ctx : Ctx) : Option UUID → Outcome
  | none =>
    if isCreateWorkspacePath r then .next ctx
    else if r.header "HX-Request" = "true" then .redirected 200 "/admin/workspaces/new?onboarding=true"
    else .redirected 302 "/admin/workspaces/new?onboarding=true"
  | some id => .next { ctx with
      tenant := some id, scope := some (newOperatorScope id), activeWorkspace := some id }

/-- mirrors workspace.go:71-166 -/
def activeWorkspace (env : AuthEnv) (r : Request) (ctx : Ctx) : Outcome :=
  let attested := ctx.workspaceID.filter (· ≠ UUID.Nil)
  match env.wsRepo, attested with
  | some rows, some wsID => if rows.getByID wsID then injectWorkspace r ctx (some wsID) else workspaceNotFound
  | some rows, none => injectWorkspace r ctx (cookieWorkspace env r rows)
  | none, some _ => workspaceNotFound
  | none, none => injectWorkspace r ctx none

/-! ## The scope check -/

/-- mirrors middleware/workspace_scope.go:110-125 -/
def isExcludedPath (path : String) : Bool :=
  path = "/" || path = "/healthz" || path = "/readyz" ||
  ["/docs", "/static", "/openapi", "/api/openapi", "/webhooks", "/v1/webhooks"].any (hasPrefix path) ||
  ["/openapi.yaml", "/openapi.json", "/llms.txt", "/llms-full.txt"].contains path

/-- The scope in the context, else one made of the tenant. mirrors middleware/workspace_scope.go:39-51 -/
def contextScope (ctx : Ctx) : Option WorkspaceScope :=
  match ctx.scope, ctx.tenant with
  | some s, _ => some s
  | none, some id => if id ≠ UUID.Nil then some ⟨id, .workspaceScoped⟩ else none
  | none, none => none

def mismatch : Outcome :=
  .answered 403 "WORKSPACE_ID_MISMATCH" "authenticated workspace does not match URL parameter"

/-- mirrors middleware/workspace_scope.go:57-81 -/
def scopeOfParam (env : AuthEnv) (param : String) (scope : WorkspaceScope) : Except Outcome WorkspaceScope :=
  let parsed := (env.parseUUID param).filter (· ≠ UUID.Nil)
  match scope.capability, parsed with
  | .workspaceScoped, some id => if id = scope.workspaceID then .ok scope else .error mismatch
  | .workspaceScoped, none => .error mismatch
  | .operatorScoped, some id => .ok (scope.withTarget id)
  | .operatorScoped, none => .error (.answered 400 "INVALID_WORKSPACE_ID" "invalid workspace ID parameter")

/-- The header, else the query parameter. mirrors middleware/workspace_scope.go:85-88 -/
def targetHeader (r : Request) : String :=
  if r.header "X-Workspace-ID" = "" then r.query "workspace_id" else r.header "X-Workspace-ID"

/-- mirrors middleware/workspace_scope.go:82-101 -/
def scopeOfFlatRoute (env : AuthEnv) (r : Request) (scope : WorkspaceScope) : Except Outcome WorkspaceScope :=
  match scope.capability with
  | .workspaceScoped => .ok scope
  | .operatorScoped =>
    let target := if targetHeader r = "" then none else (env.parseUUID (targetHeader r)).filter (· ≠ UUID.Nil)
    let scope := match target with
      | some id => scope.withTarget id
      | none => scope
    if scope.workspaceID = UUID.Nil then
      .error (.answered 400 "WORKSPACE_REQUIRED"
        "workspace target must be specified via header or URL for operator scope")
    else .ok scope

/-- mirrors middleware/workspace_scope.go:31-108 -/
def enforceWorkspaceScope (env : AuthEnv) (r : Request) (ctx : Ctx) : Outcome :=
  if isExcludedPath r.path then .next ctx
  else match contextScope ctx with
    | none => .answered 401 "UNAUTHORIZED" "authentication and workspace scope required"
    | some scope =>
      match (if r.workspaceParam ≠ "" then scopeOfParam env r.workspaceParam scope
        else scopeOfFlatRoute env r scope) with
      | .error o => o
      | .ok scope => .next { ctx with scope := some scope, tenant := some scope.workspaceID }

/-! ## The two chains -/

def Outcome.andThen (o : Outcome) (f : Ctx → Outcome) : Outcome :=
  match o with
  | .next ctx => f ctx
  | o => o

/-- The middlewares of the admin group that write the workspace.
mirrors cmd/pergo/main.go:659-665 -/
def adminChain (env : AuthEnv) (r : Request) : Outcome :=
  (((internalProxyAuth env r Ctx.empty).andThen (sessionAuth env r)).andThen (activeWorkspace env r)).andThen
    (enforceWorkspaceScope env r)

/-- An API route: authentication, then the scope check. mirrors cmd/pergo/main.go:508, 528, 579-603 -/
def apiChain (env : AuthEnv) (r : Request) : Outcome :=
  (authMiddleware env r Ctx.empty).andThen (enforceWorkspaceScope env r)

end PerGo.L3
