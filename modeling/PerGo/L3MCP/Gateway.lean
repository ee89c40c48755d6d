import PerGo.L3Auth.OAuth
import PerGo.L3MCP.Handlers

/-!
# The routes to the tools

`BuildHTTPRouter` puts `AuthMiddleware` before everything, and it leaves the
paths below `/api/mcp`, `/mcp` and `/oauth` to their handlers. The SSE server
behind `/api/mcp/*` has no check of its own; the gateway behind `/mcp` takes an
OAuth access token, an API key or the master key; `/oauth/authorize` issues a
code for whatever workspace its query names.

`served` is the context a `tools/call` request reaches its handler with, which
is what mcp-go is trusted to run.
-/
namespace PerGo.L3.MCP

open PerGo.Core PerGo.L1 PerGo.L2

/-- The token of the gateway's `Authorization` header. mirrors mcp/gateway.go:89-94 -/
def gatewayToken (r : Request) : Option String :=
  ((bearer (r.header "Authorization")).map trimSpace).filter (· ≠ "")

/-- mirrors gateway.go:104-111 -/
def apiKeyWorkspace (env : AuthEnv) (token : String) : Option UUID :=
  if token.toList.length < apiKeyPrefixLength then none
  else match env.getByPrefix (apiKeyPrefix token) with
    | none => none
    | some apiKey => if verifyAPIKey env.sha256 token apiKey.keyHash then some apiKey.workspaceID else none

/-- The workspace a token is for, nil for the master key. mirrors gateway.go:95-119 -/
def authenticate (env : AuthEnv) (m : OAuthManager) (now : Time) (token : String) : Option UUID :=
  match m.validateAccessToken now token with
  | some wsID => some wsID
  | none => match apiKeyWorkspace env token with
    | some wsID => some wsID
    | none => if env.masterKey ≠ "" ∧ token = env.masterKey then some UUID.Nil else none

/-- mirrors gateway.go:121-126 -/
def gatewayCtx (ctx : Ctx) (wsID : UUID) : Ctx :=
  if wsID ≠ UUID.Nil then { ctx with tenant := some wsID, scope := some ⟨wsID, .workspaceScoped⟩ } else ctx

/-- mirrors gateway.go:77-143 -/
def gatewayServe (env : AuthEnv) (m : OAuthManager) (now : Time) (r : Request) (ctx : Ctx) : Option Ctx :=
  if r.method = "OPTIONS" then none
  else ((gatewayToken r).bind (authenticate env m now)).map (gatewayCtx ctx)

/-- Who answers a path. mirrors cmd/pergo/main.go:532-540 -/
inductive Route
  | sse
  | gateway
  | other
deriving DecidableEq

def route (path : String) : Route :=
  if hasPrefix path "/api/mcp/" then .sse
  else if path = "/mcp" || hasPrefix path "/mcp/" then .gateway
  else .other

/-- The context a tool handler runs with, if the request gets to one. mirrors cmd/pergo/main.go:508, 531-537 -/
def served (env : AuthEnv) (m : OAuthManager) (now : Time) (r : Request) : Option Ctx :=
  match authMiddleware env r Ctx.empty with
  | .next ctx => match route r.path with
    | .sse => some ctx
    | .gateway => gatewayServe env m now r ctx
    | .other => none
  | _ => none

/-! ## The OAuth endpoints -/

/-- The workspace a code is issued for: the query's, else the first one.
mirrors gateway.go:240-249 -/
def authorizeWorkspace (env : AuthEnv) (workspaces : List UUID) (r : Request) : UUID :=
  let wsID := if r.query "workspace_id" ≠ "" then (env.parseUUID (r.query "workspace_id")).getD UUID.Nil else UUID.Nil
  if wsID = UUID.Nil then workspaces.head?.getD UUID.Nil else wsID

/-- mirrors gateway.go:203-284 -/
def handleOAuthAuthorize (env : AuthEnv) (m : OAuthManager) (now : Time) (workspaces : List UUID) (r : Request)
    (hex : String) : OAuthManager × Except String AuthCode :=
  if r.query "response_type" ≠ "code" then (m, .error "response_type must be 'code'")
  else if r.query "code_challenge" = "" then (m, .error "code_challenge is required for PKCE")
  else
    let method := if r.query "code_challenge_method" = "" then "S256" else r.query "code_challenge_method"
    m.authorize now (r.query "client_id") (r.query "redirect_uri") (r.query "code_challenge") method
      (authorizeWorkspace env workspaces r) hex

structure TokenRequest where
  grantType : String
  code : String
  codeVerifier : String
  clientID : String
  redirectURI : String
  refreshToken : String

/-- mirrors gateway.go:287-334 -/
def handleOAuthToken (challenge : String → String) (m : OAuthManager) (now : Time) (t : TokenRequest)
    (atHex rtHex : String) : OAuthManager × Except String TokenResponse :=
  m.exchangeToken challenge now t.grantType t.code t.codeVerifier t.clientID t.redirectURI t.refreshToken atHex rtHex

end PerGo.L3.MCP
