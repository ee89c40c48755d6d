import PerGo.L2Domain.Message

/-!
# OAuthManager

`mcp/oauth.go`: dynamic client registration, PKCE authorization
codes, access and refresh tokens. Every method holds the manager's lock, so a
call is one step; it reads the clock once here.

A token record is reached from two maps and changed in place by a refresh, so
the records live in `heap` and the maps hold positions in it. The challenge of
a verifier, base64url of its SHA-256, is a parameter, and so are the random
strings a call draws.
-/
namespace PerGo.L3

open PerGo.Core PerGo.L1 PerGo.L2

/-- mirrors oauth.go:19-25 -/
structure OAuthClient where
  clientID : String
  clientSecret : String
  clientName : String
  redirectURIs : List String
  createdAt : Time

/-- mirrors oauth.go:28-36 -/
structure AuthCode where
  code : String
  clientID : String
  redirectURI : String
  codeChallenge : String
  codeChallengeMethod : String
  workspaceID : UUID
  expiresAt : Time
deriving DecidableEq

/-- mirrors oauth.go:39-45 -/
structure OAuthToken where
  accessToken : String
  refreshToken : String
  clientID : String
  workspaceID : UUID
  expiresAt : Time

/-- mirrors oauth.go:48-54 -/
structure TokenResponse where
  accessToken : String
  tokenType : String
  expiresIn : Int
  refreshToken : String
  scope : String

/-- `tokens` is keyed by access token, `refresh` by refresh token.
mirrors oauth.go:58-64 -/
structure OAuthManager where
  clients : GoMap String OAuthClient
  codes : GoMap String AuthCode
  tokens : GoMap String Nat
  refresh : GoMap String Nat
  heap : List OAuthToken

namespace OAuthManager

/-- mirrors oauth.go:67-74 -/
def new : OAuthManager := ⟨GoMap.empty, GoMap.empty, GoMap.empty, GoMap.empty, []⟩

/-- mirrors oauth.go:83-105 -/
def registerClient (m : OAuthManager) (now : Time) (name : String) (redirectURIs : List String)
    (uuid secretHex : String) : OAuthManager × OAuthClient :=
  let name := trimSpace name
  let client : OAuthClient :=
    { clientID := "client_" ++ uuid, clientSecret := "sec_" ++ secretHex,
      clientName := if name = "" then "mcp-client" else name, redirectURIs := redirectURIs, createdAt := now }
  ({ m with clients := m.clients.set client.clientID client }, client)

/-- Unknown clients are registered on the way. mirrors oauth.go:128-137 -/
def autoRegister (m : OAuthManager) (now : Time) (clientID redirectURI : String) : OAuthManager :=
  if clientID ≠ "" ∧ m.clients clientID = none then
    { m with clients := m.clients.set clientID ⟨clientID, "", "mcp-remote-client", [redirectURI], now⟩ }
  else m

/-- mirrors oauth.go:116-152 -/
def authorize (m : OAuthManager) (now : Time)
    (clientID redirectURI codeChallenge codeChallengeMethod : String) (wsID : UUID) (hex : String) :
    OAuthManager × Except String AuthCode :=
  if codeChallenge = "" then (m, .error "code_challenge is required for PKCE")
  else if codeChallengeMethod ≠ "S256" then (m, .error "code_challenge_method must be S256")
  else
    let m := autoRegister m now clientID redirectURI
    let code : AuthCode :=
      { code := "code_" ++ hex, clientID := clientID, redirectURI := redirectURI,
        codeChallenge := codeChallenge, codeChallengeMethod := codeChallengeMethod, workspaceID := wsID,
        expiresAt := now + 5 * minute }
    ({ m with codes := m.codes.set code.code code }, .ok code)

def tokenResponse (access refresh : String) : TokenResponse := ⟨access, "Bearer", 3600, refresh, "mcp:all"⟩

/-- A new record, under both its tokens. mirrors oauth.go:186-195 -/
def addToken (m : OAuthManager) (tok : OAuthToken) : OAuthManager :=
  { m with heap := m.heap ++ [tok], tokens := m.tokens.set tok.accessToken m.heap.length,
           refresh := m.refresh.set tok.refreshToken m.heap.length }

/-- mirrors oauth.go:160-203 -/
def exchangeCode (challenge : String → String) (m : OAuthManager) (now : Time)
    (code codeVerifier clientID redirectURI atHex rtHex : String) :
    OAuthManager × Except String TokenResponse :=
  if code = "" then (m, .error "missing authorization code")
  else match m.codes code with
    | none => ({ m with codes := m.codes.del code }, .error "invalid or expired authorization code")
    | some authCode =>
      if now > authCode.expiresAt then
        ({ m with codes := m.codes.del code }, .error "invalid or expired authorization code")
      else if challenge codeVerifier ≠ authCode.codeChallenge then
        (m, .error "PKCE verification failed: invalid code_verifier")
      else if authCode.redirectURI ≠ "" ∧ redirectURI ≠ "" ∧ authCode.redirectURI ≠ redirectURI then
        (m, .error "redirect_uri mismatch")
      else
        let m := { m with codes := m.codes.del code }
        let tok : OAuthToken :=
          { accessToken := "pergo_mcp_at_" ++ atHex, refreshToken := "pergo_mcp_rt_" ++ rtHex,
            clientID := clientID, workspaceID := authCode.workspaceID, expiresAt := now + hour }
        (m.addToken tok, .ok (tokenResponse tok.accessToken tok.refreshToken))

/-- The record is changed in place, so every access token that leads to it sees the new expiry.
mirrors oauth.go:205-227 -/
def refreshAccess (m : OAuthManager) (now : Time) (refreshToken atHex : String) :
    OAuthManager × Except String TokenResponse :=
  if refreshToken = "" then (m, .error "missing refresh_token")
  else
    match (m.refresh refreshToken).bind fun p => (m.heap[p]?).map fun tok => (p, tok) with
    | none => (m, .error "invalid or expired refresh token")
    | some (p, tok) =>
      if now > tok.expiresAt + 30 * 24 * hour then (m, .error "invalid or expired refresh token")
      else
        let access := "pergo_mcp_at_" ++ atHex
        ({ m with heap := m.heap.set p { tok with accessToken := access, expiresAt := now + hour },
                  tokens := m.tokens.set access p },
          .ok (tokenResponse access refreshToken))

/-- mirrors oauth.go:155-233 -/
def exchangeToken (challenge : String → String) (m : OAuthManager) (now : Time)
    (grantType code codeVerifier clientID redirectURI refreshToken atHex rtHex : String) :
    OAuthManager × Except String TokenResponse :=
  if grantType = "authorization_code" then
    exchangeCode challenge m now code codeVerifier clientID redirectURI atHex rtHex
  else if grantType = "refresh_token" then refreshAccess m now refreshToken atHex
  else (m, .error ("unsupported grant_type: " ++ grantType))

def recordOf (m : OAuthManager) (token : String) : Option OAuthToken := (m.tokens token).bind fun p => m.heap[p]?

/-- mirrors oauth.go:236-250 -/
def validateAccessToken (m : OAuthManager) (now : Time) (token : String) : Option UUID :=
  match m.recordOf token with
  | none => none
  | some tok => if now > tok.expiresAt then none else some tok.workspaceID

end OAuthManager

/-! ## What the manager's methods do -/

section Methods

variable (challenge : String → String) (m : OAuthManager)

theorem authorize_spec (now : Time) (clientID redirectURI codeChallenge codeChallengeMethod : String) (ws : UUID)
    (hex : String) :
    (∃ e, m.authorize now clientID redirectURI codeChallenge codeChallengeMethod ws hex = (m, .error e)) ∨
    ∃ a clients, m.authorize now clientID redirectURI codeChallenge codeChallengeMethod ws hex =
        ({ m with clients := clients, codes := m.codes.set a.code a }, .ok a) ∧
      a = ⟨a.code, clientID, redirectURI, codeChallenge, codeChallengeMethod, ws, a.expiresAt⟩ ∧
      a.code = "code_" ++ hex ∧ a.expiresAt = now + 5 * minute := by
  unfold OAuthManager.authorize
  split
  · exact Or.inl ⟨_, rfl⟩
  split
  · exact Or.inl ⟨_, rfl⟩
  · right
    unfold OAuthManager.autoRegister
    split
    · exact ⟨_, _, rfl, rfl, rfl, rfl⟩
    · exact ⟨_, m.clients, rfl, rfl, rfl, rfl⟩

theorem exchangeCode_spec (now : Time) (code verifier clientID redirectURI atHex rtHex : String) :
    (∃ e codes, m.exchangeCode challenge now code verifier clientID redirectURI atHex rtHex =
        ({ m with codes := codes }, .error e) ∧ (codes = m.codes ∨ codes = m.codes.del code)) ∨
    ∃ a, m.codes code = some a ∧ now ≤ a.expiresAt ∧ challenge verifier = a.codeChallenge ∧
      ¬ (a.redirectURI ≠ "" ∧ redirectURI ≠ "" ∧ a.redirectURI ≠ redirectURI) ∧
      m.exchangeCode challenge now code verifier clientID redirectURI atHex rtHex =
        (({ m with codes := m.codes.del code } : OAuthManager).addToken
          ⟨"pergo_mcp_at_" ++ atHex, "pergo_mcp_rt_" ++ rtHex, clientID, a.workspaceID, now + hour⟩,
        .ok (OAuthManager.tokenResponse ("pergo_mcp_at_" ++ atHex) ("pergo_mcp_rt_" ++ rtHex))) := by
  unfold OAuthManager.exchangeCode
  split
  · exact Or.inl ⟨_, m.codes, rfl, Or.inl rfl⟩
  split
  · exact Or.inl ⟨_, _, rfl, Or.inr rfl⟩
  rename_i a ha
  split
  · exact Or.inl ⟨_, _, rfl, Or.inr rfl⟩
  rename_i hnow
  split
  · exact Or.inl ⟨_, m.codes, rfl, Or.inl rfl⟩
  rename_i hch
  split
  · exact Or.inl ⟨_, m.codes, rfl, Or.inl rfl⟩
  rename_i hred
  exact Or.inr ⟨a, ha, Int.not_lt.mp hnow, not_not.mp hch, hred, rfl⟩

theorem refreshAccess_spec (now : Time) (refreshToken atHex : String) :
    (∃ e, m.refreshAccess now refreshToken atHex = (m, .error e)) ∨
    ∃ p tok, m.refresh refreshToken = some p ∧ m.heap[p]? = some tok ∧
      m.refreshAccess now refreshToken atHex =
        ({ m with heap := m.heap.set p { tok with accessToken := "pergo_mcp_at_" ++ atHex, expiresAt := now + hour },
                  tokens := m.tokens.set ("pergo_mcp_at_" ++ atHex) p },
          .ok (OAuthManager.tokenResponse ("pergo_mcp_at_" ++ atHex) refreshToken)) := by
  unfold OAuthManager.refreshAccess
  split
  · exact Or.inl ⟨_, rfl⟩
  split
  · exact Or.inl ⟨_, rfl⟩
  rename_i p tok hfound
  split
  · exact Or.inl ⟨_, rfl⟩
  · right
    obtain ⟨p', hp', hmap⟩ := Option.bind_eq_some_iff.mp hfound
    obtain ⟨tok', htok', heq⟩ := Option.map_eq_some_iff.mp hmap
    cases heq
    exact ⟨p, tok, hp', htok', rfl⟩

end Methods

/-- The workspace a caller is confined to; `none` is the unscoped access of the master key.
mirrors mcp/gateway.go:121-126 -/
def gatewayScope (wsID : UUID) : Option UUID := if wsID ≠ UUID.Nil then some wsID else none

end PerGo.L3
