import PerGo.L3Channel.FlowToken
import PerGo.L3Webhook.Signature

/-!
# Single sign-on

`admin/sso.go`. An assertion comes as a token, in the query or in the `Authorization`
header, or as signed query parameters, and leads to the session cookie of the panel. A token is the base64
of its claims' JSON, a dot, and the base64 of a signature over the JSON; three parts, and signatures over the
base64 text, are taken too. The query is signed in hexadecimal.

* HMAC-SHA256, `uuid.Parse`, the workspaces, the locales and the URL parser are `Externals`. Clocks are Unix
  seconds.
* `verifySSOToken_ok`: what an accepted token has. `verify_generate`: a generated token is read back.
-/
namespace PerGo.L3.SSO

open PerGo.L1 PerGo.L2
open PerGo.L1.JsonText (Node Scalar writeObject parse parse_writeObject)
open PerGo.L3.FlowToken (stringField int64Field)
open PerGo.L3.Webhook (hexEncode)

/-- What the handler calls. -/
structure Externals where
  hmac : List UInt8 → List UInt8 → List UInt8
  /-- `mw.GetSessionSecret()` -/
  sessionSecret : List UInt8
  parseUUID : String → Option UUID
  /-- `GetByID` and the first workspace of `List`; `none` when the handler has no repository -/
  workspaces : Option ((UUID → Option UUID) × Option UUID)
  defaultLocale : String
  normalizeLocale : String → String
  /-- `url.Parse` reads it, without a scheme and a host -/
  pathOnly : String → Bool

/-- mirrors sso.go:44-53 -/
structure SSOClaims where
  sub : String
  email : String
  workspaceID : String
  role : String
  iat : Int
  exp : Int
  nonce : String
  locale : String

def SSOClaims.zero : SSOClaims := ⟨"", "", "", "", 0, 0, "", ""⟩

def maxSSOTokenTTLSeconds : Int := 120

def clockSkewLeeway : Int := 60

inductive SSOError
  | format
  | payloadEncoding
  | signatureEncoding
  | signature
  | claimsJSON
  | badRole (role : String)
  | expRequired
  | expired
  | future
  | ttlExceeded

/-- `err.Error()` -/
def SSOError.text : SSOError → String
  | .format => "invalid sso token format"
  | .payloadEncoding => "invalid sso token format: invalid payload encoding"
  | .signatureEncoding => "invalid sso token format: invalid signature encoding"
  | .signature => "invalid signature"
  | .claimsJSON => "invalid sso token format: invalid claims JSON"
  | .badRole role => "invalid sso token format: invalid role '" ++ role ++ "'"
  | .expRequired => "invalid sso token format: exp claim is required"
  | .expired => "token expired"
  | .future => "token issued in the future"
  | .ttlExceeded => "token ttl exceeds maximum allowed of 120 seconds"

/-! ## Claims as JSON -/

/-- `json:",omitempty"` on a string. -/
def optional (name s : String) : List (String × Scalar) := if s = "" then [] else [(name, .str s)]

def SSOClaims.fields (c : SSOClaims) : List (String × Scalar) :=
  optional "sub" c.sub ++ optional "email" c.email ++ optional "workspace_id" c.workspaceID ++ optional "role" c.role ++
    (if c.iat = 0 then [] else [("iat", .int c.iat)]) ++ ("exp", .int c.exp) :: optional "nonce" c.nonce ++
      optional "locale" c.locale

def setField (c : SSOClaims) (kv : List Char × Node) : Option SSOClaims :=
  let name := foldName (String.ofList kv.1)
  if name = foldName "sub" then (stringField c.sub kv.2).map fun v => { c with sub := v }
  else if name = foldName "email" then (stringField c.email kv.2).map fun v => { c with email := v }
  else if name = foldName "workspace_id" then (stringField c.workspaceID kv.2).map fun v => { c with workspaceID := v }
  else if name = foldName "role" then (stringField c.role kv.2).map fun v => { c with role := v }
  else if name = foldName "iat" then (int64Field c.iat kv.2).map fun v => { c with iat := v }
  else if name = foldName "exp" then (int64Field c.exp kv.2).map fun v => { c with exp := v }
  else if name = foldName "nonce" then (stringField c.nonce kv.2).map fun v => { c with nonce := v }
  else if name = foldName "locale" then (stringField c.locale kv.2).map fun v => { c with locale := v }
  else some c

/-- `json.Unmarshal`: a `null` leaves the zero claims, any other value but an object is an error. -/
def unmarshal (text : List Char) : Option SSOClaims :=
  match parse text with
  | some .null => some .zero
  | some (.obj kvs) => kvs.foldlM setField .zero
  | _ => none

/-! ## Tokens -/

/-- Four characters are three bytes; padding ends the text. -/
def paddedQuanta : List Char → Option (List UInt8)
  | [] => some []
  | a :: b :: c :: d :: rest =>
    if d = '=' then
      if rest ≠ [] then none
      else if c = '=' then ([a, b].mapM Base64.value).bind Base64.unpack
      else ([a, b, c].mapM Base64.value).bind Base64.unpack
    else do
      let bs ← ([a, b, c, d].mapM Base64.value).bind Base64.unpack
      return bs ++ (← paddedQuanta rest)
  | _ => none

/-- `base64.URLEncoding.DecodeString` -/
def decodePadded (s : List Char) : Option (List UInt8) := paddedQuanta (s.filter fun c => c ≠ '\r' && c ≠ '\n')

/-- mirrors sso.go:360-368 -/
def decodeBase64URL (s : List Char) : Option (List UInt8) :=
  match Base64.decode s with
  | some b => some b
  | none => decodePadded s

section Tokens

variable (ext : Externals)

def keyOf (secret : List UInt8) : List UInt8 := if secret = [] then ext.sessionSecret else secret

/-- The payload part and the signature part, with the text a JWT signs. mirrors
sso.go:247-260 -/
def tokenParts (token : String) : Option (List Char × List Char × Option (List Char)) :=
  match token.toList.splitOn '.' with
  | [payload, sig] => some (payload, sig, none)
  | [header, payload, sig] => some (payload, sig, some (header ++ '.' :: payload))
  | _ => none

/-- The signature is one of the payload, of its base64 text, or of the text a JWT signs. mirrors
sso.go:272-292 -/
def validSig (key : List UInt8) (payloadPart : List Char) (jwt : Option (List Char)) (payloadBytes sigBytes : List UInt8) : Bool :=
  sigBytes = ext.hmac key payloadBytes || sigBytes = ext.hmac key (utf8 payloadPart) ||
    jwt.any fun text => sigBytes = ext.hmac key (utf8 text)

/-- The claims must be in force. mirrors sso.go:303-330 -/
def checkClaims (now : Int) (claims : SSOClaims) : Except SSOError SSOClaims :=
  if claims.role ≠ "" ∧ claims.role ≠ "admin" then .error (.badRole claims.role)
  else if claims.exp ≤ 0 then .error .expRequired
  else if claims.exp < now then .error .expired
  else if claims.iat > now + clockSkewLeeway then .error .future
  else if claims.iat > 0 ∧ claims.exp - claims.iat > maxSSOTokenTTLSeconds then .error .ttlExceeded
  else if claims.exp - now > maxSSOTokenTTLSeconds then .error .ttlExceeded
  else .ok claims

/-- mirrors sso.go:242-331 -/
def verifySSOToken (now : Int) (token : String) (secret : List UInt8) : Except SSOError SSOClaims :=
  match tokenParts token with
  | none => .error .format
  | some (payloadPart, sigPart, jwt) =>
    match decodeBase64URL payloadPart with
    | none => .error .payloadEncoding
    | some payloadBytes =>
      match decodeBase64URL sigPart with
      | none => .error .signatureEncoding
      | some sigBytes =>
        if validSig ext (keyOf ext secret) payloadPart jwt payloadBytes sigBytes then
          match unmarshal (runes payloadBytes) with
          | none => .error .claimsJSON
          | some claims => checkClaims now claims
        else .error .signature

/-- The defaults of a token; `nonce` is drawn. mirrors sso.go:211-226 -/
def withDefaults (now : Int) (nonce : String) (c : SSOClaims) : SSOClaims :=
  let c := if c.iat = 0 then { c with iat := now } else c
  let c := if c.exp = 0 then { c with exp := c.iat + 60 } else c
  let c := if c.role = "" then { c with role := "admin" } else c
  if c.nonce = "" then { c with nonce := nonce } else c

/-- mirrors sso.go:206-239 -/
def generateSSOToken (now : Int) (nonce : String) (c : SSOClaims) (secret : List UInt8) : String :=
  let payload := utf8 (writeObject (withDefaults now nonce c).fields)
  String.ofList (Base64.encode payload ++ '.' :: Base64.encode (ext.hmac (keyOf ext secret) payload))

/-! ## The request -/

structure SSORequest where
  /-- `QueryParam`, empty when there is none -/
  query : String → String
  /-- the `Authorization` header -/
  authorization : String

inductive SSOReply
  | unauthorized (message : String)
  /-- the session cookie, the cookie of the active workspace and of the locale, and where to go -/
  | signedIn (activeWorkspace : Option UUID) (locale : Option String) (location : String)
deriving DecidableEq

/-- The token of a request. mirrors sso.go:75-81 -/
def tokenOf (req : SSORequest) : String :=
  let token := trimSpace (req.query "token")
  if token ≠ "" then token
  else if hasPrefix (toLower req.authorization) "bearer " then trimSpace (String.ofList (req.authorization.toList.drop 7))
  else ""

/-- `fmt.Sprintf("%s:%s:%s:%d", …)` -/
def signedText (workspaceID userID role : String) (exp : Int) : String :=
  workspaceID ++ ":" ++ userID ++ ":" ++ role ++ ":" ++ formatInt exp

/-- The signed query parameters. mirrors sso.go:99-136 -/
def queryClaims (now : Int) (req : SSORequest) (key : List UInt8) (sig : String) : Except String SSOClaims :=
  match parseInt64 (req.query "expires_at") with
  | none => .error "invalid expires_at in sso query"
  | some exp =>
    if exp ≤ 0 then .error "invalid expires_at in sso query"
    else if exp < now then .error "token expired"
    else
      let msg := signedText (req.query "workspace_id") (req.query "user_id") (req.query "role") exp
      if hexEncode (ext.hmac key (utf8 msg.toList)) = sig then
        .ok { SSOClaims.zero with
          sub := req.query "user_id", workspaceID := req.query "workspace_id", role := req.query "role", exp := exp,
          locale := req.query "locale" }
      else .error "invalid signature"

/-- The claims of a request. mirrors sso.go:83-140 -/
def claimsOf (now : Int) (req : SSORequest) (secret : List UInt8) : Except String SSOClaims :=
  let token := tokenOf req
  if token ≠ "" then (verifySSOToken ext now token (keyOf ext secret)).mapError SSOError.text
  else
    let sig := trimSpace (req.query "signature")
    if sig ≠ "" then queryClaims ext now req (keyOf ext secret) sig else .error "missing sso token"

/-- mirrors sso.go:142-170 -/
def targetWorkspace (claims : SSOClaims) : Except String (Option UUID) :=
  if claims.workspaceID ≠ "" then
    match (ext.parseUUID claims.workspaceID).filter (· ≠ UUID.Nil) with
    | none => .error "invalid workspace_id in token claims"
    | some id =>
      match ext.workspaces with
      | none => .ok (some id)
      | some (getByID, _) =>
        match getByID id with
        | none => .error "workspace not found"
        | some ws => .ok (some ws)
  else .ok (ext.workspaces.bind (·.2))

/-- mirrors sso.go:335-358 -/
def sanitizeRedirect (redirect : String) : String :=
  let redirect := trimSpace redirect
  if redirect = "" then "/admin/"
  else if redirect.toList.any fun c => c = '\r' || c = '\n' || c = '\\' then "/admin/"
  else if !hasPrefix redirect "/" || hasPrefix redirect "//" then "/admin/"
  else if !ext.pathOnly redirect then "/admin/"
  else redirect

/-- mirrors sso.go:72-203 -/
def handleSSO (now : Int) (req : SSORequest) (secret : List UInt8) : SSOReply :=
  match claimsOf ext now req secret with
  | .error message => .unauthorized message
  | .ok claims =>
    match targetWorkspace ext claims with
    | .error message => .unauthorized message
    | .ok target =>
      let locale := ext.normalizeLocale (if claims.locale = "" then ext.defaultLocale else claims.locale)
      .signedIn (target.filter (· ≠ UUID.Nil)) (if locale = "" then none else some locale)
        (sanitizeRedirect ext (req.query "redirect"))

/-! ## What is accepted -/

def InForce (now : Int) (c : SSOClaims) : Prop := (c.role = "" ∨ c.role = "admin") ∧ now ≤ c.exp ∧ c.exp ≤ now + 120

variable {ext}

theorem checkClaims_ok {now : Int} {claims c : SSOClaims} (h : checkClaims now claims = .ok c) : c = claims ∧ InForce now c := by
  unfold checkClaims at h
  split at h
  · cases h
  rename_i hrole
  split at h
  · cases h
  split at h
  · cases h
  split at h
  · cases h
  split at h
  · cases h
  split at h
  · cases h
  cases h
  have hmax : maxSSOTokenTTLSeconds = 120 := rfl
  refine ⟨rfl, ?_, by omega, by omega⟩
  by_contra hno
  exact hrole (not_or.mp hno)

theorem verifySSOToken_ok {now : Int} {token : String} {secret : List UInt8} {claims : SSOClaims}
    (h : verifySSOToken ext now token secret = .ok claims) :
    ∃ payloadPart sigPart jwt payloadBytes sigBytes, tokenParts token = some (payloadPart, sigPart, jwt) ∧
      decodeBase64URL payloadPart = some payloadBytes ∧ decodeBase64URL sigPart = some sigBytes ∧
      validSig ext (keyOf ext secret) payloadPart jwt payloadBytes sigBytes = true ∧
      unmarshal (runes payloadBytes) = some claims ∧ InForce now claims := by
  unfold verifySSOToken at h
  split at h
  · cases h
  · rename_i payloadPart sigPart jwt hparts
    split at h
    · cases h
    · rename_i payloadBytes hpayload
      split at h
      · cases h
      · rename_i sigBytes hsig
        split at h
        · rename_i hvalid
          split at h
          · cases h
          · rename_i c hclaims
            obtain ⟨rfl, hforce⟩ := checkClaims_ok h
            exact ⟨payloadPart, sigPart, jwt, payloadBytes, sigBytes, hparts, hpayload, hsig, hvalid, hclaims, hforce⟩
        · cases h

/-! ## A token is read back -/

theorem foldlM_optional {name s : String} {c : SSOClaims} (c' : SSOClaims)
    (hset : setField c (name.toList, .str s.toList) = some c') (hempty : s = "" → c' = c) :
    ((optional name s).map fun kv => (kv.1.toList, kv.2.node)).foldlM setField c = some c' := by
  unfold optional
  by_cases hs : s = ""
  · rw [if_pos hs, hempty hs]
    rfl
  · rw [if_neg hs, List.map_singleton, List.foldlM_cons, Scalar.node, hset]
    rfl

theorem unmarshal_fields {c : SSOClaims} (hiat : -(2 ^ 63) ≤ c.iat ∧ c.iat < 2 ^ 63) (hexp : -(2 ^ 63) ≤ c.exp ∧ c.exp < 2 ^ 63) :
    unmarshal (writeObject c.fields) = some c := by
  have hemail : foldName "email" ≠ foldName "sub" := by decide +kernel
  have hws : foldName "workspace_id" ≠ foldName "sub" ∧ foldName "workspace_id" ≠ foldName "email" := by decide +kernel
  have hrole : foldName "role" ≠ foldName "sub" ∧ foldName "role" ≠ foldName "email" ∧
      foldName "role" ≠ foldName "workspace_id" := by
    decide +kernel
  have hiatName : foldName "iat" ≠ foldName "sub" ∧ foldName "iat" ≠ foldName "email" ∧
      foldName "iat" ≠ foldName "workspace_id" ∧ foldName "iat" ≠ foldName "role" := by
    decide +kernel
  have hexpName : foldName "exp" ≠ foldName "sub" ∧ foldName "exp" ≠ foldName "email" ∧
      foldName "exp" ≠ foldName "workspace_id" ∧ foldName "exp" ≠ foldName "role" ∧ foldName "exp" ≠ foldName "iat" := by
    decide +kernel
  have hnonce : foldName "nonce" ≠ foldName "sub" ∧ foldName "nonce" ≠ foldName "email" ∧
      foldName "nonce" ≠ foldName "workspace_id" ∧ foldName "nonce" ≠ foldName "role" ∧ foldName "nonce" ≠ foldName "iat" ∧
      foldName "nonce" ≠ foldName "exp" := by
    decide +kernel
  have hlocale : foldName "locale" ≠ foldName "sub" ∧ foldName "locale" ≠ foldName "email" ∧
      foldName "locale" ≠ foldName "workspace_id" ∧ foldName "locale" ≠ foldName "role" ∧ foldName "locale" ≠ foldName "iat" ∧
      foldName "locale" ≠ foldName "exp" ∧ foldName "locale" ≠ foldName "nonce" := by
    decide +kernel
  unfold unmarshal
  rw [parse_writeObject]
  dsimp only
  simp only [SSOClaims.fields, List.map_append, List.map_cons, List.foldlM_append]
  rw [foldlM_optional ⟨c.sub, "", "", "", 0, 0, "", ""⟩
    (by simp only [setField, String.ofList_toList, if_true, stringField, Option.map_some, SSOClaims.zero])
    fun h => by rw [h]; rfl]
  simp only [Option.bind_eq_bind, Option.bind_some]
  rw [foldlM_optional ⟨c.sub, c.email, "", "", 0, 0, "", ""⟩
    (by simp only [setField, String.ofList_toList, hemail, if_true, if_false, stringField, Option.map_some]) fun h => by rw [h]]
  simp only [Option.bind_some]
  rw [foldlM_optional ⟨c.sub, c.email, c.workspaceID, "", 0, 0, "", ""⟩
    (by simp only [setField, String.ofList_toList, hws, if_true, if_false, stringField, Option.map_some]) fun h => by rw [h]]
  simp only [Option.bind_some]
  rw [foldlM_optional ⟨c.sub, c.email, c.workspaceID, c.role, 0, 0, "", ""⟩
    (by simp only [setField, String.ofList_toList, hrole, if_true, if_false, stringField, Option.map_some]) fun h => by rw [h]]
  simp only [Option.bind_some]
  have hstep : ((if c.iat = 0 then [] else [("iat", Scalar.int c.iat)]).map fun kv => (kv.1.toList, kv.2.node)).foldlM setField
      ⟨c.sub, c.email, c.workspaceID, c.role, 0, 0, "", ""⟩ =
        some ⟨c.sub, c.email, c.workspaceID, c.role, c.iat, 0, "", ""⟩ := by
    by_cases h0 : c.iat = 0
    · rw [if_pos h0, h0]
      rfl
    · simp only [if_neg h0, List.map_cons, List.map_nil, List.foldlM_cons, List.foldlM_nil, Scalar.node, setField,
        String.ofList_toList, hiatName, if_true, if_false, int64Field, parseInt64_formatInt hiat, Option.map_some,
        Option.bind_eq_bind, Option.bind_some, pure]
  rw [hstep]
  simp only [Option.bind_some, List.foldlM_cons]
  have hstep' : setField ⟨c.sub, c.email, c.workspaceID, c.role, c.iat, 0, "", ""⟩ ("exp".toList, Scalar.node (.int c.exp)) =
      some ⟨c.sub, c.email, c.workspaceID, c.role, c.iat, c.exp, "", ""⟩ := by
    simp only [Scalar.node, setField, String.ofList_toList, hexpName, if_true, if_false, int64Field,
      parseInt64_formatInt hexp, Option.map_some]
  rw [hstep']
  simp only [Option.bind_eq_bind, Option.bind_some]
  rw [foldlM_optional ⟨c.sub, c.email, c.workspaceID, c.role, c.iat, c.exp, c.nonce, ""⟩
    (by simp only [setField, String.ofList_toList, hnonce, if_true, if_false, stringField, Option.map_some]) fun h => by rw [h]]
  simp only [Option.bind_some]
  exact foldlM_optional c
    (by simp only [setField, String.ofList_toList, hlocale, if_true, if_false, stringField, Option.map_some])
    fun h => by cases c; cases h; rfl

theorem decodeBase64URL_encode (bs : List UInt8) : decodeBase64URL (Base64.encode bs) = some bs := by
  rw [decodeBase64URL, Base64.decode_encode]

theorem tokenParts_encode (payload sig : List UInt8) :
    tokenParts (String.ofList (Base64.encode payload ++ '.' :: Base64.encode sig)) =
      some (Base64.encode payload, Base64.encode sig, none) := by
  have hpayload : '.' ∉ Base64.encode payload := fun h => (Base64.mem_encode h).2.2 rfl
  have hsig : '.' ∉ Base64.encode sig := fun h => (Base64.mem_encode h).2.2 rfl
  rw [tokenParts, String.toList_ofList, List.splitOn_append_cons_self_of_not_mem hpayload, List.splitOn_eq_singleton hsig]

theorem keyOf_keyOf (secret : List UInt8) : keyOf ext (keyOf ext secret) = keyOf ext secret := by
  unfold keyOf
  split_ifs <;> simp_all

theorem verify_generate {c : SSOClaims} {t₀ : Int} {nonce : String}
    (hiat : -(2 ^ 63) ≤ (withDefaults t₀ nonce c).iat ∧ (withDefaults t₀ nonce c).iat < 2 ^ 63)
    (hexp : -(2 ^ 63) ≤ (withDefaults t₀ nonce c).exp ∧ (withDefaults t₀ nonce c).exp < 2 ^ 63)
    (now : Int) (secret : List UInt8) :
    verifySSOToken ext now (generateSSOToken ext t₀ nonce c secret) secret = checkClaims now (withDefaults t₀ nonce c) := by
  unfold verifySSOToken generateSSOToken
  simp only [tokenParts_encode, decodeBase64URL_encode, runes_utf8, unmarshal_fields hiat hexp]
  rw [if_pos (by simp [validSig])]

end Tokens

end PerGo.L3.SSO
