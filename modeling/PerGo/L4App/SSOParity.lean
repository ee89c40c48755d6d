import PerGo.L3Auth.SSO

/-!
# The two ways into the panel

`VerifySSOToken` checks the role, the expiry and the longest time to live. The branch of `HandleSSO` for
signed query parameters checks that the expiry is not past, and nothing else of these: a link that the secret
signed for a viewer, or for a year, opens the same session.

* `signedIn_iff`: when the handler signs in.
* `token_in_force`, `query_authentic`: what each way has checked.
* `sso_rules_iff`: the rules hold of a request exactly when it has a token, or its query keeps them by
  itself or is refused; and a token with default times is accepted for its minute.
-/
namespace PerGo.L4.SSOParity

open PerGo.L1 PerGo.L2 PerGo.L3.SSO
open PerGo.L3.Webhook (hexEncode)

variable {ext : Externals} {now : Int} {req : SSORequest} {secret : List UInt8}

inductive Authentic (ext : Externals) (key : List UInt8) (req : SSORequest) : SSOClaims → Prop
  | token {claims : SSOClaims} {payloadPart sigPart : List Char} {jwt : Option (List Char)} {payloadBytes sigBytes text : List UInt8} :
      tokenParts (tokenOf req) = some (payloadPart, sigPart, jwt) → decodeBase64URL payloadPart = some payloadBytes →
      decodeBase64URL sigPart = some sigBytes → unmarshal (runes payloadBytes) = some claims → sigBytes = ext.hmac key text →
      (text = payloadBytes ∨ text = utf8 payloadPart ∨ ∃ t, jwt = some t ∧ text = utf8 t) → Authentic ext key req claims
  | query {claims : SSOClaims} :
      tokenOf req = "" → claims.sub = req.query "user_id" → claims.workspaceID = req.query "workspace_id" →
      claims.role = req.query "role" → parseInt64 (req.query "expires_at") = some claims.exp →
      trimSpace (req.query "signature") =
        hexEncode (ext.hmac key (utf8 (signedText claims.workspaceID claims.sub claims.role claims.exp).toList)) →
      Authentic ext key req claims

def SessionRules (ext : Externals) (now : Int) (req : SSORequest) (secret : List UInt8) : Prop :=
  ∀ ws locale location, handleSSO ext now req secret = .signedIn ws locale location →
    ∃ claims, claimsOf ext now req secret = .ok claims ∧ Authentic ext (keyOf ext secret) req claims ∧ InForce now claims

/-! ## What is checked -/

theorem signedIn_iff :
    (∃ ws locale location, handleSSO ext now req secret = .signedIn ws locale location) ↔
      ∃ claims target, claimsOf ext now req secret = .ok claims ∧ targetWorkspace ext claims = .ok target := by
  unfold handleSSO
  cases hclaims : claimsOf ext now req secret with
  | error message => simp
  | ok claims =>
    cases htarget : targetWorkspace ext claims with
    | error message => simp [htarget]
    | ok target => simp [htarget]

theorem token_in_force {claims : SSOClaims} (htoken : tokenOf req ≠ "") (h : claimsOf ext now req secret = .ok claims) :
    Authentic ext (keyOf ext secret) req claims ∧ InForce now claims := by
  unfold claimsOf at h
  rw [if_pos htoken] at h
  cases hverify : verifySSOToken ext now (tokenOf req) (keyOf ext secret) with
  | error e =>
    rw [hverify] at h
    cases h
  | ok c =>
    rw [hverify] at h
    cases h
    obtain ⟨payloadPart, sigPart, jwt, payloadBytes, sigBytes, hparts, hpayload, hsig, hvalid, hclaims, hforce⟩ :=
      verifySSOToken_ok hverify
    refine ⟨?_, hforce⟩
    rw [keyOf_keyOf] at hvalid
    simp only [validSig, Bool.or_eq_true, decide_eq_true_eq] at hvalid
    rcases hvalid with (hsigned | hsigned) | hsigned
    · exact .token hparts hpayload hsig hclaims hsigned (Or.inl rfl)
    · exact .token hparts hpayload hsig hclaims hsigned (Or.inr (Or.inl rfl))
    · cases jwt with
      | none => cases hsigned
      | some t =>
        rw [Option.any_some, decide_eq_true_eq] at hsigned
        exact .token hparts hpayload hsig hclaims hsigned (Or.inr (Or.inr ⟨t, rfl, rfl⟩))

structure SignedQuery (ext : Externals) (now : Int) (req : SSORequest) (key : List UInt8) (exp : Int) : Prop where
  parsed : parseInt64 (req.query "expires_at") = some exp
  positive : 0 < exp
  notPast : now ≤ exp
  present : trimSpace (req.query "signature") ≠ ""
  signed : hexEncode (ext.hmac key
    (utf8 (signedText (req.query "workspace_id") (req.query "user_id") (req.query "role") exp).toList)) =
      trimSpace (req.query "signature")

def queryClaimsOf (req : SSORequest) (exp : Int) : SSOClaims :=
  { SSOClaims.zero with
    sub := req.query "user_id", workspaceID := req.query "workspace_id", role := req.query "role", exp := exp,
    locale := req.query "locale" }

theorem claimsOf_query_iff {claims : SSOClaims} (htoken : tokenOf req = "") :
    claimsOf ext now req secret = .ok claims ↔
      ∃ exp, SignedQuery ext now req (keyOf ext secret) exp ∧ claims = queryClaimsOf req exp := by
  unfold claimsOf queryClaims
  rw [if_neg (by simpa using htoken)]
  dsimp only
  constructor
  · intro h
    split at h
    · rename_i hpresent
      split at h
      · cases h
      · rename_i exp hparsed
        split at h
        · cases h
        rename_i hpos
        split at h
        · cases h
        rename_i hpast
        split at h
        · rename_i hsigned
          cases h
          exact ⟨exp, ⟨hparsed, by omega, by omega, hpresent, hsigned⟩, rfl⟩
        · cases h
    · cases h
  · rintro ⟨exp, h, rfl⟩
    have hpos := h.positive
    have hpast := h.notPast
    rw [if_pos h.present, h.parsed]
    dsimp only
    rw [if_neg (by omega), if_neg (by omega), if_pos h.signed]
    rfl

theorem query_authentic {exp : Int} (htoken : tokenOf req = "") (h : SignedQuery ext now req (keyOf ext secret) exp) :
    Authentic ext (keyOf ext secret) req (queryClaimsOf req exp) :=
  .query htoken rfl rfl rfl h.parsed h.signed.symm

/-! ## The rules -/

/-- The parameters of a query that the handler takes keep the rules by themselves. -/
def QueryWithin (ext : Externals) (now : Int) (req : SSORequest) (secret : List UInt8) : Prop :=
  ∀ exp target, SignedQuery ext now req (keyOf ext secret) exp → targetWorkspace ext (queryClaimsOf req exp) = .ok target →
    (req.query "role" = "" ∨ req.query "role" = "admin") ∧ exp ≤ now + 120

theorem sessionRules_iff : SessionRules ext now req secret ↔ tokenOf req ≠ "" ∨ QueryWithin ext now req secret := by
  constructor
  · intro h
    by_cases htoken : tokenOf req = ""
    · right
      intro exp target hsigned htarget
      have hclaims := (claimsOf_query_iff htoken).mpr ⟨exp, hsigned, rfl⟩
      obtain ⟨ws, locale, location, hin⟩ := signedIn_iff.mpr ⟨_, target, hclaims, htarget⟩
      obtain ⟨claims, hclaims', -, hforce⟩ := h ws locale location hin
      rw [hclaims] at hclaims'
      cases hclaims'
      exact ⟨hforce.1, hforce.2.2⟩
    · exact Or.inl htoken
  · intro h ws locale location hin
    obtain ⟨claims, target, hclaims, htarget⟩ := signedIn_iff.mp ⟨ws, locale, location, hin⟩
    refine ⟨claims, hclaims, ?_⟩
    by_cases htoken : tokenOf req = ""
    · obtain ⟨exp, hsigned, rfl⟩ := (claimsOf_query_iff htoken).mp hclaims
      obtain ⟨hrole, hexp⟩ := h.resolve_left (not_not.mpr htoken) exp target hsigned htarget
      exact ⟨query_authentic htoken hsigned, hrole, hsigned.notPast, hexp⟩
    · exact token_in_force htoken hclaims

/-! ## Tokens with default times -/

/-- The token that is generated at `t₀` is accepted from then until its expiry. -/
def AcceptedForItsMinute (ext : Externals) (secret : List UInt8) (t₀ : Int) (nonce : String) (c : SSOClaims) : Prop :=
  ∀ now, t₀ ≤ now → now ≤ t₀ + 60 →
    verifySSOToken ext now (generateSSOToken ext t₀ nonce c secret) secret = .ok (withDefaults t₀ nonce c)

theorem withDefaults_eq {c : SSOClaims} (hrole : c.role = "" ∨ c.role = "admin") (hiat : c.iat = 0) (hexp : c.exp = 0)
    (t₀ : Int) (nonce : String) :
    withDefaults t₀ nonce c =
      ⟨c.sub, c.email, c.workspaceID, "admin", t₀, t₀ + 60, if c.nonce = "" then nonce else c.nonce, c.locale⟩ := by
  obtain ⟨sub, email, workspaceID, role, iat, exp, nonce', locale⟩ := c
  dsimp only at hrole hiat hexp
  subst hiat hexp
  unfold withDefaults
  rcases hrole with rfl | rfl
  · by_cases hnonce : nonce' = "" <;> simp [hnonce]
  · by_cases hnonce : nonce' = "" <;> simp [hnonce]

theorem acceptedForItsMinute_iff {c : SSOClaims} {t₀ : Int} {nonce : String} (hrole : c.role = "" ∨ c.role = "admin")
    (hiat : c.iat = 0) (hexp : c.exp = 0) (hclock : -(2 ^ 63) ≤ t₀ ∧ t₀ + 60 < 2 ^ 63) :
    AcceptedForItsMinute ext secret t₀ nonce c ↔ 0 < t₀ + 60 := by
  have hdefaults := withDefaults_eq hrole hiat hexp t₀ nonce
  have hverify : ∀ now, verifySSOToken ext now (generateSSOToken ext t₀ nonce c secret) secret =
      checkClaims now (withDefaults t₀ nonce c) := by
    refine fun now => verify_generate ?_ ?_ now secret
    · rw [hdefaults]
      exact ⟨hclock.1, by dsimp only; omega⟩
    · rw [hdefaults]
      exact ⟨by dsimp only; omega, hclock.2⟩
  have hcheck : ∀ now, checkClaims now (withDefaults t₀ nonce c) =
      if t₀ + 60 ≤ 0 then .error .expRequired
      else if t₀ + 60 < now then .error .expired
      else if t₀ > now + 60 then .error .future
      else if t₀ + 60 - now > 120 then .error .ttlExceeded
      else .ok (withDefaults t₀ nonce c) := by
    intro now
    have hshort : ¬ (t₀ > 0 ∧ t₀ + 60 - t₀ > maxSSOTokenTTLSeconds) := by
      unfold maxSSOTokenTTLSeconds
      omega
    rw [checkClaims, hdefaults]
    dsimp only
    rw [if_neg (by simp), if_neg hshort]
    rfl
  constructor
  · intro h
    by_contra hneg
    have hfirst := h t₀ (Int.le_refl _) (by omega)
    rw [hverify, hcheck, if_pos (by omega)] at hfirst
    cases hfirst
  · intro hpos now hle hle'
    rw [hverify, hcheck, if_neg (by omega), if_neg (by omega), if_neg (by omega), if_neg (by omega)]

theorem sso_rules_iff (ext : Externals) (now : Int) (req : SSORequest) (secret : List UInt8) (c : SSOClaims) (t₀ : Int)
    (nonce : String) (hrole : c.role = "" ∨ c.role = "admin") (hiat : c.iat = 0) (hexp : c.exp = 0)
    (hclock : -(2 ^ 63) ≤ t₀ ∧ t₀ + 60 < 2 ^ 63) :
    (SessionRules ext now req secret ↔ tokenOf req ≠ "" ∨ QueryWithin ext now req secret) ∧
      (AcceptedForItsMinute ext secret t₀ nonce c ↔ 0 < t₀ + 60) :=
  ⟨sessionRules_iff, acceptedForItsMinute_iff hrole hiat hexp hclock⟩

/-! ## Examples -/

/-- The secret `test-sso-secret-32-bytes-long!`. -/
def sampleSecret : List UInt8 := utf8 "test-sso-secret-32-bytes-long!".toList

/-- HMAC-SHA256 under the secret of `:7:viewer:1831536000`, of `:7:admin:1800000060`, and of the claims of
`operator`. -/
def sampleHmac (_ message : List UInt8) : List UInt8 :=
  if message = utf8 ":7:viewer:1831536000".toList then
    [151, 106, 207, 194, 88, 64, 168, 98, 137, 15, 136, 107, 55, 58, 109, 209, 194, 57, 15, 64, 53, 79, 177, 69, 42, 240,
     81, 28, 194, 13, 166, 222]
  else if message = utf8 ":7:admin:1800000060".toList then
    [43, 9, 53, 66, 2, 26, 52, 12, 50, 173, 124, 231, 25, 242, 85, 96, 22, 18, 39, 46, 146, 50, 129, 9, 69, 52, 151, 194,
     54, 21, 133, 213]
  else
    [77, 95, 20, 131, 21, 137, 213, 175, 134, 3, 93, 170, 129, 226, 81, 11, 95, 198, 139, 95, 136, 249, 27, 252, 109, 55,
     68, 147, 137, 48, 50, 245]

def sampleExternals : Externals where
  hmac := sampleHmac
  sessionSecret := sampleSecret
  parseUUID := fun _ => none
  workspaces := none
  defaultLocale := "en"
  normalizeLocale := id
  pathOnly := fun _ => true

def link (role expiresAt signature : String) : SSORequest where
  query := fun name =>
    if name = "user_id" then "7" else if name = "role" then role else if name = "expires_at" then expiresAt
    else if name = "signature" then signature else ""
  authorization := ""

def adminLink : SSORequest := link "admin" "1800000060" "2b093542021a340c32ad7ce719f255601612272e92328109453497c2361585d5"

def viewerLink : SSORequest := link "viewer" "1831536000" "976acfc25840a862890f886b373a6dd1c2390f40354fb1452af0511cc20da6de"

def operator : SSOClaims := { SSOClaims.zero with sub := "operator@example.com" }

theorem admin_link_in_force :
    SessionRules sampleExternals 1800000000 adminLink sampleSecret ∧
      AcceptedForItsMinute sampleExternals sampleSecret 1800000000 "0123456789abcdef" operator := by
  have hboth := sso_rules_iff sampleExternals 1800000000 adminLink sampleSecret operator 1800000000
    "0123456789abcdef" (Or.inl rfl) rfl rfl (by decide)
  refine ⟨hboth.1.mpr (Or.inr ?_), hboth.2.mpr (by decide)⟩
  intro exp target hsigned _
  have hexp : parseInt64 (adminLink.query "expires_at") = some 1800000060 := by decide +kernel
  rw [hsigned.parsed] at hexp
  cases hexp
  exact ⟨Or.inr (by decide), by decide⟩

/-- A link for a viewer, with a year to live. -/
theorem viewer_signed_in :
    handleSSO sampleExternals 1800000000 viewerLink sampleSecret = .signedIn none (some "en") "/admin/" ∧
      viewerLink.query "role" = "viewer" ∧ parseInt64 (viewerLink.query "expires_at") = some (1800000000 + 365 * 86400) ∧
        ¬ SessionRules sampleExternals 1800000000 viewerLink sampleSecret := by
  have hin : handleSSO sampleExternals 1800000000 viewerLink sampleSecret = .signedIn none (some "en") "/admin/" := by
    decide +kernel
  refine ⟨hin, by decide, by decide +kernel, fun h => ?_⟩
  obtain ⟨claims, hclaims, -, hforce⟩ := h _ _ _ hin
  have hrole : (claimsOf sampleExternals 1800000000 viewerLink sampleSecret).toOption.map (·.role) = some "viewer" := by
    decide +kernel
  rw [hclaims] at hrole
  have hviewer : claims.role = "viewer" := Option.some.inj hrole
  rw [InForce, hviewer] at hforce
  exact absurd hforce.1 (by decide)

end PerGo.L4.SSOParity
