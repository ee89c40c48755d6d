import PerGo.L3Auth.Middleware

/-!
# The attested workspace and the one acted on

A reverse proxy attests, by an HMAC over its headers, for which workspace a
request is. The four middlewares of the admin group then write the tenant and
the scope in turn; the last one lets an operator scope be retargeted by a path
parameter, a header or a query parameter, none of which is signed.

* `attested_scope`: the handler sees the attested workspace exactly when it is
  not reached, the path is excluded, or nothing names another workspace; and an
  API key's request never sees a workspace but the key's.
* `retargeted_by_header`: one unsigned header is enough.
-/
namespace PerGo.L4.AttestedScope

open PerGo.L1 PerGo.L2 PerGo.L3

/-- The request carries a valid attestation for `ws`. -/
structure Attested (env : AuthEnv) (r : Request) (ws : UUID) : Prop where
  present : trimSpace (r.header "X-PerGo-Proxy-Signature") ≠ ""
  valid : signatureValid env r = true
  scope : env.parseUUID (trimSpace (r.header "X-PerGo-Workspace-Scope")) = some ws
  nonNil : ws ≠ UUID.Nil

/-- The handler is not reached, or sees `ws` as tenant and as the scope's workspace. -/
def Sees (ws : UUID) : Outcome → Prop
  | .next ctx => ctx.tenant = some ws ∧ ctx.scope.map (·.workspaceID) = some ws
  | _ => True

instance (ws : UUID) : (o : Outcome) → Decidable (Sees ws o)
  | .next _ => inferInstanceAs (Decidable (_ ∧ _))
  | .answered .. => isTrue trivial
  | .redirected .. => isTrue trivial

section Conditions

variable (env : AuthEnv) (r : Request) (ws : UUID)

def rowMissing : Bool :=
  match env.wsRepo with
  | none => true
  | some rows => !rows.getByID ws

/-- A check of the attestation, or the lookup of the workspace, ends the request. -/
def refused : Bool :=
  !timestampFresh env r || env.masterKey = "" || equalFold (r.header "X-PerGo-Actor-Role") "billing_admin" ||
    rowMissing env ws

/-- The workspace a request names, unsigned: by path parameter or, on a flat route, by header or query. -/
def namedWorkspace : Option UUID :=
  if r.workspaceParam ≠ "" then (env.parseUUID r.workspaceParam).filter (· ≠ UUID.Nil)
  else if targetHeader r = "" then none
  else (env.parseUUID (targetHeader r)).filter (· ≠ UUID.Nil)

end Conditions

section Chain

variable {env : AuthEnv} {r : Request} {ws : UUID}

/-- The context after the active workspace is set. -/
def attestedCtx (r : Request) (ws : UUID) : Ctx :=
  { workspaceID := some ws,
    actor := some (r.header "X-PerGo-Actor-ID", r.header "X-PerGo-Actor-Email", r.header "X-PerGo-Actor-Role"),
    proxyAuthenticated := true, apiKey := none, activeWorkspace := some ws, tenant := some ws,
    scope := some (newOperatorScope ws) }

theorem adminChain_refused (h : Attested env r ws) (hr : refused env r ws = true) :
    Sees ws (adminChain env r) := by
  unfold adminChain internalProxyAuth
  rw [if_neg h.present]
  simp only [refused, Bool.or_eq_true, Bool.not_eq_true', decide_eq_true_eq] at hr
  cases hts : timestampFresh env r with
  | false => exact trivial
  | true =>
  by_cases hmk : env.masterKey = ""
  · simp only [hmk]
    exact trivial
  cases hrole : equalFold (r.header "X-PerGo-Actor-Role") "billing_admin" with
  | true =>
    simp only [hmk, h.valid]
    exact trivial
  | false =>
  simp only [hmk, h.valid, h.scope, if_neg h.nonNil, Bool.not_true, Bool.false_eq_true, if_false, Outcome.andThen,
    sessionAuth, if_true, activeWorkspace]
  have hrows : rowMissing env ws = true := by
    rcases hr with ((hr | hr) | hr) | hr
    · rw [hts] at hr; cases hr
    · exact absurd hr hmk
    · rw [hrole] at hr; cases hr
    · exact hr
  have hf : (some ws).filter (· ≠ UUID.Nil) = some ws := by simp [h.nonNil]
  rw [hf]
  cases hrepo : env.wsRepo with
  | none => exact trivial
  | some rows =>
    have hno : rows.getByID ws = false := by simpa [rowMissing, hrepo] using hrows
    simp only [hno]
    exact trivial

/-- Any other attested request gets to the scope check as an operator on `ws`. -/
theorem adminChain_admitted (h : Attested env r ws) (hr : refused env r ws = false) :
    adminChain env r = enforceWorkspaceScope env r (attestedCtx r ws) := by
  unfold adminChain internalProxyAuth
  rw [if_neg h.present]
  simp only [refused, Bool.or_eq_false_iff, Bool.not_eq_false', decide_eq_false_iff_not] at hr
  obtain ⟨⟨⟨hts, hmk⟩, hrole⟩, hrows⟩ := hr
  simp only [hts, hmk, h.valid, hrole, h.scope, if_neg h.nonNil, Bool.not_true, Bool.false_eq_true, if_false,
    Outcome.andThen, sessionAuth, if_true, activeWorkspace]
  have hf : (some ws).filter (· ≠ UUID.Nil) = some ws := by simp [h.nonNil]
  rw [hf]
  cases hrepo : env.wsRepo with
  | none => simp [rowMissing, hrepo] at hrows
  | some rows =>
    have hyes : rows.getByID ws = true := by simpa [rowMissing, hrepo] using hrows
    simp only [hyes, if_true, injectWorkspace, attestedCtx]
    rfl

/-- What the scope check makes of an operator on `ws`. -/
theorem enforce_attested_iff (hn : ws ≠ UUID.Nil) :
    Sees ws (enforceWorkspaceScope env r (attestedCtx r ws)) ↔
      isExcludedPath r.path = true ∨ ∀ id ∈ namedWorkspace env r, id = ws := by
  unfold enforceWorkspaceScope
  cases hex : isExcludedPath r.path with
  | true => simp [Sees, attestedCtx, newOperatorScope]
  | false =>
  simp only [Bool.false_eq_true, if_false, false_or, contextScope, attestedCtx]
  unfold namedWorkspace
  by_cases hparam : r.workspaceParam = ""
  · -- a flat route
    rw [if_neg (not_not.mpr hparam), if_neg (not_not.mpr hparam)]
    unfold scopeOfFlatRoute newOperatorScope
    simp only
    by_cases htarget : targetHeader r = ""
    · simp only [if_pos htarget, if_neg hn]
      simp [Sees]
    · simp only [if_neg htarget]
      cases hid : (env.parseUUID (targetHeader r)).filter (· ≠ UUID.Nil) with
      | none =>
        simp only [if_neg hn]
        simp [Sees]
      | some id =>
        have hidn : id ≠ UUID.Nil := by
          have := Option.filter_eq_some_iff.mp hid
          simpa using this.2
        simp [WorkspaceScope.withTarget, hidn, Sees]
  · rw [if_pos hparam, if_pos hparam]
    unfold scopeOfParam newOperatorScope
    simp only
    cases hid : (env.parseUUID r.workspaceParam).filter (· ≠ UUID.Nil) with
    | none => simp [Sees]
    | some id =>
      simp only [WorkspaceScope.withTarget]
      simp [Sees]

theorem enforce_workspaceScoped {ctx : Ctx} (ht : ctx.tenant = some ws)
    (hs : ctx.scope = some ⟨ws, .workspaceScoped⟩) : Sees ws (enforceWorkspaceScope env r ctx) := by
  unfold enforceWorkspaceScope
  split
  · exact ⟨ht, by rw [hs]; rfl⟩
  simp only [contextScope, hs]
  by_cases hparam : r.workspaceParam = ""
  · rw [if_neg (not_not.mpr hparam)]
    exact ⟨rfl, rfl⟩
  · rw [if_pos hparam]
    unfold scopeOfParam
    simp only
    cases hid : (env.parseUUID r.workspaceParam).filter (· ≠ UUID.Nil) with
    | none => exact trivial
    | some id =>
      by_cases hsame : id = ws
      · simp only [if_pos hsame]
        exact ⟨rfl, rfl⟩
      · simp only [if_neg hsame]
        exact trivial

theorem authMiddleware_apiKey {ctx : Ctx} {k : APIKey} (h : authMiddleware env r Ctx.empty = .next ctx)
    (hk : ctx.apiKey = some k) :
    ctx.tenant = some k.workspaceID ∧ ctx.scope = some ⟨k.workspaceID, .workspaceScoped⟩ := by
  unfold authMiddleware at h
  split at h
  · cases h
    cases hk
  split at h
  · cases h
    cases hk
  unfold checkAPIKey at h
  split at h
  · simp [unauthorizedKey] at h
  split at h
  · simp [unauthorizedKey] at h
  split at h
  · cases h
    cases hk
    exact ⟨rfl, rfl⟩
  · simp [unauthorizedKey] at h

end Chain

/-- **The attested workspace is the one acted on** exactly when the request is refused, the path is
excluded, or nothing unsigned names another workspace; **an API key acts on its own workspace only**. -/
theorem attested_scope (env : AuthEnv) (r : Request) :
    (∀ ws, Attested env r ws →
      (Sees ws (adminChain env r) ↔
        refused env r ws = true ∨ isExcludedPath r.path = true ∨ ∀ id ∈ namedWorkspace env r, id = ws)) ∧
    (∀ ctx k, authMiddleware env r Ctx.empty = .next ctx → ctx.apiKey = some k →
      Sees k.workspaceID (apiChain env r)) := by
  refine ⟨?_, ?_⟩
  · intro ws h
    cases hr : refused env r ws with
    | true => exact ⟨fun _ => Or.inl rfl, fun _ => adminChain_refused h hr⟩
    | false =>
      rw [adminChain_admitted h hr, enforce_attested_iff h.nonNil]
      simp
  · intro ctx k h hk
    obtain ⟨ht, hs⟩ := authMiddleware_apiKey h hk
    unfold apiChain
    rw [h]
    exact enforce_workspaceScoped ht hs

/-! ## Requests -/

def uuid7 : String := "00000000-0000-0000-0000-000000000007"
def uuid8 : String := "00000000-0000-0000-0000-000000000008"

def attestedHeader : String → String
  | "X-PerGo-Proxy-Signature" => "sha256=9d4f9306e5a52fc920d86364bb51c0ec81f323839ae8aaf80cf830073c5a7e50"
  | "X-PerGo-Workspace-Scope" => uuid7
  | "X-PerGo-Actor-ID" => "actor-1"
  | "X-PerGo-Actor-Email" => "ana@example.com"
  | "X-PerGo-Actor-Role" => "member"
  | "X-PerGo-Timestamp" => "1700000000"
  | _ => ""

def inboxRequest (header : String → String) : Request :=
  { path := "/admin/inbox", method := "GET", header := header, query := fun _ => "", cookie := fun _ => "",
    workspaceParam := "" }

/-- The server with two workspaces; HMAC and `uuid.Parse` on what the two requests carry. -/
def twoWorkspaces : AuthEnv :=
  { masterKey := "master",
    hmacHex := fun key payload =>
      if key = "master" ∧ payload = proxyPayload (inboxRequest attestedHeader) then
        "9d4f9306e5a52fc920d86364bb51c0ec81f323839ae8aaf80cf830073c5a7e50"
      else "",
    sha256 := fun _ => [], parseUUID := fun s => if s = uuid7 then some 7 else if s = uuid8 then some 8 else none,
    unixNow := 1700000010, verifySession := fun _ => false,
    wsRepo := some ⟨fun id => id = 7 || id = 8, some 7⟩, getByPrefix := fun _ => none }

theorem attested_of_headers {header : String → String}
    (hsig : header "X-PerGo-Proxy-Signature" = "sha256=9d4f9306e5a52fc920d86364bb51c0ec81f323839ae8aaf80cf830073c5a7e50")
    (hscope : header "X-PerGo-Workspace-Scope" = uuid7)
    (hpayload : proxyPayload (inboxRequest header) = proxyPayload (inboxRequest attestedHeader)) :
    Attested twoWorkspaces (inboxRequest header) 7 := by
  have htrim : trimSpace ((inboxRequest header).header "X-PerGo-Proxy-Signature") =
      "sha256=9d4f9306e5a52fc920d86364bb51c0ec81f323839ae8aaf80cf830073c5a7e50" := by
    rw [show (inboxRequest header).header "X-PerGo-Proxy-Signature" = _ from hsig]
    exact trimSpace_ofList (by decide +kernel)
  have htrimScope : trimSpace ((inboxRequest header).header "X-PerGo-Workspace-Scope") = uuid7 := by
    rw [show (inboxRequest header).header "X-PerGo-Workspace-Scope" = _ from hscope]
    exact trimSpace_ofList (by decide +kernel)
  refine ⟨?_, ?_, ?_, by decide⟩
  · rw [htrim]
    simp
  · have hprefix : trimPrefix "sha256=9d4f9306e5a52fc920d86364bb51c0ec81f323839ae8aaf80cf830073c5a7e50" "sha256=" =
        "9d4f9306e5a52fc920d86364bb51c0ec81f323839ae8aaf80cf830073c5a7e50" :=
      trimPrefix_append "sha256=" "9d4f9306e5a52fc920d86364bb51c0ec81f323839ae8aaf80cf830073c5a7e50"
    have hmac : twoWorkspaces.hmacHex twoWorkspaces.masterKey (proxyPayload (inboxRequest header)) =
        "9d4f9306e5a52fc920d86364bb51c0ec81f323839ae8aaf80cf830073c5a7e50" := if_pos ⟨rfl, hpayload⟩
    rw [signatureValid, htrim, hprefix, hmac]
    exact decide_eq_true rfl
  · rw [htrimScope]
    show (if uuid7 = uuid7 then some 7 else if uuid7 = uuid8 then some 8 else none) = some 7
    exact if_pos rfl

theorem attested_inbox :
    Attested twoWorkspaces (inboxRequest attestedHeader) 7 ∧
    Sees 7 (adminChain twoWorkspaces (inboxRequest attestedHeader)) ∧
    ∃ ctx, adminChain twoWorkspaces (inboxRequest attestedHeader) = .next ctx := by
  have h : Attested twoWorkspaces (inboxRequest attestedHeader) 7 := attested_of_headers rfl rfl rfl
  refine ⟨h, (((attested_scope _ _).1 _ h).mpr (Or.inr (Or.inr ?_))), ?_⟩
  · decide +kernel
  · have hadmitted := adminChain_admitted h (by decide +kernel)
    exact ⟨attestedCtx (inboxRequest attestedHeader) 7, hadmitted.trans (by decide +kernel)⟩

def retargetingHeader (name : String) : String :=
  if name = "X-Workspace-ID" then uuid8 else attestedHeader name

/-- The same attestation and one more header: the handler acts on workspace 8. -/
theorem retargeted_by_header :
    Attested twoWorkspaces (inboxRequest retargetingHeader) 7 ∧
    adminChain twoWorkspaces (inboxRequest retargetingHeader) =
      .next { attestedCtx (inboxRequest retargetingHeader) 7 with
        tenant := some 8, scope := some (newOperatorScope 8) } ∧
    ¬ Sees 7 (adminChain twoWorkspaces (inboxRequest retargetingHeader)) := by
  have h : Attested twoWorkspaces (inboxRequest retargetingHeader) 7 := attested_of_headers rfl rfl rfl
  have hchain : adminChain twoWorkspaces (inboxRequest retargetingHeader) =
      .next { attestedCtx (inboxRequest retargetingHeader) 7 with
        tenant := some 8, scope := some (newOperatorScope 8) } :=
    (adminChain_admitted h (by decide +kernel)).trans (by decide +kernel)
  refine ⟨h, hchain, ?_⟩
  rw [hchain]
  rintro ⟨htenant, -⟩
  exact absurd htenant (by decide)

end PerGo.L4.AttestedScope
