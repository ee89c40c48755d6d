import PerGo.L1Encoding.NetIP

/-!
# The two SSRF policies (`security/ssrf.go`, `netpolicy/netpolicy.go`)

Both packages read an allowlist of addresses, ranges and (`security` only) host names, and both have a
`ValidateAddr` and a `ValidateURL`. The two `ValidateURL`s differ in their error texts, in the checker they
build and in how they look a local name up in the allowlist; `validateURL` is what they share.

The Unicode tables behind `strings.ToLower` and `strings.EqualFold`, the URL parser and the resolver are
parameters (`Env`); both policies are given the same ones.

* `isAllowed_newIPChecker`, `isHostAllowed_newIPChecker`, `allows_newRestrictedIPChecker`: what a checker
  admits, entry by entry.
* `validateURL_ok_iff`: which URLs are accepted, by the kind of the host.
-/
namespace PerGo.L3.SSRF
open PerGo.L1 PerGo.L1.NetIP

/-- What `url.ParseRequestURI` returns, as far as it is read: `Scheme` and `Hostname()`. -/
structure URL where
  scheme : String
  hostname : String

structure Env where
  /-- `unicode.ToLower`. -/
  lower : Char → Char
  /-- Whether two code points are equal under simple case folding. -/
  folds : Char → Char → Bool
  parseRequestURI : String → Except String URL
  /-- `net.LookupIP`: the answers as byte slices, or an error. -/
  lookupIP : String → Option (List (List UInt8))

/-- `strings.ToLower`. -/
def Env.toLower (env : Env) (s : String) : String := String.ofList (s.toList.map env.lower)

/-- `strings.EqualFold`. -/
def Env.equalFold (env : Env) (s t : String) : Bool :=
  s.toList.length = t.toList.length && (s.toList.zip t.toList).all fun (c, d) => env.folds c d

def cgnatPrefix : Prefix := ⟨.v4 0x64400000, 10⟩

def loopback : Addr := .v4 0x7f000001

/-- The ranges both policies refuse: `IsForbiddenAddr`, and step 2 of `RestrictedIPChecker.ValidateAddr`. -/
def isForbiddenAddr (addr : Addr) : Bool :=
  let addr := addr.unmap
  addr.isUnspecified || addr.isLoopback || addr.isLinkLocalUnicast || addr.isLinkLocalMulticast ||
    addr.isMulticast || addr.isPrivate || cgnatPrefix.contains addr

structure Texts where
  invalidURL : String → String
  scheme : String
  emptyHost : String
  restricted : String

def validateAnswers (validateAddr : Addr → Except String Unit) : List (List UInt8) → Except String Unit
  | [] => .ok ()
  | ip :: ips =>
    match addrFromSlice ip with
    | none => validateAnswers validateAddr ips
    | some addr =>
      match validateAddr addr with
      | .error e => .error e
      | .ok _ => validateAnswers validateAddr ips

def isLocalName (lowerHost : String) : Bool :=
  lowerHost = "localhost" || hasSuffix lowerHost ".local" || hasSuffix lowerHost ".internal"

/-- What the two `ValidateURL`s share. -/
def validateURL (env : Env) (texts : Texts) (validateAddr : Addr → Except String Unit)
    (localAllowed : String → Bool) (rawURL : String) : Except String Unit :=
  match env.parseRequestURI rawURL with
  | .error e => .error (texts.invalidURL e)
  | .ok u =>
    if u.scheme ≠ "http" ∧ u.scheme ≠ "https" then .error texts.scheme
    else if u.hostname = "" then .error texts.emptyHost
    else
      match parseAddr u.hostname.toList with
      | some addr => validateAddr addr
      | none =>
        let lowerHost := env.toLower u.hostname
        if isLocalName lowerHost then
          if localAllowed lowerHost then .ok () else .error texts.restricted
        else
          match env.lookupIP u.hostname with
          | none => .ok ()
          | some ips => validateAnswers validateAddr ips

/-! ## `internal/security` -/

namespace Security

def texts : Texts where
  invalidURL e := "security: invalid URL: " ++ e
  scheme := "security: URL scheme must be http or https"
  emptyHost := "security: URL host cannot be empty"
  restricted := "security: destination IP address belongs to a private/forbidden range"

structure IPChecker where
  allowedAddrs : List Addr
  allowedPrefixes : List Prefix
  allowedHosts : List String

/-- One turn of the loop of `NewIPChecker`. -/
def IPChecker.add (env : Env) (checker : IPChecker) (item : String) : IPChecker :=
  let entry := trimSpace item
  if entry = "" then checker
  else
    match parsePrefix entry.toList with
    | some p => { checker with allowedPrefixes := checker.allowedPrefixes ++ [p] }
    | none =>
      match parseAddr entry.toList with
      | some addr => { checker with allowedAddrs := checker.allowedAddrs ++ [addr.unmap] }
      | none => { checker with allowedHosts := checker.allowedHosts ++ [env.toLower entry] }

/-- `NewIPChecker`. -/
def newIPChecker (env : Env) (allowlist : List String) : IPChecker :=
  allowlist.foldl (IPChecker.add env) ⟨[], [], []⟩

/-- `IsAllowed`. -/
def IPChecker.isAllowed (c : IPChecker) (addr : Addr) : Bool :=
  let addr := addr.unmap
  c.allowedAddrs.any (· = addr) || c.allowedPrefixes.any (·.contains addr)

/-- `IsHostAllowed`. -/
def IPChecker.isHostAllowed (env : Env) (c : IPChecker) (host : String) : Bool :=
  let lower := env.toLower (trimSpace host)
  c.allowedHosts.any (· = lower)

/-- `ValidateAddr`. -/
def IPChecker.validateAddr (c : IPChecker) (addr : Addr) : Except String Unit :=
  let addr := addr.unmap
  if c.isAllowed addr then .ok ()
  else if isForbiddenAddr addr then .error texts.restricted
  else .ok ()

/-- `security.ValidateURL`. -/
def validateURL (env : Env) (allowlist : List String) (rawURL : String) : Except String Unit :=
  let checker := newIPChecker env allowlist
  SSRF.validateURL env texts checker.validateAddr
    (fun lowerHost => checker.isHostAllowed env lowerHost || checker.isAllowed loopback) rawURL

end Security

/-! ## `internal/platform/netpolicy` -/

namespace Netpolicy

def texts : Texts where
  invalidURL e := "invalid URL: " ++ e
  scheme := "URL scheme must be http or https"
  emptyHost := "URL host cannot be empty"
  restricted := "restricted IP address blocked by netpolicy"

structure RestrictedIPChecker where
  allowedAddrs : List Addr
  allowedPrefixes : List Prefix

/-- One turn of the loop of `NewRestrictedIPChecker`. -/
def RestrictedIPChecker.add (checker : RestrictedIPChecker) (entry : String) : RestrictedIPChecker :=
  if entry = "" then checker
  else
    match parsePrefix entry.toList with
    | some p => { checker with allowedPrefixes := checker.allowedPrefixes ++ [p] }
    | none =>
      match parseAddr entry.toList with
      | some addr => { checker with allowedAddrs := checker.allowedAddrs ++ [addr.unmap] }
      | none => checker

/-- `NewRestrictedIPChecker`. -/
def newRestrictedIPChecker (allowlist : List String) : RestrictedIPChecker :=
  allowlist.foldl RestrictedIPChecker.add ⟨[], []⟩

/-- Step 1 of `ValidateAddr`. -/
def RestrictedIPChecker.allows (c : RestrictedIPChecker) (addr : Addr) : Bool :=
  c.allowedAddrs.any (· = addr) || c.allowedPrefixes.any (·.contains addr)

/-- `ValidateAddr`. -/
def RestrictedIPChecker.validateAddr (c : RestrictedIPChecker) (addr : Addr) : Except String Unit :=
  let addr := addr.unmap
  if c.allows addr then .ok ()
  else if isForbiddenAddr addr then .error texts.restricted
  else .ok ()

/-- `netpolicy.ValidateURL`. A local name is compared with the entries as they are written. -/
def validateURL (env : Env) (allowlist : List String) (rawURL : String) : Except String Unit :=
  let checker := newRestrictedIPChecker allowlist
  SSRF.validateURL env texts checker.validateAddr
    (fun lowerHost => allowlist.any fun allowed => env.equalFold allowed lowerHost || allowed = "127.0.0.1") rawURL

end Netpolicy

/-! ## What a checker admits -/

def covers (entry : String) (addr : Addr) : Bool :=
  match parsePrefix entry.toList with
  | some p => p.contains addr.unmap
  | none =>
    match parseAddr entry.toList with
    | some a => a.unmap = addr.unmap
    | none => false

def namesHost (env : Env) (entry host : String) : Bool :=
  entry ≠ "" && (parsePrefix entry.toList).isNone && (parseAddr entry.toList).isNone &&
    env.toLower entry = env.toLower (trimSpace host)

theorem covers_empty (addr : Addr) : covers "" addr = false := rfl

theorem isAllowed_add (env : Env) (c : Security.IPChecker) (item : String) (addr : Addr) :
    (c.add env item).isAllowed addr = (c.isAllowed addr || covers (trimSpace item) addr) := by
  unfold Security.IPChecker.add
  by_cases he : trimSpace item = ""
  · simp only [he, if_true, covers_empty, Bool.or_false]
  · simp only [he, if_false, covers]
    cases parsePrefix (trimSpace item).toList with
    | some p => simp [Security.IPChecker.isAllowed, Bool.or_assoc]
    | none =>
      cases parseAddr (trimSpace item).toList with
      | some a => simp [Security.IPChecker.isAllowed, Bool.or_right_comm]
      | none => simp [Security.IPChecker.isAllowed]

theorem isHostAllowed_add (env : Env) (c : Security.IPChecker) (item host : String) :
    (c.add env item).isHostAllowed env host =
      (c.isHostAllowed env host || namesHost env (trimSpace item) host) := by
  unfold Security.IPChecker.add
  by_cases he : trimSpace item = ""
  · simp [he, namesHost]
  · simp only [he, if_false, namesHost]
    cases parsePrefix (trimSpace item).toList with
    | some p => simp [Security.IPChecker.isHostAllowed]
    | none =>
      cases parseAddr (trimSpace item).toList with
      | some a => simp [Security.IPChecker.isHostAllowed]
      | none => simp [Security.IPChecker.isHostAllowed, he]

theorem allows_add (c : Netpolicy.RestrictedIPChecker) (entry : String) (addr : Addr) :
    (c.add entry).allows addr.unmap = (c.allows addr.unmap || covers entry addr) := by
  unfold Netpolicy.RestrictedIPChecker.add
  by_cases he : entry = ""
  · simp only [he, if_true, covers_empty, Bool.or_false]
  · simp only [he, if_false, covers]
    cases parsePrefix entry.toList with
    | some p => simp [Netpolicy.RestrictedIPChecker.allows, Bool.or_assoc]
    | none =>
      cases parseAddr entry.toList with
      | some a => simp [Netpolicy.RestrictedIPChecker.allows, Bool.or_right_comm]
      | none => simp

/-- A test that every turn of a loop can only add to holds at the end if it held before or some turn
added it. -/
theorem foldl_or {α β : Type} (test : β → Bool) (add : β → α → β) (gain : α → Bool)
    (h : ∀ b x, test (add b x) = (test b || gain x)) (l : List α) (b : β) :
    test (l.foldl add b) = (test b || l.any gain) := by
  induction l generalizing b with
  | nil => simp
  | cons x l ih => rw [List.foldl_cons, ih, h, List.any_cons, Bool.or_assoc]

theorem isAllowed_newIPChecker (env : Env) (allowlist : List String) (addr : Addr) :
    (Security.newIPChecker env allowlist).isAllowed addr = allowlist.any fun e => covers (trimSpace e) addr :=
  foldl_or (·.isAllowed addr) (Security.IPChecker.add env) (fun e => covers (trimSpace e) addr)
    (fun c item => isAllowed_add env c item addr) allowlist ⟨[], [], []⟩

theorem isHostAllowed_newIPChecker (env : Env) (allowlist : List String) (host : String) :
    (Security.newIPChecker env allowlist).isHostAllowed env host =
      allowlist.any fun e => namesHost env (trimSpace e) host :=
  foldl_or (·.isHostAllowed env host) (Security.IPChecker.add env) (fun e => namesHost env (trimSpace e) host)
    (fun c item => isHostAllowed_add env c item host) allowlist ⟨[], [], []⟩

theorem allows_newRestrictedIPChecker (allowlist : List String) (addr : Addr) :
    (Netpolicy.newRestrictedIPChecker allowlist).allows addr.unmap = allowlist.any fun e => covers e addr :=
  foldl_or (·.allows addr.unmap) Netpolicy.RestrictedIPChecker.add (covers · addr)
    (fun c entry => allows_add c entry addr) allowlist ⟨[], []⟩

/-! ## What is accepted -/

theorem security_validateAddr_iff (env : Env) (allowlist : List String) (addr : Addr) :
    (Security.newIPChecker env allowlist).validateAddr addr = .ok () ↔
      (isForbiddenAddr addr = true → ∃ e ∈ allowlist, covers (trimSpace e) addr = true) := by
  have hf : isForbiddenAddr addr.unmap = isForbiddenAddr addr := by simp only [isForbiddenAddr, Addr.unmap_unmap]
  have ha : (Security.newIPChecker env allowlist).isAllowed addr.unmap =
      (Security.newIPChecker env allowlist).isAllowed addr := by
    simp only [Security.IPChecker.isAllowed, Addr.unmap_unmap]
  simp only [Security.IPChecker.validateAddr, hf, ha, isAllowed_newIPChecker, List.any_eq_true]
  split
  · next h => exact ⟨fun _ _ => h, fun _ => rfl⟩
  · next h =>
    cases isForbiddenAddr addr with
    | true => simp [h]
    | false => simp

theorem netpolicy_validateAddr_iff (allowlist : List String) (addr : Addr) :
    (Netpolicy.newRestrictedIPChecker allowlist).validateAddr addr = .ok () ↔
      (isForbiddenAddr addr = true → ∃ e ∈ allowlist, covers e addr = true) := by
  have hf : isForbiddenAddr addr.unmap = isForbiddenAddr addr := by simp only [isForbiddenAddr, Addr.unmap_unmap]
  simp only [Netpolicy.RestrictedIPChecker.validateAddr, hf, allows_newRestrictedIPChecker, List.any_eq_true]
  split
  · next h => exact ⟨fun _ _ => h, fun _ => rfl⟩
  · next h =>
    cases isForbiddenAddr addr with
    | true => simp [h]
    | false => simp

theorem validateAnswers_ok_iff (validateAddr : Addr → Except String Unit) (ips : List (List UInt8)) :
    validateAnswers validateAddr ips = .ok () ↔ ∀ addr ∈ ips.filterMap addrFromSlice, validateAddr addr = .ok () := by
  induction ips with
  | nil => simp [validateAnswers]
  | cons ip ips ih =>
    cases hip : addrFromSlice ip with
    | none => rw [validateAnswers, hip, List.filterMap_cons_none hip]; exact ih
    | some addr =>
      rw [validateAnswers, hip, List.filterMap_cons_some hip, List.forall_mem_cons, ← ih]
      cases hv : validateAddr addr with
      | error e => simp [hv]
      | ok u => simp [hv]

/-- What a host is to the policies: an address, a name that is never resolved, or a name with the
addresses it resolves to (none when the resolver fails). -/
inductive Host
  | literal (addr : Addr)
  | localName (lowerHost : String)
  | resolved (answers : List Addr)

def hostOf (env : Env) (hostname : String) : Host :=
  match parseAddr hostname.toList with
  | some addr => .literal addr
  | none =>
    if isLocalName (env.toLower hostname) then .localName (env.toLower hostname)
    else .resolved (((env.lookupIP hostname).getD []).filterMap addrFromSlice)

def checkedHost (env : Env) (rawURL : String) : Option Host :=
  match env.parseRequestURI rawURL with
  | .error _ => none
  | .ok u => if (u.scheme ≠ "http" ∧ u.scheme ≠ "https") ∨ u.hostname = "" then none else some (hostOf env u.hostname)

/-- What a policy accepts of a checked host. -/
def Host.Accepted (validateAddr : Addr → Except String Unit) (localAllowed : String → Bool) : Host → Prop
  | .literal addr => validateAddr addr = .ok ()
  | .localName lowerHost => localAllowed lowerHost = true
  | .resolved answers => ∀ addr ∈ answers, validateAddr addr = .ok ()

theorem validateURL_ok_iff (env : Env) (texts : Texts) (validateAddr : Addr → Except String Unit)
    (localAllowed : String → Bool) (rawURL : String) :
    validateURL env texts validateAddr localAllowed rawURL = .ok () ↔
      ∃ host, checkedHost env rawURL = some host ∧ host.Accepted validateAddr localAllowed := by
  unfold validateURL checkedHost
  cases env.parseRequestURI rawURL with
  | error e => simp
  | ok u =>
    dsimp only
    by_cases hs : u.scheme ≠ "http" ∧ u.scheme ≠ "https"
    · simp [hs]
    by_cases he : u.hostname = ""
    · simp [hs, he]
    simp only [hs, he, if_false, or_self, Option.some.injEq, exists_eq_left']
    unfold hostOf
    cases parseAddr u.hostname.toList with
    | some addr => rfl
    | none =>
      dsimp only
      by_cases hl : isLocalName (env.toLower u.hostname) = true
      · simp only [hl, if_true, Host.Accepted]
        cases localAllowed (env.toLower u.hostname) <;> simp
      · simp only [hl, Host.Accepted]
        cases env.lookupIP u.hostname with
        | none => simp
        | some ips => exact validateAnswers_ok_iff validateAddr ips

end PerGo.L3.SSRF
