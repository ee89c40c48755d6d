import PerGo.L3Outbound.SSRF

/-!
# Where the two SSRF policies agree

`security` strips the white space around an allowlist entry, `netpolicy` does not; for `localhost`, `.local`
and `.internal` names `security` asks whether an entry names the host or contains `127.0.0.1`, `netpolicy`
whether an entry, as written, folds to the name or is the text `127.0.0.1`. The forbidden ranges, the order
of the parsers and the treatment of URLs are the same.

So every entry has two readings, and the policies agree where some entry admits under both, or none under
either, or one under each (`Alike`).

* `ssrf_policies_agree_iff`: for every allowlist, address and URL, agreement exactly there.
* `ssrf_policies_differ`: an address and a URL on which they disagree.
-/
namespace PerGo.L4.SSRFAgreement
open PerGo.L1 PerGo.L1.NetIP PerGo.L3.SSRF

/-! ## Two readings of a list -/

/-- Some element has both properties, or none has either, or one has only the first and one only the
second. -/
def Alike {α : Type} (p q : α → Prop) (l : List α) : Prop :=
  (∃ x ∈ l, p x ∧ q x) ∨ (∀ x ∈ l, ¬p x ∧ ¬q x) ∨ ((∃ x ∈ l, p x ∧ ¬q x) ∧ ∃ x ∈ l, q x ∧ ¬p x)

theorem alike_iff {α : Type} (p q : α → Prop) (l : List α) :
    ((∃ x ∈ l, p x) ↔ ∃ x ∈ l, q x) ↔ Alike p q l := by
  constructor
  · intro h
    by_cases hp : ∃ x ∈ l, p x
    · obtain ⟨x, hx, hpx⟩ := hp
      obtain ⟨y, hy, hqy⟩ := h.mp ⟨x, hx, hpx⟩
      by_cases hqx : q x
      · exact .inl ⟨x, hx, hpx, hqx⟩
      by_cases hpy : p y
      · exact .inl ⟨y, hy, hpy, hqy⟩
      exact .inr (.inr ⟨⟨x, hx, hpx, hqx⟩, y, hy, hqy, hpy⟩)
    · exact .inr (.inl fun x hx => ⟨fun h' => hp ⟨x, hx, h'⟩, fun h' => hp (h.mpr ⟨x, hx, h'⟩)⟩)
  · rintro (⟨x, hx, hp, hq⟩ | hnone | ⟨⟨x, hx, hp, -⟩, y, hy, hq, -⟩)
    · exact ⟨fun _ => ⟨x, hx, hq⟩, fun _ => ⟨x, hx, hp⟩⟩
    · exact ⟨fun ⟨x, hx, hp⟩ => absurd hp (hnone x hx).1, fun ⟨x, hx, hq⟩ => absurd hq (hnone x hx).2⟩
    · exact ⟨fun _ => ⟨y, hy, hq⟩, fun _ => ⟨x, hx, hp⟩⟩

/-! ## The conditions -/

/-- An entry covers the address stripped, or as written. -/
def AddrAlike (allowlist : List String) (addr : Addr) : Prop :=
  isForbiddenAddr addr = true →
    Alike (fun e => covers (trimSpace e) addr = true) (fun e => covers e addr = true) allowlist

/-- How `security` reads an entry for a local name. -/
def AdmitsStripped (env : Env) (lowerHost entry : String) : Prop :=
  namesHost env (trimSpace entry) lowerHost = true ∨ covers (trimSpace entry) loopback = true

/-- How `netpolicy` reads an entry for a local name. -/
def AdmitsWritten (env : Env) (lowerHost entry : String) : Prop :=
  env.equalFold entry lowerHost = true ∨ entry = "127.0.0.1"

def NameAlike (env : Env) (allowlist : List String) (lowerHost : String) : Prop :=
  Alike (AdmitsStripped env lowerHost) (AdmitsWritten env lowerHost) allowlist

def AnswersAlike (allowlist : List String) (answers : List Addr) : Prop :=
  Alike (fun addr => isForbiddenAddr addr = true ∧ ∀ e ∈ allowlist, covers (trimSpace e) addr = false)
    (fun addr => isForbiddenAddr addr = true ∧ ∀ e ∈ allowlist, covers e addr = false) answers

def HostAlike (env : Env) (allowlist : List String) : Host → Prop
  | .literal addr => AddrAlike allowlist addr
  | .localName lowerHost => NameAlike env allowlist lowerHost
  | .resolved answers => AnswersAlike allowlist answers

def URLAlike (env : Env) (allowlist : List String) (rawURL : String) : Prop :=
  ∀ host, checkedHost env rawURL = some host → HostAlike env allowlist host

/-! ## Agreement -/

theorem addr_agree_iff (env : Env) (allowlist : List String) (addr : Addr) :
    ((Security.newIPChecker env allowlist).validateAddr addr = .ok () ↔
      (Netpolicy.newRestrictedIPChecker allowlist).validateAddr addr = .ok ()) ↔ AddrAlike allowlist addr := by
  rw [security_validateAddr_iff, netpolicy_validateAddr_iff, AddrAlike, ← alike_iff]
  cases isForbiddenAddr addr with
  | true => simp only [forall_const]
  | false => simp

theorem answers_agree_iff (env : Env) (allowlist : List String) (answers : List Addr) :
    ((∀ addr ∈ answers, (Security.newIPChecker env allowlist).validateAddr addr = .ok ()) ↔
      ∀ addr ∈ answers, (Netpolicy.newRestrictedIPChecker allowlist).validateAddr addr = .ok ()) ↔
      AnswersAlike allowlist answers := by
  -- an answer that is not accepted is a forbidden one that no entry covers
  have hall : ∀ c : String → Addr → Bool,
      (∀ addr ∈ answers, isForbiddenAddr addr = true → ∃ e ∈ allowlist, c e addr = true) ↔
        ¬∃ addr ∈ answers, isForbiddenAddr addr = true ∧ ∀ e ∈ allowlist, c e addr = false := by
    intro c
    simp only [not_exists, not_and, not_forall, Bool.not_eq_false, exists_prop]
  simp only [security_validateAddr_iff, netpolicy_validateAddr_iff]
  rw [hall covers, hall fun e => covers (trimSpace e), not_iff_not]
  exact alike_iff _ _ answers

theorem host_agree_iff (env : Env) (allowlist : List String) (host : Host) :
    (host.Accepted (Security.newIPChecker env allowlist).validateAddr
        (fun l => (Security.newIPChecker env allowlist).isHostAllowed env l ||
          (Security.newIPChecker env allowlist).isAllowed loopback) ↔
      host.Accepted (Netpolicy.newRestrictedIPChecker allowlist).validateAddr
        (fun l => allowlist.any fun e => env.equalFold e l || e = "127.0.0.1")) ↔
      HostAlike env allowlist host := by
  cases host with
  | literal addr => exact addr_agree_iff env allowlist addr
  | resolved answers => exact answers_agree_iff env allowlist answers
  | localName lowerHost =>
    rw [HostAlike, NameAlike, ← alike_iff]
    simp only [Host.Accepted, isHostAllowed_newIPChecker, isAllowed_newIPChecker, Bool.or_eq_true, List.any_eq_true,
      decide_eq_true_eq, AdmitsStripped, AdmitsWritten, and_or_left, exists_or]

/-- The policies agree on an address, and on a URL, exactly where the two readings of the allowlist do. -/
theorem ssrf_policies_agree_iff (env : Env) (allowlist : List String) :
    (∀ addr, ((Security.newIPChecker env allowlist).validateAddr addr = .ok () ↔
      (Netpolicy.newRestrictedIPChecker allowlist).validateAddr addr = .ok ()) ↔ AddrAlike allowlist addr) ∧
    ∀ rawURL, (Security.validateURL env allowlist rawURL = .ok () ↔
      Netpolicy.validateURL env allowlist rawURL = .ok ()) ↔ URLAlike env allowlist rawURL := by
  refine ⟨addr_agree_iff env allowlist, ?_⟩
  intro rawURL
  rw [Security.validateURL, Netpolicy.validateURL, validateURL_ok_iff, validateURL_ok_iff, URLAlike]
  cases checkedHost env rawURL with
  | none => simp
  | some host =>
    simp only [Option.some.injEq, exists_eq_left', forall_eq']
    exact host_agree_iff env allowlist host

/-! ## Where they differ -/

/-- The tables on ASCII, and a parser that knows one URL. -/
def sampleEnv : Env where
  lower := lowerChar
  folds c d := foldChar c = foldChar d
  parseRequestURI raw := if raw = "http://localhost:8080/hook" then .ok ⟨"http", "localhost"⟩ else .error "not an absolute URI"
  lookupIP _ := none

/-- With the entry ` 10.0.0.1` only `security` permits that address; with the entry `127.0.0.0/8` only
`security` accepts a URL of the local host; and with a long s in the entry, which folds but does not lower to
an s, only `netpolicy` accepts it. -/
theorem ssrf_policies_differ :
    ((Security.newIPChecker sampleEnv [" 10.0.0.1"]).validateAddr (.v4 0x0a000001) = .ok () ∧
      (Netpolicy.newRestrictedIPChecker [" 10.0.0.1"]).validateAddr (.v4 0x0a000001) ≠ .ok ()) ∧
    (Security.validateURL sampleEnv ["127.0.0.0/8"] "http://localhost:8080/hook" = .ok () ∧
      Netpolicy.validateURL sampleEnv ["127.0.0.0/8"] "http://localhost:8080/hook" ≠ .ok ()) ∧
    (Security.validateURL sampleEnv ["localhoſt"] "http://localhost:8080/hook" ≠ .ok () ∧
      Netpolicy.validateURL sampleEnv ["localhoſt"] "http://localhost:8080/hook" = .ok ()) := by
  decide +kernel

end PerGo.L4.SSRFAgreement
