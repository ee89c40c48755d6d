import PerGo.Core.LTS
import PerGo.L3Channel.FlowToken

/-!
# The flow a token is for

Flow messages are dispatched, the rows of `workspaces` change, and tokens are presented at the
data exchange endpoints of connections: every token, at any connection, at any time.

* `accepts_iff`: the endpoint accepts what the webhook secret or the id of the workspace has
  signed and what has not expired, whatever the payload names.
* `issued_accepted`: so a token that was dispatched passes until it expires, under every later
  secret, on every connection of its workspace.

* `bound_iff`: the endpoint treats a token as one that is bound to it exactly when the token
  names the connection and its workspace, has an expiry, and is not one that somebody
  else made of the workspace's id (`Sound`);
* `dispatched_bound` and `foreign_token`: a token on its own connection, and two that are not bound.
-/
namespace PerGo.L4.FlowTokens

open PerGo.Core PerGo.L1 PerGo.L2 PerGo.L3.FlowToken

/-! ## The system -/

/-- A token that `Dispatch` generated. -/
structure Issue where
  token : String
  workspaceID : UUID
  connectionID : UUID
  expiresAt : Int

structure State where
  now : Int
  workspaces : UUID → Option Workspace
  issued : List Issue

inductive Action
  | tick (now : Int)
  /-- the row is created, written or deleted -/
  | setWorkspace (id : UUID) (row : Option Workspace)
  | dispatch (workspaceID : UUID) (m : MessagePayload) (flowID : String)

/-- The clock is past 1970, and seconds fit an `int64`. -/
def Clock (t : Int) : Prop := 0 < t ∧ t + defaultFlowTokenTTL < 2 ^ 63

instance (t : Int) : Decidable (Clock t) := inferInstanceAs (Decidable (_ ∧ _))

variable (ext : Externals)

def stepFn (s : State) : Action → Option State
  | .tick now => if s.now ≤ now ∧ Clock now then some { s with now := now } else none
  | .setWorkspace id row => some { s with workspaces := fun id' => if id' = id then row else s.workspaces id' }
  | .dispatch workspaceID m flowID =>
    some { s with issued := s.issued ++ [⟨generated ext s.now workspaceID m flowID, workspaceID, m.connectionID,
      s.now + defaultFlowTokenTTL⟩] }

structure Start (s : State) : Prop where
  issued : s.issued = []
  clock : Clock s.now

def system : LTS State Action := ⟨Start, fun s a s' => stepFn ext s a = some s'⟩

/-! ## What is asked of the endpoint -/

section Asked

variable (s : State) (conn : Connection) (tok : String)

/-- The token is not refused. -/
def Accepts : Prop := checkFlowToken ext s.now conn.workspaceID (s.workspaces conn.workspaceID) tok = .ok ()

/-- The payload of a token, whoever signed it. -/
def payloadOf : Option FlowTokenPayload := (splitDot tok.toList).bind fun parts => decodePayload ext parts.1

def SignedBy (key : String) : Prop := (verified ext tok key).isSome = true

/-- `GenerateFlowToken` made the token for the workspace. -/
def Issued : Prop := ∃ i ∈ s.issued, i.token = tok ∧ i.workspaceID = conn.workspaceID

/-- The token is bound to its flow. -/
structure Bound : Prop where
  accepted : ∀ i ∈ s.issued, i.token = tok → i.connectionID = conn.id → i.workspaceID = conn.workspaceID →
    s.now ≤ i.expiresAt → Accepts ext s conn tok
  carried : Accepts ext s conn tok → ∃ p, payloadOf ext tok = some p ∧ p.connectionID = conn.id ∧
    p.workspaceID = conn.workspaceID ∧ s.now ≤ p.expiresAt
  keyed : Accepts ext s conn tok → ∀ secret, secretOf (s.workspaces conn.workspaceID) = some secret →
    ¬ SignedBy ext tok secret → Issued s conn tok

/-- One of the two keys that are tried has signed the token. -/
def KeySigned : Prop := SignedBy ext tok conn.workspaceID.string ∨
  ∃ secret, secretOf (s.workspaces conn.workspaceID) = some secret ∧ SignedBy ext tok secret

/-- A token that is signed and alive names the connection and its workspace, and an expiry; and where there is a
webhook secret, what the workspace's id has signed was dispatched. -/
def Sound : Prop := ∀ p, payloadOf ext tok = some p → expired s.now p = false → KeySigned ext s conn tok →
  p.connectionID = conn.id ∧ p.workspaceID = conn.workspaceID ∧ 0 < p.expiresAt ∧
    ∀ secret, secretOf (s.workspaces conn.workspaceID) = some secret → secret ≠ conn.workspaceID.string →
      SignedBy ext tok conn.workspaceID.string → Issued s conn tok

end Asked

/-! ## What the endpoint accepts -/

section Accepted

variable {ext} {s : State} {conn : Connection} {tok : String}

theorem verified_split {key : String} {seg : List Char} (h : verified ext tok key = some seg) :
    tok ≠ "" ∧ ∃ sig, splitDot tok.toList = some (seg, sig) := by
  unfold verified at h
  split at h
  · cases h
  rename_i hne
  refine ⟨fun htok => hne (Or.inl htok), ?_⟩
  split at h
  · cases h
  · rename_i payload sig hsplit
    split at h
    · cases h
      exact ⟨sig, hsplit⟩
    · cases h

theorem checkError_none_iff {now : Int} {key : String} : checkError ext now tok key = none ↔
    SignedBy ext tok key ∧ ∃ p, payloadOf ext tok = some p ∧ expired now p = false := by
  unfold checkError parseAndValidateFlowToken SignedBy payloadOf
  cases hver : verified ext tok key with
  | none => simp
  | some seg =>
    obtain ⟨-, sig, hsplit⟩ := verified_split hver
    rw [hsplit, Option.bind_some, Option.bind_some]
    cases decodePayload ext seg with
    | none => simp
    | some p => cases halive : expired now p <;> simp [halive]

theorem tokenError_none_iff {now : Int} {ws : UUID} {row : Option Workspace} :
    tokenError ext now ws row tok = none ↔ checkError ext now tok ws.string = none ∨
      ∃ secret, secretOf row = some secret ∧ checkError ext now tok secret = none := by
  unfold tokenError
  cases secretOf row with
  | none =>
    cases checkError ext now tok ws.string <;> simp
  | some secret =>
    cases hown : checkError ext now tok secret with
    | none => simp [hown]
    | some e => cases checkError ext now tok ws.string <;> simp [hown]

theorem checkFlowToken_ok_iff {now : Int} {ws : UUID} {row : Option Workspace} :
    checkFlowToken ext now ws row tok = .ok () ↔ tok ≠ "" ∧ tokenError ext now ws row tok = none := by
  unfold checkFlowToken
  by_cases htok : tok = ""
  · simp [htok]
  · rw [if_neg htok]
    cases tokenError ext now ws row tok with
    | none => simp [htok]
    | some e => cases e <;> simp

theorem accepts_iff : Accepts ext s conn tok ↔
    KeySigned ext s conn tok ∧ ∃ p, payloadOf ext tok = some p ∧ expired s.now p = false := by
  have hempty : tok = "" → ¬ KeySigned ext s conn tok := by
    have hnot : tok = "" → ∀ key, ¬ SignedBy ext tok key := by
      intro htok key h
      obtain ⟨seg, hseg⟩ := Option.isSome_iff_exists.mp h
      exact (verified_split hseg).1 htok
    rintro htok (h | ⟨secret, -, h⟩)
    · exact hnot htok _ h
    · exact hnot htok _ h
  unfold Accepts
  rw [checkFlowToken_ok_iff]
  by_cases htok : tok = ""
  · exact iff_of_false (fun h => h.1 htok) fun h => hempty htok h.1
  · rw [and_iff_right htok, tokenError_none_iff]
    simp only [checkError_none_iff]
    unfold KeySigned
    constructor
    · rintro (⟨hs, hp⟩ | ⟨secret, hsecret, hs, hp⟩)
      · exact ⟨Or.inl hs, hp⟩
      · exact ⟨Or.inr ⟨secret, hsecret, hs⟩, hp⟩
    · rintro ⟨hs | ⟨secret, hsecret, hs⟩, hp⟩
      · exact Or.inl ⟨hs, hp⟩
      · exact Or.inr ⟨secret, hsecret, hs, hp⟩

theorem signed_spec {p : FlowTokenPayload} {key : String} (hkey : key ≠ "")
    (hexp : -(2 ^ 63) ≤ p.expiresAt ∧ p.expiresAt < 2 ^ 63) :
    SignedBy ext (signed ext p key) key ∧ payloadOf ext (signed ext p key) = some p := by
  have hver : verified ext (signed ext p key) key = some (segment p) := verified_signed p hkey
  obtain ⟨-, sig, hsplit⟩ := verified_split hver
  unfold SignedBy payloadOf
  rw [hver, hsplit, Option.bind_some]
  refine ⟨rfl, ?_⟩
  dsimp only
  exact decodePayload_segment hexp

end Accepted

/-! ## The tokens that were issued -/

section Runs

variable {ext} {s : State} {conn : Connection} {tok : String}

theorem string_ne_empty (u : UUID) : u.string ≠ "" := by
  intro h
  have := UUID.string_ne_empty u
  rw [h] at this
  cases this

def Genuine (ext : Externals) (i : Issue) : Prop :=
  0 < i.expiresAt ∧ i.expiresAt < 2 ^ 63 ∧ ∃ contact flow,
    i.token = signed ext ⟨i.workspaceID, i.connectionID, contact, flow, i.expiresAt⟩ i.workspaceID.string

structure Inv (ext : Externals) (s : State) : Prop where
  clock : Clock s.now
  genuine : ∀ i ∈ s.issued, Genuine ext i

theorem inv_step {s' : State} {a : Action} (h : Inv ext s) (hstep : stepFn ext s a = some s') : Inv ext s' := by
  cases a with
  | tick now =>
    simp only [stepFn] at hstep
    split at hstep
    · rename_i hnow
      cases hstep
      exact ⟨hnow.2, h.genuine⟩
    · cases hstep
  | setWorkspace id row =>
    cases hstep
    exact ⟨h.clock, h.genuine⟩
  | dispatch ws m flowID =>
    cases hstep
    refine ⟨h.clock, fun i hi => ?_⟩
    rcases List.mem_append.mp hi with hi | hi
    · exact h.genuine i hi
    · obtain rfl := List.mem_singleton.mp hi
      have hclock := h.clock
      unfold Clock defaultFlowTokenTTL at hclock
      refine ⟨?_, hclock.2, m.to_, flowID, ?_⟩
      · show 0 < s.now + defaultFlowTokenTTL
        unfold defaultFlowTokenTTL
        omega
      · show generated ext s.now ws m flowID = _
        unfold generated generateFlowToken flowPayload
        rw [if_neg (by unfold defaultFlowTokenTTL; simp only; omega)]

theorem inv_run (h : (system ext).Reachable s) : Inv ext s := by
  have hind : (system ext).Inductive (Inv ext) := by
    constructor
    · intro s₀ h₀
      refine ⟨h₀.clock, fun i hi => ?_⟩
      rw [h₀.issued] at hi
      cases hi
    · intro s l s' hi hstep
      exact inv_step hi hstep
  exact hind.reachable h

theorem issued_accepted (h : Inv ext s) {i : Issue} (hi : i ∈ s.issued) (hws : i.workspaceID = conn.workspaceID)
    (hnow : s.now ≤ i.expiresAt) : Accepts ext s conn i.token := by
  obtain ⟨hpos, hmax, contact, flow, htok⟩ := h.genuine i hi
  obtain ⟨hsigned, hpayload⟩ : SignedBy ext i.token i.workspaceID.string ∧
      payloadOf ext i.token = some ⟨i.workspaceID, i.connectionID, contact, flow, i.expiresAt⟩ := by
    rw [htok]
    exact signed_spec (string_ne_empty i.workspaceID) ⟨by simp only; omega, hmax⟩
  refine accepts_iff.mpr ⟨Or.inl (hws ▸ hsigned), _, hpayload, ?_⟩
  unfold expired
  simp only [Bool.and_eq_false_iff, decide_eq_false_iff_not]
  right
  omega

/-- In every state a run reaches, and for every token at every connection: the token is treated as bound exactly when
it is sound. -/
theorem bound_iff (h : (system ext).Reachable s) (conn : Connection) (tok : String) :
    Bound ext s conn tok ↔ Sound ext s conn tok := by
  have hinv := inv_run h
  constructor
  · intro hb p hp halive hsigned
    have hacc := accepts_iff.mpr ⟨hsigned, p, hp, halive⟩
    obtain ⟨p', hp', hconn, hws, hnow⟩ := hb.carried hacc
    obtain rfl : p = p' := Option.some.inj (hp.symm.trans hp')
    have hclock := hinv.clock.1
    refine ⟨hconn, hws, by omega, fun secret hsecret hne hid => hb.keyed hacc secret hsecret fun hs => hne ?_⟩
    -- no token has two keys
    obtain ⟨seg, hseg⟩ := Option.isSome_iff_exists.mp hs
    obtain ⟨seg', hseg'⟩ := Option.isSome_iff_exists.mp hid
    exact (verified_key hseg hseg').1
  · intro hsound
    refine ⟨?_, ?_, ?_⟩
    · intro i hi htok _ hws hnow
      rw [← htok]
      exact issued_accepted hinv hi hws hnow
    · intro hacc
      obtain ⟨hsigned, p, hp, halive⟩ := accepts_iff.mp hacc
      obtain ⟨hconn, hws, hpos, -⟩ := hsound p hp halive hsigned
      refine ⟨p, hp, hconn, hws, ?_⟩
      simp only [expired, Bool.and_eq_false_iff, decide_eq_false_iff_not] at halive
      omega
    · intro hacc secret hsecret hnot
      obtain ⟨hsigned, p, hp, halive⟩ := accepts_iff.mp hacc
      have hid : SignedBy ext tok conn.workspaceID.string := by
        rcases hsigned with hid | ⟨secret', hsecret', hs⟩
        · exact hid
        · obtain rfl : secret = secret' := Option.some.inj (hsecret.symm.trans hsecret')
          exact absurd hs hnot
      exact (hsound p hp halive hsigned).2.2.2 secret hsecret (fun heq => hnot (heq ▸ hid)) hid

end Runs

/-! ## Two connections of one workspace -/

section Example

/-- A text that tells key and message apart, and how it is taken apart. -/
def tagged (key msg : List Char) : List Char := key.flatMap (fun c => ['k', c]) ++ msg.flatMap fun c => ['m', c]

def untagged : List Char → List Char × List Char
  | t :: c :: l => if t = 'k' then (c :: (untagged l).1, (untagged l).2) else ((untagged l).1, c :: (untagged l).2)
  | _ => ([], [])

theorem untagged_tagged (key msg : List Char) : untagged (tagged key msg) = (key, msg) := by
  have hmsg : untagged (msg.flatMap fun c => ['m', c]) = ([], msg) := by
    induction msg with
    | nil => rfl
    | cons c msg ih => simp [untagged, ih]
  unfold tagged
  induction key with
  | nil => exact hmsg
  | cons c key ih => simp [untagged, ih]

/-- A stand-in for HMAC, and the inverse of `UUID.string`. -/
def standIn : Externals where
  hmac key msg := utf8 (tagged key.toList msg)
  hmac_inj := by
    intro k m k' m' h
    have htext := congrArg runes h
    rw [runes_utf8, runes_utf8] at htext
    have hpair := congrArg untagged htext
    rw [untagged_tagged, untagged_tagged] at hpair
    exact ⟨String.toList_injective (Prod.mk.inj hpair).1, (Prod.mk.inj hpair).2⟩
  parseUUID s := some (Nat.ofDigits 16 ((s.toList.filter (· ≠ '-')).map digitValue).reverse)
  parse_string u := by
    rw [UUID.string, String.toList_ofList, filter_dashed fun _ => uuidHex_ne_dash, digitValue_uuidHex,
      ofDigits_uuidDigits]

def sales : Connection := ⟨1, 7, "sales", "whatsapp_cloud", "551130000001", false, none⟩

def support : Connection := ⟨2, 7, "support", "whatsapp_cloud", "551130000002", false, none⟩

/-- A message to Ana that goes out on `sales`. -/
def invitation : MessagePayload :=
  { messageID := "m-1", connectionID := 1, senderIdentity := "551130000001", traceID := "t-1", to_ := "5511999990000",
    channel := "whatsapp_cloud", body := "", media := none, metadata := [], templateName := "", language := "",
    components := [], interactive := none, channelOverrides := [], fallbackBehavior := "", type := "", product := none }

def noTokens (secret : Option String) : State :=
  { now := 1700000000, workspaces := fun _ => some ⟨secret, none⟩, issued := [] }

/-- The invitation to the flow `booking`. -/
def booking : Issue :=
  ⟨generated standIn 1700000000 7 invitation "booking", 7, 1, 1700000000 + defaultFlowTokenTTL⟩

/-- The booking was sent, and the secret was set after it. -/
def booked : State :=
  { noTokens none with workspaces := fun id => if id = 7 then some ⟨some "whsec", none⟩ else some ⟨none, none⟩,
                       issued := [booking] }

theorem booked_reachable : (system standIn).Reachable booked :=
  ⟨noTokens none, [.dispatch 7 invitation "booking", .setWorkspace 7 (some ⟨some "whsec", none⟩)], ⟨rfl, by decide⟩,
    .cons rfl (.cons rfl (.nil _))⟩

theorem booking_payload :
    payloadOf standIn booking.token = some ⟨7, 1, "5511999990000", "booking", 1700000000 + defaultFlowTokenTTL⟩ := by
  show payloadOf standIn (signed standIn _ _) = _
  exact (signed_spec (string_ne_empty 7) (by decide)).2

/-- The booking on the connection it was sent from. -/
theorem dispatched_bound : Accepts standIn booked sales booking.token ∧ Bound standIn booked sales booking.token := by
  refine ⟨issued_accepted (inv_run booked_reachable) (List.mem_singleton_self _) rfl (by decide), ?_⟩
  refine (bound_iff booked_reachable sales booking.token).mpr fun p hp _ _ => ?_
  obtain rfl := Option.some.inj (booking_payload.symm.trans hp)
  exact ⟨rfl, rfl, by decide, fun _ _ _ _ => ⟨booking, List.mem_singleton_self _, rfl, rfl⟩⟩

/-- A token that somebody made of the id of the workspace. -/
def forged : String := signed standIn ⟨7, 1, "5511999990000", "booking", 1800000000⟩ (UUID.string 7)

/-- The booking is accepted on the other connection; and with a webhook secret set and nothing dispatched, a token is
accepted that only the id of the workspace has signed. -/
theorem foreign_token :
    (Accepts standIn booked support booking.token ∧ ¬ Bound standIn booked support booking.token) ∧
      Accepts standIn (noTokens (some "whsec")) sales forged ∧ ¬ SignedBy standIn forged "whsec" ∧
        ¬ Bound standIn (noTokens (some "whsec")) sales forged := by
  have hacc : Accepts standIn booked support booking.token :=
    issued_accepted (inv_run booked_reachable) (List.mem_singleton_self _) rfl (by decide)
  obtain ⟨hsigned, hpayload⟩ : SignedBy standIn forged (UUID.string 7) ∧
      payloadOf standIn forged = some ⟨7, 1, "5511999990000", "booking", 1800000000⟩ :=
    signed_spec (string_ne_empty 7) (by decide)
  have hforged : Accepts standIn (noTokens (some "whsec")) sales forged :=
    accepts_iff.mpr ⟨Or.inl hsigned, _, hpayload, by decide⟩
  have hkey : ¬ SignedBy standIn forged "whsec" := by
    intro h
    obtain ⟨seg, hseg⟩ := Option.isSome_iff_exists.mp h
    obtain ⟨seg', hseg'⟩ := Option.isSome_iff_exists.mp hsigned
    have hsame := (verified_key hseg hseg').1
    exact absurd hsame (by decide +kernel)
  refine ⟨⟨hacc, fun hb => ?_⟩, hforged, hkey, fun hb => ?_⟩
  · obtain ⟨p, hp, hconn, -, -⟩ := hb.carried hacc
    obtain rfl := Option.some.inj (booking_payload.symm.trans hp)
    cases hconn
  · obtain ⟨i, hi, -⟩ := hb.keyed hforged "whsec" (by decide +kernel) hkey
    cases hi

end Example

end PerGo.L4.FlowTokens
