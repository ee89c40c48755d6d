import PerGo.L1Encoding.Bytes
import PerGo.L1Encoding.JsonText
import PerGo.L2Domain.UUID
import PerGo.L3Channel.Waba

/-!
# Flow tokens

`crypto/flow_token.go`, the token that `WABAAdapter.Dispatch` signs for a
flow message, and the check of `HandleFlowDataExchange`
(`handler/flow_data_exchange.go`) once the request is decrypted.

* A token is the base64 of its payload's JSON, a dot, and the base64 of the signature of
  the first part. The signature is compared as bytes, so other texts of the last part pass too.
* HMAC-SHA256 is an injective function of key and text, and `uuid.Parse` reads what `String`
  writes (`Externals`). Clocks are in seconds.
* What the endpoint does with an accepted request is `delegated`; the call of the partner's
  webhook is not modelled.
-/
namespace PerGo.L3.FlowToken

open PerGo.L1 PerGo.L2 PerGo.L3.Channel
open PerGo.L1.JsonText (Node Scalar writeObject parse parse_writeObject)

structure Externals where
  hmac : String → List Char → List UInt8
  hmac_inj : ∀ {k m k' m'}, hmac k m = hmac k' m' → k = k' ∧ m = m'
  parseUUID : String → Option UUID
  parse_string : ∀ u : UUID, parseUUID u.string = some u

/-- mirrors flow_token.go:28-34 -/
structure FlowTokenPayload where
  workspaceID : UUID
  connectionID : UUID
  contactID : String
  flowID : String
  expiresAt : Int

def FlowTokenPayload.zero : FlowTokenPayload := ⟨UUID.Nil, UUID.Nil, "", "", 0⟩

/-- `DefaultFlowTokenTTL`, in seconds. mirrors flow_token.go:25 -/
def defaultFlowTokenTTL : Int := 7 * 24 * 3600

inductive FlowTokenError
  | invalid
  | expired

/-! ## The payload as JSON -/

def FlowTokenPayload.fields (p : FlowTokenPayload) : List (String × Scalar) :=
  [("workspace_id", .str p.workspaceID.string), ("connection_id", .str p.connectionID.string),
    ("contact_id", .str p.contactID), ("flow_id", .str p.flowID), ("expires_at", .int p.expiresAt)]

section Payload

variable (ext : Externals)

/-- A `uuid.UUID` field; `null` leaves it as it is. -/
def uuidField (old : UUID) : Node → Option UUID
  | .null => some old
  | .str s => ext.parseUUID (String.ofList s)
  | _ => none

def stringField (old : String) : Node → Option String
  | .null => some old
  | .str s => some (String.ofList s)
  | _ => none

def int64Field (old : Int) : Node → Option Int
  | .null => some old
  | .num literal => parseInt64 (String.ofList literal)
  | _ => none

def setField (p : FlowTokenPayload) (kv : List Char × Node) : Option FlowTokenPayload :=
  let name := foldName (String.ofList kv.1)
  if name = foldName "workspace_id" then (uuidField ext p.workspaceID kv.2).map fun v => { p with workspaceID := v }
  else if name = foldName "connection_id" then
    (uuidField ext p.connectionID kv.2).map fun v => { p with connectionID := v }
  else if name = foldName "contact_id" then (stringField p.contactID kv.2).map fun v => { p with contactID := v }
  else if name = foldName "flow_id" then (stringField p.flowID kv.2).map fun v => { p with flowID := v }
  else if name = foldName "expires_at" then (int64Field p.expiresAt kv.2).map fun v => { p with expiresAt := v }
  else some p

/-- `json.Unmarshal`: a `null` leaves the zero payload, any other value but an object is an error. -/
def unmarshal (text : List Char) : Option FlowTokenPayload :=
  match parse text with
  | some .null => some .zero
  | some (.obj kvs) => kvs.foldlM (setField ext) .zero
  | _ => none

end Payload

/-! ## Signing and checking -/

section Tokens

variable (ext : Externals)

def segment (p : FlowTokenPayload) : List Char := Base64.encode (utf8 (writeObject p.fields))

def signed (p : FlowTokenPayload) (secret : String) : String :=
  String.ofList (segment p ++ '.' :: Base64.encode (ext.hmac secret (segment p)))

/-- mirrors flow_token.go:38-56 -/
def generateFlowToken (now : Int) (p : FlowTokenPayload) (secret : String) : String :=
  signed ext (if p.expiresAt ≤ 0 then { p with expiresAt := now + defaultFlowTokenTTL } else p) secret

/-- `strings.Split(s, ".")` when it has two parts. -/
def splitDot (l : List Char) : Option (List Char × List Char) :=
  if l.count '.' = 1 then some (l.takeWhile (· ≠ '.'), (l.dropWhile (· ≠ '.')).drop 1) else none

/-- The first part of a token that the key has signed. mirrors flow_token.go:62-86 -/
def verified (tok secret : String) : Option (List Char) :=
  if tok = "" ∨ secret = "" then none
  else match splitDot tok.toList with
    | none => none
    | some (payload, sig) => if Base64.decode sig = some (ext.hmac secret payload) then some payload else none

/-- mirrors flow_token.go:88-96 -/
def decodePayload (payload : List Char) : Option FlowTokenPayload :=
  (Base64.decode payload).bind fun bytes => unmarshal ext (runes bytes)

/-- A payload with a positive expiry has a last second. -/
def expired (now : Int) (p : FlowTokenPayload) : Bool := 0 < p.expiresAt && p.expiresAt < now

/-- mirrors flow_token.go:61-103 -/
def parseAndValidateFlowToken (now : Int) (tok secret : String) : Except FlowTokenError FlowTokenPayload :=
  match (verified ext tok secret).bind (decodePayload ext) with
  | none => .error .invalid
  | some p => if expired now p then .error .expired else .ok p

def checkError (now : Int) (tok secret : String) : Option FlowTokenError :=
  match parseAndValidateFlowToken ext now tok secret with
  | .ok _ => none
  | .error e => some e

/-! ## The endpoint -/

structure Screen where
  screen : String
  message : String

/-- The columns of `workspaces` the endpoint reads. -/
structure Workspace where
  webhookSecret : Option String
  flowWebhookURL : Option String

/-- `ws != nil && ws.WebhookSecret != nil && *ws.WebhookSecret != ""`. -/
def secretOf (ws : Option Workspace) : Option String := (ws.bind (·.webhookSecret)).filter (· ≠ "")

/-- The error of a token. The workspace's id is tried as the key when there is no webhook secret, or the token
does not pass with it. mirrors flow_data_exchange.go:183-194 -/
def tokenError (now : Int) (workspaceID : UUID) (ws : Option Workspace) (tok : String) : Option FlowTokenError :=
  let own := (secretOf ws).bind (checkError ext now tok)
  if own.isSome || (secretOf ws).isNone then
    match checkError ext now tok workspaceID.string with
    | none => none
    | some e => some (own.getD e)
  else own

/-- mirrors flow_data_exchange.go:177-202 -/
def checkFlowToken (now : Int) (workspaceID : UUID) (ws : Option Workspace) (tok : String) : Except Screen Unit :=
  if tok = "" then .error ⟨"ERROR", "Missing flow token."⟩
  else match tokenError ext now workspaceID ws tok with
    | none => .ok ()
    | some .expired => .error ⟨"EXPIRED", "This flow has expired."⟩
    | some .invalid => .error ⟨"ERROR", "Invalid flow token."⟩

inductive Reply
  | active
  | screen (s : Screen)
  /-- the request goes to the partner -/
  | delegated (url : String)

/-- A decrypted request on a connection. mirrors flow_data_exchange.go:165-208 -/
def handleFlowDataExchange (now : Int) (conn : Connection) (ws : Option Workspace) (action tok : String) : Reply :=
  if action = "ping" then .active
  else match checkFlowToken ext now conn.workspaceID ws tok with
    | .error s => .screen s
    | .ok () => match (ws.bind (·.flowWebhookURL)).filter (· ≠ "") with
      | none => .screen ⟨"ERROR", "Flow webhook URL not configured."⟩
      | some url => .delegated url

/-! ## Dispatching a flow -/

/-- The payload `Dispatch` signs. -/
def flowPayload (now : Int) (workspaceID : UUID) (m : MessagePayload) (flowID : String) : FlowTokenPayload :=
  ⟨workspaceID, m.connectionID, m.to_, flowID, now + defaultFlowTokenTTL⟩

/-- What `Dispatch` generates for a message. mirrors whatsapp/waba.go:419-431 -/
def generated (now : Int) (workspaceID : UUID) (m : MessagePayload) (flowID : String) : String :=
  generateFlowToken ext now (flowPayload now workspaceID m flowID) workspaceID.string

end Tokens

/-! ## A token is read back -/

section RoundTrip

variable {ext : Externals}

theorem unmarshal_fields {p : FlowTokenPayload} (hexp : -(2 ^ 63) ≤ p.expiresAt ∧ p.expiresAt < 2 ^ 63) :
    unmarshal ext (writeObject p.fields) = some p := by
  have hws : foldName "connection_id" ≠ foldName "workspace_id" := by decide +kernel
  have hcontact : foldName "contact_id" ≠ foldName "workspace_id" ∧ foldName "contact_id" ≠ foldName "connection_id" := by
    decide +kernel
  have hflow : foldName "flow_id" ≠ foldName "workspace_id" ∧ foldName "flow_id" ≠ foldName "connection_id" ∧
      foldName "flow_id" ≠ foldName "contact_id" := by
    decide +kernel
  have hexpires : foldName "expires_at" ≠ foldName "workspace_id" ∧ foldName "expires_at" ≠ foldName "connection_id" ∧
      foldName "expires_at" ≠ foldName "contact_id" ∧ foldName "expires_at" ≠ foldName "flow_id" := by
    decide +kernel
  unfold unmarshal
  rw [parse_writeObject]
  simp only [FlowTokenPayload.fields, List.map_cons, List.map_nil, Scalar.node, List.foldlM_cons, List.foldlM_nil,
    setField, String.ofList_toList, hws, hcontact, hflow, hexpires, if_true, if_false, uuidField, stringField,
    int64Field, ext.parse_string, parseInt64_formatInt hexp, Option.map_some, bind, Option.bind_some, pure]

theorem decodePayload_segment {p : FlowTokenPayload} (hexp : -(2 ^ 63) ≤ p.expiresAt ∧ p.expiresAt < 2 ^ 63) :
    decodePayload ext (segment p) = some p := by
  unfold decodePayload segment
  rw [Base64.decode_encode, Option.bind_some, runes_utf8]
  exact unmarshal_fields hexp

theorem splitDot_append {l l' : List Char} (hl : ∀ c ∈ l, c ≠ '.') (hl' : ∀ c ∈ l', c ≠ '.') :
    splitDot (l ++ '.' :: l') = some (l, l') := by
  have hcount : (l ++ '.' :: l').count '.' = 1 := by
    rw [List.count_append, List.count_cons_self, List.count_eq_zero_of_not_mem fun h => hl '.' h rfl,
      List.count_eq_zero_of_not_mem fun h => hl' '.' h rfl]
  have hpos : ∀ c ∈ l, decide (c ≠ '.') = true := fun c hc => decide_eq_true (hl c hc)
  unfold splitDot
  rw [if_pos hcount, List.takeWhile_append_of_pos hpos, List.dropWhile_append_of_pos hpos]
  simp

theorem verified_signed (p : FlowTokenPayload) {secret : String} (hs : secret ≠ "") :
    verified ext (signed ext p secret) secret = some (segment p) := by
  have hne : signed ext p secret ≠ "" := by
    intro h
    have hlen := congrArg (fun s => s.toList.length) h
    simp [signed] at hlen
  unfold verified
  rw [if_neg fun h => h.elim hne hs]
  have hsplit : splitDot (signed ext p secret).toList =
      some (segment p, Base64.encode (ext.hmac secret (segment p))) := by
    unfold signed
    rw [String.toList_ofList]
    exact splitDot_append (fun c hc => (Base64.mem_encode hc).2.2) fun c hc => (Base64.mem_encode hc).2.2
  rw [hsplit]
  simp only [Base64.decode_encode, if_true]

theorem verified_key {tok secret secret' : String} {seg seg' : List Char} (h : verified ext tok secret = some seg)
    (h' : verified ext tok secret' = some seg') : secret = secret' ∧ seg = seg' := by
  unfold verified at h h'
  split at h
  · cases h
  rename_i hne
  split at h'
  · cases h'
  cases hsplit : splitDot tok.toList with
  | none =>
    rw [hsplit] at h
    cases h
  | some parts =>
    obtain ⟨payload, sig⟩ := parts
    simp only [hsplit] at h h'
    split at h
    · rename_i hsig
      split at h'
      · rename_i hsig'
        cases h
        cases h'
        have := ext.hmac_inj (Option.some.inj (hsig.symm.trans hsig'))
        exact ⟨this.1, rfl⟩
      · cases h'
    · cases h

end RoundTrip

end PerGo.L3.FlowToken
