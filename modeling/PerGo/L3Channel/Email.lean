import PerGo.L1Encoding.Mime
import PerGo.L2Domain.Message

/-!
# Outbound e-mail

`EmailAdapter.Dispatch` fills an `EmailMessage` from the metadata of the payload and from its `email` override,
and the SMTP provider writes it as a MIME message. `sendMail` is a parameter: it is handed the sender, the
recipients and the bytes, and answers with the text of its error. The attachments are left out: nothing sets or
reads them.
-/
namespace PerGo.L3.Email

open PerGo.L1
open PerGo.L1.Mime (bytes crlf lf writeField)
open PerGo.L2

/-- mirrors email/email.go:22-35 -/
structure EmailMessage where
  id : String
  from_ : String
  fromName : String
  to_ : List String
  replyTo : String
  subject : String
  textBody : String
  htmlBody : String
  headers : StrMap
  trackOpens : Bool
  trackClicks : Bool
deriving DecidableEq

/-! ## The adapter -/

/-- `json.Unmarshal` into a `string` field: the last entry that is not `null` fills it; `none` is a type
error. -/
def decodeString (kvs : List (String × Json)) (name : String) : Option String :=
  kvs.foldlM (fun value kv =>
    if foldName kv.1 = foldName name then
      match kv.2 with
      | .str s => some s
      | .null => some value
      | _ => none
    else some value) ""

/-- mirrors email.go:98-105 -/
structure EmailOverride where
  subject : String
  htmlBody : String
  textBody : String
  from_ : String
  fromName : String
  replyTo : String

def decodeOverride : Json → Option EmailOverride
  | .null => some ⟨"", "", "", "", "", ""⟩
  | .obj kvs => do
    return ⟨← decodeString kvs "subject", ← decodeString kvs "html_body", ← decodeString kvs "text_body",
      ← decodeString kvs "from", ← decodeString kvs "from_name", ← decodeString kvs "reply_to"⟩
  | _ => none

/-- `if value != "" { field = value }` -/
def orKeep (value field : String) : String := if value = "" then field else value

def isOn (value : String) : Bool := value = "true" || value = "1"

/-- mirrors email.go:64-92 -/
def fromMetadata (m : MessagePayload) : EmailMessage where
  id := m.messageID
  from_ := m.metadata.get "from"
  fromName := m.metadata.get "from_name"
  to_ := [m.to_]
  replyTo := m.metadata.get "reply_to"
  subject := orKeep (m.metadata.get "subject") "Message from PerGo"
  textBody := m.body
  htmlBody := ""
  headers := []
  trackOpens := isOn (m.metadata.get "track_opens")
  trackClicks := isOn (m.metadata.get "track_clicks")

/-- mirrors email.go:106-125 -/
def EmailMessage.override (msg : EmailMessage) (o : EmailOverride) : EmailMessage :=
  { msg with
    subject := orKeep o.subject msg.subject
    htmlBody := orKeep o.htmlBody msg.htmlBody
    textBody := orKeep o.textBody msg.textBody
    from_ := orKeep o.from_ msg.from_
    fromName := orKeep o.fromName msg.fromName
    replyTo := orKeep o.replyTo msg.replyTo }

/-- A text that looks like HTML is the HTML body too. mirrors email.go:130-132 -/
def EmailMessage.detectHTML (msg : EmailMessage) : EmailMessage :=
  if msg.htmlBody = "" ∧ hasPrefix (trimSpace msg.textBody) "<" = true then { msg with htmlBody := msg.textBody } else msg

/-- The message `Dispatch` hands to the provider. mirrors email.go:64-132 -/
def emailMessage (m : MessagePayload) : EmailMessage :=
  let msg := fromMetadata m
  match (m.channelOverrides.lookup "email").bind decodeOverride with
  | some o => (msg.override o).detectHTML
  | none => msg.detectHTML

def isPrivate (m : MessagePayload) : Bool :=
  m.metadata.get "is_private" = "true" || m.metadata.get "direction" = "internal_note"

/-- mirrors email.go:52-140 -/
def Dispatch (provider : Option (EmailMessage → Except GoError String)) (m : MessagePayload) : Except GoError String :=
  if isPrivate m then .ok ""
  else match provider with
    | none => .error ⟨"terminal: no email provider configured", true⟩
    | some send =>
      if m.to_ = "" then .error ⟨"terminal: email recipient (To) is empty", true⟩
      else match send (emailMessage m) with
        | .ok id => .ok id
        | .error e => .error ⟨"email provider dispatch failed: " ++ e.text, e.terminal⟩

/-! ## The SMTP provider -/

/-- mirrors email/smtp.go:13-20; the login is left out. -/
structure SMTPConfig where
  host : String
  port : Int
  fromAddress : String
  fromName : String

/-- mirrors smtp.go:28-33 -/
def NewSMTPProvider (cfg : SMTPConfig) : SMTPConfig := if cfg.port = 0 then { cfg with port := 587 } else cfg

/-- `name <address>`, or the address alone. mirrors smtp.go:83-87 -/
def mailbox (from_ fromName : String) : List UInt8 :=
  if fromName ≠ "" then bytes fromName ++ bytes " <" ++ bytes from_ ++ bytes ">" else bytes from_

/-- A message ID that is longer than 8 bytes is cut, in the middle of a character if need be.
mirrors smtp.go:107-111 -/
def boundary (msgID : String) : List UInt8 := bytes "---=_PerGo_Boundary_" ++ (bytes msgID).take 8

/-- mirrors smtp.go:83-105, in the order of the custom headers that is given -/
def writeHeaders (from_ fromName : String) (msg : EmailMessage) (msgID : String) : List UInt8 :=
  writeField (bytes "From", mailbox from_ fromName) ++
  (match msg.to_ with
    | to_ :: _ => writeField (bytes "To", bytes to_)
    | [] => []) ++
  (if msg.replyTo ≠ "" then writeField (bytes "Reply-To", bytes msg.replyTo) else []) ++
  writeField (bytes "Subject", bytes msg.subject) ++
  writeField (bytes "Message-ID", bytes "<" ++ bytes msgID ++ bytes "@pergo.dev>") ++
  writeField (bytes "MIME-Version", bytes "1.0") ++
  msg.headers.flatMap (fun kv => writeField (bytes kv.1, bytes kv.2))

def textPlain : List UInt8 := bytes "text/plain; charset=UTF-8"

def textHTML : List UInt8 := bytes "text/html; charset=UTF-8"

def alternative (msgID : String) : List UInt8 :=
  bytes "multipart/alternative; boundary=\"" ++ boundary msgID ++ bytes "\""

/-- mirrors smtp.go:79-132 -/
def BuildMIMEPayload (from_ fromName : String) (msg : EmailMessage) (msgID : String) : List UInt8 :=
  writeHeaders from_ fromName msg msgID ++
  if msg.htmlBody ≠ "" then
    writeField (bytes "Content-Type", alternative msgID) ++ crlf ++
    (bytes "--" ++ boundary msgID ++ crlf) ++
    writeField (bytes "Content-Type", textPlain) ++ crlf ++
    bytes msg.textBody ++ (crlf ++ crlf) ++
    (bytes "--" ++ boundary msgID ++ crlf) ++
    writeField (bytes "Content-Type", textHTML) ++ crlf ++
    bytes msg.htmlBody ++ (crlf ++ crlf) ++
    (bytes "--" ++ boundary msgID ++ bytes "--" ++ crlf)
  else
    writeField (bytes "Content-Type", textPlain) ++ crlf ++
    bytes msg.textBody ++ crlf

/-- What `BuildMIMEPayload` is called with. -/
structure Mail where
  from_ : String
  fromName : String
  msg : EmailMessage
  msgID : String
deriving DecidableEq

def Mail.payload (mail : Mail) : List UInt8 := BuildMIMEPayload mail.from_ mail.fromName mail.msg mail.msgID

/-- `newID` is `uuid.New`. mirrors smtp.go:37-53 -/
def prepare (cfg : SMTPConfig) (newID : String) (msg : EmailMessage) : Except GoError Mail :=
  let from_ := orKeep msg.from_ cfg.fromAddress
  if from_ = "" then .error ⟨"from address is required", false⟩
  else .ok ⟨from_, orKeep msg.fromName cfg.fromName, msg, orKeep msg.id newID⟩

/-- `sendMail(addr, auth, from, to, msg)`. -/
abbrev SendMail := String → String → List String → List UInt8 → Option String

def deliver (sendMail : SendMail) (cfg : SMTPConfig) (mail : Mail) : Except GoError String :=
  match sendMail (cfg.host ++ ":" ++ formatInt cfg.port) mail.from_ mail.msg.to_ mail.payload with
  | none => .ok mail.msgID
  | some e => .error ⟨"smtp send error to [" ++ " ".intercalate mail.msg.to_ ++ "]: " ++ e, false⟩

/-- mirrors smtp.go:36-71 -/
def Send (sendMail : SendMail) (cfg : SMTPConfig) (newID : String) (msg : EmailMessage) : Except GoError String :=
  (prepare cfg newID msg).bind (deliver sendMail cfg)

/-- What the payload of a request is written from; `none` when nothing is written. -/
def passed (cfg : SMTPConfig) (newID : String) (m : MessagePayload) : Option Mail :=
  if isPrivate m = true ∨ m.to_ = "" then none else (prepare cfg newID (emailMessage m)).toOption

theorem dispatch_passed {sendMail : SendMail} {cfg : SMTPConfig} {newID : String} {m : MessagePayload} {mail : Mail}
    (h : passed cfg newID m = some mail) : Dispatch (some (Send sendMail cfg newID)) m =
      match deliver sendMail cfg mail with
      | .ok id => .ok id
      | .error e => .error ⟨"email provider dispatch failed: " ++ e.text, e.terminal⟩ := by
  unfold passed at h
  split at h
  · cases h
  · rename_i hgate
    rw [not_or] at hgate
    unfold Dispatch Send
    rw [if_neg hgate.1]
    dsimp only
    rw [if_neg hgate.2]
    cases hprepare : prepare cfg newID (emailMessage m) with
    | error e =>
      rw [hprepare] at h
      cases h
    | ok mail' =>
      rw [hprepare] at h
      cases h
      rfl

theorem emailMessage_headers (m : MessagePayload) : (emailMessage m).headers = [] := by
  unfold emailMessage EmailMessage.detectHTML
  cases (m.channelOverrides.lookup "email").bind decodeOverride with
  | none =>
    dsimp only
    split <;> rfl
  | some o =>
    dsimp only
    split <;> rfl

theorem passed_msg {cfg : SMTPConfig} {newID : String} {m : MessagePayload} {mail : Mail}
    (h : passed cfg newID m = some mail) : mail.msg = emailMessage m := by
  unfold passed prepare at h
  split at h
  · cases h
  · dsimp only at h
    split at h
    · cases h
    · cases h
      rfl

end PerGo.L3.Email
