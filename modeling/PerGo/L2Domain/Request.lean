import PerGo.L2Domain.Message

/-!
# Message requests and their checks

`CreateMessageRequest` of `domain/message.go` with `ValidateMessage` and
`ValidateProductPayload`, and the limits on interactive messages of
`domain/campaign.go`. A check yields the field errors it adds; a request is
accepted when no check adds one.
-/
namespace PerGo.L2

open PerGo.L1

/-- mirrors message.go:188-218 -/
structure CreateMessageRequest where
  chatID : Option UUID
  connectionID : Option UUID
  contactID : Option UUID
  replyToUID : Option String
  senderType : String
  senderName : String
  campaignID : Option UUID
  variablesJSON : StrMap
  to_ : String
  from_ : String
  channel : String
  body : String
  media : Option Media
  metadata : StrMap
  ttlSeconds : Option Int
  templateName : String
  language : String
  components : List TemplateComponent
  fallbackChannels : List String
  interactive : Option Interactive
  channelOverrides : List (String × Json)
  fallbackBehavior : String
  type : String
  product : Option ProductPayload

/-- mirrors message.go:275-278 -/
structure FieldError where
  field : String
  message : String
deriving DecidableEq

/-- mirrors message.go:267-272 -/
structure ErrorResponse where
  code : String
  message : String
  details : List FieldError
deriving DecidableEq

def check (failed : Bool) (field message : String) : List FieldError := if failed then [⟨field, message⟩] else []

def index (i : Nat) : String := "[" ++ formatInt i ++ "]"

/-! ## Products -/

def messageTypeProduct : String := "product"
def messageTypeProductList : String := "product_list"

def validateItem (i j : Nat) (item : ProductItem) : List FieldError :=
  check (item.productRetailerID = "")
    ("product.sections" ++ index i ++ ".product_items" ++ index j ++ ".product_retailer_id") "is required"

def validateSection (i : Nat) (s : ProductSection) : List FieldError :=
  check (s.title.length > 24) ("product.sections" ++ index i ++ ".title") "cannot exceed 24 characters" ++
    (s.productItems.mapIdx (validateItem i)).flatten

/-- mirrors message.go:461-520 -/
def validateProductPayload (product : Option ProductPayload) (msgType : String) : List FieldError :=
  match product with
  | none => [⟨"product", "is required"⟩]
  | some p =>
    if msgType = messageTypeProduct ∨ (msgType = "" ∧ p.sections = []) then
      check (p.productRetailerID = "") "product.product_retailer_id" "is required"
    else if msgType = messageTypeProductList ∨ (msgType = "" ∧ p.sections ≠ []) then
      check (p.sections.length < 1 || p.sections.length > 10) "product.sections" "must contain between 1 and 10 sections" ++
        (p.sections.mapIdx validateSection).flatten ++
        check ((p.sections.map (·.productItems.length)).sum > 30) "product.sections"
          "cannot exceed 30 items total across all sections"
    else []

def hasProduct (type : String) (product : Option ProductPayload) : Bool :=
  type = messageTypeProduct || type = messageTypeProductList || product.isSome

/-! ## The request -/

def validateFallbacks : List String → Nat → List String → List FieldError
  | _, _, [] => []
  | seen, i, fb :: rest =>
    check (seen.contains fb) ("fallback_channels" ++ index i) "duplicate channel entry" ++
      validateFallbacks (fb :: seen) (i + 1) rest

def mediaTypes : List String := ["image", "document", "audio", "video", "voice"]

def validateMedia (m : Media) : List FieldError :=
  check (!mediaTypes.contains m.mediaType) "media.media_type" "must be one of: image, document, audio, video, voice" ++
  (if m.mediaURL = "" then [⟨"media.media_url", "is required when media is provided"⟩]
   else check (!hasPrefix (toLower m.mediaURL) "http://" && !hasPrefix (toLower m.mediaURL) "https://")
     "media.media_url" "must be a valid HTTP/HTTPS URL") ++
  check (m.mediaType = "document" && m.filename = "") "media.filename" "is required when media_type is document"

def validateInteractive (i : Interactive) : List FieldError :=
  check (i.type = "") "interactive.type" "is required" ++
  check (i.body.text = "") "interactive.body.text" "is required" ++
  check (i.type = "button" && i.action.buttons = []) "interactive.action.buttons" "is required when type is button" ++
  check (i.type = "list" && i.action.sections = []) "interactive.action.sections" "is required when type is list"

def validateContent (req : CreateMessageRequest) : List FieldError :=
  check (req.templateName = "" && req.body = "" && req.interactive = none && !hasProduct req.type req.product) "body"
    "either body, media, interactive, or product is required"

def productDetails (req : CreateMessageRequest) : List FieldError :=
  if hasProduct req.type req.product then validateProductPayload req.product req.type else []

/-- The details of `ValidateMessage`, in order. mirrors message.go:312-438 -/
def messageDetails (req : CreateMessageRequest) : List FieldError :=
  check (req.to_ = "") "to" "is required" ++
  check (req.channel = "") "channel" "is required" ++
  check (req.ttlSeconds.any (· ≤ 0)) "ttl_seconds" "must be a positive integer" ++
  check (req.templateName ≠ "" && req.language = "") "language" "is required when template_name is specified" ++
  validateFallbacks (if req.channel = "" then [] else [req.channel]) 0 req.fallbackChannels ++
  (match req.media with
    | some m => validateMedia m
    | none => validateContent req) ++
  check (req.fallbackBehavior ≠ "" && req.fallbackBehavior ≠ "degrade" && req.fallbackBehavior ≠ "fail")
    "fallback_behavior" "must be either \"degrade\" or \"fail\"" ++
  (req.interactive.map validateInteractive).getD [] ++
  productDetails req

/-- A voice message is push-to-talk. mirrors message.go:367-369 -/
def Media.voicePTT (m : Media) : Media := if m.mediaType = "voice" then { m with ptt := true } else m

/-- mirrors message.go:312-453 -/
def validateMessage (req : CreateMessageRequest) : Except ErrorResponse CreateMessageRequest :=
  if messageDetails req = [] then .ok { req with media := req.media.map Media.voicePTT }
  else .error
    { code := if productDetails req = [] then "invalid_payload" else "invalid_product_payload"
      message := "request body validation failed", details := messageDetails req }

/-! ## Interactive messages -/

/-- mirrors message.go:64-70 -/
def Interactive.totalRows (i : Interactive) : Nat := (i.action.sections.map (·.rows.length)).sum

/-- `fmt.Sprintf("\n%d. %s", n, title)`. -/
def numberedLine (n : Nat) (title : String) : String := "\n" ++ formatInt n ++ ". " ++ title

def degradeSections : Nat → List Section → String
  | _, [] => ""
  | n, s :: rest =>
    (if s.title ≠ "" then "\n\n*" ++ s.title ++ "*" else "") ++
      String.join (s.rows.mapIdx fun k r =>
        numberedLine (n + k) r.title ++ (if r.description ≠ "" then " - " ++ r.description else "")) ++
      degradeSections (n + s.rows.length) rest

/-- mirrors message.go:73-114 -/
def Interactive.degradeToText (i : Interactive) : String :=
  let header := match i.header with
    | some h => if h.text ≠ "" then h.text ++ "\n\n" else ""
    | none => ""
  let footer := match i.footer with
    | some f => if f.text ≠ "" then "\n\n" ++ f.text else ""
    | none => ""
  header ++ i.body.text ++ String.join (i.action.buttons.mapIdx fun k b => numberedLine (k + 1) b.reply.title) ++
    degradeSections 1 i.action.sections ++
    (if i.type = "flow" ∧ i.action.flowCTA ≠ "" then "\n\n[" ++ i.action.flowCTA ++ "]" else "") ++ footer

def firstOf (checks : List (Option String)) : Option String := checks.findSome? id

/-- `… exceeds maximum length of <max> characters (<n>)`. -/
def tooLong (what : String) (max : Nat) (s : String) : Option String :=
  if s.length > max then
    some (what ++ " exceeds maximum length of " ++ formatInt max ++ " characters (" ++ formatInt s.length ++ ")")
  else none

/-- An id's error does not say how long it is. -/
def idTooLong (what : String) (max : Nat) (s : String) : Option String :=
  if s.length > max then some (what ++ " exceeds maximum length of " ++ formatInt max ++ " characters") else none

/-- `… exceeds maximum of <max> <unit> (<n>)`. -/
def tooMany (what : String) (max : Nat) (unit : String) (n : Nat) : Option String :=
  if n > max then some (what ++ " exceeds maximum of " ++ formatInt max ++ " " ++ unit ++ " (" ++ formatInt n ++ ")")
  else none

def buttonLimits (k : Nat) (b : Button) : Option String :=
  let what := "button " ++ formatInt (k + 1)
  firstOf [tooLong (what ++ " title") 20 b.reply.title, idTooLong (what ++ " ID") 256 b.reply.id]

def rowLimits (k : Nat) (j : Nat) (r : Row) : Option String :=
  let what := "section " ++ formatInt (k + 1) ++ " row " ++ formatInt (j + 1)
  firstOf [tooLong (what ++ " title") 24 r.title, tooLong (what ++ " description") 72 r.description,
    idTooLong (what ++ " ID") 200 r.id]

def sectionLimits (k : Nat) (s : Section) : Option String :=
  firstOf (tooLong ("section " ++ formatInt (k + 1) ++ " title") 24 s.title :: s.rows.mapIdx (rowLimits k))

/-- The error of `ValidateInteractiveLimits`. mirrors campaign.go:580-648 -/
def validateInteractiveLimits (i : Interactive) : Option String :=
  firstOf <|
    [i.header.bind fun h => tooLong "interactive header" 60 h.text,
      tooLong "interactive body" 1024 i.body.text,
      i.footer.bind fun f => tooLong "interactive footer" 60 f.text] ++
    (if i.type = "button" then
      tooMany "interactive button message" 3 "buttons" i.action.buttons.length :: i.action.buttons.mapIdx buttonLimits
     else []) ++
    (if i.type = "list" then
      [tooLong "list button title" 20 i.action.button,
        tooMany "interactive list" 10 "sections" i.action.sections.length,
        tooMany "interactive list" 10 "rows total" i.totalRows] ++ i.action.sections.mapIdx sectionLimits
     else []) ++
    (if i.type = "flow" then [tooLong "flow CTA title" 20 i.action.flowCTA] else [])

end PerGo.L2
