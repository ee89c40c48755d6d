import PerGo.L2Domain.Inbound

/-!
# Chats

`domain/chat.go`: the state of a chat that activities drive, and
`Apply`, the one transition function on it. A turn sets the service window, the
AI engagement, the status and the clocks of the chat, and yields the message to
store and the effects to run after the commit.

Named string types with a fixed vocabulary are inductive types with a
constructor for every other word; a word of the vocabulary is not one of those.
`Activity` has the three types that implement it; the switch of `Apply` has a
default for a nil or a pointer, which none of its callers passes.

* `Apply` reads the clock only when an activity has the zero time, and makes an
  identifier only when a turn has none: both are in `ApplyEnv`.
* UTC conversion leaves an instant as it is and has no counterpart here.
-/
namespace PerGo.L2

open PerGo.L1

/-- mirrors chat.go:13-19 -/
inductive Direction
  | inbound
  | outbound
  | internalNote
deriving DecidableEq

/-- mirrors chat.go:22-29 -/
inductive SenderType
  | contact
  | humanAgent
  | aiAgent
  | system
  | other (s : String) (h : s ∉ ["contact", "human_agent", "ai_agent", "system"])
deriving DecidableEq

/-- `SenderType(s)`. -/
def SenderType.ofString (s : String) : SenderType :=
  if hs : s ∉ ["contact", "human_agent", "ai_agent", "system"] then .other s hs
  else if s = "contact" then .contact
  else if s = "human_agent" then .humanAgent
  else if s = "ai_agent" then .aiAgent
  else .system

/-- mirrors chat.go:33-49 -/
def normalizeSenderType (raw : String) : SenderType :=
  let trimmed := trimSpace raw
  let word := toLower trimmed
  if word ∈ ["human", "human_agent", "operator"] then .humanAgent
  else if word ∈ ["ai", "ai_agent", "bot"] then .aiAgent
  else if word = "system" then .system
  else if word = "contact" then .contact
  else .ofString trimmed

/-- mirrors chat.go:52-59 -/
inductive ChatStatus
  | open_
  | pending
  | closed
  | snoozed
  | other (s : String) (h : s ∉ ["open", "pending", "closed", "snoozed"])
deriving DecidableEq

def ChatStatus.unset : ChatStatus := .other "" (by decide)

/-- mirrors chat.go:69-77 -/
def normalizeSnooze (status : ChatStatus) (snoozedUntil : Option Time) (now : Time) :
    ChatStatus × Option Time :=
  if status = .unset then (.open_, snoozedUntil)
  else if status = .snoozed ∧ snoozedUntil.any (fun u => decide (u ≤ now)) then (.open_, none)
  else (status, snoozedUntil)

/-- mirrors chat.go:100-106 -/
inductive AIMode
  | active
  | paused
  | off
  | other (s : String) (h : s ∉ ["active", "paused", "off"])
deriving DecidableEq

def AIMode.unset : AIMode := .other "" (by decide)

/-- mirrors chat.go:109-112 -/
structure AIEngagement where
  mode : AIMode
  pausedUntil : Option Time
deriving DecidableEq

/-- An expired pause is over without a write. mirrors chat.go:116-129 -/
def AIEngagement.effective (e : AIEngagement) (now : Time) : AIEngagement :=
  match e.mode, e.pausedUntil with
  | .off, _ => ⟨.off, none⟩
  | .paused, some u => if now < u then ⟨.paused, some u⟩ else ⟨.active, none⟩
  | .paused, none => ⟨.active, none⟩
  | _, _ => ⟨.active, none⟩

/-- mirrors chat.go:132-134 -/
def AIEngagement.isEngaged (e : AIEngagement) : Bool := e.mode = .unset || e.mode = .active

/-- mirrors chat.go:210-227 -/
structure ChatMessage where
  id : UUID
  chatID : UUID
  workspaceID : UUID
  uid : String
  direction : Direction
  senderType : SenderType
  senderName : String
  senderID : String
  body : String
  mediaURL : Option String
  mediaType : Option String
  isPrivate : Bool
  reactions : List Reaction
  replyToUID : Option String
  metadata : List (String × GoVal)
  createdAt : Time
deriving DecidableEq

/-- mirrors chat.go:460-465 -/
inductive EntryPointType
  | standard
  | ctwa
  | other (s : String) (h : s ∉ ["standard", "ctwa"])
deriving DecidableEq

/-- `StandardWindowDuration`. -/
def standardWindowDuration : Int := 24 * hour

/-- mirrors chat.go:470-475 -/
def normalizeEntryPointType (entryPoint : String) : EntryPointType :=
  if equalFold (trimSpace entryPoint) "ctwa" then .ctwa else .standard

/-- mirrors chat.go:479-485 -/
def extendServiceWindow (prev : Option Time) (at_ : Time) : Time :=
  let candidate := at_ + standardWindowDuration
  match prev with
  | some p => if candidate < p then p else candidate
  | none => candidate

/-- mirrors chat.go:575-590 -/
structure ChatState where
  id : UUID
  workspaceID : UUID
  connectionID : Option UUID
  contactID : UUID
  channel : String
  status : ChatStatus
  snoozedUntil : Option Time
  ai : AIEngagement
  serviceWindowExpiresAt : Option Time
  entryPointType : EntryPointType
  unreadCount : Int
  lastMessageAt : Time
  lastInboundAt : Option Time
  lastOutboundAt : Option Time
deriving DecidableEq

/-- mirrors chat.go:488-495 -/
structure ServiceWindow where
  channel : String
  isOpen : Bool
  expiresAt : Time
  entryPointType : EntryPointType
  windowDuration : Int
  remaining : Int
deriving DecidableEq

/-- `NormalizeEntryPointType` of a value that has the type already. -/
def EntryPointType.normalize : EntryPointType → EntryPointType
  | .standard => .standard
  | .ctwa => .ctwa
  | .other s _ => normalizeEntryPointType s

/-- No chat, or no inbound turn on it yet, is a closed window; other channels have none.
mirrors chat.go:511-554 -/
def window (state : ChatState) (exists_ : Bool) (now : Time) : ServiceWindow :=
  let ch := toLower (trimSpace state.channel)
  let base : ServiceWindow :=
    { channel := ch, isOpen := false, expiresAt := 0, entryPointType := state.entryPointType.normalize,
      windowDuration := standardWindowDuration, remaining := 0 }
  if ch ≠ "" ∧ ch ≠ "whatsapp_cloud" then { base with isOpen := true }
  else match exists_, state.serviceWindowExpiresAt with
    | true, some exp =>
      if now < exp then { base with isOpen := true, expiresAt := exp, remaining := exp - now }
      else { base with expiresAt := exp }
    | _, _ => base

/-- `false` is `TemplateRequiredError`. mirrors chat.go:558-572 -/
def requireOpenWindow (w : ServiceWindow) (msgType : String) : Bool :=
  if w.channel ≠ "" ∧ !equalFold w.channel "whatsapp_cloud" then true
  else if equalFold (trimSpace msgType) "template" then true
  else w.isOpen

/-- mirrors chat.go:598-611 -/
structure InboundTurn where
  id : UUID
  at_ : Time
  uid : String
  senderName : String
  senderID : String
  replyToUID : Option String
  body : String
  mediaURL : Option String
  mediaType : Option String
  channel : String
  entryPointType : String
  metadata : List (String × GoVal)

/-- `senderType` is as the caller spelled it. mirrors chat.go:616-633 -/
structure OutboundActivity where
  id : UUID
  at_ : Time
  uid : String
  senderType : String
  senderName : String
  senderID : String
  replyToUID : Option String
  body : String
  media : Option Media
  product : Option ProductPayload
  templateName : String
  language : String
  messageType : String
  channel : String
  to_ : String
  metadata : StrMap

/-- mirrors chat.go:638-643 -/
structure AIChangeActivity where
  at_ : Time
  mode : AIMode
  pausedUntil : Option Time
  traceID : String

inductive Activity
  | inbound (act : InboundTurn)
  | outbound (act : OutboundActivity)
  | aiChange (act : AIChangeActivity)

/-- The activity's own time, zero when it has none. -/
def Activity.at_ : Activity → Time
  | .inbound act => act.at_
  | .outbound act => act.at_
  | .aiChange act => act.at_

/-- mirrors chat.go:648-653 -/
inductive IntentKind
  | cancelDebounce
  | publishHandoff
deriving DecidableEq

/-- mirrors chat.go:656-664 -/
structure Intent where
  kind : IntentKind
  workspaceID : UUID
  chatID : UUID
  contactID : UUID
  senderName : String
  traceID : String
  at_ : Time

/-- What one call of `Apply` takes from outside. -/
structure ApplyEnv where
  now : Time
  /-- `uuid.New()` -/
  newID : UUID
  /-- `json.Marshal` of a product, as text -/
  productJSON : ProductPayload → Option String

/-- `m[k] = v`. -/
def setMeta (m : List (String × GoVal)) (k : String) (v : GoVal) : List (String × GoVal) :=
  m.filter (fun e => e.1 ≠ k) ++ [(k, v)]

/-- `if _, ok := m[k]; !ok { m[k] = v }`, for a value that is not empty. -/
def setMetaIfMissing (m : List (String × GoVal)) (k v : String) : List (String × GoVal) :=
  if v ≠ "" ∧ m.lookup k = none then m ++ [(k, .string v)] else m

section Apply

variable (env : ApplyEnv)

/-- mirrors chat.go:677-680, 753-756, 852-855 -/
def atOf (t : Time) : Time := if t = 0 then env.now else t

/-- An empty mode is the active one. mirrors chat.go:671-673 -/
def defaultedAI (ai : AIEngagement) : AIEngagement :=
  if ai.mode = .unset then { ai with mode := .active } else ai

/-- mirrors chat.go:682-685, 770-773 -/
def reopen (status : ChatStatus) (snoozedUntil : Option Time) : ChatStatus × Option Time :=
  if status = .snoozed ∨ status = .closed ∨ status = .unset then (.open_, none) else (status, snoozedUntil)

/-- mirrors chat.go:687-689, 774-776 -/
def laterOf (prev at_ : Time) : Time := if prev < at_ then at_ else prev

/-- mirrors chat.go:690-693, 777-780 -/
def laterOfOpt (prev : Option Time) (at_ : Time) : Option Time :=
  if prev.all (fun p => decide (p < at_)) then some at_ else prev

/-- The chat's channel once a turn has named its own, if it has.
mirrors chat.go:694-696, 781-783 -/
def channelInForce (s : ChatState) (channel : String) : String := if channel ≠ "" then channel else s.channel

def isWhatsappCloud (channel : String) : Bool := equalFold (trimSpace channel) "whatsapp_cloud"

/-- mirrors chat.go:699-704 -/
def entryPointOf (act : InboundTurn) : String :=
  if act.entryPointType ≠ "" then act.entryPointType
  else match act.metadata.lookup "entry_point_type" with
    | some (.string ep) => ep
    | _ => ""

/-- mirrors chat.go:705-714 -/
def entryPointAfter (s : ChatState) (act : InboundTurn) (at_ : Time) : EntryPointType :=
  if normalizeEntryPointType (entryPointOf act) = .ctwa then .ctwa
  else if s.serviceWindowExpiresAt.any (fun p => decide (at_ < p)) ∧ s.entryPointType = .ctwa then .ctwa
  else .standard

/-- mirrors chat.go:676-716 -/
def inboundState (s : ChatState) (act : InboundTurn) : ChatState :=
  let at_ := atOf env act.at_
  let channel := channelInForce s act.channel
  let reopened := reopen s.status s.snoozedUntil
  let next := { s with
    ai := defaultedAI s.ai, status := reopened.1, snoozedUntil := reopened.2, unreadCount := s.unreadCount + 1,
    lastMessageAt := laterOf s.lastMessageAt at_, lastInboundAt := laterOfOpt s.lastInboundAt at_,
    channel := channel }
  if isWhatsappCloud channel then
    { next with
      entryPointType := entryPointAfter s act at_,
      serviceWindowExpiresAt := some (extendServiceWindow s.serviceWindowExpiresAt at_) }
  else next

/-- mirrors chat.go:718-750 -/
def inboundMessage (s : ChatState) (act : InboundTurn) : ChatMessage :=
  { id := if act.id = UUID.Nil then env.newID else act.id, chatID := s.id, workspaceID := s.workspaceID,
    uid := act.uid, direction := .inbound, senderType := .contact, senderName := act.senderName,
    senderID := act.senderID, body := act.body, mediaURL := act.mediaURL, mediaType := act.mediaType,
    isPrivate := false, reactions := [], replyToUID := act.replyToUID,
    metadata := setMetaIfMissing act.metadata "channel" act.channel, createdAt := atOf env act.at_ }

/-- The sender of a turn, an AI agent when it names none. mirrors chat.go:758-761 -/
def senderOf (act : OutboundActivity) : SenderType :=
  let senderType := normalizeSenderType act.senderType
  if senderType = .ofString "" then .aiAgent else senderType

/-- mirrors chat.go:763-773 -/
def outboundStatus (s : ChatState) (sender : SenderType) (at_ : Time) : ChatStatus × Option Time :=
  if sender = .system then
    if s.status = .unset then (.closed, none) else normalizeSnooze s.status s.snoozedUntil at_
  else reopen s.status s.snoozedUntil

/-- A human turn pauses the AI for twelve hours and never shortens a pause in force; off stays off.
mirrors chat.go:790-798 -/
def humanPause (eff : AIEngagement) (at_ : Time) : AIEngagement :=
  if eff.mode = .off then ⟨.off, none⟩
  else
    let until_ := at_ + 12 * hour
    match eff.mode, eff.pausedUntil with
    | .paused, some u => ⟨.paused, some (if until_ < u then u else until_)⟩
    | _, _ => ⟨.paused, some until_⟩

/-- mirrors chat.go:786-798 -/
def outboundAI (s : ChatState) (sender : SenderType) (at_ : Time) : AIEngagement :=
  if sender = .humanAgent then humanPause (s.ai.effective at_) at_ else defaultedAI s.ai

/-- mirrors chat.go:752-798 -/
def outboundState (s : ChatState) (act : OutboundActivity) : ChatState :=
  let at_ := atOf env act.at_
  let status := outboundStatus s (senderOf act) at_
  { s with
    status := status.1, snoozedUntil := status.2, lastMessageAt := laterOf s.lastMessageAt at_,
    lastOutboundAt := laterOfOpt s.lastOutboundAt at_, channel := channelInForce s act.channel,
    ai := outboundAI s (senderOf act) at_ }

/-- mirrors chat.go:785-822 -/
def outboundIntents (s : ChatState) (act : OutboundActivity) : List Intent :=
  let at_ := atOf env act.at_
  if senderOf act = .humanAgent ∧ (s.ai.effective at_).isEngaged ∧
      !((outboundAI s (senderOf act) at_).effective at_).isEngaged then
    let intent : Intent :=
      { kind := .cancelDebounce, workspaceID := s.workspaceID, chatID := s.id, contactID := s.contactID,
        senderName := act.senderName, traceID := act.uid, at_ := at_ }
    [intent, { intent with kind := .publishHandoff }]
  else []

/-- The shown text of a template without a body. mirrors chat.go:380-387 -/
def outboundBody (act : OutboundActivity) : String :=
  if act.body = "" ∧ act.templateName ≠ "" then
    if act.language ≠ "" then "[Template: " ++ act.templateName ++ " (" ++ act.language ++ ")]"
    else "[Template: " ++ act.templateName ++ "]"
  else act.body

/-- mirrors chat.go:401-437 and 844-847 -/
def outboundMeta (act : OutboundActivity) : List (String × GoVal) :=
  let m := act.metadata.map fun (k, v) => (k, GoVal.string v)
  let m := setMetaIfMissing m "channel" act.channel
  let m := setMetaIfMissing m "sender_identity" act.senderID
  let m := setMetaIfMissing m "to" act.to_
  let m :=
    if act.templateName ≠ "" then
      let m := setMeta m "template_name" (.string act.templateName)
      let m :=
        if act.language ≠ "" ∨ m.lookup "language" = none then setMeta m "language" (.string act.language) else m
      setMetaIfMissing m "type" "template"
    else setMetaIfMissing m "type" act.messageType
  let m := match act.product.bind env.productJSON with
    | some text => setMeta m "product_json" (.string text)
    | none => m
  setMeta m "status" (.string "queued")

/-- mirrors chat.go:374-457 and 824-847 -/
def outboundMessage (s : ChatState) (act : OutboundActivity) : ChatMessage :=
  { id := if act.id = UUID.Nil then env.newID else act.id, chatID := s.id, workspaceID := s.workspaceID,
    uid := act.uid, direction := .outbound, senderType := senderOf act, senderName := act.senderName,
    senderID := act.senderID, body := outboundBody act,
    mediaURL := (act.media.map (·.mediaURL)).filter (· ≠ ""),
    mediaType := (act.media.map (·.mediaType)).filter (· ≠ ""),
    isPrivate := false, reactions := [], replyToUID := act.replyToUID, metadata := outboundMeta env act,
    createdAt := atOf env act.at_ }

/-- A request to pause does not undo off; any mode but off and paused resumes.
mirrors chat.go:859-877 -/
def changedAI (s : ChatState) (act : AIChangeActivity) (at_ : Time) : AIEngagement :=
  match act.mode with
  | .off => ⟨.off, none⟩
  | .paused =>
    if (s.ai.effective at_).mode = .off then ⟨.off, none⟩
    else ⟨.paused, some (act.pausedUntil.getD (at_ + 12 * hour))⟩
  | _ => ⟨.active, none⟩

/-- mirrors chat.go:851-877 -/
def aiChangeState (s : ChatState) (act : AIChangeActivity) : ChatState :=
  let at_ := atOf env act.at_
  let status := normalizeSnooze s.status s.snoozedUntil at_
  { s with status := status.1, snoozedUntil := status.2, ai := changedAI s act at_ }

/-- mirrors chat.go:879-901 -/
def aiChangeIntents (s : ChatState) (act : AIChangeActivity) : List Intent :=
  let at_ := atOf env act.at_
  if ((changedAI s act at_).effective at_).isEngaged then []
  else
    let intent : Intent :=
      { kind := .cancelDebounce, workspaceID := s.workspaceID, chatID := s.id, contactID := s.contactID,
        senderName := "", traceID := act.traceID, at_ := at_ }
    intent :: if (s.ai.effective at_).isEngaged then [{ intent with kind := .publishHandoff }] else []

/-- The next state, the message to store and the effects to run.
mirrors chat.go:669-906 -/
def Activity.apply (s : ChatState) : Activity → ChatState × Option ChatMessage × List Intent
  | .inbound act => (inboundState env s act, some (inboundMessage env s act), [])
  | .outbound act => (outboundState env s act, some (outboundMessage env s act), outboundIntents env s act)
  | .aiChange act => (aiChangeState env s act, none, aiChangeIntents env s act)

/-! ## What an activity does to the fields the rules are about -/

theorem extendServiceWindow_some (p at_ : Time) :
    extendServiceWindow (some p) at_ = max p (at_ + standardWindowDuration) := by
  simp only [extendServiceWindow]
  split
  · rename_i h
    exact (max_eq_left (Int.le_of_lt h)).symm
  · rename_i h
    exact (max_eq_right (Int.not_lt.mp h)).symm

@[simp] theorem inboundState_ai (s : ChatState) (act : InboundTurn) :
    (inboundState env s act).ai = defaultedAI s.ai := by
  unfold inboundState
  simp only
  split <;> rfl

theorem inboundState_window (s : ChatState) (act : InboundTurn) :
    (inboundState env s act).serviceWindowExpiresAt =
      if isWhatsappCloud (channelInForce s act.channel) then
        some (extendServiceWindow s.serviceWindowExpiresAt (atOf env act.at_))
      else s.serviceWindowExpiresAt := by
  unfold inboundState
  simp only
  split <;> rfl

@[simp] theorem outboundState_ai (s : ChatState) (act : OutboundActivity) :
    (outboundState env s act).ai = outboundAI s (senderOf act) (atOf env act.at_) := by
  simp only [outboundState]

@[simp] theorem outboundState_window (s : ChatState) (act : OutboundActivity) :
    (outboundState env s act).serviceWindowExpiresAt = s.serviceWindowExpiresAt := rfl

@[simp] theorem aiChangeState_ai (s : ChatState) (act : AIChangeActivity) :
    (aiChangeState env s act).ai = changedAI s act (atOf env act.at_) := rfl

@[simp] theorem aiChangeState_window (s : ChatState) (act : AIChangeActivity) :
    (aiChangeState env s act).serviceWindowExpiresAt = s.serviceWindowExpiresAt := rfl

theorem atOf_of_ne {t : Time} (h : t ≠ 0) : atOf env t = t := if_neg h

@[simp] theorem defaultedAI_effective (ai : AIEngagement) (now : Time) :
    (defaultedAI ai).effective now = ai.effective now := by
  unfold defaultedAI
  split
  · rename_i h
    simp [AIEngagement.effective, h, AIMode.unset]
  · rfl

end Apply

end PerGo.L2
