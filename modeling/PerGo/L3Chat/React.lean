import PerGo.Core.Fallible
import PerGo.L3Inbound.Processor
import PerGo.L3MCP.Engine

/-!
# Reactions of the operator

`Engine.React` of `chat/engine.go` and `ChatRepository.MutateReaction` of
`repository/chat.go`, over the rows of `chat_messages`, whose uid is unique over all
workspaces. The effects are those of the inbound processor, which handles the reactions of contacts.

* `announced`: the event a call publishes, the webhooks it dispatches and its audit row, in this order.
* `react_out`, `processReaction_out`: the two callers announce a reaction in the same way.
-/
namespace PerGo.L3.React

open PerGo.Core PerGo.L1 PerGo.L2
open PerGo.L3.MCP (enforceScope)

/-! ## `MutateReaction` -/

inductive MutateError
  | invalidWorkspaceID
  | uidRequired
  | invalidAction (action : String)
  | chatMessageNotFound
  | db (text : String)
deriving DecidableEq

/-- The resolved action, and the reactions. mirrors chat.go:818-888 -/
def mutated (reactions : List Reaction) (emoji sender normAction : String) (now : Time) : String × List Reaction :=
  if normAction = "" ∨ normAction = "toggle" then
    let own (rx : Reaction) : Bool := rx.emoji = emoji && (rx.sender = sender || rx.sender = "operator")
    if reactions.any own then ("remove", reactions.filter fun rx => !own rx)
    else ("add", reactions ++ [⟨emoji, sender, now⟩])
  else if normAction = "add" then
    if reactions.any fun rx => rx.emoji = emoji && rx.sender = sender then ("add", reactions)
    else ("add", reactions ++ [⟨emoji, sender, now⟩])
  else
    let remove (rx : Reaction) : Bool :=
      if emoji = "" then rx.sender = sender || sender = "operator"
      else rx.emoji = emoji && (rx.sender = sender || sender = "operator" || rx.sender = "operator")
    ("remove", reactions.filter fun rx => !remove rx)

/-- The chat, the resolved action and the reactions, and the rows. mirrors chat.go:767-914 -/
def mutateReaction (rows : List ChatMessage) (now : Time) (dbErr : Option String) (ws : UUID)
    (messageUID emoji sender action : String) :
    Except MutateError ((UUID × String × List Reaction) × List ChatMessage) :=
  if ws = UUID.Nil then .error .invalidWorkspaceID
  else if trimSpace messageUID = "" then .error .uidRequired
  else
    let sender := if trimSpace sender = "" then "operator" else trimSpace sender
    let normAction := toLower (trimSpace action)
    if normAction ∉ ["", "add", "remove", "toggle"] then .error (.invalidAction action)
    else
      let normAction := if emoji = "" then "remove" else normAction
      match dbErr with
      | some e => .error (.db e)
      | none =>
        match rows.find? fun m => m.workspaceID = ws && m.uid = trimSpace messageUID with
        | none => .error .chatMessageNotFound
        | some m =>
          let r := mutated m.reactions emoji sender normAction now
          .ok ((m.chatID, r), updateWhere (fun m => m.workspaceID = ws && m.uid = trimSpace messageUID)
            (fun m => { m with reactions := r.2 }) rows)

def callSender (sender : String) : String := if trimSpace sender = "" then "operator" else trimSpace sender

def callAction (emoji action : String) : String := if emoji = "" then "remove" else toLower (trimSpace action)

theorem mutateReaction_ok {rows rows' : List ChatMessage} {now : Time} {dbErr : Option String} {ws chatID : UUID}
    {messageUID emoji sender action resolved : String} {reactions : List Reaction}
    (h : mutateReaction rows now dbErr ws messageUID emoji sender action = .ok ((chatID, resolved, reactions), rows')) :
    toLower (trimSpace action) ∈ ["", "add", "remove", "toggle"] ∧ ∃ m,
      (rows.find? fun m => m.workspaceID = ws && m.uid = trimSpace messageUID) = some m ∧
      (resolved, reactions) = mutated m.reactions emoji (callSender sender) (callAction emoji action) now ∧
      rows' = updateWhere (fun m => m.workspaceID = ws && m.uid = trimSpace messageUID)
        (fun m => { m with reactions := reactions }) rows := by
  unfold mutateReaction at h
  split at h
  · cases h
  split at h
  · cases h
  dsimp only at h
  split at h
  · cases h
  rename_i hvalid
  split at h
  · cases h
  split at h
  · cases h
  · rename_i m hm
    obtain ⟨hr, rfl⟩ := Prod.mk.inj (Except.ok.inj h)
    obtain ⟨-, hr⟩ := Prod.mk.inj hr
    refine ⟨not_not.mp hvalid, m, hm, hr.symm, ?_⟩
    have hlist := congrArg Prod.snd hr
    dsimp only at hlist
    rw [← hlist]

theorem find?_reactions {rows : List ChatMessage} {ws : UUID} {messageUID : String} {m : ChatMessage}
    (h : (rows.find? fun m => m.workspaceID = ws && m.uid = trimSpace messageUID) = some m) (reactions : List Reaction) :
    ((updateWhere (fun m => m.workspaceID = ws && m.uid = trimSpace messageUID)
      (fun m => { m with reactions := reactions }) rows).find? fun m =>
        m.workspaceID = ws && m.uid = trimSpace messageUID) = some { m with reactions := reactions } := by
  have hkey := List.find?_some h
  rw [find?_updateWhere, h]
  · simp only [Option.map_some, if_pos hkey]
  · exact fun _ => rfl

/-! ## `Engine.React` -/

/-- The dependencies that are configured. -/
structure ChatEngine where
  chatRepo : Bool
  /-- `chatRepo` is a `messageByUIDFinder` -/
  finder : Bool
  publisher : Bool
  webhookDispatcher : Bool
  auditRepo : Bool

/-- The engine of the server. mirrors cmd/pergo/main.go:420-436 -/
def serverChatEngine : ChatEngine :=
  { chatRepo := true, finder := true, publisher := true, webhookDispatcher := true, auditRepo := true }

structure ReactEnv where
  now : Time
  /-- `uuid.New().String()` -/
  freshTraceID : String
  ctx : Ctx
  /-- `FindMessageByUID` fails in the database -/
  findErr : Bool
  /-- `GetChatMessageByUID` fails in the database -/
  getErr : Bool
  mutateErr : Option String

structure ReactRequest where
  /-- `ChatRef.ChatID` -/
  chatID : UUID
  messageUID : String
  emoji : String
  action : String
  sender : String

inductive ReactError
  | notConfigured
  | required
  | invalidAction
  | workspaceMismatch
  | messageNotFound
  | chatMismatch
  | repository (e : MutateError)

/-- mirrors engine.go:247-254 -/
structure ReactResult where
  chatID : UUID
  messageUID : String
  action : String
  emoji : String
  sender : String
  reactions : List Reaction

def announced (publisher dispatcher audit : Bool) (ws : UUID) (messageUID : String) (payload : ReactionUpdatedPayload)
    (trace : String) : List InEffect :=
  (if publisher then [InEffect.publish "messages.events.reaction_updated" (.reactionUpdated payload) trace true] else []) ++
    (if dispatcher then [InEffect.dispatchReaction ws messageUID payload trace] else []) ++
    if audit then [InEffect.audit ws trace "reaction_updated" (.reactionUpdated payload)] else []

section React

variable (e : ChatEngine) (env : ReactEnv) (rows : List ChatMessage)

/-- The workspace of the message, when the context names none. mirrors engine.go:1440-1457 -/
def reactWorkspace (workspaceID : UUID) (messageUID : String) : Except ReactError UUID :=
  match enforceScope env.ctx workspaceID with
  | .error _ => .error .workspaceMismatch
  | .ok wsID =>
    let found := if wsID = UUID.Nil ∧ e.finder then
        (if env.findErr then none else rows.find? fun m => m.uid = messageUID).map (·.workspaceID)
      else some wsID
    match found with
    | none => .error .messageNotFound
    | some wsID =>
      match enforceScope env.ctx wsID with
      | .error _ => .error .workspaceMismatch
      | .ok _ => .ok wsID

/-- The message is one of the chat, when the request names one. mirrors engine.go:1459-1467 -/
def checkChat (wsID chatID : UUID) (messageUID : String) : Except ReactError Unit :=
  if chatID = UUID.Nil then .ok ()
  else
    let row := if wsID = UUID.Nil ∨ env.getErr then none
      else rows.find? fun m => m.workspaceID = wsID && m.uid = messageUID
    match row with
    | none => .error .messageNotFound
    | some m => if m.chatID ≠ chatID then .error .chatMismatch else .ok ()

/-- The event of a reaction. mirrors engine.go:1479-1489 -/
def reactionUpdated (wsID : UUID) (chatID messageUID emoji sender action : String) (reactions : List Reaction)
    (timestamp : Time) : ReactionUpdatedPayload :=
  { event := "message.reaction.updated", workspaceID := wsID, chatID := chatID, messageUID := messageUID,
    emoji := emoji, sender := sender, action := action, reactions := reactions, timestamp := timestamp }

/-- The result, the rows and the effects. mirrors engine.go:1418-1516 -/
def react (workspaceID : UUID) (req : ReactRequest) :
    Except ReactError (ReactResult × List ChatMessage × List InEffect) := do
  let messageUID := trimSpace req.messageUID
  let emoji := trimSpace req.emoji
  let action := toLower (trimSpace req.action)
  let sender := if trimSpace req.sender = "" then "operator" else trimSpace req.sender
  if !e.chatRepo then throw .notConfigured
  if messageUID = "" ∨ emoji = "" then throw .required
  if action ∉ ["", "add", "remove", "toggle"] then throw .invalidAction
  let wsID ← reactWorkspace e env rows workspaceID messageUID
  checkChat env rows wsID req.chatID messageUID
  match mutateReaction rows env.now env.mutateErr wsID messageUID emoji sender action with
  | .error .chatMessageNotFound => throw .messageNotFound
  | .error err => throw (.repository err)
  | .ok ((chatID, resolvedAction, reactions), rows) =>
    let rxEvent := reactionUpdated wsID chatID.string messageUID emoji sender resolvedAction reactions env.now
    return (⟨chatID, messageUID, resolvedAction, emoji, sender, reactions⟩, rows,
      announced e.publisher e.webhookDispatcher e.auditRepo wsID messageUID rxEvent env.freshTraceID)

end React

/-! ## What the callers announce -/

theorem react_out {e : ChatEngine} {env : ReactEnv} {rows rows' : List ChatMessage} {ws : UUID} {req : ReactRequest}
    {result : ReactResult} {out : List InEffect} (h : react e env rows ws req = .ok (result, rows', out)) :
    ∃ wsID payload, out = announced e.publisher e.webhookDispatcher e.auditRepo wsID result.messageUID payload
      env.freshTraceID := by
  simp only [react] at h
  generalize (if trimSpace req.sender = "" then "operator" else trimSpace req.sender) = sender at h
  generalize trimSpace req.messageUID = messageUID at h
  generalize trimSpace req.emoji = emoji at h
  generalize toLower (trimSpace req.action) = action at h
  split at h
  · cases h
  · split at h
    · cases h
    · split at h
      · cases h
      · obtain ⟨wsID, -, h⟩ := bind_ok h
        obtain ⟨-, -, h⟩ := bind_ok h
        split at h
        · cases h
        · cases h
        · obtain ⟨rfl, hrest⟩ := Prod.mk.inj (Except.ok.inj h)
          obtain ⟨-, rfl⟩ := Prod.mk.inj hrest
          exact ⟨wsID, _, rfl⟩

theorem publishEffect_out (p : InboundProcessor) (w : InWorld) (subject : String) (payload : InPayload) (msgID : String)
    (ok : Bool) : (publishEffect p w subject payload msgID ok).out =
      w.out ++ if p.publisher then [.publish subject payload msgID ok] else [] := by
  unfold publishEffect
  split
  · rfl
  · exact (List.append_nil _).symm

theorem auditEffect_out (p : InboundProcessor) (w : InWorld) (ws : UUID) (trace action : String) (payload : InPayload) :
    (auditEffect p w ws trace action payload).out =
      w.out ++ if p.auditWriter then [.audit ws trace action payload] else [] := by
  unfold auditEffect
  split
  · rfl
  · exact (List.append_nil _).symm

theorem processReaction_out (p : InboundProcessor) (env : InEnv) (ev : InboundEvent) (w : InWorld) (trace : String)
    (r : InboundReaction) :
    ∃ payload, (processReaction p env ev w trace r).out = w.out ++
      announced p.publisher p.reactionWebhookDispatcher p.auditWriter ev.workspaceID r.messageUID payload trace := by
  unfold processReaction
  dsimp only
  generalize ReactionUpdatedPayload.mk _ _ _ _ _ _ _ _ _ = payload
  refine ⟨payload, ?_⟩
  rw [auditEffect_out, announced]
  split
  · rw [InWorld.emit, publishEffect_out, List.append_assoc, List.append_assoc, List.append_assoc]
  · rw [publishEffect_out, List.append_nil, List.append_assoc]

end PerGo.L3.React
