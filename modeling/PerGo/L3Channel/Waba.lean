import PerGo.Core.Fallible
import PerGo.L2Domain.Dynamic
import PerGo.L2Domain.Request
import PerGo.L3Channel.Credentials

/-!
# The WhatsApp Cloud adapter

`WABAAdapter.Dispatch` of `whatsapp/waba.go`: the request it builds from a
payload. Every request has `messaging_product` `whatsapp` and `recipient_type`
`individual`, which the records leave out.

The wire type is decided in this order: a channel override is sent as it is; a template
name, the payload's or the metadata's, makes a template; a product or an interactive
message follows, then text; and media replaces all of these.
-/
namespace PerGo.L3.Channel

open PerGo.Core PerGo.L1 PerGo.L2

/-! ## Requests -/

/-- mirrors waba.go:72-82. `link` fields are the media objects. -/
structure WabaParameter where
  type : String
  text : String
  image : Option String
  video : Option String
  document : Option String
deriving DecidableEq

/-- `none` is the nil slice. mirrors waba.go:67-70 -/
structure WabaComponent where
  type : String
  parameters : Option (List WabaParameter)
deriving DecidableEq

/-- mirrors waba.go:57-65 -/
structure WabaTemplate where
  name : String
  language : String
  components : List WabaComponent
deriving DecidableEq

/-- mirrors waba.go:107-110 -/
structure WabaInteractiveText where
  type : String
  text : String
deriving DecidableEq

/-- mirrors waba.go:98-105 -/
structure WabaProductSection where
  title : String
  productRetailerIDs : List String
deriving DecidableEq

/-- mirrors waba.go:92-96 -/
structure WabaProductAction where
  catalogID : String
  productRetailerID : String
  sections : List WabaProductSection
deriving DecidableEq

/-- mirrors waba.go:120-127 -/
structure WabaFlowParameters where
  flowMessageVersion : String
  flowToken : String
  flowID : String
  flowCTA : String
  flowAction : String
  flowActionPayload : List (String × GoVal)
deriving DecidableEq

/-- mirrors waba.go:112-118 -/
structure WabaInteractiveAction where
  button : String
  buttons : List Reply
  sections : List Section
  name : String
  parameters : Option WabaFlowParameters
deriving DecidableEq

/-- The two types of `Action`. -/
inductive WabaAction
  | product (a : WabaProductAction)
  | interactive (a : WabaInteractiveAction)
deriving DecidableEq

/-- mirrors waba.go:84-90 -/
structure WabaInteractive where
  type : String
  header : Option WabaInteractiveText
  body : Option WabaInteractiveText
  footer : Option WabaInteractiveText
  action : WabaAction
deriving DecidableEq

/-- What `wabaMessageRequest` carries: one of its three optional fields.
mirrors waba.go:42-60 -/
inductive WabaContent
  | text (body : String)
  | template (t : WabaTemplate)
  | interactive (i : WabaInteractive)
deriving DecidableEq

/-- The request body. -/
inductive WabaRequest
  | raw (override : Json)
  | message (to_ : String) (content : WabaContent)
  | media (to_ type link : String) (caption filename : Option String)
deriving DecidableEq

/-- The field `type` of a request; an override has the one it was given. -/
def WabaRequest.type : WabaRequest → String
  | .raw (.obj kvs) => match (kvs.reverse.lookup "type") with
    | some (.str s) => s
    | _ => ""
  | .raw _ => ""
  | .message _ (.text _) => "text"
  | .message _ (.template _) => "template"
  | .message _ (.interactive _) => "interactive"
  | .media _ type _ _ _ => type

/-! ## Building a request -/

/-- What `Dispatch` takes from outside. `generateFlowToken` signs a token for a recipient and a flow. -/
structure WabaEnv where
  load : LoadEnv
  externalBaseURL : String
  generateFlowToken : String → String → Option String

section Dispatch

variable (env : WabaEnv) (conns : Connections) (m : MessagePayload)

/-- mirrors waba.go:212-215 -/
def templateNameOf : String := if m.templateName = "" then m.metadata.get "template_name" else m.templateName

/-- mirrors waba.go:218-224 -/
def langCode : String :=
  let code := if m.language = "" then m.metadata.get "template_language" else m.language
  if code = "" then "en_US" else code

/-- mirrors waba.go:246-268 -/
def wabaParameter (p : TemplateParameter) : WabaParameter :=
  if p.type = "image" then ⟨p.type, "", some p.text, none, none⟩
  else if p.type = "video" then ⟨p.type, "", none, some p.text, none⟩
  else if p.type = "document" then ⟨p.type, "", none, none, some p.text⟩
  else ⟨p.type, p.text, none, none, none⟩

/-- The type assertion holds of a `[]domain.TemplateParameter` only.
mirrors waba.go:239-271 -/
def wabaComponent (c : TemplateComponent) : WabaComponent :=
  match c.parameters with
  | .params (some (p :: ps)) => ⟨c.type, some ((p :: ps).map wabaParameter)⟩
  | _ => ⟨c.type, none⟩

/-- `param1`, `param2`, … of the metadata, up to the first that is missing; `fuel` is the number of entries.
mirrors waba.go:273-284 -/
def metadataParams (metadata : StrMap) : Nat → Nat → List WabaParameter
  | 0, _ => []
  | fuel + 1, i => match metadata.lookup ("param" ++ formatInt i) with
    | none => []
    | some val => ⟨"text", val, none, none, none⟩ :: metadataParams metadata fuel (i + 1)

/-- mirrors waba.go:236-296 -/
def wabaTemplate : WabaTemplate :=
  let components :=
    if m.components ≠ [] then m.components.map wabaComponent
    else
      let params := metadataParams m.metadata m.metadata.length 1
      if params = [] then [] else [⟨"body", some params⟩]
  ⟨templateNameOf m, langCode m, components⟩

def optionalText (type text : String) : Option WabaInteractiveText := if text = "" then none else some ⟨type, text⟩

/-- mirrors waba.go:297-390 -/
def wabaProduct (config : WABAConfig) : WabaInteractive :=
  let product := m.product.getD ⟨"", "", "", "", "", []⟩
  let catalogID := if product.catalogID ≠ "" then product.catalogID else config.defaultCatalogID
  let msgType := if m.type = "" ∧ m.product.isSome then
      if product.sections ≠ [] then messageTypeProductList else messageTypeProduct
    else m.type
  let isList := msgType = messageTypeProductList
  { type := if isList then "product_list" else "product"
    header := optionalText "text" product.header
    body := optionalText "" (if product.body ≠ "" then product.body else m.body)
    footer := optionalText "" product.footer
    action := .product
      (if isList then
        ⟨catalogID, "", product.sections.map fun s => ⟨s.title, s.productItems.map (·.productRetailerID)⟩⟩
       else ⟨catalogID, product.productRetailerID, []⟩) }

/-- mirrors waba.go:413-464 -/
def interactiveAction (a : Action) (isFlow : Bool) : WabaInteractiveAction :=
  if isFlow then
    let token := if a.flowToken = "" then (env.generateFlowToken m.to_ a.flowID).getD "" else a.flowToken
    ⟨a.button, [], [], "flow", some ⟨"3", token, a.flowID, a.flowCTA, a.flowAction, a.flowActionPayload⟩⟩
  else ⟨a.button, a.buttons.map (·.reply), a.sections, "", none⟩

/-- mirrors waba.go:400-478 -/
def wabaInteractive (i : Interactive) : WabaInteractive :=
  { type := i.type
    header := i.header.map fun h => ⟨"text", h.text⟩
    body := optionalText "" i.body.text
    footer := i.footer.map fun f => ⟨"", f.text⟩
    action := .interactive (interactiveAction env m i.action (i.type = "flow")) }

/-- The content of a request without media. mirrors waba.go:217-486 -/
def wabaContent (config : WABAConfig) : Except GoError WabaContent :=
  if templateNameOf m ≠ "" then .ok (.template (wabaTemplate m))
  else if hasProduct m.type m.product then .ok (.interactive (wabaProduct m config))
  else match m.interactive with
    | none => .ok (.text m.body)
    | some i => match validateInteractiveLimits i with
      | none => .ok (.interactive (wabaInteractive env m i))
      | some text =>
        if m.fallbackBehavior = "fail" then
          .error (terminal ("whatsapp_cloud: " ++ text ++ " and fallback_behavior is fail"))
        else .ok (.text i.degradeToText)

/-- `s` without one slash at its end. -/
def dropSlash (s : String) : String := if hasSuffix s "/" then String.ofList s.toList.dropLast else s

/-- An internal link under the external base. mirrors waba.go:489-496 -/
def mediaLink (url : String) : String :=
  if hasPrefix url "/" ∧ env.externalBaseURL ≠ "" then dropSlash env.externalBaseURL ++ url else url

def nonEmpty (s : String) : Option String := if s = "" then none else some s

/-- mirrors waba.go:498-630 -/
def mediaRequest (md : Media) : Except GoError WabaRequest :=
  let link := mediaLink env md.mediaURL
  if md.mediaType = "image" ∨ md.mediaType = "video" then
    .ok (.media m.to_ md.mediaType link (nonEmpty md.caption) none)
  else if md.mediaType = "document" then
    .ok (.media m.to_ "document" link (nonEmpty md.caption) (nonEmpty md.filename))
  else if md.mediaType = "audio" ∨ md.mediaType = "voice" then .ok (.media m.to_ "audio" link none none)
  else .error (terminal ("unsupported media type: " ++ md.mediaType))

/-- The request for a payload, once the credentials are loaded.
mirrors waba.go:204-636 -/
def wabaRequest (config : WABAConfig) : Except GoError WabaRequest :=
  match m.channelOverrides.lookup "whatsapp_cloud" with
  | some override => .ok (.raw override)
  | none => do
    let content ← wabaContent env m config
    match m.media with
    | some md => mediaRequest env m md
    | none => pure (.message m.to_ content)

/-- The account and the request that `Dispatch` sends; `none` when it sends nothing.
mirrors waba.go:180-637 -/
def dispatchWaba : Except GoError (Option (WABAConfig × WabaRequest)) :=
  if m.metadata.get "is_private" = "true" ∨ m.metadata.get "direction" = "internal_note" then .ok none
  else do
    let config ← wabaConfig env.load conns m
    let request ← wabaRequest env m config
    pure (some (config, request))

end Dispatch

/-! ## What goes over the wire -/

section Wire

variable {wenv : WabaEnv} {conns : Connections} {m : MessagePayload} {config : WABAConfig} {request : WabaRequest}

theorem dispatchWaba_ok (h : dispatchWaba wenv conns m = .ok (some (config, request))) :
    wabaRequest wenv m config = .ok request := by
  unfold dispatchWaba at h
  split at h
  · cases h
  · obtain ⟨config', -, h⟩ := bind_ok h
    obtain ⟨request', hr, h⟩ := bind_ok h
    cases h
    exact hr

theorem mediaRequest_type {md : Media} (h : mediaRequest wenv m md = .ok request) : request.type ≠ "template" := by
  unfold mediaRequest at h
  simp only at h
  split at h
  · rename_i ht
    cases h
    rcases ht with ht | ht <;> simp [WabaRequest.type, ht]
  · split at h
    · cases h
      simp [WabaRequest.type]
    · split at h
      · cases h
        simp [WabaRequest.type]
      · cases h

theorem wabaContent_type {content : WabaContent} (h : wabaContent wenv m config = .ok content) :
    (WabaRequest.message m.to_ content).type = "template" ↔ templateNameOf m ≠ "" := by
  unfold wabaContent at h
  split at h
  · rename_i hname
    cases h
    simp [WabaRequest.type, hname]
  · rename_i hname
    have htext : ∀ content, (∀ t, content ≠ WabaContent.template t) →
        ((WabaRequest.message m.to_ content).type = "template" ↔ templateNameOf m ≠ "") := by
      intro content hc
      constructor
      · intro ht
        cases content with
        | template t => exact absurd rfl (hc t)
        | text body => simp [WabaRequest.type] at ht
        | interactive i => simp [WabaRequest.type] at ht
      · intro hn
        exact absurd hn hname
    apply htext
    split at h
    · cases h
      simp
    · split at h
      · cases h
        simp
      · split at h
        · cases h
          simp
        · split at h
          · cases h
          · cases h
            simp

/-- What goes over the wire is a template exactly when the fields of the payload say so. -/
theorem wabaRequest_type (h : wabaRequest wenv m config = .ok request) :
    request.type = "template" ↔
      match m.channelOverrides.lookup "whatsapp_cloud" with
      | some override => (WabaRequest.raw override).type = "template"
      | none => m.media = none ∧ templateNameOf m ≠ "" := by
  unfold wabaRequest at h
  cases ho : m.channelOverrides.lookup "whatsapp_cloud" with
  | some override =>
    rw [ho] at h
    cases h
    exact Iff.rfl
  | none =>
    rw [ho] at h
    obtain ⟨content, hc, h⟩ := bind_ok h
    cases hm : m.media with
    | some md =>
      rw [hm] at h
      simp [mediaRequest_type h]
    | none =>
      rw [hm] at h
      cases h
      simp [wabaContent_type hc]

theorem wabaRequest_template {P : WabaTemplate → Prop} (h : wabaRequest wenv m config = .ok request)
    (hname : templateNameOf m ≠ "") :
    (∃ to_ t, request = .message to_ (.template t) ∧ P t) ↔
      m.channelOverrides.lookup "whatsapp_cloud" = none ∧ m.media = none ∧ P (wabaTemplate m) := by
  unfold wabaRequest at h
  cases ho : m.channelOverrides.lookup "whatsapp_cloud" with
  | some override =>
    rw [ho] at h
    cases h
    simp
  | none =>
    rw [ho] at h
    have hcontent : wabaContent wenv m config = .ok (.template (wabaTemplate m)) := by
      unfold wabaContent
      rw [if_pos hname]
    obtain ⟨content, hc, h⟩ := bind_ok h
    rw [hcontent] at hc
    cases hc
    cases hm : m.media with
    | some md =>
      rw [hm] at h
      constructor
      · rintro ⟨to_, t, rfl, -⟩
        exact absurd rfl (mediaRequest_type h)
      · rintro ⟨-, hno, -⟩
        cases hno
    | none =>
      rw [hm] at h
      cases h
      constructor
      · rintro ⟨to_, t, heq, hp⟩
        cases heq
        exact ⟨rfl, rfl, hp⟩
      · rintro ⟨-, -, hp⟩
        exact ⟨_, _, rfl, hp⟩

end Wire

theorem templateNameOf_ne_iff (m : MessagePayload) :
    templateNameOf m ≠ "" ↔ m.templateName ≠ "" ∨ m.metadata.get "template_name" ≠ "" := by
  unfold templateNameOf
  split <;> simp_all

/-- A component that was unmarshalled goes out without parameters: its parameters are no
`[]domain.TemplateParameter`. -/
theorem wabaComponent_of_requeued {c c' : TemplateComponent} (h : c.requeued = some c') :
    wabaComponent c' = ⟨c.type, none⟩ := by
  unfold TemplateComponent.requeued at h
  cases he : c.parameters.encode with
  | none =>
    rw [he] at h
    cases h
  | some j =>
    simp only [he, Option.bind_eq_bind, Option.bind_some, pure, Option.some.injEq] at h
    subst h
    unfold wabaComponent
    split
    · rename_i hp
      exact absurd hp (GoVal.decode_ne_params j _)
    · rfl

theorem metadataParams_nil_iff (metadata : StrMap) :
    metadataParams metadata metadata.length 1 = [] ↔ metadata.lookup "param1" = none := by
  have hkey : "param" ++ formatInt ((1 : Nat) : Int) = "param1" := by decide +kernel
  cases metadata with
  | nil => simp [metadataParams]
  | cons kv rest =>
    rw [List.length_cons, metadataParams, hkey]
    cases List.lookup "param1" (kv :: rest) <;> simp

end PerGo.L3.Channel
