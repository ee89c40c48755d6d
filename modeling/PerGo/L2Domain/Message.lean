import PerGo.L1Encoding.Document

/-!
# Message types

The records of `domain/message.go`, field by field. Pointers are
`Option`, maps association lists, `uuid.UUID` a number with `uuid.Nil = 0`, and
`time.Time` nanoseconds with the zero time `0`. A source file is named by its
directory and name, then by its name.

`GoVal` is a value of static type `interface{}` as the code tells them apart:
what `json.Unmarshal` puts there, the two domain types the code itself stores
there, and `other` for every remaining dynamic type. A typed slice is not an
`[]interface{}`, and a type assertion on one form fails on the other.
-/
namespace PerGo.L2

open PerGo.L1

abbrev UUID := Nat

instance : LawfulBEq (UUID × UUID) := inferInstance

/-- `uuid.Nil`. -/
def UUID.Nil : UUID := 0

abbrev Time := Int

/-- `time.Second` in nanoseconds. -/
def second : Int := 1000000000

def minute : Int := 60 * second

def hour : Int := 60 * minute

/-- A Go `error`: its text, and whether `channel.IsTerminal` holds of it
(channel/dispatcher.go:71-74). -/
structure GoError where
  text : String
  terminal : Bool
deriving DecidableEq

/-- mirrors message.go:253-257 -/
structure TemplateParameter where
  type : String
  text : String
deriving DecidableEq

inductive GoVal
  | nil
  | bool (b : Bool)
  | float64 (x : Dec)
  | string (s : String)
  /-- `[]interface{}` -/
  | slice (xs : List GoVal)
  /-- `map[string]interface{}` -/
  | map (kvs : List (String × GoVal))
  /-- `domain.TemplateParameter` -/
  | param (p : TemplateParameter)
  /-- `[]domain.TemplateParameter`; `none` is the nil slice -/
  | params (ps : Option (List TemplateParameter))
  /-- any other dynamic type: its `%T`, its `%v`, and what `json.Marshal` makes of it -/
  | other (typ text : String) (json : Option Json)

mutual
def GoVal.decEq : (a b : GoVal) → Decidable (a = b)
  | .nil, .nil => isTrue rfl
  | .bool x, .bool y => decidable_of_iff (x = y) (by simp)
  | .float64 x, .float64 y => decidable_of_iff (x = y) (by simp)
  | .string x, .string y => decidable_of_iff (x = y) (by simp)
  | .param x, .param y => decidable_of_iff (x = y) (by simp)
  | .params x, .params y => decidable_of_iff (x = y) (by simp)
  | .other x y z, .other x' y' z' => decidable_of_iff (x = x' ∧ y = y' ∧ z = z') (by simp)
  | .slice xs, .slice ys => match GoVal.decEqSlice xs ys with
    | isTrue h => isTrue (h ▸ rfl)
    | isFalse h => isFalse fun he => h (GoVal.slice.inj he)
  | .map xs, .map ys => match GoVal.decEqMap xs ys with
    | isTrue h => isTrue (h ▸ rfl)
    | isFalse h => isFalse fun he => h (GoVal.map.inj he)
  | .nil, .bool _ | .nil, .float64 _ | .nil, .string _ | .nil, .slice _ | .nil, .map _
  | .nil, .param _ | .nil, .params _ | .nil, .other .. => isFalse (by simp)
  | .bool _, .nil | .bool _, .float64 _ | .bool _, .string _ | .bool _, .slice _ | .bool _, .map _
  | .bool _, .param _ | .bool _, .params _ | .bool _, .other .. => isFalse (by simp)
  | .float64 _, .nil | .float64 _, .bool _ | .float64 _, .string _ | .float64 _, .slice _
  | .float64 _, .map _ | .float64 _, .param _ | .float64 _, .params _ | .float64 _, .other .. =>
    isFalse (by simp)
  | .string _, .nil | .string _, .bool _ | .string _, .float64 _ | .string _, .slice _
  | .string _, .map _ | .string _, .param _ | .string _, .params _ | .string _, .other .. =>
    isFalse (by simp)
  | .slice _, .nil | .slice _, .bool _ | .slice _, .float64 _ | .slice _, .string _
  | .slice _, .map _ | .slice _, .param _ | .slice _, .params _ | .slice _, .other .. =>
    isFalse (by simp)
  | .map _, .nil | .map _, .bool _ | .map _, .float64 _ | .map _, .string _ | .map _, .slice _
  | .map _, .param _ | .map _, .params _ | .map _, .other .. => isFalse (by simp)
  | .param _, .nil | .param _, .bool _ | .param _, .float64 _ | .param _, .string _
  | .param _, .slice _ | .param _, .map _ | .param _, .params _ | .param _, .other .. =>
    isFalse (by simp)
  | .params _, .nil | .params _, .bool _ | .params _, .float64 _ | .params _, .string _
  | .params _, .slice _ | .params _, .map _ | .params _, .param _ | .params _, .other .. =>
    isFalse (by simp)
  | .other .., .nil | .other .., .bool _ | .other .., .float64 _ | .other .., .string _
  | .other .., .slice _ | .other .., .map _ | .other .., .param _ | .other .., .params _ =>
    isFalse (by simp)
def GoVal.decEqSlice : (a b : List GoVal) → Decidable (a = b)
  | [], [] => isTrue rfl
  | [], _ :: _ | _ :: _, [] => isFalse (by simp)
  | x :: xs, y :: ys => match GoVal.decEq x y, GoVal.decEqSlice xs ys with
    | isTrue h, isTrue h' => isTrue (h ▸ h' ▸ rfl)
    | isFalse h, _ => isFalse fun he => h (List.cons.inj he).1
    | _, isFalse h => isFalse fun he => h (List.cons.inj he).2
def GoVal.decEqMap : (a b : List (String × GoVal)) → Decidable (a = b)
  | [], [] => isTrue rfl
  | [], _ :: _ | _ :: _, [] => isFalse (by simp)
  | (k, x) :: xs, (l, y) :: ys =>
    match instDecidableEqString k l, GoVal.decEq x y, GoVal.decEqMap xs ys with
    | isTrue hk, isTrue h, isTrue h' => isTrue (hk ▸ h ▸ h' ▸ rfl)
    | isFalse hk, _, _ => isFalse fun he => hk (Prod.mk.inj (List.cons.inj he).1).1
    | _, isFalse h, _ => isFalse fun he => h (Prod.mk.inj (List.cons.inj he).1).2
    | _, _, isFalse h => isFalse fun he => h (List.cons.inj he).2
end

instance : DecidableEq GoVal := GoVal.decEq

/-- mirrors message.go:247-251 -/
structure TemplateComponent where
  type : String
  parameters : GoVal
deriving DecidableEq

/-- mirrors message.go:46-52 -/
structure Media where
  mediaURL : String
  mediaType : String
  filename : String
  caption : String
  ptt : Bool
deriving DecidableEq

/-- mirrors message.go:118-120 -/
structure TextContent where
  text : String
deriving DecidableEq

/-- mirrors message.go:141-144 -/
structure Reply where
  id : String
  title : String
deriving DecidableEq

/-- mirrors message.go:135-138 -/
structure Button where
  type : String
  reply : Reply
deriving DecidableEq

/-- mirrors message.go:158-162 -/
structure Row where
  id : String
  title : String
  description : String
deriving DecidableEq

/-- mirrors message.go:147-150 -/
structure Section where
  title : String
  rows : List Row
deriving DecidableEq

/-- mirrors message.go:123-132 -/
structure Action where
  button : String
  buttons : List Button
  sections : List Section
  flowToken : String
  flowID : String
  flowCTA : String
  flowAction : String
  flowActionPayload : List (String × GoVal)
deriving DecidableEq

/-- mirrors message.go:55-61 -/
structure Interactive where
  type : String
  header : Option TextContent
  body : TextContent
  footer : Option TextContent
  action : Action
deriving DecidableEq

/-- mirrors message.go:165-170 -/
structure ProductItem where
  productRetailerID : String
  itemPrice : Dec
  currency : String
  quantity : Int
deriving DecidableEq

/-- mirrors message.go:173-176 -/
structure ProductSection where
  title : String
  productItems : List ProductItem
deriving DecidableEq

/-- mirrors message.go:179-186 -/
structure ProductPayload where
  catalogID : String
  productRetailerID : String
  header : String
  body : String
  footer : String
  sections : List ProductSection
deriving DecidableEq

/-- mirrors message.go:222-245 -/
structure QueueMessage where
  workspaceID : UUID
  connectionID : UUID
  senderIdentity : String
  traceID : String
  to_ : String
  channel : String
  body : String
  media : Option Media
  metadata : StrMap
  ttlSeconds : Option Int
  queuedAt : Time
  fallbackChannels : List String
  templateName : String
  language : String
  components : List TemplateComponent
  campaignID : Option UUID
  variablesJSON : StrMap
  interactive : Option Interactive
  channelOverrides : List (String × Json)
  fallbackBehavior : String
  type : String
  product : Option ProductPayload
deriving DecidableEq

/-- The columns the code modelled here reads; `credentials` is the decrypted document, `none` when it is
not a JSON object. mirrors repository/connection.go:22-39 -/
structure Connection where
  id : UUID
  workspaceID : UUID
  slug : String
  channel : String
  senderIdentity : String
  isDefault : Bool
  credentials : Option Document
deriving DecidableEq

/-- What a dispatcher is handed. mirrors dispatcher.go:19-37 -/
structure MessagePayload where
  messageID : String
  connectionID : UUID
  senderIdentity : String
  traceID : String
  to_ : String
  channel : String
  body : String
  media : Option Media
  metadata : StrMap
  templateName : String
  language : String
  components : List TemplateComponent
  interactive : Option Interactive
  channelOverrides : List (String × Json)
  fallbackBehavior : String
  type : String
  product : Option ProductPayload
deriving DecidableEq

end PerGo.L2
