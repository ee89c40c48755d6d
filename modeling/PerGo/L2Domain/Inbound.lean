import PerGo.L2Domain.UUID

/-!
# Inbound events

The records of `inbound/processor.go` and `domain/event.go`:
what a channel adapter hands to the inbound processor, and the payloads it
publishes. A formatted time is the time itself.
-/
namespace PerGo.L2

open PerGo.L1

/-- mirrors processor.go:58-65 -/
structure InboundMedia where
  bytes : List UInt8
  mediaType : String
  filename : String
  caption : String
  mediaURL : String

/-- mirrors processor.go:68-73 -/
structure InboundLocation where
  latitude : Dec
  longitude : Dec
  name : String
  address : String
deriving DecidableEq

/-- mirrors processor.go:76-79 -/
structure InboundContact where
  name : String
  phone : String
deriving DecidableEq

/-- mirrors processor.go:82-85 -/
structure InboundButtonReply where
  id : String
  title : String
deriving DecidableEq

/-- mirrors processor.go:88-92 -/
structure InboundListReply where
  id : String
  title : String
  description : String
deriving DecidableEq

/-- mirrors processor.go:95-102 -/
structure InboundNFMReply where
  name : String
  body : String
  responseJSON : String
  flowToken : String
  screen : String
  data : List (String × GoVal)
deriving DecidableEq

/-- mirrors event.go:19-24 -/
structure OrderProductItem where
  productRetailerID : String
  quantity : Int
  itemPrice : Dec
  currency : String
deriving DecidableEq

/-- mirrors processor.go:105-111 -/
structure InboundOrder where
  catalogID : String
  text : String
  productItems : List OrderProductItem
  totalPrice : Dec
  currency : String
deriving DecidableEq

/-- mirrors processor.go:114-120 -/
structure InboundInteractive where
  type : String
  buttonReply : Option InboundButtonReply
  listReply : Option InboundListReply
  nfmReply : Option InboundNFMReply
  order : Option InboundOrder
deriving DecidableEq

/-- mirrors processor.go:123-126 -/
structure InboundStoryEvent where
  subtype : String
  mediaURL : String
deriving DecidableEq

/-- mirrors processor.go:129-133 -/
structure InboundReaction where
  messageUID : String
  emoji : String
  action : String

/-- mirrors processor.go:136-155 -/
structure InboundEvent where
  workspaceID : UUID
  connectionID : UUID
  messageID : String
  traceID : String
  channel : String
  from_ : String
  to_ : String
  body : String
  media : Option InboundMedia
  location : Option InboundLocation
  contacts : List InboundContact
  interactive : Option InboundInteractive
  story : Option InboundStoryEvent
  reaction : Option InboundReaction
  senderName : String
  occurredAt : Time
  entryPointType : String
  metadata : StrMap

/-- mirrors event.go:10-17 -/
structure FlowCompletedEvent where
  screen : String
  data : List (String × GoVal)
  flowToken : String
  contactID : String
  wamid : String
  traceID : String
deriving DecidableEq

/-- mirrors event.go:26-35 -/
structure OrderCreatedEvent where
  orderID : String
  catalogID : String
  items : List OrderProductItem
  totalPrice : Dec
  currency : String
  wamid : String
  contactID : String
  traceID : String
deriving DecidableEq

/-- mirrors media/audio.go:85-92 -/
structure AudioTelemetry where
  durationMS : Int
  voicedDurationMS : Int
  rmsEnergy : Dec
  sampleRate : Int
  channels : Int
  format : String
deriving DecidableEq

/-- mirrors processor.go:223-231 -/
structure EventMedia where
  mediaURL : String
  mediaType : String
  filename : String
  caption : String
  durationMS : Int
  rmsEnergy : Option Dec
  telemetry : Option AudioTelemetry
deriving DecidableEq

/-- mirrors processor.go:209-212 -/
structure EventTiming where
  responseLatencyMS : Option Int
  lastOutboundAt : Time
deriving DecidableEq

/-- mirrors processor.go:187-206 -/
structure InboundEventPayload where
  event : String
  traceID : String
  messageID : String
  channel : String
  timestamp : Time
  workspaceID : UUID
  from_ : String
  to_ : String
  body : String
  media : Option EventMedia
  location : Option InboundLocation
  contacts : List InboundContact
  interactive : Option InboundInteractive
  story : Option InboundStoryEvent
  timing : Option EventTiming
  senderName : String
  metadata : StrMap
deriving DecidableEq

/-- mirrors processor.go:215-221 -/
structure MessageStatusUpdatedPayload where
  workspaceID : UUID
  dispatchID : UUID
  messageID : String
  status : String
  timestamp : Time
deriving DecidableEq

/-- mirrors domain/chat.go:80-84 -/
structure Reaction where
  emoji : String
  sender : String
  createdAt : Time
deriving DecidableEq

/-- mirrors chat.go:87-97 -/
structure ReactionUpdatedPayload where
  event : String
  workspaceID : UUID
  chatID : String
  messageUID : String
  emoji : String
  sender : String
  action : String
  reactions : List Reaction
  timestamp : Time
deriving DecidableEq

end PerGo.L2
