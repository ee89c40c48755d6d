import PerGo.Core.LTS
import PerGo.Core.Table
import PerGo.Core.Assoc
import PerGo.Core.DedupStream
import PerGo.Core.Access
import PerGo.Core.Pool
import PerGo.Core.Fallible
import PerGo.Core.Calendar
import PerGo.Core.FirstBy
import PerGo.Core.Paging
import PerGo.Core.SQL
import PerGo.Core.Result
import PerGo.Core.Loop
import PerGo.Core.Assign
import PerGo.Core.Paired
import PerGo.Core.Scanner
import PerGo.Core.Chan
import PerGo.L1Encoding.GoString
import PerGo.L1Encoding.Json
import PerGo.L1Encoding.Document
import PerGo.L1Encoding.Bytes
import PerGo.L1Encoding.JsonText
import PerGo.L1Encoding.NetIP
import PerGo.L1Encoding.Float64
import PerGo.L1Encoding.Endian
import PerGo.L1Encoding.CharacterReferences
import PerGo.L1Encoding.Csv
import PerGo.L1Encoding.Mime
import PerGo.L1Encoding.Pattern
import PerGo.L1Encoding.Query
import PerGo.L1Encoding.Utf8Search
import PerGo.L2Domain.Message
import PerGo.L2Domain.UUID
import PerGo.L2Domain.Inbound
import PerGo.L2Domain.Chat
import PerGo.L2Domain.Dynamic
import PerGo.L2Domain.Request
import PerGo.L2Domain.Campaign
import PerGo.L2Domain.Variables
import PerGo.L2Domain.Interpolation
import PerGo.L3Queue.DispatchTable
import PerGo.L3Queue.Orchestrator
import PerGo.L3Queue.ProcessSpec
import PerGo.L3Queue.JetStream
import PerGo.L3Queue.Invocations
import PerGo.L3Queue.RowWrites
import PerGo.L3Queue.Worker
import PerGo.L3Chat.Recorder
import PerGo.L3Chat.RecorderSpec
import PerGo.L3Chat.ContactMerge
import PerGo.L3Auth.APIKey
import PerGo.L3Auth.Middleware
import PerGo.L3MCP.Engine
import PerGo.L3Chat.Reads
import PerGo.L3Chat.ContactResolve
import PerGo.L3Outbound.TemplateParams
import PerGo.L3Outbound.Processor
import PerGo.L3Chat.SendMessage
import PerGo.L3Inbound.Processor
import PerGo.L3Chat.React
import PerGo.L3Chat.Tags
import PerGo.L3Chat.ContactsCsv
import PerGo.L3Chat.Presence
import PerGo.L3Inbound.Telegram
import PerGo.L3Inbound.Debouncer
import PerGo.L3Inbound.Payload
import PerGo.L3Inbound.Waba
import PerGo.L3Webhook.Signature
import PerGo.L3Channel.EmailTracking
import PerGo.L3Inbound.EmailTracking
import PerGo.L3Auth.OAuth
import PerGo.L3Channel.Credentials
import PerGo.L3Channel.Waba
import PerGo.L3Channel.FlowToken
import PerGo.L3Auth.SSO
import PerGo.L3Webhook.Breaker
import PerGo.L3Webhook.Delivery
import PerGo.L3Webhook.Worker
import PerGo.L3Webhook.Replay
import PerGo.L3Webhook.Redaction
import PerGo.L3Webhook.AnyFields
import PerGo.L3Webhook.Verbs
import PerGo.L3MCP.Handlers
import PerGo.L3MCP.Confinement
import PerGo.L3MCP.Gateway
import PerGo.L3Channel.ConnectionRepository
import PerGo.L3Channel.TemplateRepository
import PerGo.L3Channel.Encryption
import PerGo.L3Channel.Email
import PerGo.L3Outbound.SSRF
import PerGo.L3Session.Manager
import PerGo.L3Session.Pairing
import PerGo.L3Session.PairingEvents
import PerGo.L3Campaign.Engine
import PerGo.L3Campaign.System
import PerGo.L3Campaign.Alone
import PerGo.L3Campaign.Audience
import PerGo.L3Campaign.CreateForm
import PerGo.L3Campaign.UploadCSV
import PerGo.L3Audit.BatchWriter
import PerGo.L3Audit.AuditLogs
import PerGo.L3Audit.Purger
import PerGo.L3Audit.PurgeRun
import PerGo.L3Audit.Sanitize
import PerGo.L3Obs.RedactingHandler
import PerGo.L3Media.Telemetry
import PerGo.L3Media.Adts
import PerGo.L3Media.Mp3
import PerGo.L3Media.Mp4
import PerGo.L3Media.Ogg
import PerGo.L3Media.Wav
import PerGo.L3Media.Riff
import PerGo.L3Media.Transcode
import PerGo.L4App.DispatchRun
import PerGo.L4App.InboundRetry
import PerGo.L4App.EventDedup
import PerGo.L4App.KeyRevocation
import PerGo.L4App.OAuthLimits
import PerGo.L4App.AttestedScope
import PerGo.L4App.DLQReplay
import PerGo.L4App.McpAccess
import PerGo.L4App.ChatRun
import PerGo.L4App.BreakerProbe
import PerGo.L4App.TelegramIdentity
import PerGo.L4App.FallbackCredentials
import PerGo.L4App.CampaignLifecycle
import PerGo.L4App.CampaignCounters
import PerGo.L4App.CampaignProgress
import PerGo.L4App.TemplateGate
import PerGo.L4App.DeliveryEnd
import PerGo.L4App.StatusOrder
import PerGo.L4App.WebhookFanOut
import PerGo.L4App.HttpIdempotency
import PerGo.L4App.UnreadCount
import PerGo.L4App.Debouncing
import PerGo.L4App.MergedContact
import PerGo.L4App.QueueDepth
import PerGo.L4App.ReadScope
import PerGo.L4App.SlugCache
import PerGo.L4App.ConnectionChanges
import PerGo.L4App.TemplateCache
import PerGo.L4App.WabaAttribution
import PerGo.L4App.OneContact
import PerGo.L4App.ContactEvidence
import PerGo.L4App.ReplyRoute
import PerGo.L4App.FlowTokens
import PerGo.L4App.BreakerSafety
import PerGo.L4App.ChatClocks
import PerGo.L4App.UncertainOutcome
import PerGo.L4App.SentRows
import PerGo.L4App.RetryAccounting
import PerGo.L4App.DeliveryClaims
import PerGo.L4App.AuditShutdown
import PerGo.L4App.ExpiryNotices
import PerGo.L4App.ReactionRoutes
import PerGo.L4App.RetentionReach
import PerGo.L4App.ReactionTarget
import PerGo.L4App.BanLock
import PerGo.L4App.SessionSuccession
import PerGo.L4App.PairingOverlap
import PerGo.L4App.SSRFAgreement
import PerGo.L4App.FallbackPass
import PerGo.L4App.TTLRange
import PerGo.L4App.RedactionFrame
import PerGo.L4App.SignatureWindow
import PerGo.L4App.CampaignTransitions
import PerGo.L4App.RecipientMerge
import PerGo.L4App.InterpolationOrder
import PerGo.L4App.MessagePaging
import PerGo.L4App.OutboundGate
import PerGo.L4App.Personalisation
import PerGo.L4App.ReactionOwnership
import PerGo.L4App.StatusParity
import PerGo.L4App.TemplateValues
import PerGo.L4App.AudioFiles
import PerGo.L4App.ContactTags
import PerGo.L4App.LogSecrets
import PerGo.L4App.NonceLength
import PerGo.L4App.OggPackets
import PerGo.L4App.TemplateCounts
import PerGo.L4App.TranscodedDuration
import PerGo.L4App.ContactsFile
import PerGo.L4App.TrackedLinks
import PerGo.L4App.EmailTracking
import PerGo.L4App.Expunged
import PerGo.L4App.MediaDeletion
import PerGo.L4App.MimeParts
import PerGo.L4App.PartitionAge
import PerGo.L4App.PurgeTermination
import PerGo.L4App.SSOParity
import PerGo.L4App.TemplateMapping
import PerGo.L4App.UploadedRows
import PerGo.L4App.TypebotForwarder
import PerGo.L4App.BotSessions
import PerGo.L4App.FrameScanners
import PerGo.L4App.PairingOutcome
