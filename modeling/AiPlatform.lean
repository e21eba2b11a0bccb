import AiPlatform.Lib.Machine
import AiPlatform.Lib.Linear
import AiPlatform.Lib.Table
import AiPlatform.Lib.Batches
import AiPlatform.Lib.Listing
import AiPlatform.Lib.Indexed
import AiPlatform.Lib.Trace
import AiPlatform.Lib.Keys
import AiPlatform.Lib.Text
import AiPlatform.Lib.Joined
import AiPlatform.Lib.Replace
import AiPlatform.Lib.Utf8
import AiPlatform.Lib.Binary64
import AiPlatform.Lib.Nested
import AiPlatform.Lib.Generator
import AiPlatform.Core.Value
import AiPlatform.Core.Columns
import AiPlatform.Core.Datetime
import AiPlatform.Core.Resilience
import AiPlatform.Core.CircuitBreaker
import AiPlatform.Core.BreakerCallers
import AiPlatform.Api.Sse
import AiPlatform.Api.SseRelay
import AiPlatform.Completions.Streaming
import AiPlatform.Completions.StreamContract
import AiPlatform.Completions.Observations
import AiPlatform.Completions.StreamObservations
import AiPlatform.RateLimit.Service
import AiPlatform.RateLimit.Windows
import AiPlatform.RateLimit.Admission
import AiPlatform.RateLimit.Bursts
import AiPlatform.RateLimit.RetryAfter
import AiPlatform.RateLimit.IpMiddleware
import AiPlatform.RateLimit.ForwardedFor
import AiPlatform.Core.BodyLimit
import AiPlatform.Core.RequestContext
import AiPlatform.Cache.Gateways
import AiPlatform.Cache.Agreement
import AiPlatform.Tasks.Record
import AiPlatform.Tasks.Memory
import AiPlatform.Tasks.Postgres
import AiPlatform.Tasks.Workers
import AiPlatform.Tasks.Outcomes
import AiPlatform.Tasks.Claims
import AiPlatform.Tasks.AttemptCap
import AiPlatform.Tasks.RedisCodec
import AiPlatform.Tasks.RedisCommands
import AiPlatform.Tasks.RedisLinear
import AiPlatform.Tasks.RedisStore
import AiPlatform.Tasks.PostgresStore
import AiPlatform.Tasks.StoreEffect
import AiPlatform.Tasks.StoreTables
import AiPlatform.Tasks.StoreRedis
import AiPlatform.Tasks.StoreAgreement
import AiPlatform.Queue.Memory
import AiPlatform.Queue.Worker
import AiPlatform.Queue.Accounting
import AiPlatform.Queue.RabbitMq
import AiPlatform.Queue.RedisStream
import AiPlatform.Queue.StreamInvariant
import AiPlatform.Queue.StreamRuns
import AiPlatform.Queue.RawStream
import AiPlatform.Outbox.Store
import AiPlatform.Outbox.Publisher
import AiPlatform.Outbox.Relays
import AiPlatform.Outbox.Locks
import AiPlatform.Outbox.RetryBudget
import AiPlatform.Tasks.Message
import AiPlatform.Tasks.ReclaimPasses
import AiPlatform.Tasks.Pipeline
import AiPlatform.Tasks.PipelineEffect
import AiPlatform.Tasks.Announcements
import AiPlatform.Tasks.Delivery
import AiPlatform.Tasks.DeliveryInvariant
import AiPlatform.Idempotency.Service
import AiPlatform.Idempotency.Calls
import AiPlatform.Idempotency.Responses
import AiPlatform.Idempotency.Http
import AiPlatform.Idempotency.Replays
import AiPlatform.Idempotency.Vanishing
import AiPlatform.Idempotency.Exclusivity
import AiPlatform.Quota.Models
import AiPlatform.Quota.FixedWindow
import AiPlatform.Quota.MongoStore
import AiPlatform.Quota.MongoCalls
import AiPlatform.Quota.MongoSteps
import AiPlatform.Quota.MongoLedger
import AiPlatform.Quota.MongoWindow
import AiPlatform.Quota.MongoConservation
import AiPlatform.Quota.MongoAgreement
import AiPlatform.Quota.MongoSettlement
import AiPlatform.Quota.MongoMigration
import AiPlatform.Quota.MongoSequential
import AiPlatform.Quota.Operations
import AiPlatform.Quota.Memory
import AiPlatform.Quota.MemoryInvariant
import AiPlatform.Quota.MemoryRuns
import AiPlatform.Quota.PostgresStore
import AiPlatform.Quota.PostgresCalls
import AiPlatform.Quota.PostgresAgreement
import AiPlatform.Quota.PostgresOverflow
import AiPlatform.Quota.Statements
import AiPlatform.Quota.Ledger
import AiPlatform.Quota.Transactions
import AiPlatform.Quota.TransactionSteps
import AiPlatform.Quota.StoredRows
import AiPlatform.Quota.StatementsAlone
import AiPlatform.Quota.StatementRuns
import AiPlatform.Quota.ResetRuns
import AiPlatform.Quota.Refusals
import AiPlatform.Quota.ResetSafety
import AiPlatform.Quota.Concurrency
import AiPlatform.Quota.ConcurrentRuns
import AiPlatform.Llm.Router
import AiPlatform.Llm.Runtime
import AiPlatform.Llm.ChainWalk
import AiPlatform.Llm.ChainContract
import AiPlatform.Core.ApiKeys
import AiPlatform.Core.ApiKeyFormat
import AiPlatform.Core.DatabaseUrl
import AiPlatform.Core.Settings
import AiPlatform.Core.RedactedSummary
import AiPlatform.Core.JsonDecoder
import AiPlatform.Core.JsonRoundTrip
import AiPlatform.Lib.EventStream
import AiPlatform.Api.SseFrames
import AiPlatform.Tasks.Ownership
import AiPlatform.Tasks.OwnershipRuns
import AiPlatform.Tasks.OwnershipIsolation
import AiPlatform.Tasks.Cleanup
import AiPlatform.Tasks.Submission
import AiPlatform.Lib.Regex
import AiPlatform.Core.Redaction
import AiPlatform.Core.RedactionMapping
import AiPlatform.Audit.Metadata
import AiPlatform.Objects.S3Gateway
import AiPlatform.Objects.MemoryGateway
import AiPlatform.Rag.Tools
import AiPlatform.Webhooks.Signing
import AiPlatform.Core.CardCandidates
import AiPlatform.Core.RedactionCards
import AiPlatform.Core.FloatText
import AiPlatform.Evals.JudgeReply
import AiPlatform.Evals.LlmJudge
import AiPlatform.Lib.Framing
import AiPlatform.Idempotency.RequestHash
import AiPlatform.Webhooks.Framings
