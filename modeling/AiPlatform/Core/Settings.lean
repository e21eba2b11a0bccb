import Mathlib.Data.List.Nodup
import AiPlatform.Core.ApiKeys
import AiPlatform.Core.DatabaseUrl

set_option autoImplicit false

/- `app/core/config`: the fields of the settings with their defaults and bounds, the checks across
fields and the computed fields. What reads the values from the environment is not modelled. -/
namespace AiPlatform.Config

open Identity (parseApiKeys)

inductive PyFloat where
  | finite (value : Rat)
  | infinite (negative : Bool)
  | nan
deriving DecidableEq

namespace PyFloat

/-- `first < second`, which is false of nan. -/
def lt : PyFloat → PyFloat → Bool
  | .nan, _ => false
  | _, .nan => false
  | .finite first, .finite second => first < second
  | .finite _, .infinite negative => !negative
  | .infinite negative, .finite _ => negative
  | .infinite negative, .infinite negative' => negative && !negative'

def le (first second : PyFloat) : Bool := first.lt second || (first = second && first ≠ .nan)

end PyFloat

inductive Value where
  | bool (value : Bool)
  | int (value : Int)
  | float (value : PyFloat)
  | str (text : String)
  | list (items : List String)
deriving DecidableEq

/-- `not value`. -/
def Value.isEmpty : Value → Bool
  | .bool value => !value
  | .int value => value = 0
  | .float value => value = .finite 0
  | .str text => text = ""
  | .list items => items.isEmpty

/-- The bounds of a `Field`. -/
inductive Bound where
  | gt (limit : Int)
  | ge (limit : Int)
  | lt (limit : Int)
  | le (limit : Int)
deriving DecidableEq

def Bound.rejects {Number : Type} (lt le : Number → Number → Bool) (cast : Int → Number) :
    Bound → Number → Bool
  | .gt limit, value => le value (cast limit)
  | .ge limit, value => lt value (cast limit)
  | .lt limit, value => le (cast limit) value
  | .le limit, value => lt (cast limit) value

inductive Kind where
  | bool
  | int (bounds : List Bound)
  | float (bounds : List Bound)
  | str (minLength : Nat)
  | literal (options : List String)
deriving DecidableEq

/-- No bound rejects nan. -/
def Kind.accepts : Kind → Value → Bool
  | .bool, .bool _ => true
  | .int bounds, .int value => bounds.all fun bound => !bound.rejects (· < ·) (· ≤ ·) id value
  | .float bounds, .float value => bounds.all fun bound =>
      !bound.rejects PyFloat.lt PyFloat.le (fun limit => .finite limit) value
  | .str minLength, .str text => minLength ≤ text.length
  | .literal options, .str text => text ∈ options
  | _, _ => false

structure Field where
  name : String
  kind : Kind
  default : Option Value

def flag (name : String) (value : Bool) : Field := ⟨name, .bool, some (.bool value)⟩

def int (name : String) (value : Int) (bounds : List Bound) : Field :=
  ⟨name, .int bounds, some (.int value)⟩

def float (name : String) (value : Rat) (bounds : List Bound) : Field :=
  ⟨name, .float bounds, some (.float (.finite value))⟩

def str (name value : String) : Field := ⟨name, .str 0, some (.str value)⟩

def required (name : String) : Field := ⟨name, .str 0, none⟩

def literal (name value : String) (options : List String) : Field :=
  ⟨name, .literal options, some (.str value)⟩

def environments : List String := ["dev", "local", "test", "prod", "production"]

def runtimeFields : List Field :=
  [literal "ENVIRONMENT" "dev" environments,
    str "PROJECT_NAME" "AI Solution Engineering Platform",
    str "VERSION" "0.1.0",
    str "DESCRIPTION" "Reusable FastAPI foundation for AI solution engineering",
    str "API_V1_PREFIX" "/api/v1",
    flag "DOCS_ENABLED" true,
    str "LOG_LEVEL" "INFO",
    flag "LOG_JSON" false,
    flag "LOG_ENQUEUE" false,
    flag "GRACEFUL_SHUTDOWN_ENABLED" true,
    int "GRACEFUL_SHUTDOWN_TIMEOUT_SECONDS" 30 [.ge 0],
    float "SHUTDOWN_READINESS_DELAY_SECONDS" 5 [.ge 0]]

def httpFields : List Field :=
  [str "CORS_ALLOW_ORIGINS" "*",
    flag "CORS_ALLOW_CREDENTIALS" false,
    str "TRUSTED_HOSTS" "*",
    int "MAX_REQUEST_BODY_BYTES" (10 * 1024 * 1024) [.gt 0],
    flag "SECURITY_HEADERS_ENABLED" false,
    flag "SECURITY_HSTS_ENABLED" false,
    int "SECURITY_HSTS_MAX_AGE_SECONDS" 31536000 [.ge 0],
    flag "GZIP_ENABLED" false,
    int "GZIP_MIN_SIZE" 1024 [.ge 0],
    int "GZIP_COMPRESS_LEVEL" 5 [.ge 1, .le 9],
    flag "REQUEST_TIMEOUT_ENABLED" false,
    int "REQUEST_TIMEOUT_SECONDS" 30 [.gt 0],
    str "REQUEST_TIMEOUT_EXCLUDE_PATTERNS" "/stream,/sse",
    float "SSE_HEARTBEAT_SECONDS" 15 [.gt 0],
    float "STREAM_FIRST_TOKEN_TIMEOUT_SECONDS" 30 [.gt 0],
    float "STREAM_IDLE_TIMEOUT_SECONDS" 30 [.gt 0],
    float "HEALTH_CHECK_TIMEOUT_SECONDS" 2 [.gt 0],
    int "TRUSTED_PROXY_COUNT" 0 [.ge 0]]

def infraFields : List Field :=
  [flag "DATABASE_ENABLED" false,
    required "POSTGRES_HOST",
    int "POSTGRES_PORT" 5432 [.gt 0, .lt 65536],
    required "POSTGRES_USER",
    required "POSTGRES_PASSWORD",
    required "POSTGRES_DB",
    int "DB_POOL_SIZE" 5 [.gt 0],
    int "DB_MAX_OVERFLOW" 10 [.ge 0],
    int "DB_POOL_TIMEOUT_SECONDS" 30 [.gt 0],
    int "DB_POOL_RECYCLE_SECONDS" 1800 [.gt 0],
    flag "REDIS_ENABLED" false,
    required "REDIS_HOST",
    int "REDIS_PORT" 6379 [.gt 0, .lt 65536],
    str "REDIS_PASSWORD" "",
    int "REDIS_DATABASE" 0 [.ge 0],
    int "REDIS_TIMEOUT_SECONDS" 5 [.gt 0]]

def mongoFields : List Field :=
  [flag "MONGO_ENABLED" false,
    str "MONGODB_URI" "mongodb://localhost:27017",
    str "MONGODB_DATABASE" "app",
    int "MONGODB_CONNECT_TIMEOUT_MS" 10000 [.gt 0],
    int "MONGODB_SERVER_SELECTION_TIMEOUT_MS" 10000 [.gt 0]]

def aiFields : List Field :=
  [str "CHAT_MODEL" "",
    str "CHAT_FALLBACK_MODELS" "",
    str "JUDGE_CHAT_MODEL" "",
    int "LLM_MAX_TOKENS" 2048 [.gt 0, .le 200000],
    float "LLM_TIMEOUT_SECONDS" 60 [.gt 0, .le 600],
    int "LLM_MAX_RETRIES" 1 [.ge 0, .le 5],
    float "LLM_CHAIN_DEADLINE_SECONDS" 90 [.gt 0, .le 1800],
    int "LLM_BREAKER_FAILURE_THRESHOLD" 3 [.gt 0],
    float "LLM_BREAKER_COOLDOWN_SECONDS" 30 [.gt 0],
    flag "LANGFUSE_ENABLED" false,
    str "LANGFUSE_PUBLIC_KEY" "",
    str "LANGFUSE_SECRET_KEY" "",
    str "LANGFUSE_BASE_URL" "https://cloud.langfuse.com",
    int "LANGFUSE_PROMPT_CACHE_TTL_SECONDS" 60 [.ge 0],
    flag "RAG_ENABLED" false,
    literal "RAG_BACKEND" "memory" ["memory"],
    int "RAG_CHUNK_SIZE" 512 [.gt 0],
    int "RAG_CHUNK_OVERLAP" 50 [.ge 0],
    int "RAG_DEFAULT_TOP_K" 5 [.gt 0],
    str "RAG_EMBED_MODEL" "",
    int "RAG_MOCK_EMBED_DIM" 16 [.gt 0],
    float "RAG_RETRIEVE_TIMEOUT_SECONDS" 10 [.gt 0]]

def messagingFields : List Field :=
  [flag "QUEUE_ENABLED" false,
    literal "QUEUE_BACKEND" "memory" ["memory", "redis", "sqs", "rabbitmq"],
    str "QUEUE_NAME" "completions",
    str "SQS_QUEUE_URL" "",
    str "SQS_REGION" "ap-southeast-1",
    str "SQS_ENDPOINT_URL" "",
    int "SQS_VISIBILITY_TIMEOUT_SECONDS" 0 [.ge 0],
    str "SQS_DEAD_LETTER_QUEUE_URL" "",
    str "RABBITMQ_URL" "",
    flag "RABBITMQ_DEAD_LETTER_ENABLED" true,
    str "RABBITMQ_DEAD_LETTER_EXCHANGE" "",
    str "RABBITMQ_DEAD_LETTER_QUEUE" "",
    str "QUEUE_REDIS_CONSUMER_NAME" "",
    float "QUEUE_REDIS_MIN_IDLE_SECONDS" 60 [.gt 0],
    int "QUEUE_REDIS_MAX_DELIVERIES" 5 [.gt 0],
    int "QUEUE_REDIS_DEAD_LETTER_MAXLEN" 10000 [.gt 0],
    flag "TASKS_ENABLED" false,
    literal "TASK_STORE_BACKEND" "memory" ["memory", "postgres", "redis"],
    str "TASK_REDIS_PREFIX" "tasks",
    int "TASK_TTL_SECONDS" 86400 [.gt 0],
    int "TASKS_LEASE_SECONDS" 300 [.gt 0],
    literal "TASKS_DISPATCH_BACKEND" "queue" ["queue", "outbox"],
    float "TASKS_OUTBOX_RELAY_INTERVAL_SECONDS" 1 [.gt 0],
    int "TASKS_OUTBOX_RELAY_BATCH_SIZE" 100 [.gt 0],
    float "TASKS_RECLAIM_INTERVAL_SECONDS" 30 [.gt 0],
    int "TASKS_RECLAIM_BATCH_SIZE" 100 [.gt 0],
    int "TASKS_MAX_ATTEMPTS" 5 [.ge 1, .le 100],
    float "TASKS_CLEANUP_INTERVAL_SECONDS" 3600 [.gt 0],
    int "TASKS_CLEANUP_BATCH_SIZE" 1000 [.gt 0],
    int "WORKER_MAX_CONCURRENT" 10 [.gt 0],
    int "WORKER_MAX_ATTEMPTS" 3 [.gt 0],
    float "WORKER_POLL_INTERVAL_SECONDS" 0.5 [.ge 0],
    int "WORKER_RECEIVE_BATCH_SIZE" 10 [.gt 0],
    float "WORKER_RECEIVE_WAIT_SECONDS" 1 [.ge 0],
    flag "OUTBOX_ENABLED" false,
    literal "OUTBOX_BACKEND" "postgres" ["postgres"],
    int "OUTBOX_RETENTION_SECONDS" 604800 [.gt 0],
    flag "WEBHOOKS_ENABLED" false,
    str "WEBHOOK_SIGNING_SECRET" "",
    int "WEBHOOK_TIMESTAMP_TOLERANCE_SECONDS" 300 [.gt 0],
    float "WEBHOOK_TIMEOUT_SECONDS" 10 [.gt 0]]

def platformFields : List Field :=
  [str "AUTH_API_KEYS" "",
    flag "RATE_LIMIT_ENABLED" false,
    literal "RATE_LIMIT_BACKEND" "memory" ["memory", "redis"],
    int "RATE_LIMIT_WINDOW_SECONDS" 60 [.gt 0],
    str "RATE_LIMIT_REDIS_PREFIX" "rate-limit",
    flag "RATE_LIMIT_IP_ENABLED" true,
    int "RATE_LIMIT_IP_PER_MINUTE" 600 [.gt 0],
    flag "RATE_LIMIT_PRINCIPAL_ENABLED" true,
    int "RATE_LIMIT_PRINCIPAL_PER_MINUTE" 60 [.gt 0],
    str "RATE_LIMIT_EXCLUDE_PATHS" "/healthz,/readyz",
    flag "CACHE_ENABLED" false,
    literal "CACHE_BACKEND" "memory" ["memory", "redis"],
    str "CACHE_PREFIX" "app",
    float "CACHE_DEFAULT_TTL_SECONDS" 300 [.gt 0],
    flag "OBJECTS_ENABLED" false,
    literal "OBJECT_BACKEND" "memory" ["memory", "s3"],
    str "OBJECT_PREFIX" "app",
    str "OBJECT_S3_BUCKET" "",
    str "OBJECT_S3_REGION" "ap-southeast-1",
    str "OBJECT_S3_ENDPOINT_URL" "",
    flag "IDEMPOTENCY_ENABLED" false,
    literal "IDEMPOTENCY_BACKEND" "postgres" ["postgres"],
    int "IDEMPOTENCY_TTL_SECONDS" 86400 [.gt 0],
    int "IDEMPOTENCY_IN_PROGRESS_TIMEOUT_SECONDS" 600 [.gt 0],
    int "IDEMPOTENCY_KEY_MAX_LENGTH" 64 [.gt 0],
    flag "QUOTA_ENABLED" false,
    literal "QUOTA_BACKEND" "memory" ["memory", "postgres", "mongo"]]

def telemetryFields : List Field :=
  [flag "OTEL_ENABLED" false,
    ⟨"OTEL_SERVICE_NAME", .str 1, some (.str "ai-platform")⟩,
    str "OTEL_EXPORTER_OTLP_ENDPOINT" "",
    float "OTEL_TRACES_SAMPLE_RATIO" 1 [.ge 0, .le 1]]

/-- The fields of all mixins. A field that a second mixin declares again is its first one. -/
def fields : List Field :=
  runtimeFields ++ httpFields ++ infraFields ++ mongoFields ++ aiFields ++ messagingFields ++
    platformFields ++ telemetryFields

theorem fields_distinct : (fields.map Field.name).Nodup := by decide +kernel

/-- Every default passes its own check. -/
theorem defaults_accepted :
    ∀ field ∈ fields, ∀ value ∈ field.default, field.kind.accepts value = true := by
  decide +kernel

abbrev Values := String → Value

namespace Values

def flag (values : Values) (name : String) : Bool :=
  match values name with
  | .bool value => value
  | _ => false

def text (values : Values) (name : String) : String :=
  match values name with
  | .str text => text
  | _ => ""

def int (values : Values) (name : String) : Int :=
  match values name with
  | .int value => value
  | _ => 0

def float (values : Values) (name : String) : PyFloat :=
  match values name with
  | .float value => value
  | _ => .nan

end Values

section Checks

variable (values : Values)

/-- `_require`. -/
def require (condition : Bool) (message : String) : Except String Unit :=
  if condition then .ok () else .error message

def requireEndpointWhenEnabled : Except String Unit :=
  require (!values.flag "OTEL_ENABLED" || values.text "OTEL_EXPORTER_OTLP_ENDPOINT" ≠ "")
    "OTEL_EXPORTER_OTLP_ENDPOINT is required when OTEL_ENABLED is true"

/-- Each enabled feature's backend needs the service it runs on. -/
def backendRules : List (Bool × Bool × String) :=
  [(values.flag "RATE_LIMIT_ENABLED" && values.text "RATE_LIMIT_BACKEND" = "redis",
      values.flag "REDIS_ENABLED", "RATE_LIMIT_BACKEND=redis requires REDIS_ENABLED"),
    (values.flag "CACHE_ENABLED" && values.text "CACHE_BACKEND" = "redis",
      values.flag "REDIS_ENABLED", "CACHE_BACKEND=redis requires REDIS_ENABLED"),
    (values.flag "IDEMPOTENCY_ENABLED" && values.text "IDEMPOTENCY_BACKEND" = "postgres",
      values.flag "DATABASE_ENABLED", "IDEMPOTENCY_BACKEND=postgres requires DATABASE_ENABLED"),
    (values.flag "QUOTA_ENABLED" && values.text "QUOTA_BACKEND" = "postgres",
      values.flag "DATABASE_ENABLED", "QUOTA_BACKEND=postgres requires DATABASE_ENABLED"),
    (values.flag "QUOTA_ENABLED" && values.text "QUOTA_BACKEND" = "mongo",
      values.flag "MONGO_ENABLED", "QUOTA_BACKEND=mongo requires MONGO_ENABLED"),
    (values.flag "OBJECTS_ENABLED" && values.text "OBJECT_BACKEND" = "s3",
      values.text "OBJECT_S3_BUCKET" ≠ "", "OBJECT_BACKEND=s3 requires OBJECT_S3_BUCKET")]

def validateBackendRequirements : Except String Unit :=
  (backendRules values).forM fun (applies, satisfied, message) =>
    require (!applies || satisfied) message

def validateApiKeys : Except String Unit :=
  (parseApiKeys (values.text "AUTH_API_KEYS")).map fun _ => ()

def validateMessagingRequirements : Except String Unit := do
  if values.flag "QUEUE_ENABLED" && values.text "QUEUE_BACKEND" = "redis" then
    require (values.flag "REDIS_ENABLED") "QUEUE_BACKEND=redis requires REDIS_ENABLED"
  if values.flag "TASKS_ENABLED" then
    require (values.flag "QUEUE_ENABLED") "TASKS_ENABLED requires QUEUE_ENABLED"
    if values.text "TASK_STORE_BACKEND" = "postgres" then
      require (values.flag "DATABASE_ENABLED")
        "TASK_STORE_BACKEND=postgres requires DATABASE_ENABLED"
    if values.text "TASK_STORE_BACKEND" = "redis" then
      require (values.flag "REDIS_ENABLED") "TASK_STORE_BACKEND=redis requires REDIS_ENABLED"
    if values.text "TASKS_DISPATCH_BACKEND" = "outbox" then
      require (values.flag "OUTBOX_ENABLED") "TASKS_DISPATCH_BACKEND=outbox requires OUTBOX_ENABLED"
      -- The task row and its outbox event must commit together.
      require (values.text "TASK_STORE_BACKEND" = "postgres")
        ("TASKS_DISPATCH_BACKEND=outbox requires TASK_STORE_BACKEND=postgres " ++
          "(task and outbox event must commit in one transaction)")
  if values.flag "OUTBOX_ENABLED" && values.text "OUTBOX_BACKEND" = "postgres" then
    require (values.flag "DATABASE_ENABLED") "OUTBOX_BACKEND=postgres requires DATABASE_ENABLED"
  if values.flag "WEBHOOKS_ENABLED" then
    require (values.text "WEBHOOK_SIGNING_SECRET" ≠ "")
      "WEBHOOK_SIGNING_SECRET is required when WEBHOOKS_ENABLED is true"

def chainDeadlineCoversOneCall : Except String Unit :=
  require (!(values.float "LLM_CHAIN_DEADLINE_SECONDS").lt (values.float "LLM_TIMEOUT_SECONDS"))
    "LLM_CHAIN_DEADLINE_SECONDS must be >= LLM_TIMEOUT_SECONDS"

def corsAllowOrigins : List String := Text.splitStripped (values.text "CORS_ALLOW_ORIGINS") ','

def trustedHosts : List String := Text.splitStripped (values.text "TRUSTED_HOSTS") ','

def requestTimeoutExcludePatterns : List String :=
  Text.splitStripped (values.text "REQUEST_TIMEOUT_EXCLUDE_PATTERNS") ','

def rateLimitExcludePatterns : List String :=
  Text.splitStripped (values.text "RATE_LIMIT_EXCLUDE_PATHS") ','

def postgresUrl : String :=
  DatabaseUrl.urlOf (values.text "POSTGRES_USER") (values.text "POSTGRES_PASSWORD")
    (values.text "POSTGRES_HOST") (values.int "POSTGRES_PORT").toNat (values.text "POSTGRES_DB")

def weakTokens : List String :=
  ["change-me-local-bearer-token", "test-token", "local-token", "dev-token"]

def isLocal (environment : String) : Bool := environment ∈ ["dev", "local", "test"]

def isProduction (environment : String) : Bool := environment ∈ ["prod", "production"]

variable (sha256 : List UInt8 → List Nat)

/-- `WEAK_AUTH_DIGESTS`. -/
def weakAuthDigests : List (List Nat) := weakTokens.map fun token => sha256 (Text.encode token)

def validateRuntimeSafety : Except String Unit := do
  let keys ← parseApiKeys (values.text "AUTH_API_KEYS")
  require (isLocal (values.text "ENVIRONMENT") || !keys.isEmpty)
    "AUTH_API_KEYS is required outside dev/local/test"
  if isProduction (values.text "ENVIRONMENT") then
    require (!values.flag "DOCS_ENABLED") "DOCS_ENABLED must be false in production"
    require ("*" ∉ corsAllowOrigins values) "CORS_ALLOW_ORIGINS must not contain '*' in production"
    require ("*" ∉ trustedHosts values) "TRUSTED_HOSTS must not contain '*' in production"
    require (!keys.any fun key => key.digest ∈ weakAuthDigests sha256)
      "AUTH_API_KEYS contains a key for a known weak token"

/-- The checks after the fields', those of the last mixin first. -/
def validate : Except String Unit := do
  requireEndpointWhenEnabled values
  validateBackendRequirements values
  validateApiKeys values
  validateMessagingRequirements values
  chainDeadlineCoversOneCall values
  validateRuntimeSafety values sha256

end Checks

/-- Settings that passed every check. -/
structure Settings (sha256 : List UInt8 → List Nat) where
  values : Values
  accepted : ∀ field ∈ fields, field.kind.accepts (values field.name) = true
  valid : validate values sha256 = .ok ()

def computedFields (values : Values) : List (String × Value) :=
  [("cors_allow_origins", .list (corsAllowOrigins values)),
    ("trusted_hosts", .list (trustedHosts values)),
    ("request_timeout_exclude_patterns", .list (requestTimeoutExcludePatterns values)),
    ("POSTGRES_URL", .str (postgresUrl values)),
    ("rate_limit_exclude_patterns", .list (rateLimitExcludePatterns values))]

/-- `model_dump(mode="json")`. The order of the entries is not modelled. -/
def modelDump (values : Values) : List (String × Value) :=
  (fields.map fun field => (field.name, values field.name)) ++ computedFields values

/-- What is configured, and the defaults of the other fields. -/
def configured (given : List (String × Value)) : Values := fun name =>
  let default := (fields.find? fun field => field.name = name).bind Field.default
  ((given.lookup name).or default).getD (.str "")

/-- Configured values and defaults are accepted, if the configured ones are and no required field is
left out. -/
theorem configured_accepted {given : List (String × Value)}
    (each : ∀ entry ∈ given, ∀ field ∈ fields, field.name = entry.1 →
      field.kind.accepts entry.2 = true)
    (filled : ∀ field ∈ fields, field.default = none → field.name ∈ given.map Prod.fst) :
    ∀ field ∈ fields, field.kind.accepts (configured given field.name) = true := by
  intro field declared
  have found : fields.find? (fun other => other.name = field.name) = some field := by
    have some_ : (fields.find? fun other => other.name = field.name).isSome := by
      rw [List.find?_isSome]
      exact ⟨field, declared, by simp⟩
    obtain ⟨other, found⟩ := Option.isSome_iff_exists.mp some_
    have named : other.name = field.name := by simpa using List.find?_some found
    have same := List.inj_on_of_nodup_map fields_distinct (List.mem_of_find?_eq_some found) declared
      named
    rw [found, same]
  simp only [configured, found, Option.bind_some]
  cases looked : given.lookup field.name with
  | some value =>
      obtain ⟨before, after, split, -⟩ := List.lookup_eq_some_iff.mp looked
      have member : (field.name, value) ∈ given := by simp [split]
      exact each _ member field declared rfl
  | none =>
      cases default : field.default with
      | some value => exact defaults_accepted field declared value default
      | none =>
          obtain ⟨entry, member, named⟩ := List.mem_map.mp (filled field declared default)
          have other := List.lookup_eq_none_iff.mp looked entry member
          simp [named] at other

end AiPlatform.Config
