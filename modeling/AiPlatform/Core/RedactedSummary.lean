import AiPlatform.Core.Settings

set_option autoImplicit false

/- `redacted_summary`: which credentials it hides. -/
namespace AiPlatform.Config

/-- `_SECRET_MARKERS`. -/
def secretMarkers : List String := ["PASSWORD", "SECRET", "TOKEN", "KEY", "PEPPER"]

/-- `key.upper()` of an ASCII name. -/
def upper (key : String) : String := String.ofList (key.toList.map Char.toUpper)

def isMarked (key : String) : Bool := secretMarkers.any fun marker => Text.isIn marker key

def endsInUrl (key : String) : Bool := "_URL".toList.isSuffixOf key.toList

def redactedValue (key : String) (value : Value) : Value :=
  if value.isEmpty then value
  else if isMarked (upper key) then .str "***"
  else
    match value with
    | .str text =>
        if endsInUrl (upper key) && Text.isIn "://" text && Text.isIn "@" text then .str "***"
        else value
    | value => value

section Summary

variable {sha256 : List UInt8 → List Nat}

def Settings.redactedSummary (settings : Settings sha256) : List (String × Value) :=
  (modelDump settings.values).map fun (key, value) => (key, redactedValue key value)

/-- The settings that are URLs. -/
def urlSettings : List String :=
  ["LANGFUSE_BASE_URL", "SQS_QUEUE_URL", "SQS_ENDPOINT_URL", "SQS_DEAD_LETTER_QUEUE_URL",
    "RABBITMQ_URL", "OBJECT_S3_ENDPOINT_URL", "MONGODB_URI", "OTEL_EXPORTER_OTLP_ENDPOINT"]

/-- A URL with a user and a password. -/
def urlWith (scheme userinfo rest : String) : String :=
  scheme ++ "://" ++ userinfo ++ "@" ++ rest

/-- A setting of two `Settings` that differ in secrets only. `POSTGRES_USER` is the user of the
derived `POSTGRES_URL`. -/
inductive Alike (name : String) : Value → Value → Prop where
  | same (value : Value) : Alike name value value
  | secret {value other : Value} (marked : isMarked name = true)
      (filled : value.isEmpty = other.isEmpty) : Alike name value other
  | credentials (url : name ∈ urlSettings) (scheme userinfo userinfo' rest : String) :
      Alike name (.str (urlWith scheme userinfo rest)) (.str (urlWith scheme userinfo' rest))
  | user (named : name = "POSTGRES_USER") (value other : Value) : Alike name value other

def Settings.SameButSecrets (settings other : Settings sha256) : Prop :=
  ∀ field ∈ fields, Alike field.name (settings.values field.name) (other.values field.name)

/-- The settings with credentials that are not hidden. -/
def shownSettings : List String := ["MONGODB_URI", "OTEL_EXPORTER_OTLP_ENDPOINT", "POSTGRES_USER"]

/-- The markers are upper case. -/
theorem isMarked_upper {key : String} (marked : isMarked key = true) :
    isMarked (upper key) = true := by
  have upperCase : ∀ marker ∈ secretMarkers, marker.toList.map Char.toUpper = marker.toList := by
    decide
  obtain ⟨marker, listed, found⟩ := List.any_eq_true.mp marked
  have inside : marker.toList <:+: key.toList := of_decide_eq_true found
  have upperInside : marker.toList <:+: key.toList.map Char.toUpper :=
    upperCase marker listed ▸ inside.map Char.toUpper
  refine List.any_eq_true.mpr ⟨marker, listed, decide_eq_true ?_⟩
  rwa [upper, String.toList_ofList]

theorem shownSettings_plain : ∀ name ∈ shownSettings,
    isMarked (upper name) = false ∧ endsInUrl (upper name) = false := by
  decide +kernel

theorem urlSettings_hidden : ∀ name ∈ urlSettings, name ∉ shownSettings →
    isMarked (upper name) = false ∧ endsInUrl (upper name) = true := by
  decide +kernel

theorem redactedValue_marked {key : String} {value : Value} (marked : isMarked (upper key) = true)
    (filled : value.isEmpty = false) : redactedValue key value = .str "***" := by
  unfold redactedValue
  simp [filled, marked]

theorem redactedValue_plain {key : String} (plain : isMarked (upper key) = false)
    (other : endsInUrl (upper key) = false) (value : Value) : redactedValue key value = value := by
  unfold redactedValue
  rw [plain, other]
  cases value <;> simp

/-- Values of a kind that are empty are the same. -/
theorem Kind.empty_unique {kind : Kind} {value other : Value} (accepted : kind.accepts value = true)
    (accepted' : kind.accepts other = true) (empty : value.isEmpty = true)
    (empty' : other.isEmpty = true) : value = other := by
  cases kind <;> cases value <;> cases other <;>
    simp_all [Kind.accepts, Value.isEmpty]

theorem isIn_urlWith (scheme userinfo rest : String) :
    Text.isIn "://" (urlWith scheme userinfo rest) = true ∧
      Text.isIn "@" (urlWith scheme userinfo rest) = true := by
  constructor
  · refine decide_eq_true ⟨scheme.toList, (userinfo ++ "@" ++ rest).toList, ?_⟩
    simp [urlWith]
  · refine decide_eq_true ⟨(scheme ++ "://" ++ userinfo).toList, rest.toList, ?_⟩
    simp [urlWith]

/-- A URL with credentials is hidden where the name ends in `_URL`. -/
theorem redactedValue_urlWith {key : String} (plain : isMarked (upper key) = false)
    (ends : endsInUrl (upper key) = true) (scheme userinfo rest : String) :
    redactedValue key (.str (urlWith scheme userinfo rest)) = .str "***" := by
  have ⟨slashes, sign⟩ := isIn_urlWith scheme userinfo rest
  have filled : urlWith scheme userinfo rest ≠ "" := by
    intro empty
    have letters := congrArg String.toList empty
    simp [urlWith] at letters
  unfold redactedValue
  simp [Value.isEmpty, filled, plain, ends, slashes, sign]

/-- What the summary hides of settings that differ in secrets. -/
theorem redactedValue_alike {field : Field} {value other : Value}
    (accepted : field.kind.accepts value = true) (accepted' : field.kind.accepts other = true)
    (alike : Alike field.name value other) :
    redactedValue field.name value = redactedValue field.name other ↔
      (field.name ∈ shownSettings → value = other) := by
  by_cases shown : field.name ∈ shownSettings
  · have ⟨plain, noUrl⟩ := shownSettings_plain _ shown
    rw [redactedValue_plain plain noUrl, redactedValue_plain plain noUrl]
    simp [shown]
  · simp only [shown, false_imp_iff, iff_true]
    cases alike with
    | same value => rfl
    | secret marked filled =>
        have upperMarked := isMarked_upper marked
        cases empty : value.isEmpty with
        | true => rw [Kind.empty_unique accepted accepted' empty (filled ▸ empty)]
        | false =>
            rw [redactedValue_marked upperMarked empty,
              redactedValue_marked upperMarked (filled ▸ empty)]
    | credentials url scheme userinfo userinfo' rest =>
        have ⟨plain, ends⟩ := urlSettings_hidden _ url shown
        rw [redactedValue_urlWith plain ends, redactedValue_urlWith plain ends]
    | user named =>
        rw [named] at shown
        exact absurd (by decide) shown

variable {settings other : Settings sha256}

theorem Alike.plain {name : String} {value other : Value} (alike : Alike name value other)
    (plain : isMarked name = false) (listed : name ∉ urlSettings ∧ name ∉ shownSettings) :
    value = other := by
  cases alike with
  | same => rfl
  | secret marked =>
      rw [plain] at marked
      cases marked
  | credentials url => exact absurd url listed.1
  | user named =>
      rw [named] at listed
      exact absurd (by decide) listed.2

theorem redactedValue_postgresUrl (values : Values) :
    redactedValue "POSTGRES_URL" (.str (postgresUrl values)) = .str "***" := by
  have shape : postgresUrl values = urlWith "postgresql+asyncpg"
      (values.text "POSTGRES_USER" ++ ":" ++ values.text "POSTGRES_PASSWORD")
      (values.text "POSTGRES_HOST" ++ ":" ++ toString (values.int "POSTGRES_PORT").toNat ++ "/" ++
        values.text "POSTGRES_DB") := by
    have driver : DatabaseUrl.driver = "postgresql+asyncpg" ++ "://" := by decide
    rw [postgresUrl, DatabaseUrl.urlOf, driver, urlWith]
    simp only [String.append_assoc]
  exact shape ▸ redactedValue_urlWith (by decide +kernel) (by decide +kernel) _ _ _

/-- The computed fields say nothing of a secret. -/
theorem computedFields_redacted (apart : settings.SameButSecrets other) :
    (computedFields settings.values).map (fun (key, value) => (key, redactedValue key value)) =
      (computedFields other.values).map fun (key, value) => (key, redactedValue key value) := by
  have text : ∀ name ∈ ["CORS_ALLOW_ORIGINS", "TRUSTED_HOSTS", "REQUEST_TIMEOUT_EXCLUDE_PATTERNS",
      "RATE_LIMIT_EXCLUDE_PATHS"], settings.values.text name = other.values.text name := by
    intro name read
    have public_ : ∀ name ∈ ["CORS_ALLOW_ORIGINS", "TRUSTED_HOSTS",
        "REQUEST_TIMEOUT_EXCLUDE_PATTERNS", "RATE_LIMIT_EXCLUDE_PATHS"],
        name ∈ fields.map Field.name ∧ isMarked name = false ∧
          name ∉ urlSettings ∧ name ∉ shownSettings := by
      decide +kernel
    have ⟨declared, plain, listed⟩ := public_ name read
    obtain ⟨field, member, rfl⟩ := List.mem_map.mp declared
    rw [Values.text, Values.text, (apart field member).plain plain listed]
  simp only [computedFields, List.map_cons, List.map_nil, redactedValue_postgresUrl,
    corsAllowOrigins, trustedHosts, requestTimeoutExcludePatterns, rateLimitExcludePatterns]
  rw [text _ (by decide), text _ (by decide), text _ (by decide), text _ (by decide)]

/-- Which pairs of `Settings` the summary does not tell apart. -/
theorem redactedSummary_same_iff (apart : settings.SameButSecrets other) :
    settings.redactedSummary = other.redactedSummary ↔
      settings.values "MONGODB_URI" = other.values "MONGODB_URI" ∧
        settings.values "OTEL_EXPORTER_OTLP_ENDPOINT" =
          other.values "OTEL_EXPORTER_OTLP_ENDPOINT" ∧
        settings.values "POSTGRES_USER" = other.values "POSTGRES_USER" := by
  have fieldwise : settings.redactedSummary = other.redactedSummary ↔
      ∀ field ∈ fields, field.name ∈ shownSettings →
        settings.values field.name = other.values field.name := by
    unfold Settings.redactedSummary modelDump
    rw [List.map_append, List.map_append, computedFields_redacted apart,
      List.append_left_inj, List.map_map, List.map_map, List.map_inj_left]
    apply forall₂_congr
    intro field declared
    rw [← redactedValue_alike (settings.accepted field declared)
      (other.accepted field declared) (apart field declared)]
    exact ⟨fun same => (Prod.mk.inj same).2, fun same => congrArg (Prod.mk field.name) same⟩
  have declared : ∀ name ∈ shownSettings, name ∈ fields.map Field.name := by decide +kernel
  have named : (∀ field ∈ fields, field.name ∈ shownSettings →
      settings.values field.name = other.values field.name) ↔
      ∀ name ∈ shownSettings, settings.values name = other.values name := by
    constructor
    · intro same name shown
      obtain ⟨field, member, rfl⟩ := List.mem_map.mp (declared name shown)
      exact same field member shown
    · intro same field _ shown
      exact same field.name shown
  rw [fieldwise, named]
  simp [shownSettings]

end Summary

section Local

/-- A local deployment with these credentials. -/
def localGiven (password mongodb rabbitmq : String) : List (String × Value) :=
  [("POSTGRES_HOST", .str "db"), ("POSTGRES_USER", .str "app"),
    ("POSTGRES_PASSWORD", .str password), ("POSTGRES_DB", .str "app"),
    ("REDIS_HOST", .str "redis"), ("MONGODB_URI", .str (urlWith "mongodb" mongodb "db:27017")),
    ("RABBITMQ_URL", .str (urlWith "amqp" rabbitmq "queue"))]

def localNames : List String :=
  ["POSTGRES_HOST", "POSTGRES_USER", "POSTGRES_PASSWORD", "POSTGRES_DB", "REDIS_HOST",
    "MONGODB_URI", "RABBITMQ_URL"]

theorem localGiven_accepted (password mongodb rabbitmq : String) : ∀ field ∈ fields,
    field.kind.accepts (configured (localGiven password mongodb rabbitmq) field.name) = true := by
  have texts : ∀ field ∈ fields, field.name ∈ localNames → field.kind = .str 0 := by
    decide +kernel
  have complete : ∀ field ∈ fields, field.default = none → field.name ∈ localNames := by
    decide +kernel
  have values : ∀ entry ∈ localGiven password mongodb rabbitmq, ∃ text, entry.2 = .str text := by
    simp [localGiven]
  refine configured_accepted ?_ complete
  intro entry member field declared named
  obtain ⟨text, value⟩ := values entry member
  have listed : entry.1 ∈ localNames := List.mem_map_of_mem member
  have kind := texts field declared (named ▸ listed)
  rw [kind, value]
  rfl

def localSettings (password mongodb rabbitmq : String) : Settings fun _ => [] where
  values := configured (localGiven password mongodb rabbitmq)
  accepted := localGiven_accepted password mongodb rabbitmq
  valid := rfl

theorem localSettings_apart {password password' : String} (filled : password ≠ "")
    (filled' : password' ≠ "") (mongodb mongodb' rabbitmq rabbitmq' : String) :
    (localSettings password mongodb rabbitmq).SameButSecrets
      (localSettings password' mongodb' rabbitmq') := by
  intro field _
  show Alike field.name (configured (localGiven password mongodb rabbitmq) field.name)
    (configured (localGiven password' mongodb' rabbitmq') field.name)
  by_cases postgres : field.name = "POSTGRES_PASSWORD"
  · rw [postgres]
    exact .secret (by decide) ((decide_eq_false filled).trans (decide_eq_false filled').symm)
  by_cases mongo : field.name = "MONGODB_URI"
  · rw [mongo]
    exact .credentials (by decide) "mongodb" mongodb mongodb' "db:27017"
  by_cases rabbit : field.name = "RABBITMQ_URL"
  · rw [rabbit]
    exact .credentials (by decide) "amqp" rabbitmq rabbitmq' "queue"
  · have same : configured (localGiven password mongodb rabbitmq) field.name =
        configured (localGiven password' mongodb' rabbitmq') field.name := by
      simp only [localGiven, configured, List.lookup_cons, beq_eq_false_iff_ne.mpr postgres,
        beq_eq_false_iff_ne.mpr mongo, beq_eq_false_iff_ne.mpr rabbit]
    rw [same]
    exact .same _

theorem redactedSummary_same_iff_rotated :
    (localSettings "one" "app:one" "app:one").redactedSummary =
        (localSettings "two" "app:one" "other:two").redactedSummary ↔
      (localSettings "one" "app:one" "app:one").values "MONGODB_URI" =
          (localSettings "two" "app:one" "other:two").values "MONGODB_URI" ∧
        (localSettings "one" "app:one" "app:one").values "OTEL_EXPORTER_OTLP_ENDPOINT" =
          (localSettings "two" "app:one" "other:two").values "OTEL_EXPORTER_OTLP_ENDPOINT" ∧
        (localSettings "one" "app:one" "app:one").values "POSTGRES_USER" =
          (localSettings "two" "app:one" "other:two").values "POSTGRES_USER" :=
  redactedSummary_same_iff (localSettings_apart (by decide) (by decide) _ _ _ _)

/-- Two passwords of MongoDB give two summaries. -/
theorem redactedSummary_tells_mongodb :
    ¬∀ (sha256 : List UInt8 → List Nat) (settings other : Settings sha256),
      settings.SameButSecrets other → settings.redactedSummary = other.redactedSummary := by
  intro hidden
  have apart : (localSettings "one" "app:one" "app:one").SameButSecrets
      (localSettings "one" "app:two" "app:one") :=
    localSettings_apart (by decide) (by decide) _ _ _ _
  have same := hidden _ _ _ apart
  have shown : ("MONGODB_URI", Value.str "mongodb://app:one@db:27017") ∈
      (localSettings "one" "app:one" "app:one").redactedSummary := by decide +kernel
  rw [same] at shown
  revert shown
  decide +kernel

end Local

end AiPlatform.Config
