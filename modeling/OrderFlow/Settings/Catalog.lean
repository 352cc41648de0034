import OrderFlow.Json.Basic
import OrderFlow.Settings.Sections
import OrderFlow.Settings.Value

/-!
The catalogue of settings: each setting has a path, a kind, and a place in the record of its
section. Reading a tree of values takes every setting from its path and leaves those alone that are
not there; writing puts every setting back to its path. A section may also be given as a list of
its settings in the order of the catalogue.
-/
namespace OrderFlow.Settings

/-- What kind of value a setting takes. -/
inductive Kind where
  | text
  | flag
  | real
  /-- A whole number of so many bits with a sign. -/
  | signed (bits : Nat)
  /-- A whole number of so many bits without a sign. -/
  | unsigned (bits : Nat)
  deriving DecidableEq, Repr, Inhabited

namespace Kind

/-- The values of a kind. -/
abbrev Carrier : Kind → Type
  | text => String
  | flag => Bool
  | real => Binary64
  | signed _ => Int
  | unsigned _ => Nat

/-- Reads a value as one of a kind. -/
def read? : (k : Kind) → Value → Option k.Carrier
  | text => Value.asText?
  | flag => Value.asFlag?
  | real => Value.asReal?
  | signed bits => Value.asSigned? bits
  | unsigned bits => Value.asUnsigned? bits

/-- The written form of a value of a kind. -/
def toJson : (k : Kind) → k.Carrier → Json
  | text, s => .text s
  | flag, b => .bool b
  | real, x => .real x
  | signed _, n => .int n
  | unsigned _, n => .int n

end Kind

/-- A step of a path: the name of a member, and its number where members are only counted. -/
structure Step where
  name : String
  number : Nat
  deriving DecidableEq, Repr, Inhabited

/-- A setting of a section. -/
structure Setting (σ : Type) where
  path : List Step
  kind : Kind
  get : σ → kind.Carrier
  set : kind.Carrier → σ → σ

namespace Setting
variable {σ τ : Type}

/-- A setting of a section as a setting of what the section belongs to. -/
def within (step : Step) (get : τ → σ) (set : σ → τ → τ) (s : Setting σ) : Setting τ where
  path := step :: s.path
  kind := s.kind
  get t := s.get (get t)
  set a t := set (s.set a (get t)) t

/-- The value at the end of a path; none if there is nothing, an error if something else is in the
way. -/
def lookup? : List Step → Value → Except Unit (Option Value)
  | [], v => .ok (some v)
  | step :: rest, .table ms =>
    match Assoc.find? step.name ms with
    | some v => lookup? rest v
    | none => .ok none
  | step :: rest, .list vs =>
    match vs[step.number]? with
    | some v => lookup? rest v
    | none => .ok none
  | _ :: _, _ => .error ()

/-- Takes one setting from a tree of values. -/
def take (v : Value) (s : Setting σ) (current : σ) : Except Unit σ :=
  match lookup? s.path v with
  | .error () => .error ()
  | .ok none => .ok current
  | .ok (some found) =>
    match s.kind.read? found with
    | some a => .ok (s.set a current)
    | none => .error ()

/-- Takes all settings from a tree of values, starting from what holds without it. -/
def takeAll (settings : List (Setting σ)) (v : Value) (start : σ) : Except Unit σ :=
  settings.foldlM (fun current s => s.take v current) start

/-- Puts a value to the end of a path. -/
def place (v : Json) : List Step → Json → Json
  | [], _ => v
  | step :: rest, whole =>
    let ms : Assoc String Json := match whole with
      | .object ms => ms
      | _ => []
    .object (Assoc.insert step.name (place v rest ((Assoc.find? step.name ms).getD .null)) ms)

/-- The written form of a section. -/
def toJson (settings : List (Setting σ)) (current : σ) : Json :=
  settings.foldl (fun j s => place (s.kind.toJson (s.get current)) s.path j) (.object [])

end Setting

open Kind

/-- A setting that stands directly in its section. -/
def setting {σ : Type} (number : Nat) (name : String) (kind : Kind) (get : σ → kind.Carrier)
    (set : kind.Carrier → σ → σ) : Setting σ :=
  ⟨[⟨name, number⟩], kind, get, set⟩

/-- The settings of the server. -/
def Server.catalog : List (Setting Server) :=
  [setting 0 "host" text Server.host fun a s => { s with host := a },
   setting 1 "port" (unsigned 16) Server.port fun a s => { s with port := a }]

/-- The settings of the database. -/
def Database.catalog : List (Setting Database) :=
  [setting 0 "url" text Database.url fun a s => { s with url := a },
   setting 1 "max_connections" (unsigned 32) Database.maxConnections
     fun a s => { s with maxConnections := a },
   setting 2 "min_connections" (unsigned 32) Database.minConnections
     fun a s => { s with minConnections := a },
   setting 3 "connect_timeout_seconds" (unsigned 64) Database.connectTimeoutSeconds
     fun a s => { s with connectTimeoutSeconds := a },
   setting 4 "idle_timeout_seconds" (unsigned 64) Database.idleTimeoutSeconds
     fun a s => { s with idleTimeoutSeconds := a },
   setting 5 "run_migrations" flag Database.runMigrations fun a s => { s with runMigrations := a }]

/-- The settings of the message broker. -/
def Kafka.catalog : List (Setting Kafka) :=
  [setting 0 "brokers" text Kafka.brokers fun a s => { s with brokers := a },
   setting 1 "consumer_group" text Kafka.consumerGroup fun a s => { s with consumerGroup := a },
   setting 2 "auto_offset_reset" text Kafka.autoOffsetReset
     fun a s => { s with autoOffsetReset := a }]

/-- The settings of logs and meters. -/
def Observability.catalog : List (Setting Observability) :=
  [setting 0 "log_level" text Observability.logLevel fun a s => { s with logLevel := a },
   setting 1 "log_format" text Observability.logFormat fun a s => { s with logFormat := a },
   setting 2 "metrics_enabled" flag Observability.metricsEnabled
     fun a s => { s with metricsEnabled := a },
   setting 3 "metrics_port" (unsigned 16) Observability.metricsPort
     fun a s => { s with metricsPort := a }]

/-- The settings of the publishers. -/
def Outbox.catalog : List (Setting Outbox) :=
  [setting 0 "poll_interval_ms" (unsigned 64) Outbox.pollIntervalMs
     fun a s => { s with pollIntervalMs := a },
   setting 1 "batch_size" (signed 64) Outbox.batchSize fun a s => { s with batchSize := a },
   setting 2 "max_attempts" (signed 32) Outbox.maxAttempts
     fun a s => { s with maxAttempts := a },
   setting 3 "initial_backoff_ms" (unsigned 64) Outbox.initialBackoffMs
     fun a s => { s with initialBackoffMs := a },
   setting 4 "max_backoff_ms" (unsigned 64) Outbox.maxBackoffMs
     fun a s => { s with maxBackoffMs := a },
   setting 5 "claim_lease_seconds" (signed 64) Outbox.claimLeaseSeconds
     fun a s => { s with claimLeaseSeconds := a }]

/-- The settings of idempotency keys. -/
def Idempotency.catalog : List (Setting Idempotency) :=
  [setting 0 "ttl_hours" (signed 64) Idempotency.ttlHours fun a s => { s with ttlHours := a },
   setting 1 "cleanup_interval_seconds" (unsigned 64) Idempotency.cleanupIntervalSeconds
     fun a s => { s with cleanupIntervalSeconds := a }]

/-- The settings of the consumer. -/
def Consumer.catalog : List (Setting Consumer) :=
  [setting 0 "max_delivery_attempts" (unsigned 32) Consumer.maxDeliveryAttempts
     fun a s => { s with maxDeliveryAttempts := a },
   setting 1 "retry_initial_delay_ms" (unsigned 64) Consumer.retryInitialDelayMs
     fun a s => { s with retryInitialDelayMs := a },
   setting 2 "retry_max_delay_ms" (unsigned 64) Consumer.retryMaxDelayMs
     fun a s => { s with retryMaxDelayMs := a }]

/-- The settings of the circuit breaker. -/
def Breaker.catalog : List (Setting Breaker) :=
  [setting 0 "window_size" (unsigned 64) Breaker.windowSize fun a s => { s with windowSize := a },
   setting 1 "minimum_calls" (unsigned 64) Breaker.minimumCalls
     fun a s => { s with minimumCalls := a },
   setting 2 "failure_rate_threshold" real Breaker.failureRateThreshold
     fun a s => { s with failureRateThreshold := a },
   setting 3 "open_duration_ms" (unsigned 64) Breaker.openDurationMs
     fun a s => { s with openDurationMs := a },
   setting 4 "half_open_permits" (unsigned 32) Breaker.halfOpenPermits
     fun a s => { s with halfOpenPermits := a }]

/-- The settings of the search for stuck payments. -/
def Recovery.catalog : List (Setting Recovery) :=
  [setting 0 "interval_seconds" (unsigned 64) Recovery.intervalSeconds
     fun a s => { s with intervalSeconds := a },
   setting 1 "stalled_after_seconds" (signed 64) Recovery.stalledAfterSeconds
     fun a s => { s with stalledAfterSeconds := a },
   setting 2 "batch_size" (signed 64) Recovery.batchSize fun a s => { s with batchSize := a }]

/-- The settings of charges. -/
def Payment.catalog : List (Setting Payment) :=
  [setting 0 "call_timeout_ms" (unsigned 64) Payment.callTimeoutMs
     fun a s => { s with callTimeoutMs := a },
   setting 1 "max_attempts" (unsigned 32) Payment.maxAttempts
     fun a s => { s with maxAttempts := a },
   setting 2 "initial_backoff_ms" (unsigned 64) Payment.initialBackoffMs
     fun a s => { s with initialBackoffMs := a },
   setting 3 "backoff_multiplier" real Payment.backoffMultiplier
     fun a s => { s with backoffMultiplier := a },
   setting 4 "max_backoff_ms" (unsigned 64) Payment.maxBackoffMs
     fun a s => { s with maxBackoffMs := a },
   setting 5 "jitter_factor" real Payment.jitterFactor fun a s => { s with jitterFactor := a },
   setting 6 "simulated_latency_ms" (unsigned 64) Payment.simulatedLatencyMs
     fun a s => { s with simulatedLatencyMs := a },
   setting 7 "simulated_failure_rate" real Payment.simulatedFailureRate
     fun a s => { s with simulatedFailureRate := a }] ++
  Breaker.catalog.map (.within ⟨"circuit_breaker", 8⟩ Payment.breaker
    fun a s => { s with breaker := a }) ++
  Recovery.catalog.map (.within ⟨"recovery", 9⟩ Payment.recovery
    fun a s => { s with recovery := a })

/-- All settings. -/
def App.catalog : List (Setting App) :=
  [setting 0 "service_name" text App.serviceName fun a s => { s with serviceName := a },
   setting 1 "environment" text App.environment fun a s => { s with environment := a }] ++
  Server.catalog.map (.within ⟨"server", 2⟩ App.server fun a s => { s with server := a }) ++
  Database.catalog.map (.within ⟨"database", 3⟩ App.database fun a s => { s with database := a }) ++
  Kafka.catalog.map (.within ⟨"kafka", 4⟩ App.kafka fun a s => { s with kafka := a }) ++
  Observability.catalog.map (.within ⟨"observability", 5⟩ App.observability
    fun a s => { s with observability := a }) ++
  Outbox.catalog.map (.within ⟨"outbox", 6⟩ App.outbox fun a s => { s with outbox := a }) ++
  Idempotency.catalog.map (.within ⟨"idempotency", 7⟩ App.idempotency
    fun a s => { s with idempotency := a }) ++
  Consumer.catalog.map (.within ⟨"consumer", 8⟩ App.consumer fun a s => { s with consumer := a }) ++
  Payment.catalog.map (.within ⟨"payment", 9⟩ App.payment fun a s => { s with payment := a })

end OrderFlow.Settings
