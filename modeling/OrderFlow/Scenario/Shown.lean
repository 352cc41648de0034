import OrderFlow.Breaker.Basic
import OrderFlow.Checkout.Ledger
import OrderFlow.Meters
import OrderFlow.Order.Book
import OrderFlow.Outbox.Publisher
import OrderFlow.Payment.Gateway
import OrderFlow.Payment.Policy

/-!
How states are shown in the answers of scenarios: points in time and spans in whole milliseconds,
octets as the JSON that they write, or else as text.
-/
namespace OrderFlow.Scenario
open OrderFlow Json

/-- A point in time. -/
def millis (t : Instant) : Json := .int t.millis

/-- A span. -/
def span (d : Span) : Json := .nat d.millis

/-- A text as the JSON that it writes, or else as text. -/
def parsed (s : String) : Json :=
  match decodeText any s with
  | .ok v => v
  | .error _ => .text s

/-- Octets as the JSON that they write, or else as text. -/
def parsedOctets (bs : List UInt8) : Json :=
  match decodeOctets any bs with
  | .ok v => v
  | .error _ => .text (Octets.lossy bs)

/-- What identifies an event in an outbox. -/
def posting (p : Outbox.Posting) : List (String × Json) :=
  [("id", p.id.toJson), ("aggregateId", .text p.aggregateId), ("eventType", .text p.kind),
    ("topic", .text p.topic)]

/-- A row of an outbox. -/
def row (r : Outbox.Row) : Json :=
  .object (posting r.posting ++ [("payload", r.posting.payload), ("status", .text r.status.name),
    ("attemptCount", .nat r.attempts), ("lastError", .optional .text r.lastError),
    ("createdAt", millis r.createdAt), ("lastAttemptAt", .optional millis r.lastAttemptAt),
    ("nextAttemptAt", millis r.nextAttemptAt), ("claimedUntil", .optional millis r.claimedUntil),
    ("publishedAt", .optional millis r.publishedAt)])

/-- The rows of an outbox. -/
def rows (t : Outbox.Table) : Json := .array (t.rows.map row)

/-- A batch of a publisher. -/
def report (r : Outbox.Report) : Json :=
  .object [("claimed", .nat r.claimed), ("published", .nat r.published),
    ("retried", .nat r.retried), ("failed", .nat r.failed)]

/-- The record of a key. -/
def record (r : KeyRecord) : Json :=
  .object [("key", .text r.key), ("fingerprint", .text r.fingerprint), ("status", .int r.status),
    ("body", .text r.body), ("createdAt", millis r.createdAt), ("expiresAt", millis r.expiresAt)]

/-- What came of a checkout. -/
def checkoutOutcome (o : CheckoutOutcome) : Json :=
  .object [("statusCode", .nat o.statusCode), ("response", o.response.toJson),
    ("replayed", .bool o.replayed)]

/-- How an attempt to pay has ended. -/
def paymentOutcome (o : PaymentOutcome) : Json :=
  .object [("eventId", o.eventId.toJson), ("orderId", o.orderId.toJson),
    ("status", .text o.result.name), ("success", .bool o.isSuccess),
    ("externalTransactionId", .optional .text o.externalTransactionId),
    ("failureReason", .optional .text o.failureReason), ("attempts", .int o.attempts),
    ("publish", .bool o.publish)]

/-- What came of applying an outcome. -/
def settlement : Settlement → Json
  | .applied status transaction =>
    .object [("applied", .object [("status", status.toJson), ("transaction", transaction.toJson)])]
  | .duplicate => .text "duplicate"
  | .alreadySettled status => .object [("alreadySettled", .text status.name)]

/-- An answer over HTTP. -/
def response (r : Http.Response) : Json :=
  .object [("status", .nat r.status), ("body", parsed r.body),
    ("contentType", .optional .text r.contentType), ("allow", .optional .text r.allow),
    ("requestId", .optional .text r.requestId), ("replayed", .optional .text r.replayed)]

/-- A message that the broker accepted. -/
def sent (m : SentMessage) : Json :=
  .object [("topic", .text m.topic), ("key", .text m.key), ("payload", parsedOctets m.payload)]

/-- The readings of the meters. -/
def meters (m : Meters) : Json := .object (m.readings.map fun r => (r.1, .int r.2))

/-- A retry policy. -/
def retryPolicy (p : RetryPolicy) : Json :=
  .object [("maxRetries", .nat p.maxRetries), ("initialMs", span p.initialDelay),
    ("maxMs", span p.maxDelay), ("multiplier", .real p.multiplier), ("jitter", .real p.jitter)]

/-- The configuration of a breaker. -/
def breakerConfig (c : Breaker.Config) : Json :=
  .object [("name", .text c.name), ("window", .nat c.window), ("minimum", .nat c.minimum),
    ("threshold", .real c.threshold), ("openMs", span c.openFor), ("permits", .nat c.permits)]

/-- A call of the scripted gateway. -/
def gatewayCall (start : Instant) (c : Gateway.LoggedCall) : Json :=
  .object [("t", span (c.time.since start)), ("orderId", c.request.orderId.toJson),
    ("orderNumber", .text c.request.orderNumber), ("amount", c.request.amount.toJson),
    ("currency", .text c.request.currency)]

end OrderFlow.Scenario
