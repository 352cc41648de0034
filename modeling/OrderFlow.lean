import OrderFlow.Assoc
import OrderFlow.Breaker.Basic
import OrderFlow.Breaker.Metered
import OrderFlow.Broker
import OrderFlow.Checkout.Draft
import OrderFlow.Checkout.Error
import OrderFlow.Checkout.Ledger
import OrderFlow.Checkout.Request
import OrderFlow.Checkout.Service
import OrderFlow.Checkout.Site
import OrderFlow.DeadLetter
import OrderFlow.DeadLetter.Sending
import OrderFlow.Delivery
import OrderFlow.Email
import OrderFlow.Event.Customer
import OrderFlow.Event.Kind
import OrderFlow.Event.LineItem
import OrderFlow.Event.OrderCreated
import OrderFlow.Event.PaymentCompleted
import OrderFlow.Failure
import OrderFlow.Http.MediaType
import OrderFlow.Http.Request
import OrderFlow.Http.Response
import OrderFlow.Http.Site
import OrderFlow.Incoming
import OrderFlow.Json.Basic
import OrderFlow.Json.Decode
import OrderFlow.Json.Lookup
import OrderFlow.Json.Numeral
import OrderFlow.Json.Reader
import OrderFlow.Json.Scalars
import OrderFlow.Message
import OrderFlow.Meters
import OrderFlow.Number.Binary64
import OrderFlow.Number.Decimal
import OrderFlow.Number.Decimal.Text
import OrderFlow.Number.Rounding
import OrderFlow.Number.Shortest
import OrderFlow.Number.Text
import OrderFlow.Order.Basic
import OrderFlow.Order.Book
import OrderFlow.Order.Desk
import OrderFlow.Order.Error
import OrderFlow.Order.Service
import OrderFlow.Order.Site
import OrderFlow.Order.Status
import OrderFlow.Outbox.Loop
import OrderFlow.Outbox.Publisher
import OrderFlow.Outbox.Row
import OrderFlow.Outbox.Table
import OrderFlow.Payment.Attempt
import OrderFlow.Payment.Error
import OrderFlow.Payment.Gateway
import OrderFlow.Payment.Policy
import OrderFlow.Payment.Recovery
import OrderFlow.Payment.Transaction
import OrderFlow.Proofs.Breaker.Circuit
import OrderFlow.Proofs.Breaker.Memory
import OrderFlow.Proofs.Breaker.Overdue
import OrderFlow.Proofs.Breaker.Safety
import OrderFlow.Proofs.Breaker.Trials
import OrderFlow.Proofs.Breaker.Tripping
import OrderFlow.Proofs.Checkout.Bookkeeping
import OrderFlow.Proofs.Checkout.Commitments
import OrderFlow.Proofs.Checkout.Fingerprints
import OrderFlow.Proofs.Checkout.Finishing
import OrderFlow.Proofs.Checkout.Moves
import OrderFlow.Proofs.Checkout.Numbers
import OrderFlow.Proofs.Checkout.Postings
import OrderFlow.Proofs.Checkout.Replay
import OrderFlow.Proofs.Checkout.Reservations
import OrderFlow.Proofs.Checkout.Sales
import OrderFlow.Proofs.Checkout.Shortages
import OrderFlow.Proofs.Checkout.Sweeps
import OrderFlow.Proofs.Checkout.Totals
import OrderFlow.Proofs.Delivery.DeadLetters
import OrderFlow.Proofs.Delivery.Moves
import OrderFlow.Proofs.Delivery.Turns
import OrderFlow.Proofs.Effects
import OrderFlow.Proofs.Event.Amounts
import OrderFlow.Proofs.Event.Reading
import OrderFlow.Proofs.Event.RoundTrip
import OrderFlow.Proofs.Event.Rules
import OrderFlow.Proofs.Json.Lookup
import OrderFlow.Proofs.Json.Records
import OrderFlow.Proofs.Json.RoundTrip
import OrderFlow.Proofs.Json.Scalars
import OrderFlow.Proofs.Number.Arithmetic
import OrderFlow.Proofs.Number.Binary64
import OrderFlow.Proofs.Number.Decimal
import OrderFlow.Proofs.Number.DecimalText
import OrderFlow.Proofs.Number.Rounding
import OrderFlow.Proofs.Order.Accounts
import OrderFlow.Proofs.Order.Announcements
import OrderFlow.Proofs.Order.Calls
import OrderFlow.Proofs.Order.Changes
import OrderFlow.Proofs.Order.Choices
import OrderFlow.Proofs.Order.Index
import OrderFlow.Proofs.Order.Lifecycle
import OrderFlow.Proofs.Order.Moves
import OrderFlow.Proofs.Order.Origins
import OrderFlow.Proofs.Order.Searches
import OrderFlow.Proofs.Order.Wishes
import OrderFlow.Proofs.Outbox.Bursts
import OrderFlow.Proofs.Outbox.Claims
import OrderFlow.Proofs.Outbox.Leases
import OrderFlow.Proofs.Outbox.Lifecycle
import OrderFlow.Proofs.Outbox.Log
import OrderFlow.Proofs.Outbox.Moves
import OrderFlow.Proofs.Outbox.Office
import OrderFlow.Proofs.Outbox.Rows
import OrderFlow.Proofs.Outbox.Sequence
import OrderFlow.Proofs.Outbox.Streaks
import OrderFlow.Proofs.Outbox.Tries
import OrderFlow.Proofs.Payment.Bills
import OrderFlow.Proofs.Payment.Budget
import OrderFlow.Proofs.Payment.Moves
import OrderFlow.Proofs.Payment.Pursuing
import OrderFlow.Proofs.Payment.Quiet
import OrderFlow.Proofs.Payment.Sweeping
import OrderFlow.Proofs.Payment.Tending
import OrderFlow.Proofs.Retry.Runs
import OrderFlow.Proofs.Retry.Waits
import OrderFlow.Proofs.Shop.Following
import OrderFlow.Proofs.Shop.Waiting
import OrderFlow.Proofs.Time.Calendar
import OrderFlow.Proofs.Time.Timestamp
import OrderFlow.Proofs.Traffic.Basic
import OrderFlow.Proofs.Traffic.Bills
import OrderFlow.Proofs.Traffic.Books
import OrderFlow.Proofs.Traffic.Budget
import OrderFlow.Proofs.Traffic.Charging
import OrderFlow.Proofs.Traffic.Conflicts
import OrderFlow.Proofs.Traffic.Consumption
import OrderFlow.Proofs.Traffic.Deliveries
import OrderFlow.Proofs.Traffic.Doers
import OrderFlow.Proofs.Traffic.Drafts
import OrderFlow.Proofs.Traffic.Echoes
import OrderFlow.Proofs.Traffic.Entries
import OrderFlow.Proofs.Traffic.Fidelity
import OrderFlow.Proofs.Traffic.Lifecycle
import OrderFlow.Proofs.Traffic.Messages
import OrderFlow.Proofs.Traffic.Origins
import OrderFlow.Proofs.Traffic.Outcomes
import OrderFlow.Proofs.Traffic.Past
import OrderFlow.Proofs.Traffic.Progress
import OrderFlow.Proofs.Traffic.Recovery
import OrderFlow.Proofs.Traffic.Reports
import OrderFlow.Proofs.Traffic.Sales
import OrderFlow.Proofs.Traffic.Serving
import OrderFlow.Proofs.Traffic.Settlement
import OrderFlow.Proofs.Traffic.Steps
import OrderFlow.Proofs.Traffic.Stories
import OrderFlow.Proofs.Traffic.Wishes
import OrderFlow.Retry.Policy
import OrderFlow.Retry.Run
import OrderFlow.Samples
import OrderFlow.Scenario.Answer
import OrderFlow.Scenario.Breakers
import OrderFlow.Scenario.Outboxes
import OrderFlow.Scenario.Session.Basic
import OrderFlow.Scenario.Session.Ordering
import OrderFlow.Scenario.Session.Shopping
import OrderFlow.Scenario.Sessions
import OrderFlow.Scenario.Shown
import OrderFlow.Scenario.Sites
import OrderFlow.Scenario.Steps
import OrderFlow.Scenario.Trials
import OrderFlow.Settings.Catalog
import OrderFlow.Settings.Load
import OrderFlow.Settings.Sections
import OrderFlow.Settings.Value
import OrderFlow.Sha256
import OrderFlow.Shop.Basic
import OrderFlow.Shop.Clock
import OrderFlow.Shop.Worker
import OrderFlow.Surroundings
import OrderFlow.Text.Blank
import OrderFlow.Text.HostName
import OrderFlow.Text.Numerals
import OrderFlow.Text.Octets
import OrderFlow.Time.Calendar
import OrderFlow.Time.Instant
import OrderFlow.Time.Timestamp
import OrderFlow.Toml.Reader
import OrderFlow.Toml.Scalar
import OrderFlow.Toml.Tree
import OrderFlow.Uuid
