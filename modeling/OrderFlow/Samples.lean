import OrderFlow.Event.OrderCreated
import OrderFlow.Event.PaymentCompleted
import OrderFlow.Surroundings

/-!
Sample data: a customer, a line, and events that keep all rules.
-/
namespace OrderFlow.Samples
open OrderFlow Surroundings

/-- A customer. -/
def customer : Customer where
  name := "Ada Lovelace"
  email := "ada@example.com"
  phone := "+1-415-555-0100"
  shippingAddress := ⟨"1 Market St", "San Francisco", "CA", "94105", "US"⟩

/-- A price. -/
def price : Decimal := ⟨2999, 2, by decide, by decide⟩

/-- Twice the price. -/
def amount : Decimal := ⟨5998, 2, by decide, by decide⟩

/-- The number of the sample order. -/
def number : String := "ORD-20250101-001"

/-- A line of two pieces. -/
def lineItem : StateM Surroundings LineItem := do
  let productId ← randomId
  return { productId, sku := "SKU-001", name := "Mechanical Keyboard", quantity := 2, price,
           subtotal := amount }

/-- An identifier that correlates events. -/
def correlationId : StateM Surroundings String := return "checkout-" ++ (← randomId).text

/-- An order has come about. -/
def orderCreated : StateM Surroundings OrderCreated := do
  let eventId ← orderedId
  let correlation ← correlationId
  let orderId ← randomId
  let item ← lineItem
  let cartId ← randomId
  return .new eventId (← clock) correlation orderId number customer [item] cartId

/-- A payment has ended. -/
def paymentCompleted (status : PaymentResult) : StateM Surroundings PaymentCompleted := do
  let eventId ← orderedId
  let correlationId ← correlationId
  let orderId ← randomId
  let transactionId ← randomId
  return {
    eventId, kind := .paymentCompleted, version := eventVersion, timestamp := .ofInstant (← clock),
    correlationId, orderId, orderNumber := number, transactionId, status, amount, method := "MOCK"
    externalTransactionId := if status = .success then some "mock_tx_1700000000000" else none
    failureReason := if status = .failed then some "card declined" else none }

end OrderFlow.Samples
