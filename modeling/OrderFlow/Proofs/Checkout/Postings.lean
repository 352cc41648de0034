import OrderFlow.Proofs.Checkout.Replay
import OrderFlow.Proofs.Checkout.Reservations
import OrderFlow.Proofs.Event.Reading
import OrderFlow.Proofs.Order.Origins

/-!
What the row of an order tells. Its payload is read member by member, as anybody does who looks into
the table: the order number and, for each line, the product and the quantity. The row that a draft
leaves behind tells the number that the draft was given and the lines that it had.
-/
namespace OrderFlow

variable {_ : EmailCheck}

namespace Json

/-- The text of a value. -/
def text? : Json → Option String
  | .text s => some s
  | _ => none

/-- The whole number of a value. -/
def int? : Json → Option Int
  | .int n => some n
  | _ => none

/-- The elements of a value. -/
def elements : Json → List Json
  | .array items => items
  | _ => []

end Json

namespace Outbox.Posting

/-- The order number that a posting tells. -/
def orderNumber? (p : Posting) : Option String := (p.payload.member? "orderNumber").bind Json.text?

/-- The product and the quantity of a written line. -/
def line? (line : Json) : Option (String × Int) := do
  let product ← (line.member? "productId").bind Json.text?
  let quantity ← (line.member? "quantity").bind Json.int?
  return (product, quantity)

/-- The products and quantities that a posting tells. -/
def lines (p : Posting) : List (String × Int) :=
  ((p.payload.member? "items").map Json.elements).getD [] |>.filterMap line?

/-- How much of a product a posting tells of. -/
def amount (product : Uuid) (p : Posting) : Int := amountOf product.text p.lines

theorem line?_ordered (i : LineItem) :
    line? i.toJson.ordered = some (i.productId.text, i.quantity.toInt) := by
  rw [LineItem.ordered_toJson]
  rfl

theorem orderNumber?_ofOrderCreated (e : OrderCreated) :
    (ofOrderCreated e).orderNumber? = some e.orderNumber := by
  rw [orderNumber?, ofOrderCreated, OrderCreated.ordered_toJson]
  rfl

theorem lines_ofOrderCreated (e : OrderCreated) :
    (ofOrderCreated e).lines = e.items.map fun i => (i.productId.text, i.quantity.toInt) := by
  have items : (ofOrderCreated e).payload.member? "items" =
      some (.array (e.items.map fun i => i.toJson.ordered)) := by
    rw [ofOrderCreated, OrderCreated.ordered_toJson]
    rfl
  have told : line? ∘ (fun i : LineItem => i.toJson.ordered) =
      fun i => some (i.productId.text, i.quantity.toInt) := funext line?_ordered
  rw [lines, items, Option.map_some, Option.getD_some, Json.elements, List.filterMap_map, told,
    List.filterMap_eq_map']

theorem amount_ofOrderCreated (product : Uuid) (e : OrderCreated) :
    (ofOrderCreated e).amount product =
      amountOf product (e.items.map fun i => (i.productId, i.quantity.toInt)) := by
  rw [amount, lines_ofOrderCreated, ← amountOf_renamed fun _ _ => Uuid.text_inj, List.map_map]
  rfl

end Outbox.Posting

/-- No line of an event that may be trusted is empty. -/
theorem OrderCreated.quantity_pos {e : OrderCreated} (checked : e.check = .ok ()) :
    ∀ i ∈ e.items, 0 < i.quantity.toInt :=
  fun i member => ((check_eq_ok_iff.mp checked).1.items i member).quantity

namespace CheckoutDraft.Finalized
variable {d : CheckoutDraft} {number : String} {eventId : Uuid} {now : Instant}
  {final : FinalCheckout}

theorem orderNumber? (finalized : d.Finalized number eventId now final) :
    final.posting.orderNumber? = some number := by
  rw [finalized.posting, Outbox.Posting.orderNumber?_ofOrderCreated, finalized.event]
  rfl

theorem amount (finalized : d.Finalized number eventId now final) (product : Uuid) :
    final.posting.amount product = amountOf product d.amounts := by
  rw [finalized.posting, Outbox.Posting.amount_ofOrderCreated, finalized.items, List.map_map]
  rfl

/-- A draft with an empty line becomes no order. -/
theorem positive (finalized : d.Finalized number eventId now final) :
    ∀ a ∈ d.amounts, 0 < a.2 := by
  intro a member
  obtain ⟨l, line, rfl⟩ := List.mem_map.mp member
  refine OrderCreated.quantity_pos finalized.checked l.toLineItem ?_
  rw [finalized.items]
  exact List.mem_map_of_mem line

end CheckoutDraft.Finalized

end OrderFlow
