import OrderFlow.Failure
import OrderFlow.Json.Scalars

/-!
The lines of an order, with the price at which each was ordered.
-/
namespace OrderFlow
open Json

/-- A line of an order. -/
structure LineItem where
  productId : Uuid
  sku : String
  name : String
  quantity : Int32
  price : Decimal
  subtotal : Decimal
  deriving DecidableEq, Repr, Inhabited

/-- The amount of a line, none if it is too large. -/
def lineTotal (price : Decimal) (quantity : Int32) : Option Decimal := price.times quantity.toInt

namespace LineItem

/-- The rules that a line breaks on its own. -/
def violations (i : LineItem) : List Violation :=
  Violation.length "sku" "SKU 不能为空" i.sku 1 none ++
  Violation.length "name" "商品名称不能为空" i.name 1 none ++
  Violation.require "quantity" "数量至少为 1" (1 ≤ i.quantity.toInt)

/-- The amount of a line has to be that of its price and quantity, and the price above zero. -/
def checkAmount (i : LineItem) : Except Invalid Unit :=
  if ¬ i.price.isPositive then .error (.priceNotPositive i.sku)
  else
    match lineTotal i.price i.quantity with
    | none => .error (.amountTooLarge i.sku)
    | some total => if total.sameValue i.subtotal then .ok () else .error (.lineAmountDiffers i.sku)

/-- The written form. -/
def toJson (i : LineItem) : Json :=
  .object [("productId", i.productId.toJson), ("sku", .text i.sku), ("name", .text i.name),
    ("quantity", .int i.quantity.toInt), ("priceSnapshot", i.price.toJson),
    ("subtotal", i.subtotal.toJson)]

/-- The members of the written form. -/
def fields : List Field :=
  [⟨"productId", [], Uuid, Uuid.reader, none⟩, ⟨"sku", ["productSku"], String, Node.asText, none⟩,
   ⟨"name", ["productName"], String, Node.asText, none⟩,
   ⟨"quantity", [], Int32, Node.asInt32, none⟩,
   ⟨"priceSnapshot", [], Decimal, Decimal.reader, none⟩,
   ⟨"subtotal", [], Decimal, Decimal.reader, none⟩]

/-- The line of its members. -/
def ofRecord : Record fields → LineItem
  | (productId, sku, name, quantity, price, subtotal, ()) =>
    ⟨productId, sku, name, quantity, price, subtotal⟩

/-- Reads the written form. -/
def reader : Reader LineItem := fun node => (Record.read fields node).map ofRecord

end LineItem

end OrderFlow
