import OrderFlow.Failure

/-!
Customers and their addresses, as requests and events carry them. Which texts are e-mail addresses
is left open here: it is for an `EmailCheck` to say.
-/
namespace OrderFlow
open Json

/-- A check of e-mail addresses. -/
class EmailCheck where
  accepts : String → Bool

/-- Where an order is sent. -/
structure Address where
  street : String
  city : String
  state : String
  postalCode : String
  country : String
  deriving DecidableEq, Repr, Inhabited

namespace Address

/-- The rules that an address breaks. -/
def violations (a : Address) : List Violation :=
  Violation.length "street" "街道地址不能为空" a.street 1 (some 255) ++
  Violation.length "city" "城市不能为空" a.city 1 (some 100) ++
  Violation.length "state" "州/省不能为空" a.state 1 (some 100) ++
  Violation.length "postal_code" "邮编不能为空" a.postalCode 1 (some 20) ++
  Violation.length "country" "国家不能为空" a.country 1 (some 100)

/-- The written form. -/
def toJson (a : Address) : Json :=
  .object [("street", .text a.street), ("city", .text a.city), ("state", .text a.state),
    ("postalCode", .text a.postalCode), ("country", .text a.country)]

/-- The members of the written form. -/
def fields : List Field :=
  [⟨"street", [], String, Node.asText, none⟩, ⟨"city", [], String, Node.asText, none⟩,
   ⟨"state", [], String, Node.asText, none⟩, ⟨"postalCode", [], String, Node.asText, none⟩,
   ⟨"country", [], String, Node.asText, none⟩]

/-- The address of its members. -/
def ofRecord : Record fields → Address
  | (street, city, state, postalCode, country, ()) => ⟨street, city, state, postalCode, country⟩

/-- Reads the written form. -/
def reader : Reader Address := fun node => (Record.read fields node).map ofRecord

end Address

/-- Who orders. -/
structure Customer where
  name : String
  email : String
  phone : String
  shippingAddress : Address
  deriving DecidableEq, Repr, Inhabited

namespace Customer

/-- The rules that a customer breaks. -/
def violations [EmailCheck] (c : Customer) : List Violation :=
  Violation.length "name" "客户姓名不能为空" c.name 1 (some 200) ++
  Violation.require "email" "邮箱格式不正确" (EmailCheck.accepts c.email) ++
  Violation.length "phone" "电话号码过长" c.phone 0 (some 50) ++
  Violation.within "shipping_address" c.shippingAddress.violations

/-- The written form. -/
def toJson (c : Customer) : Json :=
  .object [("name", .text c.name), ("email", .text c.email), ("phone", .text c.phone),
    ("shippingAddress", c.shippingAddress.toJson)]

/-- The members of the written form. -/
def fields : List Field :=
  [⟨"name", [], String, Node.asText, none⟩, ⟨"email", [], String, Node.asText, none⟩,
   ⟨"phone", [], String, Node.asText, none⟩,
   ⟨"shippingAddress", [], Address, Address.reader, none⟩]

/-- The customer of its members. -/
def ofRecord : Record fields → Customer
  | (name, email, phone, shippingAddress, ()) => ⟨name, email, phone, shippingAddress⟩

/-- Reads the written form. -/
def reader : Reader Customer := fun node => (Record.read fields node).map ofRecord

end Customer

end OrderFlow
