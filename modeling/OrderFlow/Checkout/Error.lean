import OrderFlow.Http.Response
import OrderFlow.Uuid

/-!
Why a checkout was refused, and how the refusal looks from outside.
-/
namespace OrderFlow

/-- Why a checkout was refused. -/
inductive CheckoutError where
  | missingKey
  | emptyCart (cart : Uuid)
  | insufficientStock (product : Uuid) (requested available : Int)
  /-- The order numbers of the day are used up. -/
  | numbersExhausted (day : String)
  | shared (cause : Failure)
  deriving DecidableEq, Repr, Inhabited

namespace CheckoutError

/-- The status code of a refusal. -/
def status : CheckoutError → Nat
  | .missingKey | .emptyCart _ => 400
  | .insufficientStock .. => 409
  | .numbersExhausted _ => 503
  | .shared (.invalid _) => 400
  | .shared (.keyReused _) => 409
  | .shared (.notFound ..) => 404
  | .shared (.store _) | .shared (.broker _) => 503
  | .shared _ => 500

/-- The code of a refusal. -/
def code : CheckoutError → String
  | .missingKey => "MISSING_IDEMPOTENCY_KEY"
  | .emptyCart _ => "EMPTY_CART"
  | .insufficientStock .. => "INSUFFICIENT_STOCK"
  | .numbersExhausted _ => "ORDER_NUMBER_EXHAUSTED"
  | .shared cause => cause.code

/-- The text of a refusal. -/
def message : CheckoutError → String
  | .missingKey => "缺少 Idempotency-Key 请求头"
  | .emptyCart cart => "购物车为空: cart_id=" ++ cart.text
  | .insufficientStock product requested available =>
    "库存不足: product_id=" ++ product.text ++ ", 需要 " ++ toString requested ++ ", 可用 " ++
      toString available
  | .numbersExhausted day => "当日订单号已用尽: " ++ day
  | .shared cause => cause.message

/-- Whether the same request may succeed later. -/
def retryable : CheckoutError → Bool
  | .shared cause => cause.retryable
  | _ => false

/-- What outsiders are told: nothing about the inner workings. -/
def notice : CheckoutError → String
  | .shared (.store _) => "服务暂时不可用，请使用相同的 Idempotency-Key 重试"
  | .shared (.internal _) | .shared (.serialization _) => Http.internalNotice
  | e => e.message

/-- The answer to the request. -/
def response (e : CheckoutError) : Http.Response := .refusal e.status e.code e.notice

end CheckoutError

end OrderFlow
