import OrderFlow.Http.Response
import OrderFlow.Uuid

/-!
Why something could not be done with an order, and how that looks from outside.
-/
namespace OrderFlow

/-- Why something could not be done with an order. -/
inductive OrderError where
  | orderNotFound (name : String)
  | paymentNotFound (order : Uuid)
  /-- A message that nothing can be done with. -/
  | poison (text : String)
  | shared (cause : Failure)
  deriving DecidableEq, Repr, Inhabited

namespace OrderError

/-- The status code of an error. -/
def status : OrderError → Nat
  | .orderNotFound _ | .paymentNotFound _ => 404
  | .poison _ => 400
  | .shared (.invalid _) => 400
  | .shared (.notFound ..) => 404
  | .shared (.illegalTransition ..) => 409
  | .shared (.store _) | .shared (.broker _) => 503
  | .shared _ => 500

/-- The code of an error. -/
def code : OrderError → String
  | .orderNotFound _ => "ORDER_NOT_FOUND"
  | .paymentNotFound _ => "PAYMENT_NOT_FOUND"
  | .poison _ => "POISON_MESSAGE"
  | .shared cause => cause.code

/-- The text of an error. -/
def message : OrderError → String
  | .orderNotFound name => "订单不存在: " ++ name
  | .paymentNotFound order => "支付交易不存在: order_id=" ++ order.text
  | .poison text => "无法处理的消息: " ++ text
  | .shared cause => cause.message

/-- Whether trying again can help. -/
def retryable : OrderError → Bool
  | .shared cause => cause.retryable
  | _ => false

/-- What outsiders are told: nothing about the inner workings. -/
def notice : OrderError → String
  | .shared (.store _) => "服务暂时不可用，请稍后重试"
  | .shared (.internal _) | .shared (.serialization _) => Http.internalNotice
  | e => e.message

/-- The answer to the request. -/
def response (e : OrderError) : Http.Response := .refusal e.status e.code e.notice

end OrderError

end OrderFlow
