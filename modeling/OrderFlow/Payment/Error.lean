import OrderFlow.Time.Instant

/-!
Why a payment gateway did not confirm a charge. The cause decides whether another try makes sense
and whether it says anything about the health of the gateway.
-/
namespace OrderFlow

/-- Why a charge was not confirmed. -/
inductive PaymentError where
  /-- The gateway is out of order for the moment. -/
  | transient (text : String)
  /-- The gateway refuses this charge. -/
  | permanent (text : String)
  /-- No answer within this span. -/
  | timeout (limit : Span)
  /-- The gateway was not called at all. -/
  | circuitOpen (text : String)
  deriving DecidableEq, Repr, Inhabited

namespace PaymentError

/-- Trying again can help. -/
def retryable : PaymentError → Bool
  | .transient _ | .timeout _ => true
  | _ => false

/-- A refusal says nothing about the health of the gateway. -/
def countsAgainstBreaker : PaymentError → Bool
  | .transient _ | .timeout _ => true
  | _ => false

/-- A word for the cause. -/
def kind : PaymentError → String
  | .transient _ => "transient"
  | .permanent _ => "permanent"
  | .timeout _ => "timeout"
  | .circuitOpen _ => "circuit_open"

/-- The text of the cause. -/
def message : PaymentError → String
  | .transient text => "支付网关暂时不可用: " ++ text
  | .permanent text => "支付被拒绝: " ++ text
  | .timeout limit => "支付调用超时: 超过 " ++ limit.text
  | .circuitOpen text => "支付熔断器已打开，快速失败: " ++ text

end PaymentError

end OrderFlow
