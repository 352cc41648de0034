import OrderFlow.Json.Decode
import OrderFlow.Number.Decimal.Text

/-!
What can go wrong, as causes. `Invalid` says why something given from outside was refused, `Failure`
is every failure that the services share. Each failure has a code, a text and an answer to the
question whether trying again can help.
-/
namespace OrderFlow

/-- A field that breaks its rule. -/
structure Violation where
  path : String
  message : String
  deriving DecidableEq, Repr, Inhabited

namespace Violation

/-- One violation as a line of text. -/
def line (v : Violation) : String := v.path ++ ": " ++ v.message

/-- The violations of a part, named from the whole. -/
def within (path : String) (vs : List Violation) : List Violation :=
  vs.map fun v => { v with path := path ++ "." ++ v.path }

/-- The violation of a rule that does not hold. -/
def require (path message : String) (holds : Bool) : List Violation :=
  if holds then [] else [⟨path, message⟩]

/-- A text between a least and, where there is one, a greatest number of characters. -/
def length (path message s : String) (least : Nat) (most : Option Nat) : List Violation :=
  require path message (least ≤ s.length && most.all (s.length ≤ ·))

/-- Several violations as text, in the order of their lines. -/
def report (vs : List Violation) : String :=
  String.intercalate "\n" ((vs.map line).mergeSort (· ≤ ·))

end Violation

/-- Why something given from outside was refused. -/
inductive Invalid where
  | stated (text : String)
  | unknownEventKind (found : String)
  | unknownOrderStatus (found : String)
  | fields (violations : List Violation)
  | otherEventKind (expected found : String)
  | priceNotPositive (sku : String)
  | amountTooLarge (sku : String)
  | lineAmountDiffers (sku : String)
  | subtotalTooLarge
  | subtotalDiffers (expected found : Decimal)
  | noExternalTransaction
  | noFailureReason
  | notText
  | undecodable (cause : Json.DecodeError)
  | keyTooLong
  | bodyNotJson
  | bodyUnreadable (cause : Json.DecodeError)
  deriving DecidableEq, Repr, Inhabited

/-- The wording of a refusal. -/
def Invalid.message : Invalid → String
  | .stated text => text
  | .unknownEventKind found => "未知的事件类型: " ++ found
  | .unknownOrderStatus found => "未知的订单状态: " ++ found
  | .fields violations => Violation.report violations
  | .otherEventKind expected found => "事件类型不匹配: 期望 " ++ expected ++ "，实际 " ++ found
  | .priceNotPositive sku => "商品 " ++ sku ++ " 的价格必须大于 0"
  | .amountTooLarge sku => "商品 " ++ sku ++ " 的金额溢出"
  | .lineAmountDiffers sku => "商品 " ++ sku ++ " 小计与单价×数量不一致"
  | .subtotalTooLarge => "订单小计溢出"
  | .subtotalDiffers expected found =>
    "订单小计不一致: 期望 " ++ String.ofList expected.text ++ "，实际 " ++ String.ofList found.text
  | .noExternalTransaction => "支付成功事件缺少 externalTransactionId"
  | .noFailureReason => "支付失败事件缺少 failureReason"
  | .notText => "负载非 UTF-8 编码: <utf8>"
  | .undecodable cause => "负载反序列化失败: " ++ cause.message
  | .keyTooLong => "Idempotency-Key 长度不能超过 255"
  | .bodyNotJson => "Expected request with `Content-Type: application/json`"
  | .bodyUnreadable cause =>
    (if cause.isSyntax then "Failed to parse the request body as JSON: "
      else "Failed to deserialize the JSON body into the target type: ") ++ cause.message

/-- Why a store could not answer. -/
inductive StoreFault where
  | uniqueViolation
  | refused
  | noConnection
  deriving DecidableEq, Repr, Inhabited

/-- The wording of a store's fault. -/
def StoreFault.message : StoreFault → String
  | .uniqueViolation | .refused => "error returned from database: injected"
  | .noConnection => "pool timed out while waiting for an open connection"

/-- Why the broker did not accept a message. -/
inductive BrokerFault where
  | unavailable
  | scripted
  | stated (text : String)
  deriving DecidableEq, Repr, Inhabited

/-- The wording of a broker's fault. -/
def BrokerFault.message : BrokerFault → String
  | .unavailable => "broker 不可用"
  | .scripted => "模拟发送失败"
  | .stated text => text

/-- A failure that the services share. -/
inductive Failure where
  | store (cause : StoreFault)
  | broker (cause : BrokerFault)
  | serialization (cause : Json.DecodeError)
  | config (text : String)
  | notFound (entity id : String)
  | invalid (cause : Invalid)
  /-- An idempotency key was used before with another request. -/
  | keyReused (key : String)
  | illegalTransition (source target : String)
  | internal (text : String)
  /-- A number or a date left its range; whatever was being done is abandoned at that point. -/
  | overflow
  deriving DecidableEq, Repr, Inhabited

namespace Failure

/-- The code of a failure. -/
def code : Failure → String
  | .store _ => "DATABASE_ERROR"
  | .broker _ => "KAFKA_ERROR"
  | .serialization _ => "SERIALIZATION_ERROR"
  | .config _ => "CONFIG_ERROR"
  | .notFound .. => "NOT_FOUND"
  | .invalid _ => "VALIDATION_ERROR"
  | .keyReused _ => "IDEMPOTENCY_CONFLICT"
  | .illegalTransition .. => "INVALID_STATE_TRANSITION"
  | .internal _ => "INTERNAL_ERROR"
  | .overflow => "OVERFLOW"

/-- The text of a failure. -/
def message : Failure → String
  | .store cause => "数据库错误: " ++ cause.message
  | .broker cause => "Kafka 错误: " ++ cause.message
  | .serialization cause => "序列化错误: " ++ cause.message
  | .config text => "配置错误: " ++ text
  | .notFound entity id => "记录未找到: " ++ entity ++ " id=" ++ id
  | .invalid cause => "参数验证失败: " ++ cause.message
  | .keyReused key => "幂等键冲突: key=" ++ key ++ " 已被用于不同的请求体"
  | .illegalTransition source target => "非法的订单状态迁移: " ++ source ++ " -> " ++ target
  | .internal text => "内部错误: " ++ text
  | .overflow => "数值溢出"

/-- Trying again can help where a store or the broker was out of reach. -/
def retryable : Failure → Bool
  | .store _ | .broker _ => true
  | _ => false

/-- Whether a store refused a second row of the same key. -/
def isUniqueViolation : Failure → Bool
  | .store .uniqueViolation => true
  | _ => false

end Failure

end OrderFlow
