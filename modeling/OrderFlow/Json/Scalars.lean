import OrderFlow.Json.Decode
import OrderFlow.Number.Decimal.Text
import OrderFlow.Time.Timestamp
import OrderFlow.Uuid

/-!
The written forms of amounts, identifiers, times and 32-bit numbers. An amount is written as a
string and may be read from a number as well; a number with a fraction or an exponent counts as the
shortest decimal that stands for its double.
-/
namespace OrderFlow

/-- The written form of an amount. -/
def Decimal.toJson (d : Decimal) : Json := .text (String.ofList d.text)

/-- Reads an amount. -/
def Decimal.reader : Json.Reader Decimal
  | .text (some s) =>
    match Decimal.parse? s with
    | some d => .ok d
    | none => .error .wrongValue
  | .number n =>
    match n.quantity? with
    | some (.whole k) =>
      match Decimal.of? k 0 with
      | some d => .ok d
      | none => .error .wrongValue
    | some (.real x) =>
      match Decimal.ofText? x.plain with
      | some d => .ok d
      | none => .error .wrongValue
    | none => .error .malformed
  | node => .error node.mismatch

/-- The written form of an identifier. -/
def Uuid.toJson (u : Uuid) : Json := .text u.text

/-- Reads an identifier. -/
def Uuid.reader : Json.Reader Uuid := Json.Node.asWritten Uuid.parse?

/-- The written form of a time. -/
def Timestamp.toJson (t : Timestamp) : Json := .text t.text

/-- Reads a time. -/
def Timestamp.reader : Json.Reader Timestamp :=
  Json.Node.asWritten fun cs => Timestamp.parse? (String.ofList cs)

/-- The written form of a point in time. -/
def Instant.toJson (t : Instant) : Json := (Timestamp.ofInstant t).toJson

/-- Reads a number of 32 bits with a sign. -/
def Json.Node.asInt32 : Json.Reader Int32 := fun node =>
  (Json.Node.asIntIn (-2 ^ 31) (2 ^ 31 - 1) node).map Int32.ofInt

end OrderFlow
