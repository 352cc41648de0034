import OrderFlow.Broker
import OrderFlow.DeadLetter
import OrderFlow.Surroundings

/-!
Sending dead letters to the broker.
-/
namespace OrderFlow.DeadLetter
open OrderFlow

/-- What the broker gets to see of a dead letter. -/
def message (d : DeadLetter) : SentMessage := ⟨d.topic, d.sendKey, d.octets⟩

/-- Sends a dead letter. One that was accepted shows on the meters. -/
def submit (d : DeadLetter) (b : Broker) : StateM Surroundings (Except Failure Unit × Broker) := do
  let (result, b) := b.send d.message
  if let .ok () := result then Surroundings.meter (Meters.deadLetter d.sourceTopic d.errorKind)
  return (result, b)

end OrderFlow.DeadLetter
