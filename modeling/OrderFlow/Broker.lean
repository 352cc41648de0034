import OrderFlow.Failure
import OrderFlow.Text.Octets

/-!
The message broker as the services see it: a log of accepted messages. `send` either appends one
message or fails and leaves the log as it is (`send_log`).
-/
namespace OrderFlow

/-- A message that the broker accepted. -/
structure SentMessage where
  topic : String
  key : String
  payload : List UInt8
  deriving DecidableEq, Repr, Inhabited

/-- The broker. -/
structure Broker where
  /-- The accepted messages, oldest first. -/
  log : List SentMessage := []
  available : Bool := true
  /-- How many of the next messages are refused although the broker is available. -/
  refusals : Nat := 0
  deriving DecidableEq, Repr, Inhabited

namespace Broker

/-- Sends a message. -/
def send (m : SentMessage) (b : Broker) : Except Failure Unit × Broker :=
  if ¬ b.available then (.error (.broker .unavailable), b)
  else if 0 < b.refusals then (.error (.broker .scripted), { b with refusals := b.refusals - 1 })
  else (.ok (), { b with log := b.log ++ [m] })

/-- Lets the broker refuse some more of the next messages. -/
def refuseNext (times : Nat) (b : Broker) : Broker := { b with refusals := b.refusals + times }

/-- The messages of a topic, oldest first. -/
def onTopic (topic : String) (b : Broker) : List SentMessage :=
  b.log.filter fun m => m.topic = topic

/-- The log after sending shows whether the message was accepted. -/
theorem send_log (m : SentMessage) (b : Broker) :
    ((b.send m).1 = .ok () ∧ (b.send m).2.log = b.log ++ [m]) ∨
      ((∃ e, (b.send m).1 = .error e) ∧ (b.send m).2.log = b.log) := by
  unfold send
  split
  · exact .inr ⟨⟨_, rfl⟩, rfl⟩
  · split
    · exact .inr ⟨⟨_, rfl⟩, rfl⟩
    · exact .inl ⟨rfl, rfl⟩

end Broker

end OrderFlow
