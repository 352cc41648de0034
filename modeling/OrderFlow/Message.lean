import OrderFlow.Failure

/-!
Messages as consumers receive them: octets on a topic, with the place where they stood.
-/
namespace OrderFlow

/-- A message that was received. -/
structure Message where
  topic : String
  partition : Int := 0
  position : Int := 0
  key : Option String := none
  payload : List UInt8
  deriving DecidableEq, Repr, Inhabited

namespace Message

/-- The payload as text. -/
def text (m : Message) : Except Failure String :=
  match Octets.text? m.payload with
  | some s => .ok s
  | none => .error (.invalid .notText)

/-- The payload as a value. -/
def read {α : Type} (reader : Json.Reader α) (m : Message) : Except Failure α :=
  match Json.decodeOctets reader m.payload with
  | .ok a => .ok a
  | .error e => .error (.invalid (.undecodable e))

/-- The topic for messages of a topic that could not be dealt with. -/
def deadLetterTopic (topic : String) : String := topic ++ ".dlq"

/-- The place where a message stood. -/
def place (m : Message) : String :=
  m.topic ++ "-" ++ toString m.partition ++ "-" ++ toString m.position

/-- What a message is called in reports: the `eventId` of its payload where it has one, otherwise
the place where it stood. -/
def name (m : Message) : String :=
  match Json.decodeOctets Json.any m.payload with
  | .ok v =>
    match v.member? "eventId" with
    | some (.text id) => id
    | _ => m.place
  | .error _ => m.place

end Message

end OrderFlow
