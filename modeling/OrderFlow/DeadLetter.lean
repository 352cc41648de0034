import OrderFlow.Json.Scalars
import OrderFlow.Message

/-!
Dead letters: a message that could not be dealt with, together with what is known about the failure.
It goes to the topic beside that of the message, under the same key.
-/
namespace OrderFlow
open Json

/-- A message that could not be dealt with. -/
structure DeadLetter where
  messageId : String
  sourceTopic : String
  partition : Int
  position : Int
  key : Option String
  payload : String
  error : String
  errorKind : String
  /-- How often the message was tried. -/
  retryCount : Int
  firstFailedAt : Timestamp
  lastFailedAt : Timestamp
  sourceService : String
  deriving DecidableEq, Repr, Inhabited

namespace DeadLetter

/-- The dead letter of a message. Octets that are no text are shown as far as they can be. -/
def ofMessage (m : Message) (messageId error errorKind : String) (retryCount : Nat)
    (firstFailedAt now : Instant) (sourceService : String) : DeadLetter where
  messageId
  sourceTopic := m.topic
  partition := m.partition
  position := m.position
  key := m.key
  payload := Octets.lossy m.payload
  error
  errorKind
  retryCount
  firstFailedAt := .ofInstant firstFailedAt
  lastFailedAt := .ofInstant now
  sourceService

/-- The topic of a dead letter. -/
def topic (d : DeadLetter) : String := Message.deadLetterTopic d.sourceTopic

/-- The key under which a dead letter is sent. -/
def sendKey (d : DeadLetter) : String := d.key.getD d.messageId

/-- The written form. -/
def toJson (d : DeadLetter) : Json :=
  .object [("messageId", .text d.messageId), ("sourceTopic", .text d.sourceTopic),
    ("partition", .int d.partition), ("offset", .int d.position), ("key", .optional .text d.key),
    ("payload", .text d.payload), ("error", .text d.error), ("errorKind", .text d.errorKind),
    ("retryCount", .int d.retryCount), ("firstFailedAt", d.firstFailedAt.toJson),
    ("lastFailedAt", d.lastFailedAt.toJson), ("sourceService", .text d.sourceService)]

/-- The written form in octets. -/
def octets (d : DeadLetter) : List UInt8 := Octets.ofText d.toJson.render

/-- The members of the written form. -/
def fields : List Field :=
  [⟨"messageId", [], String, Node.asText, none⟩, ⟨"sourceTopic", [], String, Node.asText, none⟩,
   ⟨"partition", [], Int, Node.asIntIn (-2 ^ 31) (2 ^ 31 - 1), none⟩,
   ⟨"offset", [], Int, Node.asIntIn (-2 ^ 63) (2 ^ 63 - 1), none⟩,
   ⟨"key", [], Option String, Node.asOptional Node.asText, some none⟩,
   ⟨"payload", [], String, Node.asText, none⟩, ⟨"error", [], String, Node.asText, none⟩,
   ⟨"errorKind", [], String, Node.asText, none⟩,
   ⟨"retryCount", [], Int, Node.asIntIn 0 (2 ^ 32 - 1), none⟩,
   ⟨"firstFailedAt", [], Timestamp, Timestamp.reader, none⟩,
   ⟨"lastFailedAt", [], Timestamp, Timestamp.reader, none⟩,
   ⟨"sourceService", [], String, Node.asText, none⟩]

/-- The dead letter of its members. -/
def ofRecord : Record fields → DeadLetter
  | (messageId, sourceTopic, partition, position, key, payload, error, errorKind, retryCount,
      firstFailedAt, lastFailedAt, sourceService, ()) =>
    ⟨messageId, sourceTopic, partition, position, key, payload, error, errorKind, retryCount,
      firstFailedAt, lastFailedAt, sourceService⟩

/-- Reads the written form. -/
def reader : Reader DeadLetter := fun node => (Record.read fields node).map ofRecord

end DeadLetter

end OrderFlow
