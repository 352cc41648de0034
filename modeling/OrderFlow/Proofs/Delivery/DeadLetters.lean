import OrderFlow.Email
import OrderFlow.Proofs.Delivery.Turns
import OrderFlow.Proofs.Event.RoundTrip
import OrderFlow.Proofs.Json.Lookup
import OrderFlow.Proofs.Time.Calendar

/-!
Dead letters keep the message. What is published of a dead letter reads back as the letter
(`DeadLetter.decodeOctets_octets`), the letter tells which message was received
(`DeadLetter.original_ofMessage`), and a message that could not be read goes by the name that its
payload gives to its event, or else by its place (`Message.isCalled_name`).
-/
namespace OrderFlow
open Json

/-- A whole number within the bounds reads back. -/
theorem Json.Node.asIntIn_int {low high n : Int} (least : -2 ^ 63 ≤ low) (most : high < 2 ^ 64)
    (within : low ≤ n ∧ n ≤ high) : Node.asIntIn low high (Json.int n).node = .ok n := by
  have whole := quantity?_signed (n := n) (by omega) (by omega)
  simp only [node, Node.asIntIn, whole, if_pos within]

/-- A text that may be missing reads back. -/
@[simp] theorem Json.Node.asOptional_optional (s : Option String) :
    Node.asOptional Node.asText (Json.optional .text s).node = .ok s := by
  cases s with
  | none => rfl
  | some s => exact Node.asOptional_text s

namespace Message

/-- A message whose place has the numbers that a broker gives out. -/
structure IsPlaced (m : Message) : Prop where
  partition : -2 ^ 31 ≤ m.partition ∧ m.partition ≤ 2 ^ 31 - 1
  position : -2 ^ 63 ≤ m.position ∧ m.position ≤ 2 ^ 63 - 1

/-- The payload is JSON that can be read as any value, so not too deep and no number out of range,
and its last member of the name `eventId` is the text `id`. -/
def Names (m : Message) (id : String) : Prop :=
  ∃ x v, decodeOctets Node.asNode m.payload = .ok x ∧ any x = .ok v ∧
    x.get? "eventId" = some (.text (some id.toList))

/-- What a message is called: by the event that its payload names, or by its place. -/
inductive IsCalled (m : Message) : String → Prop where
  | event {id : String} (names : m.Names id) : IsCalled m id
  | place (nameless : ∀ id, ¬ m.Names id) :
      IsCalled m (m.topic ++ "-" ++ toString m.partition ++ "-" ++ toString m.position)

/-- **A message is called by the event that its payload names, or by its place.** -/
theorem isCalled_name (m : Message) : m.IsCalled m.name := by
  have names_iff (id : String) : m.Names id ↔
      ∃ v, decodeOctets any m.payload = .ok v ∧ v.member? "eventId" = some (.text id) := by
    constructor
    · rintro ⟨x, v, whole, read, named⟩
      exact ⟨v, decodeOctets_eq_ok_iff.mpr ⟨x, whole, read⟩, (member?_eq_text_iff read).mpr named⟩
    · rintro ⟨v, read, named⟩
      obtain ⟨x, whole, read⟩ := decodeOctets_eq_ok_iff.mp read
      exact ⟨x, v, whole, read, (member?_eq_text_iff read).mp named⟩
  by_cases named : ∃ id, m.Names id
  · obtain ⟨id, names⟩ := named
    obtain ⟨v, read, told⟩ := (names_iff id).mp names
    have called : m.name = id := by simp only [name, read, told]
    exact called ▸ .event names
  · have called : m.name = m.place := by
      unfold name
      split
      · next v read =>
        split
        · next id told => exact absurd ⟨id, (names_iff id).mpr ⟨v, read, told⟩⟩ named
        · rfl
      · rfl
    exact called ▸ .place (not_exists.mp named)

end Message

namespace DeadLetter
variable {d : DeadLetter} {m : Message} {id error errorKind service : String} {tries : Nat}
  {first now : Instant}

/-- A dead letter whose numbers and times have a written form. -/
structure IsSound (d : DeadLetter) : Prop where
  partition : -2 ^ 31 ≤ d.partition ∧ d.partition ≤ 2 ^ 31 - 1
  position : -2 ^ 63 ≤ d.position ∧ d.position ≤ 2 ^ 63 - 1
  retryCount : 0 ≤ d.retryCount ∧ d.retryCount ≤ 2 ^ 32 - 1
  firstFailedAt : d.firstFailedAt.IsReal
  lastFailedAt : d.lastFailedAt.IsReal

theorem IsSound.reader_toJson (sound : d.IsSound) : reader d.toJson.node = .ok d := by
  have read : Record.read fields d.toJson.node =
      .ok (d.messageId, d.sourceTopic, d.partition, d.position, d.key, d.payload, d.error,
        d.errorKind, d.retryCount, d.firstFailedAt, d.lastFailedAt, d.sourceService, ()) := by
    refine (Record.read_members_iff fields _ _).mpr ?_
    have partition := Node.asIntIn_int (by decide) (by decide) sound.partition
    have position := Node.asIntIn_int (by decide) (by decide) sound.position
    have retryCount := Node.asIntIn_int (by decide) (by decide) sound.retryCount
    simp [Record.Reads, fields, Field.Reads, Field.accepts, sound.firstFailedAt.reader_toJson,
      sound.lastFailedAt.reader_toJson]
    exact ⟨partition, position, retryCount⟩
  rw [reader, read]
  rfl

theorem isPlain_toJson (d : DeadLetter) : d.toJson.isPlain = true := by
  cases key : d.key <;>
  simp [toJson, key, Json.optional, isPlain, membersPlain, Timestamp.toJson]

/-- **What is published of a dead letter reads back.** -/
theorem IsSound.decodeOctets_octets (sound : d.IsSound) :
    decodeOctets reader d.octets = .ok d := by
  rw [octets, decodeOctets_render _ _ d.isPlain_toJson, sound.reader_toJson]

theorem isSound_ofMessage (placed : m.IsPlaced) (few : tries < 2 ^ 32)
    (dated : first.inCalendar = true) (dated' : now.inCalendar = true) :
    (ofMessage m id error errorKind tries first now service).IsSound where
  partition := placed.partition
  position := placed.position
  retryCount := by
    simp only [ofMessage]
    omega
  firstFailedAt := Timestamp.isReal_ofInstant dated
  lastFailedAt := Timestamp.isReal_ofInstant dated'

/-- The message that a dead letter says was received. -/
def original (d : DeadLetter) : Message :=
  ⟨d.sourceTopic, d.partition, d.position, d.key, Octets.ofText d.payload⟩

/-- **A dead letter tells the message**, if its payload is a text. -/
theorem original_ofMessage {s : String} (text : Octets.text? m.payload = some s) :
    (ofMessage m id error errorKind tries first now service).original = m := by
  have whole : Octets.ofText (Octets.lossy m.payload) = m.payload := by
    rw [← Octets.ofText_of_text? text, Octets.lossy_ofText]
  simp only [original, ofMessage, whole]

/-- The broker that is there takes what is sent. -/
theorem send_open {b : Broker} (available : b.available = true) (willing : b.refusals = 0)
    (sent : SentMessage) : (b.send sent).1 = .ok () := by
  simp [Broker.send, available, willing]

/-- **Dead letters keep the message.** Every dead letter reads back from what is published of it.
That of a message goes to the topic beside that of the message, under its key or else its name, and
tells its place, its key and, if the payload is a text, all of it. A message that cannot be read
goes by the name that its payload gives to its event, or else by its place. -/
theorem message_kept [EmailCheck] (m : Message) (placed : m.IsPlaced)
    (id error errorKind service : String) {tries : Nat} (few : tries < 2 ^ 32) {first now : Instant}
    (dated : first.inCalendar = true) (dated' : now.inCalendar = true) :
    let letter := ofMessage m id error errorKind tries first now service
    (∀ d : DeadLetter, d.IsSound → decodeOctets reader d.octets = .ok d) ∧
      decodeOctets reader letter.octets = .ok letter ∧
      (∀ (b : Broker) (s : Surroundings), Yields (letter.submit b) s fun answer _ =>
        (b.available = true → b.refusals = 0 → answer.1 = .ok ()) ∧
        ((answer.1 = .ok () ∧ answer.2.log =
            b.log ++ [⟨m.topic ++ ".dlq", m.key.getD id, letter.octets⟩]) ∨
          ((∃ e, answer.1 = .error e) ∧ answer.2.log = b.log))) ∧
      (letter.sourceTopic = m.topic ∧ letter.partition = m.partition ∧
        letter.position = m.position ∧ letter.key = m.key) ∧
      (∀ text, Octets.text? m.payload = some text →
        Octets.ofText letter.payload = m.payload ∧ letter.original = m) ∧
      ∀ e, Incoming.ofMessage m = .error e → ∀ cfg (d d' : OrderDesk), ∃ name first,
        m.IsCalled name ∧
        Yields (Delivery.Phase.reading.step cfg m) d (fun p _ => p = .burying name e 1 first) ∧
        Yields ((Delivery.Phase.burying name e 1 first).step cfg m) d' fun p d'' =>
          p = .done (.ok .deadLettered) → d''.broker.log = d'.broker.log ++
            [(ofMessage m name e.message e.code 1 first d'.around.now cfg.service).message] := by
  intro letter
  have sound : letter.IsSound := isSound_ofMessage placed few dated dated'
  refine ⟨fun d sound => sound.decodeOctets_octets, sound.decodeOctets_octets, fun b s => ?_,
    ⟨rfl, rfl, rfl, rfl⟩, fun text whole => ?_, fun e misread cfg d d' => ?_⟩
  · refine (Delivery.submit_answers letter b s).mono fun answer _ ⟨sent, _⟩ => ?_
    subst sent
    exact ⟨fun available willing => send_open available willing _, b.send_log letter.message⟩
  · have original : letter.original = m := original_ofMessage whole
    exact ⟨congrArg Message.payload original, original⟩
  · refine ⟨m.name, d.around.now, m.isCalled_name, ?_, ?_⟩
    · refine (Delivery.Phase.step_turns cfg m .reading d).mono fun p d₁ turn => ?_
      cases turn with
      | reads read => cases misread.symm.trans read
      | misreads misread' =>
        cases misread.symm.trans misread'
        rfl
      | handles deals | repeats deals | fails deals => cases deals
    · refine (Delivery.Phase.step_turns cfg m _ d').mono fun p d₁ turn buried => ?_
      subst buried
      cases turn with
      | fails deals => cases deals
      | buries shape accepted => rw [accepted, shape]

/-- A message from nowhere in particular, whose payload is JSON, names its event twice and is no
order. -/
theorem odd_message_kept :
    let payload := Octets.ofText "\x7b\"eventId\": \"№ 1\", \"eventId\": \"\\u0022 \\n\"\x7d"
    let m : Message := ⟨EventKind.orderCreated.topic, -1, -2 ^ 63, none, payload⟩
    let letter := ofMessage m "\" \n" "\x01" "POISON" 1 ⟨-1⟩ ⟨1⟩ "orders"
    m.IsPlaced ∧ (Instant.mk (-1)).inCalendar = true ∧ (Instant.mk 1).inCalendar = true ∧
      Incoming.ofMessage m = .error (.shared (.invalid (.undecodable .misspelt))) ∧
      m.name = "\" \n" ∧ decodeOctets reader letter.octets = .ok letter ∧ letter.original = m := by
  intro payload m letter
  have placed : m.IsPlaced := ⟨by decide, by decide⟩
  have dated : (Instant.mk (-1)).inCalendar = true := by decide +kernel
  have dated' : (Instant.mk 1).inCalendar = true := by decide +kernel
  have few : 1 < 2 ^ 32 := by decide
  obtain ⟨-, back, -, -, whole, -⟩ :=
    message_kept m placed "\" \n" "\x01" "POISON" "orders" few dated dated'
  refine ⟨placed, dated, dated', ?_, ?_, back, (whole _ (Octets.text?_ofText _)).2⟩
  · decide +kernel
  · decide +kernel

end DeadLetter
end OrderFlow
