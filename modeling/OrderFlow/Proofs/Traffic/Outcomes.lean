import OrderFlow.Proofs.Traffic.Charging
import OrderFlow.Proofs.Traffic.Deliveries

/-!
What comes of a delivery. `Ends` says what a delivery that is done has done on the whole, and
`Stands` what one that is under way has done so far; every turn of a delivery goes on as it should
(`Stands.turn`). So no message is lost: its event is in the ledger, or a dead letter tells of it, or
the delivery has failed and changed nothing (`Traffic.nothing_lost`).
-/
namespace OrderFlow

variable {_ : EmailCheck}

namespace Happening
variable {h : Happening}

/-- The messages that the broker has accepted. -/
def sent (h : Happening) : List SentMessage :=
  h.later.broker.log.drop h.earlier.broker.log.length

/-- A delivery begins to deal with its event. -/
def isTry (h : Happening) : Bool :=
  match h.before with
  | .delivery _ p => p.isTry
  | _ => false

theorem sent_of_same (same : h.later.broker.log = h.earlier.broker.log) : h.sent = [] := by
  simp [sent, same]

theorem sent_of_grows {letter : SentMessage}
    (grows : h.later.broker.log = h.earlier.broker.log ++ [letter]) : h.sent = [letter] := by
  simp [sent, grows]

end Happening

namespace Delivery

/-- The messages that were accepted in a story. -/
def sentIn (hs : List Happening) : List SentMessage := hs.flatMap (·.sent)

/-- How often a delivery has begun to deal with its event. -/
def triesIn (hs : List Happening) : Nat := (hs.filter (·.isTry)).length

/-- What has gone wrong in a story. -/
def failuresIn [EmailCheck] (hs : List Happening) : List OrderError := hs.filterMap (·.failure?)

/-- If the store fails, it does so before it does anything. Of the calls that a delivery makes only
the one that writes down the end of a payment can fail afterwards. -/
def IsPrompt (hs : List Happening) : Prop :=
  ∀ h ∈ hs, h.earlier.around.IsPrompt .finalizePayment

/-- As long as the store fails before it does anything, the book is left as it is. -/
def Spares (hs : List Happening) : Prop :=
  IsPrompt hs → ∀ h ∈ hs, h.later.book = h.earlier.book

/-- What a delivery has done on the whole that has ended with an answer. -/
def Ends [EmailCheck] (m : Message) (hs : List Happening) (b : OrderBook) :
    Except Failure Handling → Prop
  | .ok .processed | .ok .duplicate =>
    (∃ event, Incoming.ofMessage m = .ok event ∧ b.isProcessed event.eventId = true) ∧
      sentIn hs = []
  | .ok .deadLettered =>
    Spares hs ∧ ∃ (e : OrderError) (letter : DeadLetter),
      (failuresIn hs).getLast? = some e ∧ sentIn hs = [letter.message] ∧
      letter.message.topic = Message.deadLetterTopic m.topic ∧ letter.errorKind = e.code ∧
      letter.retryCount = (failuresIn hs).length ∧
      ((∃ event, Incoming.ofMessage m = .ok event) ∧ letter.retryCount = triesIn hs ∨
        Incoming.ofMessage m = .error e ∧ letter.retryCount = 1 ∧ triesIn hs = 0)
  | .error _ => Spares hs ∧ sentIn hs = []

/-- A delivery deals with an event: so many tries have failed, and `begun` more are under way. -/
structure Deals [EmailCheck] (cfg : Config) (m : Message) (hs : List Happening) (event : Incoming)
    (failures : Failures) (begun : Nat) : Prop where
  read : Incoming.ofMessage m = .ok event
  tries : triesIn hs = failures.count + begun
  failed : (failuresIn hs).length = failures.count
  left : failures.count ≤ cfg.retry.maxRetries
  spares : Spares hs
  silent : sentIn hs = []

/-- What a delivery has done so far that stands in a phase. -/
def Stands [EmailCheck] (cfg : Config) (m : Message) (hs : List Happening) (b : OrderBook) :
    Phase → Prop
  | .reading => triesIn hs = 0 ∧ failuresIn hs = [] ∧ Spares hs ∧ sentIn hs = []
  | .checking event failures => Deals cfg m hs (.orderCreated event) failures 0
  | .entering event failures => Deals cfg m hs (.orderCreated event) failures 1
  | .reconciling event failures => Deals cfg m hs (.paymentCompleted event) failures 0
  | .pausing event failures _ => Deals cfg m hs event failures 0
  | .burying _ e tries _ =>
    Spares hs ∧ sentIn hs = [] ∧ (failuresIn hs).getLast? = some e ∧
      (failuresIn hs).length = tries ∧
      ((∃ event, Incoming.ofMessage m = .ok event) ∧ tries = triesIn hs ∨
        Incoming.ofMessage m = .error e ∧ tries = 1 ∧ triesIn hs = 0)
  | .done r => Ends m hs b r

variable {cfg : Config} {m : Message} {hs : List Happening} {h : Happening} {b b' : OrderBook}
  {p p' : Phase} {d : OrderDesk}

@[simp] theorem sentIn_snoc : sentIn (hs ++ [h]) = sentIn hs ++ h.sent := by simp [sentIn]

@[simp] theorem triesIn_snoc : triesIn (hs ++ [h]) = triesIn hs + if h.isTry then 1 else 0 := by
  cases try_ : h.isTry <;> simp [triesIn, List.filter_append, try_]

@[simp] theorem failuresIn_snoc : failuresIn (hs ++ [h]) = failuresIn hs ++ h.failure?.toList := by
  cases failed : h.failure? <;> simp [failuresIn, failed]

theorem Spares.snoc (spares : Spares hs)
    (same : h.earlier.around.IsPrompt .finalizePayment → h.later.book = h.earlier.book) :
    Spares (hs ++ [h]) := by
  intro prompt h' member
  rcases List.mem_append.mp member with old | new
  · exact spares (fun h'' earlier => prompt h'' (List.mem_append_left _ earlier)) h' old
  · rw [List.mem_singleton.mp new]
    exact same (prompt h (List.mem_append_right _ (List.mem_singleton_self h)))

/-- Something that tells nothing of a delivery. -/
structure IsIdle [EmailCheck] (h : Happening) : Prop where
  isTry : h.isTry = false
  failure : h.failure? = none
  sent : h.sent = []
  book : h.later.book = h.earlier.book

theorem Ends.snoc {r : Except Failure Handling} (ends : Ends m hs b r) (idle : IsIdle h) :
    Ends m (hs ++ [h]) b r := by
  have spares (before : Spares hs) : Spares (hs ++ [h]) := before.snoc fun _ => idle.book
  have tries : triesIn (hs ++ [h]) = triesIn hs := by simp [idle.isTry]
  have failures : failuresIn (hs ++ [h]) = failuresIn hs := by simp [idle.failure]
  have sent : sentIn (hs ++ [h]) = sentIn hs := by simp [idle.sent]
  match r, ends with
  | .ok .processed, ends | .ok .duplicate, ends => exact ⟨ends.1, sent.trans ends.2⟩
  | .error _, ends => exact ⟨spares ends.1, sent.trans ends.2⟩
  | .ok .deadLettered, ⟨before, e, letter, rest⟩ =>
    refine ⟨spares before, e, letter, ?_⟩
    rw [failures, sent, tries]
    exact rest

theorem Ends.later {r : Except Failure Handling} (ends : Ends m hs b r)
    (known : ∀ id, b.isProcessed id = true → b'.isProcessed id = true) : Ends m hs b' r := by
  match r, ends with
  | .ok .processed, ⟨⟨event, read, old⟩, silent⟩ | .ok .duplicate, ⟨⟨event, read, old⟩, silent⟩ =>
    exact ⟨⟨event, read, known _ old⟩, silent⟩
  | .error _, ends => exact ends
  | .ok .deadLettered, ends => exact ends

theorem Stands.later (stands : Stands cfg m hs b p)
    (known : ∀ id, b.isProcessed id = true → b'.isProcessed id = true) :
    Stands cfg m hs b' p := by
  cases p with
  | done r => exact Ends.later stands known
  | _ => exact stands

/-- A delivery that deals with an event has begun a try, or is about to. -/
theorem Stands.deals (stands : Stands cfg m hs b p) {event : Incoming} {failures : Failures}
    (deals : p.deals? = some (event, failures)) :
    ∃ begun, Deals cfg m hs event failures begun ∧ (begun + if p.isTry then 1 else 0) = 1 := by
  cases p with
  | checking | reconciling =>
    cases deals
    exact ⟨0, stands, rfl⟩
  | entering =>
    cases deals
    exact ⟨1, stands, rfl⟩
  | reading | pausing | burying | done => cases deals

/-- The desk on which a delivery has taken a turn. -/
structure Took [EmailCheck] (cfg : Config) (m : Message) (h : Happening) (d : OrderDesk)
    (p p' : Phase) : Prop where
  before : h.before = .delivery m p
  later : h.later = h.earlier.withOrderDesk d
  turn : Turn cfg m h.earlier.orderDesk d p p'

theorem Took.of_actual {cfg : Shop.Config} (actual : h.IsActual cfg)
    (before : h.before = .delivery m p) :
    ∃ p' d, h.after = .delivery m p' ∧ Took cfg.delivery m h d p p' := by
  obtain ⟨p', d, after, later, turn⟩ := actual.turn before
  exact ⟨p', d, after, before, later, turn⟩

namespace Took

theorem isTry (took : Took cfg m h d p p') : h.isTry = p.isTry := by
  rw [Happening.isTry, took.before]

theorem failure (took : Took cfg m h d p p') : h.failure? = p.error? m h.earlier.orderDesk := by
  rw [Happening.failure?, took.before]

theorem book (took : Took cfg m h d p p') : h.later.book = d.book := by
  rw [took.later]
  rfl

theorem log (took : Took cfg m h d p p') : h.later.broker.log = d.broker.log := by
  rw [took.later]
  rfl

theorem silent (took : Took cfg m h d p p') (broker : d.broker = h.earlier.orderDesk.broker) :
    h.sent = [] :=
  Happening.sent_of_same (took.log.trans (congrArg Broker.log broker))

theorem idle (took : Took cfg m h d p p') (aside : h.earlier.orderDesk.Aside d)
    (rests : p.isTry = false) (fine : p.error? m h.earlier.orderDesk = none) : IsIdle h :=
  ⟨took.isTry.trans rests, took.failure.trans fine, took.silent aside.broker,
    took.book.trans aside.book⟩

/-- A delivery that has ended rests. -/
theorem ended {r : Except Failure Handling} (took : Took cfg m h d (.done r) p') :
    p' = .done r ∧ IsIdle h := by
  have turn := took.turn
  cases turn with
  | rests aside => exact ⟨rfl, took.idle aside rfl rfl⟩
  | handles deals | repeats deals | fails deals => cases deals

end Took

theorem Deals.snoc {event : Incoming} {failures : Failures} {begun : Nat}
    (deals : Deals cfg m hs event failures begun) (idle : IsIdle h) :
    Deals cfg m (hs ++ [h]) event failures begun where
  read := deals.read
  tries := by simp [idle.isTry, deals.tries]
  failed := by simp [idle.failure, deals.failed]
  left := deals.left
  spares := deals.spares.snoc fun _ => idle.book
  silent := by simp [idle.sent, deals.silent]

theorem Deals.stands {event : Incoming} {failures : Failures}
    (deals : Deals cfg m hs event failures 0) : Stands cfg m hs b (.trying failures event) := by
  cases event <;> exact deals

theorem Phase.isSafe_of_prompt {s : Surroundings} (prompt : s.IsPrompt .finalizePayment)
    (p : Phase) : p.IsSafe s := by
  cases p <;> first | exact prompt | trivial

/-- After a failed try the event waits for the next one, or a dead letter is to tell of it, or the
delivery has failed as a whole. -/
theorem Deals.fails {event : Incoming} {failures : Failures} {begun : Nat} {e : OrderError}
    (deals : Deals cfg m hs event failures begun) (took : Took cfg m h d p p')
    (counts : (begun + if p.isTry then 1 else 0) = 1)
    (error : p.error? m h.earlier.orderDesk = some e)
    (next : (∃ first wake, failures.count < cfg.retry.maxRetries ∧ e.retryable = true ∧
        p' = .pausing event ⟨failures.count + 1, first⟩ wake) ∨
      (∃ first, p' = .burying event.eventId.text e (failures.count + 1) first) ∨
      p' = .done (.error .overflow))
    (broker : d.broker = h.earlier.orderDesk.broker)
    (unchanged : p.IsSafe h.earlier.around → d.book = h.earlier.book) :
    Stands cfg m (hs ++ [h]) b p' := by
  have failure : h.failure? = some e := took.failure.trans error
  have tries : triesIn (hs ++ [h]) = failures.count + 1 := by
    rw [triesIn_snoc, deals.tries, took.isTry, Nat.add_assoc, counts]
  have failed : failuresIn (hs ++ [h]) = failuresIn hs ++ [e] := by simp [failure]
  have length : (failuresIn (hs ++ [h])).length = failures.count + 1 := by
    simp [failed, deals.failed]
  have spares : Spares (hs ++ [h]) := deals.spares.snoc fun prompt =>
    took.book.trans (unchanged (Phase.isSafe_of_prompt prompt p))
  have silent : sentIn (hs ++ [h]) = [] := by simp [deals.silent, took.silent broker]
  rcases next with ⟨first, wake, more, -, rfl⟩ | ⟨first, rfl⟩ | rfl
  · exact ⟨deals.read, tries, length, more, spares, silent⟩
  · refine ⟨spares, silent, ?_, length, .inl ⟨⟨event, deals.read⟩, tries.symm⟩⟩
    rw [failed, List.getLast?_concat]
  · exact ⟨spares, silent⟩

/-- A message that cannot be read is to go to the dead letters, and nothing was tried. -/
theorem Stands.misreads {e : OrderError} {name : String} {first : Instant}
    (stands : Stands cfg m hs b .reading) (took : Took cfg m h d .reading p')
    (misread : Incoming.ofMessage m = .error e) (aside : h.earlier.orderDesk.Aside d) :
    Stands cfg m (hs ++ [h]) b' (.burying name e 1 first) := by
  obtain ⟨tries, failures, spares, silent⟩ := stands
  have failure : h.failure? = some e :=
    took.failure.trans (by rw [Phase.error?, Phase.answer, misread]; rfl)
  have failed : failuresIn (hs ++ [h]) = [e] := by simp [failures, failure]
  refine ⟨spares.snoc fun _ => took.book.trans aside.book, ?_, by rw [failed]; rfl,
    by rw [failed]; rfl, .inr ⟨misread, rfl, ?_⟩⟩
  · simp [silent, took.silent aside.broker]
  · rw [triesIn_snoc, tries, took.isTry]
    rfl

/-- A try goes on when the event is not known yet. -/
theorem Deals.goesOn {event : OrderCreated} {failures : Failures}
    (deals : Deals cfg m hs (.orderCreated event) failures 0)
    (took : Took cfg m h d (.checking event failures) p')
    (answered : (Phase.checking event failures).error? m h.earlier.orderDesk = none)
    (aside : h.earlier.orderDesk.Aside d) :
    Deals cfg m (hs ++ [h]) (.orderCreated event) failures 1 where
  read := deals.read
  tries := by
    rw [triesIn_snoc, deals.tries, took.isTry]
    rfl
  failed := by simp [took.failure.trans answered, deals.failed]
  left := deals.left
  spares := deals.spares.snoc fun _ => took.book.trans aside.book
  silent := by simp [deals.silent, took.silent aside.broker]

/-- A dead letter that is accepted tells of the last failure and of how many there were. -/
theorem Stands.buries {name : String} {e : OrderError} {tries : Nat} {first : Instant}
    {letter : DeadLetter} (stands : Stands cfg m hs b (.burying name e tries first))
    (took : Took cfg m h d (.burying name e tries first) p')
    (shape : letter = .ofMessage m name e.message e.code tries first h.earlier.orderDesk.around.now
      cfg.service)
    (accepted : d.broker.log = h.earlier.orderDesk.broker.log ++ [letter.message])
    (book : d.book = h.earlier.orderDesk.book) :
    Stands cfg m (hs ++ [h]) b' (.done (.ok .deadLettered)) := by
  obtain ⟨spares, silent, last, length, count⟩ := stands
  have same : triesIn (hs ++ [h]) = triesIn hs := by simp [took.isTry, Phase.isTry]
  have failures : failuresIn (hs ++ [h]) = failuresIn hs := by
    rw [failuresIn_snoc, took.failure]
    exact List.append_nil _
  refine ⟨spares.snoc fun _ => took.book.trans book, e, letter, failures ▸ last,
    ?_, ?_, ?_, ?_, ?_⟩
  · rw [sentIn_snoc, silent, Happening.sent_of_grows (took.log.trans accepted), List.nil_append]
  · rw [shape]
    rfl
  · rw [shape]
    rfl
  · rw [failures, length, shape]
    rfl
  · rw [same, shape]
    rcases count with ⟨read, rfl⟩ | ⟨misread, rfl, untried⟩
    · exact .inl ⟨read, rfl⟩
    · exact .inr ⟨misread, rfl, untried⟩

/-- **A delivery that takes its turn goes on with its story.** -/
theorem Stands.turn (stands : Stands cfg m hs h.earlier.book p) (took : Took cfg m h d p p') :
    Stands cfg m (hs ++ [h]) h.later.book p' := by
  have turn := took.turn
  cases turn with
  | @reads event read aside =>
    obtain ⟨tries, failures, spares, silent⟩ := stands
    have idle : IsIdle h := took.idle aside rfl (by rw [Phase.error?, Phase.answer, read]; rfl)
    have before : Deals cfg m hs event {} 0 :=
      ⟨read, tries, by rw [failures]; rfl, Nat.zero_le _, spares, silent⟩
    exact (before.snoc idle).stands
  | misreads misread aside => exact stands.misreads took misread aside
  | goesOn answered aside =>
    have deals : Deals cfg m hs _ _ 0 := stands
    exact deals.goesOn took answered aside
  | handles deals unknown known broker =>
    obtain ⟨begun, deals, -⟩ := stands.deals deals
    refine ⟨⟨_, deals.read, ?_⟩, by simp [deals.silent, took.silent broker]⟩
    rw [took.book]
    exact known
  | repeats deals known aside =>
    obtain ⟨begun, deals, -⟩ := stands.deals deals
    refine ⟨⟨_, deals.read, ?_⟩, by simp [deals.silent, took.silent aside.broker]⟩
    rw [took.book, aside.book]
    exact known
  | fails deals error next broker unchanged =>
    obtain ⟨begun, deals, counts⟩ := stands.deals deals
    exact deals.fails took counts error next broker unchanged
  | wakes aside =>
    have deals : Deals cfg m hs _ _ 0 := stands
    exact (deals.snoc (took.idle aside rfl rfl)).stands
  | buries shape accepted book => exact stands.buries took shape accepted book
  | unburied refused book =>
    obtain ⟨spares, silent, -⟩ := stands
    refine ⟨spares.snoc fun _ => took.book.trans book, ?_⟩
    rw [sentIn_snoc, silent, Happening.sent_of_same (took.log.trans refused), List.nil_append]
  | rests aside =>
    have idle : IsIdle h := took.idle aside rfl rfl
    rw [idle.book]
    exact Ends.snoc stands idle

/-- A delivery makes no more tries than it has. -/
theorem Stands.bounded (stands : Stands cfg m hs h.earlier.book p) (took : Took cfg m h d p p')
    (bounded : triesIn hs ≤ cfg.retry.maxRetries + 1) :
    triesIn (hs ++ [h]) ≤ cfg.retry.maxRetries + 1 := by
  rw [triesIn_snoc, took.isTry]
  cases p with
  | checking | reconciling =>
    have deals : Deals cfg m hs _ _ 0 := stands
    have left := deals.left
    have tries := deals.tries
    simp only [Phase.isTry, if_true]
    omega
  | reading | entering | pausing | burying | done => exact bounded

end Delivery

end OrderFlow
