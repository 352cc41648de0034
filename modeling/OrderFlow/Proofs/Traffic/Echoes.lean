import OrderFlow.Email
import OrderFlow.Proofs.Order.Announcements
import OrderFlow.Proofs.Payment.Quiet
import OrderFlow.Proofs.Traffic.Origins
import OrderFlow.Proofs.Traffic.Recovery

/-!
The order service listens to the topic on which it announces the ends of payments, so each of its
announcements comes back to it. None of them is news, and none is refused: whatever goes on in
traffic, the outcomes that are about to be settled are complete (`Doing.IsCandid`), so the book
posts nothing but events in order, and notes each of them as it posts it (`run_isCandid`). A message
that carries such a row is a duplicate to the service and changes nothing (`echoes_known`).
-/
namespace OrderFlow

/-- An event about an order that is received has passed its check. -/
theorem Incoming.check_of_received [EmailCheck] {m : Message} {e : OrderCreated}
    (received : ofMessage m = .ok (.orderCreated e)) : e.check = .ok () := by
  rw [ofMessage, if_pos (topic_of_orderCreated received)] at received
  unfold accept at received
  cases read : m.read OrderCreated.reader with
  | error _ => simp [read, Except.map] at received
  | ok e' =>
    simp only [read] at received
    split at received
    · cases received
    · next fine =>
      cases received
      exact fine

namespace Payment
variable {cfg : Config} {d d' : OrderDesk}

/-- An attempt that is about to settle nothing but what is complete. -/
def Phase.IsCandid (p : Phase) : Prop := ∀ o, p.settles? = some o → o.IsComplete

theorem Phase.isCandid_of_isFresh (p : Phase) (fresh : p.isFresh = true) : p.IsCandid := by
  cases p with
  | reading => exact fun _ settles => nomatch settles
  | _ => cases fresh

/-- Every outcome that an attempt comes to is complete. -/
theorem Move.candid {p p' : Phase} (move : Move cfg d d' p p') (candid : p.IsCandid) :
    p'.IsCandid := by
  intro o settles
  cases move with
  | expires | refused | givesUp | confirmed =>
    cases settles
    exact rfl
  | waitsToSettle mine _ =>
    cases settles
    exact candid _ mine
  | quits | finds | prepares | claims | calls | hangs | pauses | breaksOff | settled | failsToSettle
  | rests => cases settles

theorem Sweep.Move.candid {w w' : Sweep} (move : Sweep.Move cfg d d' w w')
    (candid : ∀ p, w.attempt? = some p → p.IsCandid) : ∀ p, w'.attempt? = some p → p.IsCandid := by
  cases move with
  | attempts under running move =>
    intro q now
    cases (Sweep.attempt?_with under _).symm.trans now
    exact move.candid (candid _ under)
  | turns ended idle aside => exact fun p under => p.isCandid_of_isFresh (idle p under)

end Payment

namespace Delivery
variable {_ : EmailCheck} {m : Message} {d d' : OrderDesk} {p p' : Phase}

/-- A delivery that is about to enter nothing but what has passed its check. -/
def Phase.IsCandid [EmailCheck] (p : Phase) : Prop :=
  ∀ e, p.event? = some (.orderCreated e) → e.check = .ok ()

theorem Move.candid (move : Move m d d' p p') (candid : p.IsCandid) : p'.IsCandid := by
  intro e deals
  cases move with
  | reads read =>
    rw [Phase.event?_trying] at deals
    cases deals
    exact Incoming.check_of_received read
  | goesOn => exact candid e deals
  | fails _ next => exact candid e (next _ deals)
  | failsToReconcile next => cases next _ deals
  | wakes =>
    rw [Phase.event?_trying] at deals
    exact candid e deals
  | misreads | knows | enters | repeats | reconciles | buries | rests => cases deals

end Delivery

/-- Something of which nothing comes that has to be announced and cannot be. -/
def Doing.IsCandid [EmailCheck] : Doing → Prop
  | .delivery _ p => p.IsCandid
  | .attempt p => p.IsCandid
  | .sweep w => ∀ p, w.attempt? = some p → p.IsCandid
  | .applying o => o.publish = true → o.IsComplete
  | _ => True

namespace Doing
variable {_ : EmailCheck} {cfg : Shop.Config} {s s' : Shop} {d d' : Doing}

theorem Move.candid (move : d.Move cfg s d' s') (candid : d.IsCandid) : d'.IsCandid := by
  cases move with
  | delivery move => exact Delivery.Move.candid move candid
  | attempt move => exact Payment.Move.candid move candid
  | sweep move => exact Payment.Sweep.Move.candid move candid
  | _ => trivial

/-- What is about to be announced is complete. -/
theorem IsCandid.outcome (candid : d.IsCandid) {o : PaymentOutcome} (settles : d.outcome? = some o)
    (publish : o.publish = true) : o.IsComplete := by
  cases d with
  | attempt p => exact candid o settles
  | sweep w =>
    obtain ⟨p, under, settles⟩ := Option.bind_eq_some_iff.mp settles
    exact candid p under o settles
  | delivery m p =>
    cases p <;> cases settles
    cases publish
  | applying o' =>
    cases settles
    exact candid publish
  | _ => cases settles

theorem IsCandid.entry (candid : d.IsCandid) {e : OrderCreated} (enters : d.entry? = some e) :
    e.check = .ok () := by
  cases d with
  | delivery m p => exact candid e (Delivery.Phase.event?_of_entry enters)
  | _ => cases enters

end Doing

/-- The clock shows times of the calendar, and outcomes that are handed in from outside are complete
if they are to be announced. -/
def Event.IsCandid : Event → Prop
  | .change w => w.now.inCalendar = true
  | .call (.apply o) => o.publish = true → o.IsComplete
  | _ => True

namespace Traffic
variable {_ : EmailCheck} {cfg : Shop.Config} {t t' : Traffic} {e : Event}

/-- Traffic in which whatever is announced can be received again, and is known. -/
structure IsCandid [EmailCheck] (t : Traffic) : Prop where
  inside : t.shop.around.now.inCalendar = true
  doings : ∀ d ∈ t.doings, d.IsCandid
  book : t.shop.book.IsCandid

theorem IsCandid.acts (candid : t.IsCandid) (sound : t.IsSound) {doer : Nat} {d d' : Doing}
    {later : Shop} (under : t.doings[doer]? = some d) (move : d.Move cfg t.shop d' later) :
    (t.acted doer d d' later).IsCandid := by
  have mine := candid.doings d (List.mem_of_getElem? under)
  refine ⟨?_, fun f member => ?_, ?_⟩
  · show later.around.now.inCalendar = true
    rw [move.follows.now]
    exact candid.inside
  · rcases mem_doings_acted member with old | rfl | ⟨p, task, rfl⟩
    · exact candid.doings f old
    · exact move.candid mine
    · obtain ⟨id, rfl⟩ := sound.dispatched move task
      exact Payment.Phase.isCandid_of_isFresh _ rfl
  · exact candid.book.change move.changes candid.inside (fun _ => mine.outcome) fun _ => mine.entry

theorem IsCandid.step (candid : t.IsCandid) (sound : t.IsSound) (event : e.IsCandid)
    (step : Step cfg t e t') : t'.IsCandid := by
  cases step with
  | rests => exact candid
  | begins c =>
    refine ⟨candid.inside, forall_begun candid.doings ?_, candid.book⟩
    cases c with
    | apply o => exact event
    | recover => exact fun p under => nomatch under
    | deliver m => exact fun e deals => nomatch deals
    | attempt purpose id => exact Payment.Phase.isCandid_of_isFresh _ rfl
    | _ => trivial
  | ends doer => exact ⟨candid.inside, forall_ended candid.doings trivial doer, candid.book⟩
  | weather w => exact ⟨event, candid.doings, candid.book⟩
  | acts under ready move => exact candid.acts sound under move

/-- **The book knows whatever it announces**, and could read it. -/
theorem run_isCandid (cfg : Shop.Config) {around : Surroundings} (stock : Assoc Uuid Int)
    (sequences : Assoc CalendarDay Int) {events : List Event}
    (inside : around.now.inCalendar = true) (candid : ∀ e ∈ events, e.IsCandid) :
    ((opening around stock sequences).run cfg events).IsCandid := by
  refine run_keeps (Q := fun _ e => e.IsCandid) (opening_isSound around stock sequences)
    ⟨inside, (fun _ member => nomatch member), (fun _ _ found => nomatch found),
      (fun _ _ found => nomatch found), fun _ posted => nomatch posted⟩ (along_of_forall candid) ?_
  intro t e t' sound kept event step
  exact kept.step sound event step

end Traffic

/-! ## Deliveries of what is known -/

/-- An outcome whose event is known changes nothing. -/
theorem OrderDesk.complete_known {d : OrderDesk} {o : PaymentOutcome} (quiet : d.around.IsQuiet)
    (known : d.book.isProcessed o.eventId = true) :
    Yields (complete o) d fun r d' => r = .ok .duplicate ∧ d' = d := by
  have applied (now : Instant) : d.book.finalize o now = .ok (.duplicate, d.book) := by
    rw [OrderBook.finalize, if_pos known]
  have settled : Yields (finalize o) d fun r d' => r = .ok .duplicate ∧ d' = d := by
    refine (lift_mishap_quiet .finalizePayment quiet).bind ?_
    rintro _ d' ⟨rfl, same⟩
    rw [same]
    refine .seen (Yields.bind (P := fun _ d' => d' = d) rfl ?_)
    rintro now d' same
    rw [same]
    simp only [applied]
    exact ⟨rfl, rfl⟩
  refine settled.bind ?_
  rintro _ _ ⟨rfl, rfl⟩
  exact .returned ⟨rfl, rfl⟩

namespace Shop
variable {_ : EmailCheck} {cfg : Config} {s : Shop} {m : Message} {event : PaymentCompleted}

/-- What leaves the desk of the order service as it is leaves the shop as it is. -/
theorem atOrders_unchanged {α : Type} {f : StateM OrderDesk α} {a : α}
    (yields : Yields f s.orderDesk fun b d => b = a ∧ d = s.orderDesk) :
    Yields (atOrders f) s fun b s' => b = a ∧ s' = s := by
  refine (atOrders_yields yields).mono ?_
  rintro b _ ⟨d, rfl, answer, rfl⟩
  exact ⟨answer, by simp [withOrderDesk, orderDesk]⟩

/-- A phase that need not be waited for. -/
theorem follow_now {φ : Type} {until? : φ → Option Instant} {isDone : φ → Bool}
    {step : φ → StateM OrderDesk φ} {p : φ} {fuel : Nat} {Q : φ → Shop → Prop}
    (idle : s.tasks = []) (running : isDone p = false) (ready : until? p = none)
    (rest : Yields (atOrders (step p)) s fun p' s' =>
      Yields (follow cfg until? isDone step fuel p') s' Q) :
    Yields (follow cfg until? isDone step (fuel + 1) p) s Q := by
  refine follow_succ idle running fun now waited => ?_
  rcases waited with rfl | ⟨wake, waits⟩
  · exact rest
  · rw [ready] at waits
    cases waits

/-- **The end of a payment that is known is a duplicate**, and nothing but a meter shows that it
came. -/
theorem deliver_known (idle : s.tasks = []) (quiet : s.around.IsQuiet)
    (received : Incoming.ofMessage m = .ok (.paymentCompleted event))
    (known : s.book.isProcessed event.eventId = true) :
    Yields (deliver cfg m) s fun r s' =>
      r = .ok .duplicate ∧ ∃ meters, s' = { s with around := { s.around with meters } } := by
  have reads : Yields (Delivery.Phase.reading.step cfg.delivery m) s.orderDesk fun p' d =>
      p' = .reconciling event {} ∧ d = s.orderDesk := by
    simp only [Delivery.Phase.step, received]
    exact .returned ⟨rfl, rfl⟩
  have reconciles : Yields ((Delivery.Phase.reconciling event {}).step cfg.delivery m) s.orderDesk
      fun p' d => p' = .done (.ok .duplicate) ∧ d = s.orderDesk := by
    refine (OrderDesk.complete_known (o := .ofEvent event) quiet known).bind ?_
    rintro _ _ ⟨rfl, same⟩
    exact .returned ⟨rfl, same⟩
  have followed (fuel : Nat) : Yields (follow cfg Delivery.Phase.until? Delivery.Phase.isDone
      (·.step cfg.delivery m) (fuel + 3) .reading) s fun p s' =>
        p = .done (.ok .duplicate) ∧ s' = s := by
    refine follow_now idle rfl rfl ((atOrders_unchanged reads).mono ?_)
    rintro _ _ ⟨rfl, rfl⟩
    refine follow_now idle rfl rfl ((atOrders_unchanged reconciles).mono ?_)
    rintro _ _ ⟨rfl, rfl⟩
    exact .returned ⟨rfl, rfl⟩
  unfold deliver
  refine (followed (Delivery.triesLeft cfg.delivery {} + 2)).bind ?_
  rintro _ _ ⟨rfl, rfl⟩
  exact ⟨rfl, _, rfl⟩

/-- Delivers a message in a weather. -/
def deliverIn [EmailCheck] (cfg : Config) (w : Weather) (m : Message) :
    StateM Shop (Except Failure Delivery.Handling) := do
  modify w.over
  deliver cfg m

theorem deliverIn_known {w : Weather} (idle : s.tasks = []) (quiet : w.mishaps = [])
    (received : Incoming.ofMessage m = .ok (.paymentCompleted event))
    (known : s.book.isProcessed event.eventId = true) :
    Yields (deliverIn cfg w m) s fun r s' => r = .ok .duplicate ∧ s'.tasks = [] ∧
      s'.book = s.book ∧ s'.broker.log = s.broker.log := by
  refine .changed ((deliver_known (s := w.over s) idle quiet received known).mono ?_)
  rintro r _ ⟨answer, meters, rfl⟩
  exact ⟨answer, idle, rfl, rfl⟩

/-- However often, and in whatever order. -/
theorem deliverAll_known {echoes : List (Weather × Message)} (idle : s.tasks = [])
    (known : ∀ echo ∈ echoes, echo.1.mishaps = [] ∧ ∃ event,
      Incoming.ofMessage echo.2 = .ok (.paymentCompleted event) ∧
        s.book.isProcessed event.eventId = true) :
    Yields (echoes.mapM fun echo => deliverIn cfg echo.1 echo.2) s fun answers s' =>
      answers = echoes.map (fun _ => .ok .duplicate) ∧ s'.book = s.book ∧
        s'.broker.log = s.broker.log := by
  induction echoes generalizing s with
  | nil => exact .returned ⟨rfl, rfl, rfl⟩
  | cons echo echoes ih =>
    obtain ⟨⟨quiet, event, received, first⟩, rest⟩ := List.forall_mem_cons.mp known
    rw [List.mapM_cons]
    refine (deliverIn_known idle quiet received first).bind ?_
    rintro _ s' ⟨rfl, idle, book, log⟩
    -- The book is still the same, so it still knows what the other messages carry.
    refine (ih idle (book ▸ rest)).bind ?_
    rintro _ s'' ⟨rfl, book', log'⟩
    exact .returned ⟨rfl, book'.trans book, log'.trans log⟩

end Shop

namespace Traffic

/-- **Whatever the service announces it knows already.** After any run, let messages come in that
carry rows of the service's own outbox, whatever has become of the rows, in any order and as often
as anybody likes, each under any key and at any time at which the store answers: every one of them
is a duplicate, the book stays what it is, and no dead letter is sent. -/
theorem echoes_known [EmailCheck] (cfg : Shop.Config) (around : Surroundings)
    (stock : Assoc Uuid Int) (sequences : Assoc CalendarDay Int) (events : List Event)
    (inside : around.now.inCalendar = true) (candid : ∀ e ∈ events, e.IsCandid) :
    let t := (opening around stock sequences).run cfg events
    ∀ echoes : List (Weather × Message),
      (∀ echo ∈ echoes, echo.1.mishaps = [] ∧
        ∃ r ∈ t.shop.book.outbox.rows, Incoming.Carries echo.2 r) →
      Yields (echoes.mapM fun echo => Shop.deliverIn cfg echo.1 echo.2) t.shop fun answers later =>
        answers = echoes.map (fun _ => .ok .duplicate) ∧ later.book = t.shop.book ∧
          later.broker.log = t.shop.broker.log := by
  intro t echoes mine
  have kept : t.IsCandid := run_isCandid cfg stock sequences inside candid
  have sound : t.IsSound := (opening_isSound around stock sequences).run events
  refine Shop.deliverAll_known sound.tasks fun echo member => ?_
  obtain ⟨quiet, r, row, carries⟩ := mine echo member
  exact ⟨quiet, (kept.book.posted _ (List.mem_map_of_mem row)).received carries⟩

/-- The payment of an order that has come in is attempted and settled. -/
def paying : List Event :=
  [.advance 0, .advance 0, .advance 1, .advance 1, .advance 1, .advance 1, .advance 1, .advance 1]

/-- The shop after all that. -/
def paid : Traffic :=
  (opening { now := ⟨0⟩ } [] []).run minutely
    (.call (.deliver placedMessage) :: .advance 0 :: paying)

theorem paid_eq : paid = (arrived { now := ⟨0⟩ } placedMessage placed).run minutely paying := by
  rw [paid, run_arrived _ _ _ received_placed]

/-- The announcement of a payment comes in twice, days apart. -/
theorem announcement_heard_twice :
    ∃ r ∈ paid.shop.book.outbox.rows,
      let m : Message := ⟨r.message.topic, 0, 0, some r.message.key, r.message.payload⟩
      Yields ([({ now := .ofMillis 5000 }, m), ({ now := .ofMillis 864000000 }, m)].mapM
          fun echo : Weather × Message => Shop.deliverIn minutely echo.1 echo.2) paid.shop
        fun answers later => answers = [.ok .duplicate, .ok .duplicate] ∧
          later.book = paid.shop.book ∧ later.broker.log = paid.shop.broker.log := by
  have announced : (!paid.shop.book.outbox.rows.isEmpty) = true := by
    rw [paid_eq]
    decide +kernel
  obtain ⟨r, row⟩ := List.exists_mem_of_ne_nil paid.shop.book.outbox.rows
    (by simpa using announced)
  have candid : ∀ e ∈ Event.call (.deliver placedMessage) :: .advance 0 :: paying, e.IsCandid := by
    simp [paying, Event.IsCandid]
  have heard := echoes_known minutely { now := ⟨0⟩ } [] [] _ (by decide) candid
  rw [← paid] at heard
  refine ⟨r, row, heard _ fun echo member => ?_⟩
  have carried : echo.1.mishaps = [] ∧ echo.2.topic = r.message.topic ∧
      echo.2.payload = r.message.payload := by
    simp only [List.mem_cons, List.not_mem_nil, or_false] at member
    rcases member with rfl | rfl <;> exact ⟨rfl, rfl, rfl⟩
  exact ⟨carried.1, r, row, carried.2.1, carried.2.2⟩

end Traffic

end OrderFlow
