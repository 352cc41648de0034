import OrderFlow.Email
import OrderFlow.Proofs.Checkout.Replay
import OrderFlow.Proofs.Event.Rules
import OrderFlow.Samples

/-!
Which drafts get their order number. A line whose amount is too large, and a sum that is too large,
are first replaced by the greatest amount (`CartLine.subtotal`, `OrderCreated.new`); the check of
the event computes both again and refuses them. So a draft becomes an order exactly if it keeps the
rules and all its amounts can be written, and then the amounts of the order are these.
-/
namespace OrderFlow

/-- A line of a cart that keeps its rules. -/
structure CartLine.IsProper (l : CartLine) : Prop where
  sku : 1 ≤ l.sku.length
  name : 1 ≤ l.name.length
  quantity : 1 ≤ l.quantity.toInt
  price : 0 < l.unitPrice.unscaled

/-- The check of the amounts of a line lets only an amount through that is not a replacement. -/
theorem CartLine.checkAmount_eq_ok_iff {l : CartLine} :
    l.toLineItem.checkAmount = .ok () ↔
      0 < l.unitPrice.unscaled ∧ lineTotal l.unitPrice l.quantity = some l.subtotal := by
  rw [LineItem.checkAmount_eq_ok_iff]
  refine and_congr decide_eq_true_iff ⟨?_, fun total => ⟨_, total, ?_⟩⟩
  · rintro ⟨total, priced, -⟩
    have priced : lineTotal l.unitPrice l.quantity = some total := priced
    rw [subtotal, priced]
    rfl
  · simp [Decimal.sameValue, toLineItem]

namespace CheckoutDraft
variable {d : CheckoutDraft} {number : String} {eventId : Uuid} {now storedAt : Instant}
  {final : FinalCheckout}

/-- The amounts of the lines, none as soon as one is too large. -/
def totals? (d : CheckoutDraft) : Option (List Decimal) :=
  d.lines.mapM fun l => lineTotal l.unitPrice l.quantity

/-- A draft that keeps all rules and whose amounts can be written. -/
structure IsSound [EmailCheck] (d : CheckoutDraft) (number : String) : Prop where
  correlation : 1 ≤ d.correlationId.length
  number : 1 ≤ number.length
  customer : d.customer.IsProper
  nonempty : d.lines ≠ []
  lines : ∀ l ∈ d.lines, l.IsProper
  amounts : ∃ totals total, d.totals? = some totals ∧ Decimal.sum totals = some total

/-- What a draft becomes: its amounts are those that were computed, its row tells of its event, and
its record gives the answer again. -/
structure Finishes (d : CheckoutDraft) (final : FinalCheckout) : Prop where
  lines : d.totals? = some (final.event.items.map (·.subtotal))
  total : Decimal.sum (final.event.items.map (·.subtotal)) = some final.event.subtotal
  id : final.posting.id = final.event.eventId
  order : final.event.orderId = d.orderId ∧ final.posting.aggregateId = d.orderId.text
  topic : final.posting.topic = EventKind.orderCreated.topic
  replay : final.record.replay = .ok { final.outcome with replayed := true }

/-- The amounts can be computed exactly if none of them had to be replaced. -/
theorem totals?_eq_some_iff {totals : List Decimal} :
    d.totals? = some totals ↔
      (∀ l ∈ d.lines, lineTotal l.unitPrice l.quantity = some l.subtotal) ∧
        totals = d.lines.map CartLine.subtotal := by
  unfold totals?
  induction d.lines generalizing totals with
  | nil => simp [eq_comm]
  | cons l lines ih =>
    rw [List.mapM_cons, List.forall_mem_cons, List.map_cons]
    cases total : lineTotal l.unitPrice l.quantity with
    | none => simp
    | some amount =>
      have own : amount = l.subtotal := by rw [CartLine.subtotal, total, Option.getD_some]
      cases later : lines.mapM fun l => lineTotal l.unitPrice l.quantity with
      | none =>
        refine iff_of_false (by simp) fun replaced => ?_
        rw [ih.mpr ⟨replaced.1.2, rfl⟩] at later
        cases later
      | some rest =>
        obtain ⟨others, rfl⟩ := ih.mp later
        rw [and_iff_right ⟨congrArg some own, others⟩]
        simpa [own] using eq_comm

theorem items_event :
    (d.event number eventId now).items.map (·.subtotal) = d.lines.map CartLine.subtotal := by
  rw [event, OrderCreated.new, List.map_map]
  rfl

theorem event_isProper_iff [EmailCheck] :
    (d.event number eventId now).IsProper ↔ 1 ≤ d.correlationId.length ∧ 1 ≤ number.length ∧
      d.customer.IsProper ∧ d.lines ≠ [] ∧ ∀ l ∈ d.lines, l.toLineItem.IsProper := by
  constructor
  · rintro ⟨correlation, named, customer, nonempty, items⟩
    exact ⟨correlation, named, customer, mt List.map_eq_nil_iff.mpr nonempty,
      List.forall_mem_map.mp items⟩
  · rintro ⟨correlation, named, customer, nonempty, items⟩
    exact ⟨correlation, named, customer, mt List.map_eq_nil_iff.mp nonempty,
      List.forall_mem_map.mpr items⟩

/-- An event whose sum can be computed has that sum. -/
theorem total_event {total : Decimal}
    (sum : Decimal.sum (d.lines.map CartLine.subtotal) = some total) :
    (d.event number eventId now).subtotal = total := by
  have subtotal : (d.event number eventId now).subtotal =
      (Decimal.sum ((d.event number eventId now).items.map (·.subtotal))).getD .greatest := rfl
  rw [subtotal, items_event, sum, Option.getD_some]

/-- The event of a draft passes its check exactly if the draft is sound. -/
theorem check_event_iff [EmailCheck] :
    (d.event number eventId now).check = .ok () ↔ d.IsSound number := by
  have lines : (∀ i ∈ (d.event number eventId now).items, i.checkAmount = .ok ()) ↔
      ∀ l ∈ d.lines, 0 < l.unitPrice.unscaled ∧
        lineTotal l.unitPrice l.quantity = some l.subtotal := by
    simp only [event, OrderCreated.new, List.forall_mem_map, CartLine.checkAmount_eq_ok_iff]
  rw [OrderCreated.check_eq_ok_iff, event_isProper_iff, lines, items_event]
  constructor
  · rintro ⟨⟨correlation, named, customer, nonempty, items⟩, -, amounts, total, sum, -⟩
    refine ⟨correlation, named, customer, nonempty, fun l member => ?_, _, total,
      totals?_eq_some_iff.mpr ⟨fun l member => (amounts l member).2, rfl⟩, sum⟩
    have rules := items l member
    exact ⟨rules.sku, rules.name, rules.quantity, (amounts l member).1⟩
  · rintro ⟨correlation, named, customer, nonempty, lines, totals, total, computed, sum⟩
    obtain ⟨amounts, rfl⟩ := totals?_eq_some_iff.mp computed
    refine ⟨⟨correlation, named, customer, nonempty, fun l member => ?_⟩, rfl,
      fun l member => ⟨(lines l member).price, amounts l member⟩, total, sum, ?_⟩
    · exact ⟨(lines l member).sku, (lines l member).name, (lines l member).quantity⟩
    · simp [total_event sum, Decimal.sameValue]

/-- **A draft becomes an order exactly if it is sound, and then with the amounts that were
computed.** -/
theorem finalize_iff_sound [EmailCheck] (d : CheckoutDraft) (number : String) (eventId : Uuid)
    (now storedAt : Instant) (inside : (storedAt.shift d.keep).inCalendar = true) :
    ((∃ final, d.finalize number eventId now storedAt = .ok final) ↔ d.IsSound number) ∧
      ∀ final, d.finalize number eventId now storedAt = .ok final → d.Finishes final := by
  refine ⟨⟨?_, fun sound => ?_⟩, fun final finalized => ?_⟩
  · rintro ⟨final, finalized⟩
    exact check_event_iff.mp (finalize_eq_ok_iff.mp finalized).1
  · exact ⟨_, finalize_eq_ok_iff.mpr ⟨check_event_iff.mpr sound, inside, rfl⟩⟩
  · obtain ⟨checked, -, rfl⟩ := finalize_eq_ok_iff.mp finalized
    obtain ⟨totals, total, computed, sum⟩ := (check_event_iff.mp checked).amounts
    obtain ⟨-, rfl⟩ := totals?_eq_some_iff.mp computed
    have items : (d.event number eventId now).items.map (·.subtotal) =
        d.lines.map CartLine.subtotal := items_event
    exact {
      lines := items ▸ computed
      total := by
        show Decimal.sum ((d.event number eventId now).items.map _) =
          some (d.event number eventId now).subtotal
        rw [items, total_event sum, sum]
      id := rfl
      order := ⟨rfl, rfl⟩
      topic := rfl
      replay := KeyRecord.replay_kept rfl rfl }

/-- A cart with two keyboards and three stickers becomes an order. -/
theorem two_keyboards_finalized :
    let keyboards : CartLine := ⟨.ofNat 3, "SKU-001", "Mechanical Keyboard", 2, Samples.price⟩
    let stickers : CartLine := ⟨.ofNat 5, "SKU-002", "Sticker", 3, ⟨5, 1, by decide, by decide⟩⟩
    let total : Decimal := ⟨6148, 2, by decide, by decide⟩
    let d : CheckoutDraft := ⟨"key-1", "", .ofNat 2, "checkout-1", .ofNat 4, Samples.customer,
      [keyboards, stickers], 60000000000⟩
    ∃ final, d.finalize Samples.number (.ofNat 1) ⟨0⟩ ⟨0⟩ = .ok final ∧ d.Finishes final ∧
      final.event.subtotal = total := by
  intro keyboards stickers total d
  let amounts : List Decimal := [Samples.amount, ⟨15, 1, by decide, by decide⟩]
  have totals : d.totals? = some amounts := by decide +kernel
  have sum : Decimal.sum amounts = some total := by decide +kernel
  have sound : d.IsSound Samples.number := by
    refine ⟨by decide, by decide, Customer.violations_eq_nil_iff.mp (by decide +kernel),
      by simp [d], ?_, amounts, total, totals, sum⟩
    rintro l (_ | ⟨_, _ | ⟨_, ⟨⟩⟩⟩) <;> exact ⟨by decide, by decide, by decide, by decide⟩
  obtain ⟨accepts, finishes⟩ :=
    finalize_iff_sound d Samples.number (.ofNat 1) ⟨0⟩ ⟨0⟩ (by decide +kernel)
  obtain ⟨final, finalized⟩ := accepts.mpr sound
  have finished := finishes final finalized
  have same : amounts = final.event.items.map (·.subtotal) :=
    Option.some.inj (totals.symm.trans finished.lines)
  exact ⟨final, finalized, finished, Option.some.inj (finished.total.symm.trans (same ▸ sum))⟩

end CheckoutDraft

end OrderFlow
