import OrderFlow.Event.OrderCreated

/-!
The rules of an order's event and of its parts, as conditions. No rule is broken exactly if they
hold (`violations_eq_nil_iff`), and the whole check passes exactly if moreover the event is of its
own kind and its amounts pass theirs (`check_eq_ok_iff`).
-/
namespace OrderFlow

variable {_ : EmailCheck}

namespace Violation
variable {path message s : String} {least most : Nat}

@[simp] theorem require_eq_nil_iff {holds : Bool} :
    require path message holds = [] ↔ holds = true := by
  simp [require]

@[simp] theorem within_eq_nil_iff {vs : List Violation} : within path vs = [] ↔ vs = [] :=
  List.map_eq_nil_iff

@[simp] theorem length_eq_nil_iff :
    length path message s least none = [] ↔ least ≤ s.length := by
  simp [length]

@[simp] theorem length_upTo_eq_nil_iff :
    length path message s least (some most) = [] ↔ least ≤ s.length ∧ s.length ≤ most := by
  simp [length]

end Violation

/-- An address that keeps its rules. -/
structure Address.IsProper (a : Address) : Prop where
  street : 1 ≤ a.street.length ∧ a.street.length ≤ 255
  city : 1 ≤ a.city.length ∧ a.city.length ≤ 100
  state : 1 ≤ a.state.length ∧ a.state.length ≤ 100
  postalCode : 1 ≤ a.postalCode.length ∧ a.postalCode.length ≤ 20
  country : 1 ≤ a.country.length ∧ a.country.length ≤ 100

theorem Address.violations_eq_nil_iff {a : Address} : a.violations = [] ↔ a.IsProper := by
  simp only [violations, List.append_eq_nil_iff, Violation.length_upTo_eq_nil_iff]
  constructor
  · rintro ⟨⟨⟨⟨street, city⟩, state⟩, postalCode⟩, country⟩
    exact ⟨street, city, state, postalCode, country⟩
  · rintro ⟨street, city, state, postalCode, country⟩
    exact ⟨⟨⟨⟨street, city⟩, state⟩, postalCode⟩, country⟩

/-- A customer who keeps the rules. -/
structure Customer.IsProper [EmailCheck] (c : Customer) : Prop where
  name : 1 ≤ c.name.length ∧ c.name.length ≤ 200
  email : EmailCheck.accepts c.email = true
  phone : c.phone.length ≤ 50
  shippingAddress : c.shippingAddress.IsProper

theorem Customer.violations_eq_nil_iff {c : Customer} : c.violations = [] ↔ c.IsProper := by
  simp only [violations, List.append_eq_nil_iff, Violation.length_upTo_eq_nil_iff,
    Violation.require_eq_nil_iff, Violation.within_eq_nil_iff, Address.violations_eq_nil_iff]
  constructor
  · rintro ⟨⟨⟨name, email⟩, phone⟩, address⟩
    exact ⟨name, email, phone.2, address⟩
  · rintro ⟨name, email, phone, address⟩
    exact ⟨⟨⟨name, email⟩, Nat.zero_le _, phone⟩, address⟩

namespace LineItem

/-- A line that keeps its rules, whatever its amounts. -/
structure IsProper (i : LineItem) : Prop where
  sku : 1 ≤ i.sku.length
  name : 1 ≤ i.name.length
  quantity : 1 ≤ i.quantity.toInt

theorem violations_eq_nil_iff {i : LineItem} : i.violations = [] ↔ i.IsProper := by
  simp only [violations, List.append_eq_nil_iff, Violation.length_eq_nil_iff,
    Violation.require_eq_nil_iff, decide_eq_true_eq]
  constructor
  · rintro ⟨⟨sku, name⟩, quantity⟩
    exact ⟨sku, name, quantity⟩
  · rintro ⟨sku, name, quantity⟩
    exact ⟨⟨sku, name⟩, quantity⟩

/-- The check of the amounts of a line. -/
theorem checkAmount_eq_ok_iff {i : LineItem} :
    i.checkAmount = .ok () ↔ i.price.isPositive = true ∧
      ∃ total, lineTotal i.price i.quantity = some total ∧ total.sameValue i.subtotal = true := by
  unfold checkAmount
  by_cases positive : i.price.isPositive = true
  · cases lineTotal i.price i.quantity with
    | none => simp [positive]
    | some total => simp [positive]
  · simp [positive]

theorem forM_checkAmount_eq_ok_iff {items : List LineItem} :
    items.forM checkAmount = .ok () ↔ ∀ i ∈ items, i.checkAmount = .ok () := by
  induction items with
  | nil => simp [pure, Except.pure]
  | cons i items ih =>
    rw [List.forall_mem_cons, ← ih]
    show (i.checkAmount >>= fun _ => items.forM checkAmount) = .ok () ↔ _
    cases i.checkAmount with
    | error _ => simp [bind, Except.bind]
    | ok _ => simp [bind, Except.bind]

end LineItem

namespace OrderCreated

/-- An event that keeps the rules of its fields. -/
structure IsProper [EmailCheck] (e : OrderCreated) : Prop where
  correlation : 1 ≤ e.correlationId.length
  number : 1 ≤ e.orderNumber.length
  customer : e.customer.IsProper
  nonempty : e.items ≠ []
  items : ∀ i ∈ e.items, i.IsProper

theorem itemViolations_eq_nil_iff {items : List LineItem} {n : Nat} :
    itemViolations n items = [] ↔ ∀ i ∈ items, i.IsProper := by
  induction items generalizing n with
  | nil => simp [itemViolations]
  | cons i items ih =>
    rw [itemViolations, List.append_eq_nil_iff, Violation.within_eq_nil_iff,
      LineItem.violations_eq_nil_iff, ih, List.forall_mem_cons]

theorem violations_eq_nil_iff {e : OrderCreated} : e.violations = [] ↔ e.IsProper := by
  simp only [violations, List.append_eq_nil_iff, Violation.length_eq_nil_iff,
    Violation.require_eq_nil_iff, Violation.within_eq_nil_iff, Customer.violations_eq_nil_iff,
    itemViolations_eq_nil_iff, Bool.not_eq_true', List.isEmpty_eq_false_iff]
  constructor
  · rintro ⟨⟨⟨⟨correlation, number⟩, customer⟩, nonempty⟩, items⟩
    exact ⟨correlation, number, customer, nonempty, items⟩
  · rintro ⟨correlation, number, customer, nonempty, items⟩
    exact ⟨⟨⟨⟨correlation, number⟩, customer⟩, nonempty⟩, items⟩

/-- **What it takes to pass the check.** -/
theorem check_eq_ok_iff {e : OrderCreated} :
    e.check = .ok () ↔ e.IsProper ∧ e.kind = .orderCreated ∧
      (∀ i ∈ e.items, i.checkAmount = .ok ()) ∧
      ∃ total, Decimal.sum (e.items.map (·.subtotal)) = some total ∧
        total.sameValue e.subtotal = true := by
  rw [← violations_eq_nil_iff, ← LineItem.forM_checkAmount_eq_ok_iff, check]
  by_cases rules : e.violations = []
  · by_cases kind : e.kind = .orderCreated
    · simp only [rules, kind, bind, Except.bind]
      cases e.items.forM LineItem.checkAmount with
      | error _ => simp
      | ok _ =>
        cases Decimal.sum (e.items.map (·.subtotal)) with
        | none => simp [throw, throwThe, MonadExceptOf.throw]
        | some total => simp [pure, Except.pure, throw, throwThe, MonadExceptOf.throw]
    · simp [rules, kind, bind, Except.bind, throw, throwThe, MonadExceptOf.throw]
  · simp [rules, bind, Except.bind, throw, throwThe, MonadExceptOf.throw]

end OrderCreated

end OrderFlow
