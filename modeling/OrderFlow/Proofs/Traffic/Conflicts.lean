import OrderFlow.Email
import OrderFlow.Proofs.Checkout.Fingerprints
import OrderFlow.Proofs.Traffic.Sales

/-!
Conflicts under a key. Every record that has ever counted is that of a sale
(`Traffic.run_recalled`), so whoever comes upon one gets the answer of that sale if he asks for
exactly what was sold, and is refused otherwise (`Traffic.conflicts_exact`).
-/
namespace OrderFlow.Traffic
open Checkout
variable {cfg : Shop.Config} {t t' : Traffic} {e : Event}

/-- Whatever was done, the records that counted then are those of sales. -/
def IsRecalled (t : Traffic) : Prop :=
  ∀ h ∈ t.past, ∀ key record, h.earlier.ledger.find? key h.earlier.around.now = some record →
    ∃ s ∈ t.sales, Text.trim s.key = key ∧ record.IsOf s

theorem IsRecalled.step [EmailCheck] {before : Ledger} (recalled : t.IsRecalled)
    (served : t.IsServed cfg before) (step : Step cfg t e t') : t'.IsRecalled := by
  cases step with
  | rests | begins | ends | weather => exact recalled
  | @acts doer d d' later under ready move =>
    intro h member key record found
    rw [sales_acted]
    rcases List.mem_append.mp member with old | new
    · obtain ⟨s, sold, made⟩ := recalled h old key record found
      exact ⟨s, List.mem_append_left _ sold, made⟩
    · rw [List.mem_singleton.mp new] at found
      obtain ⟨s, sold, made⟩ := exists_sale served.recalls served.sound found
      exact ⟨s, List.mem_append_left _ sold, made⟩

theorem run_recalled [EmailCheck] (cfg : Shop.Config) (around : Surroundings)
    (stock : Assoc Uuid Int) (sequences : Assoc CalendarDay Int) (events : List Event) :
    ((opening around stock sequences).run cfg events).IsRecalled := by
  refine (run_keeps_all (P := fun t => t.IsServed cfg { stock, sequences } ∧ t.IsRecalled)
    (opening_isSound around stock sequences) ?_ ?_).2
  · exact ⟨run_isServed cfg around stock sequences [], fun _ member => nomatch member⟩
  · rintro t e t' - ⟨served, recalled⟩ step
    exact ⟨served.step step, recalled.step served step⟩

/-- **Conflicts are detected exactly.** The canonical text of a request reads back, so that no two
requests have the same. Every record that counts was left behind by a sale, and unless digests
collide a request that comes under its key is answered as the sale was if it asks for the same, and
refused if it does not, however its body is written: at a service that is left to itself, and as
well if others come in between. -/
theorem conflicts_exact [EmailCheck] (cfg : Shop.Config) (around : Surroundings)
    (stock : Assoc Uuid Int) (sequences : Assoc CalendarDay Int) (events : List Event) :
    let t := (opening around stock sequences).run cfg events
    (∀ r : CheckoutRequest, Json.decodeText CheckoutRequest.reader r.canonical = .ok r) ∧
      (∀ r r' : CheckoutRequest, r.canonical = r'.canonical ↔ r = r') ∧
      (∀ key record, t.shop.ledger.find? key t.shop.around.now = some record →
        t.shop.around.IsCalm .findRecord → ∃ s ∈ t.sales, Text.trim s.key = key ∧
          ∀ q rawKey r, keyOf q = .ok rawKey → checkKey rawKey = .ok key →
            Checkout.orderOf q = .ok r → r.check = .ok () → ¬ r.Collides s.request →
            Yields (handle cfg.keep q) t.shop.checkoutDesk fun result d =>
              result = s.answerTo r ∧ d.ledger = t.shop.ledger) ∧
      ∀ h ∈ t.past, ∀ key r p o record, h.before = .checkout key r p → p.seeks? = some o →
        h.earlier.around.IsCalm .findRecord →
        h.earlier.ledger.find? (Text.trim key) h.earlier.around.now = some record →
        ∃ s ∈ t.sales, Text.trim s.key = Text.trim key ∧ (¬ r.Collides s.request →
          h.after = .checkout key r (.done (s.answerTo r))) := by
  intro t
  have served : t.IsServed cfg { stock, sequences } :=
    run_isServed cfg around stock sequences events
  have continuous : t.IsContinuous cfg := run_isContinuous cfg around stock sequences events
  refine ⟨CheckoutRequest.decodeText_canonical, fun _ _ => CheckoutRequest.canonical_inj, ?_, ?_⟩
  · intro key record found calm
    obtain ⟨s, sold, rfl, made⟩ := exists_sale served.recalls served.sound found
    refine ⟨s, sold, rfl, fun q rawKey r under checked asks fine apart => ?_⟩
    rw [← replay_exact made apart]
    exact handle_shown (d := t.shop.checkoutDesk) under checked asks fine calm found
  · intro h member key r p o record calls seeks calm found
    obtain ⟨s, sold, under, made⟩ :=
      run_recalled cfg around stock sequences events h member _ record found
    refine ⟨s, sold, under, fun apart => ?_⟩
    have move := continuous.moved h member
    have serves := (served.past h member).1
    rw [calls] at move serves
    rw [move.shown serves seeks calm found, ← under, replay_exact made apart]

/-- The octets of a text are read character by character. -/
theorem decodeOctets_ofList {α : Type} (read : Json.Reader α) (cs : List Char) :
    Json.decodeOctets read (Octets.ofText (String.ofList cs)) =
      Json.decode read (cs.map some) := by
  rw [Json.decodeOctets, Octets.symbols_ofText, String.toList_ofList]

set_option maxRecDepth 4000 in
/-- A cart is checked out, and then again with a body in another order, with an escape, an
identifier without hyphens in capitals, and a member that nobody asks for. -/
theorem rewritten_body_replayed :
    let cfg : Shop.Config := ⟨60000000000, .zero, default, default, default, default⟩
    let request : CheckoutRequest :=
      ⟨.ofNat 0xab, ⟨"A", "a@b.c", "", ⟨"Market St", "Ulm", "CA", "9", "US"⟩⟩⟩
    let line : CartLine := ⟨default, "SKU-001", "Mechanical Keyboard", 2, Samples.price⟩
    let events : List Event :=
      [.change { now := ⟨1⟩, carts := [(.ofNat 0xab, [line])] }, .call (.checkOut " k" request),
        .advance 0, .advance 0, .advance 0]
    let t := (opening { now := ⟨0⟩ } [(default, 5)] []).run cfg events
    let q : Http.Request :=
      { target := "/api/v1/checkout"
        headers := [("Content-Type", "application/json"), ("Idempotency-Key", "k ")]
        body := Octets.ofText "\x7b\"more\": [1], \"customer\": \x7b\"phone\": \"\",
          \"shippingAddress\": \x7b\"country\": \"US\", \"state\": \"C\\u0041\", \"city\": \"Ulm\",
          \"street\": \"Market St\", \"postalCode\": \"9\"\x7d, \"name\": \"A\", \"email\": \"a@b.c\"\x7d,
          \"cartId\": \"000000000000000000000000000000AB\"\x7d" }
    Checkout.orderOf q = .ok request ∧ ∃ s ∈ t.sales, s.request = request ∧
      Yields (handle cfg.keep q) t.shop.checkoutDesk fun result d =>
        result = .ok { s.outcome with replayed := true } ∧ d.ledger = t.shop.ledger := by
  intro cfg request line events t q
  have read : Json.decodeOctets CheckoutRequest.reader q.body = .ok request :=
    (decodeOctets_ofList CheckoutRequest.reader _).trans (by decide +kernel)
  have asks : Checkout.orderOf q = .ok request := by
    rw [Checkout.orderOf, if_pos (by decide +kernel), read]
  have under : keyOf q = .ok "k" := by decide +kernel
  have fine : request.check = .ok () := by decide +kernel
  have asked : ∀ s ∈ t.sales, s.request = request := by decide +kernel
  obtain ⟨record, found⟩ : ∃ record, t.shop.ledger.find? "k" t.shop.around.now = some record :=
    Option.isSome_iff_exists.mp (by decide +kernel)
  have calm : t.shop.around.IsCalm .findRecord := by
    unfold Surroundings.IsCalm
    decide +kernel
  have of_run : run cfg (opening { now := ⟨0⟩ } [(default, 5)] []) events = t := rfl
  have detects := (conflicts_exact cfg { now := ⟨0⟩ } [(default, 5)] [] events).2.2.1 "k" record
  rw [of_run] at detects
  obtain ⟨s, sold, -, answers⟩ := detects found calm
  have same := asked s sold
  have apart : ¬ request.Collides s.request := fun collides => collides.1 (same ▸ rfl)
  have answered := answers q "k" request under (by decide +kernel) asks fine apart
  rw [Sale.answerTo, if_pos same.symm] at answered
  exact ⟨asks, s, sold, same, answered⟩

end OrderFlow.Traffic
