import OrderFlow.Checkout.Site
import OrderFlow.Proofs.Checkout.Sales

/-!
Requests and their fingerprints. The canonical text of a request reads back as the request, so
different requests have different texts (`CheckoutRequest.canonical_inj`), and a record answers the
request that it was made for and refuses every other, unless their digests collide
(`Checkout.replay_exact`). A call that finds a record is answered from it (`Checkout.handle_shown`),
and what it asks for is what its body reads as, however that is written.
-/
namespace OrderFlow
open Json

variable {_ : EmailCheck}

/-! ## The canonical text -/

/-- An address reads back. -/
theorem Address.reader_toJson (a : Address) : Address.reader a.toJson.node = .ok a := by
  have read : Record.read fields a.toJson.node =
      .ok (a.street, a.city, a.state, a.postalCode, a.country, ()) := by
    refine (Record.read_members_iff fields _ _).mpr ?_
    simp [Record.Reads, fields, Field.Reads, Field.accepts]
  rw [reader, read]
  rfl

/-- A customer reads back. -/
theorem Customer.reader_toJson (c : Customer) : Customer.reader c.toJson.node = .ok c := by
  have read : Record.read fields c.toJson.node =
      .ok (c.name, c.email, c.phone, c.shippingAddress, ()) := by
    refine (Record.read_members_iff fields _ _).mpr ?_
    simp [Record.Reads, fields, Field.Reads, Field.accepts, Address.reader_toJson]
  rw [reader, read]
  rfl

namespace CheckoutRequest
variable {r r' : CheckoutRequest}

theorem reader_toJson (r : CheckoutRequest) : reader r.toJson.node = .ok r := by
  have read : Record.read fields r.toJson.node = .ok (r.cartId, r.customer, ()) := by
    refine (Record.read_members_iff fields _ _).mpr ?_
    simp [Record.Reads, fields, Field.Reads, Field.accepts, Customer.reader_toJson]
  rw [reader, read]
  rfl

/-- **The canonical text of a request reads back.** -/
theorem decodeText_canonical (r : CheckoutRequest) : decodeText reader r.canonical = .ok r := by
  have plain : r.toJson.isPlain = true := by
    simp [toJson, Customer.toJson, Address.toJson, Uuid.toJson, isPlain, membersPlain]
  rw [canonical, decodeText_render _ _ plain, reader_toJson]

/-- **Different requests have different canonical texts.** -/
theorem canonical_inj : r.canonical = r'.canonical ↔ r = r' := by
  refine ⟨fun same => ?_, congrArg canonical⟩
  have back := r.decodeText_canonical
  rw [same, decodeText_canonical] at back
  exact (Except.ok.inj back).symm

/-- Two requests of different texts that have one digest all the same. -/
def Collides (r r' : CheckoutRequest) : Prop :=
  r.canonical ≠ r'.canonical ∧ r.fingerprint = r'.fingerprint

/-- Unless digests collide, fingerprints tell requests apart. -/
theorem fingerprint_eq_iff (apart : ¬ r.Collides r') : r.fingerprint = r'.fingerprint ↔ r = r' := by
  refine ⟨fun same => ?_, congrArg fingerprint⟩
  by_contra other
  exact apart ⟨fun text => other (canonical_inj.mp text), same⟩

end CheckoutRequest

/-! ## Answers from a record -/

/-- What a sale answers to a request under its key: the same again to its own, and a refusal to any
other. -/
def Sale.answerTo (s : Sale) (r : CheckoutRequest) : Except CheckoutError CheckoutOutcome :=
  if r = s.request then .ok { s.outcome with replayed := true }
  else .error (.shared (.keyReused (Text.trim s.key)))

namespace Checkout
variable {keep : Int} {key rawKey : String} {r : CheckoutRequest} {s : Sale} {record : KeyRecord}
  {d : CheckoutDesk}

/-- **A record answers its own request and refuses every other.** -/
theorem replay_exact (made : record.IsOf s) (apart : ¬ r.Collides s.request) :
    replay (Text.trim s.key) r.fingerprint record = s.answerTo r := by
  rw [replay, made.fingerprint, made.replay, Sale.answerTo]
  exact ite_congr (propext (eq_comm.trans (CheckoutRequest.fingerprint_eq_iff apart)))
    (fun _ => rfl) fun _ => rfl

/-- A request in order, under a key that counts, looks for a record first. -/
theorem begin_checked (checked : checkKey rawKey = .ok key) (fine : r.check = .ok ()) :
    begin rawKey r = .seeking ⟨key, r.fingerprint, r⟩ := by
  simp only [begin, checked, fine]

/-- A call that finds a record is answered from it. -/
theorem finish_shown (o : Order) (calm : d.around.IsCalm .findRecord)
    (found : d.ledger.find? o.key d.around.now = some record) :
    Yields ((Phase.seeking o).finish keep) d fun result d' =>
      result = replay o.key o.fingerprint record ∧ d'.ledger = d.ledger := by
  have shown : Yields ((Phase.seeking o).step keep) d fun p d' =>
      p = .done (replay o.key o.fingerprint record) ∧ d'.ledger = d.ledger := by
    refine (findRecord_yields o.key d).bind fun answer d' ⟨aside, _, seen⟩ => ?_
    rw [seen calm, found]
    exact .returned ⟨rfl, aside.ledger⟩
  -- A call that is done stays so for the phases that are left.
  refine shown.bind ?_
  rintro _ d' ⟨rfl, same⟩
  exact .returned ⟨rfl, same⟩

/-- **A request that finds a record under its key is answered from it**, whatever its body looks
like. -/
theorem handle_shown {q : Http.Request} (under : keyOf q = .ok rawKey)
    (checked : checkKey rawKey = .ok key) (asks : orderOf q = .ok r) (fine : r.check = .ok ())
    (calm : d.around.IsCalm .findRecord)
    (found : d.ledger.find? key d.around.now = some record) :
    Yields (handle keep q) d fun result d' =>
      result = replay key r.fingerprint record ∧ d'.ledger = d.ledger := by
  simp only [handle, under, asks, call, begin_checked checked fine]
  refine (finish_shown ⟨key, r.fingerprint, r⟩ calm found).bind ?_
  rintro _ d' ⟨rfl, same⟩
  refine (lift_aside (Surroundings.meter_yields _ d'.around)).bind fun _ d'' aside => ?_
  exact .returned ⟨rfl, aside.ledger.trans same⟩

end Checkout

end OrderFlow
