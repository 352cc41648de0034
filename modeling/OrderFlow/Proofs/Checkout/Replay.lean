import OrderFlow.Checkout.Draft
import OrderFlow.Proofs.Json.Scalars

/-!
The answer that is kept under a key reads back as the answer that was given
(`KeyRecord.replay_kept`, `Finalized.replay`).
-/
namespace OrderFlow
open Json

variable {_ : EmailCheck}

/-- The answer to a checkout reads back. -/
theorem CheckoutResponse.reader_toJson (r : CheckoutResponse) :
    CheckoutResponse.reader r.toJson.node = .ok r := by
  have read : Record.read fields r.toJson.node =
      .ok (r.orderNumber, r.orderId, r.status, r.message, ()) := by
    refine (Record.read_members_iff fields _ _).mpr ?_
    simp [Record.Reads, fields, Field.Reads, Field.accepts]
  rw [reader, read]
  rfl

/-- The answer that is kept under a key is given again. -/
theorem KeyRecord.replay_kept {r : KeyRecord} {response : CheckoutResponse}
    (status : r.status = 201) (body : r.body = response.toJson.render) : r.replay = .ok ⟨201, response, true⟩ := by
  have plain : response.toJson.isPlain = true := by
    simp [CheckoutResponse.toJson, isPlain, membersPlain, Uuid.toJson]
  have back := decodeText_render CheckoutResponse.reader response.toJson plain
  rw [CheckoutResponse.reader_toJson] at back
  rw [KeyRecord.replay, body]
  simp only [back, status]
  rfl

namespace CheckoutDraft
variable {d : CheckoutDraft} {number : String} {eventId : Uuid} {now storedAt : Instant}
  {final : FinalCheckout}

/-- What a draft becomes with an order number. -/
def become (d : CheckoutDraft) (number : String) (eventId : Uuid) (now storedAt : Instant) :
    FinalCheckout :=
  let response : CheckoutResponse := ⟨number, d.orderId, "PENDING", d.notice⟩
  { event := d.event number eventId now
    posting := .ofOrderCreated (d.event number eventId now)
    outcome := ⟨201, response, false⟩
    record := ⟨d.key, d.fingerprint, 201, response.toJson.render, storedAt,
      storedAt.shift d.keep⟩ }

/-- A draft gets its order number exactly if its event may be trusted and its record can expire. -/
theorem finalize_eq_ok_iff :
    d.finalize number eventId now storedAt = .ok final ↔
      (d.event number eventId now).check = .ok () ∧ (storedAt.shift d.keep).inCalendar = true ∧
        final = d.become number eventId now storedAt := by
  rw [finalize, become]
  cases (d.event number eventId now).check with
  | error _ => simp
  | ok _ => by_cases inside : (storedAt.shift d.keep).inCalendar = true <;> simp [inside, eq_comm]

/-- What a draft that gets its order number becomes. -/
structure Finalized [EmailCheck] (d : CheckoutDraft) (number : String) (eventId : Uuid)
    (now : Instant) (final : FinalCheckout) : Prop where
  event : final.event = d.event number eventId now
  checked : final.event.check = .ok ()
  posting : final.posting = .ofOrderCreated final.event
  outcome : final.outcome = ⟨201, ⟨number, d.orderId, "PENDING", d.notice⟩, false⟩
  record : final.record = ⟨d.key, d.fingerprint, 201, final.outcome.response.toJson.render, now,
    now.shift d.keep⟩

theorem finalize_ok (finalized : d.finalize number eventId now now = .ok final) :
    d.Finalized number eventId now final := by
  obtain ⟨checked, -, rfl⟩ := finalize_eq_ok_iff.mp finalized
  exact ⟨rfl, checked, rfl, rfl, rfl⟩

/-- **The record of a checkout gives its answer again.** -/
theorem Finalized.replay (finalized : d.Finalized number eventId now final) :
    final.record.replay =
      .ok ⟨final.outcome.statusCode, final.outcome.response, true⟩ := by
  have status : final.record.status = 201 := by rw [finalized.record]
  have body : final.record.body = final.outcome.response.toJson.render := by rw [finalized.record]
  rw [KeyRecord.replay_kept status body, finalized.outcome]

end CheckoutDraft

end OrderFlow
