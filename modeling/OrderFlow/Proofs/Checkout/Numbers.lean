import OrderFlow.Checkout.Draft
import OrderFlow.Proofs.Time.Calendar

/-!
Order numbers tell orders apart: the text of a number gives away both the day and the place within
the day (`orderNumber_inj`). Month, day and place take up a fixed room each, so that what is left in
front of them is the year, however many digits it has.
-/
namespace OrderFlow
open Text

namespace CalendarDay

/-- Month and day have two digits at most. -/
def IsShort (d : CalendarDay) : Prop := d.month < 100 ∧ d.day < 100

theorem isShort_ofNumber (n : Int) : (ofNumber n).IsShort := isShort_of? (of?_ofNumber n)

/-- The text of a year tells which it is, since it reads back. -/
theorem yearText_inj {y y' : Int} (same : yearText y = yearText y') : y = y' := by
  have read := Timestamp.year?_yearText y (c := '-') rfl []
  rw [same, Timestamp.year?_yearText y' rfl] at read
  cases read
  rfl

/-- The compact form of a day tells which it is. -/
theorem compact_inj {d d' : CalendarDay} (short : d.IsShort) (short' : d'.IsShort)
    (same : d.compact = d'.compact) : d = d' := by
  have room {n : Nat} (small : n < 100) : (padded 2 n).length = 2 :=
    length_padded (by decide) small
  obtain ⟨front, days⟩ := List.append_inj' same (by rw [room short.2, room short'.2])
  obtain ⟨years, months⟩ := List.append_inj' front (by rw [room short.1, room short'.1])
  cases d
  cases d'
  cases yearText_inj years
  cases padded_inj months
  cases padded_inj days
  rfl

end CalendarDay

theorem Instant.isShort_day (t : Instant) : t.day.IsShort := CalendarDay.isShort_ofNumber _

/-- **The text of an order number tells the day and the place within the day.** -/
theorem orderNumber_inj {d d' : CalendarDay} {n n' : Nat} (short : d.IsShort) (short' : d'.IsShort)
    (within : n ≤ 999) (within' : n' ≤ 999) (same : orderNumber d n = orderNumber d' n') :
    d = d' ∧ n = n' := by
  have room {k : Nat} (small : k ≤ 999) : (padded 3 k).length = 3 :=
    length_padded (by decide) (by omega)
  have text (d : CalendarDay) (k : Nat) :
      (orderNumber d k).toList = "ORD-".toList ++ (d.compact ++ ("-".toList ++ padded 3 k)) := by
    have whole : ¬ (k : Int) < 0 := by omega
    simp [orderNumber, whole]
  have same := congrArg String.toList same
  rw [text, text] at same
  have same := List.append_cancel_left same
  obtain ⟨days, places⟩ := List.append_inj' same (by simp [room within, room within'])
  exact ⟨CalendarDay.compact_inj short short' days, padded_inj (List.append_cancel_left places)⟩

example : orderNumber ⟨2025, 3, 9⟩ 7 = "ORD-20250309-007" := by cbv

end OrderFlow
