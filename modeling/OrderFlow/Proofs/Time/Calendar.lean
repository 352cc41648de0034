import OrderFlow.Proofs.Time.Timestamp

/-!
The day that a point in time belongs to is a day that the calendar has (`of?_ofNumber`). It is
computed from where it lies in an era of 400 years, and the leap days are what makes that delicate:
a year has a 366th day only where the calendar has a leap day for it (`Falls`). So the clock shows
nothing but times that can be written down and read back (`Timestamp.isReal_ofInstant`).
-/
namespace OrderFlow

namespace CalendarDay

/-- Where the `n`-th day of an era lies, whose years begin in March: `c` centuries, `q` cycles of
four years, `y` years and `d` days are over by then. -/
structure Falls (n c q y d : Int) : Prop where
  sum : n = 36524 * c + 1461 * q + 365 * y + d
  centuries : 0 ≤ c ∧ c ≤ 3
  cycles : 0 ≤ q ∧ q ≤ 24
  years : 0 ≤ y ∧ y ≤ 3
  days : 0 ≤ d ∧ d ≤ 365
  /-- The last year of a cycle ends with a leap day, but for the last cycle of a century; that of
  the last century has it too. -/
  leap : d = 365 → y = 3 ∧ (q = 24 → c = 3)

theorem exists_falls {n : Int} (low : 0 ≤ n) (high : n < 146097) : ∃ c q y d, Falls n c q y d := by
  -- On a leap day the years of a cycle would count one too many, and on the last day of an era the
  -- centuries as well.
  by_cases last : n = 146096
  · subst last
    refine ⟨3, 24, 3, 365, ?_⟩
    constructor <;> decide
  · have century : n / 36524 ≤ 3 := by omega
    by_cases leap : n % 36524 % 1461 = 1460
    · refine ⟨n / 36524, n % 36524 / 1461, 3, 365, ?_⟩
      constructor <;> omega
    · refine ⟨n / 36524, n % 36524 / 1461, n % 36524 % 1461 / 365, n % 36524 % 1461 % 365, ?_⟩
      constructor <;> omega

namespace Falls
variable {n c q y d : Int} (falls : Falls n c q y d)
include falls

/-- What remains without the leap days counts the years. -/
theorem yearOfEra :
    (n - n / 1460 + n / 36524 - n / 146096) / 365 = 100 * c + 4 * q + y := by
  obtain ⟨sum, centuries, cycles, years, days, leap⟩ := falls
  by_cases last : n = 146096
  · obtain ⟨rfl, rfl, rfl⟩ : c = 3 ∧ q = 24 ∧ y = 3 := by omega
    subst last
    decide
  · have : n / 146096 = 0 := by omega
    have : n / 36524 = c := by omega
    have : n / 1460 = 25 * c + q + (24 * c + q + 365 * y + d) / 1460 := by omega
    omega

theorem fourths : (100 * c + 4 * q + y) / 4 = 25 * c + q := by
  have years := falls.years
  omega

theorem hundredths : (100 * c + 4 * q + y) / 100 = c := by
  have cycles := falls.cycles
  have years := falls.years
  omega

theorem dayOfYear :
    n - (365 * (100 * c + 4 * q + y) + (100 * c + 4 * q + y) / 4 - (100 * c + 4 * q + y) / 100) =
      d := by
  rw [falls.fourths, falls.hundredths, falls.sum]
  omega

theorem isLeap (last : d = 365) (era : Int) :
    isLeap (100 * c + 4 * q + y + era * 400 + 1) = true := by
  obtain ⟨rfl, cycle⟩ := falls.leap last
  obtain ⟨-, centuries, cycles, -, -, -⟩ := falls
  have fourth : (100 * c + 4 * q + 3 + era * 400 + 1) % 4 = 0 := by omega
  have century : (100 * c + 4 * q + 3 + era * 400 + 1) % 100 = 0 → q = 24 := by omega
  have fourHundred : q = 24 → c = 3 → (100 * c + 4 * q + 3 + era * 400 + 1) % 400 = 0 := by omega
  simp only [CalendarDay.isLeap, fourth, decide_true, Bool.true_and, Bool.or_eq_true,
    decide_eq_true_eq]
  by_cases hundredth : (100 * c + 4 * q + 3 + era * 400 + 1) % 100 = 0
  · exact .inr (fourHundred (century hundredth) (cycle (century hundredth)))
  · exact .inl hundredth

end Falls

/-- The month of a day, of which so many days of its year are over. -/
def monthOf (d : Nat) : Nat :=
  if (5 * d + 2) / 153 < 10 then (5 * d + 2) / 153 + 3 else (5 * d + 2) / 153 - 9

/-- The number that the day has in its month. -/
def dayOf (d : Nat) : Nat := d - (153 * ((5 * d + 2) / 153) + 2) / 5 + 1

/-- Every day has room in its month, and the last 60 days of such a year lie in the next year. -/
theorem dayOf_fits (d : Fin 366) :
    1 ≤ dayOf d ∧ dayOf d ≤ daysIn (if d.val = 365 then 4 else 1) (monthOf d) ∧
      (monthOf d ≤ 2 ↔ 306 ≤ d.val) := by
  revert d
  decide +kernel

/-- February is the only month that a leap day makes longer. -/
theorem daysIn_le {year : Int} {leap : Prop} [Decidable leap] (is : leap → isLeap year = true)
    (month : Nat) : daysIn (if leap then 4 else 1) month ≤ daysIn year month := by
  unfold daysIn
  split
  · by_cases leap : leap
    · rw [is leap, if_pos leap]
      exact Nat.le_refl _
    · rw [if_neg leap]
      cases isLeap year <;> decide
  all_goals exact Nat.le_refl _

theorem monthOf_eq (d : Nat) :
    (if (5 * (d : Int) + 2) / 153 < 10 then (5 * (d : Int) + 2) / 153 + 3
      else (5 * (d : Int) + 2) / 153 - 9) = (monthOf d : Nat) := by
  have shifted : (5 * (d : Int) + 2) / 153 = ((5 * d + 2) / 153 : Nat) := by push_cast; rfl
  rw [shifted, monthOf]
  split <;> split <;> omega

theorem dayOf_eq (d : Nat) :
    ((d : Int) - (153 * ((5 * (d : Int) + 2) / 153) + 2) / 5 + 1).toNat = dayOf d := by
  have shifted : (5 * (d : Int) + 2) / 153 = ((5 * d + 2) / 153 : Nat) := by push_cast; rfl
  have before : 153 * ((5 * d + 2) / 153) ≤ 5 * d + 2 := Nat.mul_div_le ..
  rw [shifted, dayOf]
  generalize (5 * d + 2) / 153 = k at before
  omega

/-- The day of the calendar that a number stands for, found by how many years that begin in March
are over by then, and how many days of the next one. -/
theorem ofNumber_eq (n : Int) :
    ∃ (years : Int) (d : Fin 366),
      n + 719468 = 365 * years + years / 4 - years / 100 + years / 400 + d.val ∧
      (d.val = 365 → isLeap (years + 1) = true) ∧
      ofNumber n = ⟨if monthOf d ≤ 2 then years + 1 else years, monthOf d, dayOf d⟩ := by
  have parts := Int.mul_ediv_add_emod (n + 719468) 146097
  obtain ⟨c, q, y, d, falls⟩ := exists_falls (n := (n + 719468) % 146097) (by omega) (by omega)
  obtain ⟨d, rfl⟩ := Int.eq_ofNat_of_zero_le falls.days.1
  have short : d < 366 := by
    have := falls.days
    omega
  refine ⟨100 * c + 4 * q + y + (n + 719468) / 146097 * 400, ⟨d, short⟩, ?_, fun last => ?_, ?_⟩
  · generalize (n + 719468) / 146097 = era at parts
    have fourths := falls.fourths
    have hundredths := falls.hundredths
    have sum := falls.sum
    have centuries := falls.centuries
    have : (100 * c + 4 * q + y + era * 400) / 4 = 25 * c + q + 100 * era := by omega
    have : (100 * c + 4 * q + y + era * 400) / 100 = c + 4 * era := by omega
    have : (100 * c + 4 * q + y + era * 400) / 400 = era := by omega
    dsimp only
    omega
  · exact falls.isLeap (congrArg _ last) _
  · simp only [ofNumber, falls.yearOfEra, falls.dayOfYear, monthOf_eq, dayOf_eq, Int.toNat_natCast,
      Nat.cast_le_ofNat]

/-- **Every number stands for a day that the calendar has.** -/
theorem of?_ofNumber (n : Int) :
    of? (ofNumber n).year (ofNumber n).month (ofNumber n).day = some (ofNumber n) := by
  obtain ⟨years, d, -, leap, day⟩ := ofNumber_eq n
  obtain ⟨first, last, turns⟩ := dayOf_fits d
  -- The 366th day lies in February, so in the year that the leap day belongs to.
  have late : (if monthOf d ≤ 2 then years + 1 else years) = years + 1 ∨ d.val ≠ 365 := by
    by_cases late : monthOf d ≤ 2
    · exact .inl (if_pos late)
    · exact .inr fun end_ => late (turns.mpr (by omega))
  rw [day]
  refine if_pos ⟨first, last.trans (daysIn_le (fun end_ => ?_) _)⟩
  rw [late.resolve_right fun other => other end_]
  exact leap end_

/-- More years have more days. -/
theorem days_mono {a b : Int} (le : a ≤ b) :
    365 * a + a / 4 - a / 100 + a / 400 ≤ 365 * b + b / 4 - b / 100 + b / 400 := by
  have fourths : a / 4 ≤ b / 4 := Int.ediv_le_ediv (by decide) le
  have fourHundredths : a / 400 ≤ b / 400 := Int.ediv_le_ediv (by decide) le
  have hundredths : b / 100 ≤ a / 100 + (b - a) := by omega
  omega

/-- A day between two New Year's days lies in the years between them. -/
theorem ofNumber_year {n : Int} (first : number ⟨-262143, 1, 1⟩ ≤ n)
    (last : n < number ⟨262143, 1, 1⟩) :
    -262143 ≤ (ofNumber n).year ∧ (ofNumber n).year ≤ 262142 := by
  obtain ⟨years, d, at_, -, day⟩ := ofNumber_eq n
  have turns := (dayOf_fits d).2.2
  have first : -96465292 ≤ n := first
  have last : n < 95026237 := last
  have short := d.isLt
  have notBefore : -262144 ≤ years := by
    by_contra before
    have := days_mono (show years ≤ -262145 by omega)
    norm_num at this
    omega
  have notAfter : years ≤ 262142 := by
    by_contra after
    have := days_mono (show 262143 ≤ years by omega)
    norm_num at this
    omega
  rw [day]
  dsimp only
  split
  · next late =>
    have late := turns.mp late
    refine ⟨by omega, ?_⟩
    by_contra after
    obtain rfl : years = 262142 := by omega
    norm_num at at_
    omega
  · next early =>
    have early := mt turns.mpr early
    refine ⟨?_, notAfter⟩
    by_contra before
    obtain rfl : years = -262144 := by omega
    norm_num at at_
    omega

end CalendarDay

/-- **The clock shows times that can be written down and read back.** -/
theorem Timestamp.isReal_ofInstant {now : Instant} (inside : now.inCalendar = true) :
    (ofInstant now).IsReal := by
  have within : Instant.earliest ≤ now ∧ now ≤ Instant.latest := by
    simpa [Instant.inCalendar] using inside
  obtain ⟨first, last⟩ : CalendarDay.number ⟨-262143, 1, 1⟩ * 86400000000000 ≤ now.nanos ∧
      now.nanos ≤ CalendarDay.number ⟨262143, 1, 1⟩ * 86400000000000 - 1 := within
  have ofDay : (now.nanos % 86400000000000).toNat < 86400000000000 := by omega
  refine ⟨CalendarDay.ofNumber_year (by omega) (by omega), CalendarDay.of?_ofNumber _,
    ?_, ?_, ?_, ?_⟩
  all_goals
    simp only [ofInstant]
    generalize (now.nanos % 86400000000000).toNat = nanos at ofDay
    omega

end OrderFlow
