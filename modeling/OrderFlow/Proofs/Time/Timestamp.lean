import Mathlib.Data.List.TakeDrop
import Mathlib.Data.List.TakeWhile
import OrderFlow.Json.Scalars
import OrderFlow.Proofs.Json.RoundTrip

/-!
A time reads back from its text, to the nanosecond (`IsReal.parse?_text`), whatever year it lies in.
The reader takes looser forms as well, so each piece of the text has a lemma on what is read there,
whatever follows.
-/
namespace OrderFlow
open Text

namespace Text
variable {width n : Nat}

theorem not_isBlank_of_isDigit {c : Char} (digit : c.isDigit = true) : isBlank c = false := by
  obtain ⟨low, high⟩ : 48 ≤ c.toNat ∧ c.toNat ≤ 57 := by
    simpa [Char.isDigit, UInt32.le_iff_toNat_le] using digit
  have other (d : Char) (far : d.toNat < 48 ∨ 57 < d.toNat) : ¬ c = d := by
    rintro rfl
    omega
  have above (d : Char) (far : 57 < d.toNat) : ¬ d ≤ c := fun le => by
    have : d.toNat ≤ c.toNat := le
    omega
  have below (d : Char) (far : d.toNat < 48) : ¬ c ≤ d := fun le => by
    have : c.toNat ≤ d.toNat := le
    omega
  simp [isBlank, other, above, below]

/-- A number in some room begins with a digit. -/
theorem padded_eq_cons (room : 0 < width) (fits : n < 10 ^ width) :
    ∃ c cs, padded width n = c :: cs ∧ c.isDigit = true := by
  have length := length_padded room fits
  obtain ⟨c, cs, shape⟩ := List.exists_cons_of_length_pos (length.symm ▸ room)
  exact ⟨c, cs, shape, isDigit_of_mem_padded (shape ▸ List.mem_cons_self)⟩

theorem dropBlank_cons {c : Char} (visible : isBlank c = false) (cs : List Char) :
    dropBlank (c :: cs) = c :: cs := by
  simp [dropBlank, visible]

theorem dropBlank_padded (room : 0 < width) (fits : n < 10 ^ width) (rest : List Char) :
    dropBlank (padded width n ++ rest) = padded width n ++ rest := by
  obtain ⟨c, cs, shape, digit⟩ := padded_eq_cons room fits
  rw [shape]
  exact dropBlank_cons (not_isBlank_of_isDigit digit) _

/-- The run of digits at the front is a number if no digit follows it. -/
theorem spanDigits_padded {c : Char} (other : c.isDigit = false) (rest : List Char) :
    spanDigits (padded width n ++ c :: rest) = (padded width n, c :: rest) := by
  have digits : ∀ d ∈ padded width n, d.isDigit = true := fun _ => isDigit_of_mem_padded
  rw [spanDigits, List.span_eq_takeWhile_dropWhile, List.takeWhile_append_of_pos digits,
    List.dropWhile_append_of_pos digits]
  simp [other]

end Text

/-- Months and days have two digits at most. -/
theorem CalendarDay.isShort_of? {year : Int} {month day : Nat} {d : CalendarDay}
    (real : CalendarDay.of? year month day = some d) : month < 100 ∧ day < 100 := by
  have days : 1 ≤ day ∧ day ≤ daysIn year month := by
    by_contra none
    simp [of?, none] at real
  obtain ⟨least, most⟩ := days
  unfold daysIn at most
  split at most
  · split at most <;> omega
  all_goals omega

namespace Timestamp
variable {width n : Nat}

/-- A number that fills the room of the reader is read. -/
theorem number?_padded (room : 0 < width) (fits : n < 10 ^ width) (rest : List Char) :
    number? width (padded width n ++ rest) = some (n, rest) := by
  have length := length_padded room fits
  have digits : (padded width n).takeWhile Char.isDigit = padded width n := by
    rw [List.takeWhile_eq_self_iff]
    exact fun _ => isDigit_of_mem_padded
  have some_ : padded width n ≠ [] := by
    rw [← List.length_pos_iff, length]
    exact room
  rw [number?, List.take_left' length, digits]
  simp only [if_neg some_, value_padded, List.drop_left]

theorem field?_padded (fits : n < 100) (rest : List Char) :
    field? (padded 2 n ++ rest) = some (n, rest) := by
  rw [field?, dropBlank_padded (by decide) fits, number?_padded (by decide) fits]

theorem year?_padded (fits : n < 10000) (rest : List Char) :
    year? (padded 4 n ++ rest) = some ((n : Int), rest) := by
  have read : number? 4 (padded 4 n ++ rest) = some (n, rest) :=
    number?_padded (by decide) fits rest
  obtain ⟨c, cs, shape, digit⟩ : ∃ c cs, padded 4 n = c :: cs ∧ c.isDigit = true :=
    padded_eq_cons (by decide) fits
  rw [year?, dropBlank_padded (by decide) fits]
  rw [shape, List.cons_append] at read ⊢
  split
  · next minus =>
    rw [(List.cons.inj minus).1] at digit
    cases digit
  · next plus =>
    rw [(List.cons.inj plus).1] at digit
    cases digit
  · rw [read, Option.map_some]

/-- Behind a sign, all digits up to what ends them are read. -/
theorem number?_all {c : Char} (other : c.isDigit = false) (rest : List Char) :
    number? (padded 4 n ++ c :: rest).length (padded 4 n ++ c :: rest) = some (n, c :: rest) := by
  have digits : (padded 4 n ++ c :: rest).takeWhile Char.isDigit = padded 4 n := by
    rw [List.takeWhile_append_of_pos fun _ => isDigit_of_mem_padded]
    simp [other]
  have some_ : padded 4 n ≠ [] := by simp [padded, digits_ne_nil]
  rw [number?, List.take_length, digits]
  simp only [if_neg some_, value_padded, List.drop_left]

/-- **Every year reads back**, with a sign or without. -/
theorem year?_yearText (year : Int) {c : Char} (other : c.isDigit = false) (rest : List Char) :
    year? (CalendarDay.yearText year ++ c :: rest) = some (year, c :: rest) := by
  unfold CalendarDay.yearText
  split
  · next short =>
    have whole : ((year.toNat : Nat) : Int) = year := Int.toNat_of_nonneg short.1
    rw [year?_padded (by omega), whole]
  · split
    · have whole : -((year.natAbs : Nat) : Int) = year := by omega
      rw [List.cons_append, year?, dropBlank_cons (by decide)]
      simp only [number?_all other, Option.map_some, whole]
    · have whole : ((year.natAbs : Nat) : Int) = year := by omega
      rw [List.cons_append, year?, dropBlank_cons (by decide)]
      simp only [number?_all other, Option.map_some, whole]

theorem mark?_cons {c : Char} (visible : isBlank c = false) (rest : List Char) :
    mark? c (c :: rest) = some rest := by
  simp [mark?, dropBlank_cons visible]

/-- As many decimal places as there are digits count. -/
theorem nanos?_padded (room : 0 < width) (short : width ≤ 9) (fits : n < 10 ^ width) {c : Char}
    (other : c.isDigit = false) (rest : List Char) :
    nanos? ('.' :: padded width n ++ c :: rest) = some (n * 10 ^ (9 - width), c :: rest) := by
  have length := length_padded room fits
  have some_ : padded width n ≠ [] := by
    rw [← List.length_pos_iff, length]
    exact room
  have kept : (padded width n).take 9 = padded width n :=
    List.take_of_length_le (length.trans_le short)
  simp only [List.cons_append, nanos?, spanDigits_padded other, if_neg some_, kept, value_padded,
    length]

/-- The decimal places lose nothing. -/
theorem nanos?_fraction (fits : n < 1000000000) :
    nanos? (fraction n ++ ['Z']) = some (n, ['Z']) := by
  unfold fraction
  split
  · next none => rw [none]; rfl
  · split
    · next millis =>
      rw [nanos?_padded (by decide) (by decide) (by omega) rfl]
      have : n / 1000000 * 10 ^ (9 - 3) = n := by omega
      rw [this]
    · split
      · next micros =>
        rw [nanos?_padded (by decide) (by decide) (by omega) rfl]
        have : n / 1000 * 10 ^ (9 - 6) = n := by omega
        rw [this]
      · rw [nanos?_padded (by decide) (by decide) (by omega) rfl, Nat.sub_self, Nat.pow_zero,
          Nat.mul_one]

/-- A time of a day that the calendar has, in a year of four digits. -/
structure IsCivil (t : Timestamp) : Prop where
  year : 0 ≤ t.day.year ∧ t.day.year ≤ 9999
  day : CalendarDay.of? t.day.year t.day.month t.day.day = some t.day
  hour : t.hour < 24
  minute : t.minute < 60
  /-- The last second may be a leap second. -/
  second : t.second ≤ 60
  nanos : t.nanos < 1000000000

/-- A time of a day that the calendar has, in any of its years. -/
structure IsReal (t : Timestamp) : Prop where
  year : -262143 ≤ t.day.year ∧ t.day.year ≤ 262142
  day : CalendarDay.of? t.day.year t.day.month t.day.day = some t.day
  hour : t.hour < 24
  minute : t.minute < 60
  /-- The last second may be a leap second. -/
  second : t.second ≤ 60
  nanos : t.nanos < 1000000000

theorem IsCivil.isReal {t : Timestamp} (civil : t.IsCivil) : t.IsReal where
  year := by
    have := civil.year
    omega
  day := civil.day
  hour := civil.hour
  minute := civil.minute
  second := civil.second
  nanos := civil.nanos

theorem toList_text (t : Timestamp) :
    t.text.toList = CalendarDay.yearText t.day.year ++ '-' :: (padded 2 t.day.month ++ '-' ::
      (padded 2 t.day.day ++ 'T' :: (padded 2 t.hour ++ ':' :: (padded 2 t.minute ++ ':' ::
        (padded 2 t.second ++ (fraction t.nanos ++ ['Z'])))))) := by
  simp [text, chars, CalendarDay.text]

/-- **The text of a time reads back.** -/
theorem IsReal.parse?_text {t : Timestamp} (real : t.IsReal) : parse? t.text = some t := by
  obtain ⟨month, day⟩ := CalendarDay.isShort_of? real.day
  have hour : t.hour < 100 := by have := real.hour; omega
  have minute : t.minute < 100 := by have := real.minute; omega
  have second : t.second < 100 := by have := real.second; omega
  have then_ {α β : Type} {x : Option α} {a : α} {f : α → Option β} {b : β} (first : x = some a)
      (second : f a = some b) : x.bind f = some b := by rw [first]; exact second
  unfold parse?
  rw [toList_text]
  refine then_ (year?_yearText _ (by decide) _) ?_
  refine then_ (mark?_cons (by decide) _) (then_ (field?_padded month _) ?_)
  refine then_ (mark?_cons (by decide) _) (then_ (field?_padded day _) ?_)
  refine then_ rfl (then_ (field?_padded hour _) ?_)
  refine then_ (mark?_cons (by decide) _) (then_ (field?_padded minute _) ?_)
  refine then_ (mark?_cons (by decide) _) (then_ (field?_padded second _) ?_)
  refine then_ (nanos?_fraction real.nanos) (then_ (a := (0, [])) (by decide) ?_)
  have within : (decide (-262143 ≤ t.day.year) && decide (t.day.year ≤ 262142)) = true := by
    simpa using real.year
  have here : t.hour < 24 ∧ t.minute < 60 ∧ t.second ≤ 60 ∧
      (decide (-262143 ≤ t.day.year) && decide (t.day.year ≤ 262142)) = true :=
    ⟨real.hour, real.minute, real.second, within⟩
  refine then_ real.day ((if_pos here).trans ?_)
  exact if_pos ⟨rfl, within⟩

/-- A time reads back from its written form. -/
theorem IsReal.reader_toJson {t : Timestamp} (real : t.IsReal) :
    Timestamp.reader t.toJson.node = .ok t := by
  simp [toJson, reader, Json.node, Json.Node.asWritten, real.parse?_text]

theorem reader_toJson {t : Timestamp} (civil : t.IsCivil) :
    Timestamp.reader t.toJson.node = .ok t :=
  civil.isReal.reader_toJson

end Timestamp

end OrderFlow
