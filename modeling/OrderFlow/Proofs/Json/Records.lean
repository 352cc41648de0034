import OrderFlow.Json.Decode

/-!
Records by member. The reader of a record goes through the members in the order of the text;
`read_object_iff` says what comes of it field by field, so that the order of the members no longer
matters: each field is read from the one member that belongs to it, or is absent.
-/
namespace OrderFlow.Json
open OrderFlow

/-- Members whose names are texts. -/
def named (members : List (String × Node)) : List (Option String × Node) :=
  members.map fun m => (some m.1, m.2)

/-- What a field is, given the members that belong to it. -/
def Field.Reads (f : Field) (a : f.Value) : List (String × Node) → Prop
  | [] => f.absent = some a
  | [m] => f.read m.2 = .ok a
  | _ => False

/-- What the fields of a record are, given its members. Members that belong to no field have to be
JSON. -/
def Record.Reads : (fs : List Field) → List (String × Node) → Record fs → Prop
  | [], members, () => ∀ m ∈ members, m.2.sound = true
  | f :: fs, members, (a, as) =>
    f.Reads a (members.filter fun m => f.accepts m.1) ∧
      Record.Reads fs (members.filter fun m => !f.accepts m.1) as

namespace Slots

/-- Reads the members of one field. -/
def fillField (f : Field) :
    List (String × Node) → Option f.Value → Except DecodeError (Option f.Value)
  | [], value => .ok value
  | m :: members, value =>
    if value.isSome then .error (.duplicate f.name)
    else (f.read m.2).bind fun a => fillField f members (some a)

/-- The members of the first field and those of all others are read apart from each other. -/
theorem fillAll_cons_iff (f : Field) (fs : List Field) (members : List (String × Node))
    (value value' : Option f.Value) (rest rest' : Slots fs) :
    fillAll (f :: fs) (named members) (value, rest) = .ok (value', rest') ↔
      fillField f (members.filter fun m => f.accepts m.1) value = .ok value' ∧
        fillAll fs (named (members.filter fun m => !f.accepts m.1)) rest = .ok rest' := by
  induction members generalizing value rest with
  | nil =>
    simp only [named, List.map_nil, fillAll, List.filter_nil, fillField]
    constructor
    · intro h
      cases h
      exact ⟨rfl, rfl⟩
    · rintro ⟨h, k⟩
      cases h
      cases k
      rfl
  | cons m members ih =>
    simp only [named, List.map_cons, fillAll, fill] at ih ⊢
    by_cases mine : f.accepts m.1 = true
    · simp only [mine, if_true, List.filter_cons_of_pos, Bool.not_true,
        Bool.false_eq_true, not_false_eq_true, List.filter_cons_of_neg, fillField]
      by_cases twice : value.isSome = true
      · simp [twice, bind, Except.bind]
      · simp only [twice, Bool.false_eq_true, if_false]
        cases f.read m.2 with
        | error e => simp [bind, Except.bind, Except.map]
        | ok a => exact ih (some a) rest
    · simp only [mine, Bool.false_eq_true, if_false, not_false_eq_true, List.filter_cons_of_neg,
        Bool.not_false, List.filter_cons_of_pos, List.map_cons, fillAll]
      cases fill m.1 m.2 fs rest with
      | error e => simp [bind, Except.bind, Except.map]
      | ok rest => exact ih value rest

theorem fillAll_nil_iff (members : List (String × Node)) (slots slots' : Slots []) :
    fillAll [] (named members) slots = .ok slots' ↔ ∀ m ∈ members, m.2.sound = true := by
  induction members with
  | nil => exact ⟨fun _ _ member => absurd member List.not_mem_nil, fun _ => rfl⟩
  | cons m members ih =>
    simp only [named, List.map_cons, fillAll, fill, List.mem_cons, forall_eq_or_imp] at ih ⊢
    by_cases sound : m.2.sound = true
    · simpa [sound, bind, Except.bind] using ih
    · simp [sound, bind, Except.bind]

/-- A field is what its only member says, or what it is when it is left out. -/
theorem fillField_finish_iff (f : Field) (members : List (String × Node)) (a : f.Value) :
    (∃ value, fillField f members none = .ok value ∧ value.or f.absent = some a) ↔
      f.Reads a members := by
  match members with
  | [] => simp [fillField, Field.Reads]
  | [m] =>
    simp only [fillField, Field.Reads, Option.isSome_none, Bool.false_eq_true, if_false]
    cases f.read m.2 <;> simp [Except.bind]
  | m :: n :: members =>
    simp only [fillField, Field.Reads, Option.isSome_none, Bool.false_eq_true, if_false,
      Option.isSome_some, if_true]
    cases f.read m.2 <;> simp [Except.bind]

end Slots

/-- **A record is read field by field**, whatever the order of its members. -/
theorem Record.read_object_iff (fs : List Field) (members : List (String × Node)) (r : Record fs) :
    Record.read fs (.object (named members) true) = .ok r ↔ Record.Reads fs members r := by
  have whole : Record.read fs (.object (named members) true) = .ok r ↔
      ∃ slots, Slots.fillAll fs (named members) (Slots.blank fs) = .ok slots ∧
        Slots.finish fs slots = .ok r := by
    simp only [Record.read]
    cases Slots.fillAll fs (named members) (Slots.blank fs) <;> simp [bind, Except.bind]
  rw [whole]
  clear whole
  induction fs generalizing members with
  | nil =>
    simp only [Slots.finish, Slots.fillAll_nil_iff]
    exact ⟨fun ⟨_, sound, _⟩ => sound, fun sound => ⟨(), sound, rfl⟩⟩
  | cons f fs ih =>
    obtain ⟨a, as⟩ := r
    refine Iff.trans ?_ (and_congr (Slots.fillField_finish_iff ..) (ih ..))
    constructor
    · rintro ⟨⟨value, rest⟩, filled, finished⟩
      obtain ⟨first, others⟩ := (Slots.fillAll_cons_iff ..).mp filled
      simp only [Slots.finish] at finished
      cases present : value.or f.absent with
      | none => simp [present, bind, Except.bind] at finished
      | some b =>
        cases later : Slots.finish fs rest with
        | error e => simp [present, later, bind, Except.bind] at finished
        | ok bs =>
          simp only [present, later, bind, Except.bind] at finished
          cases finished
          exact ⟨⟨value, first, present⟩, rest, others, later⟩
    · rintro ⟨⟨value, first, present⟩, rest, others, later⟩
      refine ⟨(value, rest), (Slots.fillAll_cons_iff ..).mpr ⟨first, others⟩, ?_⟩
      simp [Slots.finish, present, later, bind, Except.bind]

end OrderFlow.Json
