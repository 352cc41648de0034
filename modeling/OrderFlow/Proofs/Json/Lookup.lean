import Mathlib.Data.List.Forall2
import Mathlib.Data.List.Induction
import OrderFlow.Json.Lookup

/-!
What a value says under a name. Of several members of one name the last counts, wherever it stands
(`member?_sorted`); the value that is read from a node says the same under each name as the node
(`member?_ofNode`).
-/
namespace OrderFlow.Json
open OrderFlow

/-- A member that is put in is found, and hides no other. -/
theorem find?_insertMember (k l : String) (x : Json) (ms : List (String × Json)) :
    (insertMember k x ms).find? (fun m => m.1 = l) =
      if k = l then some (k, x) else ms.find? fun m => m.1 = l := by
  induction ms with
  | nil => by_cases same : k = l <;> simp [insertMember, same]
  | cons m ms ih =>
    obtain ⟨j, y⟩ := m
    simp only [insertMember]
    split
    · by_cases same : k = l <;> simp [same]
    split
    · next same =>
      subst same
      by_cases same : k = l <;> simp [same]
    · next other =>
      by_cases same : j = l
      · subst same
        simp [other]
      · simpa [same] using ih

/-- **The last member of a name counts.** -/
theorem member?_sorted (ms : List (String × Json)) (k : String) :
    (sorted ms).member? k = (ms.reverse.find? fun m => m.1 = k).map Prod.snd := by
  suffices found : (ms.foldl (fun ms m => insertMember m.1 m.2 ms) []).find? (fun m => m.1 = k) =
      ms.reverse.find? fun m => m.1 = k from congrArg (Option.map Prod.snd) found
  induction ms using List.reverseRecOn with
  | nil => rfl
  | append_singleton ms m ih =>
    obtain ⟨j, x⟩ := m
    rw [List.foldl_concat, find?_insertMember, ih, List.reverse_concat, List.find?_cons]
    by_cases same : j = k <;> simp [same]

/-- A member that was read from a node, under its name. -/
def IsReadFrom (depth : Nat) (m : Option String × Node) (x : String × Json) : Prop :=
  m.1 = some x.1 ∧ ofNode depth m.2 = .ok x.2

theorem ofMembers_forall₂ {depth : Nat} {ms : List (Option String × Node)}
    {xs : List (String × Json)} (read : ofMembers depth ms = .ok xs) :
    List.Forall₂ (IsReadFrom depth) ms xs := by
  induction ms generalizing xs with
  | nil =>
    cases read
    exact .nil
  | cons m ms ih =>
    obtain ⟨_ | j, x⟩ := m
    · cases read
    simp only [ofMembers] at read
    cases head : ofNode depth x with
    | error e => simp [head, bind, Except.bind] at read
    | ok a =>
      cases tail : ofMembers depth ms with
      | error e => simp [head, tail, bind, Except.bind] at read
      | ok as =>
        simp only [head, tail, bind, Except.bind] at read
        cases read
        exact .cons ⟨rfl, head⟩ (ih tail)

/-- The first member of a name is read from the first node of that name. -/
theorem find?_forall₂ {depth : Nat} {ms : List (Option String × Node)} {xs : List (String × Json)}
    (read : List.Forall₂ (IsReadFrom depth) ms xs) (k : String) :
    (xs.find? fun m => m.1 = k).map Prod.snd =
      ((ms.find? fun m => m.1 = some k).map Prod.snd).bind fun x => (ofNode depth x).toOption := by
  induction read with
  | nil => rfl
  | @cons m x ms xs head _ ih =>
    obtain ⟨name, value⟩ := head
    by_cases same : x.1 = k
    · rw [List.find?_cons_of_pos (by simpa using same),
        List.find?_cons_of_pos (by simpa [name] using same), Option.map_some, Option.map_some,
        Option.bind_some, value]
      rfl
    · rw [List.find?_cons_of_neg (by simpa using same),
        List.find?_cons_of_neg (by simpa [name] using same), ih]

/-- **A value says under each name what its node says there.** -/
theorem member?_ofNode {depth : Nat} {x : Node} {v : Json} (read : ofNode (depth + 1) x = .ok v)
    (k : String) : v.member? k = (x.get? k).bind fun y => (ofNode depth y).toOption := by
  match x with
  | .object ms true =>
    simp only [ofNode] at read
    cases members : ofMembers depth ms with
    | error e => simp [members, Except.map] at read
    | ok xs =>
      simp only [members, Except.map] at read
      cases read
      rw [member?_sorted]
      exact find?_forall₂ (List.forall₂_reverse_iff.mpr (ofMembers_forall₂ members)) k
  | .array xs true =>
    simp only [ofNode] at read
    cases values : ofItems depth xs with
    | error e => simp [values, Except.map] at read
    | ok as =>
      simp only [values, Except.map] at read
      cases read
      rfl
  | .number n =>
    simp only [ofNode] at read
    split at read <;> cases read <;> rfl
  | .null | .bool b | .text (some s) =>
    cases read
    rfl
  | .object ms false | .array xs false | .text none | .broken => cases read

/-- A text is read from the node of the text, and from no other. -/
theorem ofNode_eq_text_iff {depth : Nat} {x : Node} {s : String} :
    ofNode depth x = .ok (.text s) ↔ x = .text (some s.toList) := by
  constructor
  · intro read
    match depth, x with
    | _, .text (some cs) =>
      simp only [ofNode] at read
      cases read
      rw [String.toList_ofList]
    | depth + 1, .object ms true =>
      simp only [ofNode] at read
      cases members : ofMembers depth ms <;> simp [members, Except.map, sorted] at read
    | depth + 1, .array xs true =>
      simp only [ofNode] at read
      cases values : ofItems depth xs <;> simp [values, Except.map] at read
    | _, .number n =>
      simp only [ofNode] at read
      split at read <;> cases read
    | _, .null | _, .bool b | _, .text none | _, .broken => cases read
    | 0, .object ms true | 0, .array xs true | 0, .object ms false | 0, .array xs false
    | depth + 1, .object ms false | depth + 1, .array xs false => cases read
  · rintro rfl
    simp only [ofNode, String.ofList_toList]

/-- **The text that a value has under a name is that of the last member of the name.** -/
theorem member?_eq_text_iff {depth : Nat} {x : Node} {v : Json}
    (read : ofNode (depth + 1) x = .ok v) {k s : String} :
    v.member? k = some (.text s) ↔ x.get? k = some (.text (some s.toList)) := by
  have read_iff (y : Node) :
      (ofNode depth y).toOption = some (.text s) ↔ y = .text (some s.toList) := by
    rw [← ofNode_eq_text_iff]
    cases ofNode depth y <;> simp [Except.toOption]
  simp only [member?_ofNode read, Option.bind_eq_some_iff, read_iff, exists_eq_right]

/-- What is read of octets is read of the node that they hold. -/
theorem decodeOctets_eq_ok_iff {α : Type} {read : Reader α} {octets : List UInt8} {a : α} :
    decodeOctets read octets = .ok a ↔
      ∃ x, decodeOctets Node.asNode octets = .ok x ∧ read x = .ok a := by
  unfold decodeOctets decode
  generalize value _ _ = parsed
  obtain ⟨x, rest⟩ := parsed
  cases said : read x <;> simp only [said, Node.asNode, bind, Except.bind] <;> split <;> simp_all

end OrderFlow.Json
