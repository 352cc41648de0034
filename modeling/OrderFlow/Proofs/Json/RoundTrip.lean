import Mathlib.Tactic.Linarith
import OrderFlow.Json.Decode

/-!
Reading undoes writing. `node x` is the tree that the written form of `x` reads as; `value_chars`
says that the reader finds it, whatever follows, and `decode_chars` and `decodeOctets_render` say so
for a whole text. Doubles are left out: no message of the services holds one.
-/
namespace OrderFlow.Json
open OrderFlow OrderFlow.Text

mutual

/-- The tree that the written form of a value reads as. -/
def node : Json → Node
  | .null => .null
  | .bool b => .bool b
  | .int n => .number ⟨decide (n < 0), digits n.natAbs, [], none⟩
  | .real _ => .broken
  | .text s => .text (some s.toList)
  | .array items => .array (nodes items) true
  | .object members => .object (memberNodes members) true

/-- The trees of some values. -/
def nodes : List Json → List Node
  | [] => []
  | x :: rest => x.node :: nodes rest

/-- The trees of some members. -/
def memberNodes : List (String × Json) → List (Option String × Node)
  | [] => []
  | (k, x) :: rest => (some k, x.node) :: memberNodes rest

end

mutual

/-- Whether a value holds no double. -/
def isPlain : Json → Bool
  | .real _ => false
  | .array items => arePlain items
  | .object members => membersPlain members
  | _ => true

/-- Whether no value holds a double. -/
def arePlain : List Json → Bool
  | [] => true
  | x :: rest => x.isPlain && arePlain rest

/-- Whether no member holds a double. -/
def membersPlain : List (String × Json) → Bool
  | [] => true
  | (_, x) :: rest => x.isPlain && membersPlain rest

end

/-! ## Strings -/

/-- A character that is written with the number of its code point. -/
private theorem code?_hex {n : Nat} (small : n < 0x20) (rest : List Symbol) :
    code? ((hex 4 n).map some ++ rest) = some (n, rest) := by
  have value := hexValue?_hex 4 n
  simp only [hex, List.nil_append, List.cons_append] at value
  simp only [hex, List.nil_append, List.cons_append, List.map_cons, List.map_nil, code?, value,
    Option.map_some]
  rw [Nat.mod_eq_of_lt (by omega)]

/-- An escape never begins with the mark that ends a string. -/
private theorem escaped_head (c : Char) :
    ∃ x xs, escaped c = x :: xs ∧ x ≠ '"' := by
  unfold escaped
  repeat' split
  all_goals first
    | exact ⟨_, _, rfl, by decide⟩
    | exact ⟨_, _, rfl, by assumption⟩

/-- One character is read back from its escape. -/
theorem character?_escaped (c : Char) (rest : List Symbol) :
    character? ((escaped c).map some ++ rest) = some (some c, rest) := by
  unfold escaped
  split
  · subst c; rfl
  split
  · subst c; rfl
  split
  · subst c; rfl
  split
  · subst c; rfl
  split
  · subst c; rfl
  split
  · subst c; rfl
  split
  · subst c; rfl
  split
  · rename_i control
    have small : c.toNat < 0x20 := control
    have notHigh : isHigh c.toNat = false := by simp [isHigh]; omega
    have notLow : isLow c.toNat = false := by simp [isLow]; omega
    simp [character?, code?_hex small, notHigh, notLow]
  · rename_i quote backslash _ _ _ _ _ control
    simp [character?, backslash, control]

/-- A string is read back up to its closing mark. -/
theorem string?_escaped (cs : List Char) (fuel : Nat) (enough : (cs.flatMap escaped).length < fuel)
    (rest : List Symbol) :
    string? fuel ((cs.flatMap escaped).map some ++ some '"' :: rest) = some (some cs, rest) := by
  induction cs generalizing fuel with
  | nil =>
    obtain ⟨fuel, rfl⟩ := Nat.exists_eq_succ_of_ne_zero (Nat.ne_of_gt enough)
    rfl
  | cons c cs ih =>
    obtain ⟨fuel, rfl⟩ := Nat.exists_eq_succ_of_ne_zero (Nat.ne_of_gt (Nat.zero_lt_of_lt enough))
    obtain ⟨x, xs, head, open'⟩ := escaped_head c
    have longer : (cs.flatMap escaped).length < fuel := by
      simp only [List.flatMap_cons, List.length_append, head, List.length_cons] at enough
      omega
    have first := character?_escaped c ((cs.flatMap escaped).map some ++ some '"' :: rest)
    simp only [List.flatMap_cons, List.map_append, List.append_assoc, head, List.map_cons,
      List.cons_append] at first ⊢
    unfold string?
    split
    · rename_i same
      simp only [List.cons.injEq, Option.some.injEq] at same
      exact absurd same.1 open'
    · simp [first, ih fuel longer, push]

/-! ## Numbers -/

/-- What may follow a number without becoming part of it. -/
def Ends : List Symbol → Prop
  | some c :: _ => c.isDigit = false ∧ c ≠ '.' ∧ c ≠ 'e' ∧ c ≠ 'E'
  | _ => True

private theorem comma_ends {rest : List Symbol} : Ends (some ',' :: rest) := by
  simp only [Ends]; decide

private theorem bracket_ends {rest : List Symbol} : Ends (some ']' :: rest) := by
  simp only [Ends]; decide

private theorem brace_ends {rest : List Symbol} : Ends (some '}' :: rest) := by
  simp only [Ends]; decide

/-- A positive number does not begin with a zero. -/
private theorem digits_head {n : Nat} (positive : 0 < n) : (digits n).head? ≠ some '0' := by
  induction n using Nat.strongRecOn with
  | _ n ih =>
    unfold digits at ih ⊢
    rw [Nat.toDigits_eq_if (by decide)]
    split
    · rename_i small
      have cases' : ∀ d : Fin 10, 0 < d.val → [Nat.digitChar d.val].head? ≠ some '0' := by decide
      exact cases' ⟨n, small⟩ positive
    · rename_i large
      have shorter := ih (n / 10) (Nat.div_lt_self positive (by decide)) (by omega)
      obtain ⟨c, ds, shape⟩ := List.exists_cons_of_ne_nil (Nat.toDigits_ne_nil (n := n / 10))
      rw [shape] at shorter ⊢
      exact shorter

/-- A run of digits is read back up to its end. -/
private theorem spanDigits_append (ds : List Char) (all : ∀ c ∈ ds, c.isDigit = true)
    {rest : List Symbol} (ends : Ends rest) :
    Json.spanDigits (ds.map some ++ rest) = (ds, rest) := by
  induction ds with
  | nil =>
    match rest, ends with
    | [], _ => rfl
    | none :: _, _ => rfl
    | some c :: _, ends => simp [Json.spanDigits, ends.1]
  | cons d ds ih =>
    have later := ih fun c member => all c (List.mem_cons_of_mem d member)
    simp [Json.spanDigits, all d List.mem_cons_self, later]

private theorem whole?_digits (n : Nat) {rest : List Symbol} (ends : Ends rest) :
    whole? ((digits n).map some ++ rest) = some (digits n, rest) := by
  have span := spanDigits_append (digits n) (fun _ => isDigit_of_mem_digits) ends
  unfold whole?
  rw [span]
  split
  · rename_i empty
    exact absurd (congrArg Prod.fst empty) (digits_ne_nil n)
  · rename_i ds _ zeros
    have same : digits n = '0' :: _ :: _ := congrArg Prod.fst zeros
    rcases Nat.eq_zero_or_pos n with rfl | positive
    · simp [digits] at same
    · exact absurd (by rw [same]; rfl) (digits_head positive)
  · rfl

private theorem fraction?_ends {rest : List Symbol} (ends : Ends rest) :
    fraction? rest = some ([], rest) := by
  match rest, ends with
  | [], _ => rfl
  | none :: _, _ => rfl
  | some c :: tail, ends =>
    unfold fraction?
    split
    · rename_i point
      simp only [List.cons.injEq, Option.some.injEq] at point
      exact absurd point.1 ends.2.1
    · rfl

private theorem exponent?_ends {rest : List Symbol} (ends : Ends rest) :
    exponent? rest = some (none, rest) := by
  match rest, ends with
  | [], _ => rfl
  | none :: _, _ => rfl
  | some c :: tail, ends => simp [exponent?, ends.2.2.1, ends.2.2.2]

/-- A whole number is read back. -/
theorem number?_signed (n : Int) {rest : List Symbol} (ends : Ends rest) :
    number? ((signed n).map some ++ rest) =
      some (⟨decide (n < 0), digits n.natAbs, [], none⟩, rest) := by
  have behindSign (negative : Bool) :
      unsigned? negative ((digits n.natAbs).map some ++ rest) =
        some (⟨negative, digits n.natAbs, [], none⟩, rest) := by
    simp [unsigned?, whole?_digits _ ends, fraction?_ends ends, exponent?_ends ends]
  unfold signed
  split
  · rename_i negative
    simpa [negative, number?] using behindSign true
  · rename_i positive
    obtain ⟨c, ds, shape⟩ := List.exists_cons_of_ne_nil (digits_ne_nil n.natAbs)
    have digit : c.isDigit = true :=
      isDigit_of_mem_digits (n := n.natAbs) (by rw [shape]; exact List.mem_cons_self)
    unfold number?
    split
    · rename_i minus
      rw [shape] at minus
      simp only [List.map_cons, List.cons_append, List.cons.injEq, Option.some.injEq] at minus
      rw [minus.1] at digit
      exact absurd digit (by decide)
    · simpa [positive] using behindSign false

/-- Digits that write a number below `2 ^ 64` are all collected. -/
private theorem collect_of_lt (ds : List Char) (n : Nat)
    (small : Nat.ofDigitChars 10 ds n < 2 ^ 64) :
    collect n ds = (Nat.ofDigitChars 10 ds n, []) := by
  induction ds generalizing n with
  | nil => simp [collect]
  | cons c ds ih =>
    rw [Nat.ofDigitChars_cons] at small ⊢
    have step : 10 * n + (c.toNat - '0'.toNat) < 2 ^ 64 := by
      rw [Nat.ofDigitChars_eq_ofDigitChars_zero] at small
      have grows : 1 ≤ 10 ^ ds.length := Nat.one_le_pow _ _ (by decide)
      nlinarith
    rw [collect, if_pos step]
    exact ih _ small

/-- A whole number of 64 bits keeps its value. -/
theorem quantity?_signed {n : Int} (low : -2 ^ 63 ≤ n) (high : n < 2 ^ 64) :
    (⟨decide (n < 0), digits n.natAbs, [], none⟩ : Numeral).quantity? = some (.whole n) := by
  have small : n.natAbs < 2 ^ 64 := by omega
  have whole : collect 0 (digits n.natAbs) = (n.natAbs, []) := by
    have all := collect_of_lt (digits n.natAbs) 0
    rw [show Nat.ofDigitChars 10 (digits n.natAbs) 0 = n.natAbs from value_digits _] at all
    exact all small
  simp only [Numeral.quantity?, whole, and_self, if_true]
  by_cases negative : n < 0
  · have range : 1 ≤ n.natAbs ∧ n.natAbs ≤ 2 ^ 63 := by omega
    have sign : -(n.natAbs : Int) = n := by omega
    simp only [negative, decide_true, not_true_eq_false, if_false, range, and_self, if_true, sign]
  · have sign : (n.natAbs : Int) = n := by omega
    simp [negative, sign]

/-! ## Values -/

/-- Whether a character is one of the four blanks. -/
private def isSpace (c : Char) : Bool := c = ' ' || c = '\n' || c = '\t' || c = '\r'

private theorem skipBlank_cons {c : Char} (ink : isSpace c = false) (rest : List Symbol) :
    skipBlank (some c :: rest) = some c :: rest := by
  simp only [isSpace, Bool.or_eq_false_iff, decide_eq_false_iff_not] at ink
  simp [skipBlank, ink]

/-- The first character of a number. -/
private theorem signed_head (n : Int) :
    ∃ c cs, signed n = c :: cs ∧ (c = '-' ∨ c.isDigit = true) := by
  unfold signed
  split
  · exact ⟨_, _, rfl, .inl rfl⟩
  · obtain ⟨c, ds, shape⟩ := List.exists_cons_of_ne_nil (digits_ne_nil n.natAbs)
    exact ⟨c, ds, shape, .inr (isDigit_of_mem_digits (by rw [shape]; exact List.mem_cons_self))⟩

private theorem number_start {c : Char} (start : c = '-' ∨ c.isDigit = true) :
    isSpace c = false ∧ c ∉ ['"', '[', '{', 'n', 't', 'f', ']', '}'] := by
  rcases start with rfl | digit
  · decide
  · refine ⟨Bool.eq_false_iff.2 fun space => ?_, fun member => ?_⟩
    · simp only [isSpace, Bool.or_eq_true, decide_eq_true_eq] at space
      rcases space with ((rfl | rfl) | rfl) | rfl <;> exact absurd digit (by decide)
    · simp only [List.mem_cons, List.not_mem_nil, or_false] at member
      rcases member with rfl | rfl | rfl | rfl | rfl | rfl | rfl | rfl <;>
        exact absurd digit (by decide)

/-- The written form of a value begins with ink, and not with a closing bracket. -/
private theorem chars_head (x : Json) (plain : x.isPlain = true) :
    ∃ c cs, x.chars = c :: cs ∧ isSpace c = false ∧ c ≠ ']' ∧ c ≠ '}' := by
  have letters : ∀ c ∈ ['n', 't', 'f', '"', '[', '{'], isSpace c = false ∧ c ≠ ']' ∧ c ≠ '}' := by
    intro c member
    simp only [List.mem_cons, List.not_mem_nil, or_false] at member
    rcases member with rfl | rfl | rfl | rfl | rfl | rfl <;> decide
  match x, plain with
  | .null, _ => exact ⟨'n', _, rfl, letters _ (by simp)⟩
  | .bool true, _ => exact ⟨'t', _, rfl, letters _ (by simp)⟩
  | .bool false, _ => exact ⟨'f', _, rfl, letters _ (by simp)⟩
  | .int n, _ =>
    obtain ⟨c, cs, shape, start⟩ := signed_head n
    obtain ⟨ink, other⟩ := number_start start
    refine ⟨c, cs, by rw [chars, shape], ink, ?_, ?_⟩ <;> rintro rfl <;> simp at other
  | .text s, _ => exact ⟨'"', _, rfl, letters _ (by simp)⟩
  | .array items, _ => exact ⟨'[', _, by rw [chars]; rfl, letters _ (by simp)⟩
  | .object members, _ => exact ⟨'{', _, by rw [chars]; rfl, letters _ (by simp)⟩

private theorem chars_length_pos (x : Json) (plain : x.isPlain = true) : 0 < x.chars.length := by
  obtain ⟨c, cs, shape, _⟩ := chars_head x plain
  simp [shape]

/-- A string is read back behind its opening mark, in the room that readers take for it. -/
private theorem string?_quoted (s : String) (rest : List Symbol) :
    let behind := (s.toList.flatMap escaped).map some ++ some '"' :: rest
    string? (behind.length + 1) behind = some (some s.toList, rest) := by
  refine string?_escaped _ _ ?_ rest
  simp only [List.length_append, List.length_map, List.length_cons]
  omega

private theorem value_signed (n : Int) (fuel : Nat) {rest : List Symbol} (ends : Ends rest) :
    value (fuel + 1) ((signed n).map some ++ rest) = ((Json.int n).node, some rest) := by
  obtain ⟨c, cs, shape, start⟩ := signed_head n
  obtain ⟨ink, other⟩ := number_start start
  have read := number?_signed n ends
  simp only [List.mem_cons, List.not_mem_nil, or_false, not_or] at other
  rw [shape] at read ⊢
  simp only [List.map_cons, List.cons_append] at read ⊢
  rw [value, skipBlank_cons ink]
  simp [other, read, orBroken, node]

mutual

/-- **The written form of a value is read back**, whatever follows it. -/
theorem value_chars (x : Json) (plain : x.isPlain = true) (fuel : Nat)
    (enough : 2 * x.chars.length ≤ fuel) (rest : List Symbol) (ends : Ends rest) :
    value fuel (x.chars.map some ++ rest) = (x.node, some rest) := by
  obtain ⟨fuel, rfl⟩ : ∃ f, fuel = f + 1 :=
    ⟨fuel - 1, by have := chars_length_pos x plain; omega⟩
  match x, plain with
  | .null, _ => rfl
  | .bool true, _ => rfl
  | .bool false, _ => rfl
  | .int n, _ => simpa only [chars] using value_signed n fuel ends
  | .text s, _ =>
    have read := string?_quoted s rest
    simp only [chars, quoted, List.cons_append, List.map_cons, List.map_append, List.append_assoc,
      List.map_nil, List.nil_append, value, node] at read ⊢
    rw [skipBlank_cons (by decide)]
    simp only [read, orBroken]
  | .array [], _ => rfl
  | .array (x :: xs), plain =>
    have room : 2 * (itemsChars (x :: xs)).length + 1 ≤ fuel := by
      simp only [chars, List.cons_append, List.length_cons, List.length_append,
        List.length_nil] at enough
      omega
    have read := items_chars x xs plain fuel room rest
    obtain ⟨c, cs, shape, ink, close, _⟩ := chars_head x (by simp_all [isPlain, arePlain])
    obtain ⟨cs, start⟩ : ∃ cs, itemsChars (x :: xs) = c :: cs := by
      cases xs with
      | nil => exact ⟨cs, by rw [itemsChars, shape]⟩
      | cons => exact ⟨_, by rw [itemsChars, shape]; rfl⟩
    simp only [chars, node, start, List.cons_append, List.map_cons, List.map_append,
      List.append_assoc, List.map_nil, List.nil_append] at read ⊢
    rw [value, skipBlank_cons (by decide)]
    simp [skipBlank_cons ink, close, read]
  | .object [], _ => rfl
  | .object (m :: ms), plain =>
    have room : 2 * (membersChars (m :: ms)).length + 1 ≤ fuel := by
      simp only [chars, List.cons_append, List.length_cons, List.length_append,
        List.length_nil] at enough
      omega
    have read := members_chars m ms plain fuel room rest
    obtain ⟨cs, start⟩ : ∃ cs, membersChars (m :: ms) = '"' :: cs := by
      obtain ⟨k, x⟩ := m
      cases ms <;> simp [membersChars, quoted]
    simp only [chars, node, start, List.cons_append, List.map_cons, List.map_append,
      List.append_assoc, List.map_nil, List.nil_append] at read ⊢
    have mark := skipBlank_cons (c := '"') (by decide) (cs.map some ++ some '}' :: rest)
    rw [value, skipBlank_cons (by decide)]
    simp [mark, read]
termination_by fuel

/-- Values with commas between them are read back up to the closing bracket. -/
theorem items_chars (x : Json) (xs : List Json) (plain : arePlain (x :: xs) = true) (fuel : Nat)
    (enough : 2 * (itemsChars (x :: xs)).length + 1 ≤ fuel) (rest : List Symbol) :
    items fuel ((itemsChars (x :: xs)).map some ++ some ']' :: rest) =
      (nodes (x :: xs), some rest) := by
  obtain ⟨fuel, rfl⟩ : ∃ f, fuel = f + 1 := ⟨fuel - 1, by omega⟩
  simp only [arePlain, Bool.and_eq_true] at plain
  match xs with
  | [] =>
    have first := value_chars x plain.1 fuel (by simp only [itemsChars] at enough; omega)
      (some ']' :: rest) bracket_ends
    simp only [itemsChars, items, first, nodes]
    rw [skipBlank_cons (by decide)]
    rfl
  | y :: ys =>
    simp only [itemsChars, List.length_append, List.length_cons] at enough
    have first := value_chars x plain.1 fuel (by omega)
      (some ',' :: ((itemsChars (y :: ys)).map some ++ some ']' :: rest)) comma_ends
    have later := items_chars y ys (by simpa [arePlain] using plain.2) fuel (by omega) rest
    simp only [itemsChars, List.map_append, List.map_cons, List.append_assoc, List.cons_append,
      items, first]
    rw [skipBlank_cons (by decide)]
    simp only [later, nodes]
termination_by fuel

/-- Members with commas between them are read back up to the closing brace. -/
theorem members_chars (m : String × Json) (ms : List (String × Json))
    (plain : membersPlain (m :: ms) = true) (fuel : Nat)
    (enough : 2 * (membersChars (m :: ms)).length + 1 ≤ fuel) (rest : List Symbol) :
    members fuel ((membersChars (m :: ms)).map some ++ some '}' :: rest) =
      (memberNodes (m :: ms), some rest) := by
  obtain ⟨fuel, rfl⟩ : ∃ f, fuel = f + 1 := ⟨fuel - 1, by omega⟩
  obtain ⟨k, x⟩ := m
  simp only [membersPlain, Bool.and_eq_true] at plain
  match ms with
  | [] =>
    simp only [membersChars, List.length_append, List.length_cons] at enough
    have first := value_chars x plain.1 fuel (by omega) (some '}' :: rest) brace_ends
    have name := string?_quoted k (some ':' :: (x.chars.map some ++ some '}' :: rest))
    simp only [membersChars, quoted, List.map_append, List.map_cons, List.append_assoc,
      List.cons_append, List.nil_append] at name ⊢
    rw [members, skipBlank_cons (by decide)]
    simp only [name]
    rw [skipBlank_cons (by decide)]
    simp only [first]
    rw [skipBlank_cons (by decide)]
    simp only [memberNodes, Option.map_some, String.ofList_toList]
  | n :: ns =>
    simp only [membersChars, List.length_append, List.length_cons] at enough
    have first := value_chars x plain.1 fuel (by omega)
      (some ',' :: ((membersChars (n :: ns)).map some ++ some '}' :: rest)) comma_ends
    have later := members_chars n ns (by simpa [membersPlain] using plain.2) fuel (by omega) rest
    have name := string?_quoted k (some ':' :: (x.chars.map some ++
      some ',' :: ((membersChars (n :: ns)).map some ++ some '}' :: rest)))
    simp only [membersChars, quoted, List.map_append, List.map_cons, List.append_assoc,
      List.cons_append, List.nil_append] at name ⊢
    rw [members, skipBlank_cons (by decide)]
    simp only [name]
    rw [skipBlank_cons (by decide)]
    simp only [first]
    rw [skipBlank_cons (by decide)]
    simp only [later, memberNodes, Option.map_some, String.ofList_toList]
termination_by fuel

end

/-! ## Whole texts -/

/-- Reading the written form of a value reads its tree. -/
theorem decode_chars {α : Type} (read : Reader α) (x : Json) (plain : x.isPlain = true) :
    decode read (x.chars.map some) = read x.node := by
  have whole := value_chars x plain (2 * (x.chars.map some).length + 2) (by simp) [] trivial
  rw [List.append_nil] at whole
  simp only [decode, whole, Option.map_some, skipBlank]
  cases read x.node <;> rfl

theorem decodeText_render {α : Type} (read : Reader α) (x : Json) (plain : x.isPlain = true) :
    decodeText read x.render = read x.node := by
  simpa [decodeText, render] using decode_chars read x plain

theorem decodeOctets_render {α : Type} (read : Reader α) (x : Json) (plain : x.isPlain = true) :
    decodeOctets read (Octets.ofText x.render) = read x.node := by
  simpa [decodeOctets, render] using decode_chars read x plain

end OrderFlow.Json
