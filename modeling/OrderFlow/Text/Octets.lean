import OrderFlow.Number.Rounding
/-!
Octets and the text they hold. `ofText` is the UTF-8 form of a text and `text?` reads it back
(`text?_ofText`). `symbols` reads any octets at all: a stretch that is no UTF-8 becomes the symbol
`none`, one for each maximal run that could have begun a character, so that `lossy` always shows
something and shows a well-formed text unchanged (`lossy_ofText`).
-/
namespace OrderFlow.Octets

/-- The UTF-8 form of a text. -/
def ofText (s : String) : List UInt8 := s.toUTF8.data.toList

/-- The text whose UTF-8 form the octets are. -/
def text? (octets : List UInt8) : Option String := String.fromUTF8? ⟨octets.toArray⟩

/-- The shape of a character by its lead octet: how many octets continue it, and the range of the
first of those; the others lie between 80 and BF. -/
structure Lead where
  count : Nat
  low : UInt8
  high : UInt8

/-- What a lead octet announces. -/
def lead? (b : UInt8) : Option Lead :=
  if b ≤ 0x7F then some ⟨0, 0x80, 0xBF⟩
  else if 0xC2 ≤ b ∧ b ≤ 0xDF then some ⟨1, 0x80, 0xBF⟩
  else if b = 0xE0 then some ⟨2, 0xA0, 0xBF⟩
  else if b = 0xED then some ⟨2, 0x80, 0x9F⟩
  else if 0xE1 ≤ b ∧ b ≤ 0xEF then some ⟨2, 0x80, 0xBF⟩
  else if b = 0xF0 then some ⟨3, 0x90, 0xBF⟩
  else if 0xF1 ≤ b ∧ b ≤ 0xF3 then some ⟨3, 0x80, 0xBF⟩
  else if b = 0xF4 then some ⟨3, 0x80, 0x8F⟩
  else none

/-- How many of the next octets continue the character, at most as many as announced. -/
def continued (lead : Lead) (rest : List UInt8) : Nat :=
  match rest with
  | [] => 0
  | b :: more =>
    if lead.count = 0 ∨ b < lead.low ∨ lead.high < b then 0
    else 1 + ((more.take (lead.count - 1)).takeWhile fun c => 0x80 ≤ c && c ≤ 0xBF).length

/-- The character of a lead octet and its continuation. -/
def assemble (b : UInt8) (tail : List UInt8) : Char :=
  let top := if tail.length = 0 then b.toNat else b.toNat % 2 ^ (6 - tail.length)
  Char.ofNat (tail.foldl (fun n c => 64 * n + c.toNat % 64) top)

/-- The characters of octets that need not be UTF-8, with a gap for each stretch that is none. -/
def patched : List UInt8 → List (Option Char)
  | [] => []
  | b :: rest =>
    match lead? b with
    | none => none :: patched rest
    | some lead =>
      if continued lead rest = lead.count then
        some (assemble b (rest.take lead.count)) :: patched (rest.drop lead.count)
      else none :: patched (rest.drop (continued lead rest))
termination_by octets => octets.length
decreasing_by
  · exact Nat.lt_succ_self _
  · exact Nat.lt_succ_of_le (List.length_drop ▸ Nat.sub_le _ _)
  · exact Nat.lt_succ_of_le (List.length_drop ▸ Nat.sub_le _ _)

/-- The characters of some octets, a gap standing for each stretch that is no UTF-8. -/
def symbols (octets : List UInt8) : List (Option Char) :=
  match text? octets with
  | some s => s.toList.map some
  | none => patched octets

/-- A text for any octets: each gap shows as the replacement character. -/
def lossy (octets : List UInt8) : String :=
  String.ofList ((symbols octets).map (·.getD '\uFFFD'))

@[simp] theorem text?_ofText (s : String) : text? (ofText s) = some s := by
  have h : (⟨(ofText s).toArray⟩ : ByteArray) = s.toUTF8 := by simp [ofText]
  have valid : s.toUTF8.IsValidUTF8 := s.isValidUTF8
  rw [text?, h, String.fromUTF8?, dif_pos valid]
  rfl

theorem ofText_of_text? {octets : List UInt8} {s : String} (h : text? octets = some s) :
    ofText s = octets := by
  simp only [text?, String.fromUTF8?] at h
  split at h
  · cases h
    simp [ofText, String.fromUTF8]
  · cases h

@[simp] theorem symbols_ofText (s : String) : symbols (ofText s) = s.toList.map some := by
  simp [symbols]

/-- A well-formed text shows as itself. -/
@[simp] theorem lossy_ofText (s : String) : lossy (ofText s) = s := by
  have h : (fun c : Char => c) = id := rfl
  simp [lossy, Function.comp_def, h]

end OrderFlow.Octets
