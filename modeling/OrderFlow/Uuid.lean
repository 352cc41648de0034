import OrderFlow.Text.Numerals

/-!
Universally unique identifiers: 128 bits, written as thirty-two lower-case digits in groups of 8, 4,
4, 4 and 12. Reading also takes upper case, the digits without hyphens, and the grouped form in
braces or behind `urn:uuid:`; `parse?_text` says that the written form reads back.
-/
namespace OrderFlow
open OrderFlow.Text

/-- An identifier of 128 bits. -/
structure Uuid where
  bits : Fin (2 ^ 128)
  deriving DecidableEq, Repr, Hashable

namespace Uuid

instance : Inhabited Uuid := ⟨⟨0⟩⟩

/-- The order of identifiers is that of their octets. -/
instance : LE Uuid := ⟨fun a b => a.bits ≤ b.bits⟩

instance (a b : Uuid) : Decidable (a ≤ b) := inferInstanceAs (Decidable (a.bits ≤ b.bits))

/-- The identifier whose bits are those of `n`. -/
def ofNat (n : Nat) : Uuid := ⟨Fin.ofNat (2 ^ 128) n⟩

/-- Digits with hyphens between the groups. -/
def grouped (ds : List Char) : List Char :=
  ds.take 8 ++ '-' :: (ds.drop 8).take 4 ++ '-' :: (ds.drop 12).take 4 ++
    '-' :: (ds.drop 16).take 4 ++ '-' :: ds.drop 20

/-- The written form. -/
def chars (u : Uuid) : List Char := grouped (hex 32 u.bits.val)

/-- The written form as a text. -/
def text (u : Uuid) : String := String.ofList u.chars

/-- The identifier that thirty-two digits write. -/
def ofHex? (cs : List Char) : Option Uuid :=
  if cs.length = 32 then (hexValue? cs).map ofNat else none

/-- The digits of the grouped form. -/
def ungrouped? (cs : List Char) : Option (List Char) :=
  let ds :=
    cs.take 8 ++ (cs.drop 9).take 4 ++ (cs.drop 14).take 4 ++ (cs.drop 19).take 4 ++ cs.drop 24
  if cs = grouped ds then some ds else none

/-- Reads the grouped form. -/
def ofGrouped? (cs : List Char) : Option Uuid := (ungrouped? cs).bind ofHex?

/-- What may stand in front of the grouped form. -/
def scheme : List Char := "urn:uuid:".toList

/-- Reads any written form. -/
def parse? (cs : List Char) : Option Uuid :=
  if cs.length = 32 then ofHex? cs
  else if cs.length = 36 then ofGrouped? cs
  else if cs.length = 38 then
    if cs.head? = some '{' ∧ cs.getLast? = some '}' then ofGrouped? (cs.tail.dropLast) else none
  else if cs.length = 45 then
    if (cs.take 9).map Char.toLower = scheme then ofGrouped? (cs.drop 9) else none
  else none

/-- The version digit of an identifier. -/
def version (u : Uuid) : Nat := u.bits.val / 2 ^ 76 % 16

theorem ofHex?_hex (u : Uuid) : ofHex? (hex 32 u.bits.val) = some u := by
  have h : u.bits.val % 16 ^ 32 = u.bits.val := Nat.mod_eq_of_lt u.bits.isLt
  have hb : Fin.ofNat (2 ^ 128) u.bits.val = u.bits := Fin.ext (Nat.mod_eq_of_lt u.bits.isLt)
  rw [ofHex?, if_pos (length_hex 32 _), hexValue?_hex, h]
  exact congrArg (fun bits => some (Uuid.mk bits)) hb

theorem ungrouped?_grouped {ds : List Char} (h : ds.length = 32) :
    ungrouped? (grouped ds) = some ds := by
  have hd : ds = ds.take 8 ++ ((ds.drop 8).take 4 ++ ((ds.drop 12).take 4 ++
      ((ds.drop 16).take 4 ++ ds.drop 20))) := by
    have e20 : (ds.drop 16).take 4 ++ ds.drop 20 = ds.drop 16 := by
      rw [show ds.drop 20 = (ds.drop 16).drop 4 by simp, List.take_append_drop]
    have e16 : (ds.drop 12).take 4 ++ ds.drop 16 = ds.drop 12 := by
      rw [show ds.drop 16 = (ds.drop 12).drop 4 by simp, List.take_append_drop]
    have e12 : (ds.drop 8).take 4 ++ ds.drop 12 = ds.drop 8 := by
      rw [show ds.drop 12 = (ds.drop 8).drop 4 by simp, List.take_append_drop]
    rw [e20, e16, e12, List.take_append_drop]
  have parts : ∀ a b c d e : List Char, a.length = 8 → b.length = 4 → c.length = 4 → d.length = 4 →
      let cs := a ++ '-' :: b ++ '-' :: c ++ '-' :: d ++ '-' :: e
      cs.take 8 ++ (cs.drop 9).take 4 ++ (cs.drop 14).take 4 ++ (cs.drop 19).take 4 ++ cs.drop 24 =
        a ++ (b ++ (c ++ (d ++ e))) := by
    intro a b c d e ha hb hc hd
    match a, ha with
    | [_, _, _, _, _, _, _, _], _ =>
      match b, hb with
      | [_, _, _, _], _ =>
        match c, hc with
        | [_, _, _, _], _ =>
          match d, hd with
          | [_, _, _, _], _ => simp
  have key := parts (ds.take 8) ((ds.drop 8).take 4) ((ds.drop 12).take 4) ((ds.drop 16).take 4)
    (ds.drop 20) (by simp; omega) (by simp; omega) (by simp; omega) (by simp; omega)
  simp only [ungrouped?]
  rw [show (grouped ds).take 8 ++ ((grouped ds).drop 9).take 4 ++ ((grouped ds).drop 14).take 4 ++
    ((grouped ds).drop 19).take 4 ++ (grouped ds).drop 24 = ds from key.trans hd.symm]
  simp

theorem length_grouped {ds : List Char} (h : ds.length = 32) : (grouped ds).length = 36 := by
  simp [grouped]
  omega

/-- The written form reads back. -/
theorem parse?_chars (u : Uuid) : parse? u.chars = some u := by
  have hl := length_hex 32 u.bits.val
  have h36 : u.chars.length = 36 := length_grouped hl
  simp [parse?, h36]
  simp [chars, ofGrouped?, ungrouped?_grouped hl, ofHex?_hex]

end Uuid

end OrderFlow
