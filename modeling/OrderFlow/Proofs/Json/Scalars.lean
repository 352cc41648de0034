import OrderFlow.Json.Scalars
import OrderFlow.Proofs.Json.Records
import OrderFlow.Proofs.Json.RoundTrip
import OrderFlow.Proofs.Number.DecimalText

/-!
Texts, identifiers, amounts and numbers of 32 bits read back from the tree of their written form,
and an object is read field by field from the trees of its members (`Record.read_members_iff`).
-/
namespace OrderFlow
open Json

namespace Json

theorem nodes_eq_map (xs : List Json) : nodes xs = xs.map node := by
  induction xs with
  | nil => rfl
  | cons x xs ih => rw [nodes, ih, List.map_cons]

theorem memberNodes_eq_named (ms : List (String × Json)) :
    memberNodes ms = named (ms.map fun m => (m.1, m.2.node)) := by
  induction ms with
  | nil => rfl
  | cons m ms ih =>
    obtain ⟨k, x⟩ := m
    rw [memberNodes, ih]
    rfl

/-- An object is read field by field, whatever the order of its members. -/
theorem Record.read_members_iff (fs : List Field) (ms : List (String × Json)) (r : Record fs) :
    Record.read fs (Json.object ms).node = .ok r ↔
      Record.Reads fs (ms.map fun m => (m.1, m.2.node)) r := by
  rw [node, memberNodes_eq_named, Record.read_object_iff]

@[simp] theorem Node.asText_text (s : String) : Node.asText (Json.text s).node = .ok s := by
  simp [node, Node.asText]

/-- The items of an array are read one by one. -/
theorem Node.asList_array {α : Type} {read : Reader α} {write : α → Json} {as : List α}
    (back : ∀ a ∈ as, read (write a).node = .ok a) :
    Node.asList read (Json.array (as.map write)).node = .ok as := by
  have all : Node.readAll read ((as.map write).map node) = .ok as := by
    induction as with
    | nil => rfl
    | cons a as ih =>
      have first := back a List.mem_cons_self
      have others := ih fun b member => back b (List.mem_cons_of_mem _ member)
      simp only [List.map_cons, Node.readAll, first, others]
      rfl
  simp only [node, nodes_eq_map, Node.asList, all]
  rfl

end Json

theorem Uuid.text_inj {u v : Uuid} (same : u.text = v.text) : u = v := by
  have chars : u.chars = v.chars := String.ofList_injective same
  have reads := Uuid.parse?_chars u
  rw [chars, Uuid.parse?_chars] at reads
  exact (Option.some.inj reads).symm

@[simp] theorem Uuid.reader_toJson (u : Uuid) : Uuid.reader u.toJson.node = .ok u := by
  simp [Uuid.toJson, Uuid.reader, Uuid.text, node, Node.asWritten, Uuid.parse?_chars]

@[simp] theorem Decimal.reader_toJson (d : Decimal) : Decimal.reader d.toJson.node = .ok d := by
  simp [Decimal.toJson, node, Decimal.reader, Decimal.parse?_text]

@[simp] theorem Json.Node.asInt32_int (n : Int32) :
    Json.Node.asInt32 (Json.int n.toInt).node = .ok n := by
  have low : -2 ^ 31 ≤ n.toInt := n.le_toInt
  have high : n.toInt < 2 ^ 31 := n.toInt_lt
  have whole := Json.quantity?_signed (n := n.toInt) (by omega) (by omega)
  have within : -2 ^ 31 ≤ n.toInt ∧ n.toInt ≤ 2 ^ 31 - 1 := ⟨low, by omega⟩
  simp only [node, Node.asInt32, Node.asIntIn, whole, if_pos within]
  exact congrArg Except.ok (Int32.ofInt_toInt n)

end OrderFlow
