/-!
Association lists in which a key occurs at most once. `insert` keeps the place of a key that is
already there and puts a new one at the end. `find?_insert` says what is found afterwards.
-/
namespace OrderFlow

/-- Values by key. -/
abbrev Assoc (κ α : Type) := List (κ × α)

namespace Assoc
variable {κ α : Type} [DecidableEq κ]

/-- The value of a key. -/
def find? (k : κ) : Assoc κ α → Option α
  | [] => none
  | (l, a) :: rest => if l = k then some a else find? k rest

/-- Sets the value of a key. -/
def insert (k : κ) (a : α) : Assoc κ α → Assoc κ α
  | [] => [(k, a)]
  | (l, b) :: rest => if l = k then (k, a) :: rest else (l, b) :: insert k a rest

/-- Changes the value of a key that is there. -/
def modify (k : κ) (f : α → α) : Assoc κ α → Assoc κ α
  | [] => []
  | (l, b) :: rest => if l = k then (l, f b) :: rest else (l, b) :: modify k f rest

/-- Whether a key has a value. -/
def has (k : κ) (m : Assoc κ α) : Bool := (m.find? k).isSome

/-- The keys in order. -/
def keys (m : Assoc κ α) : List κ := m.map (·.1)

/-- The values in order. -/
def values (m : Assoc κ α) : List α := m.map (·.2)

theorem find?_insert (k l : κ) (a : α) (m : Assoc κ α) :
    find? l (insert k a m) = if k = l then some a else find? l m := by
  induction m with
  | nil => simp [insert, find?]
  | cons entry rest ih =>
    obtain ⟨j, b⟩ := entry
    by_cases hk : j = k
    · subst hk
      by_cases hl : j = l <;> simp [insert, find?, hl]
    · by_cases hl : j = l
      · subst hl
        have hk' : ¬ k = j := fun h => hk h.symm
        simp [insert, find?, hk, hk']
      · simp [insert, find?, hk, hl, ih]

theorem find?_modify (k l : κ) (f : α → α) (m : Assoc κ α) :
    find? l (modify k f m) = if k = l then (find? l m).map f else find? l m := by
  induction m with
  | nil => simp [modify, find?]
  | cons entry rest ih =>
    obtain ⟨j, b⟩ := entry
    by_cases hk : j = k
    · subst hk
      by_cases hl : j = l <;> simp [modify, find?, hl]
    · by_cases hl : j = l
      · subst hl
        have hk' : ¬ k = j := fun h => hk h.symm
        simp [modify, find?, hk, hk']
      · simp [modify, find?, hk, hl, ih]

theorem mem_keys_iff {k : κ} {m : Assoc κ α} : k ∈ m.keys ↔ (m.find? k).isSome = true := by
  induction m with
  | nil => simp [keys, find?]
  | cons entry rest ih =>
    obtain ⟨j, b⟩ := entry
    by_cases h : j = k
    · subst h
      simp [keys, find?]
    · have h' : ¬ k = j := fun e => h e.symm
      simp only [keys, List.map_cons, List.mem_cons, h', false_or, find?, h, if_false]
      exact ih

/-- A key that is there keeps its place, and a new one comes last. -/
theorem keys_insert (k : κ) (a : α) (m : Assoc κ α) :
    (insert k a m).keys = if k ∈ m.keys then m.keys else m.keys ++ [k] := by
  induction m with
  | nil => rfl
  | cons entry rest ih =>
    obtain ⟨j, b⟩ := entry
    have keys_cons (l : κ) (c : α) (m : Assoc κ α) : keys ((l, c) :: m) = l :: keys m := rfl
    by_cases h : j = k
    · subst h
      simp [insert, keys_cons]
    · have h' : ¬ k = j := fun e => h e.symm
      rw [insert, if_neg h, keys_cons, keys_cons, ih]
      by_cases old : k ∈ keys rest <;> simp [h', old]

theorem mem_of_find? {k : κ} {a : α} {m : Assoc κ α} (found : m.find? k = some a) : (k, a) ∈ m := by
  induction m with
  | nil => cases found
  | cons entry rest ih =>
    obtain ⟨j, b⟩ := entry
    rw [find?] at found
    split at found
    · next same =>
      cases found
      rw [same]
      exact List.mem_cons_self
    · exact List.mem_cons_of_mem _ (ih found)

/-- Where no key occurs twice, every entry is found. -/
theorem find?_of_mem {k : κ} {a : α} {m : Assoc κ α} (once : m.keys.Nodup) (member : (k, a) ∈ m) :
    m.find? k = some a := by
  induction m with
  | nil => cases member
  | cons entry rest ih =>
    obtain ⟨j, b⟩ := entry
    obtain ⟨new, once⟩ := List.nodup_cons.mp once
    rcases List.mem_cons.mp member with same | later
    · cases same
      exact if_pos rfl
    · have other : j ≠ k := by
        rintro rfl
        exact new (List.mem_map.mpr ⟨(j, a), later, rfl⟩)
      exact (if_neg other).trans (ih once later)

end Assoc

end OrderFlow
