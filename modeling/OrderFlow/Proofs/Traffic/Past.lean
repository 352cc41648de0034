import OrderFlow.Proofs.Traffic.Steps

/-!
The past of traffic. Everything in it is a move of what was under way, and the moves of one doer
follow each other: a call that checks out remains that call, and is over when it is done
(`Doing.Becomes`, `Traffic.run_isContinuous`).
-/
namespace OrderFlow

variable {_ : EmailCheck}

/-- What something under way may be later on: a checkout remains the same checkout, and one that is
done does not change any more, unless it is broken off; nothing else becomes a checkout, and what is
broken off stays so. -/
def Doing.Becomes : Doing → Doing → Prop
  | .checkout key request p, .checkout key' request' p' =>
    key' = key ∧ request' = request ∧ ∀ r, p = .done r → p' = .done r
  | .checkout .., d | .gone, d => d = .gone
  | _, .checkout .. => False
  | _, _ => True

namespace Doing.Becomes
variable {d d' d'' : Doing}

theorem refl (d : Doing) : d.Becomes d := by
  cases d <;> simp [Becomes]

theorem gone (d : Doing) : d.Becomes .gone := by
  cases d <;> first | rfl | trivial

theorem trans (first : d.Becomes d') (second : d'.Becomes d'') : d.Becomes d'' := by
  cases d' with
  | checkout key' request' p' =>
    cases d with
    | checkout key request p =>
      cases d'' with
      | checkout key'' request'' p'' =>
        obtain ⟨sameKey, sameRequest, stays⟩ := first
        obtain ⟨sameKey', sameRequest', stays'⟩ := second
        exact ⟨sameKey'.trans sameKey, sameRequest'.trans sameRequest,
          fun r ends => stays' r (stays r ends)⟩
      | _ => exact second
    | gone => cases first
    | _ => exact first.elim
  | gone =>
    cases (show d'' = .gone from second)
    exact gone d
  | _ =>
    cases d with
    | checkout => cases first
    | gone => cases first
    | _ => cases d'' <;> exact second

end Doing.Becomes

theorem Doing.Move.becomes {cfg : Shop.Config} {s s' : Shop} {d d' : Doing}
    (move : d.Move cfg s d' s') : d.Becomes d' := by
  cases move with
  | checkout move =>
    refine ⟨rfl, rfl, fun r ends => ?_⟩
    subst ends
    cases move with
    | answers seeks => cases seeks
    | fails under => cases under
    | rests => rfl
  | rests => rfl
  | _ => trivial

namespace Traffic
variable {cfg : Shop.Config} {t t' : Traffic} {e : Event}

/-- Everybody but the doer stands where they stood. -/
theorem getElem?_acted {doer n : Nat} {d d' e : Doing} {later : Shop}
    (at_n : t.doings[n]? = some e) :
    (t.acted doer d d' later).doings[n]? = some (if doer = n then d' else e) := by
  have below : n < t.doings.length := (List.getElem?_eq_some_iff.mp at_n).1
  show (t.doings.set doer d' ++ later.tasks.map Doing.attempt)[n]? = _
  rw [List.getElem?_append_left (by simpa using below), List.getElem?_set]
  split
  · next same => rw [same, if_pos below]
  · exact at_n

/-- Everything in the past is a move, and the moves of one doer follow each other. -/
structure IsContinuous [EmailCheck] (cfg : Shop.Config) (t : Traffic) : Prop where
  moved : ∀ h ∈ t.past, h.before.Move cfg h.earlier h.after h.later
  current : ∀ h ∈ t.past, ∃ d, t.doings[h.doer]? = some d ∧ h.after.Becomes d
  chained : t.past.Pairwise fun h h' => h.doer = h'.doer → h.after.Becomes h'.before

theorem IsContinuous.acts (continuous : t.IsContinuous cfg) {doer : Nat} {d d' : Doing}
    {later : Shop} (under : t.doings[doer]? = some d) (move : d.Move cfg t.shop d' later) :
    (t.acted doer d d' later).IsContinuous cfg := by
  refine ⟨fun h member => ?_, fun h member => ?_, ?_⟩
  · rcases List.mem_append.mp member with old | new
    · exact continuous.moved h old
    · rw [List.mem_singleton.mp new]
      exact move
  · rcases List.mem_append.mp member with old | new
    · obtain ⟨e, at_doer, becomes⟩ := continuous.current h old
      refine ⟨_, getElem?_acted at_doer, ?_⟩
      split
      · next same =>
        rw [← same, under] at at_doer
        cases at_doer
        exact becomes.trans move.becomes
      · exact becomes
    · rw [List.mem_singleton.mp new]
      refine ⟨d', ?_, .refl _⟩
      rw [getElem?_acted under, if_pos rfl]
  · refine List.pairwise_append.mpr ⟨continuous.chained, List.pairwise_singleton _ _, ?_⟩
    intro h old h' new same
    cases List.mem_singleton.mp new
    obtain ⟨e, at_doer, becomes⟩ := continuous.current h old
    rw [same, show t.doings[doer]? = some d from under] at at_doer
    cases at_doer
    exact becomes

theorem IsContinuous.step (continuous : t.IsContinuous cfg) (step : Step cfg t e t') :
    t'.IsContinuous cfg := by
  cases step with
  | rests => exact continuous
  | weather w => exact ⟨continuous.moved, continuous.current, continuous.chained⟩
  | begins c =>
    refine ⟨continuous.moved, fun h member => ?_, continuous.chained⟩
    obtain ⟨e, at_doer, becomes⟩ := continuous.current h member
    have below := (List.getElem?_eq_some_iff.mp at_doer).1
    exact ⟨e, (List.getElem?_append_left below).trans at_doer, becomes⟩
  | ends doer =>
    refine ⟨continuous.moved, fun h member => ?_, continuous.chained⟩
    obtain ⟨e, at_doer, becomes⟩ := continuous.current h member
    have below := (List.getElem?_eq_some_iff.mp at_doer).1
    by_cases same : doer = h.doer
    · refine ⟨.gone, ?_, .gone _⟩
      simp [same, below]
    · refine ⟨e, ?_, becomes⟩
      rw [← at_doer]
      exact List.getElem?_set_ne same
  | acts under ready move => exact continuous.acts under move

/-- Of two things in the past, one comes before the other, unless they are the same. -/
theorem related_of_pairwise {R : Happening → Happening → Prop} {past : List Happening}
    (pairwise : past.Pairwise R) {h h' : Happening} (member : h ∈ past) (member' : h' ∈ past) :
    h = h' ∨ R h h' ∨ R h' h := by
  obtain ⟨a, b, rfl⟩ := List.append_of_mem member
  obtain ⟨-, after, before⟩ := List.pairwise_append.mp pairwise
  rcases List.mem_append.mp member' with early | later
  · exact .inr (.inr (before h' early h List.mem_cons_self))
  · rcases List.mem_cons.mp later with same | late
    · exact .inl same.symm
    · exact .inr (.inl ((List.pairwise_cons.mp after).1 h' late))

/-- Where no two things stand side by side there is one at most. -/
theorem length_le_one {α : Type} {l : List α} (alone : l.Pairwise fun _ _ => False) :
    l.length ≤ 1 := by
  cases alone with
  | nil => exact Nat.zero_le 1
  | cons first rest =>
    cases rest with
    | nil => exact Nat.le_refl 1
    | cons => exact (first _ List.mem_cons_self).elim

theorem run_isContinuous [EmailCheck] (cfg : Shop.Config) (around : Surroundings)
    (stock : Assoc Uuid Int) (sequences : Assoc CalendarDay Int) (events : List Event) :
    ((opening around stock sequences).run cfg events).IsContinuous cfg :=
  run_keeps_all (opening_isSound around stock sequences)
    ⟨(fun _ member => nomatch member), (fun _ member => nomatch member), .nil⟩
    fun _ _ _ _ continuous step => continuous.step step

end Traffic

end OrderFlow
