import Mathlib.Order.Basic
import Mathlib.Tactic.Common
import Mathlib.Algebra.Order.Group.Nat

set_option autoImplicit false

/-!
# Layouts of disjoint spans

A layout is a sorted list of half-open spans of numbers, no two of which
overlap. Laying a span over a layout cuts what it covers out of the others.
-/
namespace MattX.SpanLayout

structure Layout where
  spans : List (ℕ × ℕ)
  nonempty : ∀ v ∈ spans, v.1 < v.2
  sorted : spans.Pairwise fun v w => v.2 ≤ w.1

namespace Layout

def Covers (l : Layout) (x : ℕ) : Prop := ∃ v ∈ l.spans, v.1 ≤ x ∧ x < v.2

instance (l : Layout) : DecidablePred l.Covers := fun x =>
  inferInstanceAs (Decidable (∃ v ∈ l.spans, v.1 ≤ x ∧ x < v.2))

/-- The first span that ends after `x`. -/
def endingAfter (l : Layout) (x : ℕ) : Option (ℕ × ℕ) := l.spans.find? fun v => x < v.2

/-- What is left of a span below `a`. -/
def below (a : ℕ) (v : ℕ × ℕ) : Option (ℕ × ℕ) :=
  if v.1 < min v.2 a then some (v.1, min v.2 a) else none

/-- What is left of a span from `b` on. -/
def above (b : ℕ) (v : ℕ × ℕ) : Option (ℕ × ℕ) :=
  if max v.1 b < v.2 then some (max v.1 b, v.2) else none

theorem below_eq {a : ℕ} {v w : ℕ × ℕ} (h : below a v = some w) :
    w = (v.1, min v.2 a) ∧ v.1 < min v.2 a := by
  simp only [below] at h
  split_ifs at h with some
  exact ⟨(Option.some.inj h).symm, some⟩

theorem above_eq {b : ℕ} {v w : ℕ × ℕ} (h : above b v = some w) :
    w = (max v.1 b, v.2) ∧ max v.1 b < v.2 := by
  simp only [above] at h
  split_ifs at h with some
  exact ⟨(Option.some.inj h).symm, some⟩

theorem below_sorted (l : Layout) (a : ℕ) :
    (l.spans.filterMap (below a)).Pairwise fun v w => v.2 ≤ w.1 := by
  refine List.Pairwise.filterMap (below a) ?_ l.sorted
  intro v w apart v' hv w' hw
  obtain ⟨rfl, -⟩ := below_eq hv
  obtain ⟨rfl, -⟩ := below_eq hw
  exact (min_le_left _ _).trans apart

theorem above_sorted (l : Layout) (b : ℕ) :
    (l.spans.filterMap (above b)).Pairwise fun v w => v.2 ≤ w.1 := by
  refine List.Pairwise.filterMap (above b) ?_ l.sorted
  intro v w apart v' hv w' hw
  obtain ⟨rfl, -⟩ := above_eq hv
  obtain ⟨rfl, -⟩ := above_eq hw
  exact apart.trans (le_max_left _ _)

/-- The span from `a` to `b` replaces all that lies there. -/
def overlay (l : Layout) (a b : ℕ) (ab : a < b) : Layout where
  spans := l.spans.filterMap (below a) ++ (a, b) :: l.spans.filterMap (above b)
  nonempty := by
    intro v mem
    rw [List.mem_append, List.mem_cons, List.mem_filterMap, List.mem_filterMap] at mem
    rcases mem with ⟨w, -, cut⟩ | rfl | ⟨w, -, cut⟩
    · obtain ⟨rfl, some⟩ := below_eq cut
      exact some
    · exact ab
    · obtain ⟨rfl, some⟩ := above_eq cut
      exact some
  sorted := by
    have low : ∀ v ∈ l.spans.filterMap (below a), v.2 ≤ a := by
      intro v mem
      obtain ⟨w, -, cut⟩ := List.mem_filterMap.mp mem
      obtain ⟨rfl, -⟩ := below_eq cut
      exact min_le_right _ _
    have high : ∀ v ∈ l.spans.filterMap (above b), b ≤ v.1 := by
      intro v mem
      obtain ⟨w, -, cut⟩ := List.mem_filterMap.mp mem
      obtain ⟨rfl, -⟩ := above_eq cut
      exact le_max_right _ _
    rw [List.pairwise_append, List.pairwise_cons]
    refine ⟨below_sorted l a, ⟨high, above_sorted l b⟩, ?_⟩
    intro v hv w hw
    cases hw with
    | head => exact low v hv
    | tail _ hw => exact (low v hv).trans (ab.le.trans (high w hw))

theorem covers_overlay (l : Layout) {a b : ℕ} (ab : a < b) (x : ℕ) :
    (l.overlay a b ab).Covers x ↔ (a ≤ x ∧ x < b) ∨ l.Covers x := by
  simp only [Covers, overlay, List.mem_append, List.mem_cons, List.mem_filterMap]
  constructor
  · rintro ⟨v, ⟨w, hw, cut⟩ | rfl | ⟨w, hw, cut⟩, lo, hi⟩
    · obtain ⟨rfl, -⟩ := below_eq cut
      exact .inr ⟨w, hw, lo, hi.trans_le (min_le_left _ _)⟩
    · exact .inl ⟨lo, hi⟩
    · obtain ⟨rfl, -⟩ := above_eq cut
      exact .inr ⟨w, hw, (le_max_left _ _).trans lo, hi⟩
  · rintro (inside | ⟨w, hw, lo, hi⟩)
    · exact ⟨(a, b), .inr (.inl rfl), inside⟩
    · by_cases left : x < a
      · have cut : w.1 < min w.2 a := by omega
        refine ⟨(w.1, min w.2 a), .inl ⟨w, hw, by rw [below, if_pos cut]⟩, lo, ?_⟩
        exact lt_min hi left
      · by_cases right : x < b
        · exact ⟨(a, b), .inr (.inl rfl), by omega, right⟩
        · have cut : max w.1 b < w.2 := by omega
          refine ⟨(max w.1 b, w.2), .inr (.inr ⟨w, hw, by rw [above, if_pos cut]⟩), ?_, hi⟩
          exact max_le lo (by omega)

/-- Beyond the new span only the beginning of the next one can have changed. -/
theorem endingAfter_overlay (l : Layout) {a b : ℕ} (ab : a < b) {x : ℕ} (beyond : b ≤ x) :
    (l.overlay a b ab).endingAfter x = (l.endingAfter x).map fun v => (max v.1 b, v.2) := by
  have low : (l.spans.filterMap (below a)).find? (fun v => x < v.2) = none := by
    rw [List.find?_eq_none]
    intro v mem
    obtain ⟨w, -, cut⟩ := List.mem_filterMap.mp mem
    obtain ⟨rfl, -⟩ := below_eq cut
    simp only [decide_eq_true_eq]
    omega
  have own : ¬ x < b := by omega
  have high (spans : List (ℕ × ℕ)) (nonempty : ∀ v ∈ spans, v.1 < v.2) :
      (spans.filterMap (above b)).find? (fun v => x < v.2) =
        (spans.find? fun v => x < v.2).map fun v => (max v.1 b, v.2) := by
    induction spans with
    | nil => rfl
    | cons v spans ih =>
      have rest := ih fun w hw => nonempty w (List.mem_cons_of_mem v hw)
      have some := nonempty v List.mem_cons_self
      by_cases later : x < v.2
      · have cut : max v.1 b < v.2 := by omega
        simp [above, cut, later]
      · by_cases cut : max v.1 b < v.2
        · simp [above, cut, later, rest]
        · simp [above, cut, later, rest]
  simp only [endingAfter, overlay, List.find?_append, low, Option.none_or, List.find?_cons, own,
    decide_false]
  exact high l.spans l.nonempty

end Layout
end MattX.SpanLayout
