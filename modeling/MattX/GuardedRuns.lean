import Mathlib.Logic.Function.Basic

set_option autoImplicit false

/-!
# Runs of a guarded transition system

A machine has a guard and an effect for each event. Events stand for any
interleaving: a run is just a list of events, each enabled where it happens.
`ok` restricts a run to steps that meet a condition on the state before them.
-/
namespace MattX.GuardedRuns

structure Machine (σ α : Type*) where
  enabled : σ → α → Prop
  next : σ → α → σ

variable {σ α ω : Type*}

namespace Machine

def after (M : Machine σ α) (s : σ) (as : List α) : σ := as.foldl M.next s

/-- Every event of the list is enabled, and meets `ok`, in the state it finds. -/
def Follows (M : Machine σ α) (ok : σ → α → Prop) : σ → List α → Prop
  | _, [] => True
  | s, a :: as => M.enabled s a ∧ ok s a ∧ Follows M ok (M.next s a) as

/-- `I` holds in every state the run visits, the first one included. -/
def Always (M : Machine σ α) (I : σ → Prop) : σ → List α → Prop
  | s, [] => I s
  | s, a :: as => I s ∧ Always M I (M.next s a) as

abbrev Runs (M : Machine σ α) : σ → List α → Prop := M.Follows fun _ _ => True

instance decidableFollows (M : Machine σ α) (ok : σ → α → Prop)
    [∀ s a, Decidable (M.enabled s a)] [∀ s a, Decidable (ok s a)] :
    ∀ (s : σ) (as : List α), Decidable (M.Follows ok s as)
  | _, [] => isTrue trivial
  | s, a :: as =>
    have := decidableFollows M ok (M.next s a) as
    inferInstanceAs (Decidable (M.enabled s a ∧ ok s a ∧ M.Follows ok (M.next s a) as))

theorem Follows.mono {M : Machine σ α} {ok ok' : σ → α → Prop} (weaker : ∀ s a, ok s a → ok' s a)
    {s : σ} {as : List α} (h : M.Follows ok s as) : M.Follows ok' s as := by
  induction as generalizing s with
  | nil => trivial
  | cons a as ih => exact ⟨h.1, weaker s a h.2.1, ih h.2.2⟩

theorem follows_append {M : Machine σ α} {ok : σ → α → Prop} {s : σ} {as bs : List α} :
    M.Follows ok s (as ++ bs) ↔ M.Follows ok s as ∧ M.Follows ok (M.after s as) bs := by
  induction as generalizing s with
  | nil => simp [Follows, after]
  | cons a as ih =>
    change M.enabled s a ∧ ok s a ∧ M.Follows ok (M.next s a) (as ++ bs) ↔
      (M.enabled s a ∧ ok s a ∧ M.Follows ok (M.next s a) as) ∧
        M.Follows ok (M.after (M.next s a) as) bs
    rw [ih, and_assoc, and_assoc]

/-- The induction every safety result of the development goes through. -/
theorem Follows.invariant {M : Machine σ α} {ok : σ → α → Prop} {I : σ → Prop}
    (step : ∀ s a, I s → M.enabled s a → ok s a → I (M.next s a))
    {s : σ} {as : List α} (h : M.Follows ok s as) (hs : I s) : I (M.after s as) := by
  induction as generalizing s with
  | nil => exact hs
  | cons a as ih => exact ih h.2.2 (step s a hs h.1 h.2.1)

theorem Follows.always {M : Machine σ α} {ok : σ → α → Prop} {I : σ → Prop}
    (step : ∀ s a, I s → M.enabled s a → ok s a → I (M.next s a))
    {s : σ} {as : List α} (h : M.Follows ok s as) (hs : I s) : M.Always I s as := by
  induction as generalizing s with
  | nil => exact hs
  | cons a as ih => exact ⟨hs, ih h.2.2 (step s a hs h.1 h.2.1)⟩

/-- A condition that follows from `ok` wherever `I` holds is met along with it. -/
theorem Follows.entails {M : Machine σ α} {ok ok' : σ → α → Prop} {I : σ → Prop}
    (step : ∀ s a, I s → M.enabled s a → ok s a → I (M.next s a))
    (gives : ∀ s a, I s → M.enabled s a → ok s a → ok' s a)
    {s : σ} {as : List α} (h : M.Follows ok s as) (hs : I s) : M.Follows ok' s as := by
  induction as generalizing s with
  | nil => trivial
  | cons a as ih =>
    exact ⟨h.1, gives s a hs h.1 h.2.1, ih h.2.2 (step s a hs h.1 h.2.1)⟩

theorem Always.mono {M : Machine σ α} {I J : σ → Prop} (weaker : ∀ s, I s → J s) {s : σ}
    {as : List α} (h : M.Always I s as) : M.Always J s as := by
  induction as generalizing s with
  | nil => exact weaker s h
  | cons a as ih => exact ⟨weaker s h.1, ih h.2⟩

theorem Always.head {M : Machine σ α} {I : σ → Prop} {s : σ} {as : List α}
    (h : M.Always I s as) : I s := by
  cases as with
  | nil => exact h
  | cons a as => exact h.1

/-- Two conditions that agree wherever `I` holds allow the same runs. -/
theorem follows_iff {M : Machine σ α} {ok ok' : σ → α → Prop} {I : σ → Prop}
    (step : ∀ s a, I s → M.enabled s a → ok s a → I (M.next s a))
    (agree : ∀ s a, I s → M.enabled s a → (ok s a ↔ ok' s a))
    {s : σ} {as : List α} (hs : I s) : M.Follows ok s as ↔ M.Follows ok' s as := by
  constructor
  · intro h
    exact h.entails step (fun s a hs he => (agree s a hs he).mp) hs
  · intro h
    refine h.entails (fun s a hs he ho => step s a hs he ((agree s a hs he).mpr ho))
      (fun s a hs he => (agree s a hs he).mpr) hs

/-- When `ok` is exactly what one step needs, it is exactly what a run needs. -/
theorem always_iff_follows {M : Machine σ α} {ok : σ → α → Prop} {I : σ → Prop}
    (step : ∀ s a, I s → M.enabled s a → (I (M.next s a) ↔ ok s a))
    {s : σ} {as : List α} (runs : M.Runs s as) (hs : I s) :
    M.Always I s as ↔ M.Follows ok s as := by
  induction as generalizing s with
  | nil => exact ⟨fun _ => trivial, fun _ => hs⟩
  | cons a as ih =>
    constructor
    · intro h
      have next := h.2.head
      exact ⟨runs.1, (step s a hs runs.1).mp next, (ih runs.2.2 next).mp h.2⟩
    · intro h
      have next := (step s a hs runs.1).mpr h.2.1
      exact ⟨hs, (ih runs.2.2 next).mpr h.2.2⟩

/-- The machine run beside an observer that sees each step and never blocks one. -/
def observed (M : Machine σ α) (watch : ω → σ → α → ω) : Machine (σ × ω) α where
  enabled x a := M.enabled x.1 a
  next x a := (M.next x.1 a, watch x.2 x.1 a)

/-- What is seen of a run, one step after the other. -/
def outputs {β : Type*} (M : Machine σ α) (out : σ → α → List β) : σ → List α → List β
  | _, [] => []
  | s, a :: as => out s a ++ outputs M out (M.next s a) as

/-- Two states that no step tells apart are not told apart by a run. -/
theorem outputs_eq {β : Type*} {M : Machine σ α} {out : σ → α → List β} {R : σ → σ → Prop}
    {ok : σ → α → Prop}
    (step : ∀ s t a, R s t → ok s a → out s a = out t a ∧ R (M.next s a) (M.next t a))
    {s t : σ} {as : List α} (start : R s t) (h : M.Follows ok s as) :
    M.outputs out s as = M.outputs out t as := by
  induction as generalizing s t with
  | nil => rfl
  | cons a as ih =>
    have one := step s t a start h.2.1
    simp only [outputs]
    rw [one.1, ih one.2 h.2.2]

end Machine
end MattX.GuardedRuns
