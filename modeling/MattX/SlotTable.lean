import Mathlib.Tactic.Common
import Mathlib.Data.List.Find

set_option autoImplicit false

/-!
# Arrays with a live count and swap removal

The slots at `count` and above are dead, but they keep what was last written
to them, and `push` builds the new entry out of that.
-/
namespace MattX

structure SlotTable (α : Type*) where
  slot : ℕ → α
  count : ℕ

namespace SlotTable
variable {α : Type*}

instance : Membership α (SlotTable α) := ⟨fun t x => ∃ i, i < t.count ∧ t.slot i = x⟩

def modify (t : SlotTable α) (i : ℕ) (f : α → α) : SlotTable α :=
  { t with slot := Function.update t.slot i (f (t.slot i)) }

def mapLive (t : SlotTable α) (f : α → α) : SlotTable α :=
  { t with slot := fun i => if i < t.count then f (t.slot i) else t.slot i }

def push (t : SlotTable α) (f : α → α) : SlotTable α :=
  { slot := Function.update t.slot t.count (f (t.slot t.count)), count := t.count + 1 }

/-- `slot[i] = slot[count - 1]; count--`. -/
def swapRemove (t : SlotTable α) (i : ℕ) : SlotTable α :=
  { slot := Function.update t.slot i (t.slot (t.count - 1)), count := t.count - 1 }

/-- The first live slot that satisfies `p`. -/
def find? (t : SlotTable α) (p : α → Bool) : Option ℕ :=
  (List.range t.count).find? fun i => p (t.slot i)

theorem mem_def {t : SlotTable α} {x : α} : x ∈ t ↔ ∃ i, i < t.count ∧ t.slot i = x := Iff.rfl

theorem slot_mem {t : SlotTable α} {i : ℕ} (h : i < t.count) : t.slot i ∈ t := ⟨i, h, rfl⟩

@[simp] theorem modify_count (t : SlotTable α) (i : ℕ) (f : α → α) :
    (t.modify i f).count = t.count := rfl

@[simp] theorem mapLive_count (t : SlotTable α) (f : α → α) : (t.mapLive f).count = t.count := rfl

@[simp] theorem push_count (t : SlotTable α) (f : α → α) : (t.push f).count = t.count + 1 := rfl

@[simp] theorem swapRemove_count (t : SlotTable α) (i : ℕ) :
    (t.swapRemove i).count = t.count - 1 := rfl

theorem modify_slot (t : SlotTable α) (i j : ℕ) (f : α → α) :
    (t.modify i f).slot j = if j = i then f (t.slot i) else t.slot j := by
  by_cases h : j = i
  · subst j
    simp [modify]
  · simp [modify, h]

@[simp] theorem modify_slot_self (t : SlotTable α) (i : ℕ) (f : α → α) :
    (t.modify i f).slot i = f (t.slot i) := by simp [modify]

theorem mapLive_slot {t : SlotTable α} {i : ℕ} (h : i < t.count) (f : α → α) :
    (t.mapLive f).slot i = f (t.slot i) := by simp [mapLive, h]

theorem push_slot (t : SlotTable α) (f : α → α) (j : ℕ) :
    (t.push f).slot j = if j = t.count then f (t.slot t.count) else t.slot j := by
  by_cases h : j = t.count
  · subst j
    simp [push]
  · simp [push, h]

/-- Each slot that survives a removal held the entry of one slot before it. -/
theorem swapRemove_slot (t : SlotTable α) (i j : ℕ) :
    (t.swapRemove i).slot j = t.slot (if j = i then t.count - 1 else j) := by
  by_cases h : j = i
  · subst j
    simp [swapRemove]
  · simp [swapRemove, h]

theorem origin_lt {t : SlotTable α} {i j : ℕ} (h : j < t.count - 1) :
    (if j = i then t.count - 1 else j) < t.count := by
  split <;> omega

theorem origin_inj {n i j k : ℕ} (hj : j < n - 1) (hk : k < n - 1)
    (h : (if j = i then n - 1 else j) = if k = i then n - 1 else k) : j = k := by
  split_ifs at h <;> omega

theorem mem_modify {t : SlotTable α} {i : ℕ} {f : α → α} {x : α} (h : x ∈ t.modify i f) :
    x ∈ t ∨ i < t.count ∧ x = f (t.slot i) := by
  obtain ⟨j, hj, rfl⟩ := h
  rw [modify_slot]
  by_cases e : j = i
  · subst j
    exact Or.inr ⟨hj, by simp⟩
  · rw [if_neg e]
    exact Or.inl (slot_mem hj)

theorem mem_mapLive {t : SlotTable α} {f : α → α} {x : α} :
    x ∈ t.mapLive f ↔ ∃ y ∈ t, f y = x := by
  constructor
  · rintro ⟨i, hi, rfl⟩
    exact ⟨t.slot i, slot_mem hi, (mapLive_slot (t := t) hi f).symm⟩
  · rintro ⟨_, ⟨i, hi, rfl⟩, rfl⟩
    exact ⟨i, hi, mapLive_slot hi f⟩

theorem mem_push {t : SlotTable α} {f : α → α} {x : α} :
    x ∈ t.push f ↔ x ∈ t ∨ x = f (t.slot t.count) := by
  constructor
  · rintro ⟨i, hi, rfl⟩
    rw [push_slot]
    split_ifs with e
    · exact Or.inr rfl
    · rw [push_count] at hi
      exact Or.inl (slot_mem (by omega))
  · rintro (⟨i, hi, rfl⟩ | rfl)
    · exact ⟨i, Nat.lt_succ_of_lt hi, by rw [push_slot, if_neg (by omega)]⟩
    · exact ⟨t.count, Nat.lt_succ_self _, by rw [push_slot, if_pos rfl]⟩

theorem mem_swapRemove {t : SlotTable α} {i : ℕ} {x : α} (h : x ∈ t.swapRemove i) : x ∈ t := by
  obtain ⟨j, hj, rfl⟩ := h
  rw [swapRemove_slot]
  exact slot_mem (origin_lt hj)

theorem mem_swapRemove_or {t : SlotTable α} {i : ℕ} {x : α} (hi : i < t.count) (h : x ∈ t) :
    x ∈ t.swapRemove i ∨ x = t.slot i := by
  obtain ⟨j, hj, rfl⟩ := h
  by_cases here : j = i
  · exact Or.inr (by rw [here])
  · refine Or.inl ?_
    by_cases last : j = t.count - 1
    · refine ⟨i, ?_, ?_⟩
      · rw [swapRemove_count]
        omega
      · rw [swapRemove_slot, if_pos rfl, last]
    · refine ⟨j, ?_, ?_⟩
      · rw [swapRemove_count]
        omega
      · rw [swapRemove_slot, if_neg here]

theorem exists_mem {t : SlotTable α} {P : α → Prop} :
    (∃ x ∈ t, P x) ↔ ∃ i < t.count, P (t.slot i) := by
  constructor
  · rintro ⟨_, ⟨i, hi, rfl⟩, h⟩
    exact ⟨i, hi, h⟩
  · rintro ⟨i, hi, h⟩
    exact ⟨t.slot i, slot_mem hi, h⟩

instance (t : SlotTable α) (P : α → Prop) [DecidablePred P] : Decidable (∃ x ∈ t, P x) :=
  decidable_of_iff (∃ i < t.count, P (t.slot i)) exists_mem.symm

theorem find?_eq_some {t : SlotTable α} {p : α → Bool} {i : ℕ} :
    t.find? p = some i ↔ i < t.count ∧ p (t.slot i) ∧ ∀ j < i, ¬ p (t.slot j) := by
  rw [find?, List.find?_range_eq_some]
  simp only [List.mem_range, Bool.not_eq_eq_eq_not, Bool.not_true, Bool.not_eq_true]
  tauto

theorem find?_eq_none {t : SlotTable α} {p : α → Bool} :
    t.find? p = none ↔ ∀ i < t.count, ¬ p (t.slot i) := by
  simp [find?]

theorem find?_lt {t : SlotTable α} {p : α → Bool} {i : ℕ} (h : t.find? p = some i) :
    i < t.count := (find?_eq_some.mp h).1

theorem find?_holds {t : SlotTable α} {p : α → Bool} {i : ℕ} (h : t.find? p = some i) :
    p (t.slot i) = true := (find?_eq_some.mp h).2.1

/-! ### Two tables whose live entries are related one by one -/

structure Matched (R : α → α → Prop) (t u : SlotTable α) : Prop where
  count : u.count = t.count
  slot : ∀ i < t.count, R (t.slot i) (u.slot i)

section
variable {R : α → α → Prop} {t u : SlotTable α}

theorem Matched.find? (m : Matched R t u) {p : α → Bool} (same : ∀ x y, R x y → p x = p y) :
    t.find? p = u.find? p := by
  rw [SlotTable.find?, SlotTable.find?, m.count]
  apply List.find?_congr
  intro i live
  exact same _ _ (m.slot i (List.mem_range.mp live))

theorem Matched.modify (m : Matched R t u) (i : ℕ) {f g : α → α}
    (kept : R (f (t.slot i)) (g (u.slot i))) : Matched R (t.modify i f) (u.modify i g) := by
  refine ⟨m.count, fun j live => ?_⟩
  rw [modify_slot, modify_slot]
  by_cases here : j = i
  · rw [if_pos here, if_pos here]
    exact kept
  · rw [if_neg here, if_neg here]
    exact m.slot j live

theorem Matched.mapLive (m : Matched R t u) {f : α → α} (kept : ∀ x y, R x y → R (f x) (f y)) :
    Matched R (t.mapLive f) (u.mapLive f) := by
  refine ⟨m.count, fun j live => ?_⟩
  have live' : j < t.count := live
  rw [mapLive_slot live', mapLive_slot (m.count ▸ live')]
  exact kept _ _ (m.slot j live')

theorem Matched.push (m : Matched R t u) {f : α → α}
    (fresh : R (f (t.slot t.count)) (f (u.slot t.count))) : Matched R (t.push f) (u.push f) := by
  refine ⟨congrArg (· + 1) m.count, fun j live => ?_⟩
  rw [push_slot, push_slot, m.count]
  by_cases new : j = t.count
  · rw [if_pos new, if_pos new]
    exact fresh
  · rw [if_neg new, if_neg new]
    rw [push_count] at live
    exact m.slot j (by omega)

theorem Matched.swapRemove (m : Matched R t u) {i : ℕ} (live : i < t.count) :
    Matched R (t.swapRemove i) (u.swapRemove i) := by
  refine ⟨congrArg (· - 1) m.count, fun j left => ?_⟩
  rw [swapRemove_slot, swapRemove_slot, m.count]
  rw [swapRemove_count] at left
  split_ifs with here
  · exact m.slot _ (by omega)
  · exact m.slot j (by omega)

end

end SlotTable
end MattX
