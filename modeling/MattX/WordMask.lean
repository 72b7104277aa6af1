import Mathlib.Tactic.Common
import Mathlib.Logic.Function.Basic

set_option autoImplicit false

/-!
# Bit sets kept in 64-bit words
-/
namespace MattX

/-- `u64 mask[k]`: bit `n % 64` of word `n / 64` says whether `n` is a member. -/
abbrev WordMask (k : ℕ) := Fin k → BitVec 64

namespace WordMask
variable {k : ℕ}

def word (n : Fin (64 * k)) : Fin k := ⟨n.val / 64, Nat.div_lt_of_lt_mul n.isLt⟩

def bit (n : Fin (64 * k)) : BitVec 64 := 1#64 <<< (n.val % 64)

def empty : WordMask k := fun _ => 0#64

def set (m : WordMask k) (n : Fin (64 * k)) : WordMask k :=
  Function.update m (word n) (m (word n) ||| bit n)

def test (m : WordMask k) (n : Fin (64 * k)) : Bool := m (word n) &&& bit n != 0#64

theorem test_eq_getLsbD (m : WordMask k) (n : Fin (64 * k)) :
    m.test n = (m (word n)).getLsbD (n.val % 64) := by
  have hlt : n.val % 64 < 64 := Nat.mod_lt _ (by decide)
  have only : ∀ i < 64, (m (word n) &&& bit n).getLsbD i =
      ((m (word n)).getLsbD (n.val % 64) && decide (i = n.val % 64)) := by
    intro i hi
    simp only [bit, BitVec.getLsbD_and, BitVec.getLsbD_shiftLeft, BitVec.getLsbD_one]
    by_cases e : i = n.val % 64
    · subst i
      simp [hlt]
    · have : ¬ (i < 64 ∧ ¬ i < n.val % 64 ∧ i - n.val % 64 = 0) := by omega
      grind
  cases hb : (m (word n)).getLsbD (n.val % 64) with
  | false =>
    have zero : m (word n) &&& bit n = 0#64 := by
      apply BitVec.eq_of_getLsbD_eq
      intro i hi
      simp [only i hi, hb]
    simp [test, zero]
  | true =>
    have one : (m (word n) &&& bit n).getLsbD (n.val % 64) = true := by
      simp [only _ hlt, hb]
    have nonzero : m (word n) &&& bit n ≠ 0#64 := by
      intro zero
      simp [zero] at one
    simp [test, nonzero]

@[simp] theorem test_empty (n : Fin (64 * k)) : (empty : WordMask k).test n = false := by
  simp [test_eq_getLsbD, empty]

theorem test_set (m : WordMask k) (n j : Fin (64 * k)) :
    (m.set n).test j = true ↔ m.test j = true ∨ j = n := by
  simp only [test_eq_getLsbD, set]
  by_cases hw : word j = word n
  · have split : j = n ↔ j.val % 64 = n.val % 64 := by
      have hv : j.val / 64 = n.val / 64 := congrArg Fin.val hw
      rw [Fin.ext_iff]
      omega
    have hlt : j.val % 64 < 64 := Nat.mod_lt _ (by decide)
    have hn : n.val % 64 < 64 := Nat.mod_lt _ (by decide)
    rw [hw, Function.update_self, split]
    simp only [bit, BitVec.getLsbD_or, BitVec.getLsbD_shiftLeft, BitVec.getLsbD_one]
    grind
  · have hne : j ≠ n := fun e => hw (congrArg word e)
    rw [Function.update_of_ne hw]
    simp [hne]

end WordMask
end MattX
