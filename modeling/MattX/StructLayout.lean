import Mathlib.Data.Nat.Notation
import Mathlib.Tactic.Common
import Mathlib.Algebra.Order.Group.Nat
import Mathlib.Algebra.Ring.Nat

set_option autoImplicit false

/-!
# Layouts of C structures

Declarations of integers, arrays and structures, where their parts lie in
memory by the rules of an ABI that aligns every integer to its size, and loads
and stores of the integers in them.
-/
namespace MattX.StructLayout

variable {ν : Type}

mutual

/-- Between the fields of a `packed` structure there is no room. -/
inductive CType (ν : Type) where
  | int (bytes : ℕ)
  | array (n : ℕ) (t : CType ν)
  | struct (packed : Bool) (fields : Fields ν)

inductive Fields (ν : Type) where
  | nil
  | cons (name : ν) (t : CType ν) (rest : Fields ν)

end

/-- The next multiple of the alignment. -/
def roundUp (off align : ℕ) : ℕ := (off + align - 1) / align * align

mutual

def CType.align : CType ν → ℕ
  | .int bytes => max bytes 1
  | .array _ t => t.align
  | .struct packed fields => if packed then 1 else fields.align

def Fields.align : Fields ν → ℕ
  | .nil => 1
  | .cons _ t rest => max t.align rest.align

end

/-- Where a field goes that comes after `off` bytes. -/
def place (packed : Bool) (t : CType ν) (off : ℕ) : ℕ :=
  if packed then off else roundUp off t.align

mutual

def CType.size : CType ν → ℕ
  | .int bytes => bytes
  | .array n t => n * t.size
  | .struct packed fields => roundUp (fields.stop packed 0) (if packed then 1 else fields.align)

/-- The end of the last field, if the first comes after `off` bytes. -/
def Fields.stop (packed : Bool) (off : ℕ) : Fields ν → ℕ
  | .nil => off
  | .cons _ t rest => rest.stop packed (place packed t off + t.size)

end

theorem le_roundUp (off : ℕ) {align : ℕ} (some : 0 < align) : off ≤ roundUp off align := by
  have split := Nat.div_add_mod (off + align - 1) align
  have small := Nat.mod_lt (off + align - 1) some
  rw [Nat.mul_comm] at split
  simp only [roundUp]
  omega

mutual

theorem CType.align_pos : (t : CType ν) → 0 < t.align
  | .int bytes => by
    simp only [CType.align]
    omega
  | .array _ t => t.align_pos
  | .struct packed fields => by
    have inner := fields.align_pos
    simp only [CType.align]
    split_ifs <;> omega

theorem Fields.align_pos : (fields : Fields ν) → 0 < fields.align
  | .nil => Nat.one_pos
  | .cons _ t rest => by
    have inner := t.align_pos
    simp only [Fields.align]
    omega

end

theorem le_place (packed : Bool) (t : CType ν) (off : ℕ) : off ≤ place packed t off := by
  have rounded := le_roundUp off t.align_pos
  simp only [place]
  split_ifs <;> omega

theorem Fields.le_stop (packed : Bool) (off : ℕ) (fields : Fields ν) :
    off ≤ fields.stop packed off := by
  cases fields with
  | nil => exact le_refl off
  | cons name t rest =>
    have first := le_place packed t off
    have others := rest.le_stop packed (place packed t off + t.size)
    simp only [Fields.stop]
    omega

/-- A step into a structure or an array. -/
inductive Step (ν : Type) where
  | field (name : ν)
  | elem (i : ℕ)
  deriving DecidableEq

abbrev Path (ν : Type) := List (Step ν)

variable [DecidableEq ν]

mutual

/-- The offset and the size of the integer at the end of a path. -/
def CType.locate : CType ν → Path ν → Option (ℕ × ℕ)
  | .int bytes, [] => some (0, bytes)
  | .array n t, .elem i :: p =>
    if i < n then (t.locate p).map fun a => (i * t.size + a.1, a.2) else none
  | .struct packed fields, .field f :: p => fields.locate packed 0 f p
  | _, _ => none

def Fields.locate (packed : Bool) (off : ℕ) (f : ν) (p : Path ν) : Fields ν → Option (ℕ × ℕ)
  | .nil => none
  | .cons name t rest =>
    if name = f then (t.locate p).map fun a => (place packed t off + a.1, a.2)
    else rest.locate packed (place packed t off + t.size) f p

end

/-! ### Parts of an object -/

mutual

/-- An integer of an object lies inside the object. -/
theorem CType.locate_inside : (t : CType ν) → (p : Path ν) → {a : ℕ × ℕ} →
    t.locate p = some a → a.1 + a.2 ≤ t.size
  | .int bytes, [], a, h => by
    simp only [CType.locate, Option.some.injEq] at h
    subst h
    simp only [CType.size, Nat.zero_add, le_refl]
  | .array n t, .elem i :: p, a, h => by
    simp only [CType.locate] at h
    split_ifs at h with small
    obtain ⟨b, found, rfl⟩ := Option.map_eq_some_iff.mp h
    have inner := t.locate_inside p found
    have whole : (i + 1) * t.size ≤ n * t.size := Nat.mul_le_mul_right _ small
    rw [Nat.succ_mul] at whole
    simp only [CType.size]
    omega
  | .struct packed fields, .field f :: p, a, h => by
    have inner := (fields.locate_inside packed 0 f p h).2
    have aligned : 0 < if packed then 1 else fields.align := by
      split_ifs
      · exact Nat.one_pos
      · exact fields.align_pos
    have rounded := le_roundUp (fields.stop packed 0) aligned
    simp only [CType.size]
    omega
  | .int _, _ :: _, _, h => by simp [CType.locate] at h
  | .array _ _, [], _, h => by simp [CType.locate] at h
  | .array _ _, .field _ :: _, _, h => by simp [CType.locate] at h
  | .struct _ _, [], _, h => by simp [CType.locate] at h
  | .struct _ _, .elem _ :: _, _, h => by simp [CType.locate] at h

theorem Fields.locate_inside (packed : Bool) (off : ℕ) (f : ν) (p : Path ν) :
    (fields : Fields ν) → {a : ℕ × ℕ} → fields.locate packed off f p = some a →
      off ≤ a.1 ∧ a.1 + a.2 ≤ fields.stop packed off
  | .nil, _, h => by simp [Fields.locate] at h
  | .cons name t rest, a, h => by
    have first := le_place packed t off
    simp only [Fields.locate] at h
    simp only [Fields.stop]
    split_ifs at h with here
    · obtain ⟨b, found, rfl⟩ := Option.map_eq_some_iff.mp h
      have inner := t.locate_inside p found
      have others := rest.le_stop packed (place packed t off + t.size)
      simp only
      omega
    · have inner := rest.locate_inside packed (place packed t off + t.size) f p h
      omega

end

/-- Two pieces of memory share no byte. -/
def Apart (a b : ℕ × ℕ) : Prop := a.1 + a.2 ≤ b.1 ∨ b.1 + b.2 ≤ a.1

mutual

/-- Different integers of an object lie apart. -/
theorem CType.locate_apart : (t : CType ν) → (p q : Path ν) → {a b : ℕ × ℕ} →
    t.locate p = some a → t.locate q = some b → p ≠ q → Apart a b
  | .int _, [], [], _, _, _, _, differ => absurd rfl differ
  | .array n t, .elem i :: p, .elem j :: q, a, b, ha, hb, differ => by
    simp only [CType.locate] at ha hb
    split_ifs at ha hb with small small'
    obtain ⟨a', found, rfl⟩ := Option.map_eq_some_iff.mp ha
    obtain ⟨b', found', rfl⟩ := Option.map_eq_some_iff.mp hb
    have inside := t.locate_inside p found
    have inside' := t.locate_inside q found'
    simp only [Apart]
    rcases Nat.lt_trichotomy i j with before | same | behind
    · have gap : (i + 1) * t.size ≤ j * t.size := Nat.mul_le_mul_right _ before
      rw [Nat.succ_mul] at gap
      omega
    · subst same
      have inner := t.locate_apart p q found found' fun same => differ (by rw [same])
      simp only [Apart] at inner
      omega
    · have gap : (j + 1) * t.size ≤ i * t.size := Nat.mul_le_mul_right _ behind
      rw [Nat.succ_mul] at gap
      omega
  | .struct packed fields, .field f :: p, .field g :: q, a, b, ha, hb, differ =>
    fields.locate_apart packed 0 f g p q ha hb fun same => differ (by rw [same.1, same.2])
  | .int _, _ :: _, _, _, _, h, _, _ => by simp [CType.locate] at h
  | .int _, [], _ :: _, _, _, _, h, _ => by simp [CType.locate] at h
  | .array _ _, [], _, _, _, h, _, _ => by simp [CType.locate] at h
  | .array _ _, .field _ :: _, _, _, _, h, _, _ => by simp [CType.locate] at h
  | .array _ _, .elem _ :: _, [], _, _, _, h, _ => by simp [CType.locate] at h
  | .array _ _, .elem _ :: _, .field _ :: _, _, _, _, h, _ => by simp [CType.locate] at h
  | .struct _ _, [], _, _, _, h, _, _ => by simp [CType.locate] at h
  | .struct _ _, .elem _ :: _, _, _, _, h, _, _ => by simp [CType.locate] at h
  | .struct _ _, .field _ :: _, [], _, _, _, h, _ => by simp [CType.locate] at h
  | .struct _ _, .field _ :: _, .elem _ :: _, _, _, _, h, _ => by simp [CType.locate] at h

theorem Fields.locate_apart (packed : Bool) (off : ℕ) (f g : ν) (p q : Path ν) :
    (fields : Fields ν) → {a b : ℕ × ℕ} → fields.locate packed off f p = some a →
      fields.locate packed off g q = some b → ¬(f = g ∧ p = q) → Apart a b
  | .nil, _, _, h, _, _ => by simp [Fields.locate] at h
  | .cons name t rest, a, b, ha, hb, differ => by
    simp only [Fields.locate] at ha hb
    split_ifs at ha hb with first second second
    · obtain ⟨a', found, rfl⟩ := Option.map_eq_some_iff.mp ha
      obtain ⟨b', found', rfl⟩ := Option.map_eq_some_iff.mp hb
      have inner := t.locate_apart p q found found' fun same =>
        differ ⟨first.symm.trans second, same⟩
      simp only [Apart] at inner ⊢
      omega
    · obtain ⟨a', found, rfl⟩ := Option.map_eq_some_iff.mp ha
      have inside := t.locate_inside p found
      have behind := (rest.locate_inside packed _ g q hb).1
      exact Or.inl (by simp only; omega)
    · obtain ⟨b', found', rfl⟩ := Option.map_eq_some_iff.mp hb
      have inside := t.locate_inside q found'
      have behind := (rest.locate_inside packed _ f p ha).1
      exact Or.inr (by simp only; omega)
    · exact rest.locate_apart packed _ f g p q ha hb differ

end

/-! ### Loads and stores -/

abbrev Memory := ℕ → BitVec 8

/-- Little-endian. -/
def load (m : Memory) (off : ℕ) : ℕ → ℕ
  | 0 => 0
  | bytes + 1 => (m off).toNat + 256 * load m (off + 1) bytes

def store (m : Memory) (off bytes v : ℕ) : Memory := fun x =>
  if off ≤ x ∧ x < off + bytes then BitVec.ofNat 8 (v / 256 ^ (x - off)) else m x

theorem load_congr {m m' : Memory} {off bytes : ℕ}
    (same : ∀ x, off ≤ x → x < off + bytes → m x = m' x) :
    load m off bytes = load m' off bytes := by
  induction bytes generalizing off with
  | zero => rfl
  | succ bytes ih =>
    have first := same off (le_refl off) (by omega)
    have rest : load m (off + 1) bytes = load m' (off + 1) bytes :=
      ih fun x low high => same x (by omega) (by omega)
    simp only [load, first, rest]

theorem load_store (m : Memory) (off bytes v : ℕ) :
    load (store m off bytes v) off bytes = v % 256 ^ bytes := by
  induction bytes generalizing off v with
  | zero => simp [load, Nat.mod_one]
  | succ bytes ih =>
    have shifted : load (store m off (bytes + 1) v) (off + 1) bytes =
        load (store m (off + 1) bytes (v / 256)) (off + 1) bytes := by
      refine load_congr fun x low high => ?_
      have here : off ≤ x ∧ x < off + (bytes + 1) := by omega
      have there : off + 1 ≤ x ∧ x < off + 1 + bytes := by omega
      have power : x - off = x - (off + 1) + 1 := by omega
      simp only [store, if_pos here, if_pos there]
      rw [power, Nat.pow_succ', Nat.div_div_eq_div_mul]
    have first : (store m off (bytes + 1) v off).toNat = v % 256 := by
      simp [store]
    rw [load, shifted, ih, first, Nat.pow_succ', Nat.mod_mul]

theorem load_store_apart (m : Memory) {a b : ℕ × ℕ} (v : ℕ) (apart : Apart a b) :
    load (store m a.1 a.2 v) b.1 b.2 = load m b.1 b.2 := by
  refine load_congr fun x low high => ?_
  have outside : ¬(a.1 ≤ x ∧ x < a.1 + a.2) := by
    simp only [Apart] at apart
    omega
  simp only [store, if_neg outside]

/-- An object at 0. -/
def CType.read (t : CType ν) (m : Memory) (p : Path ν) : Option ℕ :=
  (t.locate p).map fun a => load m a.1 a.2

def CType.write (t : CType ν) (m : Memory) (w : Path ν × ℕ) : Memory :=
  match t.locate w.1 with
  | some a => store m a.1 a.2 w.2
  | none => m

/-- What was written to a path last, if anything was. -/
def lastWritten (p : Path ν) : List (Path ν × ℕ) → Option ℕ
  | [] => none
  | w :: ws => (lastWritten p ws).or (if w.1 = p then some w.2 else none)

theorem CType.read_write_other (t : CType ν) (m : Memory) {w : Path ν × ℕ} {p : Path ν}
    (other : w.1 ≠ p) : t.read (t.write m w) p = t.read m p := by
  simp only [CType.read, CType.write]
  cases place : t.locate w.1 with
  | none => rfl
  | some a =>
    cases here : t.locate p with
    | none => rfl
    | some b =>
      have apart := t.locate_apart w.1 p place here other
      simp only [Option.map_some, load_store_apart m w.2 apart]

theorem CType.read_writes (t : CType ν) (m : Memory) (ws : List (Path ν × ℕ)) {p : Path ν}
    {a : ℕ × ℕ} (found : t.locate p = some a) : t.read (ws.foldl t.write m) p =
      match lastWritten p ws with
      | some v => some (v % 256 ^ a.2)
      | none => t.read m p := by
  induction ws generalizing m with
  | nil => rfl
  | cons w ws ih =>
    rw [List.foldl_cons, ih, lastWritten]
    cases lastWritten p ws with
    | some v => rfl
    | none =>
      by_cases same : w.1 = p
      · simp only [CType.read, CType.write, same, found, if_true, Option.map_some, Option.none_or,
          load_store]
      · simp only [t.read_write_other m same, if_neg same, Option.or_none]

end MattX.StructLayout
