import Mathlib.Data.List.Basic
import Mathlib.Data.Int.Notation
import Mathlib.Order.Lattice
import Mathlib.Algebra.Order.Group.Nat

set_option autoImplicit false

/-!
# What a piece of code touches

Code that works on received buffers is described by the list of its accesses:
the bytes it reads, what it stores into destinations of a fixed size, and the
places of its tables that it looks at.
-/
namespace MattX.BufferAccesses

/-- `beyond i` is what a read at `i` finds if the buffer ends before. -/
structure Buffer where
  bytes : List (BitVec 8)
  beyond : ℕ → BitVec 8

namespace Buffer

def length (b : Buffer) : ℕ := b.bytes.length

def byte (b : Buffer) (i : ℕ) : ℕ := (b.bytes.getD i (b.beyond i)).toNat

/-- Little-endian. -/
def u32 (b : Buffer) (i : ℕ) : ℕ :=
  b.byte i + 256 * (b.byte (i + 1) + 256 * (b.byte (i + 2) + 256 * b.byte (i + 3)))

def u64 (b : Buffer) (i : ℕ) : ℕ := b.u32 i + 4294967296 * b.u32 (i + 4)

theorem byte_lt (b : Buffer) (i : ℕ) : b.byte i < 256 := (b.bytes.getD i (b.beyond i)).isLt

theorem u32_lt (b : Buffer) (i : ℕ) : b.u32 i < 4294967296 := by
  have first := b.byte_lt i
  have second := b.byte_lt (i + 1)
  have third := b.byte_lt (i + 2)
  have fourth := b.byte_lt (i + 3)
  simp only [u32]
  omega

theorem u64_lt (b : Buffer) (i : ℕ) : b.u64 i < 18446744073709551616 := by
  have low := b.u32_lt i
  have high := b.u32_lt (i + 4)
  simp only [u64]
  omega

end Buffer

/-- `string`: bytes up to the first NUL. `strscpy`: the same, but at most `size`. -/
inductive Access where
  | bytes (b : Buffer) (off len : ℕ)
  | string (b : Buffer) (off : ℕ)
  | strscpy (b : Buffer) (off size : ℕ)
  | store (room count : ℕ)
  | index (size : ℕ) (i : ℤ)

/-- Nothing is read of no bytes. -/
def Access.Inside : Access → Prop
  | .bytes b off len => len = 0 ∨ off + len ≤ b.length
  | .string b off => 0 ∈ b.bytes.drop off
  | .strscpy b off size => off + size ≤ b.length ∨ 0 ∈ b.bytes.drop off
  | .store room count => count ≤ room
  | .index size i => 0 ≤ i ∧ i < size

instance : DecidablePred Access.Inside
  | .bytes b off len => inferInstanceAs (Decidable (len = 0 ∨ off + len ≤ b.length))
  | .string b off => inferInstanceAs (Decidable (0 ∈ b.bytes.drop off))
  | .strscpy b off size =>
    inferInstanceAs (Decidable (off + size ≤ b.length ∨ 0 ∈ b.bytes.drop off))
  | .store room count => inferInstanceAs (Decidable (count ≤ room))
  | .index size i => inferInstanceAs (Decidable (0 ≤ i ∧ i < size))

def AllInside (as : List Access) : Prop := ∀ a ∈ as, a.Inside

instance (as : List Access) : Decidable (AllInside as) :=
  inferInstanceAs (Decidable (∀ a ∈ as, a.Inside))

@[simp] theorem inside_bytes (b : Buffer) (off len : ℕ) :
    (Access.bytes b off len).Inside ↔ len = 0 ∨ off + len ≤ b.length := Iff.rfl

@[simp] theorem inside_string (b : Buffer) (off : ℕ) :
    (Access.string b off).Inside ↔ 0 ∈ b.bytes.drop off := Iff.rfl

@[simp] theorem inside_strscpy (b : Buffer) (off size : ℕ) :
    (Access.strscpy b off size).Inside ↔ off + size ≤ b.length ∨ 0 ∈ b.bytes.drop off := Iff.rfl

@[simp] theorem inside_store (room count : ℕ) : (Access.store room count).Inside ↔ count ≤ room :=
  Iff.rfl

@[simp] theorem inside_index (size : ℕ) (i : ℤ) :
    (Access.index size i).Inside ↔ 0 ≤ i ∧ i < size := Iff.rfl

@[simp] theorem allInside_nil : AllInside [] := List.forall_mem_nil _

@[simp] theorem allInside_cons (a : Access) (as : List Access) :
    AllInside (a :: as) ↔ a.Inside ∧ AllInside as := List.forall_mem_cons

@[simp] theorem allInside_append (as bs : List Access) :
    AllInside (as ++ bs) ↔ AllInside as ∧ AllInside bs := List.forall_mem_append

@[simp] theorem allInside_ite (c : Prop) [Decidable c] (as bs : List Access) :
    AllInside (if c then as else bs) ↔ (c → AllInside as) ∧ (¬c → AllInside bs) := by
  by_cases h : c <;> simp [h]

theorem string_ends {b : Buffer} {off : ℕ} (h : (Access.string b off).Inside) :
    off < b.length := by
  by_contra short
  simp only [inside_string] at h
  rw [List.drop_eq_nil_of_le (Nat.not_lt.mp short)] at h
  simp at h

/-! ### Structures -/

/-- The fields of a structure, each with its offset and its size. -/
abbrev Layout := List (ℕ × ℕ)

def read (b : Buffer) (fields : Layout) : List Access := fields.map fun f => .bytes b f.1 f.2

def reach (fields : Layout) : ℕ := (fields.map fun f => f.1 + f.2).foldr max 0

theorem reach_le (fields : Layout) (n : ℕ) : reach fields ≤ n ↔ ∀ f ∈ fields, f.1 + f.2 ≤ n := by
  induction fields with
  | nil => simp [reach]
  | cons f fields ih =>
    change max (f.1 + f.2) (reach fields) ≤ n ↔ _
    simp only [max_le_iff, ih, List.forall_mem_cons]

/-- A structure without empty fields is read inside if its last byte is. -/
theorem allInside_read (b : Buffer) (fields : Layout) (sized : ∀ f ∈ fields, 0 < f.2) :
    AllInside (read b fields) ↔ reach fields ≤ b.length := by
  rw [reach_le]
  constructor
  · intro inside f member
    have here := inside _ (List.mem_map_of_mem member)
    have some := sized f member
    simp only [inside_bytes] at here
    omega
  · intro fits a member
    obtain ⟨f, found, rfl⟩ := List.mem_map.mp member
    exact Or.inr (fits f found)

/-! ### Arrays of records -/

/-- What is done for each of the first `n` records. -/
def each (n : ℕ) (record : ℕ → List Access) : List Access := (List.range n).flatMap record

theorem allInside_each (n : ℕ) (record : ℕ → List Access) :
    AllInside (each n record) ↔ ∀ i < n, AllInside (record i) := by
  simp only [AllInside, each, List.mem_flatMap, List.mem_range]
  constructor
  · intro inside i small a member
    exact inside a ⟨i, small, member⟩
  · intro inside a member
    obtain ⟨i, small, found⟩ := member
    exact inside i small a found

/-- Only the last record of an array matters. -/
theorem records_le (base stride k n length : ℕ) :
    (∀ i < n, base + stride * i + k ≤ length) ↔ n = 0 ∨ base + stride * (n - 1) + k ≤ length := by
  constructor
  · intro all
    by_cases none : n = 0
    · exact Or.inl none
    · exact Or.inr (all (n - 1) (by omega))
  · intro last i small
    have below : stride * i ≤ stride * (n - 1) := Nat.mul_le_mul_left _ (by omega)
    omega

end MattX.BufferAccesses
