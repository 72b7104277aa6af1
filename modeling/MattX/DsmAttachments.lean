import MattX.DsmTypes
import Mathlib.Data.List.Pairwise
import Mathlib.Data.List.Basic
import Mathlib.Tactic.SplitIfs
import Mathlib.Tactic.Common

set_option autoImplicit false

/-!
# The segments a process has attached

The areas of one address space that lie on System V segments, in address
order. `shmat` puts a new area in, over whatever it replaces with `SHM_REMAP`,
and `shmdt` takes the areas of one attachment out.
-/
namespace MattX.DsmTranslation

/-- A `vm_area_struct` on a segment. The inode number of its file is the segment's id. -/
structure Area where
  vmStart : ℕ
  vmEnd : ℕ
  vmPgoff : ℕ
  shmid : ℕ
  vmFile : ℕ
  low : 0 < vmStart
  nonempty : vmStart < vmEnd
  startAligned : pageSize ∣ vmStart
  endAligned : pageSize ∣ vmEnd

namespace Area

def length (a : Area) : ℕ := a.vmEnd - a.vmStart

def Covers (a : Area) (addr : ℕ) : Prop := a.vmStart ≤ addr ∧ addr < a.vmEnd

instance (a : Area) (addr : ℕ) : Decidable (a.Covers addr) :=
  inferInstanceAs (Decidable (a.vmStart ≤ addr ∧ addr < a.vmEnd))

/-- The two areas have an address in common. -/
def Meets (a b : Area) : Prop := a.vmStart < b.vmEnd ∧ b.vmStart < a.vmEnd

instance (a b : Area) : Decidable (a.Meets b) :=
  inferInstanceAs (Decidable (a.vmStart < b.vmEnd ∧ b.vmStart < a.vmEnd))

/-- The page of the segment that the area has at an address. -/
def pageAt (a : Area) (addr : ℕ) : ℕ := a.vmPgoff + (addr - a.vmStart) / pageSize

/-- What stays of `x` below a new area `a`. -/
def below (a x : Area) : Option Area :=
  if x.vmEnd ≤ a.vmStart then some x
  else if h : x.vmStart < a.vmStart then
    some { x with vmEnd := a.vmStart, nonempty := h, endAligned := a.startAligned }
  else none

/-- What stays of `x` above it; the rest of the segment goes on where it was. -/
def above (a x : Area) : Option Area :=
  if a.vmEnd ≤ x.vmStart then some x
  else if h : a.vmEnd < x.vmEnd then
    some { x with
      vmStart := a.vmEnd
      vmPgoff := x.vmPgoff + (a.vmEnd - x.vmStart) / pageSize
      low := Nat.lt_of_le_of_lt (Nat.zero_le _) a.nonempty
      nonempty := h
      startAligned := a.endAligned }
  else none

end Area

structure AddressSpace where
  areas : List Area
  ordered : areas.Pairwise fun a b => a.vmEnd ≤ b.vmStart

theorem Area.below_range {a x y : Area} (h : a.below x = some y) :
    x.vmStart = y.vmStart ∧ y.vmEnd ≤ x.vmEnd ∧ y.vmEnd ≤ a.vmStart := by
  simp only [Area.below] at h
  split_ifs at h with clear cut
  · cases h
    exact ⟨rfl, Nat.le_refl _, clear⟩
  · cases h
    dsimp only
    omega

theorem Area.above_range {a x y : Area} (h : a.above x = some y) :
    x.vmStart ≤ y.vmStart ∧ y.vmEnd = x.vmEnd ∧ a.vmEnd ≤ y.vmStart := by
  simp only [Area.above] at h
  split_ifs at h with clear cut
  · cases h
    exact ⟨Nat.le_refl _, rfl, clear⟩
  · cases h
    dsimp only
    omega

theorem Area.below_cut {a x : Area} (meets : x.Meets a) (cut : x.vmStart < a.vmStart) :
    ∃ y, a.below x = some y ∧ y.vmStart = x.vmStart ∧ y.vmEnd = a.vmStart := by
  have notBelow : ¬x.vmEnd ≤ a.vmStart := by
    have right := meets.2
    omega
  cases found : a.below x with
  | none =>
    simp only [Area.below, if_neg notBelow, dif_pos cut] at found
    cases found
  | some y =>
    simp only [Area.below, if_neg notBelow, dif_pos cut] at found
    cases found
    exact ⟨_, rfl, rfl, rfl⟩

theorem Area.above_cut {a x : Area} (meets : x.Meets a) (cut : a.vmEnd < x.vmEnd) :
    ∃ y, a.above x = some y ∧ y.vmStart = a.vmEnd ∧ y.vmEnd = x.vmEnd ∧
      y.vmPgoff = x.vmPgoff + (a.vmEnd - x.vmStart) / pageSize := by
  have notAbove : ¬a.vmEnd ≤ x.vmStart := by
    have left := meets.1
    omega
  cases found : a.above x with
  | none =>
    simp only [Area.above, if_neg notAbove, dif_pos cut] at found
    cases found
  | some y =>
    simp only [Area.above, if_neg notAbove, dif_pos cut] at found
    cases found
    exact ⟨_, rfl, rfl, rfl, rfl⟩

namespace AddressSpace

/-- The area of an address. -/
def areaAt (m : AddressSpace) (addr : ℕ) : Option Area := m.areas.find? fun a => a.Covers addr

/-- The first area of a segment, where every search through the deputy stops. -/
def firstOf (m : AddressSpace) (shmid : ℕ) : Option Area := m.areas.find? fun a => a.shmid == shmid

/-- The segment and the page of it that are mapped at an address. -/
def segmentPage (m : AddressSpace) (addr : ℕ) : Option (ℕ × ℕ) :=
  (m.areaAt addr).map fun a => (a.shmid, a.pageAt addr)

/-- `shmat`: the new area replaces what was mapped in its place. -/
def attach (m : AddressSpace) (a : Area) : AddressSpace where
  areas := m.areas.filterMap a.below ++ a :: m.areas.filterMap a.above
  ordered := by
    have kept := m.ordered
    rw [List.pairwise_append, List.pairwise_cons]
    refine ⟨?_, ⟨?_, ?_⟩, ?_⟩
    · refine kept.filterMap _ fun x y apart x' hx y' hy => ?_
      have left := Area.below_range hx
      have right := Area.below_range hy
      omega
    · intro y hy
      obtain ⟨x, -, hx⟩ := List.mem_filterMap.mp hy
      exact (Area.above_range hx).2.2
    · refine kept.filterMap _ fun x y apart x' hx y' hy => ?_
      have left := Area.above_range hx
      have right := Area.above_range hy
      omega
    · intro x hx y hy
      obtain ⟨x', -, hx'⟩ := List.mem_filterMap.mp hx
      have left := Area.below_range hx'
      cases hy with
      | head => exact left.2.2
      | tail _ hy =>
        obtain ⟨y', -, hy'⟩ := List.mem_filterMap.mp hy
        have right := Area.above_range hy'
        have some := a.nonempty
        omega

/-- `shmdt` looks for an area that lies as far above the address as it lies in the segment. -/
def detachHit (addr : ℕ) (a : Area) : Bool :=
  decide (addr ≤ a.vmStart) && (a.vmStart - addr) / pageSize == a.vmPgoff

/-- The area `shmdt` finds for an address, which has to be that of a page. -/
def detached (m : AddressSpace) (addr : ℕ) : Option Area :=
  if pageSize ∣ addr then m.areas.find? (detachHit addr) else none

/-- With it goes every area of the same file that lies right; `none` is `EINVAL`. -/
def detach (m : AddressSpace) (addr : ℕ) : Option AddressSpace :=
  (m.detached addr).map fun hit =>
    { areas := m.areas.filter fun a => !(detachHit addr a && a.vmFile == hit.vmFile)
      ordered := m.ordered.filter _ }

/-- Of each segment the first area is a longest one. -/
def FirstLongest (m : AddressSpace) : Prop :=
  ∀ a ∈ m.areas, ∀ f ∈ m.firstOf a.shmid, a.length ≤ f.length

/-! ### Where the areas are -/

def Covers (m : AddressSpace) (addr : ℕ) : Prop := ∃ a ∈ m.areas, a.Covers addr

variable {m : AddressSpace}

theorem apart {a b : Area} (ha : a ∈ m.areas) (hb : b ∈ m.areas) :
    a = b ∨ a.vmEnd ≤ b.vmStart ∨ b.vmEnd ≤ a.vmStart := by
  by_cases same : a = b
  · exact Or.inl same
  · have either : m.areas.Pairwise fun a b => a.vmEnd ≤ b.vmStart ∨ b.vmEnd ≤ a.vmStart :=
      m.ordered.imp Or.inl
    have symm : Std.Symm fun a b : Area => a.vmEnd ≤ b.vmStart ∨ b.vmEnd ≤ a.vmStart :=
      ⟨fun _ _ h => h.symm⟩
    exact Or.inr (either.forall ha hb same)

theorem unique (addr : ℕ) {a b : Area} (ha : a ∈ m.areas) (hb : b ∈ m.areas)
    (ca : a.Covers addr) (cb : b.Covers addr) : a = b := by
  rcases apart ha hb with same | before
  · exact same
  · have left := ca.1
    have right := ca.2
    have left' := cb.1
    have right' := cb.2
    omega

theorem areaAt_eq_some {a : Area} {addr : ℕ} :
    m.areaAt addr = some a ↔ a ∈ m.areas ∧ a.Covers addr := by
  constructor
  · intro found
    have covers := List.find?_some found
    exact ⟨List.mem_of_find?_eq_some found, of_decide_eq_true covers⟩
  · intro h
    cases found : m.areaAt addr with
    | none =>
      have missed := List.find?_eq_none.mp found a h.1
      simp [h.2] at missed
    | some b =>
      have mem := List.mem_of_find?_eq_some found
      have covers := List.find?_some found
      rw [unique addr mem h.1 (of_decide_eq_true covers) h.2]

theorem firstOf_mem {shmid : ℕ} {f : Area} (h : m.firstOf shmid = some f) :
    f ∈ m.areas ∧ f.shmid = shmid :=
  ⟨List.mem_of_find?_eq_some h, by simpa using List.find?_some h⟩

theorem exists_firstOf {a : Area} (h : a ∈ m.areas) : ∃ f, m.firstOf a.shmid = some f := by
  cases found : m.firstOf a.shmid with
  | none =>
    have missed := List.find?_eq_none.mp found a h
    simp at missed
  | some f => exact ⟨f, rfl⟩

/-! ### What an attachment leaves -/

theorem mem_attach {a x : Area} : x ∈ (m.attach a).areas ↔
    x = a ∨ ∃ y ∈ m.areas, a.below y = some x ∨ a.above y = some x := by
  simp only [attach, List.mem_append, List.mem_cons, List.mem_filterMap]
  constructor
  · rintro (⟨y, mem, below⟩ | same | ⟨y, mem, above⟩)
    · exact Or.inr ⟨y, mem, Or.inl below⟩
    · exact Or.inl same
    · exact Or.inr ⟨y, mem, Or.inr above⟩
  · rintro (same | ⟨y, mem, below | above⟩)
    · exact Or.inr (Or.inl same)
    · exact Or.inl ⟨y, mem, below⟩
    · exact Or.inr (Or.inr ⟨y, mem, above⟩)

theorem attach_self (m : AddressSpace) (a : Area) : a ∈ (m.attach a).areas :=
  mem_attach.mpr (Or.inl rfl)

theorem attach_unmet {a x : Area} (h : x ∈ m.areas) (clear : ¬x.Meets a) :
    x ∈ (m.attach a).areas := by
  refine mem_attach.mpr (Or.inr ⟨x, h, ?_⟩)
  have left := x.nonempty
  have right := a.nonempty
  simp only [Area.Meets] at clear
  by_cases before : x.vmEnd ≤ a.vmStart
  · exact Or.inl (if_pos before)
  · exact Or.inr (if_pos (by omega))

/-- The end of an area that the new one only starts to cover stays behind, with its offset. -/
theorem attach_tail {a x : Area} (h : x ∈ m.areas) (meets : x.Meets a) (ends : a.vmEnd < x.vmEnd) :
    ∃ t ∈ (m.attach a).areas, t.Covers a.vmEnd ∧ t.vmPgoff ≠ 0 := by
  obtain ⟨t, piece, starts, stops, offset⟩ := Area.above_cut meets ends
  refine ⟨t, mem_attach.mpr (Or.inr ⟨x, h, Or.inr piece⟩), ⟨by omega, by omega⟩, ?_⟩
  have left := meets.1
  obtain ⟨i, stop⟩ := a.endAligned
  obtain ⟨j, start⟩ := x.startAligned
  simp only [pageSize] at stop start offset
  omega

/-- When each area that is met lies inside the new one, all the others are left. -/
theorem mem_attach_of_inside {a x : Area}
    (inside : ∀ y ∈ m.areas, y.Meets a → a.vmStart ≤ y.vmStart ∧ y.vmEnd ≤ a.vmEnd) :
    x ∈ (m.attach a).areas ↔ x = a ∨ x ∈ m.areas ∧ ¬x.Meets a := by
  constructor
  · intro mem
    rcases mem_attach.mp mem with same | ⟨y, mem, piece⟩
    · exact Or.inl same
    · refine Or.inr ?_
      have bounds := inside y mem
      have left := y.nonempty
      have right := a.nonempty
      simp only [Area.Meets] at bounds ⊢
      rcases piece with below | above
      · simp only [Area.below] at below
        split_ifs at below with clear cut
        · cases below
          exact ⟨mem, by omega⟩
        · omega
      · simp only [Area.above] at above
        split_ifs at above with clear cut
        · cases above
          exact ⟨mem, by omega⟩
        · omega
  · intro h
    rcases h with same | ⟨mem, clear⟩
    · rw [same]
      exact attach_self m a
    · exact attach_unmet mem clear

theorem attach_covers {a : Area} {addr : ℕ} :
    (m.attach a).Covers addr ↔ a.Covers addr ∨ m.Covers addr := by
  constructor
  · intro h
    obtain ⟨x, mem, covers⟩ := h
    rcases mem_attach.mp mem with same | ⟨y, mem, piece⟩
    · exact Or.inl (same ▸ covers)
    · refine Or.inr ⟨y, mem, ?_⟩
      have left := covers.1
      have right := covers.2
      rcases piece with below | above
      · have range := Area.below_range below
        exact ⟨by omega, by omega⟩
      · have range := Area.above_range above
        exact ⟨by omega, by omega⟩
  · intro h
    by_cases new : a.Covers addr
    · exact ⟨a, attach_self m a, new⟩
    · obtain ⟨y, mem, covers⟩ := h.resolve_left new
      have left := covers.1
      have right := covers.2
      simp only [Area.Covers] at new
      by_cases clear : y.Meets a
      · by_cases before : addr < a.vmStart
        · obtain ⟨x, piece, starts, stops⟩ := Area.below_cut clear (by omega)
          exact ⟨x, mem_attach.mpr (Or.inr ⟨y, mem, Or.inl piece⟩), by omega, by omega⟩
        · obtain ⟨x, piece, starts, stops, -⟩ := Area.above_cut clear (by omega)
          exact ⟨x, mem_attach.mpr (Or.inr ⟨y, mem, Or.inr piece⟩), by omega, by omega⟩
      · exact ⟨y, attach_unmet mem clear, covers⟩

/-! ### What a detachment leaves -/

/-- Unless an area lies inside its segment, only the area at the very address goes. -/
theorem detached_eq_some (flat : ∀ a ∈ m.areas, a.vmPgoff = 0) {addr : ℕ} {a : Area} :
    m.detached addr = some a ↔ a ∈ m.areas ∧ a.vmStart = addr := by
  have here : ∀ x ∈ m.areas, pageSize ∣ addr → (detachHit addr x = true ↔ x.vmStart = addr) := by
    intro x mem aligned
    obtain ⟨i, start⟩ := x.startAligned
    obtain ⟨j, page⟩ := aligned
    simp only [detachHit, flat x mem, Bool.and_eq_true, decide_eq_true_eq, beq_iff_eq]
    simp only [pageSize] at start page ⊢
    omega
  simp only [detached]
  constructor
  · intro h
    split_ifs at h with aligned
    have mem := List.mem_of_find?_eq_some h
    exact ⟨mem, (here a mem aligned).mp (List.find?_some h)⟩
  · intro h
    have aligned : pageSize ∣ addr := h.2 ▸ a.startAligned
    rw [if_pos aligned]
    cases found : m.areas.find? (detachHit addr) with
    | none =>
      have missed := List.find?_eq_none.mp found a h.1
      exact absurd ((here a h.1 aligned).mpr h.2) missed
    | some b =>
      have mem := List.mem_of_find?_eq_some found
      have starts := (here b mem aligned).mp (List.find?_some found)
      rw [unique addr mem h.1]
      · exact ⟨by omega, starts ▸ b.nonempty⟩
      · exact ⟨by omega, h.2 ▸ a.nonempty⟩

theorem mem_detach (flat : ∀ a ∈ m.areas, a.vmPgoff = 0) {addr : ℕ} {m' : AddressSpace}
    (h : m.detach addr = some m') {x : Area} :
    x ∈ m'.areas ↔ x ∈ m.areas ∧ x.vmStart ≠ addr := by
  obtain ⟨hit, found, rfl⟩ := Option.map_eq_some_iff.mp h
  have at_addr := (detached_eq_some flat).mp found
  have aligned : pageSize ∣ addr := at_addr.2 ▸ hit.startAligned
  simp only [List.mem_filter, Bool.not_eq_true', Bool.and_eq_false_iff, beq_eq_false_iff_ne]
  constructor
  · intro kept
    refine ⟨kept.1, fun starts => ?_⟩
    have same : x = hit := Option.some.inj
      (((detached_eq_some flat).mpr ⟨kept.1, starts⟩).symm.trans found)
    rcases kept.2 with miss | other
    · obtain ⟨i, start⟩ := x.startAligned
      simp [detachHit, flat x kept.1, starts] at miss
    · exact other (congrArg Area.vmFile same)
  · intro kept
    refine ⟨kept.1, Or.inl ?_⟩
    obtain ⟨i, start⟩ := x.startAligned
    obtain ⟨j, page⟩ := aligned
    have away := kept.2
    simp only [detachHit, flat x kept.1, Bool.and_eq_false_iff, decide_eq_false_iff_not,
      beq_eq_false_iff_ne]
    simp only [pageSize] at start page ⊢
    omega

end AddressSpace
end MattX.DsmTranslation
