import MattX.MigrationImage

set_option autoImplicit false

/-!
# What the hole carver maps

For a range of the return blueprint the carver looks at one mapping of the
deputy, the first that ends after the start of the range, and maps one piece
of the range at most.
-/
namespace MattX.HoleCarver
open SpanLayout MigrationPump MigrationImage

/-- One turn of the loop without MPI support; an error of `vm_mmap` is only printed. -/
def carveVma (mapped : Bool) (s : AddressSpace) (v : VmaInfo) : AddressSpace :=
  if mapped then carve false s v else s

/-- Afterwards all of the range is mapped, and what was mapped keeps its bytes, whatever these
are. -/
structure GapsFilled (mapped : Bool) (vmas : Layout) (v : VmaInfo) : Prop where
  covered : ∀ mem x, v.vmStart ≤ x → x < v.vmEnd → (carveVma mapped ⟨vmas, mem⟩ v).vmas.Covers x
  kept : ∀ mem x, vmas.Covers x → (carveVma mapped ⟨vmas, mem⟩ v).mem x = mem x

/-- The mapping that is looked at leaves one gap: before it, and then the range is mapped from there
to its end, or behind it, and then nothing more of the range is mapped. -/
def OneGap (vmas : Layout) (start stop : ℕ) : Prop :=
  ∀ w ∈ vmas.endingAfter start, w.1 < stop →
    (start < w.1 → ∀ x, w.1 ≤ x → x < stop → vmas.Covers x) ∧
      (w.1 ≤ start → ∀ x, w.2 ≤ x → x < stop → ¬vmas.Covers x)

/-! ### The mapping that is looked at -/

theorem endingAfter_covers {vmas : Layout} {x y : ℕ} {w : ℕ × ℕ}
    (found : vmas.endingAfter x = some w) (low : w.1 ≤ y) (high : y < w.2) : vmas.Covers y :=
  ⟨w, List.mem_of_find?_eq_some found, low, high⟩

/-- Nothing lies between the start of the range and the mapping that is found. -/
theorem endingAfter_first {vmas : Layout} {x y : ℕ} {w : ℕ × ℕ}
    (found : vmas.endingAfter x = some w) (low : x ≤ y) (high : y < w.1) : ¬vmas.Covers y := by
  intro covers
  obtain ⟨v, mem, start, stop⟩ := covers
  obtain ⟨-, before, after, spans, earlier⟩ := List.find?_eq_some_iff_append.mp found
  have sorted := vmas.sorted
  rw [spans] at mem sorted
  rcases List.mem_append.mp mem with here | here
  · have ended := earlier v here
    simp only [Bool.not_eq_true', decide_eq_false_iff_not] at ended
    omega
  · have later := (List.pairwise_cons.mp (List.pairwise_append.mp sorted).2.1).1
    cases here with
    | head => omega
    | tail _ here =>
      have apart := later v here
      have some := vmas.nonempty w (List.mem_of_find?_eq_some found)
      omega

theorem endingAfter_none {vmas : Layout} {x y : ℕ} (found : vmas.endingAfter x = none)
    (low : x ≤ y) : ¬vmas.Covers y := by
  intro covers
  obtain ⟨v, mem, start, stop⟩ := covers
  have ended := List.find?_eq_none.mp found v mem
  simp only [decide_eq_true_eq] at ended
  omega

/-! ### The piece that is mapped -/

theorem inHole_iff (vmas : Layout) (v : VmaInfo) (x : ℕ) : inHole false vmas v x = true ↔
    ∃ h ∈ hole false vmas v.vmStart v.vmEnd, h.1 ≤ x ∧ x < h.2 := by
  cases found : hole false vmas v.vmStart v.vmEnd with
  | none => simp [inHole, found]
  | some h => simp [inHole, found]

/-- What is mapped are the gaps, and all of them, exactly if there is one at most. -/
theorem exact_iff_oneGap (vmas : Layout) (v : VmaInfo) :
    (∀ x, v.vmStart ≤ x → x < v.vmEnd → (inHole false vmas v x = true ↔ ¬vmas.Covers x)) ↔
      OneGap vmas v.vmStart v.vmEnd := by
  simp only [inHole_iff, hole, OneGap, Bool.false_eq_true, if_false]
  cases found : vmas.endingAfter v.vmStart with
  | none =>
    have empty (x : ℕ) (low : v.vmStart ≤ x) := endingAfter_none found low
    simp only [Option.mem_def, Option.some.injEq, exists_eq_left', reduceCtorEq, false_implies,
      implies_true, iff_true]
    intro x low high
    exact iff_of_true ⟨low, high⟩ (empty x low)
  | some w =>
    have after := endingAfter_after found
    have within (x : ℕ) (low : w.1 ≤ x) (high : x < w.2) := endingAfter_covers found low high
    have before (x : ℕ) (low : v.vmStart ≤ x) (high : x < w.1) := endingAfter_first found low high
    simp only [Option.mem_def, Option.some.injEq, forall_eq']
    split_ifs with beyond gap tail
    · -- the range is missing as a whole
      simp only [Option.some.injEq, exists_eq_left']
      constructor
      · intro _ overlap
        omega
      · intro _ x low high
        exact iff_of_true ⟨low, high⟩ (before x low (by omega))
    · -- missing at the beginning
      simp only [Option.some.injEq, exists_eq_left']
      constructor
      · intro exact overlap
        refine ⟨fun _ x low high => ?_, fun start => by omega⟩
        by_contra missing
        have inside := (exact x (by omega) high).mpr missing
        omega
      · intro one x low high
        have rest := (one (by omega)).1 gap
        by_cases early : x < w.1
        · exact iff_of_true ⟨low, early⟩ (before x low early)
        · exact iff_of_false (by omega) (not_not.mpr (rest x (by omega) high))
    · -- missing at the end
      simp only [Option.some.injEq, exists_eq_left']
      constructor
      · intro exact overlap
        refine ⟨fun start => absurd start gap, fun _ x low high => ?_⟩
        exact (exact x (by omega) high).mp ⟨low, high⟩
      · intro one x low high
        have rest := (one (by omega)).2 (by omega)
        by_cases early : x < w.2
        · exact iff_of_false (by omega) (not_not.mpr (within x (by omega) early))
        · exact iff_of_true ⟨by omega, high⟩ (rest x (by omega) high)
    · -- the mapping has it all
      simp only [false_and, exists_false, false_iff, not_not]
      constructor
      · intro _ overlap
        exact ⟨fun start => absurd start gap, fun _ x low high => by omega⟩
      · intro _ x low high
        exact within x (by omega) (by omega)

/-! ### One range -/

theorem carve_empty {v : VmaInfo} (empty : v.vmEnd ≤ v.vmStart) (s : AddressSpace) :
    carve false s v = s := by
  simp only [carve]
  cases found : hole false s.vmas v.vmStart v.vmEnd with
  | none => rfl
  | some h =>
    have nothing : ¬h.1 < h.2 := by
      simp only [hole] at found
      split at found
      · rename_i w first
        have after := endingAfter_after first
        simp only [Bool.false_eq_true, if_false] at found
        split_ifs at found <;> obtain rfl := Option.some.inj found <;> simp only <;> omega
      · obtain rfl := Option.some.inj found
        exact Nat.not_lt.mpr empty
    simp only [vmMmap, dif_neg nothing]

/-- What is not mapped by the carver keeps its byte, and what is gets a zero. -/
theorem kept_iff {v : VmaInfo} (proper : v.vmStart < v.vmEnd) (vmas : Layout) (x : ℕ) :
    (∀ mem, (carve false ⟨vmas, mem⟩ v).mem x = mem x) ↔ inHole false vmas v x = false := by
  constructor
  · intro kept
    have byte := kept fun _ => 1
    rw [carve_mem false _ proper] at byte
    by_contra mapped
    rw [Bool.not_eq_false] at mapped
    simp [mapped] at byte
  · intro outside mem
    rw [carve_mem false _ proper]
    simp [outside]

theorem inHole_range {v : VmaInfo} (proper : v.vmStart < v.vmEnd) {vmas : Layout} {x : ℕ}
    (mapped : inHole false vmas v x = true) : v.vmStart ≤ x ∧ x < v.vmEnd := by
  obtain ⟨h, found, low, high⟩ := (inHole_iff vmas v x).mp mapped
  have inside := hole_inside proper found
  omega

/-- The range is filled without touching what is there exactly if it has one gap at most, and is
wholly there already where `vm_mmap` fails. -/
theorem gapsFilled_iff (mapped : Bool) (vmas : Layout) (v : VmaInfo) :
    GapsFilled mapped vmas v ↔
      (if mapped then OneGap vmas v.vmStart v.vmEnd
        else ∀ x, v.vmStart ≤ x → x < v.vmEnd → vmas.Covers x) := by
  cases mapped with
  | false =>
    simp only [Bool.false_eq_true, if_false]
    constructor
    · intro filled x low high
      exact filled.covered (fun _ => 0) x low high
    · intro there
      exact ⟨fun _ x low high => there x low high, fun _ _ _ => rfl⟩
  | true =>
    simp only [if_true]
    by_cases proper : v.vmStart < v.vmEnd
    · rw [← exact_iff_oneGap]
      constructor
      · intro filled x low high
        constructor
        · intro hole covers
          have keeps := (kept_iff proper vmas x).mp fun mem => filled.kept mem x covers
          rw [keeps] at hole
          cases hole
        · intro missing
          have now := (carve_covers false ⟨vmas, fun _ => 0⟩ proper x).mp
            (filled.covered (fun _ => 0) x low high)
          exact now.resolve_right missing
      · intro exact
        constructor
        · intro mem x low high
          refine (carve_covers false ⟨vmas, mem⟩ proper x).mpr ?_
          by_cases covers : vmas.Covers x
          · exact Or.inr covers
          · exact Or.inl ((exact x low high).mpr covers)
        · intro mem x covers
          refine (kept_iff proper vmas x).mpr ?_ mem
          rw [← Bool.not_eq_true]
          intro hole
          have range := inHole_range proper hole
          exact (exact x range.1 range.2).mp hole covers
    · have empty : v.vmEnd ≤ v.vmStart := by omega
      constructor
      · intro _ w found overlap
        have after := endingAfter_after found
        exact ⟨fun start => by omega, fun _ x low high => by omega⟩
      · intro _
        refine ⟨fun mem x low high => by omega, fun mem x _ => ?_⟩
        simp only [carveVma, if_true, carve_empty empty]

/-- A deputy that has the middle page of three. -/
def middlePage : Layout := ⟨[(8192, 12288)], by simp, by simp⟩

def threePages : VmaInfo := ⟨4096, 16384, ⟨true, true, false, false⟩, false⟩

/-- The last page stays unmapped. -/
theorem last_page_is_missing :
    hole false middlePage 4096 16384 = some (4096, 8192) ∧
      ¬GapsFilled true middlePage threePages := by
  refine ⟨by decide, fun filled => ?_⟩
  have last := filled.covered (fun _ => 0) 12288 (by decide) (by decide)
  exact absurd last (by decide)

/-! ### The whole blueprint -/

theorem ranges_apart (req : Blueprint) {v w : VmaInfo} (hv : v ∈ req.vmas) (hw : w ∈ req.vmas) :
    v = w ∨ v.vmEnd ≤ w.vmStart ∨ w.vmEnd ≤ v.vmStart :=
  List.Pairwise.forall_of_forall_of_flip
    (R := fun a b : VmaInfo => a = b ∨ a.vmEnd ≤ b.vmStart ∨ b.vmEnd ≤ a.vmStart)
    (fun _ _ => Or.inl rfl) (req.sorted.imp fun h => Or.inr (Or.inl h))
    (req.sorted.imp fun h => Or.inr (Or.inr h)) hv hw

/-- The loop fills every range of the blueprint exactly if each has one gap at most in the deputy
that there was. -/
theorem carveAll_fills (deputy : Layout) (req : Blueprint) :
    ((∀ v ∈ req.vmas, ∀ mem x, v.vmStart ≤ x → x < v.vmEnd →
          (req.vmas.foldl (carveVma true) ⟨deputy, mem⟩).vmas.Covers x) ∧
        ∀ mem x, deputy.Covers x → (req.vmas.foldl (carveVma true) ⟨deputy, mem⟩).mem x = mem x) ↔
      ∀ v ∈ req.vmas, OneGap deputy v.vmStart v.vmEnd := by
  have same : carveVma true = carve false := by
    funext s v
    simp only [carveVma, if_true]
  have spec (mem : ℕ → UInt8) (x : ℕ) :=
    carveAll false ⟨deputy, mem⟩ req.vmas req.nonempty req.sorted x
  have member (x : ℕ) : carved false deputy req.vmas x = true ↔
      ∃ v ∈ req.vmas, inHole false deputy v x = true := by
    simp only [carved, List.any_eq_true]
  simp only [same, spec, ← exact_iff_oneGap]
  constructor
  · rintro ⟨covered, kept⟩ v mem x low high
    have untouched (covers : deputy.Covers x) : carved false deputy req.vmas x = false := by
      have byte := kept (fun _ => 1) x covers
      by_contra mapped
      rw [Bool.not_eq_false] at mapped
      simp [mapped] at byte
    constructor
    · intro hole covers
      have mapped := (member x).mpr ⟨v, mem, hole⟩
      rw [untouched covers] at mapped
      cases mapped
    · intro missing
      -- the piece that has the address belongs to this range, for the others lie apart
      obtain ⟨w, there, hole⟩ := (member x).mp
        ((covered v mem (fun _ => 0) x low high).resolve_right missing)
      have range := inHole_range (req.nonempty w there) hole
      have own : w = v := by
        by_contra other
        have apart := (ranges_apart req mem there).resolve_left (Ne.symm other)
        omega
      rw [← own]
      exact hole
  · intro exact
    refine ⟨fun v mem bytes x low high => ?_, fun bytes x covers => ?_⟩
    · by_cases covers : deputy.Covers x
      · exact Or.inr covers
      · exact Or.inl ((member x).mpr ⟨v, mem, (exact v mem x low high).mpr covers⟩)
    · have untouched : carved false deputy req.vmas x = false := by
        rw [← Bool.not_eq_true]
        intro mapped
        obtain ⟨v, mem, hole⟩ := (member x).mp mapped
        have range := inHole_range (req.nonempty v mem) hole
        exact (exact v mem x range.1 range.2).mp hole covers
      simp [untouched]

end MattX.HoleCarver
