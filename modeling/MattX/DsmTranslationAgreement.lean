import MattX.DsmTranslation

set_option autoImplicit false

/-!
# When the two nodes mean the same page

For one address this is a matter of the areas and the entries over it. A
process that arrives in order stays so as long as each call that the deputy
carries out arrives in the surrogate at the same address.
-/
namespace MattX.DsmTranslation
open GuardedRuns GuestRegistry

/-! ### One address -/

theorem faultAddr_le (addr : ℕ) : faultAddr addr ≤ addr := Nat.div_mul_le_self addr pageSize

theorem lt_faultAddr (addr : ℕ) : addr < faultAddr addr + pageSize := by
  simp only [faultAddr, pageSize]
  omega

theorem faultAddr_aligned (addr : ℕ) : pageSize ∣ faultAddr addr := Nat.dvd_mul_left _ _

theorem faultAddr_of_aligned {addr : ℕ} (h : pageSize ∣ addr) : faultAddr addr = addr :=
  Nat.div_mul_cancel h

theorem Area.covers_faultAddr {a : Area} {addr : ℕ} (h : a.Covers addr) :
    a.Covers (faultAddr addr) := by
  obtain ⟨i, start⟩ := a.startAligned
  have low := h.1
  have high := h.2
  have le := faultAddr_le addr
  refine ⟨?_, by omega⟩
  simp only [faultAddr, pageSize] at start ⊢
  omega

/-- Within its page an address has one distance from any page boundary below it. -/
theorem pages_faultAddr (addr : ℕ) {base : ℕ} (aligned : pageSize ∣ base) :
    (faultAddr addr - base) / pageSize = (addr - base) / pageSize := by
  obtain ⟨i, rfl⟩ := aligned
  simp only [faultAddr, pageSize]
  omega

/-- The entry that translates the address, if it is the first of these. -/
def Over (m : DsmMapping) (addr : ℕ) : Prop :=
  m.baseAddr ≤ faultAddr addr ∧ faultAddr addr < m.baseAddr + m.size

instance (m : DsmMapping) (addr : ℕ) : Decidable (Over m addr) :=
  inferInstanceAs (Decidable (m.baseAddr ≤ faultAddr addr ∧ faultAddr addr < m.baseAddr + m.size))

/-- What it takes for one address: `f` is the first area of the segment. -/
structure Fit (s : State) (addr : ℕ) (a f : Area) : Prop where
  mem : a ∈ s.deputy.areas
  covers : a.Covers addr
  flat : a.vmPgoff = 0
  short : (faultAddr addr - a.vmStart) / pageSize < maxDsmPages
  known : ∃ m ∈ s.guest.dsmMap, Over m addr
  right : ∀ m ∈ s.guest.dsmMap, Over m addr → m.baseAddr = a.vmStart ∧ m.shmid = a.shmid
  first : s.deputy.firstOf a.shmid = some f
  firstFlat : f.vmPgoff = 0
  reaches : faultAddr addr - a.vmStart < f.length

theorem translate_eq_some {g : GuestInfo} {addr shmid offset : ℕ}
    (h : translate g addr = some (shmid, offset)) :
    ∃ m ∈ g.dsmMap, Over m addr ∧ m.shmid = shmid ∧ offset = faultAddr addr - m.baseAddr := by
  obtain ⟨d, found, pair⟩ := Option.map_eq_some_iff.mp h
  obtain ⟨same, rfl⟩ := Prod.mk.inj pair
  have holds := SlotTable.find?_holds found
  have here : Over (g.dsmMap.slot d) addr := of_decide_eq_true holds
  exact ⟨_, SlotTable.slot_mem (SlotTable.find?_lt found), here, same, rfl⟩

theorem exists_translate {g : GuestInfo} {addr : ℕ} (h : ∃ m ∈ g.dsmMap, Over m addr) :
    ∃ key, translate g addr = some key := by
  cases found : mappingOver g (faultAddr addr) with
  | none =>
    obtain ⟨m, ⟨i, hi, rfl⟩, here⟩ := h
    have missed := SlotTable.find?_eq_none.mp found i hi
    exact absurd (decide_eq_true here) missed
  | some d => exact ⟨_, congrArg _ found⟩

theorem Fit.translated {s : State} {addr : ℕ} {a f : Area} (h : Fit s addr a f) :
    translate s.guest addr = some (a.shmid, faultAddr addr - a.vmStart) := by
  obtain ⟨⟨shmid, offset⟩, found⟩ := exists_translate h.known
  obtain ⟨m, mem, here, rfl, rfl⟩ := translate_eq_some found
  obtain ⟨base, same⟩ := h.right m mem here
  rw [found, base, same]

theorem Fit.names {s : State} {addr : ℕ} {a f : Area} (h : Fit s addr a f) :
    Names s addr (a.shmid, a.pageAt addr) := by
  have translated := h.translated
  have area := AddressSpace.areaAt_eq_some.mpr ⟨h.mem, h.covers⟩
  have firstMem := AddressSpace.firstOf_mem h.first
  have page : (faultAddr addr - a.vmStart) / pageSize = a.pageAt addr := by
    rw [Area.pageAt, h.flat, Nat.zero_add, pages_faultAddr addr a.startAligned]
  have idx : pageIdx (faultAddr addr - a.vmStart) = some (a.pageAt addr) := by
    rw [pageIdx, if_pos h.short, page]
  have reaches := h.reaches
  simp only [Area.length] at reaches
  have found : hunt s.deputy a.shmid (faultAddr addr - a.vmStart) = some f := by
    rw [hunt, h.first, Option.filter_some, if_pos (decide_eq_true (by omega))]
  refine ⟨?_, ?_, ?_, ?_, ?_, ?_, ?_⟩
  · rw [AddressSpace.segmentPage, area]
    rfl
  · have target : s.deputy.areaAt (f.vmStart + (faultAddr addr - a.vmStart)) = some f :=
      AddressSpace.areaAt_eq_some.mpr ⟨firstMem.1, by omega, by omega⟩
    simp only [fetched, translated, Option.bind_eq_bind, Option.bind_some, found,
      AddressSpace.segmentPage, target, Option.map_some, firstMem.2]
    rw [Area.pageAt, h.firstFlat, Nat.zero_add, Nat.add_sub_cancel_left, page]
  · simp only [flushed, translated, Option.bind_eq_bind, Option.bind_some, h.first, idx,
      firstMem.2]
  · simp only [invalidated, translated, Option.bind_eq_bind, Option.bind_some, idx]
  · simp only [updated, translated, Option.bind_eq_bind, Option.bind_some, found, firstMem.2, page]
  · simp only [checked, area, Option.bind_eq_bind, Option.bind_some, idx]
  · intro shmid p zapped
    obtain ⟨m, mem, rfl, inside, here⟩ := zapped
    obtain ⟨base, same⟩ := h.right m mem ⟨by omega, by omega⟩
    have counted : faultAddr addr - a.vmStart = p * pageSize := by omega
    rw [same, ← page, counted, Nat.mul_div_cancel _ (by decide)]

/-- The other way round: what all places say pins down the area and the entries. -/
theorem Names.fit {s : State} {addr : ℕ} {key : ℕ × ℕ} (h : Names s addr key)
    (aligned : ∀ m ∈ s.guest.dsmMap, pageSize ∣ m.baseAddr) : ∃ a f, Fit s addr a f := by
  obtain ⟨a, area, rfl⟩ := Option.map_eq_some_iff.mp h.mapped
  obtain ⟨mem, covers⟩ := AddressSpace.areaAt_eq_some.mp area
  have inPage := Area.covers_faultAddr covers
  have low := inPage.1
  have samePage := pages_faultAddr addr a.startAligned
  -- the native check counts from the start of the area, so the area starts its segment
  obtain ⟨vma, found, rest⟩ := Option.bind_eq_some_iff.mp h.checked
  obtain ⟨p, idx, pair⟩ := Option.bind_eq_some_iff.mp rest
  rw [area] at found
  cases found
  simp only [pageIdx] at idx
  split_ifs at idx with short
  cases idx
  have flat : a.vmPgoff = 0 := by
    have pages := (Prod.mk.inj (Option.some.inj pair)).2
    simp only [Area.pageAt] at pages
    omega
  -- each entry over the address can be reached by the requests of its own segment
  have right : ∀ m ∈ s.guest.dsmMap, Over m addr → m.baseAddr = a.vmStart ∧ m.shmid = a.shmid := by
    intro m hm here
    obtain ⟨i, base⟩ := aligned m hm
    obtain ⟨j, start⟩ := a.startAligned
    obtain ⟨k, page⟩ := faultAddr_aligned addr
    have under := here.1
    have above := here.2
    have names := h.zapped m.shmid (k - i) ⟨m, hm, rfl, by
      simp only [pageSize] at *
      omega, by
      simp only [pageSize] at *
      omega⟩
    obtain ⟨same, number⟩ := Prod.mk.inj names
    refine ⟨?_, same⟩
    simp only [Area.pageAt, flat, ← samePage] at number
    simp only [pageSize] at *
    omega
  obtain ⟨⟨shmid, offset⟩, translated, rest⟩ := Option.bind_eq_some_iff.mp h.fetched
  obtain ⟨m, hm, here, rfl, rfl⟩ := translate_eq_some translated
  obtain ⟨base, same⟩ := right m hm here
  obtain ⟨f, hunted, target⟩ := Option.bind_eq_some_iff.mp rest
  obtain ⟨first, fits⟩ := Option.filter_eq_some_iff.mp hunted
  have reaches := of_decide_eq_true fits
  have firstMem := AddressSpace.firstOf_mem first
  have lands : s.deputy.areaAt (f.vmStart + (faultAddr addr - m.baseAddr)) = some f :=
    AddressSpace.areaAt_eq_some.mpr ⟨firstMem.1, by omega, reaches⟩
  have firstFlat : f.vmPgoff = 0 := by
    simp only [AddressSpace.segmentPage, lands, Option.map_some] at target
    have pages := (Prod.mk.inj (Option.some.inj target)).2
    simp only [Area.pageAt, flat, Nat.add_sub_cancel_left, base, samePage] at pages
    omega
  refine ⟨a, f, mem, covers, flat, short, ⟨m, hm, here⟩, right, same ▸ first, firstFlat, ?_⟩
  simp only [Area.length]
  omega

/-! ### All addresses -/

/-- Every area starts its segment, fits the arrays and is reached through the first area of the
segment, and the entries over it are its own. -/
structure Orderly (m : AddressSpace) (g : GuestInfo) : Prop where
  flat : ∀ a ∈ m.areas, a.vmPgoff = 0
  short : ∀ a ∈ m.areas, a.length ≤ maxDsmPages * pageSize
  longest : m.FirstLongest
  known : ∀ a ∈ m.areas, ∀ addr, a.Covers addr → ∃ e ∈ g.dsmMap, Over e addr
  right : ∀ a ∈ m.areas, ∀ addr, a.Covers addr → ∀ e ∈ g.dsmMap, Over e addr →
    e.baseAddr = a.vmStart ∧ e.shmid = a.shmid

/-- Every entry is for whole pages, and for one at least. -/
def Aligned (g : GuestInfo) : Prop :=
  ∀ e ∈ g.dsmMap, pageSize ∣ e.baseAddr ∧ pageSize ∣ e.size ∧ 0 < e.size

/-- The last page of an area. -/
def Area.lastPage (a : Area) : ℕ := a.vmEnd - pageSize

theorem Area.lastPage_add (a : Area) : a.lastPage + pageSize = a.vmEnd := by
  obtain ⟨j, stop⟩ := a.endAligned
  have some := a.nonempty
  have whole : pageSize ≤ a.vmEnd := by
    simp only [pageSize] at stop ⊢
    omega
  exact Nat.sub_add_cancel whole

theorem Area.lastPage_covers (a : Area) : a.Covers a.lastPage := by
  obtain ⟨i, start⟩ := a.startAligned
  obtain ⟨j, stop⟩ := a.endAligned
  have some := a.nonempty
  have last := a.lastPage_add
  simp only [Area.Covers, pageSize] at *
  omega

theorem Area.lastPage_aligned (a : Area) : pageSize ∣ a.lastPage := by
  obtain ⟨j, stop⟩ := a.endAligned
  have last := a.lastPage_add
  refine ⟨j - 1, ?_⟩
  simp only [pageSize] at stop last ⊢
  omega

theorem Area.length_aligned (a : Area) : pageSize ∣ a.length :=
  Nat.dvd_sub a.endAligned a.startAligned

/-- Lengths that reach the last page of an area reach its end. -/
theorem Area.length_le {a : Area} {size : ℕ} (aligned : pageSize ∣ size)
    (h : a.lastPage - a.vmStart < size) : a.length ≤ size := by
  obtain ⟨i, rfl⟩ := aligned
  obtain ⟨j, length⟩ := a.length_aligned
  have last := a.lastPage_add
  have covers := a.lastPage_covers.1
  simp only [Area.length, pageSize] at *
  omega

theorem Orderly.fit {s : State} (h : Orderly s.deputy s.guest) {a : Area} {addr : ℕ}
    (mem : a ∈ s.deputy.areas) (covers : a.Covers addr) : ∃ f, Fit s addr a f := by
  obtain ⟨f, first⟩ := AddressSpace.exists_firstOf mem
  have inPage := Area.covers_faultAddr covers
  have low := inPage.1
  have high := inPage.2
  have short := h.short a mem
  have reaches := h.longest a mem f first
  refine ⟨f, mem, covers, h.flat a mem, ?_, h.known a mem addr covers, h.right a mem addr covers,
    first, h.flat f (AddressSpace.firstOf_mem first).1, ?_⟩
  · simp only [Area.length, maxDsmPages, pageSize] at short ⊢
    omega
  · simp only [Area.length] at reaches ⊢
    omega

theorem agreeing_iff_orderly {s : State} (same : ∀ addr, s.attached addr ↔ s.deputy.Covers addr)
    (aligned : Aligned s.guest) : Agreeing s ↔ Orderly s.deputy s.guest := by
  constructor
  · intro agreeing
    have fit : ∀ a ∈ s.deputy.areas, ∀ addr, a.Covers addr → ∃ f, Fit s addr a f := by
      intro a mem addr covers
      obtain ⟨key, names⟩ := agreeing addr ((same addr).mpr ⟨a, mem, covers⟩)
      obtain ⟨a', f, found⟩ := names.fit fun e he => (aligned e he).1
      rw [AddressSpace.unique addr mem found.mem covers found.covers]
      exact ⟨f, found⟩
    refine ⟨?_, ?_, ?_, ?_, ?_⟩
    · intro a mem
      obtain ⟨f, found⟩ := fit a mem _ a.lastPage_covers
      exact found.flat
    · intro a mem
      obtain ⟨f, found⟩ := fit a mem _ a.lastPage_covers
      have short := found.short
      rw [faultAddr_of_aligned a.lastPage_aligned] at short
      refine Area.length_le (Nat.dvd_mul_left _ _) ?_
      simp only [maxDsmPages, pageSize] at short ⊢
      omega
    · intro a mem f first
      obtain ⟨f', found⟩ := fit a mem _ a.lastPage_covers
      have reaches := found.reaches
      rw [faultAddr_of_aligned a.lastPage_aligned] at reaches
      cases Option.some.inj (first.symm.trans found.first)
      exact Area.length_le f.length_aligned reaches
    · intro a mem addr covers
      obtain ⟨f, found⟩ := fit a mem addr covers
      exact found.known
    · intro a mem addr covers
      obtain ⟨f, found⟩ := fit a mem addr covers
      exact found.right
  · intro orderly addr attached
    obtain ⟨a, mem, covers⟩ := (same addr).mp attached
    obtain ⟨f, found⟩ := orderly.fit mem covers
    exact ⟨_, found.names⟩

/-! ### The entries -/

theorem mem_register {g : GuestInfo} {base size shmid : ℕ} {e : DsmMapping}
    (h : e ∈ (g.register base size shmid).dsmMap) :
    e ∈ g.dsmMap ∨ e.baseAddr = base ∧ e.size = size ∧ e.shmid = shmid := by
  simp only [GuestInfo.register] at h
  split_ifs at h with room
  · rcases SlotTable.mem_push.mp h with old | rfl
    · exact Or.inl old
    · exact Or.inr ⟨rfl, rfl, rfl⟩
  · exact Or.inl h

theorem register_keeps {g : GuestInfo} {base size shmid : ℕ} {e : DsmMapping}
    (h : e ∈ g.dsmMap) : e ∈ (g.register base size shmid).dsmMap := by
  simp only [GuestInfo.register]
  split_ifs with room
  · exact SlotTable.mem_push.mpr (Or.inl h)
  · exact h

theorem register_adds {g : GuestInfo} (room : g.dsmMap.count < maxDsmSegments)
    (base size shmid : ℕ) : ∃ e ∈ (g.register base size shmid).dsmMap,
      e.baseAddr = base ∧ e.size = size ∧ e.shmid = shmid := by
  simp only [GuestInfo.register, if_pos room]
  exact ⟨_, SlotTable.mem_push.mpr (Or.inr rfl), rfl, rfl, rfl⟩

theorem register_full {g : GuestInfo} (full : ¬g.dsmMap.count < maxDsmSegments)
    (base size shmid : ℕ) : g.register base size shmid = g := if_neg full

theorem mem_removeMapping {g : GuestInfo} {d : ℕ} {e : DsmMapping} (live : d < g.dsmMap.count)
    (h : e ∈ (g.removeMapping d).dsmMap) :
    ∃ e' ∈ g.dsmMap, e'.baseAddr = e.baseAddr ∧ e'.size = e.size ∧ e'.shmid = e.shmid := by
  rcases SlotTable.mem_modify (SlotTable.mem_swapRemove h) with old | ⟨-, rfl⟩
  · exact ⟨e, old, rfl, rfl, rfl⟩
  · exact ⟨_, SlotTable.slot_mem live, rfl, rfl, rfl⟩

theorem removeMapping_keeps {g : GuestInfo} {d : ℕ} {e : DsmMapping} (live : d < g.dsmMap.count)
    (h : e ∈ g.dsmMap) (other : e.baseAddr ≠ (g.dsmMap.slot d).baseAddr) :
    e ∈ (g.removeMapping d).dsmMap := by
  have kept : e ∈ g.dsmMap.modify d .freePages := by
    obtain ⟨i, hi, rfl⟩ := h
    refine ⟨i, hi, ?_⟩
    rw [SlotTable.modify_slot, if_neg]
    intro same
    exact other (congrArg (fun i => (g.dsmMap.slot i).baseAddr) same)
  have either := SlotTable.mem_swapRemove_or (t := g.dsmMap.modify d .freePages) live kept
  rcases either with left | removed
  · exact left
  · rw [SlotTable.modify_slot_self] at removed
    exact absurd (congrArg DsmMapping.baseAddr removed) other

theorem mappingAt_spec {g : GuestInfo} {addr d : ℕ} (h : mappingAt g addr = some d) :
    d < g.dsmMap.count ∧ (g.dsmMap.slot d).baseAddr = addr :=
  ⟨SlotTable.find?_lt h, by simpa using SlotTable.find?_holds h⟩

theorem exists_mappingAt {g : GuestInfo} {e : DsmMapping} (h : e ∈ g.dsmMap) :
    ∃ d, mappingAt g e.baseAddr = some d := by
  cases found : mappingAt g e.baseAddr with
  | none =>
    obtain ⟨i, hi, rfl⟩ := h
    exact absurd (by simp) (SlotTable.find?_eq_none.mp found i hi)
  | some d => exact ⟨d, rfl⟩

/-! ### One attachment -/

theorem Aligned.register {g : GuestInfo} (h : Aligned g) (a : Area) (shmid : ℕ) :
    Aligned (g.register a.vmStart a.length shmid) := by
  intro e mem
  rcases mem_register mem with old | ⟨base, size, -⟩
  · exact h e old
  · rw [base, size]
    exact ⟨a.startAligned, a.length_aligned, Nat.sub_pos_of_lt a.nonempty⟩

/-- An entry and an area that have an address in common have the start of a page in common. -/
theorem common_page {a : Area} {e : DsmMapping} (aligned : pageSize ∣ e.baseAddr)
    (sized : 0 < e.size) (low : e.baseAddr < a.vmEnd) (high : a.vmStart < e.baseAddr + e.size) :
    ∃ addr, a.Covers addr ∧ Over e addr := by
  have some := a.nonempty
  by_cases first : e.baseAddr ≤ a.vmStart
  · refine ⟨a.vmStart, ⟨Nat.le_refl _, some⟩, ?_⟩
    rw [Over, faultAddr_of_aligned a.startAligned]
    exact ⟨first, high⟩
  · refine ⟨e.baseAddr, ⟨by omega, low⟩, ?_⟩
    rw [Over, faultAddr_of_aligned aligned]
    omega

theorem orderly_attach {m : AddressSpace} {g : GuestInfo} (was : Orderly m g) (aligned : Aligned g)
    {a : Area} (flat : a.vmPgoff = 0) :
    Orderly (m.attach a) (g.register a.vmStart a.length a.shmid) ↔
      (∀ e ∈ g.dsmMap, e.baseAddr < a.vmEnd → a.vmStart < e.baseAddr + e.size →
        e.baseAddr = a.vmStart ∧ e.shmid = a.shmid) ∧
      (g.dsmMap.count < maxDsmSegments ∨
        ∃ e ∈ g.dsmMap, e.baseAddr = a.vmStart ∧ e.shmid = a.shmid ∧ a.length ≤ e.size) ∧
      (∀ x ∈ m.areas, x.Meets a → x.vmEnd ≤ a.vmEnd) ∧
      a.length ≤ maxDsmPages * pageSize ∧ (m.attach a).FirstLongest := by
  have new := AddressSpace.attach_self m a
  constructor
  · intro h
    refine ⟨?_, ?_, ?_, h.short a new, h.longest⟩
    · intro e mem low high
      obtain ⟨addr, covers, here⟩ := common_page (aligned e mem).1 (aligned e mem).2.2 low high
      exact h.right a new addr covers e (register_keeps mem) here
    · by_cases room : g.dsmMap.count < maxDsmSegments
      · exact Or.inl room
      · obtain ⟨e, mem, here⟩ := h.known a new _ a.lastPage_covers
        obtain ⟨base, same⟩ := h.right a new _ a.lastPage_covers e mem here
        rw [register_full room] at mem
        have reaches := here.2
        rw [faultAddr_of_aligned a.lastPage_aligned] at reaches
        have low := a.lastPage_covers.1
        exact Or.inr ⟨e, mem, base, same, Area.length_le (aligned e mem).2.1 (by omega)⟩
    · intro x mem meets
      by_contra beyond
      obtain ⟨t, tail, -, offset⟩ := AddressSpace.attach_tail mem meets (by omega)
      exact offset (h.flat t tail)
  · rintro ⟨clear, room, inside, short, longest⟩
    have lengths := a.nonempty
    -- what the new area replaces has its entries in the way, so it starts at the same address
    have starts : ∀ x ∈ m.areas, x.Meets a → a.vmStart ≤ x.vmStart ∧ x.vmEnd ≤ a.vmEnd := by
      intro x mem meets
      have some := x.nonempty
      have left := meets.1
      have right := meets.2
      have common : ∃ addr, x.Covers addr ∧ a.Covers addr ∧ pageSize ∣ addr := by
        by_cases first : x.vmStart ≤ a.vmStart
        · exact ⟨a.vmStart, ⟨first, right⟩, ⟨Nat.le_refl _, lengths⟩, a.startAligned⟩
        · exact ⟨x.vmStart, ⟨Nat.le_refl _, some⟩, ⟨by omega, left⟩, x.startAligned⟩
      obtain ⟨addr, inX, inA, page⟩ := common
      obtain ⟨e, entry, here⟩ := was.known x mem addr inX
      have base := (was.right x mem addr inX e entry here).1
      rw [Over, faultAddr_of_aligned page] at here
      have low := inA.1
      have high := inA.2
      have same := (clear e entry (by omega) (by omega)).1
      exact ⟨by omega, inside x mem meets⟩
    have members := fun x => AddressSpace.mem_attach_of_inside (x := x) starts
    refine ⟨?_, ?_, longest, ?_, ?_⟩
    · intro x mem
      rcases (members x).mp mem with rfl | old
      · exact flat
      · exact was.flat x old.1
    · intro x mem
      rcases (members x).mp mem with rfl | old
      · exact short
      · exact was.short x old.1
    · intro x mem addr covers
      rcases (members x).mp mem with rfl | old
      · have inPage := Area.covers_faultAddr covers
        have low := inPage.1
        have high := inPage.2
        rcases room with room | ⟨e, entry, base, -, size⟩
        · obtain ⟨e, entry, base, size, -⟩ := register_adds room x.vmStart x.length x.shmid
          refine ⟨e, entry, ?_⟩
          simp only [Over, base, size, Area.length]
          omega
        · refine ⟨e, register_keeps entry, ?_⟩
          simp only [Area.length] at size
          simp only [Over, base]
          omega
      · obtain ⟨e, entry, here⟩ := was.known x old.1 addr covers
        exact ⟨e, register_keeps entry, here⟩
    · intro x mem addr covers e entry here
      have inPage := Area.covers_faultAddr covers
      have low := inPage.1
      have high := inPage.2
      have under := here.1
      have above := here.2
      rcases (members x).mp mem with rfl | old
      · rcases mem_register entry with kept | ⟨base, -, same⟩
        · exact clear e kept (by omega) (by omega)
        · exact ⟨base, same⟩
      · rcases mem_register entry with kept | ⟨base, size, -⟩
        · exact was.right x old.1 addr covers e kept here
        · have apart := old.2
          simp only [Area.length] at size
          simp only [Area.Meets] at apart
          omega

/-! ### One detachment -/

theorem Aligned.removeMapping {g : GuestInfo} (h : Aligned g) {d : ℕ} (live : d < g.dsmMap.count) :
    Aligned (g.removeMapping d) := by
  intro e mem
  obtain ⟨e', old, base, size, -⟩ := mem_removeMapping live mem
  rw [← base, ← size]
  exact h e' old

/-- The entry that goes is only over areas that go. -/
theorem Orderly.remove {m m' : AddressSpace} {g : GuestInfo} (was : Orderly m g) {addr d : ℕ}
    (found : mappingAt g addr = some d)
    (members : ∀ x ∈ m'.areas, x ∈ m.areas ∧ x.vmStart ≠ addr) (longest : m'.FirstLongest) :
    Orderly m' (g.removeMapping d) := by
  obtain ⟨live, base⟩ := mappingAt_spec found
  refine ⟨?_, ?_, longest, ?_, ?_⟩
  · intro x mem
    exact was.flat x (members x mem).1
  · intro x mem
    exact was.short x (members x mem).1
  · intro x mem y covers
    obtain ⟨old, away⟩ := members x mem
    obtain ⟨e, entry, here⟩ := was.known x old y covers
    have starts := (was.right x old y covers e entry here).1
    exact ⟨e, removeMapping_keeps live entry (by omega), here⟩
  · intro x mem y covers e entry here
    obtain ⟨e', kept, base', size', same'⟩ := mem_removeMapping live entry
    have under := here.1
    have above := here.2
    have right := was.right x (members x mem).1 y covers e' kept ⟨by omega, by omega⟩
    exact ⟨by omega, by omega⟩

/-- With no area at the address, nothing is over one that the entry is over. -/
theorem no_area_of_detach {m : AddressSpace} (flat : ∀ a ∈ m.areas, a.vmPgoff = 0) {addr : ℕ}
    (none : m.detach addr = none) : ∀ x ∈ m.areas, x.vmStart ≠ addr := by
  intro x mem starts
  have found := (AddressSpace.detached_eq_some flat).mpr ⟨mem, starts⟩
  simp [AddressSpace.detach, found] at none

/-! ### One call -/

/-- The state the process is in as long as nothing went wrong. -/
structure Settled (s : State) : Prop where
  same : ∀ addr, s.attached addr ↔ s.deputy.Covers addr
  aligned : Aligned s.guest
  orderly : Orderly s.deputy s.guest

theorem Settled.agreeing {s : State} (h : Settled s) : Agreeing s :=
  (agreeing_iff_orderly h.same h.aligned).mpr h.orderly

/-- `shmat` returns the address of the deputy only if the hollow area was carved there. -/
theorem finalRet_eq {c : Shmat} {a : Area} (home : c.home = .ok a)
    (errors : ∀ e, c.mmap = .error e → e < 0) :
    c.finalRet = a.vmStart ↔ c.done ∧ c.buffer ∧ c.mmap = .ok a.vmStart := by
  have low := a.low
  simp only [Shmat.finalRet, home]
  cases done : c.done with
  | false =>
    simp only [Bool.false_eq_true, if_false, false_and, iff_false]
    omega
  | true =>
    cases buffer : c.buffer with
    | false =>
      simp only [Bool.false_eq_true, if_true, if_false, false_and, and_false, iff_false]
      omega
    | true =>
      cases mmap : c.mmap with
      | error e =>
        have negative := errors e mmap
        simp only [if_true, reduceCtorEq, and_false, iff_false]
        omega
      | ok hollowAddr =>
        simp only [if_true, true_and, Except.ok.injEq]
        omega

/-- The step of a `shmat` that the deputy carried out and that came back to its address. -/
def attachedState (s : State) (a : Area) : State where
  deputy := s.deputy.attach a
  guest := s.guest.register a.vmStart a.length a.shmid
  attached := fun x => decide (a.vmStart ≤ x ∧ x < a.vmStart + a.length) || s.attached x

theorem next_attached {s : State} {c : Shmat} {a : Area} (home : c.home = .ok a)
    (same : a.shmid = c.shmid) (lands : c.done ∧ c.buffer ∧ c.mmap = .ok a.vmStart) :
    next s (.shmat c) = attachedState s a := by
  obtain ⟨done, buffer, mmap⟩ := lands
  have carved : c.carved = some (a.vmStart, a) := by
    simp only [Shmat.carved, home, mmap, done, buffer, Bool.and_self, if_true]
  simp only [next, home, awakenShmat, carved, attachedState, same]

theorem attached_same {s : State} (h : Settled s) (a : Area) (addr : ℕ) :
    (attachedState s a).attached addr ↔ (attachedState s a).deputy.Covers addr := by
  have some := a.nonempty
  have span : a.vmStart + a.length = a.vmEnd := by
    simp only [Area.length]
    omega
  simp only [attachedState, AddressSpace.attach_covers, ← h.same addr, Area.Covers, span,
    Bool.or_eq_true, decide_eq_true_eq]

theorem attachedState_agreeing {s : State} (h : Settled s) {a : Area} (flat : a.vmPgoff = 0)
    {c : Shmat} (lands : c.done ∧ c.buffer ∧ c.mmap = .ok a.vmStart) :
    Agreeing (attachedState s a) ↔ Attaches s c a := by
  rw [agreeing_iff_orderly (attached_same h a) (h.aligned.register a a.shmid)]
  refine (orderly_attach h.orderly h.aligned flat).trans ?_
  constructor
  · rintro ⟨clear, room, inside, short, longest⟩
    exact ⟨lands.1, lands.2.1, lands.2.2, clear, room, inside, short, longest⟩
  · intro h
    exact ⟨h.clear, h.room, h.inside, h.short, h.longest⟩

theorem shmat_keeps {s : State} (h : Settled s) {c : Shmat} (en : enabled s (.shmat c)) :
    Faithful s (.shmat c) ∧ Agreeing (next s (.shmat c)) ↔ Keeps s (.shmat c) := by
  obtain ⟨-, errors, attaches⟩ := en
  cases home : c.home with
  | error e =>
    have unchanged : next s (.shmat c) = s := by simp only [next, home]
    simp only [Faithful, Keeps, home, unchanged, reduceCtorEq, false_imp_iff, implies_true,
      true_and, iff_true]
    exact h.agreeing
  | ok a =>
    obtain ⟨same, flat, -⟩ := attaches a home
    simp only [Faithful, Keeps, home, Except.ok.injEq, forall_eq']
    rw [finalRet_eq home errors]
    constructor
    · rintro ⟨lands, agreeing⟩
      rw [next_attached home same lands] at agreeing
      exact (attachedState_agreeing h flat lands).mp agreeing
    · intro attaches
      have lands := (⟨attaches.done, attaches.buffer, attaches.placed⟩ :
        c.done ∧ c.buffer ∧ c.mmap = .ok a.vmStart)
      refine ⟨lands, ?_⟩
      rw [next_attached home same lands]
      exact (attachedState_agreeing h flat lands).mpr attaches

theorem shmat_settled {s : State} (h : Settled s) {c : Shmat} (en : enabled s (.shmat c))
    (keeps : Keeps s (.shmat c)) : Settled (next s (.shmat c)) := by
  obtain ⟨-, errors, attaches⟩ := en
  cases home : c.home with
  | error e =>
    have unchanged : next s (.shmat c) = s := by simp only [next, home]
    rw [unchanged]
    exact h
  | ok a =>
    obtain ⟨same, flat, -⟩ := attaches a home
    have kept := keeps a home
    have lands := (⟨kept.done, kept.buffer, kept.placed⟩ :
      c.done ∧ c.buffer ∧ c.mmap = .ok a.vmStart)
    have agreeing := (attachedState_agreeing h flat lands).mpr kept
    have aligned := h.aligned.register a a.shmid
    rw [next_attached home same lands]
    exact ⟨attached_same h a, aligned,
      (agreeing_iff_orderly (attached_same h a) aligned).mp agreeing⟩

/-- The step of a `shmdt` that came back. -/
def detachedState (s : State) (addr d : ℕ) (home : Option AddressSpace) : State where
  deputy := home.getD s.deputy
  guest := s.guest.removeMapping d
  attached := fun x => s.attached x &&
    !(home.isSome && decide (addr ≤ x ∧ x < addr + (s.guest.dsmMap.slot d).size))

theorem next_detached {s : State} {addr d : ℕ} (found : mappingAt s.guest addr = some d) :
    next s (.shmdt addr true) = detachedState s addr d (s.deputy.detach addr) := by
  simp only [next, if_true, awakenShmdt, found, detachedState]

theorem next_unmapped {s : State} {addr : ℕ} (found : mappingAt s.guest addr = none) (done : Bool) :
    next s (.shmdt addr done) = { s with deputy := (s.deputy.detach addr).getD s.deputy } := by
  cases done with
  | false => rfl
  | true => simp only [next, if_true, awakenShmdt, found]

theorem next_lost (s : State) (addr : ℕ) :
    next s (.shmdt addr false) = { s with deputy := (s.deputy.detach addr).getD s.deputy } := rfl

/-- An address that the deputy does not detach costs at most an entry that is over nothing. -/
theorem shmdt_nothing {s : State} (h : Settled s) {addr : ℕ} (none : s.deputy.detach addr = none)
    (done : Bool) : Faithful s (.shmdt addr done) ∧ Settled (next s (.shmdt addr done)) := by
  have away := no_area_of_detach h.orderly.flat none
  cases found : mappingAt s.guest addr with
  | none =>
    have unchanged : next s (.shmdt addr done) = s := by
      simp only [next_unmapped found, none, Option.getD_none]
    simp only [Faithful, unchanged]
    exact ⟨fun x => by simp only [and_not_self], h⟩
  | some d =>
    cases done with
    | false =>
      have unchanged : next s (.shmdt addr false) = s := by
        simp only [next_lost, none, Option.getD_none]
      simp only [Faithful, unchanged]
      exact ⟨fun x => by simp only [and_not_self], h⟩
    | true =>
      have step := next_detached found
      rw [none] at step
      have attached : (next s (.shmdt addr true)).attached = s.attached := by
        rw [step]
        funext x
        simp only [detachedState, Option.isSome_none, Bool.false_and, Bool.not_false, Bool.and_true]
      have deputy : (next s (.shmdt addr true)).deputy = s.deputy := by
        rw [step]
        rfl
      refine ⟨?_, ?_, ?_, ?_⟩
      · intro x
        simp only [deputy, attached, and_not_self]
      · intro x
        rw [attached, deputy]
        exact h.same x
      · rw [step]
        exact h.aligned.removeMapping (mappingAt_spec found).1
      · rw [step]
        exact h.orderly.remove found (fun x mem => ⟨mem, away x mem⟩) h.orderly.longest

/-- An attached area has an entry at its start. -/
theorem Orderly.entry {m : AddressSpace} {g : GuestInfo} (h : Orderly m g) {a : Area}
    (mem : a ∈ m.areas) : ∃ d, mappingAt g a.vmStart = some d := by
  obtain ⟨e, entry, here⟩ := h.known a mem _ a.lastPage_covers
  have base := (h.right a mem _ a.lastPage_covers e entry here).1
  rw [← base]
  exact exists_mappingAt entry

/-- What `shmdt` takes from the deputy. -/
theorem gone_iff {m m' : AddressSpace} (flat : ∀ a ∈ m.areas, a.vmPgoff = 0) {a : Area}
    (mem : a ∈ m.areas) (hit : m.detach a.vmStart = some m') (x : ℕ) :
    m.Covers x ∧ ¬m'.Covers x ↔ a.Covers x := by
  constructor
  · rintro ⟨⟨y, old, covers⟩, gone⟩
    by_cases same : y.vmStart = a.vmStart
    · have common : y = a := AddressSpace.unique a.vmStart old mem ⟨by omega, same ▸ y.nonempty⟩
        ⟨Nat.le_refl _, a.nonempty⟩
      rw [← common]
      exact covers
    · exact absurd ⟨y, (AddressSpace.mem_detach flat hit).mpr ⟨old, same⟩, covers⟩ gone
  · intro covers
    refine ⟨⟨a, mem, covers⟩, ?_⟩
    rintro ⟨y, left, also⟩
    have kept := (AddressSpace.mem_detach flat hit).mp left
    exact kept.2 (congrArg Area.vmStart (AddressSpace.unique x kept.1 mem also covers))

/-- What it takes from the surrogate, if the entry is as long as the area. -/
theorem unmapped_iff {s : State} (h : Settled s) {a : Area} (mem : a ∈ s.deputy.areas) {d : ℕ}
    (found : mappingAt s.guest a.vmStart = some d)
    (whole : a.length ≤ (s.guest.dsmMap.slot d).size) (x : ℕ) :
    (s.attached x ∧ a.vmStart ≤ x ∧ x < a.vmStart + (s.guest.dsmMap.slot d).size) ↔
      a.Covers x := by
  obtain ⟨live, base⟩ := mappingAt_spec found
  constructor
  · rintro ⟨attached, low, high⟩
    obtain ⟨y, old, covers⟩ := (h.same x).mp attached
    have page := lt_faultAddr x
    have le := faultAddr_le x
    have lowPage : a.vmStart ≤ faultAddr x := by
      obtain ⟨i, start⟩ := a.startAligned
      simp only [faultAddr, pageSize] at start ⊢
      omega
    have starts := (h.orderly.right y old x covers _ (SlotTable.slot_mem live)
      ⟨by omega, by omega⟩).1
    have common : y = a := AddressSpace.unique y.vmStart old mem ⟨Nat.le_refl _, y.nonempty⟩
      ⟨by omega, by rw [← starts, base]; exact a.nonempty⟩
    rw [← common]
    exact covers
  · intro covers
    have low := covers.1
    have high := covers.2
    simp only [Area.length] at whole
    exact ⟨(h.same x).mpr ⟨a, mem, covers⟩, by omega, by omega⟩

theorem shmdt_lost {s : State} (h : Settled s) {a : Area} (mem : a ∈ s.deputy.areas)
    {m' : AddressSpace} (hit : s.deputy.detach a.vmStart = some m') :
    ¬Faithful s (.shmdt a.vmStart false) := by
  intro faithful
  have covers : a.Covers a.vmStart := ⟨Nat.le_refl _, a.nonempty⟩
  have gone := (gone_iff h.orderly.flat mem hit a.vmStart).mpr covers
  have left := (faithful a.vmStart).mp
  simp only [next_lost, hit, Option.getD_some, and_not_self, imp_false] at left
  exact left gone

theorem detached_attached {s : State} {a : Area} {d : ℕ} {m' : AddressSpace}
    (hit : s.deputy.detach a.vmStart = some m') (x : ℕ) :
    (detachedState s a.vmStart d (s.deputy.detach a.vmStart)).attached x ↔
      s.attached x ∧ ¬(a.vmStart ≤ x ∧ x < a.vmStart + (s.guest.dsmMap.slot d).size) := by
  simp only [detachedState, hit, Option.isSome_some, Bool.true_and, Bool.and_eq_true,
    Bool.not_eq_true', decide_eq_false_iff_not]

theorem shmdt_faithful {s : State} (h : Settled s) {a : Area} (mem : a ∈ s.deputy.areas)
    {m' : AddressSpace} (hit : s.deputy.detach a.vmStart = some m') {d : ℕ}
    (found : mappingAt s.guest a.vmStart = some d) :
    Faithful s (.shmdt a.vmStart true) ↔ a.length ≤ (s.guest.dsmMap.slot d).size := by
  have deputy : (next s (.shmdt a.vmStart true)).deputy = m' := by
    rw [next_detached found, hit]
    rfl
  have attached : ∀ x, (next s (.shmdt a.vmStart true)).attached x ↔
      s.attached x ∧ ¬(a.vmStart ≤ x ∧ x < a.vmStart + (s.guest.dsmMap.slot d).size) := by
    intro x
    rw [next_detached found]
    exact detached_attached hit x
  constructor
  · intro faithful
    have last := faithful a.lastPage
    rw [deputy, gone_iff h.orderly.flat mem hit] at last
    obtain ⟨was, gone⟩ := last.mp a.lastPage_covers
    rw [attached] at gone
    have reaches : a.vmStart ≤ a.lastPage ∧
        a.lastPage < a.vmStart + (s.guest.dsmMap.slot d).size := by
      by_contra missed
      exact gone ⟨was, missed⟩
    have aligned := h.aligned _ (SlotTable.slot_mem (mappingAt_spec found).1)
    exact Area.length_le aligned.2.1 (by omega)
  · intro whole x
    rw [deputy, gone_iff h.orderly.flat mem hit, attached, ← unmapped_iff h mem found whole]
    constructor
    · rintro ⟨was, range⟩
      exact ⟨was, fun kept => kept.2 range⟩
    · rintro ⟨was, gone⟩
      by_cases range : a.vmStart ≤ x ∧ x < a.vmStart + (s.guest.dsmMap.slot d).size
      · exact ⟨was, range⟩
      · exact absurd ⟨was, range⟩ gone

/-- The state after a `shmdt` that both nodes carried out whole. -/
theorem settled_detached {s : State} (h : Settled s) {a : Area} (mem : a ∈ s.deputy.areas)
    {m' : AddressSpace} (hit : s.deputy.detach a.vmStart = some m') {d : ℕ}
    (found : mappingAt s.guest a.vmStart = some d)
    (whole : a.length ≤ (s.guest.dsmMap.slot d).size) :
    (∀ x, (next s (.shmdt a.vmStart true)).attached x ↔
      (next s (.shmdt a.vmStart true)).deputy.Covers x) ∧
      Aligned (next s (.shmdt a.vmStart true)).guest ∧
      (m'.FirstLongest → Orderly (next s (.shmdt a.vmStart true)).deputy
        (next s (.shmdt a.vmStart true)).guest) := by
  have deputy : (detachedState s a.vmStart d (s.deputy.detach a.vmStart)).deputy = m' := by
    rw [hit]
    rfl
  rw [next_detached found]
  refine ⟨?_, h.aligned.removeMapping (mappingAt_spec found).1, ?_⟩
  · intro x
    rw [deputy, detached_attached hit]
    have range := unmapped_iff h mem found whole x
    have gone := gone_iff h.orderly.flat mem hit x
    have covers := h.same x
    have back : m'.Covers x → s.deputy.Covers x := by
      rintro ⟨y, left, also⟩
      exact ⟨y, ((AddressSpace.mem_detach h.orderly.flat hit).mp left).1, also⟩
    constructor
    · rintro ⟨was, outside⟩
      by_contra missed
      have here := gone.mp ⟨covers.mp was, missed⟩
      exact outside (range.mpr here).2
    · intro left
      refine ⟨covers.mpr (back left), fun inside => ?_⟩
      have here := range.mp ⟨covers.mpr (back left), inside⟩
      exact (gone.mpr here).2 left
  · intro longest
    rw [deputy]
    exact h.orderly.remove found
      (fun x left => (AddressSpace.mem_detach h.orderly.flat hit).mp left) longest

theorem shmdt_keeps {s : State} (h : Settled s) (addr : ℕ) (done : Bool) :
    Faithful s (.shmdt addr done) ∧ Agreeing (next s (.shmdt addr done)) ↔
      Keeps s (.shmdt addr done) := by
  cases hit : s.deputy.detach addr with
  | none =>
    obtain ⟨faithful, settled⟩ := shmdt_nothing h hit done
    simp only [Keeps, hit, reduceCtorEq, false_imp_iff, implies_true, iff_true]
    exact ⟨faithful, settled.agreeing⟩
  | some m' =>
    obtain ⟨a, detached, -⟩ := Option.map_eq_some_iff.mp hit
    obtain ⟨mem, rfl⟩ := (AddressSpace.detached_eq_some h.orderly.flat).mp detached
    obtain ⟨d, found⟩ := h.orderly.entry mem
    simp only [Keeps, hit, Option.some.injEq, forall_eq']
    constructor
    · rintro ⟨faithful, agreeing⟩
      cases done with
      | false => exact absurd faithful (shmdt_lost h mem hit)
      | true =>
        have whole := (shmdt_faithful h mem hit found).mp faithful
        obtain ⟨same, aligned, -⟩ := settled_detached h mem hit found whole
        have orderly := (agreeing_iff_orderly same aligned).mp agreeing
        refine ⟨rfl, ?_, ?_⟩
        · intro b other starts e at_start
          cases Option.some.inj (found.symm.trans at_start)
          rw [AddressSpace.unique a.vmStart other mem
            ⟨by omega, starts ▸ b.nonempty⟩ ⟨Nat.le_refl _, a.nonempty⟩]
          exact whole
        · have longest := orderly.longest
          rw [next_detached found, hit] at longest
          exact longest
    · rintro ⟨rfl, whole, longest⟩
      have long := whole a mem rfl d found
      obtain ⟨same, aligned, orderly⟩ := settled_detached h mem hit found long
      exact ⟨(shmdt_faithful h mem hit found).mpr long,
        (agreeing_iff_orderly same aligned).mpr (orderly longest)⟩

theorem shmdt_settled {s : State} (h : Settled s) {addr : ℕ} {done : Bool}
    (keeps : Keeps s (.shmdt addr done)) : Settled (next s (.shmdt addr done)) := by
  cases hit : s.deputy.detach addr with
  | none => exact (shmdt_nothing h hit done).2
  | some m' =>
    obtain ⟨a, detached, -⟩ := Option.map_eq_some_iff.mp hit
    obtain ⟨mem, rfl⟩ := (AddressSpace.detached_eq_some h.orderly.flat).mp detached
    obtain ⟨d, found⟩ := h.orderly.entry mem
    obtain ⟨rfl, whole, longest⟩ := keeps m' hit
    obtain ⟨same, aligned, orderly⟩ := settled_detached h mem hit found (whole a mem rfl d found)
    exact ⟨same, aligned, orderly longest⟩

/-! ### The migration and the whole run -/

/-- The entry of an area of the blueprint. -/
def EntryOf (e : DsmMapping) (a : Area) : Prop :=
  e.baseAddr = a.vmStart ∧ e.size = a.length ∧ e.shmid = a.shmid

def registerAll (g : GuestInfo) (areas : List Area) : GuestInfo :=
  (areas.map fun a => (a.vmStart, a.length, a.shmid)).foldl
    (fun g v => g.register v.1 v.2.1 v.2.2) g

theorem registerAll_cons (g : GuestInfo) (a : Area) (areas : List Area) :
    registerAll g (a :: areas) = registerAll (g.register a.vmStart a.length a.shmid) areas := rfl

theorem registerAll_keeps {areas : List Area} {g : GuestInfo} {e : DsmMapping}
    (h : e ∈ g.dsmMap) : e ∈ (registerAll g areas).dsmMap := by
  induction areas generalizing g with
  | nil => exact h
  | cons a areas ih =>
    rw [registerAll_cons]
    exact ih (register_keeps h)

/-- Only as many areas get an entry as there is room for. -/
theorem mem_registerAll (areas : List Area) {g : GuestInfo} {e : DsmMapping}
    (h : e ∈ (registerAll g areas).dsmMap) :
    e ∈ g.dsmMap ∨ ∃ a ∈ areas.take (maxDsmSegments - g.dsmMap.count), EntryOf e a := by
  induction areas generalizing g with
  | nil => exact Or.inl h
  | cons a areas ih =>
    rw [registerAll_cons] at h
    by_cases room : g.dsmMap.count < maxDsmSegments
    · have count : (g.register a.vmStart a.length a.shmid).dsmMap.count = g.dsmMap.count + 1 := by
        simp only [GuestInfo.register, if_pos room, SlotTable.push_count]
      have left : maxDsmSegments - g.dsmMap.count =
          maxDsmSegments - (g.dsmMap.count + 1) + 1 := by omega
      rw [left, List.take_succ_cons]
      rcases ih h with new | ⟨b, later, entry⟩
      · rcases mem_register new with old | entry
        · exact Or.inl old
        · exact Or.inr ⟨a, List.mem_cons_self, entry⟩
      · rw [count] at later
        exact Or.inr ⟨b, List.mem_cons_of_mem _ later, entry⟩
    · rw [register_full room] at h
      rcases ih h with old | ⟨b, none, -⟩
      · exact Or.inl old
      · have gone : maxDsmSegments - g.dsmMap.count = 0 := by omega
        rw [gone, List.take_zero] at none
        exact absurd none List.not_mem_nil

theorem registerAll_adds (areas : List Area) {g : GuestInfo}
    (room : g.dsmMap.count + areas.length ≤ maxDsmSegments) {a : Area} (h : a ∈ areas) :
    ∃ e ∈ (registerAll g areas).dsmMap, EntryOf e a := by
  induction areas generalizing g with
  | nil => exact absurd h List.not_mem_nil
  | cons b areas ih =>
    rw [List.length_cons] at room
    have here : g.dsmMap.count < maxDsmSegments := by omega
    rw [registerAll_cons]
    cases h with
    | head =>
      obtain ⟨e, entry, same⟩ := register_adds here a.vmStart a.length a.shmid
      exact ⟨e, registerAll_keeps entry, same⟩
    | tail _ h =>
      refine ih ?_ h
      simp only [GuestInfo.register, if_pos here, SlotTable.push_count]
      omega

theorem mem_imported {g : GuestInfo} {m : AddressSpace} {e : DsmMapping}
    (h : e ∈ (imported g m).guest.dsmMap) :
    ∃ a ∈ m.areas.take maxDsmSegments, EntryOf e a := by
  rcases mem_registerAll m.areas h with ⟨i, live, -⟩ | new
  · exact absurd live (Nat.not_lt_zero i)
  · exact new

theorem imported_same (g : GuestInfo) (m : AddressSpace) (addr : ℕ) :
    (imported g m).attached addr ↔ (imported g m).deputy.Covers addr := by
  simp only [imported, List.any_eq_true, decide_eq_true_eq, AddressSpace.Covers]

theorem imported_aligned (g : GuestInfo) (m : AddressSpace) : Aligned (imported g m).guest := by
  intro e mem
  obtain ⟨a, -, base, size, -⟩ := mem_imported mem
  rw [base, size]
  exact ⟨a.startAligned, a.length_aligned, Nat.sub_pos_of_lt a.nonempty⟩

theorem imported_orderly (g : GuestInfo) (m : AddressSpace) :
    Orderly m (imported g m).guest ↔ Fits m := by
  constructor
  · intro h
    refine ⟨?_, h.flat, h.short, h.longest⟩
    by_contra many
    obtain ⟨b, late⟩ : ∃ b, b ∈ m.areas.drop maxDsmSegments :=
      List.exists_mem_of_length_pos (by rw [List.length_drop]; omega)
    have mem := List.mem_of_mem_drop late
    obtain ⟨e, entry, here⟩ := h.known b mem _ b.lastPage_covers
    have base := (h.right b mem _ b.lastPage_covers e entry here).1
    obtain ⟨a, early, from_a, -⟩ := mem_imported entry
    have ordered := m.ordered
    rw [← List.take_append_drop maxDsmSegments m.areas, List.pairwise_append] at ordered
    have before := ordered.2.2 a early b late
    have some := a.nonempty
    omega
  · intro h
    refine ⟨h.flat, h.short, h.longest, ?_, ?_⟩
    · intro a mem addr covers
      obtain ⟨e, entry, base, size, -⟩ := registerAll_adds m.areas
        (g := { g with dsmMap := { g.dsmMap with count := 0 } })
        (by rw [Nat.zero_add]; exact h.room) mem
      have inPage := Area.covers_faultAddr covers
      have low := inPage.1
      have high := inPage.2
      refine ⟨e, entry, ?_⟩
      simp only [Over, base, size, Area.length]
      omega
    · intro a mem addr covers e entry here
      obtain ⟨b, early, base, size, same⟩ := mem_imported entry
      have inPage := Area.covers_faultAddr covers
      have low := here.1
      have high := here.2
      have some := b.nonempty
      simp only [Area.length] at size
      have common : b = a := AddressSpace.unique (faultAddr addr) (List.mem_of_mem_take early)
        mem ⟨by omega, by omega⟩ inPage
      exact ⟨common ▸ base, common ▸ same⟩

theorem imported_agreeing (g : GuestInfo) (m : AddressSpace) :
    Agreeing (imported g m) ↔ Fits m :=
  (agreeing_iff_orderly (imported_same g m) (imported_aligned g m)).trans (imported_orderly g m)

theorem settled_next {s : State} {c : Call} (h : Settled s) (en : machine.enabled s c)
    (keeps : Keeps s c) : Settled (machine.next s c) := by
  cases c with
  | shmat c => exact shmat_settled h en keeps
  | shmdt addr done => exact shmdt_settled h keeps

/-- From the migration on all places mean the page the deputy has at the address, `shmat` returns
the address of the deputy, and `shmdt` detaches the same on both nodes, exactly as long as the
attachments fit and each call keeps them in order. -/
theorem translation_exact (g : GuestInfo) (m : AddressSpace) (calls : List Call) :
    (Agreeing (imported g m) ∧
      machine.Follows (fun s c => Faithful s c ∧ Agreeing (next s c)) (imported g m) calls) ↔
    (Fits m ∧ machine.Follows Keeps (imported g m) calls) := by
  rw [imported_agreeing]
  refine and_congr_right fun fits => ?_
  have start : Settled (imported g m) :=
    ⟨imported_same g m, imported_aligned g m, (imported_orderly g m).mpr fits⟩
  refine (Machine.follows_iff (I := Settled) ?_ ?_ start).symm
  · intro s c settled en keeps
    exact settled_next settled en keeps
  · intro s c settled en
    cases c with
    | shmat c => exact (shmat_keeps settled en).symm
    | shmdt addr done => exact (shmdt_keeps settled addr done).symm

/-- One segment of two pages, the second of which has got other protections. -/
def splitSegment : AddressSpace where
  areas := [⟨4096, 8192, 0, 7, 1, by decide, by decide, by decide, by decide⟩,
    ⟨8192, 12288, 1, 7, 1, by decide, by decide, by decide, by decide⟩]
  ordered := by decide

/-- A touch of the second page fetches the first. -/
theorem split_fetches_first :
    (imported .zero splitSegment).attached 8192 = true ∧
      splitSegment.segmentPage 8192 = some (7, 1) ∧
      fetched (imported .zero splitSegment) 8192 = some (7, 0) ∧
      ¬Agreeing (imported .zero splitSegment) := by
  have attached : (imported .zero splitSegment).attached 8192 = true := by decide
  have mapped : splitSegment.segmentPage 8192 = some (7, 1) := by decide
  have first : fetched (imported .zero splitSegment) 8192 = some (7, 0) := by decide
  refine ⟨attached, mapped, first, fun agreeing => ?_⟩
  obtain ⟨key, names⟩ := agreeing 8192 attached
  have other := names.fetched.symm.trans first
  have own := names.mapped.symm.trans mapped
  rw [own] at other
  exact absurd other (by decide)

end MattX.DsmTranslation
