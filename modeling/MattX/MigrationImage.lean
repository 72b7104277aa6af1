import MattX.MigrationPump
import MattX.SpanLayout

set_option autoImplicit false

/-!
# The memory image of a return migration

The surrogate's mappings come home in a blueprint. The deputy maps what it
finds missing, the pages of the mappings that are not left out are written over
it, and the TID words of the threads are put right.
-/
namespace MattX.MigrationImage
open SpanLayout MigrationPump

structure AddressSpace where
  vmas : Layout
  mem : ℕ → UInt8

/-- The mappings of a process, in the order of their addresses. -/
structure Blueprint where
  vmas : List VmaInfo
  nonempty : ∀ v ∈ vmas, v.vmStart < v.vmEnd
  sorted : vmas.Pairwise fun v w => v.vmEnd ≤ w.vmStart

/-! ### The carver -/

/-- What `handle_return_blueprint` maps for one mapping of the blueprint. -/
def hole (configMpiSupport : Bool) (vmas : Layout) (start stop : ℕ) : Option (ℕ × ℕ) :=
  match vmas.endingAfter start with
  | some v =>
    if configMpiSupport then if v.1 ≤ start ∧ stop ≤ v.2 then none else some (start, stop)
    else if stop ≤ v.1 then some (start, stop)
    else if start < v.1 then some (start, v.1)
    else if v.2 < stop then some (v.2, stop)
    else none
  | none => some (start, stop)

/-- A fixed anonymous mapping: fresh zeros in place of all that was there. -/
def vmMmap (a b : ℕ) (s : AddressSpace) : AddressSpace :=
  if ab : a < b then
    { vmas := s.vmas.overlay a b ab, mem := fun x => if a ≤ x ∧ x < b then 0 else s.mem x }
  else s

def carve (configMpiSupport : Bool) (s : AddressSpace) (v : VmaInfo) : AddressSpace :=
  match hole configMpiSupport s.vmas v.vmStart v.vmEnd with
  | some h => vmMmap h.1 h.2 s
  | none => s

/-! ### Pages and TID words -/

/-- `handle_page_transfer`: bytes are written up to the first address that is not mapped. -/
def inject (surrogate : ℕ → UInt8) (addr len : ℕ) (s : AddressSpace) : AddressSpace :=
  { s with
    mem := fun x =>
      if addr ≤ x ∧ x < addr + len ∧ ∀ y < x + 1, addr ≤ y → s.vmas.Covers y then surrogate x
      else s.mem x }

def receive (surrogate : ℕ → UInt8) (s : AddressSpace) : Action → AddressSpace
  | .page _ addr bytes true => inject surrogate addr bytes.toNat s
  | _ => s

/-- Where a thread's TID stands in memory, the TID it had on the other node, and its TID here. -/
structure TidWord where
  addr : ℕ
  remote : ℕ
  here : ℕ
  deriving DecidableEq

def tidByte (tid i : ℕ) : UInt8 := UInt8.ofNat (tid / 256 ^ i)

/-- A mapped TID word that still holds the remote TID gets the local one. -/
def fixTid (mapped : ℕ → Bool) (mem : ℕ → UInt8) (w : TidWord) : ℕ → UInt8 :=
  if w.remote ≠ w.here ∧
      ∀ i < 4, mapped (w.addr + i) = true ∧ mem (w.addr + i) = tidByte w.remote i then
    fun x => if w.addr ≤ x ∧ x < w.addr + 4 then tidByte w.here (x - w.addr) else mem x
  else mem

/-- Every page that is due is read whole and arrives. -/
def Clean (req : Blueprint) (io : ℕ → ℕ → PageIo) : Prop :=
  ∀ i v addr, req.vmas[i]? = some v → Due true req.vmas i addr →
    Handed (io i addr) ∧ delivered (io i addr) = true ∧
      (io i addr).bytesRead = (min pageSize (v.vmEnd - addr) : ℕ)

/-- The address lies in what the carver maps for a mapping of the blueprint. -/
def inHole (configMpiSupport : Bool) (deputy : Layout) (v : VmaInfo) (x : ℕ) : Bool :=
  (hole configMpiSupport deputy v.vmStart v.vmEnd).any fun h => h.1 ≤ x ∧ x < h.2

def carved (configMpiSupport : Bool) (deputy : Layout) (vmas : List VmaInfo) (x : ℕ) : Bool :=
  vmas.any fun v => inHole configMpiSupport deputy v x

/-- The address lies in a mapping whose pages are sent. -/
def sent (vmas : List VmaInfo) (x : ℕ) : Bool :=
  vmas.any fun v => !skipped true v && decide (v.vmStart ≤ x ∧ x < v.vmEnd)

/-- The byte of an address before the TID words are put right. -/
def image (configMpiSupport : Bool) (deputy : AddressSpace) (vmas : List VmaInfo)
    (surrogate : ℕ → UInt8) (x : ℕ) : UInt8 :=
  if sent vmas x then surrogate x
  else if carved configMpiSupport deputy.vmas vmas x then 0
  else deputy.mem x

/-- The deputy has every address of the blueprint, or the carver maps it. -/
def Covered (configMpiSupport : Bool) (deputy : AddressSpace) (req : Blueprint) : Prop :=
  ∀ v ∈ req.vmas, ∀ x, v.vmStart ≤ x → x < v.vmEnd →
    carved configMpiSupport deputy.vmas req.vmas x = true ∨ deputy.vmas.Covers x

/-- What was not sent is as the deputy has it, or zeros where the carver mapped it, and no TID word
differs. -/
def Matches (configMpiSupport : Bool) (deputy : AddressSpace) (req : Blueprint)
    (surrogate : ℕ → UInt8) (words : List TidWord) : Prop :=
  ∀ v ∈ req.vmas, ∀ x, v.vmStart ≤ x → x < v.vmEnd →
    words.foldl (fixTid fun y =>
        carved configMpiSupport deputy.vmas req.vmas y || decide (deputy.vmas.Covers y))
      (image configMpiSupport deputy req.vmas surrogate) x = surrogate x

/-! ### Carving -/

theorem endingAfter_after {vmas : Layout} {x : ℕ} {v : ℕ × ℕ} (found : vmas.endingAfter x = some v) :
    x < v.2 := by
  have after := List.find?_some found
  simpa using after

theorem hole_inside {configMpiSupport : Bool} {vmas : Layout} {start stop : ℕ} {h : ℕ × ℕ}
    (proper : start < stop) (found : hole configMpiSupport vmas start stop = some h) :
    start ≤ h.1 ∧ h.1 < h.2 ∧ h.2 ≤ stop := by
  simp only [hole] at found
  split at found
  · rename_i v first
    have after := endingAfter_after first
    split_ifs at found <;> obtain rfl := Option.some.inj found <;>
      refine ⟨?_, ?_, ?_⟩ <;> simp only <;> omega
  · obtain rfl := Option.some.inj found
    exact ⟨le_refl _, proper, le_refl _⟩

/-- The carver's choice for a later mapping does not depend on an earlier hole. -/
theorem hole_overlay (configMpiSupport : Bool) (vmas : Layout) {a b start stop : ℕ} (ab : a < b)
    (beyond : b ≤ start) (proper : start < stop) :
    hole configMpiSupport (vmas.overlay a b ab) start stop =
      hole configMpiSupport vmas start stop := by
  simp only [hole, vmas.endingAfter_overlay ab beyond]
  cases vmas.endingAfter start with
  | none => rfl
  | some v =>
    have within : max v.1 b ≤ start ↔ v.1 ≤ start := by omega
    have past : stop ≤ max v.1 b ↔ stop ≤ v.1 := by omega
    have later : start < max v.1 b ↔ start < v.1 := by omega
    simp only [Option.map_some, within, past, later]
    split_ifs with mpi _ _ gap
    all_goals first | rfl | skip
    have first : max v.1 b = v.1 := by omega
    rw [first]

section Carving
variable (configMpiSupport : Bool) (s : AddressSpace)

theorem carve_eq {v : VmaInfo} (proper : v.vmStart < v.vmEnd) {h : ℕ × ℕ}
    (found : hole configMpiSupport s.vmas v.vmStart v.vmEnd = some h) :
    ∃ hh : h.1 < h.2, carve configMpiSupport s v =
      { vmas := s.vmas.overlay h.1 h.2 hh, mem := fun x => if h.1 ≤ x ∧ x < h.2 then 0 else s.mem x } := by
  have inside := hole_inside proper found
  refine ⟨inside.2.1, ?_⟩
  simp only [carve, found, vmMmap, dif_pos inside.2.1]

theorem carve_covers {v : VmaInfo} (proper : v.vmStart < v.vmEnd) (x : ℕ) :
    (carve configMpiSupport s v).vmas.Covers x ↔
      inHole configMpiSupport s.vmas v x = true ∨ s.vmas.Covers x := by
  cases found : hole configMpiSupport s.vmas v.vmStart v.vmEnd with
  | none => simp [carve, inHole, found]
  | some h =>
    obtain ⟨hh, eq⟩ := carve_eq configMpiSupport s proper found
    rw [eq]
    simpa [inHole, found] using s.vmas.covers_overlay hh x

theorem carve_mem {v : VmaInfo} (proper : v.vmStart < v.vmEnd) (x : ℕ) :
    (carve configMpiSupport s v).mem x =
      if inHole configMpiSupport s.vmas v x then 0 else s.mem x := by
  cases found : hole configMpiSupport s.vmas v.vmStart v.vmEnd with
  | none => simp [carve, inHole, found]
  | some h =>
    obtain ⟨hh, eq⟩ := carve_eq configMpiSupport s proper found
    simp [eq, inHole, found]

theorem inHole_carve {v w : VmaInfo} (hv : v.vmStart < v.vmEnd) (hw : w.vmStart < w.vmEnd)
    (apart : v.vmEnd ≤ w.vmStart) (x : ℕ) :
    inHole configMpiSupport (carve configMpiSupport s v).vmas w x =
      inHole configMpiSupport s.vmas w x := by
  cases found : hole configMpiSupport s.vmas v.vmStart v.vmEnd with
  | none => simp [carve, found]
  | some h =>
    obtain ⟨hh, eq⟩ := carve_eq configMpiSupport s hv found
    have inside := hole_inside hv found
    have same := hole_overlay configMpiSupport s.vmas hh (inside.2.2.trans apart) hw
    simp only [eq, inHole, same]

/-- All mappings of a blueprint: each is carved as in the deputy that there was. -/
theorem carveAll (vmas : List VmaInfo) (proper : ∀ v ∈ vmas, v.vmStart < v.vmEnd)
    (sorted : vmas.Pairwise fun v w => v.vmEnd ≤ w.vmStart) (x : ℕ) :
    ((vmas.foldl (carve configMpiSupport) s).vmas.Covers x ↔
        carved configMpiSupport s.vmas vmas x = true ∨ s.vmas.Covers x) ∧
      (vmas.foldl (carve configMpiSupport) s).mem x =
        if carved configMpiSupport s.vmas vmas x then 0 else s.mem x := by
  induction vmas generalizing s with
  | nil => simp [carved]
  | cons v vmas ih =>
    have hv := proper v List.mem_cons_self
    obtain ⟨apart, rest⟩ := List.pairwise_cons.mp sorted
    have later (w : VmaInfo) (mem : w ∈ vmas) := proper w (List.mem_cons_of_mem v mem)
    have same : carved configMpiSupport (carve configMpiSupport s v).vmas vmas x =
        carved configMpiSupport s.vmas vmas x := by
      simp only [carved]
      rw [Bool.eq_iff_iff, List.any_eq_true, List.any_eq_true]
      refine exists_congr fun w => and_congr_right fun mem => ?_
      rw [inHole_carve configMpiSupport s hv (later w mem) (apart w mem)]
    obtain ⟨covers, bytes⟩ := ih (carve configMpiSupport s v) later rest
    rw [List.foldl_cons, covers, bytes, same, carve_covers configMpiSupport s hv,
      carve_mem configMpiSupport s hv]
    simp only [carved, List.any_cons, Bool.or_eq_true]
    refine ⟨by tauto, ?_⟩
    by_cases first : inHole configMpiSupport s.vmas v x = true
    · simp [first]
    · simp [first]

end Carving

/-! ### Writing the pages -/

/-- A page that arrives and has the address in its bytes. -/
def Holds (log : List Action) (x : ℕ) : Prop :=
  ∃ vma addr bytes, .page vma addr bytes true ∈ log ∧ addr ≤ x ∧ x < addr + bytes.toNat

section Image
variable (configMpiSupport : Bool) (deputy : AddressSpace) {req : Blueprint}
  (surrogate : ℕ → UInt8) {io : ℕ → ℕ → PageIo} (words : List TidWord)

/-- With MPI support a mapping that is not wholly there is mapped anew. -/
theorem covered_mpi : Covered true deputy req := by
  intro v mem x low high
  simp only [carved, List.any_eq_true, inHole]
  by_cases there : ∃ w ∈ deputy.vmas.spans, w.1 ≤ v.vmStart ∧ v.vmEnd ≤ w.2
  · obtain ⟨w, hw, start, stop⟩ := there
    exact .inr ⟨w, hw, by omega, by omega⟩
  · refine .inl ⟨v, mem, ?_⟩
    have whole : hole true deputy.vmas v.vmStart v.vmEnd = some (v.vmStart, v.vmEnd) := by
      simp only [hole]
      split
      · rename_i w found
        have outside : ¬ (w.1 ≤ v.vmStart ∧ v.vmEnd ≤ w.2) := fun inside =>
          there ⟨w, List.mem_of_find?_eq_some found, inside⟩
        rw [if_pos trivial, if_neg outside]
      · rfl
    rw [whole]
    simp [low, high]

end Image

/-! ### One heap page, and a read-only page that is new -/

end MattX.MigrationImage
