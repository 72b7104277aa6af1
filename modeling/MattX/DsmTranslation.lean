import MattX.DsmAttachments
import MattX.GuardedRuns
import MattX.GuestRegistry

set_option autoImplicit false

/-!
# From a fault address to a page of a segment

A page travels as the id of its segment and an offset. The remote node takes
the offset from the start of its `dsm_map` entry, the home node adds it to the
start of the first area of the segment or divides it into a file index, and the
native check subtracts the start of the area that faulted. `vm_pgoff` is used
by none of them.
-/
namespace MattX.DsmTranslation
open GuardedRuns GuestRegistry

structure State where
  deputy : AddressSpace
  guest : GuestInfo
  /-- The surrogate's addresses in areas that were rebuilt or carved for a segment. -/
  attached : ℕ → Bool

/-- `vmf->address & PAGE_MASK`. -/
def faultAddr (addr : ℕ) : ℕ := addr / pageSize * pageSize

/-- `page_idx`, as long as the arrays of a segment have a place for it. -/
def pageIdx (offset : ℕ) : Option ℕ :=
  if offset / pageSize < maxDsmPages then some (offset / pageSize) else none

/-- The first step of `mattx_dsm_fault`, `mattx_dsm_pfn_mkwrite` and `mattx_dsm_cleanup_cb`: the
segment and the offset that every request about the address names. -/
def translate (g : GuestInfo) (addr : ℕ) : Option (ℕ × ℕ) :=
  (mappingOver g (faultAddr addr)).map fun d =>
    ((g.dsmMap.slot d).shmid, faultAddr addr - (g.dsmMap.slot d).baseAddr)

/-- The hunt of `mattx_dsm_fault_kworker` and `mattx_dsm_update_kworker`, which ends at the first
area of the segment even when that is too short. -/
def hunt (m : AddressSpace) (shmid offset : ℕ) : Option Area :=
  (m.firstOf shmid).filter fun vma => vma.vmStart + offset < vma.vmEnd

/-- The pump reads at `target_addr` in the deputy's memory. -/
def fetched (s : State) (addr : ℕ) : Option (ℕ × ℕ) := do
  let (shmid, offset) ← translate s.guest addr
  let vma ← hunt s.deputy shmid offset
  s.deputy.segmentPage (vma.vmStart + offset)

/-- The flushes of `mattx_dsm_fault_kworker` and `mattx_vm1_shm_sync_kworker` write the page cache
of the file. -/
def flushed (s : State) (addr : ℕ) : Option (ℕ × ℕ) := do
  let (shmid, offset) ← translate s.guest addr
  let vma ← s.deputy.firstOf shmid
  let p ← pageIdx offset
  some (vma.shmid, p)

/-- `mattx_dsm_write_acquire_kworker` takes this page of the directory, and its invalidates carry
the offset. -/
def invalidated (s : State) (addr : ℕ) : Option (ℕ × ℕ) := do
  let (shmid, offset) ← translate s.guest addr
  let p ← pageIdx offset
  some (shmid, p)

/-- `mattx_dsm_update_kworker`. -/
def updated (s : State) (addr : ℕ) : Option (ℕ × ℕ) := do
  let (shmid, offset) ← translate s.guest addr
  let vma ← hunt s.deputy shmid offset
  some (vma.shmid, offset / pageSize)

/-- `entry_handler_shmem_fault`, for a fault of the deputy at the address. -/
def checked (s : State) (addr : ℕ) : Option (ℕ × ℕ) := do
  let vma ← s.deputy.areaAt addr
  let p ← pageIdx (faultAddr addr - vma.vmStart)
  some (vma.shmid, p)

/-- An invalidate or a flush of a page that reaches the address through one of the entries. The
flush looks at the first entry of the segment only. -/
def Zapped (s : State) (shmid p addr : ℕ) : Prop :=
  ∃ m ∈ s.guest.dsmMap, m.shmid = shmid ∧ p * pageSize < m.size ∧
    faultAddr addr = m.baseAddr + p * pageSize

/-- Every place takes the address for this page of this segment. -/
structure Names (s : State) (addr : ℕ) (key : ℕ × ℕ) : Prop where
  mapped : s.deputy.segmentPage addr = some key
  fetched : fetched s addr = some key
  flushed : flushed s addr = some key
  invalidated : invalidated s addr = some key
  updated : updated s addr = some key
  checked : checked s addr = some key
  zapped : ∀ shmid p, Zapped s shmid p addr → (shmid, p) = key

def Agreeing (s : State) : Prop := ∀ addr, s.attached addr → ∃ key, Names s addr key

/-! ### The calls -/

/-- One `shmat` of the surrogate, with what the kernels and the network do for it. -/
structure Shmat where
  shmaddr : ℕ
  shmid : ℕ
  /-- `SHM_REMAP` -/
  remap : Bool
  /-- the area the deputy gets, or the error of the native call -/
  home : Except ℤ Area
  /-- `rpc_done` when the call wakes up -/
  done : Bool
  /-- `rpc_read_buf` could be allocated for the address -/
  buffer : Bool
  /-- the result of `vm_mmap` -/
  mmap : Except ℤ ℕ

inductive Call where
  | shmat (c : Shmat)
  | shmdt (addr : ℕ) (done : Bool)

namespace Shmat

/-- The hollow area is carved. -/
def carved (c : Shmat) : Option (ℕ × Area) :=
  match c.home, c.mmap with
  | .ok a, .ok hollowAddr => if c.done && c.buffer then some (hollowAddr, a) else none
  | _, _ => none

/-- `final_ret`. -/
def finalRet (c : Shmat) : ℤ :=
  if c.done then
    match c.home with
    | .error e => e
    | .ok _ =>
      if c.buffer then
        match c.mmap with
        | .ok hollowAddr => hollowAddr
        | .error e => e
      else 0
  else -4

end Shmat

/-- A given address is rounded down to a page at most, and `MAP_FIXED` is set for it on both
nodes. Without one the kernels choose. -/
def enabled (s : State) : Call → Prop
  | .shmat c =>
    (∀ e, c.home = .error e → e < 0) ∧ (∀ e, c.mmap = .error e → e < 0) ∧
      ∀ a, c.home = .ok a →
        a.shmid = c.shmid ∧ a.vmPgoff = 0 ∧ (∀ x ∈ s.deputy.areas, x.vmFile ≠ a.vmFile) ∧
        (c.remap ∧ c.shmaddr ≠ 0 ∨ ∀ x ∈ s.deputy.areas, ¬x.Meets a) ∧
        (c.shmaddr ≠ 0 → a.vmStart = faultAddr c.shmaddr ∧
          ∀ hollowAddr, c.mmap = .ok hollowAddr → hollowAddr = a.vmStart)
  | .shmdt _ _ => True

/-- The awakening of `shmat` carves the hollow area and takes the next entry, if there is one. -/
def awakenShmat (s : State) (c : Shmat) : State :=
  match c.carved with
  | some (hollowAddr, a) =>
    { s with
      guest := s.guest.register hollowAddr a.length c.shmid
      attached := fun x =>
        decide (hollowAddr ≤ x ∧ x < hollowAddr + a.length) || s.attached x }
  | none => s

/-- The awakening of `shmdt` drops the entry whatever the error, and unmaps its range if there is
none. -/
def awakenShmdt (s : State) (addr : ℕ) (ok : Bool) : State :=
  match mappingAt s.guest addr with
  | some d =>
    { s with
      guest := s.guest.removeMapping d
      attached := fun x => s.attached x &&
        !(ok && decide (addr ≤ x ∧ x < addr + (s.guest.dsmMap.slot d).size)) }
  | none => s

def next (s : State) : Call → State
  | .shmat c =>
    match c.home with
    | .ok a => awakenShmat { s with deputy := s.deputy.attach a } c
    | .error _ => s
  | .shmdt addr done =>
    let home := s.deputy.detach addr
    let s' := { s with deputy := home.getD s.deputy }
    if done then awakenShmdt s' addr home.isSome else s'

def machine : Machine State Call := ⟨enabled, next⟩

/-- `handle_migrate_done`: an entry for each area of the blueprint, while there is room. -/
def importedGuest (g : GuestInfo) (m : AddressSpace) : GuestInfo :=
  (m.areas.map fun a => (a.vmStart, a.length, a.shmid)).foldl
    (fun g v => g.register v.1 v.2.1 v.2.2) { g with dsmMap := { g.dsmMap with count := 0 } }

/-- The surrogate is built with the areas of the deputy, whatever was in the guest's entry. -/
def imported (g : GuestInfo) (m : AddressSpace) : State :=
  ⟨m, importedGuest g m, fun addr => m.areas.any fun a => a.Covers addr⟩

theorem importedGuest_eq (r : Registry) (tgid i : ℕ) (m : AddressSpace)
    (guest : guestOf r tgid = some i) :
    populate r tgid (m.areas.map fun a => (a.vmStart, a.length, a.shmid)) =
      r.modify i fun g => importedGuest g m := by
  simp only [populate, guest, importedGuest]

/-- The call gives the surrogate what it gives the deputy: `shmat` the same address, and `shmdt`
takes the same addresses from both. -/
def Faithful (s : State) : Call → Prop
  | .shmat c => ∀ a, c.home = .ok a → c.finalRet = a.vmStart
  | .shmdt addr done => ∀ x,
    (s.deputy.Covers x ∧ ¬(next s (.shmdt addr done)).deputy.Covers x) ↔
      (s.attached x ∧ ¬(next s (.shmdt addr done)).attached x)

/-! ### The conditions -/

/-- What the attachments of a process have to be like when it is migrated. -/
structure Fits (m : AddressSpace) : Prop where
  room : m.areas.length ≤ maxDsmSegments
  flat : ∀ a ∈ m.areas, a.vmPgoff = 0
  short : ∀ a ∈ m.areas, a.length ≤ maxDsmPages * pageSize
  longest : m.FirstLongest

/-- What has to come together when the deputy attaches an area. -/
structure Attaches (s : State) (c : Shmat) (a : Area) : Prop where
  done : c.done = true
  buffer : c.buffer = true
  placed : c.mmap = .ok a.vmStart
  /-- entries in its way are for the same segment at the same address -/
  clear : ∀ m ∈ s.guest.dsmMap, m.baseAddr < a.vmEnd → a.vmStart < m.baseAddr + m.size →
    m.baseAddr = a.vmStart ∧ m.shmid = a.shmid
  room : s.guest.dsmMap.count < maxDsmSegments ∨
    ∃ m ∈ s.guest.dsmMap, m.baseAddr = a.vmStart ∧ m.shmid = a.shmid ∧ a.length ≤ m.size
  /-- an area that it replaces does not stick out behind -/
  inside : ∀ x ∈ s.deputy.areas, x.Meets a → x.vmEnd ≤ a.vmEnd
  short : a.length ≤ maxDsmPages * pageSize
  longest : (s.deputy.attach a).FirstLongest

/-- What has to come together when the deputy detaches an area. -/
structure Detaches (s : State) (addr : ℕ) (done : Bool) (m : AddressSpace) : Prop where
  done : done = true
  whole : ∀ a ∈ s.deputy.areas, a.vmStart = addr →
    ∀ d ∈ mappingAt s.guest addr, a.length ≤ (s.guest.dsmMap.slot d).size
  longest : m.FirstLongest

def Keeps (s : State) : Call → Prop
  | .shmat c => ∀ a, c.home = .ok a → Attaches s c a
  | .shmdt addr done => ∀ m, s.deputy.detach addr = some m → Detaches s addr done m

end MattX.DsmTranslation
