import Mathlib.Data.List.FinRange
import MattX.DsmTypes

set_option autoImplicit false

/-!
# The home node's master directory

Each definition below the lookup is one critical section of `mattx_dsm_lock`,
so the kworkers that run them can be interleaved between any two of them.
-/
namespace MattX.DsmDirectory
open WordMask

/-- `struct mattx_dsm_master_dir`. -/
structure MasterDir where
  inUse : Bool
  shmid : ℕ
  homePid : ℕ
  pageState : PageIdx → PageState
  pageOwnerPid : PageIdx → ℕ
  pageSharedMask : PageIdx → NodeMask

abbrev Slot := Fin maxDsmSegments

/-- `mattx_global_dsm_dir`. -/
abbrev GlobalDir := Slot → MasterDir

def MasterDir.zero : MasterDir :=
  ⟨false, 0, 0, fun _ => .invalid, fun _ => 0, fun _ => empty⟩

/-- The table as the module loader leaves it. -/
def zeroDir : GlobalDir := fun _ => .zero

/-- Every search of the table stops at the first active slot of the segment. -/
def findEntry (dir : GlobalDir) (shmid : ℕ) : Option Slot :=
  (List.finRange maxDsmSegments).find? fun d => (dir d).inUse && (dir d).shmid == shmid

def freeSlot (dir : GlobalDir) : Option Slot :=
  (List.finRange maxDsmSegments).find? fun d => !(dir d).inUse

def MasterDir.setPage (e : MasterDir) (p : PageIdx) (st : PageState) (owner : ℕ)
    (mask : NodeMask) : MasterDir :=
  { e with
    pageState := Function.update e.pageState p st
    pageOwnerPid := Function.update e.pageOwnerPid p owner
    pageSharedMask := Function.update e.pageSharedMask p mask }

def setPage (dir : GlobalDir) (d : Slot) (p : PageIdx) (st : PageState) (owner : ℕ)
    (mask : NodeMask) : GlobalDir :=
  Function.update dir d ((dir d).setPage p st owner mask)

/-- The owner a fault has to flush, 0 when there is none: the first lookup of
`mattx_dsm_fault_kworker` and of `mattx_vm1_shm_sync_kworker`. -/
def exclusiveOwner (dir : GlobalDir) (shmid : ℕ) (p : PageIdx) : ℕ :=
  match findEntry dir shmid with
  | some d => if (dir d).pageState p = .exclusive then (dir d).pageOwnerPid p else 0
  | none => 0

/-- `mattx_dsm_fault_kworker`, after the flush. -/
def flushDowngrade (dir : GlobalDir) (shmid : ℕ) (p : PageIdx) : GlobalDir :=
  match findEntry dir shmid with
  | some d => setPage dir d p .shared 0 empty
  | none => dir

/-- A free slot taken for a segment: the three arrays are cleared. -/
def register (dir : GlobalDir) (d : Slot) (shmid homePid : ℕ) : GlobalDir :=
  Function.update dir d { MasterDir.zero with inUse := true, shmid := shmid, homePid := homePid }

/-- Only an INVALID page becomes SHARED here; an EXCLUSIVE one keeps its state. -/
def markReader (dir : GlobalDir) (d : Slot) (p : PageIdx) (node : Node) : GlobalDir :=
  setPage dir d p (if (dir d).pageState p = .invalid then .shared else (dir d).pageState p)
    ((dir d).pageOwnerPid p) (((dir d).pageSharedMask p).set node)

/-- `mattx_dsm_fault_kworker`, after the pump. -/
def recordReader (dir : GlobalDir) (shmid homePid : ℕ) (p : PageIdx) (node : Node) : GlobalDir :=
  match findEntry dir shmid with
  | some d => markReader dir d p node
  | none =>
    match freeSlot dir with
    | some d => markReader (register dir d shmid homePid) d p node
    | none => dir

/-- `mattx_dsm_write_acquire_kworker`: the mask to invalidate, if the entry was found. -/
def writeAcquire (dir : GlobalDir) (shmid : ℕ) (p : PageIdx) (pid : ℕ) :
    GlobalDir × Option NodeMask :=
  match findEntry dir shmid with
  | some d => (setPage dir d p .exclusive pid empty, some ((dir d).pageSharedMask p))
  | none => (dir, none)

/-- `mattx_dsm_update_kworker`, the funeral cleanup. -/
def bombCleanup (dir : GlobalDir) (shmid : ℕ) (p : PageIdx) (pid : ℕ) : GlobalDir :=
  match findEntry dir shmid with
  | some d =>
    if (dir d).pageState p = .exclusive ∧ (dir d).pageOwnerPid p = pid then
      setPage dir d p .shared 0 empty
    else dir
  | none => dir

/-- `mattx_vm1_shm_sync_kworker` writes through the index it looked up before the flush. -/
def nativeDowngrade (dir : GlobalDir) (d : Slot) (p : PageIdx) : GlobalDir :=
  setPage dir d p .shared 0 empty

/-- `mattx_vm1_shm_sync_kworker`, a native write: owner 0 is the home node itself. -/
def nativeClaim (dir : GlobalDir) (d : Slot) (p : PageIdx) : GlobalDir :=
  setPage dir d p .exclusive 0 empty

/-- `ret_handler_shmctl` after a successful `IPC_RMID`. -/
def removeSegment (dir : GlobalDir) (shmid : ℕ) : GlobalDir :=
  match findEntry dir shmid with
  | some d => Function.update dir d { dir d with inUse := false }
  | none => dir

/-- The check of `entry_handler_shmem_fault`. -/
def needsSync (dir : GlobalDir) (shmid : ℕ) (p : PageIdx) (isWrite : Bool) : Bool :=
  match findEntry dir shmid with
  | some d =>
    if (dir d).pageState p = .exclusive ∧ (dir d).pageOwnerPid p ≠ 0 then true
    else isWrite && (dir d).pageState p == .shared &&
      (List.finRange (64 * (maxNodes / 64))).any fun n => ((dir d).pageSharedMask p).test n
  | none => false

theorem findEntry_some {dir : GlobalDir} {shmid : ℕ} {d : Slot}
    (h : findEntry dir shmid = some d) : (dir d).inUse = true ∧ (dir d).shmid = shmid := by
  simpa using List.find?_some h

theorem findEntry_none {dir : GlobalDir} {shmid : ℕ} (h : findEntry dir shmid = none) (d : Slot)
    (hd : (dir d).inUse = true) : (dir d).shmid ≠ shmid := by
  have := List.find?_eq_none.mp h d (List.mem_finRange d)
  simpa [hd] using this

theorem freeSlot_some {dir : GlobalDir} {d : Slot} (h : freeSlot dir = some d) :
    (dir d).inUse = false := by
  simpa using List.find?_some h

theorem setPage_apply (dir : GlobalDir) (d e : Slot) (p : PageIdx) (st : PageState) (owner : ℕ)
    (mask : NodeMask) :
    setPage dir d p st owner mask e =
      if e = d then (dir d).setPage p st owner mask else dir e := by
  by_cases h : e = d
  · subst e
    simp [setPage]
  · simp [setPage, h]

@[simp] theorem setPage_inUse (dir : GlobalDir) (d e : Slot) (p : PageIdx) (st : PageState)
    (owner : ℕ) (mask : NodeMask) : (setPage dir d p st owner mask e).inUse = (dir e).inUse := by
  rw [setPage_apply]
  split_ifs with h
  · subst e
    rfl
  · rfl

@[simp] theorem setPage_shmid (dir : GlobalDir) (d e : Slot) (p : PageIdx) (st : PageState)
    (owner : ℕ) (mask : NodeMask) : (setPage dir d p st owner mask e).shmid = (dir e).shmid := by
  rw [setPage_apply]
  split_ifs with h
  · subst e
    rfl
  · rfl

end MattX.DsmDirectory
