import MattX.DsmDirectory
import MattX.GuestHost

set_option autoImplicit false

/-!
# The nodes of a cluster and what is under way between them

Every node is a host for guests of other nodes and the home of its own
segments. Work in progress and messages in flight are kept in lists; which of
them moves next is up to the run, as kworkers are not ordered.
-/
namespace MattX.DsmCluster
open GuestRegistry GuestHost DsmDirectory

/-- A System V area of a process on its home node. -/
structure Area where
  shmid : ℕ
  size : ℕ

structure Task where
  areas : List Area
  exiting : Bool

structure ExportInfo where
  origPid : ℕ
  targetNode : Node

/-- A node in its role as home: `ram` is the page cache of its segments, `resident` says whether
`filemap_get_folio` finds the page, `nativePte pid shmid p` whether a local process has it mapped. -/
structure HomeState where
  dir : GlobalDir
  exports : SlotTable ExportInfo
  tasks : ℕ → Option Task
  ram : ℕ → PageIdx → Page
  resident : ℕ → PageIdx → Bool
  nativePte : ℕ → ℕ → PageIdx → Bool
  toShoot : List (ℕ × ℕ × PageIdx)

/-- Whose copy of which page: process `origPid` of `home`, running on `node`. -/
@[ext] structure PageKey where
  home : Node
  node : Node
  origPid : ℕ
  shmid : ℕ
  page : PageIdx
  deriving DecidableEq

/-- How far a page fault has come, on the home node up to `replied` and on the guest's after. -/
inductive FaultStage where
  | requested
  | hunted
  | looked (owner : ℕ)
  | flushing (owner : ℕ) (ownerNode : Node)
  | copied (ownerNode : Node) (tgid base : ℕ) (data : Page)
  | flushed (reply : Option Page)
  | settled
  | ready
  | pumped (data : Page)
  | replied (reply : Option Page)
  | placed (f : Frame) (data : Page)
  | filled (f : Frame)
  | injected
  | marked

/-- `waiting` goes when a signal takes the faulting thread out of its wait. -/
structure Fault where
  key : PageKey
  tgid : ℕ
  base : ℕ
  waiting : Bool
  stage : FaultStage

inductive AcquireStage where
  | requested
  | granted (found : Bool)
  | replied
  | upgraded
  deriving DecidableEq

/-- A write-protect fault of a guest. -/
structure Acquire where
  key : PageKey
  tgid : ℕ
  base : ℕ
  waiting : Bool
  stage : AcquireStage

structure Invalidate where
  home : Node
  node : Node
  shmid : ℕ
  page : PageIdx
  acquirer : ℕ

/-- A PAGE_UPDATE: `stored` once its bytes are copied and the directory is looked at next. -/
structure Update where
  key : PageKey
  data : Page
  stored : Bool

inductive SyncStage where
  | queued
  | looked (owner : ℕ)
  | flushing (owner : ℕ) (ownerNode : Node)
  | copied (ownerNode : Node) (tgid base : ℕ) (data : Page)
  | flushed (reply : Option Page)
  | settled
  | claiming

/-- A run of `mattx_vm1_shm_sync_kworker` with the directory index it remembers. -/
structure Sync where
  home : Node
  pid : ℕ
  shmid : ℕ
  page : PageIdx
  isWrite : Bool
  dirIdx : Option Slot
  stage : SyncStage

/-- A native fault that passed the hook and has not installed its entry yet. -/
structure NativeFault where
  home : Node
  pid : ℕ
  shmid : ℕ
  page : PageIdx

/-- What the mode 1 sweeper still has to do for one mapping of its snapshot. -/
structure SweepJob where
  home : Node
  origPid : ℕ
  tgid : ℕ
  base : ℕ
  shmid : ℕ
  pages : List (PageIdx × Frame)

structure Cluster where
  mode : ℕ
  link : Node → Node → Bool
  host : Node → Host
  home : Node → HomeState
  faults : List Fault
  acquires : List Acquire
  invalidates : List Invalidate
  updates : List Update
  syncs : List Sync
  nativeFaults : List NativeFault
  sweeps : Node → List SweepJob
  exits : List (Node × ℕ)

namespace HomeState

/-- The first area of the segment, where every search of a task's areas stops. -/
def areaOf (hm : HomeState) (pid shmid : ℕ) : Option Area :=
  (hm.tasks pid).bind fun t => t.areas.find? fun a => a.shmid == shmid

def hasArea (hm : HomeState) (pid shmid : ℕ) : Bool := (hm.areaOf pid shmid).isSome

/-- `vma->vm_start + offset < vma->vm_end`. -/
def covers (hm : HomeState) (pid shmid : ℕ) (p : PageIdx) : Bool :=
  match hm.areaOf pid shmid with
  | some a => decide (pageSize * p.val < a.size)
  | none => false

def exportNode (hm : HomeState) (pid : ℕ) : Option Node :=
  (hm.exports.find? fun e => e.origPid == pid).map fun i => (hm.exports.slot i).targetNode

def writeRam (hm : HomeState) (shmid : ℕ) (p : PageIdx) (data : Page) : HomeState :=
  { hm with
    ram := Function.update hm.ram shmid (Function.update (hm.ram shmid) p data)
    resident := Function.update hm.resident shmid (Function.update (hm.resident shmid) p true) }

/-- `unmap_mapping_range`: the entry goes in every process. -/
def shootDown (hm : HomeState) (shmid : ℕ) (p : PageIdx) : HomeState :=
  { hm with nativePte := fun pid s q => hm.nativePte pid s q && !(s == shmid && q == p) }

def install (hm : HomeState) (pid shmid : ℕ) (p : PageIdx) : HomeState :=
  { hm with nativePte := fun t s q => hm.nativePte t s q || (t == pid && s == shmid && q == p) }

/-- The SHARED pages of the directory, in the order the sweeper scans it. -/
def sharedPages (hm : HomeState) : List (ℕ × ℕ × PageIdx) :=
  (List.finRange maxDsmSegments).flatMap fun d =>
    if (hm.dir d).inUse then
      ((List.finRange maxDsmPages).filter fun p => (hm.dir d).pageState p == .shared).map
        fun p => ((hm.dir d).shmid, (hm.dir d).homePid, p)
    else []

end HomeState

namespace Cluster

def dir (c : Cluster) (h : Node) : GlobalDir := (c.home h).dir

def guests (c : Cluster) (n : Node) : Registry := (c.host n).guests

def setHost (c : Cluster) (n : Node) (h : Host) : Cluster :=
  { c with host := Function.update c.host n h }

def setHome (c : Cluster) (h : Node) (hm : HomeState) : Cluster :=
  { c with home := Function.update c.home h hm }

def setDir (c : Cluster) (h : Node) (dir : GlobalDir) : Cluster :=
  c.setHome h { c.home h with dir := dir }

/-- One critical section of `guest_lock` on node `n`. -/
def act (c : Cluster) (n : Node) (op : GuestRegistryFrames.RegistryOp) : Cluster :=
  c.setHost n ((c.host n).apply op)

def moveFault (c : Cluster) (k : ℕ) (t : Fault) (st : FaultStage) : Cluster :=
  { c with faults := c.faults.set k { t with stage := st } }

def dropFault (c : Cluster) (k : ℕ) : Cluster := { c with faults := c.faults.eraseIdx k }

def moveAcquire (c : Cluster) (k : ℕ) (a : Acquire) (st : AcquireStage) : Cluster :=
  { c with acquires := c.acquires.set k { a with stage := st } }

def dropAcquire (c : Cluster) (k : ℕ) : Cluster := { c with acquires := c.acquires.eraseIdx k }

def moveSync (c : Cluster) (k : ℕ) (s : Sync) (st : SyncStage) : Cluster :=
  { c with syncs := c.syncs.set k { s with stage := st } }

def dropSync (c : Cluster) (k : ℕ) : Cluster := { c with syncs := c.syncs.eraseIdx k }

/-- The connected nodes of a mask, the requester's own included. -/
def targets (c : Cluster) (h : Node) (mask : NodeMask) : List Node :=
  (List.finRange (64 * (maxNodes / 64))).filter fun n => mask.test n && c.link h n

def sendInvalidates (c : Cluster) (h : Node) (mask : NodeMask) (shmid : ℕ) (p : PageIdx)
    (acquirer : ℕ) : Cluster :=
  { c with invalidates := c.invalidates ++
      (c.targets h mask).map (Invalidate.mk h · shmid p acquirer) }

end Cluster

/-- What is there before the module is loaded on the nodes. -/
structure Boot where
  link : Node → Node → Bool
  phys : Node → Frame → Page
  tasks : Node → ℕ → Option Task
  ram : Node → ℕ → PageIdx → Page
  resident : Node → ℕ → PageIdx → Bool
  mapped : Node → ℕ → ℕ → PageIdx → Bool

/-- The cluster right after loading, with `config_dsm_mode` set to `mode`. -/
def Boot.cluster (b : Boot) (mode : ℕ) : Cluster where
  mode := mode
  link := b.link
  host n := ⟨GuestRegistryFrames.zeroPool, b.phys n, fun _ _ _ => .absent⟩
  home h :=
    { dir := zeroDir
      exports := ⟨fun _ => ⟨0, h⟩, 0⟩
      tasks := b.tasks h
      ram := b.ram h
      resident := b.resident h
      nativePte := fun pid shmid p => b.mapped h pid shmid p &&
        (b.tasks h pid).any fun t => t.areas.any fun a => a.shmid == shmid
      toShoot := [] }
  faults := []
  acquires := []
  invalidates := []
  updates := []
  syncs := []
  nativeFaults := []
  sweeps _ := []
  exits := []

end MattX.DsmCluster
