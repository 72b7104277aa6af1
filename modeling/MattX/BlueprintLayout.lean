import MattX.MigrationCapture
import MattX.StructLayout

set_option autoImplicit false

/-!
# The blueprint on its way to the stub

The kernel copies the pending blueprint into a netlink attribute, whose length
has 16 bits. The stub is a program of its own, and finds the fields by its own
declarations of the structures.
-/
namespace MattX.BlueprintLayout
open StructLayout
open MigrationCapture (maxGangThreads maxFds maxVmas)

inductive Name where
  | vmStart | vmEnd | vmFlags | shmid | isShm
  | r15 | r14 | r13 | r12 | rbp | rbx | r11 | r10 | r9 | r8 | rax | rcx | rdx | rsi | rdi | origRax
  | rip | cs | eflags | rsp | ss
  | tid | regs | fsbase | gsbase | clearChildTid | setChildTid | fpuSize | fpuState
  | origPid | uid | gid | homeNode | threadCount | threads | argStart | argEnd | startBrk | brk
  | vdsoAddr | monotonicAtFreeze | comm | dfsaDir | fdCount | openFds | vmaCount | mattxfsEnabled
  | vmas
  deriving DecidableEq

def fields : List (Name × CType Name) → Fields Name
  | [] => .nil
  | f :: fs => .cons f.1 f.2 (fields fs)

abbrev u8 : CType Name := .int 1
abbrev u32 : CType Name := .int 4
abbrev u64 : CType Name := .int 8

/-! ### The kernel's header -/

namespace Kernel

/-- `MATTX_FPU_STATE_MAX` -/
def fpuStateMax : ℕ := 1024

def unsignedLong : CType Name := .int 8

def vmaInfo : CType Name := .struct false (fields
  [(.vmStart, unsignedLong), (.vmEnd, unsignedLong), (.vmFlags, unsignedLong), (.shmid, u32),
    (.isShm, u8)])

def cpuRegs : CType Name := .struct false (fields
  [(.r15, u64), (.r14, u64), (.r13, u64), (.r12, u64), (.rbp, u64), (.rbx, u64), (.r11, u64),
    (.r10, u64), (.r9, u64), (.r8, u64), (.rax, u64), (.rcx, u64), (.rdx, u64), (.rsi, u64),
    (.rdi, u64), (.origRax, u64), (.rip, u64), (.cs, u64), (.eflags, u64), (.rsp, u64), (.ss, u64)])

def threadInfo : CType Name := .struct true (fields
  [(.tid, u32), (.regs, cpuRegs), (.fsbase, u64), (.gsbase, u64), (.clearChildTid, u64),
    (.setChildTid, u64), (.fpuSize, u32), (.fpuState, .array fpuStateMax u8)])

/-- With so many records behind it. -/
def migrationReq (vmas : ℕ) : CType Name := .struct true (fields
  [(.origPid, u32), (.uid, u32), (.gid, u32), (.homeNode, u32), (.threadCount, u32),
    (.threads, .array maxGangThreads threadInfo), (.argStart, u64), (.argEnd, u64),
    (.startBrk, u64), (.brk, u64), (.vdsoAddr, u64), (.monotonicAtFreeze, u64),
    (.comm, .array 16 u8), (.dfsaDir, .array 256 u8), (.fdCount, u32),
    (.openFds, .array maxFds u32), (.vmaCount, u32), (.mattxfsEnabled, u8),
    (.vmas, .array vmas vmaInfo)])

end Kernel

/-! ### The stub's copy -/

namespace Stub

def maxFds : ℕ := 256

def maxGangThreads : ℕ := 16

def fpuStateMax : ℕ := 1024

def vmaInfo : CType Name := .struct false (fields
  [(.vmStart, u64), (.vmEnd, u64), (.vmFlags, u64), (.shmid, u32), (.isShm, u8)])

def cpuRegs : CType Name := .struct false (fields
  [(.r15, u64), (.r14, u64), (.r13, u64), (.r12, u64), (.rbp, u64), (.rbx, u64), (.r11, u64),
    (.r10, u64), (.r9, u64), (.r8, u64), (.rax, u64), (.rcx, u64), (.rdx, u64), (.rsi, u64),
    (.rdi, u64), (.origRax, u64), (.rip, u64), (.cs, u64), (.eflags, u64), (.rsp, u64), (.ss, u64)])

def threadInfo : CType Name := .struct true (fields
  [(.tid, u32), (.regs, cpuRegs), (.fsbase, u64), (.gsbase, u64), (.clearChildTid, u64),
    (.setChildTid, u64), (.fpuSize, u32), (.fpuState, .array fpuStateMax u8)])

def migrationReq (vmas : ℕ) : CType Name := .struct true (fields
  [(.origPid, u32), (.uid, u32), (.gid, u32), (.homeNode, u32), (.threadCount, u32),
    (.threads, .array maxGangThreads threadInfo), (.argStart, u64), (.argEnd, u64),
    (.startBrk, u64), (.brk, u64), (.vdsoAddr, u64), (.monotonicAtFreeze, u64),
    (.comm, .array 16 u8), (.dfsaDir, .array 256 u8), (.fdCount, u32),
    (.openFds, .array maxFds u32), (.vmaCount, u32), (.mattxfsEnabled, u8),
    (.vmas, .array vmas vmaInfo)])

end Stub

/-! ### The attribute -/

/-- `NLA_HDRLEN` -/
def nlaHdrlen : ℕ := 4

/-- `nlaLen` has 16 bits. -/
structure Attribute where
  nlaLen : BitVec 16
  data : Memory

/-- `sizeof(struct mattx_migration_req)` and that of `vma_count` records. -/
def blueprintLen (vmaCount : ℕ) : ℕ :=
  (Kernel.migrationReq 0).size + vmaCount * Kernel.vmaInfo.size

/-- `nla_put` in `mattx_nl_cmd_get_blueprint`, where the count is the one in memory. -/
def getBlueprint (pending : Memory) : Attribute :=
  let vmaCount := ((Kernel.migrationReq 0).read pending [.field .vmaCount]).getD 0
  ⟨BitVec.ofNat 16 (nlaHdrlen + blueprintLen vmaCount), pending⟩

/-- `blueprint_cb`: so many bytes are copied. -/
def received (a : Attribute) : ℕ := a.nlaLen.toNat - nlaHdrlen

/-- What the stub reads at a path, if that lies in the copy. -/
def stubRead (vmas : ℕ) (a : Attribute) (p : Path Name) : Option ℕ :=
  match (Stub.migrationReq vmas).locate p with
  | some (off, bytes) => if off + bytes ≤ received a then some (load a.data off bytes) else none
  | none => none

/-- The same with the records it takes to be there. -/
def stubField (a : Attribute) (p : Path Name) : Option ℕ :=
  stubRead ((stubRead 0 a [.field .vmaCount]).getD 0) a p

/-- A blueprint as the kernel filled it in, in any order; `before`: what was in the memory. -/
structure Blueprint where
  before : Memory
  vmas : ℕ
  stored : List (Path Name × ℕ)
  places : ∀ w ∈ stored, ((Kernel.migrationReq vmas).locate w.1).isSome = true
  counted : lastWritten [.field .vmaCount] stored = some vmas
  few : vmas ≤ maxVmas

def Blueprint.pending (b : Blueprint) : Memory :=
  b.stored.foldl (Kernel.migrationReq b.vmas).write b.before

theorem stub_agrees (vmas : ℕ) : Stub.migrationReq vmas = Kernel.migrationReq vmas := rfl

theorem blueprintLen_eq (vmas : ℕ) : blueprintLen vmas = 21085 + 32 * vmas := by
  have head : (Kernel.migrationReq 0).size = 21085 := by decide +kernel
  have record : Kernel.vmaInfo.size = 32 := by decide +kernel
  rw [blueprintLen, head, record, Nat.mul_comm]

set_option maxRecDepth 4000 in
theorem size_eq (vmas : ℕ) : (Kernel.migrationReq vmas).size = blueprintLen vmas := by
  have thread : Kernel.threadInfo.size = 1232 := by decide +kernel
  have record : Kernel.vmaInfo.size = 32 := by decide +kernel
  rw [blueprintLen_eq, Kernel.migrationReq]
  simp only [fields, CType.size, Fields.stop, place, if_true, thread, record]
  simp only [roundUp, maxGangThreads, maxFds]
  omega

theorem vmaCount_place (vmas : ℕ) :
    (Kernel.migrationReq vmas).locate [.field .vmaCount] = some (21080, 4) := by
  have thread : Kernel.threadInfo.size = 1232 := by decide +kernel
  simp [Kernel.migrationReq, fields, CType.locate, Fields.locate, CType.size, place, thread,
    maxGangThreads, maxFds]

/-- What the kernel stored at a path last, or what was there before. -/
def Blueprint.value (b : Blueprint) (p : Path Name) : Option ℕ :=
  ((Kernel.migrationReq b.vmas).locate p).map fun a =>
    match lastWritten p b.stored with
    | some v => v % 256 ^ a.2
    | none => load b.before a.1 a.2

theorem read_pending (b : Blueprint) (p : Path Name) :
    (Kernel.migrationReq b.vmas).read b.pending p = b.value p := by
  cases found : (Kernel.migrationReq b.vmas).locate p with
  | none => simp only [CType.read, Blueprint.value, found, Option.map_none]
  | some a =>
    rw [Blueprint.pending, CType.read_writes _ _ _ found]
    cases last : lastWritten p b.stored with
    | none => simp only [CType.read, Blueprint.value, found, last, Option.map_some]
    | some v => simp only [Blueprint.value, found, last, Option.map_some]

/-- The count lies at the same place whatever number of records follow. -/
theorem load_vmaCount (b : Blueprint) : load b.pending 21080 4 = b.vmas := by
  have value := read_pending b [.field .vmaCount]
  have few := b.few
  simp only [CType.read, Blueprint.value, vmaCount_place, b.counted, Option.map_some,
    Option.some.injEq] at value
  simp only [maxVmas] at few
  rw [value]
  omega

theorem getBlueprint_len (b : Blueprint) :
    (getBlueprint b.pending).nlaLen.toNat = nlaHdrlen + blueprintLen b.vmas := by
  have few := b.few
  simp only [maxVmas] at few
  simp only [getBlueprint, CType.read, vmaCount_place, Option.map_some, Option.getD_some,
    load_vmaCount, BitVec.toNat_ofNat, blueprintLen_eq, nlaHdrlen]
  omega

theorem received_eq (b : Blueprint) : received (getBlueprint b.pending) = blueprintLen b.vmas := by
  rw [received, getBlueprint_len]
  omega

/-- Every integer of a blueprint lies in the copy, wherever the stub looks for it. -/
theorem stubRead_eq (b : Blueprint) (p : Path Name) :
    stubRead b.vmas (getBlueprint b.pending) p = (Kernel.migrationReq b.vmas).read b.pending p := by
  rw [stubRead, stub_agrees, CType.read]
  cases found : (Kernel.migrationReq b.vmas).locate p with
  | none => rfl
  | some a =>
    have inside := (Kernel.migrationReq b.vmas).locate_inside p found
    rw [size_eq] at inside
    simp only [received_eq, inside, if_true, Option.map_some]
    rfl

theorem stub_counts (b : Blueprint) :
    (stubRead 0 (getBlueprint b.pending) [.field .vmaCount]).getD 0 = b.vmas := by
  have long : 21080 + 4 ≤ blueprintLen b.vmas := by
    rw [blueprintLen_eq]
    omega
  simp only [stubRead, stub_agrees, vmaCount_place, received_eq, long, if_true, Option.getD_some]
  exact load_vmaCount b

/-- The attribute has room for every blueprint, and the stub finds in it at each place what the
kernel stored there. -/
theorem stub_reads_blueprint (b : Blueprint) :
    (getBlueprint b.pending).nlaLen.toNat = nlaHdrlen + blueprintLen b.vmas ∧
      ∀ p, stubField (getBlueprint b.pending) p = b.value p := by
  refine ⟨getBlueprint_len b, fun p => ?_⟩
  rw [stubField, stub_counts, stubRead_eq, read_pending]

/-- The last record begins where the others end; its flag is 28 bytes further. -/
example : (Stub.migrationReq 1024).locate [.field .vmas, .elem 1023, .field .isShm] =
    some (21085 + 32 * 1023 + 28, 1) := by decide +kernel

end MattX.BlueprintLayout
