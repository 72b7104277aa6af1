import MattX.DsmTypes
import Mathlib.Logic.Function.Basic
import Mathlib.Data.Int.Notation

set_option autoImplicit false

/-!
# System calls run in the deputy's memory

`mattx_execute_as_deputy` puts the path 8192 and the output buffer 4096 bytes
below the deputy's stack pointer. The bytes from 128 below it are live.
-/
namespace MattX.DeputyScratchpad

/-- User memory; what is not mapped reads as zero. -/
abbrev Memory := ℕ → BitVec 8

/-- One page less than 2^47. -/
def taskSize : ℕ := 140737488351232

/-- A path as `strlen` finds it: a `char[256]` and at most three bytes of `target_node` behind. -/
structure Path where
  bytes : Bytes
  short : bytes.length ≤ 259

/-- Those the raw system calls here take their arguments from. -/
structure Regs where
  di : ℕ
  si : ℕ
  dx : ℕ
  r10 : ℕ
  deriving DecidableEq

def zeroRegs : Regs := ⟨0, 0, 0, 0⟩

/-- Registers by the numbers of `path_reg`, `buf_reg` and `fd_reg`. -/
def Regs.set (r : Regs) (n v : ℕ) : Regs :=
  if n = 1 then { r with di := v } else if n = 2 then { r with si := v }
  else if n = 3 then { r with dx := v } else r

inductive Request where
  | statfs (path : Path)
  | fstatfs (fd : ℤ)
  | newfstatat (dfd flags : ℤ) (path : Path)
  | faccessat2 (dfd mode flags : ℤ) (path : Path)
  | readlink (bufsiz : ℕ) (path : Path)
  | readlinkat (dfd : ℤ) (bufsiz : ℕ) (path : Path)
  | getdents64 (fd : ℤ) (count : ℕ)
  | pipe2 (flags : ℤ)

/-- The arguments of `mattx_execute_as_deputy`; no `outSize` where `out_buf` is NULL. -/
structure Params where
  regs : Regs
  path : Option Path
  pathReg : ℕ
  outSize : Option ℕ
  bufReg : ℕ
  fdToMap : ℤ
  fdReg : ℕ

/-- An `int` in a register. -/
def word (i : ℤ) : ℕ := (i % 18446744073709551616).toNat

def sizeofStatfs : ℕ := 120
def sizeofStat : ℕ := 144

def statfsKworker (path : Path) : Params :=
  ⟨zeroRegs, some path, 1, some sizeofStatfs, 2, -1, 0⟩

def fstatfsKworker (fd : ℤ) : Params :=
  ⟨{ zeroRegs with di := word fd }, none, 0, some sizeofStatfs, 2, fd, 1⟩

def newfstatatKworker (dfd flags : ℤ) (path : Path) : Params :=
  ⟨{ zeroRegs with di := word dfd, r10 := word flags }, some path, 2, some sizeofStat, 3, dfd, 1⟩

def faccessat2Kworker (dfd mode flags : ℤ) (path : Path) : Params :=
  ⟨{ zeroRegs with di := word dfd, dx := word mode, r10 := word flags }, some path, 2, none, 0, dfd,
    1⟩

def readlinkKworker (bufsiz : ℕ) (path : Path) : Params :=
  ⟨{ zeroRegs with dx := min bufsiz 4096 }, some path, 1, some (min bufsiz 4096), 2, -1, 0⟩

def readlinkatKworker (dfd : ℤ) (bufsiz : ℕ) (path : Path) : Params :=
  ⟨{ zeroRegs with di := word dfd, r10 := min bufsiz 4096 }, some path, 2,
    some (min bufsiz 4096), 3, dfd, 1⟩

def getdents64Kworker (fd : ℤ) (count : ℕ) : Params :=
  ⟨{ zeroRegs with di := word fd, dx := min count 32768 }, none, 0, some (min count 32768), 2, fd,
    1⟩

def pipe2Kworker (flags : ℤ) : Params :=
  ⟨{ zeroRegs with si := word flags }, none, 0, some 8, 1, -1, 0⟩

def Request.params : Request → Params
  | .statfs path => statfsKworker path
  | .fstatfs fd => fstatfsKworker fd
  | .newfstatat dfd flags path => newfstatatKworker dfd flags path
  | .faccessat2 dfd mode flags path => faccessat2Kworker dfd mode flags path
  | .readlink bufsiz path => readlinkKworker bufsiz path
  | .readlinkat dfd bufsiz path => readlinkatKworker dfd bufsiz path
  | .getdents64 fd count => getdents64Kworker fd count
  | .pipe2 flags => pipe2Kworker flags

/-- `resolved`: the system call is known and the deputy there. `allocated`: `out_buf` could be.
`copied`: the bytes of the path that could be. `mapped`: what the implant of a descriptor from 1000
on finds: no file, no free slot, or the slot. -/
structure Env where
  resolved : Bool
  allocated : Bool
  copied : ℕ
  mapped : Option (Option ℕ)

def scratchpad (sp : BitVec 64) : BitVec 64 := sp - 8192

def pathPtr (sp : BitVec 64) : ℕ := (scratchpad sp).toNat

def bufPtr (sp : BitVec 64) : ℕ := (scratchpad sp + 4096).toNat

def store (m : Memory) (addr : ℕ) (b : Bytes) : Memory := fun a =>
  if addr ≤ a then (b[a - addr]?).getD (m a) else m a

def terminated (path : Path) : Bytes := path.bytes ++ [0]

/-- Memory after the copy of the path, as far as it goes. -/
def copyPath (sp : BitVec 64) (e : Env) (p : Params) (m : Memory) : Memory :=
  match p.path with
  | some path => store m (pathPtr sp) ((terminated path).take e.copied)
  | none => m

/-- The registers with the address of the buffer. -/
def bufRegs (sp : BitVec 64) (e : Env) (p : Params) : Regs :=
  match p.outSize with
  | some size => if e.allocated ∧ 0 < size then p.regs.set p.bufReg (bufPtr sp) else p.regs
  | none => p.regs

/-- Nothing where the path could not be copied. -/
def setRegs (sp : BitVec 64) (e : Env) (p : Params) : Option Regs :=
  match p.path with
  | some path =>
    if (terminated path).length ≤ e.copied then
      some ((bufRegs sp e p).set p.pathReg (pathPtr sp))
    else none
  | none => some (bufRegs sp e p)

/-- The registers of the system call, where it is made. -/
def callRegs (sp : BitVec 64) (e : Env) (p : Params) : Option Regs :=
  if e.resolved then
    (setRegs sp e p).bind fun regs =>
      if 1000 ≤ p.fdToMap then
        e.mapped.bind fun slot => slot.map fun fd => regs.set p.fdReg fd
      else some regs
  else none

abbrev Syscall := Regs → Memory → ℤ × Memory

/-- The deputy's memory afterwards. -/
def executeAsDeputy (sp : BitVec 64) (e : Env) (p : Params) (syscall : Syscall) (m : Memory) :
    Memory :=
  if e.resolved then
    match callRegs sp e p with
    | some regs => (syscall regs (copyPath sp e p m)).2
    | none => copyPath sp e p m
  else m

/-- What `copy_from_user` leaves in `out_buf`. -/
def outBuf (sp : BitVec 64) (e : Env) (p : Params) (syscall : Syscall) (m : Memory) :
    Option Bytes :=
  match callRegs sp e p, p.outSize with
  | some regs, some size =>
    if 0 ≤ (syscall regs (copyPath sp e p m)).1 ∧ e.allocated ∧ 0 < size then
      some ((List.range size).map fun i => executeAsDeputy sp e p syscall m (bufPtr sp + i))
    else none
  | _, _ => none

/-! ### What the system calls may do -/

/-- The buffer that the registers name, and the size it is given. -/
def buffer : Request → Regs → ℕ × ℕ
  | .statfs _, r | .fstatfs _, r => (r.si, sizeofStatfs)
  | .newfstatat .., r => (r.dx, sizeofStat)
  | .faccessat2 .., _ => (0, 0)
  | .readlink .., r | .getdents64 .., r => (r.si, r.dx)
  | .readlinkat .., r => (r.dx, r.r10)
  | .pipe2 _, r => (r.di, 8)

/-- Nothing but the buffer is written. -/
def Bounded (r : Request) (syscall : Syscall) : Prop :=
  ∀ regs m a, (syscall regs m).2 a ≠ m a →
    (buffer r regs).1 ≤ a ∧ a < (buffer r regs).1 + (buffer r regs).2

/-- `frames`: the live bytes are as before. `apart`: path and buffer do not overlap. `output`: what
is returned is what the call has written. -/
structure Safe (r : Request) (sp : BitVec 64) (e : Env) (syscall : Syscall) (m : Memory) :
    Prop where
  frames : ∀ a < taskSize, sp.toNat ≤ a + 128 → executeAsDeputy sp e r.params syscall m a = m a
  apart : ∀ path ∈ r.params.path, ∀ size ∈ r.params.outSize,
    pathPtr sp + (terminated path).length ≤ bufPtr sp ∨ bufPtr sp + size ≤ pathPtr sp
  output : ∀ regs ∈ callRegs sp e r.params, ∀ out ∈ outBuf sp e r.params syscall m,
    ∀ i < (buffer r regs).2,
      out[i]? = some ((syscall regs (copyPath sp e r.params m)).2 ((buffer r regs).1 + i))

/-- The size the call is given. -/
def givenSize : Request → ℕ
  | .statfs _ | .fstatfs _ => sizeofStatfs
  | .newfstatat .. => sizeofStat
  | .faccessat2 .. => 0
  | .readlink bufsiz _ | .readlinkat _ bufsiz _ => min bufsiz 4096
  | .getdents64 _ count => min count 32768
  | .pipe2 _ => 8

/-- The call is not made, or its buffer ends 128 bytes below the stack pointer: it has at most 3968
bytes, or the stack pointer is not one of a stack. Without `out_buf` the buffer is at address 0. -/
def Fits (r : Request) (sp : BitVec 64) (e : Env) : Prop :=
  callRegs sp e r.params = none ∨
    if e.allocated then
      givenSize r ≤ 3968 ∨ sp.toNat < 4096 ∨ taskSize + 128 ≤ sp.toNat
    else givenSize r = 0 ∨ givenSize r + 128 ≤ sp.toNat

/-! ### Where things lie -/

theorem pathPtr_eq (sp : BitVec 64) :
    pathPtr sp = if 8192 ≤ sp.toNat then sp.toNat - 8192 else sp.toNat + 18446744073709551616 - 8192 := by
  have lt := sp.isLt
  have below : (8192 : BitVec 64).toNat = 8192 := rfl
  simp only [pathPtr, scratchpad, BitVec.toNat_sub, below]
  split_ifs <;> omega

theorem bufPtr_eq (sp : BitVec 64) :
    bufPtr sp = if 4096 ≤ sp.toNat then sp.toNat - 4096 else sp.toNat + 18446744073709551616 - 4096 := by
  have lt := sp.isLt
  have below : (8192 : BitVec 64).toNat = 8192 := rfl
  have up : (4096 : BitVec 64).toNat = 4096 := rfl
  simp only [bufPtr, scratchpad, BitVec.toNat_add, BitVec.toNat_sub, below, up]
  split_ifs <;> omega

theorem terminated_length (path : Path) : (terminated path).length ≤ 260 := by
  have short := path.short
  simp only [terminated, List.length_append, List.length_singleton]
  omega

/-- The path never reaches live bytes. -/
theorem copyPath_frame (sp : BitVec 64) (e : Env) (p : Params) (m : Memory) {a : ℕ}
    (user : a < taskSize) (live : sp.toNat ≤ a + 128) : copyPath sp e p m a = m a := by
  simp only [copyPath]
  cases p.path with
  | none => rfl
  | some path =>
    simp only [store]
    split_ifs with above
    · have short := terminated_length path
      have place := pathPtr_eq sp
      have taken : ((terminated path).take e.copied).length ≤ 260 :=
        Nat.le_trans (List.length_take_le' _ _) short
      have beyond : ((terminated path).take e.copied)[a - pathPtr sp]? = none := by
        apply List.getElem?_eq_none
        simp only [taskSize] at user
        split_ifs at place <;> omega
      rw [beyond]
      rfl
    · rfl

/-- A register by its number, `r10` last. -/
def Regs.get (r : Regs) (n : ℕ) : ℕ :=
  if n = 1 then r.di else if n = 2 then r.si else if n = 3 then r.dx else r.r10

theorem Regs.get_set_other (r : Regs) {m n : ℕ} (v : ℕ) (other : m ≠ n) :
    (r.set n v).get m = r.get m := by
  simp only [Regs.set, Regs.get]
  split_ifs <;> first | rfl | omega

theorem Regs.get_set_self (r : Regs) {n : ℕ} (v : ℕ) (low : 1 ≤ n) (high : n ≤ 3) :
    (r.set n v).get n = v := by
  simp only [Regs.set, Regs.get]
  split_ifs <;> first | rfl | omega

/-- But for the registers of the path and the descriptor, the call gets those with the buffer. -/
theorem callRegs_get {sp : BitVec 64} {e : Env} {p : Params} {regs : Regs}
    (made : callRegs sp e p = some regs) {n : ℕ} (path : n ≠ p.pathReg) (fd : n ≠ p.fdReg) :
    regs.get n = (bufRegs sp e p).get n := by
  have early : ∀ first, setRegs sp e p = some first → first.get n = (bufRegs sp e p).get n := by
    intro first set
    simp only [setRegs] at set
    cases given : p.path with
    | none =>
      rw [given] at set
      cases set
      rfl
    | some q =>
      rw [given] at set
      dsimp only at set
      split_ifs at set
      cases set
      exact Regs.get_set_other _ _ path
  simp only [callRegs] at made
  split_ifs at made with resolved implanted
  · obtain ⟨first, set, rest⟩ := Option.bind_eq_some_iff.mp made
    obtain ⟨slot, -, mapped⟩ := Option.bind_eq_some_iff.mp rest
    obtain ⟨m, -, rfl⟩ := Option.map_eq_some_iff.mp mapped
    rw [Regs.get_set_other _ _ fd]
    exact early first set
  · obtain ⟨first, set, rest⟩ := Option.bind_eq_some_iff.mp made
    rw [← Option.some.inj rest]
    exact early first set

/-- The registers that no argument is put into are as the kworker has set them. -/
theorem callRegs_other {sp : BitVec 64} {e : Env} {p : Params} {regs : Regs}
    (made : callRegs sp e p = some regs) {n : ℕ} (path : n ≠ p.pathReg) (buf : n ≠ p.bufReg)
    (fd : n ≠ p.fdReg) : regs.get n = p.regs.get n := by
  rw [callRegs_get made path fd, bufRegs]
  cases p.outSize with
  | none => rfl
  | some size =>
    dsimp only
    split_ifs
    · exact Regs.get_set_other _ _ buf
    · rfl

/-- The buffer has a register of its own. -/
def OwnReg (p : Params) : Prop :=
  (1 ≤ p.bufReg ∧ p.bufReg ≤ 3) ∧ p.bufReg ≠ p.pathReg ∧ p.bufReg ≠ p.fdReg

theorem ownReg_params {r : Request} {size : ℕ} (out : r.params.outSize = some size) :
    OwnReg r.params := by
  cases r with
  | faccessat2 => cases out
  | statfs | fstatfs | newfstatat | readlink | readlinkat | getdents64 | pipe2 =>
    simp [OwnReg, Request.params, statfsKworker, fstatfsKworker, newfstatatKworker,
      readlinkKworker, readlinkatKworker, getdents64Kworker, pipe2Kworker]

theorem callRegs_buf {sp : BitVec 64} {e : Env} {r : Request} {regs : Regs}
    (made : callRegs sp e r.params = some regs) {size : ℕ} (out : r.params.outSize = some size) :
    regs.get r.params.bufReg =
      if e.allocated = true ∧ 0 < size then bufPtr sp else r.params.regs.get r.params.bufReg := by
  obtain ⟨⟨low, high⟩, path, fd⟩ := ownReg_params out
  rw [callRegs_get made path fd, bufRegs, out]
  dsimp only
  split_ifs
  · exact Regs.get_set_self _ _ low high
  · rfl

/-- The registers name the buffer in the scratchpad, or address 0 without one. -/
theorem buffer_given {r : Request} {sp : BitVec 64} {e : Env} {regs : Regs}
    (made : callRegs sp e r.params = some regs) :
    buffer r regs =
      (if e.allocated = true ∧ 0 < givenSize r then bufPtr sp else 0, givenSize r) := by
  cases r with
  | statfs | fstatfs => exact congrArg (fun b => (b, sizeofStatfs)) (callRegs_buf made rfl)
  | newfstatat => exact congrArg (fun b => (b, sizeofStat)) (callRegs_buf made rfl)
  | faccessat2 dfd mode flags path => simp [buffer, givenSize]
  | readlink bufsiz path =>
    have size : regs.get 3 = min bufsiz 4096 :=
      callRegs_other made (show 3 ≠ 1 by decide) (show 3 ≠ 2 by decide) (show 3 ≠ 0 by decide)
    exact congrArg₂ Prod.mk (callRegs_buf made rfl) size
  | readlinkat dfd bufsiz path =>
    have size : regs.get 4 = min bufsiz 4096 :=
      callRegs_other made (show 4 ≠ 2 by decide) (show 4 ≠ 3 by decide) (show 4 ≠ 1 by decide)
    exact congrArg₂ Prod.mk (callRegs_buf made rfl) size
  | getdents64 fd count =>
    have size : regs.get 3 = min count 32768 :=
      callRegs_other made (show 3 ≠ 0 by decide) (show 3 ≠ 2 by decide) (show 3 ≠ 1 by decide)
    exact congrArg₂ Prod.mk (callRegs_buf made rfl) size
  | pipe2 => exact congrArg (fun b => (b, 8)) (callRegs_buf made rfl)

/-! ### Safety -/

theorem path_apart (sp : BitVec 64) (r : Request) :
    ∀ path ∈ r.params.path, ∀ size ∈ r.params.outSize,
      pathPtr sp + (terminated path).length ≤ bufPtr sp ∨ bufPtr sp + size ≤ pathPtr sp := by
  intro path _ size out
  have short := terminated_length path
  have lt := sp.isLt
  have path := pathPtr_eq sp
  have buf := bufPtr_eq sp
  have small : size ≤ 32768 := by
    cases r <;> simp [Request.params, statfsKworker, fstatfsKworker, newfstatatKworker,
      faccessat2Kworker, readlinkKworker, readlinkatKworker, getdents64Kworker, pipe2Kworker,
      sizeofStatfs, sizeofStat] at out <;> omega
  split_ifs at path buf <;> omega

theorem outSize_given {r : Request} {size : ℕ} (out : r.params.outSize = some size) :
    size = givenSize r := by
  cases r with
  | faccessat2 => cases out
  | statfs | fstatfs | newfstatat | readlink | readlinkat | getdents64 | pipe2 =>
    exact (Option.some.inj out).symm

theorem givenSize_le (r : Request) : givenSize r ≤ 32768 := by
  cases r <;> simp only [givenSize, sizeofStatfs, sizeofStat] <;> omega

theorem executeAsDeputy_some {sp : BitVec 64} {e : Env} {p : Params} {regs : Regs}
    (made : callRegs sp e p = some regs) (syscall : Syscall) (m : Memory) :
    executeAsDeputy sp e p syscall m = (syscall regs (copyPath sp e p m)).2 := by
  have resolved : e.resolved = true := by
    by_contra missing
    simp [callRegs, missing] at made
  simp only [executeAsDeputy, resolved, if_true, made]

theorem frames_of_fits {r : Request} {sp : BitVec 64} {e : Env} (fits : Fits r sp e)
    {syscall : Syscall} (bounded : Bounded r syscall) (m : Memory) {a : ℕ} (user : a < taskSize)
    (live : sp.toNat ≤ a + 128) : executeAsDeputy sp e r.params syscall m a = m a := by
  have kept := copyPath_frame sp e r.params m user live
  cases made : callRegs sp e r.params with
  | none =>
    simp only [executeAsDeputy, made]
    split_ifs
    · exact kept
    · rfl
  | some regs =>
    rw [executeAsDeputy_some made, ← kept]
    by_contra changed
    have inside := bounded regs _ a changed
    rw [buffer_given made] at inside
    have room := fits.resolve_left (by simp [made])
    have buf := bufPtr_eq sp
    have size := givenSize_le r
    have lt := sp.isLt
    simp only [taskSize] at user room
    by_cases allocated : e.allocated = true
    · simp only [allocated, if_true, true_and] at room inside
      split_ifs at inside buf <;> omega
    · simp only [allocated] at room inside
      simp at room inside
      omega

theorem output_of_call {r : Request} {sp : BitVec 64} {e : Env} {syscall : Syscall} {m : Memory}
    {regs : Regs} (made : callRegs sp e r.params = some regs) {out : Bytes}
    (read : outBuf sp e r.params syscall m = some out) {i : ℕ} (lt : i < (buffer r regs).2) :
    out[i]? = some ((syscall regs (copyPath sp e r.params m)).2 ((buffer r regs).1 + i)) := by
  simp only [outBuf, made] at read
  cases size : r.params.outSize with
  | none => simp [size] at read
  | some n =>
    simp only [size] at read
    split_ifs at read with filled
    have given := outSize_given size
    rw [buffer_given made] at lt ⊢
    have there : e.allocated = true ∧ 0 < givenSize r := ⟨filled.2.1, given ▸ filled.2.2⟩
    rw [if_pos there, ← Option.some.inj read, List.getElem?_map, List.getElem?_range (by omega),
      executeAsDeputy_some made]
    rfl

/-- A system call that changes the byte at `a` where its buffer allows it. -/
def touch (r : Request) (a : ℕ) : Syscall := fun regs m =>
  (0, if (buffer r regs).1 ≤ a ∧ a < (buffer r regs).1 + (buffer r regs).2 then
    Function.update m a (m a + 1) else m)

theorem touch_bounded (r : Request) (a : ℕ) : Bounded r (touch r a) := by
  intro regs m b changed
  simp only [touch] at changed
  split_ifs at changed with inside
  · by_cases here : b = a
    · rw [here]
      exact inside
    · exact absurd (Function.update_of_ne here _ _) changed
  · exact absurd rfl changed

/-- A live byte in the buffer is not safe from it. -/
theorem touch_unsafe {r : Request} {sp : BitVec 64} {e : Env} {regs : Regs} {a : ℕ}
    (made : callRegs sp e r.params = some regs) (user : a < taskSize)
    (live : sp.toNat ≤ a + 128)
    (inside : (buffer r regs).1 ≤ a ∧ a < (buffer r regs).1 + (buffer r regs).2) (m : Memory) :
    ¬ Safe r sp e (touch r a) m := by
  intro safe
  have same := safe.frames a user live
  rw [executeAsDeputy_some made] at same
  simp only [touch, if_pos inside, Function.update_self,
    copyPath_frame sp e r.params m user live] at same
  have apart : m a + 1 ≠ m a := by
    generalize m a = b
    revert b
    decide
  exact apart same

/-- Whatever the system call writes into its buffer. -/
theorem scratchpad_safe_iff (r : Request) (sp : BitVec 64) (e : Env) :
    (∀ syscall, Bounded r syscall → ∀ m, Safe r sp e syscall m) ↔ Fits r sp e := by
  constructor
  · intro safe
    by_contra unfit
    simp only [Fits, not_or] at unfit
    obtain ⟨regs, made⟩ := Option.ne_none_iff_exists'.mp unfit.1
    have live : sp.toNat ≤ sp.toNat - 128 + 128 := by omega
    have buf := bufPtr_eq sp
    have size := givenSize_le r
    have room : sp.toNat - 128 < taskSize ∧ (buffer r regs).1 ≤ sp.toNat - 128 ∧
        sp.toNat - 128 < (buffer r regs).1 + (buffer r regs).2 := by
      rw [buffer_given made]
      have tight := unfit.2
      simp only [taskSize] at tight ⊢
      by_cases allocated : e.allocated = true
      · simp only [allocated, if_true, true_and, not_or] at tight ⊢
        split_ifs at buf ⊢ <;> omega
      · simp only [allocated] at tight ⊢
        simp at tight ⊢
        omega
    exact touch_unsafe made room.1 live room.2 (fun _ => 0)
      (safe _ (touch_bounded r _) _)
  · intro fits syscall bounded m
    refine ⟨fun a user live => frames_of_fits fits bounded m user live, path_apart sp r, ?_⟩
    intro regs made out read i lt
    exact output_of_call made read lt

/-- glibc lists a directory with a buffer of 32768 bytes. -/
theorem listing_overwrites_frames :
    ¬ ∀ syscall, Bounded (.getdents64 3 32768) syscall →
      ∀ m, Safe (.getdents64 3 32768) 140737488347136 ⟨true, true, 0, none⟩ syscall m := by
  intro safe
  have made : callRegs 140737488347136 ⟨true, true, 0, none⟩ (Request.getdents64 3 32768).params =
      some ⟨3, 140737488343040, 32768, 0⟩ := by decide
  have smashed := touch_unsafe (a := 140737488347136) made (by decide) (by decide) (by decide)
  exact smashed (fun _ => 0) (safe _ (touch_bounded _ _) _)

end MattX.DeputyScratchpad
