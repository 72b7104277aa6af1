import MattX.BufferAccesses
import MattX.UserBuffers
import MattX.WormholeSelects

set_option autoImplicit false

/-!
# What the builders of requests touch

A hook and `mattx_rpc_worker` put a request together from the caller's
registers and memory. What they write has the room of the request or of one of
its members; what they read of an array has been filled as far as the caller's
memory went.
-/
namespace MattX.RequestBuilders
open BufferAccesses
open RequestHandlers (asU32)
open UserBuffers (argInt copySize sizeofPollfd sizeofFdSet sizeofSockaddrStorage sizeofUserMsghdr
  sizeofEpollEvent sizeofRlimit)
open WormholeSelects (Sets Setting fdSetSize)

def sizeofIovec : ℕ := 16
def sizeofMattxPollfd : ℕ := 16
def sizeofSetsockoptReq : ℕ := 20
def sizeofSendmsgReq : ℕ := 152
def sizeofSendReq : ℕ := 24
def sizeofSyscallReq : ℕ := 12

/-- The largest piece that `kmalloc` hands out. -/
def kmallocMaxSize : ℕ := 4194304

/-- `free`: the memory is there. -/
def kmalloc (free : Bool) (size : ℕ) : Bool := free && decide (size ≤ kmallocMaxSize)

/-- The bytes that `access_process_vm` copies: it counts an `int` down to zero and stops where
memory is not mapped. -/
def copied (len : ℤ) (mapped : ℕ) : ℕ := min (asU32 len) mapped

/-- `count` bytes are read of something that is filled as far as `filled`. -/
def reads (filled count : ℕ) : Access := .store filled count

/-- `mattx_comm_send` is given `len` bytes of an allocation. -/
def sends (alloc len : ℕ) : Access := .store alloc len

/-- What the code finds: the caller's task, memory for the iovecs and for the request, and a link to
the home node. `built`: the return handler gets as far as the work. -/
structure Env where
  built : Bool
  task : Bool
  iovsFree : Bool
  reqFree : Bool
  linked : Bool

/-- `struct user_msghdr`. `readable`: all of it can be read. `iov`: length and mapped bytes of the
iovecs in the copy of the array, filled or not. `namelen`: the 32 bits of the `int`. -/
structure Msg where
  readable : Bool
  iovlen : ℕ
  iovMapped : ℕ
  iov : ℕ → ℕ × ℕ
  name : Option ℕ
  namelen : ℕ

inductive Call where
  | setsockopt (optlen mapped : ℕ)
  | getsockopt (mapped : ℕ)
  | sendmsg (m : Msg)
  | recvmsg (m : Msg)
  | select (s : Setting) (maxFds : ℕ) (t : Sets) (n : ℕ)
  | poll (nfds : ℕ) (readable : Bool) (ghost : ℕ → Bool)
  | connect (addrlen : ℕ) (readable : Bool)
  | bind (addrlen : ℕ) (readable : Bool)
  | sendto (len mapped : ℕ)
  | write (len mapped : ℕ)
  | epollCtl (mapped : ℕ)
  | prlimit64 (mapped : ℕ)
  | fcntl (arg mapped : ℕ)
  | ioctl (arg mapped : ℕ)
  | path (length : ℕ)

/-! ### Socket options -/

/-- The sum of an `int` and a size, in a `size_t`. -/
def setsockoptSize (optlen : ℕ) : ℕ := ((sizeofSetsockoptReq + argInt optlen) % 2 ^ 64).toNat

def setsockopt (optlen mapped : ℕ) (e : Env) : List Access :=
  let size := setsockoptSize optlen
  if kmalloc e.reqFree size then
    .store size sizeofSetsockoptReq ::
      ((if e.task then
        [.store (size - sizeofSetsockoptReq) (copied (argInt optlen) mapped)] else []) ++
      if e.linked then [sends size size] else [])
  else []

/-! ### Messages -/

namespace Msg

def iovsSize (m : Msg) : ℕ := m.iovlen * sizeofIovec

/-- The entries of the copy that have been filled whole. -/
def filled (m : Msg) : ℕ := copied m.iovsSize m.iovMapped / sizeofIovec

def totalLen (m : Msg) : ℕ := ((List.range m.iovlen).map fun i => (m.iov i).1).sum % 18446744073709551616

def toSend (m : Msg) : ℕ := min m.totalLen 4096

/-- The header and the array are copied, and some of the array has been. -/
def flattens (m : Msg) (e : Env) : Bool :=
  e.task && m.readable && kmalloc e.iovsFree m.iovsSize &&
    decide (0 < copied m.iovsSize m.iovMapped)

/-- The copy of the iovecs, and the loop that adds up their lengths. -/
def sumUp (m : Msg) : List Access :=
  .store m.iovsSize (copied m.iovsSize m.iovMapped) ::
    (List.range m.iovlen).map fun (i : ℕ) => .index m.filled i

/-- The loop that copies the data, `left` iovecs from `i` on. -/
def gather (m : Msg) : ℕ → ℕ → ℕ → List Access
  | 0, _, _ => []
  | left + 1, i, done =>
    if done < m.toSend then
      let chunk := min (m.iov i).1 (m.toSend - done)
      .index m.filled i :: .store (m.toSend - done) (copied chunk (m.iov i).2) ::
        m.gather left (i + 1) (done + chunk)
    else []

def nameRead (m : Msg) : List Access :=
  match m.name with
  | some mapped =>
    if 0 < argInt m.namelen then [.store sizeofSockaddrStorage (copied (argInt m.namelen) mapped)]
    else []
  | none => []

end Msg

def sendmsg (m : Msg) (e : Env) : List Access :=
  if m.flattens e then
    let size := sizeofSendmsgReq + m.toSend
    m.sumUp ++
      if kmalloc e.reqFree size then
        .store size sizeofSendmsgReq :: (m.nameRead ++ m.gather m.iovlen 0 0 ++
          if e.linked then [sends size size] else [])
      else []
  else []

def recvmsg (m : Msg) (e : Env) : List Access := if m.flattens e then m.sumUp else []

/-! ### Descriptors -/

/-- The sets that are given are copied by the return handler. -/
def setCopies (t : Sets) (n : ℕ) : List Access :=
  [t.inp, t.outp, t.exp].filterMap fun set => set.map fun _ => .store sizeofFdSet (copySize n)

/-- `test_bit` on the sets that are given. -/
def tests (t : Sets) (fd : ℕ) : List Access :=
  [t.inp, t.outp, t.exp].filterMap fun set => set.map fun _ => .index fdSetSize fd

/-- The loop of the worker over `left` descriptors from `fd` on. The arrays of the request and of
the work have 16 places each. -/
def selectLoop (s : Setting) (maxFds : ℕ) (t : Sets) : ℕ → ℕ → ℕ → List Access
  | 0, _, _ => []
  | left + 1, fd, pollIdx =>
    if pollIdx < 16 then
      tests t fd ++ (if t.events fd ≠ 0 ∧ fd < maxFds then [.index maxFds fd] else []) ++
        match s.entry t fd with
        | some _ => .index 16 pollIdx :: selectLoop s maxFds t left (fd + 1) (pollIdx + 1)
        | none => selectLoop s maxFds t left (fd + 1) pollIdx
    else []

/-- select and pselect6. -/
def select (s : Setting) (maxFds : ℕ) (t : Sets) (n : ℕ) (e : Env) : List Access :=
  if e.built then
    setCopies t n ++ if e.task then selectLoop s maxFds t (argInt n).toNat 0 0 else []
  else []

/-- The bytes that the hook's copy fills in its array of `mattx_pollfd`. -/
def pollFilled (nfds : ℕ) : ℕ := nfds * sizeofPollfd

/-- The hook looks at the `fd` of each entry, and may put another in its place. -/
def pollEntry (nfds : ℕ) : List Access :=
  .store (16 * sizeofMattxPollfd) (pollFilled nfds) ::
    (List.range nfds).flatMap fun (i : ℕ) =>
      [.index 16 i, reads (pollFilled nfds) (i * sizeofMattxPollfd + 4)]

/-- The array goes into the work, and from there into the request. -/
def pollCopy (nfds : ℕ) : List Access :=
  [reads (pollFilled nfds) (nfds * sizeofMattxPollfd),
    .store (16 * sizeofMattxPollfd) (nfds * sizeofMattxPollfd),
    .store (16 * sizeofMattxPollfd) (nfds * sizeofMattxPollfd)]

def poll (nfds : ℕ) (readable : Bool) (ghost : ℕ → Bool) (e : Env) : List Access :=
  let n := (argInt nfds).toNat
  if 0 < argInt nfds ∧ argInt nfds ≤ 16 ∧ readable then
    pollEntry n ++ if (List.range n).any ghost && e.built then pollCopy n else []
  else []

/-! ### The others -/

/-- A length that does not fit counts as none. -/
def sockaddrLen (addrlen : ℕ) (readable : Bool) : ℕ :=
  if 0 < argInt addrlen ∧ argInt addrlen ≤ sizeofSockaddrStorage ∧ readable then
    (argInt addrlen).toNat
  else 0

/-- connect and bind: to the hook, the work and the request. -/
def sockaddr (addrlen : ℕ) (readable : Bool) : List Access :=
  let len := sockaddrLen addrlen readable
  [.store sizeofSockaddrStorage len, reads len len, .store sizeofSockaddrStorage len,
    reads len len, .store sizeofSockaddrStorage len]

/-- sendto and write. -/
def payload (header len mapped : ℕ) (e : Env) : List Access :=
  let toSend := min len 4096
  let size := header + toSend
  if kmalloc e.reqFree size then
    .store size header ::
      if e.task then
        .store toSend (copied toSend mapped) ::
          if copied toSend mapped = toSend ∧ e.linked then [sends size size] else []
      else []
  else []

/-- A struct of the caller that has its place in the request or in the work. -/
def struct (size mapped : ℕ) (e : Env) : List Access :=
  if e.task then [.store size (copied size mapped)] else []

/-- An argument above 4096 is taken for the address of 256 bytes. -/
def pointer (arg mapped : ℕ) (e : Env) : List Access :=
  if 4096 < arg then struct 256 mapped e ++ [.store 256 256] else []

/-- The path goes to the hook, the work and the request; `strncpy` fills up with zeros, and the last
byte is zero before. -/
def filename (length : ℕ) : List Access :=
  [.store 256 (min length 255), reads 256 256, .store 256 255, reads 256 256, .store 256 255]

def accesses (c : Call) (e : Env) : List Access :=
  match c with
  | .setsockopt optlen mapped => setsockopt optlen mapped e
  | .getsockopt mapped => struct 4 mapped e
  | .sendmsg m => sendmsg m e
  | .recvmsg m => recvmsg m e
  | .select s maxFds t n => select s maxFds t n e
  | .poll nfds readable ghost => poll nfds readable ghost e
  | .connect addrlen readable | .bind addrlen readable => sockaddr addrlen readable
  | .sendto len mapped => payload sizeofSendReq len mapped e
  | .write len mapped => payload sizeofSyscallReq len mapped e
  | .epollCtl mapped => struct sizeofEpollEvent mapped e
  | .prlimit64 mapped => struct sizeofRlimit mapped e
  | .fcntl arg mapped | .ioctl arg mapped => pointer arg mapped e
  | .path length => filename length

/-! ### When they stay inside -/

namespace Msg

/-- All that is read of the array has been filled, if any of it is. -/
def Filled (m : Msg) (e : Env) : Prop :=
  m.flattens e = true → m.iovlen * sizeofIovec ≤ m.iovMapped

/-- The name fits, if it is asked for and the request is made. -/
def Named (m : Msg) (e : Env) : Prop :=
  m.flattens e = true → e.reqFree = true → ∀ mapped, m.name = some mapped →
    0 < argInt m.namelen → min (argInt m.namelen).toNat mapped ≤ sizeofSockaddrStorage

end Msg

def Fits (c : Call) (e : Env) : Prop :=
  match c with
  | .setsockopt optlen _ => e.reqFree = true → argInt optlen < 0 → argInt optlen < -20
  | .sendmsg m => m.Filled e ∧ m.Named e
  | .recvmsg m => m.Filled e
  | .select s _ t n => e.built = true → e.task = true → s.Inside t (argInt n).toNat
  | .poll nfds readable ghost =>
    0 < argInt nfds → argInt nfds ≤ 16 → readable = true →
      argInt nfds = 1 ∧ (ghost 0 = true → e.built = false)
  | _ => True

/-! ### Sizes -/

theorem argInt_range (n : ℕ) : -2147483648 ≤ argInt n ∧ argInt n < 2147483648 := by
  simp only [argInt, RequestHandlers.asInt]
  split_ifs <;> omega

theorem copied_le (len mapped : ℕ) : copied len mapped ≤ len := by
  refine (Nat.min_le_left _ _).trans ?_
  simp only [asU32]
  omega

theorem copied_small {len : ℕ} (small : len < 4294967296) (mapped : ℕ) :
    copied len mapped = min len mapped := by
  simp only [copied, asU32]
  omega

theorem copied_int {len : ℤ} (pos : 0 ≤ len) (small : len < 2147483648) (mapped : ℕ) :
    copied len mapped = min len.toNat mapped := by
  simp only [copied, asU32]
  omega

theorem kmalloc_le {free : Bool} {size : ℕ} (h : kmalloc free size = true) :
    size ≤ kmallocMaxSize := by
  simp only [kmalloc, Bool.and_eq_true, decide_eq_true_eq] at h
  exact h.2

/-- The request for a negative length is smaller than its own header, or too large to be had. -/
theorem setsockoptSize_spec (optlen : ℕ) :
    if 0 ≤ argInt optlen then setsockoptSize optlen = sizeofSetsockoptReq + (argInt optlen).toNat
    else if -20 ≤ argInt optlen then setsockoptSize optlen < sizeofSetsockoptReq
    else kmallocMaxSize < setsockoptSize optlen := by
  have range := argInt_range optlen
  simp only [setsockoptSize, sizeofSetsockoptReq, kmallocMaxSize]
  split_ifs <;> omega

theorem setsockopt_inside (optlen mapped : ℕ) (e : Env) :
    AllInside (setsockopt optlen mapped e) ↔
      (e.reqFree = true → argInt optlen < 0 → argInt optlen < -20) := by
  have size := setsockoptSize_spec optlen
  have range := argInt_range optlen
  simp only [setsockopt, allInside_ite, allInside_cons, allInside_append, allInside_nil,
    inside_store, sends, le_refl, implies_true, and_true, kmalloc, Bool.and_eq_true,
    decide_eq_true_eq]
  have most : kmallocMaxSize = 4194304 := rfl
  have least : sizeofSetsockoptReq = 20 := rfl
  split_ifs at size with positive short
  · have store : copied (argInt optlen) mapped ≤ setsockoptSize optlen - sizeofSetsockoptReq := by
      rw [size, copied_int positive range.2]
      omega
    have header : sizeofSetsockoptReq ≤ setsockoptSize optlen := by omega
    simp only [store, header, implies_true, and_self, true_iff]
    omega
  · constructor
    · intro inside free _
      have header := (inside ⟨free, by omega⟩).1
      omega
    · intro fits free
      have none := fits free.1 (by omega)
      omega
  · constructor
    · intro _ _ _
      omega
    · intro _ free
      omega

/-! ### Messages -/

theorem flattens_size {m : Msg} {e : Env} (h : m.flattens e = true) :
    m.iovsSize ≤ kmallocMaxSize ∧ 0 < m.iovsSize := by
  simp only [Msg.flattens, Bool.and_eq_true, decide_eq_true_eq] at h
  exact ⟨kmalloc_le h.1.2, h.2.trans_le (copied_le _ _)⟩

theorem filled_eq {m : Msg} {e : Env} (h : m.flattens e = true) :
    m.filled = min (m.iovlen * sizeofIovec) m.iovMapped / sizeofIovec := by
  have size := (flattens_size h).1
  have most : kmallocMaxSize = 4194304 := rfl
  rw [Msg.filled, copied_small (by omega), Msg.iovsSize]

/-- Whatever comes last of the array is read. -/
theorem filled_iff {m : Msg} {e : Env} (h : m.flattens e = true) :
    (∀ i < m.iovlen, i < m.filled) ↔ m.iovlen * sizeofIovec ≤ m.iovMapped := by
  have some_iovs := (flattens_size h).2
  rw [filled_eq h]
  simp only [Msg.iovsSize, sizeofIovec] at some_iovs ⊢
  constructor
  · intro all
    have last := all (m.iovlen - 1) (by omega)
    omega
  · intro enough i small
    omega

theorem sumUp_inside {m : Msg} {e : Env} (h : m.flattens e = true) :
    AllInside m.sumUp ↔ m.iovlen * sizeofIovec ≤ m.iovMapped := by
  simp only [Msg.sumUp, allInside_cons, inside_store, copied_le, true_and]
  rw [← filled_iff h]
  simp only [AllInside, List.forall_mem_map, List.mem_range, inside_index, Int.natCast_nonneg,
    true_and, Int.ofNat_lt]

/-- The data never goes beyond what was added up and cut. -/
theorem gather_inside {m : Msg} (left i done : ℕ) (filled : ∀ j < i + left, j < m.filled) :
    AllInside (m.gather left i done) := by
  induction left generalizing i done with
  | zero => exact allInside_nil
  | succ left ih =>
    simp only [Msg.gather, allInside_ite, allInside_cons, inside_index, inside_store,
      allInside_nil, implies_true, and_true]
    intro _
    refine ⟨⟨Int.natCast_nonneg _, ?_⟩, ?_, ?_⟩
    · have here := filled i (by omega)
      omega
    · exact (copied_le _ _).trans (Nat.min_le_right _ _)
    · exact ih (i + 1) _ fun j below => filled j (by omega)

theorem nameRead_inside (m : Msg) :
    AllInside m.nameRead ↔ ∀ mapped, m.name = some mapped → 0 < argInt m.namelen →
      min (argInt m.namelen).toNat mapped ≤ sizeofSockaddrStorage := by
  have range := argInt_range m.namelen
  cases given : m.name with
  | none => simp [Msg.nameRead, given]
  | some mapped =>
    simp only [Msg.nameRead, given, allInside_ite, allInside_cons, inside_store, allInside_nil,
      and_true, implies_true, Option.some.injEq, forall_eq']
    constructor
    · intro inside pos
      have fits := inside pos
      rwa [copied_int pos.le range.2] at fits
    · intro fits pos
      rw [copied_int pos.le range.2]
      exact fits pos

theorem recvmsg_inside (m : Msg) (e : Env) : AllInside (recvmsg m e) ↔ m.Filled e := by
  simp only [recvmsg, allInside_ite, allInside_nil, implies_true, and_true, Msg.Filled]
  exact forall_congr' fun flat => sumUp_inside flat

theorem sendmsg_inside (m : Msg) (e : Env) :
    AllInside (sendmsg m e) ↔ m.Filled e ∧ m.Named e := by
  by_cases flat : m.flattens e = true
  · have small : sizeofSendmsgReq + m.toSend ≤ kmallocMaxSize := by
      simp only [sizeofSendmsgReq, Msg.toSend, kmallocMaxSize]
      omega
    rw [sendmsg, if_pos flat]
    simp only [allInside_append, sumUp_inside flat, allInside_ite, allInside_cons, inside_store,
      allInside_nil, implies_true, and_true, sends, le_refl, kmalloc, small, decide_true,
      Bool.and_true, Nat.le_add_right, true_and, nameRead_inside, Msg.Filled, Msg.Named, flat,
      true_imp_iff]
    constructor
    · rintro ⟨enough, named⟩
      exact ⟨enough, fun free => (named free).1⟩
    · rintro ⟨enough, named⟩
      refine ⟨enough, fun free => ⟨named free, gather_inside _ _ _ ?_⟩⟩
      rw [Nat.zero_add]
      exact (filled_iff flat).mpr enough
  · rw [sendmsg, if_neg flat]
    simp only [allInside_nil, Msg.Filled, Msg.Named, flat, Bool.false_eq_true, false_imp_iff,
      and_self]

/-! ### Descriptors -/

theorem tests_inside (t : Sets) (fd : ℕ) :
    AllInside (tests t fd) ↔ ¬ (fdSetSize ≤ fd ∧ t.given = true) := by
  have bound : (Access.index fdSetSize fd).Inside ↔ fd < fdSetSize := by
    rw [inside_index]
    omega
  rcases t with ⟨inp, outp, exp⟩
  cases inp <;> cases outp <;> cases exp <;>
    simp [tests, Sets.given, -inside_index, bound]

theorem setCopies_inside (t : Sets) (n : ℕ) : AllInside (setCopies t n) := by
  have bound : copySize n ≤ sizeofFdSet := by
    simp only [copySize]
    split_ifs
    · exact le_rfl
    · exact Nat.min_le_right _ _
  rcases t with ⟨inp, outp, exp⟩
  cases inp <;> cases outp <;> cases exp <;> simp [setCopies, bound]

/-- The loop goes wrong where the one that makes the request does. -/
theorem selectLoop_inside (s : Setting) (maxFds : ℕ) (t : Sets) (left fd pollIdx : ℕ) :
    AllInside (selectLoop s maxFds t left fd pollIdx) ↔
      (s.collect t left fd (16 - pollIdx)).isSome = true := by
  induction left generalizing fd pollIdx with
  | zero => simp [selectLoop, Setting.collect]
  | succ left ih =>
    by_cases room : pollIdx < 16
    · have left_room : 16 - pollIdx = 15 - pollIdx + 1 := by omega
      have next_room : 16 - (pollIdx + 1) = 15 - pollIdx := by omega
      have table :
          AllInside (if t.events fd ≠ 0 ∧ fd < maxFds then [.index maxFds fd] else []) := by
        simp only [allInside_ite, allInside_cons, inside_index, allInside_nil, and_true,
          implies_true]
        omega
      rw [selectLoop, if_pos room, allInside_append, allInside_append, tests_inside, left_room,
        Setting.collect]
      simp only [table, and_true]
      by_cases outside : fdSetSize ≤ fd ∧ t.given = true
      · simp [outside]
      · rw [if_neg outside]
        cases s.entry t fd with
        | none => simp [outside, ih, left_room]
        | some p =>
          have place : (Access.index 16 pollIdx).Inside := ⟨by omega, by omega⟩
          simp [outside, ih, next_room, place, -inside_index]
    · have full : 16 - pollIdx = 0 := by omega
      rw [selectLoop, if_neg room, full, Setting.collect]
      simp

theorem select_inside (s : Setting) (maxFds : ℕ) (t : Sets) (n : ℕ) (e : Env) :
    AllInside (select s maxFds t n e) ↔
      (e.built = true → e.task = true → s.Inside t (argInt n).toNat) := by
  have loop : AllInside (selectLoop s maxFds t (argInt n).toNat 0 0) ↔
      s.Inside t (argInt n).toNat := by
    rw [selectLoop_inside]
    constructor
    · intro found
      by_contra outside
      have missing := WormholeSelects.request_outside s t outside
      rw [Setting.request] at missing
      simp [missing] at found
    · intro inside
      have found := WormholeSelects.request_inside s t inside
      rw [Setting.request] at found
      simp [found]
  simp only [select, allInside_ite, allInside_append, setCopies_inside, true_and, allInside_nil,
    implies_true, and_true, loop]

theorem pollEntry_inside {n : ℕ} (few : n ≤ 16) : AllInside (pollEntry n) ↔ n ≤ 1 := by
  simp only [pollEntry, allInside_cons, inside_store, pollFilled, sizeofPollfd, sizeofMattxPollfd]
  constructor
  · rintro ⟨_, all⟩
    by_contra more
    have last : (reads (n * 8) ((n - 1) * 16 + 4)).Inside := by
      refine all _ (List.mem_flatMap.mpr ⟨n - 1, List.mem_range.mpr (by omega), ?_⟩)
      exact List.mem_cons_of_mem _ List.mem_cons_self
    simp only [reads, inside_store] at last
    omega
  · intro one
    refine ⟨by omega, fun a mem => ?_⟩
    obtain ⟨i, below, access⟩ := List.mem_flatMap.mp mem
    have first : i = 0 := by
      have := List.mem_range.mp below
      omega
    have single : n = 1 := by
      have := List.mem_range.mp below
      omega
    subst first single
    rcases List.mem_cons.mp access with place | read
    · rw [place]
      decide
    · rw [List.mem_singleton.mp read]
      decide

theorem pollCopy_outside {n : ℕ} (pos : 0 < n) : ¬ AllInside (pollCopy n) := by
  intro inside
  have copy : (reads (pollFilled n) (n * sizeofMattxPollfd)).Inside := inside _ List.mem_cons_self
  simp only [reads, inside_store, pollFilled, sizeofPollfd, sizeofMattxPollfd] at copy
  omega

theorem poll_inside (nfds : ℕ) (readable : Bool) (ghost : ℕ → Bool) (e : Env) :
    AllInside (poll nfds readable ghost e) ↔
      (0 < argInt nfds → argInt nfds ≤ 16 → readable = true →
        argInt nfds = 1 ∧ (ghost 0 = true → e.built = false)) := by
  by_cases asked : 0 < argInt nfds ∧ argInt nfds ≤ 16 ∧ readable = true
  · have pos : 0 < (argInt nfds).toNat := by omega
    rw [poll, if_pos asked, allInside_append, pollEntry_inside (by omega), allInside_ite]
    simp only [pollCopy_outside pos, allInside_nil, implies_true, and_true, asked.1, asked.2,
      true_imp_iff, imp_false]
    constructor
    · rintro ⟨one, uncopied⟩
      have single : (argInt nfds).toNat = 1 := by omega
      rw [single] at uncopied
      refine ⟨by omega, fun wormhole => ?_⟩
      simpa [wormhole] using uncopied
    · rintro ⟨one, uncopied⟩
      refine ⟨by omega, ?_⟩
      have single : (argInt nfds).toNat = 1 := by omega
      rw [single]
      cases wormhole : ghost 0 with
      | false => simp [wormhole]
      | true => simp [uncopied wormhole]
  · rw [poll, if_neg asked]
    simp only [allInside_nil, true_iff]
    intro pos few copied
    exact absurd ⟨pos, few, copied⟩ asked

/-! ### The others -/

theorem sockaddrLen_le (addrlen : ℕ) (readable : Bool) :
    sockaddrLen addrlen readable ≤ sizeofSockaddrStorage := by
  simp only [sockaddrLen]
  split_ifs <;> omega

theorem sockaddr_inside (addrlen : ℕ) (readable : Bool) :
    AllInside (sockaddr addrlen readable) := by
  simp only [sockaddr, allInside_cons, inside_store, reads, le_refl, sockaddrLen_le,
    allInside_nil, and_self]

theorem payload_inside (header len mapped : ℕ) (e : Env) :
    AllInside (payload header len mapped e) := by
  simp only [payload, allInside_ite, allInside_cons, inside_store, sends, copied_le, le_refl,
    Nat.le_add_right, allInside_nil, implies_true, and_self]

theorem struct_inside (size mapped : ℕ) (e : Env) : AllInside (struct size mapped e) := by
  simp only [struct, allInside_ite, allInside_cons, inside_store, copied_le, allInside_nil,
    implies_true, and_self]

theorem pointer_inside (arg mapped : ℕ) (e : Env) : AllInside (pointer arg mapped e) := by
  simp only [pointer, allInside_ite, allInside_append, struct_inside, allInside_cons, inside_store,
    le_refl, allInside_nil, implies_true, and_self]

theorem filename_inside (length : ℕ) : AllInside (filename length) := by
  simp only [filename, allInside_cons, inside_store, reads, allInside_nil, and_true]
  omega

/-- The builder of a request stays inside exactly if the lengths and counts that nobody checks are
in range. -/
theorem builders_inside_iff (c : Call) (e : Env) : AllInside (accesses c e) ↔ Fits c e := by
  cases c with
  | setsockopt optlen mapped => exact setsockopt_inside optlen mapped e
  | sendmsg m => exact sendmsg_inside m e
  | recvmsg m => exact recvmsg_inside m e
  | select s maxFds t n => exact select_inside s maxFds t n e
  | poll nfds readable ghost => exact poll_inside nfds readable ghost e
  | getsockopt mapped => exact iff_true_intro (struct_inside 4 mapped e)
  | connect addrlen readable => exact iff_true_intro (sockaddr_inside addrlen readable)
  | bind addrlen readable => exact iff_true_intro (sockaddr_inside addrlen readable)
  | sendto len mapped => exact iff_true_intro (payload_inside _ len mapped e)
  | write len mapped => exact iff_true_intro (payload_inside _ len mapped e)
  | epollCtl mapped => exact iff_true_intro (struct_inside _ mapped e)
  | prlimit64 mapped => exact iff_true_intro (struct_inside _ mapped e)
  | fcntl arg mapped => exact iff_true_intro (pointer_inside arg mapped e)
  | ioctl arg mapped => exact iff_true_intro (pointer_inside arg mapped e)
  | path length => exact iff_true_intro (filename_inside length)

def allThere : Env := ⟨true, true, true, true, true⟩

/-- One iovec of ten bytes, and a name of 4000. -/
def longName : Msg := ⟨true, 1, 4096, fun _ => (10, 4096), some 4096, 4000⟩

/-- A `sockaddr_storage` of the request gets 4000 bytes. -/
theorem long_name_overflows : ¬ AllInside (accesses (.sendmsg longName) allThere) := by
  decide

end MattX.RequestBuilders
