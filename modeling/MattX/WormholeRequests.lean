import MattX.GuardedRuns
import MattX.WormholeCalls
import Mathlib.Algebra.Ring.Nat

set_option autoImplicit false

/-!
# Requests for intercepted calls

`mattx_rpc_worker` builds the request of its call, for which some builders
have to read the memory of the surrogate, hands it to the link to the home
node, and then looks at the record of the guest every 100 ms, whatever became
of the request.
-/
namespace MattX.WormholeRequests
open GuardedRuns WormholeCalls

/-- `KMALLOC_MAX_SIZE`. -/
def kmallocMax : ℕ := 4 * 1024 * 1024

/-- The most data one request carries. -/
def chunkMax : ℕ := 4096

/-- `mattx_rpc_work`: the fields of each kind of call. User addresses are numbers; an `fd_set` is
the list of its descriptors, empty for a null pointer. -/
inductive Work where
  | lseek (remoteFd offset whence : ℤ)
  | fsync (remoteFd datasync : ℤ)
  | statx (remoteFd mask flags : ℤ)
  | dup (remoteFd newLocalFd : ℤ)
  | unlink (filename : Bytes)
  | socket (domain type protocol : ℤ)
  | epollCreate (flags : ℤ)
  | epollCtl (remoteFd op fd : ℤ) (events : ℕ)
  | epollWait (remoteFd maxevents timeout : ℤ)
  | connect (remoteFd : ℤ) (addr : Bytes)
  | bind (remoteFd : ℤ) (addr : Bytes)
  | listen (remoteFd backlog : ℤ)
  | sendto (remoteFd flags : ℤ) (buff len : ℕ)
  | recvfrom (remoteFd flags : ℤ) (size : ℕ)
  | read (remoteFd : ℤ) (len : ℕ)
  | write (remoteFd : ℤ) (buff len : ℕ)
  | accept (remoteFd flags : ℤ)
  | poll (timeout : ℤ) (fds : List PollFd)
  | select (nfds timeout : ℤ) (readfds writefds exceptfds : List ℕ)
  | pselect6 (nfds timeout : ℤ) (readfds writefds exceptfds : List ℕ)
  | getsockname (remoteFd : ℤ)
  | getpeername (remoteFd : ℤ)
  | setsockopt (remoteFd level optname : ℤ) (optval : ℕ) (optlen : ℤ)
  | getsockopt (remoteFd level optname : ℤ) (optlen : ℕ)
  | sendmsg (remoteFd flags : ℤ) (msg : ℕ)
  | recvmsg (remoteFd flags : ℤ) (msg : ℕ)
  | uname
  | prlimit64 (pid resource : ℤ) (newRlim : ℕ) (hasOld : Bool)
  | prctl (option : ℤ) (args : List ℕ)
  | fcntl (remoteFd cmd : ℤ) (arg : ℕ) (data : Bytes)
  | ioctl (remoteFd cmd : ℤ) (arg : ℕ) (data : Bytes)
  | pread64 (remoteFd : ℤ) (len : ℕ) (pos : ℤ)
  | statfs (path : Bytes)
  | fstatfs (fd : ℤ)
  | newfstatat (dfd : ℤ) (path : Bytes) (flags : ℤ)
  | faccessat2 (dfd : ℤ) (path : Bytes) (mode flags : ℤ)
  | readlink (path : Bytes) (bufsiz : ℕ)
  | readlinkat (dfd : ℤ) (path : Bytes) (bufsiz : ℕ)
  | getdents64 (fd : ℤ) (count : ℕ)
  | pipe2 (flags : ℤ)
  | shmget (key : ℤ) (size : ℕ) (flags : ℤ)
  | shmctl (shmid cmd : ℤ)
  | shmdt (addr : ℕ)
  | shmat (shmid : ℤ) (addr : ℕ) (flags : ℤ)
  | open (filename : Bytes) (flags mode : ℤ)
  deriving DecidableEq

/-- The requests. `plain` carries the fields of the work as they are. -/
inductive Request where
  | plain (w : Work)
  | epollCtl (epfd op fd : ℤ) (event : Bytes)
  | send (fd flags : ℤ) (data : Bytes)
  | syscallFwd (fd : ℤ) (data : Bytes)
  | poll (timeout : ℤ) (fds : List (ℤ × List ℕ))
  | setsockopt (fd level optname : ℤ) (optval : Bytes)
  | getsockopt (fd level optname : ℤ) (optlen : Bytes)
  | sendmsg (fd flags : ℤ) (addr data : Bytes)
  | recvmsg (fd flags addrlen : ℤ) (datalen : ℕ)
  | prlimit64 (pid resource : ℤ) (newRlim : Option Bytes) (hasOld : Bool)
  deriving DecidableEq

/-- `mattx_comm_send` on the link of the home node. -/
inductive Link where
  | absent
  | noMemory
  | cut
  | passes
  deriving DecidableEq

/-- What a builder finds: the link, the surrogate and its readable memory, the remote descriptors
behind its proxy files, what the two allocations give, and what unset heap memory holds. -/
structure World where
  link : Link
  found : Bool
  mem : ℕ → Option (BitVec 8)
  proxies : ℕ → Option ℤ
  bufferAlloc : Bool
  iovsAlloc : Bool
  heap : ℕ → BitVec 8

/-- `access_process_vm` for reading: it stops at the first byte that cannot be read. -/
def accessProcessVm (W : World) (addr : ℕ) : ℕ → Bytes
  | 0 => []
  | n + 1 => match if W.found then W.mem addr else none with
    | some b => b :: accessProcessVm W (addr + 1) n
    | none => []

/-- A zeroed buffer of `n` bytes that was read into. -/
def readInto (W : World) (addr n : ℕ) : Bytes :=
  let got := accessProcessVm W addr n
  got ++ List.replicate (n - got.length) 0

def littleEndian (bs : Bytes) : ℕ := bs.foldr (fun b n => b.toNat + 256 * n) 0

/-- The fields of `struct user_msghdr` that are used. -/
structure UserMsghdr where
  name : ℕ
  namelen : ℤ
  iov : ℕ
  iovlen : ℕ
  deriving DecidableEq

def msghdrSize : ℕ := 56

def signed32 (n : ℕ) : ℤ := if n < 2147483648 then n else n - 4294967296

def parseMsghdr (bs : Bytes) : UserMsghdr where
  name := littleEndian (bs.take 8)
  namelen := signed32 (littleEndian ((bs.drop 8).take 4))
  iov := littleEndian ((bs.drop 16).take 8)
  iovlen := littleEndian ((bs.drop 24).take 8)

def iovecSize : ℕ := 16

/-- The `iovec`s, base and length. What could not be read is what the heap held. -/
def parseIovs (W : World) (got : Bytes) (count : ℕ) : List (ℕ × ℕ) :=
  let byte (i : ℕ) : BitVec 8 := got.getD i (W.heap i)
  let word (i : ℕ) : ℕ := littleEndian ((List.range 8).map fun j => byte (i + j))
  (List.range count).map fun k => (word (iovecSize * k), word (iovecSize * k + 8))

/-- `total_len`, as a `size_t`, capped. -/
def toSend (iovs : List (ℕ × ℕ)) : ℕ := min ((iovs.map Prod.snd).sum % 18446744073709551616) chunkMax

def flatten (W : World) : List (ℕ × ℕ) → ℕ → Bytes
  | [], _ => []
  | (base, len) :: iovs, room =>
    readInto W base (min len room) ++ flatten W iovs (room - min len room)

/-- The header and the vectors of a message call, where both can be had. -/
def readMsg (W : World) (msg : ℕ) : Option (UserMsghdr × List (ℕ × ℕ)) :=
  let head := accessProcessVm W msg msghdrSize
  if W.found ∧ head.length = msghdrSize then
    let m := parseMsghdr head
    if W.iovsAlloc ∧ iovecSize * m.iovlen ≤ kmallocMax then
      let got := accessProcessVm W m.iov (iovecSize * m.iovlen)
      if 0 < got.length then some (m, parseIovs W got m.iovlen) else none
    else none
  else none

/-- The data of sendto and write, if all of it can be read. -/
def readChunk (W : World) (buff len : ℕ) : Option Bytes :=
  if W.bufferAlloc ∧ W.found then
    let data := accessProcessVm W buff (min len chunkMax)
    if data.length = min len chunkMax then some data else none
  else none

/-- The proxies among the wanted descriptors, with the wanted sets (0 read, 1 write, 2 except). -/
def selectFds (W : World) (nfds : ℤ) (readfds writefds exceptfds : List ℕ) :
    List (ℤ × List ℕ) :=
  ((List.range nfds.toNat).filterMap fun fd =>
    let events := (if fd ∈ readfds then [0] else []) ++ (if fd ∈ writefds then [1] else []) ++
      (if fd ∈ exceptfds then [2] else [])
    if events = [] then none else (W.proxies fd).map fun remoteFd => (remoteFd, events)).take 16

def setsockoptHeader : ℕ := 20

/-- The request builders of `mattx_rpc_worker`. -/
def build (W : World) : Work → Option Request
  | .epollCtl remoteFd op fd events =>
    -- EPOLL_CTL_ADD and EPOLL_CTL_MOD; a failed read is only logged
    some (.epollCtl remoteFd op fd (if op = 1 ∨ op = 3 then readInto W events 12 else []))
  | .sendto remoteFd flags buff len => (readChunk W buff len).map (.send remoteFd flags)
  | .write remoteFd buff len => (readChunk W buff len).map (.syscallFwd remoteFd)
  | .recvfrom remoteFd flags size => some (.plain (.recvfrom remoteFd flags (min size chunkMax)))
  | .read remoteFd len => some (.plain (.read remoteFd (min len chunkMax)))
  | .pread64 remoteFd len pos => some (.plain (.pread64 remoteFd (min len chunkMax) pos))
  | .getdents64 fd count => some (.plain (.getdents64 fd (min count 32768)))
  | .select nfds timeout readfds writefds exceptfds
  | .pselect6 nfds timeout readfds writefds exceptfds =>
    some (.poll timeout (selectFds W nfds readfds writefds exceptfds))
  | .setsockopt remoteFd level optname optval optlen =>
    -- with a negative length the buffer is too small for the struct itself
    if W.bufferAlloc ∧ 0 ≤ optlen ∧ setsockoptHeader + optlen ≤ kmallocMax then
      some (.setsockopt remoteFd level optname (readInto W optval optlen.toNat))
    else none
  | .getsockopt remoteFd level optname optlen =>
    some (.getsockopt remoteFd level optname (readInto W optlen 4))
  | .sendmsg remoteFd flags msg => do
    let (m, iovs) ← readMsg W msg
    if W.bufferAlloc then
      let name := accessProcessVm W m.name m.namelen.toNat
      let addr := if m.name ≠ 0 ∧ 0 < m.namelen ∧ (name.length : ℤ) = m.namelen then name else []
      some (.sendmsg remoteFd flags addr (flatten W iovs (toSend iovs)))
    else none
  | .recvmsg remoteFd flags msg => do
    let (m, iovs) ← readMsg W msg
    some (.recvmsg remoteFd flags m.namelen (toSend iovs))
  | .prlimit64 pid resource newRlim hasOld =>
    some (.prlimit64 pid resource (if newRlim = 0 then none else some (readInto W newRlim 16)) hasOld)
  | w => some (.plain w)

/-- The request that was pushed into the link as a whole. -/
def handed (W : World) (w : Work) : Option Request :=
  match W.link with
  | .passes => build W w
  | .absent | .noMemory | .cut => none

inductive Phase where
  | scheduled
  | waiting (request : Option Request)
  deriving DecidableEq

/-- A worker and whether the thread it serves still exists. -/
structure Worker where
  work : Work
  alive : Bool
  phase : Phase
  deriving DecidableEq

/-- A guest: whether it is in `guest_registry`, its `rpc_done` and `is_migrating`, and the workers
of its calls. -/
structure Guest where
  registered : Bool
  done : Bool
  isMigrating : Bool
  workers : List Worker
  deriving DecidableEq

/-- `fileOperation`: one on a proxy file, which uses the same record. -/
inductive Event where
  | hook (w : Work)
  | fileOperation
  | send (x : Worker) (W : World)
  | reply
  | look (x : Worker)
  | leave (x : Worker)
  | exit (x : Worker)
  | setMigrating (b : Bool)
  | remove
  | add

def enabled (s : Guest) : Event → Prop
  | .hook _ | .fileOperation | .reply | .setMigrating _ | .remove => s.registered = true
  | .send x W => x ∈ s.workers ∧ x.phase = .scheduled ∧ W.found = x.alive
  | .look x => x ∈ s.workers ∧ x.phase ≠ .scheduled ∧ x.alive = true ∧ s.registered = true ∧
      (s.done = true ∨ s.isMigrating = true)
  | .leave x => x ∈ s.workers ∧ x.phase ≠ .scheduled ∧ (x.alive = false ∨ s.registered = false)
  | .exit x => x ∈ s.workers
  | .add => s.registered = false

/-- Whether the builder stores the result itself. -/
def isWrite : Work → Bool
  | .write .. => true
  | _ => false

def next (s : Guest) : Event → Guest
  | .hook w => { s with done := false, workers := ⟨w, true, .scheduled⟩ :: s.workers }
  | .fileOperation => { s with done := false }
  | .send x W =>
    { s with
      done := s.done || (isWrite x.work && x.alive && s.registered)
      workers := { x with phase := .waiting (handed W x.work) } :: s.workers.erase x }
  | .reply => { s with done := true }
  | .look x => { s with done := true, workers := s.workers.erase x }
  | .leave x => { s with workers := s.workers.erase x }
  | .exit x => { s with workers := { x with alive := false } :: s.workers.erase x }
  | .setMigrating b => { s with isMigrating := b }
  | .remove => { s with registered := false }
  | .add => { s with registered := true, done := false, isMigrating := false }

def machine : Machine Guest Event := ⟨enabled, next⟩

instance (s : Guest) : DecidablePred (enabled s)
  | .hook _ | .fileOperation | .reply | .setMigrating _ | .remove =>
    inferInstanceAs (Decidable (s.registered = true))
  | .send x W =>
    inferInstanceAs (Decidable (x ∈ s.workers ∧ x.phase = .scheduled ∧ W.found = x.alive))
  | .look x => inferInstanceAs (Decidable (x ∈ s.workers ∧ x.phase ≠ .scheduled ∧ x.alive = true ∧
      s.registered = true ∧ (s.done = true ∨ s.isMigrating = true)))
  | .leave x => inferInstanceAs (Decidable (x ∈ s.workers ∧ x.phase ≠ .scheduled ∧
      (x.alive = false ∨ s.registered = false)))
  | .exit x => inferInstanceAs (Decidable (x ∈ s.workers))
  | .add => inferInstanceAs (Decidable (s.registered = false))

instance (s : Guest) : DecidablePred (machine.enabled s) :=
  inferInstanceAs (DecidablePred (enabled s))

def start : Guest := ⟨true, false, false, []⟩

/-- In its wait loop without a request. -/
def Idle (x : Worker) : Prop := x.alive = true ∧ x.phase = .waiting none

instance (x : Worker) : Decidable (Idle x) :=
  inferInstanceAs (Decidable (x.alive = true ∧ x.phase = .waiting none))

/-- A worker that waits for a guest has handed its request on, or finds `rpc_done`. -/
def NoIdleWait (s : Guest) : Prop :=
  s.registered = true → ∀ x ∈ s.workers, Idle x → s.done = true

/-- The bytes of the surrogate from `addr` on that a builder asks for. -/
def Readable (W : World) (addr n : ℕ) : Prop := ∀ i < n, (W.mem (addr + i)).isSome = true

/-- What the vectors of a message call need. -/
def MsgReadable (W : World) (msg : ℕ) : Prop :=
  Readable W msg msghdrSize ∧ W.iovsAlloc = true ∧
    (let m := parseMsghdr (accessProcessVm W msg msghdrSize)
    0 < m.iovlen ∧ iovecSize * m.iovlen ≤ kmallocMax ∧ Readable W m.iov 1)

/-- What the builder needs of the arguments, the memory and the allocations. -/
def Buildable (W : World) : Work → Prop
  | .sendto _ _ buff len | .write _ buff len =>
    W.bufferAlloc = true ∧ Readable W buff (min len chunkMax)
  | .setsockopt _ _ _ _ optlen =>
    W.bufferAlloc = true ∧ 0 ≤ optlen ∧ setsockoptHeader + optlen ≤ kmallocMax
  | .sendmsg _ _ msg => MsgReadable W msg ∧ W.bufferAlloc = true
  | .recvmsg _ _ msg => MsgReadable W msg
  | _ => True

/-- The request of a worker can be built and sent, or the worker is a write or finds `rpc_done`;
and `rpc_done` is not cleared while a worker without request waits for it. -/
def ok (s : Guest) : Event → Prop
  | .hook _ | .fileOperation | .add => ∀ x ∈ s.workers, ¬ Idle x
  | .send x W => s.registered = true → x.alive = true → s.done = false → isWrite x.work = false →
      W.link = .passes ∧ Buildable W x.work
  | _ => True

instance (W : World) (addr n : ℕ) : Decidable (Readable W addr n) :=
  inferInstanceAs (Decidable (∀ i < n, (W.mem (addr + i)).isSome = true))

instance (W : World) (msg : ℕ) : Decidable (MsgReadable W msg) := by
  unfold MsgReadable
  infer_instance

instance (W : World) (w : Work) : Decidable (Buildable W w) := by
  induction w using Work.casesOn <;> unfold Buildable <;> infer_instance

instance (s : Guest) : DecidablePred (ok s)
  | .hook _ | .fileOperation | .add => inferInstanceAs (Decidable (∀ x ∈ s.workers, ¬ Idle x))
  | .send x W => inferInstanceAs (Decidable (s.registered = true → x.alive = true →
      s.done = false → isWrite x.work = false → W.link = .passes ∧ Buildable W x.work))
  | .reply | .look _ | .leave _ | .exit _ | .setMigrating _ | .remove => isTrue trivial

/-! ### What can be built -/

theorem accessProcessVm_whole {W : World} (found : W.found = true) (addr n : ℕ) :
    (accessProcessVm W addr n).length = n ↔ Readable W addr n := by
  induction n generalizing addr with
  | zero => simp [accessProcessVm, Readable]
  | succ n ih =>
    have first : Readable W addr (n + 1) ↔
        (W.mem addr).isSome = true ∧ Readable W (addr + 1) n := by
      constructor
      · intro all
        refine ⟨all 0 (by omega), ?_⟩
        intro i small
        have here := all (i + 1) (by omega)
        rwa [show addr + (i + 1) = addr + 1 + i by omega] at here
      · rintro ⟨here, rest⟩ i small
        cases i with
        | zero => exact here
        | succ i =>
          rw [show addr + (i + 1) = addr + 1 + i by omega]
          exact rest i (by omega)
    rw [first, ← ih]
    simp only [accessProcessVm, found, if_true]
    cases W.mem addr <;> simp

theorem accessProcessVm_some {W : World} (found : W.found = true) (addr n : ℕ) :
    0 < (accessProcessVm W addr n).length ↔ 0 < n ∧ Readable W addr 1 := by
  cases n with
  | zero => simp [accessProcessVm]
  | succ n =>
    simp only [accessProcessVm, found, if_true, Readable, Nat.lt_one_iff, forall_eq, Nat.add_zero]
    cases W.mem addr <;> simp

theorem readChunk_isSome {W : World} (found : W.found = true) (buff len : ℕ) :
    (readChunk W buff len).isSome = true ↔
      W.bufferAlloc = true ∧ Readable W buff (min len chunkMax) := by
  rw [← accessProcessVm_whole found]
  simp only [readChunk, found, and_true]
  by_cases alloc : W.bufferAlloc = true
  · rw [if_pos alloc]
    split_ifs with whole
    · exact iff_of_true rfl ⟨alloc, whole⟩
    · exact iff_of_false (by simp) fun h => whole h.2
  · rw [if_neg alloc]
    exact iff_of_false (by simp) fun h => alloc h.1

theorem readMsg_isSome {W : World} (found : W.found = true) (msg : ℕ) :
    (readMsg W msg).isSome = true ↔ MsgReadable W msg := by
  simp only [readMsg, MsgReadable, ← accessProcessVm_whole found msg, found, true_and]
  split_ifs with head room some
  · have vectors := (accessProcessVm_some found _ _).mp some
    have count : 0 < (parseMsghdr (accessProcessVm W msg msghdrSize)).iovlen := by
      have positive := vectors.1
      simp only [iovecSize] at positive
      omega
    exact iff_of_true rfl ⟨head, room.1, count, room.2, vectors.2⟩
  · refine iff_of_false (by simp) ?_
    rintro ⟨-, -, count, -, first⟩
    refine some ((accessProcessVm_some found _ _).mpr ⟨?_, first⟩)
    simp only [iovecSize]
    omega
  · exact iff_of_false (by simp) fun h => room ⟨h.2.1, h.2.2.2.1⟩
  · exact iff_of_false (by simp) fun h => head h.1

theorem build_isSome {W : World} (found : W.found = true) (w : Work) :
    (build W w).isSome = true ↔ Buildable W w := by
  cases w with
  | sendto _ _ buff len | write _ buff len =>
    rw [Buildable, ← readChunk_isSome found]
    simp only [build, Option.isSome_map]
  | setsockopt _ _ _ _ optlen =>
    simp only [build, Buildable]
    split_ifs with fits
    · exact iff_of_true rfl fits
    · exact iff_of_false (by simp) fits
  | sendmsg _ _ msg =>
    rw [Buildable, ← readMsg_isSome found]
    simp only [build]
    cases readMsg W msg with
    | none => simp
    | some x => cases W.bufferAlloc <;> simp
  | recvmsg _ _ msg =>
    rw [Buildable, ← readMsg_isSome found]
    simp only [build]
    cases readMsg W msg <;> simp
  | _ => exact iff_of_true rfl trivial

theorem handed_isSome {W : World} (found : W.found = true) (w : Work) :
    (handed W w).isSome = true ↔ W.link = .passes ∧ Buildable W w := by
  rw [← build_isSome found]
  simp only [handed]
  cases W.link <;> simp

/-! ### Steps and runs -/

/-- A step that leaves `rpc_done` set, where it was, and adds no idle worker. -/
theorem NoIdleWait.keeps {s s' : Guest} (h : NoIdleWait s)
    (registered : s'.registered = true → s.registered = true)
    (done : s.done = true → s'.done = true)
    (workers : ∀ x ∈ s'.workers, Idle x → x ∈ s.workers) : NoIdleWait s' := by
  intro isRegistered x mem idle
  exact done (h (registered isRegistered) x (workers x mem idle) idle)

/-- Clearing `rpc_done` of a guest leaves every idle worker waiting. -/
theorem noIdleWait_cleared {s : Guest} (registered : s.registered = true)
    (cleared : s.done = false) : NoIdleWait s ↔ ∀ x ∈ s.workers, ¬ Idle x := by
  constructor
  · intro h x mem idle
    have done := h registered x mem idle
    simp [cleared] at done
  · intro none _ x mem idle
    exact absurd idle (none x mem)

theorem noIdleWait_hook (s : Guest) (w : Work) (registered : s.registered = true) :
    NoIdleWait (next s (.hook w)) ↔ ok s (.hook w) := by
  have cleared := noIdleWait_cleared (s := next s (.hook w)) registered rfl
  rw [cleared]
  have busy : ¬ Idle ⟨w, true, .scheduled⟩ := by simp [Idle]
  simp [next, ok, busy]

theorem noIdleWait_send {s : Guest} (h : NoIdleWait s) (x : Worker) (W : World)
    (en : enabled s (.send x W)) : NoIdleWait (next s (.send x W)) ↔ ok s (.send x W) := by
  obtain ⟨mem, -, found⟩ := en
  have handed := fun alive : x.alive = true => handed_isSome (found.trans alive) x.work
  constructor
  · intro after registered alive notDone notWrite
    by_contra lost
    have none : WormholeRequests.handed W x.work = none := by
      rw [← handed alive, Bool.not_eq_true, Option.isSome_eq_false_iff] at lost
      exact Option.isNone_iff_eq_none.mp lost
    have done := after registered _ List.mem_cons_self ⟨alive, by rw [none]⟩
    simp [next, notDone, notWrite] at done
  · intro fine registered y hy idle
    have isRegistered : s.registered = true := registered
    cases hy with
    | head =>
      obtain ⟨alive, idle⟩ := idle
      have none : WormholeRequests.handed W x.work = none := by simpa using idle
      by_contra notDone
      simp only [next, Bool.or_eq_true, Bool.and_eq_true, not_or, Bool.not_eq_true] at notDone
      have notWrite : isWrite x.work = false := by
        by_contra write
        exact notDone.2 ⟨⟨by simpa using write, alive⟩, isRegistered⟩
      have sent := (handed alive).mpr (fine isRegistered alive notDone.1 notWrite)
      simp [none] at sent
    | tail _ hy =>
      have done := h isRegistered y (List.mem_of_mem_erase hy) idle
      simp [next, done]

theorem noIdleWait_next {s : Guest} (h : NoIdleWait s) (e : Event) (en : enabled s e) :
    NoIdleWait (next s e) ↔ ok s e := by
  cases e with
  | hook w => exact noIdleWait_hook s w en
  | fileOperation => exact noIdleWait_cleared (s := next s .fileOperation) en rfl
  | send x W => exact noIdleWait_send h x W en
  | reply => exact iff_of_true (h.keeps id (fun _ => rfl) fun x mem _ => mem) trivial
  | look x =>
    exact iff_of_true (h.keeps id (fun _ => rfl) fun y mem _ => List.mem_of_mem_erase mem) trivial
  | leave x => exact iff_of_true (h.keeps id id fun y mem _ => List.mem_of_mem_erase mem) trivial
  | exit x =>
    refine iff_of_true (h.keeps id id ?_) trivial
    intro y mem idle
    cases mem with
    | head => exact absurd idle.1 (by simp)
    | tail _ mem => exact List.mem_of_mem_erase mem
  | setMigrating b => exact iff_of_true (h.keeps id id fun x mem _ => mem) trivial
  | remove => exact iff_of_true (fun registered => absurd registered (by simp [next])) trivial
  | add => exact noIdleWait_cleared (s := next s .add) rfl rfl

/-- In a run no worker waits for an answer that nobody was asked for, exactly if each request can
be built and sent and no pending `rpc_done` is cleared. -/
theorem waits_have_requests {events : List Event} (run : machine.Runs start events) :
    machine.Always NoIdleWait start events ↔ machine.Follows ok start events :=
  Machine.always_iff_follows (fun _ e h en => noIdleWait_next h e en) run (by simp [NoIdleWait, start])

/-- A surrogate with three bytes at address 16 and, at 32, the header of a message whose one vector
lies at 88. -/
def readable : World where
  link := .passes
  found := true
  mem a :=
    if a = 48 then some 88 else if a = 56 then some 1 else if a = 88 then some 16
    else if a = 96 then some 3 else if a < 104 then some 0 else none
  proxies _ := none
  bufferAlloc := true
  iovsAlloc := true
  heap _ := 0

def message : Work := .sendmsg 4 0 32

/-- The request of a sendmsg, and a write from memory that cannot be read. -/
def served : List Event :=
  [.hook message, .send ⟨message, true, .scheduled⟩ readable, .reply,
    .look ⟨message, true, .waiting (some (.sendmsg 4 0 [] [0, 0, 0]))⟩,
    .hook (.write 5 200 8), .send ⟨.write 5 200 8, true, .scheduled⟩ readable,
    .look ⟨.write 5 200 8, true, .waiting none⟩]

theorem waits_have_requests_served : machine.Always NoIdleWait start served :=
  (waits_have_requests (by decide +kernel)).mpr (by decide +kernel)

/-- A sendto from memory that cannot be read. -/
def unreadable : List Event :=
  [.hook (.sendto 4 0 200 8), .send ⟨.sendto 4 0 200 8, true, .scheduled⟩ readable]

/-- No request went out, and the worker waits for its answer. -/
theorem unreadable_sendto_waits :
    machine.Runs start unreadable ∧
      machine.after start unreadable =
        ⟨true, false, false, [⟨.sendto 4 0 200 8, true, .waiting none⟩]⟩ ∧
      ¬ machine.Always NoIdleWait start unreadable := by
  have waits : machine.after start unreadable =
      ⟨true, false, false, [⟨.sendto 4 0 200 8, true, .waiting none⟩]⟩ := by decide +kernel
  refine ⟨by decide +kernel, waits, ?_⟩
  intro always
  have last : NoIdleWait (machine.after start unreadable) := always.2.2
  rw [waits] at last
  have done := last rfl _ (List.mem_singleton_self _) ⟨rfl, rfl⟩
  cases done

end MattX.WormholeRequests
