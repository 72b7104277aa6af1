import MattX.WormholeCalls
import Mathlib.Data.Option.Basic

set_option autoImplicit false

/-!
# The entry and return handlers of the hooked calls

Each hook has an entry handler, which may spoil an argument so that the local
call fails, and a return handler, which may stop the thread and schedule an
RPC. They run at different times and find their own switches, registry and
user memory; all that goes from one to the other is the data of the probe
instance, which keeps what an earlier call left where it is not set.
-/
namespace MattX.InterceptionHandlers
open WormholeCalls

inductive Hook where
  | openat | dup | dup2 | unlinkat | socket | connect | bind | listen | sendto | recvfrom | accept
  | poll | select | pselect6 | read | write | lseek | fsync | statx
  | epollCtl | epollWait | epollCreate | epollCreate1
  | getsockname | getpeername | setsockopt | getsockopt | sendmsg | recvmsg
  | getpid | gettid | uname | prlimit64 | prctl | fcntl | ioctl | pread64
  | statfs | fstatfs | newfstatat | faccessat2 | readlink | readlinkat | getdents64 | pipe2
  | brk | munmap | mremap | mmap | mprotect | madvise | mbind
  | schedGetaffinity | schedSetaffinity | schedYield | tgkill | clockNanosleep
  | shmget | shmctl | shmdt | shmat
  deriving DecidableEq, Repr

/-- The argument registers, and the timespec that a sleep is given. -/
structure Args where
  di : BitVec 64
  si : BitVec 64
  dx : BitVec 64
  r10 : BitVec 64
  r8 : BitVec 64
  r9 : BitVec 64
  deadline : ℤ
  deriving DecidableEq

/-- The cast of a register to `int`. -/
def int (w : BitVec 64) : ℤ := (w.setWidth 32).toInt

structure Thread where
  pid : ℕ
  tgid : ℕ
  comm : String
  deriving DecidableEq

/-- `struct mattx_guest_info`, with the home and local id of each thread of the gang. -/
structure Guest where
  localPid : ℕ
  origPid : ℕ
  homeNode : ℕ
  threads : List (ℕ × ℕ)
  deriving DecidableEq

/-- What `fget` finds: a proxy file with its remote descriptor if it has one, a pipe or socket, or
another file. -/
inductive File where
  | closed
  | proxy (remoteFd : Option ℤ)
  | pipeOrSocket
  | other
  deriving DecidableEq

/-- What a handler finds when it runs: the registry, the switches, the descriptors, the strings
that `strncpy_from_user` can read, the descriptors of the poll array, the clock offset that waits
for the thread, and, for a return handler, whether the thread is dying and whether `kzalloc` gives
a work. -/
structure World where
  registry : List Guest
  mattxfsEnabled : Bool
  migrateNetworkIo : Bool
  migrateFileIo : Bool
  hpcLocalLibs : Bool
  file : ℤ → File
  string : BitVec 64 → Option Bytes
  pollFds : Option (List ℤ)
  clockFixup : Option ℤ
  dying : Bool
  alloc : Bool

/-- The data of a probe instance: the saved arguments and what the entry handler found. -/
structure Data where
  args : Args
  ghost : Bool
  hpcFastpath : Bool
  isGuest : Bool
  isEpolltest : Bool
  remoteFd : ℤ
  deriving DecidableEq

structure Rpc where
  kind : Kind
  origPid : ℕ
  homeNode : ℕ
  args : Args
  remoteFd : ℤ
  deriving DecidableEq

/-- The arguments the call goes on with, whether they were sabotaged, and the data left behind. -/
structure Entry where
  args : Args
  sabotaged : Bool
  data : Data
  deriving DecidableEq

inductive Ret where
  | alone
  | scheduled (rpc : Rpc)
  | result (ax : ℤ)
  deriving DecidableEq

abbrev EntryHandler := Thread → World → Args → Data → Entry
abbrev RetHandler := Thread → World → Data → Ret

def isGuestProcess (w : World) (pid : ℕ) : Bool := w.registry.any fun g => g.localPid == pid

def guestOf (w : World) (t : Thread) : Option Guest :=
  w.registry.find? fun g => g.localPid == t.tgid

def ascii (s : String) : Bytes := s.toList.map fun c => BitVec.ofNat 8 c.toNat

def isHpcLocalLib (path : Bytes) : Bool :=
  ["/lib/", "/lib64/", "/usr/lib/", "/usr/lib64/", "/etc/ld.so.cache", "/usr/share/locale/",
    "/proc/", "/sys/"].any fun dir => (ascii dir).isPrefixOf path

/-- The test both halves make of a path. -/
def hpcFastpath (w : World) (path : BitVec 64) : Bool :=
  w.hpcLocalLibs && path != 0 && (w.string path).any isHpcLocalLib

/-- Whether the descriptor leads home, and `remote_fd_out`, which stays as it was where nothing is
stored. -/
def isWormholeFd (w : World) (fd : ℤ) (old : ℤ) : Bool × ℤ :=
  if 0 ≤ fd then
    match w.file fd with
    | .closed | .pipeOrSocket => (true, fd)
    | .proxy remoteFd => (true, remoteFd.getD old)
    | .other => (false, old)
  else (false, old)

/-- An entry handler that does not interfere. -/
def leave (args : Args) (d : Data) : Entry := ⟨args, false, d⟩

def spoilDi (v : BitVec 64) (args : Args) (d : Data) : Entry := ⟨{ args with di := v }, true, d⟩

def spoilSi (v : BitVec 64) (args : Args) (d : Data) : Entry := ⟨{ args with si := v }, true, d⟩

/-- The end of every return handler that schedules an RPC: the record of the gang, the shield for
dying threads, and the work. -/
def intercept (k : Kind) : RetHandler := fun t w d =>
  match guestOf w t with
  | some g =>
    if w.dying then .alone
    else if w.alloc then .scheduled ⟨k, g.origPid, g.homeNode, d.args, d.remoteFd⟩ else .alone
  | none => .alone

/-! ### Calls that test the thread's own pid -/

def entryHandlerOpenat : EntryHandler := fun t w args d =>
  if isGuestProcess w t.pid = false then leave args d
  else if w.mattxfsEnabled then leave args d
  else
    let d := { d with args, hpcFastpath := hpcFastpath w args.si }
    if d.hpcFastpath then leave args d else spoilSi 0 args d

def retHandlerOpenat : RetHandler := fun t w d =>
  if isGuestProcess w t.pid = false then .alone
  else if w.mattxfsEnabled then .alone
  else if d.hpcFastpath then .alone
  else if (w.string d.args.si).getD [] ≠ [] then
    if w.migrateFileIo then intercept .open t w d else .alone
  else .alone

/-- Only a proxy file is duplicated at home. -/
def entryHandlerDup : EntryHandler := fun t w args d =>
  if isGuestProcess w t.pid = false then leave args d
  else if w.mattxfsEnabled then leave args d
  else
    let remote := match w.file (int args.di) with
      | .proxy remoteFd => if 0 ≤ int args.di then remoteFd else none
      | _ => none
    let d := { d with args, ghost := remote.isSome, remoteFd := remote.getD (-1) }
    if d.ghost then spoilDi (-1) args d else leave args d

def retHandlerDup : RetHandler := fun t w d =>
  if isGuestProcess w t.pid && d.ghost then intercept .dup t w d else .alone

def entryHandlerUnlinkat : EntryHandler := fun t w args d =>
  if isGuestProcess w t.pid = false then leave args d
  else if w.mattxfsEnabled then leave args d
  else spoilSi 0 args { d with args }

def retHandlerUnlinkat : RetHandler := fun t w d =>
  if isGuestProcess w t.pid = false then .alone
  else if w.mattxfsEnabled then .alone
  else if (w.string d.args.si).getD [] ≠ [] then intercept .unlink t w d
  else .alone

/-- socket, select and pselect6. -/
def entryHandlerSocket : EntryHandler := fun t w args d =>
  if isGuestProcess w t.pid && w.migrateNetworkIo then spoilDi (-1) args { d with args }
  else leave args d

def retHandlerSocket (k : Kind) : RetHandler := fun t w d =>
  if isGuestProcess w t.pid && w.migrateNetworkIo then intercept k t w d else .alone

/-- connect, bind, listen, sendto, recvfrom and accept. -/
def entryHandlerConnect : EntryHandler := fun t w args d =>
  if isGuestProcess w t.pid && w.migrateNetworkIo then
    let (ghost, remoteFd) := isWormholeFd w (int args.di) (-1)
    let d := { d with args, ghost, remoteFd }
    if ghost then spoilDi (-1) args d else leave args d
  else leave args d

def retHandlerConnect (k : Kind) : RetHandler := fun t w d =>
  if isGuestProcess w t.pid && w.migrateNetworkIo && d.ghost then intercept k t w d else .alone

def entryHandlerPoll : EntryHandler := fun t w args d =>
  if isGuestProcess w t.pid && w.migrateNetworkIo then
    let fds := if 0 < int args.si ∧ int args.si ≤ 16 then w.pollFds.getD [] else []
    let d := { d with args, ghost := fds.any fun fd => (isWormholeFd w fd (-1)).1 }
    if d.ghost then spoilDi 0 args d else leave args d
  else leave args d

/-- A descriptor that is closed, a pipe or a socket. -/
def isNativeWormhole (w : World) (fd : ℤ) : Bool :=
  if 0 ≤ fd then
    match w.file fd with
    | .closed | .pipeOrSocket => true
    | .proxy _ | .other => false
  else false

/-- read and write; those on a proxy file are its file operations. -/
def entryHandlerRead : EntryHandler := fun t w args d =>
  if isGuestProcess w t.pid then
    let d := { d with args, ghost := isNativeWormhole w (int args.di), remoteFd := int args.di }
    if d.ghost then spoilDi (-1) args d else leave args d
  else leave args d

def retHandlerRead (k : Kind) : RetHandler := fun t w d =>
  if isGuestProcess w t.pid && d.ghost then intercept k t w d else .alone

/-! ### Calls that test the thread group -/

/-- lseek, fsync and statx. -/
def entryHandlerFileio : EntryHandler := fun t w args d =>
  let d := { d with ghost := false }
  if isGuestProcess w t.tgid then
    let proxy := match w.file (int args.di) with
      | .proxy _ => decide (0 ≤ int args.di) && !w.mattxfsEnabled
      | _ => false
    let d := { d with
      args, remoteFd := int args.di, ghost := proxy || isNativeWormhole w (int args.di) }
    if d.ghost then spoilDi (-1) args d else leave args d
  else leave args d

/-- The data says it all; also for epoll_ctl, epoll_wait, the socket names and options, and
messages. -/
def retHandlerGhost (k : Kind) : RetHandler := fun t w d =>
  if d.ghost then intercept k t w d else .alone

def entryHandlerEpollCreate : EntryHandler := fun t w args d =>
  let d := { d with isGuest := isGuestProcess w t.tgid, isEpolltest := t.comm == "epolltest" }
  if d.isGuest && d.isEpolltest then spoilDi (-1) args { d with args } else leave args d

def retHandlerEpollCreate : RetHandler := fun t w d =>
  if d.isGuest && d.isEpolltest then intercept .epollCreate t w d else .alone

def entryHandlerGhost : EntryHandler := fun t w args d =>
  let d := { d with ghost := false }
  if isGuestProcess w t.tgid then
    let (ghost, remoteFd) := isWormholeFd w (int args.di) d.remoteFd
    if ghost then spoilDi (-1) args { d with args, ghost, remoteFd } else leave args d
  else leave args d

/-- epoll_ctl and epoll_wait send the local descriptor. -/
def entryHandlerEpollCtl : EntryHandler := fun t w args d =>
  let d := { d with ghost := false }
  if isGuestProcess w t.tgid then
    if (isWormholeFd w (int args.di) 0).1 then
      spoilDi (-1) args { d with args, ghost := true, remoteFd := int args.di }
    else leave args d
  else leave args d

/-- fcntl, ioctl, pread64 and getdents64. -/
def entryHandlerFcntl : EntryHandler := fun t w args d =>
  if isGuestProcess w t.tgid then
    let (ghost, remoteFd) := isWormholeFd w (int args.di) d.remoteFd
    let d := { d with args, ghost, remoteFd }
    if ghost then spoilDi (-1) args d else leave args d
  else leave args d

def entryHandlerFstatfs : EntryHandler := fun t w args d =>
  entryHandlerFcntl t w args { d with remoteFd := int args.di }

def retHandlerFcntl (k : Kind) : RetHandler := fun t w d =>
  if isGuestProcess w t.tgid && d.ghost then intercept k t w d else .alone

/-- uname (with 0), prlimit64, prctl, and the calls on shared segments; pipe2 with 0. -/
def entryHandlerUname (v : BitVec 64) : EntryHandler := fun t w args d =>
  if isGuestProcess w t.tgid then spoilDi v args { d with args } else leave args d

/-- uname, prlimit64 and prctl ask for the pid where the entry handler asked for the tgid. -/
def retHandlerUname (k : Kind) : RetHandler := fun t w d =>
  if isGuestProcess w t.pid then intercept k t w d else .alone

/-- pipe2, shmget, shmctl, shmdt and shmat. -/
def retHandlerShmget (k : Kind) : RetHandler := fun t w d =>
  if isGuestProcess w t.tgid then intercept k t w d else .alone

/-- statfs and readlink. -/
def entryHandlerStatfs : EntryHandler := fun t w args d =>
  if isGuestProcess w t.tgid then
    let d := { d with args, hpcFastpath := hpcFastpath w args.di }
    if d.hpcFastpath then leave args d else spoilDi 0 args d
  else leave args d

/-- The path is read again, and a work for a local library is freed. -/
def retHandlerStatfs (k : Kind) : RetHandler := fun t w d =>
  if isGuestProcess w t.tgid = false then .alone
  else if d.hpcFastpath then .alone
  else if hpcFastpath w d.args.di then .alone
  else intercept k t w d

def atFdcwd : ℤ := -100

/-- newfstatat, faccessat2 and readlinkat. -/
def entryHandlerNewfstatat : EntryHandler := fun t w args d =>
  if isGuestProcess w t.tgid then
    let d := { d with
      args, ghost := false, remoteFd := int args.di, hpcFastpath := hpcFastpath w args.si }
    if d.hpcFastpath then leave args d
    else
      let (ghost, remoteFd) :=
        if int args.di = atFdcwd then (true, int args.di)
        else isWormholeFd w (int args.di) (int args.di)
      let d := { d with ghost, remoteFd }
      if ghost then spoilDi (-1) args d else leave args d
  else leave args d

def retHandlerNewfstatat (k : Kind) : RetHandler := fun t w d =>
  if isGuestProcess w t.tgid = false then .alone
  else if d.hpcFastpath then .alone
  else if d.ghost = false then .alone
  else if hpcFastpath w d.args.si then .alone
  else intercept k t w d

/-! ### Calls that are answered or run on the spot -/

/-- brk, munmap, mremap, mprotect, madvise, mbind and the scheduler calls. -/
def entryHandlerBrk : EntryHandler := fun _ _ args d => leave args d

def retHandlerBrk : RetHandler := fun _ _ _ => .alone

def retHandlerGetpid : RetHandler := fun t w _ =>
  match guestOf w t with
  | some g => .result g.origPid
  | none => .alone

/-- The home id of a thread that came along; a later one keeps its own. -/
def homeTid (g : Guest) (pid : ℕ) : Option ℕ :=
  (g.threads.find? fun x => x.2 == pid).map Prod.fst

def retHandlerGettid : RetHandler := fun t w _ =>
  match (guestOf w t).bind fun g => homeTid g t.pid with
  | some tid => .result tid
  | none => .alone

def eacces : ℤ := -13

def entryHandlerMmap : EntryHandler := fun t w args d =>
  if isGuestProcess w t.tgid then
    let ghost := (isWormholeFd w (int args.r8) 0).1
    let d := { d with ghost }
    if ghost then ⟨{ args with di := -1, si := 0 }, true, d⟩ else leave args d
  else leave args d

def retHandlerMmap : RetHandler := fun t w d =>
  if isGuestProcess w t.tgid && d.ghost then .result eacces else .alone

/-- The ids of a `tgkill` in the terms of this node. -/
def localIds (g : Guest) (t : Thread) (args : Args) : Args :=
  let tid := (args.si.setWidth 32).toNat
  let si := match g.threads.find? fun x => x.1 == tid with
    | some x => BitVec.ofNat 64 x.2
    | none => args.si
  let di := if (args.di.setWidth 32).toNat = g.origPid then BitVec.ofNat 64 t.tgid else args.di
  { args with di, si }

def entryHandlerTgkill : EntryHandler := fun t w args d =>
  match guestOf w t with
  | some g => leave (localIds g t args) d
  | none => leave args d

/-- `TIMER_ABSTIME` on `CLOCK_MONOTONIC` or `CLOCK_BOOTTIME`, with a timespec. -/
def isAbsolute (args : Args) : Bool :=
  args.si.getLsbD 0 && (int args.di == 1 || int args.di == 7) && args.dx != 0

/-- The deadline in the time of this node. -/
def localDeadline (w : World) (args : Args) : Args :=
  let offset := if isAbsolute args then w.clockFixup.getD 0 else 0
  if offset = 0 then args else { args with deadline := max 0 (args.deadline + offset) }

def entryHandlerClockNanosleep : EntryHandler := fun _ w args d => leave (localDeadline w args) d

/-! ### The registration table -/

structure Kretprobe where
  entry : EntryHandler
  ret : RetHandler

def kretprobe : Hook → Kretprobe
  | .openat => ⟨entryHandlerOpenat, retHandlerOpenat⟩
  | .dup | .dup2 => ⟨entryHandlerDup, retHandlerDup⟩
  | .unlinkat => ⟨entryHandlerUnlinkat, retHandlerUnlinkat⟩
  | .socket => ⟨entryHandlerSocket, retHandlerSocket .socket⟩
  | .select => ⟨entryHandlerSocket, retHandlerSocket .select⟩
  | .pselect6 => ⟨entryHandlerSocket, retHandlerSocket .pselect6⟩
  | .connect => ⟨entryHandlerConnect, retHandlerConnect .connect⟩
  | .bind => ⟨entryHandlerConnect, retHandlerConnect .bind⟩
  | .listen => ⟨entryHandlerConnect, retHandlerConnect .listen⟩
  | .sendto => ⟨entryHandlerConnect, retHandlerConnect .sendto⟩
  | .recvfrom => ⟨entryHandlerConnect, retHandlerConnect .recvfrom⟩
  | .accept => ⟨entryHandlerConnect, retHandlerConnect .accept⟩
  | .poll => ⟨entryHandlerPoll, retHandlerConnect .poll⟩
  | .read => ⟨entryHandlerRead, retHandlerRead .read⟩
  | .write => ⟨entryHandlerRead, retHandlerRead .write⟩
  | .lseek => ⟨entryHandlerFileio, retHandlerGhost .lseek⟩
  | .fsync => ⟨entryHandlerFileio, retHandlerGhost .fsync⟩
  | .statx => ⟨entryHandlerFileio, retHandlerGhost .statx⟩
  | .epollCtl => ⟨entryHandlerEpollCtl, retHandlerGhost .epollCtl⟩
  | .epollWait => ⟨entryHandlerEpollCtl, retHandlerGhost .epollWait⟩
  | .epollCreate | .epollCreate1 => ⟨entryHandlerEpollCreate, retHandlerEpollCreate⟩
  | .getsockname => ⟨entryHandlerGhost, retHandlerGhost .getsockname⟩
  | .getpeername => ⟨entryHandlerGhost, retHandlerGhost .getpeername⟩
  | .setsockopt => ⟨entryHandlerGhost, retHandlerGhost .setsockopt⟩
  | .getsockopt => ⟨entryHandlerGhost, retHandlerGhost .getsockopt⟩
  | .sendmsg => ⟨entryHandlerGhost, retHandlerGhost .sendmsg⟩
  | .recvmsg => ⟨entryHandlerGhost, retHandlerGhost .recvmsg⟩
  | .getpid => ⟨entryHandlerBrk, retHandlerGetpid⟩
  | .gettid => ⟨entryHandlerBrk, retHandlerGettid⟩
  | .uname => ⟨entryHandlerUname 0, retHandlerUname .uname⟩
  | .prlimit64 => ⟨entryHandlerUname (-1), retHandlerUname .prlimit64⟩
  | .prctl => ⟨entryHandlerUname (-1), retHandlerUname .prctl⟩
  | .fcntl => ⟨entryHandlerFcntl, retHandlerFcntl .fcntl⟩
  | .ioctl => ⟨entryHandlerFcntl, retHandlerFcntl .ioctl⟩
  | .pread64 => ⟨entryHandlerFcntl, retHandlerFcntl .pread64⟩
  | .fstatfs => ⟨entryHandlerFstatfs, retHandlerFcntl .fstatfs⟩
  | .getdents64 => ⟨entryHandlerFcntl, retHandlerFcntl .getdents64⟩
  | .statfs => ⟨entryHandlerStatfs, retHandlerStatfs .statfs⟩
  | .readlink => ⟨entryHandlerStatfs, retHandlerStatfs .readlink⟩
  | .newfstatat => ⟨entryHandlerNewfstatat, retHandlerNewfstatat .newfstatat⟩
  | .faccessat2 => ⟨entryHandlerNewfstatat, retHandlerNewfstatat .faccessat2⟩
  | .readlinkat => ⟨entryHandlerNewfstatat, retHandlerNewfstatat .readlinkat⟩
  | .pipe2 => ⟨entryHandlerUname 0, retHandlerShmget .pipe2⟩
  | .shmget => ⟨entryHandlerUname (-1), retHandlerShmget .shmget⟩
  | .shmctl => ⟨entryHandlerUname (-1), retHandlerShmget .shmctl⟩
  | .shmdt => ⟨entryHandlerUname (-1), retHandlerShmget .shmdt⟩
  | .shmat => ⟨entryHandlerUname (-1), retHandlerShmget .shmat⟩
  | .mmap => ⟨entryHandlerMmap, retHandlerMmap⟩
  | .tgkill => ⟨entryHandlerTgkill, retHandlerBrk⟩
  | .clockNanosleep => ⟨entryHandlerClockNanosleep, retHandlerBrk⟩
  | .brk | .munmap | .mremap | .mprotect | .madvise | .mbind | .schedGetaffinity
  | .schedSetaffinity | .schedYield => ⟨entryHandlerBrk, retHandlerBrk⟩

/-! ### All or nothing -/

/-- The RPC that a hook schedules; none for those that are answered or run on the spot. -/
def Hook.rpc : Hook → Option Kind
  | .openat => some .open
  | .dup | .dup2 => some .dup
  | .unlinkat => some .unlink
  | .socket => some .socket
  | .connect => some .connect
  | .bind => some .bind
  | .listen => some .listen
  | .sendto => some .sendto
  | .recvfrom => some .recvfrom
  | .accept => some .accept
  | .poll => some .poll
  | .select => some .select
  | .pselect6 => some .pselect6
  | .read => some .read
  | .write => some .write
  | .lseek => some .lseek
  | .fsync => some .fsync
  | .statx => some .statx
  | .epollCtl => some .epollCtl
  | .epollWait => some .epollWait
  | .epollCreate | .epollCreate1 => some .epollCreate
  | .getsockname => some .getsockname
  | .getpeername => some .getpeername
  | .setsockopt => some .setsockopt
  | .getsockopt => some .getsockopt
  | .sendmsg => some .sendmsg
  | .recvmsg => some .recvmsg
  | .uname => some .uname
  | .prlimit64 => some .prlimit64
  | .prctl => some .prctl
  | .fcntl => some .fcntl
  | .ioctl => some .ioctl
  | .pread64 => some .pread64
  | .statfs => some .statfs
  | .fstatfs => some .fstatfs
  | .newfstatat => some .newfstatat
  | .faccessat2 => some .faccessat2
  | .readlink => some .readlink
  | .readlinkat => some .readlinkat
  | .getdents64 => some .getdents64
  | .pipe2 => some .pipe2
  | .shmget => some .shmget
  | .shmctl => some .shmctl
  | .shmdt => some .shmdt
  | .shmat => some .shmat
  | .getpid | .gettid | .brk | .munmap | .mremap | .mmap | .mprotect | .madvise | .mbind
  | .schedGetaffinity | .schedSetaffinity | .schedYield | .tgkill | .clockNanosleep => none

/-- One call of a thread: what each half finds, the arguments, and the data of the instance. -/
structure Call where
  thread : Thread
  before : World
  later : World
  args : Args
  stale : Data

def Call.entry (c : Call) (p : Kretprobe) : Entry := p.entry c.thread c.before c.args c.stale

def Call.ret (c : Call) (p : Kretprobe) : Ret := p.ret c.thread c.later (c.entry p).data

/-- The arguments go on as they are, and so does the result. -/
def Untouched (p : Kretprobe) (c : Call) : Prop := (c.entry p).args = c.args ∧ c.ret p = .alone

/-- Descriptor 3 is a proxy file; nothing else is open, and no path can be read. -/
def world : World where
  registry := [⟨40, 7, 1, [(7, 40), (8, 41)]⟩]
  mattxfsEnabled := false
  migrateNetworkIo := true
  migrateFileIo := true
  hpcLocalLibs := true
  file fd := if fd = 3 then .proxy (some 5) else .closed
  string _ := none
  pollFds := none
  clockFixup := none
  dying := false
  alloc := true

/-- A call of the second thread of the gang, on descriptor 3. -/
def call : Call where
  thread := ⟨41, 40, "worker"⟩
  before := world
  later := world
  args := ⟨3, 0, 0, 0, 3, 0, 0⟩
  stale := ⟨⟨0, 0, 0, 0, 0, 0, 0⟩, false, false, false, false, 0⟩

end MattX.InterceptionHandlers
