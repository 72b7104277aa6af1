import MattX.RequestHandlers
import Mathlib.Algebra.Ring.Nat
import Mathlib.Data.List.TakeDrop

set_option autoImplicit false

/-!
# What the awakening copies into the caller's memory

A call names buffers and says how large they are. The home node runs it and
replies; the awakening branch of `mattx_rpc_worker` copies the results into the
buffers with lengths of its own. User structures are read again then: the
caller's threads are all stopped, so they are as they were. An address that is
not mapped ends a copy.
-/
namespace MattX.UserBuffers
open RequestHandlers

def einval : ℤ := -22

/-- Sizes that the awakening branches write by. -/
def sizeofStatx : ℕ := 256
def sizeofPollfd : ℕ := 8
def sizeofFdSet : ℕ := 128
def sizeofEpollEvent : ℕ := 12
def sizeofSockaddrStorage : ℕ := 128
def sizeofUserMsghdr : ℕ := 56
def sizeofNewUtsname : ℕ := 390
def sizeofRlimit : ℕ := 16
def sizeofStatfs : ℕ := 120
def sizeofStat : ℕ := 144

/-- `size`: the room the caller has there. `mapped`: the bytes it has mapped from there on. -/
structure Buffer where
  size : ℕ
  mapped : ℕ
  deriving DecidableEq

/-- An `int` as it lies in a register. -/
def argInt (x : ℕ) : ℤ := asInt (x % 4294967296)

/-- The calls that get data back, with the room declared for it; `mapped` as in a `Buffer`. Where
the code looks for NULL, NULL is none. The buffer of fcntl, ioctl and shmctl is as large as the
command has it: nothing if it takes none. `n`, `bufsiz`: the registers. -/
inductive Call where
  | statx (mapped : ℕ)
  | read (count mapped : ℕ)
  | pread64 (count mapped : ℕ)
  | recvfrom (size : ℕ) (trunc : Bool) (mapped : ℕ)
  | accept (upeer : Option (ℤ × ℕ))
  | poll (nfds : ℤ) (mapped : ℕ)
  | select (n : ℕ) (sets : List ℕ)
  | pselect6 (n : ℕ) (sets : List ℕ)
  | epollWait (maxevents : ℤ) (mapped : ℕ)
  | getsockname (addrlen : ℤ) (mapped : ℕ)
  | getpeername (addrlen : ℤ) (mapped : ℕ)
  | getsockopt (optlen : ℤ) (mapped : ℕ)
  | recvmsg (iovs : List Buffer) (namelen : ℤ) (name : Option ℕ) (trunc : Bool)
  | uname (mapped : ℕ)
  | prlimit64 (oldRlim : Option ℕ)
  | fcntl (arg : ℕ) (buf : Buffer)
  | ioctl (arg : ℕ) (buf : Buffer)
  | statfs (buf : Option ℕ)
  | fstatfs (buf : Option ℕ)
  | newfstatat (buf : Option ℕ)
  | readlink (bufsiz : ℕ) (buf : Option ℕ)
  | readlinkat (bufsiz : ℕ) (buf : Option ℕ)
  | getdents64 (count : ℕ) (dirp : Option ℕ)
  | pipe2 (mapped : ℕ)
  | shmctl (buf : Option Buffer)
  deriving DecidableEq

def Call.kind : Call → WormholeCalls.Kind
  | .statx _ => .statx
  | .read _ _ => .read
  | .pread64 _ _ => .pread64
  | .recvfrom _ _ _ => .recvfrom
  | .accept _ => .accept
  | .poll _ _ => .poll
  | .select _ _ => .select
  | .pselect6 _ _ => .pselect6
  | .epollWait _ _ => .epollWait
  | .getsockname _ _ => .getsockname
  | .getpeername _ _ => .getpeername
  | .getsockopt _ _ => .getsockopt
  | .recvmsg _ _ _ _ => .recvmsg
  | .uname _ => .uname
  | .prlimit64 _ => .prlimit64
  | .fcntl _ _ => .fcntl
  | .ioctl _ _ => .ioctl
  | .statfs _ => .statfs
  | .fstatfs _ => .fstatfs
  | .newfstatat _ => .newfstatat
  | .readlink _ _ => .readlink
  | .readlinkat _ _ => .readlinkat
  | .getdents64 _ _ => .getdents64
  | .pipe2 _ => .pipe2
  | .shmctl _ => .shmctl

/-! ### The home node -/

/-- What the call meets at the home node: `error` if it fails, else the bytes there are to read, the
number of ready events, the address, and what fcntl, ioctl and shmctl return. -/
structure Found where
  error : ℤ
  value : ℕ
  data : Bytes
  ready : ℕ
  addr : Bytes
  datagram : Bool

namespace Found

def result (f : Found) (ok : ℤ) : ℤ := if f.error < 0 then f.error else ok

/-- `kernel_recvmsg`. With `MSG_TRUNC` a datagram counts as long as it was sent. -/
def received (f : Found) (trunc : Bool) (size : ℕ) : ℕ :=
  if trunc && f.datagram then f.data.length else min size f.data.length

end Found

/-- The sum of the `iov_len`, in a `size_t`. -/
def totalLen (iovs : List Buffer) : ℕ := (iovs.map Buffer.size).sum % 18446744073709551616

/-- What the request asks for, at most. -/
def datalen (iovs : List Buffer) : ℕ := min (totalLen iovs) 4096

/-- The request of a call; `q` gives what does not matter here. poll is intercepted for 1 to 16
descriptors, and nothing is sent for a message without iovecs. -/
def request (c : Call) (q : Request) : Option Request :=
  match c with
  | .statx _ => some { q with kind := .statx }
  | .read _ _ => some { q with kind := .read }
  | .pread64 _ _ => some { q with kind := .pread64 }
  | .recvfrom _ _ _ => some { q with kind := .recv }
  | .accept _ => some { q with kind := .accept }
  | .poll nfds _ => if 0 < nfds ∧ nfds ≤ 16 then some { q with kind := .poll } else none
  | .select _ _ | .pselect6 _ _ => some { q with kind := .poll }
  | .epollWait _ _ => some { q with kind := .epollWait }
  | .getsockname _ _ => some { q with kind := .getsockname }
  | .getpeername _ _ => some { q with kind := .getpeername }
  | .getsockopt _ _ => some { q with kind := .getsockopt }
  | .recvmsg iovs _ _ _ => if iovs = [] then none else some { q with kind := .recvmsg }
  | .uname _ => some { q with kind := .uname }
  | .prlimit64 _ => some { q with kind := .prlimit64 }
  | .fcntl _ _ => some { q with kind := .fcntl }
  | .ioctl _ _ => some { q with kind := .ioctl }
  | .statfs _ => some { q with kind := .statfs }
  | .fstatfs _ => some { q with kind := .fstatfs }
  | .newfstatat _ => some { q with kind := .newfstatat }
  | .readlink _ _ => some { q with kind := .readlink }
  | .readlinkat _ _ => some { q with kind := .readlinkat }
  | .getdents64 _ _ => some { q with kind := .getdents64 }
  | .pipe2 _ => some { q with kind := .pipe2 }
  | .shmctl _ => some { q with kind := .shmctl }

/-- What the call returns at the home node, run with the sizes that the request and the kworker give
it. -/
def ret (c : Call) (f : Found) : ℤ :=
  match c with
  | .read count _ | .pread64 count _ => f.result (min (min count 4096) f.data.length : ℕ)
  | .recvfrom size trunc _ => f.result (f.received trunc (min size 4096))
  | .epollWait maxevents _ => if maxevents ≤ 0 then einval else f.result (min maxevents f.ready)
  | .getsockopt optlen _ => if optlen < 0 then einval else f.result 0
  | .uname _ => 0
  | .recvmsg iovs _ _ trunc => f.result (f.received trunc (datalen iovs))
  | .fcntl _ _ | .ioctl _ _ | .shmctl _ => f.result f.value
  | .readlink bufsiz _ | .readlinkat bufsiz _ =>
    if min bufsiz 4096 = 0 then einval else f.result (min (min bufsiz 4096) f.data.length : ℕ)
  | .getdents64 count _ => f.result (min (min count 32768) f.data.length : ℕ)
  | _ => f.result 0

def data (c : Call) (f : Found) : Bytes :=
  match c with
  | .getsockopt optlen _ => f.data.take optlen.toNat
  | .statfs _ | .fstatfs _ => f.data.takeD sizeofStatfs 0
  | .newfstatat _ => f.data.takeD sizeofStat 0
  | _ => f.data

/-- `mattx_sockname_cb` lets the call write a `sockaddr_storage`, whatever the caller's length is;
`mattx_recvmsg_kworker` asks for an address when the caller has a length. -/
def addr (c : Call) (f : Found) : Bytes :=
  match c with
  | .getsockname _ _ | .getpeername _ _ =>
    if f.addr.length ≤ sizeofSockaddrStorage then f.addr else []
  | .recvmsg _ namelen _ _ => if 0 < namelen then f.addr else []
  | _ => f.addr

def answer (c : Call) (f : Found) (n : Native) : Native :=
  { n with ret := ret c f, data := data c f, addr := addr c f }

/-- A reply that the home node sends to the call. -/
def Sends (c : Call) (f : Found) (b : WormholeCalls.Body) : Prop :=
  ∃ (q r : Request) (e : Env) (reply : Reply), request c q = some r ∧
    reply ∈ serve r { e with native := answer c f e.native } ∧ reply.content = .sys b

/-! ### The awakening branches -/

/-- A copy of `len` bytes to a buffer with room for `declared`. -/
structure Write where
  declared : ℕ
  mapped : ℕ
  len : ℕ
  deriving DecidableEq

def Write.Inside (w : Write) : Prop := min w.len w.mapped ≤ w.declared

instance (w : Write) : Decidable w.Inside := inferInstanceAs (Decidable (_ ≤ _))

/-- `(n + 7) / 8` in an `int`, then in a `size_t`, and at most the size of an `fd_set`. -/
def copySize (n : ℕ) : ℕ :=
  let bytes := (argInt (n + 7)).tdiv 8
  if bytes < 0 then sizeofFdSet else min bytes.toNat sizeofFdSet

/-- The data of a received message, iovec by iovec. -/
def scatter : List Buffer → ℕ → List Write
  | [], _ => []
  | v :: vs, left =>
    if left = 0 then []
    else ⟨v.size, v.mapped, min v.size left⟩ :: scatter vs (left - min v.size left)

/-- `socklen_t`, or the `int` of accept. -/
def lengthWrite : Write := ⟨4, 4, 4⟩

/-- The int that the caller stored is read back, and what is negative is not copied. The copy of
`copy_to_user` is taken to reach the caller. -/
def acceptWrites (upeer : Option (ℤ × ℕ)) (g : WormholeCalls.Record) : List Write :=
  match upeer with
  | some (room, mapped) =>
    if g.readBuf.isSome ∧ 0 < g.fsyncRes ∧ 0 ≤ min room g.fsyncRes then
      [⟨room.toNat, mapped, (min room g.fsyncRes).toNat⟩, lengthWrite]
    else []
  | none => []

def socknameWrites (addrlen : ℤ) (mapped : ℕ) (g : WormholeCalls.Record) : List Write :=
  match g.readBuf with
  | some (.bytes addr) =>
    if g.fsyncRes = 0 then [⟨addrlen.toNat, mapped, addr.length⟩, lengthWrite] else []
  | _ => []

/-- The header is written back when an address is. -/
def nameWrites (namelen : ℤ) (name : Option ℕ) (addrlen : ℕ) : List Write :=
  match name with
  | some mapped =>
    if 0 < addrlen then
      [⟨namelen.toNat, mapped, addrlen⟩, ⟨sizeofUserMsghdr, sizeofUserMsghdr, sizeofUserMsghdr⟩]
    else []
  | none => []

def recvmsgWrites (iovs : List Buffer) (namelen : ℤ) (name : Option ℕ) (g : WormholeCalls.Record) :
    List Write :=
  match g.readBuf with
  | some (.message _ addr) =>
    if 0 < g.fsyncRes then
      scatter iovs g.fsyncRes.toNat ++ nameWrites namelen name addr.length
    else []
  | _ => []

def fcntlWrites (arg : ℕ) (buf : Buffer) (g : WormholeCalls.Record) : List Write :=
  if 4096 < arg ∧ g.readBuf.isSome then [⟨buf.size, buf.mapped, 256⟩] else []

def metaWrites (declared : ℕ) (buf : Option ℕ) (g : WormholeCalls.Record) : List Write :=
  match buf with
  | some mapped =>
    if 0 ≤ g.fsyncRes ∧ 0 < g.lseekRes ∧ g.readBuf.isSome then
      [⟨declared, mapped, g.lseekRes.toNat⟩]
    else []
  | none => []

def selectWrites (n : ℕ) (sets : List ℕ) (g : WormholeCalls.Record) : List Write :=
  if g.readBuf.isSome then
    sets.map fun mapped => ⟨((argInt n).toNat + 7) / 8, mapped, copySize n⟩
  else []

def readWrites (count mapped : ℕ) (g : WormholeCalls.Record) : List Write :=
  if 0 < g.readBytes ∧ g.readBuf.isSome then [⟨count, mapped, g.readBytes.toNat⟩] else []

/-- A struct that comes with a result of 0. -/
def structWrites (declared mapped len : ℕ) (g : WormholeCalls.Record) : List Write :=
  if g.fsyncRes = 0 ∧ g.readBuf.isSome then [⟨declared, mapped, len⟩] else []

/-- What the branch of the call copies, the reply being in the record. `free`: two descriptors are
free, for a pipe, or one, for a connection. -/
def writes (c : Call) (free : Bool) (g : WormholeCalls.Record) : List Write :=
  match c with
  | .statx mapped =>
    if g.fsyncRes = 0 ∧ g.statxBuf.isSome then [⟨sizeofStatx, mapped, sizeofStatx⟩] else []
  | .read count mapped | .pread64 count mapped => readWrites count mapped g
  | .recvfrom size _ mapped => readWrites size mapped g
  | .accept upeer => if 0 ≤ g.remoteFd ∧ free then acceptWrites upeer g else []
  | .poll nfds mapped =>
    if g.readBuf.isSome then
      [⟨sizeofPollfd * nfds.toNat, mapped, sizeofPollfd * nfds.toNat⟩]
    else []
  | .select n sets | .pselect6 n sets => selectWrites n sets g
  | .epollWait maxevents mapped =>
    if 0 < g.fsyncRes ∧ g.readBuf.isSome then
      [⟨sizeofEpollEvent * maxevents.toNat, mapped, sizeofEpollEvent * g.fsyncRes.toNat⟩]
    else []
  | .getsockname addrlen mapped | .getpeername addrlen mapped => socknameWrites addrlen mapped g
  | .getsockopt optlen mapped =>
    if g.fsyncRes = 0 then
      (if g.readBuf.isSome ∧ 0 < g.lseekRes then [⟨optlen.toNat, mapped, g.lseekRes.toNat⟩] else [])
        ++ [lengthWrite]
    else []
  | .recvmsg iovs namelen name _ => recvmsgWrites iovs namelen name g
  | .uname mapped => structWrites sizeofNewUtsname mapped sizeofNewUtsname g
  | .prlimit64 oldRlim =>
    match oldRlim with
    | some mapped => structWrites sizeofRlimit mapped sizeofRlimit g
    | none => []
  | .fcntl arg buf | .ioctl arg buf => fcntlWrites arg buf g
  | .statfs buf | .fstatfs buf => metaWrites sizeofStatfs buf g
  | .newfstatat buf => metaWrites sizeofStat buf g
  | .readlink bufsiz buf | .readlinkat bufsiz buf => metaWrites (argInt bufsiz).toNat buf g
  | .getdents64 count dirp => metaWrites count dirp g
  | .pipe2 mapped => if free then structWrites 8 mapped 8 g else []
  | .shmctl buf =>
    match buf with
    | some b => structWrites b.size b.mapped 128 g
    | none => []

/-- Whatever the home node replies, and whatever the record held, no copy leaves its buffer. -/
def Kept (c : Call) (f : Found) : Prop :=
  ∀ b, Sends c f b → ∀ (free alloc : Bool) (g : WormholeCalls.Record),
    ∀ w ∈ writes c free (WormholeCalls.replyHandler c.kind b alloc g), w.Inside

end MattX.UserBuffers
