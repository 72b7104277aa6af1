import MattX.DsmTypes
import Mathlib.Data.Int.Notation
import Mathlib.Tactic.Common

set_option autoImplicit false

/-!
# Calls of a guest that its home node carries out

A guest has one record for all its calls. A reply handler writes some of its
fields and sets `rpc_done`; the awakening branch of the call reads some of
them and puts a value in the return register. Which handler and which branch
belong to which kind of call is read off the registration table and off
`mattx_rpc_worker`.
-/
namespace MattX.WormholeCalls

def eintr : ℤ := -4
def ebadf : ℤ := -9
def enomem : ℤ := -12
def efault : ℤ := -14
def enfile : ℤ := -23
def emfile : ℤ := -24

/-- The calls `mattx_rpc_worker` serves, then the file operations of a proxy file. -/
inductive Kind where
  | open | dup | socket | epollCreate | accept
  | unlink | connect | bind | listen | sendto
  | lseek | fsync | statx
  | read | recvfrom | write | pread64
  | poll | select | pselect6
  | epollCtl | epollWait
  | getsockname | getpeername | setsockopt | getsockopt | sendmsg | recvmsg
  | uname | prlimit64 | prctl | fcntl | ioctl
  | statfs | fstatfs | newfstatat | faccessat2 | readlink | readlinkat | getdents64
  | pipe2 | shmget | shmctl | shmdt | shmat
  | fakeGetattr | fakeLlseek | fakeFsync | fakeRead
  deriving DecidableEq, Repr

/-- A call with what its awakening branch looks at: whether the user pointer it copies to is set,
and for a write how many bytes were asked for. -/
structure Call where
  kind : Kind
  hasPtr : Bool
  len : ℕ
  deriving DecidableEq

/-- One poll descriptor: fd, events, revents. -/
abbrev PollFd := ℕ × ℕ × ℕ

/-- The reply structs, without `orig_pid`. `gap` stands for the four bytes between `orig_pid` and
`bytes_sent`, which the home node never sets. -/
inductive Body where
  | fd (remoteFd error : ℤ)
  | int (error : ℤ)
  | sent (gap bytesSent error : ℤ)
  | data (bytes error : ℤ) (data : Bytes)
  | lseek (resultOffset error : ℤ)
  | statx (error : ℤ) (buf : Bytes)
  | accept (remoteFd error : ℤ) (addr : Bytes)
  | poll (error retval : ℤ) (fds : List PollFd)
  | epollWait (retval : ℤ) (events : Bytes)
  | sockname (error : ℤ) (addr : Bytes)
  | sockopt (error : ℤ) (optval : Bytes)
  | message (bytesRecv error : ℤ) (addr data : Bytes)
  | struct (error : ℤ) (buf : Bytes)
  | counted (error : ℤ) (data : Bytes)
  | pipe2 (error fd0 fd1 : ℤ)
  | shmget (shmid error : ℤ)
  | shmat (retAddr size error : ℤ)
  deriving DecidableEq

/-- What a handler leaves in `rpc_read_buf`. -/
inductive Payload where
  | bytes (b : Bytes)
  | pollReply (fds : List PollFd)
  | message (data addr : Bytes)
  | fds (fd0 fd1 : ℤ)
  | address (a : ℤ)
  deriving DecidableEq

/-- The `rpc_*` fields of `struct mattx_guest_info`. -/
structure Record where
  remoteFd : ℤ
  done : Bool
  readBuf : Option Payload
  readBytes : ℤ
  lseekRes : ℤ
  statxBuf : Option Bytes
  fsyncRes : ℤ
  deriving DecidableEq

/-- What the surrogate and its node bring to a call: the value its own system call left in the
register, the free descriptors, whether allocations, proxy files and copies to user memory succeed,
and where `vm_mmap` maps a segment. -/
structure Env where
  nativeAx : ℤ
  freeFds : List ℕ
  handlerAlloc : Bool
  alloc : Bool
  proxy : Bool
  copied : Bool
  hollow : ℤ
  deriving DecidableEq

/-- The return register, the proxies installed (local and remote descriptor), and what was copied
to user memory. -/
structure Outcome where
  ax : ℤ
  installed : List (ℕ × ℤ) := []
  wrote : List Payload := []
  deriving DecidableEq

/-! ### Reply handlers -/

def handleSysOpenReply (b : Body) (_ : Bool) (g : Record) : Record :=
  match b with
  | .fd remoteFd _ => { g with remoteFd, done := true }
  | _ => g

def handleSysDupReply : Body → Bool → Record → Record := handleSysOpenReply

def handleSysSocketReply : Body → Bool → Record → Record := handleSysOpenReply

def handleSysEpollCreateReply (b : Body) (_ : Bool) (g : Record) : Record :=
  match b with
  | .fd remoteFd error => { g with remoteFd, fsyncRes := error, done := true }
  | _ => g

/-- Reads every payload as a `mattx_sys_connect_reply`. -/
def handleSysGenericIntReply (b : Body) (_ : Bool) (g : Record) : Record :=
  match b with
  | .int error => { g with fsyncRes := error, done := true }
  | .sent gap _ _ => { g with fsyncRes := gap, done := true }
  | _ => g

def handleSysFsyncReply : Body → Bool → Record → Record := handleSysGenericIntReply

def handleSysConnectReply : Body → Bool → Record → Record := handleSysGenericIntReply

def handleSysUnlinkReply : Body → Bool → Record → Record := handleSysGenericIntReply

def handleSysShmdtReply : Body → Bool → Record → Record := handleSysGenericIntReply

def handleSysReadReply (b : Body) (alloc : Bool) (g : Record) : Record :=
  match b with
  | .data bytes _ data =>
    if 0 < bytes then
      if alloc then { g with readBytes := bytes, readBuf := some (.bytes data), done := true }
      else { g with readBytes := enomem, readBuf := none, done := true }
    else { g with readBytes := bytes, readBuf := none, done := true }
  | _ => g

def handleSysRecvReply : Body → Bool → Record → Record := handleSysReadReply

def handleSysLseekReply (b : Body) (_ : Bool) (g : Record) : Record :=
  match b with
  | .lseek resultOffset _ => { g with lseekRes := resultOffset, done := true }
  | _ => g

/-- The error of the reply is not stored. -/
def handleSysStatxReply (b : Body) (alloc : Bool) (g : Record) : Record :=
  match b with
  | .statx error buf =>
    { g with statxBuf := if error = 0 ∧ alloc then some buf else none, done := true }
  | _ => g

/-- An error leaves every result field as it was. -/
def handleSysAcceptReply (b : Body) (alloc : Bool) (g : Record) : Record :=
  match b with
  | .accept remoteFd error addr =>
    if error = 0 then
      if addr ≠ [] then
        if alloc then
          { g with remoteFd, readBuf := some (.bytes addr), fsyncRes := addr.length, done := true }
        else { g with remoteFd, readBuf := none, fsyncRes := 0, done := true }
      else { g with remoteFd, fsyncRes := 0, done := true }
    else { g with done := true }
  | _ => g

def handleSysPollReply (b : Body) (alloc : Bool) (g : Record) : Record :=
  match b with
  | .poll _ retval fds =>
    { g with fsyncRes := retval, readBuf := if alloc then some (.pollReply fds) else none, done := true }
  | _ => g

def handleSysEpollWaitReply (b : Body) (alloc : Bool) (g : Record) : Record :=
  match b with
  | .epollWait retval events =>
    if 0 < retval then
      { g with
        fsyncRes := retval, readBuf := if alloc then some (.bytes events) else none, done := true }
    else { g with fsyncRes := retval, done := true }
  | _ => g

def handleSysSocknameReply (b : Body) (alloc : Bool) (g : Record) : Record :=
  match b with
  | .sockname error addr =>
    if error = 0 then
      { g with fsyncRes := error, readBuf := if alloc then some (.bytes addr) else none, done := true }
    else { g with fsyncRes := error, done := true }
  | _ => g

def handleSysGetsockoptReply (b : Body) (alloc : Bool) (g : Record) : Record :=
  match b with
  | .sockopt error optval =>
    let g := { g with fsyncRes := error, lseekRes := optval.length, done := true }
    if error = 0 ∧ optval ≠ [] then
      { g with readBuf := if alloc then some (.bytes optval) else none }
    else g
  | _ => g

def handleSysSendmsgReply (b : Body) (_ : Bool) (g : Record) : Record :=
  match b with
  | .sent _ bytesSent error =>
    { g with fsyncRes := if 0 ≤ bytesSent then bytesSent else error, done := true }
  | _ => g

def handleSysRecvmsgReply (b : Body) (alloc : Bool) (g : Record) : Record :=
  match b with
  | .message bytesRecv error addr data =>
    let retval := if 0 ≤ bytesRecv then bytesRecv else error
    if 0 < retval then
      { g with
        fsyncRes := retval, readBuf := if alloc then some (.message data addr) else none, done := true }
    else { g with fsyncRes := retval, readBuf := none, done := true }
  | _ => g

def handleSysUnameReply (b : Body) (alloc : Bool) (g : Record) : Record :=
  match b with
  | .struct error buf =>
    if error = 0 then
      { g with fsyncRes := error, readBuf := if alloc then some (.bytes buf) else none, done := true }
    else { g with fsyncRes := error, done := true }
  | _ => g

def handleSysPrlimit64Reply : Body → Bool → Record → Record := handleSysUnameReply

def handleSysShmctlReply : Body → Bool → Record → Record := handleSysUnameReply

/-- For fcntl and ioctl: the data comes along whatever the result is. -/
def handleSysFioReply (b : Body) (alloc : Bool) (g : Record) : Record :=
  match b with
  | .struct error buf =>
    { g with fsyncRes := error, readBuf := if alloc then some (.bytes buf) else none, done := true }
  | _ => g

/-- Like `handleSysUnameReply`, with the size of the struct in `rpc_lseek_res`. -/
def handleSysStatfsReply (b : Body) (alloc : Bool) (g : Record) : Record :=
  match b with
  | .struct _ buf => { handleSysUnameReply b alloc g with lseekRes := buf.length }
  | _ => g

def handleSysFstatfsReply : Body → Bool → Record → Record := handleSysStatfsReply

def handleSysNewfstatatReply : Body → Bool → Record → Record := handleSysStatfsReply

def handleSysReadlinkReply (b : Body) (alloc : Bool) (g : Record) : Record :=
  match b with
  | .counted error data =>
    if 0 < error then
      { g with
        fsyncRes := error, lseekRes := error
        readBuf := if alloc then some (.bytes data) else none, done := true }
    else { g with fsyncRes := error, lseekRes := 0, done := true }
  | _ => g

def handleSysReadlinkatReply : Body → Bool → Record → Record := handleSysReadlinkReply

def handleSysGetdents64Reply : Body → Bool → Record → Record := handleSysReadlinkReply

def handleSysPipe2Reply (b : Body) (alloc : Bool) (g : Record) : Record :=
  match b with
  | .pipe2 error fd0 fd1 =>
    if error = 0 then
      { g with fsyncRes := error, readBuf := if alloc then some (.fds fd0 fd1) else none, done := true }
    else { g with fsyncRes := error, done := true }
  | _ => g

def handleSysShmgetReply (b : Body) (_ : Bool) (g : Record) : Record :=
  match b with
  | .shmget shmid error => { g with fsyncRes := if error < 0 then error else shmid, done := true }
  | _ => g

def handleSysShmatReply (b : Body) (alloc : Bool) (g : Record) : Record :=
  match b with
  | .shmat retAddr size error =>
    { g with
      fsyncRes := error, lseekRes := size
      readBuf := if alloc then some (.address retAddr) else none, done := true }
  | _ => g

/-- The handler that the reply to each kind of request is registered with. No reply answers a
write. -/
def replyHandler : Kind → Body → Bool → Record → Record
  | .open => handleSysOpenReply
  | .dup => handleSysDupReply
  | .socket => handleSysSocketReply
  | .epollCreate => handleSysEpollCreateReply
  | .accept => handleSysAcceptReply
  | .unlink => handleSysUnlinkReply
  | .connect => handleSysConnectReply
  | .bind | .listen | .sendto | .epollCtl | .setsockopt | .prctl | .faccessat2 =>
    handleSysGenericIntReply
  | .lseek | .fakeLlseek => handleSysLseekReply
  | .fsync | .fakeFsync => handleSysFsyncReply
  | .statx | .fakeGetattr => handleSysStatxReply
  | .read | .pread64 | .fakeRead => handleSysReadReply
  | .recvfrom => handleSysRecvReply
  | .write => fun _ _ g => g
  | .poll | .select | .pselect6 => handleSysPollReply
  | .epollWait => handleSysEpollWaitReply
  | .getsockname | .getpeername => handleSysSocknameReply
  | .getsockopt => handleSysGetsockoptReply
  | .sendmsg => handleSysSendmsgReply
  | .recvmsg => handleSysRecvmsgReply
  | .uname => handleSysUnameReply
  | .prlimit64 => handleSysPrlimit64Reply
  | .fcntl | .ioctl => handleSysFioReply
  | .statfs => handleSysStatfsReply
  | .fstatfs => handleSysFstatfsReply
  | .newfstatat => handleSysNewfstatatReply
  | .readlink => handleSysReadlinkReply
  | .readlinkat => handleSysReadlinkatReply
  | .getdents64 => handleSysGetdents64Reply
  | .pipe2 => handleSysPipe2Reply
  | .shmget => handleSysShmgetReply
  | .shmctl => handleSysShmctlReply
  | .shmdt => handleSysShmdtReply
  | .shmat => handleSysShmatReply

/-! ### Awakening branches

`remoteFd` is the worker's own copy of `rpc_remote_fd`, made when it saw `rpc_done`. -/

/-- A branch that takes the buffer out of the record. -/
def drained (g : Record) : Record := { g with readBuf := none }

def lseekAwakening (_ : Call) (_ : ℤ) (_ : Env) (g : Record) : Outcome × Record :=
  ({ ax := if g.done then g.lseekRes else eintr }, g)

/-- fsync, epoll_ctl, setsockopt, sendmsg, prctl, shmget and, but for the unmapping, shmdt. -/
def fsyncAwakening (_ : Call) (_ : ℤ) (_ : Env) (g : Record) : Outcome × Record :=
  ({ ax := if g.done then g.fsyncRes else eintr }, g)

def statxAwakening (_ : Call) (_ : ℤ) (env : Env) (g : Record) : Outcome × Record :=
  let g' := { g with statxBuf := none }
  if g.done then
    match g.statxBuf with
    | some buf =>
      if g.fsyncRes = 0 then
        if env.copied then ({ ax := 0, wrote := [.bytes buf] }, g') else ({ ax := efault }, g')
      else ({ ax := g.fsyncRes }, g')
    | none => ({ ax := g.fsyncRes }, g')
  else ({ ax := eintr }, g')

/-- unlink, connect, bind, listen and sendto. -/
def genericAwakening (_ : Call) (_ : ℤ) (_ : Env) (g : Record) : Outcome × Record :=
  ({ ax := g.fsyncRes }, g)

/-- The bytes of a read, copied out when there are some. -/
def copyOut (n : ℤ) (buf : Option Payload) (env : Env) : Outcome :=
  match buf with
  | some data =>
    if 0 < n then if env.copied then { ax := n, wrote := [data] } else { ax := efault }
    else { ax := n }
  | none => { ax := n }

def readAwakening (_ : Call) (_ : ℤ) (env : Env) (g : Record) : Outcome × Record :=
  (copyOut g.readBytes g.readBuf env, drained g)

def recvfromAwakening : Call → ℤ → Env → Record → Outcome × Record := readAwakening

def writeAwakening : Call → ℤ → Env → Record → Outcome × Record := genericAwakening

/-- A proxy for the remote descriptor in the first free local slot. -/
def mapProxy (remoteFd : ℤ) (env : Env) : Outcome :=
  if env.alloc then
    if env.proxy then
      match env.freeFds with
      | fd :: _ => { ax := fd, installed := [(fd, remoteFd)] }
      | [] => { ax := emfile }
    else { ax := enfile }
  else { ax := env.nativeAx }

def acceptAwakening (c : Call) (remoteFd : ℤ) (env : Env) (g : Record) : Outcome × Record :=
  if 0 ≤ remoteFd then
    let o := mapProxy remoteFd env
    if o.installed ≠ [] ∧ c.hasPtr then
      match g.readBuf with
      | some addr => ({ o with wrote := if 0 < g.fsyncRes then [addr] else [] }, drained g)
      | none => (o, g)
    else (o, g)
  else ({ ax := remoteFd }, g)

def pollAwakening (_ : Call) (_ : ℤ) (env : Env) (g : Record) : Outcome × Record :=
  match g.readBuf with
  | some reply =>
    (if env.copied then { ax := g.fsyncRes, wrote := [reply] } else { ax := efault }, drained g)
  | none => ({ ax := ebadf }, g)

/-- select and pselect6; what cannot be copied is only logged. -/
def selectAwakening (_ : Call) (_ : ℤ) (env : Env) (g : Record) : Outcome × Record :=
  match g.readBuf with
  | some reply => ({ ax := g.fsyncRes, wrote := if env.copied then [reply] else [] }, drained g)
  | none => ({ ax := ebadf }, g)

def epollCreateAwakening (_ : Call) (remoteFd : ℤ) (env : Env) (g : Record) : Outcome × Record :=
  (if 0 ≤ remoteFd then mapProxy remoteFd env else { ax := remoteFd }, g)

def epollWaitAwakening (_ : Call) (_ : ℤ) (env : Env) (g : Record) : Outcome × Record :=
  (if g.done then copyOut g.fsyncRes g.readBuf env else { ax := eintr }, drained g)

/-- What goes with a result of 0 is copied out; a copy that fails is not noticed. -/
def copyOnZero (wanted : Bool) (env : Env) (g : Record) : Outcome :=
  if g.done then
    match g.readBuf with
    | some data =>
      { ax := g.fsyncRes, wrote := if g.fsyncRes = 0 ∧ wanted ∧ env.copied then [data] else [] }
    | none => { ax := g.fsyncRes }
  else { ax := eintr }

def socknameAwakening (_ : Call) (_ : ℤ) (env : Env) (g : Record) : Outcome × Record :=
  (copyOnZero true env g, drained g)

def unameAwakening (_ : Call) (_ : ℤ) (env : Env) (g : Record) : Outcome × Record :=
  (copyOnZero true env g, drained g)

def prlimit64Awakening (c : Call) (_ : ℤ) (env : Env) (g : Record) : Outcome × Record :=
  (copyOnZero c.hasPtr env g, drained g)

def shmctlAwakening (c : Call) (_ : ℤ) (env : Env) (g : Record) : Outcome × Record :=
  (copyOnZero c.hasPtr env g, drained g)

def getsockoptAwakening (_ : Call) (_ : ℤ) (env : Env) (g : Record) : Outcome × Record :=
  (copyOnZero (decide (0 < g.lseekRes)) env g, drained g)

def recvmsgAwakening (_ : Call) (_ : ℤ) (env : Env) (g : Record) : Outcome × Record :=
  let o : Outcome :=
    if g.done then
      match g.readBuf with
      | some data =>
        { ax := g.fsyncRes, wrote := if 0 < g.fsyncRes ∧ env.copied then [data] else [] }
      | none => { ax := g.fsyncRes }
    else { ax := eintr }
  (o, drained g)

/-- fcntl and ioctl: the data goes back whenever the call has a pointer. -/
def fcntlAwakening (c : Call) (_ : ℤ) (env : Env) (g : Record) : Outcome × Record :=
  let o : Outcome :=
    if g.done then
      match g.readBuf with
      | some data => { ax := g.fsyncRes, wrote := if c.hasPtr ∧ env.copied then [data] else [] }
      | none => { ax := g.fsyncRes }
    else { ax := eintr }
  (o, drained g)

def pread64Awakening (_ : Call) (_ : ℤ) (env : Env) (g : Record) : Outcome × Record :=
  (if g.done then copyOut g.readBytes g.readBuf env else { ax := -1 }, drained g)

/-- statfs, fstatfs, newfstatat, readlink and readlinkat; getdents64 is the same. -/
def metaAwakening (c : Call) (_ : ℤ) (env : Env) (g : Record) : Outcome × Record :=
  let o : Outcome :=
    if g.done then
      match g.readBuf with
      | some data =>
        if 0 ≤ g.fsyncRes ∧ 0 < g.lseekRes ∧ c.hasPtr then
          if env.copied then { ax := g.fsyncRes, wrote := [data] } else { ax := efault }
        else { ax := g.fsyncRes }
      | none => { ax := g.fsyncRes }
    else { ax := eintr }
  (o, drained g)

def getdents64Awakening : Call → ℤ → Env → Record → Outcome × Record := metaAwakening

/-- The same branch, but the hook sets no buffer pointer. -/
def faccessat2Awakening (c : Call) : ℤ → Env → Record → Outcome × Record :=
  metaAwakening { c with hasPtr := false }

/-- The two ends of a pipe, at the two first free slots. A buffer of another call is not laid out
here; its first eight bytes stand as zeros. -/
def pipe2Awakening (_ : Call) (_ : ℤ) (env : Env) (g : Record) : Outcome × Record :=
  let ends : Payload → ℤ × ℤ
    | .fds fd0 fd1 => (fd0, fd1)
    | _ => (0, 0)
  let o : Outcome :=
    if g.done then
      match g.readBuf with
      | some data =>
        if g.fsyncRes = 0 then
          match env.freeFds with
          | l0 :: l1 :: _ =>
            if env.alloc ∧ env.proxy then
              { ax := if env.copied then 0 else efault
                installed := [(l0, (ends data).1), (l1, (ends data).2)]
                wrote := if env.copied then [.fds l0 l1] else [] }
            else { ax := emfile }
          | [l0] =>
            if env.alloc ∧ env.proxy then { ax := emfile, installed := [(l0, (ends data).1)] }
            else { ax := emfile }
          | [] => { ax := emfile }
        else { ax := g.fsyncRes }
      | none => { ax := g.fsyncRes }
    else { ax := eintr }
  (o, drained g)

/-- The segment is mapped where `vm_mmap` puts it, and that address or its error is returned. -/
def shmatAwakening (_ : Call) (_ : ℤ) (env : Env) (g : Record) : Outcome × Record :=
  let o : Outcome :=
    if g.done then
      match g.readBuf with
      | some _ => { ax := if g.fsyncRes = 0 ∧ 0 < g.lseekRes then env.hollow else g.fsyncRes }
      | none => { ax := g.fsyncRes }
    else { ax := eintr }
  (o, drained g)

/-- open, socket and dup. A remote descriptor goes where the native call put one, else to the first
free slot; without a remote descriptor the register keeps what the native call left. -/
def openAwakening (_ : Call) (remoteFd : ℤ) (env : Env) (g : Record) : Outcome × Record :=
  let o : Outcome :=
    if 0 ≤ remoteFd then
      let localFd := if env.nativeAx < 0 then env.freeFds.head? else some env.nativeAx.toNat
      match localFd with
      | some fd =>
        if env.alloc ∧ env.proxy then { ax := fd, installed := [(fd, remoteFd)] }
        else { ax := env.nativeAx }
      | none => { ax := env.nativeAx }
    else { ax := env.nativeAx }
  (o, g)

/-- `mattx_fake_getattr`: a missing buffer is `-EBADF`, whatever the error was. -/
def fakeGetattr (_ : Call) (_ : ℤ) (_ : Env) (g : Record) : Outcome × Record :=
  let o : Outcome :=
    match g.statxBuf with
    | some buf => { ax := 0, wrote := [.bytes buf] }
    | none => { ax := ebadf }
  (o, { g with statxBuf := none })

def fakeLlseek (_ : Call) (_ : ℤ) (_ : Env) (g : Record) : Outcome × Record :=
  ({ ax := g.lseekRes }, g)

def fakeFsync (_ : Call) (_ : ℤ) (_ : Env) (g : Record) : Outcome × Record :=
  ({ ax := g.fsyncRes }, g)

def fakeRead : Call → ℤ → Env → Record → Outcome × Record := readAwakening

/-- The branch of `mattx_rpc_worker`, or the last part of the file operation, for each kind. -/
def awakening : Kind → Call → ℤ → Env → Record → Outcome × Record
  | .open | .dup | .socket => openAwakening
  | .epollCreate => epollCreateAwakening
  | .accept => acceptAwakening
  | .unlink | .connect | .bind | .listen | .sendto => genericAwakening
  | .lseek => lseekAwakening
  | .fsync | .epollCtl | .setsockopt | .sendmsg | .prctl | .shmget | .shmdt => fsyncAwakening
  | .statx => statxAwakening
  | .read => readAwakening
  | .recvfrom => recvfromAwakening
  | .write => writeAwakening
  | .pread64 => pread64Awakening
  | .poll => pollAwakening
  | .select | .pselect6 => selectAwakening
  | .epollWait => epollWaitAwakening
  | .getsockname | .getpeername => socknameAwakening
  | .getsockopt => getsockoptAwakening
  | .recvmsg => recvmsgAwakening
  | .uname => unameAwakening
  | .prlimit64 => prlimit64Awakening
  | .fcntl | .ioctl => fcntlAwakening
  | .statfs | .fstatfs | .newfstatat | .readlink | .readlinkat => metaAwakening
  | .faccessat2 => faccessat2Awakening
  | .getdents64 => getdents64Awakening
  | .pipe2 => pipe2Awakening
  | .shmctl => shmctlAwakening
  | .shmat => shmatAwakening
  | .fakeGetattr => fakeGetattr
  | .fakeLlseek => fakeLlseek
  | .fakeFsync => fakeFsync
  | .fakeRead => fakeRead

/-- What a hook, or the first part of a file operation, does to the record. -/
def beginCall (c : Call) (g : Record) : Record :=
  match c.kind with
  | .fakeGetattr => { g with done := false, statxBuf := none }
  | .fakeLlseek => { g with done := false, lseekRes := -1 }
  | .fakeFsync => { g with done := false, fsyncRes := -1 }
  | .fakeRead => { g with done := false, readBuf := none, readBytes := 0 }
  | _ => { g with done := false }

/-- A write is not answered: the worker stores the result itself once it has sent the data. -/
def writeSent (c : Call) (g : Record) : Record :=
  { g with fsyncRes := (min c.len 4096 : ℕ), done := true }

end MattX.WormholeCalls
