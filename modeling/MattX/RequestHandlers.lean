import MattX.VfsRpc
import MattX.WormholeReplies

set_option autoImplicit false

/-!
# How requests are answered

The handlers of the requests that have a reply type, with the kworkers and task
works they schedule. A run is given what it finds at each look at its node and
what the native calls give it. Allocations succeed and the requester is linked.
-/
namespace MattX.RequestHandlers
open WormholeCalls WormholeReplies

abbrev maxFds : ℕ := 256

def enoent : ℤ := -2
def enosys : ℤ := -38
def enotsock : ℤ := -88
def einprogress : ℤ := -115

inductive Kind where
  | open | read | lseek | statx | dup | fsync | socket | connect | bind | listen | send | recv
  | accept | poll | unlink | epollCreate | epollCtl | epollWait | getsockname | getpeername
  | setsockopt | getsockopt | sendmsg | recvmsg | uname | prlimit64 | prctl | fcntl | ioctl
  | pread64 | statfs | fstatfs | newfstatat | faccessat2 | readlink | readlinkat | getdents64
  | pipe2 | shmget | shmat | shmdt | shmctl
  | vfsGetattr | vfsReaddir | vfsOpen | vfsRead | vfsWrite | vfsLseek | vfsFsync
  | dsmPageFault | dsmWriteAcquire | dsmInvalidate | dsmFlush
  deriving DecidableEq, Repr

/-- `fd`, `newFd` and the descriptors of `fds` are the 32 bits sent. -/
structure Request where
  kind : Kind
  sender : ℕ
  origPid : ℕ
  reqId : ℕ
  fd : ℕ
  newFd : ℕ
  timeout : ℤ
  fds : List PollFd
  deriving DecidableEq

/-- Who waits for the reply: a guest, a slot of the pending table, or for an unlink either. -/
inductive Identity where
  | origPid (p : ℕ)
  | reqId (n : ℕ)
  | both (n p : ℕ)
  deriving DecidableEq

inductive Content where
  | sys (b : WormholeCalls.Body)
  | rpc (b : VfsRpc.Body)
  deriving DecidableEq

structure Reply where
  kind : Kind
  dst : ℕ
  identity : Identity
  content : Content
  deriving DecidableEq

/-! ### The node -/

structure FdTable where
  maxFds : ℕ
  isOpen : ℕ → Bool

/-- An exiting task lets go of its parts one by one and takes no task work at the end. -/
structure Task where
  mm : Bool
  files : Option FdTable
  nsproxy : Bool
  takesWork : Bool

structure ExportInfo where
  origPid : ℕ
  remoteFiles : ℤ → Bool
  abortRpc : Bool

/-- `task` is `pid_task(find_vpid(pid))`; `mfsOpenFiles` and `remoteFiles` say where a pointer is
set. -/
structure Home where
  task : ℕ → Option Task
  exports : List ExportInfo
  mfsOpenFiles : ℤ → Bool

/-- `gap`: the bytes a reply leaves unset. `socket`: the file is one. `error`: what
`sock_alloc_file` returned, or the socket's own error. `copied`: user memory could be written. -/
structure Native where
  ret : ℤ
  error : ℤ
  socket : Bool
  nonblock : Bool
  copied : Bool
  gap : ℤ
  data : Bytes
  addr : Bytes
  size : ℤ
  fds : ℤ × ℤ
  stat : VfsRpc.Stat
  entries : List VfsRpc.Dirent

/-- The owner's flush that a page fault may have to wait for; `mm`: the deputy still has its memory
then. -/
inductive Flush where
  | unneeded
  | waiting
  | answered (error : ℤ) (mm : Bool)

/-- `home i` is the node at the `i`-th look, the handler's own being the first. `looks`: how often a
waiting loop has come round so far; `mask`, `expired`: what it saw. `resolved`: the native system
call was found when the module was loaded. `ctrlFree`: nobody holds the send mutex. -/
structure Env where
  home : ℕ → Home
  native : Native
  resolved : Bool
  taskWorkAdd : Bool
  looks : ℕ
  mask : ℕ → ℕ → ℕ
  ready : ℕ → Bool
  expired : ℕ → Bool
  ctrlFree : Bool
  mapped : Bool
  flush : Flush

/-- 32 bits as an `int`. -/
def asInt (n : ℕ) : ℤ := if n < 2147483648 then n else n - 4294967296

/-- An `int` as 32 bits. -/
def asU32 (n : ℤ) : ℕ := (n % 4294967296).toNat

def errorOf (ret : ℤ) : ℤ := if ret < 0 then ret else 0

namespace Home

/-- The first entry of the pid. -/
def exportOf (h : Home) (pid : ℕ) : Option ExportInfo := h.exports.find? fun x => x.origPid == pid

def files (h : Home) (pid : ℕ) : Option FdTable := (h.task pid).bind Task.files

def nativeFile (h : Home) (pid fd : ℕ) : Bool :=
  (h.files pid).any fun t => decide (fd < t.maxFds) && t.isOpen fd

def exportedFile (x : ExportInfo) (slot : ℤ) : Bool := decide (slot < maxFds) && x.remoteFiles slot

/-- `mattx_get_remote_file` -/
def getRemoteFile (h : Home) (pid : ℕ) (fd : ℤ) : Bool :=
  if 1000 ≤ fd then (h.exportOf pid).any fun x => exportedFile x (fd - 1000)
  else if 0 ≤ fd then h.nativeFile pid fd.toNat
  else false

def mfsFile (h : Home) (fd : ℤ) : Bool := decide (fd < maxFds) && h.mfsOpenFiles fd

def abortRpc (h : Home) (pid : ℕ) : Bool := (h.exportOf pid).any ExportInfo.abortRpc

end Home

/-- The native injector takes the first free descriptor from 3 on. -/
def FdTable.firstFree (t : FdTable) : Option ℕ :=
  (List.range' 3 (t.maxFds - 3)).find? fun fd => !t.isOpen fd

def inject (files : Option FdTable) : Option ℕ := files.bind FdTable.firstFree

def sysReply (r : Request) (kind : Kind) (b : WormholeCalls.Body) : List Reply :=
  [⟨kind, r.sender, .origPid r.origPid, .sys b⟩]

def rpcReply (r : Request) (kind : Kind) (b : VfsRpc.Body) : List Reply :=
  [⟨kind, r.sender, .reqId r.reqId, .rpc b⟩]

/-! ### Kworkers on a file of the deputy -/

def onFile (r : Request) (e : Env) : ℤ :=
  if (e.home 1).getRemoteFile r.origPid (asInt r.fd) then e.native.ret else ebadf

def onSocket (r : Request) (e : Env) : ℤ :=
  if (e.home 1).getRemoteFile r.origPid (asInt r.fd) then
    if e.native.socket then e.native.ret else enotsock
  else ebadf

def lseekKworker (r : Request) (e : Env) : List Reply :=
  sysReply r .lseek (.lseek (onFile r e) (errorOf (onFile r e)))

def fsyncKworker (r : Request) (e : Env) : List Reply := sysReply r .fsync (.int (onFile r e))

def statxKworker (r : Request) (e : Env) : List Reply :=
  sysReply r .statx (.statx (onFile r e) e.native.data)

def pread64Kworker (r : Request) (e : Env) : List Reply :=
  sysReply r .pread64
    (.data (onFile r e) (errorOf (onFile r e)) (e.native.data.take (onFile r e).toNat))

def bindKworker (r : Request) (e : Env) : List Reply := sysReply r .bind (.int (onSocket r e))

def listenKworker (r : Request) (e : Env) : List Reply := sysReply r .listen (.int (onSocket r e))

def sendtoKworker (r : Request) (e : Env) : List Reply :=
  sysReply r .send (.sent e.native.gap (onSocket r e) (errorOf (onSocket r e)))

def sendmsgKworker (r : Request) (e : Env) : List Reply :=
  sysReply r .sendmsg (.sent e.native.gap (onSocket r e) (errorOf (onSocket r e)))

def recvfromKworker (r : Request) (e : Env) : List Reply :=
  sysReply r .recv
    (.data (onSocket r e) (errorOf (onSocket r e)) (e.native.data.take (onSocket r e).toNat))

def recvmsgKworker (r : Request) (e : Env) : List Reply :=
  sysReply r .recvmsg (.message (onSocket r e) (errorOf (onSocket r e)) e.native.addr
    (e.native.data.take (onSocket r e).toNat))

/-- The wait for the handshake of a blocking socket. -/
def handshake (e : Env) : ℕ → ℕ → Bool
  | 0, _ => false
  | n + 1, i => if e.ready i then true else handshake e n (i + 1)

def connectKworker (r : Request) (e : Env) : List Reply :=
  if onSocket r e = einprogress ∧ e.native.nonblock = false then
    if handshake e e.looks 0 then
      sysReply r .connect (.int (if e.native.error ≠ 0 then -e.native.error else 0))
    else []
  else sysReply r .connect (.int (onSocket r e))

/-- `dup2` takes the descriptor it is given, open or not. -/
def dupKworker (r : Request) (e : Env) : List Reply :=
  let newFd : ℤ :=
    if (e.home 1).getRemoteFile r.origPid (asInt r.fd) then
      match (e.home 2).files r.origPid with
      | some files =>
        match if asInt r.newFd < 0 then files.firstFree else some r.newFd with
        | some fd => if fd < files.maxFds then fd else ebadf
        | none => ebadf
      | none => ebadf
    else ebadf
  sysReply r .dup (.fd newFd (errorOf newFd))

def acceptKworker (r : Request) (e : Env) : List Reply :=
  if onSocket r e = 0 then
    if e.native.error < 0 then sysReply r .accept (.accept (-1) e.native.error [])
    else
      match inject ((e.home 2).files r.origPid) with
      | some fd => sysReply r .accept (.accept fd 0 e.native.addr)
      | none => sysReply r .accept (.accept (-1) enfile [])
  else sysReply r .accept (.accept (-1) (onSocket r e) [])

/-! ### Kworkers that give the deputy a descriptor -/

def openKworker (r : Request) (e : Env) : List Reply :=
  match (e.home 1).task r.origPid with
  | some t =>
    if e.native.ret < 0 then sysReply r .open (.fd (-1) e.native.ret)
    else
      match inject t.files with
      | some fd => sysReply r .open (.fd fd 0)
      | none => sysReply r .open (.fd (-1) enfile)
  | none => sysReply r .open (.fd (-1) esrch)

def socketKworker (r : Request) (e : Env) : List Reply :=
  if e.native.ret = 0 then
    if e.native.error < 0 then sysReply r .socket (.fd (-1) e.native.error)
    else
      match inject ((e.home 1).files r.origPid) with
      | some fd => sysReply r .socket (.fd fd 0)
      | none => sysReply r .socket (.fd (-1) enfile)
  else sysReply r .socket (.fd (-1) e.native.ret)

/-! ### Handlers without a worker -/

def handleSysReadReq (r : Request) (e : Env) : List Reply :=
  let found :=
    if 1000 ≤ r.fd then
      ((e.home 0).exportOf r.origPid).any fun x => Home.exportedFile x (asInt (r.fd - 1000))
    else (e.home 0).nativeFile r.origPid r.fd
  if found then
    sysReply r .read
      (.data e.native.ret (errorOf e.native.ret) (e.native.data.take e.native.ret.toNat))
  else sysReply r .read (.data ebadf ebadf [])

def handleSysUnameReq (r : Request) (e : Env) : List Reply :=
  sysReply r .uname (.struct 0 e.native.data)

/-- With the deputy's credentials if it is there, else with those of the kernel. -/
def handleSysUnlinkReq (r : Request) (e : Env) : List Reply :=
  [⟨.unlink, r.sender, .both r.reqId r.origPid, .sys (.int e.native.ret)⟩]

def handleVfsGetattrReq (r : Request) (e : Env) : List Reply :=
  rpcReply r .vfsGetattr (.getattr e.native.ret e.native.stat)

def handleVfsReaddirReq (r : Request) (e : Env) : List Reply :=
  if e.native.ret < 0 then rpcReply r .vfsReaddir (.readdir e.native.ret 0 [])
  else rpcReply r .vfsReaddir (.readdir 0 e.native.size.toNat e.native.entries)

def handleVfsOpenReq (r : Request) (e : Env) : List Reply :=
  if e.native.ret < 0 then rpcReply r .vfsOpen (.open 0 e.native.ret)
  else
    match (List.range maxFds).find? fun i => !(e.home 0).mfsOpenFiles i with
    | some fd => rpcReply r .vfsOpen (.open fd 0)
    | none => rpcReply r .vfsOpen (.open 0 enfile)

/-- There is no else. -/
def handleVfsReadReq (r : Request) (e : Env) : List Reply :=
  if (e.home 0).mfsFile (asInt r.fd) then
    rpcReply r .vfsRead
      (.read e.native.ret (errorOf e.native.ret) (e.native.data.take e.native.ret.toNat))
  else []

def handleVfsWriteReq (r : Request) (e : Env) : List Reply :=
  if (e.home 0).mfsFile (asInt r.fd) then
    rpcReply r .vfsWrite (.write e.native.ret (errorOf e.native.ret))
  else rpcReply r .vfsWrite (.write ebadf 0)

def handleVfsLseekReq (r : Request) (e : Env) : List Reply :=
  if (e.home 0).mfsFile (asInt r.fd) then
    if e.native.ret < 0 then rpcReply r .vfsLseek (.lseek 0 e.native.ret)
    else rpcReply r .vfsLseek (.lseek e.native.ret 0)
  else rpcReply r .vfsLseek (.lseek 0 ebadf)

def handleVfsFsyncReq (r : Request) (e : Env) : List Reply :=
  if (e.home 0).mfsFile (asInt r.fd) then rpcReply r .vfsFsync (.fsync e.native.ret)
  else rpcReply r .vfsFsync (.fsync ebadf)

/-! ### Calls that the deputy runs itself -/

/-- Nobody looks at what `task_work_add` returns. -/
def injectWork (t : Option Task) (e : Env) (callback : List Reply) : List Reply :=
  match t with
  | some t => if e.taskWorkAdd && t.takesWork then callback else []
  | none => []

def hijack (r : Request) (e : Env) (callback : List Reply) : List Reply :=
  injectWork ((e.home 0).task r.origPid) e callback

/-- The callbacks that first copy an argument to the scratchpad below the deputy's stack. -/
def scratchpadCall (e : Env) : ℤ := if e.native.copied && e.resolved then e.native.ret else efault

def plainCall (e : Env) : ℤ := if e.resolved then e.native.ret else enosys

def handleSysEpollCreateReq (r : Request) (e : Env) : List Reply :=
  hijack r e (sysReply r .epollCreate (.fd (plainCall e) (errorOf (plainCall e))))

def handleSysEpollCtlReq (r : Request) (e : Env) : List Reply :=
  hijack r e (sysReply r .epollCtl (.int (scratchpadCall e)))

def socknameCb (r : Request) (e : Env) (kind : Kind) : List Reply :=
  sysReply r kind
    (.sockname (scratchpadCall e) (if scratchpadCall e = 0 then e.native.addr else []))

def handleSysGetsocknameReq (r : Request) (e : Env) : List Reply :=
  hijack r e (socknameCb r e .getsockname)

def handleSysGetpeernameReq (r : Request) (e : Env) : List Reply :=
  hijack r e (socknameCb r e .getpeername)

def handleSysSetsockoptReq (r : Request) (e : Env) : List Reply :=
  hijack r e (sysReply r .setsockopt (.int (scratchpadCall e)))

def handleSysGetsockoptReq (r : Request) (e : Env) : List Reply :=
  hijack r e (sysReply r .getsockopt
    (.sockopt (scratchpadCall e) (if scratchpadCall e = 0 then e.native.data else [])))

def handleSysPrlimit64Req (r : Request) (e : Env) : List Reply :=
  hijack r e (sysReply r .prlimit64 (.struct (scratchpadCall e) e.native.data))

def handleSysPrctlReq (r : Request) (e : Env) : List Reply :=
  hijack r e (sysReply r .prctl (.int (plainCall e)))

def fioCb (r : Request) (e : Env) (kind : Kind) : List Reply :=
  sysReply r kind (.struct (scratchpadCall e) e.native.data)

def handleSysFcntlReq (r : Request) (e : Env) : List Reply := hijack r e (fioCb r e .fcntl)

def handleSysIoctlReq (r : Request) (e : Env) : List Reply := hijack r e (fioCb r e .ioctl)

/-! ### Waiting for descriptors -/

inductive Waited where
  | waiting
  | aborted
  | done (look : ℕ)
  deriving DecidableEq

/-- Until an event, the timeout or the kill switch. -/
def epollLoop (r : Request) (e : Env) : ℕ → ℕ → Waited
  | 0, _ => .waiting
  | n + 1, i =>
    if (e.home (i + 2)).abortRpc r.origPid then .aborted
    else if e.ready i || (decide (0 ≤ r.timeout) && e.expired i) then .done (i + 1)
    else epollLoop r e n (i + 1)

def epollWaitCb (r : Request) (e : Env) : List Reply :=
  let ret := if e.resolved then e.native.ret else efault
  sysReply r .epollWait (.epollWait ret (e.native.data.take (12 * ret.toNat)))

/-- The kill switch is looked at once more before the deputy is. -/
def epollCollect (r : Request) (e : Env) (i : ℕ) : List Reply :=
  if (e.home (i + 2)).abortRpc r.origPid then []
  else
    match (e.home (i + 3)).task r.origPid with
    | some t => injectWork (some t) e (epollWaitCb r e)
    | none => sysReply r .epollWait (.epollWait esrch [])

def epollWaitKworker (r : Request) (e : Env) : List Reply :=
  match if (e.home 1).getRemoteFile r.origPid (asInt r.fd) then epollLoop r e e.looks 0
    else .done 0 with
  | .waiting | .aborted => []
  | .done i => epollCollect r e i

def pollFile (h : Home) (x : ExportInfo) (fd : ℕ) : Bool :=
  if 1000 ≤ asInt fd then Home.exportedFile x (asInt fd - 1000)
  else if 0 ≤ asInt fd then h.nativeFile x.origPid fd
  else false

/-- One look at all descriptors; those without a file are left as they are. -/
def pollLook (h : Home) (x : ExportInfo) (mask : ℕ → ℕ) (fds : List PollFd) : List PollFd :=
  fds.mapIdx fun j p => if pollFile h x p.1 then (p.1, p.2.1, mask j &&& p.2.1) else p

def readyCount (h : Home) (x : ExportInfo) (mask : ℕ → ℕ) (fds : List PollFd) : ℕ :=
  ((fds.mapIdx fun j p => pollFile h x p.1 && mask j &&& p.2.1 != 0).filter id).length

/-- The error, the return value and the descriptors once the wait is over. -/
def pollLoop (r : Request) (e : Env) : ℕ → ℕ → List PollFd → Option (ℤ × ℤ × List PollFd)
  | 0, _, _ => none
  | n + 1, i, fds =>
    match (e.home (i + 1)).exportOf r.origPid with
    | none => some (esrch, 0, fds)
    | some x =>
      let looked := pollLook (e.home (i + 1)) x (e.mask i) fds
      let ready := readyCount (e.home (i + 1)) x (e.mask i) fds
      if 0 < ready then some (0, ready, looked)
      else if 0 ≤ r.timeout ∧ e.expired i = true then some (0, 0, looked)
      else pollLoop r e n (i + 1) looked

/-- The reply goes out by `mattx_comm_send_ctrl`, which gives up when somebody else is sending. -/
def pollWorker (r : Request) (e : Env) : List Reply :=
  match pollLoop r e e.looks 0 r.fds with
  | some (error, retval, fds) =>
    if e.ctrlFree then sysReply r .poll (.poll error retval fds) else []
  | none => []

/-! ### Kworkers that act as the deputy -/

/-- `mattx_execute_as_deputy`; none when the kworker goes down with a deputy whose memory or
descriptors are gone. -/
def executeAsDeputy (h : Home) (pid : ℕ) (fdToMap : ℤ) (path : Bool) (e : Env) : Option ℤ :=
  match h.task pid with
  | none => some esrch
  | some t =>
    if t.mm then
      if path && !e.native.copied then some efault
      else if 1000 ≤ fdToMap then
        if h.getRemoteFile pid fdToMap then
          match t.files with
          | some files => some (if files.firstFree.isSome then e.native.ret else emfile)
          | none => none
        else some ebadf
      else some e.native.ret
    else none

def asDeputy (r : Request) (e : Env) (kind : Kind) (fdToMap : ℤ) (path : Bool)
    (body : ℤ → WormholeCalls.Body) : List Reply :=
  match if e.resolved then executeAsDeputy (e.home 1) r.origPid fdToMap path e else some enosys with
  | some ret => sysReply r kind (body ret)
  | none => []

/-- The struct of a reply before it is filled, which happens on success only. -/
def blank (e : Env) : Bytes := e.native.data.map fun _ => 0

def structBody (e : Env) (ret : ℤ) : WormholeCalls.Body :=
  .struct ret (if ret = 0 then e.native.data else blank e)

def countedBody (e : Env) (ret : ℤ) : WormholeCalls.Body :=
  .counted ret (e.native.data.take ret.toNat)

def statfsKworker (r : Request) (e : Env) : List Reply :=
  asDeputy r e .statfs (-1) true (structBody e)

def fstatfsKworker (r : Request) (e : Env) : List Reply :=
  asDeputy r e .fstatfs (asInt r.fd) false (structBody e)

def newfstatatKworker (r : Request) (e : Env) : List Reply :=
  asDeputy r e .newfstatat (asInt r.fd) true (structBody e)

def faccessat2Kworker (r : Request) (e : Env) : List Reply :=
  asDeputy r e .faccessat2 (asInt r.fd) true .int

def readlinkKworker (r : Request) (e : Env) : List Reply :=
  asDeputy r e .readlink (-1) true (countedBody e)

def readlinkatKworker (r : Request) (e : Env) : List Reply :=
  asDeputy r e .readlinkat (asInt r.fd) true (countedBody e)

def getdents64Kworker (r : Request) (e : Env) : List Reply :=
  asDeputy r e .getdents64 (asInt r.fd) false (countedBody e)

def pipe2Kworker (r : Request) (e : Env) : List Reply :=
  asDeputy r e .pipe2 (-1) false fun ret =>
    if ret = 0 then .pipe2 ret e.native.fds.1 e.native.fds.2 else .pipe2 ret (-1) (-1)

/-- With the deputy's IPC namespace, and most of them with its memory. -/
def asSharer (r : Request) (e : Env) (kind : Kind) (has : Task → Bool)
    (body : ℤ → WormholeCalls.Body) : List Reply :=
  match (e.home 1).task r.origPid with
  | some t =>
    if e.resolved then if has t then sysReply r kind (body e.native.ret) else []
    else sysReply r kind (body enosys)
  | none => sysReply r kind (body enosys)

def shmgetKworker (r : Request) (e : Env) : List Reply :=
  asSharer r e .shmget Task.nsproxy fun ret => .shmget ret (errorOf ret)

def shmctlKworker (r : Request) (e : Env) : List Reply :=
  asSharer r e .shmctl (fun t => t.mm && t.nsproxy) fun ret =>
    structBody e (if ret = 0 ∧ e.native.copied = false then efault else ret)

def shmdtKworker (r : Request) (e : Env) : List Reply := asSharer r e .shmdt Task.mm .int

def shmatKworker (r : Request) (e : Env) : List Reply :=
  asSharer r e .shmat (fun t => t.mm && t.nsproxy) fun ret =>
    if 0 ≤ ret then .shmat ret e.native.size 0 else .shmat 0 0 ret

/-! ### Shared pages -/

/-- `mapped`: the deputy has the segment, far enough to reach the page. -/
def dsmFaultKworker (r : Request) (e : Env) : List Reply :=
  let pumped : VfsRpc.Body :=
    .dsmPageFault (if e.native.ret = 4096 then 0 else efault) e.native.data
  let failed : VfsRpc.Body := .dsmPageFault efault (blank e)
  if ((e.home 1).task r.origPid).any Task.mm && e.mapped then
    match e.flush with
    | .unneeded => rpcReply r .dsmPageFault pumped
    | .waiting => []
    | .answered error mm => if error = 0 ∧ mm = false then [] else rpcReply r .dsmPageFault pumped
  else rpcReply r .dsmPageFault failed

def dsmWriteAcquireKworker (r : Request) (_ : Env) : List Reply :=
  rpcReply r .dsmWriteAcquire (.writeAcquire 0)

/-- No reply is ever sent, and none is waited for. -/
def dsmInvalidateKworker (_ : Request) (_ : Env) : List Reply := []

/-- `mapped`: the guest holds the page EXCLUSIVE. -/
def dsmFlushKworker (r : Request) (e : Env) : List Reply :=
  rpcReply r .dsmFlush (if e.mapped then .flush 0 e.native.data else .flush enoent (blank e))

/-- The handler each request is registered with, down to the replies. -/
def serve (r : Request) (e : Env) : List Reply :=
  match r.kind with
  | .open => openKworker r e
  | .read => handleSysReadReq r e
  | .lseek => lseekKworker r e
  | .statx => statxKworker r e
  | .dup => dupKworker r e
  | .fsync => fsyncKworker r e
  | .socket => socketKworker r e
  | .connect => connectKworker r e
  | .bind => bindKworker r e
  | .listen => listenKworker r e
  | .send => sendtoKworker r e
  | .recv => recvfromKworker r e
  | .accept => acceptKworker r e
  | .poll => pollWorker r e
  | .unlink => handleSysUnlinkReq r e
  | .epollCreate => handleSysEpollCreateReq r e
  | .epollCtl => handleSysEpollCtlReq r e
  | .epollWait => epollWaitKworker r e
  | .getsockname => handleSysGetsocknameReq r e
  | .getpeername => handleSysGetpeernameReq r e
  | .setsockopt => handleSysSetsockoptReq r e
  | .getsockopt => handleSysGetsockoptReq r e
  | .sendmsg => sendmsgKworker r e
  | .recvmsg => recvmsgKworker r e
  | .uname => handleSysUnameReq r e
  | .prlimit64 => handleSysPrlimit64Req r e
  | .prctl => handleSysPrctlReq r e
  | .fcntl => handleSysFcntlReq r e
  | .ioctl => handleSysIoctlReq r e
  | .pread64 => pread64Kworker r e
  | .statfs => statfsKworker r e
  | .fstatfs => fstatfsKworker r e
  | .newfstatat => newfstatatKworker r e
  | .faccessat2 => faccessat2Kworker r e
  | .readlink => readlinkKworker r e
  | .readlinkat => readlinkatKworker r e
  | .getdents64 => getdents64Kworker r e
  | .pipe2 => pipe2Kworker r e
  | .shmget => shmgetKworker r e
  | .shmat => shmatKworker r e
  | .shmdt => shmdtKworker r e
  | .shmctl => shmctlKworker r e
  | .vfsGetattr => handleVfsGetattrReq r e
  | .vfsReaddir => handleVfsReaddirReq r e
  | .vfsOpen => handleVfsOpenReq r e
  | .vfsRead => handleVfsReadReq r e
  | .vfsWrite => handleVfsWriteReq r e
  | .vfsLseek => handleVfsLseekReq r e
  | .vfsFsync => handleVfsFsyncReq r e
  | .dsmPageFault => dsmFaultKworker r e
  | .dsmWriteAcquire => dsmWriteAcquireKworker r e
  | .dsmInvalidate => dsmInvalidateKworker r e
  | .dsmFlush => dsmFlushKworker r e

end MattX.RequestHandlers
