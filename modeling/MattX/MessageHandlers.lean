import MattX.BufferAccesses
import MattX.MessageFraming
import MattX.RequestHandlers

set_option autoImplicit false

/-!
# What the message handlers touch

Each registered handler with the kworker or task work it schedules, as the list
of its accesses to the payload, to destinations of a fixed size and to tables.
Left out are loops over a whole table, and messages for the log that only print
what the handler reads anyway.
-/
namespace MattX.MessageHandlers
open BufferAccesses
open RequestHandlers (Home Task FdTable ExportInfo asInt maxFds)
open MessageFraming (Message)

abbrev maxGangThreads : ℕ := 16

/-- 64 bits as a `long`. -/
def asLong (n : ℕ) : ℤ := if n < 9223372036854775808 then n else n - 18446744073709551616

/-- An `int` as a `size_t`. -/
def asSize (i : ℤ) : ℕ := (i % 18446744073709551616).toNat

/-! ### The node that receives -/

/-- `ctx`: of the handler for its work. `buffer`: for what is read or received. `files`: arrays of
file pointers. -/
inductive Alloc where
  | ctx
  | buffer
  | reply
  | files
  | creds

structure Guest where
  localPid : ℕ
  origPid : ℕ
  homeNode : ℕ
  shmids : List ℕ

/-- A pending entry of `vfs_rpc_registry`, with the room behind its pointers. -/
structure Slot where
  reqId : ℕ
  dirents : Option ℕ
  dataBuf : Option ℕ

/-- `hijacked_stub_task`. `awake`: its threads once they run again. `fpstate`: the room for the
registers of one. -/
structure Stub where
  pid : ℕ
  threads : ℕ
  awake : ℕ
  mm : Bool
  files : Option FdTable
  fpstate : Option ℕ

/-- The pages of a segment in the master directory, and whatever lies beside them. -/
structure PageTable where
  exclusive : ℕ → Bool
  owner : ℕ → ℕ

/-- `mattx_global_dsm_dir` -/
structure Directory where
  entry : ℕ → Option PageTable
  free : Bool

/-- `debug`: `config_debug_mode`. `home i`, `directory i`: at the `i`-th look. `waitEnds`: a waiting
kworker comes to its reply. `taken`: the bytes a write takes at most. `injectable a`: those the
stub's memory takes at `a`. `names`: the lengths of the names in a directory, if it can be opened.
`namelen`: what the kernel says an address has. `segment`: the System V mapping of an inode in the
memory of a pid. -/
structure Host where
  beyond : ℕ → BitVec 8
  debug : Bool
  kmalloc : Alloc → Bool
  home : ℕ → Home
  guests : List Guest
  slots : List Slot
  taskWorkAdd : Bool
  resolved : Bool
  waitEnds : Bool
  taken : ℕ
  injectable : ℕ → ℕ
  names : Option (List ℕ)
  namelen : Fin 129
  linkNode : ℤ
  migrating : Option ℤ
  pending : Option Buffer
  stub : Option Stub
  dsmMode : ℕ
  segment : ℕ → ℕ → Option (ℕ × ℕ)
  directory : ℕ → Directory
  exportTarget : ℕ → Option ℤ
  flushSent : Bool
  pumped : Bool

def Host.payload (h : Host) (m : Message) : Buffer := ⟨m.payload, h.beyond⟩

def sender (m : Message) : ℕ := m.senderId.toNat

/-- `cluster_map[hdr->sender_id]` -/
def senderLink (m : Message) : Access := .index maxNodes (sender m)

/-- The same through the `int` that a work keeps. -/
def targetLink (m : Message) : Access := .index maxNodes (asInt (sender m))

/-- The body of `if (payload)`. -/
def guarded (m : Message) (as : List Access) : List Access := if m.payload = [] then [] else as

/-- The arguments of a `mattx_dbg`. -/
def printed (h : Host) (m : Message) (fields : Layout) : List Access :=
  if h.debug then read (h.payload m) fields else []

def replyTo (m : Message) (ends : Bool) : List Access := if ends then [targetLink m] else []

/-! ### Tables of files -/

def nativeFile (n : Home) (pid fd : ℕ) : List Access :=
  match n.files pid with
  | some t => if fd < t.maxFds then [.index t.maxFds fd] else []
  | none => []

def exportedFile (n : Home) (pid : ℕ) (slot : ℤ) : List Access :=
  match n.exportOf pid with
  | some _ => if slot < maxFds then [.index maxFds slot] else []
  | none => []

/-- `mattx_get_remote_file` -/
def getRemoteFile (n : Home) (pid : ℕ) (fd : ℤ) : List Access :=
  if 1000 ≤ fd then exportedFile n pid (fd - 1000)
  else if 0 ≤ fd then nativeFile n pid fd.toNat
  else []

/-- The file of a kworker whose request has the descriptor at `off`. -/
def onFile (h : Host) (m : Message) (off : ℕ) : List Access :=
  getRemoteFile (h.home 1) ((h.payload m).u32 0) (asInt ((h.payload m).u32 off))

/-- `mattx_execute_as_deputy` maps exported files only. -/
def asDeputy (h : Host) (m : Message) (off : ℕ) : List Access :=
  if h.resolved && ((h.home 1).task ((h.payload m).u32 0)).isSome &&
      decide (1000 ≤ asInt ((h.payload m).u32 off)) then
    onFile h m off
  else []

/-! ### Requests for a kworker -/

/-- `copies`: what goes into the context. -/
def dispatch (h : Host) (copies work : List Access) : List Access :=
  if h.kmalloc .ctx then copies ++ work else []

/-- `ends`: the kworker comes to its reply. -/
def kworkerReq (h : Host) (m : Message) (fields : Layout) (lookup : List Access) (ends : Bool) :
    List Access :=
  dispatch h (read (h.payload m) fields) (lookup ++ replyTo m ends)

/-- The path is printed as long as it is. -/
def handleSysOpenReq (h : Host) (m : Message) : List Access :=
  let b := h.payload m
  guarded m (dispatch h (.bytes b 0 268 :: if h.debug then [.string b 12] else [])
    (replyTo m true))

def handleSysLseekReq (h : Host) (m : Message) : List Access :=
  kworkerReq h m [(0, 24)] (onFile h m 4) true

def handleSysFsyncReq (h : Host) (m : Message) : List Access :=
  kworkerReq h m [(0, 32)] (onFile h m 4) true

def handleSysStatxReq (h : Host) (m : Message) : List Access :=
  kworkerReq h m [(0, 16)] (onFile h m 4) true

def handleSysDupReq (h : Host) (m : Message) : List Access :=
  kworkerReq h m [(0, 12)] (onFile h m 4) true

def handleSysSocketReq (h : Host) (m : Message) : List Access :=
  guarded m (kworkerReq h m [(0, 16)] [] true)

def handleSysBindReq (h : Host) (m : Message) : List Access :=
  guarded m (kworkerReq h m [(0, 144)] (onFile h m 4) true)

def handleSysConnectReq (h : Host) (m : Message) : List Access :=
  guarded m (kworkerReq h m [(0, 144)] (onFile h m 4) h.waitEnds)

def handleSysListenReq (h : Host) (m : Message) : List Access :=
  guarded m (kworkerReq h m [(0, 12)] (onFile h m 4) true)

def handleSysAcceptReq (h : Host) (m : Message) : List Access :=
  guarded m (kworkerReq h m [(0, 12)] (onFile h m 4) true)

def handleSysRecvReq (h : Host) (m : Message) : List Access :=
  guarded m (kworkerReq h m [(0, 4), (4, 4), (8, 8), (16, 4)] (onFile h m 4) (h.kmalloc .reply))

/-- The address that goes into the reply is the kernel's. -/
def handleSysRecvmsgReq (h : Host) (m : Message) : List Access :=
  guarded m (kworkerReq h m [(0, 4), (4, 4), (8, 4), (12, 4), (16, 8)]
    (onFile h m 4 ++ if h.kmalloc .reply then [.store 128 h.namelen] else []) (h.kmalloc .reply))

def handleSysPread64Req (h : Host) (m : Message) : List Access :=
  kworkerReq h m [(0, 24)] (onFile h m 4) (h.kmalloc .reply)

def handleSysStatfsReq (h : Host) (m : Message) : List Access :=
  kworkerReq h m [(0, 260)] [] true

def handleSysFstatfsReq (h : Host) (m : Message) : List Access :=
  kworkerReq h m [(0, 8)] (asDeputy h m 4) true

def handleSysNewfstatatReq (h : Host) (m : Message) : List Access :=
  kworkerReq h m [(0, 268)] (asDeputy h m 4) true

def handleSysFaccessat2Req (h : Host) (m : Message) : List Access :=
  kworkerReq h m [(0, 272)] (asDeputy h m 4) true

def handleSysReadlinkReq (h : Host) (m : Message) : List Access :=
  kworkerReq h m [(0, 272)] [] (h.kmalloc .reply)

def handleSysReadlinkatReq (h : Host) (m : Message) : List Access :=
  kworkerReq h m [(0, 272)] (asDeputy h m 4) (h.kmalloc .reply)

def handleSysGetdents64Req (h : Host) (m : Message) : List Access :=
  kworkerReq h m [(0, 12)] (asDeputy h m 4) (h.kmalloc .reply)

def handleSysPipe2Req (h : Host) (m : Message) : List Access :=
  kworkerReq h m [(0, 8)] [] true

def handleSysShmgetReq (h : Host) (m : Message) : List Access :=
  kworkerReq h m [(0, 24)] [] true

def handleSysShmatReq (h : Host) (m : Message) : List Access :=
  kworkerReq h m [(0, 24)] [] true

def handleSysShmdtReq (h : Host) (m : Message) : List Access :=
  kworkerReq h m [(0, 16)] [] true

def handleSysShmctlReq (h : Host) (m : Message) : List Access :=
  kworkerReq h m [(0, 12)] [] true

/-- The length is read before anything is allocated. -/
def handleSysSendReq (h : Host) (m : Message) : List Access :=
  let b := h.payload m
  guarded m (.bytes b 16 8 :: dispatch h
    (read b [(0, 4), (4, 4), (8, 4), (16, 8)] ++ [.bytes b 24 (b.u64 16)])
    (onFile h m 4 ++ replyTo m true))

def handleSysSendmsgReq (h : Host) (m : Message) : List Access :=
  let b := h.payload m
  guarded m (.bytes b 16 8 :: dispatch h
    (read b [(0, 4), (4, 4), (8, 4), (12, 4), (16, 8), (24, 128)] ++ [.bytes b 152 (b.u64 16)])
    (onFile h m 4 ++ replyTo m true))

/-- Both arrays have 16 entries of 16 bytes. -/
def pollBytes (nfds : ℤ) : ℕ := 16 * asSize nfds % 18446744073709551616

/-- Only while the deputy is exported; a negative count ends both loops at once. -/
def pollLoops (h : Host) (m : Message) : List Access :=
  let b := h.payload m
  match (h.home 1).exportOf (b.u32 0) with
  | some _ => each (asInt (b.u32 4)).toNat fun j =>
      .index 16 j :: getRemoteFile (h.home 1) (b.u32 0) (asInt (b.u32 (16 + 16 * j)))
  | none => []

def pollWorker (h : Host) (m : Message) : List Access :=
  if h.kmalloc .reply && h.kmalloc .files then
    .store 256 (pollBytes (asInt ((h.payload m).u32 4))) :: pollLoops h m ++ replyTo m h.waitEnds
  else []

def handleSysPollReq (h : Host) (m : Message) : List Access :=
  let b := h.payload m
  guarded m (dispatch h
    (read b [(0, 4), (4, 4), (8, 4)] ++
      [.bytes b 16 (pollBytes (asInt (b.u32 4))), .store 256 (pollBytes (asInt (b.u32 4)))])
    (pollWorker h m))

/-! ### Requests for the deputy itself -/

/-- The callback that `task_work_add` gets runs unless the deputy is at its end. -/
def callback (h : Host) (m : Message) (t : Task) (ends : Bool) : List Access :=
  if h.taskWorkAdd && t.takesWork then replyTo m ends else []

def hijackReq (h : Host) (m : Message) (found : Task → List Access) : List Access :=
  .bytes (h.payload m) 0 4 ::
    match (h.home 0).task ((h.payload m).u32 0) with
    | some t => found t
    | none => []

/-- `ends`: the callback comes to its reply. -/
def injectReq (h : Host) (m : Message) (fields : Layout) (ends : Bool) : List Access :=
  hijackReq h m fun t => dispatch h (read (h.payload m) fields) (callback h m t ends)

def handleSysEpollCreateReq (h : Host) (m : Message) : List Access :=
  guarded m (injectReq h m [(4, 4), (0, 4)] true)

def handleSysEpollCtlReq (h : Host) (m : Message) : List Access :=
  guarded m (injectReq h m [(0, 28)] true)

def handleSysGetsocknameReq (h : Host) (m : Message) : List Access :=
  injectReq h m [(0, 4), (4, 4)] true

def handleSysGetpeernameReq (h : Host) (m : Message) : List Access :=
  injectReq h m [(0, 4), (4, 4)] true

def handleSysGetsockoptReq (h : Host) (m : Message) : List Access :=
  injectReq h m [(0, 4), (4, 4), (8, 4), (12, 4), (16, 4)] (h.kmalloc .reply)

def handleSysPrlimit64Req (h : Host) (m : Message) : List Access := injectReq h m [(0, 32)] true

def handleSysPrctlReq (h : Host) (m : Message) : List Access := injectReq h m [(0, 40)] true

def handleSysFcntlReq (h : Host) (m : Message) : List Access :=
  injectReq h m [(0, 4), (4, 4), (8, 4), (16, 8), (24, 1), (25, 256)] true

def handleSysIoctlReq (h : Host) (m : Message) : List Access :=
  injectReq h m [(0, 4), (4, 4), (8, 4), (16, 8), (24, 1), (25, 256)] true

/-- A negative length is a `size_t` to both `kmalloc` and `memcpy`. -/
def handleSysSetsockoptReq (h : Host) (m : Message) : List Access :=
  let b := h.payload m
  hijackReq h m fun t => .bytes b 16 4 :: dispatch h
    (read b [(0, 4), (4, 4), (8, 4), (12, 4), (16, 4)] ++ [.bytes b 20 (asSize (asInt (b.u32 16)))])
    (callback h m t true)

/-- The kworker waits first, and then injects or, without a deputy, answers itself. -/
def epollWaitKworker (h : Host) (m : Message) : List Access :=
  onFile h m 4 ++
    if h.waitEnds then
      match (h.home 2).task ((h.payload m).u32 0) with
      | some t => if h.kmalloc .buffer then callback h m t (h.kmalloc .reply) else []
      | none => replyTo m (h.kmalloc .reply)
    else []

def handleSysEpollWaitReq (h : Host) (m : Message) : List Access :=
  guarded m (dispatch h (read (h.payload m) [(0, 4), (4, 4), (8, 4), (12, 4)])
    (epollWaitKworker h m))

/-! ### Requests served at once -/

/-- The place of the descriptor in the registry, as an `int`. -/
def slotOf (fd : ℕ) : ℤ := asInt (fd - 1000)

/-- The file of a `write`, `read` or `close`. -/
def fileLookup (h : Host) (m : Message) : List Access :=
  let b := h.payload m
  .bytes b 4 4 ::
    if 1000 ≤ b.u32 4 then
      if (h.home 0).exports.isEmpty then []
      else .bytes b 0 4 :: exportedFile (h.home 0) (b.u32 0) (slotOf (b.u32 4))
    else .bytes b 0 4 :: nativeFile (h.home 0) (b.u32 0) (b.u32 4)

def fileFound (h : Host) (m : Message) : Bool :=
  let b := h.payload m
  if 1000 ≤ b.u32 4 then
    ((h.home 0).exportOf (b.u32 0)).any fun x => Home.exportedFile x (slotOf (b.u32 4))
  else (h.home 0).nativeFile (b.u32 0) (b.u32 4)

def handleSyscallFwd (h : Host) (m : Message) : List Access :=
  let b := h.payload m
  guarded m (fileLookup h m ++
    if fileFound h m then [.bytes b 8 4, .bytes b 12 (min (b.u32 8) h.taken)] else [])

def handleSysCloseReq (h : Host) (m : Message) : List Access := guarded m (fileLookup h m)

/-- Neither reply looks whether there is a link. -/
def handleSysReadReq (h : Host) (m : Message) : List Access :=
  let b := h.payload m
  guarded m (fileLookup h m ++
    if fileFound h m then
      .bytes b 8 8 ::
        if h.kmalloc .buffer && h.kmalloc .reply then [.bytes b 0 4, senderLink m] else []
    else [.bytes b 0 4, senderLink m])

def handleSysUnameReq (h : Host) (m : Message) : List Access :=
  [.bytes (h.payload m) 0 4, senderLink m]

/-- Without a deputy's pid the ids of the user are read. -/
def handleSysUnlinkReq (h : Host) (m : Message) : List Access :=
  let b := h.payload m
  guarded m (read b [(0, 8), (8, 4)] ++ (if b.u32 8 = 0 then read b [(12, 4), (16, 4)] else []) ++
    [.string b 20, senderLink m])

/-! ### Requests of the file system -/

def handleVfsGetattrReq (h : Host) (m : Message) : List Access :=
  let b := h.payload m
  guarded m [.bytes b 0 8, .string b 8, senderLink m]

/-- `mattx_filldir` for the names of a directory, with `count` entries in the reply. -/
def filldir (count : ℕ) : List ℕ → List Access
  | [] => []
  | namlen :: names =>
    if 20 ≤ count then []
    else
      .index 20 count :: .store 64 (min namlen 63) :: .index 64 (min namlen 63 : ℕ) ::
        filldir (count + 1) names

def handleVfsReaddirReq (h : Host) (m : Message) : List Access :=
  let b := h.payload m
  guarded m (if h.kmalloc .reply then
      .bytes b 0 8 :: .string b 16 ::
        (match h.names with
          | some names => .bytes b 8 8 :: filldir 0 names
          | none => []) ++ [senderLink m]
    else [])

def handleVfsOpenReq (h : Host) (m : Message) : List Access :=
  let b := h.payload m
  guarded m (read b [(0, 8), (16, 4), (20, 4), (8, 4), (12, 4)] ++ [.string b 24, senderLink m])

/-- `mfs_open_files` at the descriptor, which is only compared with the size of the table. -/
def mfsLookup (h : Host) (m : Message) (off : ℕ) : List Access :=
  let fd := asInt ((h.payload m).u32 off)
  .bytes (h.payload m) off 4 :: if fd < maxFds then [.index maxFds fd] else []

def mfsFound (h : Host) (m : Message) (off : ℕ) : Bool :=
  (h.home 0).mfsFile (asInt ((h.payload m).u32 off))

def handleVfsReadReq (h : Host) (m : Message) : List Access :=
  let b := h.payload m
  guarded m (mfsLookup h m 8 ++
    if mfsFound h m 8 then
      .bytes b 16 8 ::
        if h.kmalloc .buffer then
          .bytes b 24 8 :: if h.kmalloc .reply then [.bytes b 0 8, senderLink m] else []
        else []
    else [])

def handleVfsWriteReq (h : Host) (m : Message) : List Access :=
  let b := h.payload m
  guarded m (.bytes b 0 8 :: mfsLookup h m 8 ++
    (if mfsFound h m 8 then
      [.bytes b 24 8, .bytes b 16 8, .bytes b 32 (min (b.u64 16) h.taken)]
    else []) ++ [senderLink m])

def handleVfsCloseReq (h : Host) (m : Message) : List Access := guarded m (mfsLookup h m 0)

def handleVfsLseekReq (h : Host) (m : Message) : List Access :=
  let b := h.payload m
  guarded m (.bytes b 0 8 :: mfsLookup h m 8 ++
    (if mfsFound h m 8 then read b [(16, 8), (24, 4)] else []) ++ [senderLink m])

def handleVfsFsyncReq (h : Host) (m : Message) : List Access :=
  let b := h.payload m
  guarded m (.bytes b 0 8 :: mfsLookup h m 8 ++
    (if mfsFound h m 8 then read b [(16, 8), (24, 8), (32, 4)] else []) ++ [senderLink m])

/-! ### Replies to a guest -/

def toGuest (h : Host) (m : Message) : Bool :=
  h.guests.any fun g => g.origPid == (h.payload m).u32 0 && g.homeNode == sender m

/-- Every entry of the registry is compared with the pid of the reply. -/
def guestReply (h : Host) (m : Message) (found : List Access) : List Access :=
  if h.guests.isEmpty then []
  else .bytes (h.payload m) 0 4 :: if toGuest h m then found else []

def handleSysOpenReply (h : Host) (m : Message) : List Access :=
  guarded m (printed h m [(0, 4), (4, 4)] ++ guestReply h m (read (h.payload m) [(4, 4)]))

def handleSysLseekReply (h : Host) (m : Message) : List Access :=
  guarded m (printed h m [(0, 4), (8, 8)] ++ guestReply h m (read (h.payload m) [(8, 8)]))

def handleSysDupReply (h : Host) (m : Message) : List Access :=
  guarded m (printed h m [(0, 4), (4, 4)] ++ guestReply h m (read (h.payload m) [(4, 4)]))

def handleSysFsyncReply (h : Host) (m : Message) : List Access :=
  guarded m (printed h m [(0, 4), (4, 4)] ++ guestReply h m (read (h.payload m) [(4, 4)]))

def handleSysSocketReply (h : Host) (m : Message) : List Access :=
  guarded m (printed h m [(0, 4), (4, 4)] ++ guestReply h m (read (h.payload m) [(4, 4)]))

def handleSysConnectReply (h : Host) (m : Message) : List Access :=
  guarded m (printed h m [(0, 4), (4, 4)] ++ guestReply h m (read (h.payload m) [(4, 4)]))

def handleSysGenericIntReply (h : Host) (m : Message) : List Access :=
  guarded m (printed h m [(0, 4), (4, 4)] ++ guestReply h m (read (h.payload m) [(4, 4)]))

def handleSysEpollCreateReply (h : Host) (m : Message) : List Access :=
  guarded m (guestReply h m (read (h.payload m) [(4, 4), (8, 4)]))

def handleSysShmgetReply (h : Host) (m : Message) : List Access :=
  let b := h.payload m
  guestReply h m (.bytes b 8 4 :: if asInt (b.u32 8) < 0 then [] else [.bytes b 4 4])

def handleSysShmdtReply (h : Host) (m : Message) : List Access :=
  guestReply h m (read (h.payload m) [(4, 4)])

def handleSysShmatReply (h : Host) (m : Message) : List Access :=
  let b := h.payload m
  guestReply h m (read b [(24, 4), (16, 8)] ++
    if h.kmalloc .buffer then read b [(8, 8)] else [])

def handleSysSendmsgReply (h : Host) (m : Message) : List Access :=
  let b := h.payload m
  guarded m (printed h m [(0, 4), (8, 8)] ++
    guestReply h m (.bytes b 8 8 :: if 0 ≤ asLong (b.u64 8) then [] else [.bytes b 16 4]))

/-- A structure after an error code. -/
def structReply (h : Host) (m : Message) (fields : Layout) : List Access :=
  let b := h.payload m
  guestReply h m (.bytes b 4 4 ::
    if asInt (b.u32 4) = 0 ∧ h.kmalloc .buffer then read b fields else [])

def handleSysStatxReply (h : Host) (m : Message) : List Access :=
  guarded m (printed h m [(0, 4), (4, 4)] ++ structReply h m [(8, 256)])

def handleSysSocknameReply (h : Host) (m : Message) : List Access :=
  structReply h m [(8, 128), (136, 4)]

def handleSysUnameReply (h : Host) (m : Message) : List Access := structReply h m [(8, 390)]

def handleSysPrlimit64Reply (h : Host) (m : Message) : List Access := structReply h m [(8, 16)]

def handleSysStatfsReply (h : Host) (m : Message) : List Access := structReply h m [(8, 120)]

def handleSysFstatfsReply (h : Host) (m : Message) : List Access := structReply h m [(8, 120)]

def handleSysNewfstatatReply (h : Host) (m : Message) : List Access := structReply h m [(8, 144)]

def handleSysPipe2Reply (h : Host) (m : Message) : List Access :=
  structReply h m [(8, 4), (12, 4)]

def handleSysShmctlReply (h : Host) (m : Message) : List Access := structReply h m [(8, 128)]

/-- Whatever the error is. -/
def handleSysFioReply (h : Host) (m : Message) : List Access :=
  let b := h.payload m
  guestReply h m (.bytes b 4 4 :: if h.kmalloc .buffer then read b [(8, 256)] else [])

def handleSysPollReply (h : Host) (m : Message) : List Access :=
  let b := h.payload m
  guarded m (printed h m [(0, 4), (12, 4)] ++
    guestReply h m (.bytes b 12 4 :: if h.kmalloc .buffer then read b [(0, 272)] else []))

/-- As many bytes as the reply says it has. -/
def dataReply (h : Host) (m : Message) : List Access :=
  let b := h.payload m
  guestReply h m (.bytes b 8 8 ::
    if 0 < asLong (b.u64 8) ∧ h.kmalloc .buffer then [.bytes b 20 (b.u64 8)] else [])

def handleSysReadReply (h : Host) (m : Message) : List Access :=
  guarded m (printed h m [(0, 4), (8, 8)] ++ dataReply h m)

def handleSysRecvReply (h : Host) (m : Message) : List Access :=
  guarded m (printed h m [(0, 4), (8, 8)] ++ dataReply h m)

/-- Here the count is checked against the address. -/
def handleSysAcceptReply (h : Host) (m : Message) : List Access :=
  let b := h.payload m
  guarded m (printed h m [(0, 4), (4, 4)] ++ guestReply h m (.bytes b 8 4 ::
    if asInt (b.u32 8) = 0 then
      .bytes b 4 4 :: .bytes b 144 4 ::
        if 0 < asInt (b.u32 144) ∧ asInt (b.u32 144) ≤ 128 ∧ h.kmalloc .buffer then
          [.bytes b 16 (asInt (b.u32 144)).toNat]
        else []
    else []))

def handleSysEpollWaitReply (h : Host) (m : Message) : List Access :=
  let b := h.payload m
  guarded m (guestReply h m (.bytes b 4 4 ::
    if 0 < asInt (b.u32 4) ∧ h.kmalloc .buffer then [.bytes b 8 (12 * b.u32 4)] else []))

def handleSysGetsockoptReply (h : Host) (m : Message) : List Access :=
  let b := h.payload m
  guestReply h m (.bytes b 4 4 :: .bytes b 8 4 ::
    if asInt (b.u32 4) = 0 ∧ 0 < asInt (b.u32 8) ∧ h.kmalloc .buffer then
      [.bytes b 12 (b.u32 8)]
    else [])

/-- The `int` that takes the number of bytes keeps its lower half. -/
def received (h : Host) (m : Message) : ℤ :=
  if 0 ≤ asLong ((h.payload m).u64 8) then asInt ((h.payload m).u32 8)
  else asInt ((h.payload m).u32 16)

def handleSysRecvmsgReply (h : Host) (m : Message) : List Access :=
  let b := h.payload m
  guarded m (printed h m [(0, 4), (8, 8)] ++ guestReply h m (.bytes b 8 8 ::
    (if 0 ≤ asLong (b.u64 8) then [] else [.bytes b 16 4]) ++
      if 0 < received h m ∧ h.kmalloc .buffer then
        [.bytes b 152 (received h m).toNat, .bytes b 24 128, .bytes b 20 4]
      else []))

/-- The error is the number of bytes. -/
def linkReply (h : Host) (m : Message) : List Access :=
  let b := h.payload m
  guestReply h m (.bytes b 4 4 ::
    if 0 < asInt (b.u32 4) ∧ h.kmalloc .buffer then [.bytes b 8 (b.u32 4)] else [])

def handleSysReadlinkReply (h : Host) (m : Message) : List Access := linkReply h m

def handleSysReadlinkatReply (h : Host) (m : Message) : List Access := linkReply h m

def handleSysGetdents64Reply (h : Host) (m : Message) : List Access := linkReply h m

/-! ### Replies to a pending slot -/

def slotReply (h : Host) (m : Message) (found : Slot → List Access) : List Access :=
  if h.slots.isEmpty then []
  else .bytes (h.payload m) 0 8 ::
    match h.slots.find? fun s => s.reqId == (h.payload m).u64 0 with
    | some s => found s
    | none => []

/-- A copy into the buffer of the slot, if it has one. -/
def copyTo (room : Option ℕ) (b : Buffer) (off len count : ℕ) : List Access :=
  match room with
  | some room => [.store room count, .bytes b off len]
  | none => []

def handleVfsGetattrReply (h : Host) (m : Message) : List Access :=
  let b := h.payload m
  guarded m (slotReply h m fun _ => .bytes b 8 4 ::
    if asInt (b.u32 8) = 0 then
      read b [(12, 4), (16, 8), (24, 8), (32, 4), (36, 4), (40, 4), (44, 4)]
    else [])

/-- Entries of 88 bytes. -/
def handleVfsReaddirReply (h : Host) (m : Message) : List Access :=
  let b := h.payload m
  guarded m (slotReply h m fun s => .bytes b 8 4 ::
    if asInt (b.u32 8) = 0 then
      read b [(16, 8), (24, 4)] ++
        if 0 < b.u32 24 then copyTo s.dirents b 32 (88 * b.u32 24) (b.u32 24) else []
    else [])

def handleVfsOpenReply (h : Host) (m : Message) : List Access :=
  guarded m (slotReply h m fun _ => read (h.payload m) [(12, 4), (8, 4)])

def handleVfsReadReply (h : Host) (m : Message) : List Access :=
  let b := h.payload m
  guarded m (slotReply h m fun s => .bytes b 8 8 ::
    if 0 < asLong (b.u64 8) then copyTo s.dataBuf b 20 (b.u64 8) (b.u64 8) else [])

def handleVfsWriteReply (h : Host) (m : Message) : List Access :=
  guarded m (slotReply h m fun _ => read (h.payload m) [(8, 8), (16, 4)])

def handleVfsLseekReply (h : Host) (m : Message) : List Access :=
  guarded m (slotReply h m fun _ => read (h.payload m) [(16, 4), (8, 8)])

def handleVfsFsyncReply (h : Host) (m : Message) : List Access :=
  guarded m (slotReply h m fun _ => read (h.payload m) [(8, 4)])

def handleDsmWriteAcquireReply (h : Host) (m : Message) : List Access :=
  slotReply h m fun _ => read (h.payload m) [(8, 4)]

/-- One page after an error code. -/
def pageReply (h : Host) (m : Message) : List Access :=
  let b := h.payload m
  slotReply h m fun s => .bytes b 8 4 ::
    if asInt (b.u32 8) = 0 then copyTo s.dataBuf b 12 pageSize pageSize else []

def handleDsmPageFaultReply (h : Host) (m : Message) : List Access := pageReply h m

def handleDsmFlushReply (h : Host) (m : Message) : List Access := pageReply h m

/-- The guest's pid is at 8 here, after the id of the slot. -/
def handleSysUnlinkReply (h : Host) (m : Message) : List Access :=
  let b := h.payload m
  guarded m (printed h m [(12, 4)] ++ .bytes b 0 8 ::
    (if b.u64 0 = 0 then [] else slotReply h m fun _ => [.bytes b 12 4]) ++
    .bytes b 8 4 ::
      if b.u32 8 ≠ 0 ∧ h.guests.any fun g => g.origPid == b.u32 8 && g.homeNode == sender m then
        [.bytes b 12 4]
      else [])

/-! ### Shared memory -/

def pageIdx (h : Host) (m : Message) (off : ℕ) : ℕ := (h.payload m).u64 off / pageSize

def pageAccess (h : Host) (m : Message) (off : ℕ) : Access := .index maxDsmPages (pageIdx h m off)

/-- The mapping of the segment in the deputy that the offset lies in; the sum is an
`unsigned long`. -/
def inSegment (h : Host) (pid shmid off : ℕ) : Option ℕ :=
  if ((h.home 1).task pid).any Task.mm then
    match h.segment pid shmid with
    | some (first, last) =>
      if (first + off) % 18446744073709551616 < last then
        some ((first + off) % 18446744073709551616)
      else none
    | none => none
  else none

/-- The node of an exclusive owner other than the requester. -/
def ownerNode (h : Host) (m : Message) : Option ℤ :=
  let b := h.payload m
  match (h.directory 0).entry (b.u32 12) with
  | some t =>
    let owner := t.owner (pageIdx h m 16)
    if t.exclusive (pageIdx h m 16) ∧ owner ≠ 0 ∧ owner ≠ b.u32 8 then
      (h.exportTarget owner).filter (· ≠ -1)
    else none
  | none => none

/-- The state of the page is read, and the owner asked for it; `flushSent`: it could be asked. -/
def flushFirst (h : Host) (m : Message) : List Access :=
  if ((h.directory 0).entry ((h.payload m).u32 12)).isSome then
    pageAccess h m 16 ::
      match ownerNode h m with
      | some n => [.index maxNodes n]
      | none => []
  else []

/-- The requester is noted in the mask of the page. -/
def noteReader (h : Host) (m : Message) : List Access :=
  let d := h.directory 1
  if h.pumped && ((d.entry ((h.payload m).u32 12)).isSome || d.free) then
    [pageAccess h m 16, .index (maxNodes / 64) ((asInt (sender m)).tdiv 64)]
  else []

def pumpAnswers (h : Host) (m : Message) : Bool :=
  (ownerNode h m).isNone || !h.flushSent || h.waitEnds

def faultKworker (h : Host) (m : Message) : List Access :=
  let b := h.payload m
  if h.kmalloc .reply then
    match inSegment h (b.u32 8) (b.u32 12) (b.u64 16) with
    | some addr =>
      if addr ≠ 0 ∧ h.dsmMode = 2 then
        flushFirst h m ++
          if pumpAnswers h m then noteReader h m ++ [targetLink m] else []
      else [targetLink m]
    | none => [targetLink m]
  else []

def handleDsmPageFaultReq (h : Host) (m : Message) : List Access :=
  printed h m [(12, 4), (16, 8)] ++
    dispatch h (read (h.payload m) [(0, 24)]) (faultKworker h m)

def writeAcquireKworker (h : Host) (m : Message) : List Access :=
  (if ((h.directory 0).entry ((h.payload m).u32 12)).isSome then [pageAccess h m 16] else []) ++
    [targetLink m]

def handleDsmWriteAcquireReq (h : Host) (m : Message) : List Access :=
  dispatch h (read (h.payload m) [(0, 24)]) (writeAcquireKworker h m)

/-- All guests but the one that writes. -/
def invalidateKworker (h : Host) (m : Message) : List Access :=
  let b := h.payload m
  h.guests.flatMap fun g =>
    if g.origPid = b.u32 8 then []
    else g.shmids.flatMap fun shmid => if shmid = b.u32 12 then [pageAccess h m 16] else []

def handleDsmInvalidateReq (h : Host) (m : Message) : List Access :=
  dispatch h (read (h.payload m) [(0, 24)]) (invalidateKworker h m)

/-- The first mapping of the segment in the first guest of the pid. -/
def flushKworker (h : Host) (m : Message) : List Access :=
  let b := h.payload m
  if h.kmalloc .reply then
    (match h.guests.find? fun g => g.origPid == b.u32 8 with
      | some g => if b.u32 12 ∈ g.shmids then [pageAccess h m 16] else []
      | none => []) ++ [targetLink m]
  else []

def handleDsmFlushReq (h : Host) (m : Message) : List Access :=
  dispatch h (read (h.payload m) [(0, 24)]) (flushKworker h m)

/-- The offset is at 8 here, and nobody is answered. -/
def updateKworker (h : Host) (m : Message) : List Access :=
  let b := h.payload m
  if (inSegment h (b.u32 0) (b.u32 4) (b.u64 8)).isSome ∧ h.dsmMode = 2 ∧
      ((h.directory 0).entry (b.u32 4)).isSome then
    [pageAccess h m 8]
  else []

def handleDsmPageUpdate (h : Host) (m : Message) : List Access :=
  dispatch h (read (h.payload m) [(0, 4112)]) (updateKworker h m)

/-! ### Nodes and processes -/

def handleHeartbeat (h : Host) (m : Message) : List Access :=
  if h.linkNode = -1 ∧ sender m < maxNodes then [senderLink m] else []

def handleLoadUpdate (h : Host) (m : Message) : List Access :=
  if sender m < maxNodes ∧ m.payload ≠ [] then [.bytes (h.payload m) 0 16, senderLink m] else []

def handleProcessExit (h : Host) (m : Message) : List Access :=
  guarded m (read (h.payload m) [(0, 4)])

def handleKillSurrogate (h : Host) (m : Message) : List Access :=
  guarded m (guestReply h m [])

/-- The surrogate of the first guest that matches is frozen and its blueprint sent, if there is
memory for it. -/
def handleRecallReq (h : Host) (m : Message) : List Access :=
  let b := h.payload m
  guarded m (guestReply h m [] ++
    match h.guests.find? fun g => g.origPid == b.u32 0 && g.homeNode == sender m with
    | some g =>
      if ((h.home 0).task g.localPid).isSome then
        .bytes b 0 4 :: if h.kmalloc .buffer then [targetLink m] else []
      else []
    | none => [.bytes b 0 4])

/-- The node the pump sends to was stored before. -/
def handleReadyForData (h : Host) (_ : Message) : List Access :=
  match h.migrating with
  | some n => if n = -1 then [] else [.index maxNodes n]
  | none => []

/-! ### Blueprints

`threads` is at 20, with 1232 bytes for each, `open_fds` at 20056 and `vmas` at 21085, with 32 bytes
for each. -/

def handleMigrateReq (h : Host) (m : Message) : List Access :=
  guarded m (printed h m [(0, 4)] ++
    if h.kmalloc .buffer then [.bytes (h.payload m) 0 m.payload.length] else [])

def handlePageTransfer (h : Host) (m : Message) : List Access :=
  let b := h.payload m
  if m.payload ≠ [] ∧ h.pending.isSome ∧ h.stub.isSome then
    [.bytes b 0 8, .bytes b 8 4, .bytes b 16 (min (b.u32 8) (h.injectable (b.u64 0)))]
  else []

def threadAt (i : ℕ) : ℕ := 20 + 1232 * i
def fdAt (i : ℕ) : ℕ := 20056 + 4 * i
def vmaAt (i : ℕ) : ℕ := 21085 + 32 * i

/-- Registers, TLS bases, pointers, and as much floating-point state as three sizes allow. -/
def injectThread (p : Buffer) (fpstate : Option ℕ) (i : ℕ) : List Access :=
  (if i < maxGangThreads then [.index maxGangThreads i] else []) ++
    .index maxGangThreads i ::
      read p [(threadAt i + 4, 168), (threadAt i + 172, 8), (threadAt i + 180, 8),
        (threadAt i + 188, 8), (threadAt i + 196, 8)] ++
      (match fpstate with
        | some room => [.bytes p (threadAt i + 204) 4,
            .bytes p (threadAt i + 208) (min (min (p.u32 (threadAt i + 204)) room) 1024)]
        | none => []) ++
      [.strscpy p 19780 16]

/-- The threads whose id lies in their memory, with `count` of them noted before. -/
def tidWords (p : Buffer) (count : ℕ) : List ℕ → List Access
  | [] => []
  | i :: is =>
    if p.u64 (threadAt i + 188) ≠ 0 ∧ count < maxGangThreads then
      .index maxGangThreads count :: .bytes p (threadAt i) 4 :: tidWords p (count + 1) is
    else tidWords p count is

/-- The mappings of segments, with `dsmCount` of them noted before. -/
def armTripwires (p : Buffer) (dsmCount : ℕ) : List ℕ → List Access
  | [] => []
  | v :: vs =>
    .bytes p (vmaAt v + 28) 1 ::
      if p.byte (vmaAt v + 28) ≠ 0 ∧ dsmCount < maxDsmSegments then
        .index maxDsmSegments dsmCount ::
          read p [(vmaAt v, 8), (vmaAt v + 8, 8), (vmaAt v + 24, 4)] ++
          armTripwires p (dsmCount + 1) vs
      else armTripwires p dsmCount vs

/-- The descriptors are taken from the blueprint once for the files and once for the table. -/
def injectFiles (h : Host) (p : Buffer) (s : Stub) : List Access :=
  .bytes p 20052 4 ::
    if h.kmalloc .files then
      (each (p.u32 20052) fun i =>
        .index maxFds i :: .bytes p (fdAt i) 4 ::
          if h.kmalloc .ctx then [.bytes p 0 4] else []) ++
        match s.files with
        | some t => each (p.u32 20052) fun i =>
            .index maxFds i :: .bytes p (fdAt i) 4 ::
              if p.u32 (fdAt i) < t.maxFds then [.index t.maxFds (p.u32 (fdAt i))] else []
        | none => []
    else []

/-- A full registry takes no guest, but may have one of the stub's pid. -/
def registers (h : Host) (s : Stub) : Bool :=
  decide (h.guests.length < maxGuests) || h.guests.any fun g => g.localPid == s.pid

def populateMaps (h : Host) (p : Buffer) (s : Stub) : List Access :=
  (if h.guests.length < maxGuests then [.index maxGuests h.guests.length] else []) ++
    if registers h s then
      .bytes p 16 4 ::
        (each (min (p.u32 16) s.awake) fun i =>
          [.index maxGangThreads i, .bytes p (threadAt i) 4]) ++
        if s.mm then .bytes p 21080 4 :: armTripwires p 0 (List.range (p.u32 21080)) else []
    else []

def handleMigrateDone (h : Host) (_ : Message) : List Access :=
  match h.stub, h.pending with
  | some s, some p =>
    .bytes p 16 4 :: each (min (p.u32 16) s.threads) (injectThread p s.fpstate) ++
      (if s.mm then read p [(19732, 8), (19740, 8), (19748, 8), (19756, 8)] else []) ++
      (if h.kmalloc .creds then read p [(4, 4), (8, 4)] else []) ++
      injectFiles h p s ++
      (if 0 < p.u32 16 then [.bytes p (threadAt 0 + 132) 8] else []) ++
      .bytes p 19772 8 :: .bytes p 0 4 :: populateMaps h p s
  | _, _ => []

def handleReturnDone (h : Host) (_ : Message) : List Access :=
  match h.stub, h.pending with
  | some s, some p =>
    (if 0 < s.threads then [.bytes p 16 4] else []) ++
      each (min (p.u32 16) s.threads) (injectThread p s.fpstate) ++
      tidWords p 0 (List.range (min (p.u32 16) s.threads)) ++
      .bytes p 16 4 ::
      (if s.mm then read p [(19748, 8), (19756, 8)] else []) ++
      [.bytes p 19772 8]
  | _, _ => []

/-- The deputy's memory is carved after the payload itself. -/
def handleReturnBlueprint (h : Host) (m : Message) : List Access :=
  let b := h.payload m
  guarded m (printed h m [(0, 4)] ++ if h.kmalloc .buffer then
      .bytes b 0 m.payload.length :: .bytes b 0 4 ::
        match (h.home 0).task (b.u32 0) with
        | some t =>
          .bytes b 16 4 ::
            (if t.mm then
              .bytes b 21080 4 :: each (b.u32 21080) fun i =>
                read b [(vmaAt i, 8), (vmaAt i + 8, 8), (vmaAt i + 16, 8)]
            else []) ++
            [targetLink m]
        | none => []
    else [])

/-! ### Registration -/

/-- `enum mattx_msg_type`, from 1 on. -/
inductive MsgType where
  | heartbeat | loadUpdate | migrateReq | readyForData | pageTransfer | migrateDone | processExit
  | killSurrogate | syscallFwd | recallReq | returnBlueprint | returnDone | sysOpenReq
  | sysOpenReply | sysCloseReq | sysReadReq | sysReadReply | sysLseekReq | sysLseekReply
  | sysStatxReq | sysStatxReply | sysDupReq | sysDupReply | sysFsyncReq | sysFsyncReply
  | sysSocketReq | sysSocketReply | sysConnectReq | sysConnectReply | sysBindReq | sysBindReply
  | sysListenReq | sysListenReply | sysSendReq | sysSendReply | sysRecvReq | sysRecvReply
  | sysAcceptReq | sysAcceptReply | sysPollReq | sysPollReply | vfsGetattrReq | vfsGetattrReply
  | vfsReaddirReq | vfsReaddirReply | vfsOpenReq | vfsOpenReply | vfsReadReq | vfsReadReply
  | vfsWriteReq | vfsWriteReply | vfsCloseReq | vfsLseekReq | vfsLseekReply | vfsFsyncReq
  | vfsFsyncReply | sysUnlinkReq | sysUnlinkReply | sysEpollCreateReq | sysEpollCreateReply
  | sysEpollCtlReq | sysEpollCtlReply | sysEpollWaitReq | sysEpollWaitReply | sysGetsocknameReq
  | sysGetsocknameReply | sysGetpeernameReq | sysGetpeernameReply | sysSetsockoptReq
  | sysSetsockoptReply | sysGetsockoptReq | sysGetsockoptReply | sysSendmsgReq | sysSendmsgReply
  | sysRecvmsgReq | sysRecvmsgReply | sysUnameReq | sysUnameReply | sysPrlimit64Req
  | sysPrlimit64Reply | sysPrctlReq | sysPrctlReply | sysFcntlReq | sysFcntlReply | sysIoctlReq
  | sysIoctlReply | sysPread64Req | sysPread64Reply | sysStatfsReq | sysStatfsReply
  | sysFstatfsReq | sysFstatfsReply | sysNewfstatatReq | sysNewfstatatReply | sysFaccessat2Req
  | sysFaccessat2Reply | sysReadlinkReq | sysReadlinkReply | sysReadlinkatReq
  | sysReadlinkatReply | sysGetdents64Req | sysGetdents64Reply | sysPipe2Req | sysPipe2Reply
  | sysShmgetReq | sysShmgetReply | sysShmatReq | sysShmatReply | sysShmdtReq | sysShmdtReply
  | sysShmctlReq | sysShmctlReply | dsmPageFaultReq | dsmPageFaultReply | dsmPageUpdate
  | dsmWriteAcquireReq | dsmWriteAcquireReply | dsmInvalidateReq | dsmInvalidateReply
  | dsmFlushReq | dsmFlushReply
  deriving DecidableEq, Repr

def MsgType.all : List MsgType :=
  [.heartbeat, .loadUpdate, .migrateReq, .readyForData, .pageTransfer, .migrateDone,
    .processExit, .killSurrogate, .syscallFwd, .recallReq, .returnBlueprint, .returnDone,
    .sysOpenReq, .sysOpenReply, .sysCloseReq, .sysReadReq, .sysReadReply, .sysLseekReq,
    .sysLseekReply, .sysStatxReq, .sysStatxReply, .sysDupReq, .sysDupReply, .sysFsyncReq,
    .sysFsyncReply, .sysSocketReq, .sysSocketReply, .sysConnectReq, .sysConnectReply,
    .sysBindReq, .sysBindReply, .sysListenReq, .sysListenReply, .sysSendReq, .sysSendReply,
    .sysRecvReq, .sysRecvReply, .sysAcceptReq, .sysAcceptReply, .sysPollReq, .sysPollReply,
    .vfsGetattrReq, .vfsGetattrReply, .vfsReaddirReq, .vfsReaddirReply, .vfsOpenReq,
    .vfsOpenReply, .vfsReadReq, .vfsReadReply, .vfsWriteReq, .vfsWriteReply, .vfsCloseReq,
    .vfsLseekReq, .vfsLseekReply, .vfsFsyncReq, .vfsFsyncReply, .sysUnlinkReq, .sysUnlinkReply,
    .sysEpollCreateReq, .sysEpollCreateReply, .sysEpollCtlReq, .sysEpollCtlReply,
    .sysEpollWaitReq, .sysEpollWaitReply, .sysGetsocknameReq, .sysGetsocknameReply,
    .sysGetpeernameReq, .sysGetpeernameReply, .sysSetsockoptReq, .sysSetsockoptReply,
    .sysGetsockoptReq, .sysGetsockoptReply, .sysSendmsgReq, .sysSendmsgReply, .sysRecvmsgReq,
    .sysRecvmsgReply, .sysUnameReq, .sysUnameReply, .sysPrlimit64Req, .sysPrlimit64Reply,
    .sysPrctlReq, .sysPrctlReply, .sysFcntlReq, .sysFcntlReply, .sysIoctlReq, .sysIoctlReply,
    .sysPread64Req, .sysPread64Reply, .sysStatfsReq, .sysStatfsReply, .sysFstatfsReq,
    .sysFstatfsReply, .sysNewfstatatReq, .sysNewfstatatReply, .sysFaccessat2Req,
    .sysFaccessat2Reply, .sysReadlinkReq, .sysReadlinkReply, .sysReadlinkatReq,
    .sysReadlinkatReply, .sysGetdents64Req, .sysGetdents64Reply, .sysPipe2Req, .sysPipe2Reply,
    .sysShmgetReq, .sysShmgetReply, .sysShmatReq, .sysShmatReply, .sysShmdtReq, .sysShmdtReply,
    .sysShmctlReq, .sysShmctlReply, .dsmPageFaultReq, .dsmPageFaultReply, .dsmPageUpdate,
    .dsmWriteAcquireReq, .dsmWriteAcquireReply, .dsmInvalidateReq, .dsmInvalidateReply,
    .dsmFlushReq, .dsmFlushReply]

/-- The entry of `msg_handlers`; there is none for the reply to an invalidation. -/
def handlerOf (h : Host) (m : Message) : MsgType → List Access
  | .heartbeat => handleHeartbeat h m
  | .loadUpdate => handleLoadUpdate h m
  | .migrateReq => handleMigrateReq h m
  | .readyForData => handleReadyForData h m
  | .pageTransfer => handlePageTransfer h m
  | .migrateDone => handleMigrateDone h m
  | .processExit => handleProcessExit h m
  | .killSurrogate => handleKillSurrogate h m
  | .syscallFwd => handleSyscallFwd h m
  | .recallReq => handleRecallReq h m
  | .returnBlueprint => handleReturnBlueprint h m
  | .returnDone => handleReturnDone h m
  | .sysOpenReq => handleSysOpenReq h m
  | .sysOpenReply => handleSysOpenReply h m
  | .sysCloseReq => handleSysCloseReq h m
  | .sysReadReq => handleSysReadReq h m
  | .sysReadReply => handleSysReadReply h m
  | .sysLseekReq => handleSysLseekReq h m
  | .sysLseekReply => handleSysLseekReply h m
  | .sysStatxReq => handleSysStatxReq h m
  | .sysStatxReply => handleSysStatxReply h m
  | .sysDupReq => handleSysDupReq h m
  | .sysDupReply => handleSysDupReply h m
  | .sysFsyncReq => handleSysFsyncReq h m
  | .sysFsyncReply => handleSysFsyncReply h m
  | .sysSocketReq => handleSysSocketReq h m
  | .sysSocketReply => handleSysSocketReply h m
  | .sysConnectReq => handleSysConnectReq h m
  | .sysConnectReply => handleSysConnectReply h m
  | .sysBindReq => handleSysBindReq h m
  | .sysBindReply => handleSysGenericIntReply h m
  | .sysListenReq => handleSysListenReq h m
  | .sysListenReply => handleSysGenericIntReply h m
  | .sysSendReq => handleSysSendReq h m
  | .sysSendReply => handleSysGenericIntReply h m
  | .sysRecvReq => handleSysRecvReq h m
  | .sysRecvReply => handleSysRecvReply h m
  | .sysAcceptReq => handleSysAcceptReq h m
  | .sysAcceptReply => handleSysAcceptReply h m
  | .sysPollReq => handleSysPollReq h m
  | .sysPollReply => handleSysPollReply h m
  | .vfsGetattrReq => handleVfsGetattrReq h m
  | .vfsGetattrReply => handleVfsGetattrReply h m
  | .vfsReaddirReq => handleVfsReaddirReq h m
  | .vfsReaddirReply => handleVfsReaddirReply h m
  | .vfsOpenReq => handleVfsOpenReq h m
  | .vfsOpenReply => handleVfsOpenReply h m
  | .vfsReadReq => handleVfsReadReq h m
  | .vfsReadReply => handleVfsReadReply h m
  | .vfsWriteReq => handleVfsWriteReq h m
  | .vfsWriteReply => handleVfsWriteReply h m
  | .vfsCloseReq => handleVfsCloseReq h m
  | .vfsLseekReq => handleVfsLseekReq h m
  | .vfsLseekReply => handleVfsLseekReply h m
  | .vfsFsyncReq => handleVfsFsyncReq h m
  | .vfsFsyncReply => handleVfsFsyncReply h m
  | .sysUnlinkReq => handleSysUnlinkReq h m
  | .sysUnlinkReply => handleSysUnlinkReply h m
  | .sysEpollCreateReq => handleSysEpollCreateReq h m
  | .sysEpollCreateReply => handleSysEpollCreateReply h m
  | .sysEpollCtlReq => handleSysEpollCtlReq h m
  | .sysEpollCtlReply => handleSysGenericIntReply h m
  | .sysEpollWaitReq => handleSysEpollWaitReq h m
  | .sysEpollWaitReply => handleSysEpollWaitReply h m
  | .sysGetsocknameReq => handleSysGetsocknameReq h m
  | .sysGetsocknameReply => handleSysSocknameReply h m
  | .sysGetpeernameReq => handleSysGetpeernameReq h m
  | .sysGetpeernameReply => handleSysSocknameReply h m
  | .sysSetsockoptReq => handleSysSetsockoptReq h m
  | .sysSetsockoptReply => handleSysGenericIntReply h m
  | .sysGetsockoptReq => handleSysGetsockoptReq h m
  | .sysGetsockoptReply => handleSysGetsockoptReply h m
  | .sysSendmsgReq => handleSysSendmsgReq h m
  | .sysSendmsgReply => handleSysSendmsgReply h m
  | .sysRecvmsgReq => handleSysRecvmsgReq h m
  | .sysRecvmsgReply => handleSysRecvmsgReply h m
  | .sysUnameReq => handleSysUnameReq h m
  | .sysUnameReply => handleSysUnameReply h m
  | .sysPrlimit64Req => handleSysPrlimit64Req h m
  | .sysPrlimit64Reply => handleSysPrlimit64Reply h m
  | .sysPrctlReq => handleSysPrctlReq h m
  | .sysPrctlReply => handleSysGenericIntReply h m
  | .sysFcntlReq => handleSysFcntlReq h m
  | .sysFcntlReply => handleSysFioReply h m
  | .sysIoctlReq => handleSysIoctlReq h m
  | .sysIoctlReply => handleSysFioReply h m
  | .sysPread64Req => handleSysPread64Req h m
  | .sysPread64Reply => handleSysReadReply h m
  | .sysStatfsReq => handleSysStatfsReq h m
  | .sysStatfsReply => handleSysStatfsReply h m
  | .sysFstatfsReq => handleSysFstatfsReq h m
  | .sysFstatfsReply => handleSysFstatfsReply h m
  | .sysNewfstatatReq => handleSysNewfstatatReq h m
  | .sysNewfstatatReply => handleSysNewfstatatReply h m
  | .sysFaccessat2Req => handleSysFaccessat2Req h m
  | .sysFaccessat2Reply => handleSysGenericIntReply h m
  | .sysReadlinkReq => handleSysReadlinkReq h m
  | .sysReadlinkReply => handleSysReadlinkReply h m
  | .sysReadlinkatReq => handleSysReadlinkatReq h m
  | .sysReadlinkatReply => handleSysReadlinkatReply h m
  | .sysGetdents64Req => handleSysGetdents64Req h m
  | .sysGetdents64Reply => handleSysGetdents64Reply h m
  | .sysPipe2Req => handleSysPipe2Req h m
  | .sysPipe2Reply => handleSysPipe2Reply h m
  | .sysShmgetReq => handleSysShmgetReq h m
  | .sysShmgetReply => handleSysShmgetReply h m
  | .sysShmatReq => handleSysShmatReq h m
  | .sysShmatReply => handleSysShmatReply h m
  | .sysShmdtReq => handleSysShmdtReq h m
  | .sysShmdtReply => handleSysShmdtReply h m
  | .sysShmctlReq => handleSysShmctlReq h m
  | .sysShmctlReply => handleSysShmctlReply h m
  | .dsmPageFaultReq => handleDsmPageFaultReq h m
  | .dsmPageFaultReply => handleDsmPageFaultReply h m
  | .dsmPageUpdate => handleDsmPageUpdate h m
  | .dsmWriteAcquireReq => handleDsmWriteAcquireReq h m
  | .dsmWriteAcquireReply => handleDsmWriteAcquireReply h m
  | .dsmInvalidateReq => handleDsmInvalidateReq h m
  | .dsmInvalidateReply => []
  | .dsmFlushReq => handleDsmFlushReq h m
  | .dsmFlushReply => handleDsmFlushReply h m

def msgType (w : BitVec 32) : Option MsgType :=
  if w = 0 then none else MsgType.all[w.toNat - 1]?

/-- `mattx_handle_message` -/
def handleMessage (h : Host) (m : Message) : List Access :=
  match msgType m.type with
  | some t => handlerOf h m t
  | none => []

end MattX.MessageHandlers
