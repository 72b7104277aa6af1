import MattX.InterceptionHandlers
import MattX.RequestHandlers
import Mathlib.Logic.Function.Basic

set_option autoImplicit false

/-!
# Files that MattXFS has open on other nodes

Each node keeps the files it opened for others in `mfs_open_files`; a client
names one by the node and the index there. Which file an open is about is
written down with its reply, its handle and every request that uses it, beside
what the code sends.
-/
namespace MattX.VfsHandles
open GuardedRuns VfsRpc
open RequestHandlers (maxFds)

def enfile : ℤ := -23

/-- One `struct file` of the cluster. -/
abbrev File := ℕ

/-- The `private_data` of an open file of MattXFS, whose it is, and the file its open opened. -/
structure Handle where
  client : ℕ
  node : ℕ
  fd : ℕ
  file : Option File
  deriving DecidableEq

/-- The calls that name a file by its index. -/
inductive Op where
  | read | write | llseek | fsync
  deriving DecidableEq

/-- What a slot of `vfs_rpc_registry` is taken for. -/
inductive Want where
  | open
  | use (op : Op) (h : Handle)
  | other
  deriving DecidableEq

/-- A slot in use, and the call that has it. `file` is the file of a reply to an open. -/
structure Call where
  client : ℕ
  slot : Fin maxVfsRpc
  reqId : ℕ
  server : ℕ
  want : Want
  done : Bool
  error : ℤ
  remoteFd : ℕ
  file : Option File
  deriving DecidableEq

def Call.uses (c : Call) (h : Handle) : Bool :=
  match c.want with
  | .use _ x => x == h
  | _ => false

inductive Msg where
  | openReq (reqId : ℕ)
  | openReply (reqId : ℕ) (error : ℤ) (remoteFd : ℕ) (file : Option File)
  | useReq (reqId : ℕ) (op : Op) (h : Handle)
  | useReply (reqId : ℕ) (op : Op) (error : ℤ)
  | otherReq (reqId : ℕ)
  | otherReply (reqId : ℕ) (error : ℤ)
  | closeReq (h : Handle)
  deriving DecidableEq

/-- A message under way on one connection. -/
structure Packet where
  src : ℕ
  dst : ℕ
  conn : ℕ
  msg : Msg
  deriving DecidableEq

/-- Which file an operation on a handle reached, if any. -/
structure Access where
  handle : Handle
  reached : Option File
  deriving DecidableEq

/-- `link n d` is the connection in `cluster_map[d]` on node n. `leftover` is what the last user of
a slot left in `error` and `remote_fd`. -/
structure State where
  hpcLocalLibs : ℕ → Bool
  link : ℕ → ℕ → Option ℕ
  table : ℕ → ℕ → Option File
  calls : List Call
  leftover : ℕ → Fin maxVfsRpc → ℤ × ℕ
  nextReqId : ℕ → ℕ
  wire : List Packet
  handles : List Handle
  nextFile : File
  log : List Access

/-- The nodes after loading the module. -/
def boot : State where
  hpcLocalLibs _ := false
  link _ _ := none
  table _ _ := none
  calls := []
  leftover _ _ := (0, 0)
  nextReqId _ := 1
  wire := []
  handles := []
  nextFile := 0
  log := []

/-! ### The tables -/

/-- The entry an index leads to; an index past the end leads nowhere. -/
def lookup (s : State) (n fd : ℕ) : Option File := if fd < maxFds then s.table n fd else none

def freeFd (s : State) (n : ℕ) : Option ℕ :=
  (List.range maxFds).find? fun fd => (s.table n fd).isNone

def setFd (s : State) (n fd : ℕ) (f : Option File) : State :=
  { s with table := Function.update s.table n (Function.update (s.table n) fd f) }

/-- Closing an index that leads nowhere does nothing. -/
def clearFd (s : State) (n fd : ℕ) : State := if fd < maxFds then setFd s n fd none else s

def access (s : State) (n : ℕ) (h : Handle) : State :=
  { s with log := s.log ++ [⟨h, lookup s n h.fd⟩] }

/-- The new file goes to the first free index; without one it is dropped again. -/
def install (s : State) (n : ℕ) : State × Option (ℕ × File) :=
  let s' := { s with nextFile := s.nextFile + 1 }
  match freeFd s n with
  | none => (s', none)
  | some fd => (setFd s' n fd (some s.nextFile), some (fd, s.nextFile))

/-! ### The registry -/

def inUse (s : State) (n : ℕ) (i : Fin maxVfsRpc) : Bool :=
  s.calls.any fun c => c.client == n && c.slot == i

def freeSlot (s : State) (n : ℕ) : Option (Fin maxVfsRpc) :=
  (List.finRange maxVfsRpc).find? fun i => !inUse s n i

/-- The first slot in use with that id. -/
def pending (s : State) (n reqId : ℕ) : Option Call :=
  (List.finRange maxVfsRpc).findSome? fun i =>
    s.calls.find? fun c => c.client == n && c.slot == i && c.reqId == reqId

/-- `mattx_comm_send` on the connection that `cluster_map` has; its result is ignored. -/
def post (s : State) (src dst : ℕ) (msg : Msg) (sent : Bool) : State :=
  match s.link src dst with
  | none => s
  | some conn => if sent then { s with wire := s.wire ++ [⟨src, dst, conn, msg⟩] } else s

/-- Take a slot and send the request, unless there is no connection or no slot. -/
def request (s : State) (n d : ℕ) (want : Want) (msg : ℕ → Msg) (sent : Bool) : State :=
  match s.link n d, freeSlot s n with
  | some _, some i =>
    let c : Call := ⟨n, i, s.nextReqId n, d, want, false, (s.leftover n i).1, (s.leftover n i).2,
      none⟩
    let s' :=
      { s with
        calls := c :: s.calls
        nextReqId := Function.update s.nextReqId n ((s.nextReqId n + 1) % 2 ^ 64) }
    post s' n d (msg c.reqId) sent
  | _, _ => s

/-- What the handler of each reply writes to the slot. -/
def Call.fill (c : Call) : Msg → Call
  | .openReply _ error remoteFd file => { c with error, remoteFd, file, done := true }
  | .useReply _ .read _ => { c with done := true }
  | .useReply _ _ error => { c with error, done := true }
  | .otherReply _ error => { c with error, done := true }
  | _ => c

def fillCall (s : State) (c : Call) (m : Msg) : State :=
  { s with calls := c.fill m :: s.calls.erase c }

def handleReply (s : State) (n reqId : ℕ) (m : Msg) : State :=
  match pending s n reqId with
  | none => s
  | some c => fillCall s c m

def release (s : State) (c : Call) : State :=
  { s with
    calls := s.calls.erase c
    leftover := Function.update s.leftover c.client
      (Function.update (s.leftover c.client) c.slot (c.error, c.remoteFd)) }

/-! ### Client -/

/-- `mattx_rpc_vfs_close` -/
def rpcVfsClose (s : State) (h : Handle) (sent : Bool) : State :=
  if h.node = h.client then clearFd (access s h.client h) h.client h.fd
  else post s h.client h.node (.closeReq h) sent

/-- The end of `mattxfs_remote_file_open`; without memory for the handle the file is closed. -/
def keep (s : State) (h : Handle) (alloc sent : Bool) : State :=
  if alloc then { s with handles := h :: s.handles } else rpcVfsClose s h sent

/-- `mattxfs_remote_file_open` up to the wait. `err` is the result of a local `filp_open`. -/
def remoteFileOpen (s : State) (n d : ℕ) (path : Bytes) (err : ℤ) (alloc sent : Bool) : State :=
  if d = n ∨ s.hpcLocalLibs n = true ∧ InterceptionHandlers.isHpcLocalLib path = true then
    if err = 0 then
      match install s n with
      | (s', none) => s'
      | (s', some (fd, f)) => keep s' ⟨n, d, fd, some f⟩ alloc sent
    else s
  else request s n d .open .openReq sent

/-- The calls that name a file: on the spot where the node is the client's own, else by request. -/
def rpcVfsUse (s : State) (op : Op) (h : Handle) (sent : Bool) : State :=
  if h.node = h.client then access s h.client h
  else request s h.client h.node (.use op h) (.useReq · op h) sent

/-- After the wait. -/
def finish (s : State) (c : Call) (alloc sent : Bool) : State :=
  let s' := release s c
  if c.want = .open ∧ c.error = 0 then keep s' ⟨c.client, c.server, c.remoteFd, c.file⟩ alloc sent
  else s'

/-- `mattxfs_remote_file_release` -/
def remoteFileRelease (s : State) (h : Handle) (sent : Bool) : State :=
  rpcVfsClose { s with handles := s.handles.erase h } h sent

/-! ### Server -/

def handleVfsOpenReq (s : State) (n client reqId : ℕ) (err : ℤ) (sent : Bool) : State :=
  if err = 0 then
    match install s n with
    | (s', none) => post s' n client (.openReply reqId enfile 0 none) sent
    | (s', some (fd, f)) => post s' n client (.openReply reqId 0 fd (some f)) sent
  else post s n client (.openReply reqId err 0 none) sent

/-- A read of an index that leads nowhere is not answered. -/
def handleVfsUseReq (s : State) (n client reqId : ℕ) (op : Op) (h : Handle) (err : ℤ)
    (sent : Bool) : State :=
  if op = .read ∧ lookup s n h.fd = none then access s n h
  else post (access s n h) n client (.useReply reqId op err) sent

/-- The closed file is no longer in the table when it is let go. -/
def handleVfsCloseReq (s : State) (n : ℕ) (h : Handle) : State := clearFd (access s n h) n h.fd

/-- The handler of a message. `err` is what `filp_open` or the file itself says. -/
def handle (s : State) (p : Packet) (err : ℤ) (sent : Bool) : State :=
  match p.msg with
  | .openReq reqId => handleVfsOpenReq s p.dst p.src reqId err sent
  | .useReq reqId op h => handleVfsUseReq s p.dst p.src reqId op h err sent
  | .otherReq reqId => post s p.dst p.src (.otherReply reqId err) sent
  | .closeReq h => handleVfsCloseReq s p.dst h
  | .openReply reqId .. => handleReply s p.dst reqId p.msg
  | .useReply reqId .. => handleReply s p.dst reqId p.msg
  | .otherReply reqId _ => handleReply s p.dst reqId p.msg

/-! ### Runs -/

/-- `alloc` and `sent` say whether memory was had and the send went through. `other` is a call of
another kind that uses the registry. -/
inductive Event where
  | setHpc (n : ℕ) (on : Bool)
  | relink (n d : ℕ) (conn : Option ℕ)
  | open (n d : ℕ) (path : Bytes) (err : ℤ) (alloc sent : Bool)
  | use (op : Op) (h : Handle) (sent : Bool)
  | other (n d : ℕ) (sent : Bool)
  | finish (c : Call) (interrupted alloc sent : Bool)
  | close (h : Handle) (sent : Bool)
  | deliver (i : ℕ) (err : ℤ) (sent : Bool)
  | lose (i : ℕ)

/-- Nothing sent before it on the same connection is still under way. -/
def First (wire : List Packet) (i : ℕ) : Prop :=
  ∀ p ∈ wire[i]?, ∀ q ∈ wire.take i, ¬(q.src = p.src ∧ q.dst = p.dst ∧ q.conn = p.conn)

/-- The file of a handle is let go when no call on it is left. -/
def enabled (s : State) : Event → Prop
  | .use _ h _ => h ∈ s.handles
  | .other n d _ => d ≠ n
  | .finish c interrupted _ _ => c ∈ s.calls ∧ (c.done = true ∨ interrupted = true)
  | .close h _ => h ∈ s.handles ∧ ∀ c ∈ s.calls, c.uses h = false
  | .deliver i _ _ => i < s.wire.length ∧ First s.wire i
  | .lose i => i < s.wire.length
  | _ => True

instance (wire : List Packet) (i : ℕ) : Decidable (First wire i) :=
  inferInstanceAs (Decidable (∀ p ∈ wire[i]?, ∀ q ∈ wire.take i, _))

instance (s : State) (e : Event) : Decidable (enabled s e) :=
  match e with
  | .use _ h _ => inferInstanceAs (Decidable (h ∈ s.handles))
  | .other n d _ => inferInstanceAs (Decidable (d ≠ n))
  | .finish c interrupted _ _ =>
    inferInstanceAs (Decidable (c ∈ s.calls ∧ (c.done = true ∨ interrupted = true)))
  | .close h _ => inferInstanceAs (Decidable (h ∈ s.handles ∧ ∀ c ∈ s.calls, c.uses h = false))
  | .deliver i _ _ => inferInstanceAs (Decidable (i < s.wire.length ∧ First s.wire i))
  | .lose i => inferInstanceAs (Decidable (i < s.wire.length))
  | .setHpc .. | .relink .. | .open .. => isTrue trivial

def drop (s : State) (i : ℕ) : State := { s with wire := s.wire.eraseIdx i }

def next (s : State) : Event → State
  | .setHpc n on => { s with hpcLocalLibs := Function.update s.hpcLocalLibs n on }
  | .relink n d conn =>
    { s with link := Function.update s.link n (Function.update (s.link n) d conn) }
  | .open n d path err alloc sent => remoteFileOpen s n d path err alloc sent
  | .use op h sent => rpcVfsUse s op h sent
  | .other n d sent => request s n d .other .otherReq sent
  | .finish c _ alloc sent => finish s c alloc sent
  | .close h sent => remoteFileRelease s h sent
  | .deliver i err sent =>
    match s.wire[i]? with
    | none => s
    | some p => handle (drop s i) p err sent
  | .lose i => drop s i

def machine : Machine State Event := ⟨enabled, next⟩

instance (s : State) (e : Event) : Decidable (machine.enabled s e) :=
  inferInstanceAs (Decidable (enabled s e))

end MattX.VfsHandles
