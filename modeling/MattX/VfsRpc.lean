import MattX.GuardedRuns
import MattX.DsmTypes
import Mathlib.Algebra.Order.Group.Nat
import Mathlib.Data.Int.Notation
import Mathlib.Data.List.FinRange

set_option autoImplicit false

/-!
# The table of pending file system and page requests

One node's `vfs_rpc_registry`. A caller takes a free slot, sends its request,
sleeps until `done` or a signal, reads the result out of the slot and gives
the slot back. Nothing clears the result fields in between.
-/
namespace MattX.VfsRpc
open GuardedRuns

abbrev maxVfsRpc : ℕ := 64

/-- What the callers of the registry ask for. -/
inductive Kind where
  | dsmFault
  | writeAcquire
  | flush
  | getattr
  | readdir
  | open
  | read
  | write
  | llseek
  | fsync
  | unlink
  deriving DecidableEq, Repr

/-- The `kstat` fields a reply carries. -/
structure Stat where
  mode : ℕ
  size : ℕ
  blocks : ℕ
  blksize : ℕ
  uid : ℕ
  gid : ℕ
  nlink : ℕ
  deriving DecidableEq

structure Dirent where
  ino : ℕ
  offset : ℕ
  type : ℕ
  name : String
  deriving DecidableEq

/-- `struct vfs_rpc_ctx`. A buffer pointer names the caller whose buffer it is. -/
structure Ctx where
  reqId : ℕ
  done : Bool
  error : ℤ
  stat : Stat
  dirents : Option ℕ
  direntCount : ℕ
  newOffset : ℕ
  remoteFd : ℤ
  bytesRw : ℤ
  dataBuf : Option ℕ
  retOffset : ℤ
  inUse : Bool
  deriving DecidableEq

/-- A reply without its request id. -/
inductive Body where
  | dsmPageFault (error : ℤ) (data : Bytes)
  | writeAcquire (error : ℤ)
  | flush (error : ℤ) (data : Bytes)
  | getattr (error : ℤ) (stat : Stat)
  | readdir (error : ℤ) (newOffset : ℕ) (entries : List Dirent)
  | open (remoteFd error : ℤ)
  | read (bytesRead error : ℤ) (data : Bytes)
  | write (bytesWritten error : ℤ)
  | lseek (offset error : ℤ)
  | fsync (error : ℤ)
  | unlink (error : ℤ)
  deriving DecidableEq

def Body.kind : Body → Kind
  | .dsmPageFault .. => .dsmFault
  | .writeAcquire _ => .writeAcquire
  | .flush .. => .flush
  | .getattr .. => .getattr
  | .readdir .. => .readdir
  | .open .. => .open
  | .read .. => .read
  | .write .. => .write
  | .lseek .. => .llseek
  | .fsync _ => .fsync
  | .unlink _ => .unlink

/-- What the request handlers send: whole pages, and as many bytes as the count says. -/
def Body.WellFormed : Body → Prop
  | .dsmPageFault _ data => data.length = pageSize
  | .flush _ data => data.length = pageSize
  | .read n _ data => data.length = n.toNat
  | _ => True

instance : DecidablePred Body.WellFormed := fun b => by
  cases b <;> unfold Body.WellFormed <;> infer_instance

structure Request where
  reqId : ℕ
  kind : Kind
  deriving DecidableEq

structure Reply where
  reqId : ℕ
  body : Body
  deriving DecidableEq

def memcpy {α : Type} (dst src : List α) (n : ℕ) : List α := src.take n ++ dst.drop n

/-- The fields the reply handler of each kind writes. -/
def Body.fill (b : Body) (c : Ctx) : Ctx :=
  match b with
  | .dsmPageFault error _ => { c with error, done := true }
  | .writeAcquire error => { c with error, done := true }
  | .flush error _ => { c with error, done := true }
  | .getattr error stat =>
    if error = 0 then { c with error, stat, done := true } else { c with error, done := true }
  | .readdir error newOffset entries =>
    if error = 0 then { c with error, newOffset, direntCount := entries.length, done := true }
    else { c with error, done := true }
  | .open remoteFd error => { c with error, remoteFd, done := true }
  | .read n _ _ => { c with bytesRw := n, done := true }
  | .write n error => { c with bytesRw := n, error, done := true }
  | .lseek offset error => { c with error, retOffset := offset, done := true }
  | .fsync error => { c with error, done := true }
  | .unlink error => { c with error, done := true }

/-- What the handler copies to `data_buf`. -/
def Body.pour (b : Body) (buf : Bytes) : Bytes :=
  match b with
  | .dsmPageFault error data => if error = 0 then memcpy buf data pageSize else buf
  | .flush error data => if error = 0 then memcpy buf data pageSize else buf
  | .read n _ data => if 0 < n then memcpy buf data n.toNat else buf
  | _ => buf

/-- What the handler copies to `dirents`. -/
def Body.list (b : Body) (entries : List Dirent) : List Dirent :=
  match b with
  | .readdir error _ sent => if error = 0 then memcpy entries sent sent.length else entries
  | _ => entries

/-- What a call hands back: a fault code, an error code, or a count or offset. -/
inductive Ret where
  | noPage
  | upgraded
  | sigbus
  | sigsegv
  | retry
  | status (err : ℤ)
  | count (n : ℤ)
  deriving DecidableEq

/-- The return value and what the call goes on to use. -/
structure Outcome where
  ret : Ret
  remoteFd : Option ℤ := none
  offset : Option ℕ := none
  stat : Option Stat := none
  entries : Option (List Dirent) := none
  data : Option Bytes := none
  deriving DecidableEq

def Ret.IsError : Ret → Prop
  | .noPage | .upgraded => False
  | .sigbus | .sigsegv | .retry => True
  | .status err => err ≠ 0
  | .count n => n < 0

instance : DecidablePred Ret.IsError := fun r => by
  cases r <;> unfold Ret.IsError <;> infer_instance

/-- An error, and nothing taken from the slot or the buffers. -/
def Outcome.Failed (o : Outcome) : Prop :=
  o.ret.IsError ∧ o.remoteFd = none ∧ o.offset = none ∧ o.stat = none ∧ o.entries = none ∧
    o.data = none

instance : DecidablePred Outcome.Failed := fun o => by unfold Outcome.Failed; infer_instance

/-- What each caller makes of the fields it reads and of its buffers. Only the write acquire
looks at what `wait_event_interruptible` returned. -/
def Kind.conclude (k : Kind) (interrupted : Bool) (c : Ctx) (buf : Bytes)
    (entries : List Dirent) : Outcome :=
  match k with
  | .dsmFault =>
    if c.error ≠ 0 then { ret := .sigsegv } else { ret := .noPage, data := some (buf.take pageSize) }
  | .writeAcquire =>
    if interrupted then { ret := .retry }
    else if c.error ≠ 0 then { ret := .sigbus } else { ret := .upgraded }
  | .flush =>
    if c.error = 0 then { ret := .status 0, data := some (buf.take pageSize) }
    else { ret := .status c.error }
  | .getattr =>
    if c.error = 0 then { ret := .status 0, stat := some c.stat } else { ret := .status c.error }
  | .readdir =>
    if c.error = 0 then
      { ret := .status 0, offset := some c.newOffset, entries := some (entries.take c.direntCount) }
    else { ret := .status c.error }
  | .open =>
    if c.error = 0 then { ret := .status 0, remoteFd := some c.remoteFd }
    else { ret := .status c.error }
  | .read =>
    if 0 < c.bytesRw then { ret := .count c.bytesRw, data := some (buf.take c.bytesRw.toNat) }
    else { ret := .count c.bytesRw }
  | .write => { ret := .count c.bytesRw }
  | .llseek => { ret := .count (if c.error = 0 then c.retOffset else c.error) }
  | .fsync => { ret := .status c.error }
  | .unlink => { ret := .status c.error }

/-- The call without a free slot. A flush then copies nothing. -/
def Kind.refused : Kind → Outcome
  | .dsmFault => { ret := .sigsegv }
  | .writeAcquire => { ret := .sigbus }
  | .flush | .getattr | .readdir | .open | .fsync | .unlink => { ret := .status (-16) }
  | .read | .write | .llseek => { ret := .count (-16) }

/-- The callers that set `data_buf` when they take a slot. -/
def Kind.setsDataBuf (k : Kind) : Bool := k == .dsmFault || k == .flush || k == .read

/-- How far a call has come. `collected` keeps the fields as they were read. -/
inductive Phase where
  | idle
  | allocated
  | waiting
  | woken (interrupted : Bool)
  | collected (interrupted : Bool) (seen : Ctx)
  | returned (o : Outcome) (interrupted : Bool)
  | refused (o : Outcome)
  deriving DecidableEq

structure Caller where
  kind : Kind
  reqId : ℕ
  slot : Fin maxVfsRpc
  buf : Bytes
  entries : List Dirent
  phase : Phase

/-- Between taking a slot and giving it back. -/
def Phase.Active : Phase → Prop
  | .allocated | .waiting | .woken _ | .collected .. => True
  | .idle | .returned .. | .refused _ => False

instance : DecidablePred Phase.Active := fun p => by
  cases p <;> unfold Phase.Active <;> infer_instance

/-- The registry, the threads that use it, and the messages between this node and its peers.
Requests wait for the peer that serves them; replies stay, as one may come late or twice. -/
structure State where
  registry : Fin maxVfsRpc → Ctx
  nextReqId : ℕ
  callers : ℕ → Caller
  requests : List Request
  replies : List Reply

def freeSlot (s : State) : Option (Fin maxVfsRpc) :=
  (List.finRange maxVfsRpc).find? fun i => !(s.registry i).inUse

/-- The slot a reply handler stops at. -/
def pendingSlot (s : State) (reqId : ℕ) : Option (Fin maxVfsRpc) :=
  (List.finRange maxVfsRpc).find? fun i =>
    (s.registry i).inUse && (s.registry i).reqId == reqId

def setPhase (s : State) (t : ℕ) (p : Phase) : State :=
  { s with callers := Function.update s.callers t { s.callers t with phase := p } }

def claimSlot (k : Kind) (t reqId : ℕ) (c : Ctx) : Ctx :=
  { c with
    inUse := true
    reqId
    done := false
    dataBuf := if k.setsDataBuf then some t else c.dataBuf
    dirents := if k = .readdir then some t else c.dirents }

/-- `buf` and `entries` are what the caller's memory holds before the call. -/
def allocate (s : State) (t : ℕ) (k : Kind) (buf : Bytes) (entries : List Dirent) : State :=
  match freeSlot s with
  | none =>
    { s with
      callers := Function.update s.callers t
        { s.callers t with kind := k, buf, entries, phase := .refused k.refused } }
  | some i =>
    { s with
      registry := Function.update s.registry i (claimSlot k t s.nextReqId (s.registry i))
      nextReqId := (s.nextReqId + 1) % 2 ^ 64
      callers := Function.update s.callers t
        { kind := k, reqId := s.nextReqId, slot := i, buf, entries, phase := .allocated } }

/-- The result of `mattx_comm_send` is ignored: without a link the call waits all the same. -/
def send (s : State) (t : ℕ) (sent : Bool) : State :=
  let s' := setPhase s t .waiting
  if sent then
    { s' with requests := s.requests ++ [⟨(s.callers t).reqId, (s.callers t).kind⟩] }
  else s'

def serve (s : State) (q : Request) (b : Body) : State :=
  { s with requests := s.requests.erase q, replies := s.replies ++ [⟨q.reqId, b⟩] }

def pourInto (b : Body) (p : Option ℕ) (callers : ℕ → Caller) : ℕ → Caller :=
  match p with
  | none => callers
  | some u => Function.update callers u { callers u with buf := b.pour (callers u).buf }

def listInto (b : Body) (p : Option ℕ) (callers : ℕ → Caller) : ℕ → Caller :=
  match p with
  | none => callers
  | some u => Function.update callers u { callers u with entries := b.list (callers u).entries }

def handleReply (s : State) (r : Reply) : State :=
  match pendingSlot s r.reqId with
  | none => s
  | some i =>
    { s with
      registry := Function.update s.registry i (r.body.fill (s.registry i))
      callers := listInto r.body (s.registry i).dirents
        (pourInto r.body (s.registry i).dataBuf s.callers) }

def collect (s : State) (t : ℕ) (interrupted : Bool) : State :=
  setPhase s t (.collected interrupted (s.registry (s.callers t).slot))

def release (s : State) (t : ℕ) (interrupted : Bool) (seen : Ctx) : State :=
  let c := s.callers t
  let s' := setPhase s t
    (.returned (c.kind.conclude interrupted seen c.buf c.entries) interrupted)
  { s' with
    registry := Function.update s.registry c.slot { s.registry c.slot with inUse := false } }

inductive Event where
  | allocate (t : ℕ) (k : Kind) (buf : Bytes) (entries : List Dirent)
  | send (t : ℕ) (sent : Bool)
  | serve (q : Request) (b : Body)
  | deliver (r : Reply)
  | wake (t : ℕ)
  | signal (t : ℕ)
  | collect (t : ℕ) (interrupted : Bool)
  | release (t : ℕ) (interrupted : Bool) (seen : Ctx)
  deriving DecidableEq

/-- A signal ends a wait only while `done` is unset, and never one of a kworker. -/
def Enabled (s : State) : Event → Prop
  | .allocate t .. => ¬ (s.callers t).phase.Active
  | .send t _ => (s.callers t).phase = .allocated
  | .serve q b => q ∈ s.requests ∧ b.kind = q.kind ∧ b.WellFormed
  | .deliver r => r ∈ s.replies
  | .wake t => (s.callers t).phase = .waiting ∧ (s.registry (s.callers t).slot).done = true
  | .signal t => (s.callers t).phase = .waiting ∧ (s.callers t).kind ≠ .flush ∧
      (s.registry (s.callers t).slot).done = false
  | .collect t interrupted => (s.callers t).phase = .woken interrupted
  | .release t interrupted seen => (s.callers t).phase = .collected interrupted seen

def next (s : State) : Event → State
  | .allocate t k buf entries => allocate s t k buf entries
  | .send t sent => send s t sent
  | .serve q b => serve s q b
  | .deliver r => handleReply s r
  | .wake t => setPhase s t (.woken false)
  | .signal t => setPhase s t (.woken true)
  | .collect t interrupted => collect s t interrupted
  | .release t interrupted seen => release s t interrupted seen

instance (s : State) : DecidablePred (Enabled s) := fun e => by
  cases e <;> unfold Enabled <;> infer_instance

def machine : Machine State Event := ⟨Enabled, next⟩

instance (s : State) : DecidablePred (machine.enabled s) :=
  inferInstanceAs (DecidablePred (Enabled s))

def blankCtx : Ctx where
  reqId := 0
  done := false
  error := 0
  stat := ⟨0, 0, 0, 0, 0, 0, 0⟩
  dirents := none
  direntCount := 0
  newOffset := 0
  remoteFd := 0
  bytesRw := 0
  dataBuf := none
  retOffset := 0
  inUse := false

/-- The module as it is loaded: static storage is zeroed and `next_req_id` is 1. -/
def boot : State where
  registry _ := blankCtx
  nextReqId := 1
  callers _ := ⟨.open, 0, 0, [], [], .idle⟩
  requests := []
  replies := []

def firstSlot : Fin maxVfsRpc := 0

end MattX.VfsRpc
