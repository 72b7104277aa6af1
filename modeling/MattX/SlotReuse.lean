import MattX.GuestRegistry
import MattX.GuardedRuns
import MattX.WormholeCalls

set_option autoImplicit false

/-!
# What an occupant of a registry slot leaves to the next one

The whole of both registries, and for each operation what it tells its caller.
`add_guest_process` clears most fields of the slot it takes. The history fields
under `own` say which of the others the new occupant has written; no operation
looks at them.
-/
namespace MattX.SlotReuse
open GuardedRuns GuestRegistry WormholeCalls

/-- `dsm_step_addr`, `dsm_step_shmid` and `dsm_step_is_write`. -/
structure Note where
  addr : ℕ
  shmid : ℕ
  isWrite : Bool
  deriving DecidableEq

/-- Whether `rpc_remote_fd`, how many pairs of the TID map, and whether `dsm_step_pending` were set
for this occupant. -/
structure Own where
  fd : Bool
  tids : Option ℕ
  step : Bool
  deriving DecidableEq

/-- `struct mattx_guest_info`: in `info` the pids, `is_migrating` and the DSM map, in `rpc` the
fields of the call under way. -/
structure Guest where
  info : GuestInfo
  rpcWq : Bool
  rpc : Record
  threadCount : ℕ
  origTids : ℕ → ℕ
  localTids : ℕ → ℕ
  stepPending : Bool
  step : Note
  own : Own

/-- What a `struct file` pointer of an export points to. -/
abbrev File := ℕ

/-- `struct mattx_export_info`, of the directories only their segments. -/
structure Export where
  origPid : ℕ
  targetNode : Node
  remoteFiles : ℕ → Option File
  abortRpc : Bool
  isGrowingGang : Bool
  dsmDirCount : ℕ
  dsmDirs : ℕ → ℕ

/-- The worker's own `remote_fd`, and whether it is one of its guest. -/
structure Worker where
  remoteFd : ℤ
  own : Bool
  deriving DecidableEq

/-- `workers` is by the guest they work for and a number. -/
structure State where
  guests : SlotTable Guest
  exports : SlotTable Export
  workers : ℕ → ℕ → Worker

def zeroRecord : Record := ⟨0, false, none, 0, 0, none, 0⟩

def Guest.zero : Guest :=
  ⟨GuestInfo.zero, false, zeroRecord, 0, fun _ => 0, fun _ => 0, false, ⟨0, 0, false⟩,
    ⟨false, none, false⟩⟩

def Export.zero : Export := ⟨0, 0, fun _ => none, false, false, 0, fun _ => 0⟩

/-- A freshly loaded module. -/
def start : State := ⟨⟨fun _ => .zero, 0⟩, ⟨fun _ => .zero, 0⟩, fun _ _ => ⟨-1, true⟩⟩

/-! ### Who is meant -/

/-- The searches: by the local pid in the hooks, by pid and home in the reply handlers and in
`handle_kill_surrogate`, by the pid alone in the flush, and by index in the loops. -/
inductive Finder where
  | tgid (pid : ℕ)
  | sender (origPid : ℕ) (node : Node)
  | origPid (pid : ℕ)
  | slot (i : ℕ)
  deriving DecidableEq

def Finder.matches : Finder → GuestInfo → Bool
  | .tgid pid, g => g.localPid == pid
  | .sender pid node, g => g.origPid == pid && g.homeNode == node
  | .origPid pid, g => g.origPid == pid
  | .slot _, _ => false

def Finder.find (f : Finder) (t : SlotTable Guest) : Option ℕ :=
  match f with
  | .slot i => if i < t.count then some i else none
  | f => t.find? fun g => f.matches g.info

/-- What an operation does to `is_migrating` and the DSM map of an entry. -/
structure Edit where
  edit : GuestInfo → GuestInfo
  localPid : ∀ g, (edit g).localPid = g.localPid
  origPid : ∀ g, (edit g).origPid = g.origPid
  homeNode : ∀ g, (edit g).homeNode = g.homeNode

/-! ### The operations on an entry -/

inductive Act where
  | mapTids (threadCount : ℕ) (threads : List (ℕ × ℕ))
  | begin (c : Call)
  | reply (k : Kind) (b : Body) (alloc : Bool)
  | writeSent (c : Call)
  | pollDone
  | awaken (c : Call) (env : Env)
  | isRpcPending
  | gettid (tid : ℕ)
  | tgkill (tgid tid : ℕ)
  | note (n : Note)
  | trap
  | edit (e : Edit)

inductive ExportAct where
  | getTarget
  | getFile (slot : ℕ)
  | closeFile (slot : ℕ)
  | findDir (shmid : ℕ)
  | setAbort (b : Bool)
  | getAbort
  | setGrowing (b : Bool)
  | getGrowing

/-- What an operation gives to its caller. -/
inductive Result where
  | nothing
  | polled (done aborted : Bool)
  | returned (o : Outcome)
  | pending (b : Bool)
  | tid (tid : Option ℕ)
  | signal (tgid tid : ℕ)
  | trapped (n : Option (Note × ℕ × Node))
  | entry (g : GuestInfo)
  | removed (g : GuestInfo) (readBuf : Option Payload) (statxBuf : Option Bytes)
  | target (n : Node)
  | file (f : Option File)
  | dir (d : Option ℕ)
  | flag (b : Bool)
  | closed (files : ℕ → Option File)

/-- The reply handlers that store a descriptor; `handle_sys_accept_reply` does so only without an
error. -/
def storesFd : Kind → Body → Bool
  | .open, .fd .. | .dup, .fd .. | .socket, .fd .. | .epollCreate, .fd .. => true
  | .accept, .accept _ error _ => error == 0
  | _, _ => false

/-- The branches of the worker that use its `remote_fd`. -/
def usesFd : Kind → Bool
  | .open | .dup | .socket | .epollCreate | .accept => true
  | _ => false

/-- The file operations of a proxy wait on a queue of their own. -/
def isFake : Kind → Bool
  | .fakeGetattr | .fakeLlseek | .fakeFsync | .fakeRead => true
  | _ => false

/-- The place of a thread in the TID map. -/
def tidAt (g : Guest) (ids : ℕ → ℕ) (tid : ℕ) : Option ℕ :=
  (List.range g.threadCount).find? fun j => ids j == tid

namespace Guest

/-- The loop of `handle_migrate_done` ends with the threads of the stub. -/
def mapTids (g : Guest) (threadCount : ℕ) (threads : List (ℕ × ℕ)) : Guest :=
  let mapped := threads.take threadCount
  { g with
    threadCount
    origTids := fun j => (mapped[j]?).elim (g.origTids j) Prod.fst
    localTids := fun j => (mapped[j]?).elim (g.localTids j) Prod.snd
    own := { g.own with tids := some (max mapped.length (g.own.tids.getD 0)) } }

/-- A round of the worker's wait loop, which is also how a migration ends it. -/
def pollDone (w : Worker) (g : Guest) : Guest × Worker × Result :=
  let w := if g.rpc.done then ⟨g.rpc.remoteFd, g.own.fd⟩ else w
  let aborted := g.info.isMigrating
  ({ g with rpc := { g.rpc with done := g.rpc.done || aborted } }, w,
    .polled (g.rpc.done || aborted) aborted)

def awaken (c : Call) (env : Env) (w : Worker) (g : Guest) : Guest × Worker × Result :=
  let (outcome, rpc) := awakening c.kind c w.remoteFd env g.rpc
  ({ g with rpc, rpcWq := g.rpcWq && !isFake c.kind }, w, .returned outcome)

/-- `ret_handler_gettid`; nothing is changed for a thread that is not in the map. -/
def gettid (tid : ℕ) (g : Guest) : Result := .tid ((tidAt g g.localTids tid).map g.origTids)

/-- `entry_handler_tgkill`. -/
def tgkill (tgid tid : ℕ) (g : Guest) : Result :=
  .signal (if tgid = g.info.origPid then g.info.localPid else tgid)
    ((tidAt g g.origTids tid).elim tid g.localTids)

/-- `mattx_die_cb` in mode 3. -/
def trap (g : Guest) : Guest × Result :=
  if g.stepPending then
    ({ g with stepPending := false, own := { g.own with step := true } },
      .trapped (some (g.step, g.info.origPid, g.info.homeNode)))
  else ({ g with own := { g.own with step := true } }, .trapped none)

end Guest

def act (w : Worker) (g : Guest) : Act → Guest × Worker × Result
  | .mapTids threadCount threads => (g.mapTids threadCount threads, w, .nothing)
  | .begin c =>
    ({ g with rpc := beginCall c g.rpc, rpcWq := g.rpcWq || isFake c.kind }, ⟨-1, true⟩, .nothing)
  | .reply k b alloc =>
    ({ g with
      rpc := replyHandler k b alloc g.rpc
      own := { g.own with fd := g.own.fd || storesFd k b } }, w, .nothing)
  | .writeSent c => ({ g with rpc := writeSent c g.rpc }, w, .nothing)
  | .pollDone => g.pollDone w
  | .awaken c env => g.awaken c env w
  | .isRpcPending => (g, w, .pending g.rpcWq)
  | .gettid tid => (g, w, g.gettid tid)
  | .tgkill tgid tid => (g, w, g.tgkill tgid tid)
  | .note n =>
    ({ g with stepPending := true, step := n, own := { g.own with step := true } }, w, .nothing)
  | .trap => (g.trap.1, w, g.trap.2)
  | .edit e => ({ g with info := e.edit g.info }, w, .entry (e.edit g.info))

def exportAct (e : Export) : ExportAct → Export × Result
  | .getTarget => (e, .target e.targetNode)
  | .getFile slot => (e, .file (e.remoteFiles slot))
  | .closeFile slot =>
    ({ e with remoteFiles := Function.update e.remoteFiles slot none },
      .file (e.remoteFiles slot))
  | .findDir shmid =>
    (e, .dir ((List.range e.dsmDirCount).find? fun d => e.dsmDirs d == shmid))
  | .setAbort b => ({ e with abortRpc := b }, .nothing)
  | .getAbort => (e, .flag e.abortRpc)
  | .setGrowing b => ({ e with isGrowingGang := b }, .nothing)
  | .getGrowing => (e, .flag e.isGrowingGang)

/-! ### The operations on the registries -/

/-- `add_guest_process`. `rpc_remote_fd`, the TID map and the pending step stay in the slot. -/
def addGuestProcess (t : SlotTable Guest) (localPid origPid : ℕ) (homeNode : Node) :
    SlotTable Guest :=
  if t.count < maxGuests then
    t.push fun old => { old with
      info := ⟨localPid, origPid, homeNode, false, ⟨fun _ => .zero, 0⟩⟩
      rpcWq := false
      rpc := { old.rpc with
        done := false, readBuf := none, readBytes := 0, lseekRes := 0, statxBuf := none
        fsyncRes := 0 }
      own := ⟨false, none, false⟩ }
  else t

/-- `remove_guest_process`, after its caller has taken the buffers out. -/
def removeGuestProcess (t : SlotTable Guest) (i : ℕ) : SlotTable Guest :=
  (t.modify i fun g =>
    { g with info := { g.info with dsmMap := g.info.dsmMap.mapLive .freePages } }).swapRemove i

/-- `add_export_process`. The files and the directories stay in the slot. -/
def addExportProcess (t : SlotTable Export) (origPid : ℕ) (targetNode : Node) : SlotTable Export :=
  if t.count < maxGuests then
    t.push fun old => { old with origPid, targetNode, abortRpc := false, isGrowingGang := false }
  else t

inductive Op where
  | addGuest (localPid origPid : ℕ) (homeNode : Node)
  | removeGuest (f : Finder)
  | onGuest (f : Finder) (worker : ℕ) (a : Act)
  | onAllGuests (e : Edit)
  | addExport (origPid : ℕ) (targetNode : Node)
  | removeExport (origPid : ℕ)
  | onExport (origPid : ℕ) (a : ExportAct)

def exportOf (t : SlotTable Export) (pid : ℕ) : Option ℕ := t.find? fun e => e.origPid == pid

/-- The worker that the act belongs to is one of the entry that was found. -/
def runAct (s : State) (i worker : ℕ) (a : Act) : Guest × Worker × Result :=
  act (s.workers (s.guests.slot i).info.localPid worker) (s.guests.slot i) a

def setWorker (s : State) (pid worker : ℕ) (w : Worker) : ℕ → ℕ → Worker := fun p n =>
  if p = pid ∧ n = worker then w else s.workers p n

/-- The process of a new entry has called nothing yet. -/
def newProcess (s : State) (pid : ℕ) : ℕ → ℕ → Worker := fun p n =>
  if p = pid then ⟨-1, true⟩ else s.workers p n

def next (s : State) : Op → State
  | .addGuest localPid origPid homeNode =>
    { s with
      guests := addGuestProcess s.guests localPid origPid homeNode
      workers := newProcess s localPid }
  | .removeGuest f =>
    match f.find s.guests with
    | some i => { s with guests := removeGuestProcess s.guests i }
    | none => s
  | .onGuest f worker a =>
    match f.find s.guests with
    | some i =>
      let (g, w, _) := runAct s i worker a
      { s with
        guests := s.guests.modify i fun _ => g
        workers := setWorker s (s.guests.slot i).info.localPid worker w }
    | none => s
  | .onAllGuests e =>
    { s with guests := s.guests.mapLive fun g => { g with info := e.edit g.info } }
  | .addExport origPid targetNode =>
    { s with exports := addExportProcess s.exports origPid targetNode }
  | .removeExport origPid =>
    match exportOf s.exports origPid with
    | some i => { s with exports := s.exports.swapRemove i }
    | none => s
  | .onExport origPid a =>
    match exportOf s.exports origPid with
    | some i =>
      { s with exports := s.exports.modify i fun _ => (exportAct (s.exports.slot i) a).1 }
    | none => s

def machine : Machine State Op := ⟨fun _ _ => True, next⟩

/-! ### What one process is told -/

inductive Proc where
  | guest (localPid origPid : ℕ) (homeNode : Node)
  | deputy (origPid : ℕ) (targetNode : Node)

def Proc.add : Proc → Op
  | .guest localPid origPid homeNode => .addGuest localPid origPid homeNode
  | .deputy origPid targetNode => .addExport origPid targetNode

/-- The results that come out of an entry with the local pid of the process. -/
def guestResults (pid : ℕ) (s : State) : Op → List Result
  | .removeGuest f =>
    match f.find s.guests with
    | some i =>
      let g := s.guests.slot i
      if g.info.localPid = pid then [.removed g.info g.rpc.readBuf g.rpc.statxBuf] else []
    | none => []
  | .onGuest f worker a =>
    match f.find s.guests with
    | some i => if (s.guests.slot i).info.localPid = pid then [(runAct s i worker a).2.2] else []
    | none => []
  | _ => []

def exportResults (pid : ℕ) (s : State) : Op → List Result
  | .removeExport origPid =>
    match exportOf s.exports origPid with
    | some i => if origPid = pid then [.closed (s.exports.slot i).remoteFiles] else []
    | none => []
  | .onExport origPid a =>
    match exportOf s.exports origPid with
    | some i => if origPid = pid then [(exportAct (s.exports.slot i) a).2] else []
    | none => []
  | _ => []

def Proc.results : Proc → State → Op → List Result
  | .guest localPid _ _ => guestResults localPid
  | .deputy origPid _ => exportResults origPid

/-! ### The same but for what earlier occupants left -/

/-- All that `add_guest_process` clears, and what the occupant has written of the rest. -/
structure Alike (g h : Guest) : Prop where
  own : h.own = g.own
  info : h.info = g.info
  rpcWq : h.rpcWq = g.rpcWq
  rpc : h.rpc = { g.rpc with remoteFd := h.rpc.remoteFd }
  fd : g.own.fd = true → h.rpc.remoteFd = g.rpc.remoteFd
  tids : ∀ k ∈ g.own.tids, h.threadCount = g.threadCount ∧
    ∀ j < k, h.origTids j = g.origTids j ∧ h.localTids j = g.localTids j
  step : g.own.step = true → h.stepPending = g.stepPending ∧
    (g.stepPending = true → h.step = g.step)

structure AlikeExport (e f : Export) : Prop where
  origPid : f.origPid = e.origPid
  targetNode : f.targetNode = e.targetNode
  abortRpc : f.abortRpc = e.abortRpc
  isGrowingGang : f.isGrowingGang = e.isGrowingGang

structure AlikeWorker (v w : Worker) : Prop where
  own : w.own = v.own
  fd : v.own = true → w.remoteFd = v.remoteFd

/-- The live entries are the same. -/
structure AlikeState (s t : State) : Prop where
  guestCount : t.guests.count = s.guests.count
  guests : ∀ i < s.guests.count, Alike (s.guests.slot i) (t.guests.slot i)
  exportCount : t.exports.count = s.exports.count
  exports : ∀ i < s.exports.count, AlikeExport (s.exports.slot i) (t.exports.slot i)

/-! ### Where nothing of an earlier occupant is read -/

/-- The thread is found among the pairs that were mapped for the occupant, or these are all. -/
def OwnTid (g : Guest) (ids : ℕ → ℕ) (tid : ℕ) : Prop :=
  ∃ k ∈ g.own.tids, g.threadCount ≤ k ∨ ∃ j < k, j < g.threadCount ∧ ids j = tid

instance (g : Guest) (ids : ℕ → ℕ) (tid : ℕ) : Decidable (OwnTid g ids tid) :=
  inferInstanceAs (Decidable (∃ k ∈ g.own.tids, g.threadCount ≤ k ∨
    ∃ j < k, j < g.threadCount ∧ ids j = tid))

def Clean (w : Worker) (g : Guest) : Act → Prop
  | .awaken c _ => usesFd c.kind = true → w.own = true
  | .gettid tid => OwnTid g g.localTids tid
  | .tgkill _ tid => OwnTid g g.origTids tid
  | .trap => g.own.step = true
  | _ => True

instance (w : Worker) (g : Guest) : ∀ a, Decidable (Clean w g a)
  | .awaken c _ => inferInstanceAs (Decidable (usesFd c.kind = true → w.own = true))
  | .gettid tid => inferInstanceAs (Decidable (OwnTid g g.localTids tid))
  | .tgkill _ tid => inferInstanceAs (Decidable (OwnTid g g.origTids tid))
  | .trap => inferInstanceAs (Decidable (g.own.step = true))
  | .mapTids .. | .begin _ | .reply .. | .writeSent _ | .pollDone | .isRpcPending | .note _
  | .edit _ => isTrue trivial

/-- For the process itself; what other guests read of earlier occupants is their own affair. -/
def CleanFor : Proc → State → Op → Prop
  | .guest pid _ _, s, .onGuest f worker a =>
    ∀ i ∈ f.find s.guests, (s.guests.slot i).info.localPid = pid →
      Clean (s.workers pid worker) (s.guests.slot i) a
  | _, _, _ => True

instance (p : Proc) (s : State) : ∀ op, Decidable (CleanFor p s op)
  | .onGuest f worker a =>
    match p with
    | .guest pid _ _ =>
      inferInstanceAs (Decidable (∀ i ∈ f.find s.guests, (s.guests.slot i).info.localPid = pid →
        Clean (s.workers pid worker) (s.guests.slot i) a))
    | .deputy .. => isTrue trivial
  | .addGuest .. | .removeGuest _ | .onAllGuests _ | .addExport .. | .removeExport _
  | .onExport .. => by cases p <;> exact isTrue trivial

instance (s : State) (op : Op) : Decidable (machine.enabled s op) := isTrue trivial

end MattX.SlotReuse
