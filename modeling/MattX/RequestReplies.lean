import MattX.RequestHandlers

set_option autoImplicit false

/-!
# One reply for each request

What the handlers of one family send is said once, with the condition under
which they send it. No handler has two exits that reply.
-/
namespace MattX.RequestReplies
open RequestHandlers

/-- Whom the request is from: guests wait under their pid at home, callers of the file system and
page faults under a number. -/
def identity (r : Request) : Identity :=
  match r.kind with
  | .unlink => .both r.reqId r.origPid
  | .vfsGetattr | .vfsReaddir | .vfsOpen | .vfsRead | .vfsWrite | .vfsLseek | .vfsFsync
  | .dsmPageFault | .dsmWriteAcquire | .dsmInvalidate | .dsmFlush => .reqId r.reqId
  | _ => .origPid r.origPid

/-- A reply of the paired type, to the sender, with the identity of the request. -/
def Answers (p : Reply) (r : Request) : Prop :=
  p.kind = r.kind ∧ p.dst = r.sender ∧ p.identity = identity r

instance (p : Reply) (r : Request) : Decidable (Answers p r) :=
  inferInstanceAs (Decidable (p.kind = r.kind ∧ p.dst = r.sender ∧ p.identity = identity r))

/-- One answer if the condition holds, else silence. -/
def Once (r : Request) (l : List Reply) (c : Prop) : Prop :=
  (c → ∃ p, l = [p] ∧ Answers p r) ∧ (¬ c → l = [])

/-! ### Conditions -/

/-- The deputy is there and takes the call. -/
def Hijackable (e : Env) (t : Option Task) : Prop :=
  ∃ d, t = some d ∧ e.taskWorkAdd = true ∧ d.takesWork = true

/-- If the deputy is there, so is its memory, and its descriptors if it is to be lent one. -/
def Intact (h : Home) (pid : ℕ) (fdToMap : ℤ) (path : Bool) (e : Env) : Prop :=
  ∀ d, h.task pid = some d → d.mm = true ∧
    ((path = true → e.native.copied = true) → 1000 ≤ fdToMap →
      h.getRemoteFile pid fdToMap = true → d.files.isSome = true)

def Whole (r : Request) (e : Env) (fdToMap : ℤ) (path : Bool) : Prop :=
  e.resolved = true → Intact (e.home 1) r.origPid fdToMap path e

def Shares (r : Request) (e : Env) (has : Task → Bool) : Prop :=
  e.resolved = true → ∀ d, (e.home 1).task r.origPid = some d → has d = true

def Connects (r : Request) (e : Env) : Prop :=
  onSocket r e = einprogress → e.native.nonblock = false → ∃ i, i < e.looks ∧ e.ready i = true

/-- The look finds the export gone, an event, or the time over. -/
def PollEnds (r : Request) (e : Env) (i : ℕ) : Prop :=
  ∀ x, (e.home (i + 1)).exportOf r.origPid = some x →
    (∃ j p, r.fds[j]? = some p ∧ pollFile (e.home (i + 1)) x p.1 = true ∧
      e.mask i j &&& p.2.1 ≠ 0) ∨ 0 ≤ r.timeout ∧ e.expired i = true

def EpollEnds (r : Request) (e : Env) (i : ℕ) : Prop :=
  e.ready i = true ∨ 0 ≤ r.timeout ∧ e.expired i = true

/-- The first look at which the wait ends, with the kill switch off up to then. -/
def EpollOver (r : Request) (e : Env) (i : ℕ) : Prop :=
  i < e.looks ∧ EpollEnds r e i ∧ (∀ j, j < i → ¬ EpollEnds r e j) ∧
    ∀ j, j ≤ i → (e.home (j + 2)).abortRpc r.origPid = false

/-- After `k` looks the kill switch is off, and the deputy takes the call or is gone. -/
def Collects (r : Request) (e : Env) (k : ℕ) : Prop :=
  (e.home (k + 2)).abortRpc r.origPid = false ∧
    ∀ d, (e.home (k + 3)).task r.origPid = some d → e.taskWorkAdd = true ∧ d.takesWork = true

def EpollServed (r : Request) (e : Env) : Prop :=
  if (e.home 1).getRemoteFile r.origPid (asInt r.fd) = true then
    ∃ i, EpollOver r e i ∧ Collects r e (i + 1)
  else Collects r e 0

/-- The owner of the page has answered, and the deputy is still there to take its bytes. -/
def Flushed (r : Request) (e : Env) : Prop :=
  ((e.home 1).task r.origPid).any Task.mm = true → e.mapped = true →
    match e.flush with
    | .unneeded => True
    | .waiting => False
    | .answered error mm => error = 0 → mm = true

/-- Where a request is answered. -/
def Served (r : Request) (e : Env) : Prop :=
  match r.kind with
  | .epollCreate | .epollCtl | .getsockname | .getpeername | .setsockopt | .getsockopt
  | .prlimit64 | .prctl | .fcntl | .ioctl => Hijackable e ((e.home 0).task r.origPid)
  | .epollWait => EpollServed r e
  | .poll => e.ctrlFree = true ∧ ∃ i, i < e.looks ∧ PollEnds r e i
  | .connect => Connects r e
  | .statfs | .readlink => Whole r e (-1) true
  | .newfstatat | .faccessat2 | .readlinkat => Whole r e (asInt r.fd) true
  | .fstatfs | .getdents64 => Whole r e (asInt r.fd) false
  | .pipe2 => Whole r e (-1) false
  | .shmget => Shares r e Task.nsproxy
  | .shmdt => Shares r e Task.mm
  | .shmctl | .shmat => Shares r e fun t => t.mm && t.nsproxy
  | .vfsRead => (e.home 0).mfsFile (asInt r.fd) = true
  | .dsmPageFault => Flushed r e
  | .dsmInvalidate => False
  | _ => True

/-! ### Families -/

theorem Once.iff {r : Request} {l : List Reply} {c c' : Prop} (h : Once r l c) (same : c ↔ c') :
    Once r l c' := by
  rw [← propext same]
  exact h

theorem Once.empty (r : Request) {c : Prop} (never : ¬ c) : Once r [] c :=
  ⟨fun h => absurd h never, fun _ => rfl⟩

/-- What a poll asks of a descriptor. -/
def asked (p : WormholeCalls.PollFd) : ℕ × ℕ := (p.1, p.2.1)

/-- A stopped deputy 100 with one socket, exported with its kill switch off. -/
def node : Home where
  task p := if p = 100 then some ⟨true, some ⟨64, fun fd => fd == 3⟩, true, true⟩ else none
  exports := [⟨100, fun _ => false, false⟩]
  mfsOpenFiles _ := false

def native : Native :=
  ⟨0, 0, true, false, true, 0, [1, 2], [], 0, (4, 5), ⟨0, 0, 0, 0, 0, 0, 0⟩, []⟩

/-- The second look at the node finds an event. -/
def env : Env :=
  ⟨fun _ => node, native, true, true, 2, fun _ _ => 0, fun i => i == 1, fun _ => false, true, true,
    .unneeded⟩

def getsockname : Request := ⟨.getsockname, 2, 100, 0, 3, 0, 0, []⟩

def epollWait : Request := ⟨.epollWait, 2, 100, 0, 3, 0, -1, []⟩

/-- After a recall has set the kill switch. -/
def recalled : Env :=
  { env with home := fun _ => { node with exports := [⟨100, fun _ => false, true⟩] } }

end MattX.RequestReplies
