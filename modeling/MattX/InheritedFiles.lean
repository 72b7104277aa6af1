import MattX.RequestHandlers

set_option autoImplicit false

/-!
# The descriptors that a surrogate inherits

The blueprint has the numbers of the deputy's open files. The stub gets a
proxy file under each, whose operations carry the number home.
-/
namespace MattX.InheritedFiles
open RequestHandlers (maxFds)

/-! ### Runs of calls -/

section
variable {σ τ κ ρ : Type*}

/-- The results of a sequence of calls. -/
def run (step : σ → κ → σ × ρ) (s : σ) : List κ → List ρ
  | [] => []
  | c :: calls => (step s c).2 :: run step (step s c).1 calls

/-- Every call is made in a state that allows it. -/
def Allowed (step : σ → κ → σ × ρ) (ok : σ → κ → Prop) : σ → List κ → Prop
  | _, [] => True
  | s, c :: calls => ok s c ∧ Allowed step ok (step s c).1 calls

end

/-! ### The process before it is migrated -/

/-- `FMODE_READ` and `FMODE_WRITE` -/
structure Mode where
  reads : Bool
  writes : Bool
  deriving DecidableEq

/-- The files of a process, by number. -/
abbrev Table := ℕ → Option Mode

inductive Op where
  | read | write | lseek | close
  deriving DecidableEq

structure Call where
  op : Op
  fd : ℕ
  deriving DecidableEq

/-- `refused`: EBADF. `onFile`: the deputy's open file with the number carries the call out.
`elsewhere`: some other file does. `dropped`: the caller is told of success, and no file does. -/
inductive Result where
  | refused
  | onFile (fd : ℕ)
  | elsewhere
  | dropped
  deriving DecidableEq

def permits (m : Mode) : Op → Bool
  | .read => m.reads
  | .write => m.writes
  | .lseek | .close => true

def closed (t : Table) (fd : ℕ) : Table := fun n => if n = fd then none else t n

/-- A call of the process itself. -/
def native (t : Table) (c : Call) : Table × Result :=
  match t c.fd with
  | none => (t, .refused)
  | some m =>
    if permits m c.op then (if c.op = .close then closed t c.fd else t, .onFile c.fd)
    else (t, .refused)

/-! ### The migration -/

/-- What a number of the stub leads to. -/
inductive Own where
  | closed
  | pipeOrSocket
  | other
  deriving DecidableEq

inductive File where
  | proxy (remoteFd : ℕ)
  | own (f : Own)
  deriving DecidableEq

/-- `size`: the deputy's `max_fds`, above which it has no files. `slots`: which slots of the export
entry have a file. `alloc`: the file and its record could be allocated for the number. -/
structure Migration where
  table : Table
  size : ℕ
  slots : ℕ → Bool
  stubSize : ℕ
  stubFile : ℕ → Own
  alloc : ℕ → Bool

namespace Migration

/-- `open_fds` of the blueprint. -/
def openFds (m : Migration) : List ℕ :=
  ((List.range m.size).filter fun fd => (m.table fd).isSome).take maxFds

/-- `handle_migrate_done` -/
def installed (m : Migration) (fd : ℕ) : Bool :=
  decide (fd ∈ m.openFds) && decide (fd < m.stubSize) && m.alloc fd

def file (m : Migration) (fd : ℕ) : File :=
  if m.installed fd then .proxy fd else .own (m.stubFile fd)

end Migration

/-- The proxy files are opened with `O_WRONLY`. -/
def proxyMode : Mode := ⟨false, true⟩

/-! ### A surrogate with its deputy -/

/-- The surrogate's files, the deputy's, and the slots of its export. -/
structure State where
  files : ℕ → File
  deputy : Table
  slots : ℕ → Bool

/-- Where the handlers of the home node look for a number. -/
inductive Found where
  | deputy (m : Mode)
  | slot
  | nothing

def find (s : State) (fd : ℕ) : Found :=
  if 1000 ≤ fd then if fd - 1000 < maxFds ∧ s.slots (fd - 1000) = true then .slot else .nothing
  else match s.deputy fd with
    | some m => .deputy m
    | none => .nothing

/-- `handle_sys_read_req`: the reply has the error. -/
def handleSysReadReq (s : State) (fd : ℕ) : Result :=
  match find s fd with
  | .deputy m => if m.reads then .onFile fd else .refused
  | .slot => .elsewhere
  | .nothing => .refused

/-- `handle_syscall_fwd`: there is no reply. -/
def handleSyscallFwd (s : State) (fd : ℕ) : Result :=
  match find s fd with
  | .deputy m => if m.writes then .onFile fd else .dropped
  | .slot => .elsewhere
  | .nothing => .dropped

def handleSysLseekReq (s : State) (fd : ℕ) : Result :=
  match find s fd with
  | .deputy _ => .onFile fd
  | .slot => .elsewhere
  | .nothing => .refused

/-- There is no reply to a close either. -/
def handleSysCloseReq (s : State) (fd : ℕ) : State × Result :=
  match find s fd with
  | .deputy _ => ({ s with deputy := closed s.deputy fd }, .onFile fd)
  | .slot =>
    ({ s with slots := fun n => if n = fd - 1000 then false else s.slots n }, .elsewhere)
  | .nothing => (s, .dropped)

/-- The calls on a number that is closed or a pipe or socket are taken home by the hooks. -/
def surrogate (s : State) (c : Call) : State × Result :=
  match s.files c.fd, c.op with
  | .proxy remoteFd, .read =>
    (s, if proxyMode.reads then handleSysReadReq s remoteFd else .refused)
  | .proxy remoteFd, .write =>
    (s, if proxyMode.writes then handleSyscallFwd s remoteFd else .refused)
  | .proxy remoteFd, .lseek => (s, handleSysLseekReq s remoteFd)
  | .proxy remoteFd, .close =>
    handleSysCloseReq { s with files := fun n => if n = c.fd then .own .closed else s.files n }
      remoteFd
  | .own .closed, .close => (s, .refused)
  | .own _, .close =>
    ({ s with files := fun n => if n = c.fd then .own .closed else s.files n }, .elsewhere)
  | .own .other, _ => (s, .elsewhere)
  | .own _, .read => (s, handleSysReadReq s c.fd)
  | .own _, .write => (s, handleSyscallFwd s c.fd)
  | .own _, .lseek => (s, handleSysLseekReq s c.fd)

def Migration.state (m : Migration) : State := ⟨m.file, m.table, m.slots⟩

namespace Migration

/-- Every sequence of calls on the inherited descriptors, each as long as it is open, has the
results it would have had in the deputy. -/
def Faithful (m : Migration) : Prop :=
  ∀ calls, Allowed native (fun t c => c.fd ∈ m.openFds ∧ (t c.fd).isSome = true) m.table calls →
    run surrogate m.state calls = run native m.table calls

end Migration

end MattX.InheritedFiles
