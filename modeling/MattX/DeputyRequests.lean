import MattX.GuardedRuns
import MattX.RequestHandlers

set_option autoImplicit false

/-!
# Whom a message acts on

A message about a deputy is served in small steps: its pid is looked up, for
some requests twice, and what was found is held until the work is done. In
between deputies exit or are recalled, and pids are given out again.
-/
namespace MattX.DeputyRequests
open GuardedRuns RequestHandlers

/-- The messages that carry an `orig_pid` to its home node. -/
inductive Notice where
  | processExit
  | syscallFwd
  | close
  | pageUpdate
  | request (k : Kind)
  deriving DecidableEq

structure Message where
  notice : Notice
  sender : ℕ
  origPid : ℕ
  fd : ℕ
  fds : List ℕ
  deriving DecidableEq

/-- What is done to the process found: `table`: its descriptor table is read or changed; `call`: it
is sent SIGCONT or runs a call for the sender. -/
inductive Action where
  | kill
  | table
  | file
  | memory
  | call
  deriving DecidableEq

/-- `look` is `pid_task(find_vpid(orig_pid))`. -/
inductive Op where
  | look
  | act (a : Action)
  | bury
  | ifExported
  | unlessAborted
  deriving DecidableEq

/-- How a message fares: the looks of a waiting loop, and whether what it asks for is open and
works. -/
structure Course where
  rounds : ℕ
  opened : Bool
  works : Bool
  deriving DecidableEq

/-! ### The steps of each handler and its work -/

/-- Descriptors from 1000 on are those of the export's `remote_files`, where nothing ever stores a
file. -/
def withFile (m : Message) (c : Course) (ops : List Op) : List Op :=
  if m.fd < 1000 then .look :: .act .table :: (if c.opened then ops else []) else []

def handleProcessExit : List Op := [.look, .act .kill, .bury]

def handleSyscallFwd (m : Message) (c : Course) : List Op := withFile m c [.act .file]

def handleSysCloseReq (m : Message) (c : Course) : List Op := withFile m c []

def openKworker (c : Course) : List Op := .look :: if c.opened then [.act .table] else []

def socketKworker (c : Course) : List Op := if c.opened then [.look, .act .table] else []

def dupKworker (m : Message) (c : Course) : List Op := withFile m c [.look, .act .table]

def acceptKworker (m : Message) (c : Course) : List Op :=
  withFile m c (.act .file :: if c.works then [.look, .act .table] else [])

/-- The other kworkers on a file. -/
def fileKworker (m : Message) (c : Course) : List Op := withFile m c [.act .file]

def hijack : List Op := [.look, .act .call, .act .call]

/-- Each look at the descriptors begins with the export. -/
def pollWorker (m : Message) (c : Course) : List Op :=
  (List.replicate c.rounds (.ifExported :: m.fds.flatMap fun fd =>
    if fd < 1000 then [.look, .act .table, .act .file] else [])).flatten

def epollWaitKworker (m : Message) (c : Course) : List Op :=
  withFile m c (List.replicate c.rounds [.unlessAborted, .act .file]).flatten ++
    .unlessAborted :: hijack

def asDeputy : List Op := [.look, .act .memory, .act .table]

/-- The kworkers on the deputy's memory. -/
def memoryKworker : List Op := [.look, .act .memory]

/-- With the wait for an owner's flush in between. -/
def dsmFaultKworker : List Op := memoryKworker ++ [.act .memory]

/-- Nothing of the process is touched for its credentials or its namespace. A flush and an
invalidation are for guests. -/
def script (m : Message) (c : Course) : List Op :=
  match m.notice with
  | .processExit => handleProcessExit
  | .syscallFwd => handleSyscallFwd m c
  | .close => handleSysCloseReq m c
  | .pageUpdate => memoryKworker
  | .request k =>
    match k with
    | .open => openKworker c
    | .socket => socketKworker c
    | .dup => dupKworker m c
    | .accept => acceptKworker m c
    | .read | .lseek | .statx | .fsync | .connect | .bind | .listen | .send | .recv | .sendmsg
    | .recvmsg | .pread64 => fileKworker m c
    | .poll => pollWorker m c
    | .epollWait => epollWaitKworker m c
    | .epollCreate | .epollCtl | .getsockname | .getpeername | .setsockopt | .getsockopt
    | .prlimit64 | .prctl | .fcntl | .ioctl => hijack
    | .statfs | .fstatfs | .newfstatat | .faccessat2 | .readlink | .readlinkat | .getdents64
    | .pipe2 => asDeputy
    | .shmctl | .shmdt | .shmat | .dsmWriteAcquire => memoryKworker
    | .dsmPageFault => dsmFaultKworker
    | .unlink | .shmget => [.look]
    | .uname | .vfsGetattr | .vfsReaddir | .vfsOpen | .vfsRead | .vfsWrite | .vfsLseek
    | .vfsFsync | .dsmInvalidate | .dsmFlush => []

/-! ### The home node -/

/-- `born` tells the processes apart that had one pid after another. -/
structure Entry where
  origPid : ℕ
  targetNode : ℕ
  born : ℕ
  abortRpc : Bool
  deriving DecidableEq

/-- A message in service, with the process it holds. -/
structure Work where
  message : Message
  script : List Op
  held : Option ℕ
  deriving DecidableEq

/-- `lawful`: the process was registered for the message at that moment. -/
structure Act where
  action : Action
  message : Message
  born : ℕ
  lawful : Bool
  deriving DecidableEq

structure Node where
  tasks : ℕ → Option ℕ
  exports : List Entry
  works : List Work
  next : ℕ
  acts : List Act

inductive Event where
  | spawn (pid : ℕ)
  | exit (pid : ℕ)
  | register (e : Entry)
  | setAbort (pid : ℕ)
  | drop (e : Entry)
  | arrive (m : Message) (c : Course)
  | advance (w : Work)
  deriving DecidableEq

def Registered (exports : List Entry) (m : Message) (born : ℕ) : Prop :=
  ∃ e ∈ exports, e.origPid = m.origPid ∧ e.targetNode = m.sender ∧ e.born = born

instance (exports : List Entry) (m : Message) (born : ℕ) : Decidable (Registered exports m born) :=
  inferInstanceAs (Decidable (∃ e ∈ exports, _))

def firstOf (pid : ℕ) (exports : List Entry) : Option Entry :=
  exports.find? fun e => e.origPid == pid

def abortFirst (pid : ℕ) : List Entry → List Entry
  | [] => []
  | e :: es => if e.origPid = pid then { e with abortRpc := true } :: es else e :: abortFirst pid es

/-- A message comes from anywhere at any time. Entries go when a deputy is back or found dead. -/
def enabled (s : Node) : Event → Prop
  | .spawn pid => s.tasks pid = none
  | .exit pid => (s.tasks pid).isSome = true
  | .register e => s.tasks e.origPid = some e.born ∧ e.abortRpc = false
  | .drop e => e ∈ s.exports
  | .advance w => w ∈ s.works
  | .setAbort _ | .arrive _ _ => True

/-- A work is put back while it has something left to do. -/
def putBack (w : Work) (works : List Work) : List Work :=
  if w.script = [] then works else w :: works

/-- One step of a work, which is not among `s.works` meanwhile. -/
def perform (s : Node) (w : Work) : List Op → Node
  | [] => s
  | .look :: ops =>
    { s with works := putBack { w with script := ops, held := s.tasks w.message.origPid } s.works }
  | .act a :: ops =>
    let s := { s with works := putBack { w with script := ops } s.works }
    match w.held with
    | some p =>
      { s with acts := ⟨a, w.message, p, decide (Registered s.exports w.message p)⟩ :: s.acts }
    | none => s
  | .bury :: _ =>
    match firstOf w.message.origPid s.exports with
    | some e => { s with exports := s.exports.erase e }
    | none => s
  | .ifExported :: ops =>
    if (firstOf w.message.origPid s.exports).isSome then
      { s with works := putBack { w with script := ops } s.works }
    else s
  | .unlessAborted :: ops =>
    if (firstOf w.message.origPid s.exports).any Entry.abortRpc then s
    else { s with works := putBack { w with script := ops } s.works }

def next (s : Node) : Event → Node
  | .spawn pid => { s with tasks := Function.update s.tasks pid (some s.next), next := s.next + 1 }
  | .exit pid => { s with tasks := Function.update s.tasks pid none }
  | .register e => { s with exports := s.exports ++ [e] }
  | .setAbort pid => { s with exports := abortFirst pid s.exports }
  | .drop e => { s with exports := s.exports.erase e }
  | .arrive m c => { s with works := putBack ⟨m, script m c, none⟩ s.works }
  | .advance w => perform { s with works := s.works.erase w } w w.script

def machine : Machine Node Event := ⟨enabled, next⟩

instance (s : Node) : DecidablePred (enabled s)
  | .spawn pid => inferInstanceAs (Decidable (s.tasks pid = none))
  | .exit pid => inferInstanceAs (Decidable ((s.tasks pid).isSome = true))
  | .register e =>
    inferInstanceAs (Decidable (s.tasks e.origPid = some e.born ∧ e.abortRpc = false))
  | .drop e => inferInstanceAs (Decidable (e ∈ s.exports))
  | .advance w => inferInstanceAs (Decidable (w ∈ s.works))
  | .setAbort _ | .arrive _ _ => isTrue trivial

instance (s : Node) : DecidablePred (machine.enabled s) :=
  inferInstanceAs (DecidablePred (enabled s))

def start : Node := ⟨fun _ => none, [], [], 0, []⟩

/-- Whatever was done to a process was done for the node it was exported to. -/
def Lawful (s : Node) : Prop := ∀ a ∈ s.acts, a.lawful = true

/-- No message in service holds the process of the entry or may still find it. -/
def Released (s : Node) (e : Entry) (works : List Work) : Prop :=
  ∀ w ∈ works, w.message.origPid = e.origPid →
    w.held ≠ some e.born ∧ (Op.look ∈ w.script → s.tasks e.origPid ≠ some e.born)

/-- A message that looks for a process comes while the pid is free or its process is exported to the
sender, and until it is served the entry stays and the pid is not given out again. -/
def ok (s : Node) : Event → Prop
  | .arrive m c => Op.look ∈ script m c → ∀ p ∈ s.tasks m.origPid, Registered s.exports m p
  | .spawn pid => ∀ w ∈ s.works, w.message.origPid = pid → Op.look ∉ w.script
  | .drop e => Released s e s.works
  | .advance w => w.script.head? = some .bury →
      ∀ e ∈ firstOf w.message.origPid s.exports, Released s e (s.works.erase w)
  | .exit _ | .register _ | .setAbort _ => True

instance (s : Node) (e : Entry) (works : List Work) : Decidable (Released s e works) :=
  inferInstanceAs (Decidable (∀ w ∈ works, w.message.origPid = e.origPid →
    w.held ≠ some e.born ∧ (Op.look ∈ w.script → s.tasks e.origPid ≠ some e.born)))

instance (s : Node) : DecidablePred (ok s)
  | .arrive m c => inferInstanceAs
      (Decidable (Op.look ∈ script m c → ∀ p ∈ s.tasks m.origPid, Registered s.exports m p))
  | .spawn pid => inferInstanceAs
      (Decidable (∀ w ∈ s.works, w.message.origPid = pid → Op.look ∉ w.script))
  | .drop e => inferInstanceAs (Decidable (Released s e s.works))
  | .advance w => inferInstanceAs (Decidable (w.script.head? = some .bury →
      ∀ e ∈ firstOf w.message.origPid s.exports, Released s e (s.works.erase w)))
  | .exit _ | .register _ | .setAbort _ => isTrue trivial

/-! ### Registrations -/

theorem Registered.mono {exports exports' : List Entry} {m : Message} {p : ℕ}
    (h : Registered exports m p) (more : ∀ e ∈ exports, e ∈ exports') :
    Registered exports' m p := by
  obtain ⟨e, mem, pid, node, born⟩ := h
  exact ⟨e, more e mem, pid, node, born⟩

/-- The kill switch is no part of the registration. -/
theorem Registered.abortFirst {exports : List Entry} {m : Message} {p : ℕ}
    (h : Registered exports m p) (pid : ℕ) : Registered (abortFirst pid exports) m p := by
  induction exports with
  | nil => exact h
  | cons e es ih =>
    obtain ⟨e', mem, same⟩ := h
    simp only [DeputyRequests.abortFirst]
    by_cases first : e.origPid = pid
    · rw [if_pos first]
      cases mem with
      | head => exact ⟨_, List.mem_cons_self, same⟩
      | tail _ mem => exact ⟨e', List.mem_cons_of_mem _ mem, same⟩
    · rw [if_neg first]
      cases mem with
      | head => exact ⟨e, List.mem_cons_self, same⟩
      | tail _ mem => exact (ih ⟨e', mem, same⟩).mono fun _ => List.mem_cons_of_mem _

/-- Only the process of the entry that goes loses its registration. -/
theorem Registered.erase {exports : List Entry} {m : Message} {p : ℕ} (h : Registered exports m p)
    {e : Entry} (other : m.origPid = e.origPid → p ≠ e.born) :
    Registered (exports.erase e) m p := by
  obtain ⟨e', mem, pid, node, born⟩ := h
  have kept : e' ≠ e := by
    rintro rfl
    exact other pid.symm born.symm
  exact ⟨e', (List.mem_erase_of_ne kept).mpr mem, pid, node, born⟩

/-- What the work holds, and what it may still find, is registered for its message. -/
structure Fit (tasks : ℕ → Option ℕ) (exports : List Entry) (w : Work) : Prop where
  held : ∀ p, w.held = some p → Registered exports w.message p
  found : Op.look ∈ w.script → ∀ p ∈ tasks w.message.origPid, Registered exports w.message p

structure Sound (s : Node) : Prop where
  fit : ∀ w ∈ s.works, Fit s.tasks s.exports w
  lawful : Lawful s

theorem Fit.grows {tasks : ℕ → Option ℕ} {exports exports' : List Entry} {w : Work}
    (h : Fit tasks exports w)
    (kept : ∀ p, Registered exports w.message p → Registered exports' w.message p) :
    Fit tasks exports' w :=
  ⟨fun p held => kept p (h.held p held), fun look p found => kept p (h.found look p found)⟩

theorem Fit.retasked {tasks tasks' : ℕ → Option ℕ} {exports : List Entry} {w : Work}
    (h : Fit tasks exports w)
    (same : Op.look ∈ w.script → ∀ p ∈ tasks' w.message.origPid, p ∈ tasks w.message.origPid) :
    Fit tasks' exports w :=
  ⟨h.held, fun look p found => h.found look p (same look p found)⟩

/-- The works that are left when an entry goes. -/
theorem Released.fit {s : Node} {e : Entry} {works : List Work} (released : Released s e works)
    {w : Work} (mem : w ∈ works) (h : Fit s.tasks s.exports w) :
    Fit s.tasks (s.exports.erase e) w := by
  constructor
  · intro p held
    refine (h.held p held).erase fun pid born => ?_
    exact (released w mem pid).1 (born ▸ held)
  · intro look p found
    refine (h.found look p found).erase fun pid born => ?_
    have task : s.tasks e.origPid = some e.born := by
      rw [← pid, ← born]
      exact found
    exact (released w mem pid).2 look task

theorem mem_putBack {w w' : Work} {works : List Work} (mem : w' ∈ putBack w works) :
    w' = w ∨ w' ∈ works := by
  unfold putBack at mem
  split_ifs at mem
  · exact .inr mem
  · exact List.mem_cons.mp mem

/-! ### Steps -/

theorem sound_putBack {s : Node} (h : Sound s) {w : Work} (fit : Fit s.tasks s.exports w) :
    Sound { s with works := putBack w s.works } := by
  refine ⟨?_, h.lawful⟩
  intro w' mem
  rcases mem_putBack mem with rfl | mem
  · exact fit
  · exact h.fit w' mem

theorem sound_perform {s : Node} (h : Sound s) {w : Work} (fit : Fit s.tasks s.exports w)
    (released : w.script.head? = some .bury →
      ∀ e ∈ firstOf w.message.origPid s.exports, Released s e s.works) :
    Sound (perform s w w.script) := by
  obtain ⟨m, ops, held⟩ := w
  have rest (op : Op) (ops' : List Op) (eq : ops = op :: ops') :
      Fit s.tasks s.exports ⟨m, ops', held⟩ :=
    ⟨fit.held, fun look => fit.found (eq ▸ List.mem_cons_of_mem op look)⟩
  cases ops with
  | nil => exact h
  | cons op ops =>
    cases op with
    | look =>
      refine sound_putBack h ⟨?_, fun look => fit.found (List.mem_cons_of_mem _ look)⟩
      exact fun p found => fit.found List.mem_cons_self p found
    | act a =>
      have back := sound_putBack h (rest _ ops rfl)
      cases held with
      | none => exact back
      | some p =>
        refine ⟨back.fit, ?_⟩
        intro act mem
        cases mem with
        | head => exact decide_eq_true (fit.held p rfl)
        | tail _ mem => exact back.lawful act mem
    | bury =>
      simp only [perform]
      cases first : firstOf m.origPid s.exports with
      | none => exact h
      | some e =>
        have free := released rfl e (Option.mem_def.mpr first)
        exact ⟨fun w' mem => free.fit mem (h.fit w' mem), h.lawful⟩
    | ifExported =>
      simp only [perform]
      split_ifs
      · exact sound_putBack h (rest _ ops rfl)
      · exact h
    | unlessAborted =>
      simp only [perform]
      split_ifs
      · exact h
      · exact sound_putBack h (rest _ ops rfl)

theorem sound_next {s : Node} (h : Sound s) (e : Event) (en : enabled s e) (hok : ok s e) :
    Sound (next s e) := by
  cases e with
  | spawn pid =>
    refine ⟨fun w mem => (h.fit w mem).retasked fun look p found => ?_, h.lawful⟩
    have other : w.message.origPid ≠ pid := fun same => hok w mem same look
    simpa only [next, Function.update_of_ne other] using found
  | exit pid =>
    refine ⟨fun w mem => (h.fit w mem).retasked fun look p found => ?_, h.lawful⟩
    by_cases same : w.message.origPid = pid
    · simp [next, same] at found
    · simpa only [next, Function.update_of_ne same] using found
  | register e =>
    refine ⟨fun w mem => (h.fit w mem).grows fun p reg => ?_, h.lawful⟩
    exact reg.mono fun _ => List.mem_append_left _
  | setAbort pid =>
    exact ⟨fun w mem => (h.fit w mem).grows fun p reg => reg.abortFirst pid, h.lawful⟩
  | drop e => exact ⟨fun w mem => hok.fit mem (h.fit w mem), h.lawful⟩
  | arrive m c =>
    refine sound_putBack h ⟨?_, hok⟩
    intro p held
    cases held
  | advance w =>
    have fewer : Sound { s with works := s.works.erase w } :=
      ⟨fun w' mem => h.fit w' (List.mem_of_mem_erase mem), h.lawful⟩
    exact sound_perform fewer (h.fit w en) hok

/-- In every run whose steps meet `ok`, requests act only on processes exported to their sender. -/
theorem acts_on_exported {events : List Event} (run : machine.Follows ok start events) :
    machine.Always Lawful start events := by
  have fresh : Sound start := ⟨by simp [start], by simp [start, Lawful]⟩
  have sound := run.always (fun s e h en hok => sound_next h e en hok) fresh
  exact sound.mono fun s h => h.lawful

def entry : Entry := ⟨100, 2, 0, false⟩

def readReq : Message := ⟨.request .read, 2, 100, 3, []⟩

def exitNotice : Message := ⟨.processExit, 2, 100, 0, []⟩

def smooth : Course := ⟨1, true, true⟩

/-- Process 100 is exported to node 2, which reads from a descriptor and reports its exit. Then the
pid goes to another process. -/
def served : List Event :=
  [.spawn 100, .register entry, .arrive readReq smooth,
    .advance ⟨readReq, [.look, .act .table, .act .file], none⟩,
    .advance ⟨readReq, [.act .table, .act .file], some 0⟩,
    .advance ⟨readReq, [.act .file], some 0⟩, .arrive exitNotice smooth,
    .advance ⟨exitNotice, [.look, .act .kill, .bury], none⟩,
    .advance ⟨exitNotice, [.act .kill, .bury], some 0⟩, .exit 100,
    .advance ⟨exitNotice, [.bury], some 0⟩, .spawn 100]

theorem acts_on_exported_served : machine.Always Lawful start served :=
  acts_on_exported (by decide +kernel)

/-- The exit notice arrives after the deputy is gone and its pid is another process's. -/
def late : List Event :=
  [.spawn 100, .register entry, .exit 100, .drop entry, .spawn 100, .arrive exitNotice smooth,
    .advance ⟨exitNotice, [.look, .act .kill, .bury], none⟩,
    .advance ⟨exitNotice, [.act .kill, .bury], some 1⟩]

theorem late_exit_kills_stranger :
    machine.Runs start late ∧
      (machine.after start late).acts = [⟨.kill, exitNotice, 1, false⟩] ∧
      ¬ Lawful (machine.after start late) := by
  have acts : (machine.after start late).acts = [⟨.kill, exitNotice, 1, false⟩] := by
    decide +kernel
  refine ⟨by decide +kernel, acts, ?_⟩
  intro lawful
  have killed := lawful _ (by rw [acts]; exact List.mem_singleton_self _)
  cases killed

end MattX.DeputyRequests
