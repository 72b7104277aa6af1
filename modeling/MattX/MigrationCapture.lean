import MattX.GuardedRuns
import MattX.MigrationPump

set_option autoImplicit false

/-!
# The capture of a gang

One attempt to move a process, in either direction, step by step, while its
threads go on until they are stopped. A stop signal stops the whole thread
group, each thread when it gets to it, and SIGCONT to any thread resumes all.
-/
namespace MattX.MigrationCapture
open GuardedRuns MigrationPump

def maxGangThreads : ℕ := 16

def maxFds : ℕ := 256

def maxVmas : ℕ := 1024

def requiredStableScans : ℕ := 5

/-- Where the attempt is in `mattx_capture_and_send_state` or `mattx_capture_and_return_state`, and
then in `mattx_send_vma_data`. -/
inductive Phase where
  | idle
  | allocated
  | drainingMother
  | motherFrozen
  | scanning
  | scanned
  | drainingThread
  | settled
  | packed
  | walked
  | stored
  | sent
  | committed
  | failed
  deriving DecidableEq

/-- The direction, the thread group leader and where it is to go. -/
structure Attempt where
  isReturning : Bool
  task : ℕ
  origPid : ℕ
  targetNode : ℕ

/-- The blueprint that went out and the process as it was then. -/
structure Snapshot where
  req : MigrationReq
  live : List ℕ
  stopped : List ℕ
  fds : List ℕ
  vmas : List VmaInfo
  deriving DecidableEq

/-- `ever` and `bornSinceScan` keep count of the threads for the statements, `hasFailed` says that a
failure point was passed. -/
structure Capture where
  live : List ℕ
  exited : List ℕ
  stopPending : Bool
  stopped : List ℕ
  fds : List ℕ
  vmas : List VmaInfo
  isMigrating : Bool
  exports : List (ℕ × ℕ)
  globals : Globals
  phase : Phase
  beforeCount : ℕ
  threads : List ℕ
  frozenCount : ℕ
  stableScans : ℕ
  stabilizeRetries : ℕ
  req : MigrationReq
  ever : List ℕ
  bornSinceScan : Bool
  sent : Option Snapshot
  hasFailed : Prop

inductive Event where
  | enter (alloc : Bool)
  | drain (workAdded : Bool)
  | frozen
  | captureFds
  | scan
  | endScan
  | pack
  | walk
  | store (copied : Bool)
  | send (link : Bool) (sendRet : ℤ)
  | ready (link : ℕ → Bool) (io : ℕ → ℕ → PageIo)
  | clone (parent child : ℕ)
  | exit (t : ℕ)
  | openFd (t fd : ℕ)
  | closeFd (t fd : ℕ)
  | remap (t : ℕ) (vmas : List VmaInfo)
  | stop (t : ℕ)
  | cont

/-- A thread that can still run user code. -/
def Runs (s : Capture) (t : ℕ) : Prop := t ∈ s.live ∧ t ∉ s.stopped

instance (s : Capture) (t : ℕ) : Decidable (Runs s t) :=
  inferInstanceAs (Decidable (t ∈ s.live ∧ t ∉ s.stopped))

def enabled (s : Capture) : Event → Prop
  | .enter _ => s.phase = .idle
  | .drain _ => s.phase = .allocated ∨ (s.phase = .scanned ∧ s.frozenCount < s.threads.length)
  | .frozen => s.phase = .drainingMother ∨ s.phase = .drainingThread
  | .captureFds => s.phase = .motherFrozen
  | .scan => s.phase = .scanning
  | .endScan => s.phase = .scanned ∧ s.frozenCount = s.threads.length
  | .pack => s.phase = .settled
  | .walk => s.phase = .packed
  | .store _ => s.phase = .walked
  | .send _ _ => s.phase = .stored
  | .ready _ _ => s.phase = .sent ∨ s.phase = .failed
  | .clone parent child => Runs s parent ∧ child ∉ s.ever
  | .exit t => t ∈ s.live
  | .openFd t _ | .closeFd t _ | .remap t _ => Runs s t
  | .stop t => s.stopPending = true ∧ Runs s t
  | .cont => True

def sigcont (s : Capture) : Capture := { s with stopPending := false, stopped := [] }

def sigstop (s : Capture) : Capture := { s with stopPending := true }

/-- `mattx_freeze_task_safely` up to its wait: a stopped thread is resumed first so that it gets to
the injected work. -/
def drainTask (t : ℕ) (workAdded : Bool) (s : Capture) : Capture :=
  sigstop (if workAdded ∧ t ∈ s.stopped then sigcont s else s)

/-- One pass of `for_each_thread` over the list of those already held. -/
def collect (threads live : List ℕ) : List ℕ :=
  live.foldl (fun ts t => if t ∈ ts then ts else if ts.length < maxGangThreads then ts ++ [t] else ts)
    threads

def abort (s : Capture) : Capture := { s with phase := .failed, hasFailed := True }

/-- SIGCONT to every thread that was collected, and on return the guest's lock released. -/
def thaw (a : Attempt) (s : Capture) : Capture :=
  let s := if s.threads = [] then s else sigcont s
  if a.isReturning then { s with isMigrating := false } else s

/-- What an action of the pump does here. -/
def act (s : Capture) : Action → Capture
  | .page .. | .returnDone _ | .migrateDone _ => s
  | .kill _ => { s with live := [], exited := s.exited ++ s.live, stopped := [] }
  | .addExport pid node => { s with exports := s.exports ++ [(pid, node)] }

def next (a : Attempt) (s : Capture) : Event → Capture
  | .enter alloc =>
    let s := { s with globals := { s.globals with isReturning := a.isReturning } }
    let s := if a.isReturning then { s with isMigrating := true } else s
    if a.isReturning = false ∧ a.task ∈ s.exited then abort s
    else if alloc then { s with phase := .allocated, req := ⟨a.origPid, [], [], []⟩ }
    else abort s
  | .drain workAdded =>
    if s.phase = .allocated then
      { drainTask a.task workAdded s with phase := .drainingMother }
    else
      match s.threads[s.frozenCount]? with
      | some t =>
        if t = a.task then { s with frozenCount := s.frozenCount + 1 }
        else { drainTask t workAdded s with phase := .drainingThread }
      | none => s
  | .frozen =>
    if s.phase = .drainingMother then { s with phase := .motherFrozen }
    else { s with phase := .scanned, frozenCount := s.frozenCount + 1 }
  | .captureFds =>
    let openFds := if a.isReturning then [] else s.fds.take maxFds
    { s with phase := .scanning, req := { s.req with openFds } }
  | .scan =>
    { s with
      phase := .scanned, beforeCount := s.threads.length, threads := collect s.threads s.live
      bornSinceScan := false }
  | .endScan =>
    let stableScans := if s.threads.length = s.beforeCount then s.stableScans + 1 else 0
    if stableScans < requiredStableScans then
      let stabilizeRetries := s.stabilizeRetries - 1
      { s with
        stableScans, stabilizeRetries
        phase := if 0 < stabilizeRetries then .scanning else .settled }
    else { s with stableScans, phase := .settled }
  | .pack =>
    if a.isReturning = false ∧ ∃ t ∈ s.threads, t ∈ s.exited then abort (sigcont s)
    else { s with phase := .packed, req := { s.req with threads := s.threads } }
  | .walk => { s with phase := .walked, req := { s.req with vmas := s.vmas.take maxVmas } }
  | .store copied =>
    { s with
      phase := .stored
      hasFailed := s.hasFailed ∨ copied = false
      globals :=
        { s.globals with
          localMigrationReq := if copied then some s.req else none
          migratingTask := some a.task, migratingTargetNode := some a.targetNode } }
  | .send link sendRet =>
    if link then
      let s := { s with sent := some ⟨s.req, s.live, s.stopped, s.fds, s.vmas⟩ }
      if sendRet < 0 then abort (thaw a s)
      else { s with phase := .sent, hasFailed := s.hasFailed ∨ sendRet = 0 }
    else abort (thaw a s)
  | .ready link io =>
    let (globals, log) := mattxSendVmaData link io s.globals
    let s' := log.foldl act { s with globals }
    { s' with
      phase := if log = [] then s.phase else .committed
      hasFailed := s.hasFailed ∨ ¬ Starts link s.globals ∨ ¬ Lossless io s.globals }
  | .clone _ child =>
    { s with live := s.live ++ [child], ever := s.ever ++ [child], bornSinceScan := true }
  | .exit t => { s with live := s.live.erase t, exited := s.exited ++ [t] }
  | .openFd _ fd => { s with fds := fd :: s.fds }
  | .closeFd _ fd => { s with fds := s.fds.erase fd }
  | .remap _ vmas => { s with vmas }
  | .stop t => { s with stopped := t :: s.stopped }
  | .cont => sigcont s

def machine (a : Attempt) : Machine Capture Event := ⟨enabled, next a⟩

instance (s : Capture) : DecidablePred (enabled s)
  | .enter _ => inferInstanceAs (Decidable (s.phase = .idle))
  | .drain _ => inferInstanceAs (Decidable (s.phase = .allocated ∨
      (s.phase = .scanned ∧ s.frozenCount < s.threads.length)))
  | .frozen => inferInstanceAs (Decidable (s.phase = .drainingMother ∨ s.phase = .drainingThread))
  | .captureFds => inferInstanceAs (Decidable (s.phase = .motherFrozen))
  | .scan => inferInstanceAs (Decidable (s.phase = .scanning))
  | .endScan => inferInstanceAs (Decidable (s.phase = .scanned ∧ s.frozenCount = s.threads.length))
  | .pack => inferInstanceAs (Decidable (s.phase = .settled))
  | .walk => inferInstanceAs (Decidable (s.phase = .packed))
  | .store _ => inferInstanceAs (Decidable (s.phase = .walked))
  | .send _ _ => inferInstanceAs (Decidable (s.phase = .stored))
  | .ready _ _ => inferInstanceAs (Decidable (s.phase = .sent ∨ s.phase = .failed))
  | .clone parent child => inferInstanceAs (Decidable (Runs s parent ∧ child ∉ s.ever))
  | .exit t => inferInstanceAs (Decidable (t ∈ s.live))
  | .openFd t _ => inferInstanceAs (Decidable (Runs s t))
  | .closeFd t _ => inferInstanceAs (Decidable (Runs s t))
  | .remap t _ => inferInstanceAs (Decidable (Runs s t))
  | .stop t => inferInstanceAs (Decidable (s.stopPending = true ∧ Runs s t))
  | .cont => isTrue trivial

instance (a : Attempt) (s : Capture) : DecidablePred ((machine a).enabled s) :=
  inferInstanceAs (DecidablePred (enabled s))

/-- A process that runs, and no migration prepared. -/
def start (live fds : List ℕ) (vmas : List VmaInfo) (exports : List (ℕ × ℕ)) : Capture where
  live := live
  exited := []
  stopPending := false
  stopped := []
  fds := fds
  vmas := vmas
  isMigrating := false
  exports := exports
  globals := ⟨none, none, none, false⟩
  phase := .idle
  beforeCount := 0
  threads := []
  frozenCount := 0
  stableScans := 0
  stabilizeRetries := 200
  req := ⟨0, [], [], []⟩
  ever := live
  bornSinceScan := false
  sent := none
  hasFailed := False

end MattX.MigrationCapture
