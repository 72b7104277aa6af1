import MattX.MigrationPhases
import MattX.DsmTypes

set_option autoImplicit false

/-!
# Processes, registries and the messages between them

The hand-offs of the migrations run underneath. Above them are the processes of
all nodes, the two registries of each, and the lifecycle messages. A stop or a
SIGCONT is for all threads of a process.
-/
namespace MattX.ProcessWorld
open GuardedRuns MigrationHandoff MigrationPairing MigrationPhases

/-- A node and a pid. -/
abbrev Place := ℕ × ℕ

instance : LawfulBEq Place := inferInstance

/-- What a process is: a stub becomes the surrogate of the process whose image it gets. -/
inductive Role where
  | plain
  | stub
  | surrogate (o : Place)
  deriving DecidableEq

/-- `works`: the nodes for which a system call is queued on the main thread. `ending`: the calls that
are answered and have yet to send their SIGSTOP. -/
structure Proc where
  threads : ℕ
  stopped : Bool
  works : List ℕ
  ending : ℕ
  role : Role
  deriving DecidableEq

/-- A thread of the process is in user code: the main thread unless it runs a call for someone, the
other threads whenever the process is not stopped. -/
def Proc.Executes (p : Proc) : Prop :=
  p.stopped = false ∧ (p.works = [] ∧ p.ending = 0 ∨ 2 ≤ p.threads)

instance (p : Proc) : Decidable p.Executes :=
  inferInstanceAs (Decidable (p.stopped = false ∧ (p.works = [] ∧ p.ending = 0 ∨ 2 ≤ p.threads)))

/-- `struct mattx_guest_info`, with the node whose registry it is in. -/
structure Guest where
  node : ℕ
  localPid : ℕ
  origPid : ℕ
  homeNode : ℕ
  isMigrating : Bool
  deriving DecidableEq

def Guest.place (g : Guest) : Place := (g.node, g.localPid)
def Guest.key (g : Guest) : Place := (g.homeNode, g.origPid)

/-- `struct mattx_export_info`. -/
structure Export where
  node : ℕ
  origPid : ℕ
  targetNode : ℕ
  deriving DecidableEq

def Export.key (e : Export) : Place := (e.node, e.origPid)

/-- A request for a system call and its reply stand for all calls that wake the deputy. -/
inductive Notice where
  | processExit
  | killSurrogate
  | sysReq
  | sysReply
  deriving DecidableEq

/-- Every notice names the process by its pid at home. -/
structure Letter where
  src : ℕ
  dst : ℕ
  pid : ℕ
  notice : Notice
  deriving DecidableEq

/-- The captured process, and the one whose image it carries. -/
def place (x : Transfer) : Place := (x.source, x.task)
def original (x : Transfer) : Place :=
  (if x.isReturning then x.target else x.source, x.origPid)

/-- `wakes`: workers about to send SIGCONT. `commits`: pumps that have sent their DONE and have not
yet registered the export or killed the surrogate. `growing`: returns for which the deputy runs the
gang grower. `used` and `back` are a record: the pids there have been, and the surrogates whose
deputy has been told that they are back. -/
structure World where
  cluster : Cluster
  procs : Place → Option Proc
  stubPid : Transfer → ℕ
  guests : List Guest
  exports : List Export
  letters : List Letter
  wakes : List Place
  commits : List Transfer
  growing : List Transfer
  used : List Place
  back : List Place

inductive Event where
  | handoff (e : MigrationHandoff.Event)
  | abort (x : Transfer) (gone : Bool)
  | receive (i src dst : ℕ) (x : Transfer) (alloc prepared : Bool) (pid : ℕ)
  | commit (x : Transfer)
  | grow (n : ℕ) (g : Helper)
  | grown (x : Transfer) (threads : ℕ)
  | spawn (a : Place)
  | clone (a : Place)
  | threadExit (a : Place)
  | exit (a : Place)
  | watchGuest (g : Guest)
  | watchExport (e : Export)
  | receiveExit (l : Letter)
  | receiveKill (l : Letter)
  | request (a : Place)
  | receiveReq (l : Letter)
  | answer (a : Place) (m : ℕ)
  | refreeze (a : Place)
  | receiveReply (l : Letter)
  | wake (a : Place)
  | loseLetter (l : Letter)
  deriving DecidableEq

/-- The first entry of the pid is marked. -/
def markGuest (a : Place) (b : Bool) : List Guest → List Guest
  | [] => []
  | g :: gs => if g.place = a then { g with isMigrating := b } :: gs else g :: markGuest a b gs

namespace World

def setProc (s : World) (a : Place) (p : Option Proc) : World :=
  { s with procs := Function.update s.procs a p }

def modifyProc (s : World) (a : Place) (f : Proc → Proc) : World :=
  s.setProc a ((s.procs a).map f)

/-- SIGSTOP, SIGCONT and SIGKILL. -/
def stop (s : World) (a : Place) : World := s.modifyProc a fun p => { p with stopped := true }
def cont (s : World) (a : Place) : World := s.modifyProc a fun p => { p with stopped := false }
def kill (s : World) (a : Place) : World := s.setProc a none

def mark (s : World) (a : Place) (b : Bool) : World :=
  { s with guests := markGuest a b s.guests }

def post (s : World) (l : Letter) : World := { s with letters := l :: s.letters }

def take (s : World) (l : Letter) : World := { s with letters := s.letters.erase l }

/-- `add_guest_process` and `add_export_process` look for nothing but room. -/
def addGuestProcess (s : World) (g : Guest) : World :=
  if (s.guests.filter fun g' => g'.node == g.node).length < maxGuests then
    { s with guests := s.guests ++ [g] }
  else s

def addExportProcess (s : World) (e : Export) : World :=
  if (s.exports.filter fun e' => e'.node == e.node).length < maxGuests then
    { s with exports := s.exports ++ [e] }
  else s

/-- The first export of the pid. -/
def removeExportProcess (s : World) (o : Place) : World :=
  { s with exports := s.exports.eraseP fun e => e.key == o }

/-- The first guest of a node that the sender knows by the pid. -/
def guestOf (s : World) (l : Letter) : Option Guest :=
  s.guests.find? fun g => g.node == l.dst && g.key == (l.src, l.pid)

/-- The process behind `hijacked_stub_task`. -/
def pidBehind (s : World) (y : Transfer) : ℕ := if y.isReturning then y.origPid else s.stubPid y

end World

/-- What the end of `handle_migrate_done` does to its process. -/
def transplant (o : Place) (p : Proc) : Proc := { p with role := .surrogate o, stopped := false }

/-- What a DONE does besides freeing the slot. -/
def finish (dst : ℕ) (x : Transfer) (isReturning : Bool) (s : World) : World :=
  let node := s.cluster.nodes dst
  match node.pendingMigration, node.pendingSourceNode, node.hijackedStubTask with
  | some req, some home, some y =>
    let pid := s.pidBehind y
    if isReturning then
      { (s.removeExportProcess (dst, pid)).cont (dst, pid) with back := place x :: s.back }
    else
      (s.modifyProc (dst, pid) (transplant (home, req.origPid))).addGuestProcess
        ⟨dst, pid, req.origPid, home, false⟩
  | _, _, _ => s

/-- What the steps of a hand-off do to the processes and the registries. -/
def effect (s : World) : MigrationHandoff.Event → World
  | .begin x => if x.isReturning then s.mark (place x) true else s
  | .store x _ => s.stop (place x)
  | .post x link =>
    if link then s
    else if x.isReturning then (s.cont (place x)).mark (place x) false
    else s.cont (place x)
  | .hijack n h => if h.transfer.isReturning then s else s.stop (n, s.stubPid h.transfer)
  | .quit n h => s.kill (n, s.stubPid h.transfer)
  | .pumpDone n =>
    match (s.cluster.nodes n).migratingTask with
    | some x => { s with commits := x :: s.commits }
    | none => s
  | .receiveDone _ _ dst x isReturning => finish dst x isReturning s
  | _ => s

/-- The step of the hand-offs an event takes. -/
def handoffOf : Event → Option MigrationHandoff.Event
  | .handoff e => some e
  | .abort x _ => some (.abort x)
  | .receive i src dst x alloc prepared _ => some (.receiveBlueprint i src dst x alloc prepared)
  | _ => none

/-- The two steps that need more than the hand-off says. -/
def special : MigrationHandoff.Event → Bool
  | .abort _ | .receiveBlueprint _ _ _ _ _ _ => true
  | _ => false

def Alive (s : World) (a : Place) : Prop := (s.procs a).isSome = true

/-- Any process may be sent off by the administrator; a guest is captured for its way home by its
registry entry. -/
def Begins (s : World) (x : Transfer) : Prop :=
  Alive s (place x) ∧
    if x.isReturning then ∃ g ∈ s.guests, g.place = place x ∧ g.key = original x
    else x.origPid = x.task

def enabled (s : World) : Event → Prop
  | .handoff e => MigrationHandoff.enabled s.cluster e ∧ special e = false ∧
      match e with
      | .begin x => Begins s x
      | .hijack n h => if h.transfer.isReturning then h.transfer ∉ s.growing
        else Alive s (n, s.stubPid h.transfer)
      | _ => True
  | .abort x _ => MigrationHandoff.enabled s.cluster (.abort x)
  | .receive i src dst x alloc prepared pid =>
    MigrationHandoff.enabled s.cluster (.receiveBlueprint i src dst x alloc prepared) ∧
      if x.isReturning then prepared = true → Alive s (dst, x.origPid)
      else ¬ Alive s (dst, pid)
  | .commit x => x ∈ s.commits
  | .grow n g => g ∈ (s.cluster.nodes n).helpers ∧ g.hijacked = false ∧
      g.transfer.isReturning = true ∧ g.transfer ∉ s.growing
  | .grown x _ => x ∈ s.growing
  | .spawn a => ¬ Alive s a
  | .clone a | .threadExit a => (s.procs a).any (fun p => decide p.Executes) = true
  | .exit a => Alive s a
  | .watchGuest g => g ∈ s.guests ∧ ¬ Alive s g.place
  | .watchExport e => e ∈ s.exports ∧ ¬ Alive s e.key
  | .receiveExit l => l ∈ s.letters ∧ l.notice = .processExit
  | .receiveKill l => l ∈ s.letters ∧ l.notice = .killSurrogate
  | .request a => (s.procs a).any (fun p => !p.stopped) = true
  | .receiveReq l => l ∈ s.letters ∧ l.notice = .sysReq
  | .answer a m => (s.procs a).any (fun p => p.works.contains m) = true
  | .refreeze a => (s.procs a).any (fun p => p.ending != 0) = true
  | .receiveReply l => l ∈ s.letters ∧ l.notice = .sysReply
  | .wake a => a ∈ s.wakes
  | .loseLetter l => l ∈ s.letters

def stubProc : Proc := ⟨1, false, [], 0, .stub⟩

def plainProc : Proc := ⟨1, false, [], 0, .plain⟩

/-- A system call is queued on the deputy, and the deputy is sent SIGCONT to come and run it. -/
def queueWork (m : ℕ) (p : Proc) : Proc := { p with works := m :: p.works, stopped := false }

/-- The call is answered before the deputy stops itself again. -/
def answerWork (m : ℕ) (p : Proc) : Proc :=
  { p with works := p.works.erase m, ending := p.ending + 1 }

def stopSelf (p : Proc) : Proc := { p with ending := p.ending - 1, stopped := true }

def requestOf (a : Place) : Role → Option Letter
  | .surrogate o => some ⟨a.1, o.1, o.2, .sysReq⟩
  | _ => none

/-- Above the hand-off. -/
def act (s : World) : Event → World
  | .handoff e => effect s e
  | .abort x gone => if gone && !x.isReturning then s.cont (place x) else s
  | .receive _ _ dst x alloc prepared pid =>
    if alloc && prepared && !x.isReturning then
      { s.setProc (dst, pid) (some stubProc) with
        stubPid := Function.update s.stubPid x pid, used := (dst, pid) :: s.used }
    else s
  | .commit x =>
    let s := { s with commits := s.commits.erase x }
    if x.isReturning then s.kill (place x) else s.addExportProcess ⟨x.source, x.task, x.target⟩
  | .grow _ g => { s.cont (original g.transfer) with growing := g.transfer :: s.growing }
  | .grown x threads =>
    { s.modifyProc (original x) (fun p => { p with threads, stopped := true }) with
      growing := s.growing.erase x }
  | .spawn a => { s.setProc a (some plainProc) with used := a :: s.used }
  | .clone a => s.modifyProc a fun p => { p with threads := p.threads + 1 }
  | .threadExit a => s.modifyProc a fun p => { p with threads := p.threads - 1 }
  | .exit a => s.kill a
  | .watchGuest g =>
    let s := { s with guests := s.guests.erase g }
    if g.isMigrating then s else s.post ⟨g.node, g.homeNode, g.origPid, .processExit⟩
  | .watchExport e =>
    { s with exports := s.exports.erase e }.post ⟨e.node, e.targetNode, e.origPid, .killSurrogate⟩
  | .receiveExit l => ((s.take l).kill (l.dst, l.pid)).removeExportProcess (l.dst, l.pid)
  | .receiveKill l =>
    match s.guestOf l with
    | some g => { (s.take l).kill g.place with guests := s.guests.erase g }
    | none => s.take l
  | .request a =>
    match (s.procs a).bind fun p => requestOf a p.role with
    | some l => (s.stop a).post l
    | none => s
  | .receiveReq l => (s.take l).modifyProc (l.dst, l.pid) (queueWork l.src)
  | .answer a m => (s.modifyProc a (answerWork m)).post ⟨a.1, m, a.2, .sysReply⟩
  | .refreeze a => s.modifyProc a stopSelf
  | .receiveReply l =>
    match s.guestOf l with
    | some g => if g.isMigrating then s.take l else { s.take l with wakes := g.place :: s.wakes }
    | none => s.take l
  | .wake a => { s.cont a with wakes := s.wakes.erase a }
  | .loseLetter l => s.take l

def next (s : World) (e : Event) : World :=
  match handoffOf e with
  | some h => { act s e with cluster := MigrationHandoff.next s.cluster h }
  | none => act s e

def machine : Machine World Event := ⟨enabled, next⟩

instance (s : World) (a : Place) : Decidable (Alive s a) :=
  inferInstanceAs (Decidable ((s.procs a).isSome = true))

instance (s : World) (x : Transfer) : Decidable (Begins s x) := by
  unfold Begins
  infer_instance

instance (s : World) : DecidablePred (enabled s) := by
  intro e
  cases e with
  | handoff e => cases e <;> unfold enabled <;> infer_instance
  | abort | receive | commit | grow | grown | spawn | clone | threadExit | exit | watchGuest
  | watchExport | receiveExit | receiveKill | request | receiveReq | answer | refreeze
  | receiveReply | wake | loseLetter => unfold enabled; infer_instance

instance (s : World) : DecidablePred (machine.enabled s) :=
  inferInstanceAs (DecidablePred (enabled s))

def start : World :=
  ⟨MigrationHandoff.start, fun _ => none, fun _ => 0, [], [], [], [], [], [], [], []⟩

end MattX.ProcessWorld
