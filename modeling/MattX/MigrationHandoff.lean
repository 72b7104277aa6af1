import MattX.GuardedRuns
import Mathlib.Data.List.Basic

set_option autoImplicit false

/-!
# Migrations between the nodes of a cluster

A node has one slot for what it sends and one for what it receives. Messages
carry no transfer, and a link delivers them in the order they were sent. The
transfer a message or a pointer stands for is written beside it here, together
with the stage each transfer has reached; no handler looks at either.
-/
namespace MattX.MigrationHandoff
open GuardedRuns

/-- One capture of a task: a guest's on its way home, any other process's on its way out. The
blueprint names the process by its pid at home. -/
structure Transfer where
  serial : ℕ
  task : ℕ
  origPid : ℕ
  source : ℕ
  target : ℕ
  isReturning : Bool
  deriving DecidableEq

/-- How far a transfer has come. -/
inductive Stage where
  | unborn
  | capturing
  | stored
  | posted
  | received
  | hijacked
  | announced
  | pumping
  | over
  deriving DecidableEq

/-- A stub that was started for a blueprint, or the handler that has looked up the deputy. -/
structure Helper where
  transfer : Transfer
  blueprint : Option Transfer
  hijacked : Bool
  deriving DecidableEq

/-- The outgoing slot, the number of pumps that run on it, and the incoming slot. -/
structure Node where
  localMigrationReq : Option Transfer
  migratingTask : Option Transfer
  migratingTargetNode : Option ℕ
  isReturning : Bool
  pumps : ℕ
  pendingMigration : Option Transfer
  pendingSourceNode : Option ℕ
  hijackedStubTask : Option Transfer
  helpers : List Helper
  deriving DecidableEq

/-- `MIGRATE_REQ` and `RETURN_BLUEPRINT` carry a blueprint; which of the two it is, and which DONE
is sent, is the direction. -/
inductive Msg where
  | blueprint (x : Transfer)
  | ready (x : Transfer)
  | page (x : Transfer)
  | done (x : Transfer) (isReturning : Bool)
  deriving DecidableEq

def Msg.transfer : Msg → Transfer
  | .blueprint x | .ready x | .page x | .done x _ => x

structure Packet where
  src : ℕ
  dst : ℕ
  msg : Msg
  deriving DecidableEq

/-- What is recorded of a run: a blueprint sent, a pump started by a READY with what it found in
the slot, a page sent, a page written. -/
inductive Deed where
  | sent (x : Transfer) (dst : ℕ)
  | started (node sender : ℕ) (req task : Transfer) (target : ℕ) (isReturning : Bool)
  | paged (node : ℕ) (x : Transfer) (dst : ℕ)
  | written (node sender : ℕ) (x into : Transfer)
  deriving DecidableEq

structure Cluster where
  nodes : ℕ → Node
  wire : List Packet
  stage : Transfer → Stage
  begun : List Transfer
  deeds : List Deed

/-- The triggers all come down to `begin` at the node that has the process. -/
inductive Event where
  | begin (x : Transfer)
  | abort (x : Transfer)
  | store (x : Transfer) (copied : Bool)
  | post (x : Transfer) (link : Bool)
  | receiveBlueprint (i src dst : ℕ) (x : Transfer) (alloc prepared : Bool)
  | receiveReady (i src dst : ℕ) (x : Transfer) (link : Bool)
  | receivePage (i src dst : ℕ) (x : Transfer)
  | receiveDone (i src dst : ℕ) (x : Transfer) (isReturning : Bool)
  | lose (i : ℕ) (p : Packet)
  | fetch (n : ℕ) (h : Helper)
  | hijack (n : ℕ) (h : Helper)
  | announce (n : ℕ) (h : Helper) (link : Bool)
  | quit (n : ℕ) (h : Helper)
  | pumpPage (n : ℕ)
  | pumpDone (n : ℕ)
  deriving DecidableEq

/-- The packet is the next its link delivers. -/
def Delivers (wire : List Packet) (i : ℕ) (p : Packet) : Prop :=
  wire[i]? = some p ∧ ∀ q ∈ wire.take i, ¬ (q.src = p.src ∧ q.dst = p.dst)

instance (wire : List Packet) (i : ℕ) (p : Packet) : Decidable (Delivers wire i p) :=
  inferInstanceAs (Decidable (_ ∧ _))

theorem Delivers.mem {wire : List Packet} {i : ℕ} {p : Packet} (h : Delivers wire i p) :
    p ∈ wire :=
  List.mem_of_getElem? h.1

def enabled (s : Cluster) : Event → Prop
  | .begin x => x ∉ s.begun
  | .abort x | .store x _ => s.stage x = .capturing
  | .post x _ => s.stage x = .stored
  | .receiveBlueprint i src dst x _ _ => Delivers s.wire i ⟨src, dst, .blueprint x⟩
  | .receiveReady i src dst x _ => Delivers s.wire i ⟨src, dst, .ready x⟩
  | .receivePage i src dst x => Delivers s.wire i ⟨src, dst, .page x⟩
  | .receiveDone i src dst x isReturning => Delivers s.wire i ⟨src, dst, .done x isReturning⟩
  | .lose i p => s.wire[i]? = some p
  | .fetch n h =>
    h ∈ (s.nodes n).helpers ∧ h.blueprint = none ∧ (s.nodes n).pendingMigration ≠ none
  | .hijack n h =>
    h ∈ (s.nodes n).helpers ∧ h.hijacked = false ∧ h.blueprint ≠ none ∧
      (h.transfer.isReturning = true ∨ (s.nodes n).pendingMigration ≠ none)
  | .announce n h _ => h ∈ (s.nodes n).helpers ∧ h.hijacked = true
  | .quit n h =>
    h ∈ (s.nodes n).helpers ∧ h.hijacked = false ∧ h.transfer.isReturning = false
  | .pumpPage n | .pumpDone n =>
    (s.nodes n).pumps ≠ 0 ∧ (s.nodes n).migratingTask ≠ none ∧
      (s.nodes n).migratingTargetNode ≠ none

namespace Cluster

def setNode (s : Cluster) (n : ℕ) (node : Node) : Cluster :=
  { s with nodes := Function.update s.nodes n node }

def setStage (s : Cluster) (x : Transfer) (st : Stage) : Cluster :=
  { s with stage := Function.update s.stage x st }

def send (s : Cluster) (p : Packet) : Cluster := { s with wire := s.wire ++ [p] }

def drop (s : Cluster) (i : ℕ) : Cluster := { s with wire := s.wire.eraseIdx i }

def record (s : Cluster) (d : Deed) : Cluster := { s with deeds := d :: s.deeds }

end Cluster

/-- The three globals the capture leaves for the pump. -/
def storeSlot (x : Transfer) (copied : Bool) (node : Node) : Node :=
  { node with
    localMigrationReq := if copied then some x else none
    migratingTask := some x, migratingTargetNode := some x.target }

/-- `handle_migrate_req` and the first half of `handle_return_blueprint`, which needs no stub to
come and ask. -/
def handleBlueprint (src : ℕ) (x : Transfer) (alloc prepared : Bool) (node : Node) : Node :=
  let helper : Helper := ⟨x, if x.isReturning then some x else none, false⟩
  { node with
    pendingSourceNode := some src
    pendingMigration := if alloc then some x else none
    helpers := if alloc && prepared then helper :: node.helpers else node.helpers }

/-- `mattx_nl_cmd_hijack_me`, and the second half of `handle_return_blueprint`. -/
def hijackMe (h : Helper) (node : Node) : Node :=
  { node with
    hijackedStubTask := h.blueprint, helpers := { h with hijacked := true } :: node.helpers.erase h }

/-- `handle_ready_for_data` asks for a migration, not for the sender's. -/
def handleReadyForData (src dst : ℕ) (x : Transfer) (link : Bool) (s : Cluster) : Cluster :=
  let node := s.nodes dst
  match node.localMigrationReq, node.migratingTask, node.migratingTargetNode, link with
  | some req, some task, some target, true =>
    (((s.setNode dst { node with pumps := node.pumps + 1 }).setStage x .over).setStage task
      .pumping).record (.started dst src req task target node.isReturning)
  | _, _, _, _ => s.setStage x .over

def handlePageTransfer (src dst : ℕ) (x : Transfer) (s : Cluster) : Cluster :=
  match (s.nodes dst).pendingMigration, (s.nodes dst).hijackedStubTask with
  | some _, some into => s.record (.written dst src x into)
  | _, _ => s

/-- The end of `handle_migrate_done` and of `handle_return_done`. -/
def handleDone (node : Node) : Node :=
  if node.hijackedStubTask ≠ none ∧ node.pendingMigration ≠ none then
    { node with hijackedStubTask := none, pendingMigration := none, pendingSourceNode := none }
  else node

/-- The pump reads the globals again for each page. -/
def sendPage (n : ℕ) (s : Cluster) : Cluster :=
  match (s.nodes n).migratingTask, (s.nodes n).migratingTargetNode with
  | some x, some target => (s.send ⟨n, target, .page x⟩).record (.paged n x target)
  | _, _ => s

def finishPump (n : ℕ) (s : Cluster) : Cluster :=
  let node := s.nodes n
  match node.migratingTask, node.migratingTargetNode with
  | some x, some target =>
    let cleared :=
      { node with localMigrationReq := none, migratingTask := none, pumps := node.pumps - 1 }
    ((s.send ⟨n, target, .done x node.isReturning⟩).setNode n cleared).setStage x .over
  | _, _ => s

def announce (n : ℕ) (h : Helper) (link : Bool) (s : Cluster) : Cluster :=
  let node := s.nodes n
  let s := s.setNode n { node with helpers := node.helpers.erase h }
  match node.pendingSourceNode, link with
  | some source, true => (s.send ⟨n, source, .ready h.transfer⟩).setStage h.transfer .announced
  | _, _ => s.setStage h.transfer .over

/-- The transfer goes no further when its blueprint or its READY is lost. -/
def lost (p : Packet) (s : Cluster) : Cluster :=
  match p.msg with
  | .blueprint x | .ready x => s.setStage x .over
  | .page _ | .done _ _ => s

def next (s : Cluster) : Event → Cluster
  | .begin x =>
    let node := { s.nodes x.source with isReturning := x.isReturning }
    { (s.setNode x.source node).setStage x .capturing with begun := x :: s.begun }
  | .abort x => s.setStage x .over
  | .store x copied =>
    (s.setNode x.source (storeSlot x copied (s.nodes x.source))).setStage x .stored
  | .post x link =>
    if link then
      ((s.send ⟨x.source, x.target, .blueprint x⟩).setStage x .posted).record (.sent x x.target)
    else s.setStage x .over
  | .receiveBlueprint i src dst x alloc prepared =>
    ((s.drop i).setNode dst (handleBlueprint src x alloc prepared (s.nodes dst))).setStage x
      (if alloc && prepared then .received else .over)
  | .receiveReady i src dst x link => handleReadyForData src dst x link (s.drop i)
  | .receivePage i src dst x => handlePageTransfer src dst x (s.drop i)
  | .receiveDone i _ dst _ _ => (s.drop i).setNode dst (handleDone (s.nodes dst))
  | .lose i p => lost p (s.drop i)
  | .fetch n h =>
    let node := s.nodes n
    let fetched := { h with blueprint := node.pendingMigration }
    s.setNode n { node with helpers := fetched :: node.helpers.erase h }
  | .hijack n h => (s.setNode n (hijackMe h (s.nodes n))).setStage h.transfer .hijacked
  | .announce n h link => announce n h link s
  | .quit n h =>
    let node := s.nodes n
    (s.setNode n { node with helpers := node.helpers.erase h }).setStage h.transfer .over
  | .pumpPage n => sendPage n s
  | .pumpDone n => finishPump n s

def machine : Machine Cluster Event := ⟨enabled, next⟩

instance (s : Cluster) : DecidablePred (enabled s)
  | .begin x => inferInstanceAs (Decidable (x ∉ s.begun))
  | .abort x | .store x _ => inferInstanceAs (Decidable (s.stage x = .capturing))
  | .post x _ => inferInstanceAs (Decidable (s.stage x = .stored))
  | .receiveBlueprint i src dst x _ _ =>
    inferInstanceAs (Decidable (Delivers s.wire i ⟨src, dst, .blueprint x⟩))
  | .receiveReady i src dst x _ =>
    inferInstanceAs (Decidable (Delivers s.wire i ⟨src, dst, .ready x⟩))
  | .receivePage i src dst x =>
    inferInstanceAs (Decidable (Delivers s.wire i ⟨src, dst, .page x⟩))
  | .receiveDone i src dst x isReturning =>
    inferInstanceAs (Decidable (Delivers s.wire i ⟨src, dst, .done x isReturning⟩))
  | .lose i p => inferInstanceAs (Decidable (s.wire[i]? = some p))
  | .fetch _ _ | .hijack _ _ | .announce _ _ _ | .quit _ _ | .pumpPage _ | .pumpDone _ =>
    by unfold enabled; infer_instance

instance (s : Cluster) : DecidablePred (machine.enabled s) :=
  inferInstanceAs (DecidablePred (enabled s))

def Node.idle : Node := ⟨none, none, none, false, 0, none, none, none, []⟩

def start : Cluster := ⟨fun _ => .idle, [], fun _ => .unborn, [], []⟩

end MattX.MigrationHandoff
