import MattX.MigrationHandoff
import Mathlib.Algebra.Order.Group.Nat

set_option autoImplicit false

/-!
# One migration at a time keeps to its process and peer

A node may send one process and receive one process at the same time. As long
as neither slot is taken again before the hand-off it was taken for is over,
the slots tell the handlers what the messages do not.
-/
namespace MattX.MigrationPairing
open GuardedRuns MigrationHandoff

/-- A READY starts the transfer that is for its sender, with that transfer's direction; a page goes
where its process's blueprint went; and a page is written into what was prepared for the blueprint
its sender sent. -/
def Paired (deeds : List Deed) : Deed → Prop
  | .sent _ _ => True
  | .started node sender req task target isReturning =>
    task.source = node ∧ task.target = sender ∧ target = sender ∧ req = task ∧
      isReturning = task.isReturning
  | .paged node x dst => x.source = node ∧ Deed.sent x dst ∈ deeds
  | .written node sender x into => into = x ∧ into.source = sender ∧ into.target = node

def HandedOff (s : Cluster) : Prop := ∀ d ∈ s.deeds, Paired s.deeds d

def isOpen : Stage → Bool
  | .unborn | .over => false
  | _ => true

/-- The outgoing slot is the transfer's. -/
def exporting : Stage → Bool
  | .unborn | .capturing | .over => false
  | _ => true

/-- The incoming slot is the transfer's. -/
def importing : Stage → Bool
  | .received | .hijacked | .announced | .pumping => true
  | _ => false

def isMemory : Msg → Bool
  | .page _ | .done _ _ => true
  | .blueprint _ | .ready _ => false

/-- A capture begins beside others only if it goes the same way; the slot is stored when no other
transfer has it; a blueprint arrives when no other transfer has the incoming slot, and none of its
pages is still on its way. -/
def ok (s : Cluster) : Event → Prop
  | .begin x => ∀ y ∈ s.begun, y.source = x.source → isOpen (s.stage y) = true →
      y.isReturning = x.isReturning
  | .store x _ => ∀ y ∈ s.begun, y.source = x.source → exporting (s.stage y) = false
  | .receiveBlueprint _ _ dst _ _ _ =>
    (∀ y ∈ s.begun, y.target = dst → importing (s.stage y) = false) ∧
      ∀ p ∈ s.wire, p.dst = dst → isMemory p.msg = false
  | _ => True

instance (s : Cluster) : DecidablePred (ok s)
  | .begin x => inferInstanceAs (Decidable (∀ y ∈ s.begun, y.source = x.source →
      isOpen (s.stage y) = true → y.isReturning = x.isReturning))
  | .store x _ => inferInstanceAs (Decidable (∀ y ∈ s.begun, y.source = x.source →
      exporting (s.stage y) = false))
  | .receiveBlueprint _ _ dst _ _ _ =>
    inferInstanceAs (Decidable ((∀ y ∈ s.begun, y.target = dst → importing (s.stage y) = false) ∧
      ∀ p ∈ s.wire, p.dst = dst → isMemory p.msg = false))
  | .abort _ | .post _ _ | .receiveReady _ _ _ _ _ | .receivePage _ _ _ _
  | .receiveDone _ _ _ _ _ | .lose _ _ | .fetch _ _ | .hijack _ _ | .announce _ _ _ | .quit _ _
  | .pumpPage _ | .pumpDone _ => isTrue trivial

/-- The blueprint is out. -/
def isSent : Stage → Bool
  | .unborn | .capturing | .stored | .over => false
  | _ => true

/-- The stub or the deputy stands ready. -/
def isReady : Stage → Bool
  | .hijacked | .announced | .pumping => true
  | _ => false

def isPage : Msg → Bool
  | .page _ => true
  | _ => false

structure AtSource (s : Cluster) (x : Transfer) : Prop where
  direction : isOpen (s.stage x) = true → (s.nodes x.source).isReturning = x.isReturning
  task : exporting (s.stage x) = true → (s.nodes x.source).migratingTask = some x
  target : exporting (s.stage x) = true → (s.nodes x.source).migratingTargetNode = some x.target
  req : exporting (s.stage x) = true →
    ∀ r, (s.nodes x.source).localMigrationReq = some r → r = x
  sent : isSent (s.stage x) = true → Deed.sent x x.target ∈ s.deeds

def InFlight (s : Cluster) (x : Transfer) : Prop :=
  ∃ p ∈ s.wire, p.msg.transfer = x ∧ isMemory p.msg = true

structure AtTarget (s : Cluster) (x : Transfer) : Prop where
  pending : importing (s.stage x) = true ∨ InFlight s x →
    (s.nodes x.target).pendingMigration = some x
  source : importing (s.stage x) = true ∨ InFlight s x →
    (s.nodes x.target).pendingSourceNode = some x.source
  hijacked : isReady (s.stage x) = true ∨ InFlight s x →
    (s.nodes x.target).hijackedStubTask = some x

structure AtNode (s : Cluster) (n : ℕ) : Prop where
  pumps : (s.nodes n).pumps ≤ 1
  pump : (s.nodes n).pumps ≠ 0 → ∃ x, x.source = n ∧ s.stage x = .pumping
  helpers : (s.nodes n).helpers.length ≤ 1
  target : ∀ h ∈ (s.nodes n).helpers, h.transfer.target = n
  blueprint : ∀ h ∈ (s.nodes n).helpers, ∀ x, h.blueprint = some x → x = h.transfer
  stage : ∀ h ∈ (s.nodes n).helpers,
    s.stage h.transfer = if h.hijacked then .hijacked else .received

/-- Where a packet comes from and goes to, and what its transfer has come to. -/
def Fits (s : Cluster) (p : Packet) : Prop :=
  match p.msg with
  | .blueprint x => p.src = x.source ∧ p.dst = x.target ∧ s.stage x = .posted
  | .ready x => p.src = x.target ∧ p.dst = x.source ∧ s.stage x = .announced
  | .page x => p.src = x.source ∧ p.dst = x.target ∧ (s.stage x = .pumping ∨ s.stage x = .over)
  | .done x _ => p.src = x.source ∧ p.dst = x.target ∧ s.stage x = .over

/-- Of one transfer's packets only pages are followed by others. -/
def Ordered (wire : List Packet) : Prop :=
  wire.Pairwise fun p q => p.msg.transfer = q.msg.transfer → isPage p.msg = true

structure Sound (s : Cluster) : Prop where
  begun : ∀ x, s.stage x ≠ .unborn → x ∈ s.begun
  atSource : ∀ x, AtSource s x
  atTarget : ∀ x, AtTarget s x
  atNode : ∀ n, AtNode s n
  fits : ∀ p ∈ s.wire, Fits s p
  ordered : Ordered s.wire
  handedOff : HandedOff s

section Frames
variable {s s' : Cluster} {x y : Transfer} {n : ℕ}

@[simp] theorem setStage_self (s : Cluster) (x : Transfer) (st : Stage) :
    (s.setStage x st).stage x = st := by
  simp [Cluster.setStage]

theorem setStage_other (s : Cluster) {x y : Transfer} (st : Stage) (other : y ≠ x) :
    (s.setStage x st).stage y = s.stage y := by
  simp [Cluster.setStage, other]

@[simp] theorem setNode_self (s : Cluster) (n : ℕ) (node : Node) :
    (s.setNode n node).nodes n = node := by
  simp [Cluster.setNode]

theorem setNode_other (s : Cluster) {n m : ℕ} (node : Node) (other : m ≠ n) :
    (s.setNode n node).nodes m = s.nodes m := by
  simp [Cluster.setNode, other]

/-- The parts of a node that the outgoing and the incoming transfer read. -/
def outgoing (node : Node) : Option Transfer × Option Transfer × Option ℕ × Bool :=
  (node.localMigrationReq, node.migratingTask, node.migratingTargetNode, node.isReturning)

def incoming (node : Node) : Option Transfer × Option ℕ × Option Transfer :=
  (node.pendingMigration, node.pendingSourceNode, node.hijackedStubTask)

/-- A projection that the new node keeps is kept at every node. -/
theorem setNode_keeps {α : Type*} (f : Node → α) (node : Node) (same : f node = f (s.nodes n))
    (m : ℕ) : f ((s.setNode n node).nodes m) = f (s.nodes m) := by
  by_cases here : m = n
  · rw [here, setNode_self, same]
  · rw [setNode_other s node here]

theorem AtSource.frame (h : AtSource s x) (stage : s'.stage x = s.stage x)
    (slot : outgoing (s'.nodes x.source) = outgoing (s.nodes x.source))
    (deeds : ∀ d ∈ s.deeds, d ∈ s'.deeds) : AtSource s' x := by
  simp only [outgoing, Prod.mk.injEq] at slot
  obtain ⟨req, task, target, direction⟩ := slot
  constructor
  · rw [stage, direction]
    exact h.direction
  · rw [stage, task]
    exact h.task
  · rw [stage, target]
    exact h.target
  · rw [stage, req]
    exact h.req
  · rw [stage]
    intro out
    exact deeds _ (h.sent out)

/-- A transfer that is not under way makes no demand on its source. -/
theorem AtSource.idle (stage : isOpen (s.stage x) = false) : AtSource s x := by
  have exported : exporting (s.stage x) = false := by
    cases h : s.stage x <;> simp_all [isOpen, exporting]
  have unsent : isSent (s.stage x) = false := by
    cases h : s.stage x <;> simp_all [isOpen, isSent]
  constructor <;> simp [stage, exported, unsent]

theorem AtTarget.frame (h : AtTarget s x) (stage : s'.stage x = s.stage x)
    (slot : incoming (s'.nodes x.target) = incoming (s.nodes x.target))
    (wire : InFlight s' x → InFlight s x) : AtTarget s' x := by
  simp only [incoming, Prod.mk.injEq] at slot
  obtain ⟨pending, source, hijacked⟩ := slot
  constructor
  · rw [stage, pending]
    exact fun is => h.pending (is.imp_right wire)
  · rw [stage, source]
    exact fun is => h.source (is.imp_right wire)
  · rw [stage, hijacked]
    exact fun is => h.hijacked (is.imp_right wire)

theorem AtTarget.idle (stage : importing (s.stage x) = false) (quiet : ¬ InFlight s x) :
    AtTarget s x := by
  have unready : isReady (s.stage x) = false := by
    cases h : s.stage x <;> simp_all [importing, isReady]
  constructor <;> simp [stage, unready, quiet]

theorem AtNode.frame (h : AtNode s n) (pumps : (s'.nodes n).pumps = (s.nodes n).pumps)
    (helpers : (s'.nodes n).helpers = (s.nodes n).helpers) (stage : s'.stage = s.stage) :
    AtNode s' n := by
  constructor
  · rw [pumps]
    exact h.pumps
  · rw [pumps, stage]
    exact h.pump
  · rw [helpers]
    exact h.helpers
  · rw [helpers]
    exact h.target
  · rw [helpers]
    exact h.blueprint
  · rw [helpers, stage]
    exact h.stage

theorem Fits.frame {p : Packet} (h : Fits s p)
    (stage : s'.stage p.msg.transfer = s.stage p.msg.transfer) : Fits s' p := by
  unfold Fits at h ⊢
  cases msg : p.msg with
  | blueprint x | ready x | page x | done x _ =>
    rw [msg] at h stage
    change s'.stage x = s.stage x at stage
    simpa only [stage] using h

theorem Paired.mono {deeds deeds' : List Deed} {d : Deed} (h : Paired deeds d)
    (more : ∀ d ∈ deeds, d ∈ deeds') : Paired deeds' d := by
  cases d with
  | sent => trivial
  | started => exact h
  | paged n x dst => exact ⟨h.1, more _ h.2⟩
  | written => exact h

/-- A deed may be recorded when it is paired. -/
theorem HandedOff.record (h : HandedOff s) {d : Deed} (paired : Paired (d :: s.deeds) d) :
    HandedOff (s.record d) := by
  intro e mem
  cases List.mem_cons.mp mem with
  | inl is =>
    rw [is]
    exact paired
  | inr old => exact (h e old).mono fun _ => List.mem_cons_of_mem d

/-- A transfer that has no packet under way is not in flight. -/
theorem not_inFlight (quiet : ∀ p ∈ s.wire, p.msg.transfer ≠ x) : ¬ InFlight s x := by
  intro ⟨p, mem, is, _⟩
  exact quiet p mem is

end Frames

section Primitives
variable {s : Cluster} {x y : Transfer} {n : ℕ}

theorem Sound.unborn (h : Sound s) (unbegun : x ∉ s.begun) : s.stage x = .unborn := by
  by_contra stage
  exact unbegun (h.begun x stage)

theorem Sound.one_export (h : Sound s) (hx : exporting (s.stage x) = true)
    (hy : exporting (s.stage y) = true) (same : x.source = y.source) : x = y := by
  have task := (h.atSource x).task hx
  rw [same, (h.atSource y).task hy] at task
  exact (Option.some.inj task).symm

theorem Sound.one_import (h : Sound s) (hx : importing (s.stage x) = true ∨ InFlight s x)
    (hy : importing (s.stage y) = true ∨ InFlight s y) (same : x.target = y.target) : x = y := by
  have pending := (h.atTarget x).pending hx
  rw [same, (h.atTarget y).pending hy] at pending
  exact (Option.some.inj pending).symm

/-- Nothing of the transfer is on a wire. -/
def isQuiet : Stage → Bool
  | .posted | .announced | .pumping | .over => false
  | _ => true

theorem Sound.quiet (h : Sound s) (stage : isQuiet (s.stage x) = true) :
    ∀ p ∈ s.wire, p.msg.transfer ≠ x := by
  intro p mem is
  have fits := h.fits p mem
  unfold Fits at fits
  cases msg : p.msg with
  | blueprint y | ready y | done y b =>
    rw [msg] at fits is
    change y = x at is
    subst is
    simp [fits.2.2, isQuiet] at stage
  | page y =>
    rw [msg] at fits is
    change y = x at is
    subst is
    rcases fits.2.2 with run | out
    · simp [run, isQuiet] at stage
    · simp [out, isQuiet] at stage

theorem Sound.setNode (h : Sound s) {node : Node}
    (source : ∀ x, x.source = n → AtSource s x → AtSource (s.setNode n node) x)
    (target : ∀ x, x.target = n → AtTarget s x → AtTarget (s.setNode n node) x)
    (here : AtNode (s.setNode n node) n) : Sound (s.setNode n node) := by
  refine ⟨h.begun, ?_, ?_, ?_, ?_, h.ordered, h.handedOff⟩
  · intro x
    by_cases is : x.source = n
    · exact source x is (h.atSource x)
    · exact (h.atSource x).frame rfl (by rw [setNode_other s node is]) fun _ => id
  · intro x
    by_cases is : x.target = n
    · exact target x is (h.atTarget x)
    · exact (h.atTarget x).frame rfl (by rw [setNode_other s node is]) id
  · intro m
    by_cases is : m = n
    · rw [is]
      exact here
    · have other := setNode_other s node is
      exact (h.atNode m).frame (by rw [other]) (by rw [other]) rfl
  · intro p mem
    exact (h.fits p mem).frame rfl

/-- Neither slot changes. -/
theorem Sound.setNode_same (h : Sound s) {node : Node}
    (out : outgoing node = outgoing (s.nodes n)) (inc : incoming node = incoming (s.nodes n))
    (here : AtNode (s.setNode n node) n) : Sound (s.setNode n node) := by
  refine h.setNode ?_ ?_ here
  · intro x _ old
    exact old.frame rfl (setNode_keeps outgoing node out x.source) fun _ => id
  · intro x _ old
    exact old.frame rfl (setNode_keeps incoming node inc x.target) id

/-- While no transfer has the outgoing slot it may be filled or cleared. -/
theorem Sound.setSlot (h : Sound s) {node : Node}
    (free : ∀ y, y.source = n → exporting (s.stage y) = false)
    (direction : node.isReturning = (s.nodes n).isReturning)
    (inc : incoming node = incoming (s.nodes n)) (pumps : node.pumps = (s.nodes n).pumps)
    (helpers : node.helpers = (s.nodes n).helpers) : Sound (s.setNode n node) := by
  refine h.setNode ?_ ?_ ((h.atNode n).frame ?_ ?_ rfl)
  · intro y src old
    have unexported : exporting ((s.setNode n node).stage y) = false := free y src
    refine ⟨?_, ?_, ?_, ?_, old.sent⟩
    · rw [setNode_keeps Node.isReturning node direction]
      exact old.direction
    · exact fun out => absurd out (by simp [unexported])
    · exact fun out => absurd out (by simp [unexported])
    · exact fun out => absurd out (by simp [unexported])
  · intro y _ old
    exact old.frame rfl (setNode_keeps incoming node inc y.target) id
  · rw [setNode_self, pumps]
  · rw [setNode_self, helpers]

theorem Sound.setStage (h : Sound s) (st : Stage) (begun : x ∈ s.begun)
    (source : AtSource (s.setStage x st) x) (target : AtTarget (s.setStage x st) x)
    (pump : s.stage x = .pumping → (s.nodes x.source).pumps = 0)
    (unhelped : ∀ n, ∀ h ∈ (s.nodes n).helpers, h.transfer ≠ x)
    (fits : ∀ p ∈ s.wire, p.msg.transfer = x → Fits (s.setStage x st) p) :
    Sound (s.setStage x st) := by
  refine ⟨?_, ?_, ?_, ?_, ?_, h.ordered, h.handedOff⟩
  · intro y stage
    by_cases is : y = x
    · rw [is]
      exact begun
    · rw [setStage_other s st is] at stage
      exact h.begun y stage
  · intro y
    by_cases is : y = x
    · rw [is]
      exact source
    · exact (h.atSource y).frame (setStage_other s st is) rfl fun _ => id
  · intro y
    by_cases is : y = x
    · rw [is]
      exact target
    · exact (h.atTarget y).frame (setStage_other s st is) rfl id
  · intro m
    have old := h.atNode m
    refine ⟨old.pumps, ?_, old.helpers, old.target, old.blueprint, ?_⟩
    · intro runs
      obtain ⟨y, src, pumping⟩ := old.pump runs
      have other : y ≠ x := by
        intro is
        subst is
        have none := pump pumping
        rw [src] at none
        exact runs none
      exact ⟨y, src, by rw [setStage_other s st other, pumping]⟩
    · intro g mem
      rw [setStage_other s st (unhelped m g mem)]
      exact old.stage g mem
  · intro p mem
    by_cases is : p.msg.transfer = x
    · exact fits p mem is
    · exact (h.fits p mem).frame (setStage_other s st is)

/-- A transfer can be given up at any time before its pump, with nothing of it on a wire. -/
theorem Sound.giveUp (h : Sound s) (begun : x ∈ s.begun) (pump : s.stage x ≠ .pumping)
    (unhelped : ∀ n, ∀ h ∈ (s.nodes n).helpers, h.transfer ≠ x)
    (quiet : ∀ p ∈ s.wire, p.msg.transfer ≠ x) : Sound (s.setStage x .over) := by
  refine h.setStage .over begun (.idle ?_) (.idle ?_ (not_inFlight quiet)) (fun is => absurd is pump)
    unhelped (fun p mem is => absurd is (quiet p mem))
  · rw [setStage_self]
    rfl
  · rw [setStage_self]
    rfl

theorem mem_begun (h : Sound s) {st : Stage} (stage : s.stage x = st) (born : st ≠ .unborn) :
    x ∈ s.begun :=
  h.begun x (by rwa [stage])

/-- Only a transfer that is being received has a helper. -/
theorem Sound.unhelped (h : Sound s) {st : Stage} (stage : s.stage x = st)
    (unreceived : st ≠ .received) (unhijacked : st ≠ .hijacked) :
    ∀ n, ∀ h ∈ (s.nodes n).helpers, h.transfer ≠ x := by
  intro n g mem is
  have at' := (h.atNode n).stage g mem
  rw [is, stage] at at'
  split at at'
  · exact unhijacked at'
  · exact unreceived at'

theorem Sound.drop (h : Sound s) (i : ℕ) : Sound (s.drop i) := by
  have fewer : ∀ p ∈ (s.drop i).wire, p ∈ s.wire := fun p mem => List.mem_of_mem_eraseIdx mem
  have flight : ∀ x, InFlight (s.drop i) x → InFlight s x := by
    intro x ⟨p, mem, is⟩
    exact ⟨p, fewer p mem, is⟩
  refine ⟨h.begun, ?_, ?_, fun n => (h.atNode n).frame rfl rfl rfl, ?_, h.ordered.sublist (List.eraseIdx_sublist s.wire i), h.handedOff⟩
  · intro x
    exact (h.atSource x).frame rfl rfl fun _ => id
  · intro x
    exact (h.atTarget x).frame rfl rfl (flight x)
  · intro p mem
    exact (h.fits p (fewer p mem)).frame rfl

theorem Sound.send (h : Sound s) {p : Packet} (fits : Fits s p)
    (after : ∀ q ∈ s.wire, q.msg.transfer = p.msg.transfer → isPage q.msg = true)
    (target : isMemory p.msg = true → AtTarget (s.send p) p.msg.transfer) : Sound (s.send p) := by
  have more : ∀ q ∈ (s.send p).wire, q ∈ s.wire ∨ q = p := by
    intro q mem
    simpa [Cluster.send] using mem
  refine ⟨h.begun, ?_, ?_, fun n => (h.atNode n).frame rfl rfl rfl, ?_, ?_, h.handedOff⟩
  · intro x
    exact (h.atSource x).frame rfl rfl fun _ => id
  · intro x
    by_cases is : p.msg.transfer = x ∧ isMemory p.msg = true
    · rw [← is.1]
      exact target is.2
    · refine (h.atTarget x).frame rfl rfl ?_
      intro ⟨q, mem, his⟩
      cases more q mem with
      | inl old => exact ⟨q, old, his⟩
      | inr new =>
        rw [new] at his
        exact absurd his is
  · intro q mem
    cases more q mem with
    | inl old => exact (h.fits q old).frame rfl
    | inr new =>
      rw [new]
      exact fits.frame rfl
  · refine List.pairwise_append.mpr ⟨h.ordered, List.pairwise_singleton _ _, ?_⟩
    intro q mem r hr
    rw [List.mem_singleton.mp hr]
    exact after q mem

theorem Sound.record (h : Sound s) {d : Deed} (paired : Paired (d :: s.deeds) d) :
    Sound (s.record d) := by
  refine ⟨h.begun, ?_, ?_, fun n => (h.atNode n).frame rfl rfl rfl, ?_, h.ordered, h.handedOff.record paired⟩
  · intro x
    exact (h.atSource x).frame rfl rfl fun _ => List.mem_cons_of_mem d
  · intro x
    exact (h.atTarget x).frame rfl rfl id
  · intro p mem
    exact (h.fits p mem).frame rfl

theorem AtSource.advance (h : AtSource s x) (st : Stage) (out : exporting (s.stage x) = true)
    (sent : Deed.sent x x.target ∈ s.deeds) : AtSource (s.setStage x st) x := by
  have under : isOpen (s.stage x) = true := by
    cases stage : s.stage x <;> simp_all [exporting, isOpen]
  exact ⟨fun _ => h.direction under, fun _ => h.task out, fun _ => h.target out,
    fun _ => h.req out, fun _ => sent⟩

/-- Once all is prepared the target's slot is the transfer's, whatever happens next. -/
theorem AtTarget.advance {s' : Cluster} (h : AtTarget s x) (ready : isReady (s.stage x) = true)
    (slot : incoming (s'.nodes x.target) = incoming (s.nodes x.target)) : AtTarget s' x := by
  have coming : importing (s.stage x) = true := by
    cases stage : s.stage x <;> simp_all [isReady, importing]
  simp only [incoming, Prod.mk.injEq] at slot
  obtain ⟨pending, source, hijacked⟩ := slot
  constructor
  · rw [pending]
    exact fun _ => h.pending (.inl coming)
  · rw [source]
    exact fun _ => h.source (.inl coming)
  · rw [hijacked]
    exact fun _ => h.hijacked (.inl ready)

/-- When a packet other than a page is taken, the rest of its transfer is pages before it. -/
theorem Ordered.alone {wire : List Packet} (h : Ordered wire) {i : ℕ} {p : Packet}
    (here : wire[i]? = some p) (control : isPage p.msg = false) {q : Packet}
    (mem : q ∈ wire.eraseIdx i) (same : q.msg.transfer = p.msg.transfer) :
    isPage q.msg = true ∧ q ∈ wire.take i := by
  obtain ⟨bound, is⟩ := List.getElem?_eq_some_iff.mp here
  have split : wire = wire.take i ++ p :: wire.drop (i + 1) := by
    rw [← is, List.getElem_cons_drop, List.take_append_drop]
  rw [Ordered, split] at h
  obtain ⟨_, after, between⟩ := List.pairwise_append.mp h
  rw [List.eraseIdx_eq_take_drop_succ] at mem
  cases List.mem_append.mp mem with
  | inl before =>
    exact ⟨between q before p List.mem_cons_self same, before⟩
  | inr later =>
    have page := (List.pairwise_cons.mp after).1 q later same.symm
    rw [control] at page
    exact absurd page (by simp)

theorem Sound.quiet_drop (h : Sound s) {i : ℕ} {p : Packet} (here : s.wire[i]? = some p)
    (control : isMemory p.msg = false) :
    ∀ q ∈ (s.drop i).wire, q.msg.transfer ≠ p.msg.transfer := by
  intro q mem same
  have notPage : isPage p.msg = false := by
    cases msg : p.msg <;> simp_all [isMemory, isPage]
  have page := (h.ordered.alone here notPage mem same).1
  have fits := h.fits q (List.mem_of_mem_eraseIdx mem)
  have fits' := h.fits p (List.mem_of_getElem? here)
  unfold Fits at fits fits'
  cases msg : q.msg with
  | blueprint | ready | done => simp [msg, isPage] at page
  | page y =>
    rw [msg] at fits same
    change y = p.msg.transfer at same
    cases msg' : p.msg with
    | page | done => simp [msg', isMemory] at control
    | blueprint x | ready x =>
      rw [msg'] at fits' same
      change y = x at same
      subst same
      simp [fits'.2.2] at fits

theorem AtNode.only (h : AtNode s n) {g : Helper} (mem : g ∈ (s.nodes n).helpers) :
    (s.nodes n).helpers = [g] := by
  have lone := h.helpers
  cases list : (s.nodes n).helpers with
  | nil => simp [list] at mem
  | cons a as =>
    rw [list] at mem lone
    have none : as = [] := List.length_eq_zero_iff.mp (by simp only [List.length_cons] at lone; omega)
    rw [none] at mem ⊢
    rw [List.mem_singleton.mp mem]

/-- A helper's transfer is the one its node receives. -/
theorem Sound.helping (h : Sound s) {g : Helper} (mem : g ∈ (s.nodes n).helpers) :
    importing (s.stage g.transfer) = true ∧ isQuiet (s.stage g.transfer) = true ∧
      g.transfer ∈ s.begun := by
  have stage := (h.atNode n).stage g mem
  refine ⟨?_, ?_, h.begun _ ?_⟩
  · rw [stage]
    split <;> rfl
  · rw [stage]
    split <;> rfl
  · rw [stage]
    split <;> simp

/-- The node without its helper. -/
theorem Sound.dismissed (h : Sound s) {g : Helper} (mem : g ∈ (s.nodes n).helpers) (node : Node)
    (alone : node.helpers = (s.nodes n).helpers.erase g) :
    ∀ m, ∀ k ∈ ((s.setNode n node).nodes m).helpers, k.transfer ≠ g.transfer := by
  intro m k mem'
  by_cases here : m = n
  · rw [here, setNode_self, alone, (h.atNode n).only mem] at mem'
    simp at mem'
  · rw [setNode_other s node here] at mem'
    intro same
    have there := (h.atNode m).target k mem'
    rw [same, (h.atNode n).target g mem] at there
    exact here there.symm

end Primitives

section Steps
variable {s : Cluster} {x y : Transfer} {n : ℕ}

theorem sound_begin (h : Sound s) (en : x ∉ s.begun) (hok : ok s (.begin x)) :
    Sound (next s (.begin x)) := by
  have unborn := h.unborn en
  let node := { s.nodes x.source with isReturning := x.isReturning }
  have turned : Sound (s.setNode x.source node) := by
    refine h.setNode ?_ ?_ ((h.atNode x.source).frame ?_ ?_ rfl)
    · intro y src old
      have self : (s.setNode x.source node).nodes y.source = node := by rw [src, setNode_self]
      refine ⟨?_, ?_, ?_, ?_, old.sent⟩
      · rw [self]
        intro under
        have begun := h.begun y (fun is => by simp [Cluster.setNode, is, isOpen] at under)
        exact (hok y begun src under).symm
      · rw [setNode_keeps Node.migratingTask node rfl y.source]
        exact old.task
      · rw [setNode_keeps Node.migratingTargetNode node rfl y.source]
        exact old.target
      · rw [setNode_keeps Node.localMigrationReq node rfl y.source]
        exact old.req
    · intro y _ old
      exact old.frame rfl (setNode_keeps incoming node rfl y.target) id
    · rw [setNode_self]
    · rw [setNode_self]
  have listed : Sound { s.setNode x.source node with begun := x :: s.begun } :=
    ⟨fun y born => List.mem_cons_of_mem x (turned.begun y born),
      fun y => (turned.atSource y).frame rfl rfl fun _ => id,
      fun y => (turned.atTarget y).frame rfl rfl id,
      fun m => (turned.atNode m).frame rfl rfl rfl,
      fun p mem => (turned.fits p mem).frame rfl, turned.ordered, turned.handedOff⟩
  have quiet := h.quiet (x := x) (by rw [unborn]; rfl)
  refine listed.setStage (x := x) .capturing (List.mem_cons_self) ?_ ?_ ?_
    (listed.unhelped unborn (by simp) (by simp)) (fun p mem is => absurd is (quiet p mem))
  · constructor
    · intro _
      exact congrArg Node.isReturning (setNode_self s x.source node)
    all_goals simp [exporting, isSent]
  · refine .idle ?_ (not_inFlight quiet)
    rw [setStage_self]
    rfl
  · intro is
    exact absurd (unborn.symm.trans is) (by simp)

theorem sound_abort (h : Sound s) (en : s.stage x = .capturing) :
    Sound (next s (.abort x)) := by
  exact h.giveUp (mem_begun h en (by simp)) (by simp [en]) (h.unhelped en (by simp) (by simp))
    (h.quiet (by rw [en]; rfl))

theorem sound_store (h : Sound s) (copied : Bool) (en : s.stage x = .capturing)
    (hok : ok s (.store x copied)) : Sound (next s (.store x copied)) := by
  let node := storeSlot x copied (s.nodes x.source)
  have begun := mem_begun h en (by simp)
  have direction := (h.atSource x).direction (by rw [en]; rfl)
  have filled : Sound (s.setNode x.source node) := by
    refine h.setSlot ?_ rfl rfl rfl rfl
    intro y src
    by_contra out
    have born : s.stage y ≠ .unborn := fun is => out (by rw [is]; rfl)
    exact out (hok y (h.begun y born) src)
  have quiet := h.quiet (x := x) (by rw [en]; rfl)
  refine filled.setStage .stored begun ?_ ?_ (fun is => absurd is (by
    simp [Cluster.setNode, en])) (filled.unhelped en (by simp) (by simp))
    (fun p mem is => absurd is (quiet p mem))
  · have self : ((s.setNode x.source node).setStage x .stored).nodes x.source = node :=
      setNode_self s x.source node
    constructor
    · rw [self]
      exact fun _ => direction
    · rw [self]
      exact fun _ => rfl
    · rw [self]
      exact fun _ => rfl
    · rw [self]
      intro _ r is
      cases copied with
      | true => exact (Option.some.inj is).symm
      | false => exact absurd is (by simp [node, storeSlot])
    · simp [isSent]
  · refine .idle ?_ (not_inFlight quiet)
    rw [setStage_self]
    rfl

theorem sound_post (h : Sound s) (link : Bool) (en : s.stage x = .stored) :
    Sound (next s (.post x link)) := by
  have begun := mem_begun h en (by simp)
  have quiet := h.quiet (x := x) (by rw [en]; rfl)
  have unhelped := h.unhelped en (by simp) (by simp)
  cases link with
  | false => exact h.giveUp begun (by simp [en]) unhelped quiet
  | true =>
    have logged : Sound (s.record (.sent x x.target)) := h.record trivial
    have posted : Sound ((s.record (.sent x x.target)).setStage x .posted) := by
      refine logged.setStage .posted begun ?_ ?_ ?_ unhelped (fun p mem is => absurd is (quiet p mem))
      · exact (logged.atSource x).advance .posted (by simp [Cluster.record, en, exporting])
          List.mem_cons_self
      · refine .idle ?_ (not_inFlight quiet)
        rw [setStage_self]
        rfl
      · exact fun is => absurd (en.symm.trans is) (by simp)
    refine posted.send (p := ⟨x.source, x.target, .blueprint x⟩) ⟨rfl, rfl, ?_⟩ ?_ (by simp [isMemory])
    · exact setStage_self _ x .posted
    · intro q mem is
      exact absurd is (quiet q mem)

theorem setNode_again (s : Cluster) (n : ℕ) (node node' : Node) (x : Transfer) (st : Stage) :
    ((s.setNode n node).setStage x st).setNode n node' = (s.setNode n node').setStage x st := by
  simp [Cluster.setNode, Cluster.setStage]

theorem sound_receiveBlueprint (h : Sound s) {i src dst : ℕ} {alloc prepared : Bool}
    (en : Delivers s.wire i ⟨src, dst, .blueprint x⟩)
    (hok : ok s (.receiveBlueprint i src dst x alloc prepared)) :
    Sound (next s (.receiveBlueprint i src dst x alloc prepared)) := by
  obtain ⟨origin, dest, posted⟩ := h.fits _ en.mem
  change src = x.source at origin
  change dst = x.target at dest
  obtain ⟨free, silent⟩ := hok
  have dropped := h.drop i
  have begun := mem_begun h posted (by simp)
  have quiet := h.quiet_drop en.1 rfl
  have unhelped := h.unhelped posted (by simp) (by simp)
  let node := handleBlueprint src x alloc prepared (s.nodes dst)
  let bare := { node with helpers := (s.nodes dst).helpers }
  have waiting : Sound ((s.drop i).setNode dst bare) := by
    refine dropped.setNode ?_ ?_ ((dropped.atNode dst).frame ?_ ?_ rfl)
    · intro y _ old
      exact old.frame rfl (setNode_keeps outgoing bare rfl y.source) fun _ => id
    · intro y at' _
      refine .idle ?_ ?_
      · by_contra coming
        have born : s.stage y ≠ .unborn := by
          intro is
          exact coming (by simp [Cluster.setNode, Cluster.drop, is, importing])
        exact coming (free y (h.begun y born) at')
      · intro ⟨p, mem, is, memory⟩
        have old : p ∈ s.wire := List.mem_of_mem_eraseIdx mem
        have fits := h.fits p old
        have away := silent p old
        unfold Fits at fits
        cases msg : p.msg with
        | blueprint | ready => simp [msg, isMemory] at memory
        | page z | done z b =>
          rw [msg] at fits is
          change z = y at is
          rw [is] at fits
          exact absurd (away (fits.2.1.trans at')) (by simp [msg, isMemory])
    · rw [setNode_self]
      rfl
    · rw [setNode_self]
      rfl
  have spare : (s.nodes dst).helpers = [] := by
    refine List.eq_nil_iff_forall_not_mem.mpr ?_
    intro g mem
    have stage := (h.atNode dst).stage g mem
    have born : s.stage g.transfer ≠ .unborn := by
      rw [stage]
      split <;> simp
    have idle := free g.transfer (h.begun _ born) ((h.atNode dst).target g mem)
    rw [stage] at idle
    split at idle <;> simp [importing] at idle
  have still : ((s.drop i).setNode dst bare).stage x = .posted := posted
  cases got : alloc && prepared with
  | false =>
    have none : node = bare := by
      simp [bare, node, handleBlueprint, got]
    simp only [next, got, Bool.false_eq_true, if_false]
    change Sound (((s.drop i).setNode dst node).setStage x .over)
    rw [none]
    exact waiting.giveUp begun (by simp [Cluster.setNode, Cluster.drop, posted])
      (waiting.unhelped still (by simp) (by simp)) quiet
  | true =>
    have allocated : alloc = true := (Bool.and_eq_true_iff.mp got).1
    simp only [next, got, if_true]
    change Sound (((s.drop i).setNode dst node).setStage x .received)
    rw [← setNode_again _ dst bare node]
    have received : Sound (((s.drop i).setNode dst bare).setStage x .received) := by
      refine waiting.setStage .received begun ?_ ?_ ?_
        (waiting.unhelped still (by simp) (by simp))
        (fun p mem is => absurd is (quiet p mem))
      · have sent := (h.atSource x).sent (by rw [posted]; rfl)
        exact (waiting.atSource x).advance .received
          (by simp [Cluster.setNode, Cluster.drop, posted, exporting]) sent
      · have self : (((s.drop i).setNode dst bare).setStage x .received).nodes x.target = bare := by
          rw [← dest]
          exact setNode_self _ dst bare
        refine ⟨?_, ?_, ?_⟩
        · rw [self]
          simp [bare, node, handleBlueprint, allocated]
        · rw [self]
          simp [bare, node, handleBlueprint, origin]
        · rw [setStage_self]
          intro is
          exact is.elim (by simp [isReady]) fun flight => absurd flight (not_inFlight quiet)
      · exact fun is => absurd (posted.symm.trans is) (by simp)
    have self : ((((s.drop i).setNode dst bare).setStage x .received).setNode dst node).nodes dst =
        node := setNode_self _ dst node
    have filled : (((s.drop i).setNode dst bare).setStage x .received).nodes dst = bare :=
      setNode_self (s.drop i) dst bare
    have only : node.helpers = [⟨x, if x.isReturning then some x else none, false⟩] := by
      simp [node, handleBlueprint, got, spare]
    refine received.setNode_same ?_ ?_ ⟨?_, ?_, ?_, ?_, ?_, ?_⟩
    · rw [filled]
      rfl
    · rw [filled]
      rfl
    · rw [self]
      exact (h.atNode dst).pumps
    · rw [self]
      intro runs
      obtain ⟨y, at', pumping⟩ := (h.atNode dst).pump runs
      have other : y ≠ x := fun is => absurd (is ▸ pumping) (by simp [posted])
      exact ⟨y, at', (setStage_other _ .received other).trans pumping⟩
    · rw [self, only]
      rfl
    · rw [self, only]
      intro g mem
      rw [List.mem_singleton.mp mem]
      exact dest.symm
    · rw [self, only]
      intro g mem y is
      rw [List.mem_singleton.mp mem] at is ⊢
      by_cases back : x.isReturning = true
      · simp only [back, if_true] at is
        exact (Option.some.inj is).symm
      · simp [back] at is
    · rw [self, only]
      intro g mem
      rw [List.mem_singleton.mp mem]
      exact setStage_self _ x .received

theorem sound_receiveReady (h : Sound s) {i src dst : ℕ} {link : Bool}
    (en : Delivers s.wire i ⟨src, dst, .ready x⟩) :
    Sound (next s (.receiveReady i src dst x link)) := by
  obtain ⟨origin, dest, announced⟩ := h.fits _ en.mem
  change src = x.target at origin
  change dst = x.source at dest
  have dropped := h.drop i
  have begun := mem_begun h announced (by simp)
  have quiet := h.quiet_drop en.1 rfl
  have unhelped := h.unhelped announced (by simp) (by simp)
  have exported : exporting (s.stage x) = true := by rw [announced]; rfl
  have still : s.stage x ≠ .pumping := by simp [announced]
  have ended := dropped.giveUp begun still unhelped quiet
  simp only [next, handleReadyForData]
  split
  · rename_i req task target hreq htask htarget
    change (s.nodes dst).localMigrationReq = some req at hreq
    change (s.nodes dst).migratingTask = some task at htask
    change (s.nodes dst).migratingTargetNode = some target at htarget
    have own : task = x := by
      have is := (h.atSource x).task exported
      rw [← dest, htask] at is
      exact Option.some.inj is
    have there : target = x.target := by
      have is := (h.atSource x).target exported
      rw [← dest, htarget] at is
      exact Option.some.inj is
    have plan : req = x := by
      have is := (h.atSource x).req exported
      rw [← dest] at is
      exact is req hreq
    have way : (s.nodes dst).isReturning = x.isReturning := by
      have is := (h.atSource x).direction (by rw [announced]; rfl)
      rwa [← dest] at is
    have sent := (h.atSource x).sent (by rw [announced]; rfl)
    subst own
    have pumping : Sound ((s.drop i).setStage task .pumping) :=
      dropped.setStage .pumping begun ((dropped.atSource task).advance .pumping exported sent)
        ((dropped.atTarget task).advance (by simp [Cluster.drop, announced, isReady]) rfl)
        (fun is => absurd is still) unhelped (fun p mem is => absurd is (quiet p mem))
    have unpumped : (s.nodes dst).pumps = 0 := by
      by_contra runs
      obtain ⟨y, at', goes⟩ := (h.atNode dst).pump runs
      have same := h.one_export (by rw [goes]; rfl) exported (at'.trans dest)
      rw [same] at goes
      exact still goes
    let node := { s.nodes dst with pumps := (s.nodes dst).pumps + 1 }
    have started : Sound (((s.drop i).setStage task .pumping).setNode dst node) := by
      have self := setNode_self ((s.drop i).setStage task .pumping) dst node
      have old := pumping.atNode dst
      refine pumping.setNode_same rfl rfl ⟨?_, ?_, ?_, ?_, ?_, ?_⟩ <;> rw [self]
      · simp [node, unpumped]
      · exact fun _ => ⟨task, dest.symm, setStage_self _ task .pumping⟩
      · exact old.helpers
      · exact old.target
      · exact old.blueprint
      · exact old.stage
    have twice : ((((s.drop i).setNode dst node).setStage task .over).setStage task .pumping) =
        (((s.drop i).setStage task .pumping).setNode dst node) := by
      simp [Cluster.setNode, Cluster.setStage]
    change Sound (((((s.drop i).setNode dst node).setStage task .over).setStage task .pumping).record
      (.started dst src req task target (s.nodes dst).isReturning))
    rw [twice]
    exact started.record ⟨dest.symm, origin.symm, there.trans origin.symm, plan, way⟩
  · exact ended

theorem sound_receivePage (h : Sound s) {i src dst : ℕ}
    (en : Delivers s.wire i ⟨src, dst, .page x⟩) : Sound (next s (.receivePage i src dst x)) := by
  obtain ⟨origin, dest, _⟩ := h.fits _ en.mem
  change src = x.source at origin
  change dst = x.target at dest
  have dropped := h.drop i
  have hijacked := (h.atTarget x).hijacked (.inr ⟨_, en.mem, rfl, rfl⟩)
  rw [← dest] at hijacked
  simp only [next, handlePageTransfer]
  split
  · rename_i held into _ found
    have own : into = x := Option.some.inj (found.symm.trans hijacked)
    refine dropped.record ⟨own, ?_, ?_⟩
    · rw [own, origin]
    · rw [own, dest]
  · exact dropped

/-- Nothing of a transfer is left on the wire when its DONE arrives: a page would stand before it on
the same link. -/
theorem Sound.quiet_done (h : Sound s) {i src dst : ℕ} {isReturning : Bool}
    (en : Delivers s.wire i ⟨src, dst, .done x isReturning⟩) : ¬ InFlight (s.drop i) x := by
  obtain ⟨origin, dest, _⟩ := h.fits _ en.mem
  intro ⟨q, mem, is, memory⟩
  obtain ⟨page, before⟩ := h.ordered.alone en.1 rfl mem is
  have fits := h.fits q (List.mem_of_mem_eraseIdx mem)
  unfold Fits at fits
  cases msg : q.msg with
  | blueprint | ready | done => simp [msg, isPage] at page
  | page y =>
    rw [msg] at fits is
    change y = x at is
    rw [is] at fits
    exact en.2 q before ⟨fits.1.trans origin.symm, fits.2.1.trans dest.symm⟩

theorem sound_receiveDone (h : Sound s) {i src dst : ℕ} {isReturning : Bool}
    (en : Delivers s.wire i ⟨src, dst, .done x isReturning⟩) :
    Sound (next s (.receiveDone i src dst x isReturning)) := by
  obtain ⟨origin, dest, ended⟩ := h.fits _ en.mem
  change src = x.source at origin
  change dst = x.target at dest
  have dropped := h.drop i
  have arrived : InFlight s x := ⟨_, en.mem, rfl, rfl⟩
  have quiet := h.quiet_done en
  let node := handleDone (s.nodes dst)
  have kept : outgoing node = outgoing (s.nodes dst) ∧ node.pumps = (s.nodes dst).pumps ∧
      node.helpers = (s.nodes dst).helpers := by
    simp only [node, handleDone]
    split_ifs <;> exact ⟨rfl, rfl, rfl⟩
  refine dropped.setNode ?_ ?_ ((dropped.atNode dst).frame ?_ ?_ rfl)
  · intro y _ old
    exact old.frame rfl (setNode_keeps outgoing node kept.1 y.source) fun _ => id
  · intro y at' old
    by_cases coming : importing (s.stage y) = true ∨ InFlight (s.drop i) y
    · have flight : InFlight (s.drop i) y → InFlight s y := by
        intro ⟨q, mem, is⟩
        exact ⟨q, List.mem_of_mem_eraseIdx mem, is⟩
      have same := h.one_import (coming.imp_right flight) (.inr arrived) (at'.trans dest)
      rw [same] at coming
      cases coming with
      | inl is => simp [ended, importing] at is
      | inr is => exact absurd is quiet
    · have free := not_or.mp coming
      exact .idle (Bool.eq_false_iff.mpr free.1) free.2
  · rw [setNode_self]
    exact kept.2.1
  · rw [setNode_self]
    exact kept.2.2

theorem sound_lose (h : Sound s) {i : ℕ} {p : Packet} (en : s.wire[i]? = some p) :
    Sound (next s (.lose i p)) := by
  have dropped := h.drop i
  have fits := h.fits p (List.mem_of_getElem? en)
  unfold Fits at fits
  cases msg : p.msg with
  | page y | done y b =>
    simp only [next, lost, msg]
    exact dropped
  | blueprint y | ready y =>
    have quiet := h.quiet_drop en (by simp [msg, isMemory])
    rw [msg] at fits quiet
    simp only [next, lost, msg]
    exact dropped.giveUp (mem_begun dropped fits.2.2 (by simp)) (by simp [Cluster.drop, fits.2.2])
      (h.unhelped fits.2.2 (by simp) (by simp)) quiet

theorem sound_fetch (h : Sound s) {g : Helper} (en : enabled s (.fetch n g)) :
    Sound (next s (.fetch n g)) := by
  obtain ⟨mem, _, _⟩ := en
  have old := h.atNode n
  have there := old.target g mem
  let fetched := { g with blueprint := (s.nodes n).pendingMigration }
  have only : fetched :: (s.nodes n).helpers.erase g = [fetched] := by
    simp [old.only mem]
  have self := setNode_self s n { s.nodes n with helpers := fetched :: (s.nodes n).helpers.erase g }
  refine h.setNode_same rfl rfl ⟨?_, ?_, ?_, ?_, ?_, ?_⟩ <;> rw [self]
  · exact old.pumps
  · exact old.pump
  · simp only [only, List.length_singleton, le_refl]
  · intro k mem'
    rw [only] at mem'
    rw [List.mem_singleton.mp mem']
    exact there
  · intro k mem' y is
    rw [only] at mem'
    rw [List.mem_singleton.mp mem'] at is ⊢
    have pending := (h.atTarget g.transfer).pending (.inl (h.helping mem).1)
    rw [there] at pending
    exact (Option.some.inj (pending.symm.trans is)).symm
  · intro k mem'
    rw [only] at mem'
    rw [List.mem_singleton.mp mem']
    exact old.stage g mem

theorem Sound.dismiss (h : Sound s) {g : Helper} (mem : g ∈ (s.nodes n).helpers) :
    Sound (s.setNode n { s.nodes n with helpers := (s.nodes n).helpers.erase g }) := by
  have old := h.atNode n
  have none : (s.nodes n).helpers.erase g = [] := by
    simp [old.only mem]
  have self := setNode_self s n { s.nodes n with helpers := (s.nodes n).helpers.erase g }
  refine h.setNode_same rfl rfl ⟨?_, ?_, ?_, ?_, ?_, ?_⟩ <;> rw [self]
  · exact old.pumps
  · exact old.pump
  · simp only [none, List.length_nil, Nat.zero_le]
  · simp [none]
  · simp [none]
  · simp [none]

theorem sound_quit (h : Sound s) {g : Helper} (en : enabled s (.quit n g)) :
    Sound (next s (.quit n g)) := by
  obtain ⟨mem, unhijacked, _⟩ := en
  have stage := (h.atNode n).stage g mem
  simp only [unhijacked, Bool.false_eq_true, if_false] at stage
  obtain ⟨_, quiet, begun⟩ := h.helping mem
  exact (h.dismiss mem).giveUp begun (by simp [Cluster.setNode, stage]) (h.dismissed mem _ rfl)
    (h.quiet quiet)

theorem sound_hijack (h : Sound s) {g : Helper} (en : enabled s (.hijack n g)) :
    Sound (next s (.hijack n g)) := by
  obtain ⟨mem, unhijacked, has, _⟩ := en
  have old := h.atNode n
  have there := old.target g mem
  have stage := old.stage g mem
  simp only [unhijacked, Bool.false_eq_true, if_false] at stage
  obtain ⟨coming, quiet, begun⟩ := h.helping mem
  have unsent := h.quiet quiet
  obtain ⟨y, blueprint⟩ := Option.ne_none_iff_exists'.mp has
  have own := old.blueprint g mem y blueprint
  rw [own] at blueprint
  let node := hijackMe g (s.nodes n)
  let bare := { node with helpers := (s.nodes n).helpers.erase g }
  have none : (s.nodes n).helpers.erase g = [] := by
    simp [old.only mem]
  have only : node.helpers = [{ g with hijacked := true }] := by
    simp [node, hijackMe, none]
  have pointed : Sound (s.setNode n bare) := by
    have self := setNode_self s n bare
    refine h.setNode ?_ ?_ ⟨?_, ?_, ?_, ?_, ?_, ?_⟩
    · intro z _ was
      exact was.frame rfl (setNode_keeps outgoing bare rfl z.source) fun _ => id
    · intro z at' was
      have pending := setNode_keeps Node.pendingMigration bare (s := s) (n := n) rfl z.target
      have source := setNode_keeps Node.pendingSourceNode bare (s := s) (n := n) rfl z.target
      refine ⟨?_, ?_, ?_⟩
      · rw [pending]
        exact was.pending
      · rw [source]
        exact was.source
      · intro ready
        have takes : importing (s.stage z) = true ∨ InFlight s z :=
          ready.imp_left fun is => by
            change isReady (s.stage z) = true at is
            cases st : s.stage z <;> simp_all [isReady, importing]
        have same := h.one_import takes (.inl coming) (at'.trans there.symm)
        rw [same] at ready
        cases ready with
        | inl is => simp [Cluster.setNode, stage, isReady] at is
        | inr is => exact absurd is (not_inFlight unsent)
    all_goals rw [self]
    · exact old.pumps
    · exact old.pump
    · simp [bare, none]
    · simp [bare, none]
    · simp [bare, none]
    · simp [bare, none]
  have taken : Sound ((s.setNode n bare).setStage g.transfer .hijacked) := by
    refine pointed.setStage .hijacked begun ?_ ?_ ?_ (h.dismissed mem _ rfl)
      (fun p mem is => absurd is (unsent p mem))
    · have sent := (h.atSource g.transfer).sent (by rw [stage]; rfl)
      exact (pointed.atSource g.transfer).advance .hijacked
        (by simp [Cluster.setNode, stage, exporting]) sent
    · have was := pointed.atTarget g.transfer
      refine ⟨fun _ => was.pending (.inl coming), fun _ => was.source (.inl coming), fun _ => ?_⟩
      rw [there]
      exact (congrArg Node.hijackedStubTask (setNode_self s n bare)).trans blueprint
    · exact fun is => absurd (stage.symm.trans is) (by simp)
  change Sound ((s.setNode n node).setStage g.transfer .hijacked)
  rw [← setNode_again s n bare node]
  have filled : ((s.setNode n bare).setStage g.transfer .hijacked).nodes n = bare :=
    setNode_self s n bare
  have self := setNode_self ((s.setNode n bare).setStage g.transfer .hijacked) n node
  refine taken.setNode_same ?_ ?_ ⟨?_, ?_, ?_, ?_, ?_, ?_⟩
  · rw [filled]
    rfl
  · rw [filled]
    rfl
  · rw [self]
    exact old.pumps
  · rw [self]
    have runs := (taken.atNode n).pump
    rw [filled] at runs
    exact runs
  · rw [self, only]
    rfl
  · rw [self, only]
    intro k mem'
    rw [List.mem_singleton.mp mem']
    exact there
  · rw [self, only]
    intro k mem' z is
    rw [List.mem_singleton.mp mem'] at is ⊢
    exact old.blueprint g mem z is
  · rw [self, only]
    intro k mem'
    rw [List.mem_singleton.mp mem']
    exact setStage_self _ g.transfer .hijacked

theorem sound_announce (h : Sound s) {g : Helper} {link : Bool} (en : enabled s (.announce n g link)) :
    Sound (next s (.announce n g link)) := by
  obtain ⟨mem, hijacked⟩ := en
  have stage := (h.atNode n).stage g mem
  simp only [hijacked, if_true] at stage
  have there := (h.atNode n).target g mem
  obtain ⟨coming, quiet, begun⟩ := h.helping mem
  have unsent := h.quiet quiet
  have alone := h.dismiss mem
  have unhelped := h.dismissed mem { s.nodes n with helpers := (s.nodes n).helpers.erase g } rfl
  have source := (h.atTarget g.transfer).source (.inl coming)
  rw [there] at source
  simp only [next, announce]
  split
  · rename_i m found
    have home : m = g.transfer.source := Option.some.inj (found.symm.trans source)
    subst home
    have sent := (h.atSource g.transfer).sent (by rw [stage]; rfl)
    have announced := alone.setStage .announced begun
      ((alone.atSource g.transfer).advance .announced (by simp [Cluster.setNode, stage, exporting])
        sent)
      ((alone.atTarget g.transfer).advance (by simp [Cluster.setNode, stage, isReady]) rfl)
      (fun is => absurd (stage.symm.trans is) (by simp)) unhelped
      (fun p mem is => absurd is (unsent p mem))
    refine announced.send (p := ⟨n, g.transfer.source, .ready g.transfer⟩) ⟨there.symm, rfl, ?_⟩ ?_
      (by simp [isMemory])
    · exact setStage_self _ g.transfer .announced
    · intro q mem is
      exact absurd is (unsent q mem)
  · exact alone.giveUp begun (by simp [Cluster.setNode, stage]) unhelped unsent

/-- While the pump runs only pages of its transfer are on a wire. -/
theorem Sound.pages (h : Sound s) (pumping : s.stage x = .pumping) {p : Packet} (mem : p ∈ s.wire)
    (is : p.msg.transfer = x) : p.src = x.source ∧ p.dst = x.target ∧ p.msg = .page x := by
  have fits := h.fits p mem
  unfold Fits at fits
  cases msg : p.msg with
  | blueprint y | ready y | done y b =>
    rw [msg] at fits is
    change y = x at is
    subst is
    simp [pumping] at fits
  | page y =>
    rw [msg] at fits is
    change y = x at is
    subst is
    exact ⟨fits.1, fits.2.1, rfl⟩

/-- A pump runs on the slot of the transfer it was started for. -/
theorem Sound.pumped (h : Sound s) (runs : (s.nodes n).pumps ≠ 0) :
    ∃ x, x.source = n ∧ s.stage x = .pumping ∧ (s.nodes n).migratingTask = some x ∧
      (s.nodes n).migratingTargetNode = some x.target := by
  obtain ⟨x, src, pumping⟩ := (h.atNode n).pump runs
  have out : exporting (s.stage x) = true := by rw [pumping]; rfl
  have task := (h.atSource x).task out
  have target := (h.atSource x).target out
  rw [src] at task target
  exact ⟨x, src, pumping, task, target⟩

theorem sound_pumpPage (h : Sound s) (runs : (s.nodes n).pumps ≠ 0) :
    Sound (next s (.pumpPage n)) := by
  obtain ⟨x, src, pumping, task, target⟩ := h.pumped runs
  simp only [next, sendPage, task, target]
  have sent := (h.atSource x).sent (by rw [pumping]; rfl)
  have ready : isReady (s.stage x) = true := by rw [pumping]; rfl
  have paged : Sound (s.send ⟨n, x.target, .page x⟩) := by
    refine h.send ⟨src.symm, rfl, .inl pumping⟩ ?_ fun _ => (h.atTarget x).advance ready rfl
    intro q mem is
    rw [(h.pages pumping mem is).2.2]
    rfl
  exact paged.record ⟨src, List.mem_cons_of_mem _ sent⟩

theorem sound_pumpDone (h : Sound s) (runs : (s.nodes n).pumps ≠ 0) :
    Sound (next s (.pumpDone n)) := by
  obtain ⟨x, src, pumping, task, target⟩ := h.pumped runs
  have ready : isReady (s.stage x) = true := by rw [pumping]; rfl
  have out : exporting (s.stage x) = true := by rw [pumping]; rfl
  have begun := mem_begun h pumping (by simp)
  let halt := { s.nodes n with pumps := (s.nodes n).pumps - 1 }
  let cleared := { halt with localMigrationReq := none, migratingTask := none }
  let p : Packet := ⟨n, x.target, .done x (s.nodes n).isReturning⟩
  have none : halt.pumps = 0 := by
    have most := (h.atNode n).pumps
    simp only [halt]
    omega
  have halted : Sound (s.setNode n halt) := by
    have old := h.atNode n
    have self := setNode_self s n halt
    refine h.setNode_same rfl rfl ⟨?_, ?_, ?_, ?_, ?_, ?_⟩ <;> rw [self]
    · simp [none]
    · simp [none]
    · exact old.helpers
    · exact old.target
    · exact old.blueprint
    · exact old.stage
  have ended : Sound ((s.setNode n halt).setStage x .over) := by
    refine halted.setStage .over begun (.idle ?_) ?_ ?_
      (halted.unhelped pumping (by simp) (by simp)) ?_
    · rw [setStage_self]
      rfl
    · exact (h.atTarget x).advance ready (setNode_keeps incoming halt rfl x.target)
    · rw [src, setNode_self]
      exact fun _ => none
    · intro q mem is
      obtain ⟨origin, dest, page⟩ := h.pages pumping mem is
      unfold Fits
      rw [page]
      exact ⟨origin, dest, .inr (setStage_self _ x .over)⟩
  have sent : Sound (((s.setNode n halt).setStage x .over).send p) := by
    refine ended.send ⟨src.symm, rfl, setStage_self _ x .over⟩ ?_ ?_
    · intro q mem is
      rw [(h.pages pumping mem is).2.2]
      rfl
    · intro _
      exact (h.atTarget x).advance ready (setNode_keeps incoming halt rfl x.target)
  have closed : Sound ((((s.setNode n halt).setStage x .over).send p).setNode n cleared) := by
    have before : (((s.setNode n halt).setStage x .over).send p).nodes n = halt :=
      setNode_self s n halt
    refine sent.setSlot ?_ ?_ ?_ ?_ ?_
    · intro y at'
      change exporting (((s.setNode n halt).setStage x .over).stage y) = false
      by_cases is : y = x
      · rw [is, setStage_self]
        rfl
      · rw [setStage_other _ .over is]
        by_contra exports
        exact is (h.one_export (Bool.not_eq_false _ ▸ exports) out (at'.trans src.symm))
    · rw [before]
    · rw [before]
      rfl
    · rw [before]
    · rw [before]
  have same : (((s.setNode n halt).setStage x .over).send p).setNode n cleared =
      ((s.send p).setNode n cleared).setStage x .over := by
    simp [Cluster.setNode, Cluster.setStage, Cluster.send]
  rw [same] at closed
  simp only [next, finishPump]
  split
  · rename_i y m hy hm
    have own := Option.some.inj (hy.symm.trans task)
    have dest := Option.some.inj (hm.symm.trans target)
    rw [own, dest]
    exact closed
  · exact h

theorem sound_next (h : Sound s) (e : Event) (en : enabled s e) (hok : ok s e) :
    Sound (next s e) := by
  cases e with
  | begin x => exact sound_begin h en hok
  | abort x => exact sound_abort h en
  | store x copied => exact sound_store h copied en hok
  | post x link => exact sound_post h link en
  | receiveBlueprint i src dst x alloc prepared => exact sound_receiveBlueprint h en hok
  | receiveReady i src dst x link => exact sound_receiveReady h en
  | receivePage i src dst x => exact sound_receivePage h en
  | receiveDone i src dst x isReturning => exact sound_receiveDone h en
  | lose i p => exact sound_lose h en
  | fetch n g => exact sound_fetch h en
  | hijack n g => exact sound_hijack h en
  | announce n g link => exact sound_announce h en
  | quit n g => exact sound_quit h en
  | pumpPage n => exact sound_pumpPage h en.1
  | pumpDone n => exact sound_pumpDone h en.1

theorem sound_start : Sound start := by
  refine ⟨fun x born => absurd rfl born, fun x => .idle rfl, fun x => .idle rfl ?_, fun n => ?_,
    by simp [start], List.Pairwise.nil, by simp [HandedOff, start]⟩
  · exact not_inFlight (by simp [start])
  · exact ⟨Nat.zero_le 1, fun runs => absurd rfl runs, Nat.zero_le 1, by simp [start, Node.idle],
      by simp [start, Node.idle], by simp [start, Node.idle]⟩

end Steps

/-- As long as no slot is taken twice, every hand-off stays with its process and its peer. -/
theorem handoffs_stay_paired {events : List Event} (run : machine.Follows ok start events) :
    machine.Always HandedOff start events :=
  (run.always (fun _ e h en hok => sound_next h e en hok) sound_start).mono fun _ h => h.handedOff

def forth : Transfer := ⟨0, 7, 7, 0, 1, false⟩

def back : Transfer := ⟨1, 31, 7, 1, 0, true⟩

/-- A process goes to the other node, a page and all, and comes back. -/
def roundTrip : List Event :=
  [.begin forth, .store forth true, .post forth true,
    .receiveBlueprint 0 0 1 forth true true, .fetch 1 ⟨forth, none, false⟩,
    .hijack 1 ⟨forth, some forth, false⟩, .announce 1 ⟨forth, some forth, true⟩ true,
    .receiveReady 0 1 0 forth true, .pumpPage 0, .pumpDone 0, .receivePage 0 0 1 forth,
    .receiveDone 0 0 1 forth false,
    .begin back, .store back true, .post back true, .receiveBlueprint 0 1 0 back true true,
    .hijack 0 ⟨back, some back, false⟩, .announce 0 ⟨back, some back, true⟩ true,
    .receiveReady 0 0 1 back true, .pumpPage 1, .pumpDone 1, .receivePage 0 1 0 back,
    .receiveDone 0 1 0 back true]

theorem handoffs_stay_paired_roundTrip : machine.Always HandedOff start roundTrip :=
  handoffs_stay_paired (by decide +kernel)

def first : Transfer := ⟨0, 7, 7, 0, 1, false⟩

def second : Transfer := ⟨1, 8, 8, 0, 2, false⟩

/-- A second process is sent off before the first one's stub is ready. -/
def overtaken : List Event :=
  [.begin first, .store first true, .post first true, .begin second, .store second true,
    .post second true, .receiveBlueprint 0 0 1 first true true, .fetch 1 ⟨first, none, false⟩,
    .hijack 1 ⟨first, some first, false⟩, .announce 1 ⟨first, some first, true⟩ true,
    .receiveReady 1 1 0 first true]

def other : Transfer := ⟨1, 8, 8, 2, 1, false⟩

/-- A third node's blueprint is hijacked for while the first node's pages are on their way. -/
def crossed : List Event :=
  [.begin first, .store first true, .post first true, .receiveBlueprint 0 0 1 first true true,
    .fetch 1 ⟨first, none, false⟩, .hijack 1 ⟨first, some first, false⟩,
    .announce 1 ⟨first, some first, true⟩ true, .receiveReady 0 1 0 first true, .pumpPage 0,
    .begin other, .store other true, .post other true, .receiveBlueprint 1 2 1 other true true,
    .fetch 1 ⟨other, none, false⟩, .hijack 1 ⟨other, some other, false⟩, .receivePage 0 0 1 first]

/-- The READY of node 1 starts the pump to node 2, whose stub is not there yet; and a page of node
0's process is written into the stub of node 2's. -/
theorem slots_mix_transfers :
    machine.Runs start overtaken ∧ machine.Runs start crossed ∧
      Deed.started 0 1 second second 2 false ∈ (machine.after start overtaken).deeds ∧
      Deed.written 1 0 first other ∈ (machine.after start crossed).deeds ∧
      ¬ HandedOff (machine.after start overtaken) ∧ ¬ HandedOff (machine.after start crossed) := by
  have started : Deed.started 0 1 second second 2 false ∈ (machine.after start overtaken).deeds := by
    decide +kernel
  have written : Deed.written 1 0 first other ∈ (machine.after start crossed).deeds := by
    decide +kernel
  refine ⟨by decide +kernel, by decide +kernel, started, written, ?_, ?_⟩
  · intro handed
    have target := (handed _ started).2.1
    exact absurd target (by decide)
  · intro handed
    have source := (handed _ written).2.1
    exact absurd source (by decide)

end MattX.MigrationPairing
