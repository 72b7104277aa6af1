import MattX.SlotReuseTrace

set_option autoImplicit false

/-!
# What a process is told does not depend on earlier occupants

The other guests may differ in anything but their ids between the two
histories; they are found and removed at the same places all the same.
-/
namespace MattX.SlotReuse
open GuardedRuns GuestRegistry WormholeCalls

/-! ### The registry of guests -/

/-- What two histories have in common for an entry, seen by the process with local pid `pid`. -/
structure Near (pid : ℕ) (g h : Guest) : Prop where
  localPid : h.info.localPid = g.info.localPid
  origPid : h.info.origPid = g.info.origPid
  homeNode : h.info.homeNode = g.info.homeNode
  own : g.info.localPid = pid → Alike g h

structure NearState (pid : ℕ) (s t : State) : Prop where
  guests : s.guests.Matched (Near pid) t.guests
  workers : ∀ n, AlikeWorker (s.workers pid n) (t.workers pid n)

theorem Alike.near {g h : Guest} (same : Alike g h) (pid : ℕ) : Near pid g h :=
  ⟨congrArg GuestInfo.localPid same.info, congrArg GuestInfo.origPid same.info,
    congrArg GuestInfo.homeNode same.info, fun _ => same⟩

theorem AlikeState.near {s t : State} (same : AlikeState s t) (pid : ℕ) :
    s.guests.Matched (Near pid) t.guests :=
  ⟨same.guestCount, fun i live => (same.guests i live).near pid⟩

/-- A search looks at the ids alone. -/
theorem find_same {pid : ℕ} {t u : SlotTable Guest} (m : t.Matched (Near pid) u) (f : Finder) :
    f.find t = f.find u := by
  have matched : ∀ g h : Guest, Near pid g h → f.matches g.info = f.matches h.info := by
    intro g h near
    cases f <;> simp only [Finder.matches, near.localPid, near.origPid, near.homeNode]
  cases f with
  | slot i => simp only [Finder.find, m.count]
  | _ => exact m.find? matched

theorem find_lt {t : SlotTable Guest} {f : Finder} {i : ℕ} (found : f.find t = some i) :
    i < t.count := by
  cases f with
  | slot j =>
    simp only [Finder.find, Option.ite_none_right_eq_some, Option.some.injEq] at found
    omega
  | _ =>
    simp only [Finder.find] at found
    exact SlotTable.find?_lt found

/-- The ids are for the life of an entry. -/
theorem act_ids (w : Worker) (g : Guest) (a : Act) :
    (act w g a).1.info.localPid = g.info.localPid ∧ (act w g a).1.info.origPid = g.info.origPid ∧
      (act w g a).1.info.homeNode = g.info.homeNode := by
  cases a with
  | trap =>
    simp only [act, trap_entry, and_self]
  | edit e => exact ⟨e.localPid _, e.origPid _, e.homeNode _⟩
  | _ => exact ⟨rfl, rfl, rfl⟩

theorem near_edit {pid : ℕ} {g h : Guest} (near : Near pid g h) (e : Edit) :
    Near pid { g with info := e.edit g.info } { h with info := e.edit h.info } := by
  refine ⟨?_, ?_, ?_, fun here => ?_⟩
  · exact (e.localPid _).trans (near.localPid.trans (e.localPid _).symm)
  · exact (e.origPid _).trans (near.origPid.trans (e.origPid _).symm)
  · exact (e.homeNode _).trans (near.homeNode.trans (e.homeNode _).symm)
  · have same := near.own ((e.localPid _).symm.trans here)
    exact ⟨same.own, congrArg e.edit same.info, same.rpcWq, same.rpc, same.fd, same.tids, same.step⟩

theorem near_act {pid : ℕ} {v w : Worker} {g h : Guest} {a : Act} (near : Near pid g h)
    (worker : g.info.localPid = pid → AlikeWorker v w)
    (clean : g.info.localPid = pid → Clean v g a) :
    Near pid (act v g a).1 (act w h a).1 := by
  have ⟨localG, origG, homeG⟩ := act_ids v g a
  have ⟨localH, origH, homeH⟩ := act_ids w h a
  refine ⟨?_, ?_, ?_, fun here => ?_⟩
  · rw [localG, localH, near.localPid]
  · rw [origG, origH, near.origPid]
  · rw [homeG, homeH, near.homeNode]
  · rw [localG] at here
    exact (act_same (near.own here) (worker here) (clean here)).2.1

/-- `add_guest_process` clears what an `Alike` entry must have. -/
theorem near_add {pid : ℕ} {t u : SlotTable Guest} (m : t.Matched (Near pid) u)
    (localPid origPid : ℕ) (homeNode : Node) :
    (addGuestProcess t localPid origPid homeNode).Matched (Near pid)
      (addGuestProcess u localPid origPid homeNode) := by
  simp only [addGuestProcess, m.count]
  split_ifs with room
  · apply m.push
    apply Alike.near
    refine ⟨rfl, rfl, rfl, rfl, ?_, ?_, ?_⟩
    · intro none
      cases none
    · intro k none
      cases none
    · intro none
      cases none
  · exact m

theorem near_remove {pid : ℕ} {t u : SlotTable Guest} (m : t.Matched (Near pid) u) {i : ℕ}
    (live : i < t.count) :
    (removeGuestProcess t i).Matched (Near pid) (removeGuestProcess u i) := by
  have edit := near_edit (m.slot i live)
    ⟨fun g => { g with dsmMap := g.dsmMap.mapLive .freePages }, fun _ => rfl, fun _ => rfl,
      fun _ => rfl⟩
  have freed := m.modify i
    (f := fun g => { g with info := { g.info with dsmMap := g.info.dsmMap.mapLive .freePages } })
    (g := fun g => { g with info := { g.info with dsmMap := g.info.dsmMap.mapLive .freePages } })
    edit
  exact freed.swapRemove live

/-- A worker is one of the process exactly where the entry is. -/
theorem near_setWorker {pid : ℕ} {s t : State} (near : NearState pid s t) (p worker : ℕ)
    {v w : Worker} (same : p = pid → AlikeWorker v w) (n : ℕ) :
    AlikeWorker (setWorker s p worker v pid n) (setWorker t p worker w pid n) := by
  simp only [setWorker]
  by_cases here : pid = p ∧ n = worker
  · rw [if_pos here, if_pos here]
    exact same here.1.symm
  · rw [if_neg here, if_neg here]
    exact near.workers n

theorem near_onGuest {pid origPid : ℕ} {homeNode : Node} {s t : State} (near : NearState pid s t)
    {f : Finder} {worker : ℕ} {a : Act}
    (clean : CleanFor (.guest pid origPid homeNode) s (.onGuest f worker a)) :
    guestResults pid s (.onGuest f worker a) = guestResults pid t (.onGuest f worker a) ∧
      NearState pid (next s (.onGuest f worker a)) (next t (.onGuest f worker a)) := by
  have place := find_same near.guests f
  cases found : f.find s.guests with
  | none =>
    rw [found] at place
    simp only [guestResults, next, found, ← place, true_and]
    exact near
  | some i =>
    rw [found] at place
    have entry := near.guests.slot i (find_lt found)
    have workers : (s.guests.slot i).info.localPid = pid →
        AlikeWorker (s.workers (s.guests.slot i).info.localPid worker)
          (t.workers (t.guests.slot i).info.localPid worker) := by
      intro here
      rw [entry.localPid, here]
      exact near.workers worker
    have cleanHere : (s.guests.slot i).info.localPid = pid →
        Clean (s.workers (s.guests.slot i).info.localPid worker) (s.guests.slot i) a := by
      intro here
      rw [here]
      exact clean i found here
    simp only [guestResults, next, found, ← place, entry.localPid]
    constructor
    · split_ifs with here
      · have told := (act_same (entry.own here) (workers here) (cleanHere here)).1
        exact congrArg (fun r => [r]) told
      · rfl
    · have left := near_act entry workers cleanHere
      have guests := near.guests.modify i (f := fun _ => (runAct s i worker a).1)
        (g := fun _ => (runAct t i worker a).1) left
      refine ⟨guests, fun n => ?_⟩
      apply near_setWorker near
      intro here
      exact (act_same (entry.own here) (workers here) (cleanHere here)).2.2

theorem near_removeGuest {pid : ℕ} {s t : State} (near : NearState pid s t) (f : Finder) :
    guestResults pid s (.removeGuest f) = guestResults pid t (.removeGuest f) ∧
      NearState pid (next s (.removeGuest f)) (next t (.removeGuest f)) := by
  have place := find_same near.guests f
  cases found : f.find s.guests with
  | none =>
    rw [found] at place
    simp only [guestResults, next, found, ← place, true_and]
    exact near
  | some i =>
    rw [found] at place
    have live := find_lt found
    have entry := near.guests.slot i live
    simp only [guestResults, next, found, ← place, entry.localPid]
    constructor
    · split_ifs with here
      · have same := entry.own here
        have buffers : (t.guests.slot i).rpc.readBuf = (s.guests.slot i).rpc.readBuf ∧
            (t.guests.slot i).rpc.statxBuf = (s.guests.slot i).rpc.statxBuf := by
          rw [same.rpc]
          exact ⟨rfl, rfl⟩
        rw [same.info, buffers.1, buffers.2]
      · rfl
    · exact ⟨near_remove near.guests live, near.workers⟩

/-- No worker of an added process is left from before. -/
theorem near_added {pid : ℕ} {s t : State} (m : s.guests.Matched (Near pid) t.guests)
    (origPid : ℕ) (homeNode : Node) :
    NearState pid (next s (.addGuest pid origPid homeNode))
      (next t (.addGuest pid origPid homeNode)) := by
  refine ⟨near_add m pid origPid homeNode, fun n => ?_⟩
  simp only [next, newProcess, if_true]
  exact AlikeWorker.refl _

/-- One operation, from two states that the process cannot tell apart. -/
theorem near_step {pid origPid : ℕ} {homeNode : Node} (s t : State) (op : Op)
    (near : NearState pid s t) (clean : CleanFor (.guest pid origPid homeNode) s op) :
    guestResults pid s op = guestResults pid t op ∧ NearState pid (next s op) (next t op) := by
  cases op with
  | addGuest localPid origPid homeNode =>
    refine ⟨rfl, near_add near.guests localPid origPid homeNode, fun n => ?_⟩
    simp only [next, newProcess]
    split_ifs
    · exact AlikeWorker.refl _
    · exact near.workers n
  | removeGuest f => exact near_removeGuest near f
  | onGuest f worker a => exact near_onGuest near clean
  | onAllGuests e =>
    have edited := near.guests.mapLive (f := fun g => { g with info := e.edit g.info })
      fun _ _ entry => near_edit entry e
    exact ⟨rfl, edited, near.workers⟩
  | addExport origPid targetNode => exact ⟨rfl, near.guests, near.workers⟩
  | removeExport origPid =>
    refine ⟨rfl, ?_⟩
    simp only [next]
    split <;> split <;> exact ⟨near.guests, near.workers⟩
  | onExport origPid a =>
    refine ⟨rfl, ?_⟩
    simp only [next]
    split <;> split <;> exact ⟨near.guests, near.workers⟩

/-! ### The registry of exports -/

/-- Nothing in the source stores a file or a directory in an export. -/
def Blank (t : SlotTable Export) : Prop :=
  ∀ i, (t.slot i).remoteFiles = (fun _ => none) ∧ (t.slot i).dsmDirCount = 0

structure AlikeExports (s t : State) : Prop where
  exports : s.exports.Matched AlikeExport t.exports
  blank : Blank s.exports
  blank' : Blank t.exports

theorem exportAct_blank {e : Export} (files : e.remoteFiles = fun _ => none)
    (dirs : e.dsmDirCount = 0) (a : ExportAct) :
    (exportAct e a).1.remoteFiles = (fun _ => none) ∧ (exportAct e a).1.dsmDirCount = 0 := by
  cases a with
  | closeFile slot =>
    simp only [exportAct, files]
    exact ⟨Function.update_eq_self slot _, dirs⟩
  | _ => exact ⟨files, dirs⟩

theorem next_blank {s : State} (blank : Blank s.exports) (op : Op) : Blank (next s op).exports := by
  cases op with
  | addGuest localPid origPid homeNode => exact blank
  | onAllGuests e => exact blank
  | removeGuest f =>
    simp only [next]
    split <;> exact blank
  | onGuest f worker a =>
    simp only [next]
    split <;> exact blank
  | addExport origPid targetNode =>
    simp only [next, addExportProcess]
    split_ifs with room
    · intro i
      rw [SlotTable.push_slot]
      split_ifs
      · exact blank s.exports.count
      · exact blank i
    · exact blank
  | removeExport origPid =>
    simp only [next]
    split
    · intro i
      rw [SlotTable.swapRemove_slot]
      exact blank _
    · exact blank
  | onExport origPid a =>
    simp only [next]
    split
    case h_1 i found =>
      intro j
      rw [SlotTable.modify_slot]
      split_ifs
      · exact exportAct_blank (blank i).1 (blank i).2 a
      · exact blank j
    case h_2 => exact blank

theorem after_blank (s : State) (blank : Blank s.exports) (ops : List Op) :
    Blank (machine.after s ops).exports := by
  induction ops generalizing s with
  | nil => exact blank
  | cons op ops ih => exact ih _ (next_blank blank op)

theorem start_blank : Blank start.exports := fun _ => ⟨rfl, rfl⟩

theorem exportAct_same {e f : Export} (same : AlikeExport e f)
    (files : e.remoteFiles = fun _ => none) (files' : f.remoteFiles = fun _ => none)
    (dirs : e.dsmDirCount = 0) (dirs' : f.dsmDirCount = 0) (a : ExportAct) :
    (exportAct e a).2 = (exportAct f a).2 ∧ AlikeExport (exportAct e a).1 (exportAct f a).1 := by
  cases a with
  | getTarget => exact ⟨congrArg Result.target same.targetNode.symm, same⟩
  | getFile slot => exact ⟨by simp only [exportAct, files, files'], same⟩
  | closeFile slot =>
    exact ⟨by simp only [exportAct, files, files'],
      same.origPid, same.targetNode, same.abortRpc, same.isGrowingGang⟩
  | findDir shmid =>
    refine ⟨?_, same⟩
    simp only [exportAct, dirs, dirs', List.range_zero, List.find?_nil]
  | setAbort b => exact ⟨rfl, same.origPid, same.targetNode, rfl, same.isGrowingGang⟩
  | getAbort => exact ⟨congrArg Result.flag same.abortRpc.symm, same⟩
  | setGrowing b => exact ⟨rfl, same.origPid, same.targetNode, same.abortRpc, rfl⟩
  | getGrowing => exact ⟨congrArg Result.flag same.isGrowingGang.symm, same⟩

theorem exportOf_same {t u : SlotTable Export} (m : t.Matched AlikeExport u) (pid : ℕ) :
    exportOf t pid = exportOf u pid := by
  apply m.find?
  intro e f same
  rw [same.origPid]

theorem exports_step (pid : ℕ) (s t : State) (op : Op) (same : AlikeExports s t) :
    exportResults pid s op = exportResults pid t op ∧ AlikeExports (next s op) (next t op) := by
  have blank := next_blank same.blank op
  have blank' := next_blank same.blank' op
  suffices h : exportResults pid s op = exportResults pid t op ∧
      (next s op).exports.Matched AlikeExport (next t op).exports from ⟨h.1, h.2, blank, blank'⟩
  cases op with
  | addGuest localPid origPid homeNode => exact ⟨rfl, same.exports⟩
  | onAllGuests e => exact ⟨rfl, same.exports⟩
  | removeGuest f =>
    refine ⟨rfl, ?_⟩
    simp only [next]
    split <;> split <;> exact same.exports
  | onGuest f worker a =>
    refine ⟨rfl, ?_⟩
    simp only [next]
    split <;> split <;> exact same.exports
  | addExport origPid targetNode =>
    refine ⟨rfl, ?_⟩
    simp only [next, addExportProcess, same.exports.count]
    split_ifs with room
    · apply same.exports.push
      exact ⟨rfl, rfl, rfl, rfl⟩
    · exact same.exports
  | removeExport origPid =>
    have place := exportOf_same same.exports origPid
    simp only [exportResults, next, ← place]
    cases found : exportOf s.exports origPid with
    | none => exact ⟨rfl, same.exports⟩
    | some i =>
      refine ⟨?_, same.exports.swapRemove (SlotTable.find?_lt found)⟩
      simp only [(same.blank i).1, (same.blank' i).1]
  | onExport origPid a =>
    have place := exportOf_same same.exports origPid
    simp only [exportResults, next, ← place]
    cases found : exportOf s.exports origPid with
    | none => exact ⟨rfl, same.exports⟩
    | some i =>
      have entry := same.exports.slot i (SlotTable.find?_lt found)
      have ⟨told, left⟩ := exportAct_same entry (same.blank i).1 (same.blank' i).1
        (same.blank i).2 (same.blank' i).2 a
      have exports := same.exports.modify i (f := fun _ => (exportAct (s.exports.slot i) a).1)
        (g := fun _ => (exportAct (t.exports.slot i) a).1) left
      refine ⟨?_, exports⟩
      simp only [told]

/-! ### Both -/

/-- Two histories that leave the same live entries: whatever follows, the process added next is
told the same after both, if what follows does not read what it has not written for it. -/
theorem reuse_leaves_no_trace (history history' : List Op)
    (same : AlikeState (machine.after start history) (machine.after start history')) (p : Proc)
    (ops : List Op)
    (clean : machine.Follows (CleanFor p) (machine.after start (history ++ [p.add])) ops) :
    machine.outputs p.results (machine.after start (history ++ [p.add])) ops =
      machine.outputs p.results (machine.after start (history' ++ [p.add])) ops := by
  simp only [Machine.after, List.foldl_append, List.foldl_cons, List.foldl_nil] at clean ⊢
  cases p with
  | guest localPid origPid homeNode =>
    have added := near_added (same.near localPid) origPid homeNode
    exact Machine.outputs_eq near_step added clean
  | deputy origPid targetNode =>
    have alike : AlikeExports (machine.after start history) (machine.after start history') :=
      ⟨⟨same.exportCount, same.exports⟩, after_blank _ start_blank _, after_blank _ start_blank _⟩
    have added := (exports_step origPid _ _ (.addExport origPid targetNode) alike).2
    exact Machine.outputs_eq (fun s t op same _ => exports_step origPid s t op same) added clean

def env : Env := ⟨0, [3], true, true, true, true, 0⟩

/-- A guest opens a file at home and is killed. -/
def opened : List Op :=
  [.addGuest 100 4711 1, .onGuest (.tgid 100) 0 (.begin ⟨.open, true, 0⟩),
    .onGuest (.sender 4711 1) 0 (.reply .open (.fd 7 0) true), .removeGuest (.sender 4711 1)]

theorem opened_leaves_nothing_live :
    AlikeState (machine.after start opened) (machine.after start []) := by
  have guests : (machine.after start opened).guests.count = 0 := by decide +kernel
  have exports : (machine.after start opened).exports.count = 0 := by decide +kernel
  constructor
  · exact guests.symm
  · intro i live
    omega
  · exact exports.symm
  · intro i live
    omega

def newcomer : Proc := .guest 200 5822 2

/-- The newcomer opens a file, is stopped at a step of its own, and asks for the id of a thread
that has been mapped for it. -/
def ownCalls : List Op :=
  [.onGuest (.tgid 200) 0 (.mapTids 1 [(5822, 200)]),
    .onGuest (.tgid 200) 0 (.begin ⟨.open, true, 0⟩),
    .onGuest (.sender 5822 2) 0 (.reply .open (.fd 4 0) true), .onGuest (.tgid 200) 0 .pollDone,
    .onGuest (.tgid 200) 0 (.awaken ⟨.open, true, 0⟩ env), .onGuest (.tgid 200) 0 (.gettid 200),
    .onGuest (.tgid 200) 0 (.note ⟨0, 1, true⟩), .onGuest (.tgid 200) 0 .trap]

theorem reuse_leaves_no_trace_ownCalls :
    machine.outputs newcomer.results (machine.after start (opened ++ [newcomer.add])) ownCalls =
      machine.outputs newcomer.results (machine.after start ([] ++ [newcomer.add])) ownCalls :=
  reuse_leaves_no_trace opened [] opened_leaves_nothing_live newcomer ownCalls (by decide +kernel)

/-- The home node has no connection for the newcomer to accept. -/
def acceptFails : List Op :=
  [.onGuest (.tgid 200) 0 (.begin ⟨.accept, true, 0⟩),
    .onGuest (.sender 5822 2) 0 (.reply .accept (.accept (-1) (-11) []) true),
    .onGuest (.tgid 200) 0 .pollDone, .onGuest (.tgid 200) 0 (.awaken ⟨.accept, true, 0⟩ env)]

/-- The proxies that a result has installed. -/
def Result.proxies : Result → List (ℕ × ℤ)
  | .returned o => o.installed
  | _ => []

/-- The newcomer gets a proxy for the file its predecessor opened. -/
theorem accept_gets_descriptor_of_predecessor :
    AlikeState (machine.after start opened) (machine.after start []) ∧
      machine.outputs newcomer.results (machine.after start (opened ++ [newcomer.add]))
          acceptFails ≠
        machine.outputs newcomer.results (machine.after start ([] ++ [newcomer.add]))
          acceptFails := by
  refine ⟨opened_leaves_nothing_live, fun same => ?_⟩
  have proxies := congrArg (List.flatMap Result.proxies) same
  have stale : List.flatMap Result.proxies (machine.outputs newcomer.results
      (machine.after start (opened ++ [newcomer.add])) acceptFails) = [(3, 7)] := by
    decide +kernel
  have fresh : List.flatMap Result.proxies (machine.outputs newcomer.results
      (machine.after start ([] ++ [newcomer.add])) acceptFails) = [(3, 0)] := by
    decide +kernel
  rw [stale, fresh] at proxies
  exact absurd proxies (by decide)

end MattX.SlotReuse
