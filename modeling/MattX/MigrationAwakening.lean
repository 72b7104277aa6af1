import MattX.GuardedRuns
import MattX.DsmTypes
import MattX.SlotTable

set_option autoImplicit false

/-!
# The awakening of a surrogate

`handle_migrate_done` gives the stopped gang of a stub its new identity, wakes
it, and then registers it and lays the traps for its shared segments.
-/
namespace MattX.MigrationAwakening
open GuardedRuns

/-- `struct mattx_vma_info`. -/
structure VmaInfo where
  vmStart : ℕ
  vmEnd : ℕ
  isShm : Bool
  shmid : ℕ
  deriving DecidableEq

/-- What the handler is at: the blueprint, the node it came from, and the pid of the stub. -/
structure Import where
  origPid : ℕ
  tids : List ℕ
  vmas : List VmaInfo
  sourceNode : Node
  stubPid : ℕ

/-- `struct mattx_dsm_mapping` without its pages. -/
structure Segment where
  baseAddr : ℕ
  size : ℕ
  shmid : ℕ
  deriving DecidableEq

/-- `struct mattx_guest_info`, as far as it tells whose calls and faults are whose. -/
structure Entry where
  localPid : ℕ
  origPid : ℕ
  homeNode : Node
  threadCount : ℕ
  origTids : ℕ → ℕ
  localTids : ℕ → ℕ
  dsmMap : List Segment

/-- A thread of the stub. It is transplanted once it has the registers of the blueprint. -/
structure Thread where
  tid : ℕ
  stopped : Bool
  transplanted : Bool
  deriving DecidableEq

/-- An area of the stub. It is armed once its `vm_ops` are `mattx_dsm_vm_ops`. -/
structure Area where
  vmStart : ℕ
  vmEnd : ℕ
  armed : Bool
  deriving DecidableEq

/-- Where the handler is. The loop at `arming` is at entry `i` and area `v`, under `guest_lock`. -/
inductive Pc where
  | transferred
  | injected
  | woken
  | added
  | arming (i v : ℕ)
  | finished
  deriving DecidableEq

/-- `gang` is in the order of `for_each_thread`; `mm` is `none` for a NULL pointer. -/
structure State where
  gang : List Thread
  registry : SlotTable Entry
  mm : Option (List Area)
  pc : Pc

/-- The waits at the beginning of the handler end at a time limit too, so they are no guard.
The last five are the stub's threads, any other sender of a SIGCONT or SIGSTOP, and the handlers
for other guests. -/
inductive Event where
  | inject
  | wake
  | add
  | lookup
  | arm
  | execute (tid : ℕ)
  | resume
  | park (tid : ℕ)
  | join (e : Entry)
  | leave (i : ℕ)

/-- The entry and the area of the loop. -/
def Pc.at? : Pc → Option (ℕ × ℕ)
  | .arming i v => some (i, v)
  | _ => none

def Pc.locked (pc : Pc) : Bool := pc.at?.isSome

def guestAt (m : Import) (s : State) : Option ℕ :=
  s.registry.find? fun e => e.localPid == m.stubPid

/-- The gang injection loop. -/
def transplant : ℕ → List Thread → List Thread
  | _, [] => []
  | 0, ts => ts
  | n + 1, t :: ts => { t with transplanted := true } :: transplant n ts

/-- SIGCONT is for the whole thread group. -/
def sigcont (gang : List Thread) : List Thread := gang.map fun t => { t with stopped := false }

/-- `add_guest_process`. It leaves the TID map of the slot as it was. -/
def addGuestProcess (r : SlotTable Entry) (localPid origPid : ℕ) (homeNode : Node) :
    SlotTable Entry :=
  if r.count < maxGuests then
    r.push fun old => { old with localPid, origPid, homeNode, dsmMap := [] }
  else r

/-- The loop that fills the TID translation map. -/
def Entry.mapTids (e : Entry) (tids : List ℕ) (gang : List Thread) : Entry :=
  { e with
    threadCount := tids.length
    origTids := fun k => if k < gang.length then (tids[k]?).getD (e.origTids k) else e.origTids k
    localTids := fun k =>
      if k < tids.length then ((gang[k]?).map Thread.tid).getD (e.localTids k) else e.localTids k
    dsmMap := [] }

def VmaInfo.segment (v : VmaInfo) : Segment := ⟨v.vmStart, v.vmEnd - v.vmStart, v.shmid⟩

/-- `find_vma` and the check that the area begins there. -/
def armAt (base : ℕ) : List Area → List Area
  | [] => []
  | a :: as =>
    if base < a.vmEnd then
      if a.vmStart = base then { a with armed := true } :: as else a :: as
    else a :: armAt base as

/-- One round of the loop that populates the DSM map. -/
def armVma (s : State) (i : ℕ) (v : VmaInfo) : State :=
  if v.isShm = true ∧ (s.registry.slot i).dsmMap.length < maxDsmSegments then
    { s with
      registry := s.registry.modify i fun e => { e with dsmMap := e.dsmMap ++ [v.segment] }
      mm := s.mm.map (armAt v.vmStart) }
  else s

def enabled (m : Import) (s : State) : Event → Prop
  | .inject => s.pc = .transferred
  | .wake => s.pc = .injected
  | .add => s.pc = .woken
  | .lookup => s.pc = .added
  | .arm => s.pc.locked = true
  | .execute tid => ⟨tid, false, true⟩ ∈ s.gang
  | .resume | .park _ => True
  | .join e => s.pc.locked = false ∧ s.registry.count < maxGuests ∧ e.localPid ≠ m.stubPid
  | .leave i => s.pc.locked = false ∧ i < s.registry.count ∧
      (s.registry.slot i).localPid ≠ m.stubPid

def next (m : Import) (s : State) : Event → State
  | .inject => { s with gang := transplant m.tids.length s.gang, pc := .injected }
  | .wake => { s with gang := sigcont s.gang, pc := .woken }
  | .add => { s with
      registry := addGuestProcess s.registry m.stubPid m.origPid m.sourceNode, pc := .added }
  | .lookup => match guestAt m s with
    | some i => { s with
        registry := s.registry.modify i fun e => e.mapTids m.tids s.gang
        pc := if s.mm.isSome then .arming i 0 else .finished }
    | none => { s with pc := .finished }
  | .arm => match s.pc.at? with
    | some (i, v) => match m.vmas[v]? with
      | some info => { armVma s i info with pc := .arming i (v + 1) }
      | none => { s with pc := .finished }
    | none => s
  | .execute _ => s
  | .resume => { s with gang := sigcont s.gang }
  | .park tid => { s with
      gang := s.gang.map fun t => if t.tid = tid then { t with stopped := true } else t }
  | .join e => { s with registry := s.registry.push fun _ => e }
  | .leave i => { s with registry := s.registry.swapRemove i }

def machine (m : Import) : Machine State Event := ⟨enabled m, next m⟩

instance (m : Import) (s : State) : DecidablePred (enabled m s) := fun e => by
  induction e using Event.casesOn <;> unfold enabled <;> infer_instance

instance (m : Import) (s : State) : DecidablePred ((machine m).enabled s) :=
  inferInstanceAs (DecidablePred (enabled m s))

/-! ### What has to be in place -/

/-- Thread `k` of the gang is known as thread `k` of the blueprint. -/
def TidsMapped (m : Import) (gang : List Thread) (e : Entry) : Prop :=
  e.threadCount = m.tids.length ∧ ∀ k < m.tids.length,
    m.tids[k]? = some (e.origTids k) ∧ (gang[k]?).map Thread.tid = some (e.localTids k)

/-- The segment is in the map and traps. -/
def Trapped (mm : Option (List Area)) (e : Entry) (v : VmaInfo) : Prop :=
  v.segment ∈ e.dsmMap ∧ ∃ areas ∈ mm, ∃ a ∈ areas, a.vmStart = v.vmStart ∧ a.armed = true

/-- The entry that a lookup of the surrogate finds is its own, with the whole TID map, and every
shared segment of the blueprint is in it and armed. -/
def Interposed (m : Import) (s : State) : Prop :=
  ∃ i ∈ guestAt m s, (s.registry.slot i).origPid = m.origPid ∧
    (s.registry.slot i).homeNode = m.sourceNode ∧ TidsMapped m s.gang (s.registry.slot i) ∧
    ∀ v ∈ m.vmas, v.isShm = true → Trapped s.mm (s.registry.slot i) v

instance (m : Import) (gang : List Thread) (e : Entry) : Decidable (TidsMapped m gang e) := by
  unfold TidsMapped
  infer_instance

instance (mm : Option (List Area)) (e : Entry) (v : VmaInfo) : Decidable (Trapped mm e v) := by
  unfold Trapped
  infer_instance

instance (m : Import) (s : State) : Decidable (Interposed m s) := by
  unfold Interposed
  infer_instance

/-- The observer keeps the threads that ran in the new identity too early. -/
def watchEarly (m : Import) (early : List ℕ) (s : State) : Event → List ℕ
  | .execute tid => if Interposed m s then early else tid :: early
  | _ => early

def awakening (m : Import) : Machine (State × List ℕ) Event := (machine m).observed (watchEarly m)

instance (m : Import) (x : State × List ℕ) : DecidablePred ((awakening m).enabled x) :=
  inferInstanceAs (DecidablePred (enabled m x.1))

/-- The VMA is found where the blueprint has it. -/
def Found (base : ℕ) (areas : List Area) : Prop :=
  ∃ a ∈ areas.find? fun a => decide (base < a.vmEnd), a.vmStart = base

instance (base : ℕ) (areas : List Area) : Decidable (Found base areas) := by
  unfold Found
  infer_instance

/-- No woken thread is scheduled before the handler is through; the registry has room and no
entry with the stub's pid; the stub has all the threads; and each shared segment has a slot and
an area of its own. -/
def Orderly (m : Import) (s : State) : Event → Prop
  | .execute _ => s.pc = .finished
  | .add => s.registry.count < maxGuests ∧ guestAt m s = none
  | .lookup => m.tids.length ≤ s.gang.length ∧ s.mm.isSome = true
  | .arm => ∀ x ∈ s.pc.at?, ∀ info ∈ m.vmas[x.2]?, info.isShm = true →
      (s.registry.slot x.1).dsmMap.length < maxDsmSegments ∧
        ∃ areas ∈ s.mm, Found info.vmStart areas
  | _ => True

instance (m : Import) (s : State) : DecidablePred (Orderly m s) := fun e => by
  induction e using Event.casesOn <;> unfold Orderly <;> infer_instance

/-! ### The entry of the surrogate -/

/-- The registry has exactly one entry with the stub's pid, and `P` holds of it. -/
structure Listed (m : Import) (P : Entry → Prop) (r : SlotTable Entry) : Prop where
  one : ∃ e ∈ r, e.localPid = m.stubPid
  sole : ∀ j k, j < r.count → k < r.count → (r.slot j).localPid = m.stubPid →
    (r.slot k).localPid = m.stubPid → j = k
  all : ∀ i, i < r.count → (r.slot i).localPid = m.stubPid → P (r.slot i)

section Registry
variable {m : Import} {P Q : Entry → Prop} {r : SlotTable Entry}

theorem Listed.mono (h : Listed m P r) (weaker : ∀ e, P e → Q e) : Listed m Q r :=
  ⟨h.one, h.sole, fun i small own => weaker _ (h.all i small own)⟩

theorem Listed.lookup (h : Listed m P r) :
    ∃ i, (r.find? fun e => e.localPid == m.stubPid) = some i ∧ P (r.slot i) := by
  cases found : r.find? fun e => e.localPid == m.stubPid with
  | none =>
    obtain ⟨i, small, own⟩ := SlotTable.exists_mem.mp h.one
    have missing := SlotTable.find?_eq_none.mp found i small
    simp [own] at missing
  | some i =>
    have own : (r.slot i).localPid = m.stubPid := by simpa using SlotTable.find?_holds found
    exact ⟨i, rfl, h.all i (SlotTable.find?_lt found) own⟩

theorem Listed.join (h : Listed m P r) {e : Entry} (other : e.localPid ≠ m.stubPid) :
    Listed m P (r.push fun _ => e) := by
  have old {j : ℕ} (small : j < (r.push fun _ => e).count)
      (own : ((r.push fun _ => e).slot j).localPid = m.stubPid) :
      j < r.count ∧ (r.push fun _ => e).slot j = r.slot j := by
    rw [SlotTable.push_count] at small
    by_cases last : j = r.count
    · rw [SlotTable.push_slot, if_pos last] at own
      exact absurd own other
    · exact ⟨by omega, by rw [SlotTable.push_slot, if_neg last]⟩
  constructor
  case one =>
    obtain ⟨x, mem, own⟩ := h.one
    exact ⟨x, SlotTable.mem_push.mpr (.inl mem), own⟩
  case sole =>
    intro j k smallJ smallK ownJ ownK
    have oldJ := old smallJ ownJ
    have oldK := old smallK ownK
    rw [oldJ.2] at ownJ
    rw [oldK.2] at ownK
    exact h.sole j k oldJ.1 oldK.1 ownJ ownK
  case all =>
    intro j small own
    have before := old small own
    rw [before.2] at own ⊢
    exact h.all j before.1 own

theorem Listed.leave (h : Listed m P r) {i : ℕ} (small : i < r.count)
    (other : (r.slot i).localPid ≠ m.stubPid) : Listed m P (r.swapRemove i) := by
  constructor
  case one =>
    obtain ⟨x, mem, own⟩ := h.one
    cases SlotTable.mem_swapRemove_or small mem with
    | inl stays => exact ⟨x, stays, own⟩
    | inr gone => exact absurd own (gone ▸ other)
  case sole =>
    intro j k smallJ smallK ownJ ownK
    rw [SlotTable.swapRemove_count] at smallJ smallK
    rw [SlotTable.swapRemove_slot] at ownJ ownK
    have same := h.sole _ _ (SlotTable.origin_lt smallJ) (SlotTable.origin_lt smallK) ownJ ownK
    exact SlotTable.origin_inj smallJ smallK same
  case all =>
    intro j small own
    rw [SlotTable.swapRemove_count] at small
    rw [SlotTable.swapRemove_slot] at own ⊢
    exact h.all _ (SlotTable.origin_lt small) own

theorem Listed.modify (h : Listed m P r) (i : ℕ) {f : Entry → Entry}
    (pid : ∀ e, (f e).localPid = e.localPid) (stays : ∀ e, P e → Q (f e))
    (own : (r.slot i).localPid = m.stubPid) (small : i < r.count) : Listed m Q (r.modify i f) := by
  have same (j : ℕ) : ((r.modify i f).slot j).localPid = (r.slot j).localPid := by
    rw [SlotTable.modify_slot]
    split_ifs with here
    · rw [pid, here]
    · rfl
  constructor
  case one =>
    exact ⟨(r.modify i f).slot i, SlotTable.slot_mem small, (same i).trans own⟩
  case sole =>
    intro j k smallJ smallK ownJ ownK
    exact h.sole j k smallJ smallK ((same j).symm.trans ownJ) ((same k).symm.trans ownK)
  case all =>
    intro j smallJ ownJ
    have here : j = i := h.sole j i smallJ small ((same j).symm.trans ownJ) own
    subst j
    rw [SlotTable.modify_slot_self]
    exact stays _ (h.all i small own)

/-- `add_guest_process`, when nothing has the pid yet. -/
theorem listed_addGuestProcess (room : r.count < maxGuests)
    (new : (r.find? fun e => e.localPid == m.stubPid) = none) :
    Listed m (fun e => e.origPid = m.origPid ∧ e.homeNode = m.sourceNode)
      (addGuestProcess r m.stubPid m.origPid m.sourceNode) := by
  rw [addGuestProcess, if_pos room]
  have last {j : ℕ} (small : j < r.count + 1) (f : Entry → Entry)
      (own : ((r.push f).slot j).localPid = m.stubPid) : j = r.count := by
    by_contra before
    rw [SlotTable.push_slot, if_neg before] at own
    have missing := SlotTable.find?_eq_none.mp new j (by omega)
    simp [own] at missing
  constructor
  case one => exact ⟨_, SlotTable.mem_push.mpr (.inr rfl), rfl⟩
  case sole =>
    intro j k smallJ smallK ownJ ownK
    exact (last smallJ _ ownJ).trans (last smallK _ ownK).symm
  case all =>
    intro j small own
    rw [last small _ own, SlotTable.push_slot, if_pos rfl]
    exact ⟨rfl, rfl⟩

end Registry

/-! ### The areas -/

section Areas
variable {base : ℕ} {areas : List Area}

theorem armAt_found (found : Found base areas) :
    ∃ a ∈ armAt base areas, a.vmStart = base ∧ a.armed = true := by
  induction areas with
  | nil =>
    obtain ⟨a, mem, _⟩ := found
    cases mem
  | cons a as ih =>
    obtain ⟨b, mem, here⟩ := found
    by_cases inside : base < a.vmEnd
    · have first : a = b := by simpa [inside] using mem
      subst b
      refine ⟨{ a with armed := true }, ?_, here, rfl⟩
      simp [armAt, inside, here]
    · have later : Found base as := ⟨b, by simpa [inside] using mem, here⟩
      obtain ⟨c, trap, start, armed⟩ := ih later
      refine ⟨c, ?_, start, armed⟩
      rw [armAt, if_neg inside]
      exact List.mem_cons_of_mem a trap

/-- A trap that is laid stays. -/
theorem armAt_keeps {start : ℕ} (trap : ∃ a ∈ areas, a.vmStart = start ∧ a.armed = true) :
    ∃ a ∈ armAt base areas, a.vmStart = start ∧ a.armed = true := by
  induction areas with
  | nil =>
    obtain ⟨a, mem, _⟩ := trap
    cases mem
  | cons a as ih =>
    obtain ⟨b, mem, here, armed⟩ := trap
    simp only [armAt]
    split_ifs with inside first
    · cases List.mem_cons.mp mem with
      | inl head => exact ⟨_, List.mem_cons_self, head ▸ here, rfl⟩
      | inr tail => exact ⟨b, List.mem_cons_of_mem _ tail, here, armed⟩
    · exact ⟨b, mem, here, armed⟩
    · cases List.mem_cons.mp mem with
      | inl head => exact ⟨b, head ▸ List.mem_cons_self, here, armed⟩
      | inr tail =>
        obtain ⟨c, trap, rest⟩ := ih ⟨b, tail, here, armed⟩
        exact ⟨c, List.mem_cons_of_mem _ trap, rest⟩

end Areas

/-! ### The handler step by step -/

/-- The entry is the surrogate's, with the whole TID map and the shared segments among the first
`n` areas of the blueprint. -/
structure Ready (m : Import) (gang : List Thread) (mm : Option (List Area)) (n : ℕ)
    (e : Entry) : Prop where
  origPid : e.origPid = m.origPid
  homeNode : e.homeNode = m.sourceNode
  tids : TidsMapped m gang e
  traps : ∀ v ∈ m.vmas.take n, v.isShm = true → Trapped mm e v

/-- What is in place when the handler is at `s.pc`. -/
def Placed (m : Import) (s : State) : Prop :=
  match s.pc with
  | .transferred | .injected | .woken => True
  | .added => Listed m (fun e => e.origPid = m.origPid ∧ e.homeNode = m.sourceNode) s.registry
  | .arming i v => Listed m (Ready m s.gang s.mm v) s.registry ∧ i < s.registry.count ∧
      (s.registry.slot i).localPid = m.stubPid
  | .finished => Listed m (Ready m s.gang s.mm m.vmas.length) s.registry

theorem Placed.interposed {m : Import} {s : State} (h : Placed m s) (done : s.pc = .finished) :
    Interposed m s := by
  simp only [Placed, done] at h
  obtain ⟨i, found, ready⟩ := h.lookup
  refine ⟨i, found, ready.origPid, ready.homeNode, ready.tids, ?_⟩
  have traps := ready.traps
  rwa [List.take_length] at traps

section Steps
variable {m : Import} {s : State}

theorem TidsMapped.regang {gang gang' : List Thread} {e : Entry} (h : TidsMapped m gang e)
    (same : gang'.map Thread.tid = gang.map Thread.tid) : TidsMapped m gang' e := by
  refine ⟨h.1, fun k small => ?_⟩
  obtain ⟨orig, here⟩ := h.2 k small
  refine ⟨orig, ?_⟩
  rw [← List.getElem?_map] at here ⊢
  rw [same, here]

theorem Ready.regang {gang gang' : List Thread} {mm : Option (List Area)} {n : ℕ} {e : Entry}
    (h : Ready m gang mm n e) (same : gang'.map Thread.tid = gang.map Thread.tid) :
    Ready m gang' mm n e :=
  { h with tids := h.tids.regang same }

/-- Stopping and waking threads leaves everything in place. -/
theorem Placed.regang (h : Placed m s) {gang : List Thread}
    (same : gang.map Thread.tid = s.gang.map Thread.tid) : Placed m { s with gang } := by
  obtain ⟨_, _, _, pc⟩ := s
  cases pc with
  | transferred | injected | woken => trivial
  | added => exact h
  | arming i v => exact ⟨h.1.mono fun _ ready => ready.regang same, h.2⟩
  | finished => exact h.mono fun _ ready => ready.regang same

theorem mapTids_mapped (e : Entry) {gang : List Thread} (whole : m.tids.length ≤ gang.length) :
    TidsMapped m gang (e.mapTids m.tids gang) := by
  refine ⟨rfl, fun k small => ?_⟩
  have inGang : k < gang.length := by omega
  simp [Entry.mapTids, small, inGang]

theorem placed_lookup (h : Placed m s) (en : s.pc = .added) (whole : m.tids.length ≤ s.gang.length)
    (mapped : s.mm.isSome = true) : Placed m (next m s .lookup) := by
  simp only [Placed, en] at h
  obtain ⟨i, found, _⟩ := h.lookup
  have here : guestAt m s = some i := found
  have small := SlotTable.find?_lt found
  have own : (s.registry.slot i).localPid = m.stubPid := by
    simpa using SlotTable.find?_holds found
  simp only [next, here, mapped, if_true, Placed]
  refine ⟨?_, small, ?_⟩
  · refine h.modify i (fun _ => rfl) (fun e known => ?_) own small
    exact ⟨known.1, known.2, mapTids_mapped e whole, by simp⟩
  · rw [SlotTable.modify_slot_self]
    exact own

theorem Trapped.arm {areas : List Area} {e : Entry} {v w : VmaInfo} (h : Trapped (some areas) e w) :
    Trapped (some (armAt v.vmStart areas)) { e with dsmMap := e.dsmMap ++ [v.segment] } w := by
  obtain ⟨mem, found, same, trap⟩ := h
  obtain rfl : areas = found := Option.some.inj same
  exact ⟨List.mem_append_left _ mem, _, rfl, armAt_keeps trap⟩

/-- One round adds its own area to those in place. -/
theorem Ready.arm {areas : List Area} {e : Entry} {v : ℕ} {info : VmaInfo}
    (h : Ready m s.gang (some areas) v e) (here : m.vmas[v]? = some info)
    (found : Found info.vmStart areas) :
    Ready m s.gang (some (armAt info.vmStart areas)) (v + 1)
      { e with dsmMap := e.dsmMap ++ [info.segment] } := by
  refine ⟨h.origPid, h.homeNode, h.tids, fun w mem shared => ?_⟩
  rw [List.take_add_one, here, Option.toList_some] at mem
  cases List.mem_append.mp mem with
  | inl old => exact (h.traps w old shared).arm
  | inr new =>
    rw [List.mem_singleton.mp new]
    exact ⟨by simp, _, rfl, armAt_found found⟩

theorem placed_arm (h : Placed m s) (en : s.pc.locked = true) (ok : Orderly m s .arm) :
    Placed m (next m s .arm) := by
  obtain ⟨gang, registry, mm, pc⟩ := s
  cases pc with
  | arming i v =>
    obtain ⟨listed, small, own⟩ := h
    cases here : m.vmas[v]? with
    | none =>
      have all : m.vmas.take v = m.vmas.take m.vmas.length := by
        rw [List.take_length]
        exact List.take_of_length_le (List.getElem?_eq_none_iff.mp here)
      simp only [next, Pc.at?, here, Placed]
      refine listed.mono fun e ready => ?_
      exact ⟨ready.origPid, ready.homeNode, ready.tids, all ▸ ready.traps⟩
    | some info =>
      simp only [next, Pc.at?, here]
      by_cases shared : info.isShm = true
      · obtain ⟨room, areas, mapped, found⟩ := ok (i, v) rfl info here shared
        have mapped : mm = some areas := mapped
        subst mm
        simp only [armVma, if_pos (And.intro shared room), Option.map_some, Placed]
        refine ⟨?_, small, ?_⟩
        · exact listed.modify i (fun _ => rfl) (fun e ready => ready.arm here found) own small
        · rw [SlotTable.modify_slot_self]
          exact own
      · have skipped : ¬ (info.isShm = true ∧
            (registry.slot i).dsmMap.length < maxDsmSegments) := fun both => shared both.1
        simp only [armVma, if_neg skipped, Placed]
        refine ⟨listed.mono fun e ready => ?_, small, own⟩
        refine ⟨ready.origPid, ready.homeNode, ready.tids, fun w mem shm => ?_⟩
        rw [List.take_add_one, here, Option.toList_some] at mem
        cases List.mem_append.mp mem with
        | inl old => exact ready.traps w old shm
        | inr new => exact absurd (List.mem_singleton.mp new ▸ shm) shared
  | transferred | injected | woken | added | finished => cases en

theorem placed_join (h : Placed m s) {e : Entry} (free : s.pc.locked = false)
    (other : e.localPid ≠ m.stubPid) : Placed m (next m s (.join e)) := by
  obtain ⟨_, _, _, pc⟩ := s
  cases pc with
  | transferred | injected | woken => trivial
  | added => exact Listed.join h other
  | arming i v => cases free
  | finished => exact Listed.join h other

theorem placed_leave (h : Placed m s) {i : ℕ} (free : s.pc.locked = false)
    (small : i < s.registry.count) (other : (s.registry.slot i).localPid ≠ m.stubPid) :
    Placed m (next m s (.leave i)) := by
  obtain ⟨_, _, _, pc⟩ := s
  cases pc with
  | transferred | injected | woken => trivial
  | added => exact Listed.leave h small other
  | arming i v => cases free
  | finished => exact Listed.leave h small other

theorem placed_next (h : Placed m s) {e : Event} (en : (machine m).enabled s e)
    (ok : Orderly m s e) : Placed m ((machine m).next s e) := by
  cases e with
  | inject => trivial
  | wake => trivial
  | add => exact listed_addGuestProcess ok.1 ok.2
  | lookup => exact placed_lookup h en ok.1 ok.2
  | arm => exact placed_arm h en ok
  | execute tid => exact h
  | resume =>
    refine h.regang ?_
    simp [sigcont, Function.comp_def]
  | park tid =>
    refine h.regang ?_
    rw [List.map_map]
    refine List.map_congr_left fun t _ => ?_
    simp only [Function.comp_apply]
    split_ifs <;> rfl
  | join e => exact placed_join h en.1 en.2.2
  | leave i => exact placed_leave h en.1 en.2.1 en.2.2

end Steps

/-- Nothing runs in its new identity before everything is in place. -/
theorem interposed_before_execution {m : Import} {s : State} (start : s.pc = .transferred)
    {es : List Event} (run : (awakening m).Follows (fun x => Orderly m x.1) (s, []) es) :
    (awakening m).Always (fun x => x.2 = []) (s, []) es := by
  have first : Placed m s := by
    simp only [Placed, start]
  have always := run.always (I := fun x => Placed m x.1 ∧ x.2 = [])
    (fun x e h en ok => by
      refine ⟨placed_next h.1 en ok, ?_⟩
      cases e with
      | execute tid =>
        have interposed := h.1.interposed ok
        simp only [awakening, Machine.observed, watchEarly, if_pos interposed, h.2]
      | _ => exact h.2) ⟨first, rfl⟩
  exact always.mono fun _ h => h.2

def sharedImport : Import :=
  ⟨7, [7, 8], [⟨4096, 8192, false, 0⟩, ⟨12288, 20480, true, 5⟩], 1, 31⟩

/-- Two stopped threads of a stub that has carved the blueprint. -/
def carvedStub : State :=
  ⟨[⟨31, true, false⟩, ⟨32, true, false⟩], ⟨fun _ => ⟨0, 0, 0, 0, fun _ => 0, fun _ => 0, []⟩, 0⟩,
    some [⟨4096, 8192, false⟩, ⟨12288, 20480, false⟩], .transferred⟩

theorem interposed_before_execution_shared :
    (awakening sharedImport).Always (fun x => x.2 = []) (carvedStub, [])
      [.inject, .wake, .add, .lookup, .arm, .arm, .arm, .execute 32, .execute 31] :=
  interposed_before_execution rfl (by decide +kernel)

/-- The woken mother is scheduled before the handler goes on, and the other thread before its
segment is armed. -/
theorem woken_before_interposed :
    let es := [.inject, .wake, .execute 31, .add, .lookup, .arm, .execute 32, .arm, .arm]
    (awakening sharedImport).Runs (carvedStub, []) es ∧
      ((awakening sharedImport).after (carvedStub, []) es).2 = [32, 31] := by
  decide +kernel

end MattX.MigrationAwakening
