import MattX.DsmEffects
import MattX.DsmDirectoryRecords

set_option autoImplicit false

/-!
# Copies of a page and what the home node knows of them

A copy is a cell of a live mapping, or a reply with error 0 whose waiter has
not marked its cell yet.
-/
namespace MattX.DsmCopies
open GuestRegistry GuestRegistryFrames GuestHost DsmDirectory DsmDirectoryLaws DsmCluster DsmSteps
open DsmMoves DsmEffects DsmDirectoryRecords

/-- A guest has the page of `x` in state `st`. -/
def HasCell (r : Registry) (x : PageKey) (st : PageState) : Prop :=
  ∃ g ∈ r, g.homeNode = x.home ∧ g.origPid = x.origPid ∧
    ∃ m ∈ g.dsmMap, m.shmid = x.shmid ∧ m.pageStates x.page = st

def Cell (c : Cluster) (x : PageKey) (st : PageState) : Prop := HasCell (c.guests x.node) x st

/-- The fault will mark its cell SHARED. -/
def reads (t : Fault) : Bool :=
  match t.stage with
  | .replied (some _) => t.waiting
  | .placed .. | .filled _ | .injected => true
  | _ => false

/-- The write-protect fault will mark its cell EXCLUSIVE. -/
def writes (a : Acquire) : Bool :=
  match a.stage with
  | .granted _ | .replied => a.waiting
  | _ => false

def ReadGrant (c : Cluster) (x : PageKey) : Prop := ∃ t ∈ c.faults, t.key = x ∧ reads t = true

def WriteGrant (c : Cluster) (x : PageKey) : Prop := ∃ a ∈ c.acquires, a.key = x ∧ writes a = true

/-- `x` may write the page, or will be able to once its waiter wakes up. -/
def Writer (c : Cluster) (x : PageKey) : Prop := Cell c x .exclusive ∨ WriteGrant c x

def Granted (c : Cluster) (x : PageKey) : Prop := ReadGrant c x ∨ WriteGrant c x

def Copy (c : Cluster) (x : PageKey) : Prop := (∃ st ≠ .invalid, Cell c x st) ∨ Granted c x

/-- An INVALIDATE on its way that will take the copy of `x`. -/
def Invalidate.hits (v : Invalidate) (x : PageKey) : Prop :=
  v.node = x.node ∧ v.shmid = x.shmid ∧ v.page = x.page ∧ v.acquirer ≠ x.origPid

def DoomedBy (vs : List Invalidate) (x : PageKey) : Prop :=
  ∃ v ∈ vs, v.home = x.home ∧ Invalidate.hits v x

def Doomed (c : Cluster) (x : PageKey) : Prop := DoomedBy c.invalidates x

def Recorded (c : Cluster) (x : PageKey) : Prop :=
  Owned (c.dir x.home) x.shmid x.page x.origPid ∨ Reader (c.dir x.home) x.shmid x.page x.node

instance (r : Registry) (x : PageKey) (st : PageState) : Decidable (HasCell r x st) := by
  unfold HasCell
  infer_instance

instance (c : Cluster) (x : PageKey) (st : PageState) : Decidable (Cell c x st) :=
  inferInstanceAs (Decidable (HasCell ..))

instance (v : Invalidate) (x : PageKey) : Decidable (Invalidate.hits v x) := by
  unfold Invalidate.hits
  infer_instance

instance (vs : List Invalidate) (x : PageKey) : Decidable (DoomedBy vs x) := by
  unfold DoomedBy
  infer_instance

instance (c : Cluster) (x : PageKey) : Decidable (Doomed c x) :=
  inferInstanceAs (Decidable (DoomedBy ..))

instance (c : Cluster) (x : PageKey) : Decidable (Recorded c x) := by
  unfold Recorded
  infer_instance

/-- The cell both fault handlers find again by address belongs to `x`. -/
def CellKey (r : Registry) (tgid base : ℕ) (x : PageKey) : Prop :=
  ∃ i d, cellAt r tgid base = some (i, d) ∧ (r.slot i).homeNode = x.home ∧
    (r.slot i).origPid = x.origPid ∧ (mapping r i d).shmid = x.shmid

/-- The operation puts a cell of `x` into state `st`: by marking it, or by taking over a
`dsm_map` slot in which that state was left. -/
def Installs (r : Registry) : RegistryOp → PageKey → PageState → Prop
  | .markShared tgid base p, x, st => st = .shared ∧ p = x.page ∧ CellKey r tgid base x
  | .upgrade tgid base p, x, st => st = .exclusive ∧ p = x.page ∧ CellKey r tgid base x
  | .shmat tgid _ _ _, x, st => ∃ i ∈ guestOf r tgid,
      (r.slot i).dsmMap.count < maxDsmSegments ∧
      (mapping r i (r.slot i).dsmMap.count).pageStates x.page = st
  | .populate tgid vmas, x, st => ∃ i ∈ guestOf r tgid, ∃ d < min vmas.length maxDsmSegments,
      (mapping r i d).pageStates x.page = st
  | _, _, _ => False

/-- The cells of a registry that are not INVALID. -/
def cellKeys (r : Registry) (n : Node) : List PageKey :=
  (List.range r.count).flatMap fun i => (List.range (r.slot i).dsmMap.count).flatMap fun d =>
    ((List.finRange maxDsmPages).filter fun p => (mapping r i d).pageStates p != .invalid).map
      fun p => ⟨(r.slot i).homeNode, n, (r.slot i).origPid, (mapping r i d).shmid, p⟩

def grantKeys (c : Cluster) : List PageKey :=
  (c.faults.filter reads).map Fault.key ++ (c.acquires.filter writes).map Acquire.key

def copies (c : Cluster) : List PageKey :=
  ((List.finRange (64 * (maxNodes / 64))).flatMap fun n => cellKeys (c.guests n) n) ++ grantKeys c

theorem mem_cellKeys {r : Registry} {n : Node} {x : PageKey} :
    x ∈ cellKeys r n ↔ x.node = n ∧ ∃ st ≠ .invalid, HasCell r x st := by
  simp only [cellKeys, List.mem_flatMap, List.mem_range, List.mem_map, List.mem_filter,
    List.mem_finRange, true_and, bne_iff_ne]
  constructor
  · rintro ⟨i, hi, d, hd, p, active, rfl⟩
    exact ⟨rfl, _, active, _, SlotTable.slot_mem hi, rfl, rfl, _, SlotTable.slot_mem hd, rfl, rfl⟩
  · rintro ⟨rfl, st, active, _, ⟨i, hi, rfl⟩, home, pid, _, ⟨d, hd, rfl⟩, segment, rfl⟩
    exact ⟨i, hi, d, hd, x.page, active, PageKey.ext home rfl pid segment rfl⟩

theorem mem_grantKeys {c : Cluster} {x : PageKey} : x ∈ grantKeys c ↔ Granted c x := by
  simp only [grantKeys, List.mem_append, List.mem_map, List.mem_filter]
  unfold Granted ReadGrant WriteGrant
  constructor
  · rintro (⟨t, ⟨member, marks⟩, key⟩ | ⟨a, ⟨member, marks⟩, key⟩)
    · exact Or.inl ⟨t, member, key, marks⟩
    · exact Or.inr ⟨a, member, key, marks⟩
  · rintro (⟨t, member, key, marks⟩ | ⟨a, member, key, marks⟩)
    · exact Or.inl ⟨t, ⟨member, marks⟩, key⟩
    · exact Or.inr ⟨a, ⟨member, marks⟩, key⟩

theorem mem_copies {c : Cluster} {x : PageKey} : x ∈ copies c ↔ Copy c x := by
  rw [copies, List.mem_append, mem_grantKeys]
  refine or_congr_left ?_
  simp only [List.mem_flatMap, List.mem_finRange, true_and, mem_cellKeys]
  constructor
  · rintro ⟨n, rfl, cell⟩
    exact cell
  · intro cell
    exact ⟨x.node, rfl, cell⟩

instance (c : Cluster) (P : PageKey → Prop) [DecidablePred P] :
    Decidable (∀ x, Granted c x → P x) :=
  decidable_of_iff (∀ x ∈ grantKeys c, P x) (forall_congr' fun _ => by rw [mem_grantKeys])

instance (c : Cluster) (P : PageKey → Prop) [DecidablePred P] : Decidable (∀ x, Copy c x → P x) :=
  decidable_of_iff (∀ x ∈ copies c, P x) (forall_congr' fun _ => by rw [mem_copies])

instance (c : Cluster) (x : PageKey) : Decidable (WriteGrant c x) := by
  unfold WriteGrant
  infer_instance

instance (c : Cluster) (x : PageKey) : Decidable (Writer c x) := by
  unfold Writer
  infer_instance

instance (c : Cluster) (P : PageKey → Prop) [DecidablePred P] :
    Decidable (∀ x, Writer c x → P x) :=
  decidable_of_iff (∀ x, Copy c x → Writer c x → P x) (forall_congr' fun _ =>
    ⟨fun h writer => h (writer.imp (fun cell => ⟨.exclusive, by decide, cell⟩) Or.inr) writer,
      fun h _ => h⟩)

theorem hasCell_modify {r : Registry} {i : ℕ} {f : GuestInfo → GuestInfo} {x : PageKey}
    {st : PageState} (h : HasCell (r.modify i f) x st) :
    HasCell r x st ∨ i < r.count ∧ (f (r.slot i)).homeNode = x.home ∧
      (f (r.slot i)).origPid = x.origPid ∧
      ∃ m ∈ (f (r.slot i)).dsmMap, m.shmid = x.shmid ∧ m.pageStates x.page = st := by
  obtain ⟨g, member, home, pid, rest⟩ := h
  rcases SlotTable.mem_modify member with old | ⟨hi, rfl⟩
  · exact Or.inl ⟨g, old, home, pid, rest⟩
  · exact Or.inr ⟨hi, home, pid, rest⟩

theorem hasCell_modifyCell {r : Registry} {tgid base : ℕ} {f : DsmMapping → DsmMapping}
    {x : PageKey} {st : PageState} (shmid : ∀ m, (f m).shmid = m.shmid)
    (h : HasCell (modifyCell r tgid base f) x st) : HasCell r x st ∨ CellKey r tgid base x ∧
      ∃ i d, cellAt r tgid base = some (i, d) ∧ (f (mapping r i d)).pageStates x.page = st := by
  unfold modifyCell at h
  cases found : cellAt r tgid base with
  | none =>
    rw [found] at h
    exact Or.inl h
  | some c =>
    obtain ⟨i, d⟩ := c
    rw [found] at h
    rcases hasCell_modify h with old | ⟨hi, home, pid, m, member, segment, state⟩
    · exact Or.inl old
    · rcases SlotTable.mem_modify member with same | ⟨hd, rfl⟩
      · exact Or.inl ⟨r.slot i, SlotTable.slot_mem hi, home, pid, m, same, segment, state⟩
      · exact Or.inr ⟨⟨i, d, found, home, pid, (shmid _).symm.trans segment⟩, i, d, rfl, state⟩

theorem hasCell_of_key {r : Registry} {tgid base i d : ℕ} {x : PageKey} {st : PageState}
    (key : CellKey r tgid base x) (found : cellAt r tgid base = some (i, d))
    (state : (mapping r i d).pageStates x.page = st) : HasCell r x st := by
  obtain ⟨hi, hd, -, -⟩ := cellAt_some found
  obtain ⟨j, e, same, home, pid, segment⟩ := key
  rw [found] at same
  obtain ⟨rfl, rfl⟩ := Prod.mk.inj (Option.some.inj same)
  exact ⟨r.slot i, SlotTable.slot_mem hi, home, pid, mapping r i d, SlotTable.slot_mem hd,
    segment, state⟩

/-- A cell keeps its state, or its state is the one written, when one page's state is. -/
theorem hasCell_setState {r : Registry} {tgid base : ℕ} {p : PageIdx} {st' : PageState}
    {x : PageKey} {st : PageState}
    (h : HasCell (modifyCell r tgid base fun m => m.setState p st') x st) :
    HasCell r x st ∨ st = st' ∧ p = x.page ∧ CellKey r tgid base x := by
  rcases hasCell_modifyCell (by intro m; rfl) h with old | ⟨key, i, d, found, state⟩
  · exact Or.inl old
  · rw [DsmMapping.setState_apply] at state
    split_ifs at state with here
    · exact Or.inr ⟨state.symm, here.symm, key⟩
    · exact Or.inl (hasCell_of_key key found state)

theorem hasCell_keep {r : Registry} {i : ℕ} {f : GuestInfo → GuestInfo} {x : PageKey}
    {st : PageState} (home : ∀ g, (f g).homeNode = g.homeNode)
    (pid : ∀ g, (f g).origPid = g.origPid)
    (maps : ∀ m ∈ (f (r.slot i)).dsmMap, ∃ m' ∈ (r.slot i).dsmMap, m'.shmid = m.shmid ∧
      m'.pageStates = m.pageStates) (h : HasCell (r.modify i f) x st) : HasCell r x st := by
  rcases hasCell_modify h with old | ⟨hi, hh, hp, m, member, segment, state⟩
  · exact old
  · obtain ⟨m', member', segment', state'⟩ := maps m member
    exact ⟨r.slot i, SlotTable.slot_mem hi, (home _).symm.trans hh, (pid _).symm.trans hp, m',
      member', segment'.trans segment, by rw [state']; exact state⟩

theorem hasCell_swapRemove {r : Registry} {i : ℕ} {x : PageKey} {st : PageState}
    (h : HasCell (r.swapRemove i) x st) : HasCell r x st := by
  obtain ⟨g, member, rest⟩ := h
  exact ⟨g, SlotTable.mem_swapRemove member, rest⟩

theorem mem_mapLive_freePages {t : SlotTable DsmMapping} {m : DsmMapping}
    (h : m ∈ t.mapLive .freePages) : ∃ m' ∈ t, m'.shmid = m.shmid ∧
      m'.pageStates = m.pageStates := by
  obtain ⟨m', member, rfl⟩ := SlotTable.mem_mapLive.mp h
  exact ⟨m', member, rfl, rfl⟩

theorem hasCell_invalidate {r : Registry} {shmid : ℕ} {p : PageIdx} {acquirer : ℕ} {x : PageKey}
    {st : PageState} (active : st ≠ .invalid) (h : HasCell (invalidate r shmid p acquirer) x st) :
    HasCell r x st ∧ ¬ (shmid = x.shmid ∧ p = x.page ∧ acquirer ≠ x.origPid) := by
  obtain ⟨_, after, home, pid, m, inside, segment, state⟩ := h
  obtain ⟨g, member, rfl⟩ := SlotTable.mem_mapLive.mp after
  split_ifs at home pid inside with skipped
  · refine ⟨⟨g, member, home, pid, m, inside, segment, state⟩, ?_⟩
    rintro ⟨-, -, other⟩
    exact other (skipped.symm.trans pid)
  · obtain ⟨m', old, rfl⟩ := SlotTable.mem_mapLive.mp inside
    split_ifs at segment state with same
    · rw [DsmMapping.setState_apply] at state
      split_ifs at state with here
      · exact absurd state.symm active
      · refine ⟨⟨g, member, home, pid, m', old, segment, state⟩, ?_⟩
        rintro ⟨-, page, -⟩
        exact here page.symm
    · refine ⟨⟨g, member, home, pid, m', old, segment, state⟩, ?_⟩
      rintro ⟨rfl, -, -⟩
      exact same segment

theorem hasCell_flush {r : Registry} {origPid shmid : ℕ} {p : PageIdx} {x : PageKey}
    {st : PageState} (active : st ≠ .invalid) (h : HasCell (flush r origPid shmid p) x st) :
    HasCell r x st := by
  unfold flush at h
  split at h
  · rename_i i d f copied
    rcases hasCell_modify h with old | ⟨hi, home, pid, m, member, segment, state⟩
    · exact old
    · rcases SlotTable.mem_modify member with same | ⟨hd, rfl⟩
      · exact ⟨r.slot i, SlotTable.slot_mem hi, home, pid, m, same, segment, state⟩
      · rw [DsmMapping.setState_apply] at state
        split_ifs at state with here
        · exact absurd state.symm active
        · exact ⟨r.slot i, SlotTable.slot_mem hi, home, pid, _, SlotTable.slot_mem hd, segment,
            state⟩
  · exact h

/-- The active cells after an operation are those of before and the ones it installs. -/
theorem hasCell_apply {s : PagePool} {op : RegistryOp} {x : PageKey} {st : PageState}
    (active : st ≠ .invalid) (h : HasCell (op.apply s).guests x st) :
    HasCell s.guests x st ∨ Installs s.guests op x st := by
  cases op with
  | addGuest localPid origPid homeNode =>
    change HasCell (addGuest s.guests localPid origPid homeNode) x st at h
    unfold addGuest at h
    split_ifs at h
    · obtain ⟨g, member, home, pid, m, inside, rest⟩ := h
      rcases SlotTable.mem_push.mp member with old | rfl
      · exact Or.inl ⟨g, old, home, pid, m, inside, rest⟩
      · obtain ⟨d, hd, -⟩ := inside
        exact absurd hd (Nat.not_lt_zero d)
    · exact Or.inl h
  | removeGuest i =>
    change HasCell (removeGuest s.guests i) x st at h
    unfold removeGuest at h
    split_ifs at h
    · exact Or.inl (hasCell_keep (by intro g; rfl) (by intro g; rfl)
        (fun _ => mem_mapLive_freePages) (hasCell_swapRemove h))
    · exact Or.inl h
  | populate tgid vmas =>
    change HasCell (populate s.guests tgid vmas) x st at h
    unfold populate at h
    split at h
    · rename_i i guest
      rcases hasCell_modify h with old | ⟨hi, home, pid, m, ⟨d, hd, rfl⟩, segment, state⟩
      · exact Or.inl old
      · let bare : GuestInfo :=
          { s.guests.slot i with dsmMap := { (s.guests.slot i).dsmMap with count := 0 } }
        have bound := registerAll_count bare vmas
        have kept := (registerAll_slot bare vmas d).2
        refine Or.inr ⟨i, guest, d, lt_of_lt_of_le hd (bound.trans ?_), ?_⟩
        · simp only [bare]
          omega
        · exact (congrFun kept x.page).symm.trans state
    · exact Or.inl h
  | shmat tgid base size shmid =>
    change HasCell (shmat s.guests tgid base size shmid) x st at h
    unfold shmat at h
    split at h
    · rename_i i guest
      rcases hasCell_modify h with old | ⟨hi, home, pid, m, member, segment, state⟩
      · exact Or.inl old
      · unfold GuestInfo.register at home pid member
        split_ifs at home pid member with room
        · rcases SlotTable.mem_push.mp member with old | rfl
          · exact Or.inl ⟨s.guests.slot i, SlotTable.slot_mem hi, home, pid, m, old, segment,
              state⟩
          · exact Or.inr ⟨i, guest, room, state⟩
        · exact Or.inl ⟨s.guests.slot i, SlotTable.slot_mem hi, home, pid, m, member, segment,
            state⟩
    · exact Or.inl h
  | shmdt tgid base =>
    change HasCell (shmdt s.guests tgid base) x st at h
    unfold shmdt at h
    split at h
    · rename_i i d _
      refine Or.inl (hasCell_keep (by intro g; rfl) (by intro g; rfl) (fun m member => ?_) h)
      rcases SlotTable.mem_modify (SlotTable.mem_swapRemove member) with old | ⟨hd, rfl⟩
      · exact ⟨m, old, rfl, rfl⟩
      · exact ⟨_, SlotTable.slot_mem hd, rfl, rfl⟩
    · exact Or.inl h
  | backPage tgid base p fresh =>
    have same : ∀ m : DsmMapping, (m.backPage p fresh).shmid = m.shmid ∧
        (m.backPage p fresh).pageStates = m.pageStates := by
      intro m
      unfold DsmMapping.backPage
      split <;> exact ⟨rfl, rfl⟩
    rcases hasCell_modifyCell (fun m => (same m).1) h with old | ⟨key, i, d, found, state⟩
    · exact Or.inl old
    · rw [(same _).2] at state
      exact Or.inl (hasCell_of_key key found state)
  | markShared tgid base p => exact hasCell_setState h
  | upgrade tgid base p => exact hasCell_setState h
  | markPresent tgid base p =>
    rcases hasCell_modifyCell (by intro m; rfl) h with old | ⟨key, i, d, found, state⟩
    · exact Or.inl old
    · exact Or.inl (hasCell_of_key key found state)
  | clearPresent i =>
    refine Or.inl (hasCell_keep (by intro g; rfl) (by intro g; rfl) (fun m member => ?_) h)
    obtain ⟨m', old, rfl⟩ := SlotTable.mem_mapLive.mp member
    exact ⟨m', old, rfl, rfl⟩
  | setMigrating tgid b =>
    change HasCell (setMigrating s.guests tgid b) x st at h
    unfold setMigrating at h
    split at h
    · exact Or.inl (hasCell_keep (by intro g; rfl) (by intro g; rfl)
        (fun m member => ⟨m, member, rfl, rfl⟩) h)
    · exact Or.inl h
  | invalidate shmid p acquirer => exact Or.inl (hasCell_invalidate active h).1
  | flush origPid shmid p => exact Or.inl (hasCell_flush active h)

theorem cell_step {c c' : Cluster} {e : Event} (move : Move c e c') {x : PageKey} {st : PageState}
    (active : st ≠ .invalid) (h : Cell c' x st) :
    Cell c x st ∨ ∃ op, poolOp c e = some (x.node, op) ∧ Installs (c.guests x.node) op x st := by
  have pool := pool_step move x.node
  unfold Cell Cluster.guests Host.guests at h ⊢
  rw [pool] at h
  unfold poolAfter at h
  split at h
  · rename_i n op does
    split_ifs at h with here
    · subst here
      rcases hasCell_apply active h with old | installs
      · exact Or.inl old
      · exact Or.inr ⟨op, does, installs⟩
    · exact Or.inl h
  · exact Or.inl h

/-- The step puts a cell of `x` into state `st`. -/
inductive Marks (c : Cluster) : Event → PageKey → PageState → Prop where
  | shared {k : ℕ} {t : Fault} {x : PageKey} (found : c.faults[k]? = some t)
      (stage : t.stage = .injected) (node : x.node = t.key.node) (page : x.page = t.key.page)
      (key : CellKey (c.guests x.node) t.tgid t.base x) : Marks c (.fault k .mark) x .shared
  | exclusive {k : ℕ} {a : Acquire} {x : PageKey} (found : c.acquires[k]? = some a)
      (stage : a.stage = .replied) (waiting : a.waiting = true) (node : x.node = a.key.node)
      (page : x.page = a.key.page) (key : CellKey (c.guests x.node) a.tgid a.base x) :
    Marks c (.acquire k .upgrade) x .exclusive
  | attached {n : Node} {tgid base size shmid i : ℕ} {x : PageKey} {st : PageState}
      (node : x.node = n) (guest : guestOf (c.guests n) tgid = some i)
      (room : ((c.guests n).slot i).dsmMap.count < maxDsmSegments)
      (left : (mapping (c.guests n) i ((c.guests n).slot i).dsmMap.count).pageStates x.page = st) :
    Marks c (.shmat n tgid base size shmid) x st
  | imported {n : Node} {tgid i d : ℕ} {vmas : List (ℕ × ℕ × ℕ)} {x : PageKey} {st : PageState}
      (node : x.node = n) (guest : guestOf (c.guests n) tgid = some i)
      (taken : d < min vmas.length maxDsmSegments)
      (left : (mapping (c.guests n) i d).pageStates x.page = st) :
    Marks c (.populate n tgid vmas) x st

theorem marks_of_installs {c : Cluster} {e : Event} {op : RegistryOp} {x : PageKey}
    {st : PageState} (does : poolOp c e = some (x.node, op))
    (installs : Installs (c.guests x.node) op x st) : Marks c e x st := by
  cases e with
  | fault k s =>
    obtain ⟨t, found, does⟩ := Option.bind_eq_some_iff.mp does
    unfold faultOp at does
    split at does
    · obtain ⟨-, rfl⟩ := Prod.mk.inj (Option.some.inj does)
      exact installs.elim
    · split_ifs at does
      obtain ⟨-, rfl⟩ := Prod.mk.inj (Option.some.inj does)
      exact installs.elim
    · rename_i stage _
      obtain ⟨node, rfl⟩ := Prod.mk.inj (Option.some.inj does)
      obtain ⟨rfl, page, key⟩ := installs
      exact .shared found stage node.symm page.symm key
    · obtain ⟨-, rfl⟩ := Prod.mk.inj (Option.some.inj does)
      exact installs.elim
    · exact nomatch does
  | acquire k s =>
    obtain ⟨a, found, does⟩ := Option.bind_eq_some_iff.mp does
    unfold acquireOp at does
    split at does
    · split_ifs at does with here
      obtain ⟨node, rfl⟩ := Prod.mk.inj (Option.some.inj does)
      obtain ⟨rfl, page, key⟩ := installs
      exact .exclusive found here.1 here.2 node.symm page.symm key
    · exact nomatch does
  | sync k s =>
    obtain ⟨y, -, does⟩ := Option.bind_eq_some_iff.mp does
    unfold syncOp at does
    split at does
    · obtain ⟨-, rfl⟩ := Prod.mk.inj (Option.some.inj does)
      exact installs.elim
    · exact nomatch does
  | invalidate k =>
    obtain ⟨v, -, does⟩ := Option.map_eq_some_iff.mp does
    obtain ⟨-, rfl⟩ := Prod.mk.inj does
    exact installs.elim
  | killSurrogate n h origPid =>
    obtain ⟨i, -, does⟩ := Option.map_eq_some_iff.mp does
    obtain ⟨-, rfl⟩ := Prod.mk.inj does
    exact installs.elim
  | shmat n tgid base size shmid =>
    obtain ⟨node, rfl⟩ := Prod.mk.inj (Option.some.inj does)
    obtain ⟨i, guest, room, left⟩ := installs
    rw [← node] at guest room left
    exact .attached node.symm guest room left
  | populate n tgid vmas =>
    obtain ⟨node, rfl⟩ := Prod.mk.inj (Option.some.inj does)
    obtain ⟨i, guest, d, taken, left⟩ := installs
    rw [← node] at guest left
    exact .imported node.symm guest taken left
  | sweepSnapshot | importGuest | setMigrating | shmdt | reap =>
    obtain ⟨-, rfl⟩ := Prod.mk.inj (Option.some.inj does)
    exact installs.elim
  | _ => exact nomatch does

/-- Where a cell that is not INVALID comes from. -/
theorem cell_origin {c c' : Cluster} {e : Event} (move : Move c e c') {x : PageKey}
    {st : PageState} (active : st ≠ .invalid) (h : Cell c' x st) : Cell c x st ∨ Marks c e x st := by
  rcases cell_step move active h with old | ⟨op, does, installs⟩
  · exact Or.inl old
  · exact Or.inr (marks_of_installs does installs)

/-- What the invalidation took is gone. -/
theorem cell_invalidate {c c' : Cluster} {k : ℕ} {v : Invalidate}
    (move : Move c (.invalidate k) c') (found : c.invalidates[k]? = some v) {x : PageKey}
    {st : PageState} (active : st ≠ .invalid) (h : Cell c' x st) : ¬ Invalidate.hits v x := by
  rintro ⟨here, segment, page, other⟩
  have pool := pool_step move x.node
  simp only [poolOp, found, Option.map_some, poolAfter, if_pos here.symm] at pool
  unfold Cell Cluster.guests Host.guests at h
  rw [pool] at h
  exact (hasCell_invalidate active h).2 ⟨segment, page, other⟩

/-- The step makes the directory forget what it had on the page of `x`. -/
inductive Forgets (c : Cluster) : Event → PageKey → Prop where
  | downgraded {k : ℕ} {t : Fault} {x : PageKey} (found : c.faults[k]? = some t)
      (home : x.home = t.key.home) (segment : x.shmid = t.key.shmid) (page : x.page = t.key.page) :
    Forgets c (.fault k .downgrade) x
  | granted {k : ℕ} {a : Acquire} {x : PageKey} (found : c.acquires[k]? = some a)
      (stage : a.stage = .requested) (home : x.home = a.key.home)
      (segment : x.shmid = a.key.shmid) (page : x.page = a.key.page) :
    Forgets c (.acquire k .grant) x
  | cleaned {k : ℕ} {u : Update} {x : PageKey} (found : c.updates[k]? = some u)
      (home : x.home = u.key.home) (segment : x.shmid = u.key.shmid) (page : x.page = u.key.page)
      (owned : Owned (c.dir u.key.home) u.key.shmid u.key.page u.key.origPid) :
    Forgets c (.update k .cleanup) x
  | lowered {k : ℕ} {y : Sync} {d : Slot} {x : PageKey} (found : c.syncs[k]? = some y)
      (idx : y.dirIdx = some d) (home : x.home = y.home)
      (listed : findEntry (c.dir y.home) x.shmid = some d) (page : x.page = y.page) :
    Forgets c (.sync k .downgrade) x
  | claimed {k : ℕ} {y : Sync} {d : Slot} {x : PageKey} (found : c.syncs[k]? = some y)
      (stage : y.stage = .claiming) (write : y.isWrite = true) (idx : y.dirIdx = some d)
      (home : x.home = y.home) (listed : findEntry (c.dir y.home) x.shmid = some d)
      (page : x.page = y.page) : Forgets c (.sync k .claim) x
  | removed {h : Node} {shmid : ℕ} {x : PageKey} (home : x.home = h) (segment : x.shmid = shmid) :
    Forgets c (.removeSegment h shmid) x

theorem forgets_of_resets {c : Cluster} {e : Event} {op : DirOp} {x : PageKey}
    (does : dirOp c e = some (x.home, op)) (resets : Resets (c.dir x.home) op x.shmid x.page) :
    Forgets c e x := by
  unfold dirOp at does
  split at does
  · obtain ⟨t, found, does⟩ := Option.bind_eq_some_iff.mp does
    unfold faultDirOp at does
    split at does
    · obtain ⟨home, rfl⟩ := Prod.mk.inj (Option.some.inj does)
      exact .downgraded found home.symm resets.1.symm resets.2.symm
    · split_ifs at does
      obtain ⟨-, rfl⟩ := Prod.mk.inj (Option.some.inj does)
      exact resets.elim
    · exact nomatch does
  · obtain ⟨a, found, does⟩ := Option.bind_eq_some_iff.mp does
    split_ifs at does with stage
    obtain ⟨home, rfl⟩ := Prod.mk.inj (Option.some.inj does)
    exact .granted found stage home.symm resets.1.symm resets.2.symm
  · obtain ⟨u, found, does⟩ := Option.bind_eq_some_iff.mp does
    split_ifs at does
    obtain ⟨home, rfl⟩ := Prod.mk.inj (Option.some.inj does)
    obtain ⟨segment, page, owned⟩ := resets
    rw [← home, ← segment, ← page] at owned
    exact .cleaned found home.symm segment.symm page.symm owned
  · obtain ⟨y, found, does⟩ := Option.bind_eq_some_iff.mp does
    unfold syncDirOp at does
    split at does
    · rename_i idx _
      obtain ⟨home, rfl⟩ := Prod.mk.inj (Option.some.inj does)
      exact .lowered found idx home.symm (home ▸ resets.1) resets.2.symm
    · rename_i stage idx _
      split_ifs at does with write
      obtain ⟨home, rfl⟩ := Prod.mk.inj (Option.some.inj does)
      exact .claimed found stage write idx home.symm (home ▸ resets.1) resets.2.symm
    · exact nomatch does
  · obtain ⟨home, rfl⟩ := Prod.mk.inj (Option.some.inj does)
    exact .removed home.symm resets.symm
  · exact nomatch does

/-- What the directory has on a page, it keeps until a step makes it forget. -/
theorem dir_kept {c c' : Cluster} {e : Event} (move : Move c e c') {x : PageKey}
    (P : GlobalDir → Prop) (h : P (c.dir x.home))
    (kept : ∀ op, ¬ Resets (c.dir x.home) op x.shmid x.page → P (op.apply (c.dir x.home))) :
    P (c'.dir x.home) ∨ Forgets c e x := by
  rw [dir_step move x.home]
  unfold dirAfter
  split
  · rename_i h' op does
    split_ifs with here
    · subst here
      by_cases resets : Resets (c.dir x.home) op x.shmid x.page
      · exact Or.inr (forgets_of_resets does resets)
      · exact Or.inl (kept op resets)
    · exact Or.inl h
  · exact Or.inl h

theorem owned_step {c c' : Cluster} {e : Event} (move : Move c e c') {x : PageKey} {pid : ℕ}
    (h : Owned (c.dir x.home) x.shmid x.page pid) :
    Owned (c'.dir x.home) x.shmid x.page pid ∨ Forgets c e x :=
  dir_kept move (Owned · x.shmid x.page pid) h fun _ no => h.kept no

theorem recorded_step {c c' : Cluster} {e : Event} (move : Move c e c') {x : PageKey}
    (h : Recorded c x) : Recorded c' x ∨ Forgets c e x :=
  dir_kept move (fun dir => Owned dir x.shmid x.page x.origPid ∨ Reader dir x.shmid x.page x.node) h
    fun _ no => h.imp (·.kept no) (·.kept no)

/-- A granted page belongs to the process that asked for it. -/
theorem granted_owned {c c' : Cluster} {k : ℕ} (move : Move c (.acquire k .grant) c')
    {a : Acquire} (found : c.acquires[k]? = some a) (stage : a.stage = .requested)
    (listed : findEntry (c.dir a.key.home) a.key.shmid ≠ none) :
    Owned (c'.dir a.key.home) a.key.shmid a.key.page a.key.origPid := by
  obtain ⟨d, listed⟩ := Option.ne_none_iff_exists'.mp listed
  rw [dir_step move]
  simp only [dirOp, found, Option.bind_some, stage, if_true, dirAfter, DirOp.apply, writeAcquire,
    listed]
  exact owned_setPage listed _ _ _

/-- The home node hands out a read copy of `x`. -/
def Serves (c : Cluster) (e : Event) (x : PageKey) : Prop :=
  ∃ k t data, e = .fault k .record ∧ c.faults[k]? = some t ∧ t.stage = .pumped data ∧ t.key = x

/-- A fault of `x` goes on with what its interrupted wait left in the buffer. -/
def Resumes (c : Cluster) (e : Event) (x : PageKey) : Prop :=
  ∃ k t data, e = .fault k (.interrupt (some data)) ∧ c.faults[k]? = some t ∧ t.key = x

/-- The home node replies to a write acquire of `x`. -/
def Grants (c : Cluster) (e : Event) (x : PageKey) : Prop :=
  ∃ k a, e = .acquire k .grant ∧ c.acquires[k]? = some a ∧ a.stage = .requested ∧ a.key = x

/-- The step sends `v`. -/
inductive Sends (c : Cluster) : Event → Invalidate → Prop where
  | granted {k : ℕ} {a : Acquire} {d : Slot} {n : Node} (found : c.acquires[k]? = some a)
      (stage : a.stage = .requested) (listed : findEntry (c.dir a.key.home) a.key.shmid = some d)
      (bit : ((c.dir a.key.home d).pageSharedMask a.key.page).test n = true)
      (linked : c.link a.key.home n = true) :
    Sends c (.acquire k .grant) ⟨a.key.home, n, a.key.shmid, a.key.page, a.key.origPid⟩
  | claimed {k : ℕ} {y : Sync} {d : Slot} {n : Node} (found : c.syncs[k]? = some y)
      (stage : y.stage = .claiming) (write : y.isWrite = true) (idx : y.dirIdx = some d)
      (bit : ((c.dir y.home d).pageSharedMask y.page).test n = true)
      (linked : c.link y.home n = true) : Sends c (.sync k .claim) ⟨y.home, n, y.shmid, y.page, 0⟩

theorem mem_sendInvalidates {c : Cluster} {h : Node} {mask : NodeMask} {shmid : ℕ} {p : PageIdx}
    {acquirer : ℕ} {v : Invalidate} :
    v ∈ (c.sendInvalidates h mask shmid p acquirer).invalidates ↔ v ∈ c.invalidates ∨
      ∃ n, mask.test n = true ∧ c.link h n = true ∧ ⟨h, n, shmid, p, acquirer⟩ = v := by
  simp [Cluster.sendInvalidates, Cluster.targets, and_assoc]

theorem invalidates_step {c c' : Cluster} {e : Event} (move : Move c e c') {v : Invalidate}
    (h : v ∈ c'.invalidates) : v ∈ c.invalidates ∨ Sends c e v := by
  cases move with
  | acquire found move =>
    cases move with
    | granted stage listed =>
      rcases mem_sendInvalidates.mp h with old | ⟨n, bit, linked, rfl⟩
      · exact Or.inl old
      · exact Or.inr (.granted found stage listed bit linked)
    | unlisted | shot | unshot | upgraded | abandoned | writable | retried | interrupted =>
      exact Or.inl h
  | sync found move =>
    cases move with
    | claimed stage write idx =>
      rcases mem_sendInvalidates.mp h with old | ⟨n, bit, linked, rfl⟩
      · exact Or.inl old
      · exact Or.inr (.claimed found stage write idx bit linked)
    | looked | sent | skipped | copied | missed | zapped | stored | unstored | downgraded
    | unlisted | woken => exact Or.inl h
  | fault found move => cases move <;> exact Or.inl h
  | update found move => cases move <;> exact Or.inl h
  | invalidate | invalidateLost => exact Or.inl (List.mem_of_mem_eraseIdx h)
  | killSurrogate | sweepSnapshot | importGuest | populate | setMigrating | shmat
  | shmdt | reap | sweepZap | guestExit | guestStore | faultStart | acquireStart
  | hookCaught | hookPassed | nativeInstall | nativeStore | sweepCollect | sweepShot
  | sweepSkipped | sweepSend | exportAdd | exportRemove | setTask | processExit | removeSegment
  | evict | setLink => exact Or.inl h

/-- An INVALIDATE stays on its way until it is applied or lost, and what is sent is sent. -/
theorem invalidates_kept {c c' : Cluster} {e : Event} (move : Move c e c') {v : Invalidate}
    (h : v ∈ c.invalidates ∨ Sends c e v) : v ∈ c'.invalidates ∨
      ∃ k, (e = .invalidate k ∨ e = .invalidateLost k) ∧
        c'.invalidates = c.invalidates.eraseIdx k := by
  cases move with
  | acquire found move =>
    cases move with
    | granted stage listed =>
      refine Or.inl (mem_sendInvalidates.mpr (h.imp_right ?_))
      rintro (⟨same, -, listed', bit, linked⟩ | _)
      cases Option.some.inj (found.symm.trans same)
      cases Option.some.inj (listed.symm.trans listed')
      exact ⟨_, bit, linked, rfl⟩
    | unlisted stage missing =>
      rcases h with h | ⟨same, -, listed, -, -⟩
      · exact Or.inl h
      · cases Option.some.inj (found.symm.trans same)
        exact nomatch missing.symm.trans listed
    | shot | unshot | upgraded | abandoned | writable | retried | interrupted =>
      exact Or.inl (h.resolve_right (by rintro ⟨⟩))
  | sync found move =>
    cases move with
    | claimed stage write idx =>
      refine Or.inl (mem_sendInvalidates.mpr (h.imp_right ?_))
      rintro (_ | ⟨same, -, -, idx', bit, linked⟩)
      cases Option.some.inj (found.symm.trans same)
      cases Option.some.inj (idx.symm.trans idx')
      exact ⟨_, bit, linked, rfl⟩
    | woken stage read =>
      rcases h with h | _ | ⟨same, -, write, idx, -, -⟩
      · exact Or.inl h
      · cases Option.some.inj (found.symm.trans same)
        rcases read with read | none
        · exact absurd (write.symm.trans read) (by decide)
        · exact nomatch none.symm.trans idx
    | looked | sent | skipped | copied | missed | zapped | stored | unstored | downgraded
    | unlisted => exact Or.inl (h.resolve_right (by rintro ⟨⟩))
  | invalidate => exact Or.inr ⟨_, Or.inl rfl, rfl⟩
  | invalidateLost => exact Or.inr ⟨_, Or.inr rfl, rfl⟩
  | fault found move => cases move <;> exact Or.inl (h.resolve_right (by rintro ⟨⟩))
  | update found move => cases move <;> exact Or.inl (h.resolve_right (by rintro ⟨⟩))
  | killSurrogate | sweepSnapshot | importGuest | populate | setMigrating | shmat
  | shmdt | reap | sweepZap | guestExit | guestStore | faultStart | acquireStart
  | hookCaught | hookPassed | nativeInstall | nativeStore | sweepCollect | sweepShot
  | sweepSkipped | sweepSend | exportAdd | exportRemove | setTask | processExit | removeSegment
  | evict | setLink => exact Or.inl (h.resolve_right (by rintro ⟨⟩))

theorem mem_eraseIdx_or {α : Type*} {l : List α} {v : α} (h : v ∈ l) (k : ℕ) :
    v ∈ l.eraseIdx k ∨ l[k]? = some v := by
  obtain ⟨i, found⟩ := List.mem_iff_getElem?.mp h
  by_cases same : i = k
  · exact Or.inr (same ▸ found)
  · exact Or.inl (List.mem_eraseIdx_iff_getElem?.mpr ⟨i, same, found⟩)

theorem mem_set_or {α : Type*} {l : List α} {v : α} (h : v ∈ l) (k : ℕ) (w : α) :
    v ∈ l.set k w ∨ l[k]? = some v := by
  obtain ⟨i, found⟩ := List.mem_iff_getElem?.mp h
  by_cases same : k = i
  · exact Or.inr (same ▸ found)
  · exact Or.inl (List.mem_of_getElem? ((List.getElem?_set_ne same).trans found))

/-- Only the application or the loss of the last INVALIDATE that takes `x` lifts its doom. -/
theorem doomed_step {c c' : Cluster} {e : Event} (move : Move c e c') {x : PageKey}
    (h : Doomed c x) : Doomed c' x ∨ ∃ k v, (e = .invalidate k ∨ e = .invalidateLost k) ∧
      c.invalidates[k]? = some v ∧ v.home = x.home ∧ Invalidate.hits v x ∧
      c'.invalidates = c.invalidates.eraseIdx k := by
  obtain ⟨v, member, takes⟩ := h
  rcases invalidates_kept move (Or.inl member) with kept | ⟨k, event, erased⟩
  · exact Or.inl ⟨v, kept, takes⟩
  · rcases mem_eraseIdx_or member k with rest | found
    · exact Or.inl ⟨v, erased ▸ rest, takes⟩
    · exact Or.inr ⟨k, v, event, found, takes.1, takes.2, erased⟩

theorem mode_step {c c' : Cluster} {e : Event} (move : Move c e c') : c'.mode = c.mode := by
  cases move with
  | fault found move => cases move <;> rfl
  | acquire found move => cases move <;> rfl
  | update found move => cases move <;> rfl
  | sync found move => cases move <;> rfl
  | _ => rfl

theorem fault_reads {c c' : Cluster} {k : ℕ} {t t' : Fault} {s : FaultStep}
    (move : FaultMove c k t s c') (member : t' ∈ c'.faults) (marks : reads t' = true) :
    t' ∈ c.faults ∨ t'.key = t.key ∧ (reads t = true ∨
      (∃ data, s = .record ∧ t.stage = .pumped data) ∨ ∃ data, s = .interrupt (some data)) := by
  have moved : ∀ {st : FaultStage}, t' ∈ c.faults.set k { t with stage := st } →
      t' ∈ c.faults ∨ t'.key = t.key ∧ reads { t with stage := st } = true := by
    intro st member
    rcases List.mem_or_eq_of_mem_set member with old | rfl
    · exact Or.inl old
    · exact Or.inr ⟨rfl, marks⟩
  have idled : t' ∈ c.faults.set k { t with waiting := false } →
      t' ∈ c.faults ∨ t'.key = t.key ∧ reads t = true := by
    intro member
    rcases List.mem_or_eq_of_mem_set member with old | rfl
    · exact Or.inl old
    · refine Or.inr ⟨rfl, ?_⟩
      revert marks
      unfold reads
      cases t.stage with
      | replied reply => cases reply <;> exact (nomatch ·)
      | _ => exact id
  cases move with
  | hunted | absent | looked | lazy | sent | skipped | copied | missed | zapped | stored
  | unstored | downgraded | pumped | failed | marked =>
    rcases moved member with old | ⟨-, no⟩
    · exact Or.inl old
    · exact nomatch no
  | recorded stage | unrecorded stage =>
    rcases moved member with old | ⟨key, -⟩
    · exact Or.inl old
    · exact Or.inr ⟨key, Or.inr (Or.inl ⟨_, rfl, stage⟩)⟩
  | placed stage waiting | filled stage =>
    rcases moved member with old | ⟨key, -⟩
    · exact Or.inl old
    · exact Or.inr ⟨key, Or.inl (by simp [reads, *])⟩
  | injected stage | raced stage =>
    rcases moved member with old | ⟨key, -⟩
    · exact Or.inl old
    · exact Or.inr ⟨key, Or.inl (by rw [reads, stage])⟩
  | dropped | presented => exact Or.inl (List.mem_of_mem_eraseIdx member)
  | aborted =>
    rcases idled member with old | ⟨key, marks⟩
    · exact Or.inl old
    · exact Or.inr ⟨key, Or.inl marks⟩
  | resumed =>
    rcases List.mem_append.mp member with member | fresh
    · rcases idled member with old | ⟨key, marks⟩
      · exact Or.inl old
      · exact Or.inr ⟨key, Or.inl marks⟩
    · rw [List.mem_singleton.mp fresh]
      exact Or.inr ⟨rfl, Or.inr (Or.inr ⟨_, rfl⟩)⟩

theorem readGrant_step {c c' : Cluster} {e : Event} (move : Move c e c') {x : PageKey}
    (h : ReadGrant c' x) : ReadGrant c x ∨ Serves c e x ∨ Resumes c e x := by
  obtain ⟨t', member, key, marks⟩ := h
  cases move with
  | fault found move =>
    rename_i k t s
    rcases fault_reads move member marks with old | ⟨same, marks | serves | resumes⟩
    · exact Or.inl ⟨t', old, key, marks⟩
    · exact Or.inl ⟨t, List.mem_of_getElem? found, same.symm.trans key, marks⟩
    · obtain ⟨data, rfl, stage⟩ := serves
      exact Or.inr (Or.inl ⟨k, t, data, rfl, found, stage, same.symm.trans key⟩)
    · obtain ⟨data, rfl⟩ := resumes
      exact Or.inr (Or.inr ⟨k, t, data, rfl, found, same.symm.trans key⟩)
  | faultStart =>
    rcases List.mem_append.mp member with old | fresh
    · exact Or.inl ⟨t', old, key, marks⟩
    · rw [List.mem_singleton.mp fresh] at marks
      exact nomatch marks
  | acquire found move => cases move <;> exact Or.inl ⟨t', member, key, marks⟩
  | update found move => cases move <;> exact Or.inl ⟨t', member, key, marks⟩
  | sync found move => cases move <;> exact Or.inl ⟨t', member, key, marks⟩
  | invalidate | killSurrogate | sweepSnapshot | importGuest | populate | setMigrating | shmat
  | shmdt | reap | sweepZap | guestExit | guestStore | acquireStart | invalidateLost
  | hookCaught | hookPassed | nativeInstall | nativeStore | sweepCollect | sweepShot
  | sweepSkipped | sweepSend | exportAdd | exportRemove | setTask | processExit | removeSegment
  | evict | setLink => exact Or.inl ⟨t', member, key, marks⟩

theorem writeGrant_step {c c' : Cluster} {e : Event} (move : Move c e c') {x : PageKey}
    (h : WriteGrant c' x) : WriteGrant c x ∨ Grants c e x := by
  obtain ⟨a', member, key, marks⟩ := h
  cases move with
  | acquire found move =>
    rename_i k a s
    have here := List.mem_of_getElem? found
    have moved : ∀ {st : AcquireStage}, a' ∈ c.acquires.set k { a with stage := st } →
        a' ∈ c.acquires ∨ a.key = x ∧ writes { a with stage := st } = true := by
      intro st member
      rcases List.mem_or_eq_of_mem_set member with old | rfl
      · exact Or.inl old
      · exact Or.inr ⟨key, marks⟩
    cases move with
    | granted stage _ | unlisted stage _ =>
      rcases moved member with old | ⟨same, -⟩
      · exact Or.inl ⟨a', old, key, marks⟩
      · exact Or.inr ⟨k, a, rfl, found, stage, same⟩
    | shot stage | unshot stage =>
      rcases moved member with old | ⟨same, marks⟩
      · exact Or.inl ⟨a', old, key, marks⟩
      · exact Or.inl ⟨a, here, same, by rw [writes, stage]; exact marks⟩
    | upgraded =>
      rcases moved member with old | ⟨-, no⟩
      · exact Or.inl ⟨a', old, key, marks⟩
      · exact nomatch no
    | abandoned | writable | retried =>
      exact Or.inl ⟨a', List.mem_of_mem_eraseIdx member, key, marks⟩
    | interrupted =>
      rcases List.mem_or_eq_of_mem_set member with old | rfl
      · exact Or.inl ⟨a', old, key, marks⟩
      · unfold writes at marks
        split at marks <;> exact nomatch marks
  | acquireStart =>
    rcases List.mem_append.mp member with old | fresh
    · exact Or.inl ⟨a', old, key, marks⟩
    · rw [List.mem_singleton.mp fresh] at marks
      exact nomatch marks
  | fault found move => cases move <;> exact Or.inl ⟨a', member, key, marks⟩
  | update found move => cases move <;> exact Or.inl ⟨a', member, key, marks⟩
  | sync found move => cases move <;> exact Or.inl ⟨a', member, key, marks⟩
  | invalidate | killSurrogate | sweepSnapshot | importGuest | populate | setMigrating | shmat
  | shmdt | reap | sweepZap | guestExit | guestStore | faultStart | invalidateLost
  | hookCaught | hookPassed | nativeInstall | nativeStore | sweepCollect | sweepShot
  | sweepSkipped | sweepSend | exportAdd | exportRemove | setTask | processExit | removeSegment
  | evict | setLink => exact Or.inl ⟨a', member, key, marks⟩

end MattX.DsmCopies
