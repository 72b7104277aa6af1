import MattX.DsmTypes
import MattX.SlotTable
import Mathlib.Data.List.FinRange
import Mathlib.Logic.Function.Basic

set_option autoImplicit false

/-!
# The registry of guests on a host node

Each operation is one critical section of `guest_lock`. The searches stop at
the first hit, as the loops of the source do.
-/
namespace MattX.GuestRegistry

/-- What a `pages[p]` pointer points to. -/
abbrev Frame := ℕ

/-- `struct mattx_dsm_mapping`. -/
structure DsmMapping where
  baseAddr : ℕ
  shmid : ℕ
  size : ℕ
  presentPages : PageIdx → Bool
  pages : PageIdx → Option Frame
  pageStates : PageIdx → PageState

/-- `struct mattx_guest_info`, with `dsm_count` and `dsm_map` as one table. -/
structure GuestInfo where
  localPid : ℕ
  origPid : ℕ
  homeNode : Node
  isMigrating : Bool
  dsmMap : SlotTable DsmMapping

/-- `guest_count` and `guest_registry`. -/
abbrev Registry := SlotTable GuestInfo

def DsmMapping.zero : DsmMapping := ⟨0, 0, 0, fun _ => false, fun _ => none, fun _ => .invalid⟩

def GuestInfo.zero : GuestInfo := ⟨0, 0, 0, false, ⟨fun _ => .zero, 0⟩⟩

/-- The registry of a freshly loaded module. -/
def zeroRegistry : Registry := ⟨fun _ => .zero, 0⟩

namespace DsmMapping

def setState (m : DsmMapping) (p : PageIdx) (st : PageState) : DsmMapping :=
  { m with pageStates := Function.update m.pageStates p st }

def setPage (m : DsmMapping) (p : PageIdx) (f : Frame) : DsmMapping :=
  { m with pages := Function.update m.pages p (some f) }

def setPresent (m : DsmMapping) (p : PageIdx) : DsmMapping :=
  { m with presentPages := Function.update m.presentPages p true }

/-- `free_page` and NULL for every page of the pool. -/
def freePages (m : DsmMapping) : DsmMapping := { m with pages := fun _ => none }

def owns (m : DsmMapping) (f : Frame) : Bool :=
  (List.finRange maxDsmPages).any fun p => m.pages p == some f

/-- The pages a funeral flush packs. -/
def dirtyPages (m : DsmMapping) : List PageIdx :=
  (List.finRange maxDsmPages).filter fun p => m.pageStates p == .exclusive

end DsmMapping

def guestOf (r : Registry) (tgid : ℕ) : Option ℕ := r.find? fun g => g.localPid == tgid

def mappingAt (g : GuestInfo) (base : ℕ) : Option ℕ := g.dsmMap.find? fun m => m.baseAddr == base

/-- The translation of a fault address, the first step of both fault handlers. -/
def mappingOver (g : GuestInfo) (addr : ℕ) : Option ℕ :=
  g.dsmMap.find? fun m => decide (m.baseAddr ≤ addr ∧ addr < m.baseAddr + m.size)

def mappingOf (g : GuestInfo) (shmid : ℕ) : Option ℕ := g.dsmMap.find? fun m => m.shmid == shmid

/-- The mapping both fault handlers look up again once their reply is there. -/
def cellAt (r : Registry) (tgid base : ℕ) : Option (ℕ × ℕ) :=
  (guestOf r tgid).bind fun i => (mappingAt (r.slot i) base).map fun d => (i, d)

def mapping (r : Registry) (i d : ℕ) : DsmMapping := (r.slot i).dsmMap.slot d

def Live (r : Registry) (i d : ℕ) : Prop := i < r.count ∧ d < (r.slot i).dsmMap.count

def GuestInfo.modifyMapping (g : GuestInfo) (d : ℕ) (f : DsmMapping → DsmMapping) : GuestInfo :=
  { g with dsmMap := g.dsmMap.modify d f }

def modifyMapping (r : Registry) (i d : ℕ) (f : DsmMapping → DsmMapping) : Registry :=
  r.modify i fun g => g.modifyMapping d f

def modifyCell (r : Registry) (tgid base : ℕ) (f : DsmMapping → DsmMapping) : Registry :=
  match cellAt r tgid base with
  | some (i, d) => modifyMapping r i d f
  | none => r

/-- `add_guest_process`: the slot is cleared, its whole `dsm_map` included. -/
def addGuest (r : Registry) (localPid origPid : ℕ) (homeNode : Node) : Registry :=
  if r.count < maxGuests then
    r.push fun _ => ⟨localPid, origPid, homeNode, false, ⟨fun _ => .zero, 0⟩⟩
  else r

/-- A segment takes the next `dsm_map` slot. Only these three fields are written. -/
def GuestInfo.register (g : GuestInfo) (base size shmid : ℕ) : GuestInfo :=
  if g.dsmMap.count < maxDsmSegments then
    { g with dsmMap := g.dsmMap.push fun m =>
      { m with baseAddr := base, size := size, shmid := shmid } }
  else g

/-- The awakening of `shmat`. -/
def shmat (r : Registry) (tgid base size shmid : ℕ) : Registry :=
  match guestOf r tgid with
  | some i => r.modify i fun g => g.register base size shmid
  | none => r

/-- `handle_migrate_done`, for the `is_shm` areas of the migrated process. -/
def populate (r : Registry) (tgid : ℕ) (vmas : List (ℕ × ℕ × ℕ)) : Registry :=
  match guestOf r tgid with
  | some i => r.modify i fun g =>
    vmas.foldl (fun g v => g.register v.1 v.2.1 v.2.2)
      { g with dsmMap := { g.dsmMap with count := 0 } }
  | none => r

/-- The awakening of `shmdt`: the pages are freed, then `dsm_map[d] = dsm_map[--dsm_count]`. -/
def GuestInfo.removeMapping (g : GuestInfo) (d : ℕ) : GuestInfo :=
  { g with dsmMap := (g.dsmMap.modify d .freePages).swapRemove d }

def shmdt (r : Registry) (tgid base : ℕ) : Registry :=
  match cellAt r tgid base with
  | some (i, d) => r.modify i fun g => g.removeMapping d
  | none => r

/-- `remove_guest_process`. -/
def removeGuest (r : Registry) (i : ℕ) : Registry :=
  if i < r.count then
    (r.modify i fun g => { g with dsmMap := g.dsmMap.mapLive .freePages }).swapRemove i
  else r

/-- `mattx_dsm_fault` allocates a page the cell does not have yet, and keeps one it has. -/
def DsmMapping.backPage (m : DsmMapping) (p : PageIdx) (fresh : Option Frame) : DsmMapping :=
  match m.pages p, fresh with
  | none, some f => m.setPage p f
  | _, _ => m

def backPage (r : Registry) (tgid base : ℕ) (p : PageIdx) (fresh : Option Frame) : Registry :=
  modifyCell r tgid base fun m => m.backPage p fresh

/-- The sweeper takes a guest's `present_pages` for itself. -/
def clearPresent (r : Registry) (i : ℕ) : Registry :=
  r.modify i fun g => { g with dsmMap := g.dsmMap.mapLive fun m =>
    { m with presentPages := fun _ => false } }

def setMigrating (r : Registry) (tgid : ℕ) (b : Bool) : Registry :=
  match guestOf r tgid with
  | some i => r.modify i fun g => { g with isMigrating := b }
  | none => r

/-- The guest `handle_kill_surrogate` removes. -/
def surrogateOf (r : Registry) (origPid : ℕ) (sender : Node) : Option ℕ :=
  r.find? fun g => g.origPid == origPid && g.homeNode == sender

def GuestInfo.invalidate (g : GuestInfo) (shmid : ℕ) (p : PageIdx) : GuestInfo :=
  { g with dsmMap := g.dsmMap.mapLive fun m =>
    if m.shmid = shmid then m.setState p .invalid else m }

/-- `mattx_dsm_invalidate_kworker` skips whoever has the acquirer's pid. -/
def invalidate (r : Registry) (shmid : ℕ) (p : PageIdx) (acquirer : ℕ) : Registry :=
  r.mapLive fun g => if g.origPid = acquirer then g else g.invalidate shmid p

/-- The mapping `mattx_dsm_flush_kworker` looks at: the first guest of that pid, whatever its
home, and its first mapping of the segment. -/
def flushTarget (r : Registry) (origPid shmid : ℕ) : Option (ℕ × ℕ) :=
  (r.find? fun g => g.origPid == origPid).bind fun i =>
    (mappingOf (r.slot i) shmid).map fun d => (i, d)

/-- The page a flush copies, downgrades and zaps. -/
def flushedFrame (r : Registry) (origPid shmid : ℕ) (p : PageIdx) : Option (ℕ × ℕ × Frame) :=
  match flushTarget r origPid shmid with
  | some (i, d) =>
    match (mapping r i d).pages p with
    | some f => if (mapping r i d).pageStates p = .exclusive then some (i, d, f) else none
    | none => none
  | none => none

def flush (r : Registry) (origPid shmid : ℕ) (p : PageIdx) : Registry :=
  match flushedFrame r origPid shmid p with
  | some (i, d, _) => modifyMapping r i d fun m => m.setState p .invalid
  | none => r

theorem DsmMapping.setState_apply (m : DsmMapping) (p q : PageIdx) (st : PageState) :
    (m.setState p st).pageStates q = if q = p then st else m.pageStates q := by
  simp only [DsmMapping.setState, Function.update_apply]

theorem cellAt_some {r : Registry} {tgid base i d : ℕ} (h : cellAt r tgid base = some (i, d)) :
    i < r.count ∧ d < (r.slot i).dsmMap.count ∧ (r.slot i).localPid = tgid ∧
      (mapping r i d).baseAddr = base := by
  obtain ⟨j, guest, found⟩ := Option.bind_eq_some_iff.mp h
  obtain ⟨e, at_base, same⟩ := Option.map_eq_some_iff.mp found
  obtain ⟨rfl, rfl⟩ := Prod.mk.inj same
  refine ⟨SlotTable.find?_lt guest, SlotTable.find?_lt at_base, ?_, ?_⟩
  · simpa using SlotTable.find?_holds guest
  · simpa [mapping] using SlotTable.find?_holds at_base

theorem flushTarget_some {r : Registry} {origPid shmid i d : ℕ}
    (h : flushTarget r origPid shmid = some (i, d)) :
    i < r.count ∧ d < (r.slot i).dsmMap.count ∧ (r.slot i).origPid = origPid ∧
      (mapping r i d).shmid = shmid := by
  obtain ⟨j, guest, found⟩ := Option.bind_eq_some_iff.mp h
  obtain ⟨e, of_segment, same⟩ := Option.map_eq_some_iff.mp found
  obtain ⟨rfl, rfl⟩ := Prod.mk.inj same
  refine ⟨SlotTable.find?_lt guest, SlotTable.find?_lt of_segment, ?_, ?_⟩
  · simpa using SlotTable.find?_holds guest
  · simpa [mapping] using SlotTable.find?_holds of_segment

theorem live_modifyMapping {r : Registry} {i d j e : ℕ} {f : DsmMapping → DsmMapping} :
    Live (modifyMapping r i d f) j e ↔ Live r j e := by
  unfold Live modifyMapping
  rw [SlotTable.modify_count, SlotTable.modify_slot]
  split_ifs with h
  · subst j
    exact Iff.rfl
  · exact Iff.rfl

theorem mapping_modifyMapping (r : Registry) (i d j e : ℕ) (f : DsmMapping → DsmMapping) :
    mapping (modifyMapping r i d f) j e =
      if j = i ∧ e = d then f (mapping r j e) else mapping r j e := by
  unfold mapping modifyMapping
  rw [SlotTable.modify_slot]
  by_cases hj : j = i
  · subst j
    rw [if_pos rfl]
    change ((r.slot i).dsmMap.modify d f).slot e = _
    rw [SlotTable.modify_slot]
    by_cases he : e = d
    · subst e
      simp
    · simp [he]
  · simp [hj]

end MattX.GuestRegistry
