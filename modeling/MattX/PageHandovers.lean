import MattX.DsmTypes
import MattX.GuardedRuns
import Mathlib.Data.List.Basic
import Mathlib.Logic.Function.Basic
import Mathlib.Tactic.Common

set_option autoImplicit false

/-!
# Mode 2: the bytes of one page on their way between guests

Any number of guests fault on the page, take the lock and write. The kworkers
of the home node, the messages and the threads of the guests move in any order.
`latest` has the page after all completed stores. The history of the grants
tells when a copy was read at home.
-/
namespace MattX.PageHandovers
open GuardedRuns

inductive Pte where
  | absent
  | readOnly
  | writable
  deriving DecidableEq

/-- A guest with its `pages[p]` and `page_states[p]`. `readAt` is how many grants there had been
when its copy was read at home. -/
structure Guest where
  attached : Bool
  copy : Page
  readAt : Option ℕ
  state : PageState
  pte : Pte

/-- The page's places in `struct mattx_dsm_master_dir`. -/
structure Entry where
  state : PageState
  owner : ℕ
  mask : List ℕ

/-- How far a page fault has come, at home up to the reply. What a flush or a read has found goes
with the number of grants at that moment. -/
inductive FaultStage where
  | asked
  | flushing (owner : ℕ)
  | copied (owner : ℕ) (data : Page) (madeAt : ℕ)
  | answered (data : Option (Page × ℕ))
  | written
  | ready
  | read (page : Page) (readAt : ℕ)
  | replied (page : Page) (readAt : ℕ)
  | filled
  | inserted
  | done

/-- `waiting` goes when a signal takes the thread out of its wait. -/
structure Fault where
  guest : ℕ
  waiting : Bool
  stage : FaultStage

inductive AcquireStage where
  | asked
  | replied
  | upgraded
  | done
  deriving DecidableEq

structure Acquire where
  guest : ℕ
  waiting : Bool
  stage : AcquireStage
  deriving DecidableEq

structure Invalidate where
  node : ℕ
  acquirer : ℕ
  struck : Bool

inductive UpdateStage where
  | sent
  | stored
  | done
  deriving DecidableEq

/-- The bomb of a guest that leaves. -/
structure Update where
  guest : ℕ
  page : Page
  madeAt : ℕ
  stage : UpdateStage

structure State where
  node : ℕ → ℕ
  ram : Page
  dir : Option Entry
  guests : ℕ → Guest
  faults : List Fault
  acquires : List Acquire
  invalidates : List Invalidate
  updates : List Update
  latest : Page
  grants : List ℕ

inductive Event where
  | fault (g : ℕ)
  | look (k : ℕ) (route : Bool)
  | flush (k : ℕ)
  | flushZap (k : ℕ) (zapped : Bool)
  | writeRam (k : ℕ) (ok : Bool)
  | downgrade (k : ℕ)
  | pump (k : ℕ)
  | record (k : ℕ) (room : Bool)
  | fill (k : ℕ)
  | interrupt (k : ℕ) (stale : Option Page)
  | insert (k : ℕ) (trap : Bool)
  | note (k : ℕ)
  | acquire (g : ℕ)
  | grant (k : ℕ) (link : ℕ → Bool)
  | upgrade (k : ℕ)
  | retry (k : ℕ)
  | makeWritable (k : ℕ)
  | store (g : ℕ) (off : Fin pageSize) (byte : BitVec 8)
  | invalidate (k : ℕ)
  | invalidateZap (k : ℕ) (zapped : ℕ → Bool)
  | leave (g : ℕ) (packed : Bool)
  | unmap (g : ℕ)
  | attach (g : ℕ) (frame : Page) (state : PageState)
  | applyUpdate (k : ℕ) (ok : Bool)
  | cleanup (k : ℕ)
  | register
  | remove

def FaultStage.rank : FaultStage → ℕ
  | .asked => 0
  | .flushing _ => 1
  | .copied .. => 2
  | .answered _ => 3
  | .written => 4
  | .ready => 5
  | .read .. => 6
  | .replied .. => 7
  | .filled => 8
  | .inserted => 9
  | .done => 10

/-- Flushed data that is not in the home page yet. -/
def FaultStage.data : FaultStage → Option (Page × ℕ)
  | .copied _ data madeAt => some (data, madeAt)
  | .answered data => data
  | _ => none

/-- The page that has been read for a reply. -/
def FaultStage.page : FaultStage → Option (Page × ℕ)
  | .read page readAt => some (page, readAt)
  | .replied page readAt => some (page, readAt)
  | _ => none

namespace State

def setGuest (s : State) (g : ℕ) (x : Guest) : State :=
  { s with guests := Function.update s.guests g x }

@[simp] theorem setGuest_self (s : State) (g : ℕ) (x : Guest) : (s.setGuest g x).guests g = x := by
  simp only [setGuest, Function.update_self]

@[simp] theorem setGuest_other (s : State) {g h : ℕ} (other : h ≠ g) (x : Guest) :
    (s.setGuest g x).guests h = s.guests h := by
  simp only [setGuest, Function.update_of_ne other]

def moveFault (s : State) (k : ℕ) (f : Fault) (stage : FaultStage) : State :=
  { s with faults := s.faults.set k { f with stage := stage } }

def moveAcquire (s : State) (k : ℕ) (a : Acquire) (stage : AcquireStage) : State :=
  { s with acquires := s.acquires.set k { a with stage := stage } }

def moveUpdate (s : State) (k : ℕ) (u : Update) (stage : UpdateStage) : State :=
  { s with updates := s.updates.set k { u with stage := stage } }

/-- The guest has the page EXCLUSIVE in the directory. -/
def Owns (s : State) (g : ℕ) : Prop := ∃ e ∈ s.dir, e.state = .exclusive ∧ e.owner = g

instance (s : State) (g : ℕ) : Decidable (s.Owns g) :=
  inferInstanceAs (Decidable (∃ e ∈ s.dir, e.state = .exclusive ∧ e.owner = g))

/-! ### The home node -/

/-- `mattx_dsm_fault_kworker` looks for an exclusive owner that it has to flush. `route` says
whether it has a buffer, a slot and a link to the owner's node. -/
def look (s : State) (k : ℕ) (f : Fault) (route : Bool) : State :=
  match s.dir with
  | some e => s.moveFault k f
    (if e.state = .exclusive ∧ e.owner ≠ 0 ∧ e.owner ≠ f.guest ∧ route = true then .flushing e.owner
    else .ready)
  | none => s.moveFault k f .ready

/-- It writes what the flush has brought into the page cache. If it brought nothing, a bomb is taken
to have been there. -/
def writeRam (s : State) (k : ℕ) (f : Fault) (data : Option (Page × ℕ)) (ok : Bool) : State :=
  match data, ok with
  | some d, true => { s.moveFault k f .written with ram := d.1 }
  | _, _ => s.moveFault k f .written

def downgrade (s : State) (k : ℕ) (f : Fault) : State :=
  { s.moveFault k f .ready with dir := s.dir.map fun _ => ⟨.shared, 0, []⟩ }

/-- After the pump the reader's node goes into the mask, if the segment has a place in the
directory or gets one. -/
def record (s : State) (k : ℕ) (f : Fault) (page : Page) (readAt : ℕ) (room : Bool) : State :=
  { s.moveFault k f (.replied page readAt) with
    dir := match s.dir with
      | some e => some { e with
          state := if e.state = .invalid then .shared else e.state
          mask := e.mask.insert (s.node f.guest) }
      | none => if room then some ⟨.shared, 0, [s.node f.guest]⟩ else none }

/-- `mattx_dsm_write_acquire_kworker`. The reply has error 0 whether or not the entry was found. -/
def grant (s : State) (k : ℕ) (a : Acquire) (link : ℕ → Bool) : State :=
  match s.dir with
  | some e => { s.moveAcquire k a .replied with
      dir := some ⟨.exclusive, a.guest, []⟩
      invalidates := s.invalidates ++ (e.mask.filter link).map fun n => ⟨n, a.guest, false⟩
      grants := a.guest :: s.grants }
  | none => s.moveAcquire k a .replied

/-- `mattx_dsm_update_kworker`. A bomb that finds no page is dropped, but the directory is cleaned
up all the same. -/
def applyUpdate (s : State) (k : ℕ) (u : Update) (ok : Bool) : State :=
  let s' := s.moveUpdate k u .stored
  if ok then { s' with ram := u.page } else s'

def cleanup (s : State) (k : ℕ) (u : Update) : State :=
  { s.moveUpdate k u .done with
    dir := s.dir.map fun e =>
      if e.state = .exclusive ∧ e.owner = u.guest then ⟨.shared, 0, []⟩ else e }

/-! ### The guests -/

/-- `mattx_dsm_flush_kworker` copies a page that the guest has EXCLUSIVE. -/
def flush (s : State) (k : ℕ) (f : Fault) (owner : ℕ) : State :=
  let x := s.guests owner
  if x.attached = true ∧ x.state = .exclusive then
    (s.setGuest owner { x with state := .invalid }).moveFault k f
      (.copied owner x.copy s.grants.length)
  else s.moveFault k f (.answered none)

/-- It zaps the page table entry after the copy, if it can. -/
def flushZap (s : State) (k : ℕ) (f : Fault) (owner : ℕ) (data : Page) (madeAt : ℕ)
    (zapped : Bool) : State :=
  let x := s.guests owner
  (s.setGuest owner { x with pte := if zapped then .absent else x.pte }).moveFault k f
    (.answered (some (data, madeAt)))

/-- `mattx_dsm_fault` copies the reply into the guest's page. -/
def fill (s : State) (k : ℕ) (f : Fault) (page : Page) (readAt : ℕ) : State :=
  let x := s.guests f.guest
  if x.attached then
    (s.setGuest f.guest { x with copy := page, readAt := some readAt }).moveFault k f .filled
  else s.moveFault k f .done

/-- A signal ends the wait. With error 0 still in the slot a buffer that nobody has filled is
copied, else the fault fails; the kworker goes on. -/
def interrupt (s : State) (k : ℕ) (f : Fault) (stale : Option Page) : State :=
  let s' := { s with faults := s.faults.set k { f with waiting := false } }
  match stale with
  | some garbage =>
    if (s.guests f.guest).attached then
      { s'.setGuest f.guest { s.guests f.guest with
          copy := garbage, readAt := none } with
        faults := s'.faults ++ [⟨f.guest, false, .filled⟩] }
    else s'
  | none => s'

/-- An entry that is there already is left alone. `trap` says whether the kernel's
`vmf_insert_pfn_prot` was found; without it the entry gets all rights and no state is noted. -/
def insert (s : State) (k : ℕ) (f : Fault) (trap : Bool) : State :=
  let x := s.guests f.guest
  let pte := if x.pte = .absent then (if trap then .readOnly else .writable) else x.pte
  (s.setGuest f.guest { x with pte := pte }).moveFault k f (if trap then .inserted else .done)

/-- A guest that has left has no place to note a state in. -/
def setState (s : State) (g : ℕ) (state : PageState) : State :=
  if (s.guests g).attached then s.setGuest g { s.guests g with state := state } else s

def note (s : State) (k : ℕ) (f : Fault) : State := (s.setState f.guest .shared).moveFault k f .done

/-- `mattx_dsm_pfn_mkwrite` after the reply. -/
def upgrade (s : State) (k : ℕ) (a : Acquire) : State :=
  (s.setState a.guest .exclusive).moveAcquire k a .upgraded

/-- The kernel makes the entry writable unless it has changed. -/
def makeWritable (s : State) (k : ℕ) (a : Acquire) : State :=
  let x := s.guests a.guest
  (s.setGuest a.guest { x with
    pte := if x.pte = .readOnly then .writable else x.pte }).moveAcquire k a .done

def store (s : State) (g : ℕ) (off : Fin pageSize) (byte : BitVec 8) : State :=
  let x := s.guests g
  { s.setGuest g { x with copy := Function.update x.copy off byte } with
    latest := Function.update s.latest off byte }

/-- Whom `mattx_dsm_invalidate_kworker` strikes. It skips whoever has the acquirer's pid. -/
def Strikes (s : State) (v : Invalidate) (g : ℕ) : Prop :=
  (s.guests g).attached = true ∧ s.node g = v.node ∧ g ≠ v.acquirer

instance (s : State) (v : Invalidate) : DecidablePred (s.Strikes v) :=
  fun g => inferInstanceAs (Decidable (_ ∧ s.node g = v.node ∧ g ≠ v.acquirer))

def invalidate (s : State) (k : ℕ) (v : Invalidate) : State :=
  { s with
    guests := fun g =>
      if s.Strikes v g then { s.guests g with state := .invalid } else s.guests g
    invalidates := s.invalidates.set k { v with struck := true } }

def invalidateZap (s : State) (k : ℕ) (v : Invalidate) (zapped : ℕ → Bool) : State :=
  { s with
    guests := fun g =>
      if s.Strikes v g ∧ zapped g = true then { s.guests g with pte := .absent } else s.guests g
    invalidates := s.invalidates.eraseIdx k }

/-- The funeral flush of a `shmdt` or an exit, if its memory and its link are there. The area is
unmapped later. -/
def leave (s : State) (g : ℕ) (packed : Bool) : State :=
  let x := s.guests g
  { s.setGuest g { x with attached := false } with
    updates := if x.state = .exclusive ∧ packed = true then
      s.updates ++ [⟨g, x.copy, s.grants.length, .sent⟩] else s.updates }

/-- The guest is back with a new area. Nothing clears `page_states` in the slot of
the mapping. -/
def attach (s : State) (g : ℕ) (frame : Page) (state : PageState) : State :=
  s.setGuest g ⟨true, frame, none, state, .absent⟩

end State

def enabled (s : State) : Event → Prop
  | .fault g => (s.guests g).attached = true ∧ (s.guests g).pte = .absent
  | .look k _ => ∃ f ∈ s.faults[k]?, f.stage.rank = 0
  | .flush k => ∃ f ∈ s.faults[k]?, f.stage.rank = 1
  | .flushZap k _ => ∃ f ∈ s.faults[k]?, f.stage.rank = 2
  | .writeRam k _ => ∃ f ∈ s.faults[k]?, f.stage.rank = 3
  | .downgrade k => ∃ f ∈ s.faults[k]?, f.stage.rank = 4
  | .pump k => ∃ f ∈ s.faults[k]?, f.stage.rank = 5
  | .record k _ => ∃ f ∈ s.faults[k]?, f.stage.rank = 6
  | .fill k => ∃ f ∈ s.faults[k]?, f.stage.rank = 7 ∧ f.waiting = true
  | .interrupt k _ => ∃ f ∈ s.faults[k]?, f.stage.rank ≤ 7 ∧ f.waiting = true
  | .insert k _ => ∃ f ∈ s.faults[k]?, f.stage.rank = 8
  | .note k => ∃ f ∈ s.faults[k]?, f.stage.rank = 9
  | .acquire g => (s.guests g).attached = true ∧ (s.guests g).pte = .readOnly
  | .grant k _ => ∃ a ∈ s.acquires[k]?, a.stage = .asked
  | .upgrade k => ∃ a ∈ s.acquires[k]?, a.stage = .replied ∧ a.waiting = true
  | .retry k => ∃ a ∈ s.acquires[k]?, (a.stage = .asked ∨ a.stage = .replied) ∧ a.waiting = true
  | .makeWritable k => ∃ a ∈ s.acquires[k]?, a.stage = .upgraded
  | .store g _ _ => (s.guests g).pte = .writable
  | .invalidate k => ∃ v ∈ s.invalidates[k]?, v.struck = false
  | .invalidateZap k _ => ∃ v ∈ s.invalidates[k]?, v.struck = true
  | .leave g _ => (s.guests g).attached = true
  | .unmap g => (s.guests g).attached = false
  | .attach g _ _ => (s.guests g).attached = false ∧ (s.guests g).pte = .absent
  | .applyUpdate k _ => ∃ u ∈ s.updates[k]?, u.stage = .sent
  | .cleanup k => ∃ u ∈ s.updates[k]?, u.stage = .stored
  | .register => s.dir.isNone = true
  | .remove => s.dir.isSome = true

def next (s : State) : Event → State
  | .fault g => { s with faults := s.faults ++ [⟨g, true, .asked⟩] }
  | .look k route => match s.faults[k]? with
    | some f => s.look k f route
    | none => s
  | .flush k => match s.faults[k]? with
    | some f => match f.stage with
      | .flushing owner => s.flush k f owner
      | _ => s
    | none => s
  | .flushZap k zapped => match s.faults[k]? with
    | some f => match f.stage with
      | .copied owner data madeAt => s.flushZap k f owner data madeAt zapped
      | _ => s
    | none => s
  | .writeRam k ok => match s.faults[k]? with
    | some f => match f.stage with
      | .answered data => s.writeRam k f data ok
      | _ => s
    | none => s
  | .downgrade k => match s.faults[k]? with
    | some f => s.downgrade k f
    | none => s
  | .pump k => match s.faults[k]? with
    | some f => s.moveFault k f (.read s.ram s.grants.length)
    | none => s
  | .record k room => match s.faults[k]? with
    | some f => match f.stage with
      | .read page readAt => s.record k f page readAt room
      | _ => s
    | none => s
  | .fill k => match s.faults[k]? with
    | some f => match f.stage with
      | .replied page readAt => s.fill k f page readAt
      | _ => s
    | none => s
  | .interrupt k stale => match s.faults[k]? with
    | some f => s.interrupt k f stale
    | none => s
  | .insert k trap => match s.faults[k]? with
    | some f => s.insert k f trap
    | none => s
  | .note k => match s.faults[k]? with
    | some f => s.note k f
    | none => s
  | .acquire g => { s with acquires := s.acquires ++ [⟨g, true, .asked⟩] }
  | .grant k link => match s.acquires[k]? with
    | some a => s.grant k a link
    | none => s
  | .upgrade k => match s.acquires[k]? with
    | some a => s.upgrade k a
    | none => s
  | .retry k => match s.acquires[k]? with
    | some a => { s with acquires := s.acquires.set k { a with waiting := false } }
    | none => s
  | .makeWritable k => match s.acquires[k]? with
    | some a => s.makeWritable k a
    | none => s
  | .store g off byte => s.store g off byte
  | .invalidate k => match s.invalidates[k]? with
    | some v => s.invalidate k v
    | none => s
  | .invalidateZap k zapped => match s.invalidates[k]? with
    | some v => s.invalidateZap k v zapped
    | none => s
  | .leave g packed => s.leave g packed
  | .unmap g => s.setGuest g { s.guests g with pte := .absent }
  | .attach g frame state => s.attach g frame state
  | .applyUpdate k ok => match s.updates[k]? with
    | some u => s.applyUpdate k u ok
    | none => s
  | .cleanup k => match s.updates[k]? with
    | some u => s.cleanup k u
    | none => s
  | .register => { s with dir := some ⟨.invalid, 0, []⟩ }
  | .remove => { s with dir := none }

def machine : Machine State Event := ⟨enabled, next⟩

instance (s : State) (e : Event) : Decidable (machine.enabled s e) :=
  match e with
  | .fault g => inferInstanceAs (Decidable ((s.guests g).attached = true ∧
      (s.guests g).pte = .absent))
  | .look k _ => inferInstanceAs (Decidable (∃ f ∈ s.faults[k]?, f.stage.rank = 0))
  | .flush k => inferInstanceAs (Decidable (∃ f ∈ s.faults[k]?, f.stage.rank = 1))
  | .flushZap k _ => inferInstanceAs (Decidable (∃ f ∈ s.faults[k]?, f.stage.rank = 2))
  | .writeRam k _ => inferInstanceAs (Decidable (∃ f ∈ s.faults[k]?, f.stage.rank = 3))
  | .downgrade k => inferInstanceAs (Decidable (∃ f ∈ s.faults[k]?, f.stage.rank = 4))
  | .pump k => inferInstanceAs (Decidable (∃ f ∈ s.faults[k]?, f.stage.rank = 5))
  | .record k _ => inferInstanceAs (Decidable (∃ f ∈ s.faults[k]?, f.stage.rank = 6))
  | .fill k => inferInstanceAs (Decidable (∃ f ∈ s.faults[k]?, f.stage.rank = 7 ∧
      f.waiting = true))
  | .interrupt k _ => inferInstanceAs (Decidable (∃ f ∈ s.faults[k]?, f.stage.rank ≤ 7 ∧
      f.waiting = true))
  | .insert k _ => inferInstanceAs (Decidable (∃ f ∈ s.faults[k]?, f.stage.rank = 8))
  | .note k => inferInstanceAs (Decidable (∃ f ∈ s.faults[k]?, f.stage.rank = 9))
  | .acquire g => inferInstanceAs (Decidable ((s.guests g).attached = true ∧
      (s.guests g).pte = .readOnly))
  | .grant k _ => inferInstanceAs (Decidable (∃ a ∈ s.acquires[k]?, a.stage = .asked))
  | .upgrade k => inferInstanceAs (Decidable (∃ a ∈ s.acquires[k]?, a.stage = .replied ∧
      a.waiting = true))
  | .retry k => inferInstanceAs (Decidable (∃ a ∈ s.acquires[k]?,
      (a.stage = .asked ∨ a.stage = .replied) ∧ a.waiting = true))
  | .makeWritable k => inferInstanceAs (Decidable (∃ a ∈ s.acquires[k]?, a.stage = .upgraded))
  | .store g _ _ => inferInstanceAs (Decidable ((s.guests g).pte = .writable))
  | .invalidate k => inferInstanceAs (Decidable (∃ v ∈ s.invalidates[k]?, v.struck = false))
  | .invalidateZap k _ => inferInstanceAs (Decidable (∃ v ∈ s.invalidates[k]?, v.struck = true))
  | .leave g _ => inferInstanceAs (Decidable ((s.guests g).attached = true))
  | .unmap g => inferInstanceAs (Decidable ((s.guests g).attached = false))
  | .attach g _ _ => inferInstanceAs (Decidable ((s.guests g).attached = false ∧
      (s.guests g).pte = .absent))
  | .applyUpdate k _ => inferInstanceAs (Decidable (∃ u ∈ s.updates[k]?, u.stage = .sent))
  | .cleanup k => inferInstanceAs (Decidable (∃ u ∈ s.updates[k]?, u.stage = .stored))
  | .register => inferInstanceAs (Decidable (s.dir.isNone = true))
  | .remove => inferInstanceAs (Decidable (s.dir.isSome = true))

/-- The page right after it was created at home; guest `g` runs on `node g`. -/
def boot (node : ℕ → ℕ) (ram : Page) (frames : ℕ → Page) : State where
  node := node
  ram := ram
  dir := none
  guests g := ⟨true, frames g, none, .invalid, .absent⟩
  faults := []
  acquires := []
  invalidates := []
  updates := []
  latest := ram
  grants := []

/-! ### What a run must not lose -/

/-- Whoever gets the page, by a reply to a fault or by the lock, has what was written last, and a
lock that moves finds it in the home page and in the copy of its new owner. -/
def Right (s : State) : Event → Prop
  | .fill k => ∀ f ∈ s.faults[k]?, (s.guests f.guest).attached = true →
    ((next s (.fill k)).guests f.guest).copy = s.latest
  | .upgrade k => ∀ a ∈ s.acquires[k]?, (s.guests a.guest).attached = true →
    (s.guests a.guest).copy = s.latest
  | .grant k _ => ∀ a ∈ s.acquires[k]?, s.dir.isSome = true → ¬s.Owns a.guest →
    s.ram = s.latest ∧
      ((s.guests a.guest).attached = true → (s.guests a.guest).copy = s.latest)
  | _ => True

/-- Pages that were flushed or sent as bombs and have not reached the home page. -/
def carriers (s : State) : List (Page × ℕ) :=
  (s.faults.filterMap fun f => f.stage.data) ++
    (s.updates.filter fun u => u.stage == .sent).map fun u => (u.page, u.madeAt)

/-- No other guest has been granted the lock since the guest's copy was read at home. -/
def Fresh (s : State) (g : ℕ) : Prop :=
  ∃ r ∈ (s.guests g).readAt, ∀ h ∈ s.grants.take (s.grants.length - r), h = g

/-- The directory may go back to SHARED: its owner has the page EXCLUSIVE no more, and nothing that
the owner wrote is on its way. -/
def Quiet (s : State) : Prop :=
  ∀ e ∈ s.dir, e.state = .exclusive → (carriers s).isEmpty = true ∧
    ¬((s.guests e.owner).attached = true ∧ (s.guests e.owner).state = .exclusive)

instance (s : State) (g : ℕ) : Decidable (Fresh s g) :=
  inferInstanceAs (Decidable (∃ r ∈ (s.guests g).readAt,
    ∀ h ∈ s.grants.take (s.grants.length - r), h = g))

instance (s : State) : Decidable (Quiet s) :=
  inferInstanceAs (Decidable (∀ e ∈ s.dir, e.state = .exclusive → (carriers s).isEmpty = true ∧
    ¬((s.guests e.owner).attached = true ∧ (s.guests e.owner).state = .exclusive)))

/-- A guest's store finds its own state EXCLUSIVE. The page is read at home while nobody has it
EXCLUSIVE, and copied before the next grant; no fault goes on without a reply. What a flush or a
bomb brings home is sent, and gets there before the next grant, and the directory lets go of an
owner only then. Nobody gets the lock while another has it, while such a page is on its way or with
a copy that is older than another's grant, and all that still holds when the reply arrives. An
invalidate, a note or a new area does not hit an owner. -/
def Met (s : State) : Event → Prop
  | .writeRam k ok => ∀ f ∈ s.faults[k]?, ∀ d ∈ f.stage.data, ok = true ∧ d.2 = s.grants.length
  | .downgrade _ => Quiet s
  | .pump _ => ∀ e ∈ s.dir, e.state ≠ .exclusive
  | .fill k => ∀ f ∈ s.faults[k]?, ∀ p ∈ f.stage.page, p.2 = s.grants.length
  | .interrupt _ stale => stale.isNone = true
  | .note k => ∀ f ∈ s.faults[k]?, (s.guests f.guest).attached = true →
    (s.guests f.guest).state ≠ .exclusive
  | .grant k _ => ∀ a ∈ s.acquires[k]?, ∀ e ∈ s.dir,
    (e.state = .exclusive → e.owner = a.guest) ∧ (carriers s).isEmpty = true ∧ Fresh s a.guest
  | .upgrade k => ∀ a ∈ s.acquires[k]?, (s.guests a.guest).attached = true →
    s.Owns a.guest ∧ (carriers s).isEmpty = true ∧ Fresh s a.guest
  | .store g _ _ => (s.guests g).attached = true ∧ (s.guests g).state = .exclusive
  | .invalidate k => ∀ v ∈ s.invalidates[k]?, ∀ e ∈ s.dir, e.state = .exclusive →
    s.node e.owner = v.node → e.owner = v.acquirer
  | .leave g packed => (s.guests g).state = .exclusive → packed = true
  | .attach _ _ state => state ≠ .exclusive
  | .applyUpdate k ok => ∀ u ∈ s.updates[k]?, ok = true ∧ u.madeAt = s.grants.length
  | .cleanup k => ∀ u ∈ s.updates[k]?, s.Owns u.guest → Quiet s
  | .remove => Quiet s
  | _ => True

instance (s : State) (e : Event) : Decidable (Met s e) :=
  match e with
  | .writeRam k ok => inferInstanceAs (Decidable (∀ f ∈ s.faults[k]?, ∀ d ∈ f.stage.data,
      ok = true ∧ d.2 = s.grants.length))
  | .downgrade _ => inferInstanceAs (Decidable (Quiet s))
  | .pump _ => inferInstanceAs (Decidable (∀ e ∈ s.dir, e.state ≠ .exclusive))
  | .fill k => inferInstanceAs (Decidable (∀ f ∈ s.faults[k]?, ∀ p ∈ f.stage.page,
      p.2 = s.grants.length))
  | .interrupt _ stale => inferInstanceAs (Decidable (stale.isNone = true))
  | .note k => inferInstanceAs (Decidable (∀ f ∈ s.faults[k]?,
      (s.guests f.guest).attached = true → (s.guests f.guest).state ≠ .exclusive))
  | .grant k _ => inferInstanceAs (Decidable (∀ a ∈ s.acquires[k]?, ∀ e ∈ s.dir,
      (e.state = .exclusive → e.owner = a.guest) ∧ (carriers s).isEmpty = true ∧
        Fresh s a.guest))
  | .upgrade k => inferInstanceAs (Decidable (∀ a ∈ s.acquires[k]?,
      (s.guests a.guest).attached = true →
        s.Owns a.guest ∧ (carriers s).isEmpty = true ∧ Fresh s a.guest))
  | .store g _ _ => inferInstanceAs (Decidable ((s.guests g).attached = true ∧
      (s.guests g).state = .exclusive))
  | .invalidate k => inferInstanceAs (Decidable (∀ v ∈ s.invalidates[k]?, ∀ e ∈ s.dir,
      e.state = .exclusive → s.node e.owner = v.node → e.owner = v.acquirer))
  | .leave g packed => inferInstanceAs (Decidable ((s.guests g).state = .exclusive →
      packed = true))
  | .attach _ _ state => inferInstanceAs (Decidable (state ≠ .exclusive))
  | .applyUpdate k ok => inferInstanceAs (Decidable (∀ u ∈ s.updates[k]?,
      ok = true ∧ u.madeAt = s.grants.length))
  | .cleanup k => inferInstanceAs (Decidable (∀ u ∈ s.updates[k]?, s.Owns u.guest → Quiet s))
  | .remove => inferInstanceAs (Decidable (Quiet s))
  | .fault _ | .look .. | .flush _ | .flushZap .. | .record .. | .insert .. | .acquire _ | .retry _
  | .makeWritable _ | .invalidateZap .. | .unmap _ | .register => isTrue trivial

end MattX.PageHandovers
