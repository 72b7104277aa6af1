import MattX.DsmTypes
import MattX.GuardedRuns
import Mathlib.Data.List.Infix
import Mathlib.Logic.Function.Basic
import Mathlib.Tactic.Common

set_option autoImplicit false

/-!
# Mode 1: sweeps, faults and updates of one page

One guest writes the page and any number of them read it. A byte carries the
number of the store that put it there, 0 if none did. The steps of the
sweeper, of the faults and of the kworkers on the home node come in any order;
an update that finds no page to write to is one that is never applied.
-/
namespace MattX.PageSweeps
open GuardedRuns

structure Store where
  off : Fin pageSize
  byte : BitVec 8
  deriving DecidableEq

structure Cell where
  byte : BitVec 8
  stamp : ℕ

/-- A page with the stores its bytes are from. -/
abbrev Cells := Fin pageSize → Cell

/-- How far `mattx_dsm_fault` has come. A reply has the page, and beside it the stores the home
page had and those there were when the kworker read it. -/
inductive FaultStage where
  | asked
  | replied (page : Cells) (fetched since : List Store)
  | filled
  | inserted

def FaultStage.reached : FaultStage → ℕ
  | .asked => 0
  | .replied .. => 1
  | .filled => 2
  | .inserted => 3

/-- Nothing was stored since the kworker read the page. -/
def FaultStage.Fresh : FaultStage → List Store → Prop
  | .replied _ _ since, stores => since = stores
  | _, _ => True

instance (stage : FaultStage) (stores : List Store) : Decidable (stage.Fresh stores) :=
  match stage with
  | .replied _ _ since => inferInstanceAs (Decidable (since = stores))
  | .asked | .filled | .inserted => isTrue trivial

structure Fault where
  guest : ℕ
  stage : FaultStage

/-- Where the sweeper is in its turn for a guest, with the bit of its copy of `present_pages`. -/
inductive Sweep where
  | idle
  | grabbed (bit : Bool)
  | swept
  deriving DecidableEq

/-- `pages[p]`, its page table entry and its bit. `fetched` has the stores of the home page it was
filled from. -/
structure Guest where
  copy : Cells
  fetched : List Store
  mapped : Bool
  present : Bool
  sweep : Sweep

/-- A PAGE_UPDATE, with the stores there were when its page was copied. -/
structure Update where
  guest : ℕ
  page : Cells
  asOf : List Store
  fetched : List Store

/-- The latest store is the first of `stores`. `sent` are those before the copy of the last update
the writer sent, and `home` those before the copy of the last one that was applied. -/
structure State where
  writer : ℕ
  ram : Cells
  home : List Store
  stores : List Store
  sent : List Store
  guests : ℕ → Guest
  faults : List Fault
  updates : List Update

inductive Event where
  | fault (g : ℕ)
  | serve (k : ℕ)
  | fill (k : ℕ)
  | wake (k : ℕ) (garbage : Page)
  | abort (k : ℕ)
  | insert (k : ℕ)
  | mark (k : ℕ)
  | store (off : Fin pageSize) (byte : BitVec 8)
  | grab (g : ℕ)
  | copy (g : ℕ) (ok : Bool)
  | zap (g : ℕ)
  | apply (k : ℕ)

namespace State

def setGuest (s : State) (g : ℕ) (x : Guest) : State :=
  { s with guests := Function.update s.guests g x }

def moveFault (s : State) (k g : ℕ) (stage : FaultStage) : State :=
  { s with faults := s.faults.set k ⟨g, stage⟩ }

/-- `mattx_dsm_fault_kworker` reads the page at home. -/
def mattxDsmFaultKworker (s : State) (k : ℕ) : State :=
  match s.faults[k]? with
  | some f => s.moveFault k f.guest (.replied s.ram s.home s.stores)
  | none => s

/-- `mattx_dsm_fault` copies the reply into the guest's page. -/
def fill (s : State) (k : ℕ) : State :=
  match s.faults[k]? with
  | some ⟨g, .replied page fetched _⟩ =>
    (s.setGuest g { s.guests g with copy := page, fetched := fetched }).moveFault k g .filled
  | _ => s

/-- A signal ends the wait while the slot still holds error 0 of an earlier use, and a buffer that
nobody has filled is copied. -/
def wake (s : State) (k : ℕ) (garbage : Page) : State :=
  match s.faults[k]? with
  | some f => (s.setGuest f.guest { s.guests f.guest with
      copy := fun i => ⟨garbage i, 0⟩, fetched := [] }).moveFault k f.guest .filled
  | none => s

/-- `vmf_insert_pfn`, with all rights. -/
def insert (s : State) (k : ℕ) : State :=
  match s.faults[k]? with
  | some f => (s.setGuest f.guest { s.guests f.guest with mapped := true }).moveFault k f.guest
      .inserted
  | none => s

def mark (s : State) (k : ℕ) : State :=
  match s.faults[k]? with
  | some f => { s.setGuest f.guest { s.guests f.guest with present := true } with
      faults := s.faults.eraseIdx k }
  | none => s

def store (s : State) (off : Fin pageSize) (byte : BitVec 8) : State :=
  let w := s.guests s.writer
  { s.setGuest s.writer { w with
      copy := Function.update w.copy off ⟨byte, s.stores.length + 1⟩ } with
    stores := ⟨off, byte⟩ :: s.stores }

/-- `mattx_dsm_sweeper_loop` takes the bits of a guest. -/
def grab (s : State) (g : ℕ) : State :=
  let x := s.guests g
  s.setGuest g { x with present := false, sweep := .grabbed x.present }

/-- Its copy of the page goes out as an update, unless there is no memory or no link. -/
def copy (s : State) (g : ℕ) (ok : Bool) : State :=
  let x := s.guests g
  let s' := s.setGuest g { x with sweep := .swept }
  if ok then
    { s' with
      sent := if g = s.writer then s.stores else s.sent
      updates := s.updates ++ [⟨g, x.copy, s.stores, x.fetched⟩] }
  else s'

/-- It zaps the whole area, with or without a bit for the page. -/
def zap (s : State) (g : ℕ) : State :=
  s.setGuest g { s.guests g with mapped := false, sweep := .idle }

/-- `mattx_dsm_update_kworker` writes all of the page. -/
def mattxDsmUpdateKworker (s : State) (k : ℕ) : State :=
  match s.updates[k]? with
  | some u => { s with
      ram := u.page
      home := if u.guest = s.writer then u.asOf else s.home
      updates := s.updates.eraseIdx k }
  | none => s

end State

def enabled (s : State) : Event → Prop
  | .fault g => (s.guests g).mapped = false
  | .serve k => ∃ f ∈ s.faults[k]?, f.stage.reached = 0
  | .fill k => ∃ f ∈ s.faults[k]?, f.stage.reached = 1
  | .wake k _ => ∃ f ∈ s.faults[k]?, f.stage.reached ≤ 1
  | .abort k => ∃ f ∈ s.faults[k]?, f.stage.reached ≤ 2
  | .insert k => ∃ f ∈ s.faults[k]?, f.stage.reached = 2
  | .mark k => ∃ f ∈ s.faults[k]?, f.stage.reached = 3
  | .store _ _ => (s.guests s.writer).mapped = true
  | .grab g => (s.guests g).sweep = .idle
  | .copy g _ => (s.guests g).sweep = .grabbed true
  | .zap g => (s.guests g).sweep = .grabbed false ∨ (s.guests g).sweep = .swept
  | .apply k => k < s.updates.length

def next (s : State) : Event → State
  | .fault g => { s with faults := s.faults ++ [⟨g, .asked⟩] }
  | .serve k => s.mattxDsmFaultKworker k
  | .fill k => s.fill k
  | .wake k garbage => s.wake k garbage
  | .abort k => { s with faults := s.faults.eraseIdx k }
  | .insert k => s.insert k
  | .mark k => s.mark k
  | .store off byte => s.store off byte
  | .grab g => s.grab g
  | .copy g ok => s.copy g ok
  | .zap g => s.zap g
  | .apply k => s.mattxDsmUpdateKworker k

def machine : Machine State Event := ⟨enabled, next⟩

instance (s : State) (e : Event) : Decidable (machine.enabled s e) :=
  match e with
  | .fault g => inferInstanceAs (Decidable ((s.guests g).mapped = false))
  | .serve k => inferInstanceAs (Decidable (∃ f ∈ s.faults[k]?, f.stage.reached = 0))
  | .fill k => inferInstanceAs (Decidable (∃ f ∈ s.faults[k]?, f.stage.reached = 1))
  | .wake k _ => inferInstanceAs (Decidable (∃ f ∈ s.faults[k]?, f.stage.reached ≤ 1))
  | .abort k => inferInstanceAs (Decidable (∃ f ∈ s.faults[k]?, f.stage.reached ≤ 2))
  | .insert k => inferInstanceAs (Decidable (∃ f ∈ s.faults[k]?, f.stage.reached = 2))
  | .mark k => inferInstanceAs (Decidable (∃ f ∈ s.faults[k]?, f.stage.reached = 3))
  | .store _ _ => inferInstanceAs (Decidable ((s.guests s.writer).mapped = true))
  | .grab g => inferInstanceAs (Decidable ((s.guests g).sweep = .idle))
  | .copy g _ => inferInstanceAs (Decidable ((s.guests g).sweep = .grabbed true))
  | .zap g => inferInstanceAs (Decidable ((s.guests g).sweep = .grabbed false ∨
      (s.guests g).sweep = .swept))
  | .apply k => inferInstanceAs (Decidable (k < s.updates.length))

/-- Nothing is mapped anywhere, and the home page has the bytes of `ram`. -/
def boot (writer : ℕ) (ram : Page) (frames : ℕ → Page) : State where
  writer := writer
  ram i := ⟨ram i, 0⟩
  home := []
  stores := []
  sent := []
  guests g := ⟨fun i => ⟨frames g i, 0⟩, [], false, false, .idle⟩
  faults := []
  updates := []

/-! ### What no run may lose -/

/-- Every store is in the page, or a later one to the same byte. -/
def Contains (page : Cells) : List Store → Prop
  | [] => True
  | x :: l => l.length + 1 ≤ (page x.off).stamp ∧ Contains page l

instance decidableContains (page : Cells) : DecidablePred (Contains page)
  | [] => isTrue trivial
  | x :: l =>
    have := decidableContains page l
    inferInstanceAs (Decidable (l.length + 1 ≤ (page x.off).stamp ∧ Contains page l))

/-- Every store is in the page of the home node unless an update made after it is still out. -/
def Arrived (ram : Cells) (out : List (List Store)) : List Store → Prop
  | [] => True
  | x :: l => ((∀ asOf ∈ out, ¬x :: l <:+ asOf) → l.length + 1 ≤ (ram x.off).stamp) ∧
      Arrived ram out l

instance decidableArrived (ram : Cells) (out : List (List Store)) : DecidablePred (Arrived ram out)
  | [] => isTrue trivial
  | x :: l =>
    have := decidableArrived ram out l
    inferInstanceAs (Decidable (((∀ asOf ∈ out, ¬x :: l <:+ asOf) →
      l.length + 1 ≤ (ram x.off).stamp) ∧ Arrived ram out l))

/-- The updates of the writer that have not been applied. -/
def outstanding (s : State) : List (List Store) :=
  (s.updates.filter fun u => u.guest == s.writer).map Update.asOf

/-- The home page has the stores that an update was sent after, once such updates are applied. -/
def HomeRight (s : State) : Prop := Arrived s.ram (outstanding s) s.sent

/-- The page in the writer's hands has all of its stores. -/
def WriterRight (s : State) : Prop := Contains (s.guests s.writer).copy s.stores

instance (s : State) : Decidable (HomeRight s) := decidableArrived _ _ _

instance (s : State) : Decidable (WriterRight s) := decidableContains _ _

/-- What a fault brings back to the writer has its stores, the update of a reader replaces no byte
by an older one, and home is right after the step. -/
def Right (s : State) (e : Event) : Prop :=
  HomeRight (next s e) ∧
    match e with
    | .fill k | .wake k _ => ∀ f ∈ s.faults[k]?, f.guest = s.writer → WriterRight (next s e)
    | .apply k => ∀ u ∈ s.updates[k]?, u.guest ≠ s.writer → ∀ i, (s.ram i).stamp ≤ (u.page i).stamp
    | _ => True

instance (s : State) (e : Event) : Decidable (Right s e) :=
  match e with
  | .fill k | .wake k _ => inferInstanceAs (Decidable (_ ∧ ∀ f ∈ s.faults[k]?,
      f.guest = s.writer → WriterRight _))
  | .apply k => inferInstanceAs (Decidable (_ ∧ ∀ u ∈ s.updates[k]?,
      u.guest ≠ s.writer → ∀ i, (s.ram i).stamp ≤ (u.page i).stamp))
  | .fault _ | .serve _ | .abort _ | .insert _ | .mark _ | .store _ _ | .grab _ | .copy _ _
  | .zap _ => inferInstanceAs (Decidable (_ ∧ True))

/-- The writer's faults are served when its last store has been swept, sent and applied, and it
stores nothing until it has the page; it is not woken without one. Its updates are applied in
order, and those of a reader while nothing newer than its page has been applied. -/
def Met (s : State) : Event → Prop
  | .serve k => ∀ f ∈ s.faults[k]?, f.guest = s.writer →
    s.sent = s.stores ∧ ∀ asOf ∈ outstanding s, asOf <:+ s.home
  | .fill k => ∀ f ∈ s.faults[k]?, f.guest = s.writer → f.stage.Fresh s.stores
  | .wake k _ => ∀ f ∈ s.faults[k]?, f.guest = s.writer → s.stores = []
  | .apply k => ∀ u ∈ s.updates[k]?,
    if u.guest = s.writer then s.home <:+ u.asOf else u.fetched = s.home
  | _ => True

instance (s : State) (e : Event) : Decidable (Met s e) :=
  match e with
  | .serve k => inferInstanceAs (Decidable (∀ f ∈ s.faults[k]?, f.guest = s.writer →
      s.sent = s.stores ∧ ∀ asOf ∈ outstanding s, asOf <:+ s.home))
  | .fill k => inferInstanceAs (Decidable (∀ f ∈ s.faults[k]?, f.guest = s.writer →
      f.stage.Fresh s.stores))
  | .wake k _ => inferInstanceAs (Decidable (∀ f ∈ s.faults[k]?, f.guest = s.writer →
      s.stores = []))
  | .apply k => inferInstanceAs (Decidable (∀ u ∈ s.updates[k]?,
      if u.guest = s.writer then s.home <:+ u.asOf else u.fetched = s.home))
  | .fault _ | .abort _ | .insert _ | .mark _ | .store _ _ | .grab _ | .copy _ _ | .zap _ =>
    isTrue trivial

end MattX.PageSweeps
