import MattX.GuardedRuns
import MattX.ClockFixups
import Mathlib.Algebra.BigOperators.Group.List.Basic
import Mathlib.Algebra.Order.Ring.Int
import Mathlib.Data.List.GetD

set_option autoImplicit false

/-!
# Absolute sleeps across migrations

Each node keeps its own fixup table. A process awakes on a node after a
migration or a return, with a pid of that node, which another process may have
had before. What a deadline is due follows from the clocks that its process was
frozen and awakened at since the deadline was computed.
-/
namespace MattX.SleepDeadlines
open GuardedRuns ClockFixups
open MigrationCapture (maxGangThreads)

structure Timespec where
  sec : ℤ
  nsec : ℤ
  deriving DecidableEq

def nsecPerSec : ℤ := 1000000000

def ktimeMax : ℤ := 9223372036854775807

def clockMonotonic : ℤ := 1

def clockBoottime : ℤ := 7

def timerAbstime : BitVec 32 := 1#32

/-- Arithmetic in an `s64` wraps around. -/
def s64 (n : ℤ) : ℤ := (n + 9223372036854775808) % 18446744073709551616 - 9223372036854775808

def Timespec.ofNs (ns : ℤ) : Timespec := ⟨ns / nsecPerSec, ns % nsecPerSec⟩

def corrected (rqtp : Timespec) (offsetNs : ℤ) : Timespec :=
  let oldNs := s64 (s64 (rqtp.sec * nsecPerSec) + rqtp.nsec)
  let newNs := s64 (oldNs + offsetNs)
  .ofNs (if newNs < 0 then 0 else newNs)

/-- What the hook leaves in `rqtp`, and in the table. -/
def entryHandlerClockNanosleep (t : Table) (tgid tid whichClock : ℤ) (flags : BitVec 32)
    (rqtp : Option Timespec) : Option Timespec × Table :=
  if flags &&& timerAbstime = 0 then (rqtp, t)
  else if whichClock ≠ clockMonotonic ∧ whichClock ≠ clockBoottime then (rqtp, t)
  else
    match rqtp with
    | none => (none, t)
    | some ts =>
      match mattxClockFixupConsume t tgid tid with
      | (none, t') => (some ts, t')
      | (some offsetNs, t') => (some (if offsetNs = 0 then ts else corrected ts offsetNs), t')

/-! ### Processes and their hops -/

structure Clocks where
  monotonic : ℤ
  boottime : ℤ
  deriving DecidableEq

/-- The source's clocks at the freeze and the target's at the awakening. -/
structure Hop where
  freeze : Clocks
  awake : Clocks
  deriving DecidableEq

/-- `hops`: the last one first. -/
structure Process where
  node : ℕ
  pid : ℤ
  hops : List Hop
  deriving DecidableEq

/-- `ledgers` is not in the code: what is left of the awakenings on each node. -/
structure State where
  tables : ℕ → Table
  processes : ℕ → Option Process
  ledgers : ℕ → Ledger

def start : State := ⟨fun _ => clockFixups, fun _ => none, fun _ => .empty⟩

/-- `age`: how many hops of the process the deadline is older than. -/
inductive Event where
  | exec (p node : ℕ) (pid : ℤ)
  | fork (p child : ℕ) (pid : ℤ)
  | awaken (p node : ℕ) (pid : ℤ) (tids : List ℤ) (hop : Hop)
  | exit (p : ℕ)
  | sleep (p : ℕ) (tid whichClock : ℤ) (flags : BitVec 32) (rqtp : Timespec) (age : ℕ)
  deriving DecidableEq

/-- `handle_migrate_done` and `handle_return_done` compute it alike. -/
def Hop.clockOffsetNs (h : Hop) : ℤ := s64 (h.awake.monotonic - h.freeze.monotonic)

def Corrects (whichClock : ℤ) (flags : BitVec 32) : Prop :=
  flags &&& timerAbstime ≠ 0 ∧ (whichClock = clockMonotonic ∨ whichClock = clockBoottime)

instance (whichClock : ℤ) (flags : BitVec 32) : Decidable (Corrects whichClock flags) :=
  instDecidableAnd

def Clocks.InRange (c : Clocks) : Prop :=
  (0 ≤ c.monotonic ∧ c.monotonic ≤ ktimeMax) ∧ 0 ≤ c.boottime ∧ c.boottime ≤ ktimeMax

instance (c : Clocks) : Decidable c.InRange := instDecidableAnd

def Timespec.Valid (ts : Timespec) : Prop :=
  (0 ≤ ts.sec ∧ ts.sec ≤ ktimeMax) ∧ 0 ≤ ts.nsec ∧ ts.nsec < nsecPerSec

instance (ts : Timespec) : Decidable ts.Valid := instDecidableAnd

def State.Alive (s : State) (p : ℕ) (P : Process → Prop) : Prop :=
  match s.processes p with
  | none => False
  | some q => P q

instance (s : State) (p : ℕ) (P : Process → Prop) [DecidablePred P] : Decidable (s.Alive p P) :=
  match h : s.processes p with
  | none => isFalse (by rw [State.Alive, h]; exact id)
  | some q => decidable_of_iff (P q) (by rw [State.Alive, h])

def enabled (s : State) : Event → Prop
  | .exec p _ _ => s.processes p = none
  | .fork p child _ => s.Alive p (fun _ => True) ∧ s.processes child = none
  | .awaken p _ _ tids hop =>
    s.Alive p (fun _ => True) ∧ tids.Nodup ∧ hop.freeze.InRange ∧ hop.awake.InRange
  | .exit p => s.Alive p fun _ => True
  | .sleep p _ _ _ rqtp age => s.Alive p (fun q => age ≤ q.hops.length) ∧ rqtp.Valid

def next (s : State) : Event → State
  | .exec p node pid => { s with processes := Function.update s.processes p (some ⟨node, pid, []⟩) }
  | .fork p child pid =>
    { s with
      processes :=
        Function.update s.processes child ((s.processes p).map fun q => { q with pid }) }
  | .awaken p node pid tids hop =>
    { tables := Function.update s.tables node
        (mattxClockFixupRegister (s.tables node) pid hop.clockOffsetNs tids.length
          fun i => tids.getD i 0)
      processes :=
        Function.update s.processes p ((s.processes p).map fun q => ⟨node, pid, hop :: q.hops⟩)
      ledgers := Function.update s.ledgers node
        ((s.ledgers node).register pid hop.clockOffsetNs (tids.take maxGangThreads)) }
  | .exit p => { s with processes := Function.update s.processes p none }
  | .sleep p tid whichClock flags rqtp _ =>
    match s.processes p with
    | none => s
    | some q =>
      { s with
        tables := Function.update s.tables q.node
          (entryHandlerClockNanosleep (s.tables q.node) q.pid tid whichClock flags (some rqtp)).2
        ledgers :=
          if Corrects whichClock flags then
            Function.update s.ledgers q.node ((s.ledgers q.node).consume q.pid tid)
          else s.ledgers }

instance (s : State) : ∀ e, Decidable (enabled s e)
  | .exec .. => inferInstanceAs (Decidable (_ = _))
  | .fork .. => inferInstanceAs (Decidable (_ ∧ _))
  | .awaken .. => inferInstanceAs (Decidable (_ ∧ _ ∧ _ ∧ _))
  | .exit p => inferInstanceAs (Decidable (s.Alive p fun _ => True))
  | .sleep .. => inferInstanceAs (Decidable (_ ∧ _))

def machine : Machine State Event := ⟨enabled, next⟩

instance (s : State) (e : Event) : Decidable (machine.enabled s e) :=
  inferInstanceAs (Decidable (enabled s e))

/-! ### What the caller is owed -/

def Timespec.instant (ts : Timespec) : ℤ := ts.sec * nsecPerSec + ts.nsec

def Clocks.read (c : Clocks) (whichClock : ℤ) : ℤ :=
  if whichClock = clockBoottime then c.boottime else c.monotonic

def Hop.gap (whichClock : ℤ) (h : Hop) : ℤ := h.awake.read whichClock - h.freeze.read whichClock

/-- Zero for a deadline that is not absolute or not older than the last awakening. -/
def Process.owed (q : Process) (whichClock : ℤ) (flags : BitVec 32) (age : ℕ) : ℤ :=
  if Corrects whichClock flags then ((q.hops.take age).map (Hop.gap whichClock)).sum else 0

/-- The deadline is not touched, or moved in exact integers and then clamped. -/
def Moves (rqtp : Timespec) (owed : ℤ) (passed : Option Timespec) : Prop :=
  passed = some (if owed = 0 then rqtp else .ofNs (max 0 (min ktimeMax (rqtp.instant + owed))))

instance (rqtp : Timespec) (owed : ℤ) (passed : Option Timespec) :
    Decidable (Moves rqtp owed passed) := inferInstanceAs (Decidable (_ = _))

def Kept (s : State) : Event → Prop
  | .sleep p tid whichClock flags rqtp age =>
    s.Alive p fun q => Moves rqtp (q.owed whichClock flags age)
      (entryHandlerClockNanosleep (s.tables q.node) q.pid tid whichClock flags (some rqtp)).1
  | _ => True

instance (s : State) : ∀ e, Decidable (Kept s e)
  | .sleep p tid whichClock flags rqtp age => inferInstanceAs (Decidable (s.Alive p fun q =>
    Moves rqtp (q.owed whichClock flags age)
      (entryHandlerClockNanosleep (s.tables q.node) q.pid tid whichClock flags (some rqtp)).1))
  | .exec .. | .fork .. | .awaken .. | .exit .. => isTrue trivial

/-- The thread is left with just the correction its deadline is owed, which does not take it beyond
the last instant of the clock. -/
def Met (s : State) : Event → Prop
  | .sleep p tid whichClock flags rqtp age =>
    Corrects whichClock flags → s.Alive p fun q =>
      ((s.ledgers q.node).due q.pid tid).getD 0 = q.owed whichClock flags age ∧
        (q.owed whichClock flags age ≠ 0 →
          rqtp.instant + q.owed whichClock flags age ≤ ktimeMax)
  | _ => True

instance (s : State) : ∀ e, Decidable (Met s e)
  | .sleep p tid whichClock flags rqtp age => inferInstanceAs (Decidable (
    Corrects whichClock flags → s.Alive p fun q =>
      ((s.ledgers q.node).due q.pid tid).getD 0 = q.owed whichClock flags age ∧
        (q.owed whichClock flags age ≠ 0 →
          rqtp.instant + q.owed whichClock flags age ≤ ktimeMax)))
  | .exec .. | .fork .. | .awaken .. | .exit .. => isTrue trivial

/-! ### The hook -/

theorem s64_add (a b : ℤ) : s64 (s64 a + b) = s64 (a + b) := by
  simp only [s64]
  omega

theorem s64_eq {a : ℤ} (low : -9223372036854775808 ≤ a) (high : a ≤ ktimeMax) : s64 a = a := by
  simp only [s64, ktimeMax] at *
  omega

theorem le_s64 (a : ℤ) : -9223372036854775808 ≤ s64 a := by
  simp only [s64]
  omega

theorem corrected_eq {rqtp : Timespec} {offset : ℤ} (valid : rqtp.Valid)
    (low : -9223372036854775808 ≤ offset) (fits : rqtp.instant + offset ≤ ktimeMax) :
    corrected rqtp offset = .ofNs (max 0 (min ktimeMax (rqtp.instant + offset))) := by
  have after : s64 (s64 (s64 (rqtp.sec * nsecPerSec) + rqtp.nsec) + offset) =
      rqtp.instant + offset := by
    have ⟨⟨sec, _⟩, nsec, _⟩ := valid
    have exact : rqtp.sec * nsecPerSec + (rqtp.nsec + offset) = rqtp.instant + offset := by
      rw [Timespec.instant, add_assoc]
    have above : 0 ≤ rqtp.instant := by
      simp only [Timespec.instant, nsecPerSec]
      omega
    rw [s64_add, add_assoc, s64_add, exact, s64_eq (by omega) fits]
  simp only [corrected, after, min_eq_right fits]
  congr 1
  split_ifs with negative <;> omega

section
variable {t : Table} {l : Ledger} {pid tid whichClock : ℤ} {flags : BitVec 32} {rqtp : Timespec}

theorem handler_skips (other : ¬ Corrects whichClock flags) :
    entryHandlerClockNanosleep t pid tid whichClock flags (some rqtp) = (some rqtp, t) := by
  rw [entryHandlerClockNanosleep]
  split_ifs with relative clock
  · rfl
  · rfl
  · refine absurd ⟨relative, ?_⟩ other
    omega

theorem handler_table (absolute : Corrects whichClock flags) :
    (entryHandlerClockNanosleep t pid tid whichClock flags (some rqtp)).2 =
      (mattxClockFixupConsume t pid tid).2 := by
  have ⟨relative, clock⟩ := absolute
  rw [entryHandlerClockNanosleep, if_neg relative, if_neg (by omega)]
  rcases mattxClockFixupConsume t pid tid with ⟨_ | offset, t'⟩ <;> rfl

theorem handler_passes (r : Represents t l) (absolute : Corrects whichClock flags) :
    (entryHandlerClockNanosleep t pid tid whichClock flags (some rqtp)).1 =
      some (if (l.due pid tid).getD 0 = 0 then rqtp
        else corrected rqtp ((l.due pid tid).getD 0)) := by
  have ⟨relative, clock⟩ := absolute
  rw [entryHandlerClockNanosleep, if_neg relative, if_neg (by omega), ← r.consume]
  rcases mattxClockFixupConsume t pid tid with ⟨_ | offset, t'⟩ <;> rfl

end

/-! ### Runs -/

structure Inv (s : State) : Prop where
  tables : ∀ node, Represents (s.tables node) (s.ledgers node)
  offsets : ∀ node pid, -9223372036854775808 ≤ (s.ledgers node).offset pid

theorem Inv.start : Inv start := by
  refine ⟨fun _ => represents_start, fun _ _ => ?_⟩
  change (-9223372036854775808 : ℤ) ≤ 0
  omega

theorem clampThreads_length (tids : List ℤ) :
    clampThreads tids.length = min tids.length maxGangThreads := by
  rw [clampThreads]
  omega

theorem distinct_tids {tids : List ℤ} (nodup : tids.Nodup) :
    Distinct (clampThreads tids.length) fun i => tids.getD i 0 := by
  rw [clampThreads_length]
  intro j hj k hk same
  have inside : j < tids.length ∧ k < tids.length := by omega
  change tids.getD j 0 = tids.getD k 0 at same
  rw [List.getD_eq_getElem _ _ inside.1, List.getD_eq_getElem _ _ inside.2] at same
  exact nodup.getElem_inj_iff.mp same

theorem listed_tids (tids : List ℤ) :
    (List.range (clampThreads tids.length)).map (fun i => tids.getD i 0) =
      tids.take maxGangThreads := by
  rw [clampThreads_length]
  refine List.ext_getElem (by simp [min_comm]) fun i left right => ?_
  rw [List.length_take] at right
  rw [List.getElem_map, List.getElem_range, List.getElem_take,
    List.getD_eq_getElem _ _ (by omega)]

theorem Inv.awaken {s : State} (h : Inv s) (p node : ℕ) (pid : ℤ) {tids : List ℤ} (hop : Hop)
    (nodup : tids.Nodup) : Inv (next s (.awaken p node pid tids hop)) := by
  constructor
  · intro n
    by_cases here : n = node
    · subst n
      simp only [next, Function.update_self, ← listed_tids]
      exact (h.tables node).register (distinct_tids nodup)
    · simp only [next, Function.update_of_ne here]
      exact h.tables n
  · intro n other
    by_cases here : n = node
    · subst n
      simp only [next, Function.update_self, Ledger.register]
      by_cases same : other = pid
      · rw [same, Function.update_self]
        exact le_s64 _
      · rw [Function.update_of_ne same]
        exact h.offsets node other
    · simp only [next, Function.update_of_ne here]
      exact h.offsets n other

theorem consume_offset (l : Ledger) (pid tid : ℤ) : (l.consume pid tid).offset = l.offset := by
  rw [Ledger.consume]
  split_ifs <;> rfl

theorem Inv.sleep {s : State} (h : Inv s) (p : ℕ) (tid whichClock : ℤ) (flags : BitVec 32)
    (rqtp : Timespec) (age : ℕ) : Inv (next s (.sleep p tid whichClock flags rqtp age)) := by
  simp only [next]
  cases s.processes p with
  | none => exact h
  | some q =>
    by_cases absolute : Corrects whichClock flags
    · simp only [if_pos absolute, handler_table absolute]
      constructor
      · intro n
        by_cases here : n = q.node
        · subst n
          simp only [Function.update_self]
          exact (h.tables q.node).consumed q.pid tid
        · simp only [Function.update_of_ne here]
          exact h.tables n
      · intro n other
        by_cases here : n = q.node
        · subst n
          simp only [Function.update_self, consume_offset]
          exact h.offsets q.node other
        · simp only [Function.update_of_ne here]
          exact h.offsets n other
    · simp only [if_neg absolute, handler_skips absolute, Function.update_eq_self]
      exact ⟨h.tables, h.offsets⟩

theorem Inv.next {s : State} (h : Inv s) (e : Event) (can : enabled s e) : Inv (next s e) := by
  cases e with
  | exec p node pid => exact ⟨h.tables, h.offsets⟩
  | fork p child pid => exact ⟨h.tables, h.offsets⟩
  | awaken p node pid tids hop => exact h.awaken p node pid hop can.2.1
  | exit p => exact ⟨h.tables, h.offsets⟩
  | sleep p tid whichClock flags rqtp age => exact h.sleep p tid whichClock flags rqtp age

theorem State.Alive.imp {s : State} {p : ℕ} {P Q : Process → Prop} (h : s.Alive p P)
    (gives : ∀ q, P q → Q q) : s.Alive p Q := by
  rw [State.Alive] at *
  cases here : s.processes p with
  | none =>
    rw [here] at h
    exact h
  | some q =>
    rw [here] at h
    exact gives q h

theorem due_low {s : State} (h : Inv s) (node : ℕ) (pid tid : ℤ) :
    -9223372036854775808 ≤ ((s.ledgers node).due pid tid).getD 0 := by
  rw [Ledger.due]
  split_ifs
  · exact h.offsets node pid
  · change (-9223372036854775808 : ℤ) ≤ 0
    omega

theorem kept_of_met {s : State} (h : Inv s) {e : Event} (can : enabled s e) (met : Met s e) :
    Kept s e := by
  cases e with
  | sleep p tid whichClock flags rqtp age =>
    by_cases absolute : Corrects whichClock flags
    · refine (met absolute).imp ?_
      rintro q ⟨held, fits⟩
      rw [handler_passes (h.tables q.node) absolute, held, Moves]
      by_cases owed : q.owed whichClock flags age = 0
      · rw [if_pos owed, if_pos owed]
      · rw [if_neg owed, if_neg owed]
        have low := due_low h q.node q.pid tid
        rw [held] at low
        rw [corrected_eq can.2 low (fits owed)]
    · refine can.1.imp fun q _ => ?_
      rw [handler_skips absolute, Moves, Process.owed, if_neg absolute, if_pos rfl]
  | exec | fork | awaken | exit => trivial

/-- Every sleep of a run is passed on right if each finds just what it is owed. -/
theorem deadlines_kept {events : List Event} (met : machine.Follows Met start events) :
    machine.Follows Kept start events :=
  met.entails (fun _ e h can _ => h.next e can) (fun _ _ h can ok => kept_of_met h can ok) Inv.start

/-- A process of node 0 migrates to node 1, whose monotonic clock is five seconds ahead. -/
def ahead : Event :=
  .awaken 0 1 7 [7] ⟨⟨1000000000, 1000000000⟩, ⟨6000000000, 6000000000⟩⟩

/-- The thread was asleep till second 3 of the source's clock. -/
theorem stale_deadline_kept :
    machine.Follows Kept start [.exec 0 0 100, ahead, .sleep 0 7 1 1#32 ⟨3, 0⟩ 1] :=
  by
  have met : machine.Follows Met start [.exec 0 0 100, ahead, .sleep 0 7 1 1#32 ⟨3, 0⟩ 1] := by
    decide
  exact deadlines_kept met

/-- The thread was not asleep, and asks for second 9 of the clock that it reads on node 1. -/
theorem fresh_deadline_moved :
    machine.Runs start [.exec 0 0 100, ahead, .sleep 0 7 1 1#32 ⟨9, 0⟩ 0] ∧
      ¬ machine.Follows Kept start [.exec 0 0 100, ahead, .sleep 0 7 1 1#32 ⟨9, 0⟩ 0] := by
  constructor <;> decide

end MattX.SleepDeadlines
