import MattX.SlotTable
import MattX.MigrationCapture
import Mathlib.Data.Int.Notation
import Mathlib.Data.List.Nodup

set_option autoImplicit false

/-!
# The clock-offset fixup table

Entries are never freed. A ledger says what the table stands for: the pids that
have an entry, in the order of the slots, and what is left of the last
registration of each.
-/
namespace MattX.ClockFixups
open MigrationCapture (maxGangThreads)

def maxClockFixups : ℕ := 64

structure Fixup where
  inUse : Bool
  localPid : ℤ
  offsetNs : ℤ
  threadCount : ℕ
  tids : ℕ → ℤ
  pending : ℕ → Bool

abbrev Table := SlotTable Fixup

def clockFixups : Table :=
  { slot := fun _ => ⟨false, 0, 0, 0, fun _ => 0, fun _ => false⟩, count := maxClockFixups }

def clampThreads (threadCount : ℤ) : ℕ := (max 0 (min threadCount maxGangThreads)).toNat

def Fixup.isFor (localPid : ℤ) (f : Fixup) : Bool := f.inUse && f.localPid == localPid

def registerSlot (t : Table) (localPid : ℤ) : ℕ :=
  match t.find? (Fixup.isFor localPid) with
  | some i => i
  | none =>
    match t.find? fun f => !f.inUse with
    | some i => i
    | none => 0

/-- `tids` and `pending` keep what is beyond the new `thread_count`. -/
def Fixup.refill (localPid offsetNs : ℤ) (threadCount : ℕ) (tids : ℕ → ℤ) (f : Fixup) : Fixup :=
  { inUse := true
    localPid
    offsetNs
    threadCount
    tids := fun i => if i < threadCount then tids i else f.tids i
    pending := fun i => if i < threadCount then true else f.pending i }

def mattxClockFixupRegister (t : Table) (localPid offsetNs threadCount : ℤ) (tids : ℕ → ℤ) :
    Table :=
  t.modify (registerSlot t localPid)
    (Fixup.refill localPid offsetNs (clampThreads threadCount) tids)

def Fixup.pendingFor (tid : ℤ) (f : Fixup) : Option ℕ :=
  (List.range f.threadCount).find? fun j => f.tids j == tid && f.pending j

def Fixup.settle (j : ℕ) (f : Fixup) : Fixup :=
  { f with pending := Function.update f.pending j false }

/-- The offset, if there is one to apply, and the table it leaves. -/
def mattxClockFixupConsume (t : Table) (localPid tid : ℤ) : Option ℤ × Table :=
  match t.find? (Fixup.isFor localPid) with
  | none => (none, t)
  | some i =>
    match (t.slot i).pendingFor tid with
    | none => (none, t)
    | some j => (some (t.slot i).offsetNs, t.modify i (Fixup.settle j))

/-! ### What the table stands for -/

structure Ledger where
  pids : List ℤ
  offset : ℤ → ℤ
  waiting : ℤ → List ℤ

def Ledger.empty : Ledger := ⟨[], fun _ => 0, fun _ => []⟩

/-- Once all the slots are taken the entry of the first one is given away. -/
def Ledger.enter (l : Ledger) (pid : ℤ) : List ℤ :=
  if pid ∈ l.pids then l.pids
  else if l.pids.length < maxClockFixups then l.pids ++ [pid]
  else l.pids.set 0 pid

def Ledger.register (l : Ledger) (pid offset : ℤ) (tids : List ℤ) : Ledger :=
  { pids := l.enter pid
    offset := Function.update l.offset pid offset
    waiting := Function.update l.waiting pid tids }

def Ledger.Waits (l : Ledger) (pid tid : ℤ) : Prop := pid ∈ l.pids ∧ tid ∈ l.waiting pid

instance (l : Ledger) (pid tid : ℤ) : Decidable (l.Waits pid tid) := instDecidableAnd

def Ledger.due (l : Ledger) (pid tid : ℤ) : Option ℤ :=
  if l.Waits pid tid then some (l.offset pid) else none

def Ledger.settle (l : Ledger) (pid tid : ℤ) : Ledger :=
  { l with waiting := Function.update l.waiting pid ((l.waiting pid).filter (· ≠ tid)) }

def Ledger.consume (l : Ledger) (pid tid : ℤ) : Ledger :=
  if l.Waits pid tid then l.settle pid tid else l

/-- `f` is the entry that the ledger has for `pid`. -/
structure Entry (l : Ledger) (pid : ℤ) (f : Fixup) : Prop where
  inUse : f.inUse = true
  localPid : f.localPid = pid
  offset : f.offsetNs = l.offset pid
  distinct : ∀ j < f.threadCount, ∀ k < f.threadCount, f.tids j = f.tids k → j = k
  waiting : ∀ tid, tid ∈ l.waiting pid ↔
    ∃ j < f.threadCount, f.tids j = tid ∧ f.pending j = true

structure Represents (t : Table) (l : Ledger) : Prop where
  count : t.count = maxClockFixups
  room : l.pids.length ≤ maxClockFixups
  once : l.pids.Nodup
  entry : ∀ i pid, l.pids[i]? = some pid → Entry l pid (t.slot i)
  free : ∀ i < maxClockFixups, l.pids[i]? = none → (t.slot i).inUse = false

theorem represents_start : Represents clockFixups Ledger.empty := by
  refine ⟨rfl, Nat.zero_le _, List.nodup_nil, ?_, ?_⟩
  · intro i pid here
    cases here
  · intro i _ _
    rfl

section
variable {t : Table} {l : Ledger}

theorem Entry.isFor {pid : ℤ} {f : Fixup} (e : Entry l pid f) (other : ℤ) :
    f.isFor other = true ↔ other = pid := by
  rw [Fixup.isFor, e.inUse, e.localPid, Bool.true_and, beq_iff_eq]
  exact eq_comm

theorem Represents.isFor (r : Represents t l) {i : ℕ} (live : i < t.count) (pid : ℤ) :
    (t.slot i).isFor pid = true ↔ l.pids[i]? = some pid := by
  cases here : l.pids[i]? with
  | none =>
    have unused := r.free i (r.count ▸ live) here
    simp [Fixup.isFor, unused]
  | some other =>
    rw [(r.entry i other here).isFor, Option.some_inj]
    exact eq_comm

theorem Represents.lt (r : Represents t l) {i : ℕ} {pid : ℤ} (here : l.pids[i]? = some pid) :
    i < t.count := by
  have inside := (List.getElem?_eq_some_iff.mp here).1
  have room := r.room
  rw [r.count]
  omega

theorem Represents.unique (r : Represents t l) {i j : ℕ} {pid : ℤ} (hi : l.pids[i]? = some pid)
    (hj : l.pids[j]? = some pid) : i = j :=
  (List.getElem?_inj (List.getElem?_eq_some_iff.mp hi).1 r.once).mp (hi.trans hj.symm)

/-- The search for a pid finds its place in the ledger. -/
theorem Represents.find (r : Represents t l) {i : ℕ} {pid : ℤ} (here : l.pids[i]? = some pid) :
    t.find? (Fixup.isFor pid) = some i := by
  refine SlotTable.find?_eq_some.mpr ⟨r.lt here, (r.isFor (r.lt here) pid).mpr here, ?_⟩
  intro j before found
  have there := (r.isFor (lt_trans before (r.lt here)) pid).mp found
  exact before.ne (r.unique there here)

theorem Represents.find_none (r : Represents t l) {pid : ℤ} (absent : pid ∉ l.pids) :
    t.find? (Fixup.isFor pid) = none := by
  refine SlotTable.find?_eq_none.mpr fun i live found => absent ?_
  exact List.mem_of_getElem? ((r.isFor live pid).mp found)

theorem Represents.find_free (r : Represents t l) (short : l.pids.length < maxClockFixups) :
    t.find? (fun f => !f.inUse) = some l.pids.length := by
  refine SlotTable.find?_eq_some.mpr ⟨r.count ▸ short, ?_, ?_⟩
  · rw [r.free _ short (List.getElem?_eq_none (le_refl _)), Bool.not_false]
  · intro j before
    rw [(r.entry j _ (List.getElem?_eq_getElem before)).inUse]
    decide

theorem Represents.find_full (r : Represents t l) (full : ¬ l.pids.length < maxClockFixups) :
    t.find? (fun f => !f.inUse) = none := by
  refine SlotTable.find?_eq_none.mpr fun i live => ?_
  rw [r.count] at live
  have inside : i < l.pids.length := by omega
  rw [(r.entry i _ (List.getElem?_eq_getElem inside)).inUse]
  decide

/-! ### Registration -/

/-- Every index of `tids` below `n` is that of another thread. -/
def Distinct (n : ℕ) (tids : ℕ → ℤ) : Prop := ∀ j < n, ∀ k < n, tids j = tids k → j = k

theorem Entry.frame {l' : Ledger} {pid : ℤ} {f : Fixup} (e : Entry l pid f)
    (offset : l'.offset pid = l.offset pid) (waiting : l'.waiting pid = l.waiting pid) :
    Entry l' pid f := by
  refine ⟨e.inUse, e.localPid, ?_, e.distinct, ?_⟩
  · rw [offset]
    exact e.offset
  · rw [waiting]
    exact e.waiting

theorem entry_refill {n : ℕ} {tids : ℕ → ℤ} (distinct : Distinct n tids) (pid offset : ℤ)
    (f : Fixup) (pids : List ℤ) :
    Entry ⟨pids, Function.update l.offset pid offset,
      Function.update l.waiting pid ((List.range n).map tids)⟩ pid
      (f.refill pid offset n tids) := by
  refine ⟨rfl, rfl, ?_, ?_, ?_⟩
  · exact (Function.update_self pid offset l.offset).symm
  · intro j hj k hk same
    simp only [Fixup.refill] at hj hk same
    rw [if_pos hj, if_pos hk] at same
    exact distinct j hj k hk same
  · intro tid
    change tid ∈ Function.update l.waiting pid _ pid ↔ _
    rw [Function.update_self, List.mem_map]
    constructor
    · rintro ⟨j, mem, rfl⟩
      have lt := List.mem_range.mp mem
      exact ⟨j, lt, if_pos lt, if_pos lt⟩
    · rintro ⟨j, lt, same, _⟩
      refine ⟨j, List.mem_range.mpr lt, ?_⟩
      rw [← same]
      exact (if_pos lt).symm

/-- One slot is refilled for a pid that has no entry elsewhere. -/
theorem Represents.refill (r : Represents t l) {k n : ℕ} {pid : ℤ} {pids : List ℤ}
    {tids : ℕ → ℤ} (distinct : Distinct n tids) (offset : ℤ)
    (placed : ∀ i, pids[i]? = if i = k then some pid else l.pids[i]?)
    (only : ∀ i, l.pids[i]? = some pid → i = k)
    (room : pids.length ≤ maxClockFixups) :
    Represents (t.modify k (Fixup.refill pid offset n tids))
      ⟨pids, Function.update l.offset pid offset,
        Function.update l.waiting pid ((List.range n).map tids)⟩ := by
  refine ⟨r.count, room, ?_, ?_, ?_⟩
  · refine List.nodup_iff_getElem?_ne_getElem?.mpr fun i j before inside same => ?_
    have ⟨other, there⟩ : ∃ other, pids[j]? = some other := ⟨_, List.getElem?_eq_getElem inside⟩
    rw [there, placed] at same
    rw [placed] at there
    by_cases i_k : i = k
    · rw [if_pos i_k] at same
      rw [if_neg (by omega), ← same] at there
      exact absurd (only j there) (by omega)
    · rw [if_neg i_k] at same
      by_cases j_k : j = k
      · rw [if_pos j_k] at there
        exact i_k (only i (same.trans there.symm))
      · rw [if_neg j_k] at there
        exact absurd (r.unique same there) (by omega)
  · intro i other here
    rw [placed] at here
    rw [SlotTable.modify_slot]
    by_cases at_k : i = k
    · rw [if_pos at_k] at here
      obtain rfl := Option.some_inj.mp here
      rw [if_pos at_k]
      exact entry_refill distinct pid offset _ pids
    · rw [if_neg at_k] at here
      have apart : other ≠ pid := by
        intro same
        exact at_k (only i (same ▸ here))
      rw [if_neg at_k]
      exact (r.entry i other here).frame (Function.update_of_ne apart ..)
        (Function.update_of_ne apart ..)
  · intro i small gone
    rw [placed] at gone
    rw [SlotTable.modify_slot]
    by_cases at_k : i = k
    · rw [if_pos at_k] at gone
      cases gone
    · rw [if_neg at_k] at gone ⊢
      exact r.free i small gone

theorem Represents.register (r : Represents t l) {pid offset threadCount : ℤ} {tids : ℕ → ℤ}
    (distinct : Distinct (clampThreads threadCount) tids) :
    Represents (mattxClockFixupRegister t pid offset threadCount tids)
      (l.register pid offset ((List.range (clampThreads threadCount)).map tids)) := by
  rw [mattxClockFixupRegister, Ledger.register, Ledger.enter, registerSlot]
  by_cases known : pid ∈ l.pids
  · obtain ⟨k, here⟩ := List.mem_iff_getElem?.mp known
    rw [if_pos known, r.find here]
    refine r.refill distinct offset ?_ (fun i there => r.unique there here) r.room
    intro i
    by_cases at_k : i = k
    · rw [if_pos at_k, at_k]
      exact here
    · rw [if_neg at_k]
  · have only : ∀ i k : ℕ, l.pids[i]? = some pid → i = k := by
      intro i k there
      exact absurd (List.mem_of_getElem? there) known
    rw [if_neg known, r.find_none known]
    by_cases short : l.pids.length < maxClockFixups
    · rw [if_pos short]
      simp only [r.find_free short]
      refine r.refill distinct offset ?_ (fun i => only i _) ?_
      · intro i
        rw [List.getElem?_append]
        by_cases last : i = l.pids.length
        · simp [last]
        · rw [if_neg last]
          split_ifs with inside
          · rfl
          · rw [List.getElem?_eq_none (by omega : l.pids.length ≤ i)]
            exact List.getElem?_eq_none (by rw [List.length_singleton]; omega)
      · rw [List.length_append, List.length_singleton]
        omega
    · -- the ledger is full, so its first place is taken
      have some_entry : 0 < l.pids.length := by
        have full : maxClockFixups = 64 := rfl
        omega
      rw [if_neg short]
      simp only [r.find_full short]
      refine r.refill distinct offset ?_ (fun i => only i _) ?_
      · intro i
        rw [List.getElem?_set]
        by_cases first : i = 0
        · rw [if_pos first, if_pos first.symm, if_pos (first ▸ some_entry)]
        · rw [if_neg first, if_neg (Ne.symm first)]
      · rw [List.length_set]
        exact r.room

/-! ### Consumption -/

theorem Entry.pendingFor {pid : ℤ} {f : Fixup} (e : Entry l pid f) (tid : ℤ) :
    tid ∈ l.waiting pid ↔ ∃ j, f.pendingFor tid = some j := by
  rw [e.waiting, ← Option.isSome_iff_exists, Fixup.pendingFor, List.find?_isSome]
  simp

/-- Clearing a thread's flag takes just that thread off the list. -/
theorem Entry.settle {pid tid : ℤ} {f : Fixup} {j : ℕ} (e : Entry l pid f)
    (found : f.pendingFor tid = some j) : Entry (l.settle pid tid) pid (f.settle j) := by
  have ⟨hit, inside⟩ := And.intro (List.find?_some found) (List.mem_of_find?_eq_some found)
  rw [Bool.and_eq_true, beq_iff_eq] at hit
  have small : j < f.threadCount := List.mem_range.mp inside
  refine ⟨e.inUse, e.localPid, e.offset, e.distinct, ?_⟩
  intro other
  change other ∈ Function.update l.waiting pid _ pid ↔ _
  rw [Function.update_self, List.mem_filter, e.waiting]
  constructor
  · rintro ⟨⟨k, lt, same, flag⟩, apart⟩
    refine ⟨k, lt, same, ?_⟩
    have elsewhere : k ≠ j := by
      intro here
      have : other = tid := by rw [← same, here, hit.1]
      simp [this] at apart
    exact (Function.update_of_ne elsewhere ..).trans flag
  · rintro ⟨k, lt, same, flag⟩
    have elsewhere : k ≠ j := by
      intro here
      simp [Fixup.settle, here] at flag
    refine ⟨⟨k, lt, same, ?_⟩, ?_⟩
    · exact (Function.update_of_ne elsewhere ..).symm.trans flag
    · have apart : other ≠ tid := by
        intro same'
        exact elsewhere (e.distinct k lt j small (by rw [hit.1, ← same']; exact same))
      simpa using apart

theorem Represents.settle (r : Represents t l) {k j : ℕ} {pid tid : ℤ}
    (here : l.pids[k]? = some pid) (found : (t.slot k).pendingFor tid = some j) :
    Represents (t.modify k (Fixup.settle j)) (l.settle pid tid) := by
  refine ⟨r.count, r.room, r.once, ?_, ?_⟩
  · intro i other there
    rw [SlotTable.modify_slot]
    by_cases at_k : i = k
    · rw [if_pos at_k]
      rw [at_k] at there
      obtain rfl := Option.some_inj.mp (here.symm.trans there)
      exact (r.entry k pid here).settle found
    · have apart : other ≠ pid := fun same => at_k (r.unique (same ▸ there) here)
      rw [if_neg at_k]
      exact (r.entry i other there).frame rfl (Function.update_of_ne apart ..)
  · intro i small gone
    have apart : i ≠ k := by
      intro same
      rw [same] at gone
      cases gone.symm.trans here
    rw [SlotTable.modify_slot, if_neg apart]
    exact r.free i small gone

/-- The table answers with what the ledger has for the thread. -/
theorem Represents.consume (r : Represents t l) (pid tid : ℤ) :
    (mattxClockFixupConsume t pid tid).1 = l.due pid tid := by
  rw [mattxClockFixupConsume, Ledger.due]
  by_cases known : pid ∈ l.pids
  · obtain ⟨k, here⟩ := List.mem_iff_getElem?.mp known
    have e := r.entry k pid here
    simp only [r.find here]
    cases found : (t.slot k).pendingFor tid with
    | none =>
      have absent : tid ∉ l.waiting pid := by
        rw [e.pendingFor, found]
        simp
      rw [if_neg fun waits => absent waits.2]
    | some j =>
      have waits : l.Waits pid tid := ⟨known, (e.pendingFor tid).mpr ⟨j, found⟩⟩
      rw [if_pos waits, e.offset]
  · rw [r.find_none known, if_neg fun waits => known waits.1]

/-- It keeps representing the ledger, whose thread waits no longer. -/
theorem Represents.consumed (r : Represents t l) (pid tid : ℤ) :
    Represents (mattxClockFixupConsume t pid tid).2 (l.consume pid tid) := by
  rw [mattxClockFixupConsume, Ledger.consume]
  by_cases known : pid ∈ l.pids
  · obtain ⟨k, here⟩ := List.mem_iff_getElem?.mp known
    have e := r.entry k pid here
    simp only [r.find here]
    cases found : (t.slot k).pendingFor tid with
    | none =>
      have absent : tid ∉ l.waiting pid := by
        rw [e.pendingFor, found]
        simp
      rw [if_neg fun waits => absent waits.2]
      exact r
    | some j =>
      rw [if_pos ⟨known, (e.pendingFor tid).mpr ⟨j, found⟩⟩]
      exact r.settle here found
  · rw [r.find_none known, if_neg fun waits => known waits.1]
    exact r

end
end MattX.ClockFixups
