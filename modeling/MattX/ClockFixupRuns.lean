import MattX.GuardedRuns
import MattX.ClockFixups
import Mathlib.Data.List.Induction

set_option autoImplicit false

/-!
# Runs of the clock-offset fixup table

The two operations in any order. What a run leaves to be consumed is read off the
registrations and consumptions in it, so that an answer can be traced to the
registration it comes from.
-/
namespace MattX.ClockFixupRuns
open GuardedRuns ClockFixups

inductive Event where
  | register (localPid offsetNs threadCount : ℤ) (tids : ℕ → ℤ)
  | consume (localPid tid : ℤ)

instance (n : ℕ) (tids : ℕ → ℤ) : Decidable (Distinct n tids) :=
  inferInstanceAs (Decidable (∀ j < n, ∀ k < n, tids j = tids k → j = k))

def enabled (_ : Table) : Event → Prop
  | .register _ _ threadCount tids => Distinct (clampThreads threadCount) tids
  | .consume .. => True

def next (t : Table) : Event → Table
  | .register localPid offsetNs threadCount tids =>
    mattxClockFixupRegister t localPid offsetNs threadCount tids
  | .consume localPid tid => (mattxClockFixupConsume t localPid tid).2

instance (t : Table) : ∀ e, Decidable (enabled t e)
  | .register _ _ threadCount tids =>
    inferInstanceAs (Decidable (Distinct (clampThreads threadCount) tids))
  | .consume .. => isTrue trivial

def machine : Machine Table Event := ⟨enabled, next⟩

instance (t : Table) (e : Event) : Decidable (machine.enabled t e) :=
  inferInstanceAs (Decidable (enabled t e))

/-! ### What an answer has to come from -/

def OneEntry (t : Table) : Prop :=
  ∀ i < maxClockFixups, ∀ j < maxClockFixups, (t.slot i).inUse = true → (t.slot j).inUse = true →
    (t.slot i).localPid = (t.slot j).localPid → i = j

def Event.Registers (pid : ℤ) : Event → Prop
  | .register localPid .. => localPid = pid
  | .consume .. => False

/-- The last registration of `pid` lists `tid` with this offset, and nobody asked for it since. -/
def Due (es : List Event) (pid tid offset : ℤ) : Prop :=
  ∃ before threadCount tids since,
    es = before ++ .register pid offset threadCount tids :: since ∧
      (∃ j < clampThreads threadCount, tids j = tid) ∧
      ∀ e ∈ since, ¬e.Registers pid ∧ e ≠ .consume pid tid

section
variable {es : List Event} {pid tid offset : ℤ}

theorem due_registered (es : List Event) (pid offset threadCount : ℤ) (tids : ℕ → ℤ) {j : ℕ}
    (small : j < clampThreads threadCount) :
    Due (es ++ [.register pid offset threadCount tids]) pid (tids j) offset := by
  refine ⟨es, threadCount, tids, [], rfl, ⟨j, small, rfl⟩, ?_⟩
  intro e mem
  cases mem

theorem Due.extend (h : Due es pid tid offset) {e : Event} (same : ¬e.Registers pid)
    (unasked : e ≠ .consume pid tid) : Due (es ++ [e]) pid tid offset := by
  obtain ⟨before, threadCount, tids, since, rfl, listed, quiet⟩ := h
  refine ⟨before, threadCount, tids, since ++ [e], ?_, listed, ?_⟩
  · rw [List.append_assoc, List.cons_append]
  · intro other mem
    rcases List.mem_append.mp mem with earlier | last
    · exact quiet other earlier
    · rw [List.mem_singleton.mp last]
      exact ⟨same, unasked⟩

end

section
variable {l : Ledger}

theorem mem_enter {pid other : ℤ} (mem : other ∈ l.enter pid) (apart : other ≠ pid) :
    other ∈ l.pids := by
  rw [Ledger.enter] at mem
  split_ifs at mem
  · exact mem
  · rcases List.mem_append.mp mem with old | new
    · exact old
    · exact absurd (List.mem_singleton.mp new) apart
  · rcases List.mem_or_eq_of_mem_set mem with old | new
    · exact old
    · exact absurd new apart

theorem waits_register {pid other tid offset : ℤ} {tids : List ℤ} (apart : other ≠ pid)
    (h : (l.register pid offset tids).Waits other tid) : l.Waits other tid := by
  obtain ⟨known, listed⟩ := h
  change tid ∈ Function.update l.waiting pid tids other at listed
  rw [Function.update_of_ne apart] at listed
  exact ⟨mem_enter known apart, listed⟩

/-- Whoever still waits is not the one that has just been served. -/
theorem waits_consume {pid tid other thread : ℤ} (h : (l.consume pid tid).Waits other thread) :
    l.Waits other thread ∧ (other = pid → thread ≠ tid) := by
  rw [Ledger.consume] at h
  by_cases waiting : l.Waits pid tid
  · rw [if_pos waiting] at h
    obtain ⟨known, listed⟩ := h
    change thread ∈ Function.update l.waiting pid _ other at listed
    by_cases same : other = pid
    · subst other
      rw [Function.update_self, List.mem_filter, decide_eq_true_eq] at listed
      exact ⟨⟨known, listed.1⟩, fun _ => listed.2⟩
    · rw [Function.update_of_ne same] at listed
      exact ⟨⟨known, listed⟩, fun equal => absurd equal same⟩
  · rw [if_neg waiting] at h
    refine ⟨h, ?_⟩
    rintro rfl rfl
    exact waiting h

theorem offset_consume (pid tid : ℤ) : (l.consume pid tid).offset = l.offset := by
  rw [Ledger.consume]
  split_ifs <;> rfl

end

/-! ### Runs -/

/-- The table stands for a ledger, and whatever the ledger has waiting is due. -/
def Traced (es : List Event) : Prop :=
  ∃ l, Represents (machine.after clockFixups es) l ∧
    ∀ pid tid, l.Waits pid tid → Due es pid tid (l.offset pid)

theorem after_snoc (es : List Event) (e : Event) :
    machine.after clockFixups (es ++ [e]) = next (machine.after clockFixups es) e := by
  rw [Machine.after, List.foldl_append]
  rfl

theorem traced_start : Traced [] := by
  refine ⟨.empty, represents_start, ?_⟩
  rintro pid tid ⟨known, _⟩
  cases known

theorem Traced.register {es : List Event} (h : Traced es) (pid offset threadCount : ℤ)
    {tids : ℕ → ℤ} (distinct : Distinct (clampThreads threadCount) tids) :
    Traced (es ++ [.register pid offset threadCount tids]) := by
  obtain ⟨l, r, due⟩ := h
  refine ⟨_, by rw [after_snoc]; exact r.register distinct, ?_⟩
  intro other tid waits
  by_cases same : other = pid
  · subst other
    have listed := waits.2
    change tid ∈ Function.update l.waiting pid _ pid at listed
    rw [Function.update_self, List.mem_map] at listed
    obtain ⟨j, inside, rfl⟩ := listed
    change Due _ pid (tids j) (Function.update l.offset pid offset pid)
    rw [Function.update_self]
    exact due_registered es pid offset threadCount tids (List.mem_range.mp inside)
  · change Due _ other tid (Function.update l.offset pid offset other)
    rw [Function.update_of_ne same]
    refine (due other tid (waits_register same waits)).extend (Ne.symm same) ?_
    intro equal
    cases equal

theorem Traced.consume {es : List Event} (h : Traced es) (pid tid : ℤ) :
    Traced (es ++ [.consume pid tid]) := by
  obtain ⟨l, r, due⟩ := h
  refine ⟨_, by rw [after_snoc]; exact r.consumed pid tid, ?_⟩
  intro other thread waits
  obtain ⟨before, apart⟩ := waits_consume waits
  rw [offset_consume]
  refine (due other thread before).extend (fun registers => registers) ?_
  intro equal
  cases equal
  exact apart rfl rfl

theorem traced_run {es : List Event} (run : machine.Runs clockFixups es) : Traced es := by
  induction es using List.reverseRecOn with
  | nil => exact traced_start
  | append_singleton es e ih =>
    obtain ⟨earlier, last⟩ := Machine.follows_append.mp run
    cases e with
    | register pid offset threadCount tids => exact (ih earlier).register pid offset _ last.1
    | consume pid tid => exact (ih earlier).consume pid tid

theorem oneEntry_of {t : Table} {l : Ledger} (r : Represents t l) : OneEntry t := by
  have held : ∀ i < maxClockFixups, (t.slot i).inUse = true →
      l.pids[i]? = some (t.slot i).localPid := by
    intro i small used
    cases here : l.pids[i]? with
    | none => exact absurd (used.symm.trans (r.free i small here)) (by decide)
    | some pid => rw [(r.entry i pid here).localPid]
  intro i hi j hj used used' same
  exact r.unique (held i hi used) (same ▸ held j hj used')

theorem fixups_are_fresh {es : List Event} (run : machine.Runs clockFixups es) :
    OneEntry (machine.after clockFixups es) ∧
      ∀ pid tid offset, (mattxClockFixupConsume (machine.after clockFixups es) pid tid).1 =
        some offset → Due es pid tid offset := by
  obtain ⟨l, r, due⟩ := traced_run run
  refine ⟨oneEntry_of r, ?_⟩
  intro pid tid offset answered
  rw [r.consume, Ledger.due] at answered
  split_ifs at answered with waits
  rw [← Option.some_inj.mp answered]
  exact due pid tid waits

/-- A gang of two returns before its second thread has consumed the first fixup. -/
def comesBack : List Event :=
  [.register 7 50 2 fun j => 7 + j, .consume 7 7, .register 7 90 1 fun _ => 7]

theorem fixups_are_fresh_comesBack :
    OneEntry (machine.after clockFixups comesBack) ∧ Due comesBack 7 7 90 ∧
      (mattxClockFixupConsume (machine.after clockFixups comesBack) 7 8).1 = none := by
  have run : machine.Runs clockFixups comesBack := by decide
  have fresh := fixups_are_fresh run
  exact ⟨fresh.1, fresh.2 7 7 90 (by decide), by decide⟩

end MattX.ClockFixupRuns
