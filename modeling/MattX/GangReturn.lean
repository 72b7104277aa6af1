import MattX.MigrationCapture

set_option autoImplicit false

/-!
# The threads of a gang on their way back

State and threads are matched by their places in two lists: of the deputy and
the stub at the migration, of the surrogate and the deputy at the return.
Threads of the surrogate are numbered in the order of their creation.
-/
namespace MattX.GangReturn
open MigrationCapture (maxGangThreads)

/-- `threads`: what `for_each_thread` visits on the remote node. `captured`: the threads of the
return blueprint, as far as it is packed. -/
structure Gang where
  deputies : ℕ
  stubs : ℕ
  threads : List ℕ
  exited : List ℕ
  born : ℕ
  captured : List ℕ
  deriving DecidableEq

/-- The blueprint has the deputy's first threads, and `handle_migrate_done` injects the i-th of them
into the i-th thread of the stub. -/
def handleMigrateDone (deputies stubs : ℕ) : Gang :=
  ⟨deputies, stubs, List.range stubs, [], stubs, []⟩

/-- The threads that came from the deputy are the first ones; each came from the deputy thread with
its own number. -/
def Gang.migrated (g : Gang) : ℕ := min g.stubs (min g.deputies maxGangThreads)

/-- `scan`: a round of the stabilizing loop of `mattx_capture_and_return_state`. -/
inductive Event where
  | exit (thread : ℕ)
  | clone
  | scan
  deriving DecidableEq

/-- A leader that has exited stays in the list of threads. A scan takes the threads that it does not
have yet, in the order of the list, while there is room. -/
def next (g : Gang) : Event → Gang
  | .exit thread =>
    if thread ∈ g.threads ∧ thread ∉ g.exited then
      { g with
        threads := if thread = 0 then g.threads else g.threads.erase thread
        exited := thread :: g.exited }
    else g
  | .clone => { g with threads := g.threads ++ [g.born], born := g.born + 1 }
  | .scan =>
    { g with
      captured := g.captured ++
        (g.threads.filter (· ∉ g.captured)).take (maxGangThreads - g.captured.length) }

def after (g : Gang) (events : List Event) : Gang := events.foldl next g

/-- What `handle_return_done` does to a thread of the deputy. `spared`: the exorcist could not be
queued. -/
inductive Fate where
  | injected (thread : ℕ)
  | exorcised
  | spared
  deriving DecidableEq

/-- The deputy's threads after the Gang Grower, which may get fewer than it asks for. -/
def Gang.grown (g : Gang) (spawned : ℕ) : ℕ :=
  g.deputies + min spawned (g.captured.length - g.deputies)

/-- The injection loop over the deputy's threads. -/
def handleReturnDone (g : Gang) (spawned : ℕ) (queued : ℕ → Bool) : List Fate :=
  (List.range (g.grown spawned)).map fun i =>
    match g.captured[i]? with
    | some thread => .injected thread
    | none => if queued i then .exorcised else .spared

/-- Every surviving thread is back in the deputy thread it came from, and the deputy threads whose
surrogate thread has exited are terminated, and no others. -/
structure KeepsIdentity (g : Gang) (fates : List Fate) : Prop where
  survivors : ∀ i < g.migrated, i ∉ g.exited → fates[i]? = some (.injected i)
  exorcised : ∀ i < g.deputies,
    fates[i]? = some .exorcised ↔ i < g.migrated ∧ i ∈ g.exited

/-- The surviving threads are all captured; where one has exited the blueprint has no more threads
than came before it; and a thread that was not migrated has a place in the blueprint. -/
structure Aligned (g : Gang) (queued : ℕ → Bool) : Prop where
  survivors : ∀ i < g.migrated, i ∉ g.exited → i ∈ g.captured
  exited : ∀ i < g.migrated, i ∈ g.exited → g.captured.length ≤ i ∧ queued i = true
  others : ∀ i < g.deputies, g.migrated ≤ i → i < g.captured.length ∨ queued i = false

/-! ### The order of the threads -/

structure Ordered (g : Gang) : Prop where
  threads : g.threads.Pairwise (· < ·)
  born : ∀ t ∈ g.threads, t < g.born
  captured : g.captured.Pairwise (· < ·)
  known : ∀ c ∈ g.captured, c < g.born
  later : g.captured.length < maxGangThreads →
    ∀ t ∈ g.threads, t ∉ g.captured → ∀ c ∈ g.captured, c < t

theorem ordered_start (deputies stubs : ℕ) : Ordered (handleMigrateDone deputies stubs) := by
  refine ⟨List.pairwise_lt_range, ?_, List.Pairwise.nil, ?_, ?_⟩
  · intro t mem
    exact List.mem_range.mp mem
  · intro c mem
    cases mem
  · intro _ t _ _ c mem
    cases mem

theorem ordered_exit {g : Gang} (h : Ordered g) (thread : ℕ) : Ordered (next g (.exit thread)) := by
  simp only [next]
  split_ifs with leaves leader
  · exact ⟨h.threads, h.born, h.captured, h.known, h.later⟩
  · have rest : ∀ t ∈ g.threads.erase thread, t ∈ g.threads := fun t => List.mem_of_mem_erase
    refine ⟨h.threads.sublist List.erase_sublist, ?_, h.captured, h.known, ?_⟩
    · exact fun t mem => h.born t (rest t mem)
    · exact fun room t mem => h.later room t (rest t mem)
  · exact h

theorem ordered_clone {g : Gang} (h : Ordered g) : Ordered (next g .clone) := by
  refine ⟨?_, ?_, h.captured, ?_, ?_⟩
  · refine List.pairwise_append.mpr ⟨h.threads, List.pairwise_singleton _ _, ?_⟩
    intro t mem u last
    rw [List.mem_singleton.mp last]
    exact h.born t mem
  · intro t mem
    simp only [next, List.mem_append, List.mem_singleton] at mem ⊢
    rcases mem with old | new
    · exact Nat.lt_succ_of_lt (h.born t old)
    · omega
  · intro c mem
    exact Nat.lt_succ_of_lt (h.known c mem)
  · intro room t mem uncaptured c hc
    simp only [next, List.mem_append, List.mem_singleton] at mem
    rcases mem with old | new
    · exact h.later room t old uncaptured c hc
    · rw [new]
      exact h.known c hc

theorem ordered_scan {g : Gang} (h : Ordered g) : Ordered (next g .scan) := by
  have fresh : ∀ t ∈ (g.threads.filter (· ∉ g.captured)).take
      (maxGangThreads - g.captured.length), t ∈ g.threads ∧ t ∉ g.captured := by
    intro t mem
    simpa using List.mem_of_mem_take mem
  refine ⟨h.threads, h.born, ?_, ?_, ?_⟩
  · refine List.pairwise_append.mpr ⟨h.captured, ?_, ?_⟩
    · exact (h.threads.sublist List.filter_sublist).sublist (List.take_sublist _ _)
    · intro c hc t ht
      have ⟨mem, uncaptured⟩ := fresh t ht
      have room : g.captured.length < maxGangThreads := by
        by_contra full
        simp [show maxGangThreads - g.captured.length = 0 by omega] at ht
      exact h.later room t mem uncaptured c hc
  · intro c mem
    rcases List.mem_append.mp mem with old | new
    · exact h.known c old
    · exact h.born c (fresh c new).1
  · intro room t mem uncaptured
    simp only [next, List.length_append, List.length_take, List.mem_append, not_or] at *
    have whole : (g.threads.filter (· ∉ g.captured)).take (maxGangThreads - g.captured.length) =
        g.threads.filter (· ∉ g.captured) := List.take_of_length_le (by omega)
    rw [whole] at uncaptured
    exact absurd (List.mem_filter.mpr ⟨mem, by simpa using uncaptured.1⟩) uncaptured.2

theorem ordered_after {g : Gang} (h : Ordered g) (events : List Event) :
    Ordered (after g events) := by
  induction events generalizing g with
  | nil => exact h
  | cons e events ih =>
    apply ih
    cases e with
    | exit thread => exact ordered_exit h thread
    | clone => exact ordered_clone h
    | scan => exact ordered_scan h

/-! ### Places -/

/-- A list in order that has the numbers from `a` to `a + i`, and none before, has each at its
own place. -/
theorem getElem?_of_run {l : List ℕ} {a i : ℕ} (sorted : l.Pairwise (· < ·))
    (low : ∀ x ∈ l, a ≤ x) (all : ∀ j ≤ i, a + j ∈ l) : l[i]? = some (a + i) := by
  induction i generalizing l a with
  | zero =>
    cases l with
    | nil => simp at all
    | cons x xs =>
      have first := all 0 (le_refl 0)
      rw [List.pairwise_cons] at sorted
      cases first with
      | head => rfl
      | tail _ later =>
        have above := sorted.1 _ later
        have below := low x List.mem_cons_self
        omega
  | succ i ih =>
    cases l with
    | nil => simpa using all 0 (Nat.zero_le _)
    | cons x xs =>
      rw [List.pairwise_cons] at sorted
      have head : x = a := by
        have first := all 0 (Nat.zero_le _)
        cases first with
        | head => rfl
        | tail _ later =>
          have above := sorted.1 _ later
          have below := low x List.mem_cons_self
          omega
      have rest : xs[i]? = some (a + 1 + i) := by
        apply ih sorted.2
        · intro y mem
          have above := sorted.1 y mem
          omega
        · intro j hj
          have mem := all (j + 1) (by omega)
          rcases List.mem_cons.mp mem with same | mem
          · omega
          · rwa [show a + 1 + j = a + (j + 1) by omega]
      rw [List.getElem?_cons_succ, rest]
      exact congrArg some (by omega)

theorem getElem?_of_prefix {l : List ℕ} (sorted : l.Pairwise (· < ·)) {i : ℕ}
    (all : ∀ j ≤ i, j ∈ l) : l[i]? = some i := by
  have place := getElem?_of_run sorted (fun x _ => Nat.zero_le x) (by simpa using all)
  simpa using place

/-- Once a thread survives, all before it have. -/
theorem Aligned.not_exited {g : Gang} {queued : ℕ → Bool} (h : Aligned g queued)
    (ordered : Ordered g) {i : ℕ} (migrated : i < g.migrated) (survives : i ∉ g.exited) :
    ∀ j ≤ i, j ∉ g.exited := by
  intro j
  induction j using Nat.strong_induction_on with
  | _ j ih =>
    intro le exits
    have captured : ∀ k < j, g.captured[k]? = some k := by
      intro k lt
      apply getElem?_of_prefix ordered.captured
      intro m hm
      exact h.survivors m (by omega) (ih m (by omega) (by omega))
    have short := (h.exited j (by omega) exits).1
    obtain ⟨p, inside, here⟩ := List.mem_iff_getElem.mp (h.survivors i migrated survives)
    have place := captured p (by omega)
    rw [List.getElem?_eq_getElem inside, here] at place
    have same := Option.some.inj place
    omega

theorem deputies_le_grown (g : Gang) (spawned : ℕ) : g.deputies ≤ g.grown spawned :=
  Nat.le_add_right _ _

theorem fate_of_deputy {g : Gang} (spawned : ℕ) (queued : ℕ → Bool) {i : ℕ} (lt : i < g.deputies) :
    (handleReturnDone g spawned queued)[i]? = some (match g.captured[i]? with
      | some thread => .injected thread
      | none => if queued i then .exorcised else .spared) := by
  have inside : i < g.grown spawned := Nat.lt_of_lt_of_le lt (deputies_le_grown g spawned)
  rw [handleReturnDone, List.getElem?_map, List.getElem?_range inside]
  rfl

theorem migrated_lt {g : Gang} {i : ℕ} (lt : i < g.migrated) : i < g.deputies := by
  have bound : g.migrated ≤ g.deputies := by
    unfold Gang.migrated
    omega
  omega

theorem exorcised_iff {g : Gang} (spawned : ℕ) {queued : ℕ → Bool} {i : ℕ} (lt : i < g.deputies) :
    (handleReturnDone g spawned queued)[i]? = some .exorcised ↔
      g.captured.length ≤ i ∧ queued i = true := by
  rw [fate_of_deputy spawned queued lt]
  cases captured : g.captured[i]? with
  | some thread =>
    have inside := (List.getElem?_eq_some_iff.mp captured).1
    simp only [Option.some.injEq, reduceCtorEq, false_iff]
    omega
  | none =>
    have past := List.getElem?_eq_none_iff.mp captured
    cases queued i <;> simp [past]

theorem injected_iff {g : Gang} (spawned : ℕ) {queued : ℕ → Bool} {i : ℕ} (lt : i < g.deputies) :
    (handleReturnDone g spawned queued)[i]? = some (.injected i) ↔ g.captured[i]? = some i := by
  rw [fate_of_deputy spawned queued lt]
  cases captured : g.captured[i]? with
  | some thread => simp
  | none => cases queued i <;> simp

theorem keeps_iff_aligned {g : Gang} (ordered : Ordered g) (spawned : ℕ) (queued : ℕ → Bool) :
    KeepsIdentity g (handleReturnDone g spawned queued) ↔ Aligned g queued := by
  constructor
  · intro h
    refine ⟨?_, ?_, ?_⟩
    · intro i migrated survives
      have injected := h.survivors i migrated survives
      exact List.mem_of_getElem? ((injected_iff spawned (migrated_lt migrated)).mp injected)
    · intro i migrated exits
      have exorcised := (h.exorcised i (migrated_lt migrated)).mpr ⟨migrated, exits⟩
      exact (exorcised_iff spawned (migrated_lt migrated)).mp exorcised
    · intro i lt other
      by_contra neither
      rw [not_or] at neither
      have exorcised := (exorcised_iff spawned lt).mpr ⟨by omega, by simpa using neither.2⟩
      have migrated := ((h.exorcised i lt).mp exorcised).1
      omega
  · intro h
    refine ⟨?_, ?_⟩
    · intro i migrated survives
      rw [injected_iff spawned (migrated_lt migrated)]
      apply getElem?_of_prefix ordered.captured
      intro j le
      have alive := h.not_exited ordered migrated survives j le
      exact h.survivors j (by omega) alive
    · intro i lt
      rw [exorcised_iff spawned lt]
      constructor
      · rintro ⟨past, queue⟩
        have migrated : i < g.migrated := by
          by_contra other
          have spared := h.others i lt (by omega)
          rw [queue] at spared
          rcases spared with inside | no
          · omega
          · cases no
        refine ⟨migrated, ?_⟩
        by_contra alive
        have place : g.captured[i]? = some i := by
          apply getElem?_of_prefix ordered.captured
          intro j le
          exact h.survivors j (by omega) (h.not_exited ordered migrated alive j le)
        have inside := (List.getElem?_eq_some_iff.mp place).1
        omega
      · rintro ⟨migrated, exits⟩
        exact h.exited i migrated exits

/-- Whatever exits, is created and is scanned in whatever order. -/
theorem return_keeps_identity_iff (deputies stubs spawned : ℕ) (queued : ℕ → Bool)
    (events : List Event) :
    KeepsIdentity (after (handleMigrateDone deputies stubs) events)
        (handleReturnDone (after (handleMigrateDone deputies stubs) events) spawned queued) ↔
      Aligned (after (handleMigrateDone deputies stubs) events) queued :=
  keeps_iff_aligned (ordered_after (ordered_start deputies stubs) events) spawned queued

/-- The second of three threads has exited before the recall. -/
theorem exit_in_the_middle_shifts :
    handleReturnDone (after (handleMigrateDone 3 3) [.exit 1, .scan]) 0 (fun _ => true) =
        [.injected 0, .injected 2, .exorcised] ∧
      ¬ KeepsIdentity (after (handleMigrateDone 3 3) [.exit 1, .scan])
        (handleReturnDone (after (handleMigrateDone 3 3) [.exit 1, .scan]) 0 fun _ => true) := by
  have fates : handleReturnDone (after (handleMigrateDone 3 3) [.exit 1, .scan]) 0 (fun _ => true) =
      [.injected 0, .injected 2, .exorcised] := by decide
  refine ⟨fates, fun keeps => ?_⟩
  have third := keeps.survivors 2 (by decide) (by decide)
  rw [fates] at third
  exact absurd third (by decide)

end MattX.GangReturn
