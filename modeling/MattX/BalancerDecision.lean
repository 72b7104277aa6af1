import MattX.DsmTypes
import Mathlib.Data.Int.Notation
import Mathlib.Data.List.Basic
import Mathlib.Logic.Function.Basic
import Mathlib.Tactic.Ring

set_option autoImplicit false

/-!
# The balancer's decision

Loads come scaled by 1000, from the node's own run queue and from the table that
LOAD_UPDATE messages fill, and are scaled by 1000 again before they are divided
by the affinity. All of it is done in 32 bits.
-/
namespace MattX.BalancerDecision

abbrev U32 := BitVec 32

structure LoadInfo where
  cpuLoad : U32
  affinity : U32
  acceptGuests : U32
  deriving DecidableEq

structure Task where
  pid : ℤ
  tgid : ℤ
  kthread : Bool
  hasMm : Bool
  exiting : Bool
  comm : Bytes
  sumExecRuntime : ℕ
  running : Bool
  deriving DecidableEq

/-- The configured lists, their names separated by commas. -/
structure Filter where
  migrationIncludes : Bytes
  migrationExcludes : Bytes

/-- `clusterMap`: the `node_id` of each link. `hz`: the jiffies of one second. -/
structure State where
  balancerEnabled : Bool
  filter : Filter
  clusterMap : ℕ → Option ℤ
  clusterLoadTable : ℕ → LoadInfo
  tasks : List Task
  guests : List ℤ
  lastMigratedPid : ℤ
  lastMigrationJiffies : BitVec 64
  jiffies : BitVec 64
  hz : BitVec 64

def handleLoadUpdate (s : State) (senderId : ℕ) (load : LoadInfo) : State :=
  if senderId < maxNodes then
    { s with clusterLoadTable := Function.update s.clusterLoadTable senderId load }
  else s

/-! ### Tasks -/

/-- `is_task_included` and `is_task_excluded`. -/
def isListed (names comm : Bytes) : Bool :=
  (names.splitOn 44).any fun token => token.dropWhile (· == 32) == comm

def Filter.passes (f : Filter) (p : Task) : Bool :=
  if f.migrationIncludes ≠ [] then isListed f.migrationIncludes p.comm
  else !isListed f.migrationExcludes p.comm

/-- A mother task of a user that is not on its way out. -/
def Task.counts (p : Task) : Bool :=
  p.pid == p.tgid && !p.kthread && p.hasMm && decide (1 < p.pid) && !p.exiting

def mattxCalcLocalLoad (f : Filter) (tasks : List Task) (current : ℤ) : U32 :=
  BitVec.ofNat 32 (tasks.countP fun p =>
    p.counts && f.passes p && p.pid != current && decide (50000000 ≤ p.sumExecRuntime) &&
      p.running) * 1000

def State.movable (s : State) (p : Task) : Bool :=
  p.counts && !s.guests.contains p.pid && s.filter.passes p && p.pid != s.lastMigratedPid &&
    p.running

/-- The one with the longest runtime, the first of them. -/
def mattxFindCandidateTask (s : State) : Option Task :=
  (s.tasks.foldl (fun (best, maxRuntime) p =>
    if s.movable p && decide (maxRuntime < p.sumExecRuntime) then (some p, p.sumExecRuntime)
    else (best, maxRuntime)) ((none : Option Task), 0)).1

/-! ### The decision -/

def normLoad (load affinity : U32) : U32 := load * 1000 / affinity

def LoadInfo.remoteNormLoad (t : LoadInfo) : U32 :=
  normLoad t.cpuLoad (if t.affinity = 0 then 1000 else t.affinity)

/-- A connected node that has not closed its doors. -/
def State.Accepts (s : State) (i : ℕ) : Prop :=
  (∃ nodeId ∈ s.clusterMap i, nodeId ≠ -1) ∧ (s.clusterLoadTable i).acceptGuests ≠ 0

instance (s : State) (i : ℕ) : Decidable (s.Accepts i) :=
  inferInstanceAs (Decidable ((∃ nodeId ∈ s.clusterMap i, nodeId ≠ -1) ∧ _))

def considerNode (s : State) (best : Option ℕ × U32) (i : ℕ) : Option ℕ × U32 :=
  if s.Accepts i ∧ (s.clusterLoadTable i).remoteNormLoad < best.2 then
    (some i, (s.clusterLoadTable i).remoteNormLoad)
  else best

def scanNodes (s : State) (n : ℕ) : Option ℕ × U32 :=
  (List.range n).foldl (considerNode s) (none, 0xFFFFFFFF#32)

/-- `time_before(jiffies, last_migration_jiffies + msecs_to_jiffies(1000))`. -/
def State.inCooldown (s : State) : Prop :=
  s.lastMigrationJiffies ≠ 0 ∧ (s.jiffies - (s.lastMigrationJiffies + s.hz)).msb = true

instance (s : State) : Decidable s.inCooldown := instDecidableAnd

/-- `chosen`: `best_node`, where the search for it is reached. -/
structure Outcome where
  chosen : Option ℕ
  started : Option (Task × ℕ)
  deriving DecidableEq

def mattxEvaluateAndBalance (s : State) (localLoad localAffinity : U32) : Outcome × State :=
  if !s.balancerEnabled || localAffinity == 0 || localLoad == 0 then (⟨none, none⟩, s)
  else if s.inCooldown then (⟨none, none⟩, s)
  else
    let localNormLoad := normLoad localLoad localAffinity
    match scanNodes s maxNodes with
    | (none, _) => (⟨none, none⟩, s)
    | (some best, lowest) =>
      if lowest < localNormLoad ∧ 250 ≤ localNormLoad - lowest then
        match mattxFindCandidateTask s with
        | some task =>
          (⟨some best, some (task, best)⟩,
            { s with lastMigratedPid := task.pid, lastMigrationJiffies := s.jiffies })
        | none => (⟨some best, none⟩, s)
      else (⟨some best, none⟩, s)

/-- What the balancer thread passes. -/
def currentAffinity (configNodeAffinity : U32) (onlineCpus : ℕ) : U32 :=
  if configNodeAffinity ≠ 0 then configNodeAffinity else BitVec.ofNat 32 (onlineCpus * 1000)

/-! ### The decision in exact integers -/

def exactNorm (load affinity : U32) : ℕ :=
  load.toNat * 1000 / if affinity = 0 then 1000 else affinity.toNat

def LoadInfo.exact (t : LoadInfo) : ℕ := exactNorm t.cpuLoad t.affinity

/-- A candidate node with the least exact value. -/
def State.Least (s : State) (i : ℕ) : Prop :=
  (i < maxNodes ∧ s.Accepts i) ∧
    ∀ j < maxNodes, s.Accepts j → (s.clusterLoadTable i).exact ≤ (s.clusterLoadTable j).exact

def State.Imbalanced (s : State) (localLoad localAffinity : U32) (i : ℕ) : Prop :=
  s.Least i ∧ (s.clusterLoadTable i).exact + 250 ≤ exactNorm localLoad localAffinity

structure Right (s : State) (localLoad localAffinity : U32) (o : Outcome) : Prop where
  chosen : ∀ i, o.chosen = some i → s.Least i
  started : ∀ task i, o.started = some (task, i) → s.Imbalanced localLoad localAffinity i
  starts : s.balancerEnabled = true → ¬s.inCooldown → (mattxFindCandidateTask s).isSome = true →
    ∀ i, s.Imbalanced localLoad localAffinity i → o.started ≠ none

/-- Scaling the load once more does not leave 32 bits. -/
def Fits (load : U32) : Prop := load.toNat * 1000 < 4294967296

instance (load : U32) : Decidable (Fits load) :=
  inferInstanceAs (Decidable (load.toNat * 1000 < 4294967296))

theorem normLoad_exact {load : U32} (fits : Fits load) (affinity : U32) :
    (normLoad load affinity).toNat = load.toNat * 1000 / affinity.toNat := by
  rw [Fits] at fits
  have scaled : (load * 1000).toNat = load.toNat * 1000 := by
    rw [BitVec.toNat_mul]
    exact Nat.mod_eq_of_lt fits
  rw [normLoad, BitVec.toNat_udiv, scaled]

theorem remoteNormLoad_exact {t : LoadInfo} (fits : Fits t.cpuLoad) :
    t.remoteNormLoad.toNat = t.exact := by
  rw [LoadInfo.remoteNormLoad, normLoad_exact fits, LoadInfo.exact, exactNorm]
  split_ifs
  · rfl
  · rfl

theorem exact_small {load : U32} (fits : Fits load) (affinity : U32) :
    exactNorm load affinity < 4294967295 := by
  have below := Nat.div_le_self (load.toNat * 1000)
    (if affinity = 0 then 1000 else affinity.toNat)
  rw [Fits] at fits
  rw [exactNorm]
  omega

/-- The balancer thread never passes an affinity of zero. -/
theorem currentAffinity_ne_zero (configNodeAffinity : U32) {onlineCpus : ℕ}
    (some_cpu : 0 < onlineCpus) (few : onlineCpus ≤ 8192) :
    currentAffinity configNodeAffinity onlineCpus ≠ 0 := by
  rw [currentAffinity]
  split_ifs with configured
  · exact configured
  · intro none_left
    have value := congrArg BitVec.toNat none_left
    rw [BitVec.toNat_ofNat] at value
    change onlineCpus * 1000 % 4294967296 = 0 at value
    omega

theorem calcLocalLoad_fits (f : Filter) {tasks : List Task} (current : ℤ)
    (few : tasks.length < 4295) : Fits (mattxCalcLocalLoad f tasks current) := by
  rw [mattxCalcLocalLoad]
  generalize counted : (tasks.countP fun p => _) = count
  have least : count ≤ tasks.length := counted ▸ List.countP_le_length
  rw [Fits, BitVec.toNat_mul, BitVec.toNat_ofNat]
  change count % 4294967296 * 1000 % 4294967296 * 1000 < 4294967296
  rw [Nat.mod_eq_of_lt (a := count) (by omega), Nat.mod_eq_of_lt (by omega)]
  omega

section
variable {s : State}

theorem idle_keeps_state {load affinity : U32}
    (idle : (mattxEvaluateAndBalance s load affinity).1.started = none) :
    (mattxEvaluateAndBalance s load affinity).2 = s := by
  rw [mattxEvaluateAndBalance] at idle ⊢
  generalize scanNodes s maxNodes = best at idle ⊢
  obtain ⟨node, lowest⟩ := best
  cases node with
  | none => split_ifs <;> rfl
  | some k =>
    cases candidate : mattxFindCandidateTask s with
    | none =>
      simp only
      split_ifs <;> rfl
    | some task =>
      rw [candidate] at idle
      simp only at idle ⊢
      split_ifs at idle ⊢ <;> rfl

/-- What the search has found among the first `n` nodes. -/
structure Scanned (s : State) (n : ℕ) (best : Option ℕ × U32) : Prop where
  nobody : best.1 = none → best.2 = 0xFFFFFFFF#32 ∧ ∀ j < n, ¬s.Accepts j
  somebody : ∀ i, best.1 = some i → (i < n ∧ s.Accepts i) ∧
    best.2 = (s.clusterLoadTable i).remoteNormLoad ∧
      ∀ j < n, s.Accepts j → (s.clusterLoadTable i).exact ≤ (s.clusterLoadTable j).exact

theorem scanned_skip {n : ℕ} {best : Option ℕ × U32} (h : Scanned s n best)
    (skips : s.Accepts n → ∃ i, best.1 = some i ∧
      (s.clusterLoadTable i).exact ≤ (s.clusterLoadTable n).exact) : Scanned s (n + 1) best := by
  constructor
  · intro nobody
    refine ⟨(h.nobody nobody).1, fun j small accepts => ?_⟩
    rcases Nat.lt_succ_iff_lt_or_eq.mp small with before | rfl
    · exact (h.nobody nobody).2 j before accepts
    · obtain ⟨i, found, _⟩ := skips accepts
      cases nobody.symm.trans found
  · intro i found
    obtain ⟨⟨small, accepts⟩, value, least⟩ := h.somebody i found
    refine ⟨⟨by omega, accepts⟩, value, fun j below open_ => ?_⟩
    rcases Nat.lt_succ_iff_lt_or_eq.mp below with before | rfl
    · exact least j before open_
    · obtain ⟨k, same, le⟩ := skips open_
      obtain rfl := Option.some_inj.mp (found.symm.trans same)
      exact le

theorem scanned (fits : ∀ i < maxNodes, s.Accepts i → Fits (s.clusterLoadTable i).cpuLoad)
    (n : ℕ) (inside : n ≤ maxNodes) : Scanned s n (scanNodes s n) := by
  induction n with
  | zero =>
    refine ⟨fun _ => ⟨rfl, fun j small => absurd small (Nat.not_lt_zero j)⟩, ?_⟩
    intro i found
    cases found
  | succ n ih =>
    have before := ih (by omega)
    have step : scanNodes s (n + 1) = considerNode s (scanNodes s n) n := by
      rw [scanNodes, List.range_succ, List.foldl_append]
      rfl
    rw [step, considerNode]
    split_ifs with better
    · obtain ⟨accepts, less⟩ := better
      have here := remoteNormLoad_exact (fits n (by omega) accepts)
      constructor
      · intro nobody
        cases nobody
      · intro i found
        obtain rfl := Option.some_inj.mp found
        refine ⟨⟨by omega, accepts⟩, rfl, fun j small open_ => ?_⟩
        rcases Nat.lt_succ_iff_lt_or_eq.mp small with earlier | rfl
        · cases found_before : (scanNodes s n).1 with
          | none => exact absurd open_ ((before.nobody found_before).2 j earlier)
          | some k =>
            obtain ⟨⟨below, accepts'⟩, value, least⟩ := before.somebody k found_before
            have there := remoteNormLoad_exact (fits k (by omega) accepts')
            rw [value, BitVec.lt_def, here, there] at less
            have := least j earlier open_
            omega
        · exact Nat.le_refl _
    · refine scanned_skip before fun accepts => ?_
      have here := remoteNormLoad_exact (fits n (by omega) accepts)
      have not_less : ¬(s.clusterLoadTable n).remoteNormLoad < (scanNodes s n).2 := by
        intro less
        exact better ⟨accepts, less⟩
      rw [BitVec.lt_def, here] at not_less
      cases found_before : (scanNodes s n).1 with
      | none =>
        have small := exact_small (fits n (by omega) accepts) (s.clusterLoadTable n).affinity
        rw [(before.nobody found_before).1] at not_less
        exact absurd small not_less
      | some k =>
        obtain ⟨⟨below, accepts'⟩, value, _⟩ := before.somebody k found_before
        have there := remoteNormLoad_exact (fits k (by omega) accepts')
        rw [value, there] at not_less
        exact ⟨k, rfl, by omega⟩

end

/-! ### Loads that wrap around -/

def worker : Task := ⟨100, 100, false, true, false, [115, 105, 109], 1000000000, true⟩

/-- Two nodes that know of each other, once the other one has sent its load. -/
def pair (load affinity : U32) : State :=
  handleLoadUpdate
    { balancerEnabled := true
      filter := ⟨[], []⟩
      clusterMap := fun i => if i = 1 then some 1 else none
      clusterLoadTable := fun _ => ⟨0, 0, 0⟩
      tasks := [worker]
      guests := []
      lastMigratedPid := 0
      lastMigrationJiffies := 0
      jiffies := 5
      hz := 250 } 1 ⟨load, affinity, 1⟩

end MattX.BalancerDecision
