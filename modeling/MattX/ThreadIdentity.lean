import MattX.GuardedRuns
import Mathlib.Data.List.Nodup
import Mathlib.Tactic.Common

set_option autoImplicit false

/-!
# The ids of a surrogate's threads

A migrated thread keeps the id it has at home, which a map in the guest's
record translates; a thread that is created later shows its local id. Both
kinds of number share one namespace, and local ids are used again.
-/
namespace MattX.ThreadIdentity
open GuardedRuns

/-- `home`: the TID at home of a thread that was migrated. `dead`: an exited leader, which stays in
the list of threads. -/
structure Thread where
  tid : ℕ
  home : Option ℕ
  dead : Bool
  deriving DecidableEq

structure Gang where
  leader : ℕ
  threads : List Thread

def Gang.live (g : Gang) : List Thread := g.threads.filter fun t => !t.dead

inductive Event where
  | exit (tid : ℕ)
  | create (tid : ℕ)
  deriving DecidableEq

/-- A new thread gets a number that no thread of the gang has. -/
def next (g : Gang) : Event → Gang
  | .exit tid =>
    if tid = g.leader then
      { g with
        threads := g.threads.map fun t => if t.tid = tid then { t with dead := true } else t }
    else { g with threads := g.threads.filter fun t => t.tid ≠ tid }
  | .create tid =>
    if tid ∈ g.threads.map Thread.tid then g
    else { g with threads := g.threads ++ [⟨tid, none, false⟩] }

def machine : Machine Gang Event where
  enabled _ _ := True
  next := next

/-! ### The import -/

/-- `home`: the TIDs of the blueprint, `thread_count` of them. `others`: the stub's threads after
its leader. `stale`: what the record's place in the registry still has from an earlier guest. -/
structure Import where
  home : List ℕ
  leader : ℕ
  others : List ℕ
  distinct : (leader :: others).Nodup
  stale : ℕ → ℕ × ℕ

/-- `handle_migrate_done` injects the i-th thread of the blueprint into the i-th of the stub. -/
def Import.injected (i : Import) : Gang :=
  ⟨i.leader, (i.leader :: i.others).mapIdx fun k tid => ⟨tid, i.home[k]?, false⟩⟩

/-- The threads run before the map is made. -/
def Import.awake (i : Import) (early : List Event) : Gang := machine.after i.injected early

/-- `orig_tids` and `local_tids`, of the threads that are in the list by then. -/
def Import.tidMap (i : Import) (early : List Event) : List (ℕ × ℕ) :=
  i.home.mapIdx fun k home =>
    match (i.awake early).threads[k]? with
    | some t => (home, t.tid)
    | none => i.stale k

/-! ### The hooks -/

/-- `ret_handler_gettid` -/
def gettid (m : List (ℕ × ℕ)) (tid : ℕ) : ℕ :=
  match m.find? fun e => e.2 == tid with
  | some e => e.1
  | none => tid

/-- The TID that `entry_handler_tgkill` puts into the register. -/
def tgkill (m : List (ℕ × ℕ)) (target : ℕ) : ℕ :=
  match m.find? fun e => e.1 == target with
  | some e => e.2
  | none => target

/-- The ids tell the live threads apart, a migrated one has that of its home, and a signal to an id
reaches the thread that has it and no other. -/
structure Right (m : List (ℕ × ℕ)) (g : Gang) : Prop where
  injective : ∀ t ∈ g.live, ∀ u ∈ g.live, gettid m t.tid = gettid m u.tid → t = u
  home : ∀ t ∈ g.live, ∀ h, t.home = some h → gettid m t.tid = h
  delivered : ∀ t ∈ g.live, ∀ u ∈ g.live, u.tid = tgkill m (gettid m t.tid) ↔ u = t

/-- The map's first entry with the local TID is its first with that entry's home TID, which is the
thread's own; or the number occurs nowhere in the map. -/
def Fine (m : List (ℕ × ℕ)) (t : Thread) : Prop :=
  match m.find? fun e => e.2 == t.tid with
  | some e => (∀ h, t.home = some h → e.1 = h) ∧
      (m.find? fun f => f.1 == e.1).map Prod.snd = some t.tid
  | none => (∀ h, t.home = some h → t.tid = h) ∧ ∀ e ∈ m, e.1 ≠ t.tid

/-- A new thread is fine under its number. -/
def CreatesFine (m : List (ℕ × ℕ)) (g : Gang) : Event → Prop
  | .exit _ => True
  | .create tid => tid ∉ g.threads.map Thread.tid → Fine m ⟨tid, none, false⟩

/-! ### One state -/

section
variable {m : List (ℕ × ℕ)} {g : Gang} {t : Thread}

theorem fine_iff :
    Fine m t ↔ (∀ h, t.home = some h → gettid m t.tid = h) ∧
      tgkill m (gettid m t.tid) = t.tid := by
  simp only [Fine, gettid, tgkill]
  cases entry : m.find? fun e => e.2 == t.tid with
  | some e =>
    have mem := List.mem_of_find?_eq_some entry
    dsimp only
    cases back : m.find? fun f => f.1 == e.1 with
    | some f => simp only [Option.map_some, Option.some.injEq]
    | none =>
      have absent := List.find?_eq_none.mp back e mem
      simp at absent
  | none =>
    dsimp only
    cases back : m.find? fun f => f.1 == t.tid with
    | some f =>
      have here := List.find?_some back
      have mem := List.mem_of_find?_eq_some back
      have away := List.find?_eq_none.mp entry f mem
      simp only [beq_iff_eq] at here away
      constructor
      · rintro ⟨_, nowhere⟩
        exact absurd here (nowhere f mem)
      · rintro ⟨_, same⟩
        exact absurd same away
    | none =>
      have nowhere := List.find?_eq_none.mp back
      simp only [beq_iff_eq] at nowhere
      simp only [and_true]
      exact ⟨And.left, fun home => ⟨home, nowhere⟩⟩

theorem mem_live : t ∈ g.live ↔ t ∈ g.threads ∧ t.dead = false := by
  simp only [Gang.live, List.mem_filter, Bool.not_eq_true']

theorem eq_of_tid (distinct : (g.threads.map Thread.tid).Nodup) {u : Thread}
    (ht : t ∈ g.live) (hu : u ∈ g.live) (same : t.tid = u.tid) : t = u :=
  List.inj_on_of_nodup_map distinct (mem_live.mp ht).1 (mem_live.mp hu).1 same

theorem right_iff (distinct : (g.threads.map Thread.tid).Nodup) :
    Right m g ↔ ∀ t ∈ g.live, Fine m t := by
  constructor
  · intro right t mem
    exact fine_iff.mpr ⟨right.home t mem, ((right.delivered t mem t mem).mpr rfl).symm⟩
  · intro fine
    have back : ∀ t ∈ g.live, tgkill m (gettid m t.tid) = t.tid :=
      fun t mem => (fine_iff.mp (fine t mem)).2
    refine ⟨?_, fun t mem => (fine_iff.mp (fine t mem)).1, ?_⟩
    · intro t ht u hu same
      apply eq_of_tid distinct ht hu
      rw [← back t ht, ← back u hu, same]
    · intro t ht u hu
      rw [back t ht]
      exact ⟨eq_of_tid distinct hu ht, fun same => congrArg Thread.tid same⟩

end

/-! ### Runs -/

section
variable {m : List (ℕ × ℕ)} {g : Gang}

theorem distinct_next (distinct : (g.threads.map Thread.tid).Nodup) (e : Event) :
    ((next g e).threads.map Thread.tid).Nodup := by
  cases e with
  | exit tid =>
    simp only [next]
    split_ifs with leader
    · have same : (g.threads.map fun t => if t.tid = tid then { t with dead := true } else t).map
          Thread.tid = g.threads.map Thread.tid := by
        rw [List.map_map]
        apply List.map_congr_left
        intro t _
        simp only [Function.comp_apply]
        split_ifs <;> rfl
      dsimp only
      rw [same]
      exact distinct
    · exact distinct.sublist (List.filter_sublist.map _)
  | create tid =>
    simp only [next]
    split_ifs with used
    · exact distinct
    · rw [List.map_append]
      exact List.Nodup.append distinct (List.nodup_singleton tid) (by simpa using used)

theorem live_exit (tid : ℕ) {t : Thread} (mem : t ∈ (next g (.exit tid)).live) : t ∈ g.live := by
  obtain ⟨inside, alive⟩ := mem_live.mp mem
  simp only [next] at inside
  split_ifs at inside
  · obtain ⟨u, hu, marked⟩ := List.mem_map.mp inside
    by_cases same : u.tid = tid
    · rw [if_pos same] at marked
      rw [← marked] at alive
      cases alive
    · rw [if_neg same] at marked
      rw [← marked] at alive ⊢
      exact mem_live.mpr ⟨hu, alive⟩
  · exact mem_live.mpr ⟨(List.mem_filter.mp inside).1, alive⟩

theorem live_create {tid : ℕ} (free : tid ∉ g.threads.map Thread.tid) :
    (next g (.create tid)).live = g.live ++ [⟨tid, none, false⟩] := by
  simp only [next, if_neg free, Gang.live, List.filter_append]
  rfl

theorem step_iff (e : Event) (distinct : (g.threads.map Thread.tid).Nodup) (right : Right m g) :
    Right m (next g e) ↔ CreatesFine m g e := by
  have fine := (right_iff distinct).mp right
  rw [right_iff (distinct_next distinct e)]
  cases e with
  | exit tid => exact ⟨fun _ => trivial, fun _ t mem => fine t (live_exit tid mem)⟩
  | create tid =>
    by_cases used : tid ∈ g.threads.map Thread.tid
    · have same : next g (.create tid) = g := if_pos used
      rw [same]
      exact ⟨fun _ free => absurd used free, fun _ => fine⟩
    · rw [live_create used]
      simp only [List.mem_append, List.mem_singleton]
      constructor
      · intro all _
        exact all _ (.inr rfl)
      · rintro new t (old | rfl)
        · exact fine t old
        · exact new used

theorem distinct_injected (i : Import) : (i.injected.threads.map Thread.tid).Nodup := by
  have same : i.injected.threads.map Thread.tid = i.leader :: i.others := by
    apply List.ext_getElem
    · simp [Import.injected]
    · intro k _ _
      simp only [Import.injected, List.getElem_map, List.getElem_mapIdx]
  rw [same]
  exact i.distinct

theorem runs_any (s : Gang) (events : List Event) : machine.Runs s events := by
  induction events generalizing s with
  | nil => trivial
  | cons e events ih => exact ⟨trivial, trivial, ih _⟩

theorem distinct_awake (i : Import) (early : List Event) :
    ((i.awake early).threads.map Thread.tid).Nodup :=
  (runs_any i.injected early).invariant (I := fun g => (g.threads.map Thread.tid).Nodup)
    (fun _ e distinct _ _ => distinct_next distinct e) (distinct_injected i)

theorem always_iff (distinct : (g.threads.map Thread.tid).Nodup) (right : Right m g)
    (later : List Event) :
    machine.Always (Right m) g later ↔ machine.Follows (CreatesFine m) g later := by
  induction later generalizing g with
  | nil => exact ⟨fun _ => trivial, fun _ => right⟩
  | cons e later ih =>
    have step := step_iff e distinct right
    have distinct' := distinct_next distinct e
    constructor
    · rintro ⟨_, always⟩
      have after : Right m (next g e) := always.head
      exact ⟨trivial, step.mp after, (ih distinct' after).mp always⟩
    · rintro ⟨_, fine, follows⟩
      have after := step.mpr fine
      exact ⟨right, (ih distinct' after).mpr follows⟩

end

/-- The ids are right in every state after the import just if every thread that is live when the map
is made is fine, and every thread that is created later. -/
theorem identity_iff (i : Import) (early later : List Event) :
    machine.Always (Right (i.tidMap early)) (i.awake early) later ↔
      (∀ t ∈ (i.awake early).live, Fine (i.tidMap early) t) ∧
        machine.Follows (CreatesFine (i.tidMap early)) (i.awake early) later := by
  have distinct := distinct_awake i early
  constructor
  · intro always
    have right := always.head
    exact ⟨(right_iff distinct).mp right, (always_iff distinct right later).mp always⟩
  · rintro ⟨fine, follows⟩
    exact (always_iff distinct ((right_iff distinct).mpr fine) later).mpr follows

/-- The main thread 100 and thread 101, whose stub has the threads 50 and 51. -/
def twoThreads : Import := ⟨[100, 101], 50, [51], by decide, fun _ => (0, 0)⟩

/-- A new thread gets the local TID 101: its id is that of thread 51, and a signal to it goes
there. -/
theorem new_thread_takes_home_id :
    ¬ machine.Always (Right (twoThreads.tidMap [])) (twoThreads.awake []) [.create 101] := by
  rintro ⟨_, right⟩
  have same := right.injective ⟨51, some 101, false⟩ (by decide) ⟨101, none, false⟩ (by decide)
    (by decide)
  cases same

/-! ### Maps without stale entries -/

/-- In a map whose ids are distinct a thread is fine if its entry has its own home TID, and else
its number is no home TID of the map. -/
theorem fine_of_distinct {m : List (ℕ × ℕ)} (homes : (m.map Prod.fst).Nodup)
    (locals : (m.map Prod.snd).Nodup) (t : Thread) :
    Fine m t ↔
      (∀ h, (h, t.tid) ∈ m → ∀ h', t.home = some h' → h = h') ∧
        (t.tid ∉ m.map Prod.snd →
          t.tid ∉ m.map Prod.fst ∧ ∀ h, t.home = some h → t.tid = h) := by
  rw [Fine]
  cases entry : m.find? fun e => e.2 == t.tid with
  | some e =>
    have mem := List.mem_of_find?_eq_some entry
    have here : e.2 = t.tid := by simpa using List.find?_some entry
    have back : (m.find? fun f => f.1 == e.1) = some e := by
      cases found : m.find? fun f => f.1 == e.1 with
      | none => exact absurd (List.find?_eq_none.mp found e mem) (by simp)
      | some f =>
        have same : f.1 = e.1 := by simpa using List.find?_some found
        rw [List.inj_on_of_nodup_map homes (List.mem_of_find?_eq_some found) mem same]
    have used : t.tid ∈ m.map Prod.snd := List.mem_map.mpr ⟨e, mem, here⟩
    simp only [back, Option.map_some, here, and_true, used, not_true, false_imp_iff]
    constructor
    · intro home h paired
      have same := List.inj_on_of_nodup_map locals paired mem here.symm
      rw [← same] at home
      exact fun h' own => home h' own
    · intro home
      apply home e.1
      rw [← here]
      exact mem
  | none =>
    have unused := List.find?_eq_none.mp entry
    simp only [beq_iff_eq] at unused
    have absent : t.tid ∉ m.map Prod.snd := by
      intro used
      obtain ⟨e, mem, here⟩ := List.mem_map.mp used
      exact unused e mem here
    have nowhere : (∀ e ∈ m, e.1 ≠ t.tid) ↔ t.tid ∉ m.map Prod.fst := by
      simp only [List.mem_map, not_exists, not_and]
    simp only [absent, not_false_eq_true, true_imp_iff, nowhere]
    constructor
    · rintro ⟨home, free⟩
      exact ⟨fun h paired => absurd rfl (unused (h, t.tid) paired), free, home⟩
    · rintro ⟨_, free, home⟩
      exact ⟨home, free⟩

end MattX.ThreadIdentity
