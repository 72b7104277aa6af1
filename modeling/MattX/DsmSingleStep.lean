import MattX.GuardedRuns
import MattX.DsmTypes
import Mathlib.Data.List.Count

set_option autoImplicit false

/-!
# Single steps over faulted pages

In mode 3 a fault leaves a note in the guest's record and sets the trap flag of
its thread. The next debug exception takes the note and queues the cleanup on
the thread it finds itself in. The flag is a thread's, the note the gang's.
-/
namespace MattX.DsmSingleStep
open GuardedRuns

/-- `struct mattx_dsm_mapping`, with the indices of the pages that are allocated. -/
structure Mapping where
  baseAddr : ℕ
  size : ℕ
  shmid : ℕ
  pages : List ℕ
  deriving DecidableEq

def Mapping.covers (addr : ℕ) (m : Mapping) : Bool :=
  decide (m.baseAddr ≤ addr ∧ addr < m.baseAddr + m.size)

/-- The note `dsm_step_addr`, `dsm_step_shmid`, `dsm_step_is_write`, which is also what a cleanup
gets. Beside it the fault it was written for: the thread, a number, the offset in the segment. -/
structure Fault where
  thread : ℕ
  tag : ℕ
  addr : ℕ
  shmid : ℕ
  offset : ℕ
  isWrite : Bool
  deriving DecidableEq

/-- What a cleanup did: the segment and offset of the update it sent, the address it zapped. -/
structure Cleaned where
  fault : Fault
  synced : Option (ℕ × ℕ)
  zapped : Option ℕ
  deriving DecidableEq

/-- `flagged`: the threads with TF in their saved flags. `resident`: the addresses with a PTE. `works`:
the cleanups queued on threads. The rest is a record of the run: the faults that set the flag, those
whose thread has not trapped since, the traps of flagged threads with the note they took, and the
cleanups that have run. -/
structure Gang where
  dsmMap : List Mapping
  stepPending : Bool
  step : Fault
  flagged : List ℕ
  resident : List ℕ
  works : List (ℕ × Fault)
  next : ℕ
  faults : List Fault
  owed : List Fault
  traps : List (ℕ × Option Fault)
  cleaned : List Cleaned
  deriving DecidableEq

inductive VmFault where
  | sigsegv
  | oom
  | insertFailed
  | noPage
  deriving DecidableEq

/-- What a fault meets: the link home, memory for the reply, a free slot, the reply's error, a page
for the pool, and the result of `vmf_insert_pfn`. -/
structure FaultIo where
  link : Bool
  buf : Bool
  slot : Bool
  err : Bool
  page : Bool
  inserted : Bool
  deriving DecidableEq

/-- What a cleanup meets: the area it is to zap, memory for the update, and the link. -/
structure CleanupIo where
  vma : Bool
  alloc : Bool
  link : Bool
  deriving DecidableEq

inductive Event where
  | fault (thread addr : ℕ) (isWrite : Bool) (io : FaultIo)
  | trap (thread : ℕ) (alloc : Bool)
  | otherTrap (thread : ℕ) (alloc : Bool)
  | cleanup (thread : ℕ) (f : Fault) (io : CleanupIo)
  deriving DecidableEq

def pageIdx (m : Mapping) (addr : ℕ) : ℕ := (addr - m.baseAddr) / pageSize

/-- The pool gets the page, if it does not have it yet. -/
def backPage (base idx : ℕ) (dsmMap : List Mapping) : List Mapping :=
  dsmMap.modify (dsmMap.findIdx fun m => m.baseAddr == base) fun m =>
    { m with pages := m.pages.insert idx }

/-- `mattx_dsm_fault` up to the injection: where the page is, and the pool with it. -/
def fetch (dsmMap : List Mapping) (addr : ℕ) (io : FaultIo) :
    Except VmFault (Mapping × List Mapping) :=
  match dsmMap.find? (Mapping.covers addr) with
  | none => .error .sigsegv
  | some m =>
    if !io.link then .error .sigsegv
    else if !io.buf then .error .oom
    else if !io.slot then .error .sigsegv
    else if io.err then .error .sigsegv
    else match dsmMap.find? fun x => x.baseAddr == m.baseAddr with
      | none => .error .oom
      | some x =>
        if x.pages.contains (pageIdx m addr) || io.page then
          .ok (m, backPage m.baseAddr (pageIdx m addr) dsmMap)
        else .error .oom

/-- The leash is put on before the result of the insertion is looked at. -/
def mattxDsmFault (thread addr : ℕ) (isWrite : Bool) (io : FaultIo) (s : Gang) : Gang × VmFault :=
  match fetch s.dsmMap addr io with
  | .error e => (s, e)
  | .ok (m, dsmMap) =>
    let f : Fault := ⟨thread, s.next, addr, m.shmid, addr - m.baseAddr, isWrite⟩
    ({ s with
        dsmMap, stepPending := true, step := f, flagged := s.flagged.insert thread
        resident := if io.inserted then s.resident.insert addr else s.resident
        next := s.next + 1, faults := f :: s.faults, owed := f :: s.owed },
      if io.inserted then .noPage else .insertFailed)

/-- `mattx_die_cb`; the note it took, or none where the kernel goes on to deliver the trap. -/
def mattxDieCb (thread : ℕ) (alloc : Bool) (s : Gang) : Gang × Option Fault :=
  if s.stepPending then
    ({ s with
        stepPending := false, flagged := s.flagged.erase thread
        works := if alloc then (thread, s.step) :: s.works else s.works }, some s.step)
  else (s, none)

/-- The page the cleanup finds for the address is in the pool. -/
def backed (dsmMap : List Mapping) (addr : ℕ) : Bool :=
  match dsmMap.find? (Mapping.covers addr) with
  | some m => m.pages.contains (pageIdx m addr)
  | none => false

/-- The offset of the update: the segment is the note's, the offset is looked up again. -/
def syncOffset (dsmMap : List Mapping) (addr : ℕ) : ℕ :=
  match dsmMap.find? (Mapping.covers addr) with
  | some m => addr - m.baseAddr
  | none => 0

def mattxDsmCleanupCb (f : Fault) (io : CleanupIo) (s : Gang) : Gang :=
  let synced :=
    if f.isWrite && backed s.dsmMap f.addr && io.alloc && io.link then
      some (f.shmid, syncOffset s.dsmMap f.addr)
    else none
  { s with
    resident := if io.vma then s.resident.filter (· != f.addr) else s.resident
    cleaned := ⟨f, synced, if io.vma then some f.addr else none⟩ :: s.cleaned }

/-- A thread with a cleanup queued runs it before it goes on. -/
def Free (s : Gang) (thread : ℕ) : Prop := ∀ w ∈ s.works, w.1 ≠ thread

def enabled (s : Gang) : Event → Prop
  | .fault thread _ _ _ => Free s thread
  | .trap thread _ => thread ∈ s.flagged ∧ Free s thread
  | .otherTrap thread _ => thread ∉ s.flagged ∧ Free s thread
  | .cleanup thread f _ => (thread, f) ∈ s.works

/-- A trap ends the instruction, so what its thread has faulted on is settled with it. -/
def next (s : Gang) : Event → Gang
  | .fault thread addr isWrite io => (mattxDsmFault thread addr isWrite io s).1
  | .trap thread alloc =>
    let (s', took) := mattxDieCb thread alloc s
    { s' with
      traps := (thread, took) :: s.traps, owed := s.owed.filter fun f => f.thread != thread }
  | .otherTrap thread alloc => (mattxDieCb thread alloc s).1
  | .cleanup thread f io =>
    mattxDsmCleanupCb f io { s with works := s.works.erase (thread, f) }

def machine : Machine Gang Event := ⟨enabled, next⟩

instance (s : Gang) (thread : ℕ) : Decidable (Free s thread) :=
  inferInstanceAs (Decidable (∀ w ∈ s.works, w.1 ≠ thread))

instance (s : Gang) : DecidablePred (enabled s)
  | .fault thread _ _ _ => inferInstanceAs (Decidable (Free s thread))
  | .trap thread _ => inferInstanceAs (Decidable (thread ∈ s.flagged ∧ Free s thread))
  | .otherTrap thread _ => inferInstanceAs (Decidable (thread ∉ s.flagged ∧ Free s thread))
  | .cleanup thread f _ => inferInstanceAs (Decidable ((thread, f) ∈ s.works))

instance (s : Gang) : DecidablePred (machine.enabled s) :=
  inferInstanceAs (DecidablePred (enabled s))

def start (dsmMap : List Mapping) : Gang :=
  ⟨dsmMap, false, ⟨0, 0, 0, 0, 0, false⟩, [], [], [], 0, [], [], [], []⟩

/-- The cleanups of a fault, queued or run. -/
def cleanups (s : Gang) (f : Fault) : ℕ :=
  (s.works.map Prod.snd).count f + (s.cleaned.map Cleaned.fault).count f

/-- Every trap is taken, with the note of a fault of its own thread; a cleanup zaps that fault's page
and sends it if it was a write; and a fault has one cleanup from its trap on, and none before. -/
structure Stepped (s : Gang) : Prop where
  taken : ∀ e ∈ s.traps, ∃ f, e.2 = some f ∧ f.thread = e.1
  zapped : ∀ c ∈ s.cleaned, c.zapped = some c.fault.addr
  synced : ∀ c ∈ s.cleaned,
    c.synced = if c.fault.isWrite then some (c.fault.shmid, c.fault.offset) else none
  waiting : ∀ f ∈ s.faults, f ∈ s.owed → f.thread ∈ s.flagged ∧ cleanups s f = 0
  settled : ∀ f ∈ s.faults, f ∉ s.owed → cleanups s f = 1

/-- No fault gets to the leash while a thread of the gang still waits for its trap, no other debug
exception comes in between, and nothing fails on the way from the trap to the zap. -/
def ok (s : Gang) : Event → Prop
  | .fault _ addr _ io => s.flagged = [] ∨ (fetch s.dsmMap addr io).isOk = false
  | .trap _ alloc => alloc = true
  | .otherTrap _ _ => s.stepPending = false
  | .cleanup _ f io => io.vma = true ∧
      (f.isWrite = true → backed s.dsmMap f.addr = true ∧ io.alloc = true ∧ io.link = true)

instance (s : Gang) : DecidablePred (ok s)
  | .fault _ addr _ io =>
    inferInstanceAs (Decidable (s.flagged = [] ∨ (fetch s.dsmMap addr io).isOk = false))
  | .trap _ alloc => inferInstanceAs (Decidable (alloc = true))
  | .otherTrap _ _ => inferInstanceAs (Decidable (s.stepPending = false))
  | .cleanup _ f io => inferInstanceAs (Decidable (io.vma = true ∧
      (f.isWrite = true → backed s.dsmMap f.addr = true ∧ io.alloc = true ∧ io.link = true)))

/-- Where the handlers find an address: the segment and the offset. -/
def translate (dsmMap : List Mapping) (addr : ℕ) : Option (ℕ × ℕ) :=
  (dsmMap.find? (Mapping.covers addr)).map fun m => (m.shmid, addr - m.baseAddr)

/-- Backing a page moves no mapping. -/
theorem translate_modify (dsmMap : List Mapping) (i idx addr : ℕ) :
    translate (dsmMap.modify i fun m => { m with pages := m.pages.insert idx }) addr =
      translate dsmMap addr := by
  unfold translate
  induction dsmMap generalizing i with
  | nil => simp
  | cons m ms ih =>
    cases i with
    | zero =>
      rw [List.modify_zero_cons, List.find?_cons, List.find?_cons]
      change Option.map _ (match m.covers addr with | true => _ | false => _) = _
      cases m.covers addr <;> rfl
    | succ i =>
      rw [List.modify_succ_cons, List.find?_cons, List.find?_cons]
      cases m.covers addr with
      | true => rfl
      | false => exact ih i

theorem fetch_ok {dsmMap dsmMap' : List Mapping} {addr : ℕ} {io : FaultIo} {m : Mapping}
    (found : fetch dsmMap addr io = .ok (m, dsmMap')) :
    translate dsmMap addr = some (m.shmid, addr - m.baseAddr) ∧
      ∀ a, translate dsmMap' a = translate dsmMap a := by
  unfold fetch at found
  split at found
  · simp at found
  · rename_i x covers
    split_ifs at found
    split at found
    · simp at found
    · split_ifs at found
      simp only [Except.ok.injEq, Prod.mk.injEq] at found
      refine ⟨?_, ?_⟩
      · rw [translate, covers, ← found.1]
        rfl
      · intro a
        rw [← found.2]
        exact translate_modify dsmMap _ _ a

/-- At most one thread waits for its trap, and the note is about the fault it waits for. -/
structure Leashed (s : Gang) : Prop where
  stepped : Stepped s
  free : s.flagged = [] → s.stepPending = false ∧ s.owed = []
  held : ∀ t ∈ s.flagged,
    s.flagged = [t] ∧ s.stepPending = true ∧ s.step.thread = t ∧ s.owed = [s.step]
  fresh : ∀ f ∈ s.faults, f.tag < s.next
  known : ∀ f, 0 < cleanups s f → f ∈ s.faults
  owed : ∀ f ∈ s.owed, f ∈ s.faults
  located : ∀ f ∈ s.faults, translate s.dsmMap f.addr = some (f.shmid, f.offset)

section Steps
variable {s : Gang}

theorem leashed_fault (h : Leashed s) {thread addr : ℕ} {isWrite : Bool} {io : FaultIo}
    (hok : ok s (.fault thread addr isWrite io)) :
    Leashed (next s (.fault thread addr isWrite io)) := by
  cases found : fetch s.dsmMap addr io with
  | error e =>
    simp only [next, mattxDsmFault, found]
    exact h
  | ok x =>
    obtain ⟨m, dsmMap⟩ := x
    have unflagged : s.flagged = [] := by
      cases hok with
      | inl none => exact none
      | inr fails => simp [found, Except.isOk, Except.toBool] at fails
    obtain ⟨_, settled⟩ := h.free unflagged
    obtain ⟨here, kept⟩ := fetch_ok found
    let f : Fault := ⟨thread, s.next, addr, m.shmid, addr - m.baseAddr, isWrite⟩
    have new : f ∉ s.faults := by
      intro old
      have tag := h.fresh f old
      simp only [f] at tag
      omega
    have uncleaned : cleanups s f = 0 := by
      by_contra some
      exact new (h.known f (by omega))
    have flagged : s.flagged.insert thread = [thread] := by rw [unflagged]; rfl
    simp only [next, mattxDsmFault, found]
    refine ⟨⟨h.stepped.taken, h.stepped.zapped, h.stepped.synced, ?_, ?_⟩, ?_, ?_, ?_, ?_, ?_, ?_⟩
    · intro g mem due
      change g ∈ f :: s.owed at due
      rw [settled, List.mem_singleton] at due
      rw [due]
      exact ⟨by simp [f], uncleaned⟩
    · intro g mem paid
      change g ∉ f :: s.owed at paid
      rw [settled, List.mem_singleton] at paid
      have old : g ∈ s.faults := (List.mem_cons.mp mem).resolve_left paid
      exact h.stepped.settled g old (by simp [settled])
    · intro none
      change s.flagged.insert thread = [] at none
      simp [flagged] at none
    · intro t mem
      change t ∈ s.flagged.insert thread at mem
      rw [flagged, List.mem_singleton] at mem
      rw [mem]
      refine ⟨flagged, rfl, rfl, ?_⟩
      change f :: s.owed = [f]
      rw [settled]
    · intro g mem
      cases List.mem_cons.mp mem with
      | inl is =>
        rw [is]
        exact Nat.lt_succ_self s.next
      | inr old => exact Nat.lt_succ_of_lt (h.fresh g old)
    · intro g cleaned
      exact List.mem_cons_of_mem f (h.known g cleaned)
    · intro g mem
      cases List.mem_cons.mp mem with
      | inl is =>
        rw [is]
        exact List.mem_cons_self
      | inr old => exact List.mem_cons_of_mem f (h.owed g old)
    · intro g mem
      change translate dsmMap g.addr = _
      rw [kept]
      cases List.mem_cons.mp mem with
      | inl is =>
        rw [is]
        exact here
      | inr old => exact h.located g old

theorem leashed_trap (h : Leashed s) {thread : ℕ} {alloc : Bool} (en : enabled s (.trap thread alloc))
    (hok : ok s (.trap thread alloc)) : Leashed (next s (.trap thread alloc)) := by
  obtain ⟨flagged, pending, own, owed⟩ := h.held thread en.1
  have allocated : alloc = true := hok
  have due : s.step ∈ s.owed := by simp [owed]
  have known := h.owed s.step due
  have unused := (h.stepped.waiting s.step known due).2
  have paid : (s.owed.filter fun f => f.thread != thread) = [] := by
    simp [owed, own]
  have more : ∀ f, cleanups (next s (.trap thread alloc)) f =
      cleanups s f + if s.step = f then 1 else 0 := by
    intro f
    simp only [cleanups, next, mattxDieCb, pending, allocated, if_true, List.map_cons,
      List.count_cons, beq_iff_eq]
    omega
  have state : next s (.trap thread alloc) =
      { s with
        stepPending := false, flagged := [], works := (thread, s.step) :: s.works
        traps := (thread, some s.step) :: s.traps, owed := [] } := by
    simp [next, mattxDieCb, pending, allocated, flagged, owed, own]
  rw [state] at more ⊢
  refine ⟨⟨?_, h.stepped.zapped, h.stepped.synced, by simp, ?_⟩, by simp, by simp, h.fresh, ?_,
    by simp, h.located⟩
  · intro e mem
    cases List.mem_cons.mp mem with
    | inl is =>
      rw [is]
      exact ⟨s.step, rfl, own⟩
    | inr old => exact h.stepped.taken e old
  · intro f mem _
    rw [more]
    by_cases is : s.step = f
    · rw [if_pos is, ← is, unused]
    · rw [if_neg is]
      refine h.stepped.settled f mem ?_
      rw [owed, List.mem_singleton]
      exact fun same => is same.symm
  · intro f cleaned
    rw [more] at cleaned
    by_cases is : s.step = f
    · rw [← is]
      exact known
    · rw [if_neg is] at cleaned
      exact h.known f cleaned

theorem leashed_otherTrap (h : Leashed s) {thread : ℕ} {alloc : Bool}
    (hok : ok s (.otherTrap thread alloc)) : Leashed (next s (.otherTrap thread alloc)) := by
  have idle : s.stepPending = false := hok
  simp only [next, mattxDieCb, idle, Bool.false_eq_true, if_false]
  exact h

theorem leashed_cleanup (h : Leashed s) {thread : ℕ} {f : Fault} {io : CleanupIo}
    (en : (thread, f) ∈ s.works) (hok : ok s (.cleanup thread f io)) :
    Leashed (next s (.cleanup thread f io)) := by
  obtain ⟨area, sends⟩ := hok
  have queued : s.works.Perm ((thread, f) :: s.works.erase (thread, f)) := List.perm_cons_erase en
  have same : ∀ g, cleanups (next s (.cleanup thread f io)) g = cleanups s g := by
    intro g
    have count := (queued.map Prod.snd).count_eq g
    simp only [List.map_cons, List.count_cons] at count
    simp only [cleanups, next, mattxDsmCleanupCb, List.map_cons, List.count_cons]
    omega
  have used : 0 < cleanups s f := by
    have mem : f ∈ s.works.map Prod.snd := List.mem_map_of_mem en
    have some := List.count_pos_iff.mpr mem
    unfold cleanups
    omega
  have located := h.located f (h.known f used)
  have offset : syncOffset s.dsmMap f.addr = f.offset := by
    unfold translate at located
    unfold syncOffset
    cases found : s.dsmMap.find? (Mapping.covers f.addr) with
    | none => simp [found] at located
    | some m =>
      simp only [found, Option.map_some, Option.some.injEq, Prod.mk.injEq] at located
      exact located.2
  refine ⟨⟨h.stepped.taken, ?_, ?_, ?_, ?_⟩, h.free, h.held, h.fresh, ?_, h.owed, h.located⟩
  · intro c mem
    cases List.mem_cons.mp mem with
    | inl is =>
      rw [is]
      simp [area]
    | inr old => exact h.stepped.zapped c old
  · intro c mem
    cases List.mem_cons.mp mem with
    | inl is =>
      rw [is]
      by_cases write : f.isWrite = true
      · obtain ⟨backed, alloc, link⟩ := sends write
        simp [write, backed, alloc, link, offset]
      · simp [write]
    | inr old => exact h.stepped.synced c old
  · intro g mem due
    rw [same]
    exact h.stepped.waiting g mem due
  · intro g mem paid
    rw [same]
    exact h.stepped.settled g mem paid
  · intro g cleaned
    rw [same] at cleaned
    exact h.known g cleaned

theorem leashed_next (h : Leashed s) (e : Event) (en : enabled s e) (hok : ok s e) :
    Leashed (next s e) := by
  cases e with
  | fault thread addr isWrite io => exact leashed_fault h hok
  | trap thread alloc => exact leashed_trap h en hok
  | otherTrap thread alloc => exact leashed_otherTrap h hok
  | cleanup thread f io => exact leashed_cleanup h en hok

end Steps

/-- As long as faults do not overlap, every trap settles the fault of its own thread. -/
theorem steps_settle_own_faults (dsmMap : List Mapping) {events : List Event}
    (run : machine.Follows ok (start dsmMap) events) :
    machine.Always Stepped (start dsmMap) events := by
  have fresh : Leashed (start dsmMap) := by
    refine ⟨⟨?_, ?_, ?_, ?_, ?_⟩, fun _ => ⟨rfl, rfl⟩, ?_, ?_, ?_, ?_, ?_⟩ <;>
      simp [start, cleanups]
  exact (run.always (fun _ e h en hok => leashed_next h e en hok) fresh).mono fun _ h => h.stepped

def segment : List Mapping := [⟨8192, 8192, 5, []⟩]

def smooth : FaultIo := ⟨true, true, true, false, true, true⟩

def done : CleanupIo := ⟨true, true, true⟩

/-- One thread reads a page and another then writes the next one. -/
theorem steps_settle_own_faults_inTurn : machine.Always Stepped (start segment)
    [.fault 1 8192 false smooth, .trap 1 true, .fault 2 12288 true smooth,
      .cleanup 1 ⟨1, 0, 8192, 5, 0, false⟩ done, .trap 2 true,
      .cleanup 2 ⟨2, 1, 12288, 5, 4096, true⟩ done] :=
  steps_settle_own_faults segment (by decide +kernel)

/-- Two threads fault before the first has trapped. -/
def overlapping : List Event :=
  [.fault 1 8192 true smooth, .fault 2 12288 false smooth, .trap 1 true,
    .cleanup 1 ⟨2, 1, 12288, 5, 4096, false⟩ done, .trap 2 true]

/-- One instruction copies from one page to the other. -/
def copying : List Event :=
  [.fault 1 8192 false smooth, .fault 1 12288 true smooth, .trap 1 true,
    .cleanup 1 ⟨1, 1, 12288, 5, 4096, true⟩ done]

/-- The first thread's trap zaps the second thread's page, its own write is not sent, and the second
thread's trap is left to the kernel. The page an instruction reads is left mapped if it writes to
another. -/
theorem note_is_overwritten :
    let twice := machine.after (start segment) overlapping
    let copied := machine.after (start segment) copying
    machine.Runs (start segment) overlapping ∧ machine.Runs (start segment) copying ∧
      twice.traps = [(2, none), (1, some ⟨2, 1, 12288, 5, 4096, false⟩)] ∧
      twice.cleaned = [⟨⟨2, 1, 12288, 5, 4096, false⟩, none, some 12288⟩] ∧
      twice.resident = [8192] ∧ copied.resident = [8192] ∧ copied.flagged = [] ∧
      ¬ Stepped twice ∧ ¬ Stepped copied := by
  refine ⟨by decide +kernel, by decide +kernel, by decide +kernel, by decide +kernel,
    by decide +kernel, by decide +kernel, by decide +kernel, ?_, ?_⟩
  · intro stepped
    have left : (2, none) ∈ (machine.after (start segment) overlapping).traps := by decide +kernel
    obtain ⟨f, is, _⟩ := stepped.taken _ left
    simp at is
  · intro stepped
    have settled := stepped.settled ⟨1, 0, 8192, 5, 0, false⟩ (by decide +kernel) (by decide +kernel)
    have none : cleanups (machine.after (start segment) copying) ⟨1, 0, 8192, 5, 0, false⟩ = 0 := by
      decide +kernel
    omega

end MattX.DsmSingleStep
