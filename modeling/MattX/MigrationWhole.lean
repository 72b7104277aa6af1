import MattX.MigrationCapture
import Mathlib.Data.List.Nodup
import Mathlib.Data.List.Perm.Subperm

set_option autoImplicit false

/-!
# What a blueprint describes

The lists of a blueprint have fixed sizes, the descriptors are listed before
the other threads are stopped, and what does not fit is left out. Where all of
it fits and nothing changes behind the capture, the blueprint is complete.
-/
namespace MattX.MigrationWhole
open GuardedRuns MigrationPump MigrationCapture

def Snapshot.Complete (snap : Snapshot) : Prop :=
  (∀ t ∈ snap.live, t ∈ snap.stopped ∧ t ∈ snap.req.threads) ∧
    (∀ fd ∈ snap.fds, fd ∈ snap.req.openFds) ∧ ∀ v ∈ snap.vmas, v ∈ snap.req.vmas

/-- No thread is left stopped. -/
def Resumed (s : Capture) : Prop := s.live = [] ∨ (s.stopPending = false ∧ s.stopped = [])

/-- The whole gang migrates, or nothing does and it goes on. -/
def WholeOrNothing (s : Capture) : Prop :=
  (∀ snap, s.sent = some snap → Snapshot.Complete snap) ∧
    (s.phase = .failed → s.sent = none → Resumed s)

/-- The descriptors are listed. -/
def listed : Phase → Bool
  | .scanning | .scanned | .drainingThread | .settled | .packed | .walked | .stored => true
  | _ => false

/-- The thread list has been walked since the last thread was frozen. -/
def gathered : Phase → Bool
  | .scanned | .drainingThread | .settled => true
  | _ => false

/-- The threads are packed. -/
def held : Phase → Bool
  | .packed | .walked | .stored => true
  | _ => false

/-- The mappings are listed. -/
def mapped : Phase → Bool
  | .walked | .stored => true
  | _ => false

/-- Everything fits, no descriptor is opened behind the list, no thread is born behind the last
scan, and when the threads are packed they have stopped and stay so. -/
def ok (s : Capture) : Event → Prop
  | .clone _ _ => s.ever.length < maxGangThreads
  | .captureFds => s.fds.length ≤ maxFds
  | .openFd _ _ => listed s.phase = false
  | .pack => s.bornSinceScan = false ∧ ∀ t ∈ s.live, t ∈ s.stopped
  | .walk => s.vmas.length ≤ maxVmas
  | .cont => held s.phase = false
  | _ => True

instance (s : Capture) : DecidablePred (ok s)
  | .clone _ _ => inferInstanceAs (Decidable (s.ever.length < maxGangThreads))
  | .captureFds => inferInstanceAs (Decidable (s.fds.length ≤ maxFds))
  | .openFd _ _ => inferInstanceAs (Decidable (listed s.phase = false))
  | .pack => inferInstanceAs (Decidable (s.bornSinceScan = false ∧ ∀ t ∈ s.live, t ∈ s.stopped))
  | .walk => inferInstanceAs (Decidable (s.vmas.length ≤ maxVmas))
  | .cont => inferInstanceAs (Decidable (held s.phase = false))
  | .enter _ | .drain _ | .frozen | .scan | .endScan | .store _ | .send _ _ | .ready _ _
  | .exit _ | .closeFd _ _ | .remap _ _ | .stop _ => isTrue trivial

/-! ### One scan -/

/-- What one thread of the list does to those held. -/
def hold (ts : List ℕ) (t : ℕ) : List ℕ :=
  if t ∈ ts then ts else if ts.length < maxGangThreads then ts ++ [t] else ts

theorem hold_mem {ts : List ℕ} {t u : ℕ} (mem : u ∈ hold ts t) : u ∈ ts ∨ u = t := by
  simp only [hold] at mem
  split_ifs at mem with old room
  · exact .inl mem
  · simpa using mem
  · exact .inl mem

theorem hold_keeps {ts : List ℕ} {u : ℕ} (t : ℕ) (mem : u ∈ ts) : u ∈ hold ts t := by
  simp only [hold]
  split_ifs with old room
  · exact mem
  · exact List.mem_append_left _ mem
  · exact mem

theorem hold_nodup {ts : List ℕ} (t : ℕ) (nodup : ts.Nodup) : (hold ts t).Nodup := by
  simp only [hold]
  split_ifs with old room
  · exact nodup
  · exact List.Nodup.append nodup (List.nodup_singleton t) (by simpa using old)
  · exact nodup

theorem collect_cons (threads live : List ℕ) (t : ℕ) :
    collect threads (t :: live) = collect (hold threads t) live :=
  rfl

theorem collect_mem {live threads : List ℕ} {u : ℕ} (mem : u ∈ collect threads live) :
    u ∈ threads ∨ u ∈ live := by
  induction live generalizing threads with
  | nil => exact .inl mem
  | cons t live ih =>
    rw [collect_cons] at mem
    cases ih mem with
    | inl held =>
      cases hold_mem held with
      | inl old => exact .inl old
      | inr new => exact .inr (by rw [new]; exact List.mem_cons_self)
    | inr later => exact .inr (List.mem_cons_of_mem t later)

theorem collect_keeps {live threads : List ℕ} {u : ℕ} (mem : u ∈ threads) :
    u ∈ collect threads live := by
  induction live generalizing threads with
  | nil => exact mem
  | cons t live ih =>
    rw [collect_cons]
    exact ih (hold_keeps t mem)

theorem collect_nodup {live threads : List ℕ} (nodup : threads.Nodup) :
    (collect threads live).Nodup := by
  induction live generalizing threads with
  | nil => exact nodup
  | cons t live ih =>
    rw [collect_cons]
    exact ih (hold_nodup t nodup)

theorem collect_length {live threads : List ℕ} :
    threads.length ≤ (collect threads live).length := by
  induction live generalizing threads with
  | nil => exact le_refl _
  | cons t live ih =>
    have one : threads.length ≤ (hold threads t).length := by
      simp only [hold]
      split_ifs <;> simp
    rw [collect_cons]
    exact one.trans ih

/-- A thread that a scan sees is held, unless there is no room. -/
theorem collect_holds {live threads : List ℕ} {u : ℕ} (mem : u ∈ live) :
    u ∈ collect threads live ∨ maxGangThreads ≤ (collect threads live).length := by
  induction live generalizing threads with
  | nil => cases mem
  | cons t live ih =>
    rw [collect_cons]
    cases mem with
    | tail _ later => exact ih later
    | head =>
      by_cases room : threads.length < maxGangThreads
      · have now : u ∈ hold threads u := by
          simp only [hold, if_pos room]
          split_ifs with old
          · exact old
          · simp
        exact .inl (collect_keeps now)
      · have full : maxGangThreads ≤ (hold threads u).length := by
          simp only [hold, if_neg room, ite_self]
          omega
        exact .inr (full.trans collect_length)

/-- Among at most sixteen threads a scan misses none. -/
theorem collect_all {threads live ever : List ℕ} (nodup : threads.Nodup)
    (known : ∀ t ∈ threads, t ∈ ever) (liveKnown : ∀ t ∈ live, t ∈ ever)
    (few : ever.length ≤ maxGangThreads) : ∀ t ∈ live, t ∈ collect threads live := by
  intro t mem
  have seen : t ∈ collect threads live ∨ maxGangThreads ≤ (collect threads live).length :=
    collect_holds mem
  cases seen with
  | inl held => exact held
  | inr full =>
    have within : ∀ u ∈ collect threads live, u ∈ ever := fun u hu =>
      (collect_mem hu).elim (known u) (liveKnown u)
    have sub := List.subperm_of_subset (collect_nodup nodup) within
    have perm := sub.perm_of_length_le (few.trans full)
    exact perm.mem_iff.mpr (liveKnown t mem)

/-! ### The invariant -/

structure Whole (s : Capture) : Prop where
  liveKnown : ∀ t ∈ s.live, t ∈ s.ever
  few : s.ever.length ≤ maxGangThreads
  nodup : s.threads.Nodup
  known : ∀ t ∈ s.threads, t ∈ s.ever
  caught : gathered s.phase = true → s.bornSinceScan = true ∨ ∀ t ∈ s.live, t ∈ s.threads
  still : held s.phase = true → ∀ t ∈ s.live, t ∈ s.stopped
  packed : held s.phase = true → s.req.threads = s.threads ∧ ∀ t ∈ s.live, t ∈ s.threads
  files : listed s.phase = true → ∀ fd ∈ s.fds, fd ∈ s.req.openFds
  maps : mapped s.phase = true → ∀ v ∈ s.vmas, v ∈ s.req.vmas
  fresh : s.phase = .idle → s.stopPending = false ∧ s.stopped = []
  resumed : s.phase = .failed → s.sent = none → Resumed s
  complete : ∀ snap, s.sent = some snap → Snapshot.Complete snap

theorem held_idle {s : Capture} (h : Whole s) (t : ℕ) (runs : Runs s t) : held s.phase = false := by
  cases phase : held s.phase with
  | false => rfl
  | true => exact absurd (h.still phase t runs.1) runs.2

section Process
variable {a : Attempt} {s : Capture}

theorem whole_clone (h : Whole s) {parent child : ℕ} (en : enabled s (.clone parent child))
    (hok : ok s (.clone parent child)) : Whole (next a s (.clone parent child)) := by
  have idle := held_idle h parent en.1
  have room : s.ever.length < maxGangThreads := hok
  have running (p : Phase) (same : s.phase = p) (stuck : held p = true) : False := by
    rw [same, stuck] at idle
    cases idle
  refine ⟨?_, ?_, h.nodup, ?_, fun _ => .inl rfl, ?_, ?_, h.files, h.maps, h.fresh, ?_, h.complete⟩
  · intro t mem
    have cases : t ∈ s.live ∨ t = child := by simpa [next] using mem
    cases cases with
    | inl old => exact List.mem_append_left _ (h.liveKnown t old)
    | inr new => rw [new]; exact List.mem_append_right _ List.mem_cons_self
  · simp only [next, List.length_append, List.length_cons, List.length_nil]
    omega
  · intro t mem
    exact List.mem_append_left _ (h.known t mem)
  · intro stuck
    exact (running _ rfl stuck).elim
  · intro stuck
    exact (running _ rfl stuck).elim
  · intro failed unsent
    cases h.resumed failed unsent with
    | inl none => exact absurd en.1.1 (by simp [none])
    | inr free => exact .inr free

theorem whole_exit (h : Whole s) (t : ℕ) : Whole (next a s (.exit t)) := by
  have fewer : ∀ u ∈ s.live.erase t, u ∈ s.live := fun u => List.mem_of_mem_erase
  refine ⟨fun u mem => h.liveKnown u (fewer u mem), h.few, h.nodup, h.known, ?_, ?_, ?_, h.files,
    h.maps, h.fresh, ?_, h.complete⟩
  · intro stage
    cases h.caught stage with
    | inl born => exact .inl born
    | inr all => exact .inr fun u mem => all u (fewer u mem)
  · intro stage u mem
    exact h.still stage u (fewer u mem)
  · intro stage
    have packed := h.packed stage
    exact ⟨packed.1, fun u mem => packed.2 u (fewer u mem)⟩
  · intro failed unsent
    cases h.resumed failed unsent with
    | inl none => exact .inl (by simp [next, none])
    | inr free => exact .inr free

theorem whole_openFd (h : Whole s) {t fd : ℕ} (hok : ok s (.openFd t fd)) :
    Whole (next a s (.openFd t fd)) := by
  refine ⟨h.liveKnown, h.few, h.nodup, h.known, h.caught, h.still, h.packed, ?_, h.maps, h.fresh,
    h.resumed, h.complete⟩
  intro stage
  have unlisted : listed s.phase = false := hok
  exact absurd stage (by simp [next, unlisted])

theorem whole_closeFd (h : Whole s) (t fd : ℕ) : Whole (next a s (.closeFd t fd)) := by
  refine ⟨h.liveKnown, h.few, h.nodup, h.known, h.caught, h.still, h.packed, ?_, h.maps, h.fresh,
    h.resumed, h.complete⟩
  intro stage f mem
  exact h.files stage f (List.mem_of_mem_erase mem)

theorem whole_remap (h : Whole s) {t : ℕ} {vmas : List VmaInfo} (en : enabled s (.remap t vmas)) :
    Whole (next a s (.remap t vmas)) := by
  refine ⟨h.liveKnown, h.few, h.nodup, h.known, h.caught, h.still, h.packed, h.files, ?_, h.fresh,
    h.resumed, h.complete⟩
  intro stage
  have idle := held_idle h t en
  have stage : mapped s.phase = true := stage
  cases phase : s.phase <;> simp [phase, held, mapped] at idle stage

theorem whole_stop (h : Whole s) {t : ℕ} (en : enabled s (.stop t)) :
    Whole (next a s (.stop t)) := by
  refine ⟨h.liveKnown, h.few, h.nodup, h.known, h.caught, ?_, h.packed, h.files, h.maps, ?_, ?_,
    h.complete⟩
  · intro stage u mem
    exact List.mem_cons_of_mem t (h.still stage u mem)
  · intro idle
    have free := h.fresh idle
    simp [en.1] at free
  · intro failed unsent
    cases h.resumed failed unsent with
    | inl none => exact .inl none
    | inr free => simp [en.1] at free

theorem whole_cont (h : Whole s) (hok : ok s .cont) : Whole (next a s .cont) := by
  have idle : held s.phase = false := hok
  refine ⟨h.liveKnown, h.few, h.nodup, h.known, h.caught, ?_, h.packed, h.files, h.maps,
    fun _ => ⟨rfl, rfl⟩, fun _ _ => .inr ⟨rfl, rfl⟩, h.complete⟩
  intro stage
  exact absurd stage (by simp [next, sigcont, idle])

end Process

section Steps
variable {a : Attempt} {s : Capture}

/-- Before the first scan and after the send nothing is claimed but the counts. -/
theorem Whole.early (h : Whole s) {s' : Capture} (live : ∀ t ∈ s'.live, t ∈ s.live)
    (ever : s'.ever = s.ever) (threads : s'.threads = s.threads) (sent : s'.sent = s.sent)
    (early : gathered s'.phase = false ∧ held s'.phase = false ∧ listed s'.phase = false ∧
      mapped s'.phase = false ∧ s'.phase ≠ .idle)
    (resumed : s'.phase = .failed → s'.sent = none → Resumed s') : Whole s' := by
  obtain ⟨notGathered, notHeld, notListed, notMapped, notIdle⟩ := early
  refine ⟨?_, ?_, ?_, ?_, by simp [notGathered], by simp [notHeld], by simp [notHeld],
    by simp [notListed], by simp [notMapped], fun idle => absurd idle notIdle, resumed, ?_⟩
  · intro t mem
    rw [ever]
    exact h.liveKnown t (live t mem)
  · rw [ever]
    exact h.few
  · rw [threads]
    exact h.nodup
  · rw [threads, ever]
    exact h.known
  · rw [sent]
    exact h.complete

theorem whole_enter (h : Whole s) (alloc : Bool) (en : enabled s (.enter alloc)) :
    Whole (next a s (.enter alloc)) := by
  have free := h.fresh en
  have early (p : Phase) (new : p = .allocated ∨ p = .failed) : gathered p = false ∧
      held p = false ∧ listed p = false ∧ mapped p = false ∧ p ≠ .idle := by
    cases new with
    | inl is => simp [is, gathered, held, listed, mapped]
    | inr is => simp [is, gathered, held, listed, mapped]
  simp only [next]
  split_ifs
  all_goals
    refine h.early (fun _ mem => mem) rfl rfl rfl (early _ ?_) fun _ _ => .inr free
    first | exact .inl rfl | exact .inr rfl

theorem drainTask_frame (t : ℕ) (workAdded : Bool) (s : Capture) :
    (drainTask t workAdded s).live = s.live ∧ (drainTask t workAdded s).ever = s.ever ∧
      (drainTask t workAdded s).threads = s.threads ∧ (drainTask t workAdded s).sent = s.sent ∧
      (drainTask t workAdded s).fds = s.fds ∧ (drainTask t workAdded s).req = s.req ∧
      (drainTask t workAdded s).bornSinceScan = s.bornSinceScan := by
  simp only [drainTask]
  split_ifs <;> exact ⟨rfl, rfl, rfl, rfl, rfl, rfl, rfl⟩

/-- While the threads are gathered only the counters change. -/
theorem Whole.gathering (h : Whole s) {s' : Capture} (stage : gathered s.phase = true)
    (stage' : gathered s'.phase = true ∨ s'.phase = .scanning)
    (live : s'.live = s.live) (ever : s'.ever = s.ever) (threads : s'.threads = s.threads)
    (sent : s'.sent = s.sent) (fds : s'.fds = s.fds) (req : s'.req = s.req)
    (born : s'.bornSinceScan = s.bornSinceScan) : Whole s' := by
  have files := h.files (by cases phase : s.phase <;> simp [phase, gathered, listed] at stage ⊢)
  have caught := h.caught stage
  have late : held s'.phase = false ∧ mapped s'.phase = false ∧ s'.phase ≠ .idle ∧
      s'.phase ≠ .failed := by
    cases phase : s'.phase <;> simp [phase, gathered, held, mapped] at stage' ⊢
  refine ⟨?_, ?_, ?_, ?_, ?_, by simp [late.1], by simp [late.1], ?_, by simp [late.2.1],
    fun idle => absurd idle late.2.2.1, fun failed => absurd failed late.2.2.2, ?_⟩
  · rw [live, ever]
    exact h.liveKnown
  · rw [ever]
    exact h.few
  · rw [threads]
    exact h.nodup
  · rw [threads, ever]
    exact h.known
  · rw [born, live, threads]
    exact fun _ => caught
  · rw [fds, req]
    exact fun _ => files
  · rw [sent]
    exact h.complete

theorem whole_drain (h : Whole s) (workAdded : Bool) (en : enabled s (.drain workAdded)) :
    Whole (next a s (.drain workAdded)) := by
  simp only [next]
  split_ifs with allocated
  · obtain ⟨live, ever, threads, sent, -⟩ := drainTask_frame a.task workAdded s
    refine h.early (fun t mem => ?_) ever threads sent ?_ (by simp)
    · rw [← live]
      exact mem
    · simp [gathered, held, listed, mapped]
  · have scanned : s.phase = .scanned := en.elim (fun is => absurd is allocated) And.left
    have stage : gathered s.phase = true := by rw [scanned]; rfl
    split
    · rename_i t found
      split_ifs with mother
      · exact h.gathering stage (.inl stage) rfl rfl rfl rfl rfl rfl rfl
      · obtain ⟨live, ever, threads, sent, fds, req, born⟩ := drainTask_frame t workAdded s
        exact h.gathering stage (.inl rfl) live ever threads sent fds req born
    · exact h

theorem whole_frozen (h : Whole s) (en : enabled s .frozen) : Whole (next a s .frozen) := by
  simp only [next]
  split_ifs with mother
  · refine h.early (fun _ mem => mem) rfl rfl rfl ?_ (by simp)
    simp [gathered, held, listed, mapped]
  · have thread : s.phase = .drainingThread := en.elim (fun is => absurd is mother) id
    have stage : gathered s.phase = true := by rw [thread]; rfl
    exact h.gathering stage (.inl rfl) rfl rfl rfl rfl rfl rfl rfl

theorem whole_captureFds (forward : a.isReturning = false) (h : Whole s)
    (hok : ok s .captureFds) : Whole (next a s .captureFds) := by
  have fits : s.fds.take maxFds = s.fds := List.take_of_length_le hok
  refine ⟨h.liveKnown, h.few, h.nodup, h.known, by simp [next, gathered], by simp [next, held],
    by simp [next, held], ?_, by simp [next, mapped], by simp [next], by simp [next], h.complete⟩
  intro _ fd mem
  simpa [next, forward, fits] using mem

theorem whole_scan (h : Whole s) (en : enabled s .scan) : Whole (next a s .scan) := by
  have scanning : s.phase = .scanning := en
  have files := h.files (by rw [scanning]; rfl)
  refine ⟨h.liveKnown, h.few, collect_nodup h.nodup, ?_, ?_, by simp [next, held],
    by simp [next, held], fun _ => files, by simp [next, mapped], by simp [next], by simp [next],
    h.complete⟩
  · intro t mem
    exact (collect_mem mem).elim (h.known t) (h.liveKnown t)
  · intro _
    exact .inr (collect_all h.nodup h.known h.liveKnown h.few)

theorem endScan_frame (a : Attempt) (s : Capture) :
    ((next a s .endScan).phase = .scanning ∨ (next a s .endScan).phase = .settled) ∧
      (next a s .endScan).live = s.live ∧ (next a s .endScan).ever = s.ever ∧
      (next a s .endScan).threads = s.threads ∧ (next a s .endScan).sent = s.sent ∧
      (next a s .endScan).fds = s.fds ∧ (next a s .endScan).req = s.req ∧
      (next a s .endScan).bornSinceScan = s.bornSinceScan := by
  simp only [next]
  generalize (if s.threads.length = s.beforeCount then s.stableScans + 1 else 0) = stableScans
  by_cases more : stableScans < requiredStableScans
  · by_cases retry : 0 < s.stabilizeRetries - 1
    · simp [more, retry]
    · simp [more, retry]
  · simp [more]

theorem whole_endScan (h : Whole s) (en : enabled s .endScan) : Whole (next a s .endScan) := by
  have stage : gathered s.phase = true := by rw [en.1]; rfl
  obtain ⟨phase, live, ever, threads, sent, fds, req, born⟩ := endScan_frame a s
  refine h.gathering stage ?_ live ever threads sent fds req born
  cases phase with
  | inl again => exact .inr again
  | inr settled => exact .inl (by rw [settled]; rfl)

theorem whole_pack (h : Whole s) (en : enabled s .pack) (hok : ok s .pack) :
    Whole (next a s .pack) := by
  have settled : s.phase = .settled := en
  obtain ⟨unborn, stopped⟩ := hok
  have files := h.files (by rw [settled]; rfl)
  have all : ∀ t ∈ s.live, t ∈ s.threads := by
    cases h.caught (by rw [settled]; rfl) with
    | inl born => simp [unborn] at born
    | inr all => exact all
  simp only [next]
  split_ifs with gone
  · refine h.early (fun _ mem => mem) rfl rfl rfl ?_ fun _ _ => .inr ⟨rfl, rfl⟩
    simp [abort, gathered, held, listed, mapped]
  · exact ⟨h.liveKnown, h.few, h.nodup, h.known, by simp [gathered], fun _ => stopped,
      fun _ => ⟨rfl, all⟩, fun _ => files, by simp [mapped], by simp, by simp, h.complete⟩

theorem whole_walk (h : Whole s) (en : enabled s .walk) (hok : ok s .walk) :
    Whole (next a s .walk) := by
  have packed : s.phase = .packed := en
  have fits : s.vmas.take maxVmas = s.vmas := List.take_of_length_le hok
  have still := h.still (by rw [packed]; rfl)
  have threads := h.packed (by rw [packed]; rfl)
  have files := h.files (by rw [packed]; rfl)
  refine ⟨h.liveKnown, h.few, h.nodup, h.known, by simp [next, gathered], fun _ => still,
    fun _ => threads, fun _ => files, ?_, by simp [next], by simp [next], h.complete⟩
  intro _ v mem
  simpa [next, fits] using mem

theorem whole_store (h : Whole s) (copied : Bool) (en : enabled s (.store copied)) :
    Whole (next a s (.store copied)) := by
  have walked : s.phase = .walked := en
  have still := h.still (by rw [walked]; rfl)
  have threads := h.packed (by rw [walked]; rfl)
  have files := h.files (by rw [walked]; rfl)
  have maps := h.maps (by rw [walked]; rfl)
  exact ⟨h.liveKnown, h.few, h.nodup, h.known, by simp [next, gathered], fun _ => still,
    fun _ => threads, fun _ => files, fun _ => maps, by simp [next], by simp [next], h.complete⟩

theorem whole_send (h : Whole s) (link : Bool) (sendRet : ℤ) (en : enabled s (.send link sendRet)) :
    Whole (next a s (.send link sendRet)) := by
  have stored : s.phase = .stored := en
  have still := h.still (by rw [stored]; rfl)
  obtain ⟨reqThreads, all⟩ := h.packed (by rw [stored]; rfl)
  have files := h.files (by rw [stored]; rfl)
  have maps := h.maps (by rw [stored]; rfl)
  have thawed (g : Capture) : (thaw a g).live = g.live ∧ (thaw a g).ever = g.ever ∧
      (thaw a g).threads = g.threads ∧ (thaw a g).sent = g.sent := by
    simp only [thaw]
    split_ifs <;> exact ⟨rfl, rfl, rfl, rfl⟩
  have early : gathered .failed = false ∧ held .failed = false ∧ listed .failed = false ∧
      mapped .failed = false ∧ Phase.failed ≠ .idle := by simp [gathered, held, listed, mapped]
  have whole : Whole { s with sent := some ⟨s.req, s.live, s.stopped, s.fds, s.vmas⟩ } := by
    refine ⟨h.liveKnown, h.few, h.nodup, h.known, h.caught, h.still, h.packed, h.files, h.maps,
      h.fresh, by simp, ?_⟩
    intro snap is
    obtain rfl := Option.some.inj is
    refine ⟨fun t mem => ⟨still t mem, ?_⟩, files, maps⟩
    rw [reqThreads]
    exact all t mem
  cases link with
  | true =>
    simp only [next, if_true]
    split_ifs with failed
    · obtain ⟨live, ever, threads, sent⟩ := thawed
        { s with sent := some ⟨s.req, s.live, s.stopped, s.fds, s.vmas⟩ }
      refine whole.early (fun t mem => ?_) ever threads sent early ?_
      · have mem : t ∈ (thaw a { s with sent := some _ }).live := mem
        rw [live] at mem
        exact mem
      · intro _ unsent
        have unsent : (thaw a { s with sent := some _ }).sent = none := unsent
        rw [sent] at unsent
        cases unsent
    · exact whole.early (fun _ mem => mem) rfl rfl rfl (by simp [gathered, held, listed, mapped])
        (by simp)
  | false =>
    obtain ⟨live, ever, threads, sent⟩ := thawed s
    refine h.early (fun t mem => ?_) ever threads sent early ?_
    · have mem : t ∈ (thaw a s).live := mem
      rw [live] at mem
      exact mem
    · intro _ _
      by_cases none : s.threads = []
      · refine .inl (List.eq_nil_iff_forall_not_mem.mpr fun t mem => ?_)
        have mem : t ∈ (thaw a s).live := mem
        rw [live] at mem
        exact absurd (all t mem) (by simp [none])
      · refine .inr ?_
        simp only [next, Bool.false_eq_true, if_false, abort, thaw, if_neg none]
        split_ifs <;> exact ⟨rfl, rfl⟩

theorem acts_frame (log : List Action) (s : Capture) :
    (∀ t ∈ (log.foldl act s).live, t ∈ s.live) ∧ (log.foldl act s).ever = s.ever ∧
      (log.foldl act s).threads = s.threads ∧ (log.foldl act s).sent = s.sent := by
  induction log generalizing s with
  | nil => exact ⟨fun _ mem => mem, rfl, rfl, rfl⟩
  | cons x log ih =>
    obtain ⟨live, ever, threads, sent⟩ := ih (act s x)
    cases x with
    | page | returnDone | migrateDone | addExport => exact ⟨live, ever, threads, sent⟩
    | kill =>
      refine ⟨fun t mem => ?_, ever, threads, sent⟩
      cases live t mem

theorem whole_ready (h : Whole s) (link : ℕ → Bool) (io : ℕ → ℕ → PageIo) :
    Whole (next a s (.ready link io)) := by
  obtain ⟨live, ever, threads, sent⟩ := acts_frame (mattxSendVmaData link io s.globals).2
    { s with globals := (mattxSendVmaData link io s.globals).1 }
  by_cases idle : (mattxSendVmaData link io s.globals).2 = []
  · simp only [next, idle, List.foldl_nil, if_true]
    exact ⟨h.liveKnown, h.few, h.nodup, h.known, h.caught, h.still, h.packed, h.files, h.maps,
      h.fresh, h.resumed, h.complete⟩
  · refine h.early live ever threads sent ?_ ?_
    · simp [next, idle, gathered, held, listed, mapped]
    · simp [next, idle]

theorem whole_next (forward : a.isReturning = false) (h : Whole s) (e : Event) (en : enabled s e)
    (hok : ok s e) : Whole (next a s e) := by
  cases e with
  | enter alloc => exact whole_enter h alloc en
  | drain workAdded => exact whole_drain h workAdded en
  | frozen => exact whole_frozen h en
  | captureFds => exact whole_captureFds forward h hok
  | scan => exact whole_scan h en
  | endScan => exact whole_endScan h en
  | pack => exact whole_pack h en hok
  | walk => exact whole_walk h en hok
  | store copied => exact whole_store h copied en
  | send link sendRet => exact whole_send h link sendRet en
  | ready link io => exact whole_ready h link io
  | clone parent child => exact whole_clone h en hok
  | exit t => exact whole_exit h t
  | openFd t fd => exact whole_openFd h hok
  | closeFd t fd => exact whole_closeFd h t fd
  | remap t vmas => exact whole_remap h en
  | stop t => exact whole_stop h en
  | cont => exact whole_cont h hok

end Steps

/-- With at most sixteen threads and lists that fit, and nothing changed behind the capture, a
blueprint that goes out describes the whole frozen process. -/
theorem gang_is_whole {a : Attempt} (forward : a.isReturning = false) (live fds : List ℕ)
    (vmas : List VmaInfo) (exports : List (ℕ × ℕ)) (few : live.length ≤ maxGangThreads)
    {events : List Event} (run : (machine a).Follows ok (start live fds vmas exports) events) :
    (machine a).Always WholeOrNothing (start live fds vmas exports) events := by
  have fresh : Whole (start live fds vmas exports) := by
    refine ⟨fun _ mem => mem, few, List.nodup_nil, by simp [start], by simp [start, gathered],
      by simp [start, held], by simp [start, held], by simp [start, listed], by simp [start, mapped],
      fun _ => ⟨rfl, rfl⟩, by simp [start], by simp [start]⟩
  have whole := run.always (fun s e h en hok => whole_next forward h e en hok) fresh
  exact whole.mono fun s h => ⟨h.complete, h.resumed⟩

def heap : VmaInfo := ⟨4096, 8192, ⟨true, true, false, false⟩, false⟩

def out : Attempt := ⟨false, 0, 0, 1⟩

/-- The scans that find nothing new, and the way to the send. -/
def quietEnd : List Event :=
  [.scan, .endScan, .scan, .endScan, .scan, .endScan, .scan, .endScan, .scan, .endScan, .pack,
    .walk, .store true, .send true 1000]

/-- The second thread starts a third one while the mother is frozen. -/
def lateThread : List Event :=
  [.enter true, .drain true, .clone 1 2, .stop 0, .frozen, .captureFds, .scan, .drain true,
    .drain true, .stop 1, .frozen, .drain true, .stop 2, .frozen, .endScan] ++ quietEnd

theorem gang_is_whole_lateThread :
    (machine out).Always WholeOrNothing (start [0, 1] [3] [heap] []) lateThread :=
  gang_is_whole rfl [0, 1] [3] [heap] [] (by decide) (by decide +kernel)

/-- Seventeen threads, all of them stopped. -/
def seventeen : List Event :=
  [.enter true, .drain true, .stop 0, .frozen, .captureFds, .scan, .drain true] ++
    (List.range 15).flatMap (fun i => [.drain true, .stop (i + 1), .frozen]) ++
    [.stop 16, .endScan] ++ quietEnd

/-- The blueprint goes out with the first sixteen threads. -/
theorem seventeenth_thread_stays :
    (machine out).Runs (start (List.range 17) [3] [heap] []) seventeen ∧
      ((machine out).after (start (List.range 17) [3] [heap] []) seventeen).sent =
        some ⟨⟨0, List.range 16, [3], [heap]⟩, List.range 17, (List.range 17).reverse, [3], [heap]⟩ ∧
      ¬ WholeOrNothing ((machine out).after (start (List.range 17) [3] [heap] []) seventeen) := by
  have sent : ((machine out).after (start (List.range 17) [3] [heap] []) seventeen).sent =
      some ⟨⟨0, List.range 16, [3], [heap]⟩, List.range 17, (List.range 17).reverse, [3], [heap]⟩ := by
    decide +kernel
  refine ⟨by decide +kernel, sent, ?_⟩
  intro whole
  have described := ((whole.1 _ sent).1 16 (by simp)).2
  simp at described

end MattX.MigrationWhole
