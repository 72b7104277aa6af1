import MattX.MigrationCapture

set_option autoImplicit false

/-!
# What a failed migration leaves behind

Each exit of the capture and of the pump undoes another part of what was done.
Only the exits before the blueprint is stored leave the process as it was, and
on the way home the first of them leaves the guest locked.
-/
namespace MattX.MigrationRollback
open GuardedRuns MigrationPump MigrationCapture

/-- The threads go on, the guest is not locked, the registry is as it was, and a READY finds no
migration to carry out. -/
structure RolledBack (exports : List (ℕ × ℕ)) (s : Capture) : Prop where
  pending : s.stopPending = false
  stopped : s.stopped = []
  unlocked : s.isMigrating = false
  unexported : s.exports = exports
  unprepared : s.globals.localMigrationReq = none ∨ s.globals.migratingTask = none

/-- None of the functions is on its way. -/
def returned : Phase → Bool
  | .idle | .sent | .committed | .failed => true
  | _ => false

def FailuresUndone (exports : List (ℕ × ℕ)) (s : Capture) : Prop :=
  returned s.phase = true → s.hasFailed → RolledBack exports s

/-- What may fail is the blueprint's allocation on the way out, the process itself, and a thread
that exits while the gang is captured. -/
def ok (a : Attempt) (s : Capture) : Event → Prop
  | .enter alloc => a.isReturning = true → alloc = true
  | .store copied => copied = true
  | .send link sendRet => link = true ∧ 0 < sendRet
  | .ready link io => s.phase = .sent → Starts link s.globals ∧ Lossless io s.globals
  | _ => True

noncomputable instance (a : Attempt) (s : Capture) : DecidablePred (ok a s)
  | .enter alloc => inferInstanceAs (Decidable (a.isReturning = true → alloc = true))
  | .store copied => inferInstanceAs (Decidable (copied = true))
  | .send link sendRet => inferInstanceAs (Decidable (link = true ∧ 0 < sendRet))
  | .ready _ _ => Classical.propDecidable _
  | .drain _ | .frozen | .captureFds | .scan | .endScan | .pack | .walk | .clone _ _ | .exit _
  | .openFd _ _ | .closeFd _ _ | .remap _ _ | .stop _ | .cont => isTrue trivial

/-- The blueprint is not stored. -/
def unstored : Phase → Bool
  | .stored | .sent | .committed => false
  | _ => true

structure Undone (a : Attempt) (exports : List (ℕ × ℕ)) (s : Capture) : Prop where
  unprepared : unstored s.phase = true → s.globals.localMigrationReq = none
  unlocked : a.isReturning = false → s.isMigrating = false
  unexported : s.phase ≠ .committed → s.exports = exports
  fresh : s.phase = .idle → s.stopPending = false ∧ s.stopped = []
  failed : s.hasFailed → s.phase = .failed
  thawed : s.phase = .failed → a.isReturning = false ∧ s.stopPending = false ∧ s.stopped = []

theorem Undone.rolledBack {a : Attempt} {exports : List (ℕ × ℕ)} {s : Capture}
    (h : Undone a exports s) (failed : s.hasFailed) : RolledBack exports s := by
  have phase := h.failed failed
  have thawed := h.thawed phase
  exact ⟨thawed.2.1, thawed.2.2, h.unlocked thawed.1, h.unexported (by simp [phase]),
    .inl (h.unprepared (by rw [phase]; rfl))⟩

section Steps
variable {a : Attempt} {exports : List (ℕ × ℕ)} {s : Capture}

/-- A step before the store that leaves the globals, the lock and the registry alone. -/
theorem Undone.goesOn (h : Undone a exports s) {s' : Capture} (same : s'.globals = s.globals)
    (lock : s'.isMigrating = s.isMigrating) (registry : s'.exports = s.exports)
    (failed : s'.hasFailed = s.hasFailed) (busy : s.phase ≠ .failed)
    (before : unstored s.phase = true) (busy' : s'.phase ≠ .failed ∧ s'.phase ≠ .idle) :
    Undone a exports s' := by
  have uncommitted : s.phase ≠ .committed := by
    intro is
    simp [is, unstored] at before
  refine ⟨?_, ?_, ?_, fun idle => absurd idle busy'.2, ?_, fun is => absurd is busy'.1⟩
  · intro _
    rw [same]
    exact h.unprepared before
  · rw [lock]
    exact h.unlocked
  · intro _
    rw [registry]
    exact h.unexported uncommitted
  · rw [failed]
    intro has
    exact absurd (h.failed has) busy

theorem undone_enter (h : Undone a exports s) (alloc : Bool) (en : enabled s (.enter alloc))
    (hok : ok a s (.enter alloc)) : Undone a exports (next a s (.enter alloc)) := by
  have idle : s.phase = .idle := en
  have free := h.fresh idle
  have unprepared := h.unprepared (by rw [idle]; rfl)
  have registry := h.unexported (by simp [idle])
  have unfailed : ¬ s.hasFailed := fun has => by simp [h.failed has] at idle
  cases back : a.isReturning with
  | false =>
    have unlocked := h.unlocked back
    simp only [next, back, Bool.false_eq_true, if_false, true_and]
    split_ifs
    · exact ⟨fun _ => unprepared, fun _ => unlocked, fun _ => registry, by simp [abort],
        fun _ => rfl, fun _ => ⟨back, free⟩⟩
    · exact ⟨fun _ => unprepared, fun _ => unlocked, fun _ => registry, by simp,
        fun has => absurd has unfailed, by simp⟩
    · exact ⟨fun _ => unprepared, fun _ => unlocked, fun _ => registry, by simp [abort],
        fun _ => rfl, fun _ => ⟨back, free⟩⟩
  | true =>
    have allocated : alloc = true := hok back
    simp only [next, back, allocated, Bool.true_eq_false, false_and, if_false, if_true]
    exact ⟨fun _ => unprepared, by simp [back], fun _ => registry, by simp,
      fun has => absurd has unfailed, by simp⟩

theorem drainTask_keeps (t : ℕ) (workAdded : Bool) (s : Capture) :
    (drainTask t workAdded s).globals = s.globals ∧
      (drainTask t workAdded s).isMigrating = s.isMigrating ∧
      (drainTask t workAdded s).exports = s.exports ∧
      (drainTask t workAdded s).hasFailed = s.hasFailed := by
  simp only [drainTask]
  split_ifs <;> exact ⟨rfl, rfl, rfl, rfl⟩

theorem undone_drain (h : Undone a exports s) (workAdded : Bool) (en : enabled s (.drain workAdded)) :
    Undone a exports (next a s (.drain workAdded)) := by
  have phase : s.phase = .allocated ∨ s.phase = .scanned := en.imp_right And.left
  have busy : s.phase ≠ .failed := by cases phase with | inl is | inr is => simp [is]
  have notIdle : s.phase ≠ .idle := by cases phase with | inl is | inr is => simp [is]
  have before : unstored s.phase = true := by cases phase with | inl is | inr is => simp [is, unstored]
  simp only [next]
  split_ifs
  · obtain ⟨same, lock, registry, failed⟩ := drainTask_keeps a.task workAdded s
    exact h.goesOn same lock registry failed busy before (by simp)
  · split
    · rename_i t found
      split_ifs
      · exact h.goesOn rfl rfl rfl rfl busy before ⟨busy, notIdle⟩
      · obtain ⟨same, lock, registry, failed⟩ := drainTask_keeps t workAdded s
        exact h.goesOn same lock registry failed busy before (by simp)
    · exact h

theorem undone_frozen (h : Undone a exports s) (en : enabled s .frozen) :
    Undone a exports (next a s .frozen) := by
  have busy : s.phase ≠ .failed := by cases en with | inl is | inr is => simp [is]
  have before : unstored s.phase = true := by cases en with | inl is | inr is => simp [is, unstored]
  simp only [next]
  split_ifs
  · exact h.goesOn rfl rfl rfl rfl busy before (by simp)
  · exact h.goesOn rfl rfl rfl rfl busy before (by simp)

theorem undone_endScan (h : Undone a exports s) (en : enabled s .endScan) :
    Undone a exports (next a s .endScan) := by
  have busy : s.phase ≠ .failed := by simp [en.1]
  have before : unstored s.phase = true := by simp [en.1, unstored]
  simp only [next]
  generalize (if s.threads.length = s.beforeCount then s.stableScans + 1 else 0) = stableScans
  by_cases more : stableScans < requiredStableScans
  · rw [if_pos more]
    by_cases retry : 0 < s.stabilizeRetries - 1
    · exact h.goesOn rfl rfl rfl rfl busy before (by simp [retry])
    · exact h.goesOn rfl rfl rfl rfl busy before (by simp [retry])
  · rw [if_neg more]
    exact h.goesOn rfl rfl rfl rfl busy before (by simp)

theorem undone_pack (h : Undone a exports s) (en : enabled s .pack) :
    Undone a exports (next a s .pack) := by
  have settled : s.phase = .settled := en
  have busy : s.phase ≠ .failed := by simp [settled]
  have before : unstored s.phase = true := by simp [settled, unstored]
  simp only [next]
  split_ifs with gone
  · exact ⟨fun _ => h.unprepared before, h.unlocked, fun _ => h.unexported (by simp [settled]),
      by simp [abort], fun _ => rfl, fun _ => ⟨gone.1, rfl, rfl⟩⟩
  · exact h.goesOn rfl rfl rfl rfl busy before (by simp)

theorem undone_store (h : Undone a exports s) (copied : Bool) (en : enabled s (.store copied))
    (hok : ok a s (.store copied)) : Undone a exports (next a s (.store copied)) := by
  have walked : s.phase = .walked := en
  have kept : copied = true := hok
  have unfailed : ¬ s.hasFailed := fun has => by simp [h.failed has] at walked
  have registry := h.unexported (by simp [walked])
  exact ⟨by simp [next, unstored], h.unlocked, fun _ => registry, by simp [next],
    by simp [next, kept, unfailed], by simp [next]⟩

theorem undone_send (h : Undone a exports s) (link : Bool) (sendRet : ℤ)
    (en : enabled s (.send link sendRet)) (hok : ok a s (.send link sendRet)) :
    Undone a exports (next a s (.send link sendRet)) := by
  have stored : s.phase = .stored := en
  obtain ⟨up, pos⟩ := hok
  have unfailed : ¬ s.hasFailed := fun has => by simp [h.failed has] at stored
  have registry := h.unexported (by simp [stored])
  have sent : ¬ sendRet < 0 := by omega
  have some : sendRet ≠ 0 := by omega
  simp only [next, up, if_true, if_neg sent]
  exact ⟨by simp [unstored], h.unlocked, fun _ => registry, by simp, by simp [unfailed, some],
    by simp⟩

/-- A late READY finds nothing. -/
theorem late_ready (h : Undone a exports s) (failed : s.phase = .failed) (link : ℕ → Bool)
    (io : ℕ → ℕ → PageIo) : mattxSendVmaData link io s.globals = (s.globals, []) := by
  have unprepared := h.unprepared (by rw [failed]; rfl)
  exact idle_unless_started (fun starts => starts.1 unprepared) io

theorem acts_lock (log : List Action) (s : Capture) :
    (log.foldl act s).isMigrating = s.isMigrating := by
  induction log generalizing s with
  | nil => rfl
  | cons x log ih => cases x <;> exact ih _

theorem undone_ready (h : Undone a exports s) (link : ℕ → Bool) (io : ℕ → ℕ → PageIo)
    (en : enabled s (.ready link io)) (hok : ok a s (.ready link io)) :
    Undone a exports (next a s (.ready link io)) := by
  cases en with
  | inl sent =>
    obtain ⟨starts, lossless⟩ := hok sent
    have unfailed : ¬ s.hasFailed := fun has => by simp [h.failed has] at sent
    have lock := acts_lock (mattxSendVmaData link io s.globals).2
      { s with globals := (mattxSendVmaData link io s.globals).1 }
    have sends : (mattxSendVmaData link io s.globals).2 ≠ [] := by
      obtain ⟨hasReq, hasTask, node, hnode, up⟩ := starts
      obtain ⟨req, hreq⟩ := Option.ne_none_iff_exists'.mp hasReq
      obtain ⟨task, htask⟩ := Option.ne_none_iff_exists'.mp hasTask
      rw [sends_when_started hreq htask hnode up]
      cases s.globals.isReturning <;> simp
    simp only [next, if_neg sends]
    refine ⟨by simp [unstored], ?_, by simp, by simp, by simp [unfailed, starts, lossless], by simp⟩
    intro forward
    exact lock.trans (h.unlocked forward)
  | inr failed =>
    have late := late_ready h failed link io
    simp only [next, late, List.foldl_nil, if_true]
    exact ⟨h.unprepared, h.unlocked, h.unexported, h.fresh, fun _ => failed, h.thawed⟩

theorem undone_stop (h : Undone a exports s) {t : ℕ} (en : enabled s (.stop t)) :
    Undone a exports (next a s (.stop t)) := by
  refine ⟨h.unprepared, h.unlocked, h.unexported, ?_, h.failed, ?_⟩
  · intro idle
    have free := h.fresh idle
    simp [en.1] at free
  · intro failed
    have thawed := h.thawed failed
    simp [en.1] at thawed

theorem undone_next (h : Undone a exports s) (e : Event) (en : enabled s e) (hok : ok a s e) :
    Undone a exports (next a s e) := by
  cases e with
  | enter alloc => exact undone_enter h alloc en hok
  | drain workAdded => exact undone_drain h workAdded en
  | frozen => exact undone_frozen h en
  | captureFds =>
    have frozen : s.phase = .motherFrozen := en
    exact h.goesOn rfl rfl rfl rfl (by simp [frozen]) (by simp [frozen, unstored]) (by simp [next])
  | scan =>
    have scanning : s.phase = .scanning := en
    exact h.goesOn rfl rfl rfl rfl (by simp [scanning]) (by simp [scanning, unstored])
      (by simp [next])
  | endScan => exact undone_endScan h en
  | pack => exact undone_pack h en
  | walk =>
    have packed : s.phase = .packed := en
    exact h.goesOn rfl rfl rfl rfl (by simp [packed]) (by simp [packed, unstored]) (by simp [next])
  | store copied => exact undone_store h copied en hok
  | send link sendRet => exact undone_send h link sendRet en hok
  | ready link io => exact undone_ready h link io en hok
  | clone _ _ | exit _ | openFd _ _ | closeFd _ _ | remap _ _ =>
    exact ⟨h.unprepared, h.unlocked, h.unexported, h.fresh, h.failed, h.thawed⟩
  | stop t => exact undone_stop h en
  | cont =>
    exact ⟨h.unprepared, h.unlocked, h.unexported, fun _ => ⟨rfl, rfl⟩, h.failed,
      fun failed => ⟨(h.thawed failed).1, rfl, rfl⟩⟩

end Steps

/-- Where only the early exits of the way out are taken, a failed migration leaves nothing
behind. -/
theorem failures_are_undone (a : Attempt) (live fds : List ℕ) (vmas : List VmaInfo)
    (exports : List (ℕ × ℕ)) {events : List Event}
    (run : (machine a).Follows (ok a) (start live fds vmas exports) events) :
    (machine a).Always (FailuresUndone exports) (start live fds vmas exports) events := by
  have fresh : Undone a exports (start live fds vmas exports) :=
    ⟨fun _ => rfl, fun _ => rfl, fun _ => rfl, fun _ => ⟨rfl, rfl⟩, False.elim, by simp [start]⟩
  have undone := run.always (fun s e h en hok => undone_next h e en hok) fresh
  exact undone.mono fun s h _ failed => h.rolledBack failed

def out : Attempt := ⟨false, 0, 0, 1⟩

/-- One thread, frozen and scanned until the gang is settled. -/
def toSettled : List Event :=
  [.enter true, .drain true, .stop 0, .frozen, .captureFds, .scan, .drain true, .endScan,
    .scan, .endScan, .scan, .endScan, .scan, .endScan, .scan, .endScan, .scan, .endScan]

/-- A second thread is held and killed before the gang is packed. -/
theorem failures_are_undone_gone :
    (machine out).Always (FailuresUndone []) (start [0, 1] [3] [] [])
      ([.enter true, .drain true, .stop 0, .frozen, .captureFds, .scan, .drain true, .drain true,
        .stop 1, .frozen, .exit 1, .endScan, .scan, .endScan, .scan, .endScan, .scan, .endScan,
        .scan, .endScan, .scan, .endScan, .pack]) :=
  failures_are_undone out [0, 1] [3] [] [] (by decide +kernel)

/-- The link is gone at the send. The process goes on, and a READY that comes when the link is back
sends its pages and exports it. -/
theorem lost_link_leaves_migration :
    let lost : List Event := toSettled ++ [.pack, .walk, .store true, .send false 0]
    let late : List Event :=
      lost ++ [.ready (fun _ => true) fun _ _ => ⟨true, 4096, true, ⟨true, fun _ => 4128⟩⟩]
    (machine out).Runs (start [0] [3] [] []) late ∧
      ¬ FailuresUndone [] ((machine out).after (start [0] [3] [] []) lost) ∧
      ((machine out).after (start [0] [3] [] []) late).exports = [(0, 1)] ∧
      ((machine out).after (start [0] [3] [] []) late).live = [0] ∧
      ((machine out).after (start [0] [3] [] []) late).stopped = [] := by
  refine ⟨by decide +kernel, ?_, by decide +kernel, by decide +kernel, by decide +kernel⟩
  intro undone
  have back := undone (by decide +kernel) trivial
  have prepared : ((machine out).after (start [0] [3] [] [])
      (toSettled ++ [.pack, .walk, .store true, .send false 0])).globals =
        ⟨some ⟨0, [0], [3], []⟩, some 0, some 1, false⟩ := by decide +kernel
  have unprepared := back.unprepared
  rw [prepared] at unprepared
  simp at unprepared

end MattX.MigrationRollback
