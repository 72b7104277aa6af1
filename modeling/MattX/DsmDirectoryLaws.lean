import MattX.DsmDirectory
import MattX.GuardedRuns

set_option autoImplicit false

namespace MattX.DsmDirectoryLaws
open WordMask DsmDirectory GuardedRuns

/-- The critical sections on `mattx_global_dsm_dir`, with what each is called with. -/
inductive DirOp where
  | faultService (shmid homePid : ℕ) (p : PageIdx) (node : Node)
  | flushDowngrade (shmid : ℕ) (p : PageIdx)
  | writeAcquire (shmid : ℕ) (p : PageIdx) (pid : ℕ)
  | nativeDowngrade (d : Slot) (p : PageIdx)
  | nativeClaim (d : Slot) (p : PageIdx)
  | bombCleanup (shmid : ℕ) (p : PageIdx) (pid : ℕ)
  | removeSegment (shmid : ℕ)

def DirOp.apply (dir : GlobalDir) : DirOp → GlobalDir
  | faultService shmid homePid p node => recordReader dir shmid homePid p node
  | flushDowngrade shmid p => DsmDirectory.flushDowngrade dir shmid p
  | writeAcquire shmid p pid => (DsmDirectory.writeAcquire dir shmid p pid).1
  | nativeDowngrade d p => DsmDirectory.nativeDowngrade dir d p
  | nativeClaim d p => DsmDirectory.nativeClaim dir d p
  | bombCleanup shmid p pid => DsmDirectory.bombCleanup dir shmid p pid
  | removeSegment shmid => DsmDirectory.removeSegment dir shmid

/-- The kworkers run in any order, so no operation waits for another. -/
def dirMachine : Machine GlobalDir DirOp where
  enabled _ _ := True
  next := DirOp.apply

def PageWellFormed (st : PageState) (owner : ℕ) (mask : NodeMask) : Prop :=
  (st = .exclusive → mask = empty) ∧ (st ≠ .exclusive → owner = 0) ∧
    (st = .invalid → mask = empty)

def WellFormed (dir : GlobalDir) : Prop :=
  ∀ d p, PageWellFormed ((dir d).pageState p) ((dir d).pageOwnerPid p) ((dir d).pageSharedMask p)

/-- The directory knows of the read copy that `node` was handed. -/
def CopyRecorded (dir : GlobalDir) (shmid : ℕ) (p : PageIdx) (node : Node) : Prop :=
  ∃ d, findEntry dir shmid = some d ∧ (dir d).pageState p = .shared ∧
    ((dir d).pageSharedMask p).test node = true

/-- The next write of the page stops at the fault hook if it is native, and takes `node` along
in the mask to invalidate if it is remote. -/
def NextWriteCaught (dir : GlobalDir) (shmid : ℕ) (p : PageIdx) (node : Node) : Prop :=
  needsSync dir shmid p true = true ∧
    ∀ pid, ∃ mask, (writeAcquire dir shmid p pid).2 = some mask ∧ mask.test node = true

/-- What an operation owes the table. -/
def Sound (dir : GlobalDir) (op : DirOp) : Prop :=
  WellFormed (op.apply dir) ∧
    match op with
    | .faultService shmid _ p node =>
      CopyRecorded (op.apply dir) shmid p node ∧ NextWriteCaught (op.apply dir) shmid p node
    | _ => True

/-- A copy can be recorded: the segment's entry does not hold the page EXCLUSIVE, or there is no
entry yet and the table has room for one. -/
def canRecord (dir : GlobalDir) (shmid : ℕ) (p : PageIdx) : Bool :=
  match findEntry dir shmid with
  | some d => (dir d).pageState p != .exclusive
  | none => (freeSlot dir).isSome

def Recordable (dir : GlobalDir) : DirOp → Prop
  | .faultService shmid _ p _ => canRecord dir shmid p = true
  | _ => True

instance decidableRecordable (dir : GlobalDir) : ∀ op, Decidable (Recordable dir op)
  | .faultService shmid _ p _ => inferInstanceAs (Decidable (canRecord dir shmid p = true))
  | .flushDowngrade .. | .writeAcquire .. | .nativeDowngrade .. | .nativeClaim ..
  | .bombCleanup .. | .removeSegment .. => isTrue trivial

instance (dir : GlobalDir) (op : DirOp) : Decidable (dirMachine.enabled dir op) := isTrue trivial

theorem zeroDir_wellFormed : WellFormed zeroDir := by
  intro d p
  exact ⟨fun _ => rfl, fun _ => rfl, fun _ => rfl⟩

theorem wellFormed_setPage {dir : GlobalDir} (wf : WellFormed dir) (d : Slot) (p : PageIdx)
    (st : PageState) (owner : ℕ) (mask : NodeMask) :
    WellFormed (setPage dir d p st owner mask) ↔ PageWellFormed st owner mask := by
  constructor
  · intro h
    have at_page := h d p
    simpa [setPage_apply, MasterDir.setPage] using at_page
  · intro h e q
    rw [setPage_apply]
    split_ifs with he
    · by_cases hq : q = p
      · subst q
        simpa [MasterDir.setPage] using h
      · simpa [MasterDir.setPage, hq] using wf d q
    · exact wf e q

theorem wellFormed_register {dir : GlobalDir} (wf : WellFormed dir) (d : Slot)
    (shmid homePid : ℕ) : WellFormed (register dir d shmid homePid) := by
  intro e q
  by_cases he : e = d
  · subst e
    simp [register, MasterDir.zero, PageWellFormed]
  · simpa [register, he] using wf e q

theorem wellFormed_markReader {dir : GlobalDir} (wf : WellFormed dir) (d : Slot) (p : PageIdx)
    (node : Node) : WellFormed (markReader dir d p node) ↔ (dir d).pageState p ≠ .exclusive := by
  rw [markReader, wellFormed_setPage wf]
  obtain ⟨_, no_owner, _⟩ := wf d p
  have taken : ((dir d).pageSharedMask p).set node ≠ empty := by
    intro h
    have member := (test_set ((dir d).pageSharedMask p) node node).mpr (Or.inr rfl)
    rw [h, test_empty] at member
    exact Bool.noConfusion member
  cases state : (dir d).pageState p with
  | invalid => simp [PageWellFormed, no_owner, state]
  | shared => simp [PageWellFormed, no_owner, state]
  | exclusive => simp [PageWellFormed, taken]

theorem wellFormed_removeSegment {dir : GlobalDir} (wf : WellFormed dir) (shmid : ℕ) :
    WellFormed (removeSegment dir shmid) := by
  unfold removeSegment
  cases findEntry dir shmid with
  | none => exact wf
  | some d =>
    intro e q
    by_cases he : e = d
    · simp only [he, Function.update_self]
      exact wf d q
    · simp only [Function.update_of_ne he]
      exact wf e q

theorem findEntry_congr {dir dir' : GlobalDir} {shmid : ℕ}
    (same : ∀ d, (dir' d).inUse = true ∧ (dir' d).shmid = shmid ↔
      (dir d).inUse = true ∧ (dir d).shmid = shmid) :
    findEntry dir' shmid = findEntry dir shmid := by
  unfold findEntry
  congr 1
  funext d
  rw [Bool.eq_iff_iff]
  simpa using same d

theorem findEntry_setPage (dir : GlobalDir) (d : Slot) (p : PageIdx) (st : PageState) (owner : ℕ)
    (mask : NodeMask) (shmid : ℕ) :
    findEntry (setPage dir d p st owner mask) shmid = findEntry dir shmid :=
  findEntry_congr fun _ => by rw [setPage_inUse, setPage_shmid]

/-- The only entry of a segment that had none is the one just registered for it. -/
theorem findEntry_register {dir : GlobalDir} {shmid : ℕ} (h : findEntry dir shmid = none)
    (d : Slot) (homePid : ℕ) : findEntry (register dir d shmid homePid) shmid = some d := by
  cases found : findEntry (register dir d shmid homePid) shmid with
  | none =>
    have absent := findEntry_none found d (by simp [register])
    simp [register] at absent
  | some e =>
    obtain ⟨used, same⟩ := findEntry_some found
    by_cases he : e = d
    · rw [he]
    · rw [register, Function.update_of_ne he] at used same
      exact absurd same (findEntry_none h e used)

theorem copyRecorded_markReader {dir : GlobalDir} {shmid : ℕ} {d : Slot}
    (found : findEntry dir shmid = some d) (p : PageIdx) (node : Node)
    (unowned : (dir d).pageState p ≠ .exclusive) :
    CopyRecorded (markReader dir d p node) shmid p node := by
  refine ⟨d, ?_, ?_, ?_⟩
  · rw [markReader, findEntry_setPage, found]
  · rw [markReader, setPage_apply, if_pos rfl]
    cases state : (dir d).pageState p with
    | invalid => simp [MasterDir.setPage]
    | shared => simp [MasterDir.setPage]
    | exclusive => exact absurd state unowned
  · rw [markReader, setPage_apply, if_pos rfl]
    simp [MasterDir.setPage, test_set]

theorem CopyRecorded.nextWriteCaught {dir : GlobalDir} {shmid : ℕ} {p : PageIdx} {node : Node}
    (h : CopyRecorded dir shmid p node) : NextWriteCaught dir shmid p node := by
  obtain ⟨d, found, state, member⟩ := h
  constructor
  · have any : (List.finRange (64 * (maxNodes / 64))).any
        (fun n => ((dir d).pageSharedMask p).test n) = true :=
      List.any_eq_true.mpr ⟨node, List.mem_finRange node, member⟩
    simp [needsSync, found, state, any]
  · intro pid
    exact ⟨(dir d).pageSharedMask p, by simp [writeAcquire, found], member⟩

theorem faultService_sound {dir : GlobalDir} (wf : WellFormed dir) (shmid homePid : ℕ)
    (p : PageIdx) (node : Node) :
    Sound dir (.faultService shmid homePid p node) ↔
      Recordable dir (.faultService shmid homePid p node) := by
  change WellFormed (recordReader dir shmid homePid p node) ∧
    CopyRecorded (recordReader dir shmid homePid p node) shmid p node ∧
      NextWriteCaught (recordReader dir shmid homePid p node) shmid p node ↔ _
  cases found : findEntry dir shmid with
  | some d =>
    simp only [recordReader, Recordable, canRecord, found, bne_iff_ne]
    constructor
    · rintro ⟨h, -⟩
      exact (wellFormed_markReader wf d p node).mp h
    · intro unowned
      have recorded := copyRecorded_markReader found p node unowned
      exact ⟨(wellFormed_markReader wf d p node).mpr unowned, recorded,
        recorded.nextWriteCaught⟩
  | none =>
    cases free : freeSlot dir with
    | none =>
      simp only [recordReader, Recordable, canRecord, found, free, Option.isSome_none,
        Bool.false_eq_true, iff_false]
      rintro ⟨-, ⟨d, listed, -⟩, -⟩
      rw [found] at listed
      exact nomatch listed
    | some d =>
      have fresh : ((register dir d shmid homePid) d).pageState p ≠ .exclusive := by
        simp [register, MasterDir.zero]
      have recorded :=
        copyRecorded_markReader (findEntry_register found d homePid) p node fresh
      simp only [recordReader, Recordable, canRecord, found, free, Option.isSome_some, iff_true]
      exact ⟨(wellFormed_markReader (wellFormed_register wf d shmid homePid) d p node).mpr fresh,
        recorded, recorded.nextWriteCaught⟩

/-- Every operation but the read-fault service keeps the table well formed by itself. -/
theorem sound_iff_recordable {dir : GlobalDir} (wf : WellFormed dir) (op : DirOp) :
    Sound dir op ↔ Recordable dir op := by
  have shared : PageWellFormed .shared 0 empty := ⟨(nomatch ·), fun _ => rfl, fun _ => rfl⟩
  have exclusive (pid : ℕ) : PageWellFormed .exclusive pid empty :=
    ⟨fun _ => rfl, fun h => absurd rfl h, fun _ => rfl⟩
  cases op with
  | faultService shmid homePid p node => exact faultService_sound wf shmid homePid p node
  | flushDowngrade shmid p =>
    refine iff_of_true ⟨?_, trivial⟩ trivial
    change WellFormed (flushDowngrade dir shmid p)
    unfold flushDowngrade
    cases findEntry dir shmid with
    | none => exact wf
    | some d => exact (wellFormed_setPage wf d p _ _ _).mpr shared
  | writeAcquire shmid p pid =>
    refine iff_of_true ⟨?_, trivial⟩ trivial
    change WellFormed (writeAcquire dir shmid p pid).1
    unfold writeAcquire
    cases findEntry dir shmid with
    | none => exact wf
    | some d => exact (wellFormed_setPage wf d p _ _ _).mpr (exclusive pid)
  | nativeDowngrade d p =>
    exact iff_of_true ⟨(wellFormed_setPage wf d p _ _ _).mpr shared, trivial⟩ trivial
  | nativeClaim d p =>
    exact iff_of_true ⟨(wellFormed_setPage wf d p _ _ _).mpr (exclusive 0), trivial⟩ trivial
  | bombCleanup shmid p pid =>
    refine iff_of_true ⟨?_, trivial⟩ trivial
    change WellFormed (bombCleanup dir shmid p pid)
    unfold bombCleanup
    cases findEntry dir shmid with
    | none => exact wf
    | some d =>
      simp only
      split_ifs
      · exact (wellFormed_setPage wf d p _ _ _).mpr shared
      · exact wf
  | removeSegment shmid => exact iff_of_true ⟨wellFormed_removeSegment wf shmid, trivial⟩ trivial

/-- The directory stays well formed and records every copy it hands out in exactly the runs that
serve no read fault of an EXCLUSIVE page and none past the last free slot. -/
theorem directory_runs_sound (dir : GlobalDir) (ops : List DirOp) (wf : WellFormed dir) :
    dirMachine.Follows Sound dir ops ↔ dirMachine.Follows Recordable dir ops :=
  Machine.follows_iff (fun _ _ _ _ sound => sound.1) (fun _ op wf _ => sound_iff_recordable wf op) wf

theorem directory_runs_sound_from_boot :
    dirMachine.Follows Sound zeroDir
      [.faultService 7 100 0 3, .writeAcquire 7 0 101, .flushDowngrade 7 0,
        .faultService 7 100 0 4] :=
  (directory_runs_sound zeroDir _ zeroDir_wellFormed).mpr (by decide)

/-- A native write leaves the page EXCLUSIVE with owner 0, which the next read fault takes for
"no owner": the copy is handed out, the page stays EXCLUSIVE beside a set mask bit and the
following native write passes the hook. -/
theorem native_owner_keeps_page_exclusive :
    let dir := dirMachine.after zeroDir [.faultService 7 100 0 3, .nativeClaim 0 0]
    let served := DirOp.apply dir (.faultService 7 100 0 3)
    WellFormed dir ∧ ¬ WellFormed served ∧ ¬ CopyRecorded served 7 0 3 ∧
      needsSync served 7 0 true = false := by
  have first : Sound zeroDir (.faultService 7 100 0 3) :=
    (sound_iff_recordable zeroDir_wellFormed _).mpr (by decide)
  have second := (sound_iff_recordable first.1 (.nativeClaim 0 0)).mpr trivial
  refine ⟨second.1, ?_, ?_, by decide⟩
  · intro wf
    have mask := (wf 0 0).1 (by decide)
    exact absurd (congrFun mask ⟨0, by decide⟩) (by decide)
  · rintro ⟨d, found, state, -⟩
    have listed : some d = some 0 := found.symm.trans (by decide)
    rw [Option.some.inj listed] at state
    exact absurd state (by decide)

end MattX.DsmDirectoryLaws
