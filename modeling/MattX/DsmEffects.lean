import MattX.DsmMoves
import MattX.DsmDirectoryLaws

set_option autoImplicit false

/-!
# What an event does to the registries and to the directories

Every event goes through at most one critical section of one host's registry
and at most one of one home's directory.
-/
namespace MattX.DsmEffects
open GuestRegistry GuestRegistryFrames GuestHost DsmDirectory DsmDirectoryLaws DsmCluster DsmSteps
open DsmMoves

def faultOp (c : Cluster) (t : Fault) (s : FaultStep) : Option (Node × RegistryOp) :=
  match s, t.stage with
  | .flushCopy, .flushing owner n => some (n, .flush owner t.key.shmid t.key.page)
  | .place fresh, .replied (some _) =>
    if t.waiting ∧ (placeFrame (c.guests t.key.node) t.tgid t.base t.key.page fresh).isSome then
      some (t.key.node, .backPage t.tgid t.base t.key.page fresh)
    else none
  | .mark, .injected => some (t.key.node, .markShared t.tgid t.base t.key.page)
  | .present, .marked => some (t.key.node, .markPresent t.tgid t.base t.key.page)
  | _, _ => none

def acquireOp (a : Acquire) (s : AcquireStep) : Option (Node × RegistryOp) :=
  match s with
  | .upgrade => if a.stage = .replied ∧ a.waiting then
      some (a.key.node, .upgrade a.tgid a.base a.key.page) else none
  | _ => none

def syncOp (y : Sync) (s : SyncStep) : Option (Node × RegistryOp) :=
  match s, y.stage with
  | .flushCopy, .flushing owner n => some (n, .flush owner y.shmid y.page)
  | _, _ => none

/-- The critical section of `guest_lock` an event goes through, and where. -/
def poolOp (c : Cluster) : Event → Option (Node × RegistryOp)
  | .fault k s => (c.faults[k]?).bind fun t => faultOp c t s
  | .acquire k s => (c.acquires[k]?).bind fun a => acquireOp a s
  | .sync k s => (c.syncs[k]?).bind fun y => syncOp y s
  | .invalidate k => (c.invalidates[k]?).map fun v => (v.node, .invalidate v.shmid v.page v.acquirer)
  | .sweepSnapshot n i => some (n, .clearPresent i)
  | .importGuest n localPid origPid h => some (n, .addGuest localPid origPid h)
  | .populate n tgid vmas => some (n, .populate tgid vmas)
  | .setMigrating n tgid b => some (n, .setMigrating tgid b)
  | .shmat n tgid base size shmid => some (n, .shmat tgid base size shmid)
  | .shmdt n tgid base _ => some (n, .shmdt tgid base)
  | .reap n i _ => some (n, .removeGuest i)
  | .killSurrogate n h origPid => (surrogateOf (c.guests n) origPid h).map fun i =>
    (n, .removeGuest i)
  | _ => none

def poolAfter (c : Cluster) (o : Option (Node × RegistryOp)) (n : Node) : PagePool :=
  match o with
  | some (m, op) => if n = m then op.apply (c.host n).pool else (c.host n).pool
  | none => (c.host n).pool

def faultDirOp (c : Cluster) (t : Fault) (s : FaultStep) : Option (Node × DirOp) :=
  match s, t.stage with
  | .downgrade, .settled => some (t.key.home, .flushDowngrade t.key.shmid t.key.page)
  | .record, .pumped _ => if c.mode = 2 then
      some (t.key.home, .faultService t.key.shmid t.key.origPid t.key.page t.key.node) else none
  | _, _ => none

def syncDirOp (y : Sync) (s : SyncStep) : Option (Node × DirOp) :=
  match s, y.stage, y.dirIdx with
  | .downgrade, .settled, some d => some (y.home, .nativeDowngrade d y.page)
  | .claim, .claiming, some d => if y.isWrite then some (y.home, .nativeClaim d y.page) else none
  | _, _, _ => none

/-- The critical section of `mattx_dsm_lock` that changes the directory, and where. -/
def dirOp (c : Cluster) : Event → Option (Node × DirOp)
  | .fault k s => (c.faults[k]?).bind fun t => faultDirOp c t s
  | .acquire k .grant => (c.acquires[k]?).bind fun a => if a.stage = .requested then
      some (a.key.home, .writeAcquire a.key.shmid a.key.page a.key.origPid) else none
  | .update k .cleanup => (c.updates[k]?).bind fun u => if u.stored ∧ c.mode = 2 then
      some (u.key.home, .bombCleanup u.key.shmid u.key.page u.key.origPid) else none
  | .sync k s => (c.syncs[k]?).bind fun y => syncDirOp y s
  | .removeSegment h shmid => some (h, .removeSegment shmid)
  | _ => none

def dirAfter (c : Cluster) (o : Option (Node × DirOp)) (h : Node) : GlobalDir :=
  match o with
  | some (h', op) => if h = h' then op.apply (c.dir h) else c.dir h
  | none => c.dir h

section Components
variable (c : Cluster) (n m h : Node)

theorem pool_setHost (x : Host) :
    ((c.setHost n x).host m).pool = if m = n then x.pool else (c.host m).pool := by
  simp only [Cluster.setHost, Function.update_apply]
  split_ifs <;> rfl

theorem pool_act (op : RegistryOp) :
    ((c.act n op).host m).pool = if m = n then op.apply (c.host m).pool else (c.host m).pool := by
  rw [Cluster.act, pool_setHost]
  split_ifs with same
  · subst m
    rfl
  · rfl

/-- Writes to frames and page tables leave the pool alone. -/
theorem pool_setHost_same {x : Host} (same : x.pool = (c.host n).pool) :
    ((c.setHost n x).host m).pool = (c.host m).pool := by
  rw [pool_setHost]
  split_ifs with here
  · subst m
    exact same
  · rfl

@[simp] theorem pool_zapPage (t b : ℕ) (p : PageIdx) :
    ((zapPage c n t b p).host m).pool = (c.host m).pool := pool_setHost_same _ _ _ rfl

@[simp] theorem pool_setPte (t b : ℕ) (p : PageIdx) (e : Pte) :
    ((setPte c n t b p e).host m).pool = (c.host m).pool := pool_setHost_same _ _ _ rfl

@[simp] theorem pool_setPhys (f : Frame) (data : Page) :
    ((setPhys c n f data).host m).pool = (c.host m).pool := pool_setHost_same _ _ _ rfl

theorem dir_setHome (hm : HomeState) (g : Node) :
    (c.setHome h hm).dir g = if g = h then hm.dir else c.dir g := by
  simp only [Cluster.dir, Cluster.setHome, Function.update_apply]
  split_ifs <;> rfl

theorem dir_setDir (d : GlobalDir) (g : Node) :
    (c.setDir h d).dir g = if g = h then d else c.dir g := dir_setHome ..

theorem dir_setHome_same {hm : HomeState} (same : hm.dir = (c.home h).dir) (g : Node) :
    (c.setHome h hm).dir g = c.dir g := by
  rw [dir_setHome]
  split_ifs with here
  · subst g
    exact same
  · rfl

@[simp] theorem dir_storeRam (shmid : ℕ) (p : PageIdx) (data : Page) (g : Node) :
    (storeRam c h shmid p data).dir g = c.dir g := dir_setHome_same _ _ (by rfl) _

@[simp] theorem dir_touch (pid shmid : ℕ) (p : PageIdx) (g : Node) :
    (touch c h pid shmid p).dir g = c.dir g := dir_setHome_same _ _ (by rfl) _

theorem ram_storeRam (shmid : ℕ) (p : PageIdx) (data : Page) (g : Node) (s : ℕ) (q : PageIdx) :
    ((storeRam c h shmid p data).home g).ram s q =
      if g = h ∧ s = shmid ∧ q = p then data else (c.home g).ram s q := by
  simp only [storeRam, Cluster.setHome, HomeState.writeRam, Function.update_apply]
  by_cases hg : g = h
  · subst g
    by_cases hs : s = shmid
    · subst s
      simp [Function.update_apply]
    · simp [hs]
  · simp [hg]

end Components

/-- A flush that finds nothing to copy changes nothing. -/
theorem pool_flush_missed {c : Cluster} {m : Node} {owner shmid : ℕ} {p : PageIdx}
    (missing : flushedFrame (c.guests m) owner shmid p = none) (n : Node) :
    poolAfter c (some (m, .flush owner shmid p)) n = (c.host n).pool := by
  have same : RegistryOp.apply (c.host m).pool (.flush owner shmid p) = (c.host m).pool := by
    change PagePool.mk (flush (c.guests m) owner shmid p) _ = _
    rw [flush, missing]
    rfl
  simp only [poolAfter]
  split_ifs with here
  · subst m
    exact same
  · rfl

theorem fault_pool {c c' : Cluster} {k : ℕ} {t : Fault} {s : FaultStep}
    (move : FaultMove c k t s c') (n : Node) :
    (c'.host n).pool = poolAfter c (faultOp c t s) n := by
  cases move with
  | copied stage _ | marked stage | presented stage =>
    simp only [faultOp, stage, poolAfter]
    exact pool_act ..
  | placed stage waiting frame _ =>
    simp only [faultOp, stage, poolAfter, waiting, frame, Option.isSome_some, and_self, if_true]
    exact pool_act ..
  | missed stage missing =>
    simp only [faultOp, stage]
    exact (pool_flush_missed missing n).symm
  | dropped stage idle =>
    rename_i fresh reply
    cases reply with
    | none => simp only [faultOp, stage, poolAfter]; rfl
    | some data =>
      by_cases waiting : t.waiting = true
      · simp [faultOp, stage, poolAfter, idle waiting, Cluster.dropFault]
      · simp [faultOp, stage, poolAfter, waiting, Cluster.dropFault]
  | zapped stage => exact pool_zapPage ..
  | filled stage => exact pool_setPhys ..
  | injected stage => exact pool_setPte ..
  | hunted | absent | looked | lazy | sent | skipped | stored | unstored | downgraded | pumped
  | failed | recorded | unrecorded | raced | aborted | resumed => rfl

theorem acquire_pool {c c' : Cluster} {k : ℕ} {a : Acquire} {s : AcquireStep}
    (move : AcquireMove c k a s c') (n : Node) :
    (c'.host n).pool = poolAfter c (acquireOp a s) n := by
  cases move with
  | upgraded stage waiting =>
    simp only [acquireOp, stage, waiting, poolAfter, and_self, if_true]
    exact pool_act ..
  | abandoned stage gone =>
    simp only [acquireOp, gone, poolAfter, Bool.false_eq_true, and_false, if_false]
    rfl
  | writable => exact pool_setPte ..
  | granted | unlisted | shot | unshot | retried | interrupted => rfl

theorem sync_pool {c c' : Cluster} {k : ℕ} {y : Sync} {s : SyncStep}
    (move : SyncMove c k y s c') (n : Node) :
    (c'.host n).pool = poolAfter c (syncOp y s) n := by
  cases move with
  | copied stage _ =>
    simp only [syncOp, stage, poolAfter]
    exact pool_act ..
  | missed stage missing =>
    simp only [syncOp, stage]
    exact (pool_flush_missed missing n).symm
  | zapped => exact pool_zapPage ..
  | looked | sent | skipped | stored | unstored | downgraded | unlisted | claimed | woken => rfl

theorem invalidate_pool (c : Cluster) (n m : Node) (shmid : ℕ) (p : PageIdx) (acquirer : ℕ) :
    ((c.setHost n ((c.host n).invalidate shmid p acquirer)).host m).pool =
      poolAfter c (some (n, .invalidate shmid p acquirer)) m := by
  rw [pool_setHost]
  simp only [poolAfter]
  split_ifs with here
  · subst m
    rfl
  · rfl

/-- Each host's pool moves by registry operations and nothing else. -/
theorem pool_step {c c' : Cluster} {e : Event} (move : Move c e c') (n : Node) :
    (c'.host n).pool = poolAfter c (poolOp c e) n := by
  cases move with
  | fault found move =>
    simp only [poolOp, found, Option.bind_some]
    exact fault_pool move n
  | acquire found move =>
    simp only [poolOp, found, Option.bind_some]
    exact acquire_pool move n
  | sync found move =>
    simp only [poolOp, found, Option.bind_some]
    exact sync_pool move n
  | update found move => cases move <;> rfl
  | invalidate found =>
    simp only [poolOp, found, Option.map_some]
    exact invalidate_pool ..
  | killSurrogate found =>
    simp only [poolOp, found, Option.map_some]
    exact pool_act ..
  | sweepSnapshot | importGuest | populate | setMigrating | shmat | shmdt | reap =>
    exact pool_act ..
  | sweepZap | guestExit => exact pool_setHost_same _ _ _ (by rfl)
  | guestStore => exact pool_setPhys ..
  | faultStart | acquireStart | invalidateLost | hookCaught | hookPassed | nativeInstall
  | nativeStore | sweepCollect | sweepShot | sweepSkipped | sweepSend | exportAdd | exportRemove
  | setTask | processExit | removeSegment | evict | setLink => rfl

theorem dir_apply (c : Cluster) (h : Node) (op : DirOp) (g : Node) :
    (c.setDir h (op.apply (c.dir h))).dir g = dirAfter c (some (h, op)) g := by
  rw [dir_setDir]
  simp only [dirAfter]
  split_ifs with here
  · subst g
    rfl
  · rfl

theorem fault_dir {c c' : Cluster} {k : ℕ} {t : Fault} {s : FaultStep}
    (move : FaultMove c k t s c') (h : Node) : c'.dir h = dirAfter c (faultDirOp c t s) h := by
  cases move with
  | downgraded stage =>
    simp only [faultDirOp, stage]
    exact dir_apply c t.key.home (.flushDowngrade t.key.shmid t.key.page) h
  | recorded stage mode =>
    simp only [faultDirOp, stage, if_pos mode]
    exact dir_apply c t.key.home
      (.faultService t.key.shmid t.key.origPid t.key.page t.key.node) h
  | unrecorded stage mode =>
    simp only [faultDirOp, stage, if_neg mode]
    rfl
  | stored => exact dir_storeRam ..
  | pumped => exact dir_touch ..
  | hunted | absent | looked | lazy | sent | skipped | copied | missed | zapped | unstored | failed
  | placed | dropped | filled | injected | raced | marked | presented | aborted | resumed => rfl

theorem sync_dir {c c' : Cluster} {k : ℕ} {y : Sync} {s : SyncStep}
    (move : SyncMove c k y s c') (h : Node) : c'.dir h = dirAfter c (syncDirOp y s) h := by
  cases move with
  | downgraded stage idx =>
    simp only [syncDirOp, stage, idx]
    exact dir_apply c y.home (.nativeDowngrade _ y.page) h
  | unlisted stage idx =>
    simp only [syncDirOp, stage, idx, dirAfter]
    rfl
  | claimed stage write idx =>
    simp only [syncDirOp, stage, write, idx, if_true]
    exact dir_apply c y.home (.nativeClaim _ y.page) h
  | woken stage read =>
    rcases read with read | none
    · cases idx : y.dirIdx with
      | none => simp only [syncDirOp, stage, idx, dirAfter]; rfl
      | some d =>
        simp only [syncDirOp, stage, idx, read, dirAfter, Bool.false_eq_true, if_false]
        rfl
    · simp only [syncDirOp, stage, none, dirAfter]
      rfl
  | stored => exact dir_storeRam ..
  | looked | sent | skipped | copied | missed | zapped | unstored => rfl

/-- Each home's directory moves by directory operations and nothing else. -/
theorem dir_step {c c' : Cluster} {e : Event} (move : Move c e c') (h : Node) :
    c'.dir h = dirAfter c (dirOp c e) h := by
  cases move with
  | fault found move =>
    simp only [dirOp, found, Option.bind_some]
    exact fault_dir move h
  | sync found move =>
    simp only [dirOp, found, Option.bind_some]
    exact sync_dir move h
  | acquire found move =>
    cases move with
    | granted stage listed =>
      rename_i k a d
      have granted : (DirOp.writeAcquire a.key.shmid a.key.page a.key.origPid).apply
          (c.dir a.key.home) =
          setPage (c.dir a.key.home) d a.key.page .exclusive a.key.origPid WordMask.empty := by
        simp only [DirOp.apply, writeAcquire, listed]
      simp only [dirOp, found, Option.bind_some, if_pos stage]
      rw [← dir_apply, granted]
      rfl
    | unlisted stage missing =>
      simp only [dirOp, found, Option.bind_some, if_pos stage, dirAfter, DirOp.apply]
      split_ifs with here
      · subst h
        simp only [writeAcquire, missing]
        rfl
      · rfl
    | shot => exact dir_setHome_same _ _ (by rfl) _
    | unshot | upgraded | abandoned | writable | retried | interrupted => rfl
  | update found move =>
    cases move with
    | cleaned stored mode =>
      rename_i k u
      simp only [dirOp, found, Option.bind_some, if_pos (And.intro stored mode)]
      exact dir_apply c u.key.home (.bombCleanup u.key.shmid u.key.page u.key.origPid) h
    | finished stored mode =>
      simp only [dirOp, found, Option.bind_some]
      rw [if_neg fun both => mode both.2]
      rfl
    | written => exact dir_storeRam ..
    | unwritten | undeliverable | lost => rfl
  | removeSegment => exact dir_apply c _ (.removeSegment _) h
  | nativeInstall => exact dir_touch ..
  | nativeStore => exact dir_storeRam ..
  | sweepCollect | sweepShot | sweepSkipped | exportAdd | exportRemove | setTask | processExit
  | evict => exact dir_setHome_same _ _ (by rfl) _
  | invalidate | killSurrogate | sweepSnapshot | importGuest | populate | setMigrating | shmat
  | shmdt | reap | sweepZap | guestExit | guestStore | faultStart | acquireStart | invalidateLost
  | hookCaught | hookPassed | sweepSend | setLink => rfl

end MattX.DsmEffects
