import MattX.DsmSteps

set_option autoImplicit false

/-!
# What a step in progress can do

One constructor for each way a piece of work moves on, so that the proofs
about runs split on these and never on the code of a step.
-/
namespace MattX.DsmMoves
open GuestRegistry GuestRegistryFrames GuestHost DsmDirectory DsmCluster DsmSteps

inductive FaultMove (c : Cluster) (k : ℕ) (t : Fault) : FaultStep → Cluster → Prop where
  | hunted (stage : t.stage = .requested) : FaultMove c k t .hunt (c.moveFault k t .hunted)
  | absent (stage : t.stage = .requested) : FaultMove c k t .hunt (c.moveFault k t (.replied none))
  | looked (stage : t.stage = .hunted) : FaultMove c k t .lookup (c.moveFault k t
      (.looked (exclusiveOwner (c.dir t.key.home) t.key.shmid t.key.page)))
  | lazy (stage : t.stage = .hunted) (mode : c.mode ≠ 2) :
    FaultMove c k t .lookup (c.moveFault k t .ready)
  | sent {ok : Bool} {owner : ℕ} (n : Node) (stage : t.stage = .looked owner) :
    FaultMove c k t (.route ok) (c.moveFault k t (.flushing owner n))
  | skipped {ok : Bool} {owner : ℕ} (stage : t.stage = .looked owner) :
    FaultMove c k t (.route ok) (c.moveFault k t .ready)
  | copied {owner : ℕ} {n : Node} {i d : ℕ} {f : Frame} (stage : t.stage = .flushing owner n)
      (found : flushedFrame (c.guests n) owner t.key.shmid t.key.page = some (i, d, f)) :
    FaultMove c k t .flushCopy ((c.act n (.flush owner t.key.shmid t.key.page)).moveFault k t
      (.copied n ((c.guests n).slot i).localPid (mapping (c.guests n) i d).baseAddr
        ((c.host n).phys f)))
  | missed {owner : ℕ} {n : Node} (stage : t.stage = .flushing owner n)
      (missing : flushedFrame (c.guests n) owner t.key.shmid t.key.page = none) :
    FaultMove c k t .flushCopy (c.moveFault k t (.flushed none))
  | zapped {n : Node} {tgid base : ℕ} {data : Page} (stage : t.stage = .copied n tgid base data) :
    FaultMove c k t .flushZap
      ((zapPage c n tgid base t.key.page).moveFault k t (.flushed (some data)))
  | stored {data : Page} (stage : t.stage = .flushed (some data))
      (area : (c.home t.key.home).hasArea t.key.origPid t.key.shmid = true) :
    FaultMove c k t .ram
      ((storeRam c t.key.home t.key.shmid t.key.page data).moveFault k t .settled)
  | unstored {reply : Option Page} (stage : t.stage = .flushed reply)
      (lost : reply ≠ none → (c.home t.key.home).hasArea t.key.origPid t.key.shmid = false) :
    FaultMove c k t .ram (c.moveFault k t .settled)
  | downgraded (stage : t.stage = .settled) : FaultMove c k t .downgrade
      ((c.setDir t.key.home
        (flushDowngrade (c.dir t.key.home) t.key.shmid t.key.page)).moveFault k t .ready)
  | pumped (stage : t.stage = .ready)
      (covers : (c.home t.key.home).covers t.key.origPid t.key.shmid t.key.page = true) :
    FaultMove c k t (.pump true)
      ((touch c t.key.home t.key.origPid t.key.shmid t.key.page).moveFault k t
        (.pumped ((c.home t.key.home).ram t.key.shmid t.key.page)))
  | failed {ok : Bool} (stage : t.stage = .ready) :
    FaultMove c k t (.pump ok) (c.moveFault k t (.replied none))
  | recorded {data : Page} (stage : t.stage = .pumped data) (mode : c.mode = 2) :
    FaultMove c k t .record ((c.setDir t.key.home (recordReader (c.dir t.key.home) t.key.shmid
      t.key.origPid t.key.page t.key.node)).moveFault k t (.replied (some data)))
  | unrecorded {data : Page} (stage : t.stage = .pumped data) (mode : c.mode ≠ 2) :
    FaultMove c k t .record (c.moveFault k t (.replied (some data)))
  | placed {fresh : Option Frame} {data : Page} {f : Frame} (stage : t.stage = .replied (some data))
      (waiting : t.waiting = true)
      (frame : placeFrame (c.guests t.key.node) t.tgid t.base t.key.page fresh = some f)
      (unused : ∀ g ∈ fresh, (c.host t.key.node).pool.frames g = false) :
    FaultMove c k t (.place fresh)
      ((c.act t.key.node (.backPage t.tgid t.base t.key.page fresh)).moveFault k t
        (.placed f data))
  | dropped {fresh : Option Frame} {reply : Option Page} (stage : t.stage = .replied reply)
      (idle : t.waiting = true → reply ≠ none →
        placeFrame (c.guests t.key.node) t.tgid t.base t.key.page fresh = none) :
    FaultMove c k t (.place fresh) (c.dropFault k)
  | filled {f : Frame} {data : Page} (stage : t.stage = .placed f data) :
    FaultMove c k t .copy ((setPhys c t.key.node f data).moveFault k t (.filled f))
  | injected {f : Frame} {st : FaultStage} (stage : t.stage = .filled f)
      (next : c.mode = 2 ∧ st = .injected ∨ c.mode ≠ 2 ∧ st = .marked)
      (empty : (c.host t.key.node).pte t.tgid t.base t.key.page = .absent) :
    FaultMove c k t .inject ((setPte c t.key.node t.tgid t.base t.key.page
      (if c.mode = 2 then .readOnly f else .writable f)).moveFault k t st)
  | raced {f : Frame} {st : FaultStage} (stage : t.stage = .filled f)
      (next : c.mode = 2 ∧ st = .injected ∨ c.mode ≠ 2 ∧ st = .marked)
      (full : (c.host t.key.node).pte t.tgid t.base t.key.page ≠ .absent) :
    FaultMove c k t .inject (c.moveFault k t st)
  | marked (stage : t.stage = .injected) : FaultMove c k t .mark
      ((c.act t.key.node (.markShared t.tgid t.base t.key.page)).moveFault k t .marked)
  | presented (stage : t.stage = .marked) : FaultMove c k t .present
      ((c.act t.key.node (.markPresent t.tgid t.base t.key.page)).dropFault k)
  | aborted (waiting : t.waiting = true) : FaultMove c k t (.interrupt none)
      { c with faults := c.faults.set k { t with waiting := false } }
  | resumed {data : Page} (waiting : t.waiting = true) : FaultMove c k t (.interrupt (some data))
      { c with faults := c.faults.set k { t with waiting := false } ++
        [{ t with waiting := true, stage := .replied (some data) }] }

inductive AcquireMove (c : Cluster) (k : ℕ) (a : Acquire) : AcquireStep → Cluster → Prop where
  | granted {d : Slot} (stage : a.stage = .requested)
      (found : findEntry (c.dir a.key.home) a.key.shmid = some d) :
    AcquireMove c k a .grant (((c.setDir a.key.home
      (setPage (c.dir a.key.home) d a.key.page .exclusive a.key.origPid WordMask.empty)
      ).sendInvalidates a.key.home ((c.dir a.key.home d).pageSharedMask a.key.page) a.key.shmid
        a.key.page a.key.origPid).moveAcquire k a (.granted true))
  | unlisted (stage : a.stage = .requested)
      (missing : findEntry (c.dir a.key.home) a.key.shmid = none) :
    AcquireMove c k a .grant (c.moveAcquire k a (.granted false))
  | shot {found : Bool} (stage : a.stage = .granted found)
      (area : (c.home a.key.home).hasArea a.key.origPid a.key.shmid = true) (listed : found = true) :
    AcquireMove c k a .shoot ((c.setHome a.key.home
      ((c.home a.key.home).shootDown a.key.shmid a.key.page)).moveAcquire k a .replied)
  | unshot {found : Bool} (stage : a.stage = .granted found)
      (no : found = true → (c.home a.key.home).hasArea a.key.origPid a.key.shmid = false) :
    AcquireMove c k a .shoot (c.moveAcquire k a .replied)
  | upgraded (stage : a.stage = .replied) (waiting : a.waiting = true) : AcquireMove c k a .upgrade
      ((c.act a.key.node (.upgrade a.tgid a.base a.key.page)).moveAcquire k a .upgraded)
  | abandoned (stage : a.stage = .replied) (gone : a.waiting = false) :
    AcquireMove c k a .upgrade (c.dropAcquire k)
  | writable {f : Frame} (stage : a.stage = .upgraded)
      (entry : (c.host a.key.node).pte a.tgid a.base a.key.page = .readOnly f) :
    AcquireMove c k a .writable
      ((setPte c a.key.node a.tgid a.base a.key.page (.writable f)).dropAcquire k)
  | retried (stage : a.stage = .upgraded) : AcquireMove c k a .writable (c.dropAcquire k)
  | interrupted (waiting : a.waiting = true) (early : a.stage ≠ .upgraded) :
    AcquireMove c k a .interrupt { c with acquires := c.acquires.set k { a with waiting := false } }

inductive UpdateMove (c : Cluster) (k : ℕ) (u : Update) : UpdateStep → Cluster → Prop where
  | written (pending : u.stored = false)
      (covers : (c.home u.key.home).covers u.key.origPid u.key.shmid u.key.page = true)
      (resident : (c.home u.key.home).resident u.key.shmid u.key.page = true) :
    UpdateMove c k u .store { storeRam c u.key.home u.key.shmid u.key.page u.data with
      updates := c.updates.set k { u with stored := true } }
  | unwritten (pending : u.stored = false)
      (covers : (c.home u.key.home).covers u.key.origPid u.key.shmid u.key.page = true)
      (gone : (c.home u.key.home).resident u.key.shmid u.key.page = false) :
    UpdateMove c k u .store { c with updates := c.updates.set k { u with stored := true } }
  | undeliverable (pending : u.stored = false)
      (bare : (c.home u.key.home).covers u.key.origPid u.key.shmid u.key.page = false) :
    UpdateMove c k u .store { c with updates := c.updates.eraseIdx k }
  | cleaned (stored : u.stored = true) (mode : c.mode = 2) : UpdateMove c k u .cleanup
      ({ c with updates := c.updates.eraseIdx k }.setDir u.key.home
        (bombCleanup (c.dir u.key.home) u.key.shmid u.key.page u.key.origPid))
  | finished (stored : u.stored = true) (mode : c.mode ≠ 2) : UpdateMove c k u .cleanup
      { c with updates := c.updates.eraseIdx k }
  | lost (pending : u.stored = false) : UpdateMove c k u .lost
      { c with updates := c.updates.eraseIdx k }

inductive SyncMove (c : Cluster) (k : ℕ) (y : Sync) : SyncStep → Cluster → Prop where
  | looked (stage : y.stage = .queued) : SyncMove c k y .lookup { c with
      syncs := c.syncs.set k { y with
        dirIdx := findEntry (c.dir y.home) y.shmid
        stage := .looked (exclusiveOwner (c.dir y.home) y.shmid y.page) } }
  | sent {ok : Bool} {owner : ℕ} (n : Node) (stage : y.stage = .looked owner) :
    SyncMove c k y (.route ok) (c.moveSync k y (.flushing owner n))
  | skipped {ok : Bool} {owner : ℕ} (stage : y.stage = .looked owner) :
    SyncMove c k y (.route ok) (c.moveSync k y .claiming)
  | copied {owner : ℕ} {n : Node} {i d : ℕ} {f : Frame} (stage : y.stage = .flushing owner n)
      (found : flushedFrame (c.guests n) owner y.shmid y.page = some (i, d, f)) :
    SyncMove c k y .flushCopy ((c.act n (.flush owner y.shmid y.page)).moveSync k y
      (.copied n ((c.guests n).slot i).localPid (mapping (c.guests n) i d).baseAddr
        ((c.host n).phys f)))
  | missed {owner : ℕ} {n : Node} (stage : y.stage = .flushing owner n)
      (missing : flushedFrame (c.guests n) owner y.shmid y.page = none) :
    SyncMove c k y .flushCopy (c.moveSync k y (.flushed none))
  | zapped {n : Node} {tgid base : ℕ} {data : Page} (stage : y.stage = .copied n tgid base data) :
    SyncMove c k y .flushZap ((zapPage c n tgid base y.page).moveSync k y (.flushed (some data)))
  | stored {data : Page} (stage : y.stage = .flushed (some data))
      (area : (c.home y.home).hasArea y.pid y.shmid = true) :
    SyncMove c k y .ram ((storeRam c y.home y.shmid y.page data).moveSync k y .settled)
  | unstored {reply : Option Page} (stage : y.stage = .flushed reply)
      (lost : reply ≠ none → (c.home y.home).hasArea y.pid y.shmid = false) :
    SyncMove c k y .ram (c.moveSync k y .settled)
  | downgraded {d : Slot} (stage : y.stage = .settled) (idx : y.dirIdx = some d) :
    SyncMove c k y .downgrade
      ((c.setDir y.home (nativeDowngrade (c.dir y.home) d y.page)).moveSync k y .claiming)
  | unlisted (stage : y.stage = .settled) (idx : y.dirIdx = none) :
    SyncMove c k y .downgrade (c.moveSync k y .claiming)
  | claimed {d : Slot} (stage : y.stage = .claiming) (write : y.isWrite = true)
      (idx : y.dirIdx = some d) : SyncMove c k y .claim
      (((c.setDir y.home (nativeClaim (c.dir y.home) d y.page)).sendInvalidates y.home
        ((c.dir y.home d).pageSharedMask y.page) y.shmid y.page 0).dropSync k)
  | woken (stage : y.stage = .claiming) (read : y.isWrite = false ∨ y.dirIdx = none) :
    SyncMove c k y .claim (c.dropSync k)

inductive Move (c : Cluster) : Event → Cluster → Prop where
  | fault {k : ℕ} {t : Fault} {s : FaultStep} {c' : Cluster} (found : c.faults[k]? = some t)
      (move : FaultMove c k t s c') : Move c (.fault k s) c'
  | acquire {k : ℕ} {a : Acquire} {s : AcquireStep} {c' : Cluster} (found : c.acquires[k]? = some a)
      (move : AcquireMove c k a s c') : Move c (.acquire k s) c'
  | update {k : ℕ} {u : Update} {s : UpdateStep} {c' : Cluster} (found : c.updates[k]? = some u)
      (move : UpdateMove c k u s c') : Move c (.update k s) c'
  | sync {k : ℕ} {y : Sync} {s : SyncStep} {c' : Cluster} (found : c.syncs[k]? = some y)
      (move : SyncMove c k y s c') : Move c (.sync k s) c'
  | faultStart {n : Node} {tgid addr base : ℕ} {x : PageKey}
      (found : translate c n tgid addr = some (x, base))
      (empty : (c.host n).pte tgid base x.page = .absent) : Move c (.faultStart n tgid addr)
        { c with faults := c.faults ++ [⟨x, tgid, base, true, .requested⟩] }
  | acquireStart {n : Node} {tgid addr base : ℕ} {x : PageKey} {f : Frame}
      (found : translate c n tgid addr = some (x, base)) (mode : c.mode = 2)
      (entry : (c.host n).pte tgid base x.page = .readOnly f) : Move c (.acquireStart n tgid addr)
        { c with acquires := c.acquires ++ [⟨x, tgid, base, true, .requested⟩] }
  | invalidate {k : ℕ} {v : Invalidate} (found : c.invalidates[k]? = some v) :
    Move c (.invalidate k)
      { c.setHost v.node ((c.host v.node).invalidate v.shmid v.page v.acquirer) with
        invalidates := c.invalidates.eraseIdx k }
  | invalidateLost {k : ℕ} {v : Invalidate} (found : c.invalidates[k]? = some v) :
    Move c (.invalidateLost k) { c with invalidates := c.invalidates.eraseIdx k }
  | hookCaught {h : Node} {pid shmid : ℕ} {p : PageIdx} {w : Bool} (mode : c.mode = 2)
      (caught : needsSync (c.dir h) shmid p w = true) : Move c (.nativeHook h pid shmid p w)
        { c with syncs := c.syncs ++ [⟨h, pid, shmid, p, w, none, .queued⟩] }
  | hookPassed {h : Node} {pid shmid : ℕ} {p : PageIdx} {w : Bool}
      (passed : c.mode = 2 → needsSync (c.dir h) shmid p w = false) :
    Move c (.nativeHook h pid shmid p w)
      { c with nativeFaults := c.nativeFaults ++ [⟨h, pid, shmid, p⟩] }
  | nativeInstall {k : ℕ} {t : NativeFault} (found : c.nativeFaults[k]? = some t)
      (covers : (c.home t.home).covers t.pid t.shmid t.page = true) :
    Move c (.nativeInstall k) { touch c t.home t.pid t.shmid t.page with
      nativeFaults := c.nativeFaults.eraseIdx k }
  | nativeStore {h : Node} {pid shmid : ℕ} {p : PageIdx} {i : Fin pageSize} {b : BitVec 8}
      (entry : (c.home h).nativePte pid shmid p = true) : Move c (.nativeStore h pid shmid p i b)
        (storeRam c h shmid p (Function.update ((c.home h).ram shmid p) i b))
  | sweepCollect {h : Node} (mode : c.mode = 2) (idle : (c.home h).toShoot = []) :
    Move c (.sweepCollect h)
      (c.setHome h { c.home h with toShoot := (c.home h).sharedPages.take 16 })
  | sweepShot {h : Node} {shmid pid : ℕ} {p : PageIdx} {rest : List (ℕ × ℕ × PageIdx)}
      (next : (c.home h).toShoot = (shmid, pid, p) :: rest) : Move c (.sweepShoot h)
        (c.setHome h ({ c.home h with toShoot := rest }.shootDown shmid p))
  | sweepSkipped {h : Node} {shmid pid : ℕ} {p : PageIdx} {rest : List (ℕ × ℕ × PageIdx)}
      (next : (c.home h).toShoot = (shmid, pid, p) :: rest)
      (no : (((c.home h).tasks pid).any fun t => !t.exiting) = false ∨
        (c.home h).hasArea pid shmid = false) :
    Move c (.sweepShoot h) (c.setHome h { c.home h with toShoot := rest })
  | sweepSnapshot {n : Node} {i : ℕ} (mode : c.mode = 1) (idle : c.sweeps n = [])
      (live : i < (c.guests n).count) : Move c (.sweepSnapshot n i)
        { c.act n (.clearPresent i) with
          sweeps := Function.update c.sweeps n (sweepJobs ((c.guests n).slot i)) }
  | sweepSend {n : Node} {ok : Bool} {job : SweepJob} {jobs : List SweepJob} {p : PageIdx}
      {f : Frame} {rest : List (PageIdx × Frame)} (next : c.sweeps n = job :: jobs)
      (page : job.pages = (p, f) :: rest) : Move c (.sweepSend n ok) { c with
        sweeps := Function.update c.sweeps n ({ job with pages := rest } :: jobs)
        updates := c.updates ++ if ok && c.link n job.home then
          [⟨⟨job.home, n, job.origPid, job.shmid, p⟩, (c.host n).phys f, false⟩] else [] }
  | sweepZap {n : Node} {job : SweepJob} {jobs : List SweepJob} (next : c.sweeps n = job :: jobs)
      (sent : job.pages = []) : Move c (.sweepZap n)
        { c.setHost n { c.host n with
            pte := fun t b p =>
              if t = job.tgid ∧ b = job.base then .absent else (c.host n).pte t b p } with
          sweeps := Function.update c.sweeps n jobs }
  | guestStore {n : Node} {tgid base : ℕ} {p : PageIdx} {i : Fin pageSize} {b : BitVec 8} {f : Frame}
      (entry : (c.host n).pte tgid base p = .writable f) : Move c (.guestStore n tgid base p i b)
        (setPhys c n f (Function.update ((c.host n).phys f) i b))
  | guestExit {n : Node} {tgid : ℕ} : Move c (.guestExit n tgid) (c.setHost n { c.host n with
      pte := fun t b p => if t = tgid then .absent else (c.host n).pte t b p })
  | importGuest {n : Node} {localPid origPid : ℕ} {h : Node} :
    Move c (.importGuest n localPid origPid h) (c.act n (.addGuest localPid origPid h))
  | populate {n : Node} {tgid : ℕ} {vmas : List (ℕ × ℕ × ℕ)} :
    Move c (.populate n tgid vmas) (c.act n (.populate tgid vmas))
  | setMigrating {n : Node} {tgid : ℕ} {b : Bool} :
    Move c (.setMigrating n tgid b) (c.act n (.setMigrating tgid b))
  | shmat {n : Node} {tgid base size shmid : ℕ} :
    Move c (.shmat n tgid base size shmid) (c.act n (.shmat tgid base size shmid))
  | shmdt {n : Node} {tgid base i d : ℕ} {packed : Bool}
      (found : cellAt (c.guests n) tgid base = some (i, d)) : Move c (.shmdt n tgid base packed)
        (sendUpdates (c.act n (.shmdt tgid base)) n ((c.guests n).slot i).homeNode packed
          (funeralFlush (c.host n) ((c.guests n).slot i) n (mapping (c.guests n) i d)))
  | reap {n : Node} {i : ℕ} {packed : Bool} {exits : List (Node × ℕ)}
      (live : i < (c.guests n).count) : Move c (.reap n i packed)
        { sendUpdates (c.act n (.removeGuest i)) n ((c.guests n).slot i).homeNode packed
            ((liveMappings ((c.guests n).slot i)).flatMap
              (funeralFlush (c.host n) ((c.guests n).slot i) n)) with exits := exits }
  | killSurrogate {n h : Node} {origPid i : ℕ} (found : surrogateOf (c.guests n) origPid h = some i) :
    Move c (.killSurrogate n h origPid) (c.act n (.removeGuest i))
  | exportAdd {h : Node} {pid : ℕ} {n : Node} : Move c (.exportAdd h pid n)
      (c.setHome h { c.home h with exports := (c.home h).exports.push fun _ => ⟨pid, n⟩ })
  | exportRemove {h : Node} {pid i : ℕ}
      (found : ((c.home h).exports.find? fun e => e.origPid == pid) = some i) :
    Move c (.exportRemove h pid)
      (c.setHome h { c.home h with exports := (c.home h).exports.swapRemove i })
  | setTask {h : Node} {pid : ℕ} {t : Option Task}
      (dying : ((c.home h).tasks pid).any (fun t => t.exiting) = true →
        t.any (fun t => !t.exiting) = false) : Move c (.setTask h pid t)
      (c.setHome h { c.home h with
        tasks := Function.update (c.home h).tasks pid t
        nativePte := fun q s p => (c.home h).nativePte q s p &&
          (q != pid || (t.any fun t => t.areas.any fun a => a.shmid == s)) })
  | processExit {k : ℕ} {x : Node × ℕ} {exports : SlotTable ExportInfo}
      (found : c.exits[k]? = some x)
      (removed : (((c.home x.1).exports.find? fun e => e.origPid == x.2) = none ∧
          exports = (c.home x.1).exports) ∨
        ∃ i, ((c.home x.1).exports.find? fun e => e.origPid == x.2) = some i ∧
          exports = (c.home x.1).exports.swapRemove i) : Move c (.processExit k)
        { c.setHome x.1 { c.home x.1 with
            tasks := Function.update (c.home x.1).tasks x.2
              (((c.home x.1).tasks x.2).map fun t => { t with exiting := true })
            exports := exports } with exits := c.exits.eraseIdx k }
  | removeSegment {h : Node} {shmid : ℕ} : Move c (.removeSegment h shmid)
      (c.setDir h (DsmDirectory.removeSegment (c.dir h) shmid))
  | evict {h : Node} {shmid : ℕ} {p : PageIdx} : Move c (.evict h shmid p)
      (c.setHome h { c.home h with
        resident := Function.update (c.home h).resident shmid
          (Function.update ((c.home h).resident shmid) p false) })
  | setLink {a b : Node} {up : Bool} : Move c (.setLink a b up)
      { c with link := Function.update c.link a (Function.update (c.link a) b up) }

theorem faultStep_move {c c' : Cluster} {k : ℕ} {t : Fault} {s : FaultStep}
    (h : faultStep c k t s = some c') : FaultMove c k t s c' := by
  cases s with
  | hunt =>
    simp only [faultStep] at h
    split at h
    · rename_i stage
      obtain rfl := Option.some.inj h
      split_ifs
      · exact .hunted stage
      · exact .absent stage
    · exact nomatch h
  | lookup =>
    simp only [faultStep] at h
    split at h
    · rename_i stage
      obtain rfl := Option.some.inj h
      split_ifs with mode
      · exact .looked stage
      · exact .lazy stage mode
    · exact nomatch h
  | route ok =>
    simp only [faultStep] at h
    split at h
    · rename_i owner stage
      split at h
      · rename_i n _
        obtain rfl := Option.some.inj h
        exact .sent n stage
      · obtain rfl := Option.some.inj h
        exact .skipped stage
    · exact nomatch h
  | flushCopy =>
    simp only [faultStep] at h
    split at h
    · rename_i owner n stage
      split at h
      · rename_i i d f found
        obtain rfl := Option.some.inj h
        exact .copied stage found
      · rename_i missing
        obtain rfl := Option.some.inj h
        exact .missed stage missing
    · exact nomatch h
  | flushZap =>
    simp only [faultStep] at h
    split at h
    · rename_i n tgid base data stage
      obtain rfl := Option.some.inj h
      exact .zapped stage
    · exact nomatch h
  | ram =>
    simp only [faultStep] at h
    split at h
    · rename_i data stage
      obtain rfl := Option.some.inj h
      split_ifs with area
      · exact .stored stage area
      · exact .unstored stage fun _ => by simpa using area
    · rename_i stage
      obtain rfl := Option.some.inj h
      exact .unstored stage fun some => absurd rfl some
    · exact nomatch h
  | downgrade =>
    simp only [faultStep] at h
    split at h
    · rename_i stage
      obtain rfl := Option.some.inj h
      exact .downgraded stage
    · exact nomatch h
  | pump ok =>
    simp only [faultStep] at h
    split at h
    · rename_i stage
      split_ifs at h with covers
      · obtain rfl := Option.some.inj h
        obtain ⟨rfl, covers⟩ := Bool.and_eq_true_iff.mp covers
        exact .pumped stage covers
      · obtain rfl := Option.some.inj h
        exact .failed stage
    · exact nomatch h
  | record =>
    simp only [faultStep] at h
    split at h
    · rename_i data stage
      obtain rfl := Option.some.inj h
      split_ifs with mode
      · exact .recorded stage mode
      · exact .unrecorded stage mode
    · exact nomatch h
  | place fresh =>
    simp only [faultStep] at h
    split at h
    · rename_i reply stage
      split at h
      · rename_i data f taken frame
        split_ifs at h with unused
        obtain rfl := Option.some.inj h
        by_cases waiting : t.waiting = true
        · rw [if_pos waiting] at taken
          subst taken
          exact .placed stage waiting frame unused
        · rw [if_neg waiting] at taken
          exact nomatch taken
      · rename_i empty
        obtain rfl := Option.some.inj h
        refine .dropped stage fun waiting some_reply => ?_
        obtain ⟨data, rfl⟩ := Option.ne_none_iff_exists'.mp some_reply
        rw [if_pos waiting] at empty
        exact Option.eq_none_iff_forall_ne_some.mpr fun f frame => empty data f rfl frame
    · exact nomatch h
  | copy =>
    simp only [faultStep] at h
    split at h
    · rename_i f data stage
      obtain rfl := Option.some.inj h
      exact .filled stage
    · exact nomatch h
  | inject =>
    simp only [faultStep] at h
    split at h
    · rename_i f stage
      obtain rfl := Option.some.inj h
      have next : c.mode = 2 ∧ (if c.mode = 2 then FaultStage.injected else .marked) = .injected ∨
          c.mode ≠ 2 ∧ (if c.mode = 2 then FaultStage.injected else .marked) = .marked := by
        split_ifs with mode
        · exact Or.inl ⟨mode, rfl⟩
        · exact Or.inr ⟨mode, rfl⟩
      by_cases empty : (c.host t.key.node).pte t.tgid t.base t.key.page = .absent
      · rw [if_pos empty]
        exact .injected stage next empty
      · rw [if_neg empty]
        exact .raced stage next empty
    · exact nomatch h
  | mark =>
    simp only [faultStep] at h
    split at h
    · rename_i stage
      obtain rfl := Option.some.inj h
      exact .marked stage
    · exact nomatch h
  | present =>
    simp only [faultStep] at h
    split at h
    · rename_i stage
      obtain rfl := Option.some.inj h
      exact .presented stage
    · exact nomatch h
  | interrupt stale =>
    simp only [faultStep] at h
    split at h
    iterate 4 exact nomatch h
    split_ifs at h with waiting
    obtain rfl := Option.some.inj h
    cases stale with
    | none => exact .aborted waiting
    | some data => exact .resumed waiting
theorem acquireStep_move {c c' : Cluster} {k : ℕ} {a : Acquire} {s : AcquireStep}
    (h : acquireStep c k a s = some c') : AcquireMove c k a s c' := by
  cases s with
  | grant =>
    simp only [acquireStep, writeAcquire] at h
    split at h
    · rename_i stage
      cases found : findEntry (c.dir a.key.home) a.key.shmid with
      | none =>
        rw [show findEntry (c.home a.key.home).dir a.key.shmid = none from found] at h
        obtain rfl := Option.some.inj h
        exact .unlisted stage found
      | some d =>
        rw [show findEntry (c.home a.key.home).dir a.key.shmid = some d from found] at h
        obtain rfl := Option.some.inj h
        exact .granted stage found
    · exact nomatch h
  | shoot =>
    simp only [acquireStep] at h
    split at h
    · rename_i found stage
      obtain rfl := Option.some.inj h
      split_ifs with both
      · obtain ⟨listed, area⟩ := Bool.and_eq_true_iff.mp both
        exact .shot stage area listed
      · exact .unshot stage fun listed => by simpa [listed] using both
    · exact nomatch h
  | upgrade =>
    simp only [acquireStep] at h
    split at h
    · rename_i stage
      split_ifs at h with waiting
      · obtain rfl := Option.some.inj h
        exact .upgraded stage waiting
      · obtain rfl := Option.some.inj h
        exact .abandoned stage (by simpa using waiting)
    · exact nomatch h
  | writable =>
    simp only [acquireStep] at h
    split at h
    · rename_i stage
      split at h
      · rename_i f entry
        obtain rfl := Option.some.inj h
        exact .writable stage entry
      · obtain rfl := Option.some.inj h
        exact .retried stage
    · exact nomatch h
  | interrupt =>
    simp only [acquireStep] at h
    split_ifs at h with waiting
    obtain rfl := Option.some.inj h
    exact .interrupted waiting.1 waiting.2

theorem updateStep_move {c c' : Cluster} {k : ℕ} {u : Update} {s : UpdateStep}
    (h : updateStep c k u s = some c') : UpdateMove c k u s c' := by
  cases s with
  | store =>
    simp only [updateStep] at h
    split_ifs at h with stored covers resident
    · obtain rfl := Option.some.inj h
      exact .written (by simpa using stored) covers resident
    · obtain rfl := Option.some.inj h
      exact .unwritten (by simpa using stored) covers (by simpa using resident)
    · obtain rfl := Option.some.inj h
      exact .undeliverable (by simpa using stored) (by simpa using covers)
  | cleanup =>
    simp only [updateStep] at h
    split_ifs at h with stored mode
    · obtain rfl := Option.some.inj h
      exact .cleaned stored mode
    · obtain rfl := Option.some.inj h
      exact .finished stored mode
  | lost =>
    simp only [updateStep] at h
    split_ifs at h with stored
    obtain rfl := Option.some.inj h
    exact .lost (by simpa using stored)

theorem syncStep_move {c c' : Cluster} {k : ℕ} {y : Sync} {s : SyncStep}
    (h : syncStep c k y s = some c') : SyncMove c k y s c' := by
  cases s with
  | lookup =>
    simp only [syncStep] at h
    split at h
    · rename_i stage
      obtain rfl := Option.some.inj h
      exact .looked stage
    · exact nomatch h
  | route ok =>
    simp only [syncStep] at h
    split at h
    · rename_i owner stage
      split at h
      · rename_i n _
        obtain rfl := Option.some.inj h
        exact .sent n stage
      · obtain rfl := Option.some.inj h
        exact .skipped stage
    · exact nomatch h
  | flushCopy =>
    simp only [syncStep] at h
    split at h
    · rename_i owner n stage
      split at h
      · rename_i i d f found
        obtain rfl := Option.some.inj h
        exact .copied stage found
      · rename_i missing
        obtain rfl := Option.some.inj h
        exact .missed stage missing
    · exact nomatch h
  | flushZap =>
    simp only [syncStep] at h
    split at h
    · rename_i n tgid base data stage
      obtain rfl := Option.some.inj h
      exact .zapped stage
    · exact nomatch h
  | ram =>
    simp only [syncStep] at h
    split at h
    · rename_i data stage
      obtain rfl := Option.some.inj h
      split_ifs with area
      · exact .stored stage area
      · exact .unstored stage fun _ => by simpa using area
    · rename_i stage
      obtain rfl := Option.some.inj h
      exact .unstored stage fun some => absurd rfl some
    · exact nomatch h
  | downgrade =>
    simp only [syncStep] at h
    split at h
    · rename_i stage
      obtain rfl := Option.some.inj h
      cases idx : y.dirIdx with
      | none => exact .unlisted stage idx
      | some d => exact .downgraded stage idx
    · exact nomatch h
  | claim =>
    simp only [syncStep] at h
    split at h
    · rename_i stage
      obtain rfl := Option.some.inj h
      cases write : y.isWrite with
      | false => exact .woken stage (Or.inl write)
      | true =>
        cases idx : y.dirIdx with
        | none => exact .woken stage (Or.inr idx)
        | some d => exact .claimed stage write idx
    · exact nomatch h

theorem step_move {c c' : Cluster} {e : Event} (h : step c e = some c') : Move c e c' := by
  cases e with
  | fault k s =>
    obtain ⟨t, found, h⟩ := Option.bind_eq_some_iff.mp h
    exact .fault found (faultStep_move h)
  | acquire k s =>
    obtain ⟨a, found, h⟩ := Option.bind_eq_some_iff.mp h
    exact .acquire found (acquireStep_move h)
  | update k s =>
    obtain ⟨u, found, h⟩ := Option.bind_eq_some_iff.mp h
    exact .update found (updateStep_move h)
  | sync k s =>
    obtain ⟨y, found, h⟩ := Option.bind_eq_some_iff.mp h
    exact .sync found (syncStep_move h)
  | faultStart n tgid addr =>
    simp only [step] at h
    split at h
    · rename_i x base found
      split_ifs at h with empty
      obtain rfl := Option.some.inj h
      exact .faultStart found empty
    · exact nomatch h
  | acquireStart n tgid addr =>
    simp only [step] at h
    split at h
    · rename_i x base found
      split at h
      · rename_i f mode entry
        obtain rfl := Option.some.inj h
        exact .acquireStart found mode entry
      · exact nomatch h
    · exact nomatch h
  | invalidate k =>
    obtain ⟨v, found, rfl⟩ := Option.map_eq_some_iff.mp h
    exact .invalidate found
  | invalidateLost k =>
    obtain ⟨v, found, rfl⟩ := Option.map_eq_some_iff.mp h
    exact .invalidateLost found
  | nativeHook h' pid shmid p w =>
    simp only [step] at h
    split_ifs at h with _ caught
    · obtain rfl := Option.some.inj h
      exact .hookCaught caught.1 caught.2
    · obtain rfl := Option.some.inj h
      exact .hookPassed fun mode => by simpa [mode] using caught
  | nativeInstall k =>
    obtain ⟨t, found, h⟩ := Option.bind_eq_some_iff.mp h
    split_ifs at h with covers
    obtain rfl := Option.some.inj h
    exact .nativeInstall found covers
  | nativeStore h' pid shmid p i b =>
    simp only [step] at h
    split_ifs at h with entry
    obtain rfl := Option.some.inj h
    exact .nativeStore entry
  | sweepCollect h' =>
    simp only [step] at h
    split_ifs at h with idle
    obtain rfl := Option.some.inj h
    exact .sweepCollect idle.1 idle.2
  | sweepShoot h' =>
    simp only [step] at h
    split at h
    · rename_i shmid pid p rest next
      split_ifs at h with alive
      · obtain rfl := Option.some.inj h
        exact .sweepShot next
      · obtain rfl := Option.some.inj h
        rw [Bool.not_eq_true, Bool.and_eq_false_iff] at alive
        exact .sweepSkipped next alive
    · exact nomatch h
  | sweepSnapshot n i =>
    simp only [step] at h
    split_ifs at h with idle
    obtain rfl := Option.some.inj h
    exact .sweepSnapshot idle.1 idle.2.1 idle.2.2
  | sweepSend n ok =>
    simp only [step] at h
    split at h
    · rename_i job jobs next
      split at h
      · rename_i p f rest page
        obtain rfl := Option.some.inj h
        exact .sweepSend next page
      · exact nomatch h
    · exact nomatch h
  | sweepZap n =>
    simp only [step] at h
    split at h
    · rename_i job jobs next
      split at h
      · rename_i sent
        obtain rfl := Option.some.inj h
        exact .sweepZap next sent
      · exact nomatch h
    · exact nomatch h
  | guestStore n tgid base p i b =>
    simp only [step] at h
    split at h
    · rename_i f entry
      obtain rfl := Option.some.inj h
      exact .guestStore entry
    · exact nomatch h
  | shmdt n tgid base packed =>
    simp only [step] at h
    split at h
    · rename_i i d found
      obtain rfl := Option.some.inj h
      exact .shmdt found
    · exact nomatch h
  | reap n i packed =>
    simp only [step] at h
    split_ifs at h with live _
    · obtain rfl := Option.some.inj h
      exact .reap live
    · obtain rfl := Option.some.inj h
      exact .reap live
  | killSurrogate n h' origPid =>
    obtain ⟨i, found, rfl⟩ := Option.map_eq_some_iff.mp h
    exact .killSurrogate found
  | exportRemove h' pid =>
    obtain ⟨i, found, rfl⟩ := Option.map_eq_some_iff.mp h
    exact .exportRemove found
  | processExit k =>
    obtain ⟨x, found, rfl⟩ := Option.map_eq_some_iff.mp h
    refine .processExit found ?_
    split
    · rename_i i listed
      exact Or.inr ⟨i, listed, rfl⟩
    · rename_i missing
      exact Or.inl ⟨missing, rfl⟩
  | setTask h' pid t =>
    simp only [step] at h
    split_ifs at h with revived
    obtain rfl := Option.some.inj h
    exact .setTask fun dying => by simpa [dying] using revived
  | guestExit | importGuest | populate | setMigrating | shmat | exportAdd | removeSegment
  | evict | setLink =>
    obtain rfl := Option.some.inj h
    constructor

end MattX.DsmMoves
