import MattX.DsmCluster
import MattX.GuardedRuns

set_option autoImplicit false

/-!
# One step of the cluster

Each event is one critical section, one message handed over or one access of a
process. `none` means that the event cannot happen in this state.
-/
namespace MattX.DsmSteps
open GuestRegistry GuestRegistryFrames GuestHost DsmDirectory DsmCluster GuardedRuns

inductive FaultStep where
  | hunt
  | lookup
  | route (ok : Bool)
  | flushCopy
  | flushZap
  | ram
  | downgrade
  | pump (ok : Bool)
  | record
  | place (fresh : Option Frame)
  | copy
  | inject
  | mark
  | present
  | interrupt (stale : Option Page)

inductive AcquireStep where
  | grant
  | shoot
  | upgrade
  | writable
  | interrupt

inductive UpdateStep where
  | store
  | cleanup
  | lost

inductive SyncStep where
  | lookup
  | route (ok : Bool)
  | flushCopy
  | flushZap
  | ram
  | downgrade
  | claim

inductive Event where
  | faultStart (n : Node) (tgid addr : ℕ)
  | fault (k : ℕ) (s : FaultStep)
  | acquireStart (n : Node) (tgid addr : ℕ)
  | acquire (k : ℕ) (s : AcquireStep)
  | invalidate (k : ℕ)
  | invalidateLost (k : ℕ)
  | update (k : ℕ) (s : UpdateStep)
  | sync (k : ℕ) (s : SyncStep)
  | nativeHook (h : Node) (pid shmid : ℕ) (p : PageIdx) (isWrite : Bool)
  | nativeInstall (k : ℕ)
  | nativeStore (h : Node) (pid shmid : ℕ) (p : PageIdx) (i : Fin pageSize) (b : BitVec 8)
  | sweepCollect (h : Node)
  | sweepShoot (h : Node)
  | sweepSnapshot (n : Node) (i : ℕ)
  | sweepSend (n : Node) (ok : Bool)
  | sweepZap (n : Node)
  | guestStore (n : Node) (tgid base : ℕ) (p : PageIdx) (i : Fin pageSize) (b : BitVec 8)
  | guestExit (n : Node) (tgid : ℕ)
  | importGuest (n : Node) (localPid origPid : ℕ) (h : Node)
  | populate (n : Node) (tgid : ℕ) (vmas : List (ℕ × ℕ × ℕ))
  | setMigrating (n : Node) (tgid : ℕ) (b : Bool)
  | shmat (n : Node) (tgid base size shmid : ℕ)
  | shmdt (n : Node) (tgid base : ℕ) (packed : Bool)
  | reap (n : Node) (i : ℕ) (packed : Bool)
  | killSurrogate (n : Node) (h : Node) (origPid : ℕ)
  | exportAdd (h : Node) (pid : ℕ) (n : Node)
  | exportRemove (h : Node) (pid : ℕ)
  | setTask (h : Node) (pid : ℕ) (t : Option Task)
  | processExit (k : ℕ)
  | removeSegment (h : Node) (shmid : ℕ)
  | evict (h : Node) (shmid : ℕ) (p : PageIdx)
  | setLink (a b : Node) (up : Bool)

/-- The node a flush is sent to, if the owner is exported, connected and `ok`: a buffer and an RPC
slot were there. -/
def flushRoute (c : Cluster) (h : Node) (owner : ℕ) (ok : Bool) : Option Node :=
  if owner = 0 then none
  else ((c.home h).exportNode owner).filter fun n => c.link h n && ok

def storeRam (c : Cluster) (h : Node) (shmid : ℕ) (p : PageIdx) (data : Page) : Cluster :=
  c.setHome h ((c.home h).writeRam shmid p data)

def zapPage (c : Cluster) (n : Node) (tgid base : ℕ) (p : PageIdx) : Cluster :=
  c.setHost n ((c.host n).zap (fun t b => t == tgid && b == base) p)

def setPte (c : Cluster) (n : Node) (tgid base : ℕ) (p : PageIdx) (e : Pte) : Cluster :=
  c.setHost n { c.host n with
    pte := fun t b q => if t = tgid ∧ b = base ∧ q = p then e else (c.host n).pte t b q }

def setPhys (c : Cluster) (n : Node) (f : Frame) (data : Page) : Cluster :=
  c.setHost n { c.host n with phys := Function.update (c.host n).phys f data }

/-- The kernel's `pump` reads through the deputy, which maps the page there. -/
def touch (c : Cluster) (h : Node) (pid shmid : ℕ) (p : PageIdx) : Cluster :=
  c.setHome h (((c.home h).writeRam shmid p ((c.home h).ram shmid p)).install pid shmid p)

/-- The cell and page `mattx_dsm_fault` has once it holds `guest_lock`. -/
def placeFrame (r : Registry) (tgid base : ℕ) (p : PageIdx) (fresh : Option Frame) :
    Option Frame :=
  (cellAt r tgid base).bind fun c => ((mapping r c.1 c.2).backPage p fresh).pages p

def faultStep (c : Cluster) (k : ℕ) (t : Fault) (s : FaultStep) : Option Cluster :=
  let x := t.key
  let hm := c.home x.home
  match s with
  | .hunt => match t.stage with
    | .requested => some (c.moveFault k t
      (if hm.covers x.origPid x.shmid x.page then .hunted else .replied none))
    | _ => none
  | .lookup => match t.stage with
    | .hunted => some (c.moveFault k t
      (if c.mode = 2 then .looked (exclusiveOwner hm.dir x.shmid x.page) else .ready))
    | _ => none
  | .route ok => match t.stage with
    | .looked owner =>
      match if owner = x.origPid then none else flushRoute c x.home owner ok with
      | some n => some (c.moveFault k t (.flushing owner n))
      | none => some (c.moveFault k t .ready)
    | _ => none
  | .flushCopy => match t.stage with
    | .flushing owner n =>
      match flushedFrame (c.guests n) owner x.shmid x.page with
      | some (i, d, f) => some ((c.act n (.flush owner x.shmid x.page)).moveFault k t
        (.copied n ((c.guests n).slot i).localPid (mapping (c.guests n) i d).baseAddr
          ((c.host n).phys f)))
      | none => some (c.moveFault k t (.flushed none))
    | _ => none
  | .flushZap => match t.stage with
    | .copied n tgid base data =>
      some ((zapPage c n tgid base x.page).moveFault k t (.flushed (some data)))
    | _ => none
  | .ram => match t.stage with
    | .flushed (some data) => some ((if hm.hasArea x.origPid x.shmid then
        storeRam c x.home x.shmid x.page data else c).moveFault k t .settled)
    -- the owner had nothing: a funeral flush is taken to have been there already
    | .flushed none => some (c.moveFault k t .settled)
    | _ => none
  | .downgrade => match t.stage with
    | .settled => some ((c.setDir x.home (flushDowngrade hm.dir x.shmid x.page)).moveFault k t
      .ready)
    | _ => none
  | .pump ok => match t.stage with
    | .ready => if ok && hm.covers x.origPid x.shmid x.page then
        some ((touch c x.home x.origPid x.shmid x.page).moveFault k t
          (.pumped (hm.ram x.shmid x.page)))
      else some (c.moveFault k t (.replied none))
    | _ => none
  | .record => match t.stage with
    | .pumped data => some ((if c.mode = 2 then
        c.setDir x.home (recordReader hm.dir x.shmid x.origPid x.page x.node) else c).moveFault
          k t (.replied (some data)))
    | _ => none
  | .place fresh => match t.stage with
    | .replied reply =>
      match if t.waiting then reply else none,
        placeFrame (c.guests x.node) t.tgid t.base x.page fresh with
      | some data, some f =>
        if ∀ g ∈ fresh, (c.host x.node).pool.frames g = false then
          some ((c.act x.node (.backPage t.tgid t.base x.page fresh)).moveFault k t
            (.placed f data))
        else none
      | _, _ => some (c.dropFault k)
    | _ => none
  | .copy => match t.stage with
    | .placed f data => some ((setPhys c x.node f data).moveFault k t (.filled f))
    | _ => none
  | .inject => match t.stage with
    -- an entry that is already there is left alone and counts as success
    | .filled f => some ((if (c.host x.node).pte t.tgid t.base x.page = .absent then
        setPte c x.node t.tgid t.base x.page (if c.mode = 2 then .readOnly f else .writable f)
      else c).moveFault k t (if c.mode = 2 then .injected else .marked))
    | _ => none
  | .mark => match t.stage with
    | .injected => some ((c.act x.node (.markShared t.tgid t.base x.page)).moveFault k t .marked)
    | _ => none
  | .present => match t.stage with
    | .marked => some ((c.act x.node (.markPresent t.tgid t.base x.page)).dropFault k)
    | _ => none
  | .interrupt stale => match t.stage with
    | .placed .. | .filled _ | .injected | .marked => none
    | _ => if t.waiting then
        let c' := { c with faults := c.faults.set k { t with waiting := false } }
        -- the wait is over, but the slot's old error decides whether the fault goes on
        some (match stale with
          | some data => { c' with
            faults := c'.faults ++ [{ t with waiting := true, stage := .replied (some data) }] }
          | none => c')
      else none

def acquireStep (c : Cluster) (k : ℕ) (a : Acquire) (s : AcquireStep) : Option Cluster :=
  let x := a.key
  let hm := c.home x.home
  match s with
  | .grant => match a.stage with
    | .requested =>
      match writeAcquire hm.dir x.shmid x.page x.origPid with
      | (dir, some mask) => some (((c.setDir x.home dir).sendInvalidates x.home mask x.shmid x.page
          x.origPid).moveAcquire k a (.granted true))
      | (_, none) => some (c.moveAcquire k a (.granted false))
    | _ => none
  | .shoot => match a.stage with
    | .granted found => some ((if found && hm.hasArea x.origPid x.shmid then
        c.setHome x.home (hm.shootDown x.shmid x.page) else c).moveAcquire k a .replied)
    | _ => none
  | .upgrade => match a.stage with
    | .replied => if a.waiting then
        some ((c.act x.node (.upgrade a.tgid a.base x.page)).moveAcquire k a .upgraded)
      else some (c.dropAcquire k)
    | _ => none
  | .writable => match a.stage with
    | .upgraded => match (c.host x.node).pte a.tgid a.base x.page with
      | .readOnly f => some ((setPte c x.node a.tgid a.base x.page (.writable f)).dropAcquire k)
      | _ => some (c.dropAcquire k)
    | _ => none
  | .interrupt => if a.waiting ∧ a.stage ≠ .upgraded then
      some { c with acquires := c.acquires.set k { a with waiting := false } }
    else none

def updateStep (c : Cluster) (k : ℕ) (u : Update) (s : UpdateStep) : Option Cluster :=
  let x := u.key
  let hm := c.home x.home
  let done := { c with updates := c.updates.eraseIdx k }
  match s with
  | .store => if u.stored then none
    else if hm.covers x.origPid x.shmid x.page then
      some { (if hm.resident x.shmid x.page then storeRam c x.home x.shmid x.page u.data else c) with
        updates := c.updates.set k { u with stored := true } }
    else some done
  | .cleanup => if u.stored then
      some (if c.mode = 2 then
        done.setDir x.home (bombCleanup hm.dir x.shmid x.page x.origPid) else done)
    else none
  | .lost => if u.stored then none else some done

def syncStep (c : Cluster) (k : ℕ) (y : Sync) (s : SyncStep) : Option Cluster :=
  let hm := c.home y.home
  match s with
  | .lookup => match y.stage with
    | .queued => some { c with syncs := c.syncs.set k { y with
        dirIdx := findEntry hm.dir y.shmid
        stage := .looked (exclusiveOwner hm.dir y.shmid y.page) } }
    | _ => none
  | .route ok => match y.stage with
    | .looked owner => match flushRoute c y.home owner ok with
      | some n => some (c.moveSync k y (.flushing owner n))
      | none => some (c.moveSync k y .claiming)
    | _ => none
  | .flushCopy => match y.stage with
    | .flushing owner n =>
      match flushedFrame (c.guests n) owner y.shmid y.page with
      | some (i, d, f) => some ((c.act n (.flush owner y.shmid y.page)).moveSync k y
        (.copied n ((c.guests n).slot i).localPid (mapping (c.guests n) i d).baseAddr
          ((c.host n).phys f)))
      | none => some (c.moveSync k y (.flushed none))
    | _ => none
  | .flushZap => match y.stage with
    | .copied n tgid base data =>
      some ((zapPage c n tgid base y.page).moveSync k y (.flushed (some data)))
    | _ => none
  | .ram => match y.stage with
    | .flushed (some data) => some ((if hm.hasArea y.pid y.shmid then
        storeRam c y.home y.shmid y.page data else c).moveSync k y .settled)
    | .flushed none => some (c.moveSync k y .settled)
    | _ => none
  | .downgrade => match y.stage with
    | .settled => some ((match y.dirIdx with
      | some d => c.setDir y.home (nativeDowngrade hm.dir d y.page)
      | none => c).moveSync k y .claiming)
    | _ => none
  | .claim => match y.stage with
    | .claiming => some ((match y.isWrite, y.dirIdx with
      | true, some d => (c.setDir y.home (nativeClaim hm.dir d y.page)).sendInvalidates y.home
          ((hm.dir d).pageSharedMask y.page) y.shmid y.page 0
      | _, _ => c).dropSync k)
    | _ => none

/-- The data bombs for the EXCLUSIVE pages of one mapping. -/
def funeralFlush (h : Host) (g : GuestInfo) (n : Node) (m : DsmMapping) : List Update :=
  m.dirtyPages.filterMap fun p => (m.pages p).map fun f =>
    ⟨⟨g.homeNode, n, g.origPid, m.shmid, p⟩, h.phys f, false⟩

def liveMappings (g : GuestInfo) : List DsmMapping :=
  (List.range g.dsmMap.count).map g.dsmMap.slot

/-- Mode 2 only, and only if the array could be allocated and the home is connected. -/
def sendUpdates (c : Cluster) (n h : Node) (packed : Bool) (us : List Update) : Cluster :=
  { c with updates := c.updates ++ if c.mode = 2 ∧ packed = true ∧ c.link n h = true then us else [] }

def sweepJobs (g : GuestInfo) : List SweepJob := (liveMappings g).map fun m =>
  { home := g.homeNode, origPid := g.origPid, tgid := g.localPid, base := m.baseAddr
    shmid := m.shmid
    pages := (List.finRange maxDsmPages).filterMap fun p =>
      if m.presentPages p ∧ pageSize * p.val < m.size then (m.pages p).map (p, ·) else none }

/-- The translation both fault handlers start with, for addresses whose page has a cell. -/
def translate (c : Cluster) (n : Node) (tgid addr : ℕ) : Option (PageKey × ℕ) :=
  (guestOf (c.guests n) tgid).bind fun i =>
    let g := (c.guests n).slot i
    (mappingOver g addr).bind fun d =>
      let m := mapping (c.guests n) i d
      if h : (addr - m.baseAddr) / pageSize < maxDsmPages then
        if c.link n g.homeNode then
          some (⟨g.homeNode, n, g.origPid, m.shmid, ⟨_, h⟩⟩, m.baseAddr)
        else none
      else none

def step (c : Cluster) : Event → Option Cluster
  | .faultStart n tgid addr => match translate c n tgid addr with
    | some (x, base) => if (c.host n).pte tgid base x.page = .absent then
        some { c with faults := c.faults ++ [⟨x, tgid, base, true, .requested⟩] }
      else none
    | none => none
  | .fault k s => (c.faults[k]?).bind fun t => faultStep c k t s
  | .acquireStart n tgid addr => match translate c n tgid addr with
    | some (x, base) => match c.mode, (c.host n).pte tgid base x.page with
      | 2, .readOnly _ =>
        some { c with acquires := c.acquires ++ [⟨x, tgid, base, true, .requested⟩] }
      | _, _ => none
    | none => none
  | .acquire k s => (c.acquires[k]?).bind fun a => acquireStep c k a s
  | .invalidate k => (c.invalidates[k]?).map fun v =>
    { c.setHost v.node ((c.host v.node).invalidate v.shmid v.page v.acquirer) with
      invalidates := c.invalidates.eraseIdx k }
  | .invalidateLost k => (c.invalidates[k]?).map fun _ =>
    { c with invalidates := c.invalidates.eraseIdx k }
  | .update k s => (c.updates[k]?).bind fun u => updateStep c k u s
  | .sync k s => (c.syncs[k]?).bind fun y => syncStep c k y s
  | .nativeHook h pid shmid p isWrite =>
    if (c.home h).covers pid shmid p ∧ (c.home h).nativePte pid shmid p = false then
      some (if c.mode = 2 ∧ needsSync (c.dir h) shmid p isWrite = true then
        { c with syncs := c.syncs ++ [⟨h, pid, shmid, p, isWrite, none, .queued⟩] }
      else { c with nativeFaults := c.nativeFaults ++ [⟨h, pid, shmid, p⟩] })
    else none
  | .nativeInstall k => (c.nativeFaults[k]?).bind fun t =>
    -- the fault holds on to its area until its entry is in place
    if (c.home t.home).covers t.pid t.shmid t.page then
      some { touch c t.home t.pid t.shmid t.page with nativeFaults := c.nativeFaults.eraseIdx k }
    else none
  | .nativeStore h pid shmid p i b => if (c.home h).nativePte pid shmid p then
      some (storeRam c h shmid p (Function.update ((c.home h).ram shmid p) i b))
    else none
  | .sweepCollect h => if c.mode = 2 ∧ (c.home h).toShoot = [] then
      some (c.setHome h { c.home h with toShoot := (c.home h).sharedPages.take 16 })
    else none
  | .sweepShoot h => match (c.home h).toShoot with
    | (shmid, pid, p) :: rest =>
      let hm := { c.home h with toShoot := rest }
      -- the zombie shield: a dying deputy is left alone
      let alive := ((c.home h).tasks pid).any fun t => !t.exiting
      some (c.setHome h (if alive && hm.hasArea pid shmid then hm.shootDown shmid p else hm))
    | [] => none
  | .sweepSnapshot n i =>
    if c.mode = 1 ∧ c.sweeps n = [] ∧ i < (c.guests n).count then
      some { c.act n (.clearPresent i) with
        sweeps := Function.update c.sweeps n (sweepJobs ((c.guests n).slot i)) }
    else none
  | .sweepSend n ok => match c.sweeps n with
    | job :: jobs => match job.pages with
      | (p, f) :: rest => some { c with
          sweeps := Function.update c.sweeps n ({ job with pages := rest } :: jobs)
          updates := c.updates ++ if ok && c.link n job.home then
            [⟨⟨job.home, n, job.origPid, job.shmid, p⟩, (c.host n).phys f, false⟩] else [] }
      | [] => none
    | [] => none
  | .sweepZap n => match c.sweeps n with
    | job :: jobs => match job.pages with
      | [] => some { c.setHost n { c.host n with
            pte := fun t b p =>
              if t = job.tgid ∧ b = job.base then .absent else (c.host n).pte t b p } with
          sweeps := Function.update c.sweeps n jobs }
      | _ :: _ => none
    | [] => none
  | .guestStore n tgid base p i b => match (c.host n).pte tgid base p with
    | .writable f => some (setPhys c n f (Function.update ((c.host n).phys f) i b))
    | _ => none
  | .guestExit n tgid => some (c.setHost n { c.host n with
      pte := fun t b p => if t = tgid then .absent else (c.host n).pte t b p })
  | .importGuest n localPid origPid h => some (c.act n (.addGuest localPid origPid h))
  | .populate n tgid vmas => some (c.act n (.populate tgid vmas))
  | .setMigrating n tgid b => some (c.act n (.setMigrating tgid b))
  | .shmat n tgid base size shmid => some (c.act n (.shmat tgid base size shmid))
  | .shmdt n tgid base packed => match cellAt (c.guests n) tgid base with
    | some (i, d) =>
      let g := (c.guests n).slot i
      some (sendUpdates (c.act n (.shmdt tgid base)) n g.homeNode packed
        (funeralFlush (c.host n) g n (mapping (c.guests n) i d)))
    | none => none
  | .reap n i packed => if i < (c.guests n).count then
      let g := (c.guests n).slot i
      let c' := sendUpdates (c.act n (.removeGuest i)) n g.homeNode packed
        ((liveMappings g).flatMap (funeralFlush (c.host n) g n))
      some (if !g.isMigrating && c.link n g.homeNode then
        { c' with exits := c.exits ++ [(g.homeNode, g.origPid)] } else c')
    else none
  | .killSurrogate n h origPid => (surrogateOf (c.guests n) origPid h).map fun i =>
    c.act n (.removeGuest i)
  | .exportAdd h pid n => some (c.setHome h { c.home h with
      exports := (c.home h).exports.push fun _ => ⟨pid, n⟩ })
  | .exportRemove h pid => ((c.home h).exports.find? fun e => e.origPid == pid).map fun i =>
    c.setHome h { c.home h with exports := (c.home h).exports.swapRemove i }
  | .setTask h pid t =>
    -- a dying process stays one until it is gone
    if ((c.home h).tasks pid).any (fun t => t.exiting) ∧ t.any (fun t => !t.exiting) then none
    else some (c.setHome h { c.home h with
      tasks := Function.update (c.home h).tasks pid t
      nativePte := fun q s p => (c.home h).nativePte q s p &&
        (q != pid || (t.any fun t => t.areas.any fun a => a.shmid == s)) })
  | .processExit k => (c.exits[k]?).map fun x =>
    let hm := c.home x.1
    let tasks := Function.update hm.tasks x.2 ((hm.tasks x.2).map fun t => { t with exiting := true })
    let exports := match hm.exports.find? fun e => e.origPid == x.2 with
      | some i => hm.exports.swapRemove i
      | none => hm.exports
    { c.setHome x.1 { hm with tasks := tasks, exports := exports } with
      exits := c.exits.eraseIdx k }
  | .removeSegment h shmid => some (c.setDir h (DsmDirectory.removeSegment (c.dir h) shmid))
  | .evict h shmid p => some (c.setHome h { c.home h with
      resident := Function.update (c.home h).resident shmid
        (Function.update ((c.home h).resident shmid) p false) })
  | .setLink a b up => some { c with
      link := Function.update c.link a (Function.update (c.link a) b up) }

def clusterMachine : Machine Cluster Event where
  enabled c e := (step c e).isSome = true
  next c e := (step c e).getD c

instance (c : Cluster) (e : Event) : Decidable (clusterMachine.enabled c e) :=
  inferInstanceAs (Decidable (_ = true))

theorem step_of_enabled {c : Cluster} {e : Event} (h : clusterMachine.enabled c e) :
    step c e = some (clusterMachine.next c e) := by
  obtain ⟨c', found⟩ := Option.isSome_iff_exists.mp h
  rw [found]
  change some c' = some ((step c e).getD c)
  rw [found, Option.getD_some]

end MattX.DsmSteps
