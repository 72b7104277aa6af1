import MattX.DsmDirectory
import MattX.DsmTranslation

set_option autoImplicit false

/-!
# Where the page index of a shared segment comes from

A fault, a bomb or a native access picks an offset, and every node that works
on the page divides it by the page size and looks into its arrays. The steps
below are the critical sections of the functions that do so, with the places
of the arrays each of them touches. What an access outside the arrays finds is
not known, so a section ends with the first of those.
-/
namespace MattX.DsmPageIndex
open GuestRegistry DsmDirectory DsmTranslation GuardedRuns

/-- The arrays of `struct mattx_dsm_mapping` and `struct mattx_dsm_master_dir`, which have
`MAX_DSM_PAGES` places each. -/
inductive Table where
  | pages
  | pageStates
  | presentPages
  | pageState
  | pageOwnerPid
  | pageSharedMask
  deriving DecidableEq

structure Access where
  table : Table
  index : ℕ
  deriving DecidableEq

def Access.InRange (a : Access) : Prop := a.index < maxDsmPages

instance (a : Access) : Decidable a.InRange := inferInstanceAs (Decidable (_ < _))

/-- The place of a page in arrays that have one for it. -/
def cellOf (offset : ℕ) : Option PageIdx :=
  if h : offset / pageSize < maxDsmPages then some ⟨offset / pageSize, h⟩ else none

/-- What a node still has to do about a page: a function that sleeps, a message that is on its
way to the node, or a kworker between two of its critical sections. -/
inductive Stage where
  | waiting (tgid base : ℕ) (isWrite : Bool)
  | placed (tgid base : ℕ) (isWrite : Bool)
  | injected (tgid base : ℕ)
  | acquiring (tgid base : ℕ)
  | pageFault (sender : Node)
  | fetching (sender : Node)
  | pumping (sender : Node)
  | writeAcquire
  | invalidate
  | flush
  | update
  | sync (isWrite : Bool)
  | syncing (dirIdx : Slot) (isWrite : Bool)
  | claiming (dirIdx : Slot) (isWrite : Bool)
  deriving DecidableEq

structure Work where
  node : Node
  origPid : ℕ
  shmid : ℕ
  offset : ℕ
  stage : Stage
  deriving DecidableEq

/-- `leash` has the segment, the address and the kind of the access that mode 3 steps over. -/
structure State where
  mode : Node → ℕ
  guests : Node → Registry
  leash : Node → ℕ → Option (ℕ × ℕ × Bool)
  dir : Node → GlobalDir
  tasks : Node → ℕ → Option AddressSpace
  works : List Work

/-- What the kernel and the network add to a step: whether the request in it succeeded, the page
the allocator gave, `real_vmf_insert_pfn_prot`, the node a flush can be sent to and the nodes that
are connected. -/
structure Chance where
  ok : Bool
  frame : Option Frame
  prot : Bool
  route : Option Node
  link : Node → Bool

structure Outcome where
  state : State
  accesses : List Access
  works : List Work

namespace State

def setGuests (s : State) (n : Node) (r : Registry) : State :=
  { s with guests := Function.update s.guests n r }

def setDir (s : State) (n : Node) (dir : GlobalDir) : State :=
  { s with dir := Function.update s.dir n dir }

def setLeash (s : State) (n : Node) (tgid : ℕ) (l : Option (ℕ × ℕ × Bool)) : State :=
  { s with leash := Function.update s.leash n (Function.update (s.leash n) tgid l) }

end State

/-! ### The node of the guest -/

/-- The translation at the top of both fault handlers, with the guest it is made for. -/
def translateAt (s : State) (n : Node) (tgid addr : ℕ) : Option (GuestInfo × ℕ × ℕ) :=
  (guestOf (s.guests n) tgid).bind fun i =>
    (translate ((s.guests n).slot i) addr).map fun k => ((s.guests n).slot i, k)

/-- `mattx_dsm_fault`, up to its sleep. -/
def mattxDsmFault (s : State) (n : Node) (tgid addr : ℕ) (isWrite : Bool) : Outcome :=
  match translateAt s n tgid addr with
  | some (g, shmid, offset) =>
    ⟨s, [], [⟨n, g.origPid, shmid, offset, .waiting tgid (faultAddr addr - offset) isWrite⟩,
      ⟨g.homeNode, g.origPid, shmid, offset, .pageFault n⟩]⟩
  | none => ⟨s, [], []⟩

/-- The injection. A signal ends the sleep as well, and `error` is then whatever the slot held. -/
def mattxDsmFaultPlace (s : State) (w : Work) (tgid base : ℕ) (isWrite : Bool) (c : Chance) :
    Outcome :=
  let idx := w.offset / pageSize
  if c.ok then
    match cellAt (s.guests w.node) tgid base, cellOf w.offset with
    | none, _ => ⟨s, [], []⟩
    | some _, none => ⟨s, [⟨.pages, idx⟩], []⟩
    | some (i, d), some p =>
      let kaddr := (mapping (s.guests w.node) i d).pages p
      ⟨s.setGuests w.node (backPage (s.guests w.node) tgid base p c.frame),
        ⟨.pages, idx⟩ :: (if kaddr = none then [⟨.pages, idx⟩] else []) ++ [⟨.pages, idx⟩],
        if kaddr.isSome || c.frame.isSome then [{ w with stage := .placed tgid base isWrite }]
        else []⟩
  else ⟨s, [], []⟩

/-- The page is in the page table if `ok`. Only mode 2 notes it, and mode 3 puts on its leash
whatever came of it. -/
def mattxDsmFaultInject (s : State) (w : Work) (tgid base : ℕ) (isWrite : Bool) (c : Chance) :
    Outcome :=
  let r := s.guests w.node
  let notes := s.mode w.node = 2 ∧ c.prot = true ∧ c.ok = true ∧ (cellAt r tgid base).isSome = true
  let noted := match cellOf w.offset with
    | some p => if notes then s.setGuests w.node (modifyCell r tgid base fun m =>
        m.setState p .shared) else s
    | none => s
  ⟨if s.mode w.node = 3 ∧ (guestOf r tgid).isSome = true then
      noted.setLeash w.node tgid (some (w.shmid, base + w.offset, isWrite)) else noted,
    if notes then [⟨.pageStates, w.offset / pageSize⟩] else [],
    if c.ok then [{ w with stage := .injected tgid base }] else []⟩

/-- The mark for the sweeper, the one access with a check of its own. -/
def mattxDsmFaultMark (s : State) (w : Work) (tgid base : ℕ) : Outcome :=
  match cellOf w.offset with
  | some p =>
    ⟨s.setGuests w.node (modifyCell (s.guests w.node) tgid base fun m => m.setPresent p),
      if (cellAt (s.guests w.node) tgid base).isSome then [⟨.presentPages, w.offset / pageSize⟩]
      else [], []⟩
  | none => ⟨s, [], []⟩

/-- `mattx_dsm_pfn_mkwrite`, up to its sleep. -/
def mattxDsmPfnMkwrite (s : State) (n : Node) (tgid addr : ℕ) : Outcome :=
  match translateAt s n tgid addr with
  | some (g, shmid, offset) =>
    ⟨s, [], if s.mode n = 2 then
      [⟨n, g.origPid, shmid, offset, .acquiring tgid (faultAddr addr - offset)⟩,
        ⟨g.homeNode, g.origPid, shmid, offset, .writeAcquire⟩] else []⟩
  | none => ⟨s, [], []⟩

def mattxDsmPfnMkwriteUpgrade (s : State) (w : Work) (tgid base : ℕ) (c : Chance) : Outcome :=
  if c.ok && (cellAt (s.guests w.node) tgid base).isSome then
    ⟨match cellOf w.offset with
      | some p => s.setGuests w.node (modifyCell (s.guests w.node) tgid base fun m =>
          m.setState p .exclusive)
      | none => s, [⟨.pageStates, w.offset / pageSize⟩], []⟩
  else ⟨s, [], []⟩

/-- `mattx_dsm_cleanup_cb`, with the debug exception that queues it. -/
def mattxDsmCleanupCb (s : State) (n : Node) (tgid : ℕ) : Outcome :=
  match s.leash n tgid with
  | some (shmid, addr, isWrite) =>
    let s' := s.setLeash n tgid none
    match guestOf (s.guests n) tgid with
    | some i =>
      let g := (s.guests n).slot i
      match mappingOver g addr with
      | some d =>
        let offset := addr - (g.dsmMap.slot d).baseAddr
        if isWrite then
          ⟨s', [⟨.pages, offset / pageSize⟩],
            if (cellOf offset).any fun p => ((g.dsmMap.slot d).pages p).isSome then
              [⟨g.homeNode, g.origPid, shmid, offset, .update⟩] else []⟩
        else ⟨s', [], []⟩
      | none => ⟨s', [], []⟩
    | none => ⟨s', [], []⟩
  | none => ⟨s, [], []⟩

/-- The pages of a mapping that a loop over the arrays sends as bombs. -/
def bombs (g : GuestInfo) (m : DsmMapping) (packs : PageIdx → Bool) : List Work :=
  ((List.finRange maxDsmPages).filter packs).map fun p =>
    ⟨g.homeNode, g.origPid, m.shmid, p.val * pageSize, .update⟩

/-- The mappings a guest has. -/
def live (g : GuestInfo) : List DsmMapping := (List.range g.dsmMap.count).map g.dsmMap.slot

/-- The mode 1 sweeper, for one guest. -/
def mattxDsmSweeper (s : State) (n : Node) (i : ℕ) : Outcome :=
  let g := (s.guests n).slot i
  let present (m : DsmMapping) (p : PageIdx) : Bool :=
    m.presentPages p && decide (p.val * pageSize < m.size)
  if s.mode n = 1 ∧ i < (s.guests n).count then
    ⟨s.setGuests n (clearPresent (s.guests n) i),
      (live g).flatMap fun m => ((List.finRange maxDsmPages).filter (present m)).map fun p =>
        ⟨.pages, p.val⟩,
      (live g).flatMap fun m => bombs g m fun p => present m p && (m.pages p).isSome⟩
  else ⟨s, [], []⟩

/-- The funeral flush of one mapping, if there is memory for it. -/
def funeralAccesses (m : DsmMapping) (packed : Bool) : List Access :=
  (List.finRange maxDsmPages).flatMap fun p =>
    ⟨.pageStates, p.val⟩ ::
      if packed && m.pageStates p == .exclusive then [⟨.pages, p.val⟩] else []

/-- `remove_guest_process` of a dead surrogate. -/
def reap (s : State) (n : Node) (i : ℕ) (packed : Bool) : Outcome :=
  let g := (s.guests n).slot i
  if s.mode n = 2 ∧ i < (s.guests n).count then
    ⟨s.setGuests n (removeGuest (s.guests n) i),
      (live g).flatMap fun m => funeralAccesses m packed,
      (live g).flatMap fun m => bombs g m fun p => packed && m.pageStates p == .exclusive⟩
  else ⟨s.setGuests n (removeGuest (s.guests n) i), [], []⟩

/-- The awakening of `shmdt`. -/
def awakenShmdt (s : State) (n : Node) (tgid base : ℕ) (packed : Bool) : Outcome :=
  match cellAt (s.guests n) tgid base with
  | some (i, d) =>
    let m := mapping (s.guests n) i d
    let s' := s.setGuests n (GuestRegistry.shmdt (s.guests n) tgid base)
    if s.mode n = 2 then
      ⟨s', funeralAccesses m packed,
        bombs ((s.guests n).slot i) m fun p => packed && m.pageStates p == .exclusive⟩
    else ⟨s', [], []⟩
  | none => ⟨s, [], []⟩

def mattxDsmInvalidateKworker (s : State) (w : Work) : Outcome :=
  let r := s.guests w.node
  ⟨match cellOf w.offset with
    | some p => s.setGuests w.node (invalidate r w.shmid p w.origPid)
    | none => s,
    (List.range r.count).flatMap fun i =>
      if (r.slot i).origPid = w.origPid then []
      else (live (r.slot i)).flatMap fun m =>
        if m.shmid = w.shmid then [⟨.pageStates, w.offset / pageSize⟩] else [],
    []⟩

def mattxDsmFlushKworker (s : State) (w : Work) : Outcome :=
  let r := s.guests w.node
  let idx := w.offset / pageSize
  match flushTarget r w.origPid w.shmid, cellOf w.offset with
  | none, _ => ⟨s, [], []⟩
  | some _, none => ⟨s, [⟨.pages, idx⟩], []⟩
  | some (i, d), some p =>
    let m := mapping r i d
    ⟨s.setGuests w.node (flush r w.origPid w.shmid p),
      ⟨.pages, idx⟩ ::
        if (m.pages p).isSome then
          ⟨.pageStates, idx⟩ :: if m.pageStates p = .exclusive then [⟨.pageStates, idx⟩] else []
        else [], []⟩

/-! ### The home node -/

/-- The lookup of a page's exclusive owner. -/
def ownerReads (dir : GlobalDir) (d : Slot) (p : PageIdx) (offset : ℕ) : List Access :=
  ⟨.pageState, offset / pageSize⟩ ::
    if (dir d).pageState p = .exclusive then [⟨.pageOwnerPid, offset / pageSize⟩] else []

/-- The three writes every change of owner makes. -/
def ownerWrites (offset : ℕ) : List Access :=
  [⟨.pageState, offset / pageSize⟩, ⟨.pageOwnerPid, offset / pageSize⟩,
    ⟨.pageSharedMask, offset / pageSize⟩]

def invalidates (w : Work) (acquirer : ℕ) (mask : NodeMask) (c : Chance) : List Work :=
  ((List.finRange (64 * (maxNodes / 64))).filter fun n => mask.test n && c.link n).map fun n =>
    { w with node := n, origPid := acquirer, stage := .invalidate }

/-- `mattx_dsm_fault_kworker`, up to the request for a flush. -/
def mattxDsmFaultKworker (s : State) (w : Work) (sender : Node) (c : Chance) : Outcome :=
  let dir := s.dir w.node
  let pump := { w with stage := .pumping sender }
  match (s.tasks w.node w.origPid).bind (hunt · w.shmid w.offset) with
  | none => ⟨s, [], []⟩
  | some _ =>
    if s.mode w.node = 2 then
      match findEntry dir w.shmid, cellOf w.offset with
      | none, _ => ⟨s, [], [pump]⟩
      | some _, none => ⟨s, [⟨.pageState, w.offset / pageSize⟩], []⟩
      | some d, some p =>
        let owner := exclusiveOwner dir w.shmid p
        ⟨s, ownerReads dir d p w.offset,
          match c.route with
          | some o => if owner ≠ 0 ∧ owner ≠ w.origPid then
              [{ w with stage := .fetching sender },
                { w with node := o, origPid := owner, stage := .flush }]
            else [pump]
          | none => [pump]⟩
    else ⟨s, [], [pump]⟩

/-- The flush has answered or failed. -/
def mattxDsmFaultKworkerDowngrade (s : State) (w : Work) (sender : Node) : Outcome :=
  ⟨match cellOf w.offset with
    | some p => s.setDir w.node (flushDowngrade (s.dir w.node) w.shmid p)
    | none => s,
    if (findEntry (s.dir w.node) w.shmid).isSome then ownerWrites w.offset else [],
    [{ w with stage := .pumping sender }]⟩

/-- The pump and what the directory learns of it. -/
def mattxDsmFaultKworkerPump (s : State) (w : Work) (sender : Node) (c : Chance) : Outcome :=
  let dir := s.dir w.node
  let idx := w.offset / pageSize
  if c.ok ∧ s.mode w.node = 2 then
    match (findEntry dir w.shmid).or (freeSlot dir), cellOf w.offset with
    | none, _ => ⟨s, [], []⟩
    | some _, none => ⟨s, [⟨.pageState, idx⟩], []⟩
    | some d, some p =>
      -- a slot taken for the segment has nothing but INVALID pages
      let invalid := findEntry dir w.shmid = none ∨ (dir d).pageState p = .invalid
      ⟨s.setDir w.node (recordReader dir w.shmid w.origPid p sender),
        ⟨.pageState, idx⟩ :: (if invalid then [⟨.pageState, idx⟩] else []) ++
          [⟨.pageSharedMask, idx⟩], []⟩
  else ⟨s, [], []⟩

def mattxDsmUpdateKworker (s : State) (w : Work) : Outcome :=
  let dir := s.dir w.node
  match (s.tasks w.node w.origPid).bind (hunt · w.shmid w.offset) with
  | none => ⟨s, [], []⟩
  | some _ =>
    if s.mode w.node = 2 then
      match findEntry dir w.shmid, cellOf w.offset with
      | none, _ => ⟨s, [], []⟩
      | some _, none => ⟨s, [⟨.pageState, w.offset / pageSize⟩], []⟩
      | some d, some p =>
        let owned := (dir d).pageState p = .exclusive ∧ (dir d).pageOwnerPid p = w.origPid
        ⟨s.setDir w.node (bombCleanup dir w.shmid p w.origPid),
          ownerReads dir d p w.offset ++ if owned then ownerWrites w.offset else [], []⟩
    else ⟨s, [], []⟩

def mattxDsmWriteAcquireKworker (s : State) (w : Work) (c : Chance) : Outcome :=
  let dir := s.dir w.node
  match findEntry dir w.shmid, cellOf w.offset with
  | none, _ => ⟨s, [], []⟩
  | some _, none => ⟨s, [⟨.pageSharedMask, w.offset / pageSize⟩], []⟩
  | some d, some p =>
    ⟨s.setDir w.node (writeAcquire dir w.shmid p w.origPid).1,
      ⟨.pageSharedMask, w.offset / pageSize⟩ :: ownerWrites w.offset,
      invalidates w w.origPid ((dir d).pageSharedMask p) c⟩

/-- `entry_handler_shmem_fault`, for a process of the node that faults on a segment. -/
def entryHandlerShmemFault (s : State) (h : Node) (pid addr : ℕ) (isWrite : Bool) : Outcome :=
  let dir := s.dir h
  match (s.tasks h pid).bind (·.areaAt addr) with
  | none => ⟨s, [], []⟩
  | some vma =>
    let offset := faultAddr addr - vma.vmStart
    let idx := offset / pageSize
    if s.mode h = 2 then
      match findEntry dir vma.shmid, cellOf offset with
      | none, _ => ⟨s, [], []⟩
      | some _, none => ⟨s, [⟨.pageState, idx⟩], []⟩
      | some d, some p =>
        let shared := isWrite = true ∧ (dir d).pageState p = .shared
        ⟨s, ⟨.pageState, idx⟩ :: ⟨.pageOwnerPid, idx⟩ ::
            if shared then [⟨.pageSharedMask, idx⟩] else [],
          if needsSync dir vma.shmid p isWrite then [⟨h, pid, vma.shmid, offset, .sync isWrite⟩]
          else []⟩
    else ⟨s, [], []⟩

/-- `mattx_vm1_shm_sync_kworker`, up to the request for a flush. -/
def mattxVm1ShmSyncKworker (s : State) (w : Work) (isWrite : Bool) (c : Chance) : Outcome :=
  let dir := s.dir w.node
  match findEntry dir w.shmid, cellOf w.offset with
  | none, _ => ⟨s, [], []⟩
  | some _, none => ⟨s, [⟨.pageState, w.offset / pageSize⟩], []⟩
  | some d, some p =>
    let owner := exclusiveOwner dir w.shmid p
    ⟨s, ownerReads dir d p w.offset,
      match c.route with
      | some o => if owner ≠ 0 then
          [{ w with stage := .syncing d isWrite },
            { w with node := o, origPid := owner, stage := .flush }]
        else [{ w with stage := .claiming d isWrite }]
      | none => [{ w with stage := .claiming d isWrite }]⟩

def mattxVm1ShmSyncKworkerDowngrade (s : State) (w : Work) (dirIdx : Slot) (isWrite : Bool) :
    Outcome :=
  ⟨match cellOf w.offset with
    | some p => s.setDir w.node (nativeDowngrade (s.dir w.node) dirIdx p)
    | none => s,
    ownerWrites w.offset, [{ w with stage := .claiming dirIdx isWrite }]⟩

/-- The invalidates of a native write name no acquirer. -/
def mattxVm1ShmSyncKworkerClaim (s : State) (w : Work) (dirIdx : Slot) (isWrite : Bool)
    (c : Chance) : Outcome :=
  if isWrite then
    match cellOf w.offset with
    | none => ⟨s, [⟨.pageSharedMask, w.offset / pageSize⟩], []⟩
    | some p =>
      ⟨s.setDir w.node (nativeClaim (s.dir w.node) dirIdx p),
        ⟨.pageSharedMask, w.offset / pageSize⟩ :: ownerWrites w.offset,
        invalidates w 0 ((s.dir w.node dirIdx).pageSharedMask p) c⟩
  else ⟨s, [], []⟩

/-! ### Runs -/

def serve (s : State) (w : Work) (c : Chance) : Outcome :=
  match w.stage with
  | .waiting tgid base isWrite => mattxDsmFaultPlace s w tgid base isWrite c
  | .placed tgid base isWrite => mattxDsmFaultInject s w tgid base isWrite c
  | .injected tgid base => mattxDsmFaultMark s w tgid base
  | .acquiring tgid base => mattxDsmPfnMkwriteUpgrade s w tgid base c
  | .pageFault sender => mattxDsmFaultKworker s w sender c
  | .fetching sender => mattxDsmFaultKworkerDowngrade s w sender
  | .pumping sender => mattxDsmFaultKworkerPump s w sender c
  | .writeAcquire => mattxDsmWriteAcquireKworker s w c
  | .invalidate => mattxDsmInvalidateKworker s w
  | .flush => mattxDsmFlushKworker s w
  | .update => mattxDsmUpdateKworker s w
  | .sync isWrite => mattxVm1ShmSyncKworker s w isWrite c
  | .syncing dirIdx isWrite => mattxVm1ShmSyncKworkerDowngrade s w dirIdx isWrite
  | .claiming dirIdx isWrite => mattxVm1ShmSyncKworkerClaim s w dirIdx isWrite c

/-- The areas of segments in `handleMigrateDone` are those of the blueprint, and the one of `shmat`
is what the deputy got, whose length the reply carries. -/
inductive Event where
  | setMode (n : Node) (mode : ℕ)
  | addGuest (n : Node) (localPid origPid : ℕ) (homeNode : Node)
  | handleMigrateDone (n : Node) (tgid : ℕ) (vmas : AddressSpace)
  | shmat (n : Node) (tgid hollowAddr : ℕ) (vma : Area)
  | shmdt (n : Node) (tgid base : ℕ) (packed : Bool)
  | reap (n : Node) (i : ℕ) (packed : Bool)
  | setTask (h : Node) (pid : ℕ) (m : AddressSpace)
  | exit (h : Node) (pid : ℕ)
  | removeSegment (h : Node) (shmid : ℕ)
  | fault (n : Node) (tgid addr : ℕ) (isWrite : Bool)
  | pfnMkwrite (n : Node) (tgid addr : ℕ)
  | trap (n : Node) (tgid : ℕ)
  | sweep (n : Node) (i : ℕ)
  | nativeFault (h : Node) (pid addr : ℕ) (isWrite : Bool)
  | serve (k : ℕ) (c : Chance)
  | lose (k : ℕ)

/-- The areas of shared segments that an event brings in. -/
def Event.areas : Event → List Area
  | .handleMigrateDone _ _ vmas => vmas.areas
  | .shmat _ _ _ vma => [vma]
  | .setTask _ _ m => m.areas
  | _ => []

def step (s : State) : Event → Outcome
  | .setMode n mode => ⟨{ s with mode := Function.update s.mode n mode }, [], []⟩
  | .addGuest n localPid origPid homeNode =>
    ⟨s.setGuests n (GuestRegistry.addGuest (s.guests n) localPid origPid homeNode), [], []⟩
  | .handleMigrateDone n tgid vmas =>
    ⟨s.setGuests n (populate (s.guests n) tgid (vmas.areas.map fun a =>
      (a.vmStart, a.length, a.shmid))), [], []⟩
  | .shmat n tgid hollowAddr vma =>
    ⟨s.setGuests n (GuestRegistry.shmat (s.guests n) tgid hollowAddr vma.length vma.shmid), [], []⟩
  | .shmdt n tgid base packed => awakenShmdt s n tgid base packed
  | .reap n i packed => reap s n i packed
  | .setTask h pid m =>
    ⟨{ s with tasks := Function.update s.tasks h (Function.update (s.tasks h) pid (some m)) },
      [], []⟩
  | .exit h pid =>
    ⟨{ s with tasks := Function.update s.tasks h (Function.update (s.tasks h) pid none) }, [], []⟩
  | .removeSegment h shmid => ⟨s.setDir h (DsmDirectory.removeSegment (s.dir h) shmid), [], []⟩
  | .fault n tgid addr isWrite => mattxDsmFault s n tgid addr isWrite
  | .pfnMkwrite n tgid addr => mattxDsmPfnMkwrite s n tgid addr
  | .trap n tgid => mattxDsmCleanupCb s n tgid
  | .sweep n i => mattxDsmSweeper s n i
  | .nativeFault h pid addr isWrite => entryHandlerShmemFault s h pid addr isWrite
  | .serve k c => match s.works[k]? with
    | some w => serve { s with works := s.works.eraseIdx k } w c
    | none => ⟨s, [], []⟩
  | .lose k => ⟨{ s with works := s.works.eraseIdx k }, [], []⟩

def next (s : State) (e : Event) : State :=
  { (step s e).state with works := (step s e).state.works ++ (step s e).works }

/-- Events that find nothing to do change nothing. -/
def machine : Machine State Event := ⟨fun _ _ => True, next⟩

instance (s : State) (e : Event) : Decidable (machine.enabled s e) := isTrue trivial

/-- The nodes after loading. -/
def boot : State :=
  ⟨fun _ => 1, fun _ => zeroRegistry, fun _ _ => none, fun _ => zeroDir, fun _ _ => none, []⟩

/-- No area the event brings in has more than `n` pages. -/
def Within (n : ℕ) (e : Event) : Prop := ∀ a ∈ e.areas, a.length ≤ n * pageSize

instance (n : ℕ) (e : Event) : Decidable (Within n e) :=
  inferInstanceAs (Decidable (∀ a ∈ e.areas, a.length ≤ n * pageSize))

/-- Every array is looked at where it has a place. -/
def InRange (s : State) (e : Event) : Prop := ∀ a ∈ (step s e).accesses, a.InRange

instance (s : State) (e : Event) : Decidable (InRange s e) :=
  inferInstanceAs (Decidable (∀ a ∈ (step s e).accesses, a.InRange))

end MattX.DsmPageIndex
