import MattX.InterceptionHandlers
import MattX.RequestHandlers
import MattX.VfsFilePosition

set_option autoImplicit false

/-!
# Writes on a wormhole descriptor

A write sends its bytes home and is over: no reply answers the request. A
proxy file writes through its file operations, a pipe, a socket or a closed
descriptor through the write hook.
-/
namespace MattX.WormholeWrites
open WormholeCalls (ebadf enomem efault eintr)
open RequestHandlers (Home asInt asU32)
open VfsFilePosition (OpenFile overwrite writePos)
open InterceptionHandlers (Thread World Args Data Rpc entryHandlerRead retHandlerRead)

/-- `struct mattx_syscall_req` -/
structure SyscallReq where
  origPid : ℕ
  fd : ℕ
  len : ℕ
  data : Bytes
  deriving DecidableEq

/-! ### The node of the surrogate -/

/-- `struct mattx_fake_fd_info` of a proxy file. -/
structure FakeFdInfo where
  origPid : ℕ
  homeNode : ℕ
  remoteFd : ℤ

/-- `buffer`: what can be read from the user pointer on. `alloc`: `kmalloc` gives the packet.
`clusterMap`: which nodes have a link. -/
structure Node where
  buffer : Bytes
  alloc : Bool
  clusterMap : ℕ → Bool

def toSend (count : ℕ) : ℕ := min count 4096

def Node.readable (n : Node) (count : ℕ) : Bool := decide (toSend count ≤ n.buffer.length)

def request (n : Node) (pid : ℕ) (fd : ℤ) (count : ℕ) : SyscallReq :=
  ⟨pid, asU32 fd, toSend count, n.buffer.take (toSend count)⟩

/-- What is returned, and what is handed to the link, whose result is ignored. -/
def mattxFakeWrite (n : Node) (info : Option FakeFdInfo) (count : ℕ) : ℤ × Option SyscallReq :=
  match info with
  | none => (count, none)
  | some i =>
    if n.clusterMap i.homeNode = false then (count, none)
    else if n.alloc = false then (enomem, none)
    else if n.readable count = false then (efault, none)
    else (toSend count, some (request n i.origPid i.remoteFd count))

/-- The write branch of `mattx_rpc_worker`; `task`: the thread is found. -/
def writeWorker (n : Node) (rpc : Rpc) (task : Bool) : Option SyscallReq :=
  if n.alloc && task && n.readable rpc.args.dx.toNat && n.clusterMap rpc.homeNode then
    some (request n rpc.origPid rpc.remoteFd rpc.args.dx.toNat)
  else none

/-- How the worker's wait ends: the guest is gone, it returns home, its thread never stops, or the
result is delivered; `recorded`: the registry still has the guest then. -/
inductive Wake where
  | gone
  | migrating
  | neverStops
  | delivered (recorded : Bool)
  deriving DecidableEq

/-- The register of the thread, in which the spoiled call has left its error; the worker's result is
`to_send` in any case. -/
def writeAwakening (count : ℕ) : Wake → Option ℤ
  | .gone => none
  | .migrating => some eintr
  | .neverStops => some ebadf
  | .delivered recorded => some (if recorded then toSend count else -1)

/-! ### The home node -/

/-- What a file does with a write: it takes so many bytes at most, or fails. -/
inductive Io where
  | upTo (n : ℕ)
  | fails (error : ℤ) (negative : error < 0)

/-- `kernel_write` at the position of the file. -/
def kernelWrite (f : OpenFile) (data : Bytes) (io : Io) : ℤ × OpenFile :=
  match io with
  | .fails error _ => (error, f)
  | .upTo n =>
    if data.take n = [] then (0, f)
    else ((data.take n).length,
      { f with
        content := overwrite f.content (writePos f f.pos) (data.take n)
        pos := writePos f f.pos + (data.take n).length })

/-- The file of a number in the request: the export registry's from 1000 on, else the deputy's. -/
def hasFile (h : Home) (req : SyscallReq) : Bool :=
  if 1000 ≤ req.fd then
    (h.exportOf req.origPid).any fun x => Home.exportedFile x (asInt (req.fd - 1000))
  else h.nativeFile req.origPid req.fd

/-- What `kernel_write` returns, where it is called; an error is only printed. `file`: the file of
the number. -/
def handleSyscallFwd (h : Home) (req : SyscallReq) (file : OpenFile) (io : Io) :
    Option (ℤ × OpenFile) :=
  if hasFile h req then some (kernelWrite file (req.data.take req.len) io) else none

/-! ### A write from end to end -/

/-- The two ways of a write: the file operation of a proxy file, and the hook's two handlers with
the worker. -/
inductive Way where
  | fops (info : Option FakeFdInfo) (count : ℕ)
  | hook (t : Thread) (entry ret : World) (args : Args) (old : Data) (task : Bool) (wake : Wake)

/-- `arrives`: what is handed to the link gets to the home node. -/
structure Outcome where
  node : Node
  arrives : Bool
  home : Home
  file : OpenFile
  io : Io

/-- What the return handler makes of a write that the entry handler has spoiled. -/
def scheduled (t : Thread) (entry ret : World) (args : Args) (old : Data) : Option Rpc :=
  match retHandlerRead .write t ret (entryHandlerRead t entry args old).data with
  | .scheduled rpc => some rpc
  | _ => none

/-- What the surrogate is told, and the request that is sent. A spoiled write without a work has
the error of the local call; one that is not spoiled is not on a wormhole descriptor. -/
def write (o : Outcome) : Way → Option ℤ × Option SyscallReq
  | .fops info count =>
    let r := mattxFakeWrite o.node info count
    (some r.1, r.2)
  | .hook t entry ret args old task wake =>
    if (entryHandlerRead t entry args old).sabotaged then
      match scheduled t entry ret args old with
      | none => (some ebadf, none)
      | some rpc => (writeAwakening rpc.args.dx.toNat wake, writeWorker o.node rpc task)
    else (none, none)

def returned (o : Outcome) (w : Way) : Option ℤ := (write o w).1

/-- The result of `kernel_write` at home. -/
def served (o : Outcome) (w : Way) : Option ℤ :=
  match (write o w).2 with
  | none => none
  | some req =>
    if o.arrives then (handleSyscallFwd o.home req o.file o.io).map Prod.fst else none

/-- The bytes that the home file accepted. -/
def accepted (o : Outcome) (w : Way) : ℕ := ((served o w).getD 0).toNat

/-- The home file accepted none because of an error: `kernel_write` failed or was not reached. -/
def Failed (o : Outcome) (w : Way) : Prop := ∀ r, served o w = some r → r < 0

/-- A count that is returned is at most what was accepted, and negative after an error. -/
structure Truthful (o : Outcome) (w : Way) : Prop where
  bounded : ∀ r, returned o w = some r → r ≤ accepted o w
  error : Failed o w → ∀ r, returned o w = some r → r < 0

/-! ### When the count is true -/

/-- All of the request gets into the home file. -/
structure Stored (o : Outcome) (req : SyscallReq) : Prop where
  arrives : o.arrives = true
  file : hasFile o.home req = true
  takes : ∃ n, o.io = .upTo n ∧ req.len ≤ n

/-- A proxy file with a link stores what it sends, if it sends; a hooked write sends and stores the
bytes if its result is delivered. -/
def Honest (o : Outcome) : Way → Prop
  | .fops none _ => False
  | .fops (some i) count =>
    o.node.clusterMap i.homeNode = true ∧
      (o.node.alloc = true → o.node.readable count = true →
        Stored o (request o.node i.origPid i.remoteFd count))
  | .hook t entry ret args old task wake =>
    (entryHandlerRead t entry args old).sabotaged = true → wake = .delivered true →
      ∀ rpc, scheduled t entry ret args old = some rpc →
        (o.node.alloc = true ∧ task = true ∧ o.node.readable rpc.args.dx.toNat = true ∧
            o.node.clusterMap rpc.homeNode = true) ∧
          Stored o (request o.node rpc.origPid rpc.remoteFd rpc.args.dx.toNat)

theorem truthful_negative {o : Outcome} {w : Way} {r : ℤ} (told : returned o w = some r)
    (negative : r < 0) : Truthful o w := by
  constructor
  · intro s same
    rw [told] at same
    cases same
    omega
  · intro _ s same
    rw [told] at same
    cases same
    exact negative

theorem truthful_silent {o : Outcome} {w : Way} (told : returned o w = none) : Truthful o w := by
  constructor
  · intro s same
    rw [told] at same
    cases same
  · intro _ s same
    rw [told] at same
    cases same

/-- Nothing is sent. -/
theorem not_truthful_unsent {o : Outcome} {w : Way} {n : ℕ} (told : returned o w = some (n : ℤ))
    (unsent : (write o w).2 = none) : ¬ Truthful o w := by
  intro truthful
  have failed : Failed o w := by
    intro r same
    simp only [served, unsent] at same
    cases same
  have negative := truthful.error failed n told
  omega

theorem kernelWrite_upTo (f : OpenFile) (data : Bytes) (n : ℕ) :
    (kernelWrite f data (.upTo n)).1 = (min n data.length : ℕ) := by
  by_cases none : data.take n = []
  · have empty : min n data.length = 0 := by
      rw [← List.length_take, none]
      rfl
    simp only [kernelWrite, none, if_true, empty]
    rfl
  · simp only [kernelWrite, none, if_false, List.length_take]

theorem request_length {n : Node} {count : ℕ} (readable : n.readable count = true) (pid : ℕ)
    (fd : ℤ) : ((request n pid fd count).data.take (request n pid fd count).len).length =
      toSend count := by
  have fits : toSend count ≤ n.buffer.length := of_decide_eq_true readable
  simp only [request, List.length_take]
  omega

/-- A request of so many bytes, and the surrogate is told so. -/
theorem truthful_sent_iff {o : Outcome} {w : Way} {req : SyscallReq}
    (told : returned o w = some (req.len : ℤ)) (sent : (write o w).2 = some req)
    (full : (req.data.take req.len).length = req.len) : Truthful o w ↔ Stored o req := by
  constructor
  · intro truthful
    have served' : ∃ r, served o w = some r ∧ 0 ≤ r := by
      by_contra none
      have failed : Failed o w := by
        intro r same
        by_contra positive
        exact none ⟨r, same, by omega⟩
      have negative := truthful.error failed _ told
      omega
    obtain ⟨r, same, positive⟩ := served'
    have bound := truthful.bounded _ told
    simp only [accepted, same, Option.getD_some] at bound
    simp only [served, sent] at same
    by_cases arrives : o.arrives = true
    · rw [if_pos arrives] at same
      by_cases file : hasFile o.home req = true
      · rw [handleSyscallFwd, if_pos file] at same
        simp only [Option.map_some, Option.some.injEq] at same
        refine ⟨arrives, file, ?_⟩
        cases io : o.io with
        | fails error negative =>
          rw [io] at same
          simp only [kernelWrite] at same
          omega
        | upTo n =>
          rw [io, kernelWrite_upTo, full] at same
          exact ⟨n, rfl, by omega⟩
      · rw [handleSyscallFwd, if_neg file] at same
        cases same
    · rw [if_neg arrives] at same
      cases same
  · intro stored
    obtain ⟨n, io, fits⟩ := stored.takes
    have same : served o w = some (req.len : ℤ) := by
      simp only [served, sent, stored.arrives, if_true, handleSyscallFwd, stored.file,
        Option.map_some, io, kernelWrite_upTo, full, Nat.min_eq_right fits]
    constructor
    · intro r other
      rw [told] at other
      cases other
      simp only [accepted, same, Option.getD_some]
      omega
    · intro failed r other
      have negative := failed _ same
      omega

theorem fops_truthful_iff (o : Outcome) (info : Option FakeFdInfo) (count : ℕ) :
    Truthful o (.fops info count) ↔ Honest o (.fops info count) := by
  cases info with
  | none =>
    have no : ¬ Truthful o (.fops none count) := not_truthful_unsent (n := count) rfl rfl
    simpa only [Honest, iff_false] using no
  | some i =>
    by_cases linked : o.node.clusterMap i.homeNode = true
    · by_cases alloc : o.node.alloc = true
      · by_cases readable : o.node.readable count = true
        · have sent : mattxFakeWrite o.node (some i) count =
              ((toSend count : ℤ), some (request o.node i.origPid i.remoteFd count)) := by
            simp [mattxFakeWrite, linked, alloc, readable]
          have told : returned o (.fops (some i) count) = some (toSend count : ℤ) := by
            simp only [returned, write, sent]
          have forwarded : (write o (.fops (some i) count)).2 =
              some (request o.node i.origPid i.remoteFd count) := by simp only [write, sent]
          have iff := truthful_sent_iff told forwarded (request_length readable _ _)
          simpa only [Honest, linked, alloc, readable, true_and, true_imp_iff] using iff
        · have told : returned o (.fops (some i) count) = some efault := by
            simp [returned, write, mattxFakeWrite, linked, alloc, readable]
          have truthful := truthful_negative told (by decide)
          simpa [Honest, linked, readable] using truthful
      · have told : returned o (.fops (some i) count) = some enomem := by
          simp [returned, write, mattxFakeWrite, linked, alloc]
        have truthful := truthful_negative told (by decide)
        simpa [Honest, linked, alloc] using truthful
    · have told : returned o (.fops (some i) count) = some (count : ℤ) := by
        simp [returned, write, mattxFakeWrite, linked]
      have unsent : (write o (.fops (some i) count)).2 = none := by
        simp [write, mattxFakeWrite, linked]
      have no := not_truthful_unsent told unsent
      simpa only [Honest, linked, false_and, iff_false, Bool.false_eq_true] using no

theorem writeWorker_eq (n : Node) (rpc : Rpc) (task : Bool) :
    writeWorker n rpc task =
      if n.alloc = true ∧ task = true ∧ n.readable rpc.args.dx.toNat = true ∧
          n.clusterMap rpc.homeNode = true then
        some (request n rpc.origPid rpc.remoteFd rpc.args.dx.toNat)
      else none := by
  simp only [writeWorker, Bool.and_eq_true, and_assoc]

theorem delivered_truthful_iff {o : Outcome} {w : Way} {rpc : Rpc} {task : Bool}
    (told : returned o w = some (toSend rpc.args.dx.toNat : ℤ))
    (sent : (write o w).2 = writeWorker o.node rpc task) :
    Truthful o w ↔
      (o.node.alloc = true ∧ task = true ∧ o.node.readable rpc.args.dx.toNat = true ∧
          o.node.clusterMap rpc.homeNode = true) ∧
        Stored o (request o.node rpc.origPid rpc.remoteFd rpc.args.dx.toNat) := by
  rw [writeWorker_eq] at sent
  by_cases all : o.node.alloc = true ∧ task = true ∧
      o.node.readable rpc.args.dx.toNat = true ∧ o.node.clusterMap rpc.homeNode = true
  · rw [if_pos all] at sent
    rw [and_iff_right all]
    exact truthful_sent_iff told sent (request_length all.2.2.1 _ _)
  · rw [if_neg all] at sent
    have no := not_truthful_unsent told sent
    simp only [no, all, false_and]

theorem hook_truthful_iff (o : Outcome) (t : Thread) (entry ret : World) (args : Args) (old : Data)
    (task : Bool) (wake : Wake) :
    Truthful o (.hook t entry ret args old task wake) ↔
      Honest o (.hook t entry ret args old task wake) := by
  by_cases spoiled : (entryHandlerRead t entry args old).sabotaged = true
  · cases work : scheduled t entry ret args old with
    | none =>
      have told : returned o (.hook t entry ret args old task wake) = some ebadf := by
        simp only [returned, write, spoiled, if_true, work]
      have truthful := truthful_negative told (by decide)
      simp only [truthful, Honest, work, reduceCtorEq, false_imp_iff, implies_true]
    | some rpc =>
      have told : returned o (.hook t entry ret args old task wake) =
          writeAwakening rpc.args.dx.toNat wake := by
        simp only [returned, write, spoiled, if_true, work]
      cases wake with
      | gone =>
        have truthful := truthful_silent told
        simp only [truthful, Honest, reduceCtorEq, false_imp_iff, implies_true]
      | migrating =>
        have truthful := truthful_negative told (by decide)
        simp only [truthful, Honest, reduceCtorEq, false_imp_iff, implies_true]
      | neverStops =>
        have truthful := truthful_negative told (by decide)
        simp only [truthful, Honest, reduceCtorEq, false_imp_iff, implies_true]
      | delivered recorded =>
        cases recorded with
        | false =>
          have truthful := truthful_negative (r := -1) told (by decide)
          simp [truthful, Honest]
        | true =>
          have sent : (write o (.hook t entry ret args old task (.delivered true))).2 =
              writeWorker o.node rpc task := by
            simp only [write, spoiled, if_true, work]
          have iff := delivered_truthful_iff told sent
          simp only [iff, Honest, spoiled, work, Option.some.injEq, forall_eq', true_imp_iff]
  · have told : returned o (.hook t entry ret args old task wake) = none := by
      simp [returned, write, spoiled]
    have truthful := truthful_silent told
    simp only [truthful, Honest, spoiled, false_imp_iff, Bool.false_eq_true]

/-- Both ways of a write tell the surrogate the truth exactly where the whole request is stored at
home, or an error is returned before anything is sent or the result is not delivered. -/
theorem write_truthful_iff (o : Outcome) (w : Way) : Truthful o w ↔ Honest o w := by
  cases w with
  | fops info count => exact fops_truthful_iff o info count
  | hook t entry ret args old task wake => exact hook_truthful_iff o t entry ret args old task wake

/-- A write of three bytes through a proxy file whose number the deputy has closed. -/
theorem closed_file_takes_three :
    ¬ Truthful
      ⟨⟨[1, 2, 3], true, fun _ => true⟩, true,
        ⟨fun _ => some ⟨true, some ⟨64, fun fd => decide (fd < 3)⟩, true, true⟩, [],
          fun _ => false⟩,
        ⟨[], 0, false⟩, .upTo 3⟩
      (.fops (some ⟨100, 1, 4⟩) 3) := by
  intro truthful
  have bound := truthful.bounded 3 (by decide)
  revert bound
  decide

end MattX.WormholeWrites
